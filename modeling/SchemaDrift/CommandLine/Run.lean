import SchemaDrift.CommandLine.Report
import SchemaDrift.CommandLine.Request
import SchemaDrift.Comparison
import SchemaDrift.Config.Reader

namespace SchemaDrift

/-- The texts that are not the program's own: what the reader of configurations has against a document, and what the
reader of command lines says to help and to refuse arguments. -/
structure Wording where
  malformed : Text → Text
  help : Text
  refused : List Text → Text

/-- The fewest words that do. -/
def Wording.brief : Wording :=
  let usage : Text := "Usage: mysql_diff [OPTIONS] <OLD> <NEW>\n"
  { malformed := fun _ => [], help := usage, refused := fun _ => usage }

/-- What a run leaves behind: its exit code, what it wrote to its two outputs, and the files. -/
structure Outcome where
  code : Nat
  output : Text := []
  errors : Text := []
  files : FileTree
  deriving DecidableEq, Repr

/-- The log level that so many wishes for more detail come to, if there are any. -/
def verboseLevel? : Nat → Option Text
  | 0 => none
  | 1 => some "info"
  | 2 => some "debug"
  | _ => some "trace"

namespace Request

/-- The configuration with what the command line has to say against it. -/
def override (r : Request) (c : Config) : Config :=
  { c with
    dump := { program := r.program.getD c.dump.program, raw := r.raw || c.dump.raw }
    log := { c.log with level := (verboseLevel? r.verbosity).getD c.log.level } }

/-- The configuration a request names, or the usual one. -/
def configuration (r : Request) (w : Wording) (files : FileTree) : Except ConfigFault Config :=
  match r.config with
  | none => .ok {}
  | some path => Config.load w.malformed files path

end Request

namespace LogSettings

/-- The format of a log in a file, which has no styles. -/
def fileFormat (s : LogSettings) : LogFormat := .ofText s.format

/-- The format of a log on the console. -/
def consoleFormat (s : LogSettings) (colours : Bool) : LogFormat :=
  if s.fileFormat = .text ∧ colours then .styled else s.fileFormat

/-- The host once the log has been opened. -/
def opened (s : LogSettings) (h : Host) : Except HostFault Host :=
  match s.file with
  | none => .ok h
  | some path => do
    let (channel, files) ← h.files.create path
    return { h with files, journal := some { channel, format := s.fileFormat, kept := .ofText s.level } }

/-- The log that is kept of these events. -/
def kept (s : LogSettings) (format : LogFormat) (time : Text) (events : List Event) : Text :=
  logText format time (Level.ofText s.level) events

/-- What the console says about a log entry that could not be written. -/
def lossText (f : HostFault) : Text :=
  "[tracing-subscriber] Unable to write an event to the Writer for this Subscriber! Error: " ++ f.message ++ "\n\n"

/-- What the console shows of the log: its entries if it is kept there, and a complaint for each one lost. -/
def shown (s : LogSettings) (after : Session) : Text :=
  let entries :=
    if s.file = none then
      if s.console then s.kept (s.consoleFormat after.host.colours) after.host.time after.events else []
    else if after.host.keepsJournalOn .errors then s.kept s.fileFormat after.host.time after.events
    else []
  entries ++ after.host.losses.flatMap lossText

/-- The part of the log that comes in front of the result: all of it if the log file is the standard output. -/
def printed (s : LogSettings) (after : Session) : Text :=
  if after.host.keepsJournalOn .output then s.kept s.fileFormat after.host.time after.events else []

end LogSettings

namespace CommandLine

def versionText : Text := "mysql_diff 0.1.0\n"

/-- Answers a command line that asks for no comparison. -/
def refuse (w : Wording) (files : FileTree) (arguments : List Text) : Refusal → Outcome
  | .help => { code := 0, output := w.help, files }
  | .version => { code := 0, output := versionText, files }
  | .usage => { code := 2, errors := w.refused arguments, files }

def fail (files : FileTree) (attempt : Text) (f : Failure) : Outcome :=
  { code := 1, errors := failureReport attempt f.chain, files }

/-- Compares two schemas under a configuration whose log is open. -/
def compare (host : Host) (c : Config) (old new : Text) : Outcome :=
  match (c.compare old new).run { host } with
  | .ok script after =>
    { code := 0, output := c.log.printed after ++ script ++ ['\n'], errors := c.log.shown after
      files := after.host.files }
  | .error f after =>
    let failed := fail after.host.files ("failed to diff " ++ old ++ " against " ++ new) f
    { failed with output := c.log.printed after, errors := c.log.shown after ++ failed.errors }

/-- Carries a request out for two schemas. -/
def carryOut (w : Wording) (host : Host) (r : Request) (old new : Text) : Outcome :=
  match r.configuration w host.files with
  | .error f => fail host.files ("failed to load configuration from " ++ r.config.getD []) (.config f)
  | .ok c =>
    let c := r.override c
    match c.log.opened host with
    | .error f => fail host.files "failed to initialize logging" (.io f)
    | .ok host => compare host c old new

/-- Runs the command line. -/
def run (w : Wording) (host : Host) (arguments : List Text) : Outcome :=
  match Request.ofArguments arguments with
  | .error refusal => refuse w host.files arguments refusal
  | .ok r =>
    match r.schemas with
    | [old, new] => carryOut w host r old new
    | _ => refuse w host.files arguments .usage

end CommandLine
end SchemaDrift
