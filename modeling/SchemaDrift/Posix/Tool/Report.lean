import SchemaDrift.Posix.Tool.Condition
import SchemaDrift.Posix.Tool.Entries

namespace SchemaDrift.Tool

/-- The user that programs run for. -/
def user : Text := "root"

/-- Tells who the user is, by numbers or by name. -/
def identity (called : Text) (arguments : List Text) : Effect :=
  withOptions called
    { flags := "aunrgGz".toList
      long := [("user", 'u'), ("name", 'n'), ("real", 'r'), ("group", 'g'), ("groups", 'G')].map fun (n, c) => (n.toList, c) }
    arguments fun o =>
    let choices := ['u', 'g', 'G'].filter o.has
    match o.operands.find? fun n => n ≠ user && n ≠ ['0'] with
    | some n => .complaint 1 (called ++ ": " ++ quoted n ++ ": no such user")
    | none =>
      if choices.length > 1 then .complaint 1 (called ++ ": cannot print \"only\" of more than one choice")
      else if choices = [] then
        if o.has 'n' ∨ o.has 'r' then .complaint 1 (called ++ ": cannot print only names or real IDs in default format")
        else .line "uid=0(root) gid=0(root) groups=0(root)"
      else .line (if o.has 'n' then user else ['0'])

/-- Writes one line, and takes no operand. -/
def fact (called line : Text) (arguments : List Text) : Effect :=
  withOptions called {} arguments fun o =>
    match o.operands with
    | [] => .line line
    | a :: _ => misuse called ("extra operand " ++ quoted a)

/-- The parts of the system's name that options ask for, by their letters. -/
def systemParts : List (Char × Text) :=
  [('s', "Linux"), ('n', "localhost"), ('r', "6.1.0"), ('v', "#1 SMP"), ('m', "x86_64"), ('o', "GNU/Linux")]

def uname (called : Text) (arguments : List Text) : Effect :=
  withOptions called
    { flags := "asnrvmpio".toList
      long := [("all", 'a'), ("kernel-name", 's'), ("machine", 'm'), ("operating-system", 'o')].map fun (n, c) => (n.toList, c) }
    arguments fun o =>
    match o.operands with
    | a :: _ => misuse called ("extra operand " ++ quoted a)
    | [] =>
      let isAsked (c : Char) : Bool := o.has 'a' || o.has c || o.given = [] && c = 's'
      .line (List.intercalate " " ((systemParts.filter fun (c, _) => isAsked c).map Prod.snd))

/-- Writes the path of the working directory. -/
def pwd (around : Surroundings) (called : Text) (arguments : List Text) : Effect :=
  withOptions called { flags := "LP".toList, long := [("logical".toList, 'L'), ("physical".toList, 'P')] } arguments fun _ =>
    .line (absolute around.files.home)

/-- Writes the environment, or the values of some of its variables. -/
def printenv (around : Surroundings) (called : Text) (arguments : List Text) : Effect :=
  withOptions called { flags := ['0'], long := [("null".toList, '0')], anywhere := false } arguments (fun o =>
    let ending : Text := if o.has '0' then ['\x00'] else ['\n']
    if o.operands = [] then
      .output (Utf8.encode (around.environment.flatMap fun (name, v) => name ++ '=' :: v ++ ending))
    else
      let values := o.operands.filterMap fun n => around.environment.lookup n
      { Effect.output (Utf8.encode (values.flatMap (· ++ ending))) with
        status := if values.length = o.operands.length then 0 else 1 }) 2

/-- Tells which files are run for some names. -/
def which (around : Surroundings) (called : Text) (arguments : List Text) : Effect :=
  match Options.read { flags := "as".toList, anywhere := false } arguments with
  | .error message => .complaint 2 (called ++ ": " ++ message ++ "\nUsage: " ++ called ++ " [-as] args")
  | .ok o =>
    let isRun (path : Text) : Bool := fileHolds around.files "-f" path && fileHolds around.files "-x" path
    let directories := ((around.environment.lookup "PATH".toList).getD []).splitOn ':'
    let found (name : Text) : List Text :=
      let paths := if name.contains '/' then [name]
        else directories.map fun d => (if d = [] then ['.'] else d) ++ '/' :: name
      let paths := paths.filter isRun
      if o.has 'a' then paths else paths.take 1
    let shown := if o.has 's' then [] else o.operands.flatMap found
    let status := if o.operands = [] ∨ o.operands.any (found · = []) then 1 else 0
    { Effect.output (Utf8.encode (shown.flatMap (· ++ ['\n']))) with status }

/-- What an entry is called. -/
def kindName : FileEntry → Text
  | .file _ [] _ => "regular empty file"
  | .file .. | .program _ => "regular file"
  | .directory => "directory"
  | .link _ => "symbolic link"
  | .device _ => "character special file"

/-- The permissions of an entry, as a number and in letters. -/
def permissions : FileEntry → Text × Text
  | .file _ _ false => ("644", "-rw-r--r--")
  | .file _ _ true | .program _ => ("755", "-rwxr-xr-x")
  | .directory => ("755", "drwxr-xr-x")
  | .link _ => ("777", "lrwxrwxrwx")
  | .device _ => ("666", "crw-rw-rw-")

def sizeOf : FileEntry → Nat
  | .file _ bytes _ => bytes.length
  | .link path => (Utf8.encode path).length
  | .directory => 4096
  | .program _ | .device _ => 0

/-- Fills a format with what is known of an entry. -/
def describe (files : FileTree) (path : Text) (l : Location) (e : FileEntry) : Text → Text
  | [] => []
  | '%' :: c :: r =>
    let number : Nat := match e with
      | .file n _ _ => n
      | _ => 0
    let count := (files.entries.filter fun (_, x) => match x with
      | .file n _ _ => n = number
      | _ => false).length
    let part : Text := match c with
      | 'n' => path
      | 'N' => quoted path ++ (match e with
        | .link t => " -> " ++ quoted t
        | _ => [])
      | 's' => Text.ofNat (sizeOf e)
      | 'F' => kindName e
      | 'a' => (permissions e).1
      | 'A' => (permissions e).2
      | 'u' | 'g' => ['0']
      | 'U' | 'G' => user
      | 'i' => Text.ofNat number
      | 'h' => Text.ofNat (match e with
        | .file .. => count
        | .directory => 2 + ((files.namesIn l).filter fun n => files.isDirectory (l ++ [n])).length
        | _ => 1)
      | '%' => ['%']
      | _ => ['?']
    part ++ describe files path l e r
  | c :: r => c :: describe files path l e r

/-- Writes what a format asks of entries. -/
def stat (around : Surroundings) (called : Text) (arguments : List Text) : Effect :=
  let form : OptionForm :=
    { flags := "Lft".toList, valued := "cp".toList
      long := [("dereference".toList, 'L'), ("format".toList, 'c'), ("printf".toList, 'p'), ("terse".toList, 't')] }
  withOptions called form arguments fun o =>
    let files := around.files
    if o.operands = [] then misuse called "missing operand"
    else
      o.operands.foldl (fun (e : Effect) path =>
        let found := if o.has 'L' then files.locate path else files.locateEntry path
        e.andThen (match found with
          | .error f => .complaint 1 (called ++ ": cannot statx " ++ quoted path ++ ": " ++ reason f)
          | .ok l =>
            let entry := (files.entry? l).getD .directory
            match o.value? 'p' with
            | some format => .output (Escape.bytes (formatForm none) (describe files path l entry format))
            | none => .line (describe files path l entry ((o.value? 'c').getD "  File: %n")))) {}

/-- Makes an empty file, or a directory, under a name that is new. -/
def mktemp (around : Surroundings) (called : Text) (arguments : List Text) : Effect :=
  let form : OptionForm :=
    { flags := "dqut".toList, valued := ['p'], long := [("directory".toList, 'd'), ("quiet".toList, 'q'), ("dry-run".toList, 'u'), ("tmpdir".toList, 't')] }
  withOptions called form arguments fun o =>
    match o.operands with
    | _ :: _ :: _ => misuse called "too many templates"
    | ts =>
      let template := ts.headD "tmp.XXXXXXXXXX"
      let marks := (template.reverse.takeWhile (· = 'X')).length
      if marks < 3 then .complaint 1 (called ++ ": too few X's in template " ++ quoted template)
      else
        let digits := Text.ofNat around.files.next
        let name := template.take (template.length - marks) ++ List.replicate (marks - digits.length) 'a' ++ digits.take marks
        let path := if ts = [] ∨ o.has 't' ∨ o.has 'p' then below ((o.value? 'p').getD "/tmp") name else name
        let kind : Text := if o.has 'd' then "directory" else "file"
        let made : Except HostFault FileTree := do
          let names := path.splitOn '/'
          if o.has 'd' then around.files.makeDirectory (around.files.start path) names
          else return (← around.files.openFile path false false).2
        if o.has 'u' then .line path
        else
          match made with
          | .ok files => { Effect.line path with files := some { files with next := files.next + 1 } }
          | .error f =>
            .complaint 1 (called ++ ": failed to create " ++ kind ++ " via template " ++ quoted (if ts = [] then path else template) ++ ": " ++ reason f)

/-- Copies a part of its input, or of a file, in blocks. -/
def dd (around : Surroundings) (called : Text) (arguments : List Text) : Effect :=
  let settings := arguments.map fun a => (Text.cutAt? '=' a).getD (a, [])
  let known : List Text := ["if", "of", "bs", "count", "skip", "seek", "status", "conv", "ibs", "obs", "iflag", "oflag"]
  let value? (name : String) : Option Text := settings.reverse.lookup name.toList
  let number (name : String) (default : Nat) : Nat := ((value? name).bind (amount? true)).elim default Amount.size
  match (arguments.zip settings).find? fun (a, name, _) => !(known.contains name && a.contains '=') with
  | some (a, _) => misuse called ("unrecognized operand " ++ quoted a)
  | none =>
    let isBad (name : String) : Bool :=
      (value? name).any fun v => (amount? true v).isNone || ["bs", "ibs", "obs"].contains name && number name 0 = 0
    match ["bs", "ibs", "obs", "count", "skip", "seek"].find? isBad with
    | some name => .complaint 1 (called ++ ": invalid number: " ++ quoted ((value? name).getD []))
    | none =>
      let source := (value? "if").getD ['-']
      match read around source with
      | .error f => .complaint 1 (called ++ ": failed to open " ++ quoted source ++ ": " ++ reason f)
      | .ok t =>
        let size := number "bs" (number "ibs" 512)
        let rest := t.drop (size * number "skip" 0)
        let copied := match value? "count" with
          | none => rest
          | some _ => rest.take (size * number "count" 0)
        let left := if source = "-" then
            some (if around.readsFile then Bytes.ofText (rest.drop copied.length) else [])
          else none
        let full := copied.length / size
        let part := if copied.length % size = 0 then 0 else 1
        let records : Text := Text.ofNat full ++ '+' :: Text.ofNat part
        let report : Text := if value? "status" = some "none".toList then []
          else
            let bytes : Text := Text.ofNat copied.length ++ if copied.length = 1 then " byte" else " bytes"
            let pace : Text := if value? "status" = some "noxfer".toList then []
              else bytes ++ " copied, 0.0001 s, 1.0 MB/s\n"
            records ++ " records in\n" ++ records ++ " records out\n" ++ pace
        let report : Effect := if report = [] then {} else { writes := [(2, Utf8.encode report)] }
        let wishes := ((value? "conv").getD []).splitOn ','
        let bytes := Bytes.ofText (if wishes.contains "ucase".toList then copied.map Char.toUpper
          else if wishes.contains "lcase".toList then copied.map Char.toLower
          else copied)
        let keepsSize := wishes.contains "notrunc".toList
        let written : Effect := match value? "of" with
          | none => .output bytes
          | some path =>
            let offset := number "obs" size * number "seek" 0
            match around.files.openFile path (!keepsSize && offset = 0) false with
            | .ok (.file n _ _, files) =>
              { files := some (files.revise n fun old => FileTree.overwritten (if keepsSize then old else old.take offset) offset bytes) }
            | .ok (_, files) => { files := some files }
            | .error f => .complaint 1 (called ++ ": failed to open " ++ quoted path ++ ": " ++ reason f)
        if written.status ≠ 0 then written
        else { written.andThen report with rest := left }

end SchemaDrift.Tool
