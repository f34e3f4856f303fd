import SchemaDrift.CommandLine.Run
import SchemaDrift.Proofs.Source.Passwords

namespace SchemaDrift

open Logged Source

/-! ### Command lines that differ in passwords at most -/

/-- Loaded configurations that differ in the password of the server at most, or documents that are refused for whatever
reasons, or one and the same fault. -/
inductive Config.LoadedAlike (R : Text → Text → Prop) : Except ConfigFault Config → Except ConfigFault Config → Prop where
  | loaded {c c' : Config} (h : c.Alike R c') : LoadedAlike R (.ok c) (.ok c')
  | malformed (reason reason' : Text) : LoadedAlike R (.error (.malformed reason)) (.error (.malformed reason'))
  | failed (f : ConfigFault) : LoadedAlike R (.error f) (.error f)

/-- Paths of configurations that load alike. -/
def Config.PathsAlike (w : Wording) (host : Host) (path path' : Text) : Prop :=
  LoadedAlike host.Confuses (load w.malformed host.files path) (load w.malformed host.files path')

theorem Config.alike_refl (R : Text → Text → Prop) (c : Config) : c.Alike R c := ⟨.same _, rfl, rfl⟩

theorem Config.loadedAlike_refl (R : Text → Text → Prop) (x : Except ConfigFault Config) : LoadedAlike R x x := by
  cases x with
  | ok c => exact .loaded (c.alike_refl R)
  | error f => exact .failed f

/-- The host on which the command line compares schemas, which is once its log has been opened. -/
def CommandLine.Opens (w : Wording) (host : Host) (arguments : List Text) (opened : Host) : Prop :=
  ∃ r c, Request.ofArguments arguments = .ok r ∧ r.configuration w host.files = .ok c ∧
    (r.override c).log.opened host = .ok opened

/-- Items of a command line that differ in passwords at most: the passwords in an argument on every host of that kind,
or the one in a configuration. -/
inductive CommandLine.ItemsAlike (w : Wording) (host : Host) (P : Host → Prop) :
    OptionItem Switch → OptionItem Switch → Prop where
  | same (i : OptionItem Switch) : ItemsAlike w host P i i
  | schema {t t' : Text} (h : ∀ opened, P opened → ArgumentsAlike host.Confuses opened t t') :
    ItemsAlike w host P (.positional t) (.positional t')
  | config {path path' : Text} (hpath : path ≠ []) (hpath' : path' ≠ []) (h : Config.PathsAlike w host path path') :
    ItemsAlike w host P (.option .config path) (.option .config path')

/-- Command lines that say the same, item by item, but for the passwords in arguments and configurations. -/
def CommandLine.Alike (w : Wording) (host : Host) (arguments arguments' : List Text) : Prop :=
  List.Forall₂ (ItemsAlike w host (Opens w host arguments)) (OptionItem.ofArguments Switch.rules arguments)
    (OptionItem.ofArguments Switch.rules arguments')

namespace Request

variable {w : Wording} {host : Host} {P : Host → Prop} {r r' : Request} {i i' : OptionItem Switch}
  {is is' : List (OptionItem Switch)} {x x' : Except Refusal Request}

/-- What two command lines ask for differs in passwords at most. -/
structure Alike (w : Wording) (host : Host) (P : Host → Prop) (r r' : Request) : Prop where
  schemas : List.Forall₂ (fun t t' => ∀ opened, P opened → ArgumentsAlike host.Confuses opened t t') r.schemas r'.schemas
  config : Option.Rel (Config.PathsAlike w host) r.config r'.config
  program : r.program = r'.program
  raw : r.raw = r'.raw
  verbosity : r.verbosity = r'.verbosity

/-- Both command lines are refused in the same way, or what they ask for differs in passwords at most. -/
inductive ReadAlike (w : Wording) (host : Host) (P : Host → Prop) :
    Except Refusal Request → Except Refusal Request → Prop where
  | refused (x : Refusal) : ReadAlike w host P (.error x) (.error x)
  | accepted {r r' : Request} (h : r.Alike w host P r') : ReadAlike w host P (.ok r) (.ok r')

theorem alike_empty (w : Wording) (host : Host) (P : Host → Prop) : Alike w host P {} {} :=
  ⟨.nil, .none, rfl, rfl, rfl⟩

theorem Alike.addSchema {t t' : Text} (hr : r.Alike w host P r')
    (h : ∀ opened, P opened → ArgumentsAlike host.Confuses opened t t') :
    ReadAlike w host P (r.add (.positional t)) (r'.add (.positional t')) := by
  have hlength := hr.schemas.length_eq
  by_cases hroom : r.schemas.length < 2
  · rw [add, add, if_pos hroom, if_pos (hlength ▸ hroom)]
    exact .accepted { hr with schemas := List.rel_append hr.schemas (.cons h .nil) }
  · rw [add, add, if_neg hroom, if_neg (hlength ▸ hroom)]
    exact .refused .usage

theorem Alike.addConfig {path path' : Text} (hr : r.Alike w host P r') (hpath : path ≠ [] ↔ path' ≠ [])
    (h : Config.PathsAlike w host path path') :
    ReadAlike w host P (r.add (.option .config path)) (r'.add (.option .config path')) := by
  have hgiven : r.config = none ↔ r'.config = none := by
    have hconfig := hr.config
    generalize r.config = x at hconfig ⊢
    generalize r'.config = x' at hconfig ⊢
    cases hconfig <;> simp
  by_cases hfirst : r.config = none ∧ path ≠ []
  · rw [add, add, if_pos hfirst, if_pos ⟨hgiven.mp hfirst.1, hpath.mp hfirst.2⟩]
    exact .accepted { hr with config := .some h }
  · rw [add, add, if_neg hfirst, if_neg fun hfirst' => hfirst ⟨hgiven.mpr hfirst'.1, hpath.mpr hfirst'.2⟩]
    exact .refused .usage

/-- An item is taken into account by both, or refused by both in the same way. -/
theorem Alike.add (hr : r.Alike w host P r') (hi : CommandLine.ItemsAlike w host P i i') :
    ReadAlike w host P (r.add i) (r'.add i') := by
  cases hi with
  | schema h => exact hr.addSchema h
  | config hpath hpath' h => exact hr.addConfig (iff_of_true hpath hpath') h
  | same i =>
    cases i with
    | positional t => exact hr.addSchema fun _ _ => .same t
    | fault => exact .refused .usage
    | option key value =>
      cases key with
      | config => exact hr.addConfig Iff.rfl (Config.loadedAlike_refl _ _)
      | program =>
        rw [add, add, ← hr.program]
        split
        · exact .accepted { hr with program := rfl }
        · exact .refused .usage
      | raw | verbose | help | version => exact .refused .usage
    | flag key =>
      cases key with
      | raw =>
        rw [add, add, ← hr.raw]
        split
        · exact .refused .usage
        · exact .accepted { hr with raw := rfl }
      | verbose => exact .accepted { hr with verbosity := congrArg (· + 1) hr.verbosity }
      | help => exact .refused .help
      | version => exact .refused .version
      | config | program => exact .refused .usage

theorem Alike.foldlM_add (hitems : List.Forall₂ (CommandLine.ItemsAlike w host P) is is') (hr : r.Alike w host P r') :
    ReadAlike w host P (is.foldlM Request.add r) (is'.foldlM Request.add r') := by
  induction hitems generalizing r r' with
  | nil => exact .accepted hr
  | @cons i i' is is' hi _ ih =>
    have hadd := hr.add hi
    rw [List.foldlM_cons, List.foldlM_cons]
    generalize r.add i = x at hadd ⊢
    generalize r'.add i' = x' at hadd ⊢
    cases hadd with
    | refused refusal => exact .refused refusal
    | accepted h => exact ih h

theorem readAlike_ofArguments {arguments arguments' : List Text} (h : CommandLine.Alike w host arguments arguments') :
    ReadAlike w host (CommandLine.Opens w host arguments) (ofArguments arguments) (ofArguments arguments') :=
  (alike_empty w host _).foldlM_add h

theorem Alike.configuration (hr : r.Alike w host P r') :
    Config.LoadedAlike host.Confuses (r.configuration w host.files) (r'.configuration w host.files) := by
  rw [Request.configuration, Request.configuration]
  have hconfig := hr.config
  generalize r.config = x at hconfig ⊢
  generalize r'.config = x' at hconfig ⊢
  cases hconfig with
  | none => exact Config.loadedAlike_refl _ _
  | some h => exact h

theorem Alike.override {R : Text → Text → Prop} {c c' : Config} (hr : r.Alike w host P r') (hc : c.Alike R c') :
    (r.override c).Alike R (r'.override c') := by
  refine ⟨hc.server, ?_, ?_⟩
  · simp only [Request.override, hr.program, hr.raw, hc.dump]
  · simp only [Request.override, hr.verbosity, hc.log]

end Request

/-! ### Runs that show other texts in the places of their own -/

/-- What a run shows of its own: the schemas that it has to compare, the path of its configuration, what there is to say
against the document there, and what there is to say against arguments that are refused. -/
structure Shown where
  old : Text := []
  new : Text := []
  path : Text := []
  reason : Text := []
  refused : Text

/-- What there is to say against a document. -/
def ConfigFault.reason : ConfigFault → Text
  | .malformed reason => reason
  | _ => []

/-- The fault with another thing to say against a document. -/
def ConfigFault.showing (shown : Text) : ConfigFault → ConfigFault
  | .malformed _ => .malformed shown
  | f => f

/-- What the run of a command line shows of its own. -/
def CommandLine.shown (w : Wording) (host : Host) (arguments : List Text) : Shown :=
  match Request.ofArguments arguments with
  | .error _ => { refused := w.refused arguments }
  | .ok r => {
      old := r.schemas.getD 0 [], new := r.schemas.getD 1 [], path := r.config.getD []
      reason := match r.configuration w host.files with
        | .error f => f.reason
        | .ok _ => []
      refused := w.refused arguments }

/-- Compares the schemas that two arguments name, and shows other texts in their places. -/
def Config.compareShowing (c : Config) (shown : Shown) (old new : Text) : Logged Text := do
  let oldTables ← c.fetchShowing shown.old old
  let newTables ← c.fetchShowing shown.new new
  .log (Migration.events oldTables newTables)
  if (Migration.between oldTables newTables).isEmpty then
    .log [⟨.info, "mysql_diff", "Schemas are already in sync", []⟩]
  return migrationScript oldTables newTables

/-- What a comparison comes to that showed those texts. -/
def CommandLine.concluded (c : Config) (shown : Shown) : EStateM.Result Failure Session Text → Outcome
  | .ok script after =>
    { code := 0, output := c.log.printed after ++ script ++ ['\n'], errors := c.log.shown after
      files := after.host.files }
  | .error f after =>
    let failed := fail after.host.files ("failed to diff " ++ shown.old ++ " against " ++ shown.new) f
    { failed with output := c.log.printed after, errors := c.log.shown after ++ failed.errors }

/-- Compares two schemas under a configuration, from the opening of the log on, and shows those texts. -/
def CommandLine.compareShowing (host : Host) (c : Config) (shown : Shown) (old new : Text) : Outcome :=
  match c.log.opened host with
  | .error f => fail host.files "failed to initialize logging" (.io f)
  | .ok opened => concluded c shown ((c.compareShowing shown old new).run { host := opened })

/-- Carries a request out for two schemas, and shows those texts. -/
def CommandLine.carryOutShowing (w : Wording) (host : Host) (shown : Shown) (r : Request) (old new : Text) : Outcome :=
  match r.configuration w host.files with
  | .error f =>
    fail host.files ("failed to load configuration from " ++ shown.path) (.config (f.showing shown.reason))
  | .ok c => compareShowing host (r.override c) shown old new

/-- Runs the command line, and shows those texts in the places of its own. -/
def CommandLine.runShowing (w : Wording) (host : Host) (shown : Shown) (arguments : List Text) : Outcome :=
  let refused : Outcome := { code := 2, errors := shown.refused, files := host.files }
  match Request.ofArguments arguments with
  | .error .help => { code := 0, output := w.help, files := host.files }
  | .error .version => { code := 0, output := versionText, files := host.files }
  | .error .usage => refused
  | .ok r =>
    match r.schemas with
    | [old, new] => carryOutShowing w host shown r old new
    | _ => refused

section Runs

variable {R : Text → Text → Prop} {P : Host → Prop} {w : Wording} {host opened : Host} {c c' : Config}
  {old old' new new' : Text} {arguments arguments' : List Text}

theorem ConfigFault.showing_reason (f : ConfigFault) : f.showing f.reason = f := by
  cases f <;> rfl

theorem Config.compare_eq_compareShowing (c : Config) {shown : Shown} (hold : shown.old = old) (hnew : shown.new = new) :
    c.compare old new = c.compareShowing shown old new := by
  rw [compare, compareShowing, c.fetchTables_eq_fetchShowing, hold, hnew]
  simp only [c.fetchTables_eq_fetchShowing]

/-- Schemas are compared alike that are named alike, where the same is shown. -/
theorem Config.Alike.agree_compareShowing (hc : c.Alike R c') (hP : ∀ h, P h → ∀ p q, R p q → h.Confuses p q)
    (hlasting : Host.Lasting P) (hold : ∀ h, P h → ArgumentsAlike R h old old')
    (hnew : ∀ h, P h → ArgumentsAlike R h new new') (shown : Shown) :
    (c.compareShowing shown old new).Agree P (c'.compareShowing shown old' new') := by
  rw [compareShowing, compareShowing]
  -- the first fetch leaves a host behind on which the second one is alike as well
  refine (hc.agree_fetchShowing hP hlasting hold _).bind (c.keeps_fetchShowing hlasting _ old) fun _ => ?_
  exact (hc.agree_fetchShowing hP hlasting hnew _).bind_right _

namespace CommandLine

/-- Comparisons that differ in passwords at most come to the same, where they show the same. -/
theorem compareShowing_of_alike (hc : c.Alike host.Confuses c')
    (halike : ∀ opened, c.log.opened host = .ok opened →
      ArgumentsAlike host.Confuses opened old old' ∧ ArgumentsAlike host.Confuses opened new new') (shown : Shown) :
    compareShowing host c shown old new = compareShowing host c' shown old' new' := by
  rw [compareShowing, compareShowing, ← hc.log]
  cases hopened : c.log.opened host with
  | error f => rfl
  | ok opened =>
    have hlasting := host.lasting_confusion.and
      ((lasting_argumentsAlike host.Confuses old old').and (lasting_argumentsAlike host.Confuses new new'))
    have hconfuses : ∀ p q, host.Confuses p q → opened.Confuses p q := fun p q hR => by
      obtain ⟨files, journal, rfl⟩ := LogSettings.exists_opened_eq hopened
      exact hR.of_eq files journal host.asked
    have hagree := hc.agree_compareShowing (fun h hh => hh.1) hlasting (fun h hh => hh.2.1) (fun h hh => hh.2.2) shown
    dsimp only
    rw [hagree { host := opened } ⟨hconfuses, halike opened hopened⟩]
    simp only [concluded, LogSettings.printed, LogSettings.shown, hc.log]

/-- A comparison shows what is its own. -/
theorem carryOut_eq_carryOutShowing {shown : Shown} {r : Request} (hold : shown.old = old) (hnew : shown.new = new)
    (hpath : shown.path = r.config.getD [])
    (hreason : ∀ f, r.configuration w host.files = .error f → shown.reason = f.reason) :
    carryOut w host r old new = carryOutShowing w host shown r old new := by
  rw [carryOut, carryOutShowing]
  cases hconfig : r.configuration w host.files with
  | error f =>
    dsimp only
    rw [hpath, hreason f hconfig, f.showing_reason]
  | ok c =>
    dsimp only
    rw [compareShowing]
    cases (r.override c).log.opened host with
    | error f => rfl
    | ok opened =>
      dsimp only
      rw [compare, Config.compare_eq_compareShowing _ hold hnew]
      subst hold hnew
      cases ((r.override c).compareShowing shown shown.old shown.new).run { host := opened } <;> rfl

/-- A run shows what is its own. -/
theorem run_eq_runShowing (w : Wording) (host : Host) (arguments : List Text) :
    run w host arguments = runShowing w host (shown w host arguments) arguments := by
  rw [run, runShowing, shown]
  cases Request.ofArguments arguments with
  | error refusal => cases refusal <;> rfl
  | ok r =>
    obtain ⟨schemas, config, program, raw, verbosity⟩ := r
    match schemas with
    | [old, new] => exact carryOut_eq_carryOutShowing rfl rfl rfl fun f hf => by simp only [hf]
    | [] | [_] | _ :: _ :: _ :: _ => rfl

theorem carryOutShowing_of_alike {r r' : Request} (hr : r.Alike w host P r')
    (hP : ∀ c opened, r.configuration w host.files = .ok c → (r.override c).log.opened host = .ok opened → P opened)
    (hold : ∀ opened, P opened → ArgumentsAlike host.Confuses opened old old')
    (hnew : ∀ opened, P opened → ArgumentsAlike host.Confuses opened new new') (shown : Shown) :
    carryOutShowing w host shown r old new = carryOutShowing w host shown r' old' new' := by
  have hloaded := hr.configuration
  rw [carryOutShowing, carryOutShowing]
  generalize hx : r.configuration w host.files = x at hloaded ⊢
  generalize r'.configuration w host.files = x' at hloaded ⊢
  cases hloaded with
  | loaded hc =>
    exact compareShowing_of_alike (hr.override hc)
      (fun opened ho => ⟨hold opened (hP _ opened hx ho), hnew opened (hP _ opened hx ho)⟩) shown
  | malformed reason reason' => rfl
  | failed f => rfl

/-- Command lines that differ in passwords at most come to the same, where they show the same. -/
theorem runShowing_of_alike (h : Alike w host arguments arguments') (shown : Shown) :
    runShowing w host shown arguments = runShowing w host shown arguments' := by
  have hread := Request.readAlike_ofArguments h
  rw [runShowing, runShowing]
  generalize hx : Request.ofArguments arguments = x at hread ⊢
  generalize Request.ofArguments arguments' = x' at hread ⊢
  cases hread with
  | refused refusal => rfl
  | @accepted r r' hr =>
    have hopens (c : Config) (opened : Host) (hc : r.configuration w host.files = .ok c)
        (ho : (r.override c).log.opened host = .ok opened) : Opens w host arguments opened := ⟨r, c, hx, hc, ho⟩
    have hschemas := hr.schemas
    dsimp only
    generalize r.schemas = ts at hschemas ⊢
    generalize r'.schemas = ts' at hschemas ⊢
    cases hschemas with
    | nil => rfl
    | cons hold hrest =>
      cases hrest with
      | nil => rfl
      | cons hnew hrest =>
        cases hrest with
        | nil => exact carryOutShowing_of_alike hr hopens hold hnew shown
        | cons => rfl

/-- Once a configuration has been loaded, it is the schemas alone that are shown. -/
theorem runShowing_congr {r : Request} {shown shown' : Shown} (hr : Request.ofArguments arguments = .ok r)
    (hschemas : r.schemas = [old, new]) (hc : r.configuration w host.files = .ok c) (hold : shown.old = shown'.old)
    (hnew : shown.new = shown'.new) : runShowing w host shown arguments = runShowing w host shown' arguments := by
  obtain ⟨shownOld, shownNew, path, reason, refused⟩ := shown
  obtain ⟨shownOld', shownNew', path', reason', refused'⟩ := shown'
  dsimp only at hold hnew
  subst hold hnew
  rw [runShowing, runShowing, hr]
  simp only [hschemas, carryOutShowing, hc]
  rfl

/-- Where a password is seen. Arguments that differ in a password at most are both refused, with a message in which
the argument stands, or name sources that are fetched with the same log and the same result. The program that dumps
a database has the same arguments, and the password in its environment alone. And a run of the command line does
what another one does that differs from it in passwords at most, but for what is its own in the places where it is
shown: the two arguments in the messages and the log of a comparison, the configuration's path and what is said against
the document there where that is no configuration, and what is said against arguments that are refused. If the
configuration has been loaded and the schemas have the same names, nothing is seen of a password. -/
theorem passwords_shown (host : Host) :
    (∀ (t t' : Text) (d d' : Dumper), ArgumentsAlike host.Confuses host t t' → d.Alike host.Confuses d' →
      (∃ s s', ofArgument host.files t = .ok s ∧ ofArgument host.files t' = .ok s' ∧
        ∀ raw events, (s.fetch d raw).run { host, events } = (s'.fetch d' raw).run { host, events }) ∨
      (ofArgument host.files t = .error (.argument t) ∧ ofArgument host.files t' = .error (.argument t') ∧
        ((Failure.argument t).message = (Failure.argument t').message ↔ t = t'))) ∧
    (∀ (d d' : Dumper) (c c' : Connection) (database : Text), d.Alike host.Confuses d' →
      Connection.Alike host.Confuses c c' →
      (d.invocation database c).program = (d'.invocation database c').program ∧
      (d.invocation database c).arguments = (d'.invocation database c').arguments ∧
      (∀ v ∈ (d.invocation database c).environment, v = (("MYSQL_PWD" : Text), c.password)) ∧
      ∀ v ∈ (d'.invocation database c').environment, v = (("MYSQL_PWD" : Text), c'.password)) ∧
    ∀ (w : Wording) (arguments arguments' : List Text), Alike w host arguments arguments' →
      run w host arguments = runShowing w host (shown w host arguments) arguments ∧
      run w host arguments' = runShowing w host (shown w host arguments') arguments ∧
      ∀ r r' c old new, Request.ofArguments arguments = .ok r → Request.ofArguments arguments' = .ok r' →
        r.schemas = [old, new] → r'.schemas = [old, new] → r.configuration w host.files = .ok c →
        run w host arguments = run w host arguments' := by
  refine ⟨fun t t' d d' ht hd => ?_, fun d d' c c' database hd hc => ?_, fun w arguments arguments' h => ?_⟩
  · rcases ofArgument_cases ht with ⟨s, s', hs, hs', halike⟩ | ⟨hs, hs'⟩
    · have hagree := halike.agree_fetch (fun h hh => hh) host.lasting_confusion hd
      exact .inl ⟨s, s', hs, hs', fun raw events => hagree raw { host, events } fun _ _ hR => hR⟩
    · exact .inr ⟨hs, hs', List.append_right_inj _⟩
  · refine ⟨hd.program, ?_, fun v hv => Dumper.eq_of_mem_environment hv, fun v hv => Dumper.eq_of_mem_environment hv⟩
    rw [Dumper.invocation_of_alike hd hc database]
  · have hfirst := run_eq_runShowing w host arguments
    have hsecond := (run_eq_runShowing w host arguments').trans (runShowing_of_alike h (shown w host arguments')).symm
    refine ⟨hfirst, hsecond, fun r r' c old new hr hr' hschemas hschemas' hc => ?_⟩
    have hsame : (shown w host arguments).old = (shown w host arguments').old ∧
        (shown w host arguments).new = (shown w host arguments').new := by
      rw [shown, shown, hr, hr']
      simp only [hschemas, hschemas', and_self]
    exact hfirst.trans ((runShowing_congr hr hschemas hc hsame.1 hsame.2).trans hsecond.symm)

/-- A server denies access under both passwords. Both runs tell so, each of them with its own argument. So do two runs
whose arguments are refused since they start with a dash, and two whose configurations are none, each with its own
document. -/
theorem passwords_shown_denied :
    let a : Text := "[mysql]\npassword = secret\n"
    let b : Text := "[mysql]\npassword = hush\n"
    let files : FileTree := {
      entries := [(["w"], .directory), (["w", "a"], .file 1 (Utf8.encode a) false),
        (["w", "b"], .file 2 (Utf8.encode b) false)]
      home := ["w"], next := 3 }
    let host : Host := {
      files
      execute := fun files _ i =>
        .ok { status := .code 2, output := [], errors := Utf8.encode (List.intercalate " " i.arguments), files } }
    let w : Wording := { malformed := id, help := [], refused := List.intercalate " " }
    let areAlike (arguments arguments' : List Text) : Prop :=
      run w host arguments = runShowing w host (shown w host arguments) arguments ∧
        run w host arguments' = runShowing w host (shown w host arguments') arguments
    areAlike ["shop -psecret", "b"] ["shop -phush", "b"] ∧ areAlike ["-psecret shop", "b"] ["-phush shop", "b"] ∧
      areAlike ["-ca", "s", "t"] ["-cb", "s", "t"] := by
  intro a b files host w areAlike
  obtain ⟨-, -, hrun⟩ := passwords_shown host
  have hareAlike {arguments arguments' : List Text} (h : Alike w host arguments arguments') :
      areAlike arguments arguments' := ⟨(hrun w _ _ h).1, (hrun w _ _ h).2.1⟩
  refine ⟨hareAlike ?_, hareAlike ?_, hareAlike ?_⟩
  · let t : Text := "shop -psecret"
    let t' : Text := "shop -phush"
    have hnever {path : Text} (hplain : FileTree.IsPlain path)
        (hnone : FileTree.entry? host.files (host.files.home ++ [path]) = none) : host.NeverHas path :=
      Host.neverHas_of_isPlain hplain (by decide) hnone fun _ _ _ _ hc => by cases hc; rfl
    have ht : host.NeverHas t := hnever (by decide +kernel) (by decide +kernel)
    have ht' : host.NeverHas t' := hnever (by decide +kernel) (by decide +kernel)
    have hR : host.Confuses "secret" "hush" := ⟨by decide, by decide, fun _ _ _ _ => rfl, fun _ _ => rfl⟩
    have hfront : OptionItem.Spells remoteRules [("shop" : Text)] [.positional "shop"] :=
      OptionItem.spells_positional (by decide)
    have hitems : List.Forall₂ (Source.ItemsAlike host.Confuses) (items t) (items t') :=
      @forall₂_items _ _ _ _ _ _ .glued _ [] hR (by decide) (by decide) hfront (by decide +kernel) (by decide +kernel)
    have hread : Request.ofArguments [t, "b"] = .ok { schemas := [t, "b"] } := by decide +kernel
    have hopens (opened : Host) (h : Opens w host [t, "b"] opened) : opened = host := by
      obtain ⟨r, c, hr, hc, hopened⟩ := h
      cases hr.symm.trans hread
      cases hc
      cases hopened
      rfl
    have halike (opened : Host) (h : Opens w host [t, "b"] opened) : ArgumentsAlike host.Confuses opened t t' := by
      rw [hopens opened h]
      exact .described (by decide) (by decide) ht ht' hitems
    exact .cons (.schema halike) (.cons (.same _) .nil)
  · exact .cons (.same .fault) .nil
  · have hfault {path text : Text} {n : Nat} (hplain : FileTree.IsPlain path)
        (hentry : FileTree.entry? files (files.home ++ [path]) = some (.file n (Utf8.encode text) false))
        (htext : Utf8.decode (Utf8.encode text) = .ok text) (hnone : Config.read? text = none) :
        Config.load w.malformed files path = .error (.malformed text) := by
      rw [Config.load, hplain.readText_eq (by decide) hentry, htext]
      simp only [Except.mapError, hnone]
      rfl
    have ha : Config.load w.malformed files "a" = .error (.malformed a) :=
      hfault (by decide) rfl (by decide +kernel) (by decide +kernel)
    have hb : Config.load w.malformed files "b" = .error (.malformed b) :=
      hfault (by decide) rfl (by decide +kernel) (by decide +kernel)
    have hpaths : Config.PathsAlike w host "a" "b" := by
      rw [Config.PathsAlike, ha, hb]
      exact .malformed a b
    exact .cons (.config (by decide) (by decide) hpaths) (.cons (.same _) (.cons (.same _) .nil))

end CommandLine
end Runs

end SchemaDrift
