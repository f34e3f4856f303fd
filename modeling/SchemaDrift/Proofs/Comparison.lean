import SchemaDrift.Proofs.Host.Journal

namespace SchemaDrift

section Sources

variable {files : FileTree} {path text : Text}

variable {s : Session}

end Sources

section Devices

open Logged

variable {P : Host → Prop}

theorem Dumper.keeps_dumpDatabase (hP : Host.Lasting P) (d : Dumper) (database : Text) (c : Connection) :
    (d.dumpDatabase database c).Keeps P := by
  refine (keeps_log hP _).bind fun _ => (keeps_execute hP _).bind fun completion => ?_
  cases completion with
  | error f => exact fun _ hs => hs
  | ok completion => exact keeps_ofExcept P _

theorem Dumper.keeps_connect (hP : Host.Lasting P) (d : Dumper) (database : Option Text) : (d.connect database).Keeps P :=
  (keeps_ofExcept P _).bind fun _ => Logged.keeps_connect hP _

theorem Dumper.keeps_loadAndDump (hP : Host.Lasting P) (d : Dumper) (database sql : Text) :
    (d.loadAndDump database sql).Keeps P :=
  (d.keeps_connect hP database).bind fun _ => (keeps_demand hP _).bind fun _ => (keeps_demand hP _).bind fun _ =>
    d.keeps_dumpDatabase hP database _

theorem Dumper.keeps_release (hP : Host.Lasting P) (connection : Nat) : (release connection).Keeps P := by
  refine (keeps_ask hP _).bind fun fault => ?_
  cases fault with
  | none => exact keeps_pure P _
  | some f => exact keeps_log hP _

theorem Dumper.keeps_conclude (hP : Host.Lasting P) (database : Text) (dumped : Except Failure Text)
    (undropped : Option ServerFault) : (conclude database dumped undropped).Keeps P := by
  cases dumped with
  | ok schema => cases undropped <;> exact fun _ hs => hs
  | error f =>
    cases undropped with
    | none => exact fun _ hs => hs
    | some g => exact (keeps_log hP _).bind fun _ _ hs => hs

theorem Dumper.keeps_dumpSql (hP : Host.Lasting P) (d : Dumper) (sql : Text) : (d.dumpSql sql).Keeps P :=
  (keeps_fresh P).bind fun _ => (d.keeps_connect hP none).bind fun _ => (keeps_log hP _).bind fun _ =>
    (keeps_demand hP _).bind fun _ => (d.keeps_loadAndDump hP _ sql).attempt.bind fun _ => (keeps_ask hP _).bind fun _ =>
      (keeps_release hP _).bind fun _ => keeps_conclude hP _ _ _

theorem Dumper.keeps_dumpFile (hP : Host.Lasting P) (d : Dumper) (path : Text) : (d.dumpFile path).Keeps P :=
  (keeps_readText P path).bind fun _ => d.keeps_dumpSql hP _

theorem Dumper.keeps_dumpRemote (hP : Host.Lasting P) (d : Dumper) (database : Text) (c : Connection) :
    (d.dumpRemote database c).Keeps P :=
  (d.keeps_dumpDatabase hP database c).bind fun _ => d.keeps_dumpSql hP _

theorem Source.keeps_fetch (hP : Host.Lasting P) (d : Dumper) (raw : Bool) (source : Source) :
    (source.fetch d raw).Keeps P := by
  cases source with
  | file path =>
    cases raw with
    | true => exact (keeps_log hP _).bind fun _ => keeps_readText P path
    | false => exact (keeps_log hP _).bind fun _ => d.keeps_dumpFile hP path
  | remote database c => exact (keeps_log hP _).bind fun _ => d.keeps_dumpRemote hP database c
  | configured database => exact (keeps_log hP _).bind fun _ => d.keeps_dumpDatabase hP database _

end Devices

section Showing

open Logged

theorem Source.eq_argument_of_ofArgument {files : FileTree} {text : Text} {f : Failure} (h : Source.ofArgument files text = .error f) :
    f = .argument text := by
  rw [Source.ofArgument] at h
  split at h
  case isTrue => cases h
  case isFalse =>
    split at h
    case isTrue =>
      split at h
      case h_1 => cases h
      case h_2 =>
        cases h
        rfl
    case isFalse => cases h

/-- Fetches and reads the schema that an argument names, and shows another text in its place: in the failure of an
argument that names nothing, and as the source of what is logged about the schema. -/
def Config.fetchShowing (c : Config) (shown argument : Text) : Logged (List Table) := do
  let source ← .ofExcept ((Source.ofArgument (← .files) argument).mapError fun _ => .argument shown)
  let dump ← source.fetch c.dumper c.dump.raw
  let reading := Dump.read dump
  .log reading.events
  .log (reading.notices.map (·.report shown))
  .log [⟨.info, "mysql_diff", "Parsed schema", [("source", .text shown), ("tables", .count reading.tables.length)]⟩]
  return reading.tables

/-- An argument is shown as it is. -/
theorem Config.fetchTables_eq_fetchShowing (c : Config) (argument : Text) :
    c.fetchTables argument = c.fetchShowing argument argument := by
  have hargument (files : FileTree) : (Source.ofArgument files argument).mapError (fun _ => .argument argument) =
      Source.ofArgument files argument := by
    cases h : Source.ofArgument files argument with
    | ok source => rfl
    | error f =>
      rw [Source.eq_argument_of_ofArgument h]
      rfl
  rw [Config.fetchTables, Config.fetchShowing]
  simp only [hargument]

/-- Fetching ends nothing that lasts. -/
theorem Config.keeps_fetchShowing {P : Host → Prop} (hP : Host.Lasting P) (c : Config) (shown argument : Text) :
    (c.fetchShowing shown argument).Keeps P :=
  (keeps_files P).bind fun _ => (keeps_ofExcept P _).bind fun source =>
    (source.keeps_fetch hP _ _).bind fun _ => (keeps_log hP _).bind fun _ => (keeps_log hP _).bind fun _ =>
      (keeps_log hP _).bind fun _ => keeps_pure P _

end Showing

namespace Config

variable {c : Config} {s : Session} {path text old new a b : Text}

end Config
end SchemaDrift
