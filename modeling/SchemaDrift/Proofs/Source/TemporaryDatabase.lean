import SchemaDrift.Proofs.Comparison

namespace SchemaDrift

theorem Host.asked_note (h : Host) (e : Event) : (h.note e).asked = h.asked := by
  obtain ⟨files, journal, hnote⟩ := h.exists_note_eq e
  rw [hnote]

/-- What a server has been asked stays on record. -/
theorem Host.lasting_asked (asked : List Exchange) : Lasting fun h => asked <+: h.asked where
  note := fun {h} e hh => (h.asked_note e).symm ▸ hh
  run := fun hh _ => hh
  ask := fun {h} _ hh => hh.trans (List.prefix_append h.asked _)

theorem Session.asked_noting (s : Session) (events : List Event) : (s.noting events).host.asked = s.host.asked :=
  noting_of_note (P := fun h => h.asked = s.host.asked) (fun h e hh => (h.asked_note e).trans hh) rfl events

namespace Dumper

open Logged

/-- What a load of SQL asks of the server behind what has been asked, and what it comes to. Whatever becomes of a
database that has been created, the load ends with dropping it and closing the connection; a schema comes of it only if
the database is gone. -/
inductive Course (database : Text) (asked : List Exchange) : Except Failure Text → List Exchange → Prop where
  | unreadable (f : ConnectFault) : Course database asked (.error (.config (.connect f))) asked
  | unconnected (l : Login) (f : ServerFault) :
    Course database asked (.error (.server f)) (asked ++ [⟨.connect l, some f⟩])
  | uncreated (l : Login) (f : ServerFault) :
    Course database asked (.error (.server f))
      (asked ++ [⟨.connect l, none⟩, ⟨.execute asked.length ("CREATE DATABASE `" ++ database ++ "`"), some f⟩])
  | dropped (l : Login) (loading : List Exchange) {left : Option ServerFault} (closed : Option ServerFault)
    {outcome : Except Failure Text} (hleft : left = none ∨ ∃ f, outcome = .error f) :
    Course database asked outcome
      (asked ++ [⟨.connect l, none⟩, ⟨.execute asked.length ("CREATE DATABASE `" ++ database ++ "`"), none⟩] ++ loading ++
        [⟨.execute asked.length ("DROP DATABASE `" ++ database ++ "`"), left⟩, ⟨.close asked.length, closed⟩])

/-- A load leaves on record what has been asked before, though it fails. -/
theorem exists_run_attempt_loadAndDump (d : Dumper) (database sql : Text) (s : Session) :
    ∃ dumped t loading, (attempt (d.loadAndDump database sql)).run s = .ok dumped t ∧
      t.host.asked = s.host.asked ++ loading := by
  have hkept := (d.keeps_loadAndDump (Host.lasting_asked s.host.asked) database sql).attempt
  obtain ⟨dumped, t, hrun⟩ := exists_run_attempt (d.loadAndDump database sql) s
  obtain ⟨loading, hloading⟩ := hkept.of_run_ok List.prefix_rfl hrun
  exact ⟨dumped, t, loading, hrun, hloading.symm⟩

theorem exists_run_release (connection : Nat) (s : Session) :
    ∃ t closed, (release connection).run s = .ok () t ∧ t.host.asked = s.host.asked ++ [⟨.close connection, closed⟩] := by
  rw [release, run_bind, run_ask]
  cases hclosed : s.host.answer (.close connection) with
  | none => exact ⟨_, none, rfl, by rw [← hclosed]; rfl⟩
  | some f => exact ⟨_, some f, rfl, by rw [← hclosed]; exact Session.asked_noting _ _⟩

/-- However loading and dumping have gone, the server is asked to drop the database and to close the connection; a
schema comes of that only if the database is gone. -/
theorem exists_run_conclude (database drop : Text) (connection : Nat) (dumped : Except Failure Text) (s : Session) :
    ∃ outcome t left closed,
      (attempt (ask (.execute connection drop) >>= fun left =>
        release connection >>= fun _ => conclude database dumped left)).run s = .ok outcome t ∧
      t.host.asked = s.host.asked ++ [⟨.execute connection drop, left⟩, ⟨.close connection, closed⟩] ∧
      (left = none ∨ ∃ f, outcome = .error f) := by
  obtain ⟨t, closed, hrelease, hclosed⟩ :=
    exists_run_release connection { s with host := s.host.ask (.execute connection drop) }
  have hasked : t.host.asked = s.host.asked ++
      [⟨.execute connection drop, s.host.answer (.execute connection drop)⟩, ⟨.close connection, closed⟩] :=
    hclosed.trans (List.append_assoc ..)
  rw [run_attempt, run_bind, run_ask]
  dsimp only
  rw [run_bind, hrelease]
  generalize s.host.answer (.execute connection drop) = left at hasked ⊢
  cases left with
  | none => cases dumped <;> exact ⟨_, t, none, closed, rfl, hasked, .inl rfl⟩
  | some left =>
    cases dumped with
    | ok schema => exact ⟨_, t, some left, closed, rfl, hasked, .inr ⟨_, rfl⟩⟩
    | error f => exact ⟨_, _, some left, closed, rfl, (t.asked_noting _).trans hasked, .inr ⟨f, rfl⟩⟩

/-- Logging in asks for one thing at most, and the connection goes by the number of calls before that. -/
theorem run_connect_cases (d : Dumper) (database : Option Text) (s : Session) :
    (∃ f, (d.connect database).run s = .error (.config (.connect f)) s) ∨
      (∃ l f t, (d.connect database).run s = .error (.server f) t ∧
        t.host.asked = s.host.asked ++ [⟨.connect l, some f⟩]) ∨
      ∃ l t, (d.connect database).run s = .ok s.host.asked.length t ∧
        t.host.asked = s.host.asked ++ [⟨.connect l, none⟩] := by
  rw [connect, run_bind]
  cases d.connection.login with
  | error f => exact .inl ⟨f, rfl⟩
  | ok l =>
    let login : Login := { l with options := { l.options with database := database <|> l.options.database } }
    have hasked : (s.host.ask (.connect login)).asked =
        s.host.asked ++ [⟨.connect { login with password := none }, s.host.answer (.connect login)⟩] := rfl
    refine .inr ?_
    have hlogin : (Except.ok l).mapError (fun f => Failure.config (.connect f)) = .ok l := rfl
    rw [hlogin, run_ofExcept_ok]
    dsimp only
    rw [run_connect]
    cases hanswer : s.host.answer (.connect login) with
    | none => exact .inr ⟨_, _, rfl, hanswer ▸ hasked⟩
    | some f => exact .inl ⟨_, f, _, rfl, hanswer ▸ hasked⟩

/-- A temporary database is dropped again, and the connection closed, whether or not loading and dumping succeed. -/
theorem exists_course_dumpSql (d : Dumper) (sql : Text) (s : Session) :
    ∃ outcome t, (attempt (d.dumpSql sql)).run s = .ok outcome t ∧
      Course ("tmp_" ++ s.host.fresh s.host.asked) s.host.asked outcome t.host.asked := by
  have hfresh : fresh.run s = .ok (s.host.fresh s.host.asked) s := rfl
  generalize hdatabase : ("tmp_" : Text) ++ s.host.fresh s.host.asked = database
  rw [run_attempt, dumpSql, run_bind, hfresh]
  dsimp only
  rw [hdatabase, run_bind]
  obtain ⟨f, hopen⟩ | ⟨l, f, t, hopen, hasked⟩ | ⟨l, t, hopen, hasked⟩ := d.run_connect_cases none s
  · rw [hopen]
    exact ⟨_, _, rfl, .unreadable f⟩
  · rw [hopen]
    exact ⟨_, _, rfl, hasked ▸ .unconnected l f⟩
  rw [hopen]
  dsimp only
  rw [run_bind, run_log_eq_noting]
  dsimp only
  -- from here on the event that announces the database has been logged
  generalize hlogged : t.noting _ = u
  have hasked : u.host.asked = s.host.asked ++ [⟨.connect l, none⟩] := by rw [← hlogged, t.asked_noting, hasked]
  let creation : ServerCall := .execute s.host.asked.length ("CREATE DATABASE `" ++ database ++ "`")
  have hcreation : (u.host.ask creation).asked =
      s.host.asked ++ [⟨.connect l, none⟩, ⟨creation, u.host.answer creation⟩] := by
    rw [Host.ask, hasked, List.append_assoc]
    rfl
  rw [run_bind, run_demand]
  cases hcreated : u.host.answer creation with
  | some f =>
    rw [hcreated] at hcreation
    exact ⟨_, _, rfl, hcreation ▸ .uncreated l f⟩
  | none =>
    rw [hcreated] at hcreation
    dsimp only
    obtain ⟨dumped, v, loading, hload, hloaded⟩ :=
      d.exists_run_attempt_loadAndDump database sql { u with host := u.host.ask creation }
    obtain ⟨outcome, w, left, closed, hrun, hdropped, hleft⟩ :=
      exists_run_conclude database ("DROP DATABASE `" ++ database ++ "`") s.host.asked.length dumped v
    rw [run_bind, hload]
    rw [run_attempt] at hrun
    refine ⟨outcome, w, hrun, ?_⟩
    rw [hdropped, hloaded, hcreation]
    exact .dropped l loading closed hleft

end Dumper
end SchemaDrift
