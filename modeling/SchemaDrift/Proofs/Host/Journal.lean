import SchemaDrift.CommandLine.Run
import SchemaDrift.Proofs.Host.LogTree

namespace SchemaDrift

namespace Host

/-- The number of the log file, if the log is kept in a file. -/
def logNumber? (h : Host) : Option Nat := h.journal.bind (·.channel.number?)

/-- The other host is this one after its log has been at work. -/
structure LoggedTo (h h' : Host) : Prop where
  files : h.files.LoggedTo h.logNumber? h'.files
  number : h'.logNumber? = h.logNumber?

variable {h h' k : Host} {path text : Text}

theorem LoggedTo.refl (h : Host) : h.LoggedTo h := ⟨.refl _ _, rfl⟩

theorem LoggedTo.trans (hh : h.LoggedTo h') (hk : h'.LoggedTo k) : h.LoggedTo k :=
  ⟨hh.files.trans (hh.number ▸ hk.files), hk.number.trans hh.number⟩

/-- A note changes nothing about a host but the files and the log. -/
theorem exists_note_eq (h : Host) (e : Event) : ∃ files journal, h.note e = { h with files, journal } := by
  fun_cases note h e with
  | case1 | case4 => exact ⟨h.files, h.journal, rfl⟩
  | case2 j hj _ channel files hwrite => exact ⟨files, _, rfl⟩
  | case3 j hj => exact ⟨h.files, _, rfl⟩

/-- What holds of a host for good: noting an event does not end it, no program does, and no call to the server. -/
structure Lasting (P : Host → Prop) : Prop where
  note : ∀ {h : Host} (e : Event), P h → P (h.note e)
  run : ∀ {h : Host} {i : Invocation} {c : Completion}, P h → h.run i = .ok c → P { h with files := c.files }
  ask : ∀ {h : Host} (call : ServerCall), P h → P (h.ask call)

theorem Lasting.and {P Q : Host → Prop} (hP : Lasting P) (hQ : Lasting Q) : Lasting fun h => P h ∧ Q h where
  note := fun e hh => ⟨hP.note e hh.1, hQ.note e hh.2⟩
  run := fun hh hrun => ⟨hP.run hh.1 hrun, hQ.run hh.2 hrun⟩
  ask := fun call hh => ⟨hP.ask call hh.1, hQ.ask call hh.2⟩

/-- No path of that name is there, and no program makes one. -/
structure NeverHas (path : Text) (h : Host) : Prop where
  absent : h.files.pathExists path = false
  unmade : ∀ files asked i c, files.pathExists path = false → h.execute files asked i = .ok c →
    c.files.pathExists path = false

/-- A plain name that nothing has stays free where programs leave the files alone. -/
theorem neverHas_of_isPlain (hplain : FileTree.IsPlain path) (hhome : h.files.isDirectory h.files.home)
    (hnone : FileTree.entry? h.files (h.files.home ++ [path]) = none)
    (hstill : ∀ files asked i c, h.execute files asked i = .ok c → c.files = files) : h.NeverHas path where
  absent := hplain.pathExists_eq_false hhome hnone
  unmade := fun files asked i c ha hc => (congrArg (FileTree.pathExists · path) (hstill files asked i c hc)).trans ha

theorem pathExists_note (h : Host) (e : Event) (path : Text) :
    (h.note e).files.pathExists path = h.files.pathExists path := by
  fun_cases note h e with
  | case1 | case3 | case4 => rfl
  | case2 j hj _ channel files hwrite => exact FileTree.pathExists_of_write hwrite path

theorem execute_of_run {i : Invocation} {c : Completion} (hrun : h.run i = .ok c) :
    h.execute h.files h.asked i = .ok c := by
  rw [run] at hrun
  split at hrun
  case isTrue => cases hrun
  case isFalse => exact hrun

theorem lasting_neverHas (path : Text) : Lasting (NeverHas path) where
  note := fun {h} e hn => by
    refine ⟨(h.pathExists_note e path).trans hn.absent, ?_⟩
    obtain ⟨files, journal, hnote⟩ := h.exists_note_eq e
    rw [hnote]
    exact hn.unmade
  run := fun hn hrun => ⟨hn.unmade _ _ _ _ hn.absent (execute_of_run hrun), hn.unmade⟩
  ask := fun _ hn => ⟨hn.absent, hn.unmade⟩

end Host

namespace Session

/-- The session once these events have come up. -/
def noting (s : Session) (events : List Event) : Session :=
  { host := events.foldl Host.note s.host, events := s.events ++ events }

variable {s : Session}

/-- Events that come up end nothing that no note ends. -/
theorem noting_of_note {P : Host → Prop} (hnote : ∀ h e, P h → P (h.note e)) (hs : P s.host) (events : List Event) :
    P (s.noting events).host :=
  List.foldlRecOn events Host.note hs fun h hh e _ => hnote h e hh

theorem noting_of_lasting {P : Host → Prop} (hP : Host.Lasting P) (hs : P s.host) (events : List Event) :
    P (s.noting events).host :=
  noting_of_note (fun _ e => hP.note e) hs events

end Session

namespace Logged

variable {α β : Type} {x : Logged α} {f : α → Logged β}

theorem run_log_eq_noting (events : List Event) (s : Session) : (log events).run s = .ok () (s.noting events) := rfl

/-- Where a computation has come to, be it to its end or to a failure. -/
def reached : EStateM.Result Failure Session α → Session
  | .ok _ s | .error _ s => s

/-- A computation leaves it at that which holds of its host. -/
def Keeps (P : Host → Prop) (x : Logged α) : Prop := ∀ s, P s.host → P (reached (x.run s)).host

variable {P : Host → Prop} {s t : Session}

theorem Keeps.of_run_ok {a : α} (hx : x.Keeps P) (hs : P s.host) (h : x.run s = .ok a t) : P t.host := by
  have hkept := hx s hs
  rwa [h] at hkept

theorem Keeps.of_run_error {e : Failure} (hx : x.Keeps P) (hs : P s.host) (h : x.run s = .error e t) : P t.host := by
  have hkept := hx s hs
  rwa [h] at hkept

theorem Keeps.bind (hx : x.Keeps P) (hf : ∀ a, (f a).Keeps P) : (x >>= f).Keeps P := by
  intro s hs
  rw [run_bind]
  cases hrun : x.run s with
  | error e t => exact hx.of_run_error hs hrun
  | ok a t => exact hf a t (hx.of_run_ok hs hrun)

theorem keeps_pure (P : Host → Prop) (a : α) : (pure a : Logged α).Keeps P := fun _ hs => hs

theorem keeps_ofExcept (P : Host → Prop) (e : Except Failure α) : (ofExcept e).Keeps P := by
  cases e <;> exact fun _ hs => hs

theorem keeps_files (P : Host → Prop) : files.Keeps P := fun _ hs => hs

theorem keeps_readText (P : Host → Prop) (path : Text) : (readText path).Keeps P :=
  (keeps_files P).bind fun _ => keeps_ofExcept P _

theorem keeps_log (hP : Host.Lasting P) (events : List Event) : (log events).Keeps P :=
  fun _ hs => Session.noting_of_lasting hP hs events

theorem run_execute (i : Invocation) (s : Session) :
    (execute i).run s = match s.host.run i with
      | .error f => .ok (.error f) s
      | .ok c => .ok (.ok c) { s with host := { s.host with files := c.files } } := by
  have hget : EStateM.run (get : Logged Session) s = .ok s s := rfl
  rw [execute, run_bind, hget]
  cases hrun : s.host.run i <;> simp only [hrun] <;> rfl

theorem keeps_execute (hP : Host.Lasting P) (i : Invocation) : (execute i).Keeps P := by
  intro s hs
  rw [run_execute]
  cases hrun : s.host.run i with
  | error f => exact hs
  | ok c => exact hP.run hs hrun

theorem run_ask (call : ServerCall) (s : Session) :
    (ask call).run s = .ok (s.host.answer call) { s with host := s.host.ask call } := rfl

theorem keeps_ask (hP : Host.Lasting P) (call : ServerCall) : (ask call).Keeps P := fun _ hs => hP.ask call hs

theorem keeps_demand (hP : Host.Lasting P) (call : ServerCall) : (demand call).Keeps P := by
  refine (keeps_ask hP call).bind fun fault => ?_
  cases fault <;> exact fun _ hs => hs

theorem run_demand (call : ServerCall) (s : Session) :
    (demand call).run s = match s.host.answer call with
      | none => .ok () { s with host := s.host.ask call }
      | some f => .error (.server f) { s with host := s.host.ask call } := by
  rw [demand, run_bind, run_ask]
  cases s.host.answer call <;> rfl

theorem run_connect (l : Login) (s : Session) :
    (connect l).run s = match s.host.answer (.connect l) with
      | none => .ok s.host.asked.length { s with host := s.host.ask (.connect l) }
      | some f => .error (.server f) { s with host := s.host.ask (.connect l) } := by
  have hget : EStateM.run (get : Logged Session) s = .ok s s := rfl
  rw [connect, run_bind, hget]
  dsimp only
  rw [run_bind, run_demand]
  cases s.host.answer (.connect l) <;> rfl

theorem keeps_connect (hP : Host.Lasting P) (l : Login) : (connect l).Keeps P :=
  Keeps.bind (fun _ hs => hs) fun _ => (keeps_demand hP _).bind fun _ => keeps_pure P _

theorem keeps_fresh (P : Host → Prop) : fresh.Keeps P := fun _ hs => hs

theorem run_attempt (x : Logged α) (s : Session) :
    (attempt x).run s = match x.run s with
      | .ok a t => .ok (.ok a) t
      | .error f t => .ok (.error f) t := rfl

/-- Something comes of a computation that goes on with what it comes to. -/
theorem exists_run_attempt (x : Logged α) (s : Session) : ∃ outcome t, (attempt x).run s = .ok outcome t := by
  rw [run_attempt]
  cases x.run s with
  | ok a t => exact ⟨.ok a, t, rfl⟩
  | error f t => exact ⟨.error f, t, rfl⟩

/-- What fails has come as far as that before. -/
theorem Keeps.attempt (hx : x.Keeps P) : (attempt x).Keeps P := by
  intro s hs
  have hkept := hx s hs
  rw [run_attempt]
  cases hrun : x.run s <;> rwa [hrun] at hkept

end Logged

namespace LogSettings

variable {s : LogSettings} {host opened : Host}

/-- Opening a log changes nothing about a host but the files and the log. -/
theorem exists_opened_eq (h : s.opened host = .ok opened) : ∃ files journal, opened = { host with files, journal } := by
  rw [LogSettings.opened] at h
  split at h
  case h_1 =>
    cases h
    exact ⟨host.files, host.journal, rfl⟩
  case h_2 =>
    obtain ⟨⟨channel, files⟩, -, h⟩ := Except.bind_eq_ok_iff.mp h
    cases h
    exact ⟨files, _, rfl⟩

end LogSettings
end SchemaDrift
