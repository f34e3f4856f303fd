import SchemaDrift.Proofs.Server.UrlQuery

namespace SchemaDrift

namespace ConnectionStep

/-- Whether a step can be carried out, which does not depend on the connection it meets. -/
def succeeds (s : ConnectionStep) : Bool := (({} : Connection).step s).isOk

/-- The host that a step gives when URLs are read in that way. -/
def host? (read : Text → ServerUrl) : ConnectionStep → Option Text
  | .host t => some t
  | .url t => some (read t).host
  | _ => none

/-- The port that a step gives; a URL need not carry one. -/
def port? (read : Text → ServerUrl) : ConnectionStep → Option Port
  | .port p => some p
  | .url t => (read t).port.bind fun text => (Port.read text).toOption
  | _ => none

def user? : ConnectionStep → Option Text
  | .user t => some t
  | _ => none

def password? : ConnectionStep → Option Text
  | .password t => some t
  | _ => none

/-- Whether a step is a URL whose query redirects. -/
def Redirects : ConnectionStep → Prop
  | .url t => ServerUrl.Redirects t
  | _ => False

/-- The properties that a step adds: one as it is, and those in the query of a URL unless they are empty. -/
def properties (read : Text → ServerUrl) : ConnectionStep → List Text
  | .property t => [t]
  | .url t => (read t).properties
  | _ => []

end ConnectionStep

namespace Connection

/-- The connection once a step has been tried: one that fails leaves it as it was. -/
def tried (c : Connection) (s : ConnectionStep) : Connection := (c.step s).toOption.getD c

/-- The connection behind a run of steps. -/
def behind (c : Connection) (steps : List ConnectionStep) : Connection := steps.foldl tried c

/-- What steps make of a connection when URLs are read in that way: host, port, user and password are those
given last, or else those it had, and properties are added in their order. -/
structure GivenBy (read : Text → ServerUrl) (steps : List ConnectionStep) (c d : Connection) : Prop where
  host : d.host = (steps.filterMap (·.host? read)).getLastD c.host
  port : d.port = (steps.filterMap (·.port? read)).getLastD c.port
  user : d.user = (steps.filterMap (·.user?)).getLastD c.user
  password : d.password = (steps.filterMap (·.password?)).getLastD c.password
  properties : d.properties = c.properties ++ steps.flatMap (·.properties read)

/-- How a URL is read: its scheme is taken off first. -/
def readUrl (url : Text) : ServerUrl := ServerUrl.ofText (withoutScheme url)

variable {c d : Connection} {s : ConnectionStep} {steps : List ConnectionStep} {t : Text} {read : Text → ServerUrl}

section Steps

/-- A step fails or succeeds, whatever the connection: only a URL can fail, by its port. -/
theorem isOk_step (c : Connection) (s : ConnectionStep) : (c.step s).isOk = s.succeeds := by
  cases s with
  | url t =>
    change (c.withUrl t).isOk = (({} : Connection).withUrl t).isOk
    rw [withUrl, withUrl]
    cases (ServerUrl.ofText (withoutScheme t)).port with
    | none => rfl
    | some text =>
      dsimp only
      cases Port.read text <;> rfl
  | _ => rfl

theorem step_eq_ok (h : s.succeeds) (c : Connection) : c.step s = .ok (c.tried s) := by
  rw [← isOk_step c] at h
  rw [tried]
  cases hstep : c.step s with
  | ok d => rfl
  | error f =>
    rw [hstep] at h
    cases h

theorem exists_step_eq_error (h : s.succeeds = false) (c : Connection) : ∃ f, c.step s = .error f := by
  rw [← isOk_step c] at h
  cases hstep : c.step s with
  | ok d =>
    rw [hstep] at h
    cases h
  | error f => exact ⟨f, rfl⟩

theorem tried_of_not_succeeds (h : s.succeeds = false) (c : Connection) : c.tried s = c := by
  obtain ⟨f, hstep⟩ := exists_step_eq_error h c
  rw [tried, hstep]
  rfl

theorem exists_url_of_not_succeeds (h : s.succeeds = false) : ∃ t, s = .url t := by
  cases s with
  | url t => exact ⟨t, rfl⟩
  | _ => cases h

theorem GivenBy.nil (read : Text → ServerUrl) (c : Connection) : GivenBy read [] c c :=
  ⟨rfl, rfl, rfl, rfl, (List.append_nil _).symm⟩

/-- What a step gives is what a connection has behind it. -/
theorem givenBy_tried (h : s.succeeds) (c : Connection) : GivenBy readUrl [s] c (c.tried s) := by
  have hstep := step_eq_ok h c
  cases s with
  | url t =>
    obtain ⟨port, hport, hd⟩ := withUrl_eq_ok_iff.mp hstep
    rw [hd]
    refine ⟨rfl, ?_, rfl, rfl, ?_⟩
    · rw [ServerUrl.portOr] at hport
      simp only [List.filterMap_cons, List.filterMap_nil, ConnectionStep.port?, readUrl]
      cases htext : (ServerUrl.ofText (withoutScheme t)).port with
      | none =>
        rw [htext] at hport
        exact (Except.ok.inj hport).symm
      | some text =>
        rw [htext] at hport
        dsimp only at hport
        simp only [Option.bind_some, hport]
        rfl
    · exact congrArg (c.properties ++ ·) (List.append_nil _).symm
  | property t => exact ⟨rfl, rfl, rfl, rfl, rfl⟩
  | _ => exact ⟨rfl, rfl, rfl, rfl, (List.append_nil _).symm⟩

/-- The last of the values that steps give is the one that the later steps give, or else one that the first gives. -/
theorem getLastD_filterMap_cons {α : Type} (f : ConnectionStep → Option α) (s : ConnectionStep)
    (steps : List ConnectionStep) (a : α) : ((s :: steps).filterMap f).getLastD a =
      (steps.filterMap f).getLastD (([s].filterMap f).getLastD a) := by
  rw [List.filterMap_cons, List.filterMap_cons]
  cases f s with
  | none => rfl
  | some b =>
    dsimp only
    rw [List.getLastD_cons]
    rfl

theorem GivenBy.cons {e : Connection} (h : GivenBy read [s] c d) (k : GivenBy read steps d e) :
    GivenBy read (s :: steps) c e where
  host := by rw [getLastD_filterMap_cons, ← h.host, k.host]
  port := by rw [getLastD_filterMap_cons, ← h.port, k.port]
  user := by rw [getLastD_filterMap_cons, ← h.user, k.user]
  password := by rw [getLastD_filterMap_cons, ← h.password, k.password]
  properties := by
    rw [k.properties, h.properties, List.flatMap_cons, List.flatMap_cons, List.flatMap_nil, List.append_nil,
      List.append_assoc]

end Steps

section Runs

theorem behind_cons (c : Connection) (s : ConnectionStep) (steps : List ConnectionStep) :
    c.behind (s :: steps) = (c.tried s).behind steps := rfl

/-- Steps that fail might as well be left out. -/
theorem behind_filter_succeeds (c : Connection) (steps : List ConnectionStep) :
    c.behind (steps.filter (·.succeeds)) = c.behind steps := by
  induction steps generalizing c with
  | nil => rfl
  | cons s steps ih =>
    cases hs : s.succeeds with
    | true => rw [List.filter_cons_of_pos hs, behind_cons, behind_cons, ih]
    | false =>
      rw [List.filter_cons_of_neg (by simp [hs]), behind_cons, tried_of_not_succeeds hs, ih]

theorem foldlM_step (h : ∀ s ∈ steps, s.succeeds) (c : Connection) : steps.foldlM step c = .ok (c.behind steps) := by
  induction steps generalizing c with
  | nil => rfl
  | cons s steps ih =>
    obtain ⟨hs, hsteps⟩ := List.forall_mem_cons.mp h
    rw [List.foldlM_cons, step_eq_ok hs]
    exact ih hsteps (c.tried s)

theorem givenBy_behind (h : ∀ s ∈ steps, s.succeeds) (c : Connection) : GivenBy readUrl steps c (c.behind steps) := by
  induction steps generalizing c with
  | nil => exact .nil readUrl c
  | cons s steps ih =>
    obtain ⟨hs, hsteps⟩ := List.forall_mem_cons.mp h
    exact (givenBy_tried hs c).cons (ih hsteps (c.tried s))

/-- A run tells of each step what it comes to behind the steps before it. -/
theorem run_getElem? (c : Connection) (steps : List ConnectionStep) (n : Nat) :
    (c.run steps)[n]? = steps[n]?.map fun s => (c.behind (steps.take n)).step s := by
  induction steps generalizing c n with
  | nil => rfl
  | cons s steps ih =>
    have htail : ∀ k, (c.run (s :: steps))[k + 1]? = ((c.tried s).run steps)[k]? := by
      intro k
      rw [run, tried]
      cases c.step s <;> rfl
    cases n with
    | zero =>
      rw [run]
      cases hstep : c.step s <;> simp [behind, hstep]
    | succ n => rw [htail, ih, List.getElem?_cons_succ, List.take_succ_cons, behind_cons]

end Runs

section Named

/-- A reading of URLs matters only where there are URLs. -/
theorem GivenBy.congr {read' : Text → ServerUrl} (h : GivenBy read steps c d)
    (hread : ∀ t, .url t ∈ steps → read t = read' t) : GivenBy read' steps c d := by
  have hhost : ∀ s ∈ steps, s.host? read = s.host? read' := by
    intro s hs
    cases s with
    | url t => rw [ConnectionStep.host?, ConnectionStep.host?, hread t hs]
    | _ => rfl
  have hport : ∀ s ∈ steps, s.port? read = s.port? read' := by
    intro s hs
    cases s with
    | url t => rw [ConnectionStep.port?, ConnectionStep.port?, hread t hs]
    | _ => rfl
  have hproperties : ∀ s ∈ steps, s.properties read = s.properties read' := by
    intro s hs
    cases s with
    | url t => rw [ConnectionStep.properties, ConnectionStep.properties, hread t hs]
    | _ => rfl
  refine ⟨?_, ?_, h.user, h.password, ?_⟩
  · rw [h.host, List.filterMap_congr hhost]
  · rw [h.port, List.filterMap_congr hport]
  · rw [h.properties, List.flatMap_congr hproperties]

theorem length_properties_lt (h : s.Redirects) :
    (s.properties readUrl).flatten.length < (s.properties ServerUrl.named).flatten.length := by
  cases s with
  | url t => exact ServerUrl.length_properties_lt h
  | _ => exact h.elim

theorem length_properties_le (s : ConnectionStep) :
    (s.properties readUrl).flatten.length ≤ (s.properties ServerUrl.named).flatten.length := by
  by_cases h : s.Redirects
  · exact (length_properties_lt h).le
  · cases s with
    | url t => rw [ConnectionStep.properties, ConnectionStep.properties, readUrl, ServerUrl.ofText_withoutScheme h]
    | _ => exact le_rfl

theorem length_flatMap_properties_le (steps : List ConnectionStep) :
    (steps.flatMap (·.properties readUrl)).flatten.length ≤
      (steps.flatMap (·.properties ServerUrl.named)).flatten.length := by
  induction steps with
  | nil => exact le_rfl
  | cons s steps ih =>
    simp only [List.flatMap_cons, List.flatten_append, List.length_append]
    exact Nat.add_le_add (length_properties_le s) ih

/-- Where a URL redirects, some of the properties that the URLs name are lost. -/
theorem length_flatMap_properties_lt (hs : s ∈ steps) (h : s.Redirects) :
    (steps.flatMap (·.properties readUrl)).flatten.length <
      (steps.flatMap (·.properties ServerUrl.named)).flatten.length := by
  induction steps with
  | nil => cases hs
  | cons r steps ih =>
    simp only [List.flatMap_cons, List.flatten_append, List.length_append]
    rcases List.mem_cons.mp hs with rfl | hs
    · exact Nat.add_lt_add_of_lt_of_le (length_properties_lt h) (length_flatMap_properties_le steps)
    · exact Nat.add_lt_add_of_le_of_lt (length_properties_le r) (ih hs)

/-- A run gives what the URLs name exactly if none of them redirects. -/
theorem GivenBy.named_iff (h : GivenBy readUrl steps c d) :
    GivenBy ServerUrl.named steps c d ↔ ∀ s ∈ steps, ¬ s.Redirects := by
  constructor
  · intro hnamed s hs hredirects
    have hlt := length_flatMap_properties_lt hs hredirects
    rw [List.append_cancel_left (h.properties.symm.trans hnamed.properties)] at hlt
    exact lt_irrefl _ hlt
  · intro hnone
    exact h.congr fun t ht => ServerUrl.ofText_withoutScheme (hnone _ ht)

/-- A run goes on behind a failing step as if that step were not there, and it tells of each step what it comes
to. What it leads to is what its successful steps give, the host, port, user and password that come last and the
properties of all in their order, if URLs are read as they are: scheme first. It is what they give by the parts
that URLs name exactly if no successful URL redirects. -/
theorem behind_given_iff (steps : List ConnectionStep) :
    let kept := steps.filter (·.succeeds)
    let reached := ({} : Connection).behind steps
    (∀ n, (({} : Connection).run steps)[n]? =
      steps[n]?.map fun s => (({} : Connection).behind (steps.take n)).step s) ∧
    (∀ (c : Connection), ∀ s ∈ steps, s ∉ kept ↔ ∃ t f, s = .url t ∧ c.withUrl t = .error f) ∧
    ofSteps kept = .ok reached ∧
    GivenBy readUrl kept {} reached ∧
    (GivenBy ServerUrl.named kept {} reached ↔ ∀ s ∈ kept, ¬ s.Redirects) := by
  intro kept reached
  have hkept : ∀ s ∈ kept, s.succeeds := fun s hs => (List.mem_filter.mp hs).2
  have hreached : ({} : Connection).behind kept = reached := behind_filter_succeeds {} steps
  have hgiven : GivenBy readUrl kept {} reached := hreached ▸ givenBy_behind hkept {}
  refine ⟨run_getElem? {} steps, fun c s hs => ⟨fun h => ?_, ?_⟩, ?_, hgiven, hgiven.named_iff⟩
  · rw [List.mem_filter, not_and, Bool.not_eq_true] at h
    obtain ⟨t, rfl⟩ := exists_url_of_not_succeeds (h hs)
    obtain ⟨f, hf⟩ := exists_step_eq_error (h hs) c
    exact ⟨t, f, rfl, hf⟩
  · rintro ⟨t, f, rfl, hf⟩ hmem
    have hok := step_eq_ok (hkept _ hmem) c
    rw [step, hf] at hok
    cases hok
  · rw [ofSteps, foldlM_step hkept, hreached]

/-- The property of a URL is lost, and its host with it, when the property is a URL itself. -/
theorem behind_redirected :
    let steps : List ConnectionStep := [.property "a=1", .url "mysql://db:1?next=http://other", .url "mysql://x:y"]
    let kept := steps.filter (·.succeeds)
    let reached := ({} : Connection).behind steps
    kept = [.property "a=1", .url "mysql://db:1?next=http://other"] ∧
    reached = { host := "other", properties := [("a=1" : Text)] } ∧
    GivenBy ServerUrl.named kept {} { host := "db", port := 1, properties := [("a=1" : Text), "next=http://other"] } ∧
    ¬ GivenBy ServerUrl.named kept {} reached := by
  intro steps kept reached
  have hkept : kept = [.property "a=1", .url "mysql://db:1?next=http://other"] := by decide +kernel
  have hreached : reached = { host := "other", properties := [("a=1" : Text)] } := by decide +kernel
  have hnamed : ServerUrl.named "mysql://db:1?next=http://other" = ⟨"db", some "1", [("next=http://other" : Text)]⟩ := by
    decide +kernel
  refine ⟨hkept, hreached, ?_, fun h => ?_⟩
  · rw [hkept]
    refine ⟨?_, ?_, rfl, rfl, ?_⟩ <;>
      simp only [List.filterMap_cons, List.filterMap_nil, List.flatMap_cons, List.flatMap_nil, ConnectionStep.host?,
        ConnectionStep.port?, ConnectionStep.properties, hnamed] <;> rfl
  · have hhost := h.host
    rw [hreached, hkept] at hhost
    simp only [List.filterMap_cons, List.filterMap_nil, ConnectionStep.host?, hnamed] at hhost
    exact absurd hhost (by decide)

end Named

end Connection
end SchemaDrift
