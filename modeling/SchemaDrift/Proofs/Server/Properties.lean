import SchemaDrift.Proofs.Server.UrlReading
import SchemaDrift.Server.Options

namespace SchemaDrift

/-- The name that a property gives a mode. -/
def SslMode.name : SslMode → Text
  | .disabled => "disabled"
  | .preferred => "preferred"
  | .required => "required"
  | .verifyCa => "verify_ca"
  | .verifyIdentity => "verify_identity"

/-- A mode is named by its name in any case. -/
theorem SslMode.ofText?_eq_some_iff {t : Text} {m : SslMode} : ofText? t = some m ↔ t.map Char.toLower = m.name := by
  constructor
  · intro h
    obtain ⟨before, behind, hnames, -⟩ := List.lookup_eq_some_iff.mp h
    have hname : ∀ p ∈ before ++ (t.map Char.toLower, m) :: behind, p.1 = p.2.name := by
      rw [← hnames]
      decide
    exact hname _ (List.mem_append_right before List.mem_cons_self)
  · intro h
    rw [ofText?, h]
    cases m <;> decide

attribute [ext] ConnectOptions

namespace ConnectOptions

/-- A property has a name and a value. -/
abbrev Property := Text × Text

/-- A property as a connection has it. -/
def Property.written (p : Property) : Text := p.1 ++ '=' :: p.2

/-- Whether a property stands for itself in a URL. -/
def Property.Plain (p : Property) : Prop := (∀ c ∈ p.1, Percent.isPlain c) ∧ ∀ c ∈ p.2, Percent.isPlain c

instance (p : Property) : Decidable p.Plain :=
  decidable_of_iff (p.1.all Percent.isPlain ∧ p.2.all Percent.isPlain)
    (and_congr List.all_eq_true List.all_eq_true)

/-- The names of the property that tells the mode. -/
def modeNames : List Text := ["ssl-mode", "sslmode"]

def capacityName : Text := "statement-cache-capacity"

/-- Whether a property is in order: a mode has to be one of the known ones, in any case, and a capacity a
decimal number of 64 bits. -/
def Acceptable (p : Property) : Prop :=
  (p.1 ∈ modeNames → ∃ m : SslMode, p.2.map Char.toLower = m.name) ∧
    (p.1 = capacityName → ∃ zeros n, n < 2 ^ 64 ∧ p.2 = Text.ofNatPadded zeros n)

/-- Why a property is not in order. -/
inductive Refused : Property → OptionsFault → Prop where
  | sslMode {name value : Text} (hname : name ∈ modeNames) (h : ∀ m : SslMode, value.map Char.toLower ≠ m.name) :
    Refused (name, value) (.sslMode value)
  | capacity {value : Text} {reason : DecimalFault} (h : Decimal.read maxCapacity value = .error reason) :
    Refused (capacityName, value) (.capacity reason)

/-- The value of the last property of these names. -/
def lastValue? (names : List Text) (ps : List Property) : Option Text :=
  (ps.filter (names.contains ·.1)).getLast?.map Prod.snd

/-- What properties make of options: each setting is that of the last property of its name, or else it stays
as it is, as do the others. -/
structure Reflects (ps : List Property) (o o' : ConnectOptions) : Prop where
  host : o'.host = o.host
  port : o'.port = o.port
  user : o'.user = o.user
  database : o'.database = o.database
  sslMode : match lastValue? modeNames ps with
    | none => o'.sslMode = o.sslMode
    | some value => value.map Char.toLower = o'.sslMode.name
  charset : o'.charset = (lastValue? ["charset"] ps).getD o.charset
  collation : o'.collation = (lastValue? ["collation"] ps).or o.collation
  socket : o'.socket = (lastValue? ["socket"] ps).or o.socket

variable {o o' o'' : ConnectOptions} {p : Property} {ps qs : List Property} {names : List Text} {reason : OptionsFault}

section Steps

theorem lastValue?_append (names : List Text) (ps qs : List Property) :
    lastValue? names (ps ++ qs) = (lastValue? names qs).or (lastValue? names ps) := by
  rw [lastValue?, lastValue?, lastValue?, List.filter_append, List.getLast?_append, Option.map_or]

theorem lastValue?_singleton (names : List Text) (p : Property) :
    lastValue? names [p] = if p.1 ∈ names then some p.2 else none := by
  by_cases h : p.1 ∈ names
  · have hkept : [p].filter (names.contains ·.1) = [p] := List.filter_cons_of_pos (List.contains_iff_mem.mpr h)
    rw [if_pos h, lastValue?, hkept]
    rfl
  · have hdropped : [p].filter (names.contains ·.1) = [] :=
      List.filter_cons_of_neg fun hc => h (List.contains_iff_mem.mp hc)
    rw [if_neg h, lastValue?, hdropped]
    rfl

theorem Reflects.nil (o : ConnectOptions) : Reflects [] o o := ⟨rfl, rfl, rfl, rfl, rfl, rfl, rfl, rfl⟩

/-- Properties behind others win. -/
theorem Reflects.append (h : Reflects ps o o') (k : Reflects qs o' o'') : Reflects (ps ++ qs) o o'' where
  host := k.host.trans h.host
  port := k.port.trans h.port
  user := k.user.trans h.user
  database := k.database.trans h.database
  sslMode := by
    have hfront := h.sslMode
    have hback := k.sslMode
    rw [lastValue?_append]
    cases hlast : lastValue? modeNames qs with
    | some value =>
      rw [hlast] at hback
      exact hback
    | none =>
      rw [hlast] at hback
      rw [Option.none_or, hback]
      exact hfront
  charset := by
    rw [lastValue?_append, k.charset, h.charset]
    cases lastValue? ["charset"] qs <;> rfl
  collation := by rw [lastValue?_append, k.collation, h.collation, Option.or_assoc]
  socket := by rw [lastValue?_append, k.socket, h.socket, Option.or_assoc]

/-- Properties leave nothing of options open. -/
theorem Reflects.unique (h : Reflects ps o o') (k : Reflects ps o o'') : o' = o'' := by
  have hmode : o'.sslMode = o''.sslMode := by
    have hfirst := h.sslMode
    have hsecond := k.sslMode
    cases hlast : lastValue? modeNames ps with
    | none =>
      rw [hlast] at hfirst hsecond
      exact hfirst.trans hsecond.symm
    | some value =>
      rw [hlast] at hfirst hsecond
      have hsome := SslMode.ofText?_eq_some_iff.mpr hfirst
      rw [SslMode.ofText?_eq_some_iff.mpr hsecond] at hsome
      exact (Option.some.inj hsome).symm
  exact ConnectOptions.ext (h.host.trans k.host.symm) (h.port.trans k.port.symm) (h.user.trans k.user.symm)
    (h.socket.trans k.socket.symm) (h.database.trans k.database.symm) hmode (h.charset.trans k.charset.symm)
    (h.collation.trans k.collation.symm)

/-- A property of another name changes no setting. -/
theorem Reflects.of_notMem (hmode : p.1 ∉ modeNames) (hcharset : p.1 ≠ "charset") (hcollation : p.1 ≠ "collation")
    (hsocket : p.1 ≠ "socket") (o : ConnectOptions) : Reflects [p] o o := by
  have hnone {names : List Text} (h : p.1 ∉ names) : lastValue? names [p] = none := by
    rw [lastValue?_singleton, if_neg h]
  refine ⟨rfl, rfl, rfl, rfl, ?_, ?_, ?_, ?_⟩
  · rw [hnone hmode]
  · rw [hnone (mt List.mem_singleton.mp hcharset)]
    rfl
  · rw [hnone (mt List.mem_singleton.mp hcollation), Option.none_or]
  · rw [hnone (mt List.mem_singleton.mp hsocket), Option.none_or]

theorem Refused.not_acceptable (h : Refused p reason) : ¬ Acceptable p := by
  rintro ⟨hmode, hcapacity⟩
  cases h with
  | sslMode hname hno =>
    obtain ⟨m, hm⟩ := hmode hname
    exact hno m hm
  | capacity hread =>
    obtain ⟨zeros, n, hn, rfl⟩ := hcapacity rfl
    have hle : n ≤ maxCapacity := Nat.le_pred_of_lt hn
    rw [Decimal.read_ofNatPadded zeros hle] at hread
    cases hread

/-- A property that is in order makes of options what is to be made of them, and another one is refused. -/
theorem withProperty_cases (hp : p.Plain) (o : ConnectOptions) :
    (Acceptable p ∧ ∃ o', o.withProperty p = .ok o' ∧ Reflects [p] o o') ∨
      ∃ reason, Refused p reason ∧ o.withProperty p = .error reason := by
  obtain ⟨name, value⟩ := p
  by_cases hmode : name = "ssl-mode" ∨ name = "sslmode"
  · have hname : name ∈ modeNames := by simpa only [modeNames, List.mem_cons, List.not_mem_nil, or_false] using hmode
    have hcapacity : name ≠ capacityName := by rcases hmode with rfl | rfl <;> decide
    rw [withProperty, if_pos hmode]
    cases hvalue : SslMode.ofText? value with
    | some mode =>
      have hmodeName := SslMode.ofText?_eq_some_iff.mp hvalue
      refine .inl ⟨⟨fun _ => ⟨mode, hmodeName⟩, fun h => absurd h hcapacity⟩, _, rfl, ?_⟩
      rcases hmode with rfl | rfl <;> exact ⟨rfl, rfl, rfl, rfl, hmodeName, rfl, rfl, rfl⟩
    | none =>
      refine .inr ⟨_, .sslMode hname fun m hm => ?_, rfl⟩
      rw [SslMode.ofText?_eq_some_iff.mpr hm] at hvalue
      cases hvalue
  · have hname : name ∉ modeNames := by simpa only [modeNames, List.mem_cons, List.not_mem_nil, or_false] using hmode
    have hkept (hcapacity : name ≠ capacityName) : Acceptable (name, value) :=
      ⟨fun h => absurd h hname, fun h => absurd h hcapacity⟩
    obtain rfl | hcharset := eq_or_ne name "charset"
    · exact .inl ⟨hkept (by decide), _, rfl, rfl, rfl, rfl, rfl, rfl, rfl, rfl, rfl⟩
    obtain rfl | hcollation := eq_or_ne name "collation"
    · exact .inl ⟨hkept (by decide), _, rfl, rfl, rfl, rfl, rfl, rfl, rfl, rfl, rfl⟩
    obtain rfl | hsocket := eq_or_ne name "socket"
    · exact .inl ⟨hkept (by decide), _, rfl, rfl, rfl, rfl, rfl, rfl, rfl, rfl, rfl⟩
    have hother : Reflects [(name, value)] o o := Reflects.of_notMem hname hcharset hcollation hsocket o
    rw [withProperty, if_neg hmode, if_neg hcharset, if_neg hcollation, if_neg hsocket]
    obtain rfl | hcapacity := eq_or_ne name "statement-cache-capacity"
    · rw [if_pos rfl]
      cases hread : Decimal.read maxCapacity value with
      | error reason => exact .inr ⟨_, .capacity hread, rfl⟩
      | ok n =>
        have hplus : value.head? ≠ some '+' := fun hhead =>
          absurd (hp.2 '+' (List.mem_of_mem_head? hhead)) (by decide)
        obtain ⟨hle, zeros, hvalue⟩ := (Decimal.read_eq_ok_iff hplus).mp hread
        exact .inl ⟨⟨fun h => absurd h hname, fun _ => ⟨zeros, n, Nat.lt_succ_of_le hle, hvalue⟩⟩, o, rfl, hother⟩
    · rw [if_neg hcapacity]
      exact .inl ⟨hkept hcapacity, o, rfl, hother⟩

end Steps

section Runs

/-- A run of properties makes of options what is to be made of them, unless one of them is not in order: then the
first such property says why. -/
theorem foldlM_withProperty_cases (hps : ∀ p ∈ ps, p.Plain) (o : ConnectOptions) :
    ((∀ p ∈ ps, Acceptable p) ∧ ∃ o', ps.foldlM withProperty o = .ok o' ∧ Reflects ps o o') ∨
      ∃ front p back reason, ps = front ++ p :: back ∧ (∀ q ∈ front, Acceptable q) ∧ Refused p reason ∧
        ps.foldlM withProperty o = .error reason := by
  induction ps generalizing o with
  | nil => exact .inl ⟨fun _ h => absurd h List.not_mem_nil, o, rfl, .nil o⟩
  | cons p ps ih =>
    obtain ⟨hp, hps⟩ := List.forall_mem_cons.mp hps
    rw [List.foldlM_cons]
    rcases withProperty_cases hp o with ⟨hacceptable, o', hstep, hreflects⟩ | ⟨reason, hrefused, hstep⟩
    · rw [hstep]
      rcases ih hps o' with ⟨hall, o'', hrun, hrest⟩ | ⟨front, q, back, reason, rfl, hfront, hrefused, hrun⟩
      · exact .inl ⟨List.forall_mem_cons.mpr ⟨hacceptable, hall⟩, o'', hrun, hreflects.append hrest⟩
      · exact .inr ⟨p :: front, q, back, reason, rfl, List.forall_mem_cons.mpr ⟨hacceptable, hfront⟩, hrefused, hrun⟩
    · rw [hstep]
      exact .inr ⟨[], p, ps, reason, rfl, fun _ h => absurd h List.not_mem_nil, hrefused, rfl⟩

theorem credential_nil : credential [] = .ok [] := by
  rw [credential, Percent.decode, Utf8.decode, Utf8.decodeOnto]
  rfl

/-- The properties of a connection come back from its query. -/
theorem formPairs_query {c : Connection} (hps : ∀ p ∈ ps, p.Plain) (h : c.properties = ps.map Property.written) :
    Percent.formPairs (c.query.drop 1) = ps := by
  have hquery : c.query.drop 1 = List.intercalate ['&'] (ps.map Property.written) := by
    rw [← h]
    rcases c.query_eq with ⟨hq, hnil⟩ | hq <;> rw [hq]
    · rw [hnil]
      rfl
    · rfl
  have hfree {p : Property} (hp : p ∈ ps) {d : Char} (hd : ¬ Percent.isPlain d) : d ∉ p.1 ∧ d ∉ p.2 :=
    ⟨Percent.notMem_of_isPlain (hps p hp).1 hd, Percent.notMem_of_isPlain (hps p hp).2 hd⟩
  have hfields : ∀ t ∈ ps.map Property.written, t ≠ [] ∧ '&' ∉ t := by
    intro t ht
    obtain ⟨p, hp, rfl⟩ := List.mem_map.mp ht
    refine ⟨by simp [Property.written], ?_⟩
    rw [Property.written, List.mem_append, List.mem_cons, not_or, not_or]
    exact ⟨(hfree hp (by decide)).1, by decide, (hfree hp (by decide)).2⟩
  have hread : ∀ p ∈ ps, (Percent.formDecode (p.written.takeWhile (· ≠ '=')),
      Percent.formDecode ((p.written.dropWhile (· ≠ '=')).drop 1)) = p := by
    intro p hp
    have hname := (hfree hp (d := '=') (by decide)).1
    rw [Property.written, Text.takeWhile_ne_append hname (Text.stopsAt_cons _ _),
      Text.dropWhile_ne_append hname (Text.stopsAt_cons _ _), List.drop_succ_cons, List.drop_zero,
      Percent.formDecode_eq_self (hps p hp).1, Percent.formDecode_eq_self (hps p hp).2]
  rw [Percent.formPairs, hquery, filter_splitOn_intercalate hfields, List.map_map]
  exact (List.map_congr_left hread).trans (List.map_id ps)

end Runs

end ConnectOptions

namespace Connection

variable {c : Connection} {u : Url} {ps : List ConnectOptions.Property}

/-- What is read of the URL decides the options, but for the user. -/
theorem connectOptions_of_read (h : Url.read c.url = .ok u) :
    c.connectOptions = match ConnectOptions.ofUrl u with
      | .ok o => .ok { o with user := c.user }
      | .error reason => .error ⟨c.url, reason⟩ := by
  unfold connectOptions
  rw [h]
  rfl

theorem connectOptions_eq (hne : c.host ≠ []) (hhost : ∀ d ∈ c.host, Percent.isPlain d) (hps : ∀ p ∈ ps, p.Plain)
    (h : c.properties = ps.map ConnectOptions.Property.written) :
    c.connectOptions = match ps.foldlM ConnectOptions.withProperty { host := c.host, port := c.port } with
      | .ok o => .ok { o with user := c.user }
      | .error reason => .error ⟨c.url, reason⟩ := by
  have hplain : c.Plain := by
    refine ⟨hne, hhost, fun t ht d hd => ?_⟩
    rw [h] at ht
    obtain ⟨p, hp, rfl⟩ := List.mem_map.mp ht
    rw [ConnectOptions.Property.written, List.mem_append, List.mem_cons] at hd
    rcases hd with hd | rfl | hd
    · exact .inl ((hps p hp).1 d hd)
    · exact .inr rfl
    · exact .inl ((hps p hp).2 d hd)
  have hoptions : ConnectOptions.ofUrl ⟨[], [], c.host, some c.port, [], c.query.drop 1⟩ =
      ps.foldlM ConnectOptions.withProperty { host := c.host, port := c.port } := by
    unfold ConnectOptions.ofUrl
    simp only [if_neg hne, ConnectOptions.formPairs_query hps h, ConnectOptions.credential_nil]
    rfl
  rw [connectOptions_of_read hplain.read_url, hoptions]

/-- A connection has connect options exactly if its properties are in order. They reflect the connection: host,
port and user are its own, and each setting is that of the last property of its name. Otherwise the first property
that is not in order says why there are none. -/
theorem connectOptions_reflect (hne : c.host ≠ []) (hhost : ∀ d ∈ c.host, Percent.isPlain d)
    (hps : ∀ p ∈ ps, p.Plain) (h : c.properties = ps.map ConnectOptions.Property.written) :
    ((∃ o, c.connectOptions = .ok o) ↔ ∀ p ∈ ps, ConnectOptions.Acceptable p) ∧
      (∀ o, c.connectOptions = .ok o →
        ConnectOptions.Reflects ps { host := c.host, port := c.port, user := c.user } o) ∧
      ∀ f, c.connectOptions = .error f → f.url = c.url ∧
        ∃ front p back, ps = front ++ p :: back ∧ (∀ q ∈ front, ConnectOptions.Acceptable q) ∧
          ConnectOptions.Refused p f.reason := by
  rw [connectOptions_eq hne hhost hps h]
  rcases ConnectOptions.foldlM_withProperty_cases hps { host := c.host, port := c.port } with
    ⟨hall, o, hrun, hreflects⟩ | ⟨front, p, back, reason, rfl, hfront, hrefused, hrun⟩
  · rw [hrun]
    refine ⟨iff_of_true ⟨_, rfl⟩ hall, ?_, ?_⟩
    · rintro _ ⟨⟩
      exact ⟨hreflects.host, hreflects.port, rfl, hreflects.database, hreflects.sslMode, hreflects.charset,
        hreflects.collation, hreflects.socket⟩
    · rintro _ ⟨⟩
  · rw [hrun]
    refine ⟨iff_of_false ?_ ?_, ?_, ?_⟩
    · rintro ⟨_, ⟨⟩⟩
    · exact fun hall => hrefused.not_acceptable (hall p (by simp))
    · rintro _ ⟨⟩
    · rintro _ ⟨⟩
      exact ⟨rfl, front, p, back, rfl, hfront, hrefused⟩

/-- Settings that come more than once, a capacity with zeros in front and a property of no name. -/
theorem connectOptions_reflect_repeated :
    let ps : List ConnectOptions.Property := [("ssl-mode", "Verify_CA"), ("socket", "a.sock"),
      ("sslmode", "REQUIRED"), ("", "b"), ("statement-cache-capacity", "007"), ("socket", [])]
    let c : Connection :=
      { host := "db-1.test", port := 1, user := "a@b", properties := ps.map ConnectOptions.Property.written }
    ∃ o, c.connectOptions = .ok o ∧
      o = { host := "db-1.test", port := 1, user := "a@b", sslMode := .required, socket := some [] } := by
  intro ps c
  obtain ⟨hsuccess, hreflects, -⟩ :=
    @connectOptions_reflect c ps (by decide) (List.all_eq_true.mp (by decide)) (by decide) rfl
  have hacceptable : ∀ p ∈ ps, ConnectOptions.Acceptable p := by
    simp only [ps, List.forall_mem_cons]
    refine ⟨⟨fun _ => ⟨.verifyCa, by decide⟩, fun h => absurd h (by decide)⟩,
      ⟨fun h => absurd h (by decide), fun h => absurd h (by decide)⟩,
      ⟨fun _ => ⟨.required, by decide⟩, fun h => absurd h (by decide)⟩,
      ⟨fun h => absurd h (by decide), fun h => absurd h (by decide)⟩,
      ⟨fun h => absurd h (by decide), fun _ => ⟨2, 7, by decide, by decide⟩⟩,
      ⟨fun h => absurd h (by decide), fun h => absurd h (by decide)⟩, fun _ h => absurd h List.not_mem_nil⟩
  obtain ⟨o, ho⟩ := hsuccess.mpr hacceptable
  exact ⟨o, ho, (hreflects o ho).unique ⟨rfl, rfl, rfl, rfl, rfl, rfl, rfl, rfl⟩⟩

end Connection

end SchemaDrift
