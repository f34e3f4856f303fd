import SchemaDrift.Proofs.Server.UrlQuery

namespace SchemaDrift

namespace Decimal

variable {limit value n : Nat} {c : Char} {t : Text} {e : DecimalFault}

theorem digit?_eq_some_iff {d : Nat} : digit? c = some d ↔ c.isDigit ∧ c.toNat - '0'.toNat = d := by
  rw [digit?, Option.ite_none_right_eq_some, Option.some.injEq, Char.isDigit_iff_toNat]
  exact Iff.rfl

theorem digit?_eq_none_iff : digit? c = none ↔ ¬ c.isDigit := by
  rw [digit?, ite_eq_right_iff, Char.isDigit_iff_toNat]
  simp
  exact Iff.rfl

/-- Digits that bring the number which they go on with nowhere above the limit. -/
structure Within (limit value : Nat) (ds : Text) : Prop where
  digits : ∀ c ∈ ds, c.isDigit
  bound : Nat.ofDigitChars 10 ds value ≤ limit

/-- The fault at which the reading of digits stops: digits within the limit are followed by a character that is no
digit, or by one that brings the number above the limit. -/
def Stops (limit value : Nat) (t : Text) (e : DecimalFault) : Prop :=
  ∃ ds c rest, t = ds ++ c :: rest ∧ Within limit value ds ∧
    (¬ c.isDigit ∧ e = .invalidDigit ∨ c.isDigit ∧ limit < Nat.ofDigitChars 10 (ds ++ [c]) value ∧ e = .tooLarge)

theorem le_ofDigitChars (ds : Text) (value : Nat) : value ≤ Nat.ofDigitChars 10 ds value := by
  induction ds generalizing value with
  | nil => exact Nat.le_refl value
  | cons c ds ih =>
    rw [Nat.ofDigitChars_cons]
    have hrest := ih (10 * value + (c.toNat - '0'.toNat))
    omega

theorem within_nil (hv : value ≤ limit) : Within limit value [] := ⟨fun _ hc => absurd hc List.not_mem_nil, hv⟩

theorem within_cons_iff : Within limit value (c :: t) ↔
    c.isDigit ∧ Within limit (10 * value + (c.toNat - '0'.toNat)) t := by
  constructor
  · rintro ⟨hdigits, hbound⟩
    exact ⟨hdigits c List.mem_cons_self, fun d hd => hdigits d (List.mem_cons_of_mem c hd), hbound⟩
  · rintro ⟨hc, hdigits, hbound⟩
    refine ⟨fun d hd => ?_, hbound⟩
    rcases List.mem_cons.mp hd with rfl | hd
    · exact hc
    · exact hdigits d hd

/-- What digits are read as: the number they write behind the value, as long as it stays within the limit. -/
theorem readDigits_eq_ok_iff_within (hv : value ≤ limit) :
    readDigits limit value t = .ok n ↔ Within limit value t ∧ Nat.ofDigitChars 10 t value = n := by
  induction t generalizing value with
  | nil => simp [readDigits, within_nil hv, Nat.ofDigitChars]
  | cons c t ih =>
    rw [readDigits, within_cons_iff, Nat.ofDigitChars_cons]
    split
    case h_1 hc =>
      have hforeign := digit?_eq_none_iff.mp hc
      simp [hforeign]
    case h_2 d hd =>
      obtain ⟨hc, rfl⟩ := digit?_eq_some_iff.mp hd
      have hle := le_ofDigitChars t (10 * value + (c.toNat - '0'.toNat))
      rw [and_iff_right hc]
      generalize 10 * value + (c.toNat - '0'.toNat) = next at hle ⊢
      split
      case isTrue habove =>
        have hnot : ¬ Within limit next t := fun hwithin => absurd hwithin.bound (by omega)
        simp [hnot]
      case isFalse hbelow => exact ih (Nat.not_lt.mp hbelow)

theorem not_stops_nil : ¬ Stops limit value [] e := by
  rintro ⟨ds, c, rest, h, -⟩
  cases ds <;> cases h

/-- The first character stops the reading, or the reading goes on with the number that it makes. -/
theorem stops_cons_iff (hv : value ≤ limit) : Stops limit value (c :: t) e ↔
    ¬ c.isDigit ∧ e = .invalidDigit ∨
    c.isDigit ∧ limit < 10 * value + (c.toNat - '0'.toNat) ∧ e = .tooLarge ∨
    c.isDigit ∧ 10 * value + (c.toNat - '0'.toNat) ≤ limit ∧ Stops limit (10 * value + (c.toNat - '0'.toNat)) t e := by
  constructor
  · rintro ⟨ds, d, rest, h, front, hfault⟩
    cases ds with
    | nil =>
      obtain ⟨rfl, rfl⟩ := List.cons.inj h
      exact hfault.imp_right .inl
    | cons b ds =>
      obtain ⟨rfl, rfl⟩ := List.cons.inj h
      obtain ⟨hc, hrest⟩ := within_cons_iff.mp front
      have hle := (le_ofDigitChars ds _).trans hrest.bound
      exact .inr (.inr ⟨hc, hle, ds, d, rest, rfl, hrest, hfault⟩)
  · rintro (⟨hc, rfl⟩ | ⟨hc, habove, rfl⟩ | ⟨hc, -, ds, d, rest, rfl, hrest, hfault⟩)
    · exact ⟨[], c, t, rfl, within_nil hv, .inl ⟨hc, rfl⟩⟩
    · exact ⟨[], c, t, rfl, within_nil hv, .inr ⟨hc, habove, rfl⟩⟩
    · exact ⟨c :: ds, d, rest, rfl, within_cons_iff.mpr ⟨hc, hrest⟩, hfault⟩

/-- Why digits are not read: the first character that is no digit, or that brings the number above the limit. -/
theorem readDigits_eq_error_iff (hv : value ≤ limit) : readDigits limit value t = .error e ↔ Stops limit value t e := by
  induction t generalizing value with
  | nil => simp [readDigits, not_stops_nil]
  | cons c t ih =>
    rw [readDigits, stops_cons_iff hv]
    split
    case h_1 hc =>
      have hforeign := digit?_eq_none_iff.mp hc
      simp [hforeign, eq_comm]
    case h_2 d hd =>
      obtain ⟨hc, rfl⟩ := digit?_eq_some_iff.mp hd
      generalize 10 * value + (c.toNat - '0'.toNat) = next
      split
      case isTrue habove => simp [hc, habove, Nat.not_le.mpr habove, eq_comm]
      case isFalse hbelow => simp [hc, hbelow, Nat.not_lt.mp hbelow, ih (Nat.not_lt.mp hbelow)]

/-- A text without its plus sign, if it starts with one. -/
def unsigned : Text → Text
  | '+' :: t => t
  | t => t

theorem unsigned_eq_self (h : ∀ r, t ≠ '+' :: r) : unsigned t = t := by
  unfold unsigned
  split
  next r => exact absurd rfl (h r)
  next => rfl

/-- A text is empty, it is a plus sign alone, or its digits are read behind the sign that it may have. -/
theorem read_cases (limit : Nat) (t : Text) :
    t = [] ∧ read limit t = .error .empty ∨ t = ['+'] ∧ read limit t = .error .invalidDigit ∨
      unsigned t ≠ [] ∧ read limit t = readDigits limit 0 (unsigned t) := by
  unfold read
  split
  case h_1 => exact .inl ⟨rfl, rfl⟩
  case h_2 => exact .inr (.inl ⟨rfl, rfl⟩)
  case h_3 r hr => exact .inr (.inr ⟨hr, rfl⟩)
  case h_4 hne _ hsigned =>
    rw [unsigned_eq_self hsigned]
    exact .inr (.inr ⟨hne, rfl⟩)

/-- What a text is read as: behind one optional plus sign come digits, at least one, that write a number up to
the limit. -/
theorem read_eq_ok_iff_within : read limit t = .ok n ↔
    unsigned t ≠ [] ∧ Within limit 0 (unsigned t) ∧ Nat.ofDigitChars 10 (unsigned t) 0 = n := by
  rcases read_cases limit t with ⟨rfl, hread⟩ | ⟨rfl, hread⟩ | ⟨hne, hread⟩
  · simp [hread, unsigned]
  · simp [hread, unsigned]
  · rw [hread, readDigits_eq_ok_iff_within (Nat.zero_le limit), and_iff_right hne]

/-- Why a text is not read. -/
theorem read_eq_error_iff : read limit t = .error e ↔
    t = [] ∧ e = .empty ∨ t = ['+'] ∧ e = .invalidDigit ∨ Stops limit 0 (unsigned t) e := by
  rcases read_cases limit t with ⟨rfl, hread⟩ | ⟨rfl, hread⟩ | ⟨hne, hread⟩
  · simp [hread, unsigned, not_stops_nil, eq_comm]
  · simp [hread, unsigned, not_stops_nil, eq_comm]
  · have hempty : t ≠ [] := by
      rintro rfl
      exact hne rfl
    have hsign : t ≠ ['+'] := by
      rintro rfl
      exact hne rfl
    simp [hread, hempty, hsign, readDigits_eq_error_iff (Nat.zero_le limit)]

end Decimal

namespace Port

variable {p : Port} {t : Text} {e : DecimalFault}

/-- The texts that name a port: digits that write its number, at least one and any zeros in front, behind a plus
sign or without one. -/
def IsWritten (t : Text) (p : Port) : Prop :=
  ∃ ds, (t = ds ∨ t = '+' :: ds) ∧ ds ≠ [] ∧ (∀ d ∈ ds, d.isDigit) ∧ Nat.ofDigitChars 10 ds 0 = p.val

theorem read_eq_ok_iff_isWritten : read t = .ok p ↔ IsWritten t p := by
  rw [read_eq_ok_iff, Decimal.read_eq_ok_iff_within]
  constructor
  · rintro ⟨hne, hwithin, hvalue⟩
    refine ⟨Decimal.unsigned t, ?_, hne, hwithin.digits, hvalue⟩
    unfold Decimal.unsigned
    split
    · exact .inr rfl
    · exact .inl rfl
  · rintro ⟨ds, ht, hne, hdigits, hvalue⟩
    have hunsigned : Decimal.unsigned t = ds := by
      rcases ht with rfl | rfl
      · refine Decimal.unsigned_eq_self ?_
        rintro r rfl
        exact absurd (hdigits '+' List.mem_cons_self) (by decide)
      · rfl
    rw [hunsigned]
    exact ⟨hne, ⟨hdigits, hvalue ▸ Nat.le_of_lt_succ p.isLt⟩, hvalue⟩

theorem read_eq_error_iff : read t = .error e ↔ Decimal.read 65535 t = .error e := by
  unfold read
  split
  next f h => simp [h]
  next n h => simp [h]

end Port

/-- A text without the marks at which a URL is taken apart. -/
structure ServerUrl.IsUnmarked (t : Text) : Prop where
  colon : ':' ∉ t
  slash : '/' ∉ t
  question : '?' ∉ t

namespace Connection

open ServerUrl (IsUnmarked)

variable {b : Connection} {f : PortFault} {url host port : Text}

/-- A URL fails for its port alone. -/
theorem withUrl_eq_error_iff : b.withUrl url = .error f ↔
    (ServerUrl.ofText (withoutScheme url)).port = some f.port ∧ Port.read f.port = .error f.reason ∧
      f.url = withoutScheme url := by
  rcases f with ⟨t, rest, reason⟩
  rw [withUrl]
  generalize ServerUrl.ofText (withoutScheme url) = parts
  cases hport : parts.port with
  | none => simp
  | some u =>
    cases hread : Port.read u with
    | ok p =>
      simp only [hread, reduceCtorEq, Option.some.injEq, false_iff]
      rintro ⟨rfl, herror, -⟩
      rw [hread] at herror
      cases herror
    | error cause =>
      simp only [hread, Except.error.injEq, PortFault.mk.injEq, Option.some.injEq]
      constructor
      · rintro ⟨rfl, rfl, rfl⟩
        exact ⟨rfl, hread, rfl⟩
      · rintro ⟨rfl, herror, rfl⟩
        rw [hread] at herror
        cases herror
        exact ⟨rfl, rfl, rfl⟩

/-- A host and a port text are read as they are when neither has a mark of a URL. -/
theorem ofText_host_port (hhost : IsUnmarked host) (hport : IsUnmarked port) :
    withoutScheme (host ++ ':' :: port) = host ++ ':' :: port ∧
      ServerUrl.ofText (host ++ ':' :: port) = ⟨host, some port, []⟩ := by
  have hmark {m : Char} (hm : m ∉ host) (hne : m ≠ ':') (hm' : m ∉ port) : m ∉ host ++ ':' :: port := by
    rw [List.mem_append, List.mem_cons, not_or, not_or]
    exact ⟨hm, hne, hm'⟩
  have hslash := hmark hhost.slash (by decide) hport.slash
  have hquestion := hmark hhost.question (by decide) hport.question
  have hall {m : Char} (hm : m ∉ host ++ ':' :: port) : (host ++ ':' :: port).takeWhile (· ≠ m) = host ++ ':' :: port ∧
      (host ++ ':' :: port).dropWhile (· ≠ m) = [] := by
    have htake := Text.takeWhile_ne_append (s := []) hm (by rintro d ⟨⟩)
    have hdrop := Text.dropWhile_ne_append (s := []) hm (by rintro d ⟨⟩)
    rw [List.append_nil] at htake hdrop
    exact ⟨htake, hdrop⟩
  have hpieces : (host ++ ':' :: port).splitOn ':' = [host, port] := by
    rw [List.splitOn_append_cons_self_of_not_mem hhost.colon, List.splitOn_eq_singleton hport.colon]
  constructor
  · refine withoutScheme_eq_self fun hscheme => hslash ?_
    exact (List.takeWhile_prefix _).subset (hscheme.subset (by decide))
  · rw [ServerUrl.ofText]
    simp only [(hall hquestion).1, (hall hquestion).2, (hall hslash).1, hpieces]
    rfl

/-- A port text behind a host is read exactly. It is taken if digits, behind one plus sign or without one, write
a number of sixteen bits, and then that number is the port. Else the reason of the fault is that the text is
empty, that the sign stands alone, or the first character from the left that is no digit or brings the number
above sixteen bits. -/
theorem withUrl_port (hhost : IsUnmarked host) (hport : IsUnmarked port) (b : Connection) :
    (∀ c, b.withUrl (host ++ ':' :: port) = .ok c ↔
      ∃ p : Port, Port.IsWritten port p ∧ c = { b with host, port := p }) ∧
    (∀ f, b.withUrl (host ++ ':' :: port) = .error f ↔
      (port = [] ∧ f.reason = .empty ∨ port = ['+'] ∧ f.reason = .invalidDigit ∨
        Decimal.Stops 65535 0 (Decimal.unsigned port) f.reason) ∧
      f.port = port ∧ f.url = host ++ ':' :: port) := by
  obtain ⟨hscheme, hparts⟩ := ofText_host_port hhost hport
  constructor
  · intro c
    simp only [withUrl_eq_ok_iff, hscheme, hparts, ServerUrl.portOr, Port.read_eq_ok_iff_isWritten, List.append_nil]
  · intro f
    rw [withUrl_eq_error_iff, hscheme, hparts, ← Decimal.read_eq_error_iff, ← Port.read_eq_error_iff, Option.some.injEq]
    constructor
    · rintro ⟨rfl, hread, hurl⟩
      exact ⟨hread, rfl, hurl⟩
    · rintro ⟨hread, rfl, hurl⟩
      exact ⟨rfl, hread, hurl⟩

/-- The largest port behind a sign and zeros, and a text of as many digits that goes too far in front of a letter. -/
theorem withUrl_port_bounds :
    let host : Text := "db\n"
    let c : Connection := { user := "u" }
    IsUnmarked host ∧ IsUnmarked "+0065535" ∧ IsUnmarked "65536x" ∧
      c.withUrl (host ++ ':' :: "+0065535") = .ok { c with host, port := 65535 } ∧
      c.withUrl (host ++ ':' :: "65536x") = .error ⟨"65536x", host ++ ':' :: "65536x", .tooLarge⟩ := by
  intro host c
  have hhost : IsUnmarked host := ⟨by decide, by decide, by decide⟩
  have hlargest : IsUnmarked "+0065535" := ⟨by decide, by decide, by decide⟩
  have habove : IsUnmarked "65536x" := ⟨by decide, by decide, by decide⟩
  refine ⟨hhost, hlargest, habove, ?_, ?_⟩
  · refine ((withUrl_port hhost hlargest c).1 _).mpr ⟨65535, ⟨"0065535", .inr rfl, by decide, ?_, by decide⟩, rfl⟩
    exact List.all_eq_true.mp (by decide)
  · refine ((withUrl_port hhost habove c).2 _).mpr ⟨.inr (.inr ?_), rfl, rfl⟩
    have hfront : Decimal.Within 65535 0 "6553" := ⟨List.all_eq_true.mp (by decide), by decide⟩
    exact ⟨"6553", '6', "x", rfl, hfront, .inr ⟨by decide, by decide, rfl⟩⟩

end Connection
end SchemaDrift
