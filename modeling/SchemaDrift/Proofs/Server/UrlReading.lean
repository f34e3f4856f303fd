import SchemaDrift.Proofs.Server.ConnectionUrl
import SchemaDrift.Proofs.Text.Words
import SchemaDrift.Server.Url

namespace SchemaDrift

/-- Whether a character stands for itself wherever it comes in a URL. -/
def Percent.isPlain (c : Char) : Bool := c.isAlphanum || c = '-' || c = '_' || c = '.'

section Characters

variable {c : Char} {t : Text}

theorem Percent.bounds_of_isPlain (h : Percent.isPlain c) : 0x20 < c.toNat ∧ c.toNat < 0x7F := by
  change ((decide (c.val ≥ 'A'.val ∧ c.val ≤ 'Z'.val) || (decide (c.val ≥ 'a'.val) && decide (c.val ≤ 'z'.val)) ||
    (decide (c.val ≥ '0'.val) && decide (c.val ≤ '9'.val))) || decide (c = '-') || decide (c = '_') ||
    decide (c = '.')) = true at h
  simp only [Bool.or_eq_true, Bool.and_eq_true, decide_eq_true_eq, UInt32.le_iff_toNat_le, ge_iff_le] at h
  change (((((65 ≤ c.toNat ∧ c.toNat ≤ 90) ∨ (97 ≤ c.toNat ∧ c.toNat ≤ 122)) ∨
    (48 ≤ c.toNat ∧ c.toNat ≤ 57)) ∨ c = '-') ∨ c = '_') ∨ c = '.' at h
  rcases h with ((((h | h) | h) | rfl) | rfl) | rfl
  · omega
  · omega
  · omega
  all_goals decide

theorem Percent.isPlain_of_isDigit (h : c.isDigit) : isPlain c := by
  simp only [isPlain, Char.isAlphanum, h, Bool.or_true, Bool.true_or]

/-- A plain text is free of the marks of a URL. -/
theorem Percent.notMem_of_isPlain (h : ∀ c ∈ t, isPlain c) (hc : ¬ isPlain c) : c ∉ t := fun hmem => hc (h c hmem)

/-- An ASCII text comes back from its bytes. -/
theorem Utf8.decodeLossyOnto_encode (h : ∀ c ∈ t, c.toNat < 0x80) (done : Text) :
    decodeLossyOnto done (encode t) = done.reverse ++ t := by
  induction t generalizing done with
  | nil => rw [encode, List.flatMap_nil, decodeLossyOnto, List.append_nil]
  | cons c t ih =>
    obtain ⟨hc, ht⟩ := List.forall_mem_cons.mp h
    have hbyte : (UInt8.ofNat c.toNat).toNat = c.toNat := by
      rw [UInt8.toNat_ofNat']
      omega
    have hfront : front (UInt8.ofNat c.toNat) (encode t) = .char c 1 := by
      unfold front
      rw [if_pos (by rw [UInt8.lt_iff_toNat_lt, hbyte]; exact hc), hbyte, Char.ofNat_toNat]
    have hencode : encode (c :: t) = UInt8.ofNat c.toNat :: encode t := by
      rw [encode, List.flatMap_cons, encodeChar, if_pos hc]
      rfl
    rw [hencode, decodeLossyOnto, hfront]
    change decodeLossyOnto (c :: done) (encode t) = _
    rw [ih ht, List.reverse_cons, List.append_assoc, List.singleton_append]

theorem Percent.decode_eq_encode (h : '%' ∉ t) : decode t = Utf8.encode t := by
  induction t with
  | nil => rfl
  | cons c t ih =>
    obtain ⟨hc, ht⟩ := List.ne_and_not_mem_of_not_mem_cons h
    rw [decode.eq_2 _ _ fun a b r he => absurd he.symm hc, ih ht]
    rfl

/-- A plain text stands for itself in a form. -/
theorem Percent.formDecode_eq_self (h : ∀ c ∈ t, isPlain c) : formDecode t = t := by
  have hplus : t.map (fun c => if c = '+' then ' ' else c) = t := by
    refine (List.map_congr_left fun c hc => if_neg ?_).trans (List.map_id t)
    rintro rfl
    exact notMem_of_isPlain h (by decide) hc
  rw [formDecode, hplus, decode_eq_encode (notMem_of_isPlain h (by decide)), Utf8.decodeLossy,
    Utf8.decodeLossyOnto_encode]
  · rfl
  · intro c hc
    have hbounds := bounds_of_isPlain (h c hc)
    omega

/-- Nothing of a text that is free of blanks and controls is invisible in a URL. -/
theorem Url.visible_eq_self (h : ∀ c ∈ t, 0x20 < c.toNat) : visible t = t := by
  have hends : Text.trimBoth (·.toNat ≤ 0x20) t = t := by
    by_cases hne : t = []
    · rw [hne]
      rfl
    · have hpast : ∀ c ∈ t, ¬ decide (c.toNat ≤ 0x20) = true := by
        intro c hc
        rw [decide_eq_true_iff]
        exact Nat.not_le.mpr (h c hc)
      have hall := Text.trimBoth_append (a := []) (b := []) (p := (·.toNat ≤ 0x20)) (s := t) (by simp) (by simp)
        (fun c hc => hpast c (List.mem_of_mem_head? hc)) (fun c hc => hpast c (List.mem_of_mem_getLast? hc)) hne
      rwa [List.nil_append, List.append_nil] at hall
  rw [visible, hends, List.filter_eq_self]
  intro c hc
  have hc := h c hc
  have hne {d : Char} (hd : d.toNat ≤ 0x20) : decide (c ≠ d) = true := by
    rw [decide_eq_true_iff]
    rintro rfl
    omega
  rw [hne (by decide), hne (by decide), hne (by decide)]
  rfl

end Characters

section Parts

variable {host digits t : Text} {p : Port}

theorem Url.splitUser_of_notMem (h : '@' ∉ t) : splitUser t = (none, t) := by
  have hnone : Text.beforeLast? '@' t = none := by
    rw [Option.eq_none_iff_forall_ne_some]
    intro a ha
    obtain ⟨b, rfl, -⟩ := Text.beforeLast?_eq_some_iff.mp ha
    exact h (by simp)
  rw [splitUser, hnone]

/-- A host without brackets ends at the first colon. -/
theorem Url.hostPart_append (hcolon : ':' ∉ host) (hopen : '[' ∉ host) (hclose : ']' ∉ host) (t : Text) :
    hostPart false (host ++ ':' :: t) = host := by
  induction host with
  | nil => rfl
  | cons c host ih =>
    obtain ⟨hcolon, hcolons⟩ := List.ne_and_not_mem_of_not_mem_cons hcolon
    obtain ⟨hopen, hopens⟩ := List.ne_and_not_mem_of_not_mem_cons hopen
    obtain ⟨hclose, hcloses⟩ := List.ne_and_not_mem_of_not_mem_cons hclose
    have hgo : ¬ (decide (c = ':') && !false) = true := by simp [hcolon.symm]
    rw [List.cons_append, hostPart, if_neg hgo, if_neg hopen.symm, if_neg hclose.symm,
      ih hcolons hopens hcloses]

theorem Url.readHost_of_isPlain (h : ∀ c ∈ host, Percent.isPlain c) : readHost host = .ok host := by
  have hforbidden : ¬ host.any isForbiddenInHost = true := by
    rw [List.any_eq_true]
    rintro ⟨c, hc, hf⟩
    have hf := List.contains_iff_mem.mp hf
    have hmarks : ['\x00', ' ', '<', '>', '@', '[', '\\', ']', '^', '|', ':'].all (!Percent.isPlain ·) = true := by
      decide
    have hplain := List.all_eq_true.mp hmarks c hf
    rw [h c hc] at hplain
    cases hplain
  have hcontrol : Percent.encode Percent.isControl host = host := by
    rw [Percent.encode, List.flatMap_congr (g := fun c => [c]), List.flatMap_singleton']
    intro c hc
    obtain ⟨hlow, hhigh⟩ := Percent.bounds_of_isPlain (h c hc)
    refine if_neg ?_
    rw [Percent.isControl, Bool.or_eq_true, decide_eq_true_iff, decide_eq_true_iff]
    omega
  have hbracket : ∀ r, host ≠ '[' :: r := by
    rintro r rfl
    exact absurd (h '[' List.mem_cons_self) (by decide)
  rw [readHost.eq_2 host fun r he => hbracket r he, if_neg hforbidden, hcontrol]

theorem Url.readPort_append (h : Text.StopsAt '?' t) (p : Port) : readPort (p.text ++ t) = .ok (some p, t) := by
  have hdigit : ∀ c ∈ p.text, c.isDigit := fun c hc => Port.isDigit_of_mem_text hc
  have hstop : ∀ c ∈ t.head?, ¬ c.isDigit := by
    intro c hc
    rw [h c hc]
    decide
  have hdrop : (p.text ++ t).dropWhile Char.isDigit = t := Text.dropWhile_append_of_head hdigit hstop
  have htake : (p.text ++ t).takeWhile Char.isDigit = p.text := Text.takeWhile_append_of_head hdigit hstop
  have hend : (decide (t = []) || t.head?.any fun c => endsAuthority c || c = '\\') = true := by
    cases t with
    | nil => rfl
    | cons c t =>
      rw [h c rfl]
      rfl
  have hne : p.text ≠ [] := Text.ofNatPadded_ne_nil 0 p.val
  have hread : Port.read p.text = .ok p := Port.read_ofNatPadded 0 p
  simp only [readPort, htake, hdrop, hend, hne, hread, if_true, if_false]

end Parts

namespace Connection

variable {c : Connection}

/-- A connection whose URL is read as it is written. -/
structure Plain (c : Connection) : Prop where
  host_ne : c.host ≠ []
  host : ∀ d ∈ c.host, Percent.isPlain d
  properties : ∀ p ∈ c.properties, ∀ d ∈ p, Percent.isPlain d ∨ d = '='

/-- A query holds its question mark and its ampersands besides what the properties hold. -/
theorem Plain.mem_query (h : c.Plain) {d : Char} (hd : d ∈ c.query) :
    Percent.isPlain d ∨ d = '=' ∨ d = '&' ∨ d = '?' := by
  rcases c.query_eq with ⟨hq, -⟩ | hq <;> rw [hq] at hd
  · cases hd
  · rcases List.mem_cons.mp hd with rfl | hd
    · exact .inr (.inr (.inr rfl))
    · rcases Text.mem_of_mem_intercalate hd with hd | ⟨p, hp, hd⟩
      · exact .inr (.inr (.inl (List.mem_singleton.mp hd)))
      · exact (h.properties p hp d hd).imp_right .inl

theorem isPlain_of_mem_port {d : Char} {p : Port} (h : d ∈ p.text) : Percent.isPlain d :=
  Percent.isPlain_of_isDigit (Port.isDigit_of_mem_text h)

theorem Plain.mem_url (h : c.Plain) {d : Char} (hd : d ∈ c.url) :
    Percent.isPlain d ∨ d ∈ [':', '/', '=', '&', '?'] := by
  have hscheme : ∀ d ∈ ("mysql://" : Text), Percent.isPlain d ∨ d ∈ [':', '/', '=', '&', '?'] := by
    intro d hd
    have hmarks : ("mysql://" : Text).all (fun d => Percent.isPlain d || [':', '/', '=', '&', '?'].contains d) := by
      decide
    have hd := List.all_eq_true.mp hmarks d hd
    rwa [Bool.or_eq_true, List.contains_iff_mem] at hd
  change d ∈ ("mysql://" : Text) ++ c.host ++ [':'] ++ c.port.text ++ c.query at hd
  simp only [List.mem_append] at hd
  rcases hd with (((hd | hd) | hd) | hd) | hd
  · exact hscheme d hd
  · exact .inl (h.host d hd)
  · exact .inr (by simp [List.mem_singleton.mp hd])
  · exact .inl (isPlain_of_mem_port hd)
  · rcases h.mem_query hd with hd | rfl | rfl | rfl
    · exact .inl hd
    all_goals exact .inr (by decide)

theorem Plain.visible_url (h : c.Plain) : Url.visible c.url = c.url := by
  refine Url.visible_eq_self fun d hd => ?_
  have hmarks : [':', '/', '=', '&', '?'].all (0x20 < ·.toNat) := by decide
  rcases h.mem_url hd with hd | hd
  · exact (Percent.bounds_of_isPlain hd).1
  · exact of_decide_eq_true (List.all_eq_true.mp hmarks d hd)

/-- The URL of a plain connection is read as the parts it is made of. -/
theorem Plain.read_url (h : c.Plain) : Url.read c.url =
    .ok { user := [], password := [], host := c.host, port := some c.port, path := [], query := c.query.drop 1 } := by
  have hplain {d : Char} (hd : ¬ Percent.isPlain d) : d ∉ c.host := Percent.notMem_of_isPlain h.host hd
  have hstop : Text.StopsAt '?' c.query := by
    rcases c.query_eq with ⟨hq, -⟩ | hq <;> rw [hq]
    · rintro d ⟨⟩
    · exact Text.stopsAt_cons _ _
  have hbehind : c.url.drop Url.scheme.length = (c.host ++ ':' :: c.port.text) ++ c.query := by
    change (("mysql://" : Text) ++ c.host ++ (":" : Text) ++ c.port.text ++ c.query).drop ("mysql://" : Text).length = _
    rw [List.append_assoc, List.append_assoc, List.append_assoc, List.drop_left, List.append_assoc]
    rfl
  have hfree {d : Char} (hd : ¬ Percent.isPlain d) (hne : d ≠ ':') : d ∉ c.host ++ ':' :: c.port.text := by
    rw [List.mem_append, List.mem_cons, not_or, not_or]
    exact ⟨hplain hd, hne, fun hmem => hd (isPlain_of_mem_port hmem)⟩
  -- the authority ends where the query begins
  have hauthority : ∀ d ∈ c.host ++ ':' :: c.port.text, (!Url.endsAuthority d) = true := by
    intro d hd
    have hne {e : Char} (he : ¬ Percent.isPlain e) (hcolon : e ≠ ':') : decide (d = e) = false :=
      decide_eq_false fun h => hfree he hcolon (h ▸ hd)
    rw [Url.endsAuthority, hne (by decide) (by decide), hne (by decide) (by decide), hne (by decide) (by decide)]
    rfl
  have hend : ∀ d ∈ c.query.head?, ¬ (!Url.endsAuthority d) = true := by
    intro d hd
    rw [hstop d hd]
    decide
  have htake := Text.takeWhile_append_of_head hauthority hend
  have hdrop := Text.dropWhile_append_of_head hauthority hend
  have huser := Url.splitUser_of_notMem (hfree (d := '@') (by decide) (by decide))
  have hhost : Url.hostPart false (c.host ++ ':' :: c.port.text) = c.host :=
    Url.hostPart_append (hplain (by decide)) (hplain (by decide)) (hplain (by decide)) c.port.text
  have hpath : c.query.takeWhile (fun d => d ≠ '?' && d ≠ '#') = [] := by
    rcases c.query_eq with ⟨hq, -⟩ | hq <;> rw [hq] <;> rfl
  have hquery : c.query.takeWhile (· ≠ '#') = c.query := by
    have hmark : '#' ∉ c.query := fun hd => absurd (h.mem_query hd) (by decide)
    have hall := Text.takeWhile_ne_append (s := []) hmark (by rintro d ⟨⟩)
    rwa [List.append_nil] at hall
  have hport := Url.readPort_append hstop c.port
  rw [Url.read, h.visible_url, hbehind]
  simp only [htake, hdrop, huser, hhost, Url.readHost_of_isPlain h.host, List.drop_left, List.cons_append,
    List.head?_cons, List.drop_succ_cons, List.drop_zero, hport, bind, Except.bind, h.host_ne, Option.getD_none,
    decide_false, decide_true, Bool.false_and, reduceCtorEq, hpath, hquery, if_true,
    Bool.false_eq_true, if_false, List.length_nil, List.takeWhile_nil, List.dropWhile_nil, List.drop_nil]
  rfl

end Connection

end SchemaDrift
