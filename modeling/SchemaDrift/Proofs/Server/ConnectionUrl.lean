import SchemaDrift.Proofs.Text.Decimal
import SchemaDrift.Proofs.Text.Pieces
import SchemaDrift.Proofs.Text.Search
import SchemaDrift.Server.Connection

namespace SchemaDrift

section Scheme

variable {scheme rest : Text}

/-- Backwards no end of a scheme begins in a text without one and goes on into an end of a scheme. -/
theorem clear_schemeEnd (h : ¬ ("://" : Text) <:+: rest) (scheme : Text) :
    Text.Clear "//:" rest.reverse ('/' :: '/' :: ':' :: scheme) := by
  have hreverse : ¬ ("//:" : Text) <:+: rest.reverse := fun hi => h (List.reverse_infix.mp hi)
  by_contra hclear
  obtain ⟨p, q, hp, hq, he, -, hqs⟩ := Text.exists_seam_of_not_clear hreverse hclear
  change ['/', '/', ':'] = p ++ q at he
  -- the part that would go on is a slash and a colon, or a colon alone, and two slashes stand there
  rcases p with _ | ⟨x, _ | ⟨y, _ | ⟨z, p⟩⟩⟩
  · exact hp rfl
  · obtain rfl : q = ['/', ':'] := (List.cons.inj he).2.symm
    exact absurd (List.cons_prefix_cons.mp (List.cons_prefix_cons.mp hqs).2).1 (by decide)
  · obtain rfl : q = [':'] := (List.cons.inj (List.cons.inj he).2).2.symm
    exact absurd (List.cons_prefix_cons.mp hqs).1 (by decide)
  · have hnil : p ++ q = [] := (List.cons.inj (List.cons.inj (List.cons.inj he).2).2).2.symm
    exact hq (List.append_eq_nil_iff.mp hnil).2

/-- The last end of a scheme in the first line is the first one when the line is read backwards. -/
theorem fromFirst?_schemeEnd (hbreak : '\n' ∉ scheme) (h : ¬ ("://" : Text) <:+: rest.takeWhile (· ≠ '\n')) :
    Text.fromFirst? "//:" ((scheme ++ (("://" : Text) ++ rest)).takeWhile (· ≠ '\n')).reverse =
      some ('/' :: '/' :: ':' :: scheme.reverse) := by
  have hkeep : ∀ c ∈ scheme ++ ("://" : Text), decide (c ≠ '\n') = true := by
    intro c hc
    rw [decide_eq_true_iff]
    rintro rfl
    rcases List.mem_append.mp hc with hc | hc
    · exact hbreak hc
    · exact absurd hc (by decide)
  have hline : (scheme ++ (("://" : Text) ++ rest)).takeWhile (· ≠ '\n') =
      scheme ++ (("://" : Text) ++ rest.takeWhile (· ≠ '\n')) := by
    rw [← List.append_assoc, List.takeWhile_append_of_pos hkeep, List.append_assoc]
  have hreverse : (scheme ++ (("://" : Text) ++ rest.takeWhile (· ≠ '\n'))).reverse =
      (rest.takeWhile (· ≠ '\n')).reverse ++ '/' :: '/' :: ':' :: scheme.reverse := by
    rw [List.reverse_append, List.reverse_append, List.append_assoc]
    rfl
  rw [hline, hreverse, Text.fromFirst?_append_of_clear (clear_schemeEnd h _)]
  exact Text.fromFirst?_of_prefix ⟨scheme.reverse, rfl⟩

/-- A scheme is taken off if nothing behind it on its line can end a longer one. -/
theorem withoutScheme_append (hne : scheme ≠ []) (hbreak : '\n' ∉ scheme)
    (h : ¬ ("://" : Text) <:+: rest.takeWhile (· ≠ '\n')) :
    withoutScheme (scheme ++ (("://" : Text) ++ rest)) = rest := by
  have hlength : ('/' :: '/' :: ':' :: scheme.reverse).length = (scheme ++ ("://" : Text)).length := by
    simp only [List.length_cons, List.length_reverse, List.length_append]
    rfl
  have hlong : ('/' :: '/' :: ':' :: scheme.reverse).length ≠ 3 := by
    simp only [List.length_cons, List.length_reverse]
    have hpos := List.length_pos_of_ne_nil hne
    omega
  rw [withoutScheme, fromFirst?_schemeEnd hbreak h]
  refine (if_neg hlong).trans ?_
  rw [hlength, ← List.append_assoc, List.drop_left]

/-- Nothing is taken off that is not there: a scheme is not empty. -/
theorem withoutScheme_of_empty (h : ¬ ("://" : Text) <:+: rest.takeWhile (· ≠ '\n')) :
    withoutScheme (("://" : Text) ++ rest) = ("://" : Text) ++ rest := by
  have hfound := @fromFirst?_schemeEnd [] rest List.not_mem_nil h
  rw [List.nil_append] at hfound
  rw [withoutScheme, hfound]
  rfl

theorem withoutScheme_eq_self {url : Text} (h : ¬ ("://" : Text) <:+: url.takeWhile (· ≠ '\n')) :
    withoutScheme url = url := by
  have hnone : Text.fromFirst? "//:" (url.takeWhile (· ≠ '\n')).reverse = none := by
    rw [Text.fromFirst?_eq_none_iff]
    exact fun hi => h (List.reverse_infix.mp hi)
  rw [withoutScheme, hnone]

end Scheme

section Parts

variable {host port : Text} {properties : List Text}

/-- The query of a URL is taken apart into the properties it was put together from. -/
theorem filter_splitOn_intercalate (h : ∀ p ∈ properties, p ≠ [] ∧ '&' ∉ p) :
    ((List.intercalate ['&'] properties).splitOn '&').filter (· ≠ []) = properties := by
  cases properties with
  | nil => rfl
  | cons p ps =>
    rw [List.splitOn_intercalate '&' (fun q hq => (h q hq).2) (List.cons_ne_nil p ps), List.filter_eq_self]
    intro q hq
    exact decide_eq_true (h q hq).1

end Parts

namespace Connection

variable {b c : Connection}

/-- A connection whose URL can be taken apart again. -/
structure Separable (c : Connection) : Prop where
  host : '/' ∉ c.host ∧ '?' ∉ c.host ∧ ':' ∉ c.host
  properties : ∀ p ∈ c.properties, p ≠ [] ∧ '&' ∉ p ∧ ¬ ("://" : Text) <:+: p

theorem notMem_port {d : Char} (hd : ¬ d.isDigit) (p : Port) : d ∉ p.text := fun h => hd (Port.isDigit_of_mem_text h)

theorem query_eq (c : Connection) : c.query = [] ∧ c.properties = [] ∨
    c.query = '?' :: List.intercalate ['&'] c.properties := by
  rw [query]
  split
  next h => exact .inl ⟨rfl, h⟩
  next => exact .inr rfl

theorem Separable.ofText_eq (h : c.Separable) :
    ServerUrl.ofText (c.host ++ ':' :: (c.port.text ++ c.query)) = ⟨c.host, some c.port.text, c.properties⟩ := by
  obtain ⟨hslash, hquery, hcolon⟩ := h.host
  have hport {d : Char} (hd : ¬ d.isDigit) := notMem_port hd c.port
  have hstop : Text.StopsAt '?' c.query := by
    rcases c.query_eq with ⟨hq, -⟩ | hq <;> rw [hq]
    · rintro d ⟨⟩
    · exact Text.stopsAt_cons _ _
  have horigin {d : Char} (hhost : d ∉ c.host) (hd : ¬ d.isDigit) (hne : d ≠ ':') :
      d ∉ c.host ++ ':' :: c.port.text := by
    rw [List.mem_append, List.mem_cons, not_or, not_or]
    exact ⟨hhost, hne, hport hd⟩
  have hquestion := horigin hquery (by decide) (by decide)
  have hpath := Text.takeWhile_ne_append (s := []) (horigin hslash (by decide) (by decide)) (by rintro d ⟨⟩)
  rw [List.append_nil] at hpath
  have hpieces : (c.host ++ ':' :: c.port.text).splitOn ':' = [c.host, c.port.text] := by
    rw [List.splitOn_append_cons_self_of_not_mem hcolon, List.splitOn_eq_singleton (hport (by decide))]
  have hproperties : ((c.query.drop 1).splitOn '&').filter (· ≠ []) = c.properties := by
    have hfilter := filter_splitOn_intercalate fun p hp => ⟨(h.properties p hp).1, (h.properties p hp).2.1⟩
    rcases c.query_eq with ⟨hq, hnil⟩ | hq <;> rw [hq]
    · rw [hnil]
      rfl
    · exact hfilter
  have hsplit : c.host ++ ':' :: (c.port.text ++ c.query) = (c.host ++ ':' :: c.port.text) ++ c.query := by
    rw [List.append_assoc, List.cons_append]
  rw [ServerUrl.ofText, hsplit]
  simp only [Text.takeWhile_ne_append hquestion hstop, Text.dropWhile_ne_append hquestion hstop, hpath, hpieces,
    hproperties]
  rfl

/-- Behind the scheme of the URL nothing looks like the end of another one. -/
theorem Separable.not_infix (h : c.Separable) :
    ¬ ("://" : Text) <:+: c.host ++ ':' :: (c.port.text ++ c.query) := by
  have hport {d : Char} (hd : ¬ d.isDigit) := notMem_port hd c.port
  have hbehind : ¬ ("://" : Text) <:+: c.query := by
    rcases c.query_eq with ⟨hq, -⟩ | hq <;> rw [hq]
    · exact fun hi => absurd (List.infix_nil.mp hi) (by decide)
    · have hproperties : ¬ ("://" : Text) <:+: List.intercalate ['&'] c.properties :=
        Text.not_infix_intercalate (by decide) (by decide) fun p hp => (h.properties p hp).2.2
      rw [← List.nil_append ('?' :: _), Text.infix_append_cons_iff (by decide), not_or]
      exact ⟨fun hi => absurd (List.infix_nil.mp hi) (by decide), hproperties⟩
  intro hi
  rcases List.infix_cons_iff.mp (Text.infix_of_infix_append h.host.2.2 hi) with hp | hi
  · -- the colon in front of the port is followed by a digit
    obtain ⟨d, digits, hdigits⟩ := List.exists_cons_of_ne_nil (Text.ofNatPadded_ne_nil 0 c.port.val)
    have hslash : '/' ∈ c.port.text := by
      rw [Port.text_eq_ofNatPadded, hdigits, List.cons_append] at hp
      have hd : '/' = d := (List.cons_prefix_cons.mp (List.cons_prefix_cons.mp hp).2).1
      rw [Port.text_eq_ofNatPadded, hdigits, hd]
      exact List.mem_cons_self
    exact hport (by decide) hslash
  · exact hbehind (Text.infix_of_infix_append (hport (by decide)) hi)

theorem Separable.withUrl_eq (h : c.Separable) (b : Connection) : b.withUrl c.url =
    .ok { b with host := c.host, port := c.port, properties := b.properties ++ c.properties } := by
  have hurl : c.url = ("mysql" : Text) ++ (("://" : Text) ++ (c.host ++ ':' :: (c.port.text ++ c.query))) := by
    change ("mysql://" : Text) ++ c.host ++ (":" : Text) ++ c.port.text ++ c.query = _
    simp only [List.append_assoc]
    rfl
  have hscheme : withoutScheme c.url = c.host ++ ':' :: (c.port.text ++ c.query) := by
    rw [hurl]
    refine withoutScheme_append (by decide) (by decide) fun hi => h.not_infix ?_
    exact hi.trans (List.takeWhile_prefix _).isInfix
  have hread : Port.read c.port.text = .ok c.port := Port.read_ofNatPadded 0 c.port
  simp only [withUrl, hscheme, h.ofText_eq, hread]

/-- The URL of a connection gives a connection its host, its port and, behind those it has, its properties.
So it restores the connection once user and password are given. -/
theorem withUrl_url (h : c.Separable) :
    (∀ b : Connection, b.withUrl c.url =
      .ok { b with host := c.host, port := c.port, properties := b.properties ++ c.properties }) ∧
    ofSteps [.user c.user, .password c.password, .url c.url] = .ok c := by
  refine ⟨h.withUrl_eq, ?_⟩
  have hurl : ({ user := c.user, password := c.password } : Connection).withUrl c.url = .ok c := h.withUrl_eq _
  rw [ofSteps]
  simp only [List.foldlM_cons, List.foldlM_nil, step, hurl, bind, Except.bind]
  rfl

/-- An empty host, and properties with the marks of a URL in them. -/
theorem withUrl_url_marked :
    let c : Connection := { host := [], port := 7, user := "u", properties := ["a?b:/c", "d\n//e"] }
    c.Separable ∧ c.url = "mysql://:7?a?b:/c&d\n//e" ∧
      ({} : Connection).withUrl c.url = .ok { c with user := "root" } := by
  intro c
  have hseparable : c.Separable := by
    refine ⟨by decide, fun p hp => ?_⟩
    rw [← Text.fromFirst?_eq_none_iff]
    revert p
    decide
  exact ⟨hseparable, by decide +kernel, (withUrl_url hseparable).1 {}⟩

end Connection

end SchemaDrift
