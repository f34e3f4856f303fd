import SchemaDrift.Proofs.Server.ConnectionUrl

namespace SchemaDrift

namespace Text

variable {needle t u : Text} {c : Char}

def firstLine (t : Text) : Text := t.takeWhile (· ≠ '\n')

theorem firstLine_append (h : '\n' ∉ t) (u : Text) : (t ++ u).firstLine = t ++ u.firstLine := by
  refine List.takeWhile_append_of_pos fun c hc => ?_
  rw [decide_eq_true_iff]
  rintro rfl
  exact h hc

theorem firstLine_eq_self (h : '\n' ∉ t) : t.firstLine = t := by
  have hall := firstLine_append h []
  rwa [List.append_nil, show firstLine [] = [] from rfl, List.append_nil] at hall

/-- Behind a line feed everything is on other lines. -/
theorem firstLine_append_of_mem (h : '\n' ∈ t) (u : Text) : (t ++ u).firstLine = t.firstLine := by
  obtain ⟨line, rest, rfl, hline⟩ := List.eq_append_cons_of_mem h
  rw [List.append_assoc, List.cons_append, firstLine, firstLine, takeWhile_ne_append hline (stopsAt_cons _ _),
    takeWhile_ne_append hline (stopsAt_cons _ _)]

theorem firstLine_prefix (t : Text) : t.firstLine <+: t := List.takeWhile_prefix _

/-- Of the places where `needle` stands one is the last. -/
theorem exists_last_infix (hne : needle ≠ []) (h : needle <:+: t) : ∃ a s, t = a ++ (needle ++ s) ∧ ¬ needle <:+: s := by
  induction t with
  | nil => exact absurd (List.infix_nil.mp h) hne
  | cons c t ih =>
    by_cases ht : needle <:+: t
    · obtain ⟨a, s, rfl, hs⟩ := ih ht
      exact ⟨c :: a, s, rfl, hs⟩
    · obtain ⟨s, hs⟩ := (List.infix_cons_iff.mp h).resolve_right ht
      obtain ⟨d, n, rfl⟩ := List.exists_cons_of_ne_nil hne
      obtain ⟨-, rfl⟩ := List.cons.inj hs
      exact ⟨[], s, hs.symm, fun hi => ht (hi.trans (List.suffix_append n s).isInfix)⟩

end Text

section Scheme

variable {u q t : Text}

/-- The last end of a scheme in the first line has a text in front of it and one behind it. -/
theorem exists_schemeEnd (h : ("://" : Text) <:+: t.firstLine) :
    ∃ scheme rest, t = scheme ++ (("://" : Text) ++ rest) ∧ '\n' ∉ scheme ∧ ¬ ("://" : Text) <:+: rest.firstLine := by
  obtain ⟨scheme, behind, hline, hlast⟩ := Text.exists_last_infix (by decide) h
  have hbreak : '\n' ∉ t.firstLine := by
    intro hmem
    simpa using List.all_eq_true.mp List.all_takeWhile '\n' hmem
  rw [hline, List.mem_append, List.mem_append, not_or, not_or] at hbreak
  obtain ⟨hscheme, -, hbehind⟩ := hbreak
  have hsplit : t = t.firstLine ++ t.dropWhile (· ≠ '\n') := List.takeWhile_append_dropWhile.symm
  refine ⟨scheme, behind ++ t.dropWhile (· ≠ '\n'), ?_, hscheme, ?_⟩
  · rw [hline, List.append_assoc, List.append_assoc] at hsplit
    exact hsplit
  · have hstop : Text.StopsAt '\n' (t.dropWhile (· ≠ '\n')) := by
      intro c hc
      have hhead := List.head?_dropWhile_not (· ≠ '\n') t
      rw [show (t.dropWhile (· ≠ '\n')).head? = some c from hc] at hhead
      simpa using hhead
    rwa [Text.firstLine, Text.takeWhile_ne_append hbehind hstop]

/-- What is left of a URL is an end of it. -/
theorem withoutScheme_suffix (t : Text) : withoutScheme t <:+ t := by
  rw [withoutScheme]
  split
  · exact List.suffix_rfl
  · split
    · exact List.suffix_rfl
    · exact List.drop_suffix _ _

/-- A scheme ends on the first line, whatever comes behind it. -/
theorem withoutScheme_append_of_break (h : '\n' ∈ u) (t : Text) : withoutScheme (u ++ t) = withoutScheme u ++ t := by
  have hline : (u ++ t).takeWhile (· ≠ '\n') = u.takeWhile (· ≠ '\n') := Text.firstLine_append_of_mem h t
  rw [withoutScheme, withoutScheme, hline]
  cases hs : Text.fromFirst? "//:" (u.takeWhile (· ≠ '\n')).reverse with
  | none => rfl
  | some s =>
    obtain ⟨⟨a, ha⟩, -⟩ := Text.fromFirst?_eq_some hs
    have hlength : s.length ≤ u.length := by
      have hreverse := congrArg List.length ha
      rw [List.length_reverse, List.length_append] at hreverse
      have hle := (Text.firstLine_prefix u).length_le
      rw [Text.firstLine] at hle
      omega
    dsimp only
    split
    · rfl
    · exact List.drop_append_of_le_length hlength

/-- A query in whose first line no scheme ends is no part of the scheme. -/
theorem withoutScheme_query (hbreak : '\n' ∉ u) (h : ¬ ("://" : Text) <:+: q.firstLine) :
    withoutScheme (u ++ '?' :: q) = withoutScheme u ++ '?' :: q := by
  have hquery {t : Text} (ht : '\n' ∉ t) : (t ++ '?' :: q).firstLine = t ++ '?' :: q.firstLine :=
    Text.firstLine_append ht _
  have hmark {t : Text} (ht : '\n' ∉ t) (hnone : ¬ ("://" : Text) <:+: t) :
      ¬ ("://" : Text) <:+: (t ++ '?' :: q).firstLine := by
    rw [hquery ht, Text.infix_append_cons_iff (by decide), not_or]
    exact ⟨hnone, h⟩
  by_cases hu : ("://" : Text) <:+: u.firstLine
  case neg =>
    have hnone := hmark hbreak (Text.firstLine_eq_self hbreak ▸ hu)
    rw [withoutScheme_eq_self hnone, withoutScheme_eq_self hu]
  case pos =>
    obtain ⟨scheme, rest, rfl, hscheme, hrest⟩ := exists_schemeEnd hu
    have hbehind : '\n' ∉ rest := fun hc => hbreak (List.mem_append_right _ (List.mem_append_right _ hc))
    have hnone := hmark hbehind (Text.firstLine_eq_self hbehind ▸ hrest)
    rw [List.append_assoc, List.append_assoc]
    cases scheme with
    | nil => rw [List.nil_append, List.nil_append, withoutScheme_of_empty hnone, withoutScheme_of_empty hrest,
        List.append_assoc]
    | cons c scheme => rw [withoutScheme_append (List.cons_ne_nil c scheme) hscheme hnone,
        withoutScheme_append (List.cons_ne_nil c scheme) hscheme hrest]

/-- The end of a scheme in the first line of a query makes all in front of it a scheme. -/
theorem exists_withoutScheme_query (hbreak : '\n' ∉ u) (h : ("://" : Text) <:+: q.firstLine) :
    ∃ p rest, q = p ++ (("://" : Text) ++ rest) ∧ '\n' ∉ p ∧ ¬ ("://" : Text) <:+: rest.firstLine ∧
      withoutScheme (u ++ '?' :: q) = rest := by
  obtain ⟨p, rest, rfl, hp, hrest⟩ := exists_schemeEnd h
  refine ⟨p, rest, rfl, hp, hrest, ?_⟩
  have hscheme : '\n' ∉ u ++ '?' :: p := by
    rw [List.mem_append, List.mem_cons, not_or, not_or]
    exact ⟨hbreak, by decide, hp⟩
  have hsplit : u ++ '?' :: (p ++ (("://" : Text) ++ rest)) = (u ++ '?' :: p) ++ (("://" : Text) ++ rest) := by
    rw [List.append_assoc, List.cons_append]
  rw [hsplit]
  exact withoutScheme_append (List.append_ne_nil_of_right_ne_nil _ (List.cons_ne_nil _ _)) hscheme hrest

end Scheme

namespace ServerUrl

variable {t u q url : Text}

/-- The port that is asked for, or else the given one. -/
def portOr (u : ServerUrl) (p : Port) : Except DecimalFault Port :=
  match u.port with
  | none => .ok p
  | some t => Port.read t

/-- The text behind the first question mark. -/
def queryOf (url : Text) : Text := (url.dropWhile (· ≠ '?')).drop 1

/-- The properties that a query lists. -/
def propertiesOf (query : Text) : List Text := (query.splitOn '&').filter (· ≠ [])

/-- What a URL names if its query is cut off before its scheme is: its host and its port stand in front of
the first question mark, and all behind that is its query. -/
def named (url : Text) : ServerUrl :=
  { ofText (withoutScheme (url.takeWhile (· ≠ '?'))) with properties := propertiesOf (queryOf url) }

/-- Whether the query of a URL begins in its first line and has the end of a scheme there. -/
def Redirects (url : Text) : Prop :=
  '\n' ∉ url.takeWhile (· ≠ '?') ∧ ("://" : Text) <:+: (queryOf url).firstLine

theorem properties_ofText (t : Text) : (ofText t).properties = propertiesOf (queryOf t) := rfl

theorem ofText_query (ht : '?' ∉ t) (q : Text) :
    ofText (t ++ '?' :: q) = { ofText t with properties := propertiesOf q } := by
  have horigin : t.takeWhile (· ≠ '?') = t := by
    have hall := Text.takeWhile_ne_append (s := []) ht (by rintro d ⟨⟩)
    rwa [List.append_nil] at hall
  simp only [ofText, Text.takeWhile_ne_append ht (Text.stopsAt_cons '?' q),
    Text.dropWhile_ne_append ht (Text.stopsAt_cons '?' q), horigin]
  rfl

theorem named_query (hu : '?' ∉ u) (q : Text) :
    named (u ++ '?' :: q) = { ofText (withoutScheme u) with properties := propertiesOf q } := by
  rw [named, queryOf, Text.takeWhile_ne_append hu (Text.stopsAt_cons '?' q),
    Text.dropWhile_ne_append hu (Text.stopsAt_cons '?' q)]
  rfl

theorem redirects_query_iff (hu : '?' ∉ u) :
    Redirects (u ++ '?' :: q) ↔ '\n' ∉ u ∧ ("://" : Text) <:+: q.firstLine := by
  rw [Redirects, queryOf, Text.takeWhile_ne_append hu (Text.stopsAt_cons '?' q),
    Text.dropWhile_ne_append hu (Text.stopsAt_cons '?' q)]
  rfl

/-- A URL has a query or it has no question mark. -/
theorem notMem_or_exists_query (url : Text) : '?' ∉ url ∨ ∃ u q, url = u ++ '?' :: q ∧ '?' ∉ u := by
  by_cases h : '?' ∈ url
  · obtain ⟨u, q, hurl, hu⟩ := List.eq_append_cons_of_mem h
    exact .inr ⟨u, q, hurl, hu⟩
  · exact .inl h

theorem withoutScheme_notMem (h : '?' ∉ url) : '?' ∉ withoutScheme url :=
  fun hc => h ((withoutScheme_suffix url).subset hc)

/-- Without a question mark there is no query to read. -/
theorem named_of_notMem (h : '?' ∉ url) : named url = ofText (withoutScheme url) ∧ ¬ Redirects url := by
  have hquery {t : Text} (ht : '?' ∉ t) : queryOf t = [] := by
    have hall := Text.dropWhile_ne_append (s := []) ht (by rintro d ⟨⟩)
    rw [List.append_nil] at hall
    rw [queryOf, hall]
    rfl
  have horigin : url.takeWhile (· ≠ '?') = url := by
    have hall := Text.takeWhile_ne_append (s := []) h (by rintro d ⟨⟩)
    rwa [List.append_nil] at hall
  constructor
  · rw [named, horigin, hquery h, ← hquery (withoutScheme_notMem h)]
    rfl
  · rintro ⟨-, hmark⟩
    rw [hquery h] at hmark
    exact absurd (List.infix_nil.mp hmark) (by decide)

/-- A URL whose query does not redirect is read as what it names. -/
theorem ofText_withoutScheme (h : ¬ Redirects url) : ofText (withoutScheme url) = named url := by
  rcases notMem_or_exists_query url with hurl | ⟨u, q, rfl, hu⟩
  · exact (named_of_notMem hurl).1.symm
  · have hkept : withoutScheme (u ++ '?' :: q) = withoutScheme u ++ '?' :: q := by
      by_cases hbreak : '\n' ∈ u
      · exact withoutScheme_append_of_break hbreak _
      · exact withoutScheme_query hbreak fun hmark => h ((redirects_query_iff hu).mpr ⟨hbreak, hmark⟩)
    rw [hkept, ofText_query (withoutScheme_notMem hu), named_query hu]

theorem flatten_splitOn (c : Char) (t : Text) : (t.splitOn c).flatten = t.filter (· ≠ c) := by
  induction t with
  | nil => rfl
  | cons d t ih =>
    rw [List.splitOn_cons_eq_if_modifyHead]
    by_cases hd : d = c
    · rw [if_pos (by simpa using hd), List.flatten_cons, List.nil_append, ih, List.filter_cons_of_neg (by simpa using hd)]
    · obtain ⟨piece, pieces, hpieces⟩ := List.exists_cons_of_ne_nil (List.splitOn_ne_nil c t)
      rw [hpieces, List.flatten_cons] at ih
      rw [if_neg (by simpa using hd), hpieces, List.modifyHead_cons, List.flatten_cons, List.cons_append, ih,
        List.filter_cons_of_pos (by simpa using hd)]

theorem flatten_propertiesOf (q : Text) : (propertiesOf q).flatten = q.filter (· ≠ '&') := by
  rw [← flatten_splitOn]
  exact List.flatten_filter_ne_nil

/-- A query that redirects loses properties. -/
theorem length_properties_lt (h : Redirects url) :
    (ofText (withoutScheme url)).properties.flatten.length < (named url).properties.flatten.length := by
  rcases notMem_or_exists_query url with hurl | ⟨u, q, rfl, hu⟩
  · exact absurd h (named_of_notMem hurl).2
  · obtain ⟨hbreak, hmark⟩ := (redirects_query_iff hu).mp h
    obtain ⟨p, rest, rfl, -, -, hread⟩ := exists_withoutScheme_query hbreak hmark
    have hquery : queryOf rest <:+ rest := (List.drop_suffix _ _).trans (List.dropWhile_suffix _)
    have hle := (hquery.sublist.filter (· ≠ '&')).length_le
    rw [hread, properties_ofText, named_query hu, flatten_propertiesOf, flatten_propertiesOf, List.filter_append,
      List.filter_append, List.length_append, List.length_append]
    have hthree : (("://" : Text).filter (· ≠ '&')).length = 3 := rfl
    omega

/-- A URL is read as what it names exactly if its query does not redirect. -/
theorem ofText_withoutScheme_eq_named_iff : ofText (withoutScheme url) = named url ↔ ¬ Redirects url := by
  refine ⟨fun h hredirects => ?_, ofText_withoutScheme⟩
  have hlt := length_properties_lt hredirects
  rw [h] at hlt
  exact lt_irrefl _ hlt

end ServerUrl

namespace Connection

/-- Two attempts that fail both, or that come to connections of one user to one server, whatever their
properties are. -/
inductive SameServer : Except PortFault Connection → Except PortFault Connection → Prop
  | ok {c d : Connection} (host : c.host = d.host) (port : c.port = d.port) (user : c.user = d.user)
      (password : c.password = d.password) : SameServer (.ok c) (.ok d)
  | error (f g : PortFault) : SameServer (.error f) (.error g)

variable {b c d : Connection} {s t u q url : Text}

/-- What a URL gives to a connection: its host, its port if it has one, and its properties. -/
theorem withUrl_eq_ok_iff : c.withUrl url = .ok d ↔
    ∃ port, (ServerUrl.ofText (withoutScheme url)).portOr c.port = .ok port ∧
      d = { c with
        host := (ServerUrl.ofText (withoutScheme url)).host, port
        properties := c.properties ++ (ServerUrl.ofText (withoutScheme url)).properties } := by
  rw [withUrl, ServerUrl.portOr]
  generalize ServerUrl.ofText (withoutScheme url) = parts
  cases hport : parts.port with
  | none => simp [eq_comm]
  | some t =>
    cases hread : Port.read t with
    | ok port => simp [hread, eq_comm]
    | error reason => simp [hread]

theorem withUrl_congr (h : withoutScheme s = withoutScheme t) (c : Connection) : c.withUrl s = c.withUrl t := by
  rw [withUrl, withUrl, h]

/-- URLs that are read with one host and one port lead to one server. -/
theorem sameServer_of_parts
    (hhost : (ServerUrl.ofText (withoutScheme s)).host = (ServerUrl.ofText (withoutScheme t)).host)
    (hport : (ServerUrl.ofText (withoutScheme s)).port = (ServerUrl.ofText (withoutScheme t)).port) (c : Connection) :
    SameServer (c.withUrl s) (c.withUrl t) := by
  rw [withUrl, withUrl, hhost, hport]
  cases (ServerUrl.ofText (withoutScheme t)).port with
  | none => exact .ok rfl rfl rfl rfl
  | some text =>
    cases hread : Port.read text with
    | ok port =>
      simp only [hread]
      exact .ok rfl rfl rfl rfl
    | error reason =>
      simp only [hread]
      exact .error _ _

/-- A query that does not redirect changes nothing but the properties. -/
theorem sameServer_query (hu : '?' ∉ u) (h : ¬ ServerUrl.Redirects (u ++ '?' :: q)) (c : Connection) :
    SameServer (c.withUrl (u ++ '?' :: q)) (c.withUrl u) := by
  have hread := ServerUrl.ofText_withoutScheme h
  rw [ServerUrl.named_query hu] at hread
  exact sameServer_of_parts (by rw [hread]) (by rw [hread]) c

/-- A query that redirects decides alone what the URL comes to. -/
theorem withUrl_redirecting (hbreak : '\n' ∉ u) (h : ("://" : Text) <:+: q.firstLine) (c : Connection) :
    c.withUrl (u ++ '?' :: q) = c.withUrl ('?' :: q) := by
  obtain ⟨p, rest, hq, hp, hrest, hread⟩ := exists_withoutScheme_query hbreak h
  have halone : withoutScheme ('?' :: q) = rest := by
    rw [hq]
    exact withoutScheme_append (List.cons_ne_nil '?' p) (List.not_mem_cons_of_ne_of_not_mem (by decide) hp) hrest
  exact withUrl_congr (hread.trans halone.symm) c

/-- A query leaves the server of every URL alone exactly if no scheme ends in its first line. One that has the
end of a scheme there leaves a URL alone that goes over several lines, and decides in the place of any other. -/
theorem server_kept_iff (q : Text) :
    ((∀ (u : Text) (b : Connection), '?' ∉ u → SameServer (b.withUrl (u ++ '?' :: q)) (b.withUrl u)) ↔
      ¬ ("://" : Text) <:+: q.firstLine) ∧
    (∀ (u : Text) (b : Connection), '?' ∉ u → '\n' ∈ u → SameServer (b.withUrl (u ++ '?' :: q)) (b.withUrl u)) ∧
    (∀ (u : Text) (b : Connection), '\n' ∉ u → ("://" : Text) <:+: q.firstLine →
      b.withUrl (u ++ '?' :: q) = b.withUrl ('?' :: q)) := by
  refine ⟨⟨fun h hmark => ?_, fun h u b hu => ?_⟩, fun u b hu hbreak => ?_, fun u b hbreak hmark => ?_⟩
  · -- the query would lead to the hosts of both URLs
    have ha := h "a" {} (by decide)
    have hb := h "b" {} (by decide)
    rw [withUrl_redirecting (by decide) hmark] at ha hb
    have hhostA : ({} : Connection).withUrl "a" = .ok { host := "a" } := rfl
    have hhostB : ({} : Connection).withUrl "b" = .ok { host := "b" } := rfl
    rw [hhostA] at ha
    rw [hhostB] at hb
    generalize ({} : Connection).withUrl ('?' :: q) = x at ha hb
    cases ha with
    | ok hhost =>
      cases hb with
      | ok hhost' => exact absurd (hhost.symm.trans hhost') (by decide)
  · exact sameServer_query hu (fun hr => h ((ServerUrl.redirects_query_iff hu).mp hr).2) b
  · exact sameServer_query hu (fun hr => ((ServerUrl.redirects_query_iff hu).mp hr).1 hbreak) b
  · exact withUrl_redirecting hbreak hmark b

/-- A URL in a property takes the place of the server that the query follows, and spoils a good URL. -/
theorem server_of_redirected :
    ({} : Connection).withUrl "mysql://db:1?next=http://other" = .ok { host := "other" } ∧
    ¬ SameServer (({} : Connection).withUrl "mysql://db:1?next=http://other") (({} : Connection).withUrl "mysql://db:1") ∧
    ¬ SameServer (({} : Connection).withUrl "mysql://db:1?next=http://other:x") (({} : Connection).withUrl "mysql://db:1") := by
  have hkept : ({} : Connection).withUrl "mysql://db:1" = .ok { host := "db", port := 1 } := by decide +kernel
  have hother : ({} : Connection).withUrl "mysql://db:1?next=http://other" = .ok { host := "other" } := by decide +kernel
  have hspoilt : ({} : Connection).withUrl "mysql://db:1?next=http://other:x" = .error ⟨"x", "other:x", .invalidDigit⟩ := by
    decide +kernel
  refine ⟨hother, fun h => ?_, fun h => ?_⟩
  · rw [hother, hkept] at h
    cases h with
    | ok hhost => exact absurd hhost (by decide)
  · rw [hspoilt, hkept] at h
    cases h

end Connection

end SchemaDrift
