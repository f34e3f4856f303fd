import SchemaDrift.Dump.Line
import SchemaDrift.Proofs.Text.Pieces
import Mathlib.Data.List.Infix

namespace SchemaDrift.Dump

/-- At least one blank, and nothing else. -/
def Gap (t : Text) : Prop := t ≠ [] ∧ ∀ d ∈ t, Text.isBlank d

/-- Whether a text is a gap, a spec in parentheses and a rest. -/
def Encloses (t spec rest : Text) : Prop := ∃ gap, Gap gap ∧ t = gap ++ '(' :: (spec ++ ')' :: rest)

/-- Whether a line is blanks, a keyword, a gap, a name between ticks and what is behind it. -/
def Names (keyword line name behind : Text) : Prop :=
  ∃ lead gap, (∀ d ∈ lead, Text.isBlank d) ∧ Gap gap ∧
    line = lead ++ (keyword ++ (gap ++ Text.tick :: (name ++ Text.tick :: behind)))

/-- Whether a line can be taken for a key: its name stands behind the keyword, its spec behind the name. -/
def Declares (keyword line : Text) (k : Key) : Prop :=
  ∃ behind rest, Names keyword line k.name behind ∧ Encloses behind k.spec rest

/-- Whether a key is the longest one that a line can be taken for: none has a longer name, and none of
its name has a longer spec. -/
structure Longest (keyword line : Text) (k : Key) : Prop where
  declares : Declares keyword line k
  name : ∀ l, Declares keyword line l → l.name.length ≤ k.name.length
  spec : ∀ l, Declares keyword line l → l.name = k.name → l.spec.length ≤ k.spec.length

/-- Whether the name of a key ends at the last tick of the line that a spec follows, and the spec at the
last closing parenthesis. -/
def EndsLast (keyword line : Text) (k : Key) : Prop :=
  ∃ behind rest, Names keyword line k.name behind ∧ Encloses behind k.spec rest ∧ ')' ∉ rest ∧
    ∀ s, Text.tick :: s <:+ behind → ∀ spec rest, ¬ Encloses s spec rest

/-- Whether a line can be taken for a primary key over a spec. -/
def DeclaresPrimary (line spec rest : Text) : Prop :=
  ∃ lead behind, (∀ d ∈ lead, Text.isBlank d) ∧ line = lead ++ (("PRIMARY KEY" : Text) ++ behind) ∧
    Encloses behind spec rest

section Specs

variable {r s spec other rest rest' : Text}

theorem afterBlanks?_eq_some_iff :
    afterBlanks? s = some r ↔ ∃ gap, Gap gap ∧ s = gap ++ r ∧ ∀ d ∈ r.head?, ¬ Text.isBlank d := by
  constructor
  · intro h
    cases s with
    | nil => simp [afterBlanks?] at h
    | cons c s =>
      by_cases hc : Text.isBlank c
      case neg => simp [afterBlanks?, hc] at h
      have hr : Text.trimStart s = r := by simpa [afterBlanks?, hc] using h
      subst hr
      obtain ⟨blanks, hs, hblanks, hstop⟩ := Text.exists_blanks_trimStart s
      refine ⟨c :: blanks, ⟨List.cons_ne_nil c blanks, List.forall_mem_cons.mpr ⟨hc, hblanks⟩⟩, ?_, hstop⟩
      rw [List.cons_append, ← hs]
  · rintro ⟨gap, ⟨hne, hgap⟩, rfl, hstop⟩
    obtain ⟨c, gap, rfl⟩ := List.exists_cons_of_ne_nil hne
    obtain ⟨hc, hgap⟩ := List.forall_mem_cons.mp hgap
    rw [List.cons_append, afterBlanks?, if_pos hc, Text.trimStart_append hgap, Text.trimStart_of_head hstop]

theorem inParentheses?_eq_some_iff :
    inParentheses? s = some spec ↔ ∃ rest, s = '(' :: (spec ++ ')' :: rest) ∧ ')' ∉ rest := by
  constructor
  · intro h
    rw [inParentheses?.eq_def] at h
    split at h
    · obtain ⟨rest, rfl, hrest⟩ := Text.beforeLast?_eq_some_iff.mp h
      exact ⟨rest, rfl, hrest⟩
    · cases h
  · rintro ⟨rest, rfl, hrest⟩
    exact Text.beforeLast?_append hrest

/-- A spec is found behind a gap, and it goes on to the last closing parenthesis. -/
theorem keySpec?_eq_some_iff :
    keySpec? s = some spec ↔ ∃ rest, Encloses s spec rest ∧ ')' ∉ rest := by
  simp only [keySpec?, Option.bind_eq_bind, Option.bind_eq_some_iff, afterBlanks?_eq_some_iff,
    inParentheses?_eq_some_iff]
  constructor
  · rintro ⟨_, ⟨gap, hgap, rfl, -⟩, rest, rfl, hrest⟩
    exact ⟨rest, ⟨gap, hgap, rfl⟩, hrest⟩
  · rintro ⟨rest, ⟨gap, hgap, rfl⟩, hrest⟩
    refine ⟨_, ⟨gap, hgap, rfl, ?_⟩, rest, rfl, hrest⟩
    rintro d ⟨⟩
    decide

/-- Two ways to find a spec in one text begin at the same place. -/
theorem Encloses.append_eq (h : Encloses s spec rest) (h' : Encloses s other rest') :
    spec ++ ')' :: rest = other ++ ')' :: rest' := by
  obtain ⟨gap, ⟨-, hgap⟩, rfl⟩ := h
  obtain ⟨gap', ⟨-, hgap'⟩, he⟩ := h'
  have hopen : ¬ Text.isBlank '(' := by decide
  obtain ⟨-, hspec⟩ := Text.blanks_inj hgap hgap' (by rintro d ⟨⟩; exact hopen) (by rintro d ⟨⟩; exact hopen) he
  exact (List.cons.inj hspec).2

/-- Where some spec can be found, one that ends at the last closing parenthesis is found. -/
theorem Encloses.exists_keySpec? (h : Encloses s spec rest) : ∃ longest, keySpec? s = some longest := by
  by_cases hrest : ')' ∈ rest
  · obtain ⟨front, last, rfl, hlast⟩ := Text.exists_last_of_mem hrest
    obtain ⟨gap, hgap, rfl⟩ := h
    refine ⟨spec ++ ')' :: front, keySpec?_eq_some_iff.mpr ⟨last, ⟨gap, hgap, ?_⟩, hlast⟩⟩
    rw [List.append_assoc, List.cons_append]
  · exact ⟨spec, keySpec?_eq_some_iff.mpr ⟨rest, h, hrest⟩⟩

/-- A spec behind which no parenthesis closes is the longest one. -/
theorem Encloses.length_le (h : Encloses s spec rest) (hrest : ')' ∉ rest)
    (h' : Encloses s other rest') : other.length ≤ spec.length := by
  rcases List.append_eq_append_iff.mp (h.append_eq h') with ⟨u, rfl, hu⟩ | ⟨u, rfl, -⟩
  · cases u with
    | nil => simp
    | cons c u =>
      obtain ⟨-, rfl⟩ := List.cons.inj hu
      exact absurd (List.mem_append_right u List.mem_cons_self) hrest
  · simp

theorem keySpec?_eq_none_iff : keySpec? s = none ↔ ∀ spec rest, ¬ Encloses s spec rest := by
  constructor
  · intro h spec rest henclosed
    obtain ⟨longest, hlongest⟩ := henclosed.exists_keySpec?
    cases h.symm.trans hlongest
  · intro h
    rw [Option.eq_none_iff_forall_ne_some]
    intro spec hspec
    obtain ⟨rest, henclosed, -⟩ := keySpec?_eq_some_iff.mp hspec
    exact h spec rest henclosed

end Specs

section LongestKey

variable {r spec : Text} {k : Key}

theorem longestKey?_eq_none_iff :
    longestKey? r = none ↔ ∀ s, Text.tick :: s <:+ r → keySpec? s = none := by
  induction r with
  | nil =>
    refine iff_of_true rfl fun s hs => ?_
    exact absurd (List.suffix_nil.mp hs) (List.cons_ne_nil _ s)
  | cons c r ih =>
    rw [longestKey?]
    constructor
    · intro h s hs
      cases hr : longestKey? r with
      | some k => simp [hr] at h
      | none =>
        rcases List.suffix_cons_iff.mp hs with he | hs
        · obtain ⟨rfl, rfl⟩ := List.cons.inj he
          simpa [hr] using h
        · exact ih.mp hr s hs
    · intro h
      rw [ih.mpr fun s hs => h s (hs.trans (List.suffix_cons c r))]
      by_cases hc : c = Text.tick
      · subst hc
        simp [h r (List.suffix_refl _)]
      · simp [hc]

/-- The name of a key goes on to the last tick with a spec behind it. -/
theorem longestKey?_append (hnone : longestKey? r = none) (hspec : keySpec? r = some spec)
    (name : Text) : longestKey? (name ++ Text.tick :: r) = some ⟨name, spec⟩ := by
  induction name with
  | nil => simp [longestKey?, hnone, hspec]
  | cons c name ih => rw [List.cons_append, longestKey?, ih]

theorem longestKey?_eq_some_iff :
    longestKey? r = some k ↔
      ∃ behind, r = k.name ++ Text.tick :: behind ∧ keySpec? behind = some k.spec ∧
        longestKey? behind = none := by
  constructor
  · intro h
    induction r generalizing k with
    | nil => cases h
    | cons c r ih =>
      rw [longestKey?] at h
      cases hr : longestKey? r with
      | some l =>
        -- the tick is further on, and the name begins one character earlier
        obtain ⟨behind, rfl, hbehind⟩ := ih hr
        rw [hr, Option.some.injEq] at h
        subst h
        exact ⟨behind, rfl, hbehind⟩
      | none =>
        by_cases hc : c = Text.tick
        case neg => simp [hr, hc] at h
        obtain ⟨spec, hspec, rfl⟩ : ∃ spec, keySpec? r = some spec ∧ Key.mk [] spec = k := by
          simpa [hr, hc] using h
        exact ⟨r, by rw [hc]; rfl, hspec, hr⟩
  · rintro ⟨behind, rfl, hspec, hnone⟩
    exact longestKey?_append hnone hspec k.name

end LongestKey

section Keywords

variable {c d : Char} {keyword line r : Text} {k l : Key} (hk : keyword.head? = some c) (hc : ¬ Text.isBlank c)
include hk

/-- A line begins with the keyword that is found in it. -/
theorem head?_trimStart_of_afterKeyword? (h : afterKeyword? keyword line = some r) :
    line.trimStart.head? = some c := by
  obtain ⟨w, rfl⟩ := List.head?_eq_some_iff.mp hk
  rw [Text.dropStart?_eq_some_iff.mp h]
  rfl

theorem afterKeyword?_eq_none (hline : line.trimStart.head? = some d) (hcd : c ≠ d) :
    afterKeyword? keyword line = none := by
  rw [Option.eq_none_iff_forall_ne_some]
  intro r hr
  have hhead := head?_trimStart_of_afterKeyword? hk hr
  rw [hline, Option.some.injEq] at hhead
  exact hcd hhead.symm

theorem declaredKey?_eq_none (hline : line.trimStart.head? = some d) (hcd : c ≠ d) :
    declaredKey? keyword line = none := by
  rw [declaredKey?, afterKeyword?_eq_none hk hline hcd]
  rfl

include hc

theorem afterKeyword?_eq_some_iff : afterKeyword? keyword line = some r ↔
    ∃ lead, (∀ d ∈ lead, Text.isBlank d) ∧ line = lead ++ (keyword ++ r) := by
  obtain ⟨w, rfl⟩ := List.head?_eq_some_iff.mp hk
  rw [afterKeyword?, Text.dropStart?_eq_some_iff]
  constructor
  · intro h
    obtain ⟨lead, hline, hlead, -⟩ := Text.exists_blanks_trimStart line
    exact ⟨lead, hlead, h ▸ hline⟩
  · rintro ⟨lead, hlead, rfl⟩
    rw [Text.trimStart_append hlead, Text.trimStart_of_head]
    rintro d ⟨⟩
    exact hc

/-- However a line is taken apart, the name of its key begins at one place. -/
theorem Names.append_eq {name other behind behind' : Text} (h : Names keyword line name behind)
    (h' : Names keyword line other behind') :
    name ++ Text.tick :: behind = other ++ Text.tick :: behind' := by
  obtain ⟨w, rfl⟩ := List.head?_eq_some_iff.mp hk
  obtain ⟨lead, gap, hlead, ⟨-, hgap⟩, rfl⟩ := h
  obtain ⟨lead', gap', hlead', ⟨-, hgap'⟩, he⟩ := h'
  have hstop {d : Char} (hd : ¬ Text.isBlank d) (s : Text) : ∀ e ∈ (d :: s).head?, ¬ Text.isBlank e := by
    rintro e ⟨⟩
    exact hd
  obtain ⟨-, hkeyword⟩ := Text.blanks_inj hlead hlead' (hstop hc _) (hstop hc _) he
  have htick : ¬ Text.isBlank Text.tick := by decide
  have hbehind := (List.append_right_inj (c :: w)).mp hkeyword
  obtain ⟨-, hname⟩ := Text.blanks_inj hgap hgap' (hstop htick _) (hstop htick _) hbehind
  exact (List.cons.inj hname).2

theorem Names.declaredKey?_eq {name behind : Text} (h : Names keyword line name behind) :
    declaredKey? keyword line = longestKey? (name ++ Text.tick :: behind) := by
  obtain ⟨lead, gap, hlead, hgap, rfl⟩ := h
  have hafter : afterBlanks? (gap ++ Text.tick :: (name ++ Text.tick :: behind)) =
      some (Text.tick :: (name ++ Text.tick :: behind)) := by
    refine afterBlanks?_eq_some_iff.mpr ⟨gap, hgap, rfl, ?_⟩
    rintro d ⟨⟩
    decide
  rw [declaredKey?, (afterKeyword?_eq_some_iff hk hc).mpr ⟨lead, hlead, rfl⟩]
  simp only [Option.bind_eq_bind, Option.bind_some, hafter]
  rfl

theorem exists_names_of_declaredKey? (h : declaredKey? keyword line = some k) :
    ∃ behind, Names keyword line k.name behind ∧ keySpec? behind = some k.spec ∧
      longestKey? behind = none := by
  simp only [declaredKey?, Option.bind_eq_bind, Option.bind_eq_some_iff, afterKeyword?_eq_some_iff hk hc,
    afterBlanks?_eq_some_iff, Text.dropStart?_eq_some_iff, longestKey?_eq_some_iff] at h
  obtain ⟨_, ⟨_, ⟨lead, hlead, rfl⟩, gap, hgap, rfl, -⟩, _, rfl, behind, rfl, hspec, hnone⟩ := h
  exact ⟨behind, ⟨lead, gap, hlead, hgap, rfl⟩, hspec, hnone⟩

theorem declaredKey?_eq_some_iff : declaredKey? keyword line = some k ↔ EndsLast keyword line k := by
  have hlast (behind : Text) : longestKey? behind = none ↔
      ∀ s, Text.tick :: s <:+ behind → ∀ spec rest, ¬ Encloses s spec rest := by
    simp only [longestKey?_eq_none_iff, keySpec?_eq_none_iff]
  constructor
  · intro h
    obtain ⟨behind, hnames, hspec, hnone⟩ := exists_names_of_declaredKey? hk hc h
    obtain ⟨rest, hencloses, hrest⟩ := keySpec?_eq_some_iff.mp hspec
    exact ⟨behind, rest, hnames, hencloses, hrest, (hlast behind).mp hnone⟩
  · rintro ⟨behind, rest, hnames, hencloses, hrest, hnone⟩
    rw [hnames.declaredKey?_eq hk hc]
    exact longestKey?_append ((hlast behind).mpr hnone)
      (keySpec?_eq_some_iff.mpr ⟨rest, hencloses, hrest⟩) k.name

/-- A line that can be taken for a key is taken for one. -/
theorem Declares.exists_declaredKey? (h : Declares keyword line k) :
    ∃ l, declaredKey? keyword line = some l := by
  obtain ⟨behind, rest, hnames, hencloses⟩ := h
  obtain ⟨spec, hspec⟩ := hencloses.exists_keySpec?
  rw [hnames.declaredKey?_eq hk hc, ← Option.ne_none_iff_exists', ne_eq, longestKey?_eq_none_iff]
  intro hnone
  cases (hnone behind (List.suffix_append _ _)).symm.trans hspec

theorem EndsLast.longest (h : EndsLast keyword line k) : Longest keyword line k := by
  obtain ⟨behind, rest, hnames, hencloses, hrest, hlast⟩ := h
  refine ⟨⟨behind, rest, hnames, hencloses⟩, ?_, ?_⟩
  · rintro l ⟨behind', rest', hnames', hencloses'⟩
    rcases List.append_eq_append_iff.mp (hnames.append_eq hk hc hnames') with ⟨u, hu, hbehind⟩ | ⟨u, hu, -⟩
    · cases u with
      | nil => rw [hu, List.append_nil]
      | cons c u =>
        -- the tick of a longer name would be behind the last one
        obtain ⟨-, rfl⟩ := List.cons.inj hbehind
        exact absurd hencloses' (hlast behind' (List.suffix_append u _) l.spec rest')
    · rw [hu, List.length_append]
      exact Nat.le_add_right _ _
  · rintro l ⟨behind', rest', hnames', hencloses'⟩ hname
    have hbehind := hnames.append_eq hk hc hnames'
    rw [hname, List.append_cancel_left_eq, List.cons_inj_right] at hbehind
    exact hencloses.length_le hrest (hbehind ▸ hencloses')

theorem Longest.eq (h : Longest keyword line k) (h' : Longest keyword line l) : k = l := by
  obtain ⟨behind, rest, hnames, hencloses⟩ := h.declares
  obtain ⟨behind', rest', hnames', hencloses'⟩ := h'.declares
  have hlength : k.name.length = l.name.length := le_antisymm (h'.name k h.declares) (h.name l h'.declares)
  obtain ⟨hname, hbehind⟩ := List.append_inj (hnames.append_eq hk hc hnames') hlength
  obtain ⟨-, rfl⟩ := List.cons.inj hbehind
  have hspecs : k.spec.length = l.spec.length :=
    le_antisymm (h'.spec k h.declares hname) (h.spec l h'.declares hname.symm)
  obtain ⟨hspec, -⟩ := List.append_inj (hencloses.append_eq hencloses') hspecs
  cases k
  cases l
  exact congrArg₂ Key.mk hname hspec

theorem longest_iff_endsLast : Longest keyword line k ↔ EndsLast keyword line k := by
  refine ⟨fun h => ?_, fun h => h.longest hk hc⟩
  obtain ⟨l, hl⟩ := h.declares.exists_declaredKey? hk hc
  have hlast := (declaredKey?_eq_some_iff hk hc).mp hl
  rwa [h.eq hk hc (hlast.longest hk hc)]

end Keywords

section Reading

variable {c : Char} {line spec rest : Text} {kind : KeyKind} {k : Key} {column : Column}

/-- A keyword begins with a character that is no blank and begins no frame and no primary key. -/
theorem KeyKind.exists_head_keyword (kind : KeyKind) : ∃ c, (KeyKind.keyword kind).head? = some c ∧
    ¬ Text.isBlank c ∧ c ≠ 'C' ∧ c ≠ ')' ∧ 'P' ≠ c := by
  cases kind with
  | ordinary => exact ⟨'K', rfl, by decide, by decide, by decide, by decide⟩
  | unique => exact ⟨'U', rfl, by decide, by decide, by decide, by decide⟩

theorem isFrame_eq_false (hline : line.trimStart.head? = some c) (hcreate : c ≠ 'C') (hclose : c ≠ ')') :
    isFrame line = false := by
  obtain ⟨r, hr⟩ := List.head?_eq_some_iff.mp hline
  have hprefix : ("CREATE" : Text).isPrefixOf (c :: r) = false := by
    rw [← Bool.not_eq_true, List.isPrefixOf_iff_prefix]
    intro h
    exact hcreate (List.cons_prefix_cons.mp h).1.symm
  simp only [isFrame, hr, hprefix, List.head?_cons, Option.some.injEq, hclose, reduceCtorEq,
    decide_false, Bool.or_false]

theorem primarySpec?_eq_some_iff :
    primarySpec? line = some spec ↔ ∃ rest, DeclaresPrimary line spec rest ∧ ')' ∉ rest := by
  have hafter (behind : Text) : afterKeyword? "PRIMARY KEY" line = some behind ↔
      ∃ lead, (∀ d ∈ lead, Text.isBlank d) ∧ line = lead ++ (("PRIMARY KEY" : Text) ++ behind) :=
    afterKeyword?_eq_some_iff (c := 'P') rfl (by decide)
  simp only [primarySpec?, Option.bind_eq_bind, Option.bind_eq_some_iff, hafter, keySpec?_eq_some_iff,
    DeclaresPrimary]
  constructor
  · rintro ⟨behind, ⟨lead, hlead, rfl⟩, rest, hencloses, hrest⟩
    exact ⟨rest, ⟨lead, behind, hlead, rfl, hencloses⟩, hrest⟩
  · rintro ⟨rest, ⟨lead, behind, hlead, rfl, hencloses⟩, hrest⟩
    exact ⟨behind, ⟨lead, hlead, rfl⟩, rest, hencloses, hrest⟩

theorem DeclaresPrimary.exists_primarySpec? (h : DeclaresPrimary line spec rest) :
    ∃ longest, primarySpec? line = some longest := by
  obtain ⟨lead, behind, hlead, rfl, hencloses⟩ := h
  obtain ⟨longest, hlongest⟩ := hencloses.exists_keySpec?
  refine ⟨longest, ?_⟩
  rw [primarySpec?, (afterKeyword?_eq_some_iff (c := 'P') rfl (by decide)).mpr ⟨lead, hlead, rfl⟩]
  exact hlongest

theorem primarySpec?_eq_none (hline : line.trimStart.head? = some c) (hp : 'P' ≠ c) :
    primarySpec? line = none := by
  rw [primarySpec?, afterKeyword?_eq_none (c := 'P') rfl hline hp]
  rfl

theorem read_eq_primary_iff : Line.read line = .primary spec ↔ primarySpec? line = some spec := by
  constructor
  · intro h
    unfold Line.read at h
    repeat' split at h
    all_goals cases h
    assumption
  · intro h
    obtain ⟨r, hr, -⟩ := Option.bind_eq_some_iff.mp h
    have hline := head?_trimStart_of_afterKeyword? (c := 'P') rfl hr
    have hframe := isFrame_eq_false hline (by decide) (by decide)
    simp only [Line.read, hframe, h, Bool.false_eq_true, if_false]

theorem read_eq_key_iff :
    Line.read line = .key kind k ↔ declaredKey? (KeyKind.keyword kind) line = some k := by
  constructor
  · intro h
    unfold Line.read at h
    repeat' split at h
    all_goals cases h
    all_goals assumption
  · intro h
    obtain ⟨c, hc, -, hcreate, hclose, hp⟩ := KeyKind.exists_head_keyword kind
    obtain ⟨_, hr, -⟩ := Option.bind_eq_some_iff.mp h
    obtain ⟨r, hr, -⟩ := Option.bind_eq_some_iff.mp hr
    have hline := head?_trimStart_of_afterKeyword? hc hr
    have hframe := isFrame_eq_false hline hcreate hclose
    have hprimary := primarySpec?_eq_none hline hp
    cases kind with
    | ordinary =>
      -- the unique keyword is tried first
      have hline : line.trimStart.head? = some 'K' := head?_trimStart_of_afterKeyword? rfl hr
      have hunique : declaredKey? (KeyKind.keyword .unique) line = none :=
        declaredKey?_eq_none (c := 'U') rfl hline (by decide)
      simp only [Line.read, hframe, hprimary, hunique, h, Bool.false_eq_true, if_false]
    | unique => simp only [Line.read, hframe, hprimary, h, Bool.false_eq_true, if_false]

theorem read_eq_key_iff_endsLast :
    Line.read line = .key kind k ↔ EndsLast (KeyKind.keyword kind) line k := by
  obtain ⟨c, hk, hc, -⟩ := KeyKind.exists_head_keyword kind
  rw [read_eq_key_iff, declaredKey?_eq_some_iff hk hc]

/-- Of a line that begins with a tick, only a column is read. -/
theorem read_of_tick (hline : line.trimStart.head? = some Text.tick) :
    Line.read line = ((declaredColumn? line).map Line.column).getD .unknown := by
  have hframe := isFrame_eq_false hline (by decide) (by decide)
  have hprimary := primarySpec?_eq_none hline (by decide)
  have hunique : declaredKey? (KeyKind.keyword .unique) line = none :=
    declaredKey?_eq_none (c := 'U') rfl hline (by decide)
  have hordinary : declaredKey? (KeyKind.keyword .ordinary) line = none :=
    declaredKey?_eq_none (c := 'K') rfl hline (by decide)
  simp only [Line.read, hframe, hprimary, hunique, hordinary, Bool.false_eq_true, if_false]
  cases declaredColumn? line <;> rfl

theorem read_eq_column_iff : Line.read line = .column column ↔ declaredColumn? line = some column := by
  constructor
  · intro h
    unfold Line.read at h
    repeat' split at h
    all_goals cases h
    assumption
  · intro h
    obtain ⟨r, hr, -⟩ := Option.bind_eq_some_iff.mp h
    have hline : line.trimStart.head? = some Text.tick := by
      rw [Text.dropStart?_eq_some_iff.mp hr]
      rfl
    rw [read_of_tick hline, h]
    rfl

/-- A line is read as a key of a kind exactly if it can be taken for one. Of all the keys it can be taken
for, it is read as the longest one, whose name ends at the last tick that a spec follows and whose spec
ends at the last closing parenthesis. So does the spec of a primary key. -/
theorem read_key_grammar (line : Text) :
    (∀ kind, (∃ k, Line.read line = .key kind k) ↔ ∃ k, Declares (KeyKind.keyword kind) line k) ∧
    (∀ kind k, Line.read line = .key kind k ↔ Longest (KeyKind.keyword kind) line k) ∧
    (∀ kind k, Line.read line = .key kind k ↔ EndsLast (KeyKind.keyword kind) line k) ∧
    ((∃ spec, Line.read line = .primary spec) ↔ ∃ spec rest, DeclaresPrimary line spec rest) ∧
    ∀ spec, Line.read line = .primary spec ↔ ∃ rest, DeclaresPrimary line spec rest ∧ ')' ∉ rest := by
  have hlongest (kind : KeyKind) (k : Key) :
      Line.read line = .key kind k ↔ Longest (KeyKind.keyword kind) line k := by
    obtain ⟨c, hk, hc, -⟩ := KeyKind.exists_head_keyword kind
    rw [read_eq_key_iff_endsLast, longest_iff_endsLast hk hc]
  refine ⟨fun kind => ?_, hlongest, fun kind k => read_eq_key_iff_endsLast, ?_, fun spec => ?_⟩
  · obtain ⟨c, hk, hc, -⟩ := KeyKind.exists_head_keyword kind
    constructor
    · rintro ⟨k, h⟩
      exact ⟨k, ((hlongest kind k).mp h).declares⟩
    · rintro ⟨k, h⟩
      obtain ⟨l, hl⟩ := h.exists_declaredKey? hk hc
      exact ⟨l, read_eq_key_iff.mpr hl⟩
  · simp only [read_eq_primary_iff]
    constructor
    · rintro ⟨spec, h⟩
      obtain ⟨rest, hdeclares, -⟩ := primarySpec?_eq_some_iff.mp h
      exact ⟨spec, rest, hdeclares⟩
    · rintro ⟨spec, rest, h⟩
      exact h.exists_primarySpec?
  · rw [read_eq_primary_iff, primarySpec?_eq_some_iff]

/-- A comment with a tick and parentheses in it makes the name longer. -/
example : Line.read "  KEY `n` (`a`(3)) COMMENT 'of ` (all)',"
    = .key .ordinary ⟨"n` (`a`(3)) COMMENT 'of ", "all"⟩ := by
  decide +kernel

end Reading

end SchemaDrift.Dump
