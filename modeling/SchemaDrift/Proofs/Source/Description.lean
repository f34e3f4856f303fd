import SchemaDrift.Proofs.Host.Path
import SchemaDrift.Proofs.Source.Grammar
import SchemaDrift.Proofs.Text.Decimal
import SchemaDrift.Proofs.Text.Words
import SchemaDrift.Source.Argument

namespace SchemaDrift.Source

open OptionItem (Spelling Spells)

/-- What an option of a description sets; zeros may stand in front of a port. -/
inductive Setting where
  | host (t : Text)
  | user (t : Text)
  | password (t : Text)
  | port (zeros : Nat) (p : Port)
  deriving DecidableEq, Repr

namespace Setting

def key : Setting → RemoteOption
  | .host _ => .host
  | .user _ => .user
  | .password _ => .password
  | .port .. => .port

/-- The value of the option. -/
def value : Setting → Text
  | .host t | .user t | .password t => t
  | .port zeros p => Text.ofNatPadded zeros p.val

def applied (c : Connection) : Setting → Connection
  | .host t => { c with host := t }
  | .user t => { c with user := t }
  | .password t => { c with password := t }
  | .port _ p => { c with port := p }

/-- Whether a connection is what the option asks for. -/
def Holds (c : Connection) : Setting → Prop
  | .host t => c.host = t
  | .user t => c.user = t
  | .password t => c.password = t
  | .port _ p => c.port = p

instance (c : Connection) (s : Setting) : Decidable (s.Holds c) := by
  cases s <;> unfold Holds <;> infer_instance

end Setting

namespace RemoteOption

/-- The letter and the long name of an option. -/
def letter : RemoteOption → Char
  | .host => 'h'
  | .user => 'u'
  | .password => 'p'
  | .port => 'P'

def name : RemoteOption → Text
  | .host => "host"
  | .user => "user"
  | .password => "password"
  | .port => "port"

/-- Whether two connections agree in what an option sets. -/
def Agrees (c d : Connection) : RemoteOption → Prop
  | .host => c.host = d.host
  | .user => c.user = d.user
  | .password => c.password = d.password
  | .port => c.port = d.port

instance (c d : Connection) (key : RemoteOption) : Decidable (key.Agrees c d) := by
  cases key <;> unfold Agrees <;> infer_instance

end RemoteOption

/-- A part of a description: the database, or an option in one of its spellings. -/
inductive DescriptionPart where
  | database (t : Text)
  | option (s : Setting) (spelling : Spelling)
  deriving DecidableEq, Repr

namespace DescriptionPart

/-- The words that a part is written as. -/
def words : DescriptionPart → List Text
  | .database t => [t]
  | .option s spelling => spelling.words s.key.letter s.key.name s.value

def item : DescriptionPart → OptionItem RemoteOption
  | .database t => .positional t
  | .option s _ => .option s.key s.value

/-- A part that is read as what it is. -/
def Legible : DescriptionPart → Prop
  | .database t => t.head? ≠ some '-'
  | .option s spelling => spelling.Fits s.value

instance (p : DescriptionPart) : Decidable p.Legible := by
  cases p <;> unfold Legible <;> infer_instance

@[simp] def database? : DescriptionPart → Option Text
  | .database t => some t
  | .option .. => none

@[simp] def setting? : DescriptionPart → Option Setting
  | .database _ => none
  | .option s _ => some s

end DescriptionPart

/-- What the parts of a description set. -/
def settings (ps : List DescriptionPart) : List Setting := ps.filterMap DescriptionPart.setting?

/-- Whether a connection has what the options set, and all else as another one has it. -/
structure SetBy (ss : List Setting) (c d : Connection) : Prop where
  holds : ∀ s ∈ ss, s.Holds d
  agrees : ∀ key, key ∉ ss.map Setting.key → key.Agrees c d
  properties : d.properties = c.properties

/-- Whether a text is another one in quotes or without, with any blanks on both sides of them. -/
inductive Encloses (body : Text) : Text → Prop where
  | bare {before behind : Text} (hbefore : ∀ d ∈ before, Text.isBlank d) (hbehind : ∀ d ∈ behind, Text.isBlank d) :
    Encloses body (before ++ (body ++ behind))
  | quoted {before front rear behind : Text} {quote : Char} (hquote : isQuote quote)
    (hbefore : ∀ d ∈ before, Text.isBlank d) (hfront : ∀ d ∈ front, Text.isBlank d)
    (hrear : ∀ d ∈ rear, Text.isBlank d) (hbehind : ∀ d ∈ behind, Text.isBlank d) :
    Encloses body (before ++ (quote :: (front ++ (body ++ (rear ++ [quote]))) ++ behind))

/-- Whether a text describes a remote database by these parts: the database comes once and an option at most
once, the words of the parts stand in their order, and no quote stands at their ends. -/
structure Describes (t : Text) (ps : List DescriptionPart) (database : Text) : Prop where
  database : ps.filterMap DescriptionPart.database? = [database]
  options : ((settings ps).map Setting.key).Nodup
  legible : ∀ p ∈ ps, p.Legible
  text : ∃ body, Text.Spaced (ps.flatMap DescriptionPart.words) body ∧ (∀ c ∈ body.head?, ¬ isQuote c) ∧
    (∀ c ∈ body.getLast?, ¬ isQuote c) ∧ Encloses body t

section Parts

variable {p : DescriptionPart} {s : Setting} {c d : Connection}

theorem RemoteOption.spells (key : RemoteOption) {spelling : Spelling} {value : Text} (h : spelling.Fits value) :
    Spells remoteRules (spelling.words key.letter key.name value) [.option key value] := by
  let rule : OptionRule RemoteOption := ⟨key, some key.letter, key.name, true⟩
  have hdash : key.letter ≠ '-' := by cases key <;> decide
  have hname : rule.name ≠ [] := by cases key <;> exact List.cons_ne_nil _ _
  have hequals : '=' ∉ key.name := by cases key <;> decide
  have hletter : remoteRules.find? (·.letter = some key.letter) = some rule := by cases key <;> rfl
  have hlong : remoteRules.find? (·.name = rule.name) = some rule := by cases key <;> rfl
  exact OptionItem.spells_option hdash hname hequals hletter hlong rfl h

theorem DescriptionPart.spells (h : p.Legible) : Spells remoteRules p.words [p.item] := by
  cases p with
  | database t => exact OptionItem.spells_positional h
  | option s spelling => exact s.key.spells h

theorem Setting.holds_applied (s : Setting) (c : Connection) : s.Holds (s.applied c) := by
  cases s <;> rfl

theorem Setting.holds_congr (h : s.key.Agrees c d) (hs : s.Holds c) : s.Holds d := by
  cases s <;> exact h.symm.trans hs

theorem Setting.agrees_applied {key : RemoteOption} (h : key ≠ s.key) (c : Connection) :
    key.Agrees c (s.applied c) := by
  cases s <;> cases key <;> first | rfl | exact absurd rfl h

theorem Setting.properties_applied (s : Setting) (c : Connection) : (s.applied c).properties = c.properties := by
  cases s <;> rfl

theorem RemoteOption.Agrees.trans {key : RemoteOption} {e : Connection} (h : key.Agrees c d) (h' : key.Agrees d e) :
    key.Agrees c e := by
  cases key <;> exact Eq.trans h h'

theorem SetBy.nil (c : Connection) : SetBy [] c c where
  holds := fun s hs => absurd hs List.not_mem_nil
  agrees := fun key _ => by cases key <;> rfl
  properties := rfl

theorem SetBy.cons {ss : List Setting} (h : SetBy ss (s.applied c) d) (hs : s.key ∉ ss.map Setting.key) :
    SetBy (s :: ss) c d where
  holds := List.forall_mem_cons.mpr ⟨Setting.holds_congr (h.agrees s.key hs) (s.holds_applied c), h.holds⟩
  agrees := by
    intro key hkey
    obtain ⟨hne, hkey⟩ := List.ne_and_not_mem_of_not_mem_cons hkey
    exact (Setting.agrees_applied hne c).trans (h.agrees key hkey)
  properties := h.properties.trans (s.properties_applied c)

end Parts

section Reading

variable {d : Described} {s : Setting} {ps : List DescriptionPart} {database : Text}

theorem optionPort?_ofNatPadded (zeros : Nat) (p : Port) : optionPort? (Text.ofNatPadded zeros p.val) = some p := by
  have hdash : ∀ r, Text.ofNatPadded zeros p.val = '-' :: r → False := by
    intro r hr
    have hdigit : ('-' : Char).isDigit := Text.isDigit_of_mem_ofNatPadded (hr ▸ List.mem_cons_self)
    exact absurd hdigit (by decide)
  rw [optionPort?.eq_2 _ hdash, Port.read_ofNatPadded]
  rfl

/-- An option that was not given yet is taken into account. -/
theorem add_setting (h : s.key ∉ d.given) : d.add (.option s.key s.value) =
    some { d with given := s.key :: d.given, connection := s.applied d.connection } := by
  rw [Described.add, if_neg h]
  cases s with
  | port zeros p =>
    change (optionPort? (Text.ofNatPadded zeros p.val)).map _ = _
    rw [optionPort?_ofNatPadded]
    rfl
  | _ => rfl

/-- What a description says once all its parts are read, each option at most once: it has the database and
what the options set. -/
theorem exists_foldlM_add (hdatabase : d.database.toList ++ ps.filterMap DescriptionPart.database? = [database])
    (hkeys : ((settings ps).map Setting.key).Nodup) (hgiven : ∀ s ∈ settings ps, s.key ∉ d.given) :
    ∃ d', (ps.map DescriptionPart.item).foldlM Described.add d = some d' ∧ d'.database = some database ∧
      SetBy (settings ps) d.connection d'.connection := by
  induction ps generalizing d with
  | nil =>
    have hd : d.database = some database := by
      cases h : d.database <;> simp [h] at hdatabase
      rw [hdatabase]
    exact ⟨d, rfl, hd, .nil d.connection⟩
  | cons p ps ih =>
    cases p with
    | database t =>
      have hnone : d.database = none := by
        cases h : d.database <;> simp [h] at hdatabase
        rfl
      rw [hnone] at hdatabase
      have hadd : d.add (.positional t) = some { d with database := some t } := by
        rw [Described.add, hnone]
        rfl
      obtain ⟨d', hrun, hd', hset⟩ := ih (d := { d with database := some t }) hdatabase hkeys hgiven
      refine ⟨d', ?_, hd', hset⟩
      rw [List.map_cons, List.foldlM_cons, DescriptionPart.item, hadd]
      exact hrun
    | option s spelling =>
      have hnot : s.key ∉ (settings ps).map Setting.key := (List.nodup_cons.mp hkeys).1
      have hadd := add_setting (hgiven s List.mem_cons_self)
      -- the options behind this one are free still, for none of them is the same
      have hfree : ∀ r ∈ settings ps, r.key ∉ s.key :: d.given := by
        intro r hr
        refine List.not_mem_cons_of_ne_of_not_mem ?_ (hgiven r (List.mem_cons_of_mem s hr))
        exact fun he => hnot (he ▸ List.mem_map_of_mem hr)
      obtain ⟨d', hrun, hd', hset⟩ :=
        ih (d := { d with given := s.key :: d.given, connection := s.applied d.connection }) hdatabase
          (List.nodup_cons.mp hkeys).2 hfree
      refine ⟨d', ?_, hd', hset.cons hnot⟩
      rw [List.map_cons, List.foldlM_cons, DescriptionPart.item, hadd]
      exact hrun

end Reading

section Enclosed

variable {body t : Text} {ws : List Text} {c : Char}

theorem not_isBlank_of_isQuote (h : isQuote c) : ¬ Text.isBlank c := by
  rw [isQuote, Bool.or_eq_true, decide_eq_true_iff, decide_eq_true_iff] at h
  rcases h with rfl | rfl <;> decide

/-- A text that begins with a blank, or else with what begins no quote, begins with no quote. -/
theorem head?_not_quote {blanks s : Text} (hblanks : ∀ d ∈ blanks, Text.isBlank d) (hs : ∀ d ∈ s.head?, ¬ isQuote d) :
    ∀ d ∈ (blanks ++ s).head?, ¬ isQuote d := by
  cases blanks with
  | nil => exact hs
  | cons b blanks =>
    rintro d ⟨⟩ hd
    exact not_isBlank_of_isQuote hd (hblanks b List.mem_cons_self)

theorem getLast?_not_quote {s blanks : Text} (hs : ∀ d ∈ s.getLast?, ¬ isQuote d)
    (hblanks : ∀ d ∈ blanks, Text.isBlank d) : ∀ d ∈ (s ++ blanks).getLast?, ¬ isQuote d := by
  intro d hd
  rw [← List.head?_reverse, List.reverse_append] at hd
  refine head?_not_quote (fun e he => hblanks e (List.mem_reverse.mp he)) (fun e he => ?_) d hd
  rw [List.head?_reverse] at he
  exact hs e he

/-- Quotes around a description and blanks on both sides of them are no part of its words. -/
theorem Encloses.descriptionWords_eq (h : Encloses body t) (hbody : Text.Spaced ws body)
    (hhead : ∀ d ∈ body.head?, ¬ isQuote d) (hlast : ∀ d ∈ body.getLast?, ¬ isQuote d) :
    descriptionWords t = ws := by
  cases h with
  | @bare before behind hbefore hbehind =>
    have htrim : (before ++ (body ++ behind)).trim = body :=
      Text.trimBoth_append hbefore hbehind hbody.head?_not_blank hbody.getLast?_not_blank hbody.ne_nil
    have hquotes : body.trimBoth isQuote = body := by
      have hnone : ∀ d ∈ ([] : Text), isQuote d := fun d hd => absurd hd List.not_mem_nil
      have hall := Text.trimBoth_append hnone hnone hhead hlast hbody.ne_nil
      rwa [List.append_nil, List.nil_append] at hall
    rw [descriptionWords, htrim, hquotes, hbody.words_eq]
  | @quoted before front rear behind quote hquote hbefore hfront hrear hbehind =>
    let inner : Text := front ++ (body ++ rear)
    have hinner : quote :: (front ++ (body ++ (rear ++ [quote]))) = [quote] ++ (inner ++ [quote]) := by
      simp [inner]
    have hends : ∀ d ∈ [quote], isQuote d := fun d hd => List.mem_singleton.mp hd ▸ hquote
    have htrim : (before ++ (quote :: (front ++ (body ++ (rear ++ [quote]))) ++ behind)).trim =
        [quote] ++ (inner ++ [quote]) := by
      rw [hinner]
      refine Text.trimBoth_append hbefore hbehind ?_ ?_ (List.cons_ne_nil _ _)
      · rintro d ⟨⟩
        exact not_isBlank_of_isQuote hquote
      · rw [← List.append_assoc, List.getLast?_concat]
        rintro d ⟨⟩
        exact not_isBlank_of_isQuote hquote
    have hquotes : Text.trimBoth isQuote ([quote] ++ (inner ++ [quote])) = inner := by
      refine Text.trimBoth_append hends hends ?_ ?_ ?_
      · refine head?_not_quote hfront ?_
        rw [List.head?_append_of_ne_nil body hbody.ne_nil]
        exact hhead
      · have hsplit : inner = (front ++ body) ++ rear := (List.append_assoc front body rear).symm
        rw [hsplit]
        refine getLast?_not_quote ?_ hrear
        rw [List.getLast?_append_of_ne_nil front hbody.ne_nil]
        exact hlast
      · exact List.append_ne_nil_of_right_ne_nil _ (List.append_ne_nil_of_left_ne_nil hbody.ne_nil _)
    rw [descriptionWords, htrim, hquotes, Text.words_blanks_append hfront, Text.words_append_blanks hrear,
      hbody.words_eq]

end Enclosed

section Arguments

variable {t database : Text} {ps : List DescriptionPart} {files : FileTree}

theorem Describes.database_ne_nil (h : Describes t ps database) : database ≠ [] := by
  obtain ⟨body, hbody, -⟩ := h.text
  have hmem : database ∈ ps.filterMap DescriptionPart.database? := h.database ▸ List.mem_singleton_self database
  obtain ⟨p, hp, hdatabase⟩ := List.mem_filterMap.mp hmem
  cases p with
  | database name =>
    cases hdatabase
    exact (hbody.isWord (List.mem_flatMap.mpr ⟨_, hp, List.mem_singleton_self database⟩)).1
  | option s spelling => cases hdatabase

theorem Describes.exists_describedRemote? (h : Describes t ps database) :
    ∃ c, describedRemote? t = some (.remote database c) ∧ SetBy (settings ps) {} c := by
  obtain ⟨body, hbody, hhead, hlast, hencloses⟩ := h.text
  have hspells : Spells remoteRules (ps.flatMap DescriptionPart.words) (ps.flatMap fun p => [p.item]) :=
    Spells.flatMap fun p hp => DescriptionPart.spells (h.legible p hp)
  have hitems : OptionItem.ofArguments remoteRules (descriptionWords t) = ps.map DescriptionPart.item := by
    rw [hencloses.descriptionWords_eq hbody hhead hlast, hspells.ofArguments_eq, ← List.map_eq_flatMap]
  obtain ⟨d, hrun, hdatabase, hset⟩ :=
    exists_foldlM_add (d := {}) h.database h.options fun s _ => List.not_mem_nil
  refine ⟨d.connection, ?_, hset⟩
  rw [describedRemote?, hitems, hrun]
  simp only [Option.bind_eq_bind, Option.bind_some, hdatabase, if_neg h.database_ne_nil]

/-- A description of a remote database with a space in it that is no path of a file is read as what its parts
say, in whatever order and spelling: its database, what its options set, and the defaults for all else. -/
theorem ofArgument_described (h : Describes t ps database) (hspace : ' ' ∈ t) (hpath : files.pathExists t = false) :
    ∃ c, ofArgument files t = .ok (.remote database c) ∧ SetBy (settings ps) {} c ∧ c.properties = [] := by
  obtain ⟨c, hremote, hset⟩ := h.exists_describedRemote?
  have hcontains : t.contains ' ' = true := List.contains_iff_mem.mpr hspace
  refine ⟨c, ?_, hset, hset.properties⟩
  rw [ofArgument, hpath, if_neg Bool.false_ne_true, if_pos hcontains, hremote]

/-- Four options in four spellings, some with signs for options in their values, in quotes. -/
theorem ofArgument_described_quoted :
    let t : Text := " \" -p=-=\t--port 007 shop\n-h'x --user=-u\" "
    let ps : List DescriptionPart := [.option (.password "-=") .equals, .option (.port 2 7) .longApart,
      .database "shop", .option (.host "'x") .glued, .option (.user "-u") .longEquals]
    let files := FileTree.empty [("w" : Text)]
    Describes t ps "shop" ∧ ' ' ∈ t ∧ files.pathExists t = false ∧
      ∃ c, ofArgument files t = .ok (.remote "shop" c) ∧ SetBy (settings ps) {} c ∧ c.properties = [] := by
  intro t ps files
  have hword {w : Text} (hne : w ≠ []) (hw : w.all fun d => !Text.isBlank d) : Text.IsWord w := by
    refine ⟨hne, fun d hd => ?_⟩
    simpa using List.all_eq_true.mp hw d hd
  have hblank {gap : Text} (hgap : gap.all Text.isBlank) : ∀ d ∈ gap, Text.isBlank d := List.all_eq_true.mp hgap
  let body : Text := "-p=-=\t--port 007 shop\n-h'x --user=-u"
  have hcons {ws : List Text} {rest : Text} (w gap : Text) (hne : w ≠ [] ∧ gap ≠ [])
      (hw : w.all fun d => !Text.isBlank d) (hgap : gap.all Text.isBlank) (h : Text.Spaced ws rest) :
      Text.Spaced (w :: ws) (w ++ (gap ++ rest)) :=
    .cons (hword hne.1 hw) hne.2 (hblank hgap) h
  have hbody : Text.Spaced (ps.flatMap DescriptionPart.words) body := by
    refine hcons "-p=-=" "\t" (by decide) (by decide) (by decide) ?_
    refine hcons "--port" " " (by decide) (by decide) (by decide) ?_
    refine hcons "007" " " (by decide) (by decide) (by decide) ?_
    refine hcons "shop" "\n" (by decide) (by decide) (by decide) ?_
    refine hcons "-h'x" " " (by decide) (by decide) (by decide) ?_
    exact .last (hword (by decide) (by decide))
  have hdescribes : Describes t ps "shop" := by
    refine ⟨rfl, by decide, by decide, body, hbody, ?_, ?_, ?_⟩
    · rintro c ⟨⟩
      decide
    · rintro c ⟨⟩
      decide
    · exact @Encloses.quoted body " " " " [] " " '"' rfl (hblank (by decide)) (hblank (by decide))
        (hblank (by decide)) (hblank (by decide))
  have hplain : FileTree.IsPlain t := by decide +kernel
  have hpath : files.pathExists t = false := hplain.pathExists_eq_false (by decide) (by decide)
  exact ⟨hdescribes, by decide, hpath, ofArgument_described hdescribes (by decide) hpath⟩

end Arguments

end SchemaDrift.Source
