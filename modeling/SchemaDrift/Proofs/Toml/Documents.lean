import SchemaDrift.Proofs.Toml.Values

namespace SchemaDrift.Toml

section Keys

variable {α β : Type} {xs : List (Text × α)} {key : Text} {a : α}

theorem lookup_eq_none_of_notMem (h : key ∉ xs.map Prod.fst) : xs.lookup key = none := by
  rw [List.lookup_eq_none_iff]
  intro p hp
  rw [bne_iff_ne]
  rintro rfl
  exact h (List.mem_map_of_mem hp)

/-- The value of a key is the only one it stands with. -/
theorem lookup_eq_some_iff_mem (hnodup : (xs.map Prod.fst).Nodup) : xs.lookup key = some a ↔ (key, a) ∈ xs := by
  rw [List.lookup_eq_some_iff]
  constructor
  · rintro ⟨front, rest, rfl, -⟩
    exact List.mem_append_right _ List.mem_cons_self
  · intro h
    obtain ⟨front, rest, rfl⟩ := List.append_of_mem h
    refine ⟨front, rest, rfl, fun p hp => ?_⟩
    rw [List.map_append, List.nodup_append] at hnodup
    rw [bne_iff_ne]
    exact (hnodup.2.2 p.1 (List.mem_map_of_mem hp) key List.mem_cons_self).symm

theorem lookup_map_snd (f : α → β) (xs : List (Text × α)) (key : Text) :
    (xs.map fun x => (x.1, f x.2)).lookup key = (xs.lookup key).map f := by
  induction xs with
  | nil => rfl
  | cons x xs ih =>
    rw [List.map_cons, List.lookup_cons, List.lookup_cons]
    cases key == x.1 with
    | true => rfl
    | false => exact ih

end Keys

namespace Draft

variable {d d' d'' : Draft} {es E : Entries} {key name : Text} {c : Char} {k r s t v w rest : Text} {x : Value}
  {fuel : Nat}

/-! ### What a line adds -/

theorem insert_front (h : es.lookup key = none) :
    insert { entries := es } [] key x = some { entries := es ++ [(key, x)] } := by
  simp [insert, changeAt, insertKey, h]

theorem replace_last (hname : E.lookup name = none) (x y : Value) :
    Entries.replace (E ++ [(name, x)]) name y = E ++ [(name, y)] := by
  have hother : ∀ e ∈ E, (if e.1 = name then (name, y) else e) = e := by
    intro e he
    refine if_neg fun h => ?_
    have hne := List.lookup_eq_none_iff.mp hname e he
    rw [h] at hne
    simp at hne
  rw [Entries.replace, List.map_append, List.map_congr_left hother, List.map_id']
  simp

theorem insert_table (hname : E.lookup name = none) (h : es.lookup key = none) :
    insert { entries := E ++ [(name, .table .header es)], path := [name] } [] key x =
      some { entries := E ++ [(name, .table .header (es ++ [(key, x)]))], path := [name] } := by
  have hlookup : (E ++ [(name, Value.table .header es)]).lookup name = some (.table .header es) := by
    rw [List.lookup_append, hname]
    simp
  simp [insert, changeAt, insertKey, hlookup, h, Descent.enters, replace_last hname]

theorem header?_append {a n b : Text} (ha : IsGap a) (hn : KeyWriting name n) (hb : IsGap b)
    (h : d.entries.lookup name = none) (r : Text) : d.header? (a ++ (n ++ (b ++ ']' :: r))) =
      some ({ entries := d.entries ++ [(name, .table .header [])], path := [name] }, r) := by
  have hkey : key? (a ++ (n ++ (b ++ ']' :: r))) = some ([], name, ']' :: r) := key?_append ha hn hb (by decide) r
  have hclose : Text.dropStart? [']'] (']' :: r) = some r := Text.dropStart?_append [']'] r
  unfold header?
  split
  case h_1 s hs =>
    -- a second bracket would open one table of several
    have hskip := skipSpaces_key ha hn (b ++ ']' :: r)
    obtain ⟨c, v, rfl, hc⟩ := hn.exists_cons
    rw [hs] at hskip
    obtain ⟨rfl, -⟩ := List.cons.inj hskip
    exact absurd (by decide) hc
  case h_2 => simp [hkey, hclose, openTable, changeAt, h]

/-! ### One line -/

theorem read_of_assignment (ht : skipSpaces t = c :: s) (hc : c ∉ [' ', '\t', '#', '[', '\n', '\r'])
    (ha : d.assignment? (c :: s) = some (d', r)) (he : lineEnd? r = some rest) :
    d.read (fuel + 1) t = d'.read fuel rest := by
  simp only [List.mem_cons, not_or] at hc
  simp [read, ht, hc, afterBreak?, ha, he]

theorem read_of_header (ht : skipSpaces t = '[' :: s) (hh : d.header? s = some (d', r)) (he : lineEnd? r = some rest) :
    d.read (fuel + 1) t = d'.read fuel rest := by
  simp [read, ht, hh, he]

theorem read_blank (hw : IsLineEnd w) (d : Draft) (fuel : Nat) (rest : Text) :
    d.read (fuel + 1) (w ++ rest) = d.read fuel rest := by
  cases hw with
  | mk hg hc hb =>
    have ht := skipSpaces_comment hg hc hb rest
    cases hc with
    | absent =>
      rcases hb with rfl | rfl
      · rw [read, ht]
        rfl
      · rw [read, ht]
        rfl
    | @present w hw =>
      have he := lineEnd?_append (.mk isGap_nil (.present hw) hb) rest
      rw [List.nil_append, List.append_assoc, List.cons_append] at he
      rw [read, ht]
      change (lineEnd? ('#' :: (w ++ (_ ++ rest))) >>= d.read fuel) = _
      rw [he]
      rfl

/-- A setting's line adds it to the table at hand. -/
theorem read_entry {x : Setting} {g a b e : Text} (hg : IsGap g) (hk : KeyWriting key k) (ha : IsGap a) (hb : IsGap b)
    (hv : ValueWriting x v) (he : IsLineEnd e) (hd : d.insert [] key x.value = some d') (fuel : Nat) (rest : Text) :
    d.read (fuel + 1) (g ++ (k ++ (a ++ '=' :: (b ++ (v ++ e)))) ++ rest) = d'.read fuel rest := by
  have hvalue : value? (depthLimit - 1) (skipSpaces (b ++ (v ++ (e ++ rest)))) = some (x.value, e ++ rest) := by
    have hread := value?_append hv (he.endsValue rest) 78
    obtain ⟨c, s, rfl, hc⟩ := hv.exists_cons
    rw [List.cons_append] at hread ⊢
    rwa [skipSpaces_cons hb hc]
  have hassign : d.assignment? (k ++ (a ++ '=' :: (b ++ (v ++ (e ++ rest))))) = some (d', e ++ rest) := by
    have hkey : key? (k ++ (a ++ '=' :: (b ++ (v ++ (e ++ rest))))) =
        some ([], key, '=' :: (b ++ (v ++ (e ++ rest)))) :=
      key?_append isGap_nil hk ha (by decide) (b ++ (v ++ (e ++ rest)))
    have hsign : Text.dropStart? ['='] ('=' :: (b ++ (v ++ (e ++ rest)))) = some (b ++ (v ++ (e ++ rest))) :=
      Text.dropStart?_append ['='] _
    simp [assignment?, hkey, hsign, hvalue, hd]
  have ht := skipSpaces_key hg hk (a ++ '=' :: (b ++ (v ++ (e ++ rest))))
  obtain ⟨c, s, hs, hc⟩ := hk.exists_cons
  rw [hs, List.cons_append] at hassign ht
  simp only [List.append_assoc, List.cons_append]
  rw [hs]
  exact read_of_assignment ht hc hassign (lineEnd?_append he rest)

/-- A header's line opens its table. -/
theorem read_header {g a n b e : Text} (hg : IsGap g) (ha : IsGap a) (hn : KeyWriting name n) (hb : IsGap b)
    (he : IsLineEnd e) (h : d.entries.lookup name = none) (fuel : Nat) (rest : Text) :
    d.read (fuel + 1) (g ++ '[' :: (a ++ (n ++ (b ++ ']' :: e))) ++ rest) =
      read { entries := d.entries ++ [(name, .table .header [])], path := [name] } fuel rest := by
  have hskip : skipSpaces (g ++ '[' :: (a ++ (n ++ (b ++ ']' :: (e ++ rest))))) =
      '[' :: (a ++ (n ++ (b ++ ']' :: (e ++ rest)))) := skipSpaces_cons hg (by decide)
  simp only [List.append_assoc, List.cons_append]
  exact read_of_header hskip (header?_append ha hn hb h (e ++ rest)) (lineEnd?_append he rest)

/-! ### Runs of lines -/

/-- Whether the reading of a part of a document leads from one draft to another. -/
def Reads (d : Draft) (w : Text) (d' : Draft) : Prop :=
  ∀ fuel rest, (w ++ rest).length < fuel → ∃ fuel', rest.length < fuel' ∧ d.read fuel (w ++ rest) = d'.read fuel' rest

namespace Reads

theorem refl (d : Draft) : d.Reads [] d := fun fuel _ hfuel => ⟨fuel, hfuel, rfl⟩

theorem trans (h : d.Reads v d') (h' : d'.Reads w d'') : d.Reads (v ++ w) d'' := by
  intro fuel rest hfuel
  rw [List.append_assoc] at hfuel ⊢
  obtain ⟨fuel', hfuel', hread⟩ := h fuel (w ++ rest) hfuel
  rw [hread]
  exact h' fuel' rest hfuel'

theorem of_line (hne : w ≠ []) (h : ∀ fuel rest, d.read (fuel + 1) (w ++ rest) = d'.read fuel rest) : d.Reads w d' := by
  intro fuel rest hfuel
  have hpos := List.length_pos_iff.mpr hne
  rw [List.length_append] at hfuel
  obtain ⟨fuel, rfl⟩ := Nat.exists_eq_add_one_of_ne_zero (Nat.ne_zero_of_lt hfuel)
  exact ⟨fuel, by omega, h fuel rest⟩

end Reads

/-- A draft that has these entries in the table at hand, whatever else it has. -/
def Gathers (draft : Entries → Draft) : Prop :=
  ∀ es key x, es.lookup key = none → (draft es).insert [] key x = some (draft (es ++ [(key, x)]))

theorem gathers_front : Gathers fun es => { entries := es } := fun _ _ _ h => insert_front h

theorem gathers_table (hname : E.lookup name = none) :
    Gathers fun es => { entries := E ++ [(name, .table .header es)], path := [name] } :=
  fun _ _ _ h => insert_table hname h

/-- New settings are added one by one. -/
theorem reads_settings {draft : Entries → Draft} (hdraft : Gathers draft) {xs : Settings} (hw : SettingsWriting xs w)
    (hnew : (es.map Prod.fst ++ xs.map Prod.fst).Nodup) : (draft es).Reads w (draft (es ++ xs.entries)) := by
  -- keys that are there and keys still to come are distinct all the way
  induction hw generalizing es with
  | nil =>
    rw [Settings.entries, List.map_nil, List.append_nil]
    exact .refl (draft es)
  | blank he hw ih => exact .trans (.of_line he.ne_nil (read_blank he (draft es))) (ih hnew)
  | @entry key x xs g k a b v e w hg hk ha hb hv he hw ih =>
    have hfresh : es.lookup key = none := by
      refine lookup_eq_none_of_notMem fun hmem => ?_
      exact (List.nodup_append.mp hnew).2.2 key hmem key List.mem_cons_self rfl
    have hrest : ((es ++ [(key, x.value)]).map Prod.fst ++ xs.map Prod.fst).Nodup := by
      rw [List.map_append, List.append_assoc]
      exact hnew
    have hread := ih hrest
    rw [List.append_assoc] at hread
    exact .trans (.of_line (by simp) (read_entry hg hk ha hb hv he (hdraft es key x.value hfresh))) hread

/-- The tables behind new headers stand at the end. -/
theorem reads_tables {tables : List (Text × Settings)} (hw : TablesWriting tables w)
    (hnew : (d.entries.map Prod.fst ++ tables.map Prod.fst).Nodup)
    (hkeys : ∀ table ∈ tables, (table.2.map Prod.fst).Nodup) :
    ∃ path, d.Reads w { entries := d.entries ++ Layout.headed tables, path } := by
  induction hw generalizing d with
  | nil => 
    refine ⟨d.path, ?_⟩
    rw [Layout.headed, List.map_nil, List.append_nil]
    exact .refl d
  | @cons name xs tables g a n b e v w hg ha hn hb he hv hw ih =>
    have hfresh : d.entries.lookup name = none := by
      refine lookup_eq_none_of_notMem fun hmem => ?_
      exact (List.nodup_append.mp hnew).2.2 name hmem name List.mem_cons_self rfl
    have hheader := Reads.of_line (by simp) (read_header hg ha hn hb he hfresh)
    have hsettings : Reads { entries := d.entries ++ [(name, .table .header [])], path := [name] } v
        { entries := d.entries ++ [(name, .table .header xs.entries)], path := [name] } :=
      reads_settings (gathers_table hfresh) hv (hkeys (name, xs) List.mem_cons_self)
    have hrest : ((d.entries ++ [(name, Value.table .header xs.entries)]).map Prod.fst ++
        tables.map Prod.fst).Nodup := by
      rw [List.map_append, List.append_assoc]
      exact hnew
    let d' : Draft := { entries := d.entries ++ [(name, .table .header xs.entries)], path := [name] }
    obtain ⟨path, htables⟩ := ih (d := d') hrest fun table hmem => hkeys table (List.mem_cons_of_mem _ hmem)
    refine ⟨path, hheader.trans (hsettings.trans ?_)⟩
    rw [List.append_assoc] at htables
    exact htables

/-- No line starts with a byte order mark. -/
theorem read_mark (d : Draft) (fuel : Nat) (t : Text) : d.read fuel ('\uFEFF' :: t) = none := by
  cases fuel with
  | zero => rfl
  | succ fuel =>
    have hskip : skipSpaces ('\uFEFF' :: t) = '\uFEFF' :: t := List.dropWhile_cons_of_neg (by decide)
    have hkey : key? ('\uFEFF' :: t) = none := by
      have hbare : ('\uFEFF' :: t).takeWhile isBareKeyChar = [] := List.takeWhile_cons_of_neg (by decide)
      simp [key?, keyParts, hskip, keyPart?, hbare]
    simp [read, hskip, afterBreak?, assignment?, hkey]

/-- What may stand behind the last line ends the document. -/
theorem read_end {g c : Text} (hg : IsGap g) (hc : IsComment c) (d : Draft) (hfuel : (g ++ c).length < fuel) :
    d.read fuel (g ++ c) = some d := by
  obtain ⟨fuel, rfl⟩ := Nat.exists_eq_add_one_of_ne_zero (Nat.ne_zero_of_lt hfuel)
  cases hc with
  | absent =>
    have hskip : skipSpaces (g ++ []) = [] := skipSpaces_append hg (by rintro c ⟨⟩)
    rw [read, hskip]
  | @present w hw =>
    rw [List.length_append, List.length_cons] at hfuel
    obtain ⟨fuel, rfl⟩ := Nat.exists_eq_add_one_of_ne_zero (show fuel ≠ 0 by omega)
    have hskip : skipSpaces (g ++ '#' :: w) = '#' :: w := skipSpaces_cons hg (by decide)
    have hend : lineEnd? ('#' :: w) = some [] := by
      have hcomment := afterComment?_append (.present hw) (r := []) (.inl rfl)
      rw [List.append_nil] at hcomment
      have halone : skipSpaces ('#' :: w) = '#' :: w := skipSpaces_cons isGap_nil (by decide)
      rw [lineEnd?, halone, hcomment]
      rfl
    rw [read, hskip]
    change (lineEnd? ('#' :: w) >>= d.read (fuel + 1)) = _
    rw [hend]
    rfl

end Draft

/-- A document is read as what it was written for. -/
theorem read?_of_isWritten {l : Layout} (hl : l.IsDistinct) {w : Text} (hw : l.IsWritten w) :
    read? w = some l.entries := by
  have hread : (Draft.read {} (w.length + 1) w).map Draft.entries = some l.entries := by
    cases hw with
    | @mk v w g c hv hw hg hc =>
      have hnames : (l.front.entries.map Prod.fst ++ l.tables.map Prod.fst).Nodup := by
        rw [Settings.entries, List.map_map]
        exact hl.names
      have hfront : Draft.Reads {} v { entries := l.front.entries } :=
        Draft.reads_settings Draft.gathers_front hv (List.nodup_append.mp hl.names).1
      obtain ⟨path, htables⟩ := Draft.reads_tables (d := { entries := l.front.entries }) hw hnames hl.keys
      obtain ⟨fuel, hfuel, hread⟩ :=
        hfront.trans htables ((v ++ w ++ (g ++ c)).length + 1) (g ++ c) (Nat.lt_succ_self _)
      rw [hread, Draft.read_end hg hc _ hfuel]
      rfl
  have hmark : w.head? ≠ some '\uFEFF' := by
    intro h
    obtain ⟨t, rfl⟩ := List.head?_eq_some_iff.mp h
    rw [Draft.read_mark] at hread
    cases hread
  rw [read?, if_neg hmark]
  exact hread

end SchemaDrift.Toml
