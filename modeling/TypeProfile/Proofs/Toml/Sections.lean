import TypeProfile.Proofs.Toml.Lines

/-!
# Documents with one section

Where a document gives texts to keys, first without a heading and then under one, its table holds
these texts and nothing else, provided that no key is given twice.
-/

namespace TypeProfile.Toml

/-- The entries that give texts to keys. -/
def entriesOf (texts : List (String × String)) : List Entry :=
  texts.map fun text => .ofText text.1 text.2

/-- The statements of a document with one heading. -/
def sectioned (top : List (String × String)) (name : String) (texts : List (String × String)) :
    List Statement :=
  (entriesOf top).map .entry ++ .heading (.table ⟨[], name⟩) :: (entriesOf texts).map .entry

namespace Table

/-- The table that holds texts for keys. -/
def ofTexts (texts : List (String × String)) : Table :=
  texts.map fun text => (text.1, .string text.2)

theorem get?_eq_none_iff {table : Table} {key : String} :
    table.get? key = none ↔ key ∉ table.map Prod.fst := by
  rw [get?, List.lookup_eq_none_iff, List.mem_map, not_exists]
  simp only [bne_iff_ne, ne_eq, not_and]
  exact forall₂_congr fun entry _ => not_congr eq_comm

theorem insert_of_new {table : Table} {key : String} (hnew : key ∉ table.map Prod.fst)
    (value : Value) : table.insert key value = table ++ [(key, value)] := by
  induction table with
  | nil => rfl
  | cons entry table ih =>
      obtain ⟨first, old⟩ := entry
      have hfirst : first ≠ key := fun hsame => hnew (hsame ▸ List.mem_cons_self)
      have hothers := ih fun hmem => hnew (List.mem_cons_of_mem first hmem)
      rw [insert, if_neg hfirst, hothers, List.cons_append]

theorem assign_of_new {table : Table} {key : String} (hnew : key ∉ table.map Prod.fst)
    (value : Value) : assign [] key value table = .ok (table ++ [(key, value)]) := by
  rw [assign, get?_eq_none_iff.mpr hnew, insert_of_new hnew]

theorem fill_entriesOf {texts : List (String × String)} {table : Table}
    (hdistinct : (table.map Prod.fst ++ texts.map Prod.fst).Nodup) :
    fill (entriesOf texts) table = .ok (table ++ ofTexts texts) := by
  induction texts generalizing table with
  | nil =>
      rw [ofTexts, List.map_nil, List.append_nil]
      rfl
  | cons text texts ih =>
      obtain ⟨key, value⟩ := text
      have hnew : key ∉ table.map Prod.fst := fun hmem =>
        (List.nodup_append.mp hdistinct).2.2 key hmem key List.mem_cons_self rfl
      have hfirst := assign_of_new hnew (.string value)
      have hrest : fill (entriesOf texts) (table ++ [(key, .string value)]) = _ :=
        ih (by simpa using hdistinct)
      rw [List.append_assoc] at hrest
      rw [fill, entriesOf, List.map_cons, List.foldlM_cons]
      simp only [Entry.ofText]
      rw [hfirst]
      exact hrest

theorem addSection_entriesOf {texts : List (String × String)} {table : Table} {name : String}
    (hnew : name ∉ table.map Prod.fst) (hdistinct : (texts.map Prod.fst).Nodup) :
    table.addSection ⟨.table ⟨[], name⟩, entriesOf texts⟩ =
      .ok (table ++ [(name, .table .headed (ofTexts texts))]) := by
  have hfill : fill (entriesOf texts) [] = .ok (ofTexts texts) := fill_entriesOf hdistinct
  simp only [addSection, within, get?_eq_none_iff.mpr hnew, hfill]
  rw [← insert_of_new hnew]
  rfl

end Table

/-- Entries before all other statements. -/
theorem ofStatements_entries_append (entries : List Entry) (statements : List Statement) :
    Document.ofStatements (entries.map .entry ++ statements) =
      ⟨entries ++ (Document.ofStatements statements).entries,
        (Document.ofStatements statements).sections⟩ := by
  induction entries with
  | nil => rfl
  | cons entry entries ih =>
      rw [Document.ofStatements] at ih ⊢
      rw [List.map_cons, List.cons_append, List.foldr_cons, ih]
      rfl

theorem ofStatements_sectioned (top : List (String × String)) (name : String)
    (texts : List (String × String)) :
    Document.ofStatements (sectioned top name texts) =
      ⟨entriesOf top, [⟨.table ⟨[], name⟩, entriesOf texts⟩]⟩ := by
  have hunder := ofStatements_entries_append (entriesOf texts) []
  have hheading : Document.ofStatements
      (.heading (.table ⟨[], name⟩) :: (entriesOf texts).map .entry) =
        ⟨[], [⟨.table ⟨[], name⟩, entriesOf texts⟩]⟩ := by
    rw [List.append_nil] at hunder
    rw [Document.ofStatements] at hunder ⊢
    rw [List.foldr_cons, hunder]
    simp [Document.cons, Document.ofStatements]
  rw [sectioned, ofStatements_entries_append, hheading, List.append_nil]

/-- The table of a document with one heading, in whatever way it is written. -/
theorem tableOf_of_writes {top texts : List (String × String)} {name text : String}
    (hwrites : Writes (sectioned top name texts) text.toList)
    (htop : (name :: top.map Prod.fst).Nodup) (htexts : (texts.map Prod.fst).Nodup) :
    tableOf text = .ok (Table.ofTexts top ++ [(name, .table .headed (Table.ofTexts texts))]) := by
  obtain ⟨hname, htop⟩ := List.nodup_cons.mp htop
  have hfill : Table.fill (entriesOf top) [] = .ok (Table.ofTexts top) := Table.fill_entriesOf htop
  have hnew : name ∉ (Table.ofTexts top).map Prod.fst := by
    simpa [Table.ofTexts] using hname
  have hsection := Table.addSection_entriesOf hnew htexts
  rw [tableOf, run_statements hwrites]
  change (Document.ofStatements (sectioned top name texts)).table = _
  rw [ofStatements_sectioned, Document.table, hfill]
  change List.foldlM Table.addSection (Table.ofTexts top) [_] = _
  rw [List.foldlM_cons, hsection]
  rfl

/-! ## Plain documents -/

/-- A character as it is usually written in a string. -/
def escape (c : Char) : List Char :=
  if c = '"' ∨ c = '\\' then ['\\', c]
  else if isPlain c then [c]
  else ['\\', 'u', '0', '0', Nat.digitChar (c.toNat / 16), Nat.digitChar (c.toNat % 16)]

/-- An entry as it is usually written, with its line break. -/
def plainEntry (text : String × String) : List Char :=
  text.1.toList ++ ' ' :: '=' :: ' ' :: '"' :: (text.2.toList.flatMap escape ++ ['"', '\n'])

/-- A document with one heading as it is usually written. -/
def plainDocument (top : List (String × String)) (name : String)
    (texts : List (String × String)) : List Char :=
  top.flatMap plainEntry ++ ('[' :: (name.toList ++ [']', '\n']) ++ texts.flatMap plainEntry)

/-- Whether a key needs no quotes. -/
def isBareKey (key : String) : Bool :=
  !key.toList.isEmpty && key.toList.all isBareKeyChar

theorem lt_of_not_isPlain {c : Char} (hplain : isPlain c = false) : c.toNat < 0x80 := by
  simp only [isPlain, Bool.or_eq_false_iff, Bool.and_eq_false_iff, decide_eq_false_iff_not,
    bne_eq_false_iff_eq] at hplain
  omega

theorem spells_escape (c : Char) : Spells c (escape c) := by
  unfold escape
  split
  next hmeaning => rcases hmeaning with rfl | rfl <;> exact .letter (by decide)
  next hmeaning =>
    obtain ⟨hquote, hbackslash⟩ := not_or.mp hmeaning
    split
    next hplain => exact .plain hquote hbackslash hplain
    next hcontrol =>
      have hsmall := lt_of_not_isPlain (Bool.eq_false_iff.mpr hcontrol)
      have hhigh := Text.hexValue?_digitChar (by omega : c.toNat / 16 < 16)
      have hlow := Text.hexValue?_digitChar (by omega : c.toNat % 16 < 16)
      have hzero : Text.hexValue? '0' = some 0 := rfl
      have hnumber : Numeral 0 _ (16 * (16 * (16 * (16 * 0 + 0) + 0) + c.toNat / 16) +
          c.toNat % 16) := .cons hzero (.cons hzero (.cons hhigh (.cons hlow (.nil _))))
      have hvalue : 16 * (16 * (16 * (16 * 0 + 0) + 0) + c.toNat / 16) + c.toNat % 16 =
          c.toNat := by omega
      rw [hvalue] at hnumber
      exact .short rfl hnumber

theorem spellsAll_escape (text : List Char) : SpellsAll text (text.flatMap escape) := by
  induction text with
  | nil => exact .nil
  | cons c text ih => exact .cons (spells_escape c) ih

theorem exists_spellsKey {key : String} (hbare : isBareKey key = true) :
    ∃ c others, key.toList = c :: others ∧ SpellsKey key c others := by
  unfold isBareKey at hbare
  cases hkey : key.toList with
  | nil =>
      rw [hkey] at hbare
      cases hbare
  | cons c others =>
      have hchars : ∀ d ∈ c :: others, isBareKeyChar d = true := by simpa [hkey] using hbare
      have hspells := SpellsKey.bare hchars
      rw [← hkey, String.ofList_toList] at hspells
      exact ⟨c, others, rfl, hspells⟩

theorem blank_space : Blank [' '] := by
  simp [Blank, isBlank]

theorem endsLine_newline (rest : List Char) : EndsLine ('\n' :: rest) rest :=
  .plain blank_nil (.newline (List.mem_cons_self) rest)

theorem writes_plainEntries {texts : List (String × String)}
    (hbare : ∀ text ∈ texts, isBareKey text.1 = true) {statements : List Statement}
    {rest : List Char} (hrest : Writes statements rest) :
    Writes ((entriesOf texts).map .entry ++ statements) (texts.flatMap plainEntry ++ rest) := by
  induction texts with
  | nil => exact hrest
  | cons text texts ih =>
      obtain ⟨hfirst, hbare⟩ := List.forall_mem_cons.mp hbare
      obtain ⟨c, others, hkey, hspells⟩ := exists_spellsKey hfirst
      have hline := Statement.Spells.entry hspells blank_space blank_space
        (spellsAll_escape text.2.toList)
      have hwrites := Writes.statement blank_nil hline (endsLine_newline _) (ih hbare)
      simpa [entriesOf, plainEntry, hkey] using hwrites

theorem writes_plainDocument {top texts : List (String × String)} {name : String}
    (hname : isBareKey name = true) (htop : ∀ text ∈ top, isBareKey text.1 = true)
    (htexts : ∀ text ∈ texts, isBareKey text.1 = true) :
    Writes (sectioned top name texts) (plainDocument top name texts) := by
  obtain ⟨c, others, hkey, hspells⟩ := exists_spellsKey hname
  have hentries := writes_plainEntries htexts (.done blank_nil)
  have hheading := Writes.statement blank_nil (.heading hspells blank_nil blank_nil)
    (endsLine_newline _) hentries
  apply writes_plainEntries htop
  simpa [hkey] using hheading

end TypeProfile.Toml
