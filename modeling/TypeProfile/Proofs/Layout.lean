import Mathlib.Computability.Language
import TypeProfile.Layout

/-!
# Which layouts are usable

Names are the words of a regular language, and so are indentations. A layout is usable if each of
its texts is a word of the language of its field. If not, the first field for which this fails is
reported, with its text as it stands.
-/

namespace TypeProfile

open scoped Computability

namespace Text

/-- The character stands in one of the ranges, both ends included. -/
def InRanges (ranges : List (Char × Char)) (c : Char) : Prop :=
  ∃ range ∈ ranges, range.1 ≤ c ∧ c ≤ range.2

/-- The words of a single character from the ranges. -/
def oneOf (ranges : List (Char × Char)) : Language Char :=
  {word | ∃ c, InRanges ranges c ∧ word = [c]}

/-- A letter of the Latin alphabet or an underscore, and then any number of these and of digits. -/
def identifiers : Language Char :=
  oneOf [('A', 'Z'), ('a', 'z'), ('_', '_')] *
    (oneOf [('A', 'Z'), ('a', 'z'), ('0', '9'), ('_', '_')])∗

/-- Any number of spaces and tabs. -/
def indentations : Language Char :=
  (oneOf [(' ', ' '), ('\t', '\t')])∗

theorem inRanges_cons {first last : Char} {ranges : List (Char × Char)} {c : Char} :
    InRanges ((first, last) :: ranges) c ↔ first ≤ c ∧ c ≤ last ∨ InRanges ranges c := by
  simp [InRanges]

theorem not_inRanges_nil (c : Char) : ¬InRanges [] c := by
  simp [InRanges]

/-- A range with one character in it. -/
theorem between_self_iff {c d : Char} : d ≤ c ∧ c ≤ d ↔ c = d := by
  constructor
  · rintro ⟨hle, hge⟩
    exact Char.le_antisymm hge hle
  · rintro rfl
    exact ⟨Char.le_refl c, Char.le_refl c⟩

theorem isUpper_iff {c : Char} : c.isUpper = true ↔ 'A' ≤ c ∧ c ≤ 'Z' :=
  decide_eq_true_iff

theorem isLower_iff {c : Char} : c.isLower = true ↔ 'a' ≤ c ∧ c ≤ 'z' :=
  Bool.and_eq_true_iff.trans (and_congr decide_eq_true_iff decide_eq_true_iff)

theorem isDigit_iff {c : Char} : c.isDigit = true ↔ '0' ≤ c ∧ c ≤ '9' :=
  Bool.and_eq_true_iff.trans (and_congr decide_eq_true_iff decide_eq_true_iff)

theorem startsIdentifier_iff_inRanges {c : Char} :
    startsIdentifier c = true ↔ InRanges [('A', 'Z'), ('a', 'z'), ('_', '_')] c := by
  have hstarts : startsIdentifier c = (c.isUpper || c.isLower || c == '_') := rfl
  simp only [hstarts, inRanges_cons, not_inRanges_nil, between_self_iff, or_false, Bool.or_eq_true,
    isUpper_iff, isLower_iff, beq_iff_eq, or_assoc]

theorem continuesIdentifier_iff_inRanges {c : Char} :
    continuesIdentifier c = true ↔
      InRanges [('A', 'Z'), ('a', 'z'), ('0', '9'), ('_', '_')] c := by
  have hcontinues : continuesIdentifier c =
      (c.isUpper || c.isLower || c.isDigit || c == '_') := rfl
  simp only [hcontinues, inRanges_cons, not_inRanges_nil, between_self_iff, or_false,
    Bool.or_eq_true, isUpper_iff, isLower_iff, isDigit_iff, beq_iff_eq, or_assoc]

theorem mem_kstar_oneOf_iff {ranges : List (Char × Char)} {word : List Char} :
    word ∈ (oneOf ranges)∗ ↔ ∀ c ∈ word, InRanges ranges c := by
  rw [Language.mem_kstar]
  constructor
  · rintro ⟨parts, rfl, hparts⟩ c hc
    obtain ⟨part, hpart, hc⟩ := List.mem_flatten.mp hc
    obtain ⟨only, honly, rfl⟩ := hparts part hpart
    rwa [List.mem_singleton.mp hc]
  · intro hword
    refine ⟨word.map fun c => [c], by simp [← List.flatMap_def], fun part hpart => ?_⟩
    obtain ⟨c, hc, rfl⟩ := List.mem_map.mp hpart
    exact ⟨c, hword c hc, rfl⟩

theorem cons_mem_oneOf_mul_iff {ranges : List (Char × Char)} {rest : Language Char} {c : Char}
    {word : List Char} : c :: word ∈ oneOf ranges * rest ↔ InRanges ranges c ∧ word ∈ rest := by
  rw [Language.mem_mul]
  constructor
  · rintro ⟨_, ⟨only, honly, rfl⟩, more, hmore, hword⟩
    cases hword
    exact ⟨honly, hmore⟩
  · rintro ⟨hc, hword⟩
    exact ⟨[c], ⟨c, hc, rfl⟩, word, hword, rfl⟩

theorem nil_notMem_oneOf_mul (ranges : List (Char × Char)) (rest : Language Char) :
    [] ∉ oneOf ranges * rest := by
  rw [Language.mem_mul]
  rintro ⟨_, ⟨only, -, rfl⟩, more, -, hword⟩
  cases hword

theorem isIdentifier_iff_mem (text : String) :
    isIdentifier text = true ↔ text.toList ∈ identifiers := by
  unfold isIdentifier identifiers
  cases text.toList with
  | nil => simp [nil_notMem_oneOf_mul]
  | cons c word =>
      simp only [Bool.and_eq_true, List.all_eq_true, startsIdentifier_iff_inRanges,
        continuesIdentifier_iff_inRanges, cons_mem_oneOf_mul_iff, mem_kstar_oneOf_iff]

theorem mem_indentations_iff (text : String) :
    text.toList ∈ indentations ↔ ∀ c ∈ text.toList, c = ' ' ∨ c = '\t' := by
  simp only [indentations, mem_kstar_oneOf_iff, inRanges_cons, not_inRanges_nil, between_self_iff,
    or_false]

theorem isIndentation_iff_mem (text : String) :
    isIndentation text = true ↔ text.toList ∈ indentations := by
  rw [mem_indentations_iff]
  simp [isIndentation]

end Text

namespace Layout

/-- The texts that may stand in a field. -/
def Field.language : Field → Language Char
  | structName | basePrefix => Text.identifiers
  | indent => Text.indentations

theorem Field.accepts_iff_mem (field : Field) (text : String) :
    field.accepts text = true ↔ text.toList ∈ field.language := by
  cases field with
  | structName | basePrefix => exact Text.isIdentifier_iff_mem text
  | indent => exact Text.isIndentation_iff_mem text

/-- The fields before a field, in the order of declaration. -/
def Field.earlier (field : Field) : List Field :=
  Field.vocabulary.all.takeWhile (· ≠ field)

theorem find?_eq_some_iff_earlier {test : Field → Bool} {field : Field} :
    Field.vocabulary.all.find? test = some field ↔
      test field = true ∧ ∀ other ∈ field.earlier, test other = false := by
  have hmem := Field.vocabulary.mem_all field
  unfold Field.earlier
  generalize Field.vocabulary.all = fields at hmem ⊢
  induction fields with
  | nil => cases hmem
  | cons first fields ih =>
      by_cases hsame : first = field
      · subst hsame
        have hfound : fields.find? test = some first → test first = true := List.find?_some
        cases htest : test first <;> simp_all
      · have hfields := ih ((List.mem_cons.mp hmem).resolve_left (Ne.symm hsame))
        cases htest : test first <;> simp [htest, hsame, hfields]

/-- The fault of a layout is that of the first field, in the order of declaration, which does not
accept its text. -/
theorem fault?_eq_some_iff {layout : Layout} {fault : Fault} :
    layout.fault? = some fault ↔
      fault.value = layout.get fault.field ∧ fault.field.accepts fault.value = false ∧
        ∀ field ∈ fault.field.earlier, field.accepts (layout.get field) = true := by
  simp only [fault?, Option.map_eq_some_iff, find?_eq_some_iff_earlier,
    Bool.not_eq_eq_eq_not, Bool.not_true, Bool.not_false]
  constructor
  · rintro ⟨field, ⟨hfield, hearlier⟩, rfl⟩
    exact ⟨rfl, hfield, hearlier⟩
  · rintro ⟨hvalue, hfield, hearlier⟩
    refine ⟨fault.field, ⟨hvalue ▸ hfield, hearlier⟩, ?_⟩
    rw [← hvalue]

/-- What a fault tells: the field by its name, the text in it, and what is wrong with the text. -/
def Fault.Tells (fault : Fault) (field value reason : String) : Prop :=
  fault.field.name = field ∧ fault.value = value ∧ fault.field.complaint = reason

/-- A layout is accepted exactly if both names are identifiers and the indentation is blank. The
first field that is not as it should be is reported by name with its text. -/
theorem fault?_exact (layout : Layout) :
    (layout.fault? = none ↔
      layout.structName.toList ∈ Text.identifiers ∧ layout.basePrefix.toList ∈ Text.identifiers ∧
        ∀ c ∈ layout.indent.toList, c = ' ' ∨ c = '\t') ∧
    ∀ fault, layout.fault? = some fault ↔
      (fault.Tells "struct_name" layout.structName "not an identifier" ∧
        layout.structName.toList ∉ Text.identifiers) ∨
      (fault.Tells "base_prefix" layout.basePrefix "not an identifier" ∧
        layout.structName.toList ∈ Text.identifiers ∧
          layout.basePrefix.toList ∉ Text.identifiers) ∨
      (fault.Tells "indent" layout.indent "only spaces and tabs are allowed" ∧
        layout.structName.toList ∈ Text.identifiers ∧
          layout.basePrefix.toList ∈ Text.identifiers ∧
            ∃ c ∈ layout.indent.toList, c ≠ ' ' ∧ c ≠ '\t') := by
  refine ⟨?_, fun fault => ?_⟩
  · rw [fault?_eq_none_iff]
    simp only [Field.accepts_iff_mem, ← Text.mem_indentations_iff]
    constructor
    · intro haccepts
      exact ⟨haccepts .structName, haccepts .basePrefix, haccepts .indent⟩
    · rintro ⟨hname, hprefix, hindent⟩ field
      cases field
      · exact hname
      · exact hprefix
      · exact hindent
  · have hindent : (∃ c ∈ layout.indent.toList, c ≠ ' ' ∧ c ≠ '\t') ↔
        layout.indent.toList ∉ Text.indentations := by
      simp [Text.mem_indentations_iff]
    rw [fault?_eq_some_iff, hindent]
    simp only [← Bool.not_eq_true, Field.accepts_iff_mem]
    obtain ⟨field, value⟩ := fault
    cases field with
    | structName =>
        have hearlier : Field.earlier .structName = [] := rfl
        simp only [hearlier, Fault.Tells, Field.name, Field.complaint, Field.language, get]
        simp +contextual
    | basePrefix =>
        have hearlier : Field.earlier .basePrefix = [.structName] := rfl
        simp only [hearlier, Fault.Tells, Field.name, Field.complaint, Field.language, get]
        simp +contextual [and_comm]
    | indent =>
        have hearlier : Field.earlier .indent = [.structName, .basePrefix] := rfl
        simp only [hearlier, Fault.Tells, Field.name, Field.complaint, Field.language, get]
        simp +contextual [and_comm, and_assoc]

end Layout

end TypeProfile
