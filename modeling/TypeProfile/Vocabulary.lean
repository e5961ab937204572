/-!
# Vocabularies

A vocabulary names the values of a finite type by words. The order in which it lists the values is
the order of declaration, and every listing, record and error text follows it. Reading a word back
undoes naming and accepts nothing else, see `Vocabulary.ofName?_eq_some_iff`.
-/

namespace TypeProfile

/-- Names for the values of `α`. That the name of each value finds this value again makes the list
complete and the names distinct, see `Vocabulary.mem_all` and `Vocabulary.name_injective`. -/
structure Vocabulary (α : Type) where
  all : List α
  name : α → String
  find_name : ∀ value, all.find? (fun other => name other == name value) = some value

namespace Vocabulary

variable {α : Type} (words : Vocabulary α)

/-- All names, in the order of declaration. -/
def names : List String :=
  words.all.map words.name

/-- The value that a word names. -/
def ofName? (text : String) : Option α :=
  words.all.find? fun value => words.name value == text

@[simp] theorem ofName?_name (value : α) : words.ofName? (words.name value) = some value :=
  words.find_name value

theorem mem_all (value : α) : value ∈ words.all :=
  List.mem_of_find?_eq_some (words.find_name value)

theorem name_injective {first second : α} (same : words.name first = words.name second) :
    first = second := by
  have found := words.ofName?_name first
  rw [same, words.ofName?_name] at found
  exact (Option.some.inj found).symm

theorem ofName?_eq_some_iff {text : String} {value : α} :
    words.ofName? text = some value ↔ words.name value = text := by
  constructor
  · intro found
    simpa using List.find?_some found
  · rintro rfl
    exact words.ofName?_name value

theorem ofName?_eq_none_iff {text : String} :
    words.ofName? text = none ↔ ∀ value, words.name value ≠ text := by
  constructor
  · intro missing value named
    rw [words.ofName?_eq_some_iff.mpr named] at missing
    cases missing
  · intro unnamed
    cases found : words.ofName? text with
    | none => rfl
    | some value => exact absurd (words.ofName?_eq_some_iff.mp found) (unnamed value)

theorem mem_names_iff {text : String} : text ∈ words.names ↔ ∃ value, words.name value = text := by
  simp [names, words.mem_all]

/-- Among entries for all values, the name of a value finds its own entry. -/
theorem lookup_map_name {β : Type} (entry : α → β) (value : α) :
    (words.all.map fun other => (words.name other, entry other)).lookup (words.name value) =
      some (entry value) := by
  have hfound := words.find_name value
  generalize words.all = all at hfound ⊢
  induction all with
  | nil => cases hfound
  | cons first others ih =>
      rw [List.find?_cons] at hfound
      rw [List.map_cons, List.lookup_cons, BEq.comm]
      split at hfound
      next hnamed =>
        cases hfound
        simp
      next hnamed => simpa only [hnamed] using ih hfound

end Vocabulary

/-- The words for the two truth values. -/
def truth : Vocabulary Bool where
  all := [false, true]
  name value := if value then "true" else "false"
  find_name := by intro value; cases value <;> rfl

end TypeProfile
