import Mathlib.Data.List.Infix
import TypeProfile.Proofs.Text.Separation

/-!
# Where a mark occurs

Where parts are put together with a separator between them, a mark that does not hold the separator
occurs in one part or not at all, and one that begins with the separator stands at the front of a
part other than the first. The separator itself occurs once between any two parts.
-/

namespace TypeProfile.Text

section Lists

variable {α : Type} {c : α} {mark front back : List α}

theorem prefix_append_cons_iff (hfree : c ∉ mark) :
    mark <+: front ++ c :: back ↔ mark <+: front := by
  constructor
  · intro hbegins
    rcases List.prefix_or_prefix_of_prefix hbegins (List.prefix_append front (c :: back)) with
      hshort | ⟨more, rfl⟩
    · exact hshort
    · rw [List.prefix_append_right_inj] at hbegins
      cases more with
      | nil => rw [List.append_nil]
      | cons first more =>
          obtain ⟨rfl, -⟩ := List.cons_prefix_cons.mp hbegins
          simp at hfree
  · exact fun hbegins => hbegins.trans (List.prefix_append _ _)

theorem infix_append_cons_iff (hmark : mark ≠ []) (hfree : c ∉ mark) :
    mark <:+: front ++ c :: back ↔ mark <:+: front ∨ mark <:+: back := by
  have hcross {piece : List α} (hpiece : piece ≠ []) (hbegins : piece <+: c :: back) :
      c ∈ piece := by
    obtain ⟨first, more, rfl⟩ := List.exists_cons_of_ne_nil hpiece
    obtain ⟨rfl, -⟩ := List.cons_prefix_cons.mp hbegins
    exact List.mem_cons_self
  rw [List.infix_append_iff_ne_nil, List.infix_cons_iff]
  constructor
  · rintro (hfront | (hbegins | hback) | ⟨left, right, -, hright, rfl, -, hbegins⟩)
    · exact .inl hfront
    · exact absurd (hcross hmark hbegins) hfree
    · exact .inr hback
    · exact absurd (List.mem_append_right left (hcross hright hbegins)) hfree
  · rintro (hfront | hback)
    · exact .inl hfront
    · exact .inr (.inl (.inr hback))

/-- A mark does not begin in a front that does not hold its first character. -/
theorem cons_infix_append_iff (hfront : c ∉ front) :
    c :: mark <:+: front ++ back ↔ c :: mark <:+: back := by
  rw [List.infix_append_iff_ne_nil]
  constructor
  · rintro (hinside | hback | ⟨left, right, hleft, -, hsplit, hsuffix, -⟩)
    · exact absurd (hinside.mem List.mem_cons_self) hfront
    · exact hback
    · obtain ⟨first, more, rfl⟩ := List.exists_cons_of_ne_nil hleft
      obtain ⟨rfl, -⟩ := List.cons.inj hsplit
      exact absurd (hsuffix.mem List.mem_cons_self) hfront
  · exact fun hback => .inr (.inl hback)

theorem cons_infix_append_cons_iff (hfront : c ∉ front) :
    c :: mark <:+: front ++ c :: back ↔ mark <+: back ∨ c :: mark <:+: back := by
  rw [cons_infix_append_iff hfront, List.infix_cons_iff, List.cons_prefix_cons]
  simp only [true_and]

theorem prefix_intercalate_iff {part : List α} {parts : List (List α)} (hfree : c ∉ mark) :
    mark <+: [c].intercalate (part :: parts) ↔ mark <+: part := by
  cases parts with
  | nil => rw [List.intercalate_singleton]
  | cons next parts =>
      rw [List.intercalate_cons_cons, List.append_assoc]
      exact prefix_append_cons_iff hfree

theorem infix_intercalate_iff {parts : List (List α)} (hmark : mark ≠ []) (hfree : c ∉ mark) :
    mark <:+: [c].intercalate parts ↔ ∃ part ∈ parts, mark <:+: part := by
  induction parts with
  | nil => simpa using hmark
  | cons part parts ih =>
      cases parts with
      | nil => simp
      | cons next parts =>
          rw [List.intercalate_cons_cons, List.append_assoc, List.singleton_append,
            infix_append_cons_iff hmark hfree, ih]
          simp only [List.exists_mem_cons_iff]

theorem cons_infix_intercalate_iff {part : List α} {parts : List (List α)} (hfree : c ∉ mark)
    (hparts : ∀ piece ∈ part :: parts, c ∉ piece) :
    c :: mark <:+: [c].intercalate (part :: parts) ↔ ∃ piece ∈ parts, mark <+: piece := by
  induction parts generalizing part with
  | nil =>
      rw [List.intercalate_singleton]
      have hpart := hparts part List.mem_cons_self
      simpa using fun hinside : c :: mark <:+: part => hpart (hinside.mem List.mem_cons_self)
  | cons next parts ih =>
      obtain ⟨hpart, hparts⟩ := List.forall_mem_cons.mp hparts
      rw [List.intercalate_cons_cons, List.append_assoc, List.singleton_append,
        cons_infix_append_cons_iff hpart, prefix_intercalate_iff hfree, ih hparts,
        List.exists_mem_cons_iff]

/-! ## How often -/

/-- The number of places in a text at which a mark stands. -/
def occurrences [BEq α] (mark text : List α) : Nat :=
  text.tails.countP mark.isPrefixOf

variable [BEq α] [LawfulBEq α]

theorem occurrences_cons_append (more rest : List α) :
    occurrences (c :: more) (c :: more ++ rest) = occurrences (c :: more) (more ++ rest) + 1 := by
  have hbegins : (c :: more).isPrefixOf (c :: more ++ rest) = true := by simp
  rw [List.cons_append] at hbegins ⊢
  rw [occurrences, List.tails_cons, List.countP_cons_of_pos hbegins]
  rfl

theorem occurrences_append_of_notMem (hfront : c ∉ front) :
    occurrences (c :: mark) (front ++ back) = occurrences (c :: mark) back := by
  induction front with
  | nil => rfl
  | cons first front ih =>
      rw [List.mem_cons, not_or] at hfront
      have hdiffers : ¬(c :: mark).isPrefixOf (first :: (front ++ back)) = true := by
        simp [hfront.1]
      rw [List.cons_append, occurrences, List.tails_cons, List.countP_cons_of_neg hdiffers]
      exact ih hfront.2

theorem occurrences_eq_zero (htext : c ∉ front) : occurrences (c :: mark) front = 0 := by
  rw [← List.append_nil front, occurrences_append_of_notMem htext]
  rfl

theorem occurrences_intercalate {more part : List α} {parts : List (List α)} (hmore : c ∉ more)
    (hparts : ∀ piece ∈ part :: parts, c ∉ piece) (hback : c ∉ back) :
    occurrences (c :: more) ((c :: more).intercalate (part :: parts) ++ back) = parts.length := by
  induction parts generalizing part with
  | nil =>
      have hpart := hparts part List.mem_cons_self
      rw [List.intercalate_singleton, occurrences_append_of_notMem hpart]
      exact occurrences_eq_zero hback
  | cons next parts ih =>
      obtain ⟨hpart, hparts⟩ := List.forall_mem_cons.mp hparts
      rw [List.intercalate_cons_cons, List.append_assoc, List.append_assoc,
        occurrences_append_of_notMem hpart, occurrences_cons_append,
        occurrences_append_of_notMem hmore, ih hparts, List.length_cons]

end Lists

end TypeProfile.Text
