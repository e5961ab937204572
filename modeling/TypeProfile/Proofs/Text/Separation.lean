import TypeProfile.Text.Identifier

/-!
# Taking a text apart

Parts put together into one text can be told apart again where a part holds only characters of a
class that the next part does not begin with, and where a mark stands between parts that do not
hold it.
-/

namespace TypeProfile.Text

section Lists

variable {α : Type}

theorem takeWhile_append_of_head? {test : α → Bool} {front back : List α}
    (hfront : ∀ a ∈ front, test a = true) (hback : ∀ a ∈ back.head?, test a = false) :
    (front ++ back).takeWhile test = front := by
  rw [List.takeWhile_append_of_pos hfront]
  cases back with
  | nil => simp
  | cons a back =>
      have hstop : test a = false := hback a rfl
      simp [hstop]

/-- Where the class of the characters changes, one part ends. -/
theorem append_inj_of_head? {test : α → Bool} {front front' back back' : List α}
    (hfront : ∀ a ∈ front, test a = true) (hback : ∀ a ∈ back.head?, test a = false)
    (hfront' : ∀ a ∈ front', test a = true) (hback' : ∀ a ∈ back'.head?, test a = false)
    (hsame : front ++ back = front' ++ back') : front = front' ∧ back = back' := by
  have htaken := congrArg (List.takeWhile test) hsame
  rw [takeWhile_append_of_head? hfront hback, takeWhile_append_of_head? hfront' hback'] at htaken
  subst htaken
  exact ⟨rfl, List.append_cancel_left hsame⟩

theorem mem_of_mem_intercalate {separator : List α} {parts : List (List α)} {a : α}
    (ha : a ∈ separator.intercalate parts) : a ∈ separator ∨ ∃ part ∈ parts, a ∈ part := by
  induction parts with
  | nil => simp at ha
  | cons part parts ih =>
      cases parts with
      | nil => exact Or.inr ⟨part, List.mem_cons_self, by simpa using ha⟩
      | cons next parts =>
          rw [List.intercalate_cons_cons, List.mem_append, List.mem_append] at ha
          rcases ha with (ha | ha) | ha
          · exact Or.inr ⟨part, List.mem_cons_self, ha⟩
          · exact Or.inl ha
          · apply (ih ha).imp_right
            rintro ⟨source, hsource, ha⟩
            exact ⟨source, List.mem_cons_of_mem _ hsource, ha⟩

theorem intercalate_concat (separator first last : List α) (parts : List (List α)) :
    separator.intercalate (first :: (parts ++ [last])) =
      separator.intercalate (first :: parts) ++ (separator ++ last) := by
  induction parts generalizing first with
  | nil => simp
  | cons next parts ih =>
      rw [List.cons_append, List.intercalate_cons_cons, ih next, List.intercalate_cons_cons]
      simp only [List.append_assoc]

/-- What follows the mark in a separator can be counted to the next part. -/
theorem intercalate_cons (mark : α) (more part : List α) (parts : List (List α)) :
    (mark :: more).intercalate (part :: parts) =
      [mark].intercalate (part :: parts.map (more ++ ·)) := by
  induction parts generalizing part with
  | nil => rfl
  | cons next parts ih =>
      rw [List.intercalate_cons_cons, ih, List.map_cons, List.intercalate_cons_cons]
      cases parts <;> simp [List.intercalate_cons_cons]

/-- Parts that do not hold the mark can be read back, each with the rest of the separator that
stands before it. -/
theorem splitOn_intercalate_cons [BEq α] [LawfulBEq α] {mark : α} {more part : List α}
    {parts : List (List α)} (hmore : mark ∉ more) (hparts : ∀ piece ∈ part :: parts, mark ∉ piece) :
    ((mark :: more).intercalate (part :: parts)).splitOn mark = part :: parts.map (more ++ ·) := by
  rw [intercalate_cons]
  refine List.splitOn_intercalate mark ?_ (List.cons_ne_nil _ _)
  intro piece hpiece
  rcases List.mem_cons.mp hpiece with rfl | hpiece
  · exact hparts _ List.mem_cons_self
  · obtain ⟨source, hsource, rfl⟩ := List.mem_map.mp hpiece
    simp [hmore, hparts source (List.mem_cons_of_mem _ hsource)]

theorem intercalate_cons_inj [BEq α] [LawfulBEq α] {mark : α} {more part part' : List α}
    {parts parts' : List (List α)} (hmore : mark ∉ more)
    (hparts : ∀ piece ∈ part :: parts, mark ∉ piece)
    (hparts' : ∀ piece ∈ part' :: parts', mark ∉ piece)
    (hsame : (mark :: more).intercalate (part :: parts) =
      (mark :: more).intercalate (part' :: parts')) :
    part :: parts = part' :: parts' := by
  have hsplit := congrArg (List.splitOn mark) hsame
  rw [splitOn_intercalate_cons hmore hparts, splitOn_intercalate_cons hmore hparts'] at hsplit
  obtain ⟨rfl, hrest⟩ := List.cons.inj hsplit
  rw [(List.map_inj_right fun _ _ heq => List.append_cancel_left heq).mp hrest]

theorem splitOn_append_cons [BEq α] [LawfulBEq α] {mark : α} {front : List α}
    (hfront : mark ∉ front) (back : List α) :
    (front ++ mark :: back).splitOn mark = front :: back.splitOn mark := by
  have hmark : (mark == mark) = true := BEq.rfl
  have hsplit := List.splitOnP_append_cons (p := fun a => a == mark) front back hmark
  calc (front ++ mark :: back).splitOn mark
      = front.splitOn mark ++ back.splitOn mark := hsplit
    _ = front :: back.splitOn mark := by rw [List.splitOn_eq_singleton hfront, List.singleton_append]

/-- A text with a mark before every part and behind the last is split into the parts. -/
theorem splitOn_marked [BEq α] [LawfulBEq α] {mark : α} {front : List α}
    {parts : List (List α)} (hfront : mark ∉ front) (hparts : ∀ part ∈ parts, mark ∉ part) :
    (front ++ (parts.flatMap (mark :: ·) ++ [mark])).splitOn mark = front :: (parts ++ [[]]) := by
  induction parts generalizing front with
  | nil =>
      rw [List.flatMap_nil, List.nil_append, splitOn_append_cons hfront, List.splitOn_nil]
      rfl
  | cons part parts ih =>
      obtain ⟨hpart, hparts⟩ := List.forall_mem_cons.mp hparts
      rw [List.flatMap_cons, List.append_assoc, List.cons_append, splitOn_append_cons hfront,
        ih hpart hparts]
      rfl

end Lists

theorem continuesIdentifier_of_starts {c : Char} (hstarts : startsIdentifier c = true) :
    continuesIdentifier c = true := by
  simp only [startsIdentifier, Bool.or_eq_true] at hstarts
  simp only [continuesIdentifier, Char.isAlphanum, Bool.or_eq_true]
  exact hstarts.imp_left Or.inl

/-- An identifier begins with a letter or an underscore. -/
theorem exists_cons_of_isIdentifier {text : String} (hidentifier : isIdentifier text = true) :
    ∃ first rest, text.toList = first :: rest ∧ startsIdentifier first = true := by
  unfold isIdentifier at hidentifier
  split at hidentifier
  · cases hidentifier
  next first rest htext =>
    rw [Bool.and_eq_true] at hidentifier
    exact ⟨first, rest, htext, hidentifier.1⟩

theorem continues_of_mem_identifier {text : String} (hidentifier : isIdentifier text = true) :
    ∀ c ∈ text.toList, continuesIdentifier c = true := by
  unfold isIdentifier at hidentifier
  split at hidentifier
  · cases hidentifier
  next first rest htext =>
    rw [Bool.and_eq_true, List.all_eq_true] at hidentifier
    intro c hc
    rw [htext] at hc
    rcases List.mem_cons.mp hc with rfl | hc
    · exact continuesIdentifier_of_starts hidentifier.1
    · exact hidentifier.2 c hc

theorem notMem_identifier {text : String} {c : Char} (hidentifier : isIdentifier text = true)
    (hc : continuesIdentifier c = false) : c ∉ text.toList := by
  intro hmem
  rw [continues_of_mem_identifier hidentifier c hmem] at hc
  cases hc

/-- Characters that may continue an identifier may be put behind one. -/
theorem isIdentifier_append {text more : String} (hidentifier : isIdentifier text = true)
    (hmore : ∀ c ∈ more.toList, continuesIdentifier c = true) :
    isIdentifier (text ++ more) = true := by
  unfold isIdentifier at hidentifier ⊢
  rw [String.toList_append]
  split at hidentifier
  · cases hidentifier
  next first rest htext =>
    rw [Bool.and_eq_true, List.all_eq_true] at hidentifier
    rw [htext]
    simp only [List.cons_append, Bool.and_eq_true, List.all_append, List.all_eq_true]
    exact ⟨hidentifier.1, hidentifier.2, hmore⟩

/-- What an indentation consists of. -/
def indents (c : Char) : Bool :=
  c == ' ' || c == '\t'

theorem indents_of_startsIdentifier {c : Char} (hstarts : startsIdentifier c = true) :
    indents c = false := by
  rw [indents, Bool.or_eq_false_iff, beq_eq_false_iff_ne, beq_eq_false_iff_ne]
  constructor
  · rintro rfl
    revert hstarts
    decide
  · rintro rfl
    revert hstarts
    decide

end TypeProfile.Text
