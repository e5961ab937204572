/-!
# Places in a text by bytes

A place in a text is the number of bytes in front of it. Not every number of bytes is a place, since
a character may take several.
-/

namespace TypeProfile.Text

/-- The bytes that a text takes. -/
def byteSize : List Char → Nat
  | [] => 0
  | c :: text => c.utf8Size + byteSize text

/-- A text in two at a place, unless there is no such place. -/
def splitAtByte? : Nat → List Char → Option (List Char × List Char)
  | 0, text => some ([], text)
  | _ + 1, [] => none
  | n + 1, c :: text =>
      if c.utf8Size ≤ n + 1 then
        (splitAtByte? (n + 1 - c.utf8Size) text).map fun halves => (c :: halves.1, halves.2)
      else none

/-- What stands between two places. -/
def between? (start stop : Nat) (text : List Char) : Option (List Char) := do
  let (_, after) ← splitAtByte? start text
  let (inside, _) ← splitAtByte? (stop - start) after
  pure inside

/-- The end of any part is a place. -/
theorem splitAtByte?_append (first second : List Char) :
    splitAtByte? (byteSize first) (first ++ second) = some (first, second) := by
  induction first with
  | nil => simp [byteSize, splitAtByte?]
  | cons c first ih =>
      have positive := c.utf8Size_pos
      obtain ⟨n, size⟩ : ∃ n, byteSize (c :: first) = n + 1 :=
        ⟨byteSize (c :: first) - 1, by simp only [byteSize]; omega⟩
      have fits : c.utf8Size ≤ n + 1 := by simp only [byteSize] at size; omega
      have rest : n + 1 - c.utf8Size = byteSize first := by simp only [byteSize] at size; omega
      rw [size, List.cons_append, splitAtByte?, if_pos fits, rest, ih, Option.map_some]

end TypeProfile.Text
