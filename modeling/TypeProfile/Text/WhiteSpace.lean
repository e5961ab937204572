/-!
# White space

The characters with the property of that name in Unicode: blanks of all widths, ends of lines and
pages, and separators of lines and paragraphs.
-/

namespace TypeProfile.Text

def isWhiteSpace (c : Char) : Bool :=
  match c.toNat with
  | 0x20 | 0x85 | 0xa0 | 0x1680 | 0x2028 | 0x2029 | 0x202f | 0x205f | 0x3000 => true
  | n => (0x09 ≤ n && n ≤ 0x0d) || (0x2000 ≤ n && n ≤ 0x200a)

/-- The white space of ASCII belongs to it. -/
theorem isWhiteSpace_of_isWhitespace {c : Char} (blank : c.isWhitespace = true) :
    isWhiteSpace c = true := by
  simp only [Char.isWhitespace, Bool.or_eq_true, decide_eq_true_eq] at blank
  rcases blank with ((rfl | rfl) | rfl) | rfl <;> rfl

/-- A text without the white space at its ends. -/
def trim (text : List Char) : List Char :=
  ((text.dropWhile isWhiteSpace).reverse.dropWhile isWhiteSpace).reverse

end TypeProfile.Text
