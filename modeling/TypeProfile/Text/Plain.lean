/-!
# Text without escape sequences

What is left of a text when its escape sequences are taken out, and its controls other than white
space with them. White space inside a sequence is kept, together with what follows it up to the
next control; there the sequence goes on, unless a character beyond ASCII has ended it.
-/

namespace TypeProfile.Text

/-- How far an escape sequence has come. -/
inductive Sequence
  | outside
  /-- After the escape character. -/
  | escape
  /-- After the escape character and a punctuation mark. -/
  | intermediate
  /-- A control sequence, which a letter ends. -/
  | control
  /-- A device control string, up to its parameters. -/
  | deviceStart
  | deviceParameters
  | deviceIntermediate
  /-- A string that nothing shows of. -/
  | string
  /-- A command to the system, which a bell ends. -/
  | command
deriving DecidableEq, Repr

namespace Sequence

/-- Whether a code point lies in a range with both ends included. -/
def between (low high : Nat) (c : Char) : Bool :=
  low ≤ c.toNat && c.toNat ≤ high

/-- White space that a terminal acts upon. -/
def isSpacing (c : Char) : Bool :=
  c == '\t' || c == '\n' || c == '\x0c' || c == '\r'

/-- A character that shows as itself outside of sequences. -/
def isVisible (c : Char) : Bool :=
  isSpacing c || (0x20 ≤ c.toNat && c.toNat != 0x7f)

/-- Whether a sequence leaves a character in the text. -/
def keeps : Sequence → Char → Bool
  | outside, c => isVisible c
  | escape, c | intermediate, c | control, c => isSpacing c
  | _, _ => false

/-- What the first character after the escape character begins. -/
def opened (c : Char) : Sequence :=
  match c with
  | '[' => control
  | ']' => command
  | 'P' => deviceStart
  | 'X' | '^' | '_' => string
  | _ =>
      if between 0x20 0x2f c then intermediate
      else if between 0x30 0x7e c then outside
      else escape

/-- How far the sequence has come after one more character. Escape begins a new sequence wherever it
stands, and the characters for cancellation and substitution end every sequence. -/
def next (sequence : Sequence) (c : Char) : Sequence :=
  if c = '\x1b' then escape
  else if c = '\x18' ∨ c = '\x1a' then outside
  else match sequence with
    | outside => outside
    | escape => opened c
    | intermediate => if between 0x30 0x7e c then outside else intermediate
    | control => if between 0x40 0x7e c then outside else control
    | deviceStart =>
        if between 0x20 0x2f c then deviceIntermediate
        else if between 0x30 0x3f c then deviceParameters
        else if between 0x40 0x7e c then string
        else deviceStart
    | deviceParameters =>
        if between 0x20 0x2f c then deviceIntermediate
        else if between 0x3c 0x7e c then string
        else deviceParameters
    | deviceIntermediate => if between 0x30 0x7e c then string else deviceIntermediate
    | string => if (String.utf8EncodeChar c).contains 0x9c then outside else string
    | command => if c = '\x07' then outside else command

end Sequence

/-- The rest of a text without its sequences. While it is open, visible characters are kept whatever
sequence they stand in. -/
def plainFrom (sequence : Sequence) (isOpen : Bool) : List Char → List Char
  | [] => []
  | c :: text =>
      if isOpen && Sequence.isVisible c then
        c :: plainFrom (if c.toNat < 0x80 then sequence else .outside) true text
      else if sequence.keeps c then c :: plainFrom (sequence.next c) true text
      else plainFrom (sequence.next c) false text

/-- A text without its escape sequences. -/
def plain (text : String) : String :=
  String.ofList (plainFrom .outside false text.toList)

/-- A text of visible characters is left as it is. -/
theorem plainFrom_of_isVisible {isOpen : Bool} {text : List Char}
    (visible : ∀ c ∈ text, Sequence.isVisible c = true) :
    plainFrom .outside isOpen text = text := by
  induction text generalizing isOpen with
  | nil => rfl
  | cons c text ih =>
      have first := visible c List.mem_cons_self
      have rest (isOpen : Bool) : plainFrom .outside isOpen text = text :=
        ih fun other later => visible other (List.mem_cons_of_mem c later)
      have stays : Sequence.next .outside c = .outside := by
        have notEscape : c ≠ '\x1b' := by
          rintro rfl
          simp [Sequence.isVisible, Sequence.isSpacing] at first
        simp [Sequence.next, notEscape]
      cases isOpen <;> simp [plainFrom, first, Sequence.keeps, stays, rest]

end TypeProfile.Text
