import TypeProfile.Pattern.Mode
import TypeProfile.Text.Hex

/-!
# Atoms of a pattern

What a pattern matches without further parts: a character, one character out of a class, or a place
in the text. Most of them are written with a backslash.
-/

namespace TypeProfile.Pattern

inductive Atom
  /-- A character, or the byte that has its number. -/
  | char (c : Char) (isByte : Bool)
  /-- Digits, blanks or word characters, or all others. -/
  | kind (isNegated : Bool)
  /-- A place at an end of the text or of a line. -/
  | edge
  /-- A place next to a word, or within or between words. -/
  | wordEdge
deriving DecidableEq, Repr

namespace Mode

/-- Whether a class of ASCII characters with a name can be asked for. -/
def admitsKind (mode : Mode) (isNegated : Bool) : Bool :=
  !mode.isUnicode && !isNegated

/-- Whether an atom can stand by itself. -/
def admits (mode : Mode) : Atom → Bool
  | .char c isByte =>
      if mode.isUnicode then !mode.ignoresCase
      else c.toNat < 0x80 || (!isByte && !mode.ignoresCase)
  | .kind isNegated => mode.admitsKind isNegated
  | .edge => true
  | .wordEdge => !mode.isUnicode

/-- Whether an atom can be a member of a class. Places cannot. -/
def admitsMember (mode : Mode) : Atom → Bool
  | .char c _ => if mode.isUnicode then !mode.ignoresCase else c.toNat < 0x80
  | .kind isNegated => mode.admitsKind isNegated
  | .edge | .wordEdge => false

end Mode

/-- A number of so many digits in base sixteen. -/
def hexNumber (mode : Mode) (value : Nat) : Nat → Read Nat
  | 0 => pure value
  | count + 1 => do
      mode.gap
      match Text.hexValue? (← Scan.next ()) with
      | some digit => hexNumber mode (16 * value + digit) count
      | none => malformed

/-- The character with a number. -/
def numbered (mode : Mode) (digits : Nat) (isByte : Bool) : Read Atom := do
  let value ← hexNumber mode 0 digits
  if value.isValidChar then pure (.char (Char.ofNat value) isByte) else malformed

/-- The atom after a backslash. A mark of ASCII stands for itself; of letters and digits only some
have a meaning, and properties of Unicode characters are not known. -/
def escaped (mode : Mode) : Read Atom := do
  let c ← Scan.next ()
  match c with
  | 'x' => numbered mode 2 true
  | 'u' => numbered mode 4 false
  | 'U' => numbered mode 8 false
  | 'd' | 's' | 'w' => pure (.kind false)
  | 'D' | 'S' | 'W' => pure (.kind true)
  | 'A' | 'z' => pure .edge
  | 'b' | 'B' | '<' | '>' => pure .wordEdge
  | 'a' => pure (.char '\x07' false)
  | 'f' => pure (.char '\x0c' false)
  | 'n' => pure (.char '\n' false)
  | 'r' => pure (.char '\r' false)
  | 't' => pure (.char '\t' false)
  | 'v' => pure (.char '\x0b' false)
  | c => if c.toNat < 0x80 && !c.isAlphanum then pure (.char c false) else malformed

/-- The atom that begins with a character. -/
def atom (mode : Mode) (first : Char) : Read Atom :=
  match first with
  | '\\' => escaped mode
  | '^' | '$' => pure .edge
  | c => pure (.char c false)

end TypeProfile.Pattern
