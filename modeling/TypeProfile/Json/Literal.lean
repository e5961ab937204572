/-!
# String literals

Between its quotes a string literal is a list of pieces. Most pieces are characters; an escape by
number is a 16-bit unit, and two units of the surrogate ranges make one character together. A unit
of those ranges without its partner makes none, so not every literal has a text.
-/

namespace TypeProfile.Json

/-- One piece of a string literal. -/
inductive Piece
  | char (c : Char)
  | unit (value : Nat)
deriving DecidableEq, Repr

namespace Piece

/-- The character with this number, if it is not a surrogate. -/
def scalar? (value : Nat) : Option Char :=
  if value < 0xd800 ∨ 0xdfff < value then some (Char.ofNat value) else none

/-- The character that a high and a low surrogate make together. -/
def pair? (high low : Nat) : Option Char :=
  if (0xd800 ≤ high ∧ high ≤ 0xdbff) ∧ (0xdc00 ≤ low ∧ low ≤ 0xdfff) then
    some (Char.ofNat (0x10000 + (high - 0xd800) * 0x400 + (low - 0xdc00)))
  else none

/-- The text of a literal. -/
def decode : List Piece → Option (List Char)
  | [] => some []
  | .char c :: rest => (decode rest).map (c :: ·)
  | .unit value :: rest =>
      match scalar? value with
      | some c => (decode rest).map (c :: ·)
      | none =>
          match rest with
          | .unit second :: rest => do
              let c ← pair? value second
              (decode rest).map (c :: ·)
          | _ => none

theorem decode_map_char (text : List Char) : decode (text.map char) = some text := by
  induction text with
  | nil => rfl
  | cons c text ih => simp [decode, ih]

end Piece

/-- The letter that stands for a character after a backslash. -/
def shortEscape? : Char → Option Char
  | '"' => some '"'
  | '\\' => some '\\'
  | '\x08' => some 'b'
  | '\x0c' => some 'f'
  | '\n' => some 'n'
  | '\r' => some 'r'
  | '\t' => some 't'
  | _ => none

/-- How a character is written in a literal: a backslash and a letter where there is one, a number
for the other controls, and itself otherwise. -/
def escape (c : Char) : List Char :=
  match shortEscape? c with
  | some letter => ['\\', letter]
  | none =>
      if c.toNat < 0x20 then
        '\\' :: 'u' :: '0' :: '0' :: [Nat.digitChar (c.toNat / 16), Nat.digitChar (c.toNat % 16)]
      else [c]

/-- A text as a literal. -/
def literal (text : String) : List Char :=
  '"' :: text.toList.flatMap escape ++ ['"']

end TypeProfile.Json
