import TypeProfile.Json.Fault
import TypeProfile.Json.Literal
import TypeProfile.Json.Number
import TypeProfile.Text.Hex
import TypeProfile.Text.Scan

/-!
# Tokens

The words of a JSON text. Blanks may stand before a token and are taken with it.
-/

namespace TypeProfile.Json

inductive Token
  | openBrace
  | closeBrace
  | openBracket
  | closeBracket
  | colon
  | comma
  | null
  | boolean (value : Bool)
  | number (value : Number)
  | string (pieces : List Piece)
deriving DecidableEq, Repr

/-- A scan of JSON text. -/
abbrev Read := Scan Fault

def isBlank (c : Char) : Bool :=
  c == ' ' || c == '\t' || c == '\n' || c == '\r'

/-- Stop because the text is not JSON. -/
def malformed {α : Type} : Read α :=
  Scan.fail .malformed

def anyChar : Read Char :=
  Scan.next .malformed

def hexDigit : Read Nat := do
  let c ← anyChar
  Scan.ofOption .malformed (Text.hexValue? c)

/-- What follows the backslash of an escape. -/
def escapeSequence : Read Piece := do
  let c ← anyChar
  match c with
  | '"' => pure (.char '"')
  | '\\' => pure (.char '\\')
  | '/' => pure (.char '/')
  | 'b' => pure (.char '\x08')
  | 'f' => pure (.char '\x0c')
  | 'n' => pure (.char '\n')
  | 'r' => pure (.char '\r')
  | 't' => pure (.char '\t')
  | 'u' => do
      let first ← hexDigit
      let second ← hexDigit
      let third ← hexDigit
      let fourth ← hexDigit
      pure (.unit (((first * 16 + second) * 16 + third) * 16 + fourth))
  | _ => malformed

/-- One more piece of a literal, or the quote that ends it. The pieces so far are in reverse. -/
def pieceStep (pieces : List Piece) : Read (List Piece ⊕ List Piece) := do
  let c ← anyChar
  match c with
  | '"' => pure (.inr pieces.reverse)
  | '\\' => do
      let piece ← escapeSequence
      pure (.inl (piece :: pieces))
  | _ => if c.toNat < 0x20 then malformed else pure (.inl (.char c :: pieces))

theorem pieceStep_progresses (pieces : List Piece) : (pieceStep pieces).Progresses :=
  (Scan.next_progresses _).bind _

/-- What follows the opening quote of a literal. -/
def pieces : Read (List Piece) :=
  Scan.iterate pieceStep (fun state => (pieceStep_progresses state).advances) []

/-- One or more digits. -/
def someDigits : Read (List Char) :=
  Scan.spanSome .malformed Char.isDigit

/-- The digits after the point, none if there is no point. -/
def fractionPart : Read (List Char) := do
  if ← Scan.accept ['.'] then someDigits else pure []

/-- The power of ten after the exponent mark, none if there is no mark. -/
def exponentPart : Read (Option Int) := do
  let marked ← do
    if ← Scan.accept ['e'] then pure true else Scan.accept ['E']
  if marked then
    let raised ← Scan.accept ['+']
    let lowered ← if raised then pure false else Scan.accept ['-']
    let digits ← someDigits
    let magnitude : Int := ofDigits digits
    pure (some (if lowered then -magnitude else magnitude))
  else pure none

/-- A number without its sign. Only zero itself begins with a zero. -/
def magnitude (negative : Bool) : Read Number := do
  let whole ← someDigits
  if whole.head? = some '0' ∧ whole.length ≠ 1 then malformed
  else
    let fraction ← fractionPart
    let exponent ← exponentPart
    pure { negative, whole, fraction, exponent }

/-- A number, with or without a sign. -/
def numeral : Read Number := do
  if ← Scan.accept ['-'] then magnitude true else magnitude false

/-- The rest of a word whose first letter is known. -/
def restOfWord (rest : List Char) (token : Token) : Read Token := do
  if ← Scan.accept rest then pure token else malformed

/-- A token that is no number, from its first character on. -/
def tokenFrom (c : Char) : Read Token :=
  match c with
  | '\x7b' => pure .openBrace
  | '\x7d' => pure .closeBrace
  | '[' => pure .openBracket
  | ']' => pure .closeBracket
  | ':' => pure .colon
  | ',' => pure .comma
  | 'n' => restOfWord ['u', 'l', 'l'] .null
  | 't' => restOfWord ['r', 'u', 'e'] (.boolean true)
  | 'f' => restOfWord ['a', 'l', 's', 'e'] (.boolean false)
  | '"' => .string <$> pieces
  | _ => malformed

theorem magnitude_progresses (negative : Bool) : (magnitude negative).Progresses :=
  (Scan.spanSome_progresses _ _).bind _

theorem numeral_progresses : numeral.Progresses :=
  Scan.Progresses.bind_right fun signed => by
    cases signed
    · exact magnitude_progresses false
    · exact magnitude_progresses true

/-- Whether a number begins with this character. -/
def startsNumber (c : Char) : Bool :=
  c == '-' || c.isDigit

/-- The next token. -/
def token : Read Token := do
  let _ ← Scan.span isBlank
  let text ← Scan.remaining
  if (text.head?.any startsNumber) = true then .number <$> numeral
  else do
    let c ← anyChar
    tokenFrom c

theorem token_progresses : token.Progresses :=
  Scan.Progresses.bind_right fun _ => Scan.Progresses.bind_right fun text => by
    split
    · exact numeral_progresses.bind _
    · exact (Scan.next_progresses _).bind _

/-- Takes the token if it comes next, and says whether it did. -/
def acceptToken (expected : Token) : Read Bool where
  run text :=
    match token.run text with
    | .ok (found, rest) => if found = expected then .ok (true, rest) else .ok (false, text)
    | .error _ => .ok (false, text)
  suffix := by
    intro text value rest ran
    split at ran
    next found middle taken =>
      split at ran
      · cases ran; exact token.suffix taken
      · cases ran; exact List.suffix_refl _
    next => cases ran; exact List.suffix_refl _

/-- Takes the token that has to come next. -/
def expectToken (expected : Token) : Read Unit := do
  let found ← token
  if found = expected then pure () else malformed

theorem expectToken_progresses (expected : Token) : (expectToken expected).Progresses :=
  token_progresses.bind _

end TypeProfile.Json
