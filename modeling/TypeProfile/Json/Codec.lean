import TypeProfile.Json.Double
import TypeProfile.Json.Token
import TypeProfile.Json.Value

/-!
# Values of a type as JSON

A codec says how the values of a type are written and which texts are read as one. A word of a
vocabulary is written as a string, and is read also from an object whose only key is the word and
whose value is null.
-/

namespace TypeProfile.Json

/-- What stands where a token begins, if it begins a value at all. -/
def Token.found? : Token → Option Found
  | .null => some .null
  | .boolean value => some (.boolean value)
  | .number value => value.found?
  | .string pieces => (Piece.decode pieces).map fun text => .string (String.ofList text)
  | .openBracket => some .array
  | .openBrace => some .object
  | _ => none

/-- Stop because a token begins something other than what was expected. -/
def refuse {α : Type} (found : Token) (expected : Expected) : Read α :=
  match found.found? with
  | some found => Scan.fail (.misfit (.wrongType found expected))
  | none => malformed

/-- The text of a literal. -/
def textOf (pieces : List Piece) : Read String :=
  String.ofList <$> Scan.ofOption .malformed (Piece.decode pieces)

/-- How the values of a type are read and written. -/
structure Codec (α : Type) where
  read : Read α
  write : α → Value

namespace Codec

variable {α β : Type}

/-- Reads a whole text, in which only blanks may follow the value. -/
def decode (codec : Codec α) (text : String) : Except Fault α :=
  match codec.read.run text.toList with
  | .error fault => .error fault
  | .ok (value, rest) => if rest.all isBlank then .ok value else .error .malformed

def boolean : Codec Bool where
  read := do
    match ← token with
    | .boolean value => pure value
    | other => refuse other .boolean
  write := .boolean

def text : Codec String where
  read := do
    match ← token with
    | .string pieces => textOf pieces
    | other => refuse other .text
  write := .string

/-- A value or null. -/
def nullable (codec : Codec α) : Codec (Option α) where
  read := do
    if ← acceptToken .null then pure none else some <$> codec.read
  write
    | none => .null
    | some value => codec.write value

/-- The value of a vocabulary that a literal names. -/
def lookUp (words : Vocabulary α) (pieces : List Piece) : Read α := do
  let name ← textOf pieces
  match words.ofName? name with
  | some value => pure value
  | none => Scan.fail (.misfit (.unknownWord name words.names))

/-- A value of a vocabulary, by its name. -/
def word (words : Vocabulary α) : Codec α where
  read := do
    match ← token with
    | .string pieces => lookUp words pieces
    | .openBrace => do
        let value ← do
          match ← token with
          | .string pieces => lookUp words pieces
          | _ => malformed
        expectToken .colon
        match ← token with
        | .null => pure ()
        | other => refuse other .unit
        expectToken .closeBrace
        pure value
    | _ => malformed
  write value := .string (words.name value)

/-- A list of values, to be written only. -/
def writeList (codec : Codec α) (values : List α) : Value :=
  .array (values.map codec.write)

/-- The values of another type, by a map to them and one back. -/
def convert (codec : Codec α) (into : α → β) (back : β → α) : Codec β where
  read := into <$> codec.read
  write value := codec.write (back value)

end Codec

end TypeProfile.Json
