import TypeProfile.Json.Token

/-!
# Passing over a value

The value of a key that nobody asks for has to be JSON, and no more than that: its numbers may have
any size, its literals need no text, and it may be nested to any depth. It is passed over token by
token, with the brackets that are open kept in a list.
-/

namespace TypeProfile.Json

/-- A bracket that is still open. -/
inductive Bracket
  | array
  | object
deriving DecidableEq, Repr

/-- What may come next inside a value. -/
inductive Place
  | value
  | valueOrEnd
  | key
  | keyOrEnd
  | colon
  | done
deriving DecidableEq, Repr

/-- A place inside a value, with the brackets open around it, the innermost first. -/
structure Position where
  place : Place
  openBrackets : List Bracket
deriving DecidableEq, Repr

namespace Position

/-- Where a whole value begins. -/
def start : Position := ⟨.value, []⟩

/-- The value has been passed. -/
def atEnd (position : Position) : Bool :=
  position.place == .done && position.openBrackets.isEmpty

/-- The position after a token that begins a value. -/
def beginValue (brackets : List Bracket) : Token → Option Position
  | .null | .boolean _ | .number _ | .string _ => some ⟨.done, brackets⟩
  | .openBracket => some ⟨.valueOrEnd, .array :: brackets⟩
  | .openBrace => some ⟨.keyOrEnd, .object :: brackets⟩
  | _ => none

/-- The position after a token, if the token may come there. -/
def advance : Position → Token → Option Position
  | ⟨.value, brackets⟩, token => beginValue brackets token
  | ⟨.valueOrEnd, .array :: brackets⟩, .closeBracket => some ⟨.done, brackets⟩
  | ⟨.valueOrEnd, brackets⟩, token => beginValue brackets token
  | ⟨.keyOrEnd, .object :: brackets⟩, .closeBrace => some ⟨.done, brackets⟩
  | ⟨.keyOrEnd, brackets⟩, .string _ => some ⟨.colon, brackets⟩
  | ⟨.key, brackets⟩, .string _ => some ⟨.colon, brackets⟩
  | ⟨.colon, brackets⟩, .colon => some ⟨.value, brackets⟩
  | ⟨.done, .array :: brackets⟩, .comma => some ⟨.value, .array :: brackets⟩
  | ⟨.done, .array :: brackets⟩, .closeBracket => some ⟨.done, brackets⟩
  | ⟨.done, .object :: brackets⟩, .comma => some ⟨.key, .object :: brackets⟩
  | ⟨.done, .object :: brackets⟩, .closeBrace => some ⟨.done, brackets⟩
  | _, _ => none

end Position

/-- Takes one token of a value. -/
def skipStep (position : Position) : Read (Position ⊕ Unit) := do
  let next ← token
  match position.advance next with
  | none => malformed
  | some position => if position.atEnd then pure (.inr ()) else pure (.inl position)

theorem skipStep_progresses (position : Position) : (skipStep position).Progresses :=
  token_progresses.bind _

/-- Passes over one value. -/
def skipValue : Read Unit :=
  Scan.iterate skipStep (fun state => (skipStep_progresses state).advances) .start

end TypeProfile.Json
