import TypeProfile.Json.Literal
import TypeProfile.Json.Number
import TypeProfile.Vocabulary

/-!
# JSON values and their two layouts

A value can be written on one line without any blank, or over several lines with two blanks for
each level. Both keep the order of members, and both leave empty brackets closed.
-/

namespace TypeProfile.Json

inductive Value
  | null
  | boolean (value : Bool)
  | number (value : Number)
  | string (value : String)
  | array (items : List Value)
  | object (members : List (String × Value))

namespace Value

mutual

/-- A value on one line. -/
def compactText : Value → List Char
  | null => "null".toList
  | boolean value => (truth.name value).toList
  | number value => value.text
  | string value => literal value
  | array items => '[' :: compactItems items ++ [']']
  | object members => '\x7b' :: compactMembers members ++ ['\x7d']

def compactItems : List Value → List Char
  | [] => []
  | [item] => compactText item
  | item :: items => compactText item ++ ',' :: compactItems items

def compactMembers : List (String × Value) → List Char
  | [] => []
  | [(key, value)] => literal key ++ ':' :: compactText value
  | (key, value) :: members =>
      literal key ++ ':' :: compactText value ++ ',' :: compactMembers members

end

/-- A new line at a level. -/
def lineBreak (level : Nat) : List Char :=
  '\n' :: List.replicate (2 * level) ' '

mutual

/-- A value that begins at a level, over as many lines as it takes. -/
def prettyText (level : Nat) : Value → List Char
  | null => "null".toList
  | boolean value => (truth.name value).toList
  | number value => value.text
  | string value => literal value
  | array [] => ['[', ']']
  | array items => '[' :: prettyItems (level + 1) items ++ lineBreak level ++ [']']
  | object [] => ['\x7b', '\x7d']
  | object members => '\x7b' :: prettyMembers (level + 1) members ++ lineBreak level ++ ['\x7d']

def prettyItems (level : Nat) : List Value → List Char
  | [] => []
  | [item] => lineBreak level ++ prettyText level item
  | item :: items => lineBreak level ++ prettyText level item ++ ',' :: prettyItems level items

def prettyMembers (level : Nat) : List (String × Value) → List Char
  | [] => []
  | [(key, value)] => lineBreak level ++ literal key ++ ':' :: ' ' :: prettyText level value
  | (key, value) :: members =>
      lineBreak level ++ literal key ++ ':' :: ' ' :: prettyText level value ++
        ',' :: prettyMembers level members

end

/-- The value on one line. -/
def compact (value : Value) : String :=
  String.ofList value.compactText

/-- The value over several lines, without a line break at the end. -/
def pretty (value : Value) : String :=
  String.ofList (value.prettyText 0)

end Value

end TypeProfile.Json
