/-!
# Identifiers and indentation

The two shapes of text that a declaration takes from its layout.
-/

namespace TypeProfile.Text

/-- A letter of the Latin alphabet without marks, or an underscore. -/
def startsIdentifier (c : Char) : Bool :=
  c.isAlpha || c == '_'

/-- What may follow in an identifier: the same, or a digit. -/
def continuesIdentifier (c : Char) : Bool :=
  c.isAlphanum || c == '_'

def isIdentifier (text : String) : Bool :=
  match text.toList with
  | [] => false
  | first :: rest => startsIdentifier first && rest.all continuesIdentifier

/-- Nothing but spaces and tabs. -/
def isIndentation (text : String) : Bool :=
  text.toList.all fun c => c == ' ' || c == '\t'

end TypeProfile.Text
