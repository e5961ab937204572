import TypeProfile.Json.Fault
import TypeProfile.Text.Quoted
import TypeProfile.Vocabulary

/-!
# The wording of a misfit

A misfit names what stands in the text and what would have fitted. Words of a vocabulary are given
in the order of declaration.
-/

namespace TypeProfile.Json

/-- A word between backticks. -/
def ticked (word : String) : String :=
  "`" ++ word ++ "`"

namespace Found

def message : Found → String
  | null => "null"
  | boolean value => "boolean " ++ ticked (truth.name value)
  | integer value => "integer " ++ ticked value.repr
  | decimal digits => "floating point " ++ ticked digits
  | string value => "string " ++ Text.quote value
  | array => "sequence"
  | object => "map"

end Found

namespace Expected

def message : Expected → String
  | boolean => "a boolean"
  | text => "a string"
  | unit => "unit"
  | record title => "struct " ++ title
  | elements title count =>
      "struct " ++ title ++ " with " ++ count.repr ++ (if count = 1 then " element" else " elements")

end Expected

/-- The known words, or that there are none. -/
def alternatives (kind : String) : List String → String
  | [] => "there are no " ++ kind ++ "s"
  | [only] => "expected " ++ ticked only
  | [first, second] => "expected " ++ ticked first ++ " or " ++ ticked second
  | known => "expected one of " ++ ", ".intercalate (known.map ticked)

namespace Misfit

def message : Misfit → String
  | wrongType found expected =>
      "invalid type: " ++ found.message ++ ", expected " ++ expected.message
  | wrongLength length expected =>
      "invalid length " ++ length.repr ++ ", expected " ++ expected.message
  | unknownWord name known =>
      "unknown variant " ++ ticked name ++ ", " ++ alternatives "variant" known
  | unknownKey name known => "unknown field " ++ ticked name ++ ", " ++ alternatives "field" known
  | missingKey name => "missing field " ++ ticked name
  | repeatedKey name => "duplicate field " ++ ticked name

end Misfit

/-- Of a text that is no JSON no more is said than that its syntax is at fault. -/
def Fault.message : Fault → String
  | malformed => "<syntax>"
  | misfit cause => cause.message

end TypeProfile.Json
