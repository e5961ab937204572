/-!
# Why a text is refused

A text is refused either because it is not JSON or because what it holds does not fit. Reading goes
from left to right and stops at the first fault of either kind.
-/

namespace TypeProfile.Json

/-- What stands where something else was expected. -/
inductive Found
  | null
  | boolean (value : Bool)
  | integer (value : Int)
  | decimal (digits : String)
  | string (value : String)
  | array
  | object
deriving DecidableEq, Repr

/-- What was expected. -/
inductive Expected
  | boolean
  | text
  | unit
  | record (title : String)
  | elements (title : String) (count : Nat)
deriving DecidableEq, Repr

/-- In what way a text of JSON does not fit. -/
inductive Misfit
  | wrongType (found : Found) (expected : Expected)
  | wrongLength (length : Nat) (expected : Expected)
  | unknownWord (name : String) (known : List String)
  | unknownKey (name : String) (known : List String)
  | missingKey (name : String)
  | repeatedKey (name : String)
deriving DecidableEq, Repr

inductive Fault
  | malformed
  | misfit (misfit : Misfit)
deriving DecidableEq, Repr

end TypeProfile.Json
