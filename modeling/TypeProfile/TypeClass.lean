import TypeProfile.Vocabulary

/-!
# Type classifications

The nine classifications of a C++ type, and the four coarser questions that the standard asks about
them: fundamental, compound, object, scalar.
-/

namespace TypeProfile

/-- The classification of a type. -/
inductive TypeClass
  | void
  | nullPointer
  | arithmetic
  | reference
  | pointer
  | array
  | function
  | enumeration
  | classType
deriving DecidableEq, Repr

namespace TypeClass

instance : Inhabited TypeClass := ⟨.classType⟩

def name : TypeClass → String
  | void => "void"
  | nullPointer => "null_pointer"
  | arithmetic => "arithmetic"
  | reference => "reference"
  | pointer => "pointer"
  | array => "array"
  | function => "function"
  | enumeration => "enumeration"
  | classType => "class"

def vocabulary : Vocabulary TypeClass where
  all := [void, nullPointer, arithmetic, reference, pointer, array, function, enumeration, classType]
  name := name
  find_name := by intro value; cases value <;> rfl

/-- Built into the language: `void`, the type of `nullptr`, and the numbers. -/
def isFundamental : TypeClass → Bool
  | void | nullPointer | arithmetic => true
  | _ => false

/-- Made from other types. -/
def isCompound (typeClass : TypeClass) : Bool :=
  !typeClass.isFundamental

/-- A type whose values are objects, so neither a function, a reference nor `void`. -/
def isObject : TypeClass → Bool
  | function | reference | void => false
  | _ => true

/-- One indivisible value. -/
def isScalar : TypeClass → Bool
  | arithmetic | pointer | enumeration | nullPointer => true
  | _ => false

/-- Why a text names no classification. -/
inductive NameError
  | unknown (text : String)
deriving DecidableEq, Repr

def NameError.message : NameError → String
  | unknown text => "Unknown type classification: " ++ text

/-- The classification that a text names, letter by letter. -/
def parse (text : String) : Except NameError TypeClass :=
  match vocabulary.ofName? text with
  | some typeClass => .ok typeClass
  | none => .error (.unknown text)

end TypeClass

end TypeProfile
