import TypeProfile.Vocabulary

/-!
# Attributes

The twenty facts about a type that a profile records, each of them on or off. Every attribute
belongs to one group, and its place in the declaration decides where it stands in every listing.
-/

namespace TypeProfile

/-- One fact about a type. -/
inductive Attribute
  | userProvidedDefaultConstructor
  | inheritedDefaultConstructor
  | explicitDefaultConstructor
  | userProvidedCopyConstructor
  | inheritedCopyConstructor
  | explicitCopyConstructor
  | userProvidedMoveConstructor
  | inheritedMoveConstructor
  | explicitMoveConstructor
  | deletedConstructor
  | publicBase
  | privateBase
  | protectedBase
  | virtualBase
  | privateMember
  | protectedMember
  | memberInitializer
  | nonTrivialMember
  | initializerNeedyMember
  | virtualFunction
deriving DecidableEq, Repr

namespace Attribute

def name : Attribute → String
  | userProvidedDefaultConstructor => "has_user_provided_default_constr"
  | inheritedDefaultConstructor => "has_inherited_default_constr"
  | explicitDefaultConstructor => "has_explicit_default_constr"
  | userProvidedCopyConstructor => "has_user_provided_copy_constr"
  | inheritedCopyConstructor => "has_inherited_copy_constr"
  | explicitCopyConstructor => "has_explicit_copy_constr"
  | userProvidedMoveConstructor => "has_user_provided_move_constr"
  | inheritedMoveConstructor => "has_inherited_move_constr"
  | explicitMoveConstructor => "has_explicit_move_constr"
  | deletedConstructor => "has_deleted_constr"
  | publicBase => "has_public_base_class"
  | privateBase => "has_private_base_class"
  | protectedBase => "has_protected_base_class"
  | virtualBase => "has_virtual_base_class"
  | privateMember => "has_private_nsdm"
  | protectedMember => "has_protected_nsdm"
  | memberInitializer => "has_nsdm_with_initializer"
  | nonTrivialMember => "has_non_trivial_nsdm"
  | initializerNeedyMember => "has_initializer_needy_nsdm"
  | virtualFunction => "has_virtual_mf"

def vocabulary : Vocabulary Attribute where
  all :=
    [ userProvidedDefaultConstructor, inheritedDefaultConstructor, explicitDefaultConstructor,
      userProvidedCopyConstructor, inheritedCopyConstructor, explicitCopyConstructor,
      userProvidedMoveConstructor, inheritedMoveConstructor, explicitMoveConstructor,
      deletedConstructor, publicBase, privateBase, protectedBase, virtualBase, privateMember,
      protectedMember, memberInitializer, nonTrivialMember, initializerNeedyMember,
      virtualFunction ]
  name := name
  find_name := by intro value; cases value <;> rfl

def description : Attribute → String
  | userProvidedDefaultConstructor =>
      "user-provided default constructor (explicitly defaulted or deleted does not count)"
  | inheritedDefaultConstructor => "default constructor inherited via `using Base::Base;`"
  | explicitDefaultConstructor =>
      "default constructor marked `explicit`, including `= default` / `= delete`"
  | userProvidedCopyConstructor =>
      "user-provided copy constructor (explicitly defaulted or deleted does not count)"
  | inheritedCopyConstructor => "copy constructor inherited via `using Base::Base;`"
  | explicitCopyConstructor =>
      "copy constructor marked `explicit`, including `= default` / `= delete`"
  | userProvidedMoveConstructor =>
      "user-provided move constructor (explicitly defaulted or deleted does not count)"
  | inheritedMoveConstructor => "move constructor inherited via `using Base::Base;`"
  | explicitMoveConstructor =>
      "move constructor marked `explicit`, including `= default` / `= delete`"
  | deletedConstructor => "a constructor explicitly declared `= delete`"
  | publicBase => "inherits with `: public Base`"
  | privateBase => "inherits with `: private Base`"
  | protectedBase => "inherits with `: protected Base`"
  | virtualBase => "inherits with `: virtual Base`"
  | privateMember => "private non-static data member"
  | protectedMember => "protected non-static data member"
  | memberInitializer => "non-static data member with a default initializer"
  | nonTrivialMember => "non-static data member that is not trivially default constructible"
  | initializerNeedyMember =>
      "member that needs an initializer and has none, e.g. `const int` or `int&`"
  | virtualFunction => "defines or inherits a `virtual` member function"

/-- What a fact is about. -/
inductive Group
  | construction
  | inheritance
  | dataMembers
  | methods
deriving DecidableEq, Repr

namespace Group

/-- The word for a group in encoded data. -/
def name : Group → String
  | construction => "construction"
  | inheritance => "inheritance"
  | dataMembers => "data_members"
  | methods => "methods"

/-- The word for a group in text for a reader. -/
def title : Group → String
  | dataMembers => "data-members"
  | group => group.name

def vocabulary : Vocabulary Group where
  all := [construction, inheritance, dataMembers, methods]
  name := name
  find_name := by intro value; cases value <;> rfl

end Group

def group : Attribute → Group
  | userProvidedDefaultConstructor | inheritedDefaultConstructor | explicitDefaultConstructor
  | userProvidedCopyConstructor | inheritedCopyConstructor | explicitCopyConstructor
  | userProvidedMoveConstructor | inheritedMoveConstructor | explicitMoveConstructor
  | deletedConstructor => .construction
  | publicBase | privateBase | protectedBase | virtualBase => .inheritance
  | privateMember | protectedMember | memberInitializer | nonTrivialMember
  | initializerNeedyMember => .dataMembers
  | virtualFunction => .methods

/-- The attributes that each stand for one base class. -/
def bases : List Attribute :=
  [publicBase, privateBase, protectedBase, virtualBase]

/-- The place of an attribute in the order of declaration. -/
def index (flag : Attribute) : Nat :=
  vocabulary.all.idxOf flag

/-- Attributes in the order of declaration; equal ones stay. -/
def sort (attributes : List Attribute) : List Attribute :=
  attributes.mergeSort fun first second => first.index ≤ second.index

/-- Why a text names no attribute. -/
inductive NameError
  | unknown (text : String)
deriving DecidableEq, Repr

def NameError.message : NameError → String
  | unknown text => "Unknown attribute: " ++ text

/-- The attribute that a text names, letter by letter. -/
def parse (text : String) : Except NameError Attribute :=
  match vocabulary.ofName? text with
  | some flag => .ok flag
  | none => .error (.unknown text)

end Attribute

end TypeProfile
