import TypeProfile.Attribute

/-!
# Compound attributes

Questions about a profile that several attributes answer together. The aggregate question is named
beside them, although no list of attributes answers it.
-/

namespace TypeProfile.Attribute

inductive Compound
  | aggregate
  | userProvidedConstructor
  | inheritedConstructor
  | explicitConstructor
deriving DecidableEq, Repr

namespace Compound

def name : Compound → String
  | aggregate => "is_aggregate"
  | userProvidedConstructor => "has_user_provided_constr"
  | inheritedConstructor => "has_inherited_constr"
  | explicitConstructor => "has_explicit_constr"

def vocabulary : Vocabulary Compound where
  all := [aggregate, userProvidedConstructor, inheritedConstructor, explicitConstructor]
  name := name
  find_name := by intro value; cases value <;> rfl

/-- The attributes of which any one answers the question with yes. -/
def components : Compound → List Attribute
  | aggregate => []
  | userProvidedConstructor =>
      [ userProvidedDefaultConstructor, userProvidedCopyConstructor, userProvidedMoveConstructor ]
  | inheritedConstructor =>
      [ inheritedDefaultConstructor, inheritedCopyConstructor, inheritedMoveConstructor ]
  | explicitConstructor =>
      [ explicitDefaultConstructor, explicitCopyConstructor, explicitMoveConstructor ]

end Compound

end TypeProfile.Attribute
