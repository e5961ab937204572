import TypeProfile.Profile

/-!
# Aggregates

Arrays are aggregates, and a class is one unless a criterion speaks against it. All six criteria
are recorded for a class, so that a negative verdict can be explained in full.
-/

namespace TypeProfile

/-- A rule that keeps a class from being an aggregate. -/
inductive Criterion
  | hiddenMember
  | userProvidedConstructor
  | inheritedConstructor
  | explicitConstructor
  | restrictedBase
  | virtualFunction
deriving DecidableEq, Repr

namespace Criterion

/-- The word for a criterion in a list of criteria. -/
def name : Criterion → String
  | hiddenMember => "private_or_protected_nsdm"
  | userProvidedConstructor => "user_provided_constr"
  | inheritedConstructor => "inherited_constr"
  | explicitConstructor => "explicit_constr"
  | restrictedBase => "virtual_private_or_protected_base"
  | virtualFunction => "virtual_mf"

/-- The word for a criterion as a fact about a class. -/
def title : Criterion → String
  | hiddenMember => "has_private_or_protected_nsdm"
  | userProvidedConstructor => "has_user_provided_constr"
  | inheritedConstructor => "has_inherited_constr"
  | explicitConstructor => "has_explicit_constr"
  | restrictedBase => "has_virtual_private_or_protected_base"
  | virtualFunction => "has_virtual_mf"

def vocabulary : Vocabulary Criterion where
  all := [ hiddenMember, userProvidedConstructor, inheritedConstructor, explicitConstructor,
    restrictedBase, virtualFunction ]
  name := name
  find_name := by intro value; cases value <;> rfl

def titles : Vocabulary Criterion where
  all := vocabulary.all
  name := title
  find_name := by intro value; cases value <;> rfl

def description : Criterion → String
  | hiddenMember => "has a private or protected non-static data member"
  | userProvidedConstructor => "has a user-provided constructor"
  | inheritedConstructor => "has an inherited constructor"
  | explicitConstructor => "has an explicit constructor"
  | restrictedBase => "has a virtual, private, or protected base class"
  | virtualFunction => "has a virtual member function"

/-- The attributes of which any one makes the criterion hold. -/
def triggers : Criterion → List Attribute
  | hiddenMember => [.privateMember, .protectedMember]
  | userProvidedConstructor => Attribute.Compound.userProvidedConstructor.components
  | inheritedConstructor => Attribute.Compound.inheritedConstructor.components
  | explicitConstructor => Attribute.Compound.explicitConstructor.components
  | restrictedBase => [.virtualBase, .privateBase, .protectedBase]
  | virtualFunction => [.virtualFunction]

end Criterion

/-- For each criterion, whether it holds. -/
@[ext] structure Reasons where
  get : Criterion → Bool

namespace Reasons

instance : DecidableEq Reasons := fun first second =>
  decidable_of_iff (∀ criterion ∈ Criterion.vocabulary.all,
      first.get criterion = second.get criterion)
    ⟨fun same => Reasons.ext (funext fun criterion =>
        same criterion (Criterion.vocabulary.mem_all criterion)),
      fun same _ _ => same ▸ rfl⟩

/-- What speaks against a class with this profile. -/
def ofProfile (profile : Profile) : Reasons where
  get
    | .hiddenMember => profile.get .privateMember || profile.get .protectedMember
    | .userProvidedConstructor => profile.hasUserProvidedConstructor
    | .inheritedConstructor => profile.hasInheritedConstructor
    | .explicitConstructor => profile.hasExplicitConstructor
    | .restrictedBase =>
        profile.get .virtualBase || profile.get .privateBase || profile.get .protectedBase
    | .virtualFunction => profile.get .virtualFunction

/-- The criteria that hold, in the order of declaration. -/
def failing (reasons : Reasons) : List Criterion :=
  Criterion.vocabulary.all.filter reasons.get

/-- Nothing speaks against the class. -/
def isClear (reasons : Reasons) : Bool :=
  !Criterion.vocabulary.all.any reasons.get

theorem mem_failing_iff (reasons : Reasons) (criterion : Criterion) :
    criterion ∈ reasons.failing ↔ reasons.get criterion = true := by
  simp [failing, Criterion.vocabulary.mem_all]

theorem isClear_iff (reasons : Reasons) :
    reasons.isClear = true ↔ ∀ criterion, reasons.get criterion = false := by
  simp [isClear, Criterion.vocabulary.mem_all]

end Reasons

/-- Whether a type is an aggregate. Reasons are recorded where they were looked into, and nothing
ties the three parts of a verdict that was read from elsewhere. -/
@[ext] structure Verdict where
  typeClass : TypeClass
  isAggregate : Bool
  reasons : Option Reasons
deriving DecidableEq

namespace Verdict

/-- One line for each thing that speaks against the type. -/
def explain (verdict : Verdict) : List String :=
  if verdict.isAggregate then []
  else match verdict.reasons with
    | some reasons => reasons.failing.map Criterion.description
    | none => [verdict.typeClass.name ++ " types are neither array nor class types"]

end Verdict

/-- The verdict on a profile. -/
def Profile.verdict (profile : Profile) : Verdict :=
  match profile.typeClass with
  | .array => ⟨.array, true, none⟩
  | .classType =>
      let reasons := Reasons.ofProfile profile
      ⟨.classType, reasons.isClear, some reasons⟩
  | typeClass => ⟨typeClass, false, none⟩

end TypeProfile
