import TypeProfile.Profile

/-!
# Default construction

Whether a value of a type can be made from nothing, and whether that takes no work.
-/

namespace TypeProfile.Profile

/-- Types of no objects cannot be constructed at all. A class can unless a member lacks a needed
initializer or a constructor is deleted; everything else can. -/
def isDefaultConstructible (profile : Profile) : Bool :=
  profile.typeClass.isObject &&
    match profile.typeClass with
    | .classType =>
        !(profile.get .initializerNeedyMember || profile.get .deletedConstructor)
    | _ => true

/-- Constructible without running any code: no constructor was written, nothing virtual has to be
set up, and no member asks for more. -/
def isTriviallyDefaultConstructible (profile : Profile) : Bool :=
  profile.isDefaultConstructible &&
    !profile.get .userProvidedDefaultConstructor &&
    !profile.get .virtualFunction &&
    !profile.get .virtualBase &&
    !profile.get .memberInitializer &&
    !profile.get .nonTrivialMember

theorem isDefaultConstructible_of_trivially {profile : Profile}
    (trivial : profile.isTriviallyDefaultConstructible = true) :
    profile.isDefaultConstructible = true := by
  simp only [isTriviallyDefaultConstructible, Bool.and_eq_true] at trivial
  exact trivial.1.1.1.1.1

end TypeProfile.Profile
