import TypeProfile.TypeClass
import TypeProfile.Attribute.Compound

/-!
# Profiles

A profile is a classification together with a switch for each attribute. Writing a switch changes
what that switch reads and nothing else, see `Flags.get_set`.
-/

namespace TypeProfile

/-- A switch for every attribute. -/
@[ext] structure Flags where
  get : Attribute → Bool

namespace Flags

instance : DecidableEq Flags := fun first second =>
  decidable_of_iff (∀ flag ∈ Attribute.vocabulary.all, first.get flag = second.get flag)
    ⟨fun same => Flags.ext (funext fun flag => same flag (Attribute.vocabulary.mem_all flag)),
      fun same _ _ => same ▸ rfl⟩

/-- All switches off. -/
def none : Flags := ⟨fun _ => false⟩

instance : Inhabited Flags := ⟨none⟩

def set (flags : Flags) (flag : Attribute) (value : Bool) : Flags :=
  ⟨fun other => if other = flag then value else flags.get other⟩

@[simp] theorem get_none (flag : Attribute) : none.get flag = false := rfl

theorem get_set (flags : Flags) (flag other : Attribute) (value : Bool) :
    (flags.set flag value).get other = if other = flag then value else flags.get other := rfl

end Flags

/-- What is known about one type. -/
@[ext] structure Profile where
  typeClass : TypeClass
  flags : Flags
deriving DecidableEq

namespace Profile

/-- A profile with every attribute off. -/
def ofTypeClass (typeClass : TypeClass) : Profile := ⟨typeClass, .none⟩

instance : Inhabited Profile := ⟨ofTypeClass default⟩

def get (profile : Profile) (flag : Attribute) : Bool :=
  profile.flags.get flag

def set (profile : Profile) (flag : Attribute) (value : Bool) : Profile :=
  { profile with flags := profile.flags.set flag value }

/-- The profile with one more attribute on. -/
def insert (profile : Profile) (flag : Attribute) : Profile :=
  profile.set flag true

/-- The profile with all the listed attributes on as well. -/
def insertMany (profile : Profile) (flags : List Attribute) : Profile :=
  flags.foldl insert profile

/-- The attributes that are on, in the order of declaration. -/
def enabled (profile : Profile) : List Attribute :=
  Attribute.vocabulary.all.filter profile.get

/-- Whether one of the listed attributes is on. -/
def hasAny (profile : Profile) (flags : List Attribute) : Bool :=
  flags.any profile.get

/-- The number of base classes that the type has. -/
def baseCount (profile : Profile) : Nat :=
  Attribute.bases.countP profile.get

/-- The answer to a compound question, where attributes can give it. -/
def compound? (profile : Profile) (question : Attribute.Compound) : Option Bool :=
  match question.components with
  | [] => none
  | components => some (profile.hasAny components)

def hasUserProvidedConstructor (profile : Profile) : Bool :=
  profile.hasAny Attribute.Compound.userProvidedConstructor.components

def hasInheritedConstructor (profile : Profile) : Bool :=
  profile.hasAny Attribute.Compound.inheritedConstructor.components

def hasExplicitConstructor (profile : Profile) : Bool :=
  profile.hasAny Attribute.Compound.explicitConstructor.components

@[simp] theorem get_ofTypeClass (typeClass : TypeClass) (flag : Attribute) :
    (ofTypeClass typeClass).get flag = false := rfl

theorem get_set (profile : Profile) (flag other : Attribute) (value : Bool) :
    (profile.set flag value).get other = if other = flag then value else profile.get other := rfl

@[simp] theorem typeClass_set (profile : Profile) (flag : Attribute) (value : Bool) :
    (profile.set flag value).typeClass = profile.typeClass := rfl

@[simp] theorem typeClass_insertMany (profile : Profile) (flags : List Attribute) :
    (profile.insertMany flags).typeClass = profile.typeClass := by
  induction flags generalizing profile with
  | nil => rfl
  | cons flag flags ih => exact ih (profile.insert flag)

theorem get_insertMany (profile : Profile) (flags : List Attribute) (flag : Attribute) :
    (profile.insertMany flags).get flag = (decide (flag ∈ flags) || profile.get flag) := by
  induction flags generalizing profile with
  | nil => simp [insertMany]
  | cons first flags ih =>
      have step : (profile.insertMany (first :: flags)).get flag =
          ((profile.insert first).insertMany flags).get flag := rfl
      rw [step, ih, insert, get_set]
      by_cases same : flag = first <;> simp [same]

theorem mem_enabled_iff (profile : Profile) (flag : Attribute) :
    flag ∈ profile.enabled ↔ profile.get flag = true := by
  simp [enabled, Attribute.vocabulary.mem_all]

end Profile

end TypeProfile
