import Mathlib.Data.List.Induction
import TypeProfile.Profile

/-!
# Profiles as maps

A profile is determined by its classification and by what its attributes read. Of all that was ever
written to it only the last value of each attribute is left. The attributes that are on answer
everything else that a profile is asked, and make the profile again.
-/

namespace TypeProfile

theorem Attribute.bases_eq_filter :
    bases = vocabulary.all.filter fun flag => flag.group = .inheritance := rfl

namespace Profile

theorem ext_get {first second : Profile} (hclass : first.typeClass = second.typeClass)
    (hget : ∀ flag, first.get flag = second.get flag) : first = second :=
  Profile.ext hclass (Flags.ext (funext hget))

section Enabled

variable (profile : Profile)

/-- Attributes are listed in the order of declaration, each of them once. -/
theorem pairwise_enabled :
    profile.enabled.Pairwise fun first second => first.index < second.index := by
  have hall : Attribute.vocabulary.all.Pairwise fun first second => first.index < second.index := by
    decide
  exact hall.filter _

theorem hasAny_eq_decide (flags : List Attribute) :
    profile.hasAny flags = decide (∃ flag ∈ flags, flag ∈ profile.enabled) := by
  rw [Bool.eq_iff_iff, decide_eq_true_iff, hasAny, List.any_eq_true]
  simp only [mem_enabled_iff]

/-- A compound question is answered by the attributes that are on, unless it has no components. -/
theorem compound?_eq_ite (question : Attribute.Compound) :
    profile.compound? question = if question = .aggregate then none
      else some (decide (∃ flag ∈ question.components, flag ∈ profile.enabled)) := by
  rw [← hasAny_eq_decide]
  cases question <;> rfl

theorem baseCount_eq_countP_enabled :
    profile.baseCount = profile.enabled.countP fun flag => flag.group = .inheritance := by
  rw [baseCount, Attribute.bases_eq_filter, enabled, List.countP_filter, List.countP_filter]
  simp only [Bool.and_comm]

/-- Nothing is lost of a profile but the attributes that are off. -/
theorem insertMany_enabled : (ofTypeClass profile.typeClass).insertMany profile.enabled = profile := by
  apply ext_get
  · exact typeClass_insertMany _ _
  · intro flag
    rw [get_insertMany, get_ofTypeClass, Bool.or_false, Bool.eq_iff_iff, decide_eq_true_iff,
      mem_enabled_iff]

end Enabled

/-- One way of writing to a profile. -/
inductive Write
  | set (flag : Attribute) (value : Bool)
  | insert (flag : Attribute)
  | insertMany (flags : List Attribute)
deriving DecidableEq, Repr

/-- What is written to which attribute, in this order. -/
def Write.entries : Write → List (Attribute × Bool)
  | set flag value => [(flag, value)]
  | insert flag => [(flag, true)]
  | insertMany flags => flags.map fun flag => (flag, true)

/-- The value that is written to an attribute last, if there is one. -/
def lastWritten? (writes : List Write) (flag : Attribute) : Option Bool :=
  (writes.flatMap Write.entries).reverse.lookup flag

def write (profile : Profile) : Write → Profile
  | .set flag value => profile.set flag value
  | .insert flag => profile.insert flag
  | .insertMany flags => profile.insertMany flags

def writeMany (profile : Profile) (writes : List Write) : Profile :=
  writes.foldl write profile

@[simp] theorem typeClass_write (profile : Profile) (write : Write) :
    (profile.write write).typeClass = profile.typeClass := by
  cases write with
  | set flag value => rfl
  | insert flag => rfl
  | insertMany flags => exact profile.typeClass_insertMany flags

@[simp] theorem typeClass_writeMany (profile : Profile) (writes : List Write) :
    (profile.writeMany writes).typeClass = profile.typeClass := by
  induction writes generalizing profile with
  | nil => rfl
  | cons write writes ih => exact (ih (profile.write write)).trans (profile.typeClass_write write)

/-- Every way of writing sets its entries one after the other. -/
theorem write_eq_foldl (profile : Profile) (write : Write) :
    profile.write write = write.entries.foldl (fun state entry => state.set entry.1 entry.2)
      profile := by
  cases write with
  | set flag value => rfl
  | insert flag => rfl
  | insertMany flags =>
      rw [Write.entries, List.foldl_map]
      rfl

theorem writeMany_eq_foldl (profile : Profile) (writes : List Write) :
    profile.writeMany writes = (writes.flatMap Write.entries).foldl
      (fun state entry => state.set entry.1 entry.2) profile := by
  rw [List.foldl_flatMap]
  simp only [← write_eq_foldl]
  rfl

/-- The last entry for an attribute decides what it reads. -/
theorem get_foldl_set (profile : Profile) (entries : List (Attribute × Bool)) (flag : Attribute) :
    (entries.foldl (fun state entry => state.set entry.1 entry.2) profile).get flag =
      (entries.reverse.lookup flag).getD (profile.get flag) := by
  -- By induction from the end, because it is the last entry that is looked up first.
  induction entries using List.reverseRecOn with
  | nil => rfl
  | append_singleton entries entry ih =>
      obtain ⟨written, value⟩ := entry
      rw [List.foldl_append, List.foldl_cons, List.foldl_nil, get_set, ih, List.reverse_append]
      by_cases hsame : flag = written
      · simp [hsame]
      · simp [List.lookup_cons, hsame, beq_false_of_ne hsame]

theorem get_writeMany (profile : Profile) (writes : List Write) (flag : Attribute) :
    (profile.writeMany writes).get flag =
      (lastWritten? writes flag).getD (profile.get flag) := by
  rw [writeMany_eq_foldl, get_foldl_set]
  rfl

end Profile

end TypeProfile
