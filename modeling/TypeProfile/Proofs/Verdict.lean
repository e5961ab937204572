import TypeProfile.Report

/-!
# What the verdicts rest on

Every verdict on a class is the absence of certain attributes. An attribute that speaks against one
of them is found by that verdict, whatever else the profile says.
-/

namespace TypeProfile

/-- A criterion holds for a profile if one of its triggers is on. -/
theorem Reasons.get_ofProfile (profile : Profile) (criterion : Criterion) :
    (ofProfile profile).get criterion = profile.hasAny criterion.triggers := by
  cases criterion with
  | hiddenMember => simp [ofProfile, Criterion.triggers, Profile.hasAny]
  | userProvidedConstructor => rfl
  | inheritedConstructor => rfl
  | explicitConstructor => rfl
  | restrictedBase => simp [ofProfile, Criterion.triggers, Profile.hasAny, Bool.or_assoc]
  | virtualFunction => simp [ofProfile, Criterion.triggers, Profile.hasAny]

namespace Profile

variable {profile : Profile}

theorem hasAny_eq_false_iff (flags : List Attribute) :
    profile.hasAny flags = false ↔ ∀ flag ∈ flags, profile.get flag = false := by
  simp [hasAny]

theorem isAggregate_verdict_iff (hclass : profile.typeClass = .classType) :
    profile.verdict.isAggregate = true ↔
      ∀ criterion : Criterion, ∀ flag ∈ criterion.triggers, profile.get flag = false := by
  have hverdict : profile.verdict.isAggregate = (Reasons.ofProfile profile).isClear := by
    rw [verdict, hclass]
  rw [hverdict, Reasons.isClear_iff]
  simp only [Reasons.get_ofProfile, hasAny_eq_false_iff]

theorem isDefaultConstructible_iff (hclass : profile.typeClass = .classType) :
    profile.isDefaultConstructible = true ↔
      ∀ flag ∈ [Attribute.initializerNeedyMember, .deletedConstructor],
        profile.get flag = false := by
  simp [isDefaultConstructible, hclass, TypeClass.isObject]

theorem isTriviallyDefaultConstructible_iff :
    profile.isTriviallyDefaultConstructible = true ↔
      profile.isDefaultConstructible = true ∧
        ∀ flag ∈ [Attribute.userProvidedDefaultConstructor, .virtualFunction, .virtualBase,
          .memberInitializer, .nonTrivialMember], profile.get flag = false := by
  simp [isTriviallyDefaultConstructible, and_assoc]

end Profile

end TypeProfile
