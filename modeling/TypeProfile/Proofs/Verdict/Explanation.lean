import Mathlib.Logic.ExistsUnique
import TypeProfile.Proofs.Profile
import TypeProfile.Proofs.Verdict
import TypeProfile.Wire

/-!
# Verdicts on aggregates and their explanations

Which attributes speak against an aggregate is said twice: by the criteria, each with its triggers,
and by one list of all of them. Every attribute of the list triggers one criterion, so a verdict on
a class is negative exactly if it can be explained, and the explanation leaves nothing out.
-/

namespace TypeProfile

namespace Attribute

/-- The attributes that speak against an aggregate. Public bases, deleted constructors and all
that concerns initialization do not. -/
def againstAggregate : List Attribute :=
  [ userProvidedDefaultConstructor, inheritedDefaultConstructor, explicitDefaultConstructor,
    userProvidedCopyConstructor, inheritedCopyConstructor, explicitCopyConstructor,
    userProvidedMoveConstructor, inheritedMoveConstructor, explicitMoveConstructor,
    privateMember, protectedMember, virtualBase, privateBase, protectedBase, virtualFunction ]

/-- The criterion that an attribute triggers. -/
def criterion? : Attribute → Option Criterion
  | userProvidedDefaultConstructor | userProvidedCopyConstructor | userProvidedMoveConstructor =>
      some .userProvidedConstructor
  | inheritedDefaultConstructor | inheritedCopyConstructor | inheritedMoveConstructor =>
      some .inheritedConstructor
  | explicitDefaultConstructor | explicitCopyConstructor | explicitMoveConstructor =>
      some .explicitConstructor
  | privateMember | protectedMember => some .hiddenMember
  | privateBase | protectedBase | virtualBase => some .restrictedBase
  | virtualFunction => some .virtualFunction
  | deletedConstructor | publicBase | memberInitializer | nonTrivialMember
  | initializerNeedyMember => none

theorem mem_triggers_iff {flag : Attribute} {criterion : Criterion} :
    flag ∈ criterion.triggers ↔ flag.criterion? = some criterion := by
  cases criterion <;> cases flag <;> decide

theorem mem_againstAggregate_iff {flag : Attribute} :
    flag ∈ againstAggregate ↔ ∃ criterion : Criterion, flag ∈ criterion.triggers := by
  have hsome : flag ∈ againstAggregate ↔ flag.criterion?.isSome = true := by
    cases flag <;> decide
  rw [hsome, Option.isSome_iff_exists]
  simp only [mem_triggers_iff]

/-- No attribute triggers two criteria. -/
theorem existsUnique_criterion {flag : Attribute} (hagainst : flag ∈ againstAggregate) :
    ∃! criterion : Criterion, flag ∈ criterion.triggers := by
  obtain ⟨criterion, hcriterion⟩ := mem_againstAggregate_iff.mp hagainst
  refine ⟨criterion, hcriterion, fun other hother => ?_⟩
  rw [mem_triggers_iff] at hcriterion hother
  exact Option.some.inj (hother.symm.trans hcriterion)

end Attribute

namespace Reasons

theorem sublist_failing (reasons : Reasons) :
    reasons.failing.Sublist Criterion.vocabulary.all :=
  List.filter_sublist

theorem failing_eq_nil_iff (reasons : Reasons) :
    reasons.failing = [] ↔ reasons.isClear = true := by
  simp [failing, isClear]

/-- Reasons are written under the titles of the criteria, in the order of declaration. -/
theorem write_eq_object (reasons : Reasons) :
    codec.write reasons = .object (Criterion.titles.all.map fun criterion =>
      (criterion.title, .boolean (reasons.get criterion))) := rfl

/-- The reasons say of every criterion whether a trigger of it is on, and they show the same when
they are listed and when they are written. -/
structure Tells (reasons : Reasons) (profile : Profile) : Prop where
  get : ∀ criterion, reasons.get criterion = true ↔
    ∃ flag ∈ criterion.triggers, flag ∈ profile.enabled
  failing : ∀ criterion, criterion ∈ reasons.failing ↔ reasons.get criterion = true
  ordered : reasons.failing.Sublist Criterion.vocabulary.all
  written : ∃ members, codec.write reasons = .object members ∧
    members.map Prod.fst = Criterion.titles.names ∧
    ∀ criterion : Criterion,
      members.lookup criterion.title = some (.boolean (reasons.get criterion))

theorem tells_ofProfile (profile : Profile) : (ofProfile profile).Tells profile where
  get criterion := by
    rw [get_ofProfile, Profile.hasAny_eq_decide, decide_eq_true_iff]
  failing := mem_failing_iff _
  ordered := sublist_failing _
  written :=
    ⟨_, write_eq_object _, rfl, fun criterion => Criterion.titles.lookup_map_name _ criterion⟩

end Reasons

namespace Profile

variable {profile : Profile}

theorem reasons_verdict (profile : Profile) :
    profile.verdict.reasons =
      if profile.typeClass = .classType then some (Reasons.ofProfile profile) else none := by
  cases hclass : profile.typeClass <;> simp [verdict, hclass]

theorem isAggregate_verdict_of_class (hclass : profile.typeClass = .classType) :
    profile.verdict.isAggregate = (Reasons.ofProfile profile).isClear := by
  rw [verdict, hclass]

theorem explain_verdict_of_class (hclass : profile.typeClass = .classType) :
    profile.verdict.explain = (Reasons.ofProfile profile).failing.map Criterion.description := by
  have hreasons := profile.reasons_verdict
  rw [if_pos hclass] at hreasons
  have hclear := (Reasons.ofProfile profile).failing_eq_nil_iff
  rw [Verdict.explain, hreasons, isAggregate_verdict_of_class hclass]
  split
  next hclean => rw [hclear.mpr hclean, List.map_nil]
  next => rfl

theorem explain_verdict_of_other (harray : profile.typeClass ≠ .array)
    (hclass : profile.typeClass ≠ .classType) :
    profile.verdict.explain =
      [profile.typeClass.name ++ " types are neither array nor class types"] := by
  cases htype : profile.typeClass <;> simp_all [verdict, Verdict.explain]

/-- For a class it is the same to go through the criteria or through the list. -/
theorem triggers_off_iff :
    (∀ criterion : Criterion, ∀ flag ∈ criterion.triggers, profile.get flag = false) ↔
      ∀ flag ∈ Attribute.againstAggregate, flag ∉ profile.enabled := by
  simp only [Attribute.mem_againstAggregate_iff, mem_enabled_iff, Bool.not_eq_true]
  constructor
  · rintro hoff flag ⟨criterion, htriggers⟩
    exact hoff criterion flag htriggers
  · intro hoff criterion flag htriggers
    exact hoff flag ⟨criterion, htriggers⟩

theorem isAggregate_verdict_eq_true_iff :
    profile.verdict.isAggregate = true ↔ profile.typeClass = .array ∨
      profile.typeClass = .classType ∧ ∀ flag ∈ Attribute.againstAggregate,
        flag ∉ profile.enabled := by
  cases htype : profile.typeClass with
  | classType =>
      rw [isAggregate_verdict_iff htype, triggers_off_iff]
      simp
  | _ => simp [verdict, htype]

/-- A verdict is negative exactly if there is something to say against the type. -/
theorem explain_verdict_eq_nil_iff :
    profile.verdict.explain = [] ↔ profile.verdict.isAggregate = true := by
  constructor
  · intro hnothing
    by_cases hclass : profile.typeClass = .classType
    · rw [explain_verdict_of_class hclass, List.map_eq_nil_iff] at hnothing
      rw [isAggregate_verdict_of_class hclass]
      exact (Reasons.failing_eq_nil_iff _).mp hnothing
    · by_cases harray : profile.typeClass = .array
      · exact isAggregate_verdict_eq_true_iff.mpr (.inl harray)
      · rw [explain_verdict_of_other harray hclass] at hnothing
        cases hnothing
  · intro haggregate
    rw [Verdict.explain, if_pos haggregate]

end Profile

end TypeProfile
