import TypeProfile.Proofs.Declaration.Conflict
import TypeProfile.Proofs.Verdict.Explanation

/-!
# Profiles that say more

Attributes speak only against a type. A profile with more of them on is an aggregate or constructible
only if the profile with fewer is, and it fails at least the same criteria. Of the two conflicts that
keep a declaration from being written, more attributes leave the ambiguous constructor as it is; the
dangling one can be mended, but by a base alone.
-/

namespace TypeProfile

namespace Profile

/-- The other profile is of the same classification, and all that is on in this one is on in it. -/
structure Within (profile other : Profile) : Prop where
  typeClass : other.typeClass = profile.typeClass
  get : ∀ flag, profile.get flag = true → other.get flag = true

theorem within_insertMany (profile : Profile) (flags : List Attribute) :
    profile.Within (profile.insertMany flags) where
  typeClass := typeClass_insertMany profile flags
  get flag hon := by rw [get_insertMany, hon, Bool.or_true]

theorem get_insertMany_of_notMem (profile : Profile) {flags : List Attribute} {flag : Attribute}
    (hflag : flag ∉ flags) : (profile.insertMany flags).get flag = profile.get flag := by
  rw [get_insertMany, decide_eq_false hflag, Bool.false_or]

/-- Only of a class are attributes asked for. -/
theorem isDefaultConstructible_of_other {profile : Profile}
    (hclass : profile.typeClass ≠ .classType) :
    profile.isDefaultConstructible = profile.typeClass.isObject := by
  rw [isDefaultConstructible]
  split
  · contradiction
  · rw [Bool.and_true]

namespace Within

variable {profile other : Profile} (hwithin : profile.Within other)

include hwithin

theorem off {flag : Attribute} (hoff : other.get flag = false) : profile.get flag = false := by
  rw [← Bool.not_eq_true] at hoff ⊢
  exact mt (hwithin.get flag) hoff

/-! ## Verdicts -/

theorem hasAny {flags : List Attribute} (hany : profile.hasAny flags = true) :
    other.hasAny flags = true := by
  obtain ⟨flag, hflag, hon⟩ := List.any_eq_true.mp hany
  exact List.any_eq_true.mpr ⟨flag, hflag, hwithin.get flag hon⟩

theorem failing_sublist :
    (Reasons.ofProfile profile).failing.Sublist (Reasons.ofProfile other).failing := by
  apply List.monotone_filter_right
  intro criterion hholds
  rw [Reasons.get_ofProfile] at hholds ⊢
  exact hwithin.hasAny hholds

theorem isAggregate (haggregate : other.verdict.isAggregate = true) :
    profile.verdict.isAggregate = true := by
  rw [isAggregate_verdict_eq_true_iff, hwithin.typeClass] at haggregate
  rw [isAggregate_verdict_eq_true_iff]
  refine haggregate.imp_right (And.imp_right fun hoff flag hagainst henabled => ?_)
  apply hoff flag hagainst
  rw [mem_enabled_iff] at henabled ⊢
  exact hwithin.get flag henabled

theorem isDefaultConstructible (hconstructible : other.isDefaultConstructible = true) :
    profile.isDefaultConstructible = true := by
  by_cases hclass : profile.typeClass = .classType
  · rw [isDefaultConstructible_iff (hwithin.typeClass.trans hclass)] at hconstructible
    rw [isDefaultConstructible_iff hclass]
    exact fun flag hneedy => hwithin.off (hconstructible flag hneedy)
  · have hother : other.typeClass ≠ .classType := hwithin.typeClass.trans_ne hclass
    rw [isDefaultConstructible_of_other hother, hwithin.typeClass] at hconstructible
    rw [isDefaultConstructible_of_other hclass, hconstructible]

theorem isTriviallyDefaultConstructible
    (htrivial : other.isTriviallyDefaultConstructible = true) :
    profile.isTriviallyDefaultConstructible = true := by
  rw [isTriviallyDefaultConstructible_iff] at htrivial ⊢
  exact ⟨hwithin.isDefaultConstructible htrivial.1,
    fun flag hwork => hwithin.off (htrivial.2 flag hwork)⟩

/-! ## Conflicts -/

theorem constructorStyles_sublist :
    profile.constructorStyles.Sublist other.constructorStyles :=
  List.monotone_filter_right _ fun style => hwithin.get style.flag

theorem render_ambiguous {renderer : Renderer} {styles : List ConstructorStyle}
    (hrender : renderer.render profile = .error (.ambiguousConstructor styles)) :
    ∃ more, renderer.render other = .error (.ambiguousConstructor more) ∧
      styles.Sublist more := by
  rw [Renderer.render, Layout.declaration_eq_error_iff,
    constructorStyle_eq_ambiguous_iff] at hrender
  obtain ⟨hmany, rfl⟩ := hrender
  have hmore := hwithin.constructorStyles_sublist
  refine ⟨other.constructorStyles, ?_, hmore⟩
  rw [Renderer.render, Layout.declaration_eq_error_iff, constructorStyle_eq_ambiguous_iff]
  exact ⟨Nat.le_trans hmany hmore.length_le, rfl⟩

/-- As long as there is no base, what is inherited has nowhere to come from. Another style hides
this only behind the other conflict. -/
theorem render_dangling {renderer : Renderer}
    (hbases : ∀ flag ∈ Attribute.bases, other.get flag = profile.get flag)
    (hrender : renderer.render profile = .error .danglingInheritedConstructor) :
    renderer.render other = .error .danglingInheritedConstructor ∨
      ∃ styles, renderer.render other = .error (.ambiguousConstructor styles) := by
  simp only [Renderer.render, Layout.declaration_eq_error_iff, constructorStyle_eq_dangling_iff,
    constructorStyle_eq_ambiguous_iff] at hrender ⊢
  obtain ⟨honly, hnobase⟩ := hrender
  have hmore := hwithin.constructorStyles_sublist
  rw [honly] at hmore
  by_cases hmany : 2 ≤ other.constructorStyles.length
  · exact .inr ⟨_, hmany, rfl⟩
  · have hlength : other.constructorStyles.length ≤ 1 := by omega
    exact .inl ⟨(hmore.eq_of_length_le hlength).symm, (baseCount_congr hbases).trans hnobase⟩

end Within

/-- Whatever attributes are turned on besides, no verdict improves and no criterion ceases to hold.
A declaration with an ambiguous constructor stays so, with at least the same styles, and one with a
dangling constructor is not mended by attributes that are no bases. -/
theorem insertMany_improves_nothing (profile : Profile) (flags : List Attribute)
    (renderer : Renderer) :
    let more := profile.insertMany flags
    (more.verdict.isAggregate = true → profile.verdict.isAggregate = true) ∧
    (more.isDefaultConstructible = true → profile.isDefaultConstructible = true) ∧
    (more.isTriviallyDefaultConstructible = true →
      profile.isTriviallyDefaultConstructible = true) ∧
    (profile.isTriviallyDefaultConstructible = true → profile.isDefaultConstructible = true) ∧
    (profile.typeClass = .classType → ∃ reasons moreReasons,
      profile.verdict.reasons = some reasons ∧ more.verdict.reasons = some moreReasons ∧
        reasons.failing.Sublist moreReasons.failing) ∧
    (∀ styles, renderer.render profile = .error (.ambiguousConstructor styles) →
      ∃ moreStyles, renderer.render more = .error (.ambiguousConstructor moreStyles) ∧
        styles.Sublist moreStyles) ∧
    (renderer.render profile = .error .danglingInheritedConstructor →
      (∀ flag ∈ flags, flag ∉ Attribute.bases) →
      renderer.render more = .error .danglingInheritedConstructor ∨
        ∃ styles, renderer.render more = .error (.ambiguousConstructor styles)) := by
  intro more
  have hwithin : profile.Within more := profile.within_insertMany flags
  refine ⟨hwithin.isAggregate, hwithin.isDefaultConstructible,
    hwithin.isTriviallyDefaultConstructible, isDefaultConstructible_of_trivially, fun hclass => ?_,
    fun styles => hwithin.render_ambiguous, fun hrender hnobase => ?_⟩
  · refine ⟨_, _, ?_, ?_, hwithin.failing_sublist⟩
    · rw [reasons_verdict, if_pos hclass]
    · rw [reasons_verdict, if_pos (hwithin.typeClass.trans hclass)]
  · refine hwithin.render_dangling (fun flag hbase => ?_) hrender
    exact profile.get_insertMany_of_notMem fun hflag => hnobase flag hflag hbase

end Profile

end TypeProfile
