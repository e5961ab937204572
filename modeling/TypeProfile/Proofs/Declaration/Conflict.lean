import Mathlib.Data.List.Basic
import TypeProfile.Declaration

/-!
# Conflicts

Writing a declaration and validating a profile count base classes in different places: one lists
the bases that it names, the other counts attributes. Both counts agree, so both stop for the same
reason, and the two conflicts between constructor attributes are the only reasons there are.
-/

namespace TypeProfile

namespace Attribute

/-- The attributes that each ask for a default constructor of its own style. -/
def defaultConstructors : List Attribute :=
  [userProvidedDefaultConstructor, inheritedDefaultConstructor, explicitDefaultConstructor]

end Attribute

theorem Inheritance.map_flag_all : all.map flag = Attribute.bases := rfl

theorem ConstructorStyle.map_flag_all :
    vocabulary.all.map flag = Attribute.defaultConstructors := rfl

/-- One base is named for every inheritance attribute that is on. -/
theorem Layout.length_bases (layout : Layout) (profile : Profile) :
    (layout.bases profile).length = profile.baseCount := by
  rw [Profile.baseCount, ← Inheritance.map_flag_all, List.countP_map, List.countP_eq_length_filter]
  simp only [bases, List.length_map, List.length_zipIdx]
  rfl

namespace Profile

theorem baseCount_eq_zero_iff (profile : Profile) :
    profile.baseCount = 0 ↔ ∀ flag ∈ Attribute.bases, profile.get flag = false := by
  simp [baseCount, List.countP_eq_zero]

theorem mem_constructorStyles_iff (profile : Profile) (style : ConstructorStyle) :
    style ∈ profile.constructorStyles ↔ profile.get style.flag = true := by
  simp [constructorStyles, ConstructorStyle.vocabulary.mem_all]

theorem length_constructorStyles (profile : Profile) :
    profile.constructorStyles.length = Attribute.defaultConstructors.countP profile.get := by
  rw [← ConstructorStyle.map_flag_all, List.countP_map, List.countP_eq_length_filter]
  rfl

theorem constructorStyles_sublist (profile : Profile) :
    profile.constructorStyles.Sublist [.userProvided, .inherited, .explicit] :=
  List.filter_sublist

/-- The styles asked for are determined by their order and by which attributes are on. -/
theorem eq_constructorStyles_iff (profile : Profile) (styles : List ConstructorStyle) :
    styles = profile.constructorStyles ↔
      styles.Sublist [.userProvided, .inherited, .explicit] ∧
        ∀ style, style ∈ styles ↔ profile.get style.flag = true := by
  constructor
  · rintro rfl
    exact ⟨profile.constructorStyles_sublist, profile.mem_constructorStyles_iff⟩
  · rintro ⟨hordered, hmem⟩
    have hdistinct : [ConstructorStyle.userProvided, .inherited, .explicit].Nodup := by decide
    -- The same members give equal lengths, and the order leaves one list of that length.
    have hsame : styles.Perm profile.constructorStyles := by
      rw [List.perm_ext_iff_of_nodup (hordered.nodup hdistinct)
        (profile.constructorStyles_sublist.nodup hdistinct)]
      intro style
      rw [hmem, mem_constructorStyles_iff]
    have hkept : styles.filter (fun style => profile.get style.flag) = styles :=
      List.filter_eq_self.mpr fun style hstyle => (hmem style).mp hstyle
    have hsublist : styles.Sublist profile.constructorStyles := by
      rw [← hkept]
      exact hordered.filter _
    exact hsublist.eq_of_length hsame.length_eq

theorem constructorStyle_eq_ambiguous_iff (profile : Profile) (count : Nat)
    (styles : List ConstructorStyle) :
    profile.constructorStyle count = .error (.ambiguousConstructor styles) ↔
      2 ≤ profile.constructorStyles.length ∧ styles = profile.constructorStyles := by
  unfold constructorStyle
  split
  next hnone => simp [hnone]
  next style hone => split <;> simp [hone]
  next hnone hone =>
    have hmany : 2 ≤ profile.constructorStyles.length := by
      match hstyles : profile.constructorStyles with
      | [] => exact absurd hstyles hnone
      | [style] => exact absurd hstyles (hone style)
      | _ :: _ :: _ => simp
    simp [hmany, eq_comm]

theorem constructorStyle_eq_dangling_iff (profile : Profile) (count : Nat) :
    profile.constructorStyle count = .error .danglingInheritedConstructor ↔
      profile.constructorStyles = [.inherited] ∧ count = 0 := by
  unfold constructorStyle
  split
  next hnone => simp [hnone]
  next style hone => split <;> simp_all
  next hnone hone =>
    simp only [Except.error.injEq, reduceCtorEq, false_iff, not_and]
    exact fun hinherited => absurd hinherited (hone .inherited)

theorem constructorStyle_ne_invalidLayout (profile : Profile) (count : Nat) (fault : Layout.Fault) :
    profile.constructorStyle count ≠ .error (.invalidLayout fault) := by
  unfold constructorStyle
  split
  · simp
  · split <;> simp
  · simp

/-- Only inheritance is asked for. -/
theorem constructorStyles_eq_inherited_iff (profile : Profile) :
    profile.constructorStyles = [.inherited] ↔
      profile.get .inheritedDefaultConstructor = true ∧
        profile.get .userProvidedDefaultConstructor = false ∧
        profile.get .explicitDefaultConstructor = false := by
  rw [eq_comm, eq_constructorStyles_iff]
  constructor
  · rintro ⟨_, hmem⟩
    have huser := hmem .userProvided
    have hinherited := hmem .inherited
    have hexplicit := hmem .explicit
    simp only [List.mem_singleton, reduceCtorEq, false_iff, true_iff, Bool.not_eq_true,
      ConstructorStyle.flag] at huser hinherited hexplicit
    exact ⟨hinherited, huser, hexplicit⟩
  · rintro ⟨hinherited, huser, hexplicit⟩
    refine ⟨by decide, fun style => ?_⟩
    cases style <;> simp [ConstructorStyle.flag, hinherited, huser, hexplicit]

/-- The style depends on the constructor attributes alone, and on whether there is a base. -/
theorem constructorStyle_congr {first second : Profile} {count : Nat}
    (hagree : ∀ flag ∈ Attribute.defaultConstructors, first.get flag = second.get flag) :
    first.constructorStyle count = second.constructorStyle count := by
  have hstyles : first.constructorStyles = second.constructorStyles := by
    apply List.filter_congr
    intro style _
    apply hagree
    rw [← ConstructorStyle.map_flag_all]
    exact List.mem_map_of_mem (ConstructorStyle.vocabulary.mem_all style)
  rw [constructorStyle, hstyles, constructorStyle]

theorem baseCount_congr {first second : Profile}
    (hagree : ∀ flag ∈ Attribute.bases, first.get flag = second.get flag) :
    first.baseCount = second.baseCount := by
  apply List.countP_congr
  intro flag hflag
  rw [hagree flag hflag]

/-- Two default constructors are asked for, or one that there is no base to inherit from. -/
def Conflicting (profile : Profile) : Prop :=
  2 ≤ Attribute.defaultConstructors.countP profile.get ∨
    profile.get .inheritedDefaultConstructor = true ∧
      ∀ flag ∈ Attribute.bases, profile.get flag = false

instance (profile : Profile) : Decidable profile.Conflicting :=
  inferInstanceAs (Decidable (_ ∨ _))

theorem conflicting_iff_exists_error (profile : Profile) :
    profile.Conflicting ↔ ∃ error, profile.constructorStyle profile.baseCount = .error error := by
  rw [Conflicting, ← length_constructorStyles, ← baseCount_eq_zero_iff]
  constructor
  · intro hconflict
    by_cases hmany : 2 ≤ profile.constructorStyles.length
    · exact ⟨_, (profile.constructorStyle_eq_ambiguous_iff _ _).mpr ⟨hmany, rfl⟩⟩
    · obtain ⟨hinherited, hnobase⟩ := hconflict.resolve_left hmany
      have hmem := (profile.mem_constructorStyles_iff .inherited).mpr hinherited
      have hlength : profile.constructorStyles.length = 1 := by
        have hpos := List.length_pos_of_mem hmem
        omega
      obtain ⟨style, hstyle⟩ := List.length_eq_one_iff.mp hlength
      rw [hstyle, List.mem_singleton] at hmem
      subst hmem
      exact ⟨_, (profile.constructorStyle_eq_dangling_iff _).mpr ⟨hstyle, hnobase⟩⟩
  · intro ⟨error, herror⟩
    cases error with
    | ambiguousConstructor styles =>
        exact .inl ((profile.constructorStyle_eq_ambiguous_iff _ _).mp herror).1
    | danglingInheritedConstructor =>
        obtain ⟨hstyle, hnobase⟩ := (profile.constructorStyle_eq_dangling_iff _).mp herror
        exact .inr ⟨(profile.constructorStyles_eq_inherited_iff.mp hstyle).1, hnobase⟩
    | invalidLayout fault => exact absurd herror (profile.constructorStyle_ne_invalidLayout _ fault)

end Profile

namespace Layout

/-- A declaration is refused for the reason that its constructor is refused. -/
theorem declaration_eq_error_iff (layout : Layout) (profile : Profile) (error : RenderError) :
    layout.declaration profile = .error error ↔
      profile.constructorStyle profile.baseCount = .error error := by
  rw [declaration, length_bases]
  cases profile.constructorStyle profile.baseCount <;> simp [Except.map]

theorem exists_declaration_iff (layout : Layout) (profile : Profile) :
    (∃ text, layout.declaration profile = .ok text) ↔ ¬profile.Conflicting := by
  rw [Profile.conflicting_iff_exists_error]
  simp only [← layout.declaration_eq_error_iff]
  cases layout.declaration profile <;> simp

end Layout

namespace Renderer

/-- Validation and rendering end in the same way. They fail exactly on two kinds of conflict, which
the constructor and base attributes decide; the layout and all else have no part in it. -/
theorem validate_eq_render_and_conflicts (renderer : Renderer) (profile : Profile) :
    renderer.validate profile = (renderer.render profile).map (fun _ => ()) ∧
      (∀ styles, renderer.render profile = .error (.ambiguousConstructor styles) ↔
        2 ≤ Attribute.defaultConstructors.countP profile.get ∧
          styles.Sublist [.userProvided, .inherited, .explicit] ∧
          ∀ style, style ∈ styles ↔ profile.get style.flag = true) ∧
      (renderer.render profile = .error .danglingInheritedConstructor ↔
        (profile.get .inheritedDefaultConstructor = true ∧
          profile.get .userProvidedDefaultConstructor = false ∧
          profile.get .explicitDefaultConstructor = false) ∧
        ∀ flag ∈ Attribute.bases, profile.get flag = false) ∧
      (∀ fault, renderer.render profile ≠ .error (.invalidLayout fault)) ∧
      ∀ (otherRenderer : Renderer) (other : Profile),
        (∀ flag ∈ Attribute.defaultConstructors ++ Attribute.bases,
          other.get flag = profile.get flag) →
        otherRenderer.validate other = renderer.validate profile := by
  refine ⟨?_, fun styles => ?_, ?_, fun fault => ?_, fun otherRenderer other hagree => ?_⟩
  · rw [validate, render, Layout.declaration, Layout.length_bases]
    cases profile.constructorStyle profile.baseCount <;> rfl
  · rw [render, Layout.declaration_eq_error_iff, Profile.constructorStyle_eq_ambiguous_iff,
      Profile.length_constructorStyles, Profile.eq_constructorStyles_iff]
  · rw [render, Layout.declaration_eq_error_iff, Profile.constructorStyle_eq_dangling_iff,
      Profile.constructorStyles_eq_inherited_iff, Profile.baseCount_eq_zero_iff]
  · rw [render, ne_eq, Layout.declaration_eq_error_iff]
    exact profile.constructorStyle_ne_invalidLayout _ fault
  · rw [validate, validate,
      Profile.baseCount_congr fun flag hflag => hagree flag (List.mem_append_right _ hflag),
      Profile.constructorStyle_congr fun flag hflag => hagree flag (List.mem_append_left _ hflag)]

end Renderer

end TypeProfile
