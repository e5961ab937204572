import TypeProfile.Proofs.Declaration.Mark
import TypeProfile.Proofs.Verdict

/-!
# Verdicts and declarations agree

The verdicts on a class and its declaration are drawn from one profile in different ways. What a
verdict rules out, the declaration does not show.
-/

namespace TypeProfile

namespace Profile

variable {profile : Profile}

/-- An aggregate asks for no default constructor of its own. -/
theorem constructorStyles_of_aggregate (hclass : profile.typeClass = .classType)
    (haggregate : profile.verdict.isAggregate = true) : profile.constructorStyles = [] := by
  have hoff := (isAggregate_verdict_iff hclass).mp haggregate
  rw [constructorStyles, List.filter_eq_nil_iff]
  intro style _
  rw [Bool.not_eq_true]
  cases style with
  | userProvided => exact hoff .userProvidedConstructor _ (by decide)
  | inherited => exact hoff .inheritedConstructor _ (by decide)
  | explicit => exact hoff .explicitConstructor _ (by decide)

/-- Of all members, an aggregate declares data members at most. -/
theorem members_of_aggregate (hclass : profile.typeClass = .classType)
    (haggregate : profile.verdict.isAggregate = true) :
    profile.members.Sublist [.initializedData, .referenceData] := by
  have hvirtual := (isAggregate_verdict_iff hclass).mp haggregate .virtualFunction .virtualFunction
    (by decide)
  rw [members_eq, constructorStyles_of_aggregate hclass haggregate, hvirtual]
  cases profile.get .memberInitializer <;> cases profile.get .initializerNeedyMember <;> decide

end Profile

namespace Layout

/-- An aggregate inherits from nothing, or from one public base. -/
theorem bases_of_aggregate (layout : Layout) {profile : Profile}
    (hclass : profile.typeClass = .classType) (haggregate : profile.verdict.isAggregate = true) :
    layout.bases profile = [] ∨ layout.bases profile = [⟨.viaPublic, layout.baseName 1⟩] := by
  have hoff := (Profile.isAggregate_verdict_iff hclass).mp haggregate .restrictedBase
  have hprivate := hoff .privateBase (by decide)
  have hprotected := hoff .protectedBase (by decide)
  have hvirtual := hoff .virtualBase (by decide)
  cases hpublic : profile.get .publicBase <;>
    simp [bases, Inheritance.all, Inheritance.flag, hpublic, hprivate, hprotected, hvirtual]

theorem heading_of_aggregate (layout : Layout) {profile : Profile}
    (hclass : profile.typeClass = .classType) (haggregate : profile.verdict.isAggregate = true) :
    ∃ clause, (clause = "" ∨ clause = " : public " ++ layout.basePrefix ++ "1") ∧
      layout.heading profile = "struct " ++ layout.structName ++ clause := by
  have hnumber : Nat.repr 1 = "1" := by decide
  rcases layout.bases_of_aggregate hclass haggregate with hbases | hbases
  · refine ⟨"", .inl rfl, String.toList_injective ?_⟩
    rw [toList_heading, hbases]
    simp [inheritanceClause]
  · refine ⟨_, .inr rfl, String.toList_injective ?_⟩
    rw [toList_heading, hbases]
    simp [inheritanceClause, Base.text, Inheritance.keyword, baseName, hnumber]

end Layout

namespace Renderer

/-- The verdicts on a class and its declaration tell the same story. An aggregate is declared with
at most one public base and with data members only. What is constructed without any work shows
nothing that would be work; the keyword of a base would stand behind a colon or a comma. A reference
without initializer is declared only where there is no default construction. -/
theorem render_agrees_with_verdicts (renderer : Renderer) {profile : Profile}
    (hclass : profile.typeClass = .classType) :
    (profile.verdict.isAggregate = true → ∃ (clause : String) (members : List String),
      renderer.render profile = .ok ("\n".intercalate
        (("struct " ++ renderer.layout.structName ++ clause) :: "\x7b" ::
          (members.map (renderer.layout.indent ++ ·) ++ ["\x7d;"]))) ∧
        (clause = "" ∨ clause = " : public " ++ renderer.layout.basePrefix ++ "1") ∧
        members.Sublist ["int a = 0;", "int& b;"]) ∧
      (∀ text, profile.isTriviallyDefaultConstructible = true → renderer.render profile = .ok text →
        ∀ mark ∈ ["() \x7b\x7d", "virtual f();", "int a = 0;", "int& b;", ": virtual ",
            ", virtual "],
          text.contains mark = false) ∧
      ∀ text, renderer.render profile = .ok text → text.contains "int& b;" = true →
        profile.isDefaultConstructible = false := by
  refine ⟨fun haggregate => ?_, fun text htrivial hrender mark hmark => ?_,
    fun text hrender hreference => ?_⟩
  · obtain ⟨clause, hclause, hheading⟩ :=
      renderer.layout.heading_of_aggregate hclass haggregate
    have hmembers := Profile.members_of_aggregate hclass haggregate
    have hstyles := Profile.constructorStyles_of_aggregate hclass haggregate
    refine ⟨clause, profile.members.map (Member.text renderer.layout), ?_, hclause,
      hmembers.map (Member.text renderer.layout)⟩
    refine (Layout.declaration_eq_ok_iff _ _ _).mpr ⟨⟨none, ?_⟩, ?_⟩
    · rw [Profile.constructorStyle, hstyles]
    · rw [Layout.lines, hheading, List.map_map]
      rfl
  · obtain ⟨hconstructible, hoff⟩ := Profile.isTriviallyDefaultConstructible_iff.mp htrivial
    have hneedy := (Profile.isDefaultConstructible_iff hclass).mp hconstructible
    have hmember (member : Member) (hflag : profile.get member.flag = false) :
        text.contains member.mark = false := by
      rw [← Bool.not_eq_true, Layout.contains_mark_iff renderer.usable hrender, hflag]
      exact Bool.false_ne_true
    have hvirtual := (Layout.contains_keyword_iff renderer.usable hrender .viaVirtual).not.mpr
      (by simp [Inheritance.flag, hoff])
    simp only [List.mem_cons, List.not_mem_nil, or_false] at hmark
    rcases hmark with rfl | rfl | rfl | rfl | rfl | rfl
    · exact hmember (.constructor .userProvided) (hoff _ (by decide))
    · exact hmember .virtualFunction (hoff _ (by decide))
    · exact hmember .initializedData (hoff _ (by decide))
    · exact hmember .referenceData (hneedy _ (by decide))
    · exact Bool.eq_false_iff.mpr fun hcolon => hvirtual (.inl hcolon)
    · exact Bool.eq_false_iff.mpr fun hcomma => hvirtual (.inr hcomma)
  · have hneedy := (Layout.contains_mark_iff renderer.usable hrender .referenceData).mp hreference
    rw [← Bool.not_eq_true, Profile.isDefaultConstructible_iff hclass]
    intro hoff
    rw [hoff _ (by decide)] at hneedy
    cases hneedy

/-- An aggregate with a reference member, and a class with a private base and an explicit
constructor that takes no work, both under names that are keywords. -/
theorem render_keyworded_verdicts :
    let renderer := keyworded "virtual" (by decide)
    let aggregate := (Profile.ofTypeClass .classType).insertMany
      [.publicBase, .memberInitializer, .initializerNeedyMember]
    let effortless := (Profile.ofTypeClass .classType).insertMany
      [.privateBase, .explicitDefaultConstructor]
    (aggregate.typeClass = .classType ∧ ∃ (clause : String) (members : List String),
      renderer.render aggregate = .ok ("\n".intercalate (("struct virtual" ++ clause) :: "\x7b" ::
        (members.map ("" ++ ·) ++ ["\x7d;"]))) ∧
        (clause = "" ∨ clause = " : public virtual1") ∧
        members.Sublist ["int a = 0;", "int& b;"]) ∧
      (effortless.typeClass = .classType ∧
        ∀ mark ∈ ["() \x7b\x7d", "virtual f();", "int a = 0;", "int& b;", ": virtual ",
            ", virtual "],
          ("struct virtual : private virtual1\n\x7b\n" ++
            "explicit virtual() = default;\n\x7d;").contains mark = false) ∧
      aggregate.isDefaultConstructible = false := by
  intro renderer aggregate effortless
  have hclass : aggregate.typeClass = .classType := by decide
  have hclass' : effortless.typeClass = .classType := by decide
  have hrender : renderer.render aggregate = .ok
      "struct virtual : public virtual1\n\x7b\nint a = 0;\nint& b;\n\x7d;" := by decide
  have hrender' : renderer.render effortless = .ok
      "struct virtual : private virtual1\n\x7b\nexplicit virtual() = default;\n\x7d;" := by decide
  obtain ⟨haggregate, -, hneedy⟩ := renderer.render_agrees_with_verdicts hclass
  obtain ⟨-, heffortless, -⟩ := renderer.render_agrees_with_verdicts hclass'
  refine ⟨⟨hclass, haggregate (by decide)⟩, ⟨hclass', heffortless _ (by decide) hrender'⟩, ?_⟩
  exact hneedy _ hrender (String.contains_string_iff.mpr (by decide))

end Renderer

end TypeProfile
