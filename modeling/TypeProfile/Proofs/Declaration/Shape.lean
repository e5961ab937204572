import TypeProfile.Proofs.Declaration.Mark

/-!
# The shape of a declaration

What a reader sees of a declaration without knowing the layout: which marks it holds, how many bases
its commas set apart, how many lines it has, and how it begins and ends. All of this is decided by
the attributes that are on, whatever usable names and indentation it is written with.
-/

namespace TypeProfile

namespace Profile

theorem length_members (profile : Profile) :
    profile.members.length = Member.all.countP fun member => profile.get member.flag :=
  List.countP_eq_length_filter.symm

end Profile

namespace Layout

variable {layout : Layout} {profile : Profile} {text : String}

theorem length_lines (layout : Layout) (profile : Profile) :
    (layout.lines profile).length = 3 + profile.members.length := by
  simp only [lines, List.length_cons, List.length_append, List.length_map, List.length_nil]
  omega

section Usable

variable (husable : layout.Usable) (hdeclaration : layout.declaration profile = .ok text)

include husable hdeclaration

/-- No line holds a break of its own, so the breaks set apart what was written as lines. -/
theorem splitOn_declaration : text.toList.splitOn '\n' = (layout.lines profile).map String.toList := by
  obtain ⟨-, rfl⟩ := (declaration_eq_ok_iff _ _ _).mp hdeclaration
  rw [String.toList_intercalate]
  apply List.splitOn_intercalate
  · intro line hline
    obtain ⟨source, hsource, rfl⟩ := List.mem_map.mp hline
    exact lineBreak_notMem_lines husable profile source hsource
  · simp [lines]

/-- Commas stand in the heading only. -/
theorem exists_heading_append :
    ∃ body, text.toList = (layout.heading profile).toList ++ body ∧ ',' ∉ body := by
  obtain ⟨-, rfl⟩ := (declaration_eq_ok_iff _ _ _).mp hdeclaration
  let rest := "\x7b" :: (profile.members.map layout.memberLine ++ ["\x7d;"])
  have hlines : (layout.lines profile).map String.toList =
      (layout.heading profile).toList :: rest.map String.toList := rfl
  refine ⟨'\n' :: ['\n'].intercalate (rest.map String.toList), ?_, fun hcomma => ?_⟩
  · rw [String.toList_intercalate, hlines, List.map_cons, List.intercalate_cons_cons,
      List.append_assoc]
    rfl
  · have hmem : ',' ∈ ['\n'].intercalate (rest.map String.toList) :=
      (List.mem_cons.mp hcomma).resolve_left (by decide)
    rcases Text.mem_of_mem_intercalate hmem with hbreak | ⟨line, hline, hc⟩
    · revert hbreak
      decide
    · simp only [rest, List.map_cons, List.map_append, List.map_map, List.mem_cons,
        List.mem_append, List.mem_map, List.map_nil, List.not_mem_nil, or_false] at hline
      rcases hline with rfl | ⟨member, -, rfl⟩ | rfl
      · revert hc
        decide
      · exact comma_notMem_memberLine husable member hc
      · revert hc
        decide

/-- A comma with a blank stands between any two bases and nowhere else. -/
theorem occurrences_comma :
    Text.occurrences ", ".toList text.toList = profile.baseCount - 1 := by
  have hcomma : ", ".toList = [',', ' '] := rfl
  have hname := Text.notMem_identifier husable.structName (c := ',') (by decide)
  obtain ⟨body, htext, hbody⟩ := exists_heading_append husable hdeclaration
  rw [htext, hcomma, ← length_bases layout]
  cases hbases : layout.bases profile with
  | nil =>
      have hheading : ',' ∉ (layout.heading profile).toList := by
        rw [toList_heading, hbases]
        simp [inheritanceClause, hname]
      rw [Text.occurrences_append_of_notMem hheading]
      exact Text.occurrences_eq_zero hbody
  | cons base more =>
      have hfree := comma_notMem_text husable profile
      rw [hbases, List.map_cons] at hfree
      have hfront : ',' ∉ ("struct " ++ layout.structName ++ " : ").toList := by simp [hname]
      have hheading : (layout.heading profile).toList =
          ("struct " ++ layout.structName ++ " : ").toList ++
            [',', ' '].intercalate ((base :: more).map fun base => base.text.toList) := by
        simp [toList_heading_cons hbases]
      rw [hheading, List.append_assoc, Text.occurrences_append_of_notMem hfront, List.map_cons,
        Text.occurrences_intercalate (by decide) hfree hbody, List.length_map, List.length_cons,
        Nat.add_sub_cancel]

/-- A colon between blanks opens the base clause. -/
theorem contains_colon_iff :
    text.contains " : " = true ↔ ∃ flag ∈ Attribute.bases, profile.get flag = true := by
  have hcolon : " : ".toList = [' ', ':', ' '] := rfl
  have hcut {line : List Char} (hoccurs : [' ', ':', ' '] <:+: line) : [':', ' '] <:+: line :=
    List.IsInfix.trans ⟨[' '], [], rfl⟩ hoccurs
  have hbases : layout.bases profile ≠ [] ↔ ∃ flag ∈ Attribute.bases, profile.get flag = true := by
    rw [ne_eq, bases_eq_nil_iff]
    simp
  rw [contains_iff_of_declaration hdeclaration (by decide) (by decide), hcolon, ← hbases,
    exists_mem_lines_iff_heading (by decide) (by decide)
      fun member => mt hcut (colonBlank_notInfix_memberLine husable member [])]
  constructor
  · intro hoccurs
    exact ((colon_infix_heading_iff husable).mp (hcut hoccurs)).1
  · intro hany
    obtain ⟨base, more, hcons⟩ := List.exists_cons_of_ne_nil hany
    have hfront : ("struct " ++ layout.structName ++ " ").toList =
        ("struct " ++ layout.structName).toList ++ [' '] := by simp
    rw [toList_heading_cons hcons, hfront]
    exact ⟨("struct " ++ layout.structName).toList, _, by simp only [List.append_assoc]; rfl⟩

omit husable in
theorem exists_struct_append :
    ∃ body, text = "struct " ++ layout.structName ++ body ++ "\x7d;" := by
  obtain ⟨-, rfl⟩ := (declaration_eq_ok_iff _ _ _).mp hdeclaration
  have hlines : layout.lines profile =
      (layout.heading profile :: "\x7b" :: profile.members.map layout.memberLine) ++ ["\x7d;"] :=
    rfl
  obtain ⟨clause, hheading⟩ :
      ∃ clause, layout.heading profile = "struct " ++ layout.structName ++ clause := ⟨_, rfl⟩
  rw [hlines, ← join_append_eq_intercalate, List.map_cons, String.join_cons, hheading]
  generalize String.join _ = others
  exact ⟨clause ++ "\n" ++ others, by simp only [String.append_assoc]⟩

end Usable

end Layout

namespace Renderer

/-- Whatever the layout, a declaration holds the mark of a member if and only if the attribute of
the member is on, and likewise a colon for the bases. Its commas set the bases apart. Besides the
heading and the two lines with braces it has one line for each member. -/
theorem render_shows (renderer : Renderer) {profile : Profile} {text : String}
    (hrender : renderer.render profile = .ok text) :
    (∀ member : Member, text.contains member.mark = true ↔ profile.get member.flag = true) ∧
    (text.contains " : " = true ↔ ∃ flag ∈ Attribute.bases, profile.get flag = true) ∧
    Text.occurrences ", ".toList text.toList = profile.baseCount - 1 ∧
    (text.toList.splitOn '\n').length =
      3 + Member.all.countP (fun member => profile.get member.flag) ∧
    ∃ body, text = "struct " ++ renderer.layout.structName ++ body ++ "\x7d;" := by
  have husable := renderer.usable
  refine ⟨Layout.contains_mark_iff husable hrender, Layout.contains_colon_iff husable hrender,
    Layout.occurrences_comma husable hrender, ?_, Layout.exists_struct_append hrender⟩
  rw [Layout.splitOn_declaration husable hrender, List.length_map, Layout.length_lines,
    Profile.length_members]

/-- Three bases, an inherited constructor and all other members, under names that are keywords. -/
theorem render_keyworded_shows :
    let renderer := keyworded "using" (by decide)
    let profile := (Profile.ofTypeClass .classType).insertMany
      [.publicBase, .privateBase, .virtualBase, .inheritedDefaultConstructor, .virtualFunction,
        .memberInitializer, .initializerNeedyMember]
    let text := "struct virtual : public using1, private using2, virtual using3\n\x7b\n" ++
      "using using1::using1;\nvirtual f();\nint a = 0;\nint& b;\n\x7d;"
    renderer.render profile = .ok text ∧
      (∀ member : Member, text.contains member.mark = true ↔ profile.get member.flag = true) ∧
      (text.contains " : " = true ↔ ∃ flag ∈ Attribute.bases, profile.get flag = true) ∧
      Text.occurrences ", ".toList text.toList = 2 ∧ (text.toList.splitOn '\n').length = 7 ∧
      ∃ body, text = "struct virtual" ++ body ++ "\x7d;" := by
  intro renderer profile text
  have hrender : renderer.render profile = .ok text := by decide
  exact ⟨hrender, renderer.render_shows hrender⟩

end Renderer

end TypeProfile
