import TypeProfile.Proofs.Declaration.Recovery
import TypeProfile.Proofs.Text.Occurrence

/-!
# Marks in a declaration

Each member has a mark that a declaration holds if and only if it declares the member, whatever
usable names and indentation it is written with. Likewise the keyword of a base follows a colon or a
comma if and only if there is such a base.
-/

namespace TypeProfile

/-- A character that neither an identifier nor an indentation holds. -/
def Text.punctuates (c : Char) : Bool :=
  !continuesIdentifier c && !indents c

namespace Text

theorem filter_punctuates_identifier {text : String} (hidentifier : isIdentifier text = true) :
    text.toList.filter punctuates = [] := by
  rw [List.filter_eq_nil_iff]
  intro c hc
  simp [punctuates, continues_of_mem_identifier hidentifier c hc]

theorem filter_punctuates_indentation {text : List Char} (hindents : ∀ c ∈ text, indents c = true) :
    text.filter punctuates = [] := by
  rw [List.filter_eq_nil_iff]
  intro c hc
  simp [punctuates, hindents c hc]

end Text

namespace Member

/-- What only the line of this member holds. -/
def mark : Member → String
  | constructor .userProvided => "() \x7b\x7d"
  | constructor .inherited => "::"
  | constructor .explicit => " = default;"
  | virtualFunction => "virtual f();"
  | initializedData => "int a = 0;"
  | referenceData => "int& b;"

/-- The line of a member without its names and blanks. -/
def punctuation : Member → List Char
  | constructor .userProvided => ['(', ')', '\x7b', '\x7d']
  | constructor .inherited => [':', ':', ';']
  | constructor .explicit => ['(', ')', '=', ';']
  | virtualFunction => ['(', ')', ';']
  | initializedData => ['=', ';']
  | referenceData => ['&', ';']

theorem mark_ne_nil (member : Member) : member.mark.toList ≠ [] := by
  cases member with
  | constructor style => cases style <;> decide
  | _ => decide

theorem lineBreak_notMem_mark (member : Member) : '\n' ∉ member.mark.toList := by
  cases member with
  | constructor style => cases style <;> decide
  | _ => decide

/-- Punctuation tells all members apart but the two that have an equals sign. -/
theorem eq_or_assigns {member other : Member}
    (hoccurs : member.mark.toList.filter Text.punctuates <:+: other.punctuation) :
    other = member ∨ member = .constructor .explicit ∧ other = .initializedData ∨
      member = .initializedData ∧ other = .constructor .explicit := by
  revert hoccurs
  rcases member with (_ | _ | _) | _ | _ | _ <;> rcases other with (_ | _ | _) | _ | _ | _ <;>
    decide

end Member

namespace Base

theorem keyword_prefix_text_iff (inheritance : Inheritance) (base : Base) :
    (inheritance.keyword ++ " ").toList <+: base.text.toList ↔ base.inheritance = inheritance := by
  have hword : (inheritance.keyword ++ " ").toList = inheritance.keyword.toList ++ [' '] := by simp
  rw [hword, toList_text]
  constructor
  · rintro ⟨rest, hsame⟩
    rw [List.append_assoc] at hsame
    have hkeyword := (Text.append_inj_of_head? inheritance.continues_of_mem_keyword
      (by rintro c ⟨⟩; rfl) base.inheritance.continues_of_mem_keyword (by rintro c ⟨⟩; rfl)
      hsame).1
    exact (Inheritance.keyword_injective (String.toList_injective hkeyword)).symm
  · rintro rfl
    exact ⟨base.name.toList, by simp⟩

end Base

namespace Layout

variable {layout : Layout} (husable : layout.Usable)

include husable

theorem filter_memberLine (member : Member) :
    (layout.memberLine member).toList.filter Text.punctuates = member.punctuation := by
  have hindent := Text.filter_punctuates_indentation (indents_of_mem_indent husable)
  have hname := Text.filter_punctuates_identifier husable.structName
  have hbase := Text.filter_punctuates_identifier (isIdentifier_baseName husable 1)
  rw [toList_memberLine, List.filter_append, hindent, List.nil_append]
  cases member with
  | constructor style =>
      cases style <;>
        simp only [Member.text, String.toList_append, List.filter_append, hname, hbase] <;> decide
  | _ =>
      rw [Member.text]
      decide

theorem mem_punctuation_of_mem_memberLine {member : Member} {c : Char}
    (hmem : c ∈ (layout.memberLine member).toList) (hpunctuates : Text.punctuates c = true) :
    c ∈ member.punctuation := by
  rw [← filter_memberLine husable]
  exact List.mem_filter.mpr ⟨hmem, hpunctuates⟩

omit husable in
theorem toList_explicitLine :
    (layout.memberLine (.constructor .explicit)).toList =
      (layout.indent ++ "explicit " ++ layout.structName ++ "() ").toList ++
        '=' :: " default;".toList := by
  simp [memberLine, Member.text]

omit husable in
theorem toList_initializedLine :
    (layout.memberLine .initializedData).toList =
      (layout.indent ++ "int a ").toList ++ '=' :: " 0;".toList := by
  simp [memberLine, Member.text]

theorem notMem_indent {c : Char} (hc : Text.indents c = false) : c ∉ layout.indent.toList := by
  intro hmem
  rw [indents_of_mem_indent husable c hmem] at hc
  cases hc

/-- A mark occurs in the line of its member alone. -/
theorem mark_infix_memberLine_iff (member other : Member) :
    member.mark.toList <:+: (layout.memberLine other).toList ↔ other = member := by
  constructor
  · intro hoccurs
    have hfilter := hoccurs.filter Text.punctuates
    rw [filter_memberLine husable] at hfilter
    rcases Member.eq_or_assigns hfilter with hsame | ⟨rfl, rfl⟩ | ⟨rfl, rfl⟩
    · exact hsame
    -- What stands behind the equals sign tells these two apart.
    · have hassigned : '=' :: " default;".toList <:+: (layout.memberLine .initializedData).toList :=
        List.IsInfix.trans ⟨[' '], [], by decide⟩ hoccurs
      have hfront : '=' ∉ (layout.indent ++ "int a ").toList := by
        simp [notMem_indent husable (c := '=') (by decide)]
      rw [toList_initializedLine, Text.cons_infix_append_cons_iff hfront] at hassigned
      revert hassigned
      decide
    · have hassigned : '=' :: " 0;".toList <:+:
          (layout.memberLine (.constructor .explicit)).toList :=
        List.IsInfix.trans ⟨"int a ".toList, [], by decide⟩ hoccurs
      have hfront : '=' ∉ (layout.indent ++ "explicit " ++ layout.structName ++ "() ").toList := by
        simp [notMem_indent husable (c := '=') (by decide),
          Text.notMem_identifier husable.structName (c := '=') (by decide)]
      rw [toList_explicitLine, Text.cons_infix_append_cons_iff hfront] at hassigned
      revert hassigned
      decide
  · rintro rfl
    rw [toList_memberLine]
    refine List.IsInfix.trans ?_ List.infix_append_right
    cases other with
    | constructor style =>
        cases style with
        | userProvided =>
            exact ⟨layout.structName.toList, [], by simp [Member.mark, Member.text]⟩
        | inherited =>
            exact ⟨("using " ++ layout.baseName 1).toList, (layout.baseName 1 ++ ";").toList,
              by simp [Member.mark, Member.text]⟩
        | explicit =>
            exact ⟨("explicit " ++ layout.structName ++ "()").toList, [],
              by simp [Member.mark, Member.text]⟩
    | _ => exact List.infix_rfl

/-! ## The heading -/

omit husable in
theorem toList_heading_cons {profile : Profile} {base : Base} {more : List Base}
    (hbases : layout.bases profile = base :: more) :
    (layout.heading profile).toList = ("struct " ++ layout.structName ++ " ").toList ++
      ':' :: ' ' :: [',', ' '].intercalate ((base :: more).map fun base => base.text.toList) := by
  rw [toList_heading, hbases]
  simp [inheritanceClause]

/-- Of punctuation, the texts of bases with commas between them hold no more than the commas. -/
theorem eq_comma_of_mem_bases {profile : Profile} {bases : List Base}
    (hbases : layout.bases profile = bases) {c : Char}
    (hmem : c ∈ [',', ' '].intercalate (bases.map fun base => base.text.toList))
    (hpunctuates : Text.punctuates c = true) : c = ',' := by
  subst hbases
  rcases Text.mem_of_mem_intercalate hmem with hseparator | ⟨text, htext, hc⟩
  · rcases List.mem_pair.mp hseparator with rfl | rfl
    · rfl
    · cases hpunctuates
  · obtain ⟨base, hbase, rfl⟩ := List.mem_map.mp htext
    have hname := isIdentifier_of_mem_bases husable hbase
    rcases Base.continues_or_blank_of_mem_text hname c hc with hcontinues | rfl
    · simp [Text.punctuates, hcontinues] at hpunctuates
    · cases hpunctuates

/-- Of punctuation, a heading holds a colon and commas only. -/
theorem eq_colon_or_comma_of_mem_heading {profile : Profile} {c : Char}
    (hmem : c ∈ (layout.heading profile).toList) (hpunctuates : Text.punctuates c = true) :
    c = ':' ∨ c = ',' := by
  have hword : "struct ".toList.filter Text.punctuates = [] := by decide
  rw [toList_heading, List.mem_append, List.mem_append] at hmem
  rcases hmem with hmem | hmem | hmem
  · exact absurd hpunctuates (List.filter_eq_nil_iff.mp hword c hmem)
  · have hcontinues := Text.continues_of_mem_identifier husable.structName c hmem
    simp [Text.punctuates, hcontinues] at hpunctuates
  · cases hbases : layout.bases profile with
    | nil =>
        rw [hbases] at hmem
        cases hmem
    | cons base more =>
        rw [hbases] at hmem
        simp only [inheritanceClause, List.mem_cons] at hmem
        rcases hmem with rfl | rfl | rfl | hmem
        · cases hpunctuates
        · exact .inl rfl
        · cases hpunctuates
        · exact .inr (eq_comma_of_mem_bases husable hbases hmem hpunctuates)

theorem colon_infix_heading_iff {profile : Profile} {mark : List Char} :
    ':' :: mark <:+: (layout.heading profile).toList ↔ layout.bases profile ≠ [] ∧
      mark <+: ' ' :: [',', ' '].intercalate
        ((layout.bases profile).map fun base => base.text.toList) := by
  have hname := Text.notMem_identifier husable.structName (c := ':') (by decide)
  cases hbases : layout.bases profile with
  | nil =>
      have hheading : ':' ∉ (layout.heading profile).toList := by
        rw [toList_heading, hbases]
        simp [inheritanceClause, hname]
      simpa using fun hoccurs : ':' :: mark <:+: (layout.heading profile).toList =>
        hheading (hoccurs.mem List.mem_cons_self)
  | cons base more =>
      have hfront : ':' ∉ ("struct " ++ layout.structName ++ " ").toList := by simp [hname]
      have hback : ':' ∉
          ' ' :: [',', ' '].intercalate ((base :: more).map fun base => base.text.toList) := by
        intro hmem
        rcases List.mem_cons.mp hmem with hblank | hmem
        · cases hblank
        · cases eq_comma_of_mem_bases husable hbases hmem (by decide)
      rw [toList_heading_cons hbases, Text.cons_infix_append_cons_iff hfront]
      constructor
      · rintro (hbegins | hoccurs)
        · exact ⟨List.cons_ne_nil _ _, hbegins⟩
        · exact absurd (hoccurs.mem List.mem_cons_self) hback
      · exact fun hbegins => .inl hbegins.2

theorem comma_infix_heading_iff {profile : Profile} {mark : List Char} (hmark : ',' ∉ mark) :
    ',' :: mark <:+: (layout.heading profile).toList ↔
      ∃ base ∈ (layout.bases profile).tail, mark <+: ' ' :: base.text.toList := by
  have hname := Text.notMem_identifier husable.structName (c := ',') (by decide)
  have hbases := comma_notMem_text husable profile
  have hheading : (layout.heading profile).toList = ("struct " ++ layout.structName).toList ++
      inheritanceClause (layout.bases profile) := by
    simp [toList_heading]
  have hfront : ',' ∉ ("struct " ++ layout.structName).toList := by simp [hname]
  rw [hheading, Text.cons_infix_append_iff hfront]
  generalize layout.bases profile = bases at hbases ⊢
  cases bases with
  | nil => simp [inheritanceClause]
  | cons base more =>
      have hclause : inheritanceClause (base :: more) = [' ', ':', ' '] ++
          [','].intercalate (base.text.toList :: more.map fun base => ' ' :: base.text.toList) := by
        rw [inheritanceClause, List.map_cons, Text.intercalate_cons, List.map_map]
        rfl
      have hparts : ∀ part ∈ base.text.toList :: more.map (fun base => ' ' :: base.text.toList),
          ',' ∉ part := by
        simpa using hbases
      rw [hclause, Text.cons_infix_append_iff (by decide),
        Text.cons_infix_intercalate_iff hmark hparts]
      simp

theorem mark_notInfix_heading (profile : Profile) (member : Member) :
    ¬member.mark.toList <:+: (layout.heading profile).toList := by
  intro hoccurs
  have hnone {c : Char} (hmark : c ∈ member.mark.toList) (hpunctuates : Text.punctuates c = true)
      (hother : ¬(c = ':' ∨ c = ',')) : False :=
    hother (eq_colon_or_comma_of_mem_heading husable (hoccurs.mem hmark) hpunctuates)
  cases member with
  | constructor style =>
      cases style with
      | userProvided => exact hnone (c := '(') (by decide) (by decide) (by decide)
      | inherited =>
          obtain ⟨-, hbegins⟩ := (colon_infix_heading_iff husable).mp hoccurs
          obtain ⟨hblank, -⟩ := List.cons_prefix_cons.mp hbegins
          cases hblank
      | explicit => exact hnone (c := '=') (by decide) (by decide) (by decide)
  | virtualFunction => exact hnone (c := '(') (by decide) (by decide) (by decide)
  | initializedData => exact hnone (c := '=') (by decide) (by decide) (by decide)
  | referenceData => exact hnone (c := '&') (by decide) (by decide) (by decide)

/-- The keyword of a base stands behind the colon, or behind a comma. -/
theorem keyword_infix_heading_iff (profile : Profile) (inheritance : Inheritance) :
    ':' :: ' ' :: (inheritance.keyword ++ " ").toList <:+: (layout.heading profile).toList ∨
        ',' :: ' ' :: (inheritance.keyword ++ " ").toList <:+: (layout.heading profile).toList ↔
      profile.get inheritance.flag = true := by
  have hword : ',' ∉ (inheritance.keyword ++ " ").toList := by cases inheritance <;> decide
  have hmem : profile.get inheritance.flag = true ↔
      ∃ base ∈ layout.bases profile, base.inheritance = inheritance := by
    have hall : inheritance ∈ Inheritance.all := by cases inheritance <;> decide
    rw [← List.mem_map, map_inheritance_bases, List.mem_filter]
    simp [hall]
  rw [colon_infix_heading_iff husable, comma_infix_heading_iff husable (by simpa using hword),
    hmem]
  generalize layout.bases profile = bases
  cases bases with
  | nil => simp
  | cons base more =>
      rw [List.map_cons, Text.intercalate_cons]
      simp only [ne_eq, List.cons_prefix_cons, Text.prefix_intercalate_iff hword,
        Base.keyword_prefix_text_iff, List.tail_cons, List.exists_mem_cons_iff]
      simp

/-- In a member line no blank follows a colon. -/
theorem colonBlank_notInfix_memberLine (member : Member) (mark : List Char) :
    ¬ ':' :: ' ' :: mark <:+: (layout.memberLine member).toList := by
  intro hoccurs
  have hcolon := mem_punctuation_of_mem_memberLine husable (hoccurs.mem List.mem_cons_self)
    (by decide)
  have hmember : member = .constructor .inherited := by
    revert hcolon
    rcases member with (_ | _ | _) | _ | _ | _ <;> decide
  have hline : (layout.memberLine (.constructor .inherited)).toList =
      (layout.indent ++ "using " ++ layout.baseName 1).toList ++
        ':' :: ':' :: (layout.baseName 1 ++ ";").toList := by
    simp [memberLine, Member.text]
  have hname := isIdentifier_baseName husable 1
  have hcolonName := Text.notMem_identifier hname (c := ':') (by decide)
  have hfront : ':' ∉ (layout.indent ++ "using " ++ layout.baseName 1).toList := by
    simp [notMem_indent husable (c := ':') (by decide), hcolonName]
  subst hmember
  rw [hline, Text.cons_infix_append_cons_iff hfront, List.cons_prefix_cons, List.infix_cons_iff,
    List.cons_prefix_cons] at hoccurs
  rcases hoccurs with ⟨hblank, -⟩ | ⟨-, hbegins⟩ | hoccurs
  · cases hblank
  · obtain ⟨first, rest, htext, hstarts⟩ := Text.exists_cons_of_isIdentifier hname
    rw [String.toList_append, htext] at hbegins
    obtain ⟨rfl, -⟩ := List.cons_prefix_cons.mp hbegins
    cases hstarts
  · have hmem := hoccurs.mem List.mem_cons_self
    simp [hcolonName] at hmem

theorem comma_notMem_memberLine (member : Member) : ',' ∉ (layout.memberLine member).toList := by
  intro hcomma
  have hmem := mem_punctuation_of_mem_memberLine husable hcomma (by decide)
  revert hmem
  rcases member with (_ | _ | _) | _ | _ | _ <;> decide

/-! ## The whole text -/

omit husable

theorem exists_mem_lines_iff (layout : Layout) (profile : Profile) (holds : String → Prop) :
    (∃ line ∈ layout.lines profile, holds line) ↔
      holds (layout.heading profile) ∨ holds "\x7b" ∨
        (∃ member ∈ profile.members, holds (layout.memberLine member)) ∨ holds "\x7d;" := by
  simp [lines, or_and_right, exists_or]

theorem exists_mem_lines_iff_heading {layout : Layout} {profile : Profile} {holds : String → Prop}
    (hopen : ¬holds "\x7b") (hclose : ¬holds "\x7d;")
    (hmembers : ∀ member, ¬holds (layout.memberLine member)) :
    (∃ line ∈ layout.lines profile, holds line) ↔ holds (layout.heading profile) := by
  rw [exists_mem_lines_iff]
  simp [hopen, hclose, hmembers]

/-- A mark within one line occurs in a declaration if it occurs in one of its lines. -/
theorem contains_iff_of_declaration {profile : Profile} {text mark : String}
    (hdeclaration : layout.declaration profile = .ok text) (hmark : mark.toList ≠ [])
    (hline : '\n' ∉ mark.toList) :
    text.contains mark = true ↔ ∃ line ∈ layout.lines profile, mark.toList <:+: line.toList := by
  obtain ⟨-, rfl⟩ := (declaration_eq_ok_iff _ _ _).mp hdeclaration
  have hbreak : "\n".toList = ['\n'] := by decide
  rw [String.contains_string_iff, String.toList_intercalate, hbreak,
    Text.infix_intercalate_iff hmark hline]
  simp

include husable

/-- A declaration holds the mark of a member if and only if it declares the member. -/
theorem contains_mark_iff {profile : Profile} {text : String}
    (hdeclaration : layout.declaration profile = .ok text) (member : Member) :
    text.contains member.mark = true ↔ profile.get member.flag = true := by
  have hbraces : ¬member.mark.toList <:+: "\x7b".toList ∧
      ¬member.mark.toList <:+: "\x7d;".toList := by
    rcases member with (_ | _ | _) | _ | _ | _ <;> decide
  rw [contains_iff_of_declaration hdeclaration member.mark_ne_nil member.lineBreak_notMem_mark,
    exists_mem_lines_iff]
  simp only [mark_notInfix_heading husable, hbraces.1, hbraces.2, false_or, or_false,
    mark_infix_memberLine_iff husable, exists_eq_right, Profile.mem_members_iff]

/-- A declaration names a base with a keyword if and only if the attribute of the keyword is on. -/
theorem contains_keyword_iff {profile : Profile} {text : String}
    (hdeclaration : layout.declaration profile = .ok text) (inheritance : Inheritance) :
    text.contains (": " ++ inheritance.keyword ++ " ") = true ∨
        text.contains (", " ++ inheritance.keyword ++ " ") = true ↔
      profile.get inheritance.flag = true := by
  have hcolon : (": " ++ inheritance.keyword ++ " ").toList =
      ':' :: ' ' :: (inheritance.keyword ++ " ").toList := by
    simp
  have hcomma : (", " ++ inheritance.keyword ++ " ").toList =
      ',' :: ' ' :: (inheritance.keyword ++ " ").toList := by
    simp
  have hword : '\n' ∉ (inheritance.keyword ++ " ").toList := by cases inheritance <;> decide
  have hnone {c : Char} {mark text : List Char} (hc : c ∉ text) : ¬c :: mark <:+: text :=
    fun hoccurs => hc (hoccurs.mem List.mem_cons_self)
  rw [← keyword_infix_heading_iff husable]
  apply or_congr
  · rw [contains_iff_of_declaration hdeclaration (by simp) (by simpa using hword), hcolon]
    exact exists_mem_lines_iff_heading (hnone (by decide)) (hnone (by decide))
      fun member => colonBlank_notInfix_memberLine husable member _
  · rw [contains_iff_of_declaration hdeclaration (by simp) (by simpa using hword), hcomma]
    exact exists_mem_lines_iff_heading (hnone (by decide)) (hnone (by decide))
      fun member => hnone (comma_notMem_memberLine husable member)

end Layout

end TypeProfile
