import TypeProfile.Proofs.Declaration.Line

/-!
# Reading a declaration back

With usable layouts, the text of a declaration determines the struct name, the attributes that it
shows, the base prefix where a base is named and the indentation where a member is declared. No
choice of names can make two different declarations read alike.
-/

namespace TypeProfile

namespace Layout

/-- A layout that a renderer may hold. -/
structure Usable (layout : Layout) : Prop where
  structName : Text.isIdentifier layout.structName = true
  basePrefix : Text.isIdentifier layout.basePrefix = true
  indent : Text.isIndentation layout.indent = true

theorem usable_iff_fault?_eq_none (layout : Layout) : layout.Usable ↔ layout.fault? = none := by
  rw [fault?_eq_none_iff]
  constructor
  · intro husable field
    cases field
    · exact husable.structName
    · exact husable.basePrefix
    · exact husable.indent
  · intro haccepts
    exact ⟨haccepts .structName, haccepts .basePrefix, haccepts .indent⟩

variable {layout : Layout}

theorem isIdentifier_baseName (husable : layout.Usable) (n : Nat) :
    Text.isIdentifier (layout.baseName n) = true := by
  apply Text.isIdentifier_append husable.basePrefix
  intro c hc
  rw [Nat.toList_repr] at hc
  have hdigit := Nat.isDigit_of_mem_toDigits (by decide) (by decide) hc
  simp [Text.continuesIdentifier, Char.isAlphanum, hdigit]

theorem indents_of_mem_indent (husable : layout.Usable) :
    ∀ c ∈ layout.indent.toList, Text.indents c = true :=
  List.all_eq_true.mp husable.indent

end Layout

/-! ## Bases -/

theorem Inheritance.keyword_injective {first second : Inheritance}
    (hsame : first.keyword = second.keyword) : first = second := by
  revert hsame
  cases first <;> cases second <;> decide

theorem Inheritance.continues_of_mem_keyword (inheritance : Inheritance) :
    ∀ c ∈ inheritance.keyword.toList, Text.continuesIdentifier c = true := by
  have hall : inheritance.keyword.toList.all Text.continuesIdentifier = true := by
    cases inheritance <;> decide
  exact List.all_eq_true.mp hall

namespace Base

theorem toList_text (base : Base) :
    base.text.toList = base.inheritance.keyword.toList ++ ' ' :: base.name.toList := by
  simp [text]

/-- The keyword ends at the first blank. -/
theorem text_injective {first second : Base} (hsame : first.text = second.text) :
    first = second := by
  have hlists := congrArg String.toList hsame
  rw [toList_text, toList_text] at hlists
  obtain ⟨hkeyword, hname⟩ := Text.append_inj_of_head? first.inheritance.continues_of_mem_keyword
    (by rintro c ⟨⟩; rfl) second.inheritance.continues_of_mem_keyword (by rintro c ⟨⟩; rfl) hlists
  have hinheritance := Inheritance.keyword_injective (String.toList_injective hkeyword)
  have hnames := String.toList_injective (List.cons.inj hname).2
  cases first
  cases second
  simp_all

/-- In a base with an identifier for its name there are only letters, digits, underscores and one
blank. -/
theorem continues_or_blank_of_mem_text {base : Base}
    (hname : Text.isIdentifier base.name = true) :
    ∀ c ∈ base.text.toList, Text.continuesIdentifier c = true ∨ c = ' ' := by
  intro c hc
  rw [toList_text] at hc
  rcases List.mem_append.mp hc with hc | hc
  · exact Or.inl (base.inheritance.continues_of_mem_keyword c hc)
  · rcases List.mem_cons.mp hc with rfl | hc
    · exact Or.inr rfl
    · exact Or.inl (Text.continues_of_mem_identifier hname c hc)

end Base

namespace Layout

theorem map_inheritance_bases (layout : Layout) (profile : Profile) :
    (layout.bases profile).map Base.inheritance =
      Inheritance.all.filter fun inheritance => profile.get inheritance.flag := by
  simp only [bases, List.map_map]
  exact List.zipIdx_map_fst 1 _

theorem name_of_mem_bases {layout : Layout} {profile : Profile} {base : Base}
    (hbase : base ∈ layout.bases profile) : ∃ n, base.name = layout.baseName n := by
  obtain ⟨entry, _, rfl⟩ := List.mem_map.mp hbase
  exact ⟨entry.2, rfl⟩

theorem name_of_bases_eq_cons {layout : Layout} {profile : Profile} {base : Base}
    {more : List Base} (hbases : layout.bases profile = base :: more) :
    base.name = layout.baseName 1 := by
  unfold bases at hbases
  generalize Inheritance.all.filter (fun inheritance => profile.get inheritance.flag) = shown
    at hbases
  cases shown with
  | nil => cases hbases
  | cons => cases hbases; rfl

theorem isIdentifier_of_mem_bases {layout : Layout} (husable : layout.Usable) {profile : Profile}
    {base : Base} (hbase : base ∈ layout.bases profile) :
    Text.isIdentifier base.name = true := by
  obtain ⟨n, hname⟩ := name_of_mem_bases hbase
  rw [hname]
  exact isIdentifier_baseName husable n

theorem bases_eq_nil_iff (layout : Layout) (profile : Profile) :
    layout.bases profile = [] ↔ ∀ flag ∈ Attribute.bases, profile.get flag = false := by
  rw [← List.length_eq_zero_iff, length_bases, Profile.baseCount_eq_zero_iff]

/-- The bases tell which inheritance attributes are on. -/
theorem get_eq_of_bases_eq {first second : Layout} {profile other : Profile}
    (hbases : first.bases profile = second.bases other) :
    ∀ flag ∈ Attribute.bases, profile.get flag = other.get flag := by
  have hfilters := congrArg (List.map Base.inheritance) hbases
  rw [map_inheritance_bases, map_inheritance_bases] at hfilters
  have hget (inheritance : Inheritance) :
      profile.get inheritance.flag = other.get inheritance.flag := by
    have hall : inheritance ∈ Inheritance.all := by cases inheritance <;> decide
    have hmem := congrArg (inheritance ∈ ·) hfilters
    simp only [List.mem_filter, hall, true_and, eq_iff_iff] at hmem
    exact Bool.eq_iff_iff.mpr hmem
  intro flag hflag
  rw [← Inheritance.map_flag_all] at hflag
  obtain ⟨inheritance, _, rfl⟩ := List.mem_map.mp hflag
  exact hget inheritance

/-- The bases depend on the inheritance attributes, and on the prefix if there are any. -/
theorem bases_congr {first second : Layout} {profile other : Profile}
    (hagree : ∀ flag ∈ Attribute.bases, profile.get flag = other.get flag)
    (hbasePrefix : (∃ flag ∈ Attribute.bases, profile.get flag = true) →
      first.basePrefix = second.basePrefix) :
    first.bases profile = second.bases other := by
  have hfilters : (Inheritance.all.filter fun inheritance => profile.get inheritance.flag) =
      Inheritance.all.filter fun inheritance => other.get inheritance.flag := by
    apply List.filter_congr
    intro inheritance hall
    apply hagree
    rw [← Inheritance.map_flag_all]
    exact List.mem_map_of_mem hall
  by_cases hany : ∃ flag ∈ Attribute.bases, profile.get flag = true
  · have hname : first.baseName = second.baseName := by
      funext n
      rw [baseName, baseName, hbasePrefix hany]
    rw [bases, bases, hfilters, hname]
  · have hoff : ∀ flag ∈ Attribute.bases, profile.get flag = false := by
      intro flag hflag
      exact Bool.eq_false_iff.mpr fun hon => hany ⟨flag, hflag, hon⟩
    rw [(bases_eq_nil_iff first profile).mpr hoff, (bases_eq_nil_iff second other).mpr
      fun flag hflag => (hagree flag hflag).symm.trans (hoff flag hflag)]

/-! ## The heading -/

/-- What stands in a heading after the struct name. -/
def inheritanceClause : List Base → List Char
  | [] => []
  | base :: more =>
      ' ' :: ':' :: ' ' :: [',', ' '].intercalate ((base :: more).map fun base => base.text.toList)

theorem toList_heading (layout : Layout) (profile : Profile) :
    (layout.heading profile).toList = "struct ".toList ++
      (layout.structName.toList ++ inheritanceClause (layout.bases profile)) := by
  unfold heading baseClause
  cases layout.bases profile with
  | nil => simp [inheritanceClause]
  | cons base more =>
      simp [inheritanceClause, List.map_map, Function.comp_def]

theorem head?_inheritanceClause (bases : List Base) :
    ∀ c ∈ (inheritanceClause bases).head?, Text.continuesIdentifier c = false := by
  cases bases with
  | nil => rintro c ⟨⟩
  | cons => rintro c ⟨⟩; rfl

theorem comma_notMem_text {layout : Layout} (husable : layout.Usable) (profile : Profile) :
    ∀ text ∈ (layout.bases profile).map (fun base => base.text.toList), ',' ∉ text := by
  intro text htext hcomma
  obtain ⟨base, hbase, rfl⟩ := List.mem_map.mp htext
  have hclass := Base.continues_or_blank_of_mem_text (isIdentifier_of_mem_bases husable hbase)
    ',' hcomma
  revert hclass
  decide

/-- The heading tells the struct name and the bases. -/
theorem heading_inj {first second : Layout} (hfirst : first.Usable) (hsecond : second.Usable)
    {profile other : Profile} (hsame : first.heading profile = second.heading other) :
    first.structName = second.structName ∧ first.bases profile = second.bases other := by
  have hlists := congrArg String.toList hsame
  rw [toList_heading, toList_heading] at hlists
  obtain ⟨hname, hclause⟩ := Text.append_inj_of_head?
    (Text.continues_of_mem_identifier hfirst.structName) (head?_inheritanceClause _)
    (Text.continues_of_mem_identifier hsecond.structName) (head?_inheritanceClause _)
    (List.append_cancel_left hlists)
  refine ⟨String.toList_injective hname, ?_⟩
  -- Each text of a base is free of commas, so the commas tell the bases apart.
  have hfree := comma_notMem_text hfirst profile
  have hfree' := comma_notMem_text hsecond other
  generalize first.bases profile = bases at hclause hfree ⊢
  generalize second.bases other = bases' at hclause hfree' ⊢
  match bases, bases' with
  | [], [] => rfl
  | [], _ :: _ => cases hclause
  | _ :: _, [] => cases hclause
  | base :: more, base' :: more' =>
      simp only [inheritanceClause, List.cons.injEq, true_and] at hclause
      have htexts : (base :: more).map (fun base => base.text.toList) =
          (base' :: more').map (fun base => base.text.toList) :=
        Text.intercalate_cons_inj (by decide) hfree hfree' hclause
      refine (List.map_inj_right fun _ _ heq => ?_).mp htexts
      exact Base.text_injective (String.toList_injective heq)

end Layout

/-! ## Members -/

namespace Member

/-- Which member the line of a member declares, told from its first and last characters. -/
def ofLine (line : List Char) : Option Member :=
  if line.getLast? = some '\x7d' then some (.constructor .userProvided)
  else match line with
    | 'u' :: _ => some (.constructor .inherited)
    | 'e' :: _ => some (.constructor .explicit)
    | 'v' :: _ => some .virtualFunction
    | 'i' :: 'n' :: 't' :: ' ' :: _ => some .initializedData
    | 'i' :: 'n' :: 't' :: '&' :: _ => some .referenceData
    | _ => none

theorem ofLine_text (layout : Layout) (member : Member) :
    ofLine (member.text layout).toList = some member := by
  cases member with
  | constructor style =>
      cases style <;> simp [ofLine, text, List.getLast?_cons, List.getLast?_append]
  | _ => simp [ofLine, text]

/-- No member line begins with a blank. -/
theorem head?_text {layout : Layout} (husable : layout.Usable) (member : Member) :
    ∀ c ∈ (member.text layout).toList.head?, Text.indents c = false := by
  cases member with
  | constructor style =>
      cases style with
      | userProvided =>
          obtain ⟨first, rest, hname, hstarts⟩ :=
            Text.exists_cons_of_isIdentifier husable.structName
          intro c hc
          simp only [text, String.toList_append, hname, List.cons_append, List.head?_cons,
            Option.mem_some_iff] at hc
          subst hc
          exact Text.indents_of_startsIdentifier hstarts
      | inherited => simp [text, Text.indents]
      | explicit => simp [text, Text.indents]
  | _ => simp [text, Text.indents]

/-- The line of a member, without its break, holds no break. -/
theorem lineBreak_notMem_text {layout : Layout} (husable : layout.Usable) (member : Member) :
    '\n' ∉ (member.text layout).toList := by
  have hname : '\n' ∉ layout.structName.toList :=
    Text.notMem_identifier husable.structName (by decide)
  have hbase : '\n' ∉ (layout.baseName 1).toList :=
    Text.notMem_identifier (Layout.isIdentifier_baseName husable 1) (by decide)
  cases member with
  | constructor style => cases style <;> simp [text, hname, hbase]
  | _ => simp [text]

end Member

namespace Layout

theorem toList_memberLine (layout : Layout) (member : Member) :
    (layout.memberLine member).toList = layout.indent.toList ++ (member.text layout).toList :=
  String.toList_append

/-- A member line tells its indentation and its member. -/
theorem memberLine_inj {first second : Layout} (hfirst : first.Usable) (hsecond : second.Usable)
    {member member' : Member} (hsame : first.memberLine member = second.memberLine member') :
    first.indent = second.indent ∧ member = member' := by
  have hlists := congrArg String.toList hsame
  rw [toList_memberLine, toList_memberLine] at hlists
  obtain ⟨hindent, htext⟩ := Text.append_inj_of_head? (indents_of_mem_indent hfirst)
    (Member.head?_text hfirst member) (indents_of_mem_indent hsecond)
    (Member.head?_text hsecond member') hlists
  refine ⟨String.toList_injective hindent, ?_⟩
  -- The struct names may differ, so the lines are compared by what they are read as.
  have hread := Member.ofLine_text first member
  rw [htext, Member.ofLine_text] at hread
  exact (Option.some.inj hread).symm

/-- The member lines tell the members, and the indentation if there are any. -/
theorem memberLines_inj {first second : Layout} (hfirst : first.Usable) (hsecond : second.Usable)
    {members members' : List Member}
    (hsame : members.map first.memberLine = members'.map second.memberLine) :
    members = members' ∧ (members ≠ [] → first.indent = second.indent) := by
  induction members generalizing members' with
  | nil =>
      rw [List.map_nil, eq_comm, List.map_eq_nil_iff] at hsame
      exact ⟨hsame.symm, fun hnonempty => absurd rfl hnonempty⟩
  | cons member members ih =>
      cases members' with
      | nil => cases hsame
      | cons member' members' =>
          obtain ⟨hline, hlines⟩ := List.cons.inj hsame
          obtain ⟨hindent, rfl⟩ := memberLine_inj hfirst hsecond hline
          obtain ⟨rfl, _⟩ := ih hlines
          exact ⟨rfl, fun _ => hindent⟩

/-! ## Lines -/

theorem lineBreak_notMem_inheritanceClause {layout : Layout} (husable : layout.Usable)
    (profile : Profile) : '\n' ∉ inheritanceClause (layout.bases profile) := by
  have hbases : ∀ base ∈ layout.bases profile, '\n' ∉ base.text.toList := by
    intro base hbase hbreak
    have hclass := Base.continues_or_blank_of_mem_text (isIdentifier_of_mem_bases husable hbase)
      '\n' hbreak
    revert hclass
    decide
  generalize layout.bases profile = bases at hbases
  cases bases with
  | nil => simp [inheritanceClause]
  | cons base more =>
      intro hbreak
      simp only [inheritanceClause, List.mem_cons, Char.reduceEq, false_or] at hbreak
      rcases Text.mem_of_mem_intercalate hbreak with hbreak | ⟨text, htext, hbreak⟩
      · simp at hbreak
      · obtain ⟨source, hsource, rfl⟩ := List.mem_map.mp htext
        exact hbases source hsource hbreak

theorem lineBreak_notMem_heading {layout : Layout} (husable : layout.Usable) (profile : Profile) :
    '\n' ∉ (layout.heading profile).toList := by
  rw [toList_heading, List.mem_append, List.mem_append, not_or, not_or]
  exact ⟨by simp, Text.notMem_identifier husable.structName (by decide),
    lineBreak_notMem_inheritanceClause husable profile⟩

theorem lineBreak_notMem_lines {layout : Layout} (husable : layout.Usable) (profile : Profile) :
    ∀ line ∈ layout.lines profile, '\n' ∉ line.toList := by
  intro line hline
  rw [lines] at hline
  simp only [List.mem_cons, List.mem_append, List.not_mem_nil, or_false] at hline
  rcases hline with rfl | rfl | hline | rfl
  · exact lineBreak_notMem_heading husable profile
  · decide
  · obtain ⟨member, _, rfl⟩ := List.mem_map.mp hline
    rw [toList_memberLine, List.mem_append, not_or]
    refine ⟨fun hbreak => ?_, Member.lineBreak_notMem_text husable member⟩
    exact absurd (indents_of_mem_indent husable _ hbreak) (by decide)
  · decide

/-- The text of a declaration tells its lines. -/
theorem lines_inj {first second : Layout} (hfirst : first.Usable) (hsecond : second.Usable)
    {profile other : Profile}
    (hsame : "\n".intercalate (first.lines profile) = "\n".intercalate (second.lines other)) :
    first.lines profile = second.lines other := by
  have hlists := congrArg String.toList hsame
  rw [String.toList_intercalate, String.toList_intercalate] at hlists
  have hfree {layout : Layout} (husable : layout.Usable) {profile : Profile} :
      ∀ line ∈ (layout.lines profile).map String.toList, '\n' ∉ line := by
    intro line hline
    obtain ⟨source, hsource, rfl⟩ := List.mem_map.mp hline
    exact lineBreak_notMem_lines husable profile source hsource
  refine (List.map_inj_right fun _ _ heq => String.toList_injective heq).mp ?_
  exact Text.intercalate_cons_inj (by decide) (hfree hfirst) (hfree hsecond) hlists

end Layout

/-- The attributes that a declaration shows. -/
def Attribute.shown : List Attribute :=
  [ publicBase, privateBase, protectedBase, virtualBase, userProvidedDefaultConstructor,
    inheritedDefaultConstructor, explicitDefaultConstructor, virtualFunction, memberInitializer,
    initializerNeedyMember ]

theorem Attribute.shown_eq : shown = bases ++ Member.all.map Member.flag := rfl

theorem Profile.get_eq_of_members_eq {profile other : Profile}
    (hmembers : profile.members = other.members) :
    ∀ flag ∈ Member.all.map Member.flag, profile.get flag = other.get flag := by
  intro flag hflag
  obtain ⟨member, _, rfl⟩ := List.mem_map.mp hflag
  rw [Bool.eq_iff_iff, ← mem_members_iff, ← mem_members_iff, hmembers]

theorem Profile.members_congr {profile other : Profile}
    (hagree : ∀ flag ∈ Member.all.map Member.flag, profile.get flag = other.get flag) :
    profile.members = other.members := by
  apply List.filter_congr
  intro member hmember
  exact hagree member.flag (List.mem_map_of_mem hmember)

/-- A constructor is inherited only where there is a base to inherit it from. -/
theorem Profile.exists_base_of_inherited {profile : Profile} {style : Option ConstructorStyle}
    (hok : profile.constructorStyle profile.baseCount = .ok style)
    (hinherited : profile.get .inheritedDefaultConstructor = true) :
    ∃ flag ∈ Attribute.bases, profile.get flag = true := by
  have hmem := (profile.mem_constructorStyles_iff .inherited).mpr hinherited
  have hstyles := constructorStyles_of_ok hok
  have honly : profile.constructorStyles = [.inherited] := by
    cases style with
    | none => simp [hstyles] at hmem
    | some style => simp_all
  by_contra hnone
  have hcount : profile.baseCount = 0 := by
    rw [baseCount_eq_zero_iff]
    intro flag hflag
    exact Bool.eq_false_iff.mpr fun hon => hnone ⟨flag, hflag, hon⟩
  rw [(profile.constructorStyle_eq_dangling_iff _).mpr ⟨honly, hcount⟩] at hok
  cases hok

/-- Apart from an inherited constructor, a member takes no more from a layout than its struct
name. -/
theorem Member.text_congr {first second : Layout} (member : Member)
    (hname : first.structName = second.structName)
    (hbasePrefix : member = .constructor .inherited → first.basePrefix = second.basePrefix) :
    member.text first = member.text second := by
  cases member with
  | constructor style =>
      cases style with
      | userProvided => rw [text, text, hname]
      | inherited => rw [text, text, Layout.baseName, Layout.baseName, hbasePrefix rfl]
      | explicit => rw [text, text, hname]
  | _ => rfl

namespace Layout

/-- What two layouts and two profiles have in common when their declarations have the same lines. -/
structure Alike (first second : Layout) (profile other : Profile) : Prop where
  structName : first.structName = second.structName
  shown : ∀ flag ∈ Attribute.shown, profile.get flag = other.get flag
  basePrefix : (∃ flag ∈ Attribute.bases, profile.get flag = true) →
    first.basePrefix = second.basePrefix
  indent : (∃ member : Member, profile.get member.flag = true) → first.indent = second.indent

theorem basePrefix_eq_of_bases_eq {first second : Layout} {profile other : Profile}
    (hbases : first.bases profile = second.bases other)
    (hany : ∃ flag ∈ Attribute.bases, profile.get flag = true) :
    first.basePrefix = second.basePrefix := by
  cases hlist : first.bases profile with
  | nil =>
      obtain ⟨flag, hflag, hon⟩ := hany
      rw [(bases_eq_nil_iff first profile).mp hlist flag hflag] at hon
      cases hon
  | cons base more =>
      have hname := name_of_bases_eq_cons hlist
      rw [name_of_bases_eq_cons (hbases.symm.trans hlist), baseName, baseName] at hname
      exact (String.append_left_inj _).mp hname.symm

theorem alike_of_lines_eq {first second : Layout} (hfirst : first.Usable)
    (hsecond : second.Usable) {profile other : Profile}
    (hsame : first.lines profile = second.lines other) : first.Alike second profile other := by
  simp only [lines, List.cons.injEq, true_and] at hsame
  obtain ⟨hname, hbases⟩ := heading_inj hfirst hsecond hsame.1
  obtain ⟨hmembers, hindent⟩ := memberLines_inj hfirst hsecond (List.append_cancel_right hsame.2)
  refine ⟨hname, fun flag hflag => ?_, basePrefix_eq_of_bases_eq hbases, ?_⟩
  · rw [Attribute.shown_eq] at hflag
    rcases List.mem_append.mp hflag with hflag | hflag
    · exact get_eq_of_bases_eq hbases flag hflag
    · exact Profile.get_eq_of_members_eq hmembers flag hflag
  · rintro ⟨member, hon⟩
    exact hindent (List.ne_nil_of_mem ((profile.mem_members_iff member).mpr hon))

theorem Alike.lines_eq {first second : Layout} {profile other : Profile}
    {style : Option ConstructorStyle}
    (hok : profile.constructorStyle profile.baseCount = .ok style)
    (halike : first.Alike second profile other) : first.lines profile = second.lines other := by
  have hshown := halike.shown
  rw [Attribute.shown_eq] at hshown
  have hbases : first.bases profile = second.bases other :=
    bases_congr (fun flag hflag => hshown flag (List.mem_append_left _ hflag)) halike.basePrefix
  have hmembers : profile.members = other.members :=
    Profile.members_congr fun flag hflag => hshown flag (List.mem_append_right _ hflag)
  have hheading : first.heading profile = second.heading other := by
    apply String.toList_injective
    rw [toList_heading, toList_heading, halike.structName, hbases]
  have hlines : profile.members.map first.memberLine = profile.members.map second.memberLine := by
    apply List.map_congr_left
    intro member hmember
    have hon := (profile.mem_members_iff member).mp hmember
    rw [memberLine, memberLine, halike.indent ⟨member, hon⟩,
      member.text_congr halike.structName]
    rintro rfl
    exact halike.basePrefix (Profile.exists_base_of_inherited hok hon)
  rw [lines, lines, hheading, hlines, hmembers]

end Layout

namespace Renderer

theorem usable (renderer : Renderer) : renderer.layout.Usable :=
  (Layout.usable_iff_fault?_eq_none _).mpr renderer.faultless

/-- Two declarations read alike exactly when they have the same struct name and show the same
attributes, with the same base prefix if they name a base and the same indentation if they declare
a member. -/
theorem render_eq_iff {renderer otherRenderer : Renderer} {profile other : Profile}
    {text otherText : String} (hrender : renderer.render profile = .ok text)
    (hother : otherRenderer.render other = .ok otherText) :
    text = otherText ↔
      renderer.layout.structName = otherRenderer.layout.structName ∧
        (∀ flag ∈ Attribute.shown, profile.get flag = other.get flag) ∧
        ((∃ flag ∈ Attribute.bases, profile.get flag = true) →
          renderer.layout.basePrefix = otherRenderer.layout.basePrefix) ∧
        ((∃ member : Member, profile.get member.flag = true) →
          renderer.layout.indent = otherRenderer.layout.indent) := by
  obtain ⟨⟨style, hok⟩, rfl⟩ := (Layout.declaration_eq_ok_iff _ _ _).mp hrender
  obtain ⟨_, rfl⟩ := (Layout.declaration_eq_ok_iff _ _ _).mp hother
  have husable := (Layout.usable_iff_fault?_eq_none _).mpr renderer.faultless
  have husable' := (Layout.usable_iff_fault?_eq_none _).mpr otherRenderer.faultless
  constructor
  · intro hsame
    have halike := Layout.alike_of_lines_eq husable husable'
      (Layout.lines_inj husable husable' hsame)
    exact ⟨halike.structName, halike.shown, halike.basePrefix, halike.indent⟩
  · rintro ⟨hname, hshown, hbasePrefix, hindent⟩
    have halike : renderer.layout.Alike otherRenderer.layout profile other :=
      ⟨hname, hshown, hbasePrefix, hindent⟩
    rw [halike.lines_eq hok]

/-- A renderer with a keyword for the struct name and no indentation. -/
def keyworded (basePrefix : String) (hbasePrefix : Text.isIdentifier basePrefix = true) :
    Renderer where
  layout := ⟨"virtual", basePrefix, ""⟩
  faultless := by
    have hname : Text.isIdentifier "virtual" = true := by decide
    have hindent : Text.isIndentation "" = true := by decide
    exact (Layout.usable_iff_fault?_eq_none _).mp ⟨hname, hbasePrefix, hindent⟩

/-- Without a base, two prefixes give one text. -/
theorem render_keyworded_virtualFunction :
    let profile := (Profile.ofTypeClass .classType).insert .virtualFunction
    let text := "struct virtual\n\x7b\nvirtual f();\n\x7d;"
    (keyworded "Base1" (by decide)).render profile = .ok text ∧
      (keyworded "using" (by decide)).render profile = .ok text ∧
      (text = text ↔ "virtual" = "virtual" ∧
        (∀ flag ∈ Attribute.shown, profile.get flag = profile.get flag) ∧
        ((∃ flag ∈ Attribute.bases, profile.get flag = true) → "Base1" = "using") ∧
        ((∃ member : Member, profile.get member.flag = true) → "" = "")) := by
  intro profile text
  have hrender : (keyworded "Base1" (by decide)).render profile = .ok text := by decide
  have hother : (keyworded "using" (by decide)).render profile = .ok text := by decide
  exact ⟨hrender, hother, render_eq_iff hrender hother⟩

end Renderer

end TypeProfile
