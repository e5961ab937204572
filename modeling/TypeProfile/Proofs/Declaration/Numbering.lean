import TypeProfile.Proofs.Declaration.Naming

/-!
# Numbers of bases

A base is named by the prefix and its number in decimal. The base clause can be written one base
after another with a running count, which gives each base its number: the count of bases so far is
the number of inheritance attributes that are on among those looked at, so no number is left out and
none is used twice. Where the layout is usable, the clause gives the keywords and the names back.
-/

namespace TypeProfile

namespace Layout

/-- Bases with the numbers from one on. -/
def numbered (layout : Layout) (inheritances : List Inheritance) : List Base :=
  (inheritances.zipIdx 1).map fun entry => ⟨entry.1, layout.baseName entry.2⟩

/-- The clause that names some bases, empty if there are none. -/
def clauseOf : List Base → String
  | [] => ""
  | bases => ": " ++ ", ".intercalate (bases.map Base.text)

theorem bases_eq_numbered (layout : Layout) (profile : Profile) :
    layout.bases profile =
      layout.numbered (Inheritance.all.filter fun inheritance => profile.get inheritance.flag) :=
  rfl

theorem baseClause_eq_clauseOf (layout : Layout) (profile : Profile) :
    layout.baseClause profile = clauseOf (layout.bases profile) := by
  unfold baseClause clauseOf
  rfl

theorem length_numbered (layout : Layout) (inheritances : List Inheritance) :
    (layout.numbered inheritances).length = inheritances.length := by
  rw [numbered, List.length_map, List.length_zipIdx]

theorem numbered_concat (layout : Layout) (inheritances : List Inheritance) (next : Inheritance) :
    layout.numbered (inheritances ++ [next]) =
      layout.numbered inheritances ++ [⟨next, layout.baseName (inheritances.length + 1)⟩] := by
  rw [numbered, List.zipIdx_append, List.map_append, Nat.add_comm 1]
  rfl

theorem clauseOf_concat (bases : List Base) (base : Base) :
    clauseOf (bases ++ [base]) =
      clauseOf bases ++ (if bases.length = 0 then ": " else ", ") ++ base.text := by
  apply String.toList_injective
  cases bases with
  | nil => simp [clauseOf]
  | cons first bases =>
      have hcount : (first :: bases).length ≠ 0 := Nat.succ_ne_zero _
      simp only [clauseOf, List.cons_append, List.map_cons, List.map_append, List.map_nil,
        String.toList_append, String.toList_intercalate, Text.intercalate_concat, if_neg hcount,
        List.append_assoc]

/-! ## Writing one base after another -/

/-- A base clause as far as it is written, and how many bases it names. -/
structure OpenClause where
  text : String
  count : Nat

namespace OpenClause

/-- The next base is named if its attribute is on. The count goes up before the base is named. -/
def write (layout : Layout) (profile : Profile) (clause : OpenClause) (next : Inheritance) :
    OpenClause :=
  if profile.get next.flag then
    let count := clause.count + 1
    let separator := if clause.count = 0 then ": " else ", "
    ⟨clause.text ++ separator ++ (next.keyword ++ " " ++ layout.baseName count), count⟩
  else clause

/-- The clause that names some bases, with their number. -/
def ofBases (bases : List Base) : OpenClause :=
  ⟨clauseOf bases, bases.length⟩

theorem write_of_get (layout : Layout) {profile : Profile} {next : Inheritance}
    (hon : profile.get next.flag = true) (named : List Inheritance) :
    (ofBases (layout.numbered named)).write layout profile next =
      ofBases (layout.numbered (named ++ [next])) := by
  have htext : Base.text ⟨next, layout.baseName (named.length + 1)⟩ =
      next.keyword ++ " " ++ layout.baseName (named.length + 1) := rfl
  rw [write, if_pos hon, numbered_concat, ofBases, ofBases, clauseOf_concat, length_numbered,
    List.length_append, length_numbered, htext]
  rfl

theorem write_of_not_get (layout : Layout) {profile : Profile} {next : Inheritance}
    (hoff : profile.get next.flag = false) (clause : OpenClause) :
    clause.write layout profile next = clause := by
  rw [write, hoff, if_neg Bool.false_ne_true]

/-- After any number of steps the clause names the bases whose attributes are on, in order. -/
theorem foldl_write (layout : Layout) (profile : Profile) (seen : List Inheritance) :
    seen.foldl (write layout profile) ⟨"", 0⟩ =
      ofBases (layout.numbered (seen.filter fun inheritance => profile.get inheritance.flag)) := by
  induction seen using List.reverseRecOn with
  | nil => rfl
  | append_singleton seen next ih =>
      rw [List.foldl_concat, ih, List.filter_append]
      cases hget : profile.get next.flag with
      | true => rw [write_of_get layout hget, List.filter_singleton, hget, cond_true]
      | false =>
          rw [write_of_not_get layout hget, List.filter_singleton, hget, cond_false,
            List.append_nil]

end OpenClause

/-- The clause of a profile is what is written after all kinds of inheritance are looked at. -/
theorem foldl_write_all (layout : Layout) (profile : Profile) :
    Inheritance.all.foldl (OpenClause.write layout profile) ⟨"", 0⟩ =
      ⟨layout.baseClause profile, profile.baseCount⟩ := by
  rw [OpenClause.foldl_write, ← bases_eq_numbered, OpenClause.ofBases, ← baseClause_eq_clauseOf,
    length_bases]

end Layout

/-! ## Keywords and names -/

/-- The keywords of the inheritance attributes that are on, in their order. -/
def Profile.baseKeywords (profile : Profile) : List String :=
  let keywords : List (Attribute × String) :=
    [(.publicBase, "public"), (.privateBase, "private"), (.protectedBase, "protected"),
      (.virtualBase, "virtual")]
  (keywords.filter fun entry => profile.get entry.1).map Prod.snd

namespace Layout

theorem map_keyword_bases (layout : Layout) (profile : Profile) :
    (layout.bases profile).map (fun base => base.inheritance.keyword) = profile.baseKeywords := by
  have hkeywords : profile.baseKeywords =
      ((Inheritance.all.map fun inheritance => (inheritance.flag, inheritance.keyword)).filter
        fun entry => profile.get entry.1).map Prod.snd := rfl
  rw [hkeywords, List.filter_map, List.map_map, Function.comp_def, Function.comp_def,
    ← map_inheritance_bases layout, List.map_map]
  rfl

/-- Each base has its keyword and its name, both in order. -/
theorem map_bases (layout : Layout) (profile : Profile) :
    (layout.bases profile).map (fun base => (base.inheritance.keyword, base.name)) =
      profile.baseKeywords.zip ((List.range' 1 profile.baseCount).map layout.baseName) := by
  rw [← map_keyword_bases layout profile, ← map_name_bases layout profile, List.zip_map']

theorem clauseOf_eq (bases : List Base) :
    clauseOf bases = (if bases.length = 0 then "" else ": ") ++ ", ".intercalate
      ((bases.map fun base => (base.inheritance.keyword, base.name)).map fun entry =>
        entry.1 ++ " " ++ entry.2) := by
  rw [List.map_map]
  cases bases with
  | nil => rfl
  | cons base more => rfl

theorem words_clauseOf {bases : List Base}
    (hnames : ∀ base ∈ bases, Text.isIdentifier base.name = true) :
    Text.words (clauseOf bases).toList =
      (bases.map fun base => (base.inheritance.keyword, base.name)).flatMap fun entry =>
        [entry.1.toList, entry.2.toList] := by
  rw [List.flatMap_map]
  cases bases with
  | nil => rfl
  | cons base more =>
      have hclause : (clauseOf (base :: more)).toList = ':' :: ' ' ::
          [',', ' '].intercalate ((base :: more).map fun base => base.text.toList) := by
        simp [clauseOf, Function.comp_def]
      rw [hclause, Text.words_cons _ (by decide), Text.words_cons _ (by decide),
        words_bases hnames]

/-- Two numbers never give one name, whatever the prefix ends in, and behind a usable prefix they
give identifiers. The base clause lists the keywords of the attributes that are on, each with the
name that has the next number, from one up to the number of bases. Writing it one base after another
with a running count gives the same clause and the same count, and with a usable layout these
keywords and names are the words of the clause. -/
theorem bases_numbered (layout : Layout) :
    Function.Injective layout.baseName ∧
    (layout.fault? = none → ∀ n, Text.isIdentifier (layout.baseName n) = true) ∧
    ∀ profile : Profile,
      let names := (List.range' 1 profile.baseCount).map layout.baseName
      let named := profile.baseKeywords.zip names
      (layout.bases profile).length = profile.baseCount ∧
      profile.baseKeywords.length = profile.baseCount ∧
      Inheritance.all.foldl (OpenClause.write layout profile) ⟨"", 0⟩ =
        ⟨layout.baseClause profile, profile.baseCount⟩ ∧
      layout.baseClause profile = (if profile.baseCount = 0 then "" else ": ") ++
        ", ".intercalate (named.map fun entry => entry.1 ++ " " ++ entry.2) ∧
      (layout.fault? = none → Text.words (layout.baseClause profile).toList =
        named.flatMap fun entry => [entry.1.toList, entry.2.toList]) := by
  refine ⟨layout.baseName_injective, fun hfault => ?_, fun profile => ?_⟩
  · exact isIdentifier_baseName ((usable_iff_fault?_eq_none layout).mpr hfault)
  · intro names named
    have hnamed : (layout.bases profile).map (fun base => (base.inheritance.keyword, base.name)) =
        named := layout.map_bases profile
    have hcount := layout.length_bases profile
    refine ⟨hcount, ?_, layout.foldl_write_all profile, ?_, fun hfault => ?_⟩
    · rw [← map_keyword_bases layout, List.length_map, hcount]
    · rw [baseClause_eq_clauseOf, clauseOf_eq, hnamed, hcount]
    · have husable := (usable_iff_fault?_eq_none layout).mpr hfault
      rw [baseClause_eq_clauseOf, words_clauseOf fun base => isIdentifier_of_mem_bases husable,
        hnamed]

/-- A prefix that ends in a digit, with two bases of which the kinds are not neighbours. -/
theorem bases_numbered_of_digit :
    let layout : Layout := { basePrefix := "B1" }
    let profile := (Profile.ofTypeClass .classType).insertMany [.virtualBase, .privateBase]
    layout.fault? = none ∧ Text.isIdentifier (layout.baseName 11) = true ∧
      layout.baseClause profile = ": private B11, virtual B12" ∧
      (Text.words (layout.baseClause profile).toList).map String.ofList =
        ["private", "B11", "virtual", "B12"] := by
  intro layout profile
  have hfault : layout.fault? = none := by decide
  obtain ⟨-, hidentifier, hbases⟩ := bases_numbered layout
  obtain ⟨-, -, -, hclause, hwords⟩ := hbases profile
  refine ⟨hfault, hidentifier hfault 11, ?_, ?_⟩
  · rw [hclause]
    decide
  · rw [hwords hfault]
    decide

end Layout

end TypeProfile
