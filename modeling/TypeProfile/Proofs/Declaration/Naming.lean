import Mathlib.Data.List.Nodup
import TypeProfile.Proofs.Declaration.Shape

/-!
# Names in a declaration

A declaration uses the name of its struct, the names of its bases and the names of its members. The
names of bases and members never clash. Only the struct can have a name that one of them has as
well: a layout is looked through one name at a time, and bases get their numbers later.
-/

namespace TypeProfile

namespace Text

/-! ## Names in a text -/

/-- The words of a line are the longest runs of characters that an identifier may hold. -/
def words (line : List Char) : List (List Char) :=
  (line.splitOnP fun c => !continuesIdentifier c).filter fun word => !word.isEmpty

/-- What follows each first, third, fifth item. -/
def everySecond {α : Type} : List α → List α
  | _ :: second :: rest => second :: everySecond rest
  | _ => []

/-- The name that the words of a member line introduce, which stands behind `virtual` or behind the
type. Constructors and what is inherited introduce none. -/
def introduced? : List (List Char) → Option (List Char)
  | first :: second :: _ =>
      if first = "virtual".toList ∨ first = "int".toList then some second else none
  | _ => none

/-- The names that a declaration uses, found in its text. In the heading each of them stands behind
a keyword. -/
def namesIn (text : String) : List String :=
  match text.toList.splitOn '\n' with
  | [] => []
  | heading :: lines =>
      (everySecond (words heading) ++ lines.filterMap fun line => introduced? (words line)).map
        String.ofList

theorem words_append_cons (front back : List Char) {c : Char} (hc : continuesIdentifier c = false) :
    words (front ++ c :: back) = words front ++ words back := by
  have hseparates : (!continuesIdentifier c) = true := by rw [hc]; rfl
  rw [words, List.splitOnP_append_cons front back hseparates, List.filter_append]
  rfl

theorem words_cons (back : List Char) {c : Char} (hc : continuesIdentifier c = false) :
    words (c :: back) = words back :=
  words_append_cons [] back hc

theorem words_append_of_indents {blanks : List Char} (hblanks : ∀ c ∈ blanks, indents c = true)
    (back : List Char) : words (blanks ++ back) = words back := by
  induction blanks with
  | nil => rfl
  | cons c blanks ih =>
      obtain ⟨hc, hblanks⟩ := List.forall_mem_cons.mp hblanks
      have hseparates : continuesIdentifier c = false := by
        rw [indents, Bool.or_eq_true, beq_iff_eq, beq_iff_eq] at hc
        rcases hc with rfl | rfl <;> rfl
      rw [List.cons_append, words_cons _ hseparates, ih hblanks]

theorem words_eq_singleton {word : List Char} (hnonempty : word ≠ [])
    (hword : word.all continuesIdentifier = true) : words word = [word] := by
  have hcontinues := List.all_eq_true.mp hword
  rw [words, List.splitOnP_eq_singleton fun c hc => by simp [hcontinues c hc]]
  simp [hnonempty]

theorem words_identifier {text : String} (hidentifier : isIdentifier text = true) :
    words text.toList = [text.toList] := by
  obtain ⟨first, rest, htext, -⟩ := exists_cons_of_isIdentifier hidentifier
  exact words_eq_singleton (by simp [htext])
    (List.all_eq_true.mpr (continues_of_mem_identifier hidentifier))

theorem introduced?_cons_eq_none {first : List Char} (others : List (List Char))
    (hvirtual : first ≠ "virtual".toList) (hint : first ≠ "int".toList) :
    introduced? (first :: others) = none := by
  cases others with
  | nil => rfl
  | cons second others => exact if_neg (not_or.mpr ⟨hvirtual, hint⟩)

end Text

/-- The name that a member introduces. -/
def Member.name? : Member → Option String
  | constructor _ => none
  | virtualFunction => some "f"
  | initializedData => some "a"
  | referenceData => some "b"

namespace Layout

/-- The names that a declaration uses besides that of the struct. -/
def otherNames (layout : Layout) (profile : Profile) : List String :=
  (layout.bases profile).map Base.name ++ profile.members.filterMap Member.name?

/-! ## Names of bases -/

theorem baseName_injective (layout : Layout) : Function.Injective layout.baseName := by
  intro first second hsame
  have hdigits := congrArg String.toList hsame
  simp only [baseName, String.toList_append, Nat.toList_repr, List.append_cancel_left_eq] at hdigits
  have hvalues := congrArg (Nat.ofDigitChars 10 · 0) hdigits
  simpa using hvalues

/-- Bases are numbered from one, with no number left out. -/
theorem map_name_bases (layout : Layout) (profile : Profile) :
    (layout.bases profile).map Base.name =
      (List.range' 1 profile.baseCount).map layout.baseName := by
  rw [← length_bases layout]
  simp only [bases, List.map_map, List.length_map, List.length_zipIdx]
  rw [← List.zipIdx_map_snd, List.map_map]
  rfl

theorem mem_otherNames_iff (layout : Layout) (profile : Profile) (name : String) :
    name ∈ layout.otherNames profile ↔
      (∃ n, (1 ≤ n ∧ n ≤ profile.baseCount) ∧ layout.baseName n = name) ∨
        ∃ member : Member, profile.get member.flag = true ∧ member.name? = some name := by
  rw [otherNames, List.mem_append, map_name_bases, List.mem_map, List.mem_filterMap]
  have hrange (n : Nat) : n ∈ List.range' 1 profile.baseCount ↔ 1 ≤ n ∧ n ≤ profile.baseCount := by
    rw [List.mem_range'_1]
    omega
  simp only [hrange, profile.mem_members_iff]

/-- The names of members are single letters, to which no number is put. -/
theorem baseName_ne_member {layout : Layout} (husable : layout.Usable) (n : Nat) {member : Member}
    {name : String} (hname : member.name? = some name) : layout.baseName n ≠ name := by
  obtain ⟨first, rest, hprefix, -⟩ := Text.exists_cons_of_isIdentifier husable.basePrefix
  have hlong : 2 ≤ (layout.baseName n).length := by
    have hnumber : 0 < n.repr.length := Nat.length_repr_pos
    have hlength : 0 < layout.basePrefix.length := by
      rw [← String.length_toList, hprefix]
      exact Nat.succ_pos _
    rw [baseName, String.length_append]
    omega
  have hshort : name.length = 1 := by
    cases member with
    | constructor style => cases hname
    | _ => cases hname; rfl
  intro hsame
  rw [hsame] at hlong
  omega

theorem nodup_otherNames {layout : Layout} (husable : layout.Usable) (profile : Profile) :
    (layout.otherNames profile).Nodup := by
  rw [otherNames, List.nodup_append]
  refine ⟨?_, ?_, ?_⟩
  · rw [map_name_bases]
    exact List.Nodup.map layout.baseName_injective (List.nodup_range' 1)
  · have hall : (Member.all.filterMap Member.name?).Nodup := by decide
    exact hall.sublist (List.filter_sublist.filterMap Member.name?)
  · intro name hbase other hmember
    obtain ⟨base, hmem, rfl⟩ := List.mem_map.mp hbase
    obtain ⟨n, hn⟩ := name_of_mem_bases hmem
    obtain ⟨member, -, hname⟩ := List.mem_filterMap.mp hmember
    rw [hn]
    exact baseName_ne_member husable n hname

/-! ## Reading the names -/

theorem words_bases {bases : List Base}
    (hnames : ∀ base ∈ bases, Text.isIdentifier base.name = true) :
    Text.words ([',', ' '].intercalate (bases.map fun base => base.text.toList)) =
      bases.flatMap fun base => [base.inheritance.keyword.toList, base.name.toList] := by
  have hbase (base : Base) (hname : Text.isIdentifier base.name = true) :
      Text.words base.text.toList =
        [base.inheritance.keyword.toList, base.name.toList] := by
    have hkeyword : base.inheritance.keyword.toList ≠ [] := by
      cases base.inheritance <;> decide
    rw [Base.toList_text, Text.words_append_cons _ _ (by decide), Text.words_identifier hname,
      Text.words_eq_singleton hkeyword
        (List.all_eq_true.mpr base.inheritance.continues_of_mem_keyword)]
    rfl
  induction bases with
  | nil => rfl
  | cons base more ih =>
      obtain ⟨hname, hnames⟩ := List.forall_mem_cons.mp hnames
      rw [List.map_cons, List.flatMap_cons]
      cases more with
      | nil => rw [List.map_nil, List.intercalate_singleton, hbase base hname]; rfl
      | cons next more =>
          rw [List.map_cons, List.intercalate_cons_cons, List.append_assoc, List.cons_append,
            Text.words_append_cons _ _ (by decide), List.singleton_append,
            Text.words_cons _ (by decide), hbase base hname]
          exact congrArg _ (ih hnames)

theorem everySecond_bases (bases : List Base) :
    Text.everySecond (bases.flatMap fun base =>
        [base.inheritance.keyword.toList, base.name.toList]) =
      bases.map fun base => base.name.toList := by
  induction bases with
  | nil => rfl
  | cons base more ih => exact congrArg (base.name.toList :: ·) ih

variable {layout : Layout} (husable : layout.Usable)

include husable

theorem everySecond_heading (profile : Profile) :
    Text.everySecond (Text.words (layout.heading profile).toList) =
      layout.structName.toList :: (layout.bases profile).map fun base => base.name.toList := by
  have hheading : (layout.heading profile).toList = "struct".toList ++
      ' ' :: (layout.structName.toList ++ inheritanceClause (layout.bases profile)) := by
    rw [toList_heading]
    rfl
  have hclause : Text.words (layout.structName.toList ++
      inheritanceClause (layout.bases profile)) = layout.structName.toList ::
        (layout.bases profile).flatMap fun base =>
          [base.inheritance.keyword.toList, base.name.toList] := by
    have hnames : ∀ base ∈ layout.bases profile, Text.isIdentifier base.name = true :=
      fun base hmem => isIdentifier_of_mem_bases husable hmem
    cases hbases : layout.bases profile with
    | nil =>
        rw [inheritanceClause, List.append_nil, Text.words_identifier husable.structName]
        rfl
    | cons base more =>
        rw [inheritanceClause, Text.words_append_cons _ _ (by decide),
          Text.words_identifier husable.structName, Text.words_cons _ (by decide),
          Text.words_cons _ (by decide), words_bases (hbases ▸ hnames)]
        rfl
  rw [hheading, Text.words_append_cons _ _ (by decide),
    Text.words_eq_singleton (by decide) (by decide), hclause, List.singleton_append,
    Text.everySecond, everySecond_bases]

theorem introduced?_memberLine (member : Member) :
    Text.introduced? (Text.words (layout.memberLine member).toList) =
      member.name?.map String.toList := by
  have hname := Text.words_identifier husable.structName
  rw [toList_memberLine, Text.words_append_of_indents (indents_of_mem_indent husable)]
  cases member with
  | constructor style =>
      cases style with
      | userProvided =>
          have htext : (Member.text layout (.constructor .userProvided)).toList =
              layout.structName.toList ++ '(' :: ") \x7b\x7d".toList := by
            simp [Member.text]
          have hblank : Text.words ") \x7b\x7d".toList = [] := by decide
          rw [htext, Text.words_append_cons _ _ (by decide), hname, hblank]
          rfl
      | inherited =>
          have htext : (Member.text layout (.constructor .inherited)).toList = "using".toList ++
              ' ' :: (layout.baseName 1 ++ "::" ++ layout.baseName 1 ++ ";").toList := by
            simp [Member.text]
          rw [htext, Text.words_append_cons _ _ (by decide),
            Text.words_eq_singleton (by decide) (by decide)]
          exact Text.introduced?_cons_eq_none _ (by decide) (by decide)
      | explicit =>
          have htext : (Member.text layout (.constructor .explicit)).toList = "explicit".toList ++
              ' ' :: (layout.structName ++ "() = default;").toList := by
            simp [Member.text]
          rw [htext, Text.words_append_cons _ _ (by decide),
            Text.words_eq_singleton (by decide) (by decide)]
          exact Text.introduced?_cons_eq_none _ (by decide) (by decide)
  | _ =>
      rw [Member.text]
      decide

/-- The names found in the text of a declaration are those of the struct, its bases and members. -/
theorem namesIn_declaration {profile : Profile} {text : String}
    (hdeclaration : layout.declaration profile = .ok text) :
    Text.namesIn text = layout.structName :: layout.otherNames profile := by
  have hopen : Text.introduced? (Text.words "\x7b".toList) = none := by decide
  have hclose : Text.introduced? (Text.words "\x7d;".toList) = none := by decide
  have hlines : (("\x7b" :: (profile.members.map layout.memberLine ++ ["\x7d;"])).map
      String.toList).filterMap (fun line => Text.introduced? (Text.words line)) =
        (profile.members.filterMap Member.name?).map String.toList := by
    simp only [List.map_cons, List.map_append, List.map_nil, List.filterMap_cons, hopen, hclose,
      List.filterMap_append, List.filterMap_nil, List.append_nil, List.filterMap_map,
      Function.comp_def, introduced?_memberLine husable, List.map_filterMap]
  rw [Text.namesIn, splitOn_declaration husable hdeclaration, lines, List.map_cons]
  simp only [everySecond_heading husable, hlines]
  simp [otherNames, Function.comp_def]

end Layout

namespace Renderer

/-- The names of bases and members are distinct, so that the names of a declaration clash exactly
when its struct has the name of one of its bases or members. -/
theorem nodup_names_iff (renderer : Renderer) {profile : Profile} {text : String}
    (hrender : renderer.render profile = .ok text) :
    let layout := renderer.layout
    (Text.namesIn text = layout.structName :: layout.otherNames profile ∧
      (layout.otherNames profile).Nodup) ∧
    ((Text.namesIn text).Nodup ↔
      (∀ n, 1 ≤ n → n ≤ profile.baseCount → layout.baseName n ≠ layout.structName) ∧
        ∀ member : Member, profile.get member.flag = true →
          member.name? ≠ some layout.structName) := by
  intro layout
  have hnames := Layout.namesIn_declaration renderer.usable hrender
  have hnodup := Layout.nodup_otherNames renderer.usable profile
  refine ⟨⟨hnames, hnodup⟩, ?_⟩
  rw [hnames, List.nodup_cons, and_iff_left hnodup, Layout.mem_otherNames_iff, not_or]
  simp only [not_exists, not_and, and_imp]
  rfl

/-- A struct with two bases may have the name of a third one. -/
theorem nodup_names_of_two_bases :
    let renderer : Renderer := ⟨{ structName := "Base3" }, by decide⟩
    let profile := (Profile.ofTypeClass .classType).insertMany
      [.publicBase, .virtualBase, .virtualFunction, .initializerNeedyMember]
    let text := "struct Base3 : public Base1, virtual Base2\n\x7b\n" ++
      "    virtual f();\n    int& b;\n\x7d;"
    renderer.render profile = .ok text ∧
      (Text.namesIn text = ["Base3", "Base1", "Base2", "f", "b"] ∧
        ["Base1", "Base2", "f", "b"].Nodup) ∧
      ((Text.namesIn text).Nodup ↔
        (∀ n, 1 ≤ n → n ≤ 2 → renderer.layout.baseName n ≠ "Base3") ∧
          ∀ member : Member, profile.get member.flag = true → member.name? ≠ some "Base3") := by
  intro renderer profile text
  have hrender : renderer.render profile = .ok text := by decide
  exact ⟨hrender, renderer.nodup_names_iff hrender⟩

/-- No layout is refused for the name of its struct being that of a base or of a member. -/
theorem render_with_name_clash :
    let derived : Renderer := ⟨{ structName := "Base1" }, by decide⟩
    let callable : Renderer := ⟨{ structName := "f" }, by decide⟩
    let derivedText := "struct Base1 : public Base1\n\x7b\n\x7d;"
    let callableText := "struct f\n\x7b\n    virtual f();\n\x7d;"
    (derived.render ((Profile.ofTypeClass .classType).insert .publicBase) = .ok derivedText ∧
      ¬(Text.namesIn derivedText).Nodup) ∧
    callable.render ((Profile.ofTypeClass .classType).insert .virtualFunction) = .ok callableText ∧
      ¬(Text.namesIn callableText).Nodup := by
  decide

end Renderer

end TypeProfile
