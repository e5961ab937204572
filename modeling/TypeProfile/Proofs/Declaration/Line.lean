import TypeProfile.Proofs.Declaration.Conflict
import TypeProfile.Proofs.Text.Separation

/-!
# The lines of a declaration

A declaration is a heading, an opening brace, one line for every member and a closing line. With a
usable layout no line holds a line break of its own, so the lines can be read back from the text.
-/

namespace TypeProfile

/-- What a line between the braces of a declaration declares. -/
inductive Member
  | constructor (style : ConstructorStyle)
  | virtualFunction
  | initializedData
  | referenceData
deriving DecidableEq, Repr

namespace Member

/-- The order in which members are declared. -/
def all : List Member :=
  ConstructorStyle.vocabulary.all.map constructor ++
    [virtualFunction, initializedData, referenceData]

def flag : Member → Attribute
  | constructor style => style.flag
  | virtualFunction => .virtualFunction
  | initializedData => .memberInitializer
  | referenceData => .initializerNeedyMember

theorem mem_all (member : Member) : member ∈ all := by
  cases member with
  | constructor style => simp [all, ConstructorStyle.vocabulary.mem_all]
  | _ => decide

/-- The line of a member, without indentation. -/
def text (layout : Layout) : Member → String
  | constructor .userProvided => layout.structName ++ "() \x7b\x7d"
  | constructor .inherited => "using " ++ layout.baseName 1 ++ "::" ++ layout.baseName 1 ++ ";"
  | constructor .explicit => "explicit " ++ layout.structName ++ "() = default;"
  | virtualFunction => "virtual f();"
  | initializedData => "int a = 0;"
  | referenceData => "int& b;"

end Member

namespace Profile

/-- The members that a profile asks for. -/
def members (profile : Profile) : List Member :=
  Member.all.filter fun member => profile.get member.flag

theorem mem_members_iff (profile : Profile) (member : Member) :
    member ∈ profile.members ↔ profile.get member.flag = true := by
  simp [members, Member.mem_all]

theorem members_eq (profile : Profile) :
    profile.members = profile.constructorStyles.map .constructor ++
      ((if profile.get .virtualFunction then [.virtualFunction] else []) ++
        (if profile.get .memberInitializer then [.initializedData] else []) ++
        if profile.get .initializerNeedyMember then [.referenceData] else []) := by
  rw [members, Member.all, List.filter_append, List.filter_map]
  congr 1
  simp only [List.filter_cons, List.filter_nil, Member.flag]
  cases profile.get .virtualFunction <;> cases profile.get .memberInitializer <;>
    cases profile.get .initializerNeedyMember <;> rfl

/-- Where the style of the constructor is settled, it is the only one asked for. -/
theorem constructorStyles_of_ok {profile : Profile} {count : Nat} {style : Option ConstructorStyle}
    (hok : profile.constructorStyle count = .ok style) :
    profile.constructorStyles = style.toList := by
  unfold constructorStyle at hok
  split at hok
  next hnone => cases hok; exact hnone
  next only hone =>
    split at hok
    · cases hok
    · cases hok; exact hone
  · cases hok

end Profile

namespace Layout

/-- The line of a member. -/
def memberLine (layout : Layout) (member : Member) : String :=
  layout.indent ++ member.text layout

/-- All lines of a declaration. -/
def lines (layout : Layout) (profile : Profile) : List String :=
  layout.heading profile :: "\x7b" :: (profile.members.map layout.memberLine ++ ["\x7d;"])

theorem constructorLine_eq (layout : Layout) (style : Option ConstructorStyle) :
    layout.constructorLine style =
      String.join
        (style.toList.map fun style => layout.memberLine (.constructor style) ++ "\n") := by
  rcases style with _ | style
  · rfl
  · cases style <;> simp [constructorLine, memberLine, Member.text, String.append_assoc]

theorem virtualLine_eq (layout : Layout) (profile : Profile) :
    layout.virtualLine profile =
      String.join ((if profile.get .virtualFunction then [Member.virtualFunction] else []).map
        fun member => layout.memberLine member ++ "\n") := by
  unfold virtualLine
  split <;> simp [memberLine, Member.text, String.append_assoc]

theorem dataLines_eq (layout : Layout) (profile : Profile) :
    layout.dataLines profile =
      String.join (((if profile.get .memberInitializer then [Member.initializedData] else []) ++
        if profile.get .initializerNeedyMember then [Member.referenceData] else []).map
          fun member => layout.memberLine member ++ "\n") := by
  unfold dataLines
  split <;> split <;> simp [memberLine, Member.text, String.append_assoc]

/-- Each member takes a line of its own. -/
theorem join_memberLines (layout : Layout) (profile : Profile) {count : Nat}
    {style : Option ConstructorStyle} (hok : profile.constructorStyle count = .ok style) :
    layout.constructorLine style ++ layout.virtualLine profile ++ layout.dataLines profile =
      String.join (profile.members.map fun member => layout.memberLine member ++ "\n") := by
  rw [Profile.members_eq, Profile.constructorStyles_of_ok hok, constructorLine_eq, virtualLine_eq,
    dataLines_eq]
  simp only [List.map_append, String.join_append, List.map_map, Function.comp_def,
    String.append_assoc]

/-- Lines that are each ended by a break stand before a last one in the same way as lines that are
set apart by breaks. -/
theorem join_append_eq_intercalate (lines : List String) (last : String) :
    String.join (lines.map (· ++ "\n")) ++ last = "\n".intercalate (lines ++ [last]) := by
  induction lines with
  | nil => simp
  | cons line lines ih =>
      rw [List.map_cons, String.join_cons, String.append_assoc, ih, List.cons_append,
        String.intercalate_cons_of_ne_nil (by simp)]

/-- A declaration that is written is the text of its lines. -/
theorem declaration_eq_ok_iff (layout : Layout) (profile : Profile) (text : String) :
    layout.declaration profile = .ok text ↔
      (∃ style, profile.constructorStyle profile.baseCount = .ok style) ∧
        text = "\n".intercalate (layout.lines profile) := by
  rw [declaration, length_bases]
  cases hstyle : profile.constructorStyle profile.baseCount with
  | error error => simp [Except.map]
  | ok style =>
      have htext : layout.heading profile ++ "\n\x7b\n" ++ layout.constructorLine style ++
          layout.virtualLine profile ++ layout.dataLines profile ++ "\x7d;" =
            "\n".intercalate (layout.lines profile) := by
        calc
          _ = layout.heading profile ++ "\n\x7b\n" ++ ((layout.constructorLine style ++
              layout.virtualLine profile ++ layout.dataLines profile) ++ "\x7d;") := by
            simp only [String.append_assoc]
          _ = layout.heading profile ++ "\n\x7b\n" ++
              "\n".intercalate (profile.members.map layout.memberLine ++ ["\x7d;"]) := by
            rw [layout.join_memberLines profile hstyle, ← join_append_eq_intercalate, List.map_map]
            rfl
          _ = "\n".intercalate (layout.lines profile) := by
            rw [lines, String.intercalate_cons_cons,
              String.intercalate_cons_of_ne_nil (by simp)]
            simp only [String.append_assoc]
            rfl
      simp only [Except.map, htext, Except.ok.injEq, exists_eq', true_and, eq_comm]

end Layout

end TypeProfile
