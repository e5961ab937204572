import TypeProfile.Json.Value
import TypeProfile.Proofs.Json.Tree

/-!
# Both layouts write the same tree

On one line or over several, a value is written as one of the ways to write its tree. The layouts
differ only in the blanks that they put between tokens.
-/

namespace TypeProfile.Json

/-! ## Putting written texts together -/

theorem blank_nil : Blank [] := nofun

theorem Written.append {first second : List Token} {left right : List Char}
    (hfirst : Written first left) (hsecond : Written second right) :
    Written (first ++ second) (left ++ right) := by
  induction hfirst with
  | nil => exact hsecond
  | cons hblanks hspells htext ih =>
      rw [List.append_assoc, List.append_assoc]
      exact .cons hblanks hspells ih

theorem Written.singleton {token : Token} {spelling : List Char} (hspells : token.Spells spelling) :
    Written [token] spelling := by
  have hwritten : Written [token] ([] ++ (spelling ++ [])) := .cons nofun hspells .nil
  simpa using hwritten

/-- A token of one character. -/
theorem Written.cons_char {token : Token} {tokens : List Token} {c : Char} {text : List Char}
    (hspells : token.Spells [c]) (htext : Written tokens text) :
    Written (token :: tokens) (c :: text) :=
  (Written.singleton hspells).append htext

/-- Blanks before the first token. -/
theorem Written.blanks {tokens : List Token} {blanks text : List Char} (hblanks : Blank blanks)
    (hnonempty : tokens ≠ []) (hwritten : Written tokens text) :
    Written tokens (blanks ++ text) := by
  cases hwritten with
  | nil => exact absurd rfl hnonempty
  | cons hown hspells htext =>
      rw [← List.append_assoc]
      refine .cons (fun c hmem => ?_) hspells htext
      rcases List.mem_append.mp hmem with hleft | hright
      · exact hblanks c hleft
      · exact hown c hright

namespace Value

mutual

/-- The tree that a value is written as. -/
def tree : Value → Tree
  | null => .null
  | boolean value => .boolean value
  | number value => .number value
  | string value => .string (Piece.ofText value)
  | array items => .array (itemTrees items)
  | object members => .object (memberTrees members)

def itemTrees : List Value → List Tree
  | [] => []
  | item :: items => item.tree :: itemTrees items

def memberTrees : List (String × Value) → List (List Piece × Tree)
  | [] => []
  | (key, value) :: members => (Piece.ofText key, value.tree) :: memberTrees members

end

theorem memberTrees_eq_map (members : List (String × Value)) :
    memberTrees members = members.map fun member => (Piece.ofText member.1, member.2.tree) := by
  induction members with
  | nil => rfl
  | cons member members ih => rw [memberTrees, ih, List.map_cons]

/-- Every number in the value is one that can be written. -/
inductive Proper : Value → Prop
  | null : Proper .null
  | boolean (value : Bool) : Proper (.boolean value)
  | number {value : Number} (hspells : value.Spells value.text) : Proper (.number value)
  | string (value : String) : Proper (.string value)
  | array {items : List Value} (hitems : ∀ item ∈ items, Proper item) : Proper (.array items)
  | object {members : List (String × Value)} (hmembers : ∀ member ∈ members, Proper member.2) :
      Proper (.object members)

/-! ## Blanks between tokens -/

section Gaps

variable {gap close space : List Char} (hgap : Blank gap) (hclose : Blank close)
  (hspace : Blank space) {text : Value → List Char}

include hgap hclose

/-- The gap stands before each item and the closing blanks before the end. -/
theorem written_moreItems {items : List Value}
    (hitems : ∀ item ∈ items, Written item.tree.tokens (text item)) :
    Written (Tree.moreItems (itemTrees items))
      (items.flatMap (fun item => ',' :: (gap ++ text item)) ++ (close ++ [']'])) := by
  induction items with
  | nil =>
      have hend : Written [.closeBracket] (close ++ [']']) :=
        (Written.singleton .closeBracket).blanks hclose nofun
      simpa [itemTrees, Tree.moreItems] using hend
  | cons item items ih =>
      obtain ⟨hitem, hitems⟩ := List.forall_mem_cons.mp hitems
      have hfirst := hitem.blanks hgap item.tree.tokens_ne_nil
      have hwritten := Written.cons_char .comma (hfirst.append (ih hitems))
      simpa [itemTrees, Tree.moreItems] using hwritten

theorem written_array {item : Value} {items : List Value}
    (hitems : ∀ other ∈ item :: items, Written other.tree.tokens (text other)) :
    Written (array (item :: items)).tree.tokens
      ('[' :: (gap ++ text item ++ (items.flatMap (fun item => ',' :: (gap ++ text item)) ++
        (close ++ [']'])))) := by
  obtain ⟨hitem, hitems⟩ := List.forall_mem_cons.mp hitems
  have hfirst := hitem.blanks hgap item.tree.tokens_ne_nil
  exact .cons_char .openBracket (hfirst.append (written_moreItems hgap hclose hitems))

omit hgap hclose in
theorem written_literal (value : String) :
    Written [.string (Piece.ofText value)] (literal value) :=
  .singleton (.string (Piece.spellsAll_flatMap_escape value.toList))

omit hclose in
include hspace in
theorem written_member (key : String) {value : Value}
    (hvalue : Written value.tree.tokens (text value)) :
    Written (.string (Piece.ofText key) :: .colon :: value.tree.tokens)
      (gap ++ (literal key ++ ':' :: (space ++ text value))) := by
  have hspaced := hvalue.blanks hspace value.tree.tokens_ne_nil
  exact ((written_literal key).append (Written.cons_char .colon hspaced)).blanks hgap nofun

include hspace

theorem written_moreMembers {members : List (String × Value)}
    (hmembers : ∀ member ∈ members, Written member.2.tree.tokens (text member.2)) :
    Written (Tree.moreMembers (memberTrees members))
      (members.flatMap
        (fun member => ',' :: (gap ++ (literal member.1 ++ ':' :: (space ++ text member.2)))) ++
          (close ++ ['\x7d'])) := by
  induction members with
  | nil =>
      have hend : Written [.closeBrace] (close ++ ['\x7d']) :=
        (Written.singleton .closeBrace).blanks hclose nofun
      simpa [memberTrees, Tree.moreMembers] using hend
  | cons member members ih =>
      obtain ⟨key, value⟩ := member
      obtain ⟨hmember, hmembers⟩ := List.forall_mem_cons.mp hmembers
      have hfirst := written_member hgap hspace key hmember
      have hwritten := Written.cons_char .comma (hfirst.append (ih hmembers))
      simpa [memberTrees, Tree.moreMembers] using hwritten

theorem written_object {key : String} {value : Value} {members : List (String × Value)}
    (hmembers : ∀ member ∈ (key, value) :: members,
      Written member.2.tree.tokens (text member.2)) :
    Written (object ((key, value) :: members)).tree.tokens
      ('\x7b' :: (gap ++ (literal key ++ ':' :: (space ++ text value)) ++
        (members.flatMap
          (fun member => ',' :: (gap ++ (literal member.1 ++ ':' :: (space ++ text member.2)))) ++
            (close ++ ['\x7d'])))) := by
  obtain ⟨hmember, hmembers⟩ := List.forall_mem_cons.mp hmembers
  have hfirst := written_member hgap hspace key hmember
  exact .cons_char .openBrace (hfirst.append (written_moreMembers hgap hclose hspace hmembers))

end Gaps

/-! ## The layouts -/

theorem compactItems_cons (item : Value) (items : List Value) :
    compactItems (item :: items) =
      compactText item ++ items.flatMap fun item => ',' :: compactText item := by
  induction items generalizing item with
  | nil => simp [compactItems]
  | cons next items ih => simp [compactItems, ih]

theorem compactMembers_cons (key : String) (value : Value) (members : List (String × Value)) :
    compactMembers ((key, value) :: members) =
      literal key ++ ':' :: compactText value ++
        members.flatMap fun member => ',' :: (literal member.1 ++ ':' :: compactText member.2) := by
  induction members generalizing key value with
  | nil => simp [compactMembers]
  | cons next members ih =>
      obtain ⟨nextKey, nextValue⟩ := next
      simp [compactMembers, ih]

theorem prettyItems_cons (level : Nat) (item : Value) (items : List Value) :
    prettyItems level (item :: items) =
      lineBreak level ++ prettyText level item ++
        items.flatMap fun item => ',' :: (lineBreak level ++ prettyText level item) := by
  induction items generalizing item with
  | nil => simp [prettyItems]
  | cons next items ih => simp [prettyItems, ih]

theorem prettyMembers_cons (level : Nat) (key : String) (value : Value)
    (members : List (String × Value)) :
    prettyMembers level ((key, value) :: members) =
      lineBreak level ++ (literal key ++ ':' :: ' ' :: prettyText level value) ++
        members.flatMap fun member =>
          ',' ::
            (lineBreak level ++ (literal member.1 ++ ':' :: ' ' :: prettyText level member.2)) := by
  induction members generalizing key value with
  | nil => simp [prettyMembers]
  | cons next members ih =>
      obtain ⟨nextKey, nextValue⟩ := next
      simp [prettyMembers, ih]

theorem written_compactText {value : Value} (hproper : value.Proper) :
    Written value.tree.tokens value.compactText := by
  induction hproper with
  | null => exact .singleton .null
  | boolean value => exact .singleton (.boolean value)
  | number hspells => exact .singleton (.number hspells)
  | string value => exact written_literal value
  | @array items hitems ih =>
      cases items with
      | nil => exact .cons_char .openBracket (.singleton .closeBracket)
      | cons item items =>
          have hwritten := written_array blank_nil blank_nil ih
          simpa [compactText, compactItems_cons] using hwritten
  | @object members hmembers ih =>
      cases members with
      | nil => exact .cons_char .openBrace (.singleton .closeBrace)
      | cons member members =>
          obtain ⟨key, value⟩ := member
          have hwritten := written_object blank_nil blank_nil blank_nil ih
          simpa [compactText, compactMembers_cons] using hwritten

theorem blank_lineBreak (level : Nat) : Blank (lineBreak level) := by
  intro c hmem
  rcases List.mem_cons.mp hmem with rfl | hspaces
  · rfl
  · obtain ⟨-, rfl⟩ := List.mem_replicate.mp hspaces
    rfl

theorem written_prettyText {value : Value} (hproper : value.Proper) (level : Nat) :
    Written value.tree.tokens (value.prettyText level) := by
  -- Every part is indented one level deeper than the whole.
  induction hproper generalizing level with
  | null => exact .singleton .null
  | boolean value => exact .singleton (.boolean value)
  | number hspells => exact .singleton (.number hspells)
  | string value => exact written_literal value
  | @array items hitems ih =>
      cases items with
      | nil => exact .cons_char .openBracket (.singleton .closeBracket)
      | cons item items =>
          have hwritten := written_array (blank_lineBreak (level + 1)) (blank_lineBreak level)
            fun item hmem => ih item hmem (level + 1)
          simpa [prettyText, prettyItems_cons] using hwritten
  | @object members hmembers ih =>
      cases members with
      | nil => exact .cons_char .openBrace (.singleton .closeBrace)
      | cons member members =>
          obtain ⟨key, value⟩ := member
          have hspace : Blank [' '] := by simp [Blank, isBlank]
          have hwritten := written_object (blank_lineBreak (level + 1)) (blank_lineBreak level)
            hspace fun member hmem => ih member hmem (level + 1)
          simpa [prettyText, prettyMembers_cons] using hwritten

theorem writtenAs_compact {value : Value} (hproper : value.Proper) :
    value.tree.WrittenAs value.compact.toList :=
  ⟨value.compactText, [], by simp [compact], written_compactText hproper, blank_nil⟩

theorem writtenAs_pretty {value : Value} (hproper : value.Proper) :
    value.tree.WrittenAs value.pretty.toList :=
  ⟨value.prettyText 0, [], by simp [pretty], written_prettyText hproper 0, blank_nil⟩

end Value

end TypeProfile.Json
