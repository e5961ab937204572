import TypeProfile.Proofs.Json.Tree

/-!
# What is made of a tree

The outcome of reading a boolean or a word of a vocabulary, faults included, for every tree that may
stand in its place.
-/

namespace TypeProfile.Json

variable {α : Type}

/-- The boolean that a tree is read as. -/
def Tree.toBool : Tree → Except Fault Bool
  | boolean value => .ok value
  | other => refusal other.firstToken .boolean

/-- The value of a vocabulary that a literal is read as. -/
def Piece.toWord (words : Vocabulary α) (pieces : List Piece) : Except Fault α :=
  (Piece.text pieces).bind fun name =>
    match words.ofName? name with
    | some value => .ok value
    | none => .error (.misfit (.unknownWord name words.names))

/-- Only null is read as the value of a word that stands as a key. -/
def Tree.toUnit : Tree → Except Fault Unit
  | null => .ok ()
  | other => refusal other.firstToken .unit

/-- The value of a vocabulary that a tree is read as. A second member is at fault only after the
first has been read. -/
def Tree.toWord (words : Vocabulary α) : Tree → Except Fault α
  | string pieces => Piece.toWord words pieces
  | object ((pieces, value) :: members) =>
      (Piece.toWord words pieces).bind fun word => value.toUnit.bind fun _ =>
        if members.isEmpty then .ok word else .error .malformed
  | _ => .error .malformed

theorem Tree.toBool_eq_ok_iff {tree : Tree} {value : Bool} :
    tree.toBool = .ok value ↔ tree = .boolean value := by
  cases tree <;> simp [toBool, refusal_ne_ok]

theorem Piece.toWord_eq_ok_iff {words : Vocabulary α} {pieces : List Piece} {value : α} :
    Piece.toWord words pieces = .ok value ↔
      Piece.decode pieces = some (words.name value).toList := by
  rw [← Piece.text_eq_ok_iff, toWord, bind_eq_ok_iff]
  constructor
  · rintro ⟨name, htext, hword⟩
    cases hname : words.ofName? name with
    | some found =>
        rw [hname] at hword
        cases hword
        rwa [words.ofName?_eq_some_iff.mp hname]
    | none =>
        rw [hname] at hword
        cases hword
  · intro htext
    exact ⟨_, htext, by rw [words.ofName?_name]⟩

theorem Tree.toUnit_eq_ok_iff {tree : Tree} {value : Unit} :
    tree.toUnit = .ok value ↔ tree = .null := by
  cases tree <;> simp [toUnit, refusal_ne_ok]

/-- A word is read from a literal, or from an object with no other member whose value is null. -/
theorem Tree.toWord_eq_ok_iff {words : Vocabulary α} {tree : Tree} {value : α} :
    tree.toWord words = .ok value ↔
      ∃ pieces, Piece.decode pieces = some (words.name value).toList ∧
        (tree = .string pieces ∨ tree = .object [(pieces, .null)]) := by
  match tree with
  | string pieces => simp [toWord, Piece.toWord_eq_ok_iff]
  | null | boolean _ | number _ | array _ | object [] => simp [toWord]
  | object ((pieces, unit) :: members) =>
      simp only [toWord, bind_eq_ok_iff, toUnit_eq_ok_iff, Piece.toWord_eq_ok_iff]
      constructor
      · rintro ⟨word, hword, -, rfl, hmembers⟩
        cases members with
        | nil =>
            obtain rfl := Except.ok.inj hmembers
            exact ⟨pieces, hword, .inr rfl⟩
        | cons member members => cases hmembers
      · rintro ⟨_, hword, htree⟩
        rcases htree with htree | htree <;> cases htree
        exact ⟨value, hword, (), rfl, rfl⟩

theorem Tree.boolean_gives (tree : Tree) : Gives Codec.boolean.read tree.tokens tree.toBool := by
  cases tree with
  | boolean value => exact .token_bind (.pure value)
  | _ =>
      obtain ⟨others, htokens⟩ := Tree.exists_tokens_eq _
      rw [htokens]
      exact .token_bind (refuse_gives _ _ others)

theorem lookUp_gives (words : Vocabulary α) (pieces : List Piece) :
    Gives (Codec.lookUp words pieces) [] (Piece.toWord words pieces) := by
  apply (textOf_gives pieces).bind
  intro name _
  cases words.ofName? name with
  | some value => exact .pure value
  | none => exact .fail _ []

theorem Tree.word_gives (words : Vocabulary α) (tree : Tree) :
    Gives (Codec.word words).read tree.tokens (tree.toWord words) := by
  match tree with
  | string pieces => exact .token_bind (lookUp_gives words pieces)
  | null | boolean _ | number _ => exact .token_bind (.fail .malformed _)
  | array [] | array (_ :: _) => exact .token_bind (.fail .malformed _)
  | object [] => exact .token_bind (.token_bind (.fail_bind .malformed _ _))
  | object ((pieces, value) :: members) =>
      refine .token_bind (.token_bind ((lookUp_gives words pieces).bind fun word _ => ?_))
      apply Gives.expectToken_bind
      cases value with
      | null =>
          -- The word is taken, and a second member is found only now.
          apply Gives.token_bind
          cases members with
          | nil => exact .expectToken_bind (.pure word)
          | cons member members =>
              obtain ⟨key, next⟩ := member
              have hdiffers : Token.comma ≠ .closeBrace := nofun
              exact .expectToken_bind_of_ne hdiffers _ _
      | _ =>
          obtain ⟨others, htokens⟩ := Tree.exists_tokens_eq _
          simp only [toUnit, refusal_bind]
          rw [htokens]
          exact .token_bind (refuse_bind_gives _ _ _ _)

end TypeProfile.Json
