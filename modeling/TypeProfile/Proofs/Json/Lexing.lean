import TypeProfile.Json.Codec
import TypeProfile.Proofs.Json.Literal
import TypeProfile.Proofs.Json.Numeral

/-!
# Ways to write tokens

Tokens are written one after another with any blanks between them. Two numbers need something
between them, and nothing else does, so a reader that looks at a text through its tokens does the
same on every way of writing them.
-/

namespace TypeProfile.Json

/-- Spaces, tabs and line breaks. -/
def Blank (text : List Char) : Prop :=
  ∀ c ∈ text, isBlank c

theorem isBlank_of_startsNumber {c : Char} (hstarts : startsNumber c = true) :
    isBlank c = false := by
  rw [isBlank, ← Bool.not_eq_true]
  intro hblank
  simp only [Bool.or_eq_true, beq_iff_eq] at hblank
  rcases hblank with ((rfl | rfl) | rfl) | rfl <;> cases hstarts

theorem continues_of_isBlank {c : Char} (hblank : isBlank c = true) :
    Number.continues c = false := by
  simp only [isBlank, Bool.or_eq_true, beq_iff_eq] at hblank
  rcases hblank with ((rfl | rfl) | rfl) | rfl <;> rfl

namespace Token

/-- The ways to write one token. -/
inductive Spells : Token → List Char → Prop
  | openBrace : Spells .openBrace ['\x7b']
  | closeBrace : Spells .closeBrace ['\x7d']
  | openBracket : Spells .openBracket ['[']
  | closeBracket : Spells .closeBracket [']']
  | colon : Spells .colon [':']
  | comma : Spells .comma [',']
  | null : Spells .null "null".toList
  | boolean (value : Bool) : Spells (.boolean value) (truth.name value).toList
  | number {value : Number} {text : List Char} (hspells : value.Spells text) :
      Spells (.number value) text
  | string {pieces : List Piece} {text : List Char} (hspells : Piece.SpellsAll pieces text) :
      Spells (.string pieces) ('"' :: (text ++ ['"']))

/-- A token that a digit or a point after it would become a part of. -/
def isNumber : Token → Bool
  | number _ => true
  | _ => false

theorem exists_of_isNumber {token : Token} (hnumber : token.isNumber = true) :
    ∃ value, token = .number value := by
  cases token with
  | number value => exact ⟨value, rfl⟩
  | _ => cases hnumber

/-- A token that is no number is found from its first character on, whatever follows it. -/
theorem Spells.run_tokenFrom {token : Token} {spelling : List Char}
    (hspells : token.Spells spelling) (hnumber : token.isNumber = false) :
    ∃ c tail, spelling = c :: tail ∧ startsNumber c = false ∧ isBlank c = false ∧
      Number.continues c = false ∧
      ∀ rest, (tokenFrom c).run (tail ++ rest) = .ok (token, rest) := by
  cases hspells with
  | openBrace => exact ⟨_, _, rfl, rfl, rfl, rfl, fun _ => rfl⟩
  | closeBrace => exact ⟨_, _, rfl, rfl, rfl, rfl, fun _ => rfl⟩
  | openBracket => exact ⟨_, _, rfl, rfl, rfl, rfl, fun _ => rfl⟩
  | closeBracket => exact ⟨_, _, rfl, rfl, rfl, rfl, fun _ => rfl⟩
  | colon => exact ⟨_, _, rfl, rfl, rfl, rfl, fun _ => rfl⟩
  | comma => exact ⟨_, _, rfl, rfl, rfl, rfl, fun _ => rfl⟩
  | null => exact ⟨_, _, rfl, rfl, rfl, rfl, fun _ => rfl⟩
  | boolean value => cases value <;> exact ⟨_, _, rfl, rfl, rfl, rfl, fun _ => rfl⟩
  | number hspells => cases hnumber
  | string hspells =>
      refine ⟨_, _, rfl, rfl, rfl, rfl, fun rest => ?_⟩
      rw [List.append_assoc]
      exact Scan.run_map_of_ok _ (Piece.run_pieces hspells rest)

theorem run_token_append {blanks text : List Char} (hblanks : Blank blanks)
    (hstops : ∀ c, text.head? = some c → isBlank c = false) :
    token.run (blanks ++ text) =
      (if (text.head?.any startsNumber) = true then Token.number <$> numeral
        else anyChar >>= tokenFrom).run text := by
  rw [token, Scan.run_bind_of_ok (Scan.run_span_append hblanks hstops),
    Scan.run_bind_of_ok (Scan.run_remaining text)]

/-- Blanks before a token are taken with it. -/
theorem Spells.run_token {token : Token} {blanks spelling rest : List Char}
    (hspells : token.Spells spelling) (hblanks : Blank blanks)
    (hends : token.isNumber = true → Number.Ends rest) :
    Json.token.run (blanks ++ (spelling ++ rest)) = .ok (token, rest) := by
  cases hnumber : token.isNumber with
  | true =>
    obtain ⟨number, rfl⟩ := Token.exists_of_isNumber hnumber
    cases hspells with
    | number hspells =>
        obtain ⟨c, hhead, hstarts⟩ := hspells.head?_append rest
        rw [run_token_append hblanks, if_pos]
        · exact Scan.run_map_of_ok _ (Number.run_numeral hspells (hends rfl))
        · rw [hhead]
          exact hstarts
        · intro first hfirst
          cases hhead.symm.trans hfirst
          exact isBlank_of_startsNumber hstarts
  | false =>
    obtain ⟨c, tail, rfl, hstarts, hblank, -, hread⟩ := hspells.run_tokenFrom hnumber
    rw [List.cons_append, run_token_append hblanks, if_neg]
    · exact (Scan.run_bind_of_ok (Scan.run_next_cons _ c _)).trans (hread rest)
    · simp [hstarts]
    · rintro first ⟨⟩
      exact hblank

end Token

/-- The ways to write tokens one after another. -/
inductive Written : List Token → List Char → Prop
  | nil : Written [] []
  | cons {token : Token} {tokens : List Token} {blanks spelling text : List Char}
      (hblanks : Blank blanks) (hspells : token.Spells spelling) (htext : Written tokens text) :
      Written (token :: tokens) (blanks ++ (spelling ++ text))

/-- The tokens stand at the front of the text, with the rest after them. What follows a number
does not go on with it. -/
inductive Leads : List Token → List Char → List Char → Prop
  | nil (text : List Char) : Leads [] text text
  | cons {token : Token} {tokens : List Token} {blanks spelling text rest : List Char}
      (hblanks : Blank blanks) (hspells : token.Spells spelling)
      (hends : token.isNumber = true → Number.Ends text) (htext : Leads tokens text rest) :
      Leads (token :: tokens) (blanks ++ (spelling ++ text)) rest

namespace Leads

theorem split {first second : List Token} {text rest : List Char}
    (hleads : Leads (first ++ second) text rest) :
    ∃ middle, Leads first text middle ∧ Leads second middle rest := by
  induction first generalizing text with
  | nil => exact ⟨text, .nil text, hleads⟩
  | cons token first ih =>
      cases hleads with
      | cons hblanks hspells hends htext =>
          obtain ⟨middle, hfirst, hsecond⟩ := ih htext
          exact ⟨middle, .cons hblanks hspells hends hfirst, hsecond⟩

theorem run_token {token : Token} {tokens : List Token} {text rest : List Char}
    (hleads : Leads (token :: tokens) text rest) :
    ∃ middle, Json.token.run text = .ok (token, middle) ∧ Leads tokens middle rest := by
  cases hleads with
  | @cons _ _ blanks spelling middle _ hblanks hspells hends htext =>
      exact ⟨middle, hspells.run_token hblanks hends, htext⟩

end Leads

/-- A text of tokens in which no number is followed by another. -/
inductive Apart : List Token → Prop
  | nil : Apart []
  | singleton (token : Token) : Apart [token]
  | cons {first second : Token} {tokens : List Token}
      (hnumber : first.isNumber = true → second.isNumber = false)
      (htokens : Apart (second :: tokens)) :
      Apart (first :: second :: tokens)

/-- The first character of a token that is no number, or of the blanks before it. -/
theorem Written.ends {token : Token} {tokens : List Token} {text : List Char}
    (hwritten : Written (token :: tokens) text) (hnumber : token.isNumber = false)
    (rest : List Char) :
    Number.Ends (text ++ rest) := by
  cases hwritten with
  | @cons _ _ blanks _ _ hblanks hspells htext =>
      cases blanks with
      | nil =>
          obtain ⟨c, tail, rfl, -, -, hcontinues, -⟩ := hspells.run_tokenFrom hnumber
          exact Number.ends_cons hcontinues _
      | cons c blanks =>
          exact Number.ends_cons (continues_of_isBlank (hblanks c List.mem_cons_self)) _

/-- In whatever way tokens are written, they stand at the front of the text. Only after a number at
the end does it matter what the rest begins with. -/
theorem Written.leads {tokens : List Token} {text rest : List Char} (hwritten : Written tokens text)
    (hapart : Apart tokens)
    (hrest : ∀ last ∈ tokens.getLast?, last.isNumber = true → Number.Ends rest) :
    Leads tokens (text ++ rest) rest := by
  induction hwritten with
  | nil => exact .nil rest
  | cons hblanks hspells htext ih =>
      rw [List.append_assoc, List.append_assoc]
      cases hapart with
      | singleton =>
          cases htext
          exact .cons hblanks hspells (hrest _ rfl) (.nil rest)
      | cons hdiffers hapart =>
          have hends := ih hapart fun last hlast =>
            hrest last ((List.getLast?_cons_cons).trans hlast)
          exact .cons hblanks hspells (fun hnumber => htext.ends (hdiffers hnumber) rest) hends

end TypeProfile.Json
