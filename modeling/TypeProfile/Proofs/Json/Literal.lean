import Mathlib.Data.List.Basic
import TypeProfile.Json.Token

/-!
# Ways to write a string

Between its quotes, a character may be written as itself, by an escape letter or by its number.
Reading finds the pieces in whatever way they are written, and the text that the pieces stand for.
-/

namespace TypeProfile.Json

/-- The letters of escapes, each with the character that it stands for. -/
def escapeLetters : List (Char × Char) :=
  [ ('"', '"'), ('\\', '\\'), ('/', '/'), ('b', '\x08'), ('f', '\x0c'), ('n', '\n'), ('r', '\r'),
    ('t', '\t') ]

namespace Piece

/-- The ways to write one piece of a literal. -/
inductive Spells : Piece → List Char → Prop
  | plain {c : Char} (hquote : c ≠ '"') (hbackslash : c ≠ '\\') (hcontrol : 0x20 ≤ c.toNat) :
      Spells (.char c) [c]
  | letter {letter c : Char} (hletter : (letter, c) ∈ escapeLetters) :
      Spells (.char c) ['\\', letter]
  | digits {a b c d : Char} {i j k l : Nat} (ha : Text.hexValue? a = some i)
      (hb : Text.hexValue? b = some j) (hc : Text.hexValue? c = some k)
      (hd : Text.hexValue? d = some l) :
      Spells (.unit (((i * 16 + j) * 16 + k) * 16 + l)) ['\\', 'u', a, b, c, d]

/-- The ways to write pieces one after another. -/
inductive SpellsAll : List Piece → List Char → Prop
  | nil : SpellsAll [] []
  | cons {piece : Piece} {pieces : List Piece} {first text : List Char}
      (hfirst : piece.Spells first) (htext : SpellsAll pieces text) :
      SpellsAll (piece :: pieces) (first ++ text)

/-- The upper of the two units that stand for a character beyond 16 bits. -/
def highUnit (c : Char) : Nat :=
  0xd800 + (c.toNat - 0x10000) / 0x400

/-- The lower of the two units that stand for a character beyond 16 bits. -/
def lowUnit (c : Char) : Nat :=
  0xdc00 + (c.toNat - 0x10000) % 0x400

/-- The text that pieces stand for. A surrogate without its partner stands for nothing. -/
inductive Denotes : List Piece → List Char → Prop
  | nil : Denotes [] []
  | char {c : Char} {pieces : List Piece} {text : List Char} (htext : Denotes pieces text) :
      Denotes (.char c :: pieces) (c :: text)
  | unit {c : Char} {pieces : List Piece} {text : List Char} (hsmall : c.toNat < 0x10000)
      (htext : Denotes pieces text) : Denotes (.unit c.toNat :: pieces) (c :: text)
  | pair {c : Char} {pieces : List Piece} {text : List Char} (hlarge : 0x10000 ≤ c.toNat)
      (htext : Denotes pieces text) :
      Denotes (.unit (highUnit c) :: .unit (lowUnit c) :: pieces) (c :: text)

/-- Every unit has 16 bits. -/
def Narrow (pieces : List Piece) : Prop :=
  ∀ value, .unit value ∈ pieces → value < 0x10000

/-! ## What pieces stand for -/

theorem toNat_ofNat {value : Nat} (hvalid : value.isValidChar) :
    (Char.ofNat value).toNat = value := by
  rw [Char.ofNat, dif_pos hvalid]
  rfl

theorem isValidChar_toNat (c : Char) : c.toNat.isValidChar :=
  c.valid

theorem scalar?_toNat {c : Char} : scalar? c.toNat = some c := by
  have hvalid : c.toNat < 0xd800 ∨ 0xdfff < c.toNat := by
    have := isValidChar_toNat c
    unfold Nat.isValidChar at this
    omega
  rw [scalar?, if_pos hvalid, Char.ofNat_toNat]

theorem toNat_of_scalar? {value : Nat} {c : Char} (hnarrow : value < 0x10000)
    (hscalar : scalar? value = some c) : c.toNat = value := by
  unfold scalar? at hscalar
  split at hscalar
  next hvalid =>
    cases hscalar
    apply toNat_ofNat
    unfold Nat.isValidChar
    omega
  · cases hscalar

theorem scalar?_highUnit (c : Char) : scalar? (highUnit c) = none := by
  have := isValidChar_toNat c
  unfold Nat.isValidChar at this
  rw [scalar?, if_neg]
  unfold highUnit
  omega

theorem pair?_units {c : Char} (hlarge : 0x10000 ≤ c.toNat) :
    pair? (highUnit c) (lowUnit c) = some c := by
  have := isValidChar_toNat c
  unfold Nat.isValidChar at this
  have hsum : 0x10000 + (highUnit c - 0xd800) * 0x400 + (lowUnit c - 0xdc00) = c.toNat := by
    unfold highUnit lowUnit
    omega
  rw [pair?, if_pos, hsum, Char.ofNat_toNat]
  unfold highUnit lowUnit
  omega

theorem units_of_pair? {high low : Nat} {c : Char} (hpair : pair? high low = some c) :
    0x10000 ≤ c.toNat ∧ high = highUnit c ∧ low = lowUnit c := by
  unfold pair? at hpair
  split at hpair
  next hranges =>
    obtain rfl := Option.some.inj hpair
    have hvalue := @toNat_ofNat (0x10000 + (high - 0xd800) * 0x400 + (low - 0xdc00)) (by
      unfold Nat.isValidChar
      omega)
    unfold highUnit lowUnit
    rw [hvalue]
    omega
  · cases hpair

theorem decode_of_denotes {pieces : List Piece} {text : List Char}
    (hdenotes : Denotes pieces text) :
    decode pieces = some text := by
  induction hdenotes with
  | nil => rfl
  | char htext ih => simp [decode, ih]
  | unit hsmall htext ih =>
      rw [decode.eq_def]
      simp only [scalar?_toNat, ih, Option.map_some]
  | pair hlarge htext ih => simp [decode, scalar?_highUnit, pair?_units hlarge, ih]

theorem Narrow.tail {piece : Piece} {pieces : List Piece} (hnarrow : Narrow (piece :: pieces)) :
    Narrow pieces :=
  fun value hmem => hnarrow value (List.mem_cons_of_mem _ hmem)

theorem denotes_of_decode {pieces : List Piece} {text : List Char} (hnarrow : Narrow pieces)
    (hdecode : decode pieces = some text) : Denotes pieces text := by
  fun_induction decode pieces generalizing text with
  | case1 =>
      cases hdecode
      exact .nil
  | case2 c pieces ih =>
      obtain ⟨text, hrest, rfl⟩ := Option.map_eq_some_iff.mp hdecode
      exact .char (ih hnarrow.tail hrest)
  | case3 value pieces c hscalar ih =>
      obtain ⟨text, hrest, rfl⟩ := Option.map_eq_some_iff.mp hdecode
      have hsmall : value < 0x10000 := hnarrow value List.mem_cons_self
      have hvalue : c.toNat = value := toNat_of_scalar? hsmall hscalar
      rw [← hvalue] at hsmall ⊢
      exact .unit hsmall (ih hnarrow.tail hrest)
  | case4 value hnone second pieces ih =>
      -- The unit is no character by itself, so the two stand for one together.
      obtain ⟨c, hpair, hmap⟩ := Option.bind_eq_some_iff.mp hdecode
      obtain ⟨text, hrest, rfl⟩ := Option.map_eq_some_iff.mp hmap
      obtain ⟨hlarge, hhigh, hlow⟩ := units_of_pair? hpair
      rw [hhigh, hlow]
      exact .pair hlarge (ih hnarrow.tail.tail hrest)
  | case5 => cases hdecode

/-- Of pieces that a text can spell, reading finds exactly the text that they stand for. -/
theorem decode_eq_some_iff {pieces : List Piece} {text : List Char} (hnarrow : Narrow pieces) :
    decode pieces = some text ↔ Denotes pieces text :=
  ⟨denotes_of_decode hnarrow, decode_of_denotes⟩

/-! ## Reading pieces -/

theorem hexValue?_lt {c : Char} {value : Nat} (hvalue : Text.hexValue? c = some value) :
    value < 16 := by
  unfold Text.hexValue? at hvalue
  split at hvalue
  next hdigit =>
    have : 48 ≤ c.toNat ∧ c.toNat ≤ 57 := by
      simpa [Char.isDigit, UInt32.le_iff_toNat_le] using hdigit
    cases hvalue
    simp
    omega
  next =>
    split at hvalue
    next hlower =>
      have : 97 ≤ c.toNat ∧ c.toNat ≤ 102 := hlower
      cases hvalue
      simp
      omega
    next =>
      split at hvalue
      next hupper =>
        have : 65 ≤ c.toNat ∧ c.toNat ≤ 70 := hupper
        cases hvalue
        simp
        omega
      · cases hvalue

theorem SpellsAll.narrow {pieces : List Piece} {text : List Char}
    (hspells : SpellsAll pieces text) : Narrow pieces := by
  induction hspells with
  | nil => nofun
  | cons hfirst htext ih =>
      intro value hmem
      rcases List.mem_cons.mp hmem with rfl | htail
      · cases hfirst with
        | digits ha hb hc hd =>
            have := hexValue?_lt ha
            have := hexValue?_lt hb
            have := hexValue?_lt hc
            have := hexValue?_lt hd
            omega
      · exact ih value htail

theorem run_escapeSequence_letter {letter c : Char} (hletter : (letter, c) ∈ escapeLetters)
    (text : List Char) : escapeSequence.run (letter :: text) = .ok (.char c, text) := by
  simp only [escapeLetters, List.mem_cons, Prod.mk.injEq, List.not_mem_nil, or_false] at hletter
  rcases hletter with ⟨rfl, rfl⟩ | ⟨rfl, rfl⟩ | ⟨rfl, rfl⟩ | ⟨rfl, rfl⟩ | ⟨rfl, rfl⟩ |
    ⟨rfl, rfl⟩ | ⟨rfl, rfl⟩ | ⟨rfl, rfl⟩ <;> rfl

theorem run_hexDigit {c : Char} {value : Nat} (hvalue : Text.hexValue? c = some value)
    (text : List Char) : hexDigit.run (c :: text) = .ok (value, text) := by
  rw [hexDigit, anyChar, Scan.run_bind_of_ok (Scan.run_next_cons _ c text), hvalue]
  rfl

theorem run_escapeSequence_digits {a b c d : Char} {i j k l : Nat}
    (ha : Text.hexValue? a = some i) (hb : Text.hexValue? b = some j)
    (hc : Text.hexValue? c = some k) (hd : Text.hexValue? d = some l) (text : List Char) :
    escapeSequence.run ('u' :: a :: b :: c :: d :: text) =
      .ok (.unit (((i * 16 + j) * 16 + k) * 16 + l), text) := by
  rw [escapeSequence, anyChar, Scan.run_bind_of_ok (Scan.run_next_cons _ 'u' _)]
  simp only
  rw [Scan.run_bind_of_ok (run_hexDigit ha _), Scan.run_bind_of_ok (run_hexDigit hb _),
    Scan.run_bind_of_ok (run_hexDigit hc _), Scan.run_bind_of_ok (run_hexDigit hd _)]
  rfl

theorem run_pieceStep {piece : Piece} {spelling : List Char} (hspells : piece.Spells spelling)
    (taken : List Piece) (rest : List Char) :
    (pieceStep taken).run (spelling ++ rest) = .ok (.inl (piece :: taken), rest) := by
  cases hspells with
  | @plain c hquote hbackslash hcontrol =>
      rw [pieceStep, anyChar, List.singleton_append,
        Scan.run_bind_of_ok (Scan.run_next_cons _ c rest)]
      -- The step looks for a quote and for a backslash first.
      split
      · contradiction
      · contradiction
      · rw [if_neg (Nat.not_lt.mpr hcontrol)]
        rfl
  | @letter letter c hletter =>
      exact Scan.run_bind_of_ok (run_escapeSequence_letter hletter rest)
  | @digits a b c d i j k l ha hb hc hd =>
      exact Scan.run_bind_of_ok (run_escapeSequence_digits ha hb hc hd rest)

theorem run_pieces_from {pieces : List Piece} {text : List Char} (hspells : SpellsAll pieces text)
    (taken : List Piece) (rest : List Char) :
    (Scan.iterate pieceStep (fun state => (pieceStep_progresses state).advances) taken).run
      (text ++ '"' :: rest) = .ok (taken.reverse ++ pieces, rest) := by
  induction hspells generalizing taken with
  | nil =>
      rw [Scan.run_iterate, List.append_nil]
      rfl
  | @cons piece pieces first text hfirst htext ih =>
      rw [Scan.run_iterate, List.append_assoc, run_pieceStep hfirst taken]
      simpa using ih (piece :: taken)

/-- In whatever way pieces are written, they are what reading finds up to the closing quote. -/
theorem run_pieces {pieces : List Piece} {text : List Char} (hspells : SpellsAll pieces text)
    (rest : List Char) : Json.pieces.run (text ++ '"' :: rest) = .ok (pieces, rest) :=
  run_pieces_from hspells [] rest

/-! ## Written texts -/

/-- The piece that stands for a character in a written text. -/
def ofChar (c : Char) : Piece :=
  if (shortEscape? c).isNone ∧ c.toNat < 0x20 then .unit c.toNat else .char c

theorem mem_escapeLetters {letter c : Char} (hshort : shortEscape? c = some letter) :
    (letter, c) ∈ escapeLetters := by
  unfold shortEscape? at hshort
  split at hshort <;> cases hshort <;> decide

theorem spells_escape (c : Char) : (ofChar c).Spells (escape c) := by
  unfold ofChar escape
  cases hshort : shortEscape? c with
  | some letter => exact .letter (mem_escapeLetters hshort)
  | none =>
      by_cases hcontrol : c.toNat < 0x20
      · have hzero : Text.hexValue? '0' = some 0 := rfl
        have hhigh := Text.hexValue?_digitChar (by omega : c.toNat / 16 < 16)
        have hlow := Text.hexValue?_digitChar (by omega : c.toNat % 16 < 16)
        have hvalue : ((0 * 16 + 0) * 16 + c.toNat / 16) * 16 + c.toNat % 16 = c.toNat := by omega
        have hdigits := Spells.digits hzero hzero hhigh hlow
        rw [hvalue] at hdigits
        simpa [hcontrol] using hdigits
      · have hquote : c ≠ '"' := by
          rintro rfl
          cases hshort
        have hbackslash : c ≠ '\\' := by
          rintro rfl
          cases hshort
        simpa [hcontrol] using Spells.plain hquote hbackslash (Nat.not_lt.mp hcontrol)

theorem spellsAll_flatMap_escape (text : List Char) :
    SpellsAll (text.map ofChar) (text.flatMap escape) := by
  induction text with
  | nil => exact .nil
  | cons c text ih => exact .cons (spells_escape c) ih

theorem denotes_map_ofChar (text : List Char) : Denotes (text.map ofChar) text := by
  induction text with
  | nil => exact .nil
  | cons c text ih =>
      rw [List.map_cons, ofChar]
      split
      next hcontrol => exact .unit (by omega) ih
      next => exact .char ih

/-- The pieces of a text as it is written. -/
def ofText (text : String) : List Piece :=
  text.toList.map ofChar

@[simp] theorem decode_ofText (text : String) : decode (ofText text) = some text.toList :=
  decode_of_denotes (denotes_map_ofChar text.toList)

theorem denotes_ofText (text : String) : Denotes (ofText text) text.toList :=
  denotes_map_ofChar text.toList

theorem not_denotes_ofText {text name : String} (hdiffers : text ≠ name) :
    ¬Denotes (ofText text) name.toList := by
  intro hdenotes
  have hdecode := (decode_ofText text).symm.trans (decode_of_denotes hdenotes)
  exact hdiffers (String.toList_injective (Option.some.inj hdecode))

end Piece

end TypeProfile.Json
