import TypeProfile.Toml.Document

/-!
# Ways to write strings and keys

Between double quotes, a character may be written as itself, by an escape letter or by its number in
four or eight digits. A key may be written bare or as a string in double quotes. Reading finds the
same text in whatever way it is written.
-/

namespace TypeProfile.Toml

/-- The letters of escapes, each with the character that it stands for. -/
def escapeLetters : List (Char × Char) :=
  [ ('b', '\x08'), ('t', '\t'), ('n', '\n'), ('f', '\x0c'), ('r', '\r'), ('"', '"'), ('\\', '\\') ]

/-- The number that digits in base sixteen write behind those of another number. -/
inductive Numeral : Nat → List Char → Nat → Prop
  | nil (value : Nat) : Numeral value [] value
  | cons {digit : Char} {value place final : Nat} {digits : List Char}
      (hdigit : Text.hexValue? digit = some place)
      (hdigits : Numeral (16 * value + place) digits final) : Numeral value (digit :: digits) final

/-- The ways to write a character of a string in double quotes. -/
inductive Spells : Char → List Char → Prop
  | plain {c : Char} (hquote : c ≠ '"') (hbackslash : c ≠ '\\') (hplain : isPlain c = true) :
      Spells c [c]
  | letter {letter c : Char} (hletter : (letter, c) ∈ escapeLetters) : Spells c ['\\', letter]
  | short {c : Char} {digits : List Char} (hlength : digits.length = 4)
      (hnumber : Numeral 0 digits c.toNat) : Spells c ('\\' :: 'u' :: digits)
  | long {c : Char} {digits : List Char} (hlength : digits.length = 8)
      (hnumber : Numeral 0 digits c.toNat) : Spells c ('\\' :: 'U' :: digits)

/-- The ways to write the characters of a text one after another. -/
inductive SpellsAll : List Char → List Char → Prop
  | nil : SpellsAll [] []
  | cons {c : Char} {first text spelling : List Char} (hfirst : Spells c first)
      (htext : SpellsAll text spelling) : SpellsAll (c :: text) (first ++ spelling)

/-- The ways to write a key, its first character apart from the others. -/
inductive SpellsKey : String → Char → List Char → Prop
  | bare {c : Char} {others : List Char} (hbare : ∀ d ∈ c :: others, isBareKeyChar d = true) :
      SpellsKey (String.ofList (c :: others)) c others
  | quoted {text spelling : List Char} (hspells : SpellsAll text spelling) :
      SpellsKey (String.ofList text) '"' (spelling ++ ['"'])

/-- Spaces and tabs, or nothing. -/
def Blank (text : List Char) : Prop :=
  ∀ c ∈ text, isBlank c = true

theorem blank_nil : Blank [] := nofun

/-- Blanks do not begin with any other character. -/
theorem Blank.head?_append_ne {gap : List Char} (hgap : Blank gap) {c : Char}
    (hc : isBlank c = false) {rest : List Char} (hrest : rest.head? ≠ some c) :
    (gap ++ rest).head? ≠ some c := by
  cases gap with
  | nil => exact hrest
  | cons first gap =>
      rintro ⟨⟩
      rw [hgap c List.mem_cons_self] at hc
      cases hc

/-! ## Strings -/

theorem run_hexNumber {value final : Nat} {digits : List Char}
    (hnumber : Numeral value digits final) (rest : List Char) :
    (hexNumber digits.length value).run (digits ++ rest) = .ok (final, rest) := by
  induction hnumber with
  | nil value => rfl
  | @cons digit value place final digits hdigit hdigits ih =>
      rw [List.length_cons, hexNumber, List.cons_append, anyChar,
        Scan.run_bind_of_ok (Scan.run_next_cons _ digit _), hdigit]
      exact ih

theorem run_charOfNumber (c : Char) (text : List Char) :
    (charOfNumber c.toNat).run text = .ok (c, text) := by
  have hvalid : c.toNat.isValidChar := c.valid
  rw [charOfNumber, if_pos hvalid, Char.ofNat_toNat]
  rfl

theorem run_escapeFrom_letter {letter c : Char} (hletter : (letter, c) ∈ escapeLetters)
    (text : List Char) : (escapeFrom letter).run text = .ok (c, text) := by
  simp only [escapeLetters, List.mem_cons, Prod.mk.injEq, List.not_mem_nil, or_false] at hletter
  rcases hletter with ⟨rfl, rfl⟩ | ⟨rfl, rfl⟩ | ⟨rfl, rfl⟩ | ⟨rfl, rfl⟩ | ⟨rfl, rfl⟩ |
    ⟨rfl, rfl⟩ | ⟨rfl, rfl⟩ <;> rfl

/-- The digits after either of the marks. -/
theorem run_number {c : Char} {digits : List Char} (hnumber : Numeral 0 digits c.toNat)
    (rest : List Char) :
    (hexNumber digits.length 0 >>= charOfNumber).run (digits ++ rest) = .ok (c, rest) := by
  rw [Scan.run_bind_of_ok (run_hexNumber hnumber rest), run_charOfNumber]

theorem run_basicStep_escape {mark c : Char} {text tail rest : List Char}
    (hescape : (escapeFrom mark).run tail = .ok (c, rest)) :
    (basicStep text).run ('\\' :: mark :: tail) = .ok (.inl (c :: text), rest) :=
  Scan.run_bind_of_ok hescape

theorem run_basicStep {c : Char} {spelling : List Char} (hspells : Spells c spelling)
    (text rest : List Char) :
    (basicStep text).run (spelling ++ rest) = .ok (.inl (c :: text), rest) := by
  cases hspells with
  | plain hquote hbackslash hplain =>
      rw [basicStep, anyChar, List.singleton_append,
        Scan.run_bind_of_ok (Scan.run_next_cons _ c rest)]
      split
      · contradiction
      · contradiction
      · rw [if_pos hplain]
        rfl
  | letter hletter => exact run_basicStep_escape (run_escapeFrom_letter hletter rest)
  | short hlength hnumber =>
      apply run_basicStep_escape
      have hdigits := run_number hnumber rest
      rwa [hlength] at hdigits
  | long hlength hnumber =>
      apply run_basicStep_escape
      have hdigits := run_number hnumber rest
      rwa [hlength] at hdigits

theorem run_basicString_from {text spelling : List Char} (hspells : SpellsAll text spelling)
    (taken rest : List Char) :
    (Scan.iterate basicStep basicStep_advances taken).run (spelling ++ '"' :: rest) =
      .ok (taken.reverse ++ text, rest) := by
  induction hspells generalizing taken with
  | nil =>
      rw [Scan.run_iterate, List.append_nil]
      rfl
  | @cons c first text spelling hfirst htext ih =>
      rw [Scan.run_iterate, List.append_assoc, run_basicStep hfirst taken]
      simpa using ih (c :: taken)

/-- In whatever way a text is written, it is what reading finds up to the closing quote. -/
theorem run_basicString {text spelling : List Char} (hspells : SpellsAll text spelling)
    (rest : List Char) : basicString.run (spelling ++ '"' :: rest) = .ok (text, rest) :=
  run_basicString_from hspells [] rest

theorem SpellsAll.head?_ne {text spelling : List Char} (hspells : SpellsAll text spelling) :
    spelling.head? ≠ some '"' := by
  cases hspells with
  | nil => exact nofun
  | cons hfirst htext =>
      cases hfirst with
      | plain hquote => simpa using hquote
      | letter | short | long => simp

/-- An empty string is not taken for the beginning of one over several lines, unless a third quote
follows. -/
theorem run_doubleQuoted {text spelling rest : List Char} (hspells : SpellsAll text spelling)
    (hrest : rest.head? ≠ some '"') :
    doubleQuoted.run (spelling ++ '"' :: rest) = .ok (.string (String.ofList text), rest) := by
  have haccept : (Scan.accept ['"', '"'] : Read Bool).run (spelling ++ '"' :: rest) =
      .ok (false, spelling ++ '"' :: rest) := by
    cases hspelling : spelling with
    | nil =>
        cases rest with
        | nil => rfl
        | cons c rest =>
            have hother : '"' ≠ c := fun hsame => hrest (congrArg some hsame.symm)
            simp [Scan.accept, hother]
    | cons c spelling =>
        have hhead := hspells.head?_ne
        rw [hspelling] at hhead
        exact Scan.run_accept_of_head? hhead
  rw [doubleQuoted, Scan.run_bind_of_ok haccept]
  exact Scan.run_bind_of_ok (run_basicString hspells rest)

/-! ## Blanks and keys -/

theorem run_blanks {gap rest : List Char} (hgap : Blank gap)
    (hstops : ∀ c, rest.head? = some c → isBlank c = false) :
    blanks.run (gap ++ rest) = .ok ((), rest) :=
  Scan.run_bind_of_ok (Scan.run_span_append hgap hstops)

theorem run_blanks_cons {gap : List Char} (hgap : Blank gap) {c : Char} (hc : isBlank c = false)
    (rest : List Char) : blanks.run (gap ++ c :: rest) = .ok ((), c :: rest) := by
  apply run_blanks hgap
  rintro _ ⟨⟩
  exact hc

theorem run_simpleKeyFrom {key : String} {c : Char} {others rest : List Char}
    (hkey : SpellsKey key c others)
    (hstops : ∀ d, rest.head? = some d → isBareKeyChar d = false) :
    (simpleKeyFrom c).run (others ++ rest) = .ok (key, rest) := by
  cases hkey with
  | bare hbare =>
      obtain ⟨hfirst, hothers⟩ := List.forall_mem_cons.mp hbare
      unfold simpleKeyFrom
      split
      next => cases hfirst
      next => cases hfirst
      next =>
        rw [if_pos hfirst, Scan.run_bind_of_ok (Scan.run_span_append hothers hstops)]
        rfl
  | quoted hspells =>
      have hread := Scan.run_map_of_ok String.ofList (run_basicString hspells rest)
      simpa [simpleKeyFrom] using hread

/-- A key begins with a double quote or with a character of a bare key. -/
theorem SpellsKey.first_ne {key : String} {c : Char} {others : List Char}
    (hkey : SpellsKey key c others) {d : Char} (hbare : isBareKeyChar d = false)
    (hquote : d ≠ '"') : c ≠ d := by
  rintro rfl
  cases hkey with
  | bare hothers =>
      rw [hothers c List.mem_cons_self] at hbare
      cases hbare
  | quoted => exact hquote rfl

/-- Characters that stand after a key: no part of a bare key, no blank and no dot. -/
def EndsKey (c : Char) : Prop :=
  isBareKeyChar c = false ∧ isBlank c = false ∧ c ≠ '.'

theorem isBareKeyChar_of_isBlank {c : Char} (hblank : isBlank c = true) :
    isBareKeyChar c = false := by
  have hcases : c = ' ' ∨ c = '\t' := by simpa [isBlank] using hblank
  rcases hcases with rfl | rfl <;> rfl

theorem SpellsKey.isBlank_first {key : String} {c : Char} {others : List Char}
    (hkey : SpellsKey key c others) : isBlank c = false := by
  have hspace : c ≠ ' ' := hkey.first_ne rfl nofun
  have htab : c ≠ '\t' := hkey.first_ne rfl nofun
  simp [isBlank, hspace, htab]

/-- A key without dots, and the blanks after it. -/
theorem run_keyPath {key : String} {c stop : Char} {others gap : List Char}
    (hkey : SpellsKey key c others) (hgap : Blank gap) (hstop : EndsKey stop) (rest : List Char) :
    (keyPath c).run (others ++ (gap ++ stop :: rest)) = .ok (⟨[], key⟩, stop :: rest) := by
  obtain ⟨hbare, hblank, hdot⟩ := hstop
  have hstops (d : Char) (hhead : (gap ++ stop :: rest).head? = some d) :
      isBareKeyChar d = false := by
    cases gap with
    | nil =>
        cases hhead
        exact hbare
    | cons first gap =>
        cases hhead
        exact isBareKeyChar_of_isBlank (hgap _ List.mem_cons_self)
  have hsimple := run_simpleKeyFrom hkey hstops
  have hblanks := run_blanks_cons hgap hblank rest
  have hfrom : (keyPathFrom [] c).run (others ++ (gap ++ stop :: rest)) =
      .ok (.inr ⟨[], key⟩, stop :: rest) := by
    have haccept : (Scan.accept ['.'] : Read Bool).run (stop :: rest) =
        .ok (false, stop :: rest) := Scan.run_accept_of_head? (by simpa using hdot)
    rw [keyPathFrom, Scan.run_bind_of_ok hsimple, Scan.run_bind_of_ok hblanks,
      Scan.run_bind_of_ok haccept]
    rfl
  simp only [keyPath, Scan.run_bind, hfrom]
  rfl

end TypeProfile.Toml
