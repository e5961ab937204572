import TypeProfile.Proofs.Text.Separation
import TypeProfile.Text.Quoted

/-!
# Reading quoted text

Between its quotes a text is written one character at a time, and each character can be read off the
front of whatever stands behind it. No character is written with a plain quote at its front, so the
closing quote is the first one that stands there: what follows a quoted text can hold anything,
quotes and backslashes too. All characters of a quoted text are printable, hence it has no controls
and stays on one line.
-/

namespace TypeProfile.Text

/-! ## Ways to write a character -/

/-- The letters that may stand after a backslash, each with the character that it stands for. -/
def quoteLetters : List (Char × Char) :=
  [('"', '"'), ('\\', '\\'), ('t', '\t'), ('r', '\r'), ('n', '\n'), ('0', '\x00')]

/-- The ways to write a character between quotes. -/
inductive QuoteSpells (c : Char) : List Char → Prop
  | letter {letter : Char} (hletter : (letter, c) ∈ quoteLetters) : QuoteSpells c ['\\', letter]
  | plain (hquote : c ≠ '"') (hbackslash : c ≠ '\\') (hprintable : isPrintable c = true) :
      QuoteSpells c [c]
  | number : QuoteSpells c ('\\' :: 'u' :: '\x7b' :: hexDigits c.toNat ++ ['\x7d'])

theorem quoteSpells_quoteChar (c : Char) : QuoteSpells c (quoteChar c) := by
  unfold quoteChar
  split
  next => exact .letter (by decide)
  next => exact .letter (by decide)
  next => exact .letter (by decide)
  next => exact .letter (by decide)
  next => exact .letter (by decide)
  next => exact .letter (by decide)
  next hquote hbackslash _ _ _ _ =>
    split
    next hprintable => exact .plain hquote hbackslash hprintable
    next => exact .number

/-! ## Digits in base sixteen -/

/-- The number that digits in base sixteen write. -/
def hexNumber (digits : List Char) : Nat :=
  digits.foldl (fun value digit => 16 * value + (hexValue? digit).getD 0) 0

theorem hexNumber_hexDigits (n : Nat) : hexNumber (hexDigits n) = n := by
  induction n using Nat.strongRecOn with
  | ind n ih =>
      rw [hexDigits, Nat.toDigits_eq_if (by decide)]
      split
      next hsmall => simp [hexNumber, hexValue?_digitChar hsmall]
      next hlarge =>
        have hlast := hexValue?_digitChar (Nat.mod_lt n (by decide : 0 < 16))
        have hfront := ih (n / 16) (by omega)
        rw [hexNumber, hexDigits] at hfront
        rw [hexNumber, List.foldl_append, hfront, List.foldl_cons, hlast]
        exact Nat.div_add_mod n 16

theorem exists_digitChar_of_mem_hexDigits {n : Nat} {c : Char} (hc : c ∈ hexDigits n) :
    ∃ value < 16, c = Nat.digitChar value := by
  induction n using Nat.strongRecOn with
  | ind n ih =>
      rw [hexDigits, Nat.toDigits_eq_if (by decide)] at hc
      split at hc
      next hsmall => exact ⟨n, hsmall, List.mem_singleton.mp hc⟩
      next hlarge =>
        rcases List.mem_append.mp hc with hc | hc
        · exact ih (n / 16) (by omega) hc
        · exact ⟨n % 16, Nat.mod_lt n (by decide), List.mem_singleton.mp hc⟩

/-- The brace after the digits is none of them. -/
theorem brace_notMem_hexDigits (n : Nat) : '\x7d' ∉ hexDigits n := by
  have hdigits : ∀ value < 16, '\x7d' ≠ Nat.digitChar value := by decide
  intro hbrace
  obtain ⟨value, hvalue, hsame⟩ := exists_digitChar_of_mem_hexDigits hbrace
  exact hdigits value hvalue hsame

/-! ## Reading -/

/-- What an escape stands for, read after its backslash, and what follows it. -/
def unescape? : List Char → Option (Char × List Char)
  | 'u' :: '\x7b' :: rest =>
      some (Char.ofNat (hexNumber (rest.takeWhile (· != '\x7d'))),
        (rest.dropWhile (· != '\x7d')).tail)
  | letter :: rest => (quoteLetters.lookup letter).map fun c => (c, rest)
  | [] => none

/-- The character at the front of what stands between quotes, and what follows it. At the closing
quote there is none. -/
def unquoteChar? : List Char → Option (Char × List Char)
  | c :: rest =>
      if c = '\\' then unescape? rest
      else if c = '"' then none
      else some (c, rest)
  | [] => none

theorem unescape?_letter {letter c : Char} (hletter : (letter, c) ∈ quoteLetters)
    (rest : List Char) : unescape? (letter :: rest) = some (c, rest) := by
  simp only [quoteLetters, List.mem_cons, Prod.mk.injEq, List.not_mem_nil, or_false] at hletter
  rcases hletter with ⟨rfl, rfl⟩ | ⟨rfl, rfl⟩ | ⟨rfl, rfl⟩ | ⟨rfl, rfl⟩ | ⟨rfl, rfl⟩ |
    ⟨rfl, rfl⟩ <;> rfl

theorem unescape?_number (c : Char) (rest : List Char) :
    unescape? ('u' :: '\x7b' :: (hexDigits c.toNat ++ '\x7d' :: rest)) = some (c, rest) := by
  have hdigits : ∀ digit ∈ hexDigits c.toNat, (digit != '\x7d') = true := by
    intro digit hdigit
    rw [bne_iff_ne]
    rintro rfl
    exact brace_notMem_hexDigits c.toNat hdigit
  have htaken : (hexDigits c.toNat ++ '\x7d' :: rest).takeWhile (· != '\x7d') =
      hexDigits c.toNat := by
    apply takeWhile_append_of_head? hdigits
    rintro brace ⟨⟩
    rfl
  have hleft : (hexDigits c.toNat ++ '\x7d' :: rest).dropWhile (· != '\x7d') =
      '\x7d' :: rest := by
    rw [List.dropWhile_append_of_pos hdigits]
    rfl
  rw [unescape?, htaken, hleft, hexNumber_hexDigits, Char.ofNat_toNat, List.tail_cons]

/-- Reading one character takes back how it was written, whatever follows. -/
theorem QuoteSpells.unquoteChar?_append {c : Char} {spelling : List Char}
    (hspells : QuoteSpells c spelling) (rest : List Char) :
    unquoteChar? (spelling ++ rest) = some (c, rest) := by
  cases hspells with
  | letter hletter => exact unescape?_letter hletter rest
  | plain hquote hbackslash =>
      rw [List.singleton_append, unquoteChar?, if_neg hbackslash, if_neg hquote]
  | number =>
      rw [List.append_assoc]
      exact unescape?_number c rest

theorem unquoteChar?_flatMap_cons (c : Char) (text rest : List Char) :
    unquoteChar? ((c :: text).flatMap quoteChar ++ rest) =
      some (c, text.flatMap quoteChar ++ rest) := by
  rw [List.flatMap_cons, List.append_assoc]
  exact (quoteSpells_quoteChar c).unquoteChar?_append _

/-- What stands between quotes ends at the first quote that is no part of a character. -/
theorem flatMap_quoteChar_append_inj {first second rest rest' : List Char}
    (hsame : first.flatMap quoteChar ++ '"' :: rest = second.flatMap quoteChar ++ '"' :: rest') :
    first = second ∧ rest = rest' := by
  have hread := congrArg unquoteChar? hsame
  induction first generalizing second with
  | nil =>
      cases second with
      | nil => exact ⟨rfl, (List.cons.inj hsame).2⟩
      | cons d second =>
          rw [unquoteChar?_flatMap_cons] at hread
          cases hread
  | cons c first ih =>
      rw [unquoteChar?_flatMap_cons] at hread
      cases second with
      | nil => cases hread
      | cons d second =>
          rw [unquoteChar?_flatMap_cons, Option.some_inj, Prod.mk.injEq] at hread
          obtain ⟨rfl, hmore⟩ := hread
          obtain ⟨rfl, hrest⟩ := ih hmore (congrArg unquoteChar? hmore)
          exact ⟨rfl, hrest⟩

theorem toList_quote (text : String) :
    (quote text).toList = '"' :: text.toList.flatMap quoteChar ++ ['"'] :=
  String.toList_ofList

/-- No quoted text begins with another one, so that a quoted text and what follows it are determined
by the whole. -/
theorem quote_append_inj {first second : String} {rest rest' : List Char}
    (hsame : (quote first).toList ++ rest = (quote second).toList ++ rest') :
    first = second ∧ rest = rest' := by
  simp only [toList_quote, List.cons_append, List.append_assoc, List.nil_append] at hsame
  obtain ⟨htext, hrest⟩ := flatMap_quoteChar_append_inj (List.cons.inj hsame).2
  exact ⟨String.toList_injective htext, hrest⟩

/-! ## What shows -/

/-- The controls of Unicode, general category Cc. -/
def isControl (c : Char) : Bool :=
  c.toNat < 0x20 || (0x7f ≤ c.toNat && c.toNat < 0xa0)

/-- The characters that end a line in Unicode: line feed, line tabulation, form feed, carriage
return, next line, line separator and paragraph separator. -/
def lineBreaks : List Char :=
  ['\n', '\x0b', '\x0c', '\r', '\u0085', '\u2028', '\u2029']

theorem isControl_of_isPrintable {c : Char} (hprintable : isPrintable c = true) :
    isControl c = false := by
  rw [Bool.eq_false_iff]
  intro hcontrol
  have hrange : c.toNat < 0x20 ∨ 0x7f ≤ c.toNat ∧ c.toNat < 0xa0 := by
    simpa [isControl] using hcontrol
  rw [isPrintable_of_isControl hrange] at hprintable
  cases hprintable

theorem notMem_lineBreaks_of_isPrintable {c : Char} (hprintable : isPrintable c = true) :
    c ∉ lineBreaks := by
  have hbreaks : lineBreaks.all (fun c => !isPrintable c) = true := by decide +kernel
  intro hbreak
  have hhidden := List.all_eq_true.mp hbreaks c hbreak
  rw [hprintable] at hhidden
  cases hhidden

/-- The space and the visible characters of ASCII. -/
def isPlainAscii (c : Char) : Bool :=
  0x20 ≤ c.toNat && c.toNat ≤ 0x7e

theorem isPrintable_of_isPlainAscii {c : Char} (hplain : isPlainAscii c = true) :
    isPrintable c = true := by
  rw [isPlainAscii, Bool.and_eq_true, decide_eq_true_iff, decide_eq_true_iff] at hplain
  exact isPrintable_of_ascii hplain.1 hplain.2

theorem isPrintable_of_mem_word {word : List Char} (hword : word.all isPlainAscii = true)
    {c : Char} (hc : c ∈ word) : isPrintable c = true :=
  isPrintable_of_isPlainAscii (List.all_eq_true.mp hword c hc)

theorem isPrintable_of_mem_hexDigits {n : Nat} {c : Char} (hc : c ∈ hexDigits n) :
    isPrintable c = true := by
  have hdigits : ∀ value < 16, isPlainAscii (Nat.digitChar value) = true := by decide
  obtain ⟨value, hvalue, rfl⟩ := exists_digitChar_of_mem_hexDigits hc
  exact isPrintable_of_isPlainAscii (hdigits value hvalue)

theorem QuoteSpells.isPrintable_of_mem {c d : Char} {spelling : List Char}
    (hspells : QuoteSpells c spelling) (hd : d ∈ spelling) : isPrintable d = true := by
  cases hspells with
  | letter hletter =>
      have hletters : quoteLetters.all (fun entry => ['\\', entry.1].all isPlainAscii) = true := by
        decide
      exact isPrintable_of_mem_word (List.all_eq_true.mp hletters _ hletter) hd
  | plain hquote hbackslash hprintable =>
      rw [List.mem_singleton.mp hd]
      exact hprintable
  | number =>
      have hmarks : ['\\', 'u', '\x7b', '\x7d'].all isPlainAscii = true := by decide
      by_cases hdigit : d ∈ hexDigits c.toNat
      · exact isPrintable_of_mem_hexDigits hdigit
      · apply isPrintable_of_mem_word hmarks
        simpa [hdigit, or_assoc] using hd

theorem isPrintable_of_mem_quote {text : String} {d : Char} (hd : d ∈ (quote text).toList) :
    isPrintable d = true := by
  rw [toList_quote, List.mem_append, List.mem_cons, List.mem_flatMap] at hd
  rcases hd with (rfl | ⟨c, -, hd⟩) | hd
  · exact isPrintable_of_isPlainAscii (by decide)
  · exact (quoteSpells_quoteChar c).isPrintable_of_mem hd
  · rw [List.mem_singleton.mp hd]
    exact isPrintable_of_isPlainAscii (by decide)

end TypeProfile.Text
