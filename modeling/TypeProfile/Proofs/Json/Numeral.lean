import TypeProfile.Json.Token

/-!
# Ways to write a number

The grammar of numbers, and that reading takes exactly the number when what follows cannot be a
part of it.
-/

namespace TypeProfile.Json

namespace Number

/-- One or more digits. -/
structure Digits (text : List Char) : Prop where
  ne_nil : text ≠ []
  isDigit : ∀ c ∈ text, c.isDigit

/-- The ways to write the digits after the point. -/
inductive FractionSpells : List Char → List Char → Prop
  | absent : FractionSpells [] []
  | present {digits : List Char} (hdigits : Digits digits) : FractionSpells digits ('.' :: digits)

/-- The ways to write the power of ten. -/
inductive ExponentSpells : Option Int → List Char → Prop
  | absent : ExponentSpells none []
  | unsigned {mark : Char} {digits : List Char} (hmark : mark = 'e' ∨ mark = 'E')
      (hdigits : Digits digits) : ExponentSpells (some (ofDigits digits)) (mark :: digits)
  | raised {mark : Char} {digits : List Char} (hmark : mark = 'e' ∨ mark = 'E')
      (hdigits : Digits digits) : ExponentSpells (some (ofDigits digits)) (mark :: '+' :: digits)
  | lowered {mark : Char} {digits : List Char} (hmark : mark = 'e' ∨ mark = 'E')
      (hdigits : Digits digits) : ExponentSpells (some (-ofDigits digits)) (mark :: '-' :: digits)

/-- The ways to write a number after its sign. Only zero itself begins with a zero. -/
inductive MagnitudeSpells (negative : Bool) : Number → List Char → Prop
  | mk {whole fraction fractionText exponentText : List Char} {exponent : Option Int}
      (hwhole : Digits whole) (hzero : whole.head? = some '0' → whole.length = 1)
      (hfraction : FractionSpells fraction fractionText)
      (hexponent : ExponentSpells exponent exponentText) :
      MagnitudeSpells negative ⟨negative, whole, fraction, exponent⟩
        (whole ++ (fractionText ++ exponentText))

/-- The ways to write a number. -/
inductive Spells : Number → List Char → Prop
  | positive {number : Number} {text : List Char} (hmagnitude : MagnitudeSpells false number text) :
      Spells number text
  | negative {number : Number} {text : List Char} (hmagnitude : MagnitudeSpells true number text) :
      Spells number ('-' :: text)

/-- Whether a number may go on with this character. -/
def continues (c : Char) : Bool :=
  c.isDigit || c == '.' || c == 'e' || c == 'E'

/-- What follows a number does not go on with it. -/
def Ends (rest : List Char) : Prop :=
  ∀ c, rest.head? = some c → continues c = false

theorem ends_nil : Ends [] := nofun

theorem ends_cons {c : Char} (hstops : continues c = false) (rest : List Char) :
    Ends (c :: rest) := by
  intro first hfirst
  cases hfirst
  exact hstops

namespace Ends

variable {rest : List Char}

theorem isDigit (hrest : Ends rest) (c : Char) (hhead : rest.head? = some c) :
    c.isDigit = false := by
  have hstops := hrest c hhead
  simp only [continues, Bool.or_eq_false_iff] at hstops
  exact hstops.1.1.1

theorem head?_ne (hrest : Ends rest) {c : Char} (hcontinues : continues c = true) :
    rest.head? ≠ some c := by
  intro hhead
  rw [hrest c hhead] at hcontinues
  cases hcontinues

end Ends

theorem Digits.head?_append {digits : List Char} (hdigits : Digits digits) (rest : List Char) :
    ∃ c, (digits ++ rest).head? = some c ∧ c.isDigit = true := by
  cases digits with
  | nil => exact absurd rfl hdigits.ne_nil
  | cons c digits => exact ⟨c, rfl, hdigits.isDigit c List.mem_cons_self⟩

theorem head?_ne_of_isDigit {text : List Char} {c mark : Char} (hhead : text.head? = some c)
    (hc : c.isDigit = true) (hmark : mark.isDigit = false) : text.head? ≠ some mark := by
  intro hother
  cases hhead.symm.trans hother
  rw [hc] at hmark
  cases hmark

theorem run_someDigits {digits rest : List Char} (hdigits : Digits digits)
    (hrest : ∀ c, rest.head? = some c → c.isDigit = false) :
    someDigits.run (digits ++ rest) = .ok (digits, rest) :=
  Scan.run_spanSome_append hdigits.ne_nil hdigits.isDigit hrest

theorem run_fractionPart {fraction text rest : List Char} (hspells : FractionSpells fraction text)
    (hdigit : ∀ c, rest.head? = some c → c.isDigit = false) (hpoint : rest.head? ≠ some '.') :
    fractionPart.run (text ++ rest) = .ok (fraction, rest) := by
  cases hspells with
  | absent => exact Scan.run_bind_of_ok (Scan.run_accept_of_head? hpoint)
  | present hdigits =>
      have hpoint : (Scan.accept ['.'] : Read Bool).run ('.' :: (fraction ++ rest)) =
          .ok (true, fraction ++ rest) := Scan.run_accept_append ['.'] _
      exact (Scan.run_bind_of_ok hpoint).trans (run_someDigits hdigits hdigit)

/-- What stands after the whole digits does not go on with them. -/
theorem head?_fraction_append {fraction text rest : List Char}
    (hspells : FractionSpells fraction text)
    (hrest : ∀ c, rest.head? = some c → c.isDigit = false) :
    ∀ c, (text ++ rest).head? = some c → c.isDigit = false := by
  cases hspells with
  | absent => exact hrest
  | present hdigits =>
      rintro c ⟨⟩
      rfl

theorem head?_exponent_append {exponent : Option Int} {text rest : List Char}
    (hspells : ExponentSpells exponent text) (hrest : Ends rest) :
    (∀ c, (text ++ rest).head? = some c → c.isDigit = false) ∧
      (text ++ rest).head? ≠ some '.' := by
  have hmarked {mark : Char} {tail : List Char} (hmark : mark = 'e' ∨ mark = 'E') :
      (∀ c, (mark :: tail).head? = some c → c.isDigit = false) ∧
        (mark :: tail).head? ≠ some '.' := by
    rcases hmark with rfl | rfl <;> simp
  cases hspells with
  | absent => exact ⟨hrest.isDigit, hrest.head?_ne rfl⟩
  | unsigned hmark hdigits => exact hmarked hmark
  | raised hmark hdigits => exact hmarked hmark
  | lowered hmark hdigits => exact hmarked hmark

/-- An exponent after its mark. -/
theorem run_exponentPart_mark {mark : Char} (hmark : mark = 'e' ∨ mark = 'E')
    (text : List Char) :
    exponentPart.run (mark :: text) =
      (do
        let raised ← Scan.accept ['+']
        let lowered ← if raised then pure false else Scan.accept ['-']
        let digits ← someDigits
        let magnitude : Int := ofDigits digits
        pure (some (if lowered then -magnitude else magnitude)) : Read (Option Int)).run text := by
  rcases hmark with rfl | rfl <;> rfl

theorem run_exponentPart {exponent : Option Int} {text rest : List Char}
    (hspells : ExponentSpells exponent text) (hrest : Ends rest) :
    exponentPart.run (text ++ rest) = .ok (exponent, rest) := by
  have hdigit := hrest.isDigit
  cases hspells with
  | absent =>
      have hlower : (Scan.accept ['e'] : Read Bool).run rest = .ok (false, rest) :=
        Scan.run_accept_of_head? (hrest.head?_ne rfl)
      have hupper : (Scan.accept ['E'] : Read Bool).run rest = .ok (false, rest) :=
        Scan.run_accept_of_head? (hrest.head?_ne rfl)
      rw [List.nil_append, exponentPart, Scan.run_bind_of_ok hlower]
      exact Scan.run_bind_of_ok hupper
  | @unsigned mark digits hmark hdigits =>
      obtain ⟨c, hhead, hc⟩ := hdigits.head?_append rest
      -- Digits come next, so neither sign is taken.
      have hplus : (digits ++ rest).head? ≠ some '+' := head?_ne_of_isDigit hhead hc rfl
      have hminus : (digits ++ rest).head? ≠ some '-' := head?_ne_of_isDigit hhead hc rfl
      rw [List.cons_append, run_exponentPart_mark hmark,
        Scan.run_bind_of_ok (Scan.run_accept_of_head? hplus)]
      exact (Scan.run_bind_of_ok (Scan.run_accept_of_head? hminus)).trans
        (Scan.run_bind_of_ok (run_someDigits hdigits hdigit))
  | raised hmark hdigits =>
      have hread := run_someDigits hdigits hdigit
      exact (run_exponentPart_mark hmark _).trans (Scan.run_bind_of_ok hread)
  | lowered hmark hdigits =>
      have hread := run_someDigits hdigits hdigit
      exact (run_exponentPart_mark hmark _).trans (Scan.run_bind_of_ok hread)

theorem run_magnitude {negative : Bool} {number : Number} {text rest : List Char}
    (hspells : MagnitudeSpells negative number text) (hrest : Ends rest) :
    (magnitude negative).run (text ++ rest) = .ok (number, rest) := by
  cases hspells with
  | mk hwhole hzero hfraction hexponent =>
      obtain ⟨hdigit, hpoint⟩ := head?_exponent_append hexponent hrest
      rw [List.append_assoc, List.append_assoc, magnitude, Scan.run_bind_of_ok
        (run_someDigits hwhole (head?_fraction_append hfraction hdigit)), if_neg,
        Scan.run_bind_of_ok (run_fractionPart hfraction hdigit hpoint),
        Scan.run_bind_of_ok (run_exponentPart hexponent hrest), Scan.run_pure]
      exact fun hpadded => hpadded.2 (hzero hpadded.1)

theorem MagnitudeSpells.head?_append {negative : Bool} {number : Number} {text : List Char}
    (hspells : MagnitudeSpells negative number text) (rest : List Char) :
    ∃ c, (text ++ rest).head? = some c ∧ c.isDigit = true := by
  cases hspells with
  | mk hwhole hzero hfraction hexponent =>
      rw [List.append_assoc]
      exact hwhole.head?_append _

/-- In whatever way a number is written, it is what reading finds. -/
theorem run_numeral {number : Number} {text rest : List Char} (hspells : number.Spells text)
    (hrest : Ends rest) : numeral.run (text ++ rest) = .ok (number, rest) := by
  cases hspells with
  | positive hmagnitude =>
      obtain ⟨c, hhead, hc⟩ := hmagnitude.head?_append rest
      have hminus : (text ++ rest).head? ≠ some '-' := head?_ne_of_isDigit hhead hc rfl
      exact (Scan.run_bind_of_ok (Scan.run_accept_of_head? hminus)).trans
        (run_magnitude hmagnitude hrest)
  | negative hmagnitude => exact run_magnitude hmagnitude hrest

theorem Spells.head?_append {number : Number} {text : List Char} (hspells : number.Spells text)
    (rest : List Char) : ∃ c, (text ++ rest).head? = some c ∧ startsNumber c = true := by
  cases hspells with
  | positive hmagnitude =>
      obtain ⟨c, hhead, hc⟩ := hmagnitude.head?_append rest
      exact ⟨c, hhead, by simp [startsNumber, hc]⟩
  | negative hmagnitude => exact ⟨'-', rfl, rfl⟩

end Number

end TypeProfile.Json
