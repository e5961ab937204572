import TypeProfile.Decimal.Overflow
import TypeProfile.Toml.Lexeme

/-!
# Numbers, dates and times

Integers have 64 bits and a sign. Digits may be grouped by underscores, one between two digits.
Floats and moments are kept as they are written.
-/

namespace TypeProfile.Toml

/-- One more group of digits. -/
def groupStep (test : Char → Bool) (digits : List Char) : Read (List Char ⊕ List Char) := do
  let group ← Scan.spanSome .malformed test
  if ← Scan.accept ['_'] then pure (.inl (digits ++ group)) else pure (.inr (digits ++ group))

theorem groupStep_progresses (test : Char → Bool) (digits : List Char) :
    (groupStep test digits).Progresses :=
  (Scan.spanSome_progresses _ _).bind _

/-- Digits, with underscores between some of them. -/
def groups (test : Char → Bool) : Read (List Char) :=
  Scan.iterate (groupStep test) (fun digits => (groupStep_progresses test digits).advances) []

/-- The number that digits write in a base. -/
def ofDigits (base : Nat) (digits : List Char) : Nat :=
  digits.foldl (fun value digit => base * value + (Text.hexValue? digit).getD 0) 0

/-- A sign if one comes next, and whether it is a minus. -/
def sign : Read Bool := do
  if ← Scan.accept ['-'] then pure true
  else
    let _ ← Scan.accept ['+']
    pure false

/-- Digits in base ten. Only zero itself begins with a zero. -/
def wholeDigits : Read (List Char) := do
  let digits ← Scan.taken (groups Char.isDigit)
  if digits.head? = some '0' ∧ digits.length ≠ 1 then malformed
  else pure (digits.filter Char.isDigit)

/-- An integer in another base, after its mark. -/
def marked (base : Nat) (test : Char → Bool) : Read Value := do
  let digits ← groups test
  let value := ofDigits base digits
  if value < Nat.pow 2 63 then pure (.integer value) else malformed

/-- An integer in base ten. -/
def plainInteger : Read Value := do
  let negative ← sign
  let digits ← wholeDigits
  let magnitude := ofDigits 10 digits
  if negative then
    if magnitude ≤ Nat.pow 2 63 then pure (.integer (-(magnitude : Int))) else malformed
  else if magnitude < Nat.pow 2 63 then pure (.integer magnitude)
  else malformed

def integer : Read Value := do
  if ← Scan.accept ['0', 'x'] then marked 16 fun c => (Text.hexValue? c).isSome
  else if ← Scan.accept ['0', 'o'] then marked 8 fun c => '0' ≤ c ∧ c ≤ '7'
  else if ← Scan.accept ['0', 'b'] then marked 2 fun c => c == '0' || c == '1'
  else plainInteger

/-- The power of ten after an exponent mark, if there is one. -/
def exponent? : Read (Option Int) := do
  let marked ← do
    if ← Scan.accept ['e'] then pure true else Scan.accept ['E']
  if marked then
    let negative ← sign
    let magnitude : Int := ofDigits 10 (← groups Char.isDigit)
    pure (some (if negative then -magnitude else magnitude))
  else pure none

/-- A number with a point, an exponent or both. A positive one may not overflow. -/
def decimal : Read Unit := do
  let negative ← sign
  let whole ← wholeDigits
  let pointed ← Scan.accept ['.']
  let fraction ← if pointed then groups Char.isDigit else pure []
  let exponent ← exponent?
  let digits := ofDigits 10 (whole ++ fraction)
  if !pointed && exponent.isNone then malformed
  else if !negative && Decimal.overflows digits (exponent.getD 0 - fraction.length) then malformed
  else pure ()

/-- A number that is none, or beyond all. -/
def special : Read Unit := do
  let _ ← sign
  (expect ['i', 'n', 'f']).either (expect ['n', 'a', 'n'])

/-- The number that so many digits write. -/
def exactDigits : Nat → Nat → Read Nat
  | 0, value => pure value
  | count + 1, value => do
      let c ← anyChar
      if c.isDigit then exactDigits count (10 * value + (c.toNat - '0'.toNat)) else malformed

def daysInMonth (year month : Nat) : Nat :=
  match month with
  | 2 => if year % 4 = 0 ∧ (year % 100 ≠ 0 ∨ year % 400 = 0) then 29 else 28
  | 4 | 6 | 9 | 11 => 30
  | _ => 31

def date : Read Unit := do
  let year ← exactDigits 4 0
  expect ['-']
  let month ← exactDigits 2 0
  expect ['-']
  let day ← exactDigits 2 0
  if (1 ≤ month ∧ month ≤ 12) ∧ (1 ≤ day ∧ day ≤ daysInMonth year month) then pure ()
  else malformed

/-- Hours and minutes. -/
def hourMinute : Read Unit := do
  let hour ← exactDigits 2 0
  expect [':']
  let minute ← exactDigits 2 0
  if hour ≤ 23 ∧ minute ≤ 59 then pure () else malformed

/-- A time of day, to the second or closer. A minute may have a leap second. -/
def time : Read Unit := do
  hourMinute
  expect [':']
  let second ← exactDigits 2 0
  if 60 < second then malformed
  else if ← Scan.accept ['.'] then
    let _ ← Scan.spanSome .malformed Char.isDigit
    pure ()
  else pure ()

/-- The distance to universal time. -/
def offset : Read Unit := do
  let c ← anyChar
  match c with
  | 'Z' | 'z' => pure ()
  | '+' | '-' => hourMinute
  | _ => malformed

/-- A time after a date, with or without an offset. -/
def timeOfDate : Read Unit := do
  let c ← anyChar
  if c = 'T' ∨ c = 't' ∨ c = ' ' then
    time
    let _ ← offset.optional
    pure ()
  else malformed

/-- A date with or without a time. -/
def dated : Read Unit := do
  date
  let _ ← timeOfDate.optional
  pure ()

/-- Everything that begins with a sign or a digit. -/
def numeric : Read Value :=
  ((Value.moment ∘ String.ofList) <$> (dated.either time).taken).either <|
    ((Value.float ∘ String.ofList) <$> (decimal.either special).taken).either integer

end TypeProfile.Toml
