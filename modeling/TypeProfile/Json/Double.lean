import TypeProfile.Decimal.Shortest
import TypeProfile.Json.Fault
import TypeProfile.Json.Number

/-!
# What a number stands for

A plain number that fits into 64 bits is an integer. Any other is a double, found in double
arithmetic from the digits that fit into 64 bits and powers of ten up to `10 ^ 308`; a number too
large for that stands for nothing.
-/

namespace TypeProfile.Json

/-- Appends digits to a number for as long as the result fits into 64 bits. -/
def gather (value : Nat) : List Char → Nat × List Char
  | [] => (value, [])
  | digit :: digits =>
      let longer := 10 * value + digitValue digit
      if longer < Nat.pow 2 64 then gather longer digits else (value, digit :: digits)

/-- `value * 10 ^ exponent` in steps of at most `10 ^ 308`, unless that is too large. -/
def scale (value : Float) (exponent : Int) : Option Float :=
  if exponent.natAbs ≤ 308 then
    let power := Float.ofScientific 1 false exponent.natAbs
    if 0 ≤ exponent then
      let product := value * power
      if product.isInf then none else some product
    else some (value / power)
  else if value == 0 then some value
  else if 0 ≤ exponent then none
  else scale (value / 1e308) (exponent + 308)
termination_by exponent.natAbs

namespace Number

/-- The double that a number stands for. Whole digits that do not fit raise the power of ten. -/
def toDouble? (number : Number) : Option Float :=
  let whole := gather 0 number.whole
  let fraction := gather whole.1 number.fraction
  let places : Int := number.fraction.length - fraction.2.length
  let exponent := whole.2.length - places + number.exponent.getD 0
  (scale fraction.1.toUInt64.toFloat exponent).map fun value =>
    if number.negative then -value else value

/-- The integer that a number stands for, if it is one of 64 bits. Zero with a sign is none. -/
def toInt? (number : Number) : Option Int :=
  if number.isPlain then
    let magnitude := ofDigits number.whole
    if number.negative then
      if 0 < magnitude ∧ magnitude ≤ Nat.pow 2 63 then some (-(magnitude : Int)) else none
    else if magnitude < Nat.pow 2 64 then some magnitude
    else none
  else none

/-- What is found where a number stands, if the number stands for anything. -/
def found? (number : Number) : Option Found :=
  match number.toInt? with
  | some value => some (.integer value)
  | none => number.toDouble?.map fun value => .decimal (Decimal.text value)

end Number

end TypeProfile.Json
