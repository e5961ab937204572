/-!
# Numbers as they are written

The parts of a number in a JSON text. The parts are kept apart because a number may be larger, or
written with more digits, than any fixed format holds.
-/

namespace TypeProfile.Json

/-- A number: its sign, the digits before and after the point, and the power of ten after the
exponent mark. Without a point there are no digits after it. -/
structure Number where
  negative : Bool
  whole : List Char
  fraction : List Char
  exponent : Option Int
deriving DecidableEq, Repr

/-- The value of a digit. -/
def digitValue (digit : Char) : Nat :=
  digit.toNat - '0'.toNat

/-- The number that a list of digits writes in base ten. -/
def ofDigits (digits : List Char) : Nat :=
  digits.foldl (fun value digit => 10 * value + digitValue digit) 0

namespace Number

/-- Written without point and exponent. -/
def isPlain (number : Number) : Bool :=
  number.fraction.isEmpty && number.exponent.isNone

/-- A number as text: each part after its mark, and no mark without its part. -/
def text (number : Number) : List Char :=
  (if number.negative then ['-'] else []) ++ number.whole ++
    (if number.fraction.isEmpty then [] else '.' :: number.fraction) ++
    match number.exponent with
    | none => []
    | some exponent => 'e' :: exponent.repr.toList

end Number

end TypeProfile.Json
