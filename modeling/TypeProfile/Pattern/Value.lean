import TypeProfile.Pattern

/-!
# Values to compare with

A value is compared as a number if it reads as one, and as a pattern otherwise. Most numbers are
patterns as well; those that begin with a plus sign are not.
-/

namespace TypeProfile.Pattern

/-- The exponent of a number, or nothing. -/
def isExponent : List Char → Bool
  | [] => true
  | mark :: text =>
      let digits := match text with
        | '+' :: digits | '-' :: digits => digits
        | digits => digits
      mark.toLower == 'e' && !digits.isEmpty && digits.all Char.isDigit

/-- A number without a sign: digits on either side of a point, or on one, or a word. -/
def isMagnitude (text : List Char) : Bool :=
  let whole := text.takeWhile Char.isDigit
  let rest := text.dropWhile Char.isDigit
  let point := rest.take 1 == ['.']
  let after := if point then rest.drop 1 else rest
  let places := if point then after.takeWhile Char.isDigit else []
  let isDecimal := !(whole.isEmpty && places.isEmpty) && isExponent (after.drop places.length)
  isDecimal || ["inf", "infinity", "nan"].contains (String.ofList (text.map Char.toLower))

def isNumber : List Char → Bool
  | '+' :: text | '-' :: text => isMagnitude text
  | text => isMagnitude text

/-- Whether something can be compared with a text. -/
def isValue (text : List Char) : Bool :=
  isNumber text || isWellFormed text

end TypeProfile.Pattern
