/-!
# Shortest decimal text of a double

Many decimals read back as the same double; the shortest of them is its text. A double is an
integer times a power of two, and the numbers that read back as it form an interval around it. For
one digit, two digits and so on, the multiples of the matching power of ten next below and next
above the double are tried, and the first digit count that hits the interval wins. The text is
positional from `10 ^ -5` up to `10 ^ 16`, and then always has a point; other sizes are written with
an exponent.
-/

namespace TypeProfile.Decimal

/-- A fraction of natural numbers, to compare and to divide exactly. -/
structure Ratio where
  num : Nat
  den : Nat

namespace Ratio

/-- `m * base ^ exponent`. -/
def scaled (m base : Nat) (exponent : Int) : Ratio :=
  if 0 ≤ exponent then ⟨m * base.pow exponent.toNat, 1⟩ else ⟨m, base.pow (-exponent).toNat⟩

def lt (first second : Ratio) : Bool :=
  first.num * second.den < second.num * first.den

/-- How often `10 ^ exponent` fits. -/
def floorAt (ratio : Ratio) (exponent : Int) : Nat :=
  if 0 ≤ exponent then ratio.num / (ratio.den * Nat.pow 10 exponent.toNat)
  else ratio.num * Nat.pow 10 (-exponent).toNat / ratio.den

end Ratio

/-- A finite positive double with the ends of the interval that reads back as it, all in quarters
of its last place, and whether the ends belong to the interval. -/
structure Window where
  low : Ratio
  value : Ratio
  high : Ratio
  closed : Bool

/-- The window of the double with these bits, sign aside. Below a power of two the places are half
as wide. -/
def window (bits : Nat) : Window :=
  let biased := bits / Nat.pow 2 52 % Nat.pow 2 11
  let fraction := bits % Nat.pow 2 52
  let m := if biased = 0 then fraction else fraction + Nat.pow 2 52
  let exponent : Int := (max biased 1 : Nat) - 1077
  let below := if fraction = 0 ∧ 1 < biased then 1 else 2
  { low := .scaled (4 * m - below) 2 exponent
    value := .scaled (4 * m) 2 exponent
    high := .scaled (4 * m + 2) 2 exponent
    closed := m % 2 = 0 }

namespace Window

def contains (window : Window) (ratio : Ratio) : Bool :=
  if window.closed then !ratio.lt window.low && !window.high.lt ratio
  else window.low.lt ratio && ratio.lt window.high

/-- The number of digits before the point, negative if zeros follow the point. -/
def magnitude (window : Window) : Int :=
  let whole := window.value.floorAt 0
  if whole ≠ 0 then (Nat.toDigits 10 whole).length
  else
    let zeros := (List.range 400).takeWhile (fun n => window.value.floorAt (-(n + 1 : Nat)) = 0)
    Int.negOfNat zeros.length

/-- The multiple of `10 ^ exponent` next to the value that reads back, if there is one; of two the
nearer, and in a tie the even one. -/
def candidate? (window : Window) (exponent : Int) : Option Nat :=
  let below := window.value.floorAt exponent
  match window.contains (.scaled below 10 exponent),
      window.contains (.scaled (below + 1) 10 exponent) with
  | false, false => none
  | true, false => some below
  | false, true => some (below + 1)
  | true, true =>
      let middle : Ratio :=
        let half := Ratio.scaled (2 * below + 1) 10 exponent
        ⟨half.num, 2 * half.den⟩
      if window.value.lt middle then some below
      else if middle.lt window.value then some (below + 1)
      else some (below + below % 2)

/-- The digits and the power of ten of the shortest decimal. Seventeen digits always suffice. -/
def shortest (window : Window) : Nat × Int :=
  let magnitude := window.magnitude
  let found := (List.range 17).findSome? fun n =>
    let exponent := magnitude - (n + 1 : Nat)
    (window.candidate? exponent).map fun digits => (digits, exponent)
  found.getD (0, 0)

end Window

/-- A decimal in positional notation, with at least one digit on either side of the point. -/
def positional (digits : Nat) (exponent : Int) : List Char :=
  let text := Nat.toDigits 10 digits
  if 0 ≤ exponent then text ++ List.replicate exponent.toNat '0' ++ ['.', '0']
  else
    let places := (-exponent).toNat
    let padded := List.replicate (places + 1 - text.length) '0' ++ text
    let whole := padded.take (padded.length - places)
    let fraction := padded.drop (padded.length - places)
    let kept := (fraction.reverse.dropWhile (· == '0')).reverse
    whole ++ '.' :: if kept.isEmpty then ['0'] else kept

/-- A decimal with one digit before the point, no point if there are no others, and an exponent
that always has its sign. -/
def scientific (digits : Nat) (exponent : Int) : List Char :=
  let kept := ((Nat.toDigits 10 digits).reverse.dropWhile (· == '0')).reverse
  let sign := if exponent < 0 then '-' else '+'
  let mark := 'e' :: sign :: Nat.toDigits 10 exponent.natAbs
  match kept with
  | [] => '0' :: mark
  | [first] => first :: mark
  | first :: rest => first :: '.' :: rest ++ mark

/-- A decimal in the notation for its size. -/
def written (digits : Nat) (exponent : Int) : List Char :=
  let leading := (Nat.toDigits 10 digits).length - 1 + exponent
  if -5 ≤ leading ∧ leading < 16 then positional digits exponent else scientific digits leading

/-- The text of a finite double. -/
def text (value : Float) : String :=
  let bits := value.toBits.toNat
  let sign := if bits < Nat.pow 2 63 then [] else ['-']
  let magnitude := bits % Nat.pow 2 63
  let digits :=
    if magnitude = 0 then ['0', '.', '0']
    else
      let decimal := (window magnitude).shortest
      written decimal.1 decimal.2
  String.ofList (sign ++ digits)

end TypeProfile.Decimal
