import TypeProfile.Decimal.Shortest

/-!
# Decimals beyond the doubles

A decimal overflows if it lies closer to `2 ^ 1024` than to the greatest double, or just between
the two.
-/

namespace TypeProfile.Decimal

/-- The midpoint of the greatest double and `2 ^ 1024`. -/
def overflowBound : Ratio := ⟨Nat.pow 2 1024 - Nat.pow 2 970, 1⟩

/-- Whether `digits * 10 ^ exponent` overflows. Only a decimal of 309 digits has to be looked at
closely. -/
def overflows (digits : Nat) (exponent : Int) : Bool :=
  let magnitude : Int := (Nat.toDigits 10 digits).length + exponent
  if digits = 0 ∨ magnitude < 309 then false
  else if 309 < magnitude then true
  else !(Ratio.scaled digits 10 exponent).lt overflowBound

end TypeProfile.Decimal
