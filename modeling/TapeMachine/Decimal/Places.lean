import TapeMachine.Decimal.Shortest

/-! Numbers with a fixed count of decimal places, rounded from an exact quotient. A floating-point
number is such a quotient, so it is rounded only once. -/

namespace TapeMachine.Decimal

open Text (ofString)

/-- The integer nearest to a quotient of naturals; a half goes to the even neighbour. -/
def roundQuotient (numerator denominator : Nat) : Nat :=
  let whole := numerator / denominator
  let rest := 2 * (numerator % denominator)
  if rest < denominator ∨ (rest = denominator ∧ whole % 2 = 0) then whole else whole + 1

/-- A quotient with a sign and the given number of places after the point. The sign is kept where the
digits round to zero. -/
def withPlaces (places : Nat) (negative : Bool) (numerator denominator : Nat) : Text :=
  let digits := Numeral.ofNat (roundQuotient (numerator * Nat.pow 10 places) denominator)
  let padded := List.replicate (places + 1 - digits.length) (Numeral.digit 0) ++ digits
  (if negative then [Numeral.minus] else []) ++ padded.take (padded.length - places) ++
    ofString "." ++ padded.drop (padded.length - places)

/-- A floating-point number with the given number of places; one that is not finite has its usual
text. -/
def binaryWithPlaces (places : Nat) : Binary → Text
  | .finite negative significand exponent _ =>
    withPlaces places negative (significand * Nat.pow 2 exponent.toNat) (Nat.pow 2 (-exponent).toNat)
  | other => FloatLayout.standard.written other

end TapeMachine.Decimal
