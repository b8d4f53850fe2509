import TapeMachine.Numeral

/-! The fewest decimal digits that read back as a given binary floating-point number, and the text
that shows them. The search is exact: the numbers that round to a value form an interval, and the
first decimal grid that has a point of it next to the value gives the digits. -/

namespace TapeMachine

/-- The numbers that sixty-four bits can stand for. A finite one is `significand * 2 ^ exponent`,
and the gap below it is narrow if the significand has just reached its highest bit. -/
inductive Binary where
  | finite (negative : Bool) (significand : Nat) (exponent : Int) (narrowBelow : Bool)
  | infinite (negative : Bool)
  | notANumber

/-- A decimal numeral without sign: `digits * 10 ^ exponent`. -/
structure Decimal where
  digits : Nat
  exponent : Int
  deriving DecidableEq

namespace Binary

def ofFloat (x : Float) : Binary :=
  let bits := x.toBits.toNat
  let negative := decide (0x8000000000000000 ≤ bits)
  let field : Nat := bits / 0x10000000000000 % 0x800
  let fraction := bits % 0x10000000000000
  if field = 0x7FF then
    if fraction = 0 then .infinite negative else .notANumber
  else if field = 0 then .finite negative fraction (-1074) false
  else .finite negative (0x10000000000000 + fraction) ((field : Int) - 1075) (fraction = 0 ∧ 1 < field)

end Binary

namespace Decimal

/-- A natural number times a power of two, divided by a power of ten, as numerator and denominator.
-/
def scaled (n : Nat) (twos tens : Int) : Nat × Nat :=
  (n * Nat.pow 2 twos.toNat * Nat.pow 10 (-tens).toNat,
    Nat.pow 2 (-twos).toNat * Nat.pow 10 tens.toNat)

/-- The largest multiple of a power of ten that is not above `n * 2 ^ twos`, counted in that power.
-/
def floorOn (n : Nat) (twos tens : Int) : Nat :=
  (scaled n twos tens).1 / (scaled n twos tens).2

/-- How `d * 10 ^ tens` compares with `n * 2 ^ twos`. -/
def compareScaled (d : Nat) (tens : Int) (n : Nat) (twos : Int) : Ordering :=
  compare (d * (scaled n twos tens).2) (scaled n twos tens).1

/-- The exponent of the leading digit of `n * 2 ^ twos`; no binary value exceeds the first power
tried. -/
def leadingExponent (n : Nat) (twos : Int) : Int :=
  (((List.range 650).map fun i : Nat => 309 - (i : Int)).find? fun tens => floorOn n twos tens ≠ 0).getD 0

/-- Of the neighbours of `significand * 2 ^ exponent` on the grid of a power of ten, the nearer one
that rounds to the value; of two equally near ones the even. -/
def candidate? (significand : Nat) (exponent : Int) (narrowBelow : Bool) (tens : Int) : Option Nat :=
  let twos := exponent - 2
  let low := if narrowBelow then 4 * significand - 1 else 4 * significand - 2
  let high := 4 * significand + 2
  let below := floorOn (4 * significand) twos tens
  let above := below + 1
  let closed := significand % 2 = 0
  let reaches := compareScaled below tens low twos = .gt ∨ (closed ∧ compareScaled below tens low twos = .eq)
  let stays := compareScaled above tens high twos = .lt ∨ (closed ∧ compareScaled above tens high twos = .eq)
  match decide reaches, decide stays with
  | true, true =>
    match compareScaled (below + above) tens (8 * significand) twos with
    | .lt => some above
    | .gt => some below
    | .eq => some (if below % 2 = 0 then below else above)
  | true, false => some below
  | false, true => some above
  | false, false => none

/-- The decimal with the fewest digits among those that round to `significand * 2 ^ exponent`, and
the nearest of these. Seventeen digits always suffice. -/
def shortest (significand : Nat) (exponent : Int) (narrowBelow : Bool) : Decimal :=
  if significand = 0 then ⟨0, 0⟩
  else
    let lead := leadingExponent significand exponent
    ((List.range 17).findSome? fun i : Nat =>
      (candidate? significand exponent narrowBelow (lead - i)).map fun d => ⟨d, lead - i⟩).getD ⟨0, 0⟩

/-- The same number without zeros at the end of its digits; the fuel bounds how many there are. -/
def stripZeros : Nat → Decimal → Decimal
  | 0, d => d
  | fuel + 1, d =>
    if d.digits ≠ 0 ∧ d.digits % 10 = 0 then stripZeros fuel ⟨d.digits / 10, d.exponent + 1⟩ else d

end Decimal

structure FloatLayout where
  /-- The least and the greatest exponent of a leading digit that is written without an exponent. -/
  leastPlain : Int
  greatestPlain : Int
  exponentWidth : Nat
  infinity : String
  notANumber : String

namespace FloatLayout

open Text (ofString)

/-- Plain from `0.0001` up to sixteen digits before the point, with at least one digit after it;
beyond that an exponent with a sign and two digits. -/
def standard : FloatLayout := ⟨-4, 15, 2, "inf", "nan"⟩

private def point : Text := ofString "."

/-- Digits with the point put after the given number of them, zeros filled in on either side. -/
private def plain (digits : Text) (whole : Int) : Text :=
  let zeros := fun n => List.replicate n (Numeral.digit 0)
  if whole ≤ 0 then zeros 1 ++ point ++ zeros (-whole).toNat ++ digits
  else
    let front := digits.take whole.toNat
    let back := digits.drop whole.toNat
    front ++ zeros (whole.toNat - front.length) ++ point ++ (if back.isEmpty then zeros 1 else back)

/-- One digit, the point and the others if there are any, and the exponent. -/
private def scientific (layout : FloatLayout) (digits : Text) (exponent : Int) : Text :=
  let size := Numeral.ofNat exponent.natAbs
  digits.take 1 ++ (if digits.length ≤ 1 then [] else point ++ digits.drop 1) ++
    ofString (if exponent < 0 then "e-" else "e+") ++
    List.replicate (layout.exponentWidth - size.length) (Numeral.digit 0) ++ size

def magnitude (layout : FloatLayout) (d : Decimal) : Text :=
  let digits := Numeral.ofNat d.digits
  let lead := d.exponent + digits.length - 1
  if layout.leastPlain ≤ lead ∧ lead ≤ layout.greatestPlain then plain digits (lead + 1)
  else scientific layout digits lead

def written (layout : FloatLayout) : Binary → Text
  | .notANumber => ofString layout.notANumber
  | .infinite negative => sign negative ++ ofString layout.infinity
  | .finite negative significand exponent narrowBelow =>
    sign negative ++ layout.magnitude (.stripZeros 20 (.shortest significand exponent narrowBelow))
where
  sign (negative : Bool) : Text := if negative then [Numeral.minus] else []

end FloatLayout

end TapeMachine
