import TapeMachine.Text

/-! UTF-16: every text splits into code units, and any list of units joins to a text. Joining pairs
greedily: a high unit directly followed by a low one becomes a single code point, and any other
surrogate unit is kept alone. So joining never fails, and a text comes back from its units unless
two of its own surrogates stand as a pair. -/

namespace TapeMachine

/-- A UTF-16 code unit is a number below `0x10000`. -/
@[ext] structure CodeUnit where
  val : Nat
  isLt : val < 0x10000
  deriving DecidableEq

namespace CodeUnit

/-- The unit that a cell prints: its value modulo `0x10000`, never negative. -/
def ofInt (n : Int) : CodeUnit :=
  ⟨(n % 0x10000).toNat, by omega⟩

def toCodePoint (u : CodeUnit) : CodePoint :=
  ⟨u.val, by have h := u.isLt; omega⟩

/-- The code point that a high and a low surrogate unit stand for together. -/
def pair? (high low : CodeUnit) : Option CodePoint :=
  if h : (0xD800 ≤ high.val ∧ high.val ≤ 0xDBFF) ∧ (0xDC00 ≤ low.val ∧ low.val ≤ 0xDFFF) then
    some ⟨0x10000 + (high.val - 0xD800) * 0x400 + (low.val - 0xDC00), by omega⟩
  else none

end CodeUnit

/-- One unit below `0x10000`, and a surrogate pair above. -/
def CodePoint.codeUnits (c : CodePoint) : List CodeUnit :=
  if h : c.val < 0x10000 then [⟨c.val, h⟩]
  else
    have upper := c.isLt
    [⟨0xD800 + (c.val - 0x10000) / 0x400, by omega⟩, ⟨0xDC00 + (c.val - 0x10000) % 0x400, by omega⟩]

namespace CodeUnit

theorem codeUnits_toCodePoint (u : CodeUnit) : u.toCodePoint.codeUnits = [u] :=
  dif_pos u.isLt

theorem codeUnits_of_pair? {high low : CodeUnit} {c : CodePoint} (h : pair? high low = some c) :
    c.codeUnits = [high, low] := by
  unfold pair? at h
  split at h
  next bounds =>
    have hval : c.val = 0x10000 + (high.val - 0xD800) * 0x400 + (low.val - 0xDC00) :=
      (congrArg CodePoint.val (Option.some.inj h)).symm
    have hupper : ¬ c.val < 0x10000 := by omega
    simp only [CodePoint.codeUnits, dif_neg hupper, List.cons.injEq, CodeUnit.ext_iff, and_true]
    omega
  next => cases h

end CodeUnit

namespace Text

/-- The units of all code points in order; a surrogate is its own unit. -/
def codeUnits (t : Text) : List CodeUnit :=
  t.flatMap CodePoint.codeUnits

theorem codeUnits_cons (c : CodePoint) (t : Text) : codeUnits (c :: t) = c.codeUnits ++ t.codeUnits :=
  List.flatMap_cons

theorem codeUnits_append (t u : Text) : codeUnits (t ++ u) = t.codeUnits ++ u.codeUnits :=
  List.flatMap_append

/-- The text of a list of units, each high unit paired with a low unit right after it. -/
def ofCodeUnits : List CodeUnit → Text
  | [] => []
  | [u] => [u.toCodePoint]
  | u :: v :: rest =>
    match CodeUnit.pair? u v with
    | some c => c :: ofCodeUnits rest
    | none => u.toCodePoint :: ofCodeUnits (v :: rest)

/-- No unit is lost or changed by joining. -/
theorem codeUnits_ofCodeUnits (units : List CodeUnit) : codeUnits (ofCodeUnits units) = units := by
  fun_induction ofCodeUnits units with
  | case1 => rfl
  | case2 u => rw [codeUnits, List.flatMap_singleton, CodeUnit.codeUnits_toCodePoint]
  | case3 u v rest c h ih =>
    rw [codeUnits, List.flatMap_cons, CodeUnit.codeUnits_of_pair? h]
    exact congrArg (u :: v :: ·) ih
  | case4 u v rest h ih =>
    rw [codeUnits, List.flatMap_cons, CodeUnit.codeUnits_toCodePoint]
    exact congrArg (u :: ·) ih

/-- The text in which surrogates that stand as a pair have become one code point. -/
def joinPairs (t : Text) : Text :=
  ofCodeUnits t.codeUnits

/-- No high surrogate has a low one right after it. -/
def NoSplitPair : Text → Prop
  | [] => True
  | [_] => True
  | c :: d :: rest => ¬ (c.isHighSurrogate = true ∧ d.isLowSurrogate = true) ∧ NoSplitPair (d :: rest)

end Text

end TapeMachine
