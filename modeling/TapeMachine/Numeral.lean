import TapeMachine.Text.DecimalDigit

/-! Integers as text. Writing gives plain decimal digits with a sign only below zero. Reading is
freer: it takes digits of any script, one underscore between two digits, a sign, and blanks around
the whole. -/

namespace TapeMachine.Numeral

/-- The ASCII digit of a value below ten. -/
def digit (d : Nat) : CodePoint :=
  ⟨0x30 + d % 10, by omega⟩

/-- Decimal digits of a number, the most significant first, put before a text. -/
def digitsBefore (n : Nat) (rest : Text) : Text :=
  if n < 10 then digit n :: rest else digitsBefore (n / 10) (digit (n % 10) :: rest)
termination_by n
decreasing_by omega

def ofNat (n : Nat) : Text :=
  digitsBefore n []

theorem exists_digit_of_mem_digitsBefore {n : Nat} {rest : Text} {c : CodePoint}
    (h : c ∈ digitsBefore n rest) : c ∈ rest ∨ ∃ d, c = digit d := by
  fun_induction digitsBefore n rest with
  | case1 n rest hn =>
      rcases List.mem_cons.mp h with rfl | hmem
      · exact Or.inr ⟨n, rfl⟩
      · exact Or.inl hmem
  | case2 n rest hn ih =>
      rcases ih h with hmem | hdigit
      · rcases List.mem_cons.mp hmem with rfl | hmem
        · exact Or.inr ⟨n % 10, rfl⟩
        · exact Or.inl hmem
      · exact Or.inr hdigit

theorem exists_digit_of_mem_ofNat {n : Nat} {c : CodePoint} (h : c ∈ ofNat n) : ∃ d, c = digit d :=
  (exists_digit_of_mem_digitsBefore h).resolve_left List.not_mem_nil

theorem length_digitsBefore_le_iff {n k : Nat} {rest : Text} :
    (digitsBefore n rest).length ≤ rest.length + k ↔ 0 < k ∧ n < Nat.pow 10 k := by
  fun_induction digitsBefore n rest generalizing k with
  | case1 n rest hn =>
      have hpow : 0 < k → 10 ≤ Nat.pow 10 k := fun hk => Nat.le_self_pow (Nat.ne_of_gt hk) 10
      rw [List.length_cons]
      omega
  | case2 n rest hn ih =>
      cases k with
      | zero =>
          have hlonger := mt (@ih 0).mp fun h => Nat.lt_irrefl 0 h.1
          rw [List.length_cons] at hlonger
          omega
      | succ k =>
          have hshift : rest.length + (k + 1) = (digit (n % 10) :: rest).length + k := by
            rw [List.length_cons]
            omega
          have hsucc : Nat.pow 10 (k + 1) = Nat.pow 10 k * 10 := rfl
          have hone : k = 0 → Nat.pow 10 k = 1 := fun hk => hk ▸ rfl
          rw [hshift, ih, hsucc]
          omega

def minus : CodePoint := .ofChar '-'

def ofInt (n : Int) : Text :=
  if n < 0 then minus :: ofNat n.natAbs else ofNat n.natAbs

/-- The digit of a value below sixteen, in lower case. -/
def hexDigit (d : Nat) : CodePoint :=
  if d % 16 < 10 then ⟨0x30 + d % 16, by omega⟩ else ⟨0x57 + d % 16, by omega⟩

/-- The last hexadecimal digits of a number, as many as asked for. -/
def hex : (width : Nat) → Nat → Text
  | 0, _ => []
  | width + 1, n => hex width (n / 16) ++ [hexDigit n]

/-- Blanks that may stand around a numeral. The separators `0x1C` to `0x1F` are not among them. -/
def isBlank (c : CodePoint) : Bool :=
  (0x09 ≤ c.val && c.val ≤ 0x0D) || (0x2000 ≤ c.val && c.val ≤ 0x200A) ||
    [0x20, 0x85, 0xA0, 0x1680, 0x2028, 0x2029, 0x202F, 0x205F, 0x3000].contains c.val

def trim (t : Text) : Text :=
  ((t.dropWhile isBlank).reverse.dropWhile isBlank).reverse

/-- The digit values of a text that holds nothing but digits and single underscores between them. -/
def digitValues? : Text → Option (List Nat)
  | [] => none
  | [c] => c.digit?.map ([·])
  | c :: next :: rest =>
    if next = .ofChar '_' then return (← c.digit?) :: (← digitValues? rest)
    else return (← c.digit?) :: (← digitValues? (next :: rest))

/-- A numeral of more digits than this is neither read nor written; on reading leading zeros count,
the sign never does. -/
def maxDigits : Nat := 4300

def isWritable (n : Int) : Bool :=
  (ofNat n.natAbs).length ≤ maxDigits

/-- The least number that is too long to be written. -/
def limit : Nat := Nat.pow 10 maxDigits

theorem one_lt_limit : 1 < limit := by
  have hpow (k : Nat) (hk : 0 < k) : 1 < Nat.pow 10 k := Nat.one_lt_pow (Nat.ne_of_gt hk) (by decide)
  unfold limit
  exact hpow maxDigits (by decide)

theorem isWritable_iff {n : Int} : isWritable n = true ↔ n.natAbs < limit := by
  have hlength := @length_digitsBefore_le_iff n.natAbs maxDigits []
  rw [List.length_nil, Nat.zero_add] at hlength
  unfold isWritable limit
  rw [decide_eq_true_eq, ofNat, hlength]
  exact and_iff_right (by decide)

def tooLong : Text :=
  .ofString "Exceeds the limit (4300 digits) for integer string conversion" ++
    .ofString "; use sys.set_int_max_str_digits() to increase the limit"

def readNat? (t : Text) : Option Nat := do
  let values ← digitValues? t
  if values.length ≤ maxDigits then return values.foldl (fun n d => 10 * n + d) 0 else none

def read? (t : Text) : Option Int :=
  match trim t with
  | [] => none
  | c :: rest =>
    if c = minus then (readNat? rest).map fun n => -(n : Int)
    else if c = .ofChar '+' then (readNat? rest).map Int.ofNat
    else (readNat? (c :: rest)).map Int.ofNat

end TapeMachine.Numeral
