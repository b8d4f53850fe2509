/-! Code points, surrogates included. A script, an input and an output are all lists of code points,
so a lone surrogate that a program prints is a value like any other and is lost nowhere. -/

namespace TapeMachine

/-- A code point is a number below `0x110000`; surrogates are not excluded. -/
@[ext] structure CodePoint where
  val : Nat
  isLt : val < 0x110000
  deriving DecidableEq

namespace CodePoint

def ofChar (c : Char) : CodePoint :=
  ⟨c.toNat, by
    have h := c.valid
    simp only [UInt32.isValidChar, Nat.isValidChar] at h
    simp only [Char.toNat]
    omega⟩

/-- The code point of a number; one outside the range gives the replacement character. -/
def ofNat (n : Nat) : CodePoint :=
  if h : n < 0x110000 then ⟨n, h⟩ else ⟨0xFFFD, by decide⟩

def isHighSurrogate (c : CodePoint) : Bool :=
  0xD800 ≤ c.val && c.val ≤ 0xDBFF

def isLowSurrogate (c : CodePoint) : Bool :=
  0xDC00 ≤ c.val && c.val ≤ 0xDFFF

/-- Surrogates stand for no character of their own. -/
def isSurrogate (c : CodePoint) : Bool :=
  c.isHighSurrogate || c.isLowSurrogate

def toChar? (c : CodePoint) : Option Char :=
  if c.isSurrogate then none else some (Char.ofNat c.val)

theorem val_ofNat {n : Nat} (h : n < 0x110000) : (ofNat n).val = n := by
  simp only [ofNat, dif_pos h]

@[simp] theorem isHighSurrogate_iff (c : CodePoint) :
    c.isHighSurrogate = true ↔ 0xD800 ≤ c.val ∧ c.val ≤ 0xDBFF := by
  simp [isHighSurrogate]

@[simp] theorem isLowSurrogate_iff (c : CodePoint) :
    c.isLowSurrogate = true ↔ 0xDC00 ≤ c.val ∧ c.val ≤ 0xDFFF := by
  simp [isLowSurrogate]

end CodePoint

end TapeMachine
