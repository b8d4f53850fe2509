/-! Offsets into a sequence. An offset below zero counts from the end, so `-1` is the last item; an
offset that reaches past either end names no item, and a cut at it is moved to that end. -/

namespace TapeMachine.Offset

/-- The distance from the front, still possibly outside the sequence. -/
def fromFront (length : Nat) (offset : Int) : Int :=
  if offset < 0 then offset + length else offset

/-- The index that an offset names, if there is an item at it. -/
def resolve? (length : Nat) (offset : Int) : Option Nat :=
  let i := fromFront length offset
  if 0 ≤ i ∧ i < length then some i.toNat else none

/-- Whether an offset is one of the two of an item: its index, or the index less the length, which counts
from the end. -/
def Names (length : Nat) (offset : Int) (i : Nat) : Prop :=
  i < length ∧ (offset = i ∨ offset = i - length)

def Misses (length : Nat) (offset : Int) : Prop :=
  offset < -length ∨ length ≤ offset

/-- How many items stand before an offset. -/
def cut (length : Nat) (offset : Int) : Nat :=
  min (fromFront length offset).toNat length

theorem resolve?_eq_some_iff {length : Nat} {offset : Int} {i : Nat} :
    resolve? length offset = some i ↔ Names length offset i := by
  simp only [resolve?, Option.ite_none_right_eq_some, Option.some.injEq]
  unfold fromFront Names
  split <;> omega

theorem resolve?_ofNat {length i : Nat} (h : i < length) : resolve? length i = some i :=
  resolve?_eq_some_iff.mpr ⟨h, Or.inl rfl⟩

theorem resolve?_eq_none_iff {length : Nat} {offset : Int} :
    resolve? length offset = none ↔ Misses length offset := by
  simp only [resolve?, ite_eq_right_iff, reduceCtorEq, imp_false]
  unfold fromFront Misses
  split <;> omega

theorem names_or_misses (length : Nat) (offset : Int) :
    (∃ i, Names length offset i) ∨ Misses length offset := by
  cases h : resolve? length offset with
  | some i => exact Or.inl ⟨i, resolve?_eq_some_iff.mp h⟩
  | none => exact Or.inr (resolve?_eq_none_iff.mp h)

theorem cut_ofNat {length i : Nat} (h : i ≤ length) : cut length i = i := by
  have hneg : ¬ (i : Int) < 0 := by omega
  simp [cut, fromFront, hneg, Nat.min_eq_left h]

end TapeMachine.Offset
