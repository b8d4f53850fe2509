import Mathlib.Data.List.Basic
import TapeMachine.Encoding.Utf16
import TapeMachine.Machine.State

/-! Code units and texts. Splitting undoes joining, and joining undoes splitting as far as a text has no
two surrogates that stand as a pair; so each list of units belongs to one text of that kind, and what a
script has printed is read as that text. Joining looks only at neighbours, and a text can be joined in
parts wherever it is not cut through a pair. -/

namespace TapeMachine

namespace CodePoint

variable {c : CodePoint}

theorem not_isHighSurrogate_of_le (h : 0x10000 ≤ c.val) : ¬ c.isHighSurrogate = true := by
  intro hhigh
  rw [isHighSurrogate_iff] at hhigh
  omega

theorem not_isLowSurrogate_of_le (h : 0x10000 ≤ c.val) : ¬ c.isLowSurrogate = true := by
  intro hlow
  rw [isLowSurrogate_iff] at hlow
  omega

theorem not_isLowSurrogate_of_isHighSurrogate (h : c.isHighSurrogate = true) :
    ¬ c.isLowSurrogate = true := by
  intro hlow
  rw [isHighSurrogate_iff] at h
  rw [isLowSurrogate_iff] at hlow
  omega

end CodePoint

namespace CodeUnit

variable {u v : CodeUnit} {c : CodePoint}

theorem pair?_eq_none_iff :
    pair? u v = none ↔
      ¬ (u.toCodePoint.isHighSurrogate = true ∧ v.toCodePoint.isLowSurrogate = true) := by
  simp only [CodePoint.isHighSurrogate_iff, CodePoint.isLowSurrogate_iff, toCodePoint]
  unfold pair?
  split
  · next bounds => simp only [reduceCtorEq, bounds, and_self, not_true_eq_false]
  · next bounds => simp only [bounds, not_false_eq_true]

theorem exists_pair? (hhigh : u.toCodePoint.isHighSurrogate = true)
    (hlow : v.toCodePoint.isLowSurrogate = true) : ∃ c, pair? u v = some c := by
  cases h : pair? u v with
  | some c => exact ⟨c, rfl⟩
  | none => exact absurd ⟨hhigh, hlow⟩ (pair?_eq_none_iff.mp h)

/-- Only surrogates form a pair, and what they form is none. -/
theorem bounds_of_pair? (h : pair? u v = some c) :
    u.toCodePoint.isHighSurrogate = true ∧ v.toCodePoint.isLowSurrogate = true ∧ 0x10000 ≤ c.val := by
  unfold pair? at h
  split at h
  · next bounds =>
      have hval : c.val = 0x10000 + (u.val - 0xD800) * 0x400 + (v.val - 0xDC00) :=
        (congrArg CodePoint.val (Option.some.inj h)).symm
      refine ⟨?_, ?_, by omega⟩
      · simpa [toCodePoint] using bounds.1
      · simpa [toCodePoint] using bounds.2
  · cases h

end CodeUnit

namespace CodePoint

theorem exists_unit_of_lt {c : CodePoint} (h : c.val < 0x10000) :
    ∃ u : CodeUnit, c.codeUnits = [u] ∧ u.toCodePoint = c :=
  ⟨⟨c.val, h⟩, dif_pos h, rfl⟩

/-- A code point is the unit of its number, or the pair of its two units. -/
theorem codeUnits_cases (c : CodePoint) :
    (∃ u : CodeUnit, c.codeUnits = [u] ∧ u.toCodePoint = c) ∨
      ∃ high low : CodeUnit, c.codeUnits = [high, low] ∧ CodeUnit.pair? high low = some c := by
  have hupper := c.isLt
  by_cases h : c.val < 0x10000
  · left
    exact exists_unit_of_lt h
  · right
    refine ⟨_, _, dif_neg h, ?_⟩
    unfold CodeUnit.pair?
    rw [dif_pos (by simp only; omega)]
    simp only [Option.some.injEq, CodePoint.ext_iff]
    omega

end CodePoint

namespace Text

open CodeUnit (pair?)

def EndsHigh (t : Text) : Prop :=
  t.getLast?.any CodePoint.isHighSurrogate = true

def StartsLow (t : Text) : Prop :=
  t.head?.any CodePoint.isLowSurrogate = true

/-- The text with each high surrogate and the low one right after it made one code point. -/
def withPairsJoined : Text → Text
  | c :: d :: rest =>
    if c.isHighSurrogate && d.isLowSurrogate then
      .ofNat (0x10000 + (c.val - 0xD800) * 0x400 + (d.val - 0xDC00)) :: withPairsJoined rest
    else c :: withPairsJoined (d :: rest)
  | t => t

/-- The border of two texts runs through a pair. -/
def CutsPair (t u : Text) : Prop :=
  t.EndsHigh ∧ u.StartsLow

/-- Units as code points, none of them joined. -/
def ofUnits (units : List CodeUnit) : Text :=
  units.map CodeUnit.toCodePoint

variable {c d : CodePoint} {t u : Text} {units front back : List CodeUnit}

/-! ### Borders -/

theorem not_endsHigh_nil : ¬ EndsHigh [] := by
  simp [EndsHigh]

theorem endsHigh_append_cons : EndsHigh (u ++ c :: t) ↔ EndsHigh (c :: t) := by
  rw [EndsHigh, List.getLast?_append_of_ne_nil u (List.cons_ne_nil c t), EndsHigh]

theorem endsHigh_singleton : EndsHigh [c] ↔ c.isHighSurrogate = true := by
  simp [EndsHigh]

theorem startsLow_cons : StartsLow (c :: t) ↔ c.isLowSurrogate = true := by
  simp [StartsLow]

theorem noSplitPair_cons_iff : NoSplitPair (c :: t) ↔ ¬ CutsPair [c] t ∧ NoSplitPair t := by
  cases t with
  | nil => simp [NoSplitPair, CutsPair, StartsLow]
  | cons d rest => rw [NoSplitPair, CutsPair, endsHigh_singleton, startsLow_cons]

theorem codeUnits_flatten (items : List Text) : codeUnits items.flatten = items.flatMap codeUnits := by
  induction items with
  | nil => rfl
  | cons t items ih => rw [List.flatten_cons, codeUnits_append, ih, List.flatMap_cons]

theorem codeUnits_ofUnits (units : List CodeUnit) : codeUnits (ofUnits units) = units := by
  induction units with
  | nil => rfl
  | cons v units ih =>
      rw [ofUnits, List.map_cons, codeUnits_cons, CodeUnit.codeUnits_toCodePoint]
      exact congrArg (v :: ·) ih

theorem flatten_map_singleton (units : List CodeUnit) :
    (units.map fun v => [v.toCodePoint]).flatten = ofUnits units := by
  induction units with
  | nil => rfl
  | cons v units ih => rw [List.map_cons, List.flatten_cons, ih, ofUnits, ofUnits, List.map_cons]; rfl

theorem endsHigh_ofUnits_codeUnits : EndsHigh (ofUnits t.codeUnits) ↔ EndsHigh t := by
  rcases List.eq_nil_or_concat' t with rfl | ⟨init, c, rfl⟩
  · exact Iff.rfl
  · rw [codeUnits_append, codeUnits_cons]
    rcases c.codeUnits_cases with ⟨v, hv, rfl⟩ | ⟨high, low, hunits, hpair⟩
    · simp [hv, EndsHigh, ofUnits, codeUnits]
    · obtain ⟨_, hlow, hval⟩ := CodeUnit.bounds_of_pair? hpair
      have hlast : ¬ low.toCodePoint.isHighSurrogate = true := fun hhigh =>
        CodePoint.not_isLowSurrogate_of_isHighSurrogate hhigh hlow
      have hc := CodePoint.not_isHighSurrogate_of_le hval
      simp [hunits, EndsHigh, ofUnits, codeUnits, hlast, hc]

theorem startsLow_ofUnits_codeUnits : StartsLow (ofUnits t.codeUnits) ↔ StartsLow t := by
  cases t with
  | nil => exact Iff.rfl
  | cons c t =>
      rw [codeUnits_cons]
      rcases c.codeUnits_cases with ⟨v, hv, rfl⟩ | ⟨high, low, hunits, hpair⟩
      · simp [hv, StartsLow, ofUnits]
      · obtain ⟨hhigh, _, hval⟩ := CodeUnit.bounds_of_pair? hpair
        have hfirst := CodePoint.not_isLowSurrogate_of_isHighSurrogate hhigh
        have hc := CodePoint.not_isLowSurrogate_of_le hval
        simp [hunits, StartsLow, ofUnits, hfirst, hc]

/-! ### Joining in parts -/

theorem ofCodeUnits_of_pair? {high low : CodeUnit} (h : pair? high low = some c)
    (units : List CodeUnit) : ofCodeUnits (high :: low :: units) = c :: ofCodeUnits units := by
  simp only [ofCodeUnits, h]

theorem ofCodeUnits_cons {v : CodeUnit} (h : ¬ CutsPair [v.toCodePoint] (ofUnits units)) :
    ofCodeUnits (v :: units) = v.toCodePoint :: ofCodeUnits units := by
  cases units with
  | nil => rfl
  | cons w rest =>
      have hnone : pair? v w = none := by
        rw [CodeUnit.pair?_eq_none_iff]
        rintro ⟨hhigh, hlow⟩
        exact h ⟨endsHigh_singleton.mpr hhigh, startsLow_cons.mpr hlow⟩
      simp only [ofCodeUnits, hnone]

theorem ofCodeUnits_append (h : ¬ CutsPair (ofUnits front) (ofUnits back)) :
    ofCodeUnits (front ++ back) = ofCodeUnits front ++ ofCodeUnits back := by
  fun_induction ofCodeUnits front with
  | case1 => rfl
  | case2 v => exact ofCodeUnits_cons h
  | case3 v w rest c hc ih =>
      have hrest : ¬ CutsPair (ofUnits rest) (ofUnits back) := by
        rintro ⟨hends, hstarts⟩
        cases rest with
        | nil => exact not_endsHigh_nil hends
        | cons x rest => exact h ⟨(endsHigh_append_cons (u := ofUnits [v, w])).mpr hends, hstarts⟩
      rw [List.cons_append, List.cons_append, ofCodeUnits_of_pair? hc, ih hrest, List.cons_append]
  | case4 v w rest hnone ih =>
      have hrest : ¬ CutsPair (ofUnits (w :: rest)) (ofUnits back) := by
        rintro ⟨hends, hstarts⟩
        exact h ⟨(endsHigh_append_cons (u := ofUnits [v])).mpr hends, hstarts⟩
      have htail := ih hrest
      rw [List.cons_append] at htail
      simp only [List.cons_append, ofCodeUnits, hnone, htail]

theorem joinPairs_append (h : ¬ CutsPair t u) : joinPairs (t ++ u) = joinPairs t ++ joinPairs u := by
  have hunits : ¬ CutsPair (ofUnits t.codeUnits) (ofUnits u.codeUnits) := by
    rintro ⟨hends, hstarts⟩
    exact h ⟨endsHigh_ofUnits_codeUnits.mp hends, startsLow_ofUnits_codeUnits.mp hstarts⟩
  rw [joinPairs, codeUnits_append, ofCodeUnits_append hunits, joinPairs, joinPairs]

theorem joinPairs_singleton (c : CodePoint) : joinPairs [c] = [c] := by
  rw [joinPairs, codeUnits_cons, codeUnits, List.flatMap_nil, List.append_nil]
  rcases c.codeUnits_cases with ⟨v, hv, rfl⟩ | ⟨high, low, hunits, hpair⟩
  · rw [hv]
    rfl
  · rw [hunits, ofCodeUnits_of_pair? hpair]
    rfl

/-! ### The text of a list of units -/

theorem noSplitPair_ofCodeUnits (units : List CodeUnit) : NoSplitPair (ofCodeUnits units) := by
  fun_induction ofCodeUnits units with
  | case1 => trivial
  | case2 v => trivial
  | case3 v w rest c hc ih =>
      obtain ⟨_, _, hval⟩ := CodeUnit.bounds_of_pair? hc
      refine noSplitPair_cons_iff.mpr ⟨?_, ih⟩
      rintro ⟨hends, _⟩
      exact CodePoint.not_isHighSurrogate_of_le hval (endsHigh_singleton.mp hends)
  | case4 v w rest hnone ih =>
      refine noSplitPair_cons_iff.mpr ⟨?_, ih⟩
      rintro ⟨hends, hstarts⟩
      rw [← startsLow_ofUnits_codeUnits, codeUnits_ofCodeUnits] at hstarts
      exact CodeUnit.pair?_eq_none_iff.mp hnone ⟨endsHigh_singleton.mp hends, startsLow_cons.mp hstarts⟩

theorem joinPairs_eq_self (h : t.NoSplitPair) : t.joinPairs = t := by
  induction t with
  | nil => rfl
  | cons c t ih =>
      obtain ⟨hcut, ht⟩ := noSplitPair_cons_iff.mp h
      calc joinPairs ([c] ++ t) = joinPairs [c] ++ joinPairs t := joinPairs_append hcut
        _ = c :: t := by rw [joinPairs_singleton, ih ht, List.singleton_append]

/-- Each list of units belongs to just one text without a split pair. -/
theorem ofCodeUnits_eq_iff : ofCodeUnits units = t ↔ t.codeUnits = units ∧ t.NoSplitPair := by
  constructor
  · rintro rfl
    exact ⟨codeUnits_ofCodeUnits units, noSplitPair_ofCodeUnits units⟩
  · rintro ⟨rfl, ht⟩
    exact joinPairs_eq_self ht

theorem joinPairs_eq_iff : t.joinPairs = t ↔ t.NoSplitPair := by
  rw [joinPairs, ofCodeUnits_eq_iff]
  exact and_iff_right rfl

/-- A code point that is no half of a pair is kept. -/
theorem joinPairs_lone (hbefore : ¬ CutsPair t [c]) (hafter : ¬ CutsPair [c] u) :
    joinPairs (t ++ c :: u) = t.joinPairs ++ c :: u.joinPairs := by
  have hfront : ¬ CutsPair t (c :: u) := fun ⟨hends, hstarts⟩ =>
    hbefore ⟨hends, startsLow_cons.mpr (startsLow_cons.mp hstarts)⟩
  calc joinPairs (t ++ c :: u) = t.joinPairs ++ joinPairs ([c] ++ u) := joinPairs_append hfront
    _ = t.joinPairs ++ c :: u.joinPairs := by
      rw [joinPairs_append hafter, joinPairs_singleton, List.singleton_append]

/-- Two surrogates that stand as a pair become the code point of their two units. -/
theorem joinPairs_pair {high low : CodePoint} (hhigh : high.isHighSurrogate = true)
    (hlow : low.isLowSurrogate = true) :
    ∃ c : CodePoint, c.codeUnits = high.codeUnits ++ low.codeUnits ∧
      joinPairs (t ++ high :: low :: u) = t.joinPairs ++ c :: u.joinPairs := by
  have hfront : ¬ CutsPair t (high :: low :: u) := fun ⟨_, hstarts⟩ =>
    CodePoint.not_isLowSurrogate_of_isHighSurrogate hhigh (startsLow_cons.mp hstarts)
  have hhighBounds := (CodePoint.isHighSurrogate_iff high).mp hhigh
  have hlowBounds := (CodePoint.isLowSurrogate_iff low).mp hlow
  obtain ⟨v, hv, rfl⟩ := CodePoint.exists_unit_of_lt (c := high) (by omega)
  obtain ⟨w, hw, rfl⟩ := CodePoint.exists_unit_of_lt (c := low) (by omega)
  obtain ⟨c, hc⟩ := CodeUnit.exists_pair? hhigh hlow
  refine ⟨c, ?_, ?_⟩
  · rw [hv, hw, CodeUnit.codeUnits_of_pair? hc, List.singleton_append]
  · have hjoined : joinPairs (v.toCodePoint :: w.toCodePoint :: u) = c :: u.joinPairs := by
      rw [joinPairs, codeUnits_cons, codeUnits_cons, hv, hw, List.singleton_append,
        List.singleton_append, ofCodeUnits_of_pair? hc, joinPairs]
    rw [joinPairs_append hfront, hjoined]

theorem joinPairs_surrogates (hhigh : c.isHighSurrogate = true) (hlow : d.isLowSurrogate = true) :
    joinPairs (c :: d :: t) =
      .ofNat (0x10000 + (c.val - 0xD800) * 0x400 + (d.val - 0xDC00)) :: joinPairs t := by
  rw [CodePoint.isHighSurrogate_iff] at hhigh
  rw [CodePoint.isLowSurrogate_iff] at hlow
  have hvalue := CodePoint.val_ofNat (n := 0x10000 + (c.val - 0xD800) * 0x400 + (d.val - 0xDC00)) (by omega)
  obtain ⟨v, hv, rfl⟩ := CodePoint.exists_unit_of_lt (c := c) (by omega)
  obtain ⟨w, hw, rfl⟩ := CodePoint.exists_unit_of_lt (c := d) (by omega)
  have hpair : pair? v w = some (.ofNat (0x10000 + (v.val - 0xD800) * 0x400 + (w.val - 0xDC00))) := by
    unfold pair?
    rw [dif_pos ⟨hhigh, hlow⟩, Option.some.injEq, CodePoint.ext_iff]
    exact hvalue.symm
  rw [joinPairs, codeUnits_cons, codeUnits_cons, hv, hw]
  exact ofCodeUnits_of_pair? hpair t.codeUnits

theorem joinPairs_eq_withPairsJoined (t : Text) : t.joinPairs = t.withPairsJoined := by
  fun_induction withPairsJoined t with
  | case1 c d rest h ih =>
      rw [Bool.and_eq_true] at h
      rw [joinPairs_surrogates h.1 h.2, ih]
  | case2 c d rest h ih =>
      have hcut : ¬ CutsPair [c] (d :: rest) := by
        rintro ⟨hends, hstarts⟩
        exact h (Bool.and_eq_true_iff.mpr ⟨endsHigh_singleton.mp hends, startsLow_cons.mp hstarts⟩)
      calc joinPairs ([c] ++ d :: rest) = joinPairs [c] ++ joinPairs (d :: rest) := joinPairs_append hcut
        _ = c :: withPairsJoined (d :: rest) := by rw [joinPairs_singleton, ih, List.singleton_append]
  | case3 t h =>
      match t with
      | [] => rfl
      | [c] => exact joinPairs_singleton c
      | c :: d :: rest => exact absurd rfl (h c d rest)

end Text

/-! ### The way through bytes -/

namespace Utf16

/-- The bytes of a text, surrogates included. -/
def encodePassing (t : Text) : Bytes :=
  t.codeUnits.flatMap unitBytes

/-- The text of bytes that stand at a position of the whole. A surrogate unit that is half of no pair is
passed as it is, so only half a unit at the end is a fault. -/
def decodePassing (position : Nat) : Bytes → Except DecodeFault Text
  | [] => .ok []
  | [b] => .error ⟨"utf-16-le", position, [b], .truncated⟩
  | [low, high] => .ok [(unit low high).toCodePoint]
  | [_, _, b] => .error ⟨"utf-16-le", position + 2, [b], .truncated⟩
  | low :: high :: low' :: high' :: rest =>
    match CodeUnit.pair? (unit low high) (unit low' high') with
    | some c => (decodePassing (position + 4) rest).map (c :: ·)
    | none => (decodePassing (position + 2) (low' :: high' :: rest)).map ((unit low high).toCodePoint :: ·)

theorem unit_unitBytes (u : CodeUnit) :
    unit (.ofNat (u.val % 0x100)) (.ofNat (u.val / 0x100)) = u := by
  have h := u.isLt
  simp only [unit, CodeUnit.ext_iff, UInt8.toNat_ofNat']
  omega

theorem decodePassing_flatMap_unitBytes (units : List CodeUnit) (position : Nat) :
    decodePassing position (units.flatMap unitBytes) = .ok (Text.ofCodeUnits units) := by
  fun_induction Text.ofCodeUnits units generalizing position with
  | case1 => rfl
  | case2 u => simp [unitBytes, decodePassing, unit_unitBytes]
  | case3 u v rest c hc ih =>
      simp [unitBytes, decodePassing, unit_unitBytes, hc, ih, Except.map]
  | case4 u v rest hnone ih =>
      have htail := ih (position + 2)
      simp only [List.flatMap_cons, unitBytes, List.cons_append, List.nil_append] at htail ⊢
      simp only [decodePassing, unit_unitBytes, hnone, htail, Except.map]

end Utf16

namespace Machine

open Text (CutsPair)

/-- The output of a state as one text never fails to be read through its bytes, and is the only text
without a split pair that has the units of all items in order. A surrogate that is half of no pair is
kept, and two that stand as a pair become one code point, also at the border of two items. So the output
is read the same when it is the only item, and a text printed unit by unit comes back exactly if it has
no split pair. -/
theorem State.stdout_normalForm (s : State) :
    Utf16.decodePassing 0 (Utf16.encodePassing s.output.toList.flatten) = .ok s.stdout ∧
    (∀ t : Text, s.stdout = t ↔
      t.codeUnits = s.output.toList.flatMap Text.codeUnits ∧ t.NoSplitPair) ∧
    (∀ (front : Text) c (back : Text), s.output.toList.flatten = front ++ c :: back → ¬ CutsPair front [c] →
      ¬ CutsPair [c] back → s.stdout = front.joinPairs ++ c :: back.joinPairs) ∧
    (∀ (front : Text) high low (back : Text), s.output.toList.flatten = front ++ high :: low :: back →
      high.isHighSurrogate = true → low.isLowSurrogate = true →
        ∃ c : CodePoint, c.codeUnits = high.codeUnits ++ low.codeUnits ∧
          s.stdout = front.joinPairs ++ c :: back.joinPairs) ∧
    (∀ s' : State, s'.output = #[s.stdout] → s'.stdout = s.stdout) ∧
    ∀ (t : Text) (s' : State), s'.output.toList = t.codeUnits.map (fun u => [u.toCodePoint]) →
      (s'.stdout = t ↔ t.NoSplitPair) := by
  have hnormal : s.stdout.NoSplitPair := Text.noSplitPair_ofCodeUnits _
  refine ⟨Utf16.decodePassing_flatMap_unitBytes _ 0, fun t => ?_, fun front c back hout => ?_,
    fun front high low back hout => ?_, fun s' hout => ?_, fun t s' hout => ?_⟩
  · rw [State.stdout, Text.joinPairs, Text.ofCodeUnits_eq_iff, Text.codeUnits_flatten]
  · rw [State.stdout, hout]
    exact Text.joinPairs_lone
  · rw [State.stdout, hout]
    exact Text.joinPairs_pair
  · rw [State.stdout, hout, List.flatten_singleton]
    exact Text.joinPairs_eq_iff.mpr hnormal
  · rw [State.stdout, hout, Text.flatten_map_singleton, Text.joinPairs, Text.codeUnits_ofUnits]
    exact Text.joinPairs_eq_iff

end Machine

end TapeMachine
