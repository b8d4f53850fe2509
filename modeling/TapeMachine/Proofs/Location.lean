import TapeMachine.Proofs.Lines

/-! Locations and the positions they stand for. The lines of a text with a newline after each lie one
behind the other, so a line and a column in it stand for one position of the text. Locating a position
gives back the line and the column that stand for it: every position has one location, every location one
position, and positions come in the order of their locations. -/

namespace TapeMachine

/-- One location lies before another, in an earlier line or further left in the same one. -/
def Location.Before (p q : Location) : Prop :=
  p.line < q.line ∨ (p.line = q.line ∧ p.column < q.column)

theorem Location.before_or_eq_or_before (p q : Location) : p.Before q ∨ p = q ∨ q.Before p := by
  obtain ⟨line, column⟩ := p
  obtain ⟨line', column'⟩ := q
  simp only [Before, mk.injEq]
  omega

namespace Text

/-- The position at which a line begins, the first one having number zero: each line before it takes its
code points and a newline. -/
def lineStart (source : Text) (number : Nat) : Nat :=
  ((source.lines.take number).map fun l => l.length + 1).sum

/-- The position that a location stands for. -/
def positionOf (source : Text) (place : Location) : Int :=
  source.lineStart (place.line - 1) + (place.column - 1)

/-- A location names a line of a text, counted from one, and in it a column from that of the first code
point to the one behind the last. -/
structure Contains (source : Text) (place : Location) : Prop where
  one_le_line : 1 ≤ place.line
  line_le : place.line ≤ source.lines.length
  one_le_column : 1 ≤ place.column
  column_le : place.column ≤ (source.line place.line).length + 1

variable {source : Text} {p q : Location} {i m n : Nat}

/-! ### Beginnings of lines -/

theorem lineStart_succ (h : n < source.lines.length) :
    source.lineStart (n + 1) = source.lineStart n + ((source.line (n + 1)).length + 1) := by
  have hline : source.line (n + 1) = source.lines[n] := by
    rw [line, Nat.add_sub_cancel, List.getD_eq_getElem?_getD, List.getElem?_eq_getElem h, Option.getD_some]
  rw [lineStart, List.take_succ_eq_append_getElem h, List.map_append, List.sum_append, lineStart, hline]
  rfl

theorem lineStart_le (source : Text) (h : m ≤ n) : source.lineStart m ≤ source.lineStart n := by
  have hsplit := List.take_append_drop m (source.lines.take n)
  rw [List.take_take, Nat.min_eq_left h] at hsplit
  rw [lineStart, lineStart, ← hsplit, List.map_append, List.sum_append]
  exact Nat.le_add_right _ _

theorem lineStart_length (source : Text) : source.lineStart source.lines.length = source.length + 1 := by
  rw [lineStart, List.take_length, sum_length_lines]

/-- What stands before a position are the lines before its own, and the beginning of its own. -/
theorem lineStart_add_length_lastLine (h : i ≤ source.length) :
    source.lineStart ((source.take i).count newline) + (lastLine (source.take i)).length = i := by
  obtain ⟨front, hlength, hfront⟩ := exists_lines_append (source.take i)
  have hwhole : source.lines = front ++ lines (lastLine (source.take i) ++ source.drop i) := by
    rw [← hfront, List.take_append_drop]
  have hbefore : lines (source.take i) = front ++ [lastLine (source.take i)] := by
    have hlines := hfront []
    rwa [List.append_nil, List.append_nil, lines_of_notMem (newline_notMem_lastLine _)] at hlines
  have hsum := sum_length_lines (source.take i)
  rw [hbefore, List.map_append, List.sum_append, List.length_take, Nat.min_eq_left h] at hsum
  rw [lineStart, ← hlength, hwhole, List.take_left]
  simp only [List.map_cons, List.map_nil, List.sum_cons, List.sum_nil] at hsum
  omega

/-! ### Positions of locations -/

/-- The position of a location lies in its line or directly behind it. -/
theorem Contains.bounds (h : source.Contains p) :
    source.lineStart (p.line - 1) ≤ source.positionOf p ∧
      source.positionOf p < source.lineStart p.line := by
  have hline := h.one_le_line
  have hcolumn := h.one_le_column
  have hlast := h.column_le
  have hnumber : p.line - 1 < source.lines.length :=
    Nat.lt_of_lt_of_le (Nat.sub_one_lt_of_lt hline) h.line_le
  have hnext := lineStart_succ hnumber
  rw [Nat.sub_add_cancel hline] at hnext
  rw [positionOf, hnext]
  omega

theorem Contains.positionOf_le (h : source.Contains p) : source.positionOf p ≤ source.length := by
  have hend := lineStart_le source h.line_le
  have hbounds := h.bounds.2
  rw [lineStart_length] at hend
  omega

theorem positionOf_lt_of_before (hp : source.Contains p) (hq : source.Contains q) (h : p.Before q) :
    source.positionOf p < source.positionOf q := by
  rcases h with hline | ⟨hline, hcolumn⟩
  · calc source.positionOf p < source.lineStart p.line := hp.bounds.2
      _ ≤ source.lineStart (q.line - 1) := by
        exact_mod_cast lineStart_le source (Nat.le_sub_one_of_lt hline)
      _ ≤ source.positionOf q := hq.bounds.1
  · rw [positionOf, positionOf, hline]
    omega

/-- Locations in a text come in the order of the positions they stand for. -/
theorem positionOf_lt_iff (hp : source.Contains p) (hq : source.Contains q) :
    source.positionOf p < source.positionOf q ↔ p.Before q := by
  refine ⟨fun h => ?_, positionOf_lt_of_before hp hq⟩
  rcases p.before_or_eq_or_before q with hbefore | rfl | hafter
  · exact hbefore
  · exact absurd h (Int.lt_irrefl _)
  · exact absurd h (Int.lt_asymm (positionOf_lt_of_before hq hp hafter))

theorem eq_of_positionOf_eq (hp : source.Contains p) (hq : source.Contains q)
    (h : source.positionOf p = source.positionOf q) : p = q := by
  rcases p.before_or_eq_or_before q with hbefore | heq | hafter
  · exact absurd h (Int.ne_of_lt (positionOf_lt_of_before hp hq hbefore))
  · exact heq
  · exact absurd h.symm (Int.ne_of_lt (positionOf_lt_of_before hq hp hafter))

/-! ### Locations of positions -/

/-- A location is that of a position: it names a line of the text and a column in it, it stands for that
position, and what the position holds is what the line has at that column. -/
structure Locates (source : Text) (place : Location) (i : Nat) : Prop where
  contains : source.Contains place
  positionOf_eq : source.positionOf place = i
  symbol_eq : ∀ c, source[i]? = some c → c ≠ newline →
    (source.line place.line)[(place.column - 1).toNat]? = some c
  /-- The newline at the end of a line has the column behind the last code point of the line. -/
  newline_eq : source[i]? = some newline → place.column = (source.line place.line).length + 1

theorem line_locate (h : i ≤ source.length) :
    source.line (source.locate i).line =
      lastLine (source.take i) ++ (source.drop i).takeWhile (· ≠ newline) := by
  rw [locate_eq h, line, Nat.add_sub_cancel, List.getD_eq_getElem?_getD, getElem?_lines_count,
    Option.getD_some]

theorem locates_locate (h : i ≤ source.length) : source.Locates (source.locate i) i := by
  have hplace := locate_eq h
  have hline := line_locate h
  have hlines : (source.take i).count newline < source.lines.length :=
    (List.getElem?_eq_some_iff.mp (getElem?_lines_count source i)).1
  rw [hplace] at hline ⊢
  constructor
  case contains =>
    constructor
    case one_le_line => exact Nat.le_add_left 1 _
    case line_le => exact hlines
    case one_le_column =>
      simp only
      omega
    case column_le =>
      rw [hline, List.length_append]
      simp only
      omega
  case positionOf_eq =>
    have hstart := lineStart_add_length_lastLine h
    simp only [positionOf, Nat.add_sub_cancel]
    omega
  case symbol_eq =>
    intro c hc hne
    obtain ⟨hlt, hget⟩ := List.getElem?_eq_some_iff.mp hc
    have hcolumn : (((lastLine (source.take i)).length : Int) + 1 - 1).toNat =
        (lastLine (source.take i)).length := by omega
    rw [hline, hcolumn, List.getElem?_append_right (Nat.le_refl _), Nat.sub_self,
      List.drop_eq_getElem_cons hlt, hget, List.takeWhile_cons, if_pos (decide_eq_true hne),
      List.getElem?_cons_zero]
  case newline_eq =>
    intro hc
    obtain ⟨hlt, hget⟩ := List.getElem?_eq_some_iff.mp hc
    rw [hline, List.drop_eq_getElem_cons hlt, hget, List.takeWhile_cons, if_neg (by simp),
      List.append_nil]

/-- Locating and splitting into lines are inverse. The location of a position names a line and a column
in it, at which the line has what the position holds, and stands for that position; no other position has
it, positions come in the order of their locations, and each line and column of a text is the location of
a position. -/
theorem locate_inverts_lines (source : Text) :
    (∀ i ≤ source.length, source.Locates (source.locate i) i) ∧
    (∀ i ≤ source.length, ∀ j ≤ source.length, source.locate i = source.locate j → i = j) ∧
    (∀ i ≤ source.length, ∀ j ≤ source.length,
      i < j ↔ (source.locate i).Before (source.locate j)) ∧
    ∀ place, source.Contains place → ∃ i ≤ source.length, source.locate i = place := by
  refine ⟨fun i hi => locates_locate hi, ?unique, ?order, ?surjective⟩
  case unique =>
    intro i hi j hj h
    have hposition := (locates_locate hi).positionOf_eq
    rw [h, (locates_locate hj).positionOf_eq] at hposition
    omega
  case order =>
    intro i hi j hj
    rw [← positionOf_lt_iff (locates_locate hi).contains (locates_locate hj).contains,
      (locates_locate hi).positionOf_eq, (locates_locate hj).positionOf_eq, Int.ofNat_lt]
  case surjective =>
    intro place hplace
    have hstart := hplace.bounds.1
    have hend := hplace.positionOf_le
    obtain ⟨i, hi⟩ := Int.eq_ofNat_of_zero_le (a := source.positionOf place) (by omega)
    have hle : i ≤ source.length := by omega
    have hlocates := locates_locate hle
    exact ⟨i, hle, eq_of_positionOf_eq hlocates.contains hplace (hlocates.positionOf_eq.trans hi.symm)⟩

/-- The second newline of two that follow each other lies in an empty line, at its only column. -/
theorem locate_inverts_lines_blank :
    2 ≤ (ofString "+\n\n+").length ∧ (ofString "+\n\n+").Locates ⟨2, 1⟩ 2 :=
  ⟨by decide, (locate_inverts_lines (ofString "+\n\n+")).1 2 (by decide)⟩

end Text

end TapeMachine
