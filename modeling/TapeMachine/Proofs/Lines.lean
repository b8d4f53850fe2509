import Mathlib.Algebra.GroupWithZero.Nat
import Mathlib.Data.List.TakeWhile
import TapeMachine.Location

/-! Lines of a text and places in it. The lines are what stands between newlines, and the line and the
column of a position say which of them it lies in and how far from its beginning: what stands before the
position ends with a beginning of that line, and the column counts its code points. -/

namespace TapeMachine.Text

variable {t u source : Text} {c : CodePoint} {i k : Nat}

theorem splitAt_eq_splitOn (separator : CodePoint) (t : Text) :
    t.splitAt separator = t.splitOn separator := by
  induction t with
  | nil => rfl
  | cons c rest ih =>
      rw [splitAt, List.splitOn_cons_eq_if_modifyHead, ih]
      by_cases hc : c = separator
      · rw [if_pos hc, if_pos (beq_iff_eq.mpr hc)]
      · rw [if_neg hc, if_neg (by simpa using hc)]
        cases hsplit : rest.splitOn separator with
        | nil => exact absurd hsplit (List.splitOn_ne_nil separator rest)
        | cons first others => rfl

theorem subset_of_mem_splitAt {separator : CodePoint} (h : u ∈ t.splitAt separator) : u ⊆ t := by
  induction t generalizing u with
  | nil =>
      obtain rfl : u = [] := List.mem_singleton.mp h
      exact List.Subset.refl []
  | cons c rest ih =>
      have hrest {v : Text} (hv : v ∈ Text.splitAt separator rest) : v ⊆ c :: rest :=
        List.subset_cons_of_subset c (ih hv)
      rw [splitAt] at h
      split at h
      · rcases List.mem_cons.mp h with rfl | hmem
        · exact List.nil_subset _
        · exact hrest hmem
      · split at h
        · next hnil => exact absurd hnil (splitAt_ne_nil separator rest)
        · next first others hsplit =>
            rw [hsplit] at hrest ih
            rcases List.mem_cons.mp h with rfl | hmem
            · exact List.cons_subset_cons c (ih List.mem_cons_self)
            · exact hrest (List.mem_cons_of_mem first hmem)

theorem mem_of_mem_join {separator : Text} {parts : List Text} (h : c ∈ join separator parts) :
    c ∈ separator ∨ ∃ part ∈ parts, c ∈ part := by
  induction parts with
  | nil => exact absurd h List.not_mem_nil
  | cons first others ih =>
      cases others with
      | nil => exact Or.inr ⟨first, List.mem_cons_self, by simpa [join, List.intercalate] using h⟩
      | cons second rest =>
          rw [join, List.intercalate_cons_cons, List.mem_append, List.mem_append] at h
          rcases h with (hfirst | hseparator) | hrest
          · exact Or.inr ⟨first, List.mem_cons_self, hfirst⟩
          · exact Or.inl hseparator
          · rcases ih hrest with hseparator | ⟨part, hpart, hmem⟩
            · exact Or.inl hseparator
            · exact Or.inr ⟨part, List.mem_cons_of_mem first hpart, hmem⟩

theorem lines_of_notMem (h : newline ∉ t) : t.lines = [t] := by
  rw [lines, splitAt_eq_splitOn, List.splitOn_eq_singleton h]

theorem lines_append_newline (t u : Text) : lines (t ++ newline :: u) = t.lines ++ u.lines := by
  simp only [lines, splitAt_eq_splitOn, List.splitOn_append_cons_self]

theorem length_lines (t : Text) : t.lines.length = t.count newline + 1 := by
  rw [lines, splitAt_eq_splitOn]
  induction t with
  | nil => rfl
  | cons c rest ih =>
      rw [List.splitOn_cons_eq_if_modifyHead, List.count_cons]
      by_cases hc : (c == newline) = true
      · rw [if_pos hc, if_pos hc, List.length_cons, ih]
      · rw [if_neg hc, if_neg hc, List.length_modifyHead, ih]

/-- The lines with a newline after each take one code point more than the text, which has none after the
last. -/
theorem sum_length_lines (t : Text) : (t.lines.map fun l => l.length + 1).sum = t.length + 1 := by
  rw [lines, splitAt_eq_splitOn]
  induction t with
  | nil => rfl
  | cons c rest ih =>
      rw [List.splitOn_cons_eq_if_modifyHead, List.length_cons, ← ih]
      by_cases hc : (c == newline) = true
      · rw [if_pos hc, List.map_cons, List.sum_cons, List.length_nil]
        omega
      · rw [if_neg hc]
        cases hsplit : rest.splitOn newline with
        | nil => exact absurd hsplit (List.splitOn_ne_nil newline rest)
        | cons first others =>
            rw [List.modifyHead_cons, List.map_cons, List.map_cons, List.sum_cons, List.sum_cons,
              List.length_cons]
            omega

theorem newline_notMem_of_mem_lines (h : u ∈ t.lines) : newline ∉ u := by
  induction t generalizing u with
  | nil =>
      obtain rfl : u = [] := List.mem_singleton.mp h
      exact List.not_mem_nil
  | cons c rest ih =>
      rw [lines, splitAt] at h
      split at h
      · rcases List.mem_cons.mp h with rfl | hmem
        · exact List.not_mem_nil
        · exact ih hmem
      · next hc =>
          split at h
          · obtain rfl := List.mem_singleton.mp h
            exact List.not_mem_cons_of_ne_of_not_mem (Ne.symm hc) List.not_mem_nil
          · next first others hsplit =>
              have hlines : lines rest = first :: others := hsplit
              rcases List.mem_cons.mp h with rfl | hmem
              · exact List.not_mem_cons_of_ne_of_not_mem (Ne.symm hc)
                  (ih (hlines ▸ List.mem_cons_self))
              · exact ih (hlines ▸ List.mem_cons_of_mem first hmem)

theorem head?_splitAt (separator : CodePoint) (t : Text) :
    (t.splitAt separator).head? = some (t.takeWhile (· ≠ separator)) := by
  induction t with
  | nil => rfl
  | cons c rest ih =>
      by_cases hc : c = separator
      · simp [splitAt, hc]
      · cases hsplit : splitAt separator rest with
        | nil => exact absurd hsplit (splitAt_ne_nil separator rest)
        | cons first others =>
            rw [hsplit, List.head?_cons] at ih
            simp [splitAt, hc, hsplit, Option.some.inj ih]

theorem line_one (t : Text) : t.line 1 = t.takeWhile (· ≠ newline) := by
  rw [line, lines, Nat.sub_self, List.getD_eq_getElem?_getD, ← List.head?_eq_getElem?, head?_splitAt,
    Option.getD_some]

/-- What stands in the last line of a text. -/
def lastLine (t : Text) : Text :=
  (t.reverse.takeWhile (· ≠ newline)).reverse

theorem newline_notMem_lastLine (t : Text) : newline ∉ t.lastLine := by
  intro h
  simpa using List.mem_takeWhile_imp (List.mem_reverse.mp h)

/-- A text goes on in its last line; the lines before that one are as many as it has newlines. -/
theorem exists_lines_append (t : Text) :
    ∃ front : List Text, front.length = t.count newline ∧
      ∀ u : Text, lines (t ++ u) = front ++ lines (t.lastLine ++ u) := by
  have hparts : (t.reverse.dropWhile (· ≠ newline)).reverse ++ t.lastLine = t := by
    rw [lastLine, ← List.reverse_append, List.takeWhile_append_dropWhile, List.reverse_reverse]
  cases hrest : t.reverse.dropWhile (· ≠ newline) with
  | nil =>
      rw [hrest, List.reverse_nil, List.nil_append] at hparts
      refine ⟨[], ?_, fun u => ?_⟩
      · rw [← hparts, List.count_eq_zero_of_not_mem (newline_notMem_lastLine t), List.length_nil]
      · rw [hparts, List.nil_append]
  | cons c front =>
      have hhead : (t.reverse.dropWhile (· ≠ newline)).head? = some c := by rw [hrest, List.head?_cons]
      obtain rfl : c = newline := by
        have hnot := List.head?_dropWhile_not (· ≠ newline) t.reverse
        rw [hhead] at hnot
        simpa using hnot
      rw [hrest, List.reverse_cons, List.append_assoc, List.singleton_append] at hparts
      refine ⟨lines front.reverse, ?_, fun u => ?_⟩
      · rw [length_lines, ← hparts, List.count_append, List.count_cons_self,
          List.count_eq_zero_of_not_mem (newline_notMem_lastLine t)]
      · calc lines (t ++ u) = lines (front.reverse ++ newline :: t.lastLine ++ u) := by rw [hparts]
          _ = lines (front.reverse ++ newline :: (t.lastLine ++ u)) := by
            rw [List.append_assoc, List.cons_append]
          _ = lines front.reverse ++ lines (t.lastLine ++ u) := lines_append_newline _ _

/-! ### Lines and columns -/

theorem before_of_le (h : i ≤ source.length) : source.before i = source.take i := by
  rw [before, Offset.cut_ofNat h]

/-- The line of a position counts the newlines before it, the column the code points of its line before
it, each with one added. -/
theorem locate_eq (h : i ≤ source.length) :
    source.locate i = ⟨(source.take i).count newline + 1, (lastLine (source.take i)).length + 1⟩ := by
  have hle : (lastLine (source.take i)).length ≤ i := by
    calc (lastLine (source.take i)).length ≤ (source.take i).reverse.length := by
          rw [lastLine, List.length_reverse]
          exact (List.takeWhile_prefix _).length_le
      _ ≤ i := by
          rw [List.length_reverse]
          exact List.length_take_le i source
  have hstart : lastLineStart (source.take i) = i - (lastLine (source.take i)).length := by
    rw [lastLineStart, lastLine, List.length_reverse, List.length_take, Nat.min_eq_left h]
  rw [locate, before_of_le h, hstart, Location.mk.injEq]
  refine ⟨rfl, ?_⟩
  omega

theorem locate_take (hi : i ≤ k) (hk : k ≤ source.length) :
    locate (source.take k) i = source.locate i := by
  have hlength : i ≤ (source.take k).length := by
    rw [List.length_take]
    omega
  rw [locate_eq hlength, locate_eq (Nat.le_trans hi hk), List.take_take, Nat.min_eq_left hi]

/-- The line of a position is what that line has before it, and what follows up to the next newline. -/
theorem getElem?_lines_count (source : Text) (i : Nat) :
    source.lines[(source.take i).count newline]? =
      some (lastLine (source.take i) ++ (source.drop i).takeWhile (· ≠ newline)) := by
  obtain ⟨front, hlength, hfront⟩ := exists_lines_append (source.take i)
  have hlines : source.lines = front ++ lines (lastLine (source.take i) ++ source.drop i) := by
    rw [← hfront, List.take_append_drop]
  have hkeep : ∀ d ∈ lastLine (source.take i), decide (d ≠ newline) = true := by
    intro d hd
    rw [decide_eq_true_eq]
    rintro rfl
    exact newline_notMem_lastLine _ hd
  rw [hlines, List.getElem?_append_right (Nat.le_of_eq hlength), hlength, Nat.sub_self, lines,
    ← List.head?_eq_getElem?, head?_splitAt, List.takeWhile_append_of_pos hkeep]

/-- A code point other than a newline stands in the line of its position, after what that line has before
it. -/
theorem exists_line_of_getElem? (hc : source[i]? = some c) (hne : c ≠ newline) :
    ∃ rest : Text, source.lines[(source.take i).count newline]? =
      some (lastLine (source.take i) ++ c :: rest) := by
  obtain ⟨hlt, hget⟩ := List.getElem?_eq_some_iff.mp hc
  refine ⟨(source.drop (i + 1)).takeWhile (· ≠ newline), ?_⟩
  rw [getElem?_lines_count, List.drop_eq_getElem_cons hlt, hget, List.takeWhile_cons,
    if_pos (decide_eq_true hne)]

end TapeMachine.Text
