import Mathlib.Algebra.Order.Floor.Div
import Mathlib.Data.List.DropRight
import TapeMachine.Dump
import TapeMachine.Proofs.Lines

/-! Dumps read back. The digits of a number spell it, neither a blank nor a newline stands among them, and
the rows are cut at no other place. So splitting a dump at newlines and blanks gives the numbers of the
cells, none of them left out, repeated or moved. -/

namespace TapeMachine

namespace Numeral

/-- The integer that decimal digits spell behind an optional sign, however many they are. -/
def spelled? : Text → Option Int
  | [] => none
  | c :: rest =>
    if c = minus then (digitValues? rest).map fun ds => -(ds.foldl (fun n d => 10 * n + d) 0 : Nat)
    else (digitValues? (c :: rest)).map fun ds => (ds.foldl (fun n d => 10 * n + d) 0 : Nat)

theorem val_digit_lt (d : Nat) : (digit d).val < 0x3A := by
  show 0x30 + d % 10 < 0x3A
  omega

theorem le_val_digit (d : Nat) : 0x30 ≤ (digit d).val :=
  Nat.le_add_right 0x30 (d % 10)

theorem digit?_digit (d : Nat) : (digit d).digit? = some (d % 10) := by
  have hzero : (decide (0x30 ≤ (digit d).val) && decide ((digit d).val < 0x30 + 10)) = true := by
    rw [Bool.and_eq_true, decide_eq_true_eq, decide_eq_true_eq]
    exact ⟨le_val_digit d, val_digit_lt d⟩
  have hfind := List.find?_cons_of_pos
    (p := fun first => decide (first ≤ (digit d).val) && decide ((digit d).val < first + 10))
    (l := CodePoint.zeros.tail) hzero
  calc (digit d).digit? = (some 0x30).map ((digit d).val - ·) := congrArg (Option.map _) hfind
    _ = some (d % 10) := congrArg some (Nat.add_sub_cancel_left ..)

/-- The digits of a number, by which it is written, give it back. -/
theorem exists_digitsBefore (n : Nat) (rest : Text) :
    ∃ ds, ds ≠ [] ∧ digitsBefore n rest = ds.map digit ++ rest ∧
      (ds.map (· % 10)).foldl (fun n d => 10 * n + d) 0 = n := by
  fun_induction digitsBefore n rest with
  | case1 n rest hn => exact ⟨[n], List.cons_ne_nil _ _, rfl, (Nat.zero_add _).trans (Nat.mod_eq_of_lt hn)⟩
  | case2 n rest hn ih =>
      obtain ⟨ds, -, hdigits, hvalue⟩ := ih
      refine ⟨ds ++ [n % 10], by simp, by simp [hdigits], ?_⟩
      rw [List.map_append, List.foldl_append, hvalue]
      simp only [List.map_cons, List.map_nil, List.foldl_cons, List.foldl_nil]
      omega

theorem digitValues?_map_digit {ds : List Nat} (h : ds ≠ []) :
    digitValues? (ds.map digit) = some (ds.map (· % 10)) := by
  induction ds with
  | nil => exact absurd rfl h
  | cons d ds ih =>
      cases ds with
      | nil => simp [digitValues?, digit?_digit]
      | cons next ds =>
          have hunderscore : digit next ≠ .ofChar '_' := fun heq =>
            absurd (heq ▸ val_digit_lt next : (CodePoint.ofChar '_').val < 0x3A) (by decide)
          rw [List.map_cons, List.map_cons] at ih ⊢
          rw [digitValues?, if_neg hunderscore, ih (List.cons_ne_nil _ _), digit?_digit]
          rfl

theorem spelled?_ofInt (n : Int) : spelled? (ofInt n) = some n := by
  obtain ⟨ds, hne, hdigits, hvalue⟩ := exists_digitsBefore n.natAbs []
  rw [List.append_nil] at hdigits
  have hread : digitValues? (ofNat n.natAbs) = some (ds.map (· % 10)) := by
    rw [ofNat, hdigits, digitValues?_map_digit hne]
  rw [ofInt]
  split
  · rw [spelled?, if_pos rfl, hread, Option.map_some, hvalue]
    exact congrArg some (by omega)
  · cases ds with
    | nil => exact absurd rfl hne
    | cons d ds =>
        have hminus : digit d ≠ minus := fun heq =>
          absurd (heq ▸ le_val_digit d : 0x30 ≤ minus.val) (by decide)
        rw [ofNat, hdigits, List.map_cons] at hread ⊢
        rw [spelled?, if_neg hminus, hread, Option.map_some, hvalue]
        exact congrArg some (by omega)

/-- A code point below the digits, other than the sign, stands in no number. -/
theorem notMem_ofInt {c : CodePoint} (hc : c.val < 0x2D) (n : Int) : c ∉ ofInt n := by
  have hnat {k : Nat} (h : c ∈ ofNat k) : False := by
    obtain ⟨d, rfl⟩ := exists_digit_of_mem_ofNat h
    have := le_val_digit d
    omega
  intro h
  rw [ofInt] at h
  split at h
  · rcases List.mem_cons.mp h with rfl | hmem
    · exact absurd hc (by decide)
    · exact hnat hmem
  · exact hnat h

end Numeral

namespace Text

/-- Parts without a separator are what a text splits into that they are joined to. -/
theorem splitAt_join {separator : CodePoint} {parts : List Text} (hne : parts ≠ [])
    (h : ∀ part ∈ parts, separator ∉ part) : (join [separator] parts).splitAt separator = parts := by
  rw [splitAt_eq_splitOn]
  exact List.splitOn_intercalate separator h hne

end Text

namespace Dump

section Chunks

variable {α : Type} {size : Nat} {positive : 0 < size} {xs chunk : List α}

theorem length_chunks (size : Nat) (positive : 0 < size) (xs : List α) :
    (chunks size positive xs).length = xs.length ⌈/⌉ size := by
  rw [Nat.ceilDiv_eq_add_pred_div]
  fun_induction chunks size positive xs with
  | case1 =>
      rw [List.length_nil, List.length_nil, Nat.zero_add, Nat.div_eq_of_lt (by omega)]
  | case2 x rest ih =>
      rw [List.length_cons, ih, List.length_drop]
      by_cases hshort : (x :: rest).length ≤ size
      · have hceil : (x :: rest).length + size - 1 = rest.length + size := by
          rw [List.length_cons]
          omega
        rw [Nat.sub_eq_zero_of_le hshort, Nat.zero_add, Nat.div_eq_of_lt (by omega), hceil,
          Nat.add_div_right _ positive, Nat.div_eq_of_lt hshort]
      · rw [← Nat.add_div_right _ positive]
        congr 1
        omega

theorem chunks_ne_nil (h : xs ≠ []) : chunks size positive xs ≠ [] := by
  rw [chunks.eq_def]
  cases xs with
  | nil => exact absurd rfl h
  | cons x rest => exact List.cons_ne_nil _ _

theorem length_of_mem_chunks (h : chunk ∈ chunks size positive xs) :
    1 ≤ chunk.length ∧ chunk.length ≤ size := by
  fun_induction chunks size positive xs with
  | case1 => exact absurd h List.not_mem_nil
  | case2 x rest ih =>
      rcases List.mem_cons.mp h with rfl | hmem
      · rw [List.length_take, List.length_cons]
        omega
      · exact ih hmem

/-- Only the last piece may be shorter than the others. -/
theorem length_of_mem_dropLast_chunks (h : chunk ∈ (chunks size positive xs).dropLast) :
    chunk.length = size := by
  fun_induction chunks size positive xs with
  | case1 => exact absurd h List.not_mem_nil
  | case2 x rest ih =>
      by_cases hshort : (x :: rest).length ≤ size
      · rw [List.drop_eq_nil_of_le hshort, chunks] at h
        exact absurd h List.not_mem_nil
      · have hrest : (x :: rest).drop size ≠ [] := fun hnil => hshort (List.drop_eq_nil_iff.mp hnil)
        rw [List.dropLast_cons_of_ne_nil (chunks_ne_nil hrest)] at h
        rcases List.mem_cons.mp h with rfl | hmem
        · rw [List.length_take]
          omega
        · exact ih hmem

end Chunks

variable {memory memory' values cells : List Int} {count count' perRow perRow' : Int} {text : Text}

theorem space_notMem_ofInt (n : Int) : Text.space ∉ Numeral.ofInt n :=
  Numeral.notMem_ofInt (by decide) n

/-- The words of a row are the numbers of its values. -/
theorem splitAt_row (h : values ≠ []) : (row values).splitAt Text.space = values.map Numeral.ofInt := by
  refine Text.splitAt_join (by simpa using h) fun word hword => ?_
  obtain ⟨n, -, rfl⟩ := List.mem_map.mp hword
  exact space_notMem_ofInt n

theorem newline_notMem_row (values : List Int) : Text.newline ∉ row values := by
  intro h
  rcases Text.mem_of_mem_join h with hspace | ⟨word, hword, hmem⟩
  · exact absurd hspace (by decide)
  · obtain ⟨n, -, rfl⟩ := List.mem_map.mp hword
    exact Numeral.notMem_ofInt (by decide) n hmem

/-- The lines of a dump are its rows. -/
theorem lines_rows {perRow : Nat} {positive : 0 < perRow} (h : values ≠ []) :
    (rows perRow positive values).lines = (chunks perRow positive values).map row := by
  refine Text.splitAt_join (by simpa using chunks_ne_nil h) fun line hline => ?_
  obtain ⟨chunk, -, rfl⟩ := List.mem_map.mp hline
  exact newline_notMem_row chunk

/-- The numbers of all rows in order. -/
def readNumbers? (text : Text) : Option (List Int) :=
  (text.lines.flatMap (Text.splitAt Text.space)).mapM Numeral.spelled?

theorem mapM_spelled? (values : List Int) :
    (values.map Numeral.ofInt).mapM Numeral.spelled? = some values := by
  induction values with
  | nil => rfl
  | cons n values ih =>
      rw [List.map_cons, List.mapM_cons, Numeral.spelled?_ofInt, ih]
      rfl

theorem flatMap_splitAt_row {rows : List (List Int)} (h : ∀ values ∈ rows, values ≠ []) :
    (rows.map row).flatMap (Text.splitAt Text.space) = rows.flatten.map Numeral.ofInt := by
  rw [List.flatMap_map, List.map_flatten, ← List.flatMap_def]
  exact List.flatMap_congr fun values hvalues => splitAt_row (h values hvalues)

theorem readNumbers?_rows {perRow : Nat} {positive : 0 < perRow} (h : values ≠ []) :
    readNumbers? (rows perRow positive values) = some values := by
  have hne : ∀ chunk ∈ chunks perRow positive values, chunk ≠ [] := fun chunk hchunk =>
    List.ne_nil_of_length_pos (length_of_mem_chunks hchunk).1
  rw [readNumbers?, lines_rows h, flatMap_splitAt_row hne, flatten_chunks, mapM_spelled?]

/-- A text shows cells in rows of the given length: every row but the last is full, and the numbers are
those of the cells. -/
structure Shows (cells : List Int) (perRow : Nat) (text : Text) : Prop where
  rows : text.lines.length = cells.length ⌈/⌉ perRow
  full : ∀ row ∈ text.lines.dropLast, (row.splitAt Text.space).length = perRow
  last : ∀ row ∈ text.lines.getLast?,
    1 ≤ (row.splitAt Text.space).length ∧ (row.splitAt Text.space).length ≤ perRow
  numbers : readNumbers? text = some cells

theorem shows_rows {perRow : Nat} {positive : 0 < perRow} (h : cells ≠ []) :
    Shows cells perRow (rows perRow positive cells) := by
  have hlength {chunk : List Int} (hchunk : chunk ∈ chunks perRow positive cells) :
      ((row chunk).splitAt Text.space).length = chunk.length := by
    rw [splitAt_row (List.ne_nil_of_length_pos (length_of_mem_chunks hchunk).1), List.length_map]
  refine ⟨?_, fun line hline => ?_, fun line hline => ?_, readNumbers?_rows h⟩
  · rw [lines_rows h, List.length_map, length_chunks]
  · rw [lines_rows h, ← List.map_dropLast] at hline
    obtain ⟨chunk, hchunk, rfl⟩ := List.mem_map.mp hline
    rw [hlength (List.mem_of_mem_dropLast hchunk), length_of_mem_dropLast_chunks hchunk]
  · rw [lines_rows h, List.getLast?_map, Option.mem_map] at hline
    obtain ⟨chunk, hchunk, rfl⟩ := hline
    have hmem := List.mem_of_getLast? hchunk
    rw [hlength hmem]
    exact length_of_mem_chunks hmem

theorem select_of_nonneg (memory : List Int) (h : 0 ≤ count) :
    select memory count = memory.take count.toNat := by
  rw [select, Offset.cut, Offset.fromFront, if_neg (by omega), ← List.take_take,
    List.take_length]

theorem select_of_neg (memory : List Int) (h : count < 0) :
    select memory count = memory.rdrop count.natAbs := by
  rw [select, Offset.cut, Offset.fromFront, if_pos h, List.rdrop]
  congr 1
  omega

theorem format_eq (h : 1 ≤ perRow) (memory : List Int) (count : Int) :
    format memory count perRow = .ok (rows perRow.toNat (by omega) (select memory count)) :=
  dif_pos h

/-- A dump determines its cells, whatever memory and length of rows it was made from. -/
theorem select_eq_of_format (h : 1 ≤ perRow) (h' : 1 ≤ perRow')
    (htext : format memory count perRow = .ok text) (htext' : format memory' count' perRow' = .ok text) :
    select memory' count' = select memory count := by
  rw [format_eq h, Except.ok.injEq] at htext
  rw [format_eq h', Except.ok.injEq] at htext'
  have hread {values : List Int} {size : Nat} {positive : 0 < size} (heq : rows size positive values = text) :
      values = (readNumbers? text).getD [] := by
    subst heq
    by_cases hvalues : values = []
    · subst hvalues
      rw [rows, chunks]
      rfl
    · rw [readNumbers?_rows hvalues]
      rfl
  rw [hread htext, hread htext']

/-- A dump shows the cells before the offset, where an offset below zero leaves out cells from the end; no
cells give the empty text, and the text determines the cells. -/
theorem format_shows (h : 1 ≤ perRow) (memory : List Int) (count : Int) :
    (0 ≤ count → select memory count = memory.take count.toNat) ∧
    (count < 0 → select memory count = memory.rdrop count.natAbs) ∧
    ∃ text, format memory count perRow = .ok text ∧
      (select memory count = [] → text = []) ∧
      (select memory count ≠ [] → Shows (select memory count) perRow.toNat text) ∧
      ∀ memory' count' perRow', 1 ≤ perRow' → format memory' count' perRow' = .ok text →
        select memory' count' = select memory count := by
  refine ⟨select_of_nonneg memory, select_of_neg memory, _, format_eq h memory count, fun hnil => ?_,
    shows_rows, fun memory' count' perRow' h' htext' => ?_⟩
  · rw [hnil, rows, chunks]
    rfl
  · exact select_eq_of_format h h' (format_eq h memory count) htext'

/-- Four cells but the last, two in a row. -/
theorem format_shows_negative_offset :
    1 ≤ (2 : Int) ∧ format [10, -2, 300, 7] (-1) 2 = .ok (.ofString "10 -2\n300") ∧
      Shows [10, -2, 300] 2 (.ofString "10 -2\n300") := by
  have hcells : select [10, -2, 300, 7] (-1) = [10, -2, 300] := by decide
  have hrow : 1 ≤ (2 : Int) := by decide
  obtain ⟨-, -, text, htext, -, hshows, -⟩ := format_shows hrow [10, -2, 300, 7] (-1)
  have hformat : format [10, -2, 300, 7] (-1) 2 = .ok (.ofString "10 -2\n300") := by cbv
  obtain rfl : Text.ofString "10 -2\n300" = text := Except.ok.inj (hformat.symm.trans htext)
  rw [hcells] at hshows
  exact ⟨hrow, hformat, hshows (List.cons_ne_nil _ _)⟩

end Dump

end TapeMachine
