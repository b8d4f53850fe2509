import TapeMachine.Proofs.Lines

/-! Excerpts of a source text. An excerpt shows the line of a position behind a gutter, and below it a
caret behind blanks. The blanks are fewer than the gutter is wide, so the caret stands to the left of the
code point that it marks, by two columns as long as the line number has no more than four digits. -/

namespace TapeMachine.Text

variable {source : Text} {c : CodePoint} {i : Nat}

/-- The line of an excerpt that marks a column. -/
def caret (column : Int) : Text :=
  List.replicate 7 space ++ List.replicate (column - 1).toNat space ++ ofString "^"

theorem excerpt_eq (t : Text) (position : Int) :
    t.excerpt position =
      gutter (t.locate position).line ++ t.line (t.locate position).line ++
        newline :: caret (t.locate position).column :=
  rfl

theorem length_gutter (number : Nat) :
    (gutter number).length = 5 + max 4 (Numeral.ofNat number).length := by
  have hopening : (ofString "> ").length = 2 := rfl
  have hbar : (ofString " | ").length = 3 := rfl
  rw [gutter, List.length_append, List.length_append, length_padLeft, hopening, hbar]
  omega

theorem newline_notMem_gutter (number : Nat) : newline ∉ gutter number := by
  intro h
  have hopening : newline ∉ ofString "> " := by decide
  have hbar : newline ∉ ofString " | " := by decide
  rw [gutter, List.mem_append, List.mem_append, padLeft, List.mem_append] at h
  rcases h with (h | h | h) | h
  · exact hopening h
  · exact absurd (List.eq_of_mem_replicate h) (by decide)
  · obtain ⟨d, hd⟩ := Numeral.exists_digit_of_mem_ofNat h
    have hval : newline.val = 0x30 + d % 10 := congrArg CodePoint.val hd
    have hnewline : newline.val = 0xA := rfl
    omega
  · exact hbar h

theorem newline_notMem_line (source : Text) (number : Nat) : newline ∉ source.line number := by
  rw [line, List.getD_eq_getElem?_getD]
  cases htext : source.lines[number - 1]? with
  | none => exact List.not_mem_nil
  | some text => exact newline_notMem_of_mem_lines (List.mem_of_getElem? htext)

theorem caret_eq (k : Nat) : caret (k + 1) = List.replicate (7 + k) space ++ ofString "^" := by
  have hk : ((k : Int) + 1 - 1).toNat = k := by omega
  rw [caret, hk, List.replicate_append_replicate]

theorem newline_notMem_caret (column : Int) : newline ∉ caret column := by
  have hmark : newline ∉ ofString "^" := by decide
  have hspace : newline ≠ space := by decide
  rw [caret, List.mem_append, List.mem_append]
  rintro ((h | h) | h)
  · exact hspace (List.eq_of_mem_replicate h)
  · exact hspace (List.eq_of_mem_replicate h)
  · exact hmark h

/-- An excerpt has two lines, wherever its position lies. -/
theorem lines_excerpt (source : Text) (position : Int) :
    (source.excerpt position).lines =
      [gutter (source.locate position).line ++ source.line (source.locate position).line,
        caret (source.locate position).column] := by
  have hfirst : newline ∉
      gutter (source.locate position).line ++ source.line (source.locate position).line := by
    rw [List.mem_append]
    rintro (h | h)
    · exact newline_notMem_gutter _ h
    · exact newline_notMem_line _ _ h
  rw [excerpt_eq, lines_append_newline, lines_of_notMem hfirst, lines_of_notMem (newline_notMem_caret _)]
  rfl

theorem idxOf_caret (k : Nat) : (caret (k + 1)).idxOf (.ofChar '^') = 7 + k := by
  have hspace : CodePoint.ofChar '^' ∉ List.replicate (7 + k) space := by
    intro h
    exact absurd (List.eq_of_mem_replicate h) (by decide)
  have hmark : (ofString "^").idxOf (.ofChar '^') = 0 := rfl
  rw [caret_eq, List.idxOf_append, if_neg hspace, List.length_replicate, hmark, Nat.zero_add]

/-- How an excerpt shows the code point at a position: the two lines of the excerpt, where the first has
the code point, and where the second has its caret. -/
structure Shows (source : Text) (i : Nat) (c : CodePoint) (line column : Nat) (text below : Text) :
    Prop where
  locate_eq : source.locate i = ⟨line, column⟩
  /-- The line number counts from one and is that of a line of the source. -/
  text_eq : 1 ≤ line ∧ source.lines[line - 1]? = some text
  lines_eq : (source.excerpt i).lines =
    [ofString "> " ++ padLeft 4 (Numeral.ofNat line) ++ ofString " | " ++ text, below]
  /-- The code point is that of its column, behind the gutter. -/
  symbol_eq : 1 ≤ column ∧ text[column - 1]? = some c ∧
    (ofString "> " ++ padLeft 4 (Numeral.ofNat line) ++ ofString " | " ++ text)[
      (gutter line).length + (column - 1)]? = some c
  below_eq : below = List.replicate (7 + (column - 1)) space ++ ofString "^"
  /-- The caret stands to the left of the code point, by two columns and by one more for each digit of
  the line number after the fourth. -/
  idxOf_caret : below.idxOf (.ofChar '^') + (max 4 (Numeral.ofNat line).length - 2) =
    (gutter line).length + (column - 1)

/-- The excerpt of a position that holds no newline shows the line of the position and in it, at its
column, what the position holds, with a caret two columns or more to the left of it. -/
theorem exists_shows (source : Text) (i : Nat) (c : CodePoint) (hc : source[i]? = some c)
    (hne : c ≠ newline) : ∃ line column text below, Shows source i c line column text below := by
  obtain ⟨rest, htext⟩ := exists_line_of_getElem? hc hne
  have hplace := locate_eq (Nat.le_of_lt (List.getElem?_eq_some_iff.mp hc).1)
  generalize hstart : lastLine (source.take i) = start at htext hplace
  generalize (source.take i).count newline = count at htext hplace
  have hline : source.line (count + 1) = start ++ c :: rest := by
    rw [line, Nat.add_sub_cancel, List.getD_eq_getElem?_getD, htext, Option.getD_some]
  have hsymbol : (start ++ c :: rest)[start.length]? = some c := by
    rw [List.getElem?_append_right (Nat.le_refl _), Nat.sub_self, List.getElem?_cons_zero]
  refine ⟨count + 1, start.length + 1, start ++ c :: rest, caret (start.length + 1), ?_⟩
  constructor
  case locate_eq => exact hplace
  case text_eq => exact ⟨Nat.le_add_left 1 count, htext⟩
  case lines_eq =>
    rw [lines_excerpt, hplace]
    simp only [hline]
    rfl
  case symbol_eq =>
    refine ⟨Nat.le_add_left 1 _, hsymbol, ?_⟩
    have hgutter : ofString "> " ++ padLeft 4 (Numeral.ofNat (count + 1)) ++ ofString " | " =
        gutter (count + 1) := rfl
    rw [hgutter, List.getElem?_append_right (Nat.le_add_right _ _), Nat.add_sub_cancel_left]
    exact hsymbol
  case below_eq => exact caret_eq start.length
  case idxOf_caret =>
    rw [idxOf_caret, length_gutter]
    omega

/-- The `x` of `+.x+` is shown. -/
theorem exists_shows_third :
    (ofString "+.x+")[2]? = some (.ofChar 'x') ∧ CodePoint.ofChar 'x' ≠ newline ∧
      ∃ line column text below, Shows (ofString "+.x+") 2 (.ofChar 'x') line column text below :=
  ⟨rfl, by decide, exists_shows (ofString "+.x+") 2 (.ofChar 'x') rfl (by decide)⟩

/-- A caret does not stand under the code point that it marks: for the `x` of `+.x+` it is under the first
`+`. -/
theorem not_caret_under_symbol :
    ¬ ∀ (source : Text) (i : Nat) (c : CodePoint), source[i]? = some c → c ≠ newline →
      ∃ first second : Text, (source.excerpt i).lines = [first, second] ∧
        first[second.idxOf (.ofChar '^')]? = some c := by
  intro h
  obtain ⟨first, second, hlines, hsymbol⟩ := h (ofString "+.x+") 2 (.ofChar 'x') rfl (by decide)
  have hshown : (excerpt (ofString "+.x+") 2).lines =
      [ofString ">    1 | +.x+", ofString "         ^"] := by decide +kernel
  obtain ⟨rfl, hsecond⟩ := List.cons.inj (hlines.symm.trans hshown)
  obtain ⟨rfl, _⟩ := List.cons.inj hsecond
  exact absurd hsymbol (by decide)

end TapeMachine.Text
