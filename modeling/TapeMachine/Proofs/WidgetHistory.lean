import Mathlib.Data.List.TakeWhile
import TapeMachine.Sink.TextBlocks

/-! What a widget shows. A rendered text becomes a block of its own behind the blocks of the document,
and only a blank document gives up its empty block for it. So a document that shows something grows by one
block with each text, empty or not, and a blank one stays blank up to the first text that is not empty. -/

namespace TapeMachine.TextBlocks

/-- The document after texts have been rendered one after the other. -/
def renderEach (blocks : TextBlocks) (texts : List Text) : TextBlocks :=
  texts.foldl render blocks

variable {blocks : TextBlocks} {t : Text}

theorem isBlank_iff : isBlank blocks = true ↔ blocks = [[]] := by
  rw [isBlank, decide_eq_true_eq]

theorem extendLast_append_singleton (blocks : TextBlocks) (last t : Text) :
    extendLast (blocks ++ [last]) t = blocks ++ [last ++ t] := by
  induction blocks with
  | nil => rfl
  | cons block blocks ih =>
      have hcons : extendLast (block :: (blocks ++ [last])) t = block :: extendLast (blocks ++ [last]) t := by
        cases blocks <;> rfl
      rw [List.cons_append, hcons, ih, List.cons_append]

/-! ### One text -/

theorem render_blank (t : Text) : render [[]] t = [t] := by
  have hcalls : calls [[]] t = [.takeCursor, .moveToEnd, .insertText t, .putCursor] := by
    rw [calls, if_pos (isBlank_iff.mpr rfl)]
    rfl
  rw [render, hcalls]
  rfl

theorem render_of_ne (h : blocks ≠ [[]]) (t : Text) : render blocks t = blocks ++ [t] := by
  have hcalls : calls blocks t =
      [.takeCursor, .moveToEnd, .insertBlock, .insertText t, .putCursor] := by
    rw [calls, if_neg fun hblank => h (isBlank_iff.mp hblank)]
    rfl
  rw [render, hcalls]
  exact extendLast_append_singleton blocks [] t

theorem append_singleton_ne_blank (h : blocks ≠ []) (t : Text) : blocks ++ [t] ≠ [[]] := by
  intro hblank
  have hends : blocks ++ [t] = [] ++ [[]] := hblank
  exact h (List.append_inj' hends rfl).1

/-- Only an empty text in a blank document leaves no block. -/
theorem render_eq_self_iff : render blocks t = blocks ↔ blocks = [[]] ∧ t = [] := by
  by_cases hblank : blocks = [[]]
  · rw [hblank, render_blank, List.cons.injEq]
    exact ⟨fun h => ⟨rfl, h.1⟩, fun h => ⟨h.2, rfl⟩⟩
  · rw [render_of_ne hblank, List.append_right_eq_self]
    exact ⟨fun h => absurd h (List.cons_ne_nil t []), fun h => absurd h.1 hblank⟩

theorem render_ne_nil (blocks : TextBlocks) (t : Text) : render blocks t ≠ [] := by
  by_cases hblank : blocks = [[]]
  · rw [hblank, render_blank]
    exact List.cons_ne_nil t []
  · rw [render_of_ne hblank]
    exact List.append_ne_nil_of_right_ne_nil blocks (List.cons_ne_nil t [])

theorem render_eq_blank_iff (h : blocks ≠ []) : render blocks t = [[]] ↔ blocks = [[]] ∧ t = [] := by
  by_cases hblank : blocks = [[]]
  · rw [← render_eq_self_iff, hblank]
  · rw [render_of_ne hblank]
    exact ⟨fun ht => absurd ht (append_singleton_ne_blank h t), fun ht => absurd ht.1 hblank⟩

/-- The empty block that a blank document gives up shows nothing. -/
theorem filter_render (blocks : TextBlocks) (t : Text) :
    (render blocks t).filter (· ≠ []) = blocks.filter (· ≠ []) ++ [t].filter (· ≠ []) := by
  by_cases hblank : blocks = [[]]
  · rw [hblank, render_blank]
    rfl
  · rw [render_of_ne hblank, List.filter_append]

/-! ### Texts one after the other -/

theorem renderEach_cons (blocks : TextBlocks) (t : Text) (texts : List Text) :
    renderEach blocks (t :: texts) = renderEach (render blocks t) texts :=
  rfl

theorem renderEach_append (blocks : TextBlocks) (texts texts' : List Text) :
    renderEach blocks (texts ++ texts') = renderEach (renderEach blocks texts) texts' :=
  List.foldl_append

theorem renderEach_of_ne (hempty : blocks ≠ []) (hblank : blocks ≠ [[]]) (texts : List Text) :
    renderEach blocks texts = blocks ++ texts := by
  induction texts generalizing blocks with
  | nil => exact (List.append_nil blocks).symm
  | cons t texts ih =>
      have hempty' : blocks ++ [t] ≠ [] := List.append_ne_nil_of_left_ne_nil hempty [t]
      calc renderEach blocks (t :: texts)
          = renderEach (blocks ++ [t]) texts := by rw [renderEach_cons, render_of_ne hblank]
        _ = blocks ++ [t] ++ texts := ih hempty' (append_singleton_ne_blank hempty t)
        _ = blocks ++ t :: texts := List.append_assoc blocks [t] texts

/-- A blank document becomes the one that begins with the first text that is not empty. -/
theorem renderEach_blank (texts : List Text) :
    renderEach [[]] texts = start (texts.dropWhile (· = [])) := by
  induction texts with
  | nil => rfl
  | cons t texts ih =>
      rw [renderEach_cons, render_blank]
      by_cases ht : t = []
      · rw [ht, ih, List.dropWhile_cons_of_pos (by simp)]
      · have hblank : ([t] : TextBlocks) ≠ [[]] := fun h => ht (List.cons.inj h).1
        rw [renderEach_of_ne (List.cons_ne_nil t []) hblank, List.dropWhile_cons_of_neg (by simpa using ht)]
        rfl

theorem start_dropWhile (texts : List Text) :
    start (texts.dropWhile (· = [])) =
      if ∀ t ∈ texts, t = [] then [[]] else texts.dropWhile (· = []) := by
  have hall : texts.dropWhile (· = []) = [] ↔ ∀ t ∈ texts, t = [] := by
    simp only [List.dropWhile_eq_nil_iff, decide_eq_true_eq]
  simp only [start, List.isEmpty_iff, hall]

/-- A document is blank for as long as nothing but empty texts has been rendered into a blank one. -/
theorem renderEach_eq_blank_iff (h : blocks ≠ []) (texts : List Text) :
    renderEach blocks texts = [[]] ↔ blocks = [[]] ∧ ∀ t ∈ texts, t = [] := by
  induction texts generalizing blocks with
  | nil => simp [renderEach]
  | cons t texts ih =>
      rw [renderEach_cons, ih (render_ne_nil blocks t), render_eq_blank_iff h, List.forall_mem_cons,
        and_assoc]

theorem filter_renderEach (blocks : TextBlocks) (texts : List Text) :
    (renderEach blocks texts).filter (· ≠ []) = blocks.filter (· ≠ []) ++ texts.filter (· ≠ []) := by
  induction texts generalizing blocks with
  | nil => exact (List.append_nil _).symm
  | cons t texts ih =>
      rw [renderEach_cons, ih, filter_render, List.append_assoc, ← List.filter_append, List.singleton_append]

/-- A document that shows something gets a block for each text, in order and behind its own. A blank one
gets them from the first text that is not empty, and stays blank if there is none. So no text that is not
empty is lost, joined to another or moved, and the only texts that leave no block are the empty ones with
which the history of a blank document begins. -/
theorem renderEach_shows (h : blocks ≠ []) (texts : List Text) :
    (blocks ≠ [[]] → renderEach blocks texts = blocks ++ texts) ∧
    (blocks = [[]] → renderEach blocks texts =
      if ∀ t ∈ texts, t = [] then [[]] else texts.dropWhile (· = [])) ∧
    (renderEach blocks texts).filter (· ≠ []) = blocks.filter (· ≠ []) ++ texts.filter (· ≠ []) ∧
    ∀ before t, renderEach blocks (before ++ [t]) = renderEach blocks before ↔
      blocks = [[]] ∧ ∀ u ∈ before ++ [t], u = [] := by
  refine ⟨fun hblank => renderEach_of_ne h hblank texts, ?_, filter_renderEach blocks texts, ?_⟩
  · rintro rfl
    rw [renderEach_blank, start_dropWhile]
  · intro before t
    have hlast : renderEach blocks (before ++ [t]) = render (renderEach blocks before) t :=
      renderEach_append blocks before [t]
    rw [hlast, render_eq_self_iff, renderEach_eq_blank_iff h, and_assoc, List.forall_mem_append,
      List.forall_mem_singleton]

/-- The empty texts in front leave no block in a blank document, and every other one does; a document with
two empty blocks is not blank. -/
theorem renderEach_shows_empty_texts :
    (([[]] : TextBlocks) ≠ [] ∧ renderEach [[]] [[], [], Text.ofString "a", [], Text.ofString "b"] =
      [Text.ofString "a", [], Text.ofString "b"]) ∧
    ([[], []] : TextBlocks) ≠ [] ∧ ([[], []] : TextBlocks) ≠ [[]] ∧
      renderEach [[], []] [[], Text.ofString "a"] = [[], [], [], Text.ofString "a"] := by
  have hblank : ([[]] : TextBlocks) ≠ [] := List.cons_ne_nil _ _
  have hempty : ([[], []] : TextBlocks) ≠ [] := List.cons_ne_nil _ _
  have hshows : ([[], []] : TextBlocks) ≠ [[]] := by decide
  exact ⟨⟨hblank, (renderEach_shows hblank _).2.1 rfl⟩, hempty, hshows,
    (renderEach_shows hempty _).1 hshows⟩

end TapeMachine.TextBlocks
