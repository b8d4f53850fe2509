import TapeMachine.Instruction

/-! Static matching of brackets. An opening and a closing symbol belong together if the text between
them is balanced; this speaks of the text alone and of no run. The openings that are still open before a
position are found in one pass, and the pass agrees with the matching: what it keeps open is what has
no partner yet, and the innermost of it is the partner of a closing symbol that comes next. Code points
that are no bracket play no part, whether they are instructions or not. -/

namespace TapeMachine

def CodePoint.IsBracket (c : CodePoint) : Prop :=
  Instruction.ofCodePoint? c = some .opening ∨ Instruction.ofCodePoint? c = some .closing

namespace Text

def instruction? (code : Text) (i : Nat) : Option Instruction :=
  code[i]?.bind Instruction.ofCodePoint?

/-- A text is balanced if each of its brackets has its partner within it. -/
inductive Balanced : Text → Prop where
  | nil : Balanced []
  | other {c : CodePoint} {t : Text} (hc : ¬ c.IsBracket) (ht : Balanced t) : Balanced (c :: t)
  | loop {opening closing : CodePoint} {body t : Text}
      (hopening : Instruction.ofCodePoint? opening = some .opening)
      (hclosing : Instruction.ofCodePoint? closing = some .closing)
      (hbody : Balanced body) (ht : Balanced t) : Balanced (opening :: (body ++ closing :: t))

/-- The brackets at two positions belong together. -/
structure Matches (code : Text) (start stop : Nat) : Prop where
  lt : start < stop
  opening : code.instruction? start = some .opening
  closing : code.instruction? stop = some .closing
  balanced : Balanced ((code.take stop).drop (start + 1))

/-- An opening symbol that no closing one belongs to. -/
def UnmatchedOpening (code : Text) (start : Nat) : Prop :=
  code.instruction? start = some .opening ∧ ∀ stop, ¬ code.Matches start stop

/-- A closing symbol that no opening one belongs to. -/
def UnmatchedClosing (code : Text) (stop : Nat) : Prop :=
  code.instruction? stop = some .closing ∧ ∀ start, ¬ code.Matches start stop

/-- The openings that are open before a position, the innermost first. A closing symbol closes the
innermost, and is passed over if none is open. -/
def openBefore (code : Text) : Nat → List Nat
  | 0 => []
  | i + 1 =>
    match code.instruction? i with
    | some .opening => i :: openBefore code i
    | some .closing => (openBefore code i).tail
    | _ => openBefore code i

variable {code : Text} {i j k : Nat} {outer above : List Nat}

/-! ### Instructions and balanced texts -/

theorem instruction?_eq_some {instruction : Instruction} :
    code.instruction? i = some instruction ↔
      ∃ c, code[i]? = some c ∧ Instruction.ofCodePoint? c = some instruction :=
  Option.bind_eq_some_iff

theorem instruction?_eq_some_iff {instruction : Instruction} :
    code.instruction? i = some instruction ↔ code[i]? = some (.ofChar instruction.symbol) := by
  rw [instruction?_eq_some]
  constructor
  · rintro ⟨c, hc, hi⟩
    rw [hc, Instruction.eq_symbol_of_ofCodePoint? hi]
  · intro h
    exact ⟨_, h, Instruction.ofCodePoint?_symbol instruction⟩

theorem lt_length_of_instruction? {instruction : Instruction}
    (h : code.instruction? i = some instruction) : i < code.length := by
  obtain ⟨c, hc, _⟩ := instruction?_eq_some.mp h
  exact (List.getElem?_eq_some_iff.mp hc).1

theorem instruction?_take_of_lt (h : i < k) : instruction? (code.take k) i = code.instruction? i := by
  rw [instruction?, List.getElem?_take_of_lt h, instruction?]

theorem Balanced.append {t u : Text} (ht : Balanced t) (hu : Balanced u) : Balanced (t ++ u) := by
  induction ht with
  | nil => exact hu
  | other hc _ ih => exact .other hc ih
  | loop hopening hclosing hbody _ _ ih =>
      rw [List.cons_append, List.append_assoc, List.cons_append]
      exact .loop hopening hclosing hbody ih

/-- The text from one position to another is that up to a third one between them and that after it. -/
theorem drop_take_eq_append (code : Text) (hij : i ≤ j) (hjk : j ≤ k) :
    (code.take k).drop i = (code.take j).drop i ++ (code.take k).drop j := by
  by_cases hlength : i ≤ code.length
  · have hlast : (code.take k).take j = code.take j := by
      rw [List.take_take, Nat.min_eq_left hjk]
    have hfirst : i ≤ (code.take j).length := by
      rw [List.length_take]
      omega
    calc (code.take k).drop i = ((code.take k).take j ++ (code.take k).drop j).drop i := by
          rw [List.take_append_drop]
      _ = (code.take j).drop i ++ (code.take k).drop j := by
          rw [hlast, List.drop_append_of_le_length hfirst]
  · have hnone (a b : Nat) (hb : code.length < b) : (code.take a).drop b = [] := by
      apply List.drop_eq_nil_of_le
      rw [List.length_take]
      omega
    rw [hnone k i (by omega), hnone j i (by omega), hnone k j (by omega), List.append_nil]

theorem drop_take_succ (code : Text) (i : Nat) : (code.take (i + 1)).drop i = code[i]?.toList := by
  rw [List.drop_take, Nat.add_sub_cancel_left, List.take_one, List.head?_drop]

/-! ### The openings that are open -/

theorem openBefore_opening (h : code.instruction? i = some .opening) :
    code.openBefore (i + 1) = i :: code.openBefore i := by
  simp only [openBefore, h]

theorem openBefore_closing (h : code.instruction? i = some .closing) :
    code.openBefore (i + 1) = (code.openBefore i).tail := by
  simp only [openBefore, h]

theorem openBefore_other (hopening : code.instruction? i ≠ some .opening)
    (hclosing : code.instruction? i ≠ some .closing) : code.openBefore (i + 1) = code.openBefore i := by
  simp only [openBefore]

/-- What a position adds to the open openings: itself, one less, or nothing. -/
theorem openBefore_succ_cases (code : Text) (i : Nat) :
    (code.instruction? i = some .opening ∧ code.openBefore (i + 1) = i :: code.openBefore i) ∨
      (code.instruction? i = some .closing ∧ code.openBefore (i + 1) = (code.openBefore i).tail) ∨
      (code.instruction? i ≠ some .opening ∧ code.instruction? i ≠ some .closing ∧
        code.openBefore (i + 1) = code.openBefore i) := by
  by_cases hopening : code.instruction? i = some .opening
  · exact Or.inl ⟨hopening, openBefore_opening hopening⟩
  · by_cases hclosing : code.instruction? i = some .closing
    · exact Or.inr (Or.inl ⟨hclosing, openBefore_closing hclosing⟩)
    · exact Or.inr (Or.inr ⟨hopening, hclosing, openBefore_other hopening hclosing⟩)

theorem lt_of_mem_openBefore (h : j ∈ code.openBefore i) : j < i := by
  induction i with
  | zero => simp [openBefore] at h
  | succ i ih =>
      rcases openBefore_succ_cases code i with ⟨_, hi⟩ | ⟨_, hi⟩ | ⟨_, _, hi⟩
      · rw [hi, List.mem_cons] at h
        rcases h with h | h
        · omega
        · exact Nat.lt_succ_of_lt (ih h)
      · rw [hi] at h
        exact Nat.lt_succ_of_lt (ih (List.mem_of_mem_tail h))
      · rw [hi] at h
        exact Nat.lt_succ_of_lt (ih h)

/-- The innermost opening is the last one of the text. -/
theorem pairwise_openBefore (code : Text) (i : Nat) : (code.openBefore i).Pairwise (· > ·) := by
  induction i with
  | zero => exact List.Pairwise.nil
  | succ i ih =>
      rcases openBefore_succ_cases code i with ⟨_, hi⟩ | ⟨_, hi⟩ | ⟨_, _, hi⟩
      · rw [hi]
        exact List.Pairwise.cons (fun _ h => lt_of_mem_openBefore h) ih
      · rw [hi]
        exact ih.tail
      · rwa [hi]

/-- An opening that is open now has been open since it was passed. -/
theorem mem_openBefore_of_le (h : j ∈ code.openBefore i) (hki : k ≤ i) (hjk : j < k) :
    j ∈ code.openBefore k := by
  induction i with
  | zero =>
      obtain rfl : k = 0 := Nat.le_zero.mp hki
      exact h
  | succ i ih =>
      rcases Nat.eq_or_lt_of_le hki with rfl | hlt
      · exact h
      · have hk : k ≤ i := Nat.lt_succ_iff.mp hlt
        rcases openBefore_succ_cases code i with ⟨_, hi⟩ | ⟨_, hi⟩ | ⟨_, _, hi⟩
        · rw [hi, List.mem_cons] at h
          rcases h with h | h
          · omega
          · exact ih h hk
        · rw [hi] at h
          exact ih (List.mem_of_mem_tail h) hk
        · rw [hi] at h
          exact ih h hk

/-- Below an opening that is open lie those that were open before it. This holds however many loops
were opened and closed since, and is why a jump back finds the loops as they were. -/
theorem openBefore_eq_append (h : code.openBefore i = above ++ j :: outer) :
    code.instruction? j = some .opening ∧ code.openBefore j = outer := by
  induction i generalizing above with
  | zero => simp [openBefore] at h
  | succ i ih =>
      rcases openBefore_succ_cases code i with ⟨hopening, hi⟩ | ⟨_, hi⟩ | ⟨_, _, hi⟩
      · rw [hi] at h
        cases above with
        | nil =>
            obtain ⟨rfl, rfl⟩ := List.cons.inj h
            exact ⟨hopening, rfl⟩
        | cons a above => exact ih (List.cons.inj h).2
      · rw [hi] at h
        cases hprev : code.openBefore i with
        | nil => simp [hprev] at h
        | cons a rest =>
            have happend : code.openBefore i = (a :: above) ++ j :: outer := by
              rw [hprev, List.cons_append, ← h, hprev, List.tail_cons]
            exact ih happend
      · exact ih (hi.symm.trans h)

theorem openBefore_eq_cons (h : code.openBefore i = j :: outer) :
    code.instruction? j = some .opening ∧ code.openBefore j = outer :=
  openBefore_eq_append (h.trans (List.nil_append _).symm)

theorem instruction?_of_mem_openBefore (h : j ∈ code.openBefore i) :
    code.instruction? j = some .opening := by
  obtain ⟨above, outer, happend⟩ := List.append_of_mem h
  exact (openBefore_eq_append happend).1

/-- Just after the innermost opening the same openings are open as now. -/
theorem openBefore_resume (h : code.openBefore i = j :: outer) :
    code.openBefore (j + 1) = j :: outer := by
  obtain ⟨hopening, houter⟩ := openBefore_eq_cons h
  rw [openBefore_opening hopening, houter]

/-! ### The open openings and the matching -/

theorem not_isBracket_of_instruction? {c : CodePoint} (hc : code[i]? = some c)
    (hopening : code.instruction? i ≠ some .opening) (hclosing : code.instruction? i ≠ some .closing) :
    ¬ c.IsBracket := by
  have hi : code.instruction? i = Instruction.ofCodePoint? c := by
    rw [instruction?, hc, Option.bind_some]
  rw [hi] at hopening hclosing
  rintro (h | h)
  · exact hopening h
  · exact hclosing h

/-- The text after the innermost opening is balanced. -/
theorem balanced_of_openBefore (h : code.openBefore i = j :: outer) :
    Balanced ((code.take i).drop (j + 1)) := by
  induction i using Nat.strongRecOn generalizing j outer with
  | ind i ih =>
      cases i with
      | zero => simp [openBefore] at h
      | succ i =>
          rcases openBefore_succ_cases code i with ⟨_, hi⟩ | ⟨hclosing, hi⟩ | ⟨hno, hnc, hi⟩
          · obtain ⟨rfl, _⟩ := List.cons.inj (hi.symm.trans h)
            rw [List.drop_eq_nil_of_le (List.length_take_le _ _)]
            exact .nil
          · rw [hi] at h
            cases hprev : code.openBefore i with
            | nil => simp [hprev] at h
            | cons k rest =>
                rw [hprev, List.tail_cons] at h
                rw [h] at hprev
                have hk : k < i := lt_of_mem_openBefore (hprev ▸ List.mem_cons_self)
                obtain ⟨hopening, hbefore⟩ := openBefore_eq_cons hprev
                have hj : j < k := lt_of_mem_openBefore (hbefore ▸ List.mem_cons_self)
                obtain ⟨o, ho, ho'⟩ := instruction?_eq_some.mp hopening
                obtain ⟨c, hc, hc'⟩ := instruction?_eq_some.mp hclosing
                have hfirst := drop_take_eq_append code (i := k) (j := k + 1) (k := i + 1)
                  (by omega) (by omega)
                have hlast := drop_take_eq_append code (i := k + 1) (j := i) (k := i + 1)
                  (by omega) (by omega)
                rw [drop_take_succ, ho] at hfirst
                rw [drop_take_succ, hc] at hlast
                rw [drop_take_eq_append code (j := k) (by omega) (by omega), hfirst, hlast]
                exact (ih k (by omega) hbefore).append
                  (.loop ho' hc' (ih i (by omega) hprev) .nil)
          · rw [hi] at h
            have hj : j < i := lt_of_mem_openBefore (h ▸ List.mem_cons_self)
            rw [drop_take_eq_append code (j := i) (by omega) (by omega), drop_take_succ]
            apply (ih i (by omega) h).append
            cases hc : code[i]? with
            | none => exact .nil
            | some c => exact .other (not_isBracket_of_instruction? hc hno hnc) .nil

theorem drop_eq_cons {c : CodePoint} {rest : Text} (h : code.drop i = c :: rest) :
    code.instruction? i = Instruction.ofCodePoint? c ∧ code.drop (i + 1) = rest := by
  constructor
  · rw [instruction?, ← List.head?_drop, h]
    rfl
  · rw [← List.tail_drop, h]
    rfl

/-- A balanced part leaves the open openings as they are. -/
theorem Balanced.openBefore {t : Text} (ht : Balanced t) {rest : Text}
    (hcode : code.drop i = t ++ rest) :
    code.openBefore (i + t.length) = code.openBefore i := by
  induction ht generalizing i rest with
  | nil => rfl
  | @other c t hc _ ih =>
      obtain ⟨hi, hdrop⟩ := drop_eq_cons hcode
      have hopening : code.instruction? i ≠ some .opening := fun h => hc (Or.inl (hi ▸ h))
      have hclosing : code.instruction? i ≠ some .closing := fun h => hc (Or.inr (hi ▸ h))
      calc code.openBefore (i + (c :: t).length) = code.openBefore (i + 1 + t.length) := by
            rw [List.length_cons, Nat.add_assoc, Nat.add_comm 1]
        _ = code.openBefore (i + 1) := ih hdrop
        _ = code.openBefore i := openBefore_other hopening hclosing
  | @loop o c body t hopening hclosing _ _ ihbody ih =>
      obtain ⟨hi, hdrop⟩ := drop_eq_cons hcode
      have hdrop : code.drop (i + 1) = body ++ (c :: t ++ rest) :=
        hdrop.trans (List.append_assoc body (c :: t) rest)
      have hbody := ihbody hdrop
      rw [openBefore_opening (hi.trans hopening)] at hbody
      have hdrop' : code.drop (i + 1 + body.length) = c :: t ++ rest := by
        rw [← List.drop_drop, hdrop, List.drop_left]
      obtain ⟨hi', hdrop''⟩ := drop_eq_cons hdrop'
      calc code.openBefore (i + (o :: (body ++ c :: t)).length)
            = code.openBefore (i + 1 + body.length + 1 + t.length) := by
            simp only [List.length_cons, List.length_append]
            congr 1
            omega
        _ = code.openBefore (i + 1 + body.length + 1) := ih hdrop''
        _ = code.openBefore i := by
            rw [openBefore_closing (hi'.trans hclosing), hbody, List.tail_cons]

/-- The innermost open opening is the one that a closing symbol belongs to. -/
theorem matches_iff :
    code.Matches j i ↔ code.instruction? i = some .closing ∧ ∃ outer, code.openBefore i = j :: outer := by
  constructor
  · intro h
    obtain ⟨o, ho, _⟩ := instruction?_eq_some.mp h.opening
    have hi : i < code.length := lt_length_of_instruction? h.closing
    have hlt := h.lt
    have hdrop : code.drop (j + 1) = (code.take i).drop (j + 1) ++ code.drop i := by
      calc code.drop (j + 1) = (code.take i ++ code.drop i).drop (j + 1) := by rw [List.take_append_drop]
        _ = _ := List.drop_append_of_le_length (by rw [List.length_take]; omega)
    have hopen := h.balanced.openBefore hdrop
    have hlength : j + 1 + ((code.take i).drop (j + 1)).length = i := by
      rw [List.length_drop, List.length_take]
      omega
    rw [hlength, openBefore_opening h.opening] at hopen
    exact ⟨h.closing, _, hopen⟩
  · rintro ⟨hclosing, outer, hopen⟩
    exact ⟨lt_of_mem_openBefore (hopen ▸ List.mem_cons_self),
      instruction?_of_mem_openBefore (hopen ▸ List.mem_cons_self), hclosing, balanced_of_openBefore hopen⟩

theorem Matches.unique (h : code.Matches j i) (h' : code.Matches k i) : j = k := by
  obtain ⟨_, outer, hopen⟩ := matches_iff.mp h
  obtain ⟨_, outer', hopen'⟩ := matches_iff.mp h'
  exact (List.cons.inj (hopen.symm.trans hopen')).1

theorem unmatchedClosing_iff :
    code.UnmatchedClosing i ↔ code.instruction? i = some .closing ∧ code.openBefore i = [] := by
  constructor
  · rintro ⟨hclosing, hnone⟩
    refine ⟨hclosing, ?_⟩
    cases hopen : code.openBefore i with
    | nil => rfl
    | cons j outer => exact absurd (matches_iff.mpr ⟨hclosing, outer, hopen⟩) (hnone j)
  · rintro ⟨hclosing, hopen⟩
    refine ⟨hclosing, fun j hmatch => ?_⟩
    obtain ⟨_, outer, houter⟩ := matches_iff.mp hmatch
    simp [hopen] at houter

/-- An opening is open before a position exactly if nothing up to there belongs to it. -/
theorem mem_openBefore_iff :
    j ∈ code.openBefore i ↔
      j < i ∧ code.instruction? j = some .opening ∧ ∀ stop < i, ¬ code.Matches j stop := by
  constructor
  · intro h
    refine ⟨lt_of_mem_openBefore h, instruction?_of_mem_openBefore h, fun stop hstop hmatch => ?_⟩
    obtain ⟨hclosing, outer, hopen⟩ := matches_iff.mp hmatch
    have hnext : j ∉ code.openBefore (stop + 1) := by
      have hsorted := pairwise_openBefore code stop
      rw [hopen, List.pairwise_cons] at hsorted
      rw [openBefore_closing hclosing, hopen, List.tail_cons]
      exact fun hmem => Nat.lt_irrefl j (hsorted.1 j hmem)
    exact hnext (mem_openBefore_of_le h hstop (Nat.lt_succ_of_lt hmatch.lt))
  · rintro ⟨hlt, hopening, hnone⟩
    induction i with
    | zero => omega
    | succ i ih =>
        rcases Nat.eq_or_lt_of_le (Nat.le_of_lt_succ hlt) with rfl | hlt
        · rw [openBefore_opening hopening]
          exact List.mem_cons_self
        · have hmem := ih hlt fun stop hstop => hnone stop (Nat.lt_succ_of_lt hstop)
          rcases openBefore_succ_cases code i with ⟨_, hi⟩ | ⟨hclosing, hi⟩ | ⟨_, _, hi⟩
          · rw [hi]
            exact List.mem_cons_of_mem _ hmem
          · cases hopen : code.openBefore i with
            | nil => simp [hopen] at hmem
            | cons k outer =>
                have hne : j ≠ k := fun hjk =>
                  hnone i (Nat.lt_succ_self i) (matches_iff.mpr ⟨hclosing, outer, hjk ▸ hopen⟩)
                rw [hopen] at hmem
                rw [hi, hopen, List.tail_cons]
                exact (List.mem_cons.mp hmem).resolve_left hne
          · rwa [hi]

/-! ### Matching in a beginning of a text

Whether two brackets belong together depends on nothing after them. -/

theorem lt_of_instruction?_take {instruction : Instruction}
    (h : instruction? (code.take i) j = some instruction) : j < i :=
  Nat.lt_of_lt_of_le (lt_length_of_instruction? h) (List.length_take_le _ _)

theorem matches_take_iff : Matches (code.take i) j k ↔ k < i ∧ code.Matches j k := by
  have hslice (hk : k < i) : (code.take i).take k = code.take k := by
    rw [List.take_take, Nat.min_eq_left (Nat.le_of_lt hk)]
  constructor
  · rintro ⟨hlt, hopening, hclosing, hbalanced⟩
    have hk : k < i := lt_of_instruction?_take hclosing
    rw [instruction?_take_of_lt (Nat.lt_trans hlt hk)] at hopening
    rw [instruction?_take_of_lt hk] at hclosing
    rw [hslice hk] at hbalanced
    exact ⟨hk, hlt, hopening, hclosing, hbalanced⟩
  · rintro ⟨hk, hlt, hopening, hclosing, hbalanced⟩
    rw [← instruction?_take_of_lt (Nat.lt_trans hlt hk)] at hopening
    rw [← instruction?_take_of_lt hk] at hclosing
    rw [← hslice hk] at hbalanced
    exact ⟨hlt, hopening, hclosing, hbalanced⟩

theorem unmatchedOpening_take_iff : UnmatchedOpening (code.take i) j ↔ j ∈ code.openBefore i := by
  rw [mem_openBefore_iff]
  constructor
  · rintro ⟨hopening, hnone⟩
    have hj := lt_of_instruction?_take hopening
    rw [instruction?_take_of_lt hj] at hopening
    exact ⟨hj, hopening, fun stop hstop hmatch => hnone stop (matches_take_iff.mpr ⟨hstop, hmatch⟩)⟩
  · rintro ⟨hj, hopening, hnone⟩
    rw [← instruction?_take_of_lt hj] at hopening
    refine ⟨hopening, fun stop hmatch => ?_⟩
    obtain ⟨hstop, hmatch'⟩ := matches_take_iff.mp hmatch
    exact hnone stop hstop hmatch'

theorem unmatchedOpening_iff : code.UnmatchedOpening j ↔ j ∈ code.openBefore code.length := by
  rw [← unmatchedOpening_take_iff, List.take_length]

theorem unmatchedClosing_take_iff :
    UnmatchedClosing (code.take i) k ↔ k < i ∧ code.UnmatchedClosing k := by
  constructor
  · rintro ⟨hclosing, hnone⟩
    have hk := lt_of_instruction?_take hclosing
    rw [instruction?_take_of_lt hk] at hclosing
    exact ⟨hk, hclosing, fun start hmatch => hnone start (matches_take_iff.mpr ⟨hk, hmatch⟩)⟩
  · rintro ⟨hk, hclosing, hnone⟩
    rw [← instruction?_take_of_lt hk] at hclosing
    exact ⟨hclosing, fun start hmatch => hnone start (matches_take_iff.mp hmatch).2⟩

end Text

end TapeMachine
