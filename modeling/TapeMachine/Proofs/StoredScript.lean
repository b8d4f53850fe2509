import TapeMachine.Proofs.RoundTrip
import TapeMachine.Proofs.Strip

/-! Scripts from files. What a file holds of a script depends on an encoding and on marks of line ends, but
what is run depends on neither: the bytes of a text are read as that text with newlines at its line ends,
and of a stripped script only the instructions are left, among which no mark of a line end is. -/

namespace TapeMachine

namespace Text

variable {t part substitute rest : Text} {c : CodePoint}

/-- The text with every occurrence of a part replaced, from the left and without overlaps. -/
def replace (t part substitute : Text) : Text :=
  match t with
  | [] => []
  | c :: rest =>
    if part ≠ [] ∧ part <+: c :: rest then
      substitute ++ replace ((c :: rest).drop part.length) part substitute
    else c :: replace rest part substitute
termination_by t.length
decreasing_by
  · next h =>
      have := List.length_pos_iff.mpr h.1
      simp only [List.length_drop, List.length_cons]
      omega
  · exact Nat.lt_succ_self _

theorem replace_nil (part substitute : Text) : replace [] part substitute = [] := by
  rw [replace]

theorem replace_append (h : part ≠ []) (rest substitute : Text) :
    replace (part ++ rest) part substitute = substitute ++ replace rest part substitute := by
  cases part with
  | nil => exact absurd rfl h
  | cons first others =>
      rw [List.cons_append, replace, if_pos ⟨h, List.prefix_append (first :: others) rest⟩,
        ← List.cons_append, List.drop_left]

theorem replace_cons (h : ¬ part <+: c :: rest) (substitute : Text) :
    replace (c :: rest) part substitute = c :: replace rest part substitute := by
  rw [replace, if_neg fun hpart => h hpart.2]

/-- The text with a newline for each carriage return that has a newline behind it, the two together, and
then for each carriage return that is left. -/
def newlinesOnly (t : Text) : Text :=
  (t.replace [carriageReturn, newline] [newline]).replace [carriageReturn] [newline]

theorem newlinesOnly_nil : newlinesOnly [] = [] := by
  rw [newlinesOnly, replace_nil, replace_nil]

theorem newlinesOnly_cons (h : c ≠ carriageReturn) (rest : Text) :
    newlinesOnly (c :: rest) = c :: rest.newlinesOnly := by
  have hne {others t : Text} : ¬ carriageReturn :: others <+: c :: t := fun hprefix =>
    h (List.cons_prefix_cons.mp hprefix).1.symm
  rw [newlinesOnly, replace_cons hne, replace_cons hne]
  rfl

theorem newlinesOnly_pair (rest : Text) :
    newlinesOnly (carriageReturn :: newline :: rest) = newline :: rest.newlinesOnly := by
  have hpair : replace (carriageReturn :: newline :: rest) [carriageReturn, newline] [newline] =
      newline :: rest.replace [carriageReturn, newline] [newline] :=
    replace_append (List.cons_ne_nil carriageReturn [newline]) rest [newline]
  have hne {t : Text} : ¬ [carriageReturn] <+: newline :: t := fun h =>
    absurd (List.cons_prefix_cons.mp h).1 (by decide)
  rw [newlinesOnly, hpair, replace_cons hne]
  rfl

theorem newlinesOnly_carriageReturn (h : rest.head? ≠ some newline) :
    newlinesOnly (carriageReturn :: rest) = newline :: rest.newlinesOnly := by
  have hne : ¬ [carriageReturn, newline] <+: carriageReturn :: rest := by
    rintro ⟨back, hback⟩
    rw [← (List.cons.inj hback).2] at h
    exact h rfl
  rw [newlinesOnly, replace_cons hne]
  exact replace_append (List.cons_ne_nil carriageReturn []) _ [newline]

/-- One pass with a look at the next code point does what the two replacements do. -/
theorem unifyLineEnds_eq (t : Text) : t.unifyLineEnds = t.newlinesOnly := by
  fun_induction unifyLineEnds t with
  | case1 => exact newlinesOnly_nil.symm
  | case2 =>
      have hhead : ([] : Text).head? ≠ some newline := (Option.some_ne_none newline).symm
      rw [newlinesOnly_carriageReturn hhead, newlinesOnly_nil]
  | case3 c h => rw [newlinesOnly_cons h, newlinesOnly_nil]
  | case4 rest ih => rw [newlinesOnly_pair, ih]
  | case5 d rest hd ih =>
      have hhead : (d :: rest).head? ≠ some newline := fun h => hd (Option.some.inj h)
      rw [newlinesOnly_carriageReturn hhead, ih]
  | case6 c d rest h ih => rw [newlinesOnly_cons h, ih]

/-- No mark of a line end is an instruction, so stripping takes them all out. -/
theorem strip_unifyLineEnds (t : Text) : t.unifyLineEnds.strip = t.strip := by
  have hreturn (rest : Text) : strip (carriageReturn :: rest) = rest.strip :=
    List.filter_cons_of_neg (by decide)
  have hnewline (rest : Text) : strip (newline :: rest) = rest.strip :=
    List.filter_cons_of_neg (by decide)
  have hcons (c : CodePoint) {t u : Text} (h : t.strip = u.strip) : strip (c :: t) = strip (c :: u) := by
    rw [← List.singleton_append, strip_append, h, ← strip_append, List.singleton_append]
  fun_induction unifyLineEnds t with
  | case1 => rfl
  | case2 => rw [hreturn, hnewline]
  | case3 c h => rfl
  | case4 rest ih => rw [hreturn, hnewline, hnewline, ih]
  | case5 d rest hd ih => rw [hreturn, hnewline, ih]
  | case6 c d rest h ih => exact hcons c ih

end Text

theorem Encoding.ofName?_name (e : Encoding) : Encoding.ofName? (.ofString e.name) = some e := by
  cases e <;> decide

namespace Script

open Machine

variable {read : Path → Except StorageFault Bytes} {path encoding t : Text} {e : Encoding} {steps : Nat}
  {settings : Settings}

/-- The file under a path holds a text in an encoding. -/
def Stores (read : Path → Except StorageFault Bytes) (path : Text) (e : Encoding) (t : Text) : Prop :=
  ∃ bytes, e.encode? t = some bytes ∧ read (.ofText path) = .ok bytes

theorem load_of_stores (he : e ≠ .utf8Marked) (h : Stores read path e t) :
    load read path (.ofString e.name) = .ok t.newlinesOnly := by
  obtain ⟨bytes, hbytes, hread⟩ := h
  rw [load, hread]
  simp only [Encoding.ofName?_name, Encoding.decode_encode? he hbytes, Text.unifyLineEnds_eq]

theorem runFile_of_stores (he : e ≠ .utf8Marked) (h : Stores read path e t) (steps : Nat)
    (settings : Settings) :
    runFile steps read path (.ofString e.name) false settings = run steps t.newlinesOnly settings ∧
      runFile steps read path (.ofString e.name) true settings = run steps t.strip settings := by
  have hstrip : t.newlinesOnly.strip = t.strip := by rw [← Text.unifyLineEnds_eq, Text.strip_unifyLineEnds]
  constructor
  · rw [runFile, load_of_stores he h]
    rfl
  · rw [runFile, load_of_stores he h, ← hstrip]
    rfl

/-- The symbol that a run complains about stands in the script. -/
theorem mem_of_run {code excerpt : Text} {symbol : CodePoint} {position : Int} {place : Location}
    (h : run steps code settings = .error (.fault (.invalidInstruction symbol position place excerpt))) :
    symbol ∈ code := by
  rw [run_eq] at h
  split at h
  · cases h
  · exact (mem_of_runFresh h).1

/-- What is read from a file has no carriage return for a run to complain about. -/
theorem ne_carriageReturn_of_runFile {excerpt : Text} {symbol : CodePoint} {position : Int}
    {place : Location} (h : runFile steps read path encoding false settings =
      .error (.fault (.invalidInstruction symbol position place excerpt))) :
    symbol ≠ Text.carriageReturn := by
  rw [runFile] at h
  rcases load_cases read path encoding with ⟨t, hload⟩ | ⟨problem, hload, hproblem⟩
  · rw [hload] at h
    rintro rfl
    exact t.carriageReturn_notMem_unifyLineEnds (mem_of_run h)
  · rw [hload] at h
    exact absurd (Except.error.inj h) (hproblem _)

/-- A text that an encoding is made for can be stored in it. A run of the file has the outcome of the text
with newlines at its line ends, and with stripping that of the instructions alone, so files of the same
instructions have the same outcome. No file makes a run complain about a carriage return. -/
theorem runFile_stored (he : e ≠ .utf8Marked) (ht : ∀ c ∈ t, e.Covers c) :
    (∃ bytes, e.encode? t = some bytes) ∧
    (∀ read path, Stores read path e t → ∀ steps settings,
      runFile steps read path (.ofString e.name) false settings = run steps t.newlinesOnly settings ∧
      runFile steps read path (.ofString e.name) true settings = run steps t.strip settings) ∧
    (∀ e' t', e' ≠ .utf8Marked → t'.strip = t.strip →
      ∀ read path read' path', Stores read path e t → Stores read' path' e' t' → ∀ steps settings,
        runFile steps read' path' (.ofString e'.name) true settings =
          runFile steps read path (.ofString e.name) true settings) ∧
    ∀ read path encoding steps settings symbol position place excerpt,
      runFile steps read path encoding false settings =
        .error (.fault (.invalidInstruction symbol position place excerpt)) →
      symbol ≠ Text.carriageReturn := by
  refine ⟨Encoding.exists_encode? ht, fun read path h => runFile_of_stores he h, ?_,
    fun read path encoding steps settings symbol position place excerpt => ne_carriageReturn_of_runFile⟩
  intro e' t' he' hstrip read path read' path' h h' steps settings
  rw [(runFile_of_stores he' h' steps settings).2, (runFile_of_stores he h steps settings).2, hstrip]

/-- Two carriage returns, the second with a newline behind it, in an encoding of two bytes for each of the
code points. -/
theorem runFile_stored_utf16le :
    Encoding.utf16le ≠ .utf8Marked ∧ (∀ c ∈ Text.ofString "+\r\r\n.", Encoding.utf16le.Covers c) ∧
      ∃ bytes, Encoding.utf16le.encode? (.ofString "+\r\r\n.") = some bytes ∧
        runFile 9 (fun _ => .ok bytes) (.ofString "a.bf") (.ofString "utf-16-le") false {} =
          run 9 (.ofString "+\n\n.") {} ∧
        runFile 9 (fun _ => .ok bytes) (.ofString "a.bf") (.ofString "utf-16-le") true {} =
          run 9 (.ofString "+.") {} := by
  have he : Encoding.utf16le ≠ .utf8Marked := by decide
  have ht : ∀ c ∈ Text.ofString "+\r\r\n.", Encoding.utf16le.Covers c := by
    simp only [Encoding.Covers]
    decide
  obtain ⟨⟨bytes, hbytes⟩, hrun, -, -⟩ := runFile_stored he ht
  obtain ⟨hplain, hstripped⟩ := hrun (fun _ => .ok bytes) (.ofString "a.bf") ⟨bytes, hbytes, rfl⟩ 9 {}
  have hnewlines : (Text.ofString "+\r\r\n.").newlinesOnly = .ofString "+\n\n." := by
    rw [← Text.unifyLineEnds_eq]
    decide
  rw [hnewlines] at hplain
  exact ⟨he, ht, bytes, hbytes, hplain, hstripped⟩

end Script

end TapeMachine
