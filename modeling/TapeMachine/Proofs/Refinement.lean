import TapeMachine.Proofs.Structured
import TapeMachine.Proofs.Run

/-! Scripts run as programs. The meaning of a program is given by recursion on its blocks, without a
position to jump to and without a stack: a loop carries out its body and does so again while the
current cell is not zero, and an opening that is left open does nothing. The machine ends on the text of
a program just as the program does, and goes on for ever if the program has no result. -/

namespace TapeMachine

namespace Structured

open Machine (Command Overrun Store Place)

variable {size : Nat}

/-- The results of a block whose text starts at a position, from a store. The body of a loop is carried out
at least once, because the cell is looked at behind it only. -/
inductive Block.Runs (input : Array CodeUnit) :
    Nat → Block → Store size → Except Overrun (Store size) → Prop where
  | done {i : Nat} {s : Store size} : Runs input i .done s (.ok s)
  | command {i : Nat} {c : Command} {rest : Block} {s s' : Store size} {r : Except Overrun (Store size)}
      (hs : s.perform input i c = .ok s') (hrest : Runs input (i + 1) rest s' r) :
      Runs input i (.command c rest) s r
  | overrun {i : Nat} {c : Command} {rest : Block} {s : Store size} {o : Overrun}
      (hs : s.perform input i c = .error o) : Runs input i (.command c rest) s (.error o)
  | again {i : Nat} {body rest : Block} {s s' : Store size} {r : Except Overrun (Store size)}
      (hbody : Runs input (i + 1) body s (.ok s')) (hzero : s'.current ≠ 0)
      (hloop : Runs input i (.loop body rest) s' r) : Runs input i (.loop body rest) s r
  | leave {i : Nat} {body rest : Block} {s s' : Store size} {r : Except Overrun (Store size)}
      (hbody : Runs input (i + 1) body s (.ok s')) (hzero : s'.current = 0)
      (hrest : Runs input (i + 1 + body.text.length + 1) rest s' r) : Runs input i (.loop body rest) s r
  | fails {i : Nat} {body rest : Block} {s : Store size} {o : Overrun}
      (hbody : Runs input (i + 1) body s (.error o)) : Runs input i (.loop body rest) s (.error o)

/-- The results of a program from a store. A result that is no overrun comes with the positions of the
openings that are left open, the last one first. -/
inductive Program.Runs (input : Array CodeUnit) :
    Program → Store size → Except Overrun (Store size × List Nat) → Prop where
  | closed {b : Block} {s : Store size} {r : Except Overrun (Store size)}
      (hblock : b.Runs input 0 s r) : Runs input (.closed b) s (r.map (·, []))
  | opened {front : Program} {b : Block} {s s' : Store size} {loops : List Nat}
      {r : Except Overrun (Store size)} (hfront : Runs input front s (.ok (s', loops)))
      (hblock : b.Runs input (front.text.length + 1) s' r) :
      Runs input (.opened front b) s (r.map (·, front.text.length :: loops))
  | fails {front : Program} {b : Block} {s : Store size} {o : Overrun}
      (hfront : Runs input front s (.error o)) : Runs input (.opened front b) s (.error o)

end Structured

namespace Machine.Place

variable {size : Nat} {code : Text} {input : Array CodeUnit} {p q : Place size} {n : Nat} {o : Outcome}

/-- The run from a place has ended in an outcome after some iterations. -/
def EndsIn (code : Text) (input : Array CodeUnit) (n : Nat) (p : Place size) (o : Outcome) : Prop :=
  runFor code.toArray input n p.configuration = o ∧ ∀ c, o ≠ .unfinished c

theorem not_endsIn_zero : ¬ EndsIn code input 0 p o := by
  intro h
  exact h.2 _ h.1.symm

/-- An iteration is the first of those that are left. -/
theorem Next.endsIn_succ_iff (h : Next code input p q) :
    EndsIn code input (n + 1) p o ↔ EndsIn code input n q o := by
  rw [EndsIn, runFor, h.step_eq, EndsIn]

theorem Fails.endsIn_succ_iff {failure : Failure} (h : Fails code input p failure) :
    EndsIn code input (n + 1) p o ↔ o = .failed failure := by
  rw [EndsIn, runFor, h.step_eq]
  constructor
  · intro hends
    exact hends.1.symm
  · rintro rfl
    refine ⟨rfl, ?_⟩
    intro c hc
    cases hc

def Ends (code : Text) (input : Array CodeUnit) (p : Place size) (o : Outcome) : Prop :=
  ∃ n, EndsIn code input n p o

theorem Next.ends_iff (h : Next code input p q) : Ends code input p o ↔ Ends code input q o := by
  constructor
  · rintro ⟨n, hn⟩
    cases n with
    | zero => exact absurd hn not_endsIn_zero
    | succ n => exact ⟨n, h.endsIn_succ_iff.mp hn⟩
  · rintro ⟨n, hn⟩
    exact ⟨n + 1, h.endsIn_succ_iff.mpr hn⟩

theorem Fails.ends {failure : Failure} (h : Fails code input p failure) :
    Ends code input p (.failed failure) :=
  ⟨1, h.endsIn_succ_iff.mpr rfl⟩

theorem ends_iff_of_length_le (h : code.length ≤ p.position) :
    Ends code input p o ↔ o = .finished (p.store.toState p.openLoops) := by
  constructor
  · rintro ⟨n, hn⟩
    cases n with
    | zero => exact absurd hn not_endsIn_zero
    | succ n =>
        have hrun := hn.1
        rw [runFor, step_eq_finished h] at hrun
        exact hrun.symm
  · rintro rfl
    refine ⟨1, ?_, ?_⟩
    · rw [runFor, step_eq_finished h]
    · intro c hc
      cases hc

/-- Whether a run that has come to a position with a result can end in an outcome, within the given number
of iterations. -/
def GoesOnIn (code : Text) (input : Array CodeUnit) (n position : Nat) :
    Except Overrun (Store size × List Nat) → Outcome → Prop
  | .ok (s, loops), o => ∃ m ≤ n, EndsIn code input m ⟨position, s, loops⟩ o
  | .error e, o => o = .failed e.failure

theorem GoesOnIn.mono {m position : Nat} {r : Except Overrun (Store size × List Nat)}
    (h : GoesOnIn code input m position r o) (hmn : m ≤ n) : GoesOnIn code input n position r o := by
  cases r with
  | ok result =>
      obtain ⟨k, hk, hends⟩ := h
      exact ⟨k, Nat.le_trans hk hmn, hends⟩
  | error e => exact h

def GoesOn (code : Text) (input : Array CodeUnit) (position : Nat)
    (r : Except Overrun (Store size × List Nat)) (o : Outcome) : Prop :=
  ∃ n, GoesOnIn code input n position r o

theorem goesOn_ok_iff {position : Nat} {s : Store size} {loops : List Nat} :
    GoesOn code input position (.ok (s, loops)) o ↔ Ends code input ⟨position, s, loops⟩ o := by
  constructor
  · rintro ⟨_, m, _, hends⟩
    exact ⟨m, hends⟩
  · rintro ⟨n, hends⟩
    exact ⟨n, n, Nat.le_refl n, hends⟩

theorem goesOn_error_iff {position : Nat} {e : Overrun} :
    GoesOn code input position (.error e : Except Overrun (Store size × List Nat)) o ↔ o = .failed e.failure :=
  ⟨fun ⟨_, h⟩ => h, fun h => ⟨0, h⟩⟩

end Machine.Place

namespace Structured

open Machine (Overrun Store Outcome)
open Machine.Place

variable {size : Nat} {code : Text} {input : Array CodeUnit} {i : Nat} {s : Store size}
  {loops : List Nat} {o : Outcome}

/-! ### Blocks -/

namespace Block

/-- The text of a block stands in a script at a position. -/
def StandsAt (code : Text) (b : Block) (i : Nat) : Prop :=
  ∃ rest, code.drop i = b.text ++ rest

theorem StandsAt.command {c : Machine.Command} {rest : Block} (h : (command c rest).StandsAt code i) :
    code.instruction? i = some c.instruction ∧ rest.StandsAt code (i + 1) := by
  obtain ⟨after, hcode⟩ := h
  obtain ⟨hi, hdrop⟩ := Text.drop_eq_cons hcode
  exact ⟨hi.trans (Instruction.ofCodePoint?_symbol c.instruction), after, hdrop⟩

theorem StandsAt.loop {body rest : Block} (h : (loop body rest).StandsAt code i) :
    code.instruction? i = some .opening ∧ body.StandsAt code (i + 1) ∧
      code.instruction? (i + 1 + body.text.length) = some .closing ∧
      rest.StandsAt code (i + 1 + body.text.length + 1) := by
  obtain ⟨after, hcode⟩ := h
  obtain ⟨hi, hdrop⟩ := Text.drop_eq_cons hcode
  have hbody : code.drop (i + 1) = body.text ++ (.ofChar ']' :: (rest.text ++ after)) :=
    hdrop.trans (List.append_assoc _ _ _)
  have hstop : code.drop (i + 1 + body.text.length) = .ofChar ']' :: (rest.text ++ after) := by
    rw [← List.drop_drop, hbody, List.drop_left]
  obtain ⟨hi', hrest⟩ := Text.drop_eq_cons hstop
  exact ⟨hi.trans (Instruction.ofCodePoint?_symbol .opening), ⟨_, hbody⟩,
    hi'.trans (Instruction.ofCodePoint?_symbol .closing), after, hrest⟩

theorem length_text_command (c : Machine.Command) (rest : Block) (i : Nat) :
    i + (command c rest).text.length = i + 1 + rest.text.length := by
  rw [text, List.length_cons]
  omega

theorem length_text_loop (body rest : Block) (i : Nat) :
    i + (loop body rest).text.length = i + 1 + body.text.length + 1 + rest.text.length := by
  rw [text, List.length_cons, List.length_append, List.length_cons]
  omega

/-- What a block does the machine does on its text. -/
theorem Runs.ends {b : Block} {r : Except Overrun (Store size)} (h : b.Runs input i s r)
    (hb : b.StandsAt code i)
    (ho : GoesOn code input (i + b.text.length) (r.map (·, loops)) o) :
    Ends code input ⟨i, s, loops⟩ o := by
  induction h generalizing loops with
  | done => exact goesOn_ok_iff.mp ho
  | command hs _ ih =>
      obtain ⟨hi, hrest⟩ := hb.command
      rw [length_text_command] at ho
      exact (Next.perform _ hi hs).ends_iff.mpr (ih hrest ho)
  | overrun hs =>
      obtain rfl := goesOn_error_iff.mp ho
      exact (Fails.overrun _ hb.command.1 hs).ends
  | again _ hzero _ ihbody ihloop =>
      obtain ⟨hopening, hbody, hclosing, _⟩ := hb.loop
      have hagain := (Next.enter hopening).ends_iff.mp (ihloop hb ho)
      have hback := (Next.resume hclosing hzero).ends_iff.mpr hagain
      exact (Next.enter hopening).ends_iff.mpr (ihbody hbody (goesOn_ok_iff.mpr hback))
  | leave _ hzero _ ihbody ihrest =>
      obtain ⟨hopening, hbody, hclosing, hrest⟩ := hb.loop
      rw [length_text_loop] at ho
      refine (Next.enter hopening).ends_iff.mpr (ihbody hbody (goesOn_ok_iff.mpr ?_))
      exact (Next.leave hclosing hzero).ends_iff.mpr (ihrest hrest ho)
  | fails _ ihbody =>
      obtain ⟨hopening, hbody, _, _⟩ := hb.loop
      refine (Next.enter hopening).ends_iff.mpr (ihbody hbody (goesOn_error_iff.mpr ?_))
      exact goesOn_error_iff.mp ho

/-- If the machine ends after the start of a block, the block has a result, and the machine goes on with
it behind the block. -/
theorem exists_runs_of_endsIn {n : Nat} {b : Block} (hb : b.StandsAt code i)
    (h : EndsIn code input n ⟨i, s, loops⟩ o) :
    ∃ r, b.Runs input i s r ∧ GoesOnIn code input n (i + b.text.length) (r.map (·, loops)) o := by
  induction n using Nat.strongRecOn generalizing b i s loops with
  | ind n ih =>
      cases n with
      | zero =>
          cases b with
          | done => exact ⟨.ok s, .done, 0, Nat.le_refl 0, h⟩
          | command | loop => exact absurd h not_endsIn_zero
      | succ n =>
          cases b with
          | done => exact ⟨.ok s, .done, n + 1, Nat.le_refl _, h⟩
          | command c rest =>
              obtain ⟨hi, hrest⟩ := hb.command
              cases hs : s.perform input i c with
              | error e =>
                  have ho := (Fails.overrun c hi hs).endsIn_succ_iff.mp h
                  exact ⟨.error e, .overrun hs, ho⟩
              | ok s' =>
                  have hnext := (Next.perform c hi hs).endsIn_succ_iff.mp h
                  obtain ⟨r, hr, hgoes⟩ := ih n (Nat.lt_succ_self n) hrest hnext
                  refine ⟨r, .command hs hr, ?_⟩
                  rw [length_text_command]
                  exact hgoes.mono (Nat.le_succ n)
          | loop body rest =>
              obtain ⟨hopening, hbody, hclosing, hrest⟩ := hb.loop
              have henter := (Next.enter hopening).endsIn_succ_iff.mp h
              obtain ⟨r, hr, hgoes⟩ := ih n (Nat.lt_succ_self n) hbody henter
              cases r with
              | error e => exact ⟨.error e, .fails hr, hgoes⟩
              | ok s' =>
                  obtain ⟨m, hm, hends⟩ := hgoes
                  cases m with
                  | zero => exact absurd hends not_endsIn_zero
                  | succ m =>
                      by_cases hzero : s'.current = 0
                      · have hleave := (Next.leave hclosing hzero).endsIn_succ_iff.mp hends
                        obtain ⟨r', hr', hgoes'⟩ := ih m (by omega) hrest hleave
                        refine ⟨r', .leave hr hzero hr', ?_⟩
                        rw [length_text_loop]
                        exact hgoes'.mono (by omega)
                      · have hresume := (Next.resume hclosing hzero).endsIn_succ_iff.mp hends
                        have hagain := (Next.enter hopening).endsIn_succ_iff.mpr hresume
                        obtain ⟨r', hr', hgoes'⟩ := ih (m + 1) (by omega) hb hagain
                        exact ⟨r', .again hr hzero hr', hgoes'.mono (by omega)⟩

theorem ends_iff {b : Block} (hb : b.StandsAt code i) :
    Ends code input ⟨i, s, loops⟩ o ↔
      ∃ r, b.Runs input i s r ∧ GoesOn code input (i + b.text.length) (r.map (·, loops)) o := by
  constructor
  · rintro ⟨n, hn⟩
    obtain ⟨r, hr, hgoes⟩ := exists_runs_of_endsIn hb hn
    exact ⟨r, hr, n, hgoes⟩
  · rintro ⟨r, hr, hgoes⟩
    exact hr.ends hb hgoes

end Block

/-! ### Programs -/

theorem Program.ends_iff {p : Program} {rest : Text} (hcode : code = p.text ++ rest) :
    Ends code input ⟨0, s, []⟩ o ↔
      ∃ r, p.Runs input s r ∧ GoesOn code input p.text.length r o := by
  induction p generalizing rest with
  | closed b =>
      have hb : b.StandsAt code 0 := ⟨rest, hcode⟩
      rw [Block.ends_iff hb, Nat.zero_add]
      constructor
      · rintro ⟨r, hr, hgoes⟩
        exact ⟨_, .closed hr, hgoes⟩
      · rintro ⟨_, hr, hgoes⟩
        cases hr with
        | closed hblock => exact ⟨_, hblock, hgoes⟩
  | opened front b ih =>
      have hfront : code = front.text ++ (.ofChar '[' :: (b.text ++ rest)) :=
        hcode.trans (List.append_assoc _ _ _)
      have hdrop : code.drop front.text.length = .ofChar '[' :: (b.text ++ rest) := by
        rw [hfront, List.drop_left]
      obtain ⟨hi, hafter⟩ := Text.drop_eq_cons hdrop
      have hopening := hi.trans (Instruction.ofCodePoint?_symbol .opening)
      have hb : b.StandsAt code (front.text.length + 1) := ⟨rest, hafter⟩
      have hlength : (opened front b).text.length = front.text.length + 1 + b.text.length := by
        rw [text, List.length_append, List.length_cons]
        omega
      have henter (s' : Store size) (loops : List Nat) :
          Ends code input ⟨front.text.length, s', loops⟩ o ↔
            ∃ r, b.Runs input (front.text.length + 1) s' r ∧
              GoesOn code input (opened front b).text.length
                (r.map (·, front.text.length :: loops)) o := by
        rw [(Next.enter hopening).ends_iff, Block.ends_iff hb, hlength]
      rw [ih hfront]
      constructor
      · rintro ⟨r, hr, hgoes⟩
        cases r with
        | error e => exact ⟨_, .fails hr, goesOn_error_iff.mpr (goesOn_error_iff.mp hgoes)⟩
        | ok result =>
            obtain ⟨s', loops⟩ := result
            obtain ⟨r, hblock, hgoes⟩ := (henter s' loops).mp (goesOn_ok_iff.mp hgoes)
            exact ⟨_, .opened hr hblock, hgoes⟩
      · rintro ⟨_, hr, hgoes⟩
        cases hr with
        | opened hfront hblock =>
            exact ⟨_, hfront, goesOn_ok_iff.mpr ((henter _ _).mpr ⟨_, hblock, hgoes⟩)⟩
        | fails hfront => exact ⟨_, hfront, goesOn_error_iff.mpr (goesOn_error_iff.mp hgoes)⟩

def outcome : Except Overrun (Store size × List Nat) → Outcome
  | .ok (s, loops) => .finished (s.toState loops)
  | .error e => .failed e.failure

/-- The machine ends on the text of a program as the program does, and not at all if it does not. -/
theorem Program.ends_text_iff (p : Program) :
    Ends p.text input ⟨0, s, []⟩ o ↔ ∃ r, p.Runs input s r ∧ o = outcome r := by
  have hgoes (r : Except Overrun (Store size × List Nat)) :
      GoesOn p.text input p.text.length r o ↔ o = outcome r := by
    cases r with
    | ok result =>
        rw [goesOn_ok_iff]
        exact ends_iff_of_length_le (Nat.le_refl _)
    | error e => exact goesOn_error_iff
  rw [Program.ends_iff (List.append_nil p.text).symm]
  simp only [hgoes]

end Structured

namespace Script

open Machine Structured

variable {input : Text} {tapeLength : TapeLength} (p : Program)

theorem runFrom_text_eq_iff {o : Outcome} :
    ((∃ steps, runFrom steps p.text input (.fresh tapeLength.cells) = o) ∧ ∀ c, o ≠ .unfinished c) ↔
      ∃ r, p.Runs input.codeUnits.toArray (.fresh tapeLength) r ∧ o = outcome r := by
  rw [← p.ends_text_iff]
  simp only [runFrom_fresh]
  exact exists_and_right.symm

theorem runFresh_text_eq_ok_iff {s : State} :
    (∃ steps, runFresh steps p.text input tapeLength = .ok s) ↔
      ∃ store loops, p.Runs input.codeUnits.toArray (.fresh tapeLength) (.ok (store, loops)) ∧
        s = store.toState loops := by
  constructor
  · rintro ⟨steps, hsteps⟩
    have hrun := runFresh_eq_ok_iff.mp hsteps
    obtain ⟨r, hr, ho⟩ := (runFrom_text_eq_iff p).mp ⟨⟨steps, hrun⟩, nofun⟩
    cases r with
    | ok result =>
        cases ho
        exact ⟨result.1, result.2, hr, rfl⟩
    | error o => cases ho
  · rintro ⟨store, loops, hr, rfl⟩
    obtain ⟨⟨steps, hrun⟩, _⟩ := (runFrom_text_eq_iff p).mpr ⟨_, hr, rfl⟩
    exact ⟨steps, runFresh_eq_ok_iff.mpr hrun⟩

theorem runFresh_text_eq_fault_iff {fault : Fault} :
    (∃ steps, runFresh steps p.text input tapeLength = .error (.fault fault)) ↔
      ∃ o, p.Runs input.codeUnits.toArray (.fresh tapeLength) (.error o) ∧ fault = o.fault := by
  constructor
  · rintro ⟨steps, hsteps⟩
    obtain ⟨failure, hrun, rfl⟩ := runFresh_eq_fault_iff.mp hsteps
    obtain ⟨r, hr, ho⟩ := (runFrom_text_eq_iff p).mp ⟨⟨steps, hrun⟩, nofun⟩
    cases r with
    | ok result => cases ho
    | error o =>
        cases ho
        exact ⟨o, hr, rfl⟩
  · rintro ⟨o, hr, rfl⟩
    obtain ⟨⟨steps, hrun⟩, _⟩ := (runFrom_text_eq_iff p).mpr ⟨_, hr, rfl⟩
    exact ⟨steps, runFresh_eq_fault_iff.mpr ⟨_, hrun, rfl⟩⟩

theorem runFresh_text_eq_unfinished_iff :
    (∀ steps, runFresh steps p.text input tapeLength = .error .unfinished) ↔
      ∀ r, ¬ p.Runs input.codeUnits.toArray (.fresh tapeLength) r := by
  constructor
  · intro h r hr
    obtain ⟨⟨steps, hrun⟩, hfinal⟩ := (runFrom_text_eq_iff p).mpr ⟨r, hr, rfl⟩
    obtain ⟨c, hc⟩ := runFresh_eq_unfinished_iff.mp (h steps)
    exact hfinal c (hrun.symm.trans hc)
  · intro h steps
    rw [runFresh_eq_unfinished_iff]
    by_cases hrun : ∃ c, runFrom steps p.text input (.fresh tapeLength.cells) = .unfinished c
    · exact hrun
    · obtain ⟨r, hr, _⟩ := (runFrom_text_eq_iff p).mp ⟨⟨steps, rfl⟩, fun c hc => hrun ⟨c, hc⟩⟩
      exact absurd hr (h r)

/-- A script of instructions in which each closing symbol has its opening one is the text of just one
program. Its runs return what the program results in, they leave the tape where the program does, and
they go on for ever if the program has no result. -/
theorem runFresh_refines_program (code input : Text) (tapeLength : TapeLength)
    (hcode : ∀ c ∈ code, (Instruction.ofCodePoint? c).isSome)
    (hclosing : ∀ k, ¬ code.UnmatchedClosing k) :
    ∃ p : Program, p.text = code ∧ (∀ q : Program, q.text = code → q = p) ∧
      (∀ s, (∃ steps, runFresh steps code input tapeLength = .ok s) ↔
        ∃ store loops, p.Runs input.codeUnits.toArray (.fresh tapeLength) (.ok (store, loops)) ∧
          s = store.toState loops) ∧
      (∀ fault, (∃ steps, runFresh steps code input tapeLength = .error (.fault fault)) ↔
        ∃ o, p.Runs input.codeUnits.toArray (.fresh tapeLength) (.error o) ∧ fault = o.fault) ∧
      ((∀ steps, runFresh steps code input tapeLength = .error .unfinished) ↔
        ∀ r, ¬ p.Runs input.codeUnits.toArray (.fresh tapeLength) r) := by
  obtain ⟨p, rfl, hunique⟩ := Program.existsUnique_text_eq hcode hclosing
  exact ⟨p, rfl, hunique, fun _ => runFresh_text_eq_ok_iff p, fun _ => runFresh_text_eq_fault_iff p,
    runFresh_text_eq_unfinished_iff p⟩

/-- The script `+[[-]` leaves its first loop open and clears the cell in its second. -/
theorem runFresh_refines_program_unclosed :
    (∀ c ∈ Text.ofString "+[[-]", (Instruction.ofCodePoint? c).isSome) ∧
      (∀ k, ¬ (Text.ofString "+[[-]").UnmatchedClosing k) ∧
      ∃ p : Program, p.text = Text.ofString "+[[-]" ∧
        ∃ (store : Store 1) (loops : List Nat),
          p.Runs #[] (.fresh ⟨1, by decide⟩) (.ok (store, loops)) ∧
            store.toState loops = ⟨#[0], 0, 0, [1], #[]⟩ := by
  have hcode : ∀ c ∈ Text.ofString "+[[-]", (Instruction.ofCodePoint? c).isSome := by decide
  have hclosing (k : Nat) : ¬ (Text.ofString "+[[-]").UnmatchedClosing k := by
    rw [Text.unmatchedClosing_iff]
    rintro ⟨hk, hopen⟩
    obtain ⟨j, rfl⟩ : ∃ j : Fin 5, j.val = k := ⟨⟨k, Text.lt_length_of_instruction? hk⟩, rfl⟩
    revert j
    decide
  obtain ⟨p, hp, _, hok, _⟩ := runFresh_refines_program _ [] ⟨1, by decide⟩ hcode hclosing
  obtain ⟨store, loops, hr, hs⟩ := (hok ⟨#[0], 0, 0, [1], #[]⟩).mp ⟨7, rfl⟩
  exact ⟨hcode, hclosing, p, hp, store, loops, hr, hs.symm⟩

end Script

end TapeMachine
