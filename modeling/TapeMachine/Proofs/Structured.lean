import TapeMachine.Proofs.Bracket
import TapeMachine.Proofs.Store

/-! Scripts as programs. A block is a sequence of commands and loops, and a loop has a block as its body.
A program is a block, followed by any number of openings that are left open, each with a block after it.
The texts of programs are the texts of instructions in which every closing symbol has its opening one,
and each of them is the text of one program only. -/

namespace TapeMachine.Structured

open Machine (Command)

/-- Commands and loops in a row. -/
inductive Block where
  | done
  | command (command : Command) (rest : Block)
  | loop (body rest : Block)
  deriving DecidableEq

namespace Block

/-- The text of a block, each loop between its brackets. -/
def text : Block → Text
  | done => []
  | command c rest => .ofChar c.instruction.symbol :: rest.text
  | loop body rest => .ofChar '[' :: (body.text ++ .ofChar ']' :: rest.text)

def append : Block → Block → Block
  | done, b => b
  | command c rest, b => command c (rest.append b)
  | loop body rest, b => loop body (rest.append b)

theorem append_done (b : Block) : b.append done = b := by
  induction b with
  | done => rfl
  | command c rest ih => rw [append, ih]
  | loop body rest _ ih => rw [append, ih]

theorem append_assoc (a b c : Block) : (a.append b).append c = a.append (b.append c) := by
  induction a with
  | done => rfl
  | command d rest ih => rw [append, append, append, ih]
  | loop body rest _ ih => rw [append, append, append, ih]

theorem text_append (a b : Block) : (a.append b).text = a.text ++ b.text := by
  induction a with
  | done => rfl
  | command c rest ih => rw [append, text, text, ih, List.cons_append]
  | loop body rest _ ih =>
      rw [append, text, text, ih, List.cons_append, List.append_assoc, List.cons_append]

end Block

/-- A block, with a program and an opening that is left open before it or not. -/
inductive Program where
  | closed (block : Block)
  | opened (front : Program) (block : Block)
  deriving DecidableEq

namespace Program

def text : Program → Text
  | closed b => b.text
  | opened front b => front.text ++ .ofChar '[' :: b.text

/-- The number of openings that are left open. -/
def depth : Program → Nat
  | closed _ => 0
  | opened front _ => front.depth + 1

/-- A program with a block added to its last one. -/
def extend : Program → Block → Program
  | closed b, tail => closed (b.append tail)
  | opened front b, tail => opened front (b.append tail)

theorem extend_done (p : Program) : p.extend .done = p := by
  cases p <;> simp only [extend, Block.append_done]

theorem extend_extend (p : Program) (a b : Block) : (p.extend a).extend b = p.extend (a.append b) := by
  cases p <;> simp only [extend, Block.append_assoc]

theorem text_extend (p : Program) (b : Block) : (p.extend b).text = p.text ++ b.text := by
  cases p with
  | closed => exact Block.text_append _ _
  | opened front a => rw [extend, text, text, Block.text_append, List.append_assoc, List.cons_append]

theorem depth_extend (p : Program) (b : Block) : (p.extend b).depth = p.depth := by
  cases p <;> rfl

/-- A program with one more symbol at its end. A closing symbol makes a loop of what stands after the
last opening, if there is one. -/
def push (p : Program) : Instruction → Option Program
  | .right => some (p.extend (.command .right .done))
  | .left => some (p.extend (.command .left .done))
  | .increment => some (p.extend (.command .increment .done))
  | .decrement => some (p.extend (.command .decrement .done))
  | .print => some (p.extend (.command .print .done))
  | .read => some (p.extend (.command .read .done))
  | .opening => some (opened p .done)
  | .closing =>
    match p with
    | closed _ => none
    | opened front body => some (front.extend (.loop body .done))

/-- A program continued by a text, if that gives a program. -/
def continue? (p : Program) : Text → Option Program
  | [] => some p
  | c :: t => do (← p.push (← Instruction.ofCodePoint? c)).continue? t

def parse (t : Text) : Option Program :=
  (closed .done).continue? t

/-! ### One program for each text -/

theorem push_command (p : Program) (command : Command) :
    p.push command.instruction = some (p.extend (.command command .done)) := by
  cases command <;> rfl

theorem text_push {p q : Program} {instruction : Instruction} (h : p.push instruction = some q) :
    q.text = p.text ++ [.ofChar instruction.symbol] := by
  have hcommand (command : Command) (h : p.push command.instruction = some q) :
      q.text = p.text ++ [.ofChar command.instruction.symbol] := by
    rw [push_command] at h
    cases h
    rw [text_extend, Block.text, Block.text]
  cases instruction with
  | right => exact hcommand .right h
  | left => exact hcommand .left h
  | increment => exact hcommand .increment h
  | decrement => exact hcommand .decrement h
  | print => exact hcommand .print h
  | read => exact hcommand .read h
  | opening =>
      cases h
      rfl
  | closing =>
      cases p with
      | closed => cases h
      | opened front body =>
          cases h
          rw [text_extend, text, List.append_assoc]
          rfl

theorem continue?_cons {c : CodePoint} {instruction : Instruction} (p : Program) (t : Text)
    (hc : Instruction.ofCodePoint? c = some instruction) :
    p.continue? (c :: t) = (p.push instruction).bind (·.continue? t) := by
  rw [continue?, hc]
  rfl

theorem continue?_append (p : Program) (t u : Text) :
    p.continue? (t ++ u) = (p.continue? t).bind (·.continue? u) := by
  induction t generalizing p with
  | nil => rfl
  | cons c t ih =>
      cases hc : Instruction.ofCodePoint? c with
      | none => rw [List.cons_append, continue?, continue?, hc]; rfl
      | some instruction =>
          rw [List.cons_append, continue?_cons p _ hc, continue?_cons p _ hc]
          cases p.push instruction with
          | none => rfl
          | some q => exact ih q

theorem text_continue? {p q : Program} {t : Text} (h : p.continue? t = some q) :
    q.text = p.text ++ t := by
  induction t generalizing p with
  | nil =>
      cases h
      exact (List.append_nil _).symm
  | cons c t ih =>
      cases hc : Instruction.ofCodePoint? c with
      | none =>
          rw [continue?, hc] at h
          cases h
      | some instruction =>
          rw [continue?_cons p t hc] at h
          obtain ⟨r, hr, hq⟩ := Option.bind_eq_some_iff.mp h
          rw [ih hq, text_push hr, List.append_assoc, Instruction.eq_symbol_of_ofCodePoint? hc]
          rfl

/-- A block is read as what it is, whatever stands before it. -/
theorem continue?_block (p : Program) (b : Block) (t : Text) :
    p.continue? (b.text ++ t) = (p.extend b).continue? t := by
  induction b generalizing p t with
  | done => rw [extend_done]; rfl
  | command c rest ih =>
      have hc := Instruction.ofCodePoint?_symbol c.instruction
      calc p.continue? ((Block.command c rest).text ++ t)
            = (p.extend (.command c .done)).continue? (rest.text ++ t) := by
            rw [Block.text, List.cons_append, continue?_cons p _ hc, push_command, Option.bind_some]
        _ = ((p.extend (.command c .done)).extend rest).continue? t := ih _ _
        _ = (p.extend (.command c rest)).continue? t := by
            rw [extend_extend, Block.append, Block.append]
  | loop body rest ihbody ih =>
      have hopening := Instruction.ofCodePoint?_symbol .opening
      have hclosing := Instruction.ofCodePoint?_symbol .closing
      calc p.continue? ((Block.loop body rest).text ++ t)
            = (opened p .done).continue? (body.text ++ (.ofChar ']' :: (rest.text ++ t))) := by
            rw [Block.text, List.cons_append, List.append_assoc]
            exact continue?_cons p _ hopening
        _ = (opened p body).continue? (.ofChar ']' :: (rest.text ++ t)) := ihbody _ _
        _ = (p.extend (.loop body .done)).continue? (rest.text ++ t) := continue?_cons _ _ hclosing
        _ = ((p.extend (.loop body .done)).extend rest).continue? t := ih _ _
        _ = (p.extend (.loop body rest)).continue? t := by
            rw [extend_extend, Block.append, Block.append]

theorem parse_text_append (p : Program) (t : Text) : parse (p.text ++ t) = p.continue? t := by
  induction p generalizing t with
  | closed b => exact continue?_block (closed .done) b t
  | opened front b ih =>
      have hopening := Instruction.ofCodePoint?_symbol .opening
      calc parse ((opened front b).text ++ t)
            = front.continue? (.ofChar '[' :: (b.text ++ t)) := by
            rw [text, List.append_assoc, List.cons_append]
            exact ih _
        _ = (opened front .done).continue? (b.text ++ t) := continue?_cons front _ hopening
        _ = (opened front b).continue? t := continue?_block _ b t

/-- A text is the text of one program at most. -/
theorem parse_eq_some_iff {t : Text} {p : Program} : parse t = some p ↔ p.text = t := by
  constructor
  · intro h
    exact text_continue? h
  · rintro rfl
    have hparse := parse_text_append p []
    rwa [List.append_nil] at hparse

/-! ### The texts that are programs -/

/-- An instruction can follow a program unless it closes a loop and none is open. -/
theorem exists_push (p : Program) (instruction : Instruction)
    (h : instruction = .closing → p.depth ≠ 0) :
    ∃ q, p.push instruction = some q ∧
      (instruction = .opening → q.depth = p.depth + 1) ∧
      (instruction = .closing → q.depth = p.depth - 1) ∧
      (instruction ≠ .opening → instruction ≠ .closing → q.depth = p.depth) := by
  cases instruction with
  | opening => exact ⟨_, rfl, fun _ => rfl, nofun, fun h => absurd rfl h⟩
  | closing =>
      cases p with
      | closed b => exact absurd rfl (h rfl)
      | opened front body => exact ⟨_, rfl, nofun, fun _ => depth_extend _ _, fun _ h => absurd rfl h⟩
  | right | left | increment | decrement | print | read =>
      exact ⟨_, rfl, nofun, nofun, fun _ _ => depth_extend _ _⟩

variable {code : Text}

/-- A text of instructions is a program as far as each closing symbol has its opening one, and the
program leaves open what the text does. -/
theorem exists_parse_take (hcode : ∀ c ∈ code, (Instruction.ofCodePoint? c).isSome)
    (hclosing : ∀ k, ¬ code.UnmatchedClosing k) {i : Nat} (hi : i ≤ code.length) :
    ∃ p, parse (code.take i) = some p ∧ p.depth = (code.openBefore i).length := by
  induction i with
  | zero => exact ⟨closed .done, by rw [List.take_zero]; rfl, rfl⟩
  | succ i ih =>
      obtain ⟨p, hp, hdepth⟩ := ih (Nat.le_of_succ_le hi)
      obtain ⟨instruction, hc⟩ := Option.isSome_iff_exists.mp (hcode code[i] (List.getElem_mem hi))
      have hinstruction : code.instruction? i = some instruction := by
        rw [Text.instruction?, List.getElem?_eq_getElem hi, Option.bind_some, hc]
      have hopen : instruction = .closing → p.depth ≠ 0 := by
        rintro rfl hzero
        rw [hdepth, List.length_eq_zero_iff] at hzero
        exact hclosing i (Text.unmatchedClosing_iff.mpr ⟨hinstruction, hzero⟩)
      obtain ⟨q, hq, hopening, hclosing', hother⟩ := exists_push p instruction hopen
      refine ⟨q, ?_, ?_⟩
      · rw [List.take_succ_eq_append_getElem hi, parse, continue?_append]
        rw [parse] at hp
        rw [hp, Option.bind_some, continue?_cons p [] hc, hq]
        rfl
      · rcases Text.openBefore_succ_cases code i with ⟨h, heq⟩ | ⟨h, heq⟩ | ⟨hno, hnc, heq⟩
        · rw [heq, List.length_cons, ← hdepth]
          exact hopening (Option.some.inj (hinstruction.symm.trans h))
        · rw [heq, List.length_tail, ← hdepth]
          exact hclosing' (Option.some.inj (hinstruction.symm.trans h))
        · rw [heq, ← hdepth]
          exact hother (fun h => hno (h ▸ hinstruction)) (fun h => hnc (h ▸ hinstruction))

theorem existsUnique_text_eq (hcode : ∀ c ∈ code, (Instruction.ofCodePoint? c).isSome)
    (hclosing : ∀ k, ¬ code.UnmatchedClosing k) :
    ∃ p : Program, p.text = code ∧ ∀ q : Program, q.text = code → q = p := by
  obtain ⟨p, hp, _⟩ := exists_parse_take hcode hclosing (Nat.le_refl code.length)
  rw [List.take_length] at hp
  refine ⟨p, parse_eq_some_iff.mp hp, fun q hq => ?_⟩
  rw [← parse_eq_some_iff] at hq
  exact Option.some.inj (hq.symm.trans hp)

end Program

end TapeMachine.Structured
