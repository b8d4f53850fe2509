import TapeMachine.Script

/-! Sessions: a script with its settings that is run as often as asked. Where output goes is left
open: a sink is any action on the surroundings that takes a text and may fail, and so is what is
done on completion. Only an interpretation touches the surroundings, and no action depends on what
earlier ones did to them. -/

namespace TapeMachine

/-- An action on surroundings of type `σ` that takes a text and may fail with an `ε`. -/
abbrev Render (σ ε : Type) := Text → EStateM ε σ Unit

/-- A script, its settings, where its output goes and what is done on completion. -/
structure Session (σ ε : Type) where
  code : Text
  settings : Settings
  sink : Option (Render σ ε)
  onComplete : Option (Render σ ε)

namespace Session

variable {σ ε : Type}

inductive Failure (ε : Type) where
  | problem (problem : Problem)
  | surroundings (error : ε)

/-- The final state of a run; nothing is shown. -/
def execute (steps : Nat) (session : Session σ ε) : Except Problem Machine.State :=
  Script.run steps session.code session.settings

/-- Runs the script, renders the output unless the session is quiet, and then completes. Without a
sink of its own a session renders to the console. -/
def interpret (steps : Nat) (console : Render σ ε) (session : Session σ ε) : EStateM (Failure ε) σ Text :=
  match session.execute steps with
  | .error problem => throw (.problem problem)
  | .ok state => do
    let output := state.stdout
    unless session.settings.quiet do
      ((session.sink.getD console) output).adaptExcept .surroundings
    match session.onComplete with
    | none => return output
    | some complete =>
      (complete output).adaptExcept .surroundings
      return output

inductive Action where
  | interpret
  | execute
  | setCode (code : Text)
  | changeSettings (change : Settings.Change)

inductive Answer where
  | output (t : Text)
  | state (s : Machine.State)
  | done

/-- Performs an action on a session in its surroundings. Refused settings leave the old ones. -/
def perform (steps : Nat) (console : Render σ ε) (action : Action) :
    EStateM (Failure ε) (Session σ ε × σ) Answer := fun (session, surroundings) =>
  match action with
  | .interpret =>
    match session.interpret steps console surroundings with
    | .ok output after => .ok (.output output) (session, after)
    | .error failure after => .error failure (session, after)
  | .execute =>
    match session.execute steps with
    | .ok state => .ok (.state state) (session, surroundings)
    | .error problem => .error (.problem problem) (session, surroundings)
  | .setCode code => .ok .done ({ session with code }, surroundings)
  | .changeSettings change =>
    match session.settings.change change with
    | .ok settings => .ok .done ({ session with settings }, surroundings)
    | .error refusal => .error (.problem (.length refusal)) (session, surroundings)

end Session

end TapeMachine
