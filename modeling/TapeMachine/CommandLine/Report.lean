import TapeMachine.CommandLine.Arguments
import TapeMachine.Decimal.Places
import TapeMachine.Dump
import TapeMachine.Script
import TapeMachine.Sink.Stream

/-! What the command does: it reads the script and then the input file, runs the script, and reports
the output, the time and the dump, each only if asked for. Nothing is printed before the run has
ended, so a run that fails leaves only its message. A value that a flag came without is noticed only
when it is needed, and then stops the command. -/

namespace TapeMachine.CommandLine

open Text (ofString newline)

inductive MissingValue where
  | tapeLength
  | input
  | dump
  deriving DecidableEq

/-- What is said when a missing value is needed: a length and a dump are compared with a number, an
input is split into code units. -/
def MissingValue.message : MissingValue → Text
  | tapeLength => ofString "'<' not supported between instances of 'list' and 'int'"
  | input => ofString "'list' object has no attribute 'encode'"
  | dump => ofString "'>' not supported between instances of 'list' and 'int'"

/-- Why the command stops without a report of its own. -/
inductive Stop where
  | problem (problem : Problem)
  | missing (value : MissingValue)

def Stop.message : Stop → Text
  | problem p => p.message
  | missing value => value.message

inductive Ending where
  | code (n : Nat)
  /-- With an exit code, before anything is done, because of the arguments alone. -/
  | arguments (n : Nat)
  /-- With something that it does not report itself. -/
  | stopped (stop : Stop)

structure Report where
  stdout : Text := []
  stderr : Text := []
  ending : Ending

/-- The readings of a clock before and after a run, in seconds. -/
structure Elapsed where
  start : Float
  stop : Float

def Elapsed.milliseconds (elapsed : Elapsed) : Float :=
  (elapsed.stop - elapsed.start) * 1000

namespace Report

/-- The text as the terminal shows it, a newline after it. -/
def printed (t : Text) : Text :=
  Encoding.utf8.escape t ++ [newline]

def failure (message : Text) : Report :=
  { stderr := printed message, ending := .code 1 }

def ofMistake (mistake : Mistake) : Report :=
  { stderr := usage ++ printed (ofString "bfi: error: " ++ mistake.message), ending := .arguments 2 }

def ofHelp : Report :=
  { stdout := help, ending := .arguments 0 }

/-- The report of a run that never took place, or came to no end that is reported. -/
def ofStop (stop : Stop) : Report :=
  { ending := .stopped stop }

end Report

def readText (read : Path → Except StorageFault Bytes) (path : Text) : Except Report Text :=
  let unreadable := fun message =>
    Report.failure (ofString "Error: cannot read " ++ path ++ ofString ": " ++ message)
  match read (.ofText path) with
  | .error (.notFound _) => .error (.failure (ofString "Error: file not found: " ++ path))
  | .error .zeroInPath => .error (.ofStop (.problem (.storage .zeroInPath)))
  | .error (.surrogatesInPath path first stop) =>
    .error (.ofStop (.problem (.storage (.surrogatesInPath path first stop))))
  | .error fault => .error (unreadable fault.message)
  | .ok bytes =>
    match Utf8.decode bytes with
    | .error fault => .error (unreadable fault.message)
    | .ok t => .ok t.unifyLineEnds

structure Job where
  code : Text
  input : Option Text
  tapeLength : TapeLength

namespace Job

/-- Runs the script. The tape is made before the input is looked at. -/
def run (steps : Nat) (job : Job) : Except Stop Machine.State :=
  match job.input with
  | some input =>
    (Script.run steps job.code { tapeLength := job.tapeLength, input }).mapError .problem
  | none =>
    match Machine.State.allocate job.tapeLength.cells with
    | .error refusal => .error (.problem (.capacity refusal))
    | .ok _ => .error (.missing .input)

end Job

namespace Invocation

/-- Reads what the invocation names, the script first. Without a tape length nothing is read. -/
def prepare (invocation : Invocation) (read : Path → Except StorageFault Bytes) : Except Report Job := do
  match invocation.tapeLength with
  | none => throw (.ofStop (.missing .tapeLength))
  | some tapeLength =>
    let script ← readText read invocation.script
    let input ←
      match invocation.inputFile with
      | none => pure invocation.input
      | some path => (readText read path).map some
    return { code := if invocation.strip then script.strip else script, input, tapeLength }

/-- What is printed after a run besides the dump: the output and then the time. -/
def results (invocation : Invocation) (state : Machine.State) (elapsed : Elapsed) : Text :=
  let output := if invocation.quiet then [] else Report.printed state.stdout
  let time :=
    if invocation.timing then
      Report.printed (ofString "Execution took " ++
        Decimal.binaryWithPlaces 2 (.ofFloat elapsed.milliseconds) ++ ofString " ms")
    else []
  output ++ time

/-- The dump of the first cells below a rule, if any cells are asked for. -/
def dumped (count : Int) (state : Machine.State) : Text :=
  if 0 < count then
    Report.printed (ofString "================") ++
      Report.printed (Dump.rows 8 (by decide) (Dump.select state.tape.toList count))
  else []

def report (invocation : Invocation) (outcome : Except Stop Machine.State) (elapsed : Elapsed) : Report :=
  match outcome with
  | .ok state =>
    let results := invocation.results state elapsed
    match invocation.dump with
    | some count => { stdout := results ++ dumped count state, ending := .code 0 }
    | none => { stdout := results, ending := .stopped (.missing .dump) }
  | .error (.problem (.fault fault)) => .failure fault.message
  | .error stop => .ofStop stop

end Invocation

/-- The whole command on given files and a given duration of the run. -/
def command (steps : Nat) (read : Path → Except StorageFault Bytes) (elapsed : Elapsed)
    (arguments : List Text) : Report :=
  match Invocation.ofArguments arguments with
  | .error mistake => .ofMistake mistake
  | .ok none => .ofHelp
  | .ok (some invocation) =>
    match invocation.prepare read with
    | .error report => report
    | .ok job => invocation.report (job.run steps) elapsed

end TapeMachine.CommandLine
