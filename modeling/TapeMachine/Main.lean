import TapeMachine.CommandLine.Report

/-! The command as a program: it reads real files, measures the run with the system's clock and
prints the report. All decisions are made in the modules it imports. -/

namespace TapeMachine

/-- No run takes as many steps in the lifetime of a machine. -/
def boundOfSteps : Nat := 0x4000000000000000

def StorageFault.ofSystem (path : Path) : IO.Error → StorageFault
  | .noFileOrDirectory .. => .notFound path
  | .inappropriateType _ 21 _ => .isDirectory path
  | .inappropriateType .. => .notDirectory path
  | .invalidArgument .. => .nameTooLong path
  | .permissionDenied .. => .denied path
  | _ => .device path

def Path.readFile (path : Path) : IO (Except StorageFault Bytes) := do
  match path.written.toString? with
  | none => return .error (.notFound path)
  | some name =>
    try
      return .ok (← IO.FS.readBinFile name).toList
    catch error =>
      return .error (.ofSystem path error)

def CommandLine.Report.publish (report : CommandLine.Report) : IO UInt32 := do
  (← IO.getStdout).putStr (report.stdout.toString?.getD "")
  (← IO.getStderr).putStr (report.stderr.toString?.getD "")
  match report.ending with
  | .code n => return .ofNat n
  | .arguments n => return .ofNat n
  | .stopped stop =>
    (← IO.getStderr).putStr ((Report.printed stop.message).toString?.getD "")
    return 1

/-- Reads the files that an invocation names, the second only after the first, runs the script and
reports. -/
def CommandLine.Invocation.perform (invocation : CommandLine.Invocation) : IO CommandLine.Report := do
  let script := Path.ofText invocation.script
  let code ← script.readFile
  let input ←
    match code, invocation.inputFile with
    | .ok _, some path => (Path.ofText path).readFile
    | _, _ => pure (.ok [])
  match invocation.prepare fun path => if path = script then code else input with
  | .error report => return report
  | .ok job =>
    let start ← IO.monoNanosNow
    let outcome ← IO.lazyPure fun _ => job.run boundOfSteps
    let stop ← IO.monoNanosNow
    return invocation.report outcome ⟨start.toFloat / 1000000000, stop.toFloat / 1000000000⟩

end TapeMachine

open TapeMachine CommandLine in
def main (arguments : List String) : IO UInt32 := do
  match Invocation.ofArguments (arguments.map Text.ofString) with
  | .error mistake => (Report.ofMistake mistake).publish
  | .ok none => Report.ofHelp.publish
  | .ok (some invocation) => (← invocation.perform).publish
