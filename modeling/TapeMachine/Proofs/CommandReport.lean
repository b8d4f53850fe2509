import TapeMachine.CommandLine.Report
import TapeMachine.Proofs.SurrogateFree

/-! What the command reports. It goes its own way from the arguments to the run: it reads the files by
itself, one after the other, and answers for each that cannot be read. Still it reports what a run of the
script's file with the same settings comes to, and prints it byte for byte as it is. -/

namespace TapeMachine

open Text (ofString newline SurrogateFree)

/-! ### Names of files -/

/-- A text that can name a file: neither zeros nor surrogates stand in it. -/
def Path.IsName (t : Text) : Prop := ∀ c ∈ t, c.val ≠ 0 ∧ c.isSurrogate = false

theorem Path.IsName.surrogateFree {t : Text} (h : IsName t) : t.SurrogateFree := fun c hc => (h c hc).2

/-- Whether the spelling of a path is at fault, whatever files there are. -/
def StorageFault.isSpelling : StorageFault → Bool
  | zeroInPath => true
  | surrogatesInPath .. => true
  | _ => false

/-- Whether nothing is wrong with the spelling of what can name a file. -/
def ReadsNames (read : Path → Except StorageFault Bytes) : Prop :=
  ∀ name, Path.IsName name → ∀ fault, read (.ofText name) = .error fault → fault.isSpelling = false

theorem Path.isName_written {t : Text} (h : IsName t) : IsName (ofText t).written := by
  have hslash : slash.val ≠ 0 ∧ slash.isSurrogate = false := by decide
  have hhere : IsName here := by rw [IsName]; decide
  intro c hc
  rw [written] at hc
  split at hc
  · exact hhere c hc
  · rcases List.mem_append.mp hc with hroot | hparts
    · simp only [ofText] at hroot
      split at hroot
      · exact h c (List.takeWhile_subset _ hroot)
      · obtain rfl := List.mem_singleton.mp hroot
        exact hslash
    · rcases Text.mem_of_mem_join hparts with hmem | ⟨part, hpart, hmem⟩
      · obtain rfl := List.mem_singleton.mp hmem
        exact hslash
      · exact h c (Text.subset_of_mem_splitAt (List.mem_filter.mp hpart).1 hmem)

namespace Disk

theorem isSpelling_of_follow {disk : Disk} {path : Path} {place : Place} {names : List Bytes}
    {fault : StorageFault} (h : disk.follow path place names = .error fault) :
    fault.isSpelling = false := by
  induction names generalizing place with
  | nil =>
      rw [follow] at h
      split at h
      · cases h
      · cases h
        rfl
  | cons name rest ih =>
      rw [follow] at h
      split at h
      · split_ifs at h
        · exact ih h
        · cases h
          rfl
        · split at h
          · exact ih h
          · cases h
            rfl
      · cases h
        rfl
      · cases h
        rfl

/-- On a disk all files can be named that a text can name. -/
theorem readsNames (disk : Disk) : ReadsNames disk.read := by
  intro name hname fault hfault
  have hwritten := Path.isName_written hname
  have hrun : Path.surrogateRun? (Path.ofText name).written = none := by
    rw [Path.surrogateRun?, Option.map_eq_none_iff, List.findIdx?_eq_none_iff]
    intro c hc
    rw [(hwritten c hc).2, Bool.false_and]
  have hzero : ((Path.ofText name).written.any fun c => c.val = 0) = false := by
    rw [List.any_eq_false]
    intro c hc
    simpa using (hwritten c hc).1
  rw [read, hrun] at hfault
  simp only [hzero, Bool.false_eq_true, if_false] at hfault
  split at hfault
  · cases hfault
    rfl
  · split at hfault
    · cases hfault
    · cases hfault
      rfl
    · next found hfollow =>
        obtain rfl : found = fault := Except.error.inj hfault
        exact isSpelling_of_follow hfollow

end Disk

namespace CommandLine

/-- The encoding of all files. -/
def encoding : Text := ofString "utf-8"

/-- What is said about a file that cannot be read. -/
def complaint (path : Text) : Problem → Text
  | .storage (.notFound _) => ofString "Error: file not found: " ++ path
  | problem => ofString "Error: cannot read " ++ path ++ ofString ": " ++ problem.message

variable {read : Path → Except StorageFault Bytes} {path : Text} {invocation : Invocation}
  {tapeLength : TapeLength} {elapsed : Elapsed} {steps : Nat}

/-- Where the input of a run comes from: from its file, or else from the arguments. -/
inductive Invocation.HasInput (read : Path → Except StorageFault Bytes) (invocation : Invocation)
    (input : Text) : Prop where
  | given (hfile : invocation.inputFile = none) (h : invocation.input = some input)
  | loaded {path : Text} (hfile : invocation.inputFile = some path)
      (h : Script.load read path encoding = .ok input)

/-- What the run of the script's file comes to. -/
def Invocation.outcome (invocation : Invocation) (steps : Nat) (read : Path → Except StorageFault Bytes)
    (tapeLength : TapeLength) (input : Text) : Except Problem Machine.State :=
  Script.runFile steps read invocation.script encoding invocation.strip { tapeLength, input }

/-- What is printed after a run: the output with escapes in place of surrogates, the time, and the rows
of the dump below a rule. -/
def Invocation.transcript (invocation : Invocation) (s : Machine.State) (elapsed : Elapsed) (count : Int)
    (rows : Text) : Text :=
  (if invocation.quiet then [] else Encoding.utf8.escape s.stdout ++ [newline]) ++
    (if invocation.timing then
      ofString "Execution took " ++ Decimal.binaryWithPlaces 2 (.ofFloat elapsed.milliseconds) ++
        ofString " ms" ++ [newline]
    else []) ++
    (if 0 < count then ofString "================" ++ [newline] ++ rows ++ [newline] else [])

/-- What is reported on an invocation, by what its files hold and what the run comes to. -/
structure Reports (steps : Nat) (read : Path → Except StorageFault Bytes) (elapsed : Elapsed)
    (invocation : Invocation) (tapeLength : TapeLength) (report : Report) : Prop where
  script_unreadable (problem : Problem)
    (h : Script.load read invocation.script encoding = .error problem) :
    report = { stdout := [], stderr := complaint invocation.script problem ++ [newline], ending := .code 1 }
  /-- The input is looked at after the script. -/
  input_unreadable (code path : Text) (problem : Problem)
    (hscript : Script.load read invocation.script encoding = .ok code)
    (hfile : invocation.inputFile = some path) (h : Script.load read path encoding = .error problem) :
    report = { stdout := [], stderr := complaint path problem ++ [newline], ending := .code 1 }
  finished (input : Text) (s : Machine.State) (count : Int) (hinput : invocation.HasInput read input)
    (h : invocation.outcome steps read tapeLength input = .ok s) (hdump : invocation.dump = some count) :
    ∃ rows, Dump.format s.tape.toList count Dump.standardRow = .ok rows ∧
      report =
        { stdout := invocation.transcript s elapsed count rows, stderr := [], ending := .code 0 }
  /-- Without a count for the dump everything else is printed first. -/
  finished_uncounted (input : Text) (s : Machine.State) (hinput : invocation.HasInput read input)
    (h : invocation.outcome steps read tapeLength input = .ok s) (hdump : invocation.dump = none) :
    report =
      { stdout := invocation.transcript s elapsed 0 [], stderr := [], ending := .stopped (.missing .dump) }
  failed (input : Text) (fault : Fault) (hinput : invocation.HasInput read input)
    (h : invocation.outcome steps read tapeLength input = .error (.fault fault)) :
    report = { stdout := [], stderr := fault.message ++ [newline], ending := .code 1 }
  /-- A run that is to have an input and has none stops once the tape is made. -/
  input_missing (code : Text) (start : Machine.State)
    (hscript : Script.load read invocation.script encoding = .ok code)
    (hfile : invocation.inputFile = none) (h : invocation.input = none)
    (hstart : Machine.State.allocate tapeLength.cells = .ok start) :
    report = { stdout := [], stderr := [], ending := .stopped (.missing .input) }
  /-- What is no fault of the script is not reported but passed on. -/
  stopped (input code : Text) (problem : Problem) (hinput : invocation.HasInput read input)
    (hscript : Script.load read invocation.script encoding = .ok code)
    (h : invocation.outcome steps read tapeLength input = .error problem)
    (hother : ∀ fault, problem ≠ .fault fault) :
    report = { stdout := [], stderr := [], ending := .stopped (.problem problem) }

/-! ### Reading -/

theorem Report.printed_eq {t : Text} (h : t.SurrogateFree) : printed t = t ++ [newline] := by
  rw [printed, Encoding.escape_utf8 h]

theorem load_eq (read : Path → Except StorageFault Bytes) (path : Text) :
    Script.load read path encoding =
      match read (.ofText path) with
      | .error fault => .error (.storage fault)
      | .ok bytes =>
        match Utf8.decode bytes with
        | .error fault => .error (.decoding fault)
        | .ok t => .ok t.unifyLineEnds := by
  have hutf8 : Encoding.ofName? encoding = some .utf8 := by decide
  rw [Script.load, hutf8]
  rfl

/-- A file that cannot be read is no fault of the script. -/
theorem ne_fault_of_load {problem : Problem} (h : Script.load read path encoding = .error problem)
    (fault : Fault) : problem ≠ .fault fault := by
  rcases Script.load_cases read path encoding with ⟨t, hload⟩ | ⟨problem', hload, hne⟩
  · rw [hload] at h
    cases h
  · rw [hload] at h
    obtain rfl : problem' = problem := Except.error.inj h
    exact hne fault

/-- The command reads a file as a run of it does, and complains if that cannot be. -/
theorem readText_eq (hread : ReadsNames read) (hpath : Path.IsName path) :
    readText read path =
      (Script.load read path encoding).mapError fun problem =>
        { stdout := [], stderr := complaint path problem ++ [newline], ending := .code 1 } := by
  have hnotFound : (ofString "Error: file not found: " ++ path).SurrogateFree := by
    simp [hpath.surrogateFree]
  have hunreadable {message : Text} (h : message.SurrogateFree) :
      (ofString "Error: cannot read " ++ path ++ ofString ": " ++ message).SurrogateFree := by
    simp [hpath.surrogateFree, h]
  rw [readText, load_eq]
  cases hfile : read (.ofText path) with
  | error fault =>
      have hspelling := hread path hpath fault hfile
      have hmessage := hunreadable fault.surrogateFree_message
      cases fault with
      | zeroInPath => cases hspelling
      | surrogatesInPath => cases hspelling
      | notFound => simp only [Report.failure, Report.printed_eq hnotFound]; rfl
      | notDirectory => simp only [Report.failure, Report.printed_eq hmessage]; rfl
      | isDirectory => simp only [Report.failure, Report.printed_eq hmessage]; rfl
      | nameTooLong => simp only [Report.failure, Report.printed_eq hmessage]; rfl
      | denied => simp only [Report.failure, Report.printed_eq hmessage]; rfl
      | device => simp only [Report.failure, Report.printed_eq hmessage]; rfl
  | ok bytes =>
      cases hdecode : Utf8.decode bytes with
      | ok t => simp only [hdecode]; rfl
      | error fault =>
          simp only [hdecode, Report.failure, Report.printed_eq (hunreadable fault.surrogateFree_message)]
          rfl

namespace Invocation

theorem prepare_eq (hlength : invocation.tapeLength = some tapeLength) :
    invocation.prepare read =
      match readText read invocation.script with
      | .error report => .error report
      | .ok script =>
        let code := if invocation.strip then script.strip else script
        match invocation.inputFile with
        | none => .ok ⟨code, invocation.input, tapeLength⟩
        | some path =>
          match readText read path with
          | .error report => .error report
          | .ok input => .ok ⟨code, some input, tapeLength⟩ := by
  rw [prepare, hlength]
  simp only [bind, Except.bind, pure, Except.pure]
  cases readText read invocation.script with
  | error report => rfl
  | ok script =>
      cases invocation.inputFile with
      | none => rfl
      | some path => cases hinput : readText read path <;> simp only [hinput] <;> rfl

/-- The code that runs. -/
def effective (invocation : Invocation) (code : Text) : Text :=
  if invocation.strip then code.strip else code

theorem surrogateFree_effective {code : Text} (h : code.SurrogateFree) :
    (invocation.effective code).SurrogateFree := by
  rw [effective]
  split
  · exact h.strip
  · exact h

theorem outcome_of_load {code input : Text}
    (h : Script.load read invocation.script encoding = .ok code) :
    invocation.outcome steps read tapeLength input =
      Script.run steps (invocation.effective code) { tapeLength, input } := by
  rw [outcome, Script.runFile, h]
  rfl

theorem exists_load_of_outcome {input : Text} {result : Except Problem Machine.State}
    (h : invocation.outcome steps read tapeLength input = result)
    (hresult : ∀ problem, Script.load read invocation.script encoding = .error problem →
      result ≠ .error problem) :
    ∃ code, Script.load read invocation.script encoding = .ok code := by
  cases hload : Script.load read invocation.script encoding with
  | ok code => exact ⟨code, rfl⟩
  | error problem =>
      refine absurd ?_ (hresult problem hload)
      rw [← h, outcome, Script.runFile, hload]

variable (hread : ReadsNames read) (hscript : Path.IsName invocation.script)
  (hfile : ∀ path ∈ invocation.inputFile, Path.IsName path)
  (hlength : invocation.tapeLength = some tapeLength)

include hread hscript hlength

theorem prepare_of_script_unreadable {problem : Problem}
    (hload : Script.load read invocation.script encoding = .error problem) :
    invocation.prepare read =
      .error
        { stdout := [], stderr := complaint invocation.script problem ++ [newline], ending := .code 1 } := by
  rw [prepare_eq hlength, readText_eq hread hscript, hload]
  rfl

theorem prepare_of_not_given {code : Text}
    (hload : Script.load read invocation.script encoding = .ok code)
    (hnone : invocation.inputFile = none) :
    invocation.prepare read = .ok ⟨invocation.effective code, invocation.input, tapeLength⟩ := by
  rw [prepare_eq hlength, readText_eq hread hscript, hload]
  simp only [Except.mapError, hnone]
  rfl

include hfile

theorem prepare_of_hasInput {code input : Text}
    (hload : Script.load read invocation.script encoding = .ok code)
    (hinput : invocation.HasInput read input) :
    invocation.prepare read = .ok ⟨invocation.effective code, some input, tapeLength⟩ := by
  cases hinput with
  | given hnone hinput => rw [prepare_of_not_given hread hscript hlength hload hnone, hinput]
  | loaded hsome hinput =>
      rw [prepare_eq hlength, readText_eq hread hscript, hload]
      simp only [Except.mapError, hsome, readText_eq hread (hfile _ hsome), hinput]
      rfl

theorem prepare_of_input_unreadable {code path : Text} {problem : Problem}
    (hload : Script.load read invocation.script encoding = .ok code)
    (hsome : invocation.inputFile = some path) (hinput : Script.load read path encoding = .error problem) :
    invocation.prepare read =
      .error { stdout := [], stderr := complaint path problem ++ [newline], ending := .code 1 } := by
  rw [prepare_eq hlength, readText_eq hread hscript, hload]
  simp only [Except.mapError, hsome, readText_eq hread (hfile _ hsome), hinput]

omit hread hscript hfile hlength

/-- The rows of a dump are those of the standard format. -/
theorem dumped_eq (s : Machine.State) (count : Int) :
    ∃ rows, Dump.format s.tape.toList count Dump.standardRow = .ok rows ∧
      dumped count s =
        if 0 < count then ofString "================" ++ [newline] ++ rows ++ [newline] else [] := by
  refine ⟨Dump.rows 8 (by decide) (Dump.select s.tape.toList count), rfl, ?_⟩
  rw [dumped, Report.printed_eq (Text.surrogateFree_ofString _),
    Report.printed_eq (Dump.surrogateFree_rows 8 _ _), List.append_assoc (ofString _ ++ [newline])]

theorem transcript_eq (s : Machine.State) (count : Int) (rows : Text) :
    invocation.transcript s elapsed count rows =
      invocation.results s elapsed ++
        if 0 < count then ofString "================" ++ [newline] ++ rows ++ [newline] else [] := by
  have htime : (ofString "Execution took " ++ Decimal.binaryWithPlaces 2 (.ofFloat elapsed.milliseconds) ++
      ofString " ms").SurrogateFree := by simp
  rw [transcript, results, Report.printed_eq htime, Report.printed]

end Invocation

theorem command_eq {arguments : List Text}
    (harguments : Invocation.ofArguments arguments = .ok (some invocation)) :
    command steps read elapsed arguments =
      match invocation.prepare read with
      | .error report => report
      | .ok job => invocation.report (job.run steps) elapsed := by
  cases hprepare : invocation.prepare read with
  | error report => simp only [command, harguments, hprepare]
  | ok job => simp only [command, harguments, hprepare]

/-- Whatever the arguments ask for, the command reports what the script's file comes to. -/
theorem command_reports {arguments : List Text}
    (harguments : Invocation.ofArguments arguments = .ok (some invocation))
    (hlength : invocation.tapeLength = some tapeLength) (hread : ReadsNames read)
    (hscript : Path.IsName invocation.script) (hfile : ∀ path ∈ invocation.inputFile, Path.IsName path)
    (steps : Nat) (elapsed : Elapsed) :
    Reports steps read elapsed invocation tapeLength (command steps read elapsed arguments) := by
  have hrun {code input : Text} (hload : Script.load read invocation.script encoding = .ok code)
      (hinput : invocation.HasInput read input) :
      command steps read elapsed arguments =
        invocation.report ((invocation.outcome steps read tapeLength input).mapError .problem) elapsed := by
    rw [command_eq harguments, invocation.prepare_of_hasInput hread hscript hfile hlength hload hinput,
      Invocation.outcome_of_load hload]
    rfl
  constructor
  case script_unreadable =>
    intro problem h
    rw [command_eq harguments, invocation.prepare_of_script_unreadable hread hscript hlength h]
  case input_unreadable =>
    intro code path problem hload hsome h
    rw [command_eq harguments,
      invocation.prepare_of_input_unreadable hread hscript hfile hlength hload hsome h]
  case finished =>
    intro input s count hinput h hdump
    obtain ⟨code, hload⟩ := Invocation.exists_load_of_outcome h fun _ _ => by simp
    obtain ⟨rows, hrows, hdumped⟩ := Invocation.dumped_eq s count
    refine ⟨rows, hrows, ?_⟩
    rw [hrun hload hinput, h, Invocation.transcript_eq, ← hdumped]
    simp only [Except.mapError, Invocation.report, hdump]
  case finished_uncounted =>
    intro input s hinput h hdump
    obtain ⟨code, hload⟩ := Invocation.exists_load_of_outcome h fun _ _ => by simp
    rw [hrun hload hinput, h, Invocation.transcript_eq, if_neg (by decide), List.append_nil]
    simp only [Except.mapError, Invocation.report, hdump]
  case failed =>
    intro input fault hinput h
    obtain ⟨code, hload⟩ := Invocation.exists_load_of_outcome h fun problem hproblem hfault =>
      ne_fault_of_load hproblem fault (Except.error.inj hfault).symm
    have hmessage : fault.message.SurrogateFree := by
      rw [Invocation.outcome_of_load hload] at h
      exact Script.surrogateFree_message_of_run
        (Invocation.surrogateFree_effective (Script.surrogateFree_load hload)) h
    rw [hrun hload hinput, h]
    change Report.failure fault.message = _
    rw [Report.failure, Report.printed_eq hmessage]
  case input_missing =>
    intro code start hload hnone h hstart
    rw [command_eq harguments, invocation.prepare_of_not_given hread hscript hlength hload hnone, h]
    simp only [Job.run, hstart]
    rfl
  case stopped =>
    intro input code problem hinput hload h hother
    rw [hrun hload hinput, h]
    cases problem with
    | fault fault => exact absurd rfl (hother fault)
    | _ => rfl

/-! ### A copied unit -/

theorem Invocation.ofArguments_of_read {arguments : List Text} {tokens : List Token} {request : Request}
    (htokens : Token.ofArguments arguments = .ok tokens)
    (hrequest : Request.read {} tokens = .ok (some request))
    (hinvocation : ofRequest request = .ok invocation) :
    ofArguments arguments = .ok (some invocation) := by
  simp only [ofArguments, htokens, hrequest, hinvocation, bind, Except.bind, pure, Except.pure]

/-- A directory with a script that copies one unit and a file with that unit. -/
def copying : Disk where
  entries :=
    [([Path.bytes (ofString "s")], .file [0x2C, 0x2E]), ([Path.bytes (ofString "i")], .file [0x41])]

/-- Runs the script on a tape of one cell, with a count for the dump. -/
def copyArguments (count : String) : List Text :=
  [ofString "s", ofString "--memory-words=1", ofString "--input-file=i",
    ofString "--dump=" ++ ofString count]

def copyTokens (count : String) : List Token :=
  [.plain (ofString "s"), .flag .memoryWords (some (ofString "1")),
    .flag .inputFile (some (ofString "i")), .flag .dump (some (ofString count))]

def copyRequest (dump : Option Int) : Request where
  script := some (ofString "s")
  inputFile := some (ofString "i")
  memoryWords := some 1
  dump := dump

def copyInvocation (dump : Option Int) : Invocation where
  script := ofString "s"
  input := some []
  inputFile := some (ofString "i")
  tapeLength := some ⟨1, Nat.one_pos⟩
  strip := false
  quiet := false
  timing := false
  dump := dump

theorem isName_copy (dump : Option Int) :
    Path.IsName (copyInvocation dump).script ∧
      ∀ path ∈ (copyInvocation dump).inputFile, Path.IsName path := by
  have hnames : Path.IsName (ofString "s") ∧ Path.IsName (ofString "i") := by
    simp only [Path.IsName]
    decide
  refine ⟨hnames.1, fun path hpath => ?_⟩
  obtain rfl : ofString "i" = path := Option.some.inj hpath
  exact hnames.2

theorem command_reports_copy :
    Reports 3 copying.read ⟨0, 0⟩ (copyInvocation (some 1)) ⟨1, Nat.one_pos⟩
      (command 3 copying.read ⟨0, 0⟩ (copyArguments "1")) := by
  have htokens : Token.ofArguments (copyArguments "1") = .ok (copyTokens "1") := rfl
  have hrequest : Request.read {} (copyTokens "1") = .ok (some (copyRequest (some 1))) := rfl
  obtain ⟨hscript, hfile⟩ := isName_copy (some 1)
  exact command_reports (Invocation.ofArguments_of_read htokens hrequest rfl) rfl copying.readsNames
    hscript hfile 3 ⟨0, 0⟩

theorem load_copying :
    Script.load copying.read (ofString "s") encoding = .ok (ofString ",.") ∧
      Script.load copying.read (ofString "i") encoding = .ok (ofString "A") := by
  have hscript : copying.read (.ofText (ofString "s")) = .ok [0x2C, 0x2E] := rfl
  have hinput : copying.read (.ofText (ofString "i")) = .ok [0x41] := rfl
  have hcode : Utf8.decode [0x2C, 0x2E] = .ok (ofString ",.") := by with_unfolding_all rfl
  have hunit : Utf8.decode [0x41] = .ok (ofString "A") := by with_unfolding_all rfl
  rw [load_eq, load_eq, hscript, hinput]
  simp only [hcode, hunit]
  exact ⟨rfl, rfl⟩

/-- With the separator in place of its value the dump has no count, and then even a run that comes to an
end is not reported as one. -/
theorem not_finished_without_count :
    Invocation.ofArguments (copyArguments "--") = .ok (some (copyInvocation none)) ∧
      (copyInvocation none).tapeLength = some ⟨1, Nat.one_pos⟩ ∧
      Path.IsName (copyInvocation none).script ∧
      (∀ path ∈ (copyInvocation none).inputFile, Path.IsName path) ∧
      (copyInvocation none).HasInput copying.read (ofString "A") ∧
      (∃ s, (copyInvocation none).outcome 3 copying.read ⟨1, Nat.one_pos⟩ (ofString "A") = .ok s) ∧
      (command 3 copying.read ⟨0, 0⟩ (copyArguments "--")).ending ≠ .code 0 := by
  have htokens : Token.ofArguments (copyArguments "--") = .ok (copyTokens "--") := rfl
  have hrequest : Request.read {} (copyTokens "--") = .ok (some (copyRequest none)) := rfl
  have harguments : Invocation.ofArguments (copyArguments "--") = .ok (some (copyInvocation none)) :=
    Invocation.ofArguments_of_read htokens hrequest rfl
  obtain ⟨hscript, hfile⟩ := isName_copy none
  obtain ⟨hload, hfileLoad⟩ := load_copying
  have hinput : (copyInvocation none).HasInput copying.read (ofString "A") := .loaded rfl hfileLoad
  have hrun : (copyInvocation none).outcome 3 copying.read ⟨1, Nat.one_pos⟩ (ofString "A") =
      .ok ⟨#[0x41], 0, 1, [], #[ofString "A"]⟩ := by
    rw [Invocation.outcome_of_load hload]
    rfl
  have hending : (command 3 copying.read ⟨0, 0⟩ (copyArguments "--")).ending =
      .stopped (.missing .dump) := by
    rw [command_eq harguments,
      Invocation.prepare_of_hasInput copying.readsNames hscript hfile rfl hload hinput]
    rfl
  refine ⟨harguments, rfl, hscript, hfile, hinput, ⟨_, hrun⟩, ?_⟩
  rw [hending]
  exact Ending.noConfusion

end CommandLine

end TapeMachine
