import TapeMachine.CommandLine.Flag
import TapeMachine.TapeLength

/-! Arguments and what they ask for. Each argument is first taken alone, as a flag, a plain value or
the separator after which everything is plain; an ambiguous name is found here, before any other
mistake. Then all are read from left to right, and the first mistake or call for help ends the
reading. -/

namespace TapeMachine.CommandLine

open Text (ofString)

inductive Mistake where
  | ambiguous (given : Text) (candidates : List Flag)
  | valueMissing (flag : Flag)
  | valueIgnored (flag : Flag) (value : Text)
  | notInteger (flag : Flag) (value : Text)
  | conflict (flag earlier : Flag)
  | scriptMissing
  | unrecognized (arguments : List Text)
  | lengthNotPositive

namespace Mistake

private def about (flag : Flag) (message : Text) : Text :=
  ofString "argument " ++ flag.shown ++ ofString ": " ++ message

def message : Mistake → Text
  | ambiguous given candidates =>
    ofString "ambiguous option: " ++ given ++ ofString " could match " ++
      Text.join (ofString ", ") (candidates.map Flag.longName)
  | valueMissing flag => about flag (ofString "expected one argument")
  | valueIgnored flag value => about flag (ofString "ignored explicit argument " ++ value.quoted)
  | notInteger flag value => about flag (ofString "invalid int value: " ++ value.quoted)
  | conflict flag earlier => about flag (ofString "not allowed with argument " ++ earlier.shown)
  | scriptMissing => ofString "the following arguments are required: script"
  | unrecognized arguments =>
    ofString "unrecognized arguments: " ++ Text.join [Text.space] arguments
  | lengthNotPositive => ofString "--memory-words must be positive"

end Mistake

/-- An argument taken alone. -/
inductive Token where
  | plain (value : Text)
  /-- After it every argument is plain. -/
  | separator
  /-- A flag, with the value after its equals sign if there is one. -/
  | flag (flag : Flag) (value : Option Text)
  /-- The short flag for help with more behind it, directly or after an equals sign. -/
  | shortHelp (rest : Text)
  /-- What looks like a flag and is none. -/
  | unknown (given : Text)

namespace Token

def dash : CodePoint := .ofChar '-'

def equals : CodePoint := .ofChar '='

def separatorText : Text := [dash, dash]

/-- Whether a text is a number below zero: a dash and digits, perhaps with a point among them but
not at their end, and perhaps with a newline at the very end. -/
def isNegativeNumber (t : Text) : Bool :=
  match t with
  | [] => false
  | c :: rest =>
    let body := if rest.getLast? = some Text.newline then rest.dropLast else rest
    let isDigit := fun d : CodePoint => d.digit?.isSome
    let point : CodePoint := .ofChar '.'
    let fraction := (body.dropWhile isDigit).drop 1
    c = dash &&
      ((!body.isEmpty && body.all isDigit) ||
        ((body.dropWhile isDigit).head? = some point && !fraction.isEmpty && fraction.all isDigit))

/-- The part before the first equals sign, and the part after it if there is one. -/
def splitValue (t : Text) : Text × Option Text :=
  match t.dropWhile (· ≠ equals) with
  | [] => (t, none)
  | _ :: value => (t.takeWhile (· ≠ equals), some value)

/-- An argument that begins with a dash and names no flag: a value after all if it is a number or
holds a blank. -/
def nameless (t : Text) : Token :=
  if isNegativeNumber t ∨ Text.space ∈ t then .plain t else .unknown t

/-- Takes an argument alone, before the separator. -/
def ofText (t : Text) : Except Mistake Token :=
  match t with
  | [] => .ok (.plain t)
  | [_] => .ok (.plain t)
  | first :: second :: rest =>
    if first ≠ dash then .ok (.plain t)
    else
      let (name, value) := splitValue t
      if second = dash then
        match Flag.ofLongName? name with
        | some found => .ok (.flag found value)
        | none =>
          match Flag.beginningWith name with
          | [] => .ok (nameless t)
          | [found] => .ok (.flag found value)
          | candidates => .error (.ambiguous t candidates)
      else if t = Flag.shortHelp then .ok (.flag .help none)
      else if name = Flag.shortHelp then .ok (.shortHelp (value.getD []))
      else if Flag.shortHelp = [first, second] then .ok (.shortHelp rest)
      else .ok (nameless t)

def ofArguments : List Text → Except Mistake (List Token)
  | [] => .ok []
  | t :: rest =>
    if t = separatorText then .ok (.separator :: rest.map .plain)
    else
      match ofText t with
      | .error mistake => .error mistake
      | .ok token =>
        match ofArguments rest with
        | .error mistake => .error mistake
        | .ok tokens => .ok (token :: tokens)

/-- What stands behind the short flag for help is read as more short flags, of which help is the
only one. The rest from the first that is none is refused, and so is nothing at all. -/
def checkShortHelp (rest : Text) : Except Mistake Unit :=
  match rest, rest.dropWhile (· = .ofChar 'h') with
  | _ :: _, [] => .ok ()
  | _, refused => .error (.valueIgnored .help refused)

end Token

/-- What has been asked for so far. Where a value is optional, none stands for a flag that came
without one. -/
structure Request where
  script : Option Text := none
  input : Option Text := some []
  /-- The name of the input file if its flag has come, an empty one if it came without a value. -/
  inputFile : Option Text := none
  /-- Whether the flag of the input text has come with anything but the empty text. -/
  inputGiven : Bool := false
  memoryWords : Option Int := some TapeLength.standard.cells
  strip : Bool := false
  quiet : Bool := false
  timing : Bool := false
  dump : Option Int := some 0
  /-- Arguments that nothing asked for. -/
  unrecognized : List Text := []

namespace Request

/-- The value that a text behind an equals sign gives. The separator is taken out wherever it stands
for itself, here too, and leaves none. -/
def givenValue (value : Text) : Option Text :=
  if value = Token.separatorText then none else some value

def integer (flag : Flag) : Option Text → Except Mistake (Option Int)
  | none => .ok none
  | some value =>
    match Numeral.read? value with
    | some n => .ok (some n)
    | none => .error (.notInteger flag value)

/-- Takes a flag with its value. An input text and an input file exclude each other, but an empty
input text does not count as given. -/
def withValue (request : Request) (flag : Flag) (value : Text) : Except Mistake Request :=
  let given := givenValue value
  match flag with
  | .input =>
    if value.isEmpty then .ok { request with input := given }
    else if request.inputFile.isSome then .error (.conflict .input .inputFile)
    else .ok { request with input := given, inputGiven := true }
  | .inputFile =>
    if request.inputGiven then .error (.conflict .inputFile .input)
    else .ok { request with inputFile := some (given.getD []) }
  | .memoryWords => (integer flag given).map fun n => { request with memoryWords := n }
  | .dump => (integer flag given).map fun n => { request with dump := n }
  | .help | .strip | .quiet | .timing => .error (.valueIgnored flag value)

def withFlag (request : Request) (flag : Flag) : Request :=
  match flag with
  | .strip => { request with strip := true }
  | .quiet => { request with quiet := true }
  | .timing => { request with timing := true }
  | _ => request

def setAside (request : Request) (t : Text) : Request :=
  { request with unrecognized := request.unrecognized ++ [t] }

/-- Reads the arguments from left to right; no request is left if help is asked for. The first plain
value is the script, together with a separator on either side of it. -/
def read (request : Request) : List Token → Except Mistake (Option Request)
  | [] => .ok (some request)
  | .unknown t :: rest => read (request.setAside t) rest
  | .shortHelp rest :: _ => (Token.checkShortHelp rest).map fun _ => none
  | .flag flag (some value) :: rest =>
    match request.withValue flag value with
    | .ok request => read request rest
    | .error mistake => .error mistake
  | .flag flag none :: rest =>
    if flag = .help then .ok none
    else if flag.takesValue then
      match rest with
      | .plain value :: rest =>
        match request.withValue flag value with
        | .ok request => read request rest
        | .error mistake => .error mistake
      | _ => .error (.valueMissing flag)
    else read (request.withFlag flag) rest
  | .plain t :: rest =>
    if request.script.isSome then read (request.setAside t) rest
    else
      match rest with
      | .separator :: rest => read { request with script := some t } rest
      | rest => read { request with script := some t } rest
  | .separator :: rest =>
    if request.script.isSome then read (request.setAside Token.separatorText) rest
    else
      match rest with
      | .plain t :: rest => read { request with script := some t } rest
      | rest => read (request.setAside Token.separatorText) rest

end Request

/-- A complete request. Again none stands for a flag that came without its value, which is no
mistake by itself: it is noticed where the value is needed. -/
structure Invocation where
  script : Text
  input : Option Text
  /-- A file to read the input from instead. -/
  inputFile : Option Text
  tapeLength : Option TapeLength
  strip : Bool
  quiet : Bool
  timing : Bool
  dump : Option Int

namespace Invocation

def lengthOf (request : Request) : Except Mistake (Option TapeLength) :=
  match request.memoryWords with
  | none => .ok none
  | some n =>
    match TapeLength.check (.integer n) with
    | .ok tapeLength => .ok (some tapeLength)
    | .error _ => .error .lengthNotPositive

/-- Completes a request. An input file with an empty name is none. -/
def ofRequest (request : Request) : Except Mistake Invocation :=
  match request.script with
  | none => .error .scriptMissing
  | some script =>
    if ¬ request.unrecognized.isEmpty then .error (.unrecognized request.unrecognized)
    else
      match lengthOf request with
      | .error mistake => .error mistake
      | .ok tapeLength =>
        .ok {
          script
          input := request.input
          inputFile := request.inputFile.filter fun path => !path.isEmpty
          tapeLength
          strip := request.strip
          quiet := request.quiet
          timing := request.timing
          dump := request.dump }

/-- What a list of arguments asks for; nothing is left if it asks for help. -/
def ofArguments (arguments : List Text) : Except Mistake (Option Invocation) := do
  let tokens ← Token.ofArguments arguments
  match ← Request.read {} tokens with
  | none => return none
  | some request => return some (← ofRequest request)

end Invocation

end TapeMachine.CommandLine
