import TapeMachine.Text

/-! The flags of the command line, their names, and the texts that explain them. -/

namespace TapeMachine.CommandLine

open Text (ofString)

/-- What can be asked for besides the script. -/
inductive Flag where
  | help
  | input
  | inputFile
  | memoryWords
  | strip
  | quiet
  | timing
  | dump
  deriving DecidableEq

namespace Flag

def all : List Flag :=
  [help, input, inputFile, memoryWords, strip, quiet, timing, dump]

/-- The name of a flag; it may be shortened as long as it fits no other flag. -/
def longName : Flag → Text
  | help => ofString "--help"
  | input => ofString "--input"
  | inputFile => ofString "--input-file"
  | memoryWords => ofString "--memory-words"
  | strip => ofString "--strip"
  | quiet => ofString "--quiet"
  | timing => ofString "--timing"
  | dump => ofString "--dump"

/-- The only short name, that of the help. -/
def shortHelp : Text := ofString "-h"

def shown : Flag → Text
  | help => ofString "-h/--help"
  | flag => flag.longName

def takesValue : Flag → Bool
  | input | inputFile | memoryWords | dump => true
  | help | strip | quiet | timing => false

def ofLongName? (name : Text) : Option Flag :=
  all.find? fun flag => flag.longName = name

def beginningWith (start : Text) : List Flag :=
  all.filter fun flag => start.isPrefixOf flag.longName

end Flag

/-- Lines of text, each ended by a newline. -/
private def paragraph (lines : List String) : Text :=
  lines.flatMap fun line => ofString line ++ [Text.newline]

def usage : Text :=
  paragraph [
    "usage: bfi [-h] [--input INPUT | --input-file INPUT_FILE]",
    "           [--memory-words MEMORY_WORDS] [--strip] [--quiet] [--timing]",
    "           [--dump N]",
    "           script"]

def help : Text :=
  usage ++ paragraph [
    "",
    "Run a Brainfuck script.",
    "",
    "positional arguments:",
    "  script                Path to the script",
    "",
    "options:",
    "  -h, --help            show this help message and exit",
    "  --input INPUT         Text consumed by ','",
    "  --input-file INPUT_FILE",
    "                        Read the text consumed by ',' from a file",
    "  --memory-words MEMORY_WORDS",
    "                        Tape length (default 30000)",
    "  --strip               Remove non-instruction characters first",
    "  --quiet               Do not print the program output",
    "  --timing              Print how long the run took",
    "  --dump N              Print the first N tape cells"]

end TapeMachine.CommandLine
