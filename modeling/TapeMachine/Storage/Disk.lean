import TapeMachine.Encoding.Utf8
import TapeMachine.Storage.Path
import TapeMachine.Text.Quoted

/-! A tree of directories and files, and how a path is followed in it from the working directory.
Each part is looked up in the directory reached so far, so a part that goes up needs an existing
directory before it. Names are bytes: two spellings of a path lead to the same place if their parts
are the same bytes. Outside of the working directory nothing but directories that lead out of it is
known. -/

namespace TapeMachine

open Text (ofString)

inductive Entry where
  | directory
  | file (content : Bytes)

/-- All entries below the working directory, each under the names of its parts. -/
structure Disk where
  entries : List (List Bytes × Entry)

inductive StorageFault where
  | notFound (path : Path)
  | notDirectory (path : Path)
  | isDirectory (path : Path)
  | nameTooLong (path : Path)
  /-- The file is there and may not be read. -/
  | denied (path : Path)
  | device (path : Path)
  | zeroInPath
  /-- The path holds surrogates, from the first position to before the second, that no name can
  hold. -/
  | surrogatesInPath (path : Path) (first stop : Nat)

namespace StorageFault

/-- A message with the number and the wording of an error, and the path in quotes. -/
private def numbered (number : Nat) (wording : String) (path : Path) : Text :=
  ofString "[Errno " ++ Numeral.ofNat number ++ ofString "] " ++ ofString wording ++ ofString ": " ++
    path.written.quoted

def message : StorageFault → Text
  | notFound path => numbered 2 "No such file or directory" path
  | notDirectory path => numbered 20 "Not a directory" path
  | isDirectory path => numbered 21 "Is a directory" path
  | nameTooLong path => numbered 36 "File name too long" path
  | denied path => numbered 13 "Permission denied" path
  | device path => numbered 5 "Input/output error" path
  | zeroInPath => ofString "embedded null byte"
  | surrogatesInPath path first stop =>
    let wrong :=
      if stop = first + 1 then
        ofString " '" ++ ((path.written.drop first).take 1).flatMap CodePoint.escape ++
          ofString "' in position " ++ Numeral.ofNat first
      else
        ofString "s in position " ++ Numeral.ofNat first ++ ofString "-" ++ Numeral.ofNat (stop - 1)
    ofString "'utf-8' codec can't encode character" ++ wrong ++ ofString ": surrogates not allowed"

end StorageFault

namespace Path

/-- Low surrogates of this range stand for single bytes of a name, from `0x80` on. -/
def isSingleByte (c : CodePoint) : Bool :=
  0xDC80 ≤ c.val && c.val ≤ 0xDCFF

/-- The bytes of a text in a name; surrogates that no name can hold have none. -/
def bytes (t : Text) : Bytes :=
  t.flatMap fun c =>
    if isSingleByte c then [.ofNat (c.val - 0xDC00)] else (Utf8.encodePoint? c).getD []

def names (p : Path) : List Bytes :=
  p.parts.map bytes

def upName : Bytes := bytes up

def maxPart : Nat := 255

/-- How many bytes the spelling of a whole path may take. -/
def maxWhole : Nat := 4095

/-- The first run of surrogates that no name can hold, as its first position and the position after
it. -/
def surrogateRun? (t : Text) : Option (Nat × Nat) :=
  (t.findIdx? fun c => c.isSurrogate && !isSingleByte c).map fun first =>
    (first, first + ((t.drop first).takeWhile CodePoint.isSurrogate).length)

end Path

namespace Disk

inductive Place where
  /-- The working directory, or what is reached from it by these parts. -/
  | inside (names : List Bytes)
  /-- Above the working directory. -/
  | outside

def Place.above : Place → Place
  | inside [] => outside
  | inside (name :: names) => inside (name :: names).dropLast
  | outside => outside

def entryAt? (disk : Disk) : Place → Option Entry
  | .outside => some .directory
  | .inside [] => some .directory
  | .inside names => disk.entries.lookup names

def below? (disk : Disk) (place : Place) (name : Bytes) : Option Place :=
  match place with
  | .outside => none
  | .inside names =>
    if (disk.entryAt? (.inside (names ++ [name]))).isSome then some (.inside (names ++ [name])) else none

/-- Follows names from a place; the path is the one that faults are about. -/
def follow (disk : Disk) (path : Path) (place : Place) : List Bytes → Except StorageFault Entry
  | [] =>
    match disk.entryAt? place with
    | some entry => .ok entry
    | none => .error (.notFound path)
  | name :: rest =>
    match disk.entryAt? place with
    | some .directory =>
      if name = Path.upName then follow disk path place.above rest
      else if Path.maxPart < name.length then .error (.nameTooLong path)
      else
        match disk.below? place name with
        | some next => follow disk path next rest
        | none => .error (.notFound path)
    | some (.file _) => .error (.notDirectory path)
    | none => .error (.notFound path)

def read (disk : Disk) (path : Path) : Except StorageFault Bytes :=
  match Path.surrogateRun? path.written with
  | some (first, stop) => .error (.surrogatesInPath path first stop)
  | none =>
    if path.written.any fun c => c.val = 0 then .error .zeroInPath
    else if Path.maxWhole < (Path.bytes path.written).length then .error (.nameTooLong path)
    else
      match disk.follow path (if path.root.isEmpty then .inside [] else .outside) path.names with
      | .ok (.file content) => .ok content
      | .ok .directory => .error (.isDirectory path)
      | .error fault => .error fault

end Disk

end TapeMachine
