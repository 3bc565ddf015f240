import LintRelay.Path.Identity
import LintRelay.Path.Local
import LintRelay.Process
import LintRelay.Table
import LintRelay.Text.Encoding

/-!
# File trees

A file tree is a value: directories, files with their content, and programs, which are files that
can be run. A program is what it prints, given the texts of the files that it can read and a list of
arguments. Looking a path up follows its steps from the root; every step but the last has to be a
directory.
-/

namespace LintRelay

/-- What a program leaves: exit status and raw output. -/
structure RawOutput where
  /-- The exit status; none if the program was killed. -/
  status : Option Int
  /-- The standard output. -/
  stdout : List UInt8
  /-- The standard error output. -/
  stderr : List UInt8

/-- The output as text. -/
def RawOutput.decode (raw : RawOutput) : ProcessOutput :=
  ⟨raw.status, Text.decodeUtf8 raw.stdout, Text.decodeUtf8 raw.stderr⟩

/-- What a program does with the texts of files, by paths as seen from the directory in which it is
started, and with its arguments. -/
abbrev Program := (texts : String → Option String) → (arguments : List String) → RawOutput

/-- What is in a file. -/
inductive Content where
  /-- A text. -/
  | text (text : String)
  /-- Bytes that are no text. -/
  | bytes
  /-- The file may not be opened. -/
  | locked
deriving DecidableEq, Repr

/-- An entry of a tree. -/
inductive Node where
  | directory
  /-- A file; a program if it can be run. -/
  | file (content : Content) (program : Option Program)

/-- Why a path cannot be used. -/
inductive TreeError where
  /-- There is no such entry. -/
  | missing
  /-- The entry may not be run or opened. -/
  | denied
  /-- A directory is needed. -/
  | notDirectory
  /-- A directory will not do. -/
  | isDirectory
  /-- The path, or the name of an entry on it, is longer than the file system allows. -/
  | tooLong
  /-- The path holds a zero character. -/
  | zeroCharacter
  /-- The file holds no text. -/
  | noText
deriving DecidableEq, Repr

/-- The text of a tree error. -/
def TreeError.message : TreeError → String
  | .missing => "No such file or directory (os error 2)"
  | .denied => "Permission denied (os error 13)"
  | .notDirectory => "Not a directory (os error 20)"
  | .isDirectory => "Is a directory (os error 21)"
  | .tooLong => "File name too long (os error 36)"
  | .zeroCharacter => "file name contained an unexpected NUL byte"
  | .noText => "stream did not contain valid UTF-8"

/-- The greatest length of the name of an entry, in bytes. -/
def nameLimit : Nat := 255

/-- The greatest length of a path, in bytes. -/
def pathLimit : Nat := 4095

/-- A file tree. -/
structure Tree where
  /-- The entries by absolute path, without the root. -/
  nodes : Table Node

namespace Tree

/-- The tree with nothing but the root. -/
def empty : Tree := ⟨∅⟩

/-- The absolute path of a list of names, innermost first. -/
def pathOf (names : List (List Char)) : String :=
  String.ofList (names.reverse.flatMap fun name => '/' :: name)

/-- The entry at a list of names, innermost first. -/
def entry? (t : Tree) (names : List (List Char)) : Option Node :=
  if names = [] then some .directory else t.nodes.get? (pathOf names)

/-- Follows the segments of a path from an entry, given by its names, innermost first. -/
def follow (t : Tree) : List (List Char) → List (List Char) → Except TreeError Node
  | names, [] =>
    match t.entry? names with
    | none => .error .missing
    | some node => .ok node
  | names, segment :: rest =>
    match t.entry? names with
    | none => .error .missing
    | some (.file ..) => .error .notDirectory
    | some .directory =>
      if nameLimit < Text.byteCount segment then .error .tooLong
      else t.follow (Path.pushSegment true names segment) rest

/-- The entry at a path; a relative one is taken from `directory`. -/
def stat (t : Tree) (directory path : String) : Except TreeError Node :=
  if path = "" then .error .missing
  else if path.toList.contains '\x00' then .error .zeroCharacter
  else if pathLimit < path.utf8ByteSize then .error .tooLong
  else t.follow [] ((Path.joinChars directory.toList path.toList).splitOn '/')

/-- Whether there is a file at a path. -/
def isFile (t : Tree) (directory path : String) : Bool :=
  match t.stat directory path with
  | .ok (.file ..) => true
  | _ => false

/-- Whether there is a file at a path that may be opened. -/
def isReadable (t : Tree) (directory path : String) : Bool :=
  match t.stat directory path with
  | .ok (.file content _) => content ≠ .locked
  | _ => false

/-- The text of the file at a path. -/
def readText (t : Tree) (directory path : String) : Except TreeError String :=
  match t.stat directory path with
  | .ok (.file (.text text) _) => .ok text
  | .ok (.file .bytes _) => .error .noText
  | .ok (.file .locked _) => .error .denied
  | .ok .directory => .error .isDirectory
  | .error e => .error e

/-- The program at a path. -/
def program (t : Tree) (directory path : String) : Except TreeError Program :=
  match t.stat directory path with
  | .ok (.file _ (some program)) => .ok program
  | .ok _ => .error .denied
  | .error e => .error e

/-- Whether there is a program at a path. -/
def isProgram (t : Tree) (directory path : String) : Bool := (t.program directory path).isOk

/-- The names of an absolute path, innermost first. -/
def namesOf (path : String) : List (List Char) :=
  (Path.resolve true (path.toList.splitOn '/')).reverse

/-- The directories above an entry, and the entry itself, made where they are missing. -/
def addAll (t : Tree) (node : Node) : List (List Char) → Tree
  | [] => t
  | name :: above =>
    let t := t.addAll .directory above
    let path := pathOf (name :: above)
    match node, t.nodes.get? path with
    | .directory, some _ => t
    | _, _ => ⟨t.nodes.insert path node⟩

/-- The tree with an entry at an absolute path, and with the directories above it. -/
def add (t : Tree) (path : String) (node : Node) : Tree := t.addAll node (namesOf path)

/-- The tree without the entry at an absolute path. -/
def remove (t : Tree) (path : String) : Tree := ⟨t.nodes.erase (pathOf (namesOf path))⟩

end Tree

end LintRelay
