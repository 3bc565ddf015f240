import LintRelay.Path.Form

/-!
# File identities

An identity is the one name under which findings for a file are collected: absolute, with forward
slashes, and with `.` and `..` segments resolved as text. `identity` computes it from a reported
name, and `isWithin` tells whether one identity lies in the tree of another.
-/

namespace LintRelay.Path

/-- Cuts a slash path into its root (`/`, `//`, a drive such as `C:/`, or nothing) and the rest. -/
def splitRoot (path : List Char) : List Char × List Char :=
  let slashRoot := match path with
    | '/' :: '/' :: rest => (['/', '/'], rest)
    | '/' :: rest => (['/'], rest)
    | _ => ([], path)
  match path with
  | drive :: ':' :: '/' :: rest => if drive.isAlpha then ([drive, ':', '/'], rest) else slashRoot
  | _ => slashRoot

/-- Adds one segment to a stack of resolved segments, latest first. Empty and `.` segments count
for nothing. A `..` removes the latest segment; at a root it counts for nothing, and on a relative
path it is kept. -/
def pushSegment (rooted : Bool) (stack : List (List Char)) (segment : List Char) :
    List (List Char) :=
  if segment = [] ∨ segment = ['.'] then stack
  else if segment = ['.', '.'] then
    match stack with
    | top :: rest => if top ≠ ['.', '.'] then rest else if rooted then stack else segment :: stack
    | [] => if rooted then [] else [segment]
  else segment :: stack

/-- The segments with `.` and `..` resolved. -/
def resolve (rooted : Bool) (segments : List (List Char)) : List (List Char) :=
  (segments.foldl (pushSegment rooted) []).reverse

/-- A slash path with its segments resolved and joined by single slashes after its root. -/
def normalize (path : List Char) : List Char :=
  let (root, rest) := splitRoot path
  root ++ List.intercalate ['/'] (resolve (root ≠ []) (rest.splitOn '/'))

/-- Drops every slash at the end. -/
def dropFinalSlashes (path : List Char) : List Char :=
  (path.reverse.dropWhile (· = '/')).reverse

/-- The identity of a file name; a relative name is taken from the directory `base`. -/
def identityChars (name base : List Char) : List Char :=
  let name := slashChars name
  if isAbsoluteChars name then normalize name
  else normalize (dropFinalSlashes (slashChars base) ++ '/' :: name)

/-- Whether the identity `path` is `root` or lies below it. -/
def isWithinChars (path root : List Char) : Bool :=
  let root := dropFinalSlashes root
  if root = [] then path.head? = some '/'
  else path = root || (root ++ ['/']).isPrefixOf path

/-- The identity of a file name; a relative name is taken from the directory `base`. -/
def identity (name base : String) : String := String.ofList (identityChars name.toList base.toList)

/-- Whether the identity `path` is `root` or lies below it. -/
def isWithin (path root : String) : Bool := isWithinChars path.toList root.toList

end LintRelay.Path
