/-!
# Paths of the file system

Paths as the file system reads them: only the slash separates, a path is absolute if it begins with
a slash, and empty and `.` segments name nothing, except that a leading `.` of a relative path
counts as a component. The operations work on the text and look up nothing.
-/

namespace LintRelay.Path

/-- One step of a path. -/
inductive Component where
  /-- The root directory. -/
  | root
  /-- The leading `.` of a relative path. -/
  | here
  /-- The directory above. -/
  | up
  /-- A named entry. -/
  | name (text : List Char)
deriving DecidableEq, Repr

/-- Whether a path begins at the root directory. -/
def isRooted (path : List Char) : Bool := path.head? = some '/'

/-- The step that a segment stands for, if it stands for one away from the front. -/
def step? (segment : List Char) : Option Component :=
  if segment = [] ∨ segment = ['.'] then none
  else if segment = ['.', '.'] then some .up
  else some (.name segment)

/-- The steps of a path. -/
def components (path : List Char) : List Component :=
  let segments := path.splitOn '/'
  if isRooted path then .root :: segments.filterMap step?
  else
    match segments with
    | ['.'] :: rest => .here :: rest.filterMap step?
    | _ => segments.filterMap step?

/-- The text of a step. -/
def Component.text : Component → List Char
  | .root => ['/']
  | .here => ['.']
  | .up => ['.', '.']
  | .name text => text

/-- A path followed by another: an absolute one replaces it. -/
def joinChars (path other : List Char) : List Char :=
  if isRooted other then other
  else if path = [] ∨ path.getLast? = some '/' then path ++ other
  else path ++ '/' :: other

/-- Drops the segments at the end that name nothing, from a list of segments in reverse order. -/
def dropIdle : List (List Char) → List (List Char) := List.dropWhile fun s => (step? s).isNone

/-- The path without its last step; nothing for the root directory and the empty path. -/
def parentChars? (path : List Char) : Option (List Char) :=
  if isRooted path then
    match dropIdle (path.tail.splitOn '/').reverse with
    | [] => none
    | _ :: above => some ('/' :: List.intercalate ['/'] (dropIdle above).reverse)
  else
    match path.splitOn '/' with
    | ['.'] :: rest =>
      match dropIdle rest.reverse with
      | [] => some []
      | _ :: above => some (List.intercalate ['/'] (['.'] :: (dropIdle above).reverse))
    | segments =>
      match dropIdle segments.reverse with
      | [] => none
      | _ :: above => some (List.intercalate ['/'] (dropIdle above).reverse)

/-- A path and the paths above it, nearest first; `fuel` bounds their number. -/
def ancestorsFrom : Nat → List Char → List (List Char)
  | 0, path => [path]
  | fuel + 1, path =>
    match parentChars? path with
    | some above => path :: ancestorsFrom fuel above
    | none => [path]

/-- The name of the entry that a path leads to. -/
def fileNameChars? (path : List Char) : Option (List Char) :=
  match (components path).getLast? with
  | some (.name text) => some text
  | _ => none

/-- What follows the last dot of the file name, unless nothing precedes that dot. -/
def extensionChars? (path : List Char) : Option (List Char) := do
  let name ← fileNameChars? path
  match name.reverse.dropWhile (· ≠ '.') with
  | [] => none
  | [_] => none
  | _ :: _ => some (name.reverse.takeWhile (· ≠ '.')).reverse

/-- A relative path taken from `directory`, without its leading `.`; an absolute one as it is. -/
def fromDirectory (directory path : List Char) : List Char :=
  if isRooted path then path
  else
    ((components path).dropWhile (· = .here)).foldl (fun p c => joinChars p c.text) directory

/-- The absolute form of a path as text, taken from `directory` if it is relative. Steps up stay,
and so does a final slash. -/
def absoluteChars (directory path : List Char) : List Char :=
  let steps := (components path).filter (· ≠ .here)
  let start := if isRooted path then [] else directory
  let whole :=
    if ['/', '/'].isPrefixOf path && !(['/', '/', '/'].isPrefixOf path) then
      (steps.drop 1).foldl (fun p c => joinChars p c.text) ['/', '/']
    else steps.foldl (fun p c => joinChars p c.text) start
  if path.getLast? = some '/' then joinChars whole [] else whole

/-- A path followed by another: an absolute one replaces it. -/
def join (path other : String) : String := String.ofList (joinChars path.toList other.toList)

/-- The path without its last step; nothing for the root directory and the empty path. -/
def parent? (path : String) : Option String := (parentChars? path.toList).map String.ofList

/-- A path and the paths above it, nearest first. -/
def ancestors (path : String) : List String :=
  (ancestorsFrom path.toList.length path.toList).map String.ofList

/-- What follows the last dot of the file name, unless nothing precedes that dot. -/
def extension? (path : String) : Option String := (extensionChars? path.toList).map String.ofList

/-- The absolute form of a path as text; the empty path has none. -/
def absolute? (directory path : String) : Option String :=
  if path = "" then none else some (String.ofList (absoluteChars directory.toList path.toList))

/-- Whether `path` is `directory` or lies below it, step by step. -/
def isBelow (path directory : String) : Bool :=
  (components directory.toList).isPrefixOf (components path.toList)

/-- Whether two paths have the same steps. -/
def same (path other : String) : Bool := components path.toList = components other.toList

/-- The number of steps of a path. -/
def depth (path : String) : Nat := (components path.toList).length

end LintRelay.Path
