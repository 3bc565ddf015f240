import LintRelay.Uri.Percent

/-!
# Paths of URIs

A path is read segment by segment. Dot segments are resolved on the way, and what may not stand in a
path is written in percent form. The first segment of a file URI can name a drive, which is never
left, and after which no host counts.
-/

namespace LintRelay.Uri

/-! ## Segments -/

/-- Whether a character counts for nothing in a URI. -/
def isIdle (c : Char) : Bool := c = '\t' || c = '\n' || c = '\r'

/-- Whether a segment names the directory itself. -/
def isHere (segment : List Char) : Bool :=
  [".", "%2e"].contains (String.ofList (segment.map Char.toLower))

/-- Whether a segment names the directory above. -/
def isUp (segment : List Char) : Bool :=
  ["..", ".%2e", "%2e.", "%2e%2e"].contains (String.ofList (segment.map Char.toLower))

/-- Whether a segment names a drive. -/
def isDrive : List Char → Bool
  | [letter, mark] => letter.isAlpha && (mark = ':' || mark = '|')
  | _ => false

/-- Whether a segment names a drive in normal form. -/
def isColonDrive (segment : List Char) : Bool := isDrive segment && segment.getLast? = some ':'

/-- Whether a character separates the segments of a path. Known schemes read a backslash as a slash.
-/
def separates (known : Bool) (c : Char) : Bool := c = '/' || (known && c = '\\')

/-! ## Going up -/

/-- The text behind the last slash. -/
def lastSegment (path : List Char) : List Char := (path.reverse.takeWhile (· ≠ '/')).reverse

/-- Whether a segment begins with a drive. -/
def beginsWithDrive (segment : List Char) : Bool :=
  isDrive (segment.take 2) && (segment.drop 2).head?.all (· = '\\')

/-- A path without the slash at its end, unless that is the root or follows a drive. -/
def dropSlash (path : List Char) : List Char :=
  let front := path.dropLast
  let last := lastSegment front
  if path.getLast? = some '/' && last.length < front.length && !beginsWithDrive last then front
  else path

/-- A path without its last segment; a drive stays. -/
def dropSegment (file : Bool) (path : List Char) : List Char :=
  let last := lastSegment path
  if file && isColonDrive last then path else path.take (path.length - last.length)

/-- A path with a slash at its end. -/
def withSlash (path : List Char) : List Char :=
  if path.getLast? = some '/' then path else path ++ ['/']

/-! ## Reading -/

/-- A path that is being read. -/
structure Trail where
  /-- The path so far. -/
  path : List Char
  /-- Whether a drive was read. -/
  hasDrive : Bool

/-- Appends a piece of a segment that begins at `start`. Text that idle characters keep apart from a
drive gets a slash in front. -/
def appendPiece (file : Bool) (at' : List Char × Nat) (piece : List Char) : List Char × Nat :=
  let (path, start) := at'
  if file && piece ≠ [] && isColonDrive (path.drop 1) then
    (path ++ '/' :: encode inPath piece, start + 1)
  else (path ++ encode inPath piece, start)

/-- Reads a segment; `closed` tells whether a slash follows it. -/
def Trail.read (file : Bool) (t : Trail) (segment : List Char) (closed : Bool) : Trail :=
  let (path, start) := (segment.splitOnP isIdle).foldl (appendPiece file) (t.path, t.path.length)
  let segment := path.drop start
  let front := path.take start
  let slash := if closed then ['/'] else []
  if isUp segment then
    let up := dropSegment file (dropSlash front)
    { t with path := if closed then withSlash up else up }
  else if isHere segment then { t with path := withSlash front }
  else if file && start = 1 && isDrive segment then ⟨front ++ segment.take 1 ++ ':' :: slash, true⟩
  else { t with path := path ++ slash }

/-- Reads segments with slashes between them. -/
def Trail.readAll (file : Bool) (t : Trail) : List (List Char) → Trail
  | [] => t
  | [segment] => t.read file segment false
  | segment :: rest => (t.read file segment true).readAll file rest

/-- Reads the rest of a path after `path`. Slashes are not repeated at the front of a file URI. -/
def readPath (known file : Bool) (path text : List Char) : Trail :=
  let t := (Trail.mk path false).readAll file (text.splitOnP (separates known))
  if file then { t with path := '/' :: t.path.dropWhile (· = '/') } else t

end LintRelay.Uri
