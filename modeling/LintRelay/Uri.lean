import LintRelay.Path.Local
import LintRelay.Uri.Percent

/-!
# URIs

Documents are named by URIs. A URI is its text in normal form, so that two URIs name the same
document exactly if their texts are equal; its parts are read off that text. `Uri.filePath?` gives
the path of a URI that names a file, and `Uri.ofFilePath?` the URI of a path.
-/

namespace LintRelay

/-- A URI in normal form. -/
structure Uri where
  /-- The text. -/
  text : String
deriving DecidableEq, Repr, Inhabited

namespace Uri

/-! ## Parts -/

/-- The URI of a scheme in lower case, what names the host (empty for this one) if anything does, a
path in percent form, and query and fragment with the marks before them. A path with two slashes in
front is kept apart from a host. -/
def ofParts (scheme : String) (authority : Option String) (path tail : String) : Uri where
  text := scheme ++ ":" ++ (match authority with
    | some host => "//" ++ host
    | none => if ['/', '/'].isPrefixOf path.toList then "/." else "") ++ path ++ tail

/-- Whether a character ends a path. -/
def endsPath (c : Char) : Bool := c = '?' || c = '#'

/-- The text after the scheme, up to the query or fragment. -/
def body (u : Uri) : List Char :=
  ((u.text.toList.dropWhile (· ≠ ':')).drop 1).takeWhile (! endsPath ·)

/-- What names the host, if anything does, and the path. -/
def place (u : Uri) : Option (List Char) × List Char :=
  match u.body with
  | '/' :: '/' :: rest => (some (rest.takeWhile (· ≠ '/')), rest.dropWhile (· ≠ '/'))
  | '/' :: '.' :: '/' :: '/' :: rest => (none, '/' :: '/' :: rest)
  | path => (none, path)

/-- The host that an authority names: what stands after an at sign and before a colon, where colons
between brackets do not count. -/
def hostOf (authority : List Char) : List Char :=
  let host := (authority.reverse.takeWhile (· ≠ '@')).reverse
  if host.head? = some '[' then host.takeWhile (· ≠ ']') ++ (host.dropWhile (· ≠ ']')).take 1
  else host.takeWhile (· ≠ ':')

/-- Whether the URI names something on this host. -/
def isLocal (u : Uri) : Bool :=
  match u.place.1 with
  | none => true
  | some authority => authority = [] || hostOf authority = "localhost".toList

/-- The segments of the path, if it begins at the root. -/
def segments? (u : Uri) : Option (List (List Char)) :=
  match u.place.2 with
  | '/' :: rest => some (rest.splitOn '/')
  | _ => none

/-- The last segment of the path. -/
def fileName? (u : Uri) : Option String :=
  (u.segments?.bind List.getLast?).map String.ofList

/-! ## Files -/

/-- Whether a path ends in a letter with a colon, which names a drive. -/
def endsInDrive (path : List Char) : Bool :=
  match path.reverse with
  | mark :: letter :: _ :: _ => (mark = ':' || mark = '|') && letter.isAlpha
  | _ => false

/-- The path of the file that the URI names; a drive gets a slash. -/
def filePath? (u : Uri) : Option String :=
  match u.segments? with
  | none => none
  | some segments =>
    if u.isLocal then
      let path := decode (segments.flatMap fun segment => '/' :: segment)
      some (String.ofList (if endsInDrive path then path ++ ['/'] else path))
    else none

/-- The URI of a file; a relative path has none. -/
def ofFilePath? (path : String) : Option Uri :=
  match Path.components path.toList with
  | .root :: [] => some (ofParts "file" (some "") "/" "")
  | .root :: steps =>
    some (ofParts "file" (some "")
      (String.ofList (steps.flatMap fun step => '/' :: encode inSegment step.text)) "")
  | _ => none

end Uri

end LintRelay
