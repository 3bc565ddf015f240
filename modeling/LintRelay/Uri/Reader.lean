import LintRelay.Uri
import LintRelay.Uri.Authority
import LintRelay.Uri.Segment

/-!
# Reading URIs

`Uri.ofText` brings a text into normal form: the scheme in lower case, the host as an address or
domain, no dot segments, and percent forms where they are needed. Web and file schemes read a
backslash as a slash; file URIs may leave out the slashes and the host. Without a scheme a text is
no URI.
-/

namespace LintRelay.Uri

/-! ## Scheme -/

/-- Whether a character may stand in a scheme. -/
def isSchemeChar (c : Char) : Bool := c.isAlphanum || c = '+' || c = '-' || c = '.'

/-- Drops blanks and control characters at both ends. -/
def tidy (text : List Char) : List Char :=
  let blank (c : Char) : Bool := c.toNat ≤ 0x20
  ((text.dropWhile blank).reverse.dropWhile blank).reverse

/-- A text without idle characters. -/
def dropIdle (text : List Char) : List Char := text.filter (! isIdle ·)

/-- The first character that is not idle, and the text after it. -/
def next? (text : List Char) : Option (Char × List Char) :=
  match text.dropWhile isIdle with
  | [] => none
  | c :: rest => some (c, rest)

/-- The scheme and what follows its colon. -/
def splitScheme? (text : List Char) : Option (String × List Char) :=
  let belongs (c : Char) : Bool := isSchemeChar c || isIdle c
  let scheme := dropIdle (text.takeWhile belongs)
  match text.dropWhile belongs with
  | ':' :: rest =>
    if scheme.head?.any Char.isAlpha then some (String.ofList (scheme.map Char.toLower), rest)
    else none
  | _ => none

/-! ## Query and fragment -/

/-- Query and fragment. A quote is written in percent form in the query of a known scheme. -/
def readTail (known : Bool) (text : List Char) : List Char :=
  let reserved (c : Char) : Bool := inQuery c || (known && c = '\x27')
  match dropIdle text with
  | '?' :: rest =>
    '?' :: encode reserved (rest.takeWhile (· ≠ '#'))
      ++ encode inFragment (rest.dropWhile (· ≠ '#'))
  | '#' :: rest => '#' :: encode inFragment rest
  | _ => []

/-! ## Whole URIs -/

/-- Text up to the first character that ends a path, and the rest. -/
def splitPath (text : List Char) : List Char × List Char :=
  (text.takeWhile (! endsPath ·), text.dropWhile (! endsPath ·))

/-- Text up to the first separator, and the rest. -/
def splitSegment (known : Bool) (text : List Char) : List Char × List Char :=
  (text.takeWhile (! separates known ·), text.dropWhile (! separates known ·))

/-- Text after the slash at its front, if there is one. -/
def afterSlash (text : List Char) : List Char :=
  match next? text with
  | some (c, rest) => if separates true c then rest else text
  | none => text

/-- The host of a file URI, and its path as it is read. A drive is no host, and no host at all or
this host is not named; then the path keeps its own slash. -/
def readFilePlace (text : List Char) : Except Error (List Char × Trail) :=
  let (host, path) := splitSegment true text
  let host := dropIdle host
  if isDrive host then .ok ([], readPath true true ['/'] text)
  else if host = [] then .ok ([], readPath true true ['/'] path)
  else
    match readKnownHost host with
    | .error e => .error e
    | .ok host =>
      if host = "localhost".toList then .ok ([], readPath true true ['/'] path)
      else .ok (host, readPath true true ['/'] (afterSlash path))

/-- A file URI. -/
def readFile (text : List Char) : Except Error Uri :=
  let (whole, tail) := splitPath text
  let make (place : List Char × Trail) : Uri :=
    ofParts "file" (some (String.ofList (if place.2.hasDrive then [] else place.1)))
      (String.ofList place.2.path) (String.ofList (readTail true tail))
  match next? whole with
  | some (a, rest) =>
    if separates true a then
      match next? rest with
      | some (b, rest) =>
        if separates true b then (readFilePlace rest).map make
        else .ok (make ([], readPath true true [] whole))
      | none => .ok (make ([], readPath true true [] whole))
    else .ok (make ([], readPath true true ['/'] whole))
  | none => .ok (make ([], readPath true true ['/'] whole))

/-- A URI of a web scheme. -/
def readWeb (scheme : String) (text : List Char) : Except Error Uri := do
  let (whole, tail) := splitPath text
  let (authority, path) := splitSegment true (whole.dropWhile fun c => separates true c || isIdle c)
  let atEnd := path = [] && tail = []
  let (authority, rest) ← readAuthority scheme true atEnd (dropIdle authority)
  return ofParts scheme (some (String.ofList authority))
    (String.ofList (readPath true false ['/'] (afterSlash (rest ++ path))).path)
    (String.ofList (readTail true tail))

/-- The path of a URI of another scheme after its authority; it may be empty. -/
def readOtherPath (text : List Char) : List Char :=
  match next? text with
  | none => []
  | some (c, _) => (readPath false false (if c = '/' then [] else ['/']) text).path

/-- A URI of another scheme. -/
def readOther (scheme : String) (text : List Char) : Except Error Uri := do
  let (whole, tail) := splitPath text
  let tailText := String.ofList (readTail false tail)
  match next? whole with
  | some ('/', rest) =>
    match next? rest with
    | some ('/', rest) =>
      let (authority, path) := splitSegment false rest
      let atEnd := path = [] && tail = []
      let (authority, rest) ← readAuthority scheme false atEnd (dropIdle authority)
      return ofParts scheme (some (String.ofList authority))
        (String.ofList (readOtherPath (rest ++ path))) tailText
    | _ =>
      return ofParts scheme none (String.ofList (readPath false false ['/'] rest).path) tailText
  | _ => return ofParts scheme none (String.ofList (encode isControl (dropIdle whole))) tailText

/-- The URI that a text is. -/
def ofText (text : String) : Except Error Uri :=
  match splitScheme? (tidy text.toList) with
  | none => .error .relative
  | some (scheme, rest) =>
    if scheme = "file" then readFile rest
    else if (webSchemes.map Prod.fst).contains scheme then readWeb scheme rest
    else readOther scheme rest

end LintRelay.Uri
