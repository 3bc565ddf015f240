/-!
# Written forms of a path

Paths come in three conventions: slash paths, drive paths such as `C:\a`, and share paths such as
`\\host\a`. This module writes a path anew: with forward slashes (`slash`), and in the form
that an analyzer is handed on its command line (`commandForm`). Nothing here looks at a file system.
-/

namespace LintRelay.Path

/-- Whether `c` separates path segments: a slash or a backslash. -/
def isSeparator (c : Char) : Bool := c = '/' || c = '\\'

/-- Whether a path is absolute: rooted at a separator, or at a drive followed by one. -/
def isAbsoluteChars : List Char → Bool
  | c :: rest =>
    isSeparator c || (c.isAlpha && match rest with
      | ':' :: s :: _ => isSeparator s
      | _ => false)
  | [] => false

/-- Backslashes become slashes, except in an extended-length path (`\\?\` in front), which stays. -/
def slashChars (path : List Char) : List Char :=
  if ['\\', '\\', '?', '\\'].isPrefixOf path then path
  else path.map fun c => if c = '\\' then '/' else c

/-- Every run of separators becomes one slash. The flag tells whether a separator was just read. -/
def collapse : Bool → List Char → List Char
  | _, [] => []
  | inRun, c :: rest =>
    if isSeparator c then
      if inRun then collapse true rest else '/' :: collapse true rest
    else c :: collapse false rest

/-- Drops a final slash, unless it is the whole path. -/
def dropFinalSlash (path : List Char) : List Char :=
  if 1 < path.length && path.getLast? = some '/' then path.dropLast else path

/-- What follows a leading drive, that is, a colon after letters only. -/
def afterDrive? (path : List Char) : Option (List Char) :=
  let drive := path.takeWhile (· ≠ ':')
  if drive ≠ [] && drive.all Char.isAlpha then
    match path.dropWhile (· ≠ ':') with
    | _ :: rest => some rest
    | [] => none
  else none

/-- The path with single slashes, and without final slash, drive or leading `./`. -/
def plainChars (path : List Char) : List Char :=
  let path := dropFinalSlash (collapse false path)
  match afterDrive? path with
  | some rest => rest
  | none =>
    match path with
    | '.' :: '/' :: rest => rest
    | _ => path

/-- The form of a path on an analyzer's command line: forward slashes without repeats, a rooted
drive kept, a drive without root dropped, and a share path with its two leading slashes. -/
def commandChars (path : List Char) : List Char :=
  let unrooted := if ['\\', '\\'].isPrefixOf path then '/' :: plainChars path else plainChars path
  match path with
  | drive :: ':' :: rest =>
    if drive.isAlpha then
      match rest with
      | s :: _ =>
        if isSeparator s then
          List.intercalate ['/'] ((path.splitOnP isSeparator).filter (· ≠ []))
        else plainChars rest
      | [] => plainChars rest
    else unrooted
  | _ => unrooted

/-- Whether a path is absolute: rooted at a separator, or at a drive followed by one. -/
def isAbsolute (path : String) : Bool := isAbsoluteChars path.toList

/-- Backslashes become slashes, except in an extended-length path (`\\?\` in front), which stays. -/
def slash (path : String) : String := String.ofList (slashChars path.toList)

/-- The form of a path on an analyzer's command line. -/
def commandForm (path : String) : String := String.ofList (commandChars path.toList)

end LintRelay.Path
