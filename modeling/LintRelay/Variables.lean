import LintRelay.Table
import LintRelay.Path.Form
import LintRelay.Text.Scan

/-!
# Variables in settings

Settings may refer to variables: `${name}`, `${name:-fallback}` and `$name`. `expand` replaces every
reference by its value and turns backslashes into slashes. A variable that is unset or empty gives
its fallback, and without one it gives nothing. Inserted text is not expanded again. A result that
is empty, or that still holds an opening `${`, is an error.
-/

namespace LintRelay

/-- Why a text does not expand. -/
inductive ExpansionError where
  /-- The text expands to nothing. -/
  | empty (input : String)
  /-- An opening brace is left over. -/
  | unterminated (input : String)
deriving DecidableEq, Repr

/-- The report of an expansion error. -/
def ExpansionError.message : ExpansionError → String
  | .empty input => "Expanding '" ++ input ++ "' resulted in an empty string."
  | .unterminated input => "Unterminated variable reference in '" ++ input ++ "'"

/-- The variables that settings may refer to. -/
abbrev Variables := Table String

namespace Variables

/-- The environment together with the two names of the workspace root. -/
def ofWorkspace (environment : Variables) (root : String) : Variables :=
  (environment.insert "workspaceRoot" root).insert "workspaceFolder" root

/-- Whether `c` may begin a variable name. -/
def isNameStart (c : Char) : Bool := c.isAlpha || c = '_'

/-- Whether `c` may continue a variable name. -/
def isNameChar (c : Char) : Bool := c.isAlphanum || c = '_'

/-- A reference to a variable. -/
structure Reference where
  /-- The variable's name. -/
  name : List Char
  /-- What stands for an unset variable. -/
  fallback : List Char
deriving DecidableEq, Repr

/-- The name in front, and what follows it. -/
def name? : List Char → Option (List Char × List Char)
  | [] => none
  | c :: rest =>
    if isNameStart c then some (c :: rest.takeWhile isNameChar, rest.dropWhile isNameChar) else none

/-- The reference that follows a `$`, and what follows the reference. -/
def reference? (cs : List Char) : Option (Reference × List Char) :=
  match cs with
  | '{' :: rest =>
    match name? rest with
    | some (name, '}' :: rest) => some (⟨name, []⟩, rest)
    | some (name, ':' :: '-' :: rest) =>
      match rest.dropWhile (· ≠ '}') with
      | _ :: after => some (⟨name, rest.takeWhile (· ≠ '}')⟩, after)
      | [] => none
    | _ => none
  | _ => (name? cs).map fun (name, rest) => (⟨name, []⟩, rest)

/-- The text that stands for a reference: the variable's value, or the fallback if the variable is
unset or empty. -/
def value (vars : Variables) (ref : Reference) : List Char :=
  match vars.get? (String.ofList ref.name) with
  | some v => if v.toList = [] then ref.fallback else v.toList
  | none => ref.fallback

/-- Replaces the references in a text; `fuel` bounds the number of characters read. -/
def substituteFrom (vars : Variables) : Nat → List Char → List Char
  | 0, cs => cs
  | _ + 1, [] => []
  | fuel + 1, c :: rest =>
    if c = '$' then
      match reference? rest with
      | some (ref, after) => value vars ref ++ substituteFrom vars fuel after
      | none => c :: substituteFrom vars fuel rest
    else c :: substituteFrom vars fuel rest

/-- Replaces every reference in a text, from left to right. -/
def substitute (vars : Variables) (cs : List Char) : List Char :=
  substituteFrom vars cs.length cs

/-- The text with its references replaced and backslashes turned into slashes. -/
def expand (vars : Variables) (input : String) : Except ExpansionError String :=
  let text := substitute vars input.toList
  if Text.contains "$\x7b" text then .error (.unterminated input)
  else if text = [] then .error (.empty input)
  else .ok (String.ofList (Path.slashChars text))

/-- The expansion of a text, or the text itself where it does not expand. -/
def expandOrSelf (vars : Variables) (input : String) : String :=
  match vars.expand input with
  | .ok text => text
  | .error _ => input

end Variables

end LintRelay
