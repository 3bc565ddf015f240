/-!
# The program's own arguments

`lint FILES`, `init` and `lsp`, with the options of each and two options that may stand anywhere. An
option's value stands in the same argument (`--format=json`, `-fjson`) or in the next one. Flags of
one letter may be run together. After `--` everything is a file.
-/

namespace LintRelay.CommandLine

/-- How a report is printed. -/
inductive Format where
  | text
  | json
deriving DecidableEq, Repr

/-- What the program is to do. -/
inductive Command where
  /-- Analyze files. -/
  | lint (files : List String) (format : Format) (workspace : Option String)
  /-- Write a settings file. -/
  | init (force : Bool)
  /-- Serve an editor. -/
  | lsp
deriving DecidableEq, Repr

/-- What the arguments ask for. -/
inductive Request where
  /-- A command, with the settings file to use, if one is named. -/
  | run (command : Command) (config : Option String)
  /-- The version. -/
  | version
  /-- The help text. -/
  | help
deriving DecidableEq, Repr

/-- The options. -/
inductive Switch where
  | config
  | verbose
  | version
  | help
  | format
  | workspace
  | force
deriving DecidableEq, Repr

namespace Switch

/-- The name of an option. -/
def long : Switch → String
  | .config => "config"
  | .verbose => "verbose"
  | .version => "version"
  | .help => "help"
  | .format => "format"
  | .workspace => "workspace"
  | .force => "force"

/-- The letter of an option. -/
def short? : Switch → Option Char
  | .config => some 'c'
  | .verbose => some 'v'
  | .version => some 'V'
  | .help => some 'h'
  | .format => some 'f'
  | .workspace => some 'w'
  | .force => none

/-- Whether an option takes a value. -/
def takesValue : Switch → Bool
  | .config | .format | .workspace => true
  | .verbose | .version | .help | .force => false

end Switch

/-- The options in front of a command. -/
def frontSwitches : List Switch := [.config, .verbose, .version, .help]

/-- The options of `lint`, among them those that may stand anywhere. -/
def lintSwitches : List Switch := [.config, .verbose, .help, .format, .workspace]

/-- The options of `init`. -/
def initSwitches : List Switch := [.config, .verbose, .help, .force]

/-- The options of `lsp`. -/
def lspSwitches : List Switch := [.config, .verbose, .help]

/-- An argument that was read. -/
inductive Item where
  /-- A plain argument. -/
  | plain (text : String)
  /-- An option without value. -/
  | flag (switch : Switch)
  /-- An option with its value. -/
  | valued (switch : Switch) (value : String)
  /-- An option whose value has to follow. -/
  | pending (switch : Switch)
  /-- Something that is no option here. -/
  | unknown
deriving DecidableEq, Repr

/-- The options of a run of letters. A letter that takes a value takes the rest of the run, and an
unknown letter ends it. -/
def letters (switches : List Switch) : List Char → List Item
  | [] => []
  | c :: rest =>
    match switches.find? fun s => s.short? = some c with
    | none => [.unknown]
    | some s =>
      if s.takesValue then
        match rest with
        | [] => [.pending s]
        | '=' :: value => [.valued s (String.ofList value)]
        | value => [.valued s (String.ofList value)]
      else .flag s :: letters switches rest

/-- The items of one argument. -/
def itemsOf (switches : List Switch) (argument : String) : List Item :=
  match argument.toList with
  | '-' :: '-' :: body =>
    let name := String.ofList (body.takeWhile (· ≠ '='))
    match switches.find? (·.long = name), body.dropWhile (· ≠ '=') with
    | none, _ => [.unknown]
    | some s, [] => [if s.takesValue then .pending s else .flag s]
    | some s, _ :: value => [if s.takesValue then .valued s (String.ofList value) else .unknown]
  | '-' :: c :: body => letters switches (c :: body)
  | _ => [.plain argument]

/-- Whether an argument may be the value of the option before it. -/
def isValue (argument : String) : Bool :=
  match argument.toList with
  | ['-'] => true
  | '-' :: _ => false
  | _ => true

/-- What was read of a list of arguments. -/
structure Reading where
  /-- The options, each at most once, with their values. -/
  switches : List (Switch × String)
  /-- The plain arguments. -/
  plain : List String
deriving DecidableEq, Repr

/-- Why reading stops. -/
inductive Stop where
  /-- The arguments are wrong. -/
  | usage
  /-- The version is asked for. -/
  | version
  /-- The help text is asked for. -/
  | help
deriving DecidableEq, Repr

namespace Reading

/-- Nothing read. -/
def empty : Reading := ⟨[], []⟩

/-- Adds an option. No option may be given twice, and no value may be empty. -/
def addSwitch (r : Reading) (s : Switch) (value : String) : Except Stop Reading :=
  if s = .version then .error .version
  else if s = .help then .error .help
  else if (r.switches.any fun (t, _) => t = s) || (s.takesValue && value = "") then .error .usage
  else if s = .format && value ≠ "text" && value ≠ "json" then .error .usage
  else .ok { r with switches := r.switches ++ [(s, value)] }

/-- The value of an option, if it was given. -/
def value? (r : Reading) (s : Switch) : Option String :=
  (r.switches.find? fun (t, _) => t = s).map Prod.snd

/-- Adds the items of one argument, and tells which option waits for its value. -/
def addItems (r : Reading) : List Item → Except Stop (Reading × Option Switch)
  | [] => .ok (r, none)
  | .plain text :: rest => addItems { r with plain := r.plain ++ [text] } rest
  | .flag s :: rest => do (← r.addSwitch s "").addItems rest
  | .valued s value :: rest => do (← r.addSwitch s value).addItems rest
  | .pending s :: _ => .ok (r, some s)
  | .unknown :: _ => .error .usage

/-- Reads arguments, where `waiting` is an option whose value has to come first. If `front` is set,
the first plain argument ends the reading, and the rest is given back. -/
def read (switches : List Switch) (front : Bool) (r : Reading) (waiting : Option Switch) :
    List String → Except Stop (Reading × List String)
  | [] => if waiting.isSome then .error .usage else .ok (r, [])
  | argument :: rest =>
    match waiting with
    | some s =>
      if isValue argument then do
        read switches front (← r.addSwitch s argument) none rest
      else .error .usage
    | none =>
      if argument = "--" then
        if front then .error .usage
        else if rest.contains "" then .error .usage
        else .ok ({ r with plain := r.plain ++ rest }, [])
      else
        match front, itemsOf switches argument with
        | true, [.plain command] => .ok ({ r with plain := [command] }, rest)
        | _, items => do
          let (r, waiting) ← r.addItems items
          if items = [.plain ""] then .error .usage else read switches front r waiting rest

end Reading

/-- The command with its own arguments. -/
def readCommand (name : String) (arguments : List String) : Except Stop (Command × Reading) := do
  match name with
  | "lint" =>
    let (r, _) ← Reading.read lintSwitches false .empty none arguments
    if r.plain = [] then .error .usage
    else
      let format := if r.value? .format = some "json" then .json else .text
      return (.lint r.plain format (r.value? .workspace), r)
  | "init" =>
    let (r, _) ← Reading.read initSwitches false .empty none arguments
    if r.plain = [] then return (.init (r.value? .force).isSome, r) else .error .usage
  | "lsp" =>
    let (r, _) ← Reading.read lspSwitches false .empty none arguments
    if r.plain = [] then return (.lsp, r) else .error .usage
  | "help" => .error .help
  | _ => .error .usage

/-- What the arguments ask for; nothing if they are wrong. A settings file named after the command
counts before one named in front of it. -/
def Request.ofArguments? (arguments : List String) : Option Request :=
  let request : Except Stop Request := do
    let (front, rest) ← Reading.read frontSwitches true .empty none arguments
    match front.plain with
    | [name] =>
      let (command, own) ← readCommand name rest
      return .run command (own.value? .config <|> front.value? .config)
    | _ => .error .usage
  match request with
  | .ok request => some request
  | .error .usage => none
  | .error .version => some .version
  | .error .help => some .help

end LintRelay.CommandLine
