/-!
# The log

What the program tells about its own work, apart from its results. Operations do not write to a
log: beside an operation stands a function that gives the entries that belong to it.
-/

namespace LintRelay

/-- The levels of the log. -/
inductive LogLevel where
  | info
  | warn
  | error
deriving DecidableEq, Repr

/-- The name of a level. -/
def LogLevel.name : LogLevel → String
  | .info => "INFO"
  | .warn => "WARN"
  | .error => "ERROR"

/-- One entry of the log. -/
structure LogEntry where
  /-- How important the entry is. -/
  level : LogLevel
  /-- What it says. -/
  message : String
deriving DecidableEq, Repr

/-- Whether a terminal may take a character as a command. -/
def isTerminalCommand (c : Char) : Bool :=
  ['\x07', '\x08', '\x0c', '\x1b', '\x7f'].contains c || (0x80 ≤ c.toNat && c.toNat ≤ 0x9F)

/-- A character as it is written to the log: a command to the terminal is spelled out. -/
def logChar (c : Char) : List Char :=
  let digits := Nat.toDigits 16 c.toNat
  if !isTerminalCommand c then [c]
  else if c.toNat < 0x80 then ['\\', 'x'] ++ List.replicate (2 - digits.length) '0' ++ digits
  else ['\\', 'u', '\x7b'] ++ digits ++ ['\x7d']

/-- What an entry says, as it is written to the log. -/
def LogEntry.text (entry : LogEntry) : String :=
  String.ofList (entry.message.toList.flatMap logChar)

end LintRelay
