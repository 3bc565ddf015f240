import LintRelay.Json.Printer
import LintRelay.Server.Form.Request
import LintRelay.Server.Handle

/-!
# Connections

The frame around a session: the editor introduces itself, talks to the server, asks it to stop, and
ends it. Requests are answered with a result or an error; notices are not answered. What comes at
the wrong time is refused, and does not change the session.
-/

namespace LintRelay.Server

/-- How far a connection is. -/
inductive Phase where
  /-- The editor has not introduced itself. -/
  | fresh
  /-- The editor may talk. -/
  | running
  /-- The editor has asked the server to stop. -/
  | stopped
  /-- The server has ended. -/
  | ended
deriving DecidableEq, Repr

/-- Why a request is refused. -/
inductive Refusal where
  /-- The editor has not introduced itself. -/
  | notInitialized
  /-- The request comes at the wrong time. -/
  | invalidRequest
  /-- There is no such method. -/
  | methodNotFound
  /-- There are no parameters. -/
  | missingParams
  /-- The parameters are wrong. -/
  | invalidParams (message : String)
deriving DecidableEq, Repr

namespace Refusal

/-- The code of a refusal. -/
def code : Refusal → Int
  | .notInitialized => -32002
  | .invalidRequest => -32600
  | .methodNotFound => -32601
  | .missingParams | .invalidParams _ => -32602

/-- The text of a refusal. -/
def message : Refusal → String
  | .notInitialized => "Server not initialized"
  | .invalidRequest => "Invalid request"
  | .methodNotFound => "Method not found"
  | .missingParams => "Missing params field"
  | .invalidParams message => message

end Refusal

/-- How the server answers. -/
inductive Answer where
  /-- Not at all. -/
  | silent
  /-- With a result. -/
  | result (value : Json)
  /-- With an error. -/
  | refused (why : Refusal)
  /-- The server has ended. -/
  | ended

/-- A connection. -/
structure Connection where
  /-- How far it is. -/
  phase : Phase
  /-- The session. -/
  session : Session

/-- The connection, the answer and what was done. -/
structure Turn where
  /-- The connection. -/
  connection : Connection
  /-- The answer. -/
  answer : Answer
  /-- The events, in order. -/
  events : List Event

/-- What the server says about itself. -/
def introductionResult : Json :=
  .object
    [("capabilities", .object
      [("executeCommandProvider", .object
        [("commands", .texts [Session.analyzeDocument, Session.analyzeWorkspace])]),
        ("textDocumentSync", .object
          [("change", .nat 1), ("openClose", .bool true),
            ("save", .object [("includeText", .bool true)])])]),
      ("serverInfo", .object
        [("name", .string "flylint-lsp"), ("version", .string "0.1.0")])]

/-- The method by which the editor takes a request back. -/
def cancelMethod : String := "$/cancelRequest"

/-- Whether the server knows a method as that of a notice. -/
def isNoticeMethod (method : String) : Bool :=
  (Form.notices.map Prod.fst).contains method || Form.idleNotices.contains method

namespace Connection

/-- The connection before anything is said. -/
def fresh : Connection := ⟨.fresh, .empty⟩

/-- Nothing happens but the answer. -/
def reply (c : Connection) (answer : Answer) : Turn := ⟨c, answer, []⟩

/-- Refuses a request for being out of time. -/
def outOfTurn (c : Connection) : Turn :=
  c.reply (.refused (match c.phase with
    | .fresh => .notInitialized
    | _ => .invalidRequest))

/-- The session goes on. -/
def proceed (c : Connection) (reaction : Reaction) (answer : Answer) : Turn :=
  ⟨{ c with session := reaction.session }, answer, reaction.events⟩

/-- The editor introduces itself. -/
def initial (w : World) (c : Connection) (params : Option Json) : Turn :=
  match c.phase, params with
  | .fresh, none => c.reply (.refused .missingParams)
  | .fresh, some params =>
    match Introduction.read params with
    | .error e => c.reply (.refused (.invalidParams e.message))
    | .ok i => ⟨⟨.running, c.session.introduce w i⟩, .result introductionResult, []⟩
  | _, _ => c.reply (.refused .invalidRequest)

/-- The editor asks the server to stop. -/
def stop (c : Connection) (params : Option Json) : Turn :=
  if c.phase = .running then
    { c with phase := .stopped }.reply (match params with
      | none => .result .null
      | some json => .refused (.invalidParams ("Unexpected params: " ++ json.compact)))
  else c.outOfTurn

/-- Reads the parameters of a request, and goes on with them. -/
def withParams (c : Connection) (form : Form) (params : Option Json) (go : Json → Turn) : Turn :=
  match params with
  | none => c.reply (.refused .missingParams)
  | some params =>
    match form false params with
    | .error e => c.reply (.refused (.invalidParams e.message))
    | .ok params => go params

/-- The editor asks for a command. -/
def command (w : World) (c : Connection) (params : Option Json) : Turn :=
  c.withParams Form.commandRequest params fun params =>
    match c.session.command w ((textAt? params "command").getD "") (itemsAt params "arguments") with
    | .ok reaction => c.proceed reaction (.result .null)
    | .error e => c.reply (.refused (.invalidParams e.message))

/-- The server ends. -/
def leave (c : Connection) : Turn := ⟨{ c with phase := .ended }, .silent, []⟩

/-- Answers a request that the server takes only while it is running. -/
def runningRequest (w : World) (c : Connection) (method : String) (params : Option Json) : Turn :=
  if method = "workspace/executeCommand" then c.command w params
  else
    match Form.otherRequests.lookup method with
    | some form => c.withParams form params fun _ => c.reply (.refused .methodNotFound)
    | none => c.reply (.refused .invalidRequest)

/-- Whether the server knows a method that it takes only while it is running. -/
def isRunningMethod (method : String) : Bool :=
  method = "workspace/executeCommand" || (Form.otherRequests.map Prod.fst).contains method
    || isNoticeMethod method

/-- Answers a request. The method of a notice makes no request. -/
def request (w : World) (c : Connection) (method : String) (params : Option Json) : Turn :=
  if c.phase = .ended then c.reply .ended
  else if method = "initialize" then c.initial w params
  else if method = "shutdown" then c.stop params
  else if method = "exit" then c.leave
  else if method = cancelMethod then c.reply (.refused .invalidRequest)
  else if isRunningMethod method then
    if c.phase = .running then c.runningRequest w method params else c.outOfTurn
  else if method.startsWith "$/" then c.reply .silent
  else c.reply (.refused .methodNotFound)

/-- Takes a notice. -/
def notify (w : World) (c : Connection) (method : String) (params : Option Json) : Turn :=
  match c.phase with
  | .ended => c.reply .ended
  | .running =>
    if method = "exit" then c.leave
    else if method = "shutdown" then { c with phase := .stopped }.reply .silent
    else
      match Notice.read? method params with
      | some notice => c.proceed (c.session.handle w notice) .silent
      | none => c.reply .silent
  | _ => if method = "exit" then c.leave else c.reply .silent

/-- Lets time pass. -/
def advance (w : World) (c : Connection) (milliseconds : Nat) : Turn :=
  if c.phase = .ended then c.reply .silent
  else c.proceed (c.session.advance w milliseconds) .silent

end Connection

end LintRelay.Server
