import Caddyfile.Editor.Method
import Caddyfile.Json.Writing

/-!
# Sessions with an editor

A session begins with the request to initialize, serves until the request to shut down, and ends
with the notification to exit. Requests have an identifier and get a response, notifications have
none and get nothing. `Session.receive` takes one message.
-/

namespace Caddyfile.Editor

/-! ## Messages -/

structure Message where
  method : String
  params? : Option Json
  id? : Option Json
deriving Repr

namespace Message

def isRequest (m : Message) : Bool :=
  m.id?.isSome

end Message

inductive Rejection where
  | notLaunched
  | invalidRequest
  /-- A method that is not offered. One that no editor knows is named in the response. -/
  | methodNotFound (name? : Option String)
  | invalidParams (reason : String)
  | unreadable
deriving DecidableEq, Repr

namespace Rejection

def code : Rejection → Int
  | notLaunched => -32002
  | invalidRequest => -32600
  | methodNotFound _ => -32601
  | invalidParams _ => -32602
  | unreadable => -32700

def message : Rejection → String
  | notLaunched => "Server not initialized"
  | invalidRequest => "Invalid request"
  | methodNotFound _ => "Method not found"
  | invalidParams reason => reason
  | unreadable => "Parse error"

def toJson (r : Rejection) : Json :=
  let data := match r with
    | methodNotFound (some name) => [("data", Json.string name)]
    | _ => []
  .object ([("code", .whole r.code), ("message", .string r.message)] ++ data)

end Rejection

structure Notification where
  method : String
  params : Json
deriving Repr

/-! ## What is sent -/

def positionJson (p : Position) : Json :=
  .object [("character", .whole p.column), ("line", .whole p.line)]

def spanJson (s : Span) : Json :=
  .object [("end", positionJson s.stop), ("start", positionJson s.start)]

def Notice.toJson (n : Notice) : Json :=
  let severity := match n.severity with
    | .error => 1
    | .warning => 2
  .object [("message", .string n.message), ("range", spanJson n.span),
    ("severity", .whole severity), ("source", .string "caddy-ls")]

def Publication.toNotification (p : Publication) : Notification :=
  ⟨"textDocument/publishDiagnostics",
    .object ([("diagnostics", .array (p.notices.map Notice.toJson)), ("uri", .string p.uri)]
      ++ (p.version?.map fun v => ("version", Json.whole v)).toList)⟩

def Hover.toJson (h : Hover) : Json :=
  .object [("contents", .object [("kind", .string "markdown"), ("value", .string h.text)]),
    ("range", spanJson h.span)]

def Completion.toJson (c : Completion) : Json :=
  let kind := match c.kind with
    | .directive => 14
    | .subdirective => 10
    | .snippet => 9
  .object ((c.detail?.map fun d => ("detail", Json.string d)).toList
    ++ [("kind", .whole kind), ("label", .string c.label)])

def Answer.toJson : Answer → Json
  | hover found => found.elim .null Hover.toJson
  | completion items? => items?.elim .null fun items => .array (items.map Completion.toJson)

def capabilities : Json :=
  .object [
    ("capabilities", .object [
      ("completionProvider", .object [
        ("resolveProvider", .bool false), ("triggerCharacters", .array [.string " "])]),
      ("hoverProvider", .bool true),
      ("textDocumentSync", .object [
        ("change", .whole 1), ("openClose", .bool true),
        ("save", .object [("includeText", .bool true)])])]),
    ("serverInfo", .object [("name", .string "caddy-ls"), ("version", .string "0.1.0")])]

def greeting : Notification :=
  ⟨"window/logMessage", .object [
    ("message", .string "Caddyfile language server initialized"), ("type", .whole 3)]⟩

/-! ## Sessions -/

inductive Phase where
  | fresh
  | serving
  | stopped
  | exited
deriving DecidableEq, Repr

def Phase.refusal? : Phase → Option Rejection
  | fresh => some .notLaunched
  | serving => none
  | stopped | exited => some .invalidRequest

structure Session where
  phase : Phase
  store : Store
deriving Repr

structure Reply where
  session : Session
  notifications : List Notification
  response? : Option (Except Rejection Json)
deriving Repr

namespace Session

def start : Session :=
  ⟨.fresh, .empty⟩

def ignore (s : Session) : Reply :=
  ⟨s, [], none⟩

/-- Answers a request; a notification is never answered. -/
def respond (s : Session) (m : Message) (response : Except Rejection Json) : Reply :=
  ⟨s, [], if m.isRequest then some response else none⟩

def handle (s : Session) (e : Event) : Reply :=
  ⟨{ s with store := s.store.after e }, (s.store.publications e).map Publication.toNotification,
    (s.store.answer? e).map fun a => .ok a.toJson⟩

def params (m : Message) (shape : Shape) : Except Rejection Json :=
  match m.params? with
  | none => .error (.invalidParams "Missing params field")
  | some j =>
    match shape.read j with
    | .ok params => .ok params
    | .error mismatch => .error (.invalidParams mismatch.message)

def launch (s : Session) (m : Message) : Reply :=
  match params m Shape.launchParams with
  | .ok _ => { s with phase := .serving }.respond m (.ok capabilities)
  | .error rejection => s.respond m (.error rejection)

/-- Stops serving, whatever the message says besides. -/
def shutdown (s : Session) (m : Message) : Reply :=
  let stopped := { s with phase := .stopped }
  match m.params? with
  | none => stopped.respond m (.ok .null)
  | some j => stopped.respond m (.error (.invalidParams s!"Unexpected params: {j.write}"))

def serve (s : Session) (m : Message) : Method → Reply
  | .launch | .shutdown | .exit | .cancel => s.ignore
  | .launched =>
    match params m (Shape.record "InitializedParams" []) with
    | .ok _ => ⟨s, [greeting], none⟩
    | .error _ => s.ignore
  | .event _ shape read =>
    match params m shape with
    | .ok params => (read params).elim s.ignore s.handle
    | .error rejection => s.respond m (.error rejection)
  | .unsupported _ shape =>
    match params m shape with
    | .ok _ => s.respond m (.error (.methodNotFound none))
    | .error rejection => s.respond m (.error rejection)

/-- Takes a message whose method is known. A request for a notification's method is refused, and a
notification for a request's method is passed over; a session that does not serve refuses all other
requests first. -/
def dispatch (s : Session) (m : Message) (method : Method) : Reply :=
  match method with
  | .exit => ⟨{ s with phase := .exited }, [], none⟩
  | .cancel => s.respond m (.error .invalidRequest)
  | .launch =>
    if s.phase ≠ .fresh then s.respond m (.error .invalidRequest)
    else if m.isRequest then s.launch m
    else s.ignore
  | method =>
    match s.phase.refusal? with
    | some rejection => s.respond m (.error rejection)
    | none =>
      match method, m.isRequest with
      | .shutdown, _ => s.shutdown m
      | method, isRequest =>
        if method.asks = isRequest then s.serve m method
        else s.respond m (.error .invalidRequest)

/-- Takes a message. Whether a method is known at all comes before the phase of the session; an
unknown request whose name begins with a dollar sign and a slash is left without a response. -/
def receive (s : Session) (m : Message) : Reply :=
  if s.phase = .exited then s.ignore
  else
    match Method.ofName? m.method with
    | some method => s.dispatch m method
    | none =>
      if "$/".toList.isPrefixOf m.method.toList then s.ignore
      else s.respond m (.error (.methodNotFound (some m.method)))

end Session

end Caddyfile.Editor
