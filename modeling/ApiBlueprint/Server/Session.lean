import ApiBlueprint.Server.Client
import ApiBlueprint.Server.Method
import ApiBlueprint.Server.Wire

/-! A conversation with an editor: requests and notifications, the order they must come in, and
the answers. -/
namespace ApiBlueprint
open Json

/-- Documents are served between the first request and the request to shut down. -/
inductive Phase where
  | fresh
  | serving
  | shutDown
  | exited
  deriving DecidableEq, Repr

/-- Why a request is refused. -/
inductive Refusal where
  | notInitialized
  | invalidRequest
  | missingParams
  | badParams (e : Mismatch)
  | unexpectedParams (params : Value)
  | notOffered
  | unknownMethod (name : String)
  deriving Repr

namespace Refusal

def code : Refusal → Int32
  | notInitialized => -32002
  | invalidRequest => -32600
  | missingParams => -32602
  | badParams _ => -32602
  | unexpectedParams _ => -32602
  | notOffered => -32601
  | unknownMethod _ => -32601

def message : Refusal → String
  | notInitialized => "Server not initialized"
  | invalidRequest => "Invalid request"
  | missingParams => "Missing params field"
  | badParams e => e.message
  | unexpectedParams params => "Unexpected params: " ++ params.compact
  | notOffered => "Method not found"
  | unknownMethod _ => "Method not found"

def toValue (r : Refusal) : Value :=
  .sparse [("code", some (.ofInt32 r.code)), ("message", some (.string r.message)),
    ("data", match r with | unknownMethod name => some (.string name) | _ => none)]

end Refusal

/-- A message as it arrives. A request has an id and a notification has none. -/
structure Incoming where
  id : Option Value
  method : String
  params : Option Value
  deriving Repr

/-- The parts of a message. Whatever else it holds is not looked at. -/
def Incoming.ofValue (v : Value) : Incoming :=
  ⟨v.get? "id", ((v.get? "method").bind Value.string?).getD "", v.get? "params"⟩

/-- An answer to a request, under its id. -/
structure Response where
  id : Value
  result : Except Refusal Value

def Response.toValue (r : Response) : Value :=
  match r.result with
  | .ok value => .record [("id", r.id), ("result", value)]
  | .error refusal => .record [("id", r.id), ("error", refusal.toValue)]

/-- What one message leads to. -/
structure Reply where
  response : Option Response := none
  notices : List Notice := []

/-! Parameters. Members that are not named here are not looked at. -/

def single {α : Type} (record name : String) (read : Reader α) : Reader α
  | .object members => do required name (← field? members name read)
  | .array items => do
    let a ← item record 1 items 0 read
    noMoreThan 1 items
    return a
  | v => .error (.wrongType v (.record record))

def documentId : Reader String := single "TextDocumentIdentifier" "uri" Reader.uri

def documentItem : Reader (String × String × Int32)
  | .object members => do
    let language ← field? members "languageId" Reader.string
    let text ← field? members "text" Reader.string
    let uri ← field? members "uri" Reader.uri
    let version ← field? members "version" Reader.signed32
    let uri ← required "uri" uri
    let _ ← required "languageId" language
    let version ← required "version" version
    return (uri, ← required "text" text, version)
  | .array items => do
    let uri ← item "TextDocumentItem" 4 items 0 Reader.uri
    let _ ← item "TextDocumentItem" 4 items 1 Reader.string
    let version ← item "TextDocumentItem" 4 items 2 Reader.signed32
    let text ← item "TextDocumentItem" 4 items 3 Reader.string
    noMoreThan 4 items
    return (uri, text, version)
  | v => .error (.wrongType v (.record "TextDocumentItem"))

def versionedId : Reader (String × Int32)
  | .object members => do
    let uri ← field? members "uri" Reader.uri
    let version ← field? members "version" Reader.signed32
    return (← required "uri" uri, ← required "version" version)
  | .array items => do
    let uri ← item "VersionedTextDocumentIdentifier" 2 items 0 Reader.uri
    let version ← item "VersionedTextDocumentIdentifier" 2 items 1 Reader.signed32
    noMoreThan 2 items
    return (uri, version)
  | v => .error (.wrongType v (.record "VersionedTextDocumentIdentifier"))

/-- The new text of a change. Where it was made does not matter. -/
def contentChange : Reader String
  | .object members => do
    let _ ← field? members "range" (Reader.optional Source.Range.ofValue)
    let _ ← field? members "rangeLength" (Reader.optional Reader.unsigned32)
    required "text" (← field? members "text" Reader.string)
  | .array items => do
    let _ ← item "TextDocumentContentChangeEvent" 3 items 0 (Reader.optional Source.Range.ofValue)
    let _ ← item "TextDocumentContentChangeEvent" 3 items 1 (Reader.optional Reader.unsigned32)
    let text ← item "TextDocumentContentChangeEvent" 3 items 2 Reader.string
    noMoreThan 3 items
    return text
  | v => .error (.wrongType v (.record "TextDocumentContentChangeEvent"))

def openParams : Reader Event := fun v => do
  let (uri, text, version) ← single "DidOpenTextDocumentParams" "textDocument" documentItem v
  return .opened uri text version

def changeParams : Reader Event
  | .object members => do
    let texts ← field? members "contentChanges" (Reader.list contentChange)
    let document ← field? members "textDocument" versionedId
    let (uri, version) ← required "textDocument" document
    return .changed uri version (← required "contentChanges" texts)
  | .array items => do
    let (uri, version) ← item "DidChangeTextDocumentParams" 2 items 0 versionedId
    let texts ← item "DidChangeTextDocumentParams" 2 items 1 (Reader.list contentChange)
    noMoreThan 2 items
    return .changed uri version texts
  | v => .error (.wrongType v (.record "DidChangeTextDocumentParams"))

def closeParams : Reader Event := fun v => do
  return .closed (← single "DidCloseTextDocumentParams" "textDocument" documentId v)

def configureParams : Reader Event := fun v => do
  return .configured (← single "DidChangeConfigurationParams" "settings" .ok v)

/-- The URI of an outline request, which has no array form. -/
def outlineParams : Reader String
  | .object members => do
    let uri ← required "textDocument" (← field? members "textDocument" documentId)
    Schema.checkParts [Request.progress, Request.partialResult] (.object members)
    return uri
  | v => .error (.wrongType v (.record "DocumentSymbolParams"))

/-- The settings sent along with the first request. -/
def handshakeParams : Reader (Option Value) := fun v => do
  Client.introduction.read v
  return Client.settings? v

def readyParams : Reader Unit := (Schema.record "InitializedParams" []).read

structure Session where
  phase : Phase := .fresh
  server : Server := {}

namespace Session

/-- Parameters that must be there. -/
def readParams {α : Type} (read : Reader α) : Option Value → Except Refusal α
  | none => .error .missingParams
  | some v => (read v).mapError .badParams

/-- A notification about documents or settings. One that cannot be read is dropped. -/
def notify (programs : Programs) (s : Session) (read : Reader Event) (params : Option Value) :
    Session × Reply :=
  match readParams read params with
  | .error _ => (s, {})
  | .ok event =>
    let (server, notices) := s.server.handle programs event
    ({ s with server }, { notices })

/-- The first request. The phase changes only if it succeeds. -/
def introduce (s : Session) (id : Value) (params : Option Value) : Session × Reply :=
  match readParams handshakeParams params with
  | .error refusal => (s, { response := some ⟨id, .error refusal⟩ })
  | .ok options =>
    let (server, notices) := options.elim (s.server, []) s.server.configure
    (⟨.serving, server⟩, { response := some ⟨id, .ok Server.introduction⟩, notices })

/-- Why a method cannot be used now, if it cannot. -/
def refusal? (phase : Phase) : Method → Option Refusal
  | .exit | .cancel => none
  | .handshake => if phase = .fresh then none else some .invalidRequest
  | _ =>
    match phase with
    | .fresh => some .notInitialized
    | .serving => none
    | .shutDown | .exited => some .invalidRequest

/-- A known method in a phase that allows it. -/
def dispatch (programs : Programs) (s : Session) (method : Method) (message : Incoming) :
    Session × Reply :=
  let answer (id : Value) (result : Except Refusal Value) : Reply :=
    { response := some ⟨id, result⟩ }
  match method, message.id with
  | .exit, _ => ({ s with phase := .exited }, {})
  | .handshake, some id => s.introduce id message.params
  | .shutDown, some id =>
    ({ s with phase := .shutDown },
      answer id (match message.params with
        | none => .ok .null
        | some params => .error (.unexpectedParams params)))
  | .shutDown, none => ({ s with phase := .shutDown }, {})
  | .outline, some id =>
    (s, answer id ((readParams outlineParams message.params).map fun uri =>
      .array ((s.server.symbols uri).map (·.toWire uri))))
  | .declined params, some id =>
    (s, answer id (match readParams params.read message.params with
      | .ok _ => .error .notOffered
      | .error refusal => .error refusal))
  | .handshake, none | .outline, none | .declined _, none => (s, {})
  | _, some id => (s, answer id (.error .invalidRequest))
  | .ready, none =>
    match readParams readyParams message.params with
    | .ok _ => (s, { notices := [.log .info "API Blueprint LSP server initialized"] })
    | .error _ => (s, {})
  | .didOpen, none => s.notify programs openParams message.params
  | .didChange, none => s.notify programs changeParams message.params
  | .didClose, none => s.notify programs closeParams message.params
  | .didConfigure, none => s.notify programs configureParams message.params
  | .cancel, none | .ignored, none => (s, {})

/-- One message. Nothing is answered after the exit, and nothing but requests is refused. -/
def handle (programs : Programs) (s : Session) (message : Incoming) : Option (Session × Reply) :=
  let refuse (refusal : Refusal) : Session × Reply :=
    (s, { response := message.id.map fun id => ⟨id, .error refusal⟩ })
  if s.phase = .exited then none
  else some <|
    match Method.ofName? message.method with
    | none =>
      if message.method.startsWith "$/" then (s, {}) else refuse (.unknownMethod message.method)
    | some method =>
      match refusal? s.phase method with
      | some refusal => refuse refusal
      | none => s.dispatch programs method message

end Session
end ApiBlueprint
