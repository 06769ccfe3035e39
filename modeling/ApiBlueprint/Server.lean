import ApiBlueprint.Store

/-! The language server: settings, open documents, and what it tells the editor. A validation
pass has three steps, so that steps of different passes can be interleaved: capture a document,
read the settings, and store and publish the analysis if it is still current. -/
namespace ApiBlueprint
open Json

inductive LogLevel where
  | warning
  | info
  deriving DecidableEq, Repr

/-- What the server sends without being asked. -/
inductive Notice where
  | log (level : LogLevel) (text : String)
  | publish (uri : String) (diagnostics : List Diagnostic) (version : Option Int32)
  deriving DecidableEq, Repr

structure Server where
  settings : Settings := {}
  store : Store := {}

/-- What a pass takes along from the document it was started on. -/
structure Capture where
  text : String
  version : Option Int32
  generation : Nat
  deriving DecidableEq, Repr

def Store.capture? (s : Store) (uri : String) : Option Capture :=
  (s.find? uri).map fun d => ⟨d.document.content, d.document.version, d.generation⟩

/-- Messages of an editor about documents and settings. Of several changes the last one holds the
whole text. -/
inductive Event where
  | opened (uri text : String) (version : Int32)
  | changed (uri : String) (version : Int32) (texts : List String)
  | closed (uri : String)
  | configured (payload : Value)
  deriving Repr

namespace Server

/-- Settings that cannot be read are reported and the old ones kept. -/
def configure (s : Server) (payload : Value) : Server × List Notice :=
  match Settings.ofValue payload with
  | .ok settings => ({ s with settings }, [])
  | .error e => (s, [.log .warning ("Ignoring malformed settings: " ++ e.message)])

/-- The last step of a pass. Diagnostics are published exactly when the analysis is stored. -/
def finish (s : Server) (uri : String) (capture : Capture) (analysis : Analysis) :
    Server × List Notice :=
  let (stored, store) := s.store.storeAnalysis uri capture.generation analysis
  ({ s with store },
    if stored then [.publish uri analysis.diagnostics capture.version] else [])

def validate (programs : Programs) (s : Server) (uri : String) : Server × List Notice :=
  match s.store.capture? uri with
  | none => (s, [])
  | some capture => s.finish uri capture (analyzeWith programs s.settings capture.text)

def validateAll (programs : Programs) : Server → List String → Server × List Notice
  | s, [] => (s, [])
  | s, uri :: rest =>
    let (s, first) := s.validate programs uri
    let (s, later) := validateAll programs s rest
    (s, first ++ later)

def reconfigure (programs : Programs) (s : Server) (payload : Value) (order : List String) :
    Server × List Notice :=
  let (s, logs) := s.configure payload
  let (s, published) := validateAll programs { s with store := s.store.invalidateAll } order
  (s, logs ++ published)

def handle (programs : Programs) (s : Server) : Event → Server × List Notice
  | .opened uri text version =>
    { s with store := s.store.openText uri text version }.validate programs uri
  | .changed uri version texts =>
    match texts.getLast? with
    | none => (s, [])
    | some text =>
      let (known, store) := s.store.changeText uri text version
      if known then { s with store }.validate programs uri else ({ s with store }, [])
  | .closed uri => ({ s with store := s.store.close uri }, [.publish uri [] none])
  | .configured payload => s.reconfigure programs payload s.store.uris

/-- The outline of an open document, from its stored analysis. -/
def symbols (s : Server) (uri : String) : List Symbol :=
  (((s.store.find? uri).bind OpenDocument.analysis).map Analysis.symbols).getD []

end Server
end ApiBlueprint
