import ApiBlueprint.Server.Request

/-! The methods of the conversation, by name. -/
namespace ApiBlueprint

/-- The methods that are known. A declined one is a request for something that is not offered, and
an ignored one a notification that nothing follows from. -/
inductive Method where
  | handshake
  | ready
  | shutDown
  | exit
  | cancel
  | didOpen
  | didChange
  | didClose
  | didConfigure
  | outline
  | declined (params : Json.Schema)
  | ignored

namespace Method

def served : List (String × Method) :=
  [("initialize", handshake),
    ("initialized", ready),
    ("shutdown", shutDown),
    ("exit", exit),
    ("$/cancelRequest", cancel),
    ("textDocument/didOpen", didOpen),
    ("textDocument/didChange", didChange),
    ("textDocument/didClose", didClose),
    ("workspace/didChangeConfiguration", didConfigure),
    ("textDocument/documentSymbol", outline)]

def unheard : List String :=
  ["textDocument/willSave", "textDocument/didSave", "workspace/didChangeWorkspaceFolders",
    "workspace/didCreateFiles", "workspace/didRenameFiles", "workspace/didDeleteFiles",
    "workspace/didChangeWatchedFiles"]

def ofName? (name : String) : Option Method :=
  match served.lookup name with
  | some method => some method
  | none =>
    if unheard.contains name then some ignored else (Request.declined.lookup name).map declined

end Method
end ApiBlueprint
