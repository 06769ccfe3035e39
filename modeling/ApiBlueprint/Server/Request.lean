import ApiBlueprint.Json.Schema

/-! Parameters of the requests that editors may send and that this server does not offer. They are
looked at before the request is declined. -/
namespace ApiBlueprint.Request
open Json Schema

/-! Places. -/

def document : Key × Schema :=
  field "textDocument" (.record "TextDocumentIdentifier" [field "uri" uri])

def position : Schema :=
  .record "Position" [field "line" unsigned32, field "character" unsigned32]

def range : Schema := .record "Range" [field "start" position, field "end" position]

def location : Schema := .record "Location" [field "uri" uri, field "range" range]

def documentPosition : Schema :=
  .record "TextDocumentPositionParams" [document, field "position" position]

/-! Tokens under which progress and parts of a result are reported. -/

def token : Schema := .oneOf "NumberOrString" [signed32, string]

def progress : Schema := .record "WorkDoneProgressParams" [field? "workDoneToken" token]

def partialResult : Schema := .record "PartialResultParams" [field? "partialResultToken" token]

def atPosition (name : String) (fields : List (Key × Schema)) : Schema :=
  .merged name fields [documentPosition, progress]

def atPositionInParts (name : String) (fields : List (Key × Schema)) : Schema :=
  .merged name fields [documentPosition, progress, partialResult]

def whole (name : String) (fields : List (Key × Schema)) : Schema := .merged name fields [progress]

/-- Parameters for a result that may come in parts. -/
def inParts (name : String) (fields : List (Key × Schema)) : Schema :=
  .merged name fields [progress, partialResult]

/-! Edits and commands. -/

def textEdit : Schema := .record "TextEdit" [field "range" range, field "newText" string]

def notedEdit : Schema :=
  .merged "AnnotatedTextEdit" [field "annotationId" string] [textEdit]

def documentEdit : Schema :=
  .record "TextDocumentEdit"
    [field "textDocument" (.record "OptionalVersionedTextDocumentIdentifier"
        [field "uri" uri, field? "version" signed32]),
      field "edits" (.list (.oneOf "OneOf" [textEdit, notedEdit]))]

def fileOptions : Schema := .record "FileOptions" (flags ["overwrite", "ignoreIfExists"])

def createFile : Schema :=
  .record "CreateFile"
    [field "kind" (.tag "create" 0), field "uri" uri, field? "options" fileOptions,
      field? "annotationId" string]

def renameFile : Schema :=
  .record "RenameFile"
    [field "kind" (.tag "rename" 1), field "oldUri" uri, field "newUri" uri,
      field? "options" fileOptions, field? "annotationId" string]

def deleteFile : Schema :=
  .record "DeleteFile"
    [field "kind" (.tag "delete" 2), field "uri" uri,
      field? "options" (.record "DeleteFileOptions"
        [field? "recursive" bool, field? "ignoreIfNotExists" bool, field? "annotationId" string])]

def documentChanges : Schema :=
  .oneOf "DocumentChanges"
    [.list documentEdit,
      .list (.oneOf "DocumentChangeOperation" [createFile, renameFile, deleteFile, documentEdit])]

def changeNote : Schema :=
  .record "ChangeAnnotation"
    [field "label" string, field? "needsConfirmation" bool, field? "description" string]

def workspaceEdit : Schema :=
  .record "WorkspaceEdit"
    [fieldD "changes" (.optional (.uriTable (.list textEdit))),
      field? "documentChanges" documentChanges,
      field? "changeAnnotations" (.table changeNote)]

def command : Schema :=
  .record "Command"
    [field "title" string, field "command" string, field? "arguments" (.list .anything)]

/-! Texts shown to a reader. -/

def markupContent : Schema :=
  .record "MarkupContent"
    [field "kind" (.variant ["plaintext", "markdown"]), field "value" string]

def prose (name : String) : Schema := .oneOf name [string, markupContent]

/-! Diagnostics. -/

def related : Schema :=
  .record "DiagnosticRelatedInformation" [field "location" location, field "message" string]

def diagnostic : Schema :=
  .record "Diagnostic"
    [field "range" range,
      field? "severity" signed32,
      field? "code" token,
      field? "codeDescription" (.record "CodeDescription" [field "href" uri]),
      field? "source" string,
      field "message" string,
      field? "relatedInformation" (.list related),
      field? "tags" (.list signed32),
      field? "data" .anything]

def documentDiagnostic : Schema :=
  inParts "DocumentDiagnosticParams"
    [document, field? "identifier" string, field? "previousResultId" string]

def workspaceDiagnostic : Schema :=
  inParts "WorkspaceDiagnosticParams"
    [field? "identifier" string,
      field "previousResultIds"
        (.list (.record "PreviousResultId" [field "uri" uri, field "value" string]))]

/-! Moving through documents. -/

def goto : Schema := atPositionInParts "GotoDefinitionParams" []

def references : Schema :=
  atPositionInParts "ReferenceParams"
    [field "context" (.record "ReferenceContext" [field "includeDeclaration" bool])]

def callItem : Schema :=
  .record "CallHierarchyItem"
    [field "name" string, field "kind" signed32, field? "tags" (.list signed32),
      field? "detail" string, field "uri" uri, field "range" range,
      field "selectionRange" range, field? "data" .anything]

def typeItem : Schema :=
  .record "TypeHierarchyItem"
    [field "name" string, field "kind" signed32, field? "tags" signed32,
      field? "detail" string, field "uri" uri, field "range" range,
      field "selectionRange" range, field? "data" .anything]

def documentLink : Schema :=
  .record "DocumentLink"
    [field "range" range, field? "target" uri, field? "tooltip" string, field? "data" .anything]

def workspaceSymbols : Schema :=
  .merged "WorkspaceSymbolParams" [field "query" string] [partialResult, progress]

def workspaceSymbol : Schema :=
  .record "WorkspaceSymbol"
    [field "name" string, field "kind" signed32, field? "tags" (.list signed32),
      field? "containerName" string,
      field "location" (.oneOf "OneOf" [location, .record "WorkspaceLocation" [field "uri" uri]]),
      field? "data" .anything]

/-! Reading documents. -/

def selectionRange : Schema :=
  inParts "SelectionRangeParams" [document, field "positions" (.list position)]

def tokensDelta : Schema :=
  inParts "SemanticTokensDeltaParams" [document, field "previousResultId" string]

def inlineValue : Schema :=
  whole "InlineValueParams"
    [document, field "range" range,
      field "context"
        (.record "InlineValueContext" [field "frameId" signed32, field "stoppedLocation" range])]

def hintPart : Schema :=
  .record "InlayHintLabelPart"
    [field "value" string, field? "tooltip" (prose "InlayHintLabelPartTooltip"),
      field? "location" location, field? "command" command]

def inlayHint : Schema :=
  .record "InlayHint"
    [field "position" position,
      field "label" (.oneOf "InlayHintLabel" [string, .list hintPart]),
      field? "kind" signed32,
      field? "textEdits" (.list textEdit),
      field? "tooltip" (prose "InlayHintTooltip"),
      field? "paddingLeft" bool,
      field? "paddingRight" bool,
      field? "data" .anything]

def codeLens : Schema :=
  .record "CodeLens" [field "range" range, field? "command" command, field? "data" .anything]

def colorPresentation : Schema :=
  inParts "ColorPresentationParams"
    [document,
      field "color" (.record "Color"
        [field "red" real32, field "green" real32, field "blue" real32, field "alpha" real32]),
      field "range" range]

/-! Writing documents. -/

def completion : Schema :=
  atPositionInParts "CompletionParams"
    [field? "context" (.record "CompletionContext"
      [field "triggerKind" signed32, field? "triggerCharacter" string])]

def completionItem : Schema :=
  .record "CompletionItem"
    [field "label" string,
      field? "labelDetails" (.record "CompletionItemLabelDetails"
        [field? "detail" string, field? "description" string]),
      field? "kind" signed32,
      field? "detail" string,
      field? "documentation" (prose "Documentation"),
      field? "deprecated" bool,
      field? "preselect" bool,
      field? "sortText" string,
      field? "filterText" string,
      field? "insertText" string,
      field? "insertTextFormat" signed32,
      field? "insertTextMode" signed32,
      field? "textEdit" (.oneOf "CompletionTextEdit"
        [textEdit, .record "InsertReplaceEdit"
          [field "newText" string, field "insert" range, field "replace" range]]),
      field? "additionalTextEdits" (.list textEdit),
      field? "command" command,
      field? "commitCharacters" (.list string),
      field? "data" .anything,
      field? "tags" (.list signed32)]

def parameterInformation : Schema :=
  .record "ParameterInformation"
    [field "label" (.oneOf "ParameterLabel" [string, .pair unsigned32]),
      field? "documentation" (prose "Documentation")]

def signatureInformation : Schema :=
  .record "SignatureInformation"
    [field "label" string, field? "documentation" (prose "Documentation"),
      field? "parameters" (.list parameterInformation), field? "activeParameter" unsigned32]

def activeSignature : Schema :=
  .record "SignatureHelp"
    [field "signatures" (.list signatureInformation), field? "activeSignature" unsigned32,
      field? "activeParameter" unsigned32]

def signatureHelp : Schema :=
  atPosition "SignatureHelpParams"
    [field? "context" (.record "SignatureHelpContext"
      [field "triggerKind" signed32, field? "triggerCharacter" string, field "isRetrigger" bool,
        field? "activeSignatureHelp" activeSignature])]

def codeActions : Schema :=
  inParts "CodeActionParams"
    [document, field "range" range,
      field "context" (.record "CodeActionContext"
        [field "diagnostics" (.list diagnostic), field? "only" (.list string),
          field? "triggerKind" signed32])]

def codeAction : Schema :=
  .record "CodeAction"
    [field "title" string,
      field? "kind" string,
      field? "diagnostics" (.list diagnostic),
      field? "edit" workspaceEdit,
      field? "command" command,
      field? "isPreferred" bool,
      field? "disabled" (.record "CodeActionDisabled" [field "reason" string]),
      field? "data" .anything]

/-- Options of a formatter. What is not named here must be a boolean, a number or a text. -/
def formatting : Key × Schema :=
  field "options" (.merged "FormattingOptions"
    ([field "tabSize" unsigned32, field "insertSpaces" bool] ++
      flags ["trimTrailingWhitespace", "insertFinalNewline", "trimFinalNewlines"])
    [.table (.oneOf "FormattingProperty" [bool, signed32, string])])

def formatOnTyping : Schema :=
  .merged "DocumentOnTypeFormattingParams" [field "ch" string, formatting] [documentPosition]

def executeCommand : Schema :=
  whole "ExecuteCommandParams" [field "command" string, fieldD "arguments" (.list .anything)]

def willSave : Schema :=
  .record "WillSaveTextDocumentParams" [document, field "reason" signed32]

def files (name file : String) (paths : List String) : Schema :=
  .record name
    [field "files" (.list (.record file (paths.map fun path => field path string)))]

def declined : List (String × Schema) :=
  [("textDocument/willSaveWaitUntil", willSave),
    ("textDocument/declaration", goto),
    ("textDocument/definition", goto),
    ("textDocument/typeDefinition", goto),
    ("textDocument/implementation", goto),
    ("textDocument/references", references),
    ("textDocument/prepareCallHierarchy", atPosition "CallHierarchyPrepareParams" []),
    ("callHierarchy/incomingCalls",
      inParts "CallHierarchyIncomingCallsParams" [field "item" callItem]),
    ("callHierarchy/outgoingCalls",
      inParts "CallHierarchyOutgoingCallsParams" [field "item" callItem]),
    ("textDocument/prepareTypeHierarchy", atPosition "TypeHierarchyPrepareParams" []),
    ("typeHierarchy/supertypes",
      inParts "TypeHierarchySupertypesParams" [field "item" typeItem]),
    ("typeHierarchy/subtypes", inParts "TypeHierarchySubtypesParams" [field "item" typeItem]),
    ("textDocument/documentHighlight", atPositionInParts "DocumentHighlightParams" []),
    ("textDocument/documentLink", inParts "DocumentLinkParams" [document]),
    ("documentLink/resolve", documentLink),
    ("textDocument/hover", atPosition "HoverParams" []),
    ("textDocument/codeLens", inParts "CodeLensParams" [document]),
    ("codeLens/resolve", codeLens),
    ("textDocument/foldingRange", inParts "FoldingRangeParams" [document]),
    ("textDocument/selectionRange", selectionRange),
    ("textDocument/semanticTokens/full", inParts "SemanticTokensParams" [document]),
    ("textDocument/semanticTokens/full/delta", tokensDelta),
    ("textDocument/semanticTokens/range",
      inParts "SemanticTokensRangeParams" [document, field "range" range]),
    ("textDocument/inlineValue", inlineValue),
    ("textDocument/inlayHint", whole "InlayHintParams" [document, field "range" range]),
    ("inlayHint/resolve", inlayHint),
    ("textDocument/moniker", atPositionInParts "MonikerParams" []),
    ("textDocument/completion", completion),
    ("completionItem/resolve", completionItem),
    ("textDocument/diagnostic", documentDiagnostic),
    ("workspace/diagnostic", workspaceDiagnostic),
    ("textDocument/signatureHelp", signatureHelp),
    ("textDocument/codeAction", codeActions),
    ("codeAction/resolve", codeAction),
    ("textDocument/documentColor", inParts "DocumentColorParams" [document]),
    ("textDocument/colorPresentation", colorPresentation),
    ("textDocument/formatting", whole "DocumentFormattingParams" [document, formatting]),
    ("textDocument/rangeFormatting",
      whole "DocumentRangeFormattingParams" [document, field "range" range, formatting]),
    ("textDocument/onTypeFormatting", formatOnTyping),
    ("textDocument/rename", atPosition "RenameParams" [field "newName" string]),
    ("textDocument/prepareRename", documentPosition),
    ("textDocument/linkedEditingRange", atPosition "LinkedEditingRangeParams" []),
    ("workspace/symbol", workspaceSymbols),
    ("workspaceSymbol/resolve", workspaceSymbol),
    ("workspace/willCreateFiles", files "CreateFilesParams" "FileCreate" ["uri"]),
    ("workspace/willRenameFiles", files "RenameFilesParams" "FileRename" ["oldUri", "newUri"]),
    ("workspace/willDeleteFiles", files "DeleteFilesParams" "FileDelete" ["uri"]),
    ("workspace/executeCommand", executeCommand)]

end ApiBlueprint.Request
