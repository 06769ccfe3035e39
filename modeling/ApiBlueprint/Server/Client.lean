import ApiBlueprint.Json.Schema

/-! What an editor says about itself in its first request. None of it changes an answer, but a
request that does not have this form is refused. -/
namespace ApiBlueprint.Client
open Json Schema

/-! Forms that recur. -/

def registration (name : String) : Schema := .record name (flags ["dynamicRegistration"])

def dynamic : Schema := registration "DynamicRegistrationClientCapabilities"

def refresh (name : String) : Schema := .record name (flags ["refreshSupport"])

def resolving (name : String) : Schema := .record name [field "properties" (.list string)]

def tags : Schema := .flagOr (.record "TagSupport" [field "valueSet" (.list signed32)])

def symbolKinds : Schema := .record "SymbolKindCapability" [field? "valueSet" (.list signed32)]

def markup : Schema := .variant ["plaintext", "markdown"]

/-! The workspace. -/

def changeNotes : Schema :=
  .record "ChangeAnnotationWorkspaceEditClientCapabilities" (flags ["groupsOnLabel"])

def workspaceEdit : Schema :=
  .record "WorkspaceEditClientCapabilities"
    [field? "documentChanges" bool,
      field? "resourceOperations" (.list (.variant ["create", "rename", "delete"])),
      field? "failureHandling"
        (.variant ["abort", "transactional", "textOnlyTransactional", "undo"]),
      field? "normalizesLineEndings" bool,
      field? "changeAnnotationSupport" changeNotes]

def workspaceSymbol : Schema :=
  .record "WorkspaceSymbolClientCapabilities"
    [field? "dynamicRegistration" bool,
      field? "symbolKind" symbolKinds,
      fieldD "tagSupport" tags,
      field? "resolveSupport" (resolving "WorkspaceSymbolResolveSupportCapability")]

def watchedFiles : Schema :=
  .record "DidChangeWatchedFilesClientCapabilities"
    (flags ["dynamicRegistration", "relativePatternSupport"])

def fileOperations : Schema :=
  .record "WorkspaceFileOperationsClientCapabilities"
    (flags ["dynamicRegistration", "didCreate", "willCreate", "didRename", "willRename",
      "didDelete", "willDelete"])

def workspace : Schema :=
  .record "WorkspaceClientCapabilities"
    [field? "applyEdit" bool,
      field? "workspaceEdit" workspaceEdit,
      field? "didChangeConfiguration" dynamic,
      field? "didChangeWatchedFiles" watchedFiles,
      field? "symbol" workspaceSymbol,
      field? "executeCommand" dynamic,
      field? "workspaceFolders" bool,
      field? "configuration" bool,
      field? "semanticTokens" (refresh "SemanticTokensWorkspaceClientCapabilities"),
      field? "codeLens" (refresh "CodeLensWorkspaceClientCapabilities"),
      field? "fileOperations" fileOperations,
      field? "inlineValue" (refresh "InlineValueWorkspaceClientCapabilities"),
      field? "inlayHint" (refresh "InlayHintWorkspaceClientCapabilities"),
      field? "diagnostic" (refresh "DiagnosticWorkspaceClientCapabilities")]

/-! Documents. -/

def synchronization : Schema :=
  .record "TextDocumentSyncClientCapabilities"
    (flags ["dynamicRegistration", "willSave", "willSaveWaitUntil", "didSave"])

def insertModes : Schema :=
  .record "InsertTextModeSupport" [field "valueSet" (.list signed32)]

def completionItem : Schema :=
  .record "CompletionItemCapability"
    [field? "snippetSupport" bool,
      field? "commitCharactersSupport" bool,
      field? "documentationFormat" (.list markup),
      field? "deprecatedSupport" bool,
      field? "preselectSupport" bool,
      fieldD "tagSupport" tags,
      field? "insertReplaceSupport" bool,
      field? "resolveSupport" (resolving "CompletionItemCapabilityResolveSupport"),
      field? "insertTextModeSupport" insertModes,
      field? "labelDetailsSupport" bool]

def completionItemKind : Schema :=
  .record "CompletionItemKindCapability" [field? "valueSet" (.list signed32)]

def completionList : Schema :=
  .record "CompletionListCapability" [field? "itemDefaults" (.list string)]

def completion : Schema :=
  .record "CompletionClientCapabilities"
    [field? "dynamicRegistration" bool,
      field? "completionItem" completionItem,
      field? "completionItemKind" completionItemKind,
      field? "contextSupport" bool,
      field? "insertTextMode" signed32,
      field? "completionList" completionList]

def hover : Schema :=
  .record "HoverClientCapabilities"
    [field? "dynamicRegistration" bool, field? "contentFormat" (.list markup)]

def parameterInformation : Schema :=
  .record "ParameterInformationSettings" (flags ["labelOffsetSupport"])

def signatureInformation : Schema :=
  .record "SignatureInformationSettings"
    [field? "documentationFormat" (.list markup),
      field? "parameterInformation" parameterInformation,
      field? "activeParameterSupport" bool]

def signatureHelp : Schema :=
  .record "SignatureHelpClientCapabilities"
    [field? "dynamicRegistration" bool,
      field? "signatureInformation" signatureInformation,
      field? "contextSupport" bool]

def documentSymbol : Schema :=
  .record "DocumentSymbolClientCapabilities"
    [field? "dynamicRegistration" bool,
      field? "symbolKind" symbolKinds,
      field? "hierarchicalDocumentSymbolSupport" bool,
      fieldD "tagSupport" tags]

def goto : Schema := .record "GotoCapability" (flags ["dynamicRegistration", "linkSupport"])

def actionKinds : Schema :=
  .record "CodeActionKindLiteralSupport" [field "valueSet" (.list string)]

def actionLiterals : Schema :=
  .record "CodeActionLiteralSupport" [field "codeActionKind" actionKinds]

def codeAction : Schema :=
  .record "CodeActionClientCapabilities"
    [field? "dynamicRegistration" bool,
      field? "codeActionLiteralSupport" actionLiterals,
      field? "isPreferredSupport" bool,
      field? "disabledSupport" bool,
      field? "dataSupport" bool,
      field? "resolveSupport" (resolving "CodeActionCapabilityResolveSupport"),
      field? "honorsChangeAnnotations" bool]

def documentLink : Schema :=
  .record "DocumentLinkClientCapabilities" (flags ["dynamicRegistration", "tooltipSupport"])

def rename : Schema :=
  .record "RenameClientCapabilities"
    [field? "dynamicRegistration" bool,
      field? "prepareSupport" bool,
      field? "prepareSupportDefaultBehavior" signed32,
      field? "honorsChangeAnnotations" bool]

def publishDiagnostics : Schema :=
  .record "PublishDiagnosticsClientCapabilities"
    [field? "relatedInformation" bool,
      fieldD "tagSupport" tags,
      field? "versionSupport" bool,
      field? "codeDescriptionSupport" bool,
      field? "dataSupport" bool]

def foldingKinds : Schema :=
  .record "FoldingRangeKindCapability"
    [field? "valueSet" (.list (.variant ["comment", "imports", "region"]))]

def foldingRange : Schema :=
  .record "FoldingRangeClientCapabilities"
    [field? "dynamicRegistration" bool,
      field? "rangeLimit" unsigned32,
      field? "lineFoldingOnly" bool,
      field? "foldingRangeKind" foldingKinds,
      field? "foldingRange" (.record "FoldingRangeCapability" (flags ["collapsedText"]))]

def tokenRequests : Schema :=
  .record "SemanticTokensClientCapabilitiesRequests"
    [field? "range" bool,
      field? "full"
        (.oneOf "SemanticTokensFullOptions" [bool, .merged "Delta" (flags ["delta"]) []])]

def semanticTokens : Schema :=
  .record "SemanticTokensClientCapabilities"
    ([field? "dynamicRegistration" bool,
      field "requests" tokenRequests,
      field "tokenTypes" (.list string),
      field "tokenModifiers" (.list string),
      field "formats" (.list string)] ++
      flags ["overlappingTokenSupport", "multilineTokenSupport", "serverCancelSupport",
        "augmentsSyntaxTokens"])

def inlayHint : Schema :=
  .record "InlayHintClientCapabilities"
    [field? "dynamicRegistration" bool,
      field? "resolveSupport" (resolving "InlayHintResolveClientCapabilities")]

def diagnostic : Schema :=
  .record "DiagnosticClientCapabilities"
    (flags ["dynamicRegistration", "relatedDocumentSupport"])

def textDocument : Schema :=
  .record "TextDocumentClientCapabilities"
    [field? "synchronization" synchronization,
      field? "completion" completion,
      field? "hover" hover,
      field? "signatureHelp" signatureHelp,
      field? "references" dynamic,
      field? "documentHighlight" dynamic,
      field? "documentSymbol" documentSymbol,
      field? "formatting" dynamic,
      field? "rangeFormatting" dynamic,
      field? "onTypeFormatting" dynamic,
      field? "declaration" goto,
      field? "definition" goto,
      field? "typeDefinition" goto,
      field? "implementation" goto,
      field? "codeAction" codeAction,
      field? "codeLens" dynamic,
      field? "documentLink" documentLink,
      field? "colorProvider" dynamic,
      field? "rename" rename,
      field? "publishDiagnostics" publishDiagnostics,
      field? "foldingRange" foldingRange,
      field? "selectionRange" (registration "SelectionRangeClientCapabilities"),
      field? "linkedEditingRange" dynamic,
      field? "callHierarchy" dynamic,
      field? "semanticTokens" semanticTokens,
      field? "moniker" dynamic,
      field? "typeHierarchy" dynamic,
      field? "inlineValue" dynamic,
      field? "inlayHint" inlayHint,
      field? "diagnostic" diagnostic]

/-! The window, and what concerns all. -/

def messageActions : Schema :=
  .record "MessageActionItemCapabilities" (flags ["additionalPropertiesSupport"])

def window : Schema :=
  .record "WindowClientCapabilities"
    [field? "workDoneProgress" bool,
      field? "showMessage" (.record "ShowMessageRequestClientCapabilities"
        [field? "messageActionItem" messageActions]),
      field? "showDocument" (.record "ShowDocumentClientCapabilities" [field "support" bool])]

def regularExpressions : Schema :=
  .record "RegularExpressionsClientCapabilities"
    [field "engine" string, field? "version" string]

def markdown : Schema :=
  .record "MarkdownClientCapabilities"
    [field "parser" string, field? "version" string, field? "allowedTags" (.list string)]

def staleRequests : Schema :=
  .record "StaleRequestSupportClientCapabilities"
    [field "cancel" bool, field "retryOnContentModified" (.list string)]

def general : Schema :=
  .record "GeneralClientCapabilities"
    [field? "regularExpressions" regularExpressions,
      field? "markdown" markdown,
      field? "staleRequestSupport" staleRequests,
      field? "positionEncodings" (.list string)]

def capabilities : Schema :=
  .record "ClientCapabilities"
    [field? "workspace" workspace,
      field? "textDocument" textDocument,
      field? "window" window,
      field? "general" general,
      field? "experimental" .anything]

/-! The request. -/

def folder : Schema := .record "WorkspaceFolder" [field "uri" uri, field "name" string]

def info : Schema := .record "ClientInfo" [field "name" string, field? "version" string]

/-- The parameters of the first request. Settings may come along as the fourth of them. -/
def introduction : Schema :=
  .record "InitializeParams"
    [field? "processId" unsigned32,
      field? "rootPath" string,
      fieldD "rootUri" (.optional uri),
      field? "initializationOptions" .anything,
      field "capabilities" capabilities,
      fieldD "trace" (.optional (.variant ["off", "messages", "verbose"])),
      field? "workspaceFolders" (.list folder),
      field? "clientInfo" info,
      field? "locale" string]

/-- The settings sent along, of parameters that have the form; `null` stands for none. -/
def settings? (params : Value) : Option Value :=
  let sent : Option Value := match params with
    | .array items => items[3]?
    | params => params.get? "initializationOptions"
  match sent with
  | some .null => none
  | sent => sent

end ApiBlueprint.Client
