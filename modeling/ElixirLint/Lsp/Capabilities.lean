import ElixirLint.Lsp.Parts

/-!
# What the editor can do

When it opens a session, the editor says which parts of the protocol it knows. The server makes no use of it, but it
takes nothing that has another form: all that stands there is checked.
-/

namespace ElixirLint.Lsp

open ElixirLint.Json (Decoder RecordField)

/-! ### Parts -/

/-- Checks that methods may be registered later, and nothing else. -/
def dynamicRegistration : Decoder Unit := flags "DynamicRegistrationClientCapabilities" ["dynamicRegistration"]

/-- Checks that the server may ask for a refresh. -/
def refreshSupport (name : String) : Decoder Unit := flags name ["refreshSupport"]

/-- Checks which formats of texts are known. -/
def markupKinds : Decoder (List String) := .list (.word ["plaintext", "markdown"])

/-- Checks which kinds with a number are known. -/
def kindNumbers (name : String) : Decoder Unit := checked name [may "valueSet" (Decoder.list .int32)]

/-- Checks which properties may be filled in later. -/
def resolveSupport (name : String) : Decoder Unit := names name "properties"

/-- Checks which tags are known; a truth value tells no more than that there are some. -/
def tagSupport : Decoder Unit := fun l v =>
  match v with
  | .bool _ => .ok ()
  | v => checked "TagSupport" [must "valueSet" (Decoder.list .int32)] l v

/-- The field for the tags that are known. An array may end before it. -/
def tagField : RecordField Unit := { may "tagSupport" tagSupport with itemRequired := false }

/-- The field for registering methods later. -/
def registrationField : RecordField Unit := may "dynamicRegistration" Decoder.boolean

/-! ### The workspace -/

/-- Checks which changes of the workspace are possible. -/
def workspaceEditCapabilities : Decoder Unit :=
  checked "WorkspaceEditClientCapabilities"
    [may "documentChanges" Decoder.boolean,
     may "resourceOperations" (Decoder.list (.word ["create", "rename", "delete"])),
     may "failureHandling" (Decoder.word ["abort", "transactional", "textOnlyTransactional", "undo"]),
     may "normalizesLineEndings" Decoder.boolean,
     may "changeAnnotationSupport" (flags "ChangeAnnotationWorkspaceEditClientCapabilities" ["groupsOnLabel"])]

/-- Checks how symbols of the workspace are sought. -/
def workspaceSymbolCapabilities : Decoder Unit :=
  checked "WorkspaceSymbolClientCapabilities"
    [registrationField, may "symbolKind" (kindNumbers "SymbolKindCapability"), tagField,
     may "resolveSupport" (resolveSupport "WorkspaceSymbolResolveSupportCapability")]

/-- Checks which operations on files are told. -/
def fileOperationCapabilities : Decoder Unit :=
  flags "WorkspaceFileOperationsClientCapabilities"
    ["dynamicRegistration", "didCreate", "willCreate", "didRename", "willRename", "didDelete", "willDelete"]

/-- Checks what the editor can do in the workspace. -/
def workspaceCapabilities : Decoder Unit :=
  checked "WorkspaceClientCapabilities"
    [may "applyEdit" Decoder.boolean,
     may "workspaceEdit" workspaceEditCapabilities,
     may "didChangeConfiguration" dynamicRegistration,
     may "didChangeWatchedFiles" (flags "DidChangeWatchedFilesClientCapabilities"
       ["dynamicRegistration", "relativePatternSupport"]),
     may "symbol" workspaceSymbolCapabilities,
     may "executeCommand" dynamicRegistration,
     may "workspaceFolders" Decoder.boolean,
     may "configuration" Decoder.boolean,
     may "semanticTokens" (refreshSupport "SemanticTokensWorkspaceClientCapabilities"),
     may "codeLens" (refreshSupport "CodeLensWorkspaceClientCapabilities"),
     may "fileOperations" fileOperationCapabilities,
     may "inlineValue" (refreshSupport "InlineValueWorkspaceClientCapabilities"),
     may "inlayHint" (refreshSupport "InlayHintWorkspaceClientCapabilities"),
     may "diagnostic" (refreshSupport "DiagnosticWorkspaceClientCapabilities")]

/-! ### Documents -/

/-- Checks how items of a completion may look. -/
def completionItemCapabilities : Decoder Unit :=
  checked "CompletionItemCapability"
    [may "snippetSupport" Decoder.boolean, may "commitCharactersSupport" Decoder.boolean,
     may "documentationFormat" markupKinds, may "deprecatedSupport" Decoder.boolean,
     may "preselectSupport" Decoder.boolean, tagField, may "insertReplaceSupport" Decoder.boolean,
     may "resolveSupport" (resolveSupport "CompletionItemCapabilityResolveSupport"),
     may "insertTextModeSupport" (checked "InsertTextModeSupport" [must "valueSet" (Decoder.list .int32)]),
     may "labelDetailsSupport" Decoder.boolean]

/-- Checks which completions are possible. -/
def completionCapabilities : Decoder Unit :=
  checked "CompletionClientCapabilities"
    [registrationField, may "completionItem" completionItemCapabilities,
     may "completionItemKind" (kindNumbers "CompletionItemKindCapability"), may "contextSupport" Decoder.boolean,
     may "insertTextMode" Decoder.int32,
     may "completionList" (checked "CompletionListCapability" [may "itemDefaults" (Decoder.list .string)])]

/-- Checks how signatures are shown. -/
def signatureHelpCapabilities : Decoder Unit :=
  checked "SignatureHelpClientCapabilities"
    [registrationField,
     may "signatureInformation" (checked "SignatureInformationSettings"
       [may "documentationFormat" markupKinds,
        may "parameterInformation" (flags "ParameterInformationSettings" ["labelOffsetSupport"]),
        may "activeParameterSupport" Decoder.boolean]),
     may "contextSupport" Decoder.boolean]

/-- Checks how the symbols of a document are shown. -/
def documentSymbolCapabilities : Decoder Unit :=
  checked "DocumentSymbolClientCapabilities"
    [registrationField, may "symbolKind" (kindNumbers "SymbolKindCapability"),
     may "hierarchicalDocumentSymbolSupport" Decoder.boolean, tagField]

/-- Checks whether targets may be links. -/
def gotoCapabilities : Decoder Unit := flags "GotoCapability" ["dynamicRegistration", "linkSupport"]

/-- Checks which actions on code are possible. -/
def codeActionCapabilities : Decoder Unit :=
  checked "CodeActionClientCapabilities"
    [registrationField,
     may "codeActionLiteralSupport" (checked "CodeActionLiteralSupport"
       [must "codeActionKind" (names "CodeActionKindLiteralSupport" "valueSet")]),
     may "isPreferredSupport" Decoder.boolean, may "disabledSupport" Decoder.boolean,
     may "dataSupport" Decoder.boolean,
     may "resolveSupport" (resolveSupport "CodeActionCapabilityResolveSupport"),
     may "honorsChangeAnnotations" Decoder.boolean]

/-- Checks how symbols are renamed. -/
def renameCapabilities : Decoder Unit :=
  checked "RenameClientCapabilities"
    [registrationField, may "prepareSupport" Decoder.boolean, may "prepareSupportDefaultBehavior" Decoder.int32,
     may "honorsChangeAnnotations" Decoder.boolean]

/-- Checks how diagnostics are shown. -/
def publishDiagnosticsCapabilities : Decoder Unit :=
  checked "PublishDiagnosticsClientCapabilities"
    [may "relatedInformation" Decoder.boolean, tagField, may "versionSupport" Decoder.boolean,
     may "codeDescriptionSupport" Decoder.boolean, may "dataSupport" Decoder.boolean]

/-- Checks how code is folded. -/
def foldingRangeCapabilities : Decoder Unit :=
  checked "FoldingRangeClientCapabilities"
    [registrationField, may "rangeLimit" Decoder.word32, may "lineFoldingOnly" Decoder.boolean,
     may "foldingRangeKind" (checked "FoldingRangeKindCapability"
       [may "valueSet" (Decoder.list (.word ["comment", "imports", "region"]))]),
     may "foldingRange" (flags "FoldingRangeCapability" ["collapsedText"])]

/-- Checks which tokens are coloured. A request for all of them is a truth value or a record. -/
def semanticTokensCapabilities : Decoder Unit :=
  checked "SemanticTokensClientCapabilities"
    [registrationField,
     must "requests" (checked "SemanticTokensClientCapabilitiesRequests"
       [may "range" Decoder.boolean,
        may "full" (Decoder.firstOf "SemanticTokensFullOptions"
          [Decoder.boolean.skip, composed "SemanticTokensFullOptions" [may "delta" Decoder.boolean] []])]),
     must "tokenTypes" (Decoder.list .string), must "tokenModifiers" (Decoder.list .string),
     must "formats" (Decoder.list .string), may "overlappingTokenSupport" Decoder.boolean,
     may "multilineTokenSupport" Decoder.boolean, may "serverCancelSupport" Decoder.boolean,
     may "augmentsSyntaxTokens" Decoder.boolean]

/-- Checks how hints are shown between the lines. -/
def inlayHintCapabilities : Decoder Unit :=
  checked "InlayHintClientCapabilities"
    [registrationField, may "resolveSupport" (resolveSupport "InlayHintResolveClientCapabilities")]

/-- Checks what the editor can do with documents. -/
def documentCapabilities : Decoder Unit :=
  checked "TextDocumentClientCapabilities"
    [may "synchronization" (flags "TextDocumentSyncClientCapabilities"
       ["dynamicRegistration", "willSave", "willSaveWaitUntil", "didSave"]),
     may "completion" completionCapabilities,
     may "hover" (checked "HoverClientCapabilities" [registrationField, may "contentFormat" markupKinds]),
     may "signatureHelp" signatureHelpCapabilities,
     may "references" dynamicRegistration,
     may "documentHighlight" dynamicRegistration,
     may "documentSymbol" documentSymbolCapabilities,
     may "formatting" dynamicRegistration,
     may "rangeFormatting" dynamicRegistration,
     may "onTypeFormatting" dynamicRegistration,
     may "declaration" gotoCapabilities,
     may "definition" gotoCapabilities,
     may "typeDefinition" gotoCapabilities,
     may "implementation" gotoCapabilities,
     may "codeAction" codeActionCapabilities,
     may "codeLens" dynamicRegistration,
     may "documentLink" (flags "DocumentLinkClientCapabilities" ["dynamicRegistration", "tooltipSupport"]),
     may "colorProvider" dynamicRegistration,
     may "rename" renameCapabilities,
     may "publishDiagnostics" publishDiagnosticsCapabilities,
     may "foldingRange" foldingRangeCapabilities,
     may "selectionRange" (flags "SelectionRangeClientCapabilities" ["dynamicRegistration"]),
     may "linkedEditingRange" dynamicRegistration,
     may "callHierarchy" dynamicRegistration,
     may "semanticTokens" semanticTokensCapabilities,
     may "moniker" dynamicRegistration,
     may "typeHierarchy" dynamicRegistration,
     may "inlineValue" dynamicRegistration,
     may "inlayHint" inlayHintCapabilities,
     may "diagnostic" (flags "DiagnosticClientCapabilities" ["dynamicRegistration", "relatedDocumentSupport"])]

/-! ### The rest -/

/-- Checks what the editor can do with notebooks. -/
def notebookCapabilities : Decoder Unit :=
  checked "NotebookDocumentClientCapabilities"
    [must "synchronization" (flags "NotebookDocumentSyncClientCapabilities"
      ["dynamicRegistration", "executionSummaryReport"])]

/-- Checks what the editor can do with windows. -/
def windowCapabilities : Decoder Unit :=
  checked "WindowClientCapabilities"
    [may "workDoneProgress" Decoder.boolean,
     may "showMessage" (checked "ShowMessageRequestClientCapabilities"
       [may "messageActionItem" (flags "MessageActionItemCapabilities" ["additionalPropertiesSupport"])]),
     may "showDocument" (checked "ShowDocumentClientCapabilities" [must "support" Decoder.boolean])]

/-- Checks what the editor can do in general. -/
def generalCapabilities : Decoder Unit :=
  checked "GeneralClientCapabilities"
    [may "regularExpressions" (checked "RegularExpressionsClientCapabilities"
       [must "engine" Decoder.string, may "version" Decoder.string]),
     may "markdown" (checked "MarkdownClientCapabilities"
       [must "parser" Decoder.string, may "version" Decoder.string, may "allowedTags" (Decoder.list .string)]),
     may "staleRequestSupport" (checked "StaleRequestSupportClientCapabilities"
       [must "cancel" Decoder.boolean, must "retryOnContentModified" (Decoder.list .string)]),
     may "positionEncodings" (Decoder.list .string)]

/-- Checks what the editor can do. -/
def capabilities : Decoder Unit :=
  checked "ClientCapabilities"
    [may "workspace" workspaceCapabilities, may "textDocument" documentCapabilities,
     may "notebookDocument" notebookCapabilities, may "window" windowCapabilities,
     may "general" generalCapabilities, may "experimental" Decoder.json]

end ElixirLint.Lsp
