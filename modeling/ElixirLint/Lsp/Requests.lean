import ElixirLint.Lsp.Parts

/-!
# Parameters of requests that are not offered

The server knows the requests of the protocol that it does not offer, and refuses one only when its parameters have the
right form; otherwise it says what is wrong with them.

Main definition: `requests`, the table of the requests by their methods.
-/

namespace ElixirLint.Lsp

open ElixirLint.Json (Decoder RecordField)

/-! ### Kinds of parameters -/

/-- The parts with both tokens. -/
def tokenParts : List (Decoder Unit) := [workDonePart, partialResultPart]

/-- Checks parameters about a document, and those of some more fields. -/
def aboutDocument (name : String) (fields : List (RecordField Unit) := []) : Decoder Unit :=
  composed name (documentField :: fields) tokenParts

/-- Checks parameters about a position in a document, with the fields and parts that stand beside it. -/
def aboutPosition (name : String) (parts : List (Decoder Unit)) (fields : List (RecordField Unit) := []) :
    Decoder Unit :=
  composed name fields (documentPosition :: parts)

/-- Checks parameters that are a list of files. -/
def aboutFiles (name file : String) (fields : List String) : Decoder Unit :=
  checked name [must "files" (Decoder.list (checked file (fields.map fun field => must field Decoder.string)))]

/-! ### Values in parameters -/

/-- Checks that the members of an object that are not named have values of a simple kind. -/
def otherProperties (known : List String) : Decoder Unit := fun l v =>
  let property : Decoder Unit := .firstOf "FormattingProperty"
    [Decoder.boolean.skip, Decoder.int32.skip, Decoder.string.skip]
  match v with
  | .object ms => (ms.filter fun m => !m.1.any known.contains).forM fun m => property l m.2
  | _ => .ok ()

/-- Checks how a document shall be formatted. -/
def formattingOptions : Decoder Unit :=
  composed "FormattingOptions"
    [must "tabSize" Decoder.word32, must "insertSpaces" Decoder.boolean,
     may "trimTrailingWhitespace" Decoder.boolean, may "insertFinalNewline" Decoder.boolean,
     may "trimFinalNewlines" Decoder.boolean]
    [otherProperties ["tabSize", "insertSpaces", "trimTrailingWhitespace", "insertFinalNewline", "trimFinalNewlines"]]

/-- Checks why a completion is asked for. -/
def completionContext : Decoder Unit :=
  checked "CompletionContext" [must "triggerKind" Decoder.int32, may "triggerCharacter" Decoder.string]

/-- Checks an array of two numbers. -/
def span : Decoder Unit := fun l v =>
  match v with
  | .array [_, _] => (Decoder.list .word32).skip l v
  | v => Decoder.mismatch .sequence v

/-- Checks the name of a parameter, which may be a span of the signature. -/
def parameterLabel : Decoder Unit := .firstOf "ParameterLabel" [Decoder.string.skip, span]

/-- Checks a signature. -/
def signature : Decoder Unit :=
  checked "SignatureInformation"
    [must "label" Decoder.string, may "documentation" (textOrMarkup "Documentation"),
     may "parameters" (Decoder.list (checked "ParameterInformation"
       [must "label" parameterLabel, may "documentation" (textOrMarkup "Documentation")])),
     may "activeParameter" Decoder.word32]

/-- Checks why help on a signature is asked for. -/
def signatureHelpContext : Decoder Unit :=
  checked "SignatureHelpContext"
    [must "triggerKind" Decoder.int32, may "triggerCharacter" Decoder.string, must "isRetrigger" Decoder.boolean,
     may "activeSignatureHelp" (checked "SignatureHelp"
       [must "signatures" (Decoder.list signature), may "activeSignature" Decoder.word32,
        may "activeParameter" Decoder.word32])]

/-- Checks what actions are asked for. -/
def codeActionContext : Decoder Unit :=
  checked "CodeActionContext"
    [must "diagnostics" (Decoder.list diagnostic), may "only" (Decoder.list .string),
     may "triggerKind" Decoder.int32]

/-- Checks an action. -/
def codeAction : Decoder Unit :=
  checked "CodeAction"
    [must "title" Decoder.string, may "kind" Decoder.string, may "diagnostics" (Decoder.list diagnostic),
     may "edit" workspaceEdit, may "command" command, may "isPreferred" Decoder.boolean,
     may "disabled" (checked "CodeActionDisabled" [must "reason" Decoder.string]), may "data" Decoder.json]

/-- Checks an item of a completion. -/
def completionItem : Decoder Unit :=
  checked "CompletionItem"
    [must "label" Decoder.string,
     may "labelDetails" (checked "CompletionItemLabelDetails"
       [may "detail" Decoder.string, may "description" Decoder.string]),
     may "kind" Decoder.int32, may "detail" Decoder.string, may "documentation" (textOrMarkup "Documentation"),
     may "deprecated" Decoder.boolean, may "preselect" Decoder.boolean, may "sortText" Decoder.string,
     may "filterText" Decoder.string, may "insertText" Decoder.string, may "insertTextFormat" Decoder.int32,
     may "insertTextMode" Decoder.int32,
     may "textEdit" (Decoder.firstOf "CompletionTextEdit" [textEdit, insertReplaceEdit]),
     may "additionalTextEdits" (Decoder.list textEdit), may "command" command,
     may "commitCharacters" (Decoder.list .string), may "data" Decoder.json, may "tags" (Decoder.list .int32)]

/-- Checks a hint between the lines. -/
def inlayHint : Decoder Unit :=
  checked "InlayHint"
    [must "position" position,
     must "label" (Decoder.firstOf "InlayHintLabel"
       [Decoder.string.skip,
        (Decoder.list (checked "InlayHintLabelPart"
          [must "value" Decoder.string, may "tooltip" (textOrMarkup "InlayHintLabelPartTooltip"),
           may "location" location, may "command" command])).skip]),
     may "kind" Decoder.int32, may "textEdits" (Decoder.list textEdit),
     may "tooltip" (textOrMarkup "InlayHintTooltip"), may "paddingLeft" Decoder.boolean,
     may "paddingRight" Decoder.boolean, may "data" Decoder.json]

/-- Checks a symbol in a hierarchy; calls may have several tags, types have one. -/
def hierarchyItem (name : String) (tags : Decoder Unit) : Decoder Unit :=
  checked name
    [must "name" Decoder.string, must "kind" Decoder.int32, may "tags" tags, may "detail" Decoder.string,
     must "uri" uri, must "range" range, must "selectionRange" range, may "data" Decoder.json]

/-- Checks parameters about a symbol in the hierarchy of calls. -/
def aboutCall (name : String) : Decoder Unit :=
  composed name [must "item" (hierarchyItem "CallHierarchyItem" (Decoder.list .int32).skip)] tokenParts

/-- Checks parameters about a symbol in the hierarchy of types. -/
def aboutType (name : String) : Decoder Unit :=
  composed name [must "item" (hierarchyItem "TypeHierarchyItem" Decoder.int32.skip)] tokenParts

/-- Checks a symbol of the workspace. -/
def workspaceSymbol : Decoder Unit :=
  checked "WorkspaceSymbol"
    [must "name" Decoder.string, must "kind" Decoder.int32, may "tags" (Decoder.list .int32),
     may "containerName" Decoder.string,
     must "location" (Decoder.firstOf "OneOf" [location, checked "WorkspaceLocation" [must "uri" uri]]),
     may "data" Decoder.json]

/-! ### The requests -/

/-- Requests about a document or a place in it. -/
def documentRequests : List (String × Decoder Unit) :=
  [("textDocument/hover", aboutPosition "HoverParams" [workDonePart]),
   ("textDocument/definition", aboutPosition "GotoDefinitionParams" tokenParts),
   ("textDocument/declaration", aboutPosition "GotoDefinitionParams" tokenParts),
   ("textDocument/typeDefinition", aboutPosition "GotoDefinitionParams" tokenParts),
   ("textDocument/implementation", aboutPosition "GotoDefinitionParams" tokenParts),
   ("textDocument/documentHighlight", aboutPosition "DocumentHighlightParams" tokenParts),
   ("textDocument/completion",
     aboutPosition "CompletionParams" tokenParts [may "context" completionContext]),
   ("textDocument/signatureHelp",
     aboutPosition "SignatureHelpParams" [workDonePart] [may "context" signatureHelpContext]),
   ("textDocument/linkedEditingRange", aboutPosition "LinkedEditingRangeParams" [workDonePart]),
   ("textDocument/moniker", aboutPosition "MonikerParams" tokenParts),
   ("textDocument/prepareCallHierarchy", aboutPosition "CallHierarchyPrepareParams" [workDonePart]),
   ("textDocument/prepareTypeHierarchy", aboutPosition "TypeHierarchyPrepareParams" [workDonePart]),
   ("textDocument/references",
     aboutPosition "ReferenceParams" tokenParts
       [must "context" (checked "ReferenceContext" [must "includeDeclaration" Decoder.boolean])]),
   ("textDocument/rename", aboutPosition "RenameParams" [workDonePart] [must "newName" Decoder.string]),
   ("textDocument/prepareRename", documentPosition),
   ("textDocument/documentSymbol", aboutDocument "DocumentSymbolParams"),
   ("textDocument/codeLens", aboutDocument "CodeLensParams"),
   ("textDocument/foldingRange", aboutDocument "FoldingRangeParams"),
   ("textDocument/documentLink", aboutDocument "DocumentLinkParams"),
   ("textDocument/documentColor", aboutDocument "DocumentColorParams"),
   ("textDocument/diagnostic",
     aboutDocument "DocumentDiagnosticParams"
       [may "identifier" Decoder.string, may "previousResultId" Decoder.string]),
   ("textDocument/semanticTokens/full", aboutDocument "SemanticTokensParams"),
   ("textDocument/semanticTokens/full/delta",
     aboutDocument "SemanticTokensDeltaParams" [must "previousResultId" Decoder.string]),
   ("textDocument/semanticTokens/range", aboutDocument "SemanticTokensRangeParams" [must "range" range]),
   ("textDocument/inlayHint",
     composed "InlayHintParams" [documentField, must "range" range] [workDonePart]),
   ("textDocument/inlineValue",
     composed "InlineValueParams"
       [documentField, must "range" range,
        must "context" (checked "InlineValueContext"
          [must "frameId" Decoder.int32, must "stoppedLocation" range])] [workDonePart]),
   ("textDocument/selectionRange",
     aboutDocument "SelectionRangeParams" [must "positions" (Decoder.list position)]),
   ("textDocument/colorPresentation",
     aboutDocument "ColorPresentationParams"
       [must "color" (checked "Color" (["red", "green", "blue", "alpha"].map fun name => must name Decoder.decimal)),
        must "range" range]),
   ("textDocument/codeAction",
     aboutDocument "CodeActionParams" [must "range" range, must "context" codeActionContext])]

/-- Requests to change a document. -/
def formattingRequests : List (String × Decoder Unit) :=
  [("textDocument/formatting",
     composed "DocumentFormattingParams" [documentField, must "options" formattingOptions] [workDonePart]),
   ("textDocument/rangeFormatting",
     composed "DocumentRangeFormattingParams"
       [documentField, must "range" range, must "options" formattingOptions] [workDonePart]),
   ("textDocument/onTypeFormatting",
     aboutPosition "DocumentOnTypeFormattingParams" []
       [must "ch" Decoder.string, must "options" formattingOptions]),
   ("textDocument/willSaveWaitUntil",
     checked "WillSaveTextDocumentParams" [documentField, must "reason" Decoder.int32])]

/-- Requests about the workspace. -/
def workspaceRequests : List (String × Decoder Unit) :=
  [("workspace/symbol", composed "WorkspaceSymbolParams" [must "query" Decoder.string] tokenParts),
   ("workspace/executeCommand",
     composed "ExecuteCommandParams"
       [must "command" Decoder.string, .of "arguments" (Decoder.list .json) fun _ u => u] [workDonePart]),
   ("workspace/diagnostic",
     composed "WorkspaceDiagnosticParams"
       [may "identifier" Decoder.string,
        must "previousResultIds" (Decoder.list (checked "PreviousResultId"
          [must "uri" uri, must "value" Decoder.string]))] tokenParts),
   ("workspace/willCreateFiles", aboutFiles "CreateFilesParams" "FileCreate" ["uri"]),
   ("workspace/willRenameFiles", aboutFiles "RenameFilesParams" "FileRename" ["oldUri", "newUri"]),
   ("workspace/willDeleteFiles", aboutFiles "DeleteFilesParams" "FileDelete" ["uri"])]

/-- Requests about something that an earlier request has found. -/
def itemRequests : List (String × Decoder Unit) :=
  [("callHierarchy/incomingCalls", aboutCall "CallHierarchyIncomingCallsParams"),
   ("callHierarchy/outgoingCalls", aboutCall "CallHierarchyOutgoingCallsParams"),
   ("typeHierarchy/supertypes", aboutType "TypeHierarchySupertypesParams"),
   ("typeHierarchy/subtypes", aboutType "TypeHierarchySubtypesParams"),
   ("documentLink/resolve",
     checked "DocumentLink"
       [must "range" range, may "target" uri, may "tooltip" Decoder.string, may "data" Decoder.json]),
   ("codeLens/resolve",
     checked "CodeLens" [must "range" range, may "command" command, may "data" Decoder.json]),
   ("inlayHint/resolve", inlayHint),
   ("completionItem/resolve", completionItem),
   ("codeAction/resolve", codeAction),
   ("workspaceSymbol/resolve", workspaceSymbol)]

/-- The requests that are not offered, with the check of their parameters. -/
def requests : List (String × Decoder Unit) :=
  documentRequests ++ formattingRequests ++ workspaceRequests ++ itemRequests

end ElixirLint.Lsp
