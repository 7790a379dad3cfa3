/-
# Kickstart.Server.Requests -- requests that are not served

The protocol has many requests that this server knows by name only.  Their parameters
are read all the same: a request with malformed ones is refused for that reason, and
only then because it is not served.  Nothing of what is read is kept, so a `Check` only
accepts or refuses.

`unserved` lists the requests.  Before it stand the records that their parameters are
made of, from the small to the large.
-/
import Kickstart.Server.Params

namespace Kickstart.Server

set_option autoImplicit false

open Json

/-- Accepts a value or refuses it. -/
abbrev Check := Json → Except Mismatch Unit

namespace Check

/-- Only whether the reader accepts matters. -/
def of {α : Type} (read : Json → Except Mismatch α) : Check := fun j => (read j).map fun _ => ()

/-- Any value. -/
def any : Check := fun _ => .ok ()

/-- A boolean. -/
def bool : Check := of readBool

/-- A string. -/
def string : Check := of readString

/-- An integer of 32 bits. -/
def int32 : Check := of readInt32

/-- A natural number of 32 bits. -/
def nat32 : Check := of readNat32

/-- A URI. -/
def uri : Check := of readUri

/-- Any number. -/
def number : Check
  | .integer _ => .ok ()
  | .decimal _ => .ok ()
  | j => .error (.wrongType j "f32")

/-- A list of values of one kind. -/
def list (item : Check) : Check := of (readList item)

/-- An object whose members are of one kind. -/
def map (item : Check) : Check
  | .object members => members.forM fun (_, j) => item j
  | j => .error (.wrongType j "a map")

/-- A list of exactly two values of one kind. -/
def pair (item : Check) : Check
  | .array [a, b] => do item a; item b
  | j => .error (.wrongType j "an array of length 2")

/-- One of several forms. -/
def forms (type : String) (checks : List Check) : Check := readForms type checks

/-- A record. -/
def record (name : String) (fields : List (RecordField Unit)) : Check := readRecord name fields ()

/-- A record with parts. -/
def composite (name : String) (own : List (RecordField Unit))
    (parts : List (List (RecordField Unit))) : Check :=
  readComposite name own parts ()

end Check

/-- A field that has to be there. -/
def needed (name : String) (check : Check) : RecordField Unit :=
  ⟨name, .required, fun j _ => check j⟩

/-- A field that may be left out or `null`. -/
def maybe (name : String) (check : Check) : RecordField Unit :=
  ⟨name, .optional, fun j _ => (readOptional check j).map fun _ => ()⟩

/-! ## Shared parts -/

/-- The document a request is about. -/
def documentField : RecordField Unit := needed "textDocument" (.of readIdentifier)

/-- The part that names a document and a position in it. -/
def placePart : List (RecordField Unit) := [documentField, needed "position" (.of readPosition)]

/-- The part that names a token for progress. -/
def progressPart : List (RecordField Unit) := [maybe "workDoneToken" (.of readToken)]

/-- The part that names a token for partial results. -/
def partialPart : List (RecordField Unit) := [maybe "partialResultToken" (.of readToken)]

/-- Both tokens. -/
def tokenParts : List (List (RecordField Unit)) := [progressPart, partialPart]

/-- A range of a document. -/
def rangeCheck : Check := .of readRange

/-! ## Small records -/

/-- Text with markup. -/
def markupCheck : Check :=
  .record "MarkupContent"
    [needed "kind" (.of (readWord ["plaintext", "markdown"])), needed "value" .string]

/-- Documentation. -/
def documentationCheck : Check := .forms "Documentation" [.string, markupCheck]

/-- A range of a document that has a URI. -/
def locationCheck : Check := .record "Location" [needed "uri" .uri, needed "range" rangeCheck]

/-- A command of the editor. -/
def commandCheck : Check :=
  .record "Command"
    [needed "title" .string, needed "command" .string, maybe "arguments" (.list .any)]

/-- A replacement in a document. -/
def textEditCheck : Check :=
  .record "TextEdit" [needed "range" rangeCheck, needed "newText" .string]

/-- A replacement with an annotation. -/
def annotatedEditCheck : Check :=
  .composite "AnnotatedTextEdit" [needed "annotationId" .string]
    [[needed "range" rangeCheck, needed "newText" .string]]

/-- A diagnostic. -/
def diagnosticCheck : Check :=
  .record "Diagnostic"
    [needed "range" rangeCheck, maybe "severity" .int32, maybe "code" (.of readToken),
     maybe "codeDescription" (.record "CodeDescription" [needed "href" .uri]),
     maybe "source" .string, needed "message" .string,
     maybe "relatedInformation" (.list (.record "DiagnosticRelatedInformation"
       [needed "location" locationCheck, needed "message" .string])),
     maybe "tags" (.list .int32), maybe "data" .any]

/-- How a document is to be laid out: two settings, and any others. -/
def formattingCheck : Check := fun j => do
  let known := ["tabSize", "insertSpaces", "trimTrailingWhitespace", "insertFinalNewline",
    "trimFinalNewlines"]
  Check.composite "FormattingOptions"
    [needed "tabSize" .nat32, needed "insertSpaces" .bool,
     maybe "trimTrailingWhitespace" .bool, maybe "insertFinalNewline" .bool,
     maybe "trimFinalNewlines" .bool] [] j
  let others := ((j.members?).getD []).filter fun (name, _) => !known.contains name
  others.forM fun (_, value) => Check.forms "FormattingProperty" [.bool, .int32, .string] value

/-! ## Edits of a workspace -/

/-- The edits of one document. -/
def documentEditCheck : Check :=
  .record "TextDocumentEdit"
    [needed "textDocument" (.record "OptionalVersionedTextDocumentIdentifier"
       [needed "uri" .uri, maybe "version" .int32]),
     needed "edits" (.list (.forms "OneOf" [textEditCheck, annotatedEditCheck]))]

/-- Switches of an operation on files. -/
def switches (name : String) (options : List String) : Check :=
  .record name (options.map fun option => maybe option .bool)

/-- A file made, renamed or deleted, as the member `kind` says. -/
def fileOperationCheck : Check := fun j =>
  let note := maybe "annotationId" .string
  match (j.get "kind").string? with
  | some "create" =>
    Check.record "CreateFile"
      [needed "uri" .uri,
       maybe "options" (switches "CreateFileOptions" ["overwrite", "ignoreIfExists"]), note] j
  | some "rename" =>
    Check.record "RenameFile"
      [needed "oldUri" .uri, needed "newUri" .uri,
       maybe "options" (switches "RenameFileOptions" ["overwrite", "ignoreIfExists"]), note] j
  | some "delete" =>
    Check.record "DeleteFile"
      [needed "uri" .uri,
       maybe "options" (.record "DeleteFileOptions"
         [maybe "recursive" .bool, maybe "ignoreIfNotExists" .bool, note])] j
  | _ => .error (.noForm "ResourceOp")

/-- An edit of a workspace. -/
def workspaceEditCheck : Check :=
  .record "WorkspaceEdit"
    [⟨"changes", .defaulted, fun j _ =>
       match j with
       | .null => .ok ()
       | .object members => members.forM fun (name, edits) => do
         let _ ← readUri (.string name)
         Check.list textEditCheck edits
       | j => .error (.wrongType j "map")⟩,
     maybe "documentChanges" (.forms "DocumentChanges"
       [.list documentEditCheck,
        .list (.forms "DocumentChangeOperation" [fileOperationCheck, documentEditCheck])]),
     maybe "changeAnnotations" (.map (.record "ChangeAnnotation"
       [needed "label" .string, maybe "needsConfirmation" .bool, maybe "description" .string]))]

/-! ## Things that are resolved -/

/-- An action on code. -/
def actionCheck : Check :=
  .record "CodeAction"
    [needed "title" .string, maybe "kind" .string, maybe "diagnostics" (.list diagnosticCheck),
     maybe "edit" workspaceEditCheck, maybe "command" commandCheck, maybe "isPreferred" .bool,
     maybe "disabled" (.record "CodeActionDisabled" [needed "reason" .string]),
     maybe "data" .any]

/-- A command shown in code. -/
def lensCheck : Check :=
  .record "CodeLens" [needed "range" rangeCheck, maybe "command" commandCheck, maybe "data" .any]

/-- A link in a document. -/
def linkCheck : Check :=
  .record "DocumentLink"
    [needed "range" rangeCheck, maybe "target" .uri, maybe "tooltip" .string, maybe "data" .any]

/-- An offer of completion. -/
def completionItemCheck : Check :=
  .record "CompletionItem"
    [needed "label" .string,
     maybe "labelDetails" (.record "CompletionItemLabelDetails"
       [maybe "detail" .string, maybe "description" .string]),
     maybe "kind" .int32, maybe "detail" .string, maybe "documentation" documentationCheck,
     maybe "deprecated" .bool, maybe "preselect" .bool, maybe "sortText" .string,
     maybe "filterText" .string, maybe "insertText" .string, maybe "insertTextFormat" .int32,
     maybe "insertTextMode" .int32,
     maybe "textEdit" (.forms "CompletionTextEdit"
       [textEditCheck, .record "InsertReplaceEdit"
         [needed "newText" .string, needed "insert" rangeCheck, needed "replace" rangeCheck]]),
     maybe "additionalTextEdits" (.list textEditCheck), maybe "command" commandCheck,
     maybe "commitCharacters" (.list .string), maybe "data" .any, maybe "tags" (.list .int32)]

/-- A hint between the characters of a line. -/
def hintCheck : Check :=
  .record "InlayHint"
    [needed "position" (.of readPosition),
     needed "label" (.forms "InlayHintLabel" [.string, .list (.record "InlayHintLabelPart"
       [needed "value" .string,
        maybe "tooltip" (.forms "InlayHintLabelPartTooltip" [.string, markupCheck]),
        maybe "location" locationCheck, maybe "command" commandCheck])]),
     maybe "kind" .int32, maybe "textEdits" (.list textEditCheck),
     maybe "tooltip" (.forms "InlayHintTooltip" [.string, markupCheck]),
     maybe "paddingLeft" .bool, maybe "paddingRight" .bool, maybe "data" .any]

/-- A symbol of a workspace. -/
def symbolCheck : Check :=
  .record "WorkspaceSymbol"
    [needed "name" .string, needed "kind" .int32, maybe "tags" (.list .int32),
     maybe "containerName" .string,
     needed "location" (.forms "OneOf"
       [locationCheck, .record "WorkspaceLocation" [needed "uri" .uri]]),
     maybe "data" .any]

/-- An item of a hierarchy, of calls or of types. -/
def hierarchyItemCheck (name : String) (tags : Check) : Check :=
  .record name
    [needed "name" .string, needed "kind" .int32, maybe "tags" tags, maybe "detail" .string,
     needed "uri" .uri, needed "range" rangeCheck, needed "selectionRange" rangeCheck,
     maybe "data" .any]

/-- An item of a hierarchy of calls. -/
def callItemCheck : Check := hierarchyItemCheck "CallHierarchyItem" (.list .int32)

/-- An item of a hierarchy of types. -/
def typeItemCheck : Check := hierarchyItemCheck "TypeHierarchyItem" .int32

/-- What a call looks like while it is typed. -/
def signatureCheck : Check :=
  .record "SignatureHelp"
    [needed "signatures" (.list (.record "SignatureInformation"
       [needed "label" .string, maybe "documentation" documentationCheck,
        maybe "parameters" (.list (.record "ParameterInformation"
          [needed "label" (.forms "ParameterLabel" [.string, .pair .nat32]),
           maybe "documentation" documentationCheck])),
        maybe "activeParameter" .nat32])),
     maybe "activeSignature" .nat32, maybe "activeParameter" .nat32]

/-! ## Requests -/

/-- Requests about a position. -/
def placeRequests : List (String × Check) :=
  let definition := Check.composite "GotoDefinitionParams" [] (placePart :: tokenParts)
  [("textDocument/declaration", definition),
   ("textDocument/definition", definition),
   ("textDocument/typeDefinition", definition),
   ("textDocument/implementation", definition),
   ("textDocument/hover", .composite "HoverParams" [] [placePart, progressPart]),
   ("textDocument/documentHighlight",
     .composite "DocumentHighlightParams" [] (placePart :: tokenParts)),
   ("textDocument/signatureHelp",
     .composite "SignatureHelpParams"
       [maybe "context" (.record "SignatureHelpContext"
         [needed "triggerKind" .int32, maybe "triggerCharacter" .string,
          needed "isRetrigger" .bool, maybe "activeSignatureHelp" signatureCheck])]
       [placePart, progressPart]),
   ("textDocument/prepareCallHierarchy",
     .composite "CallHierarchyPrepareParams" [] [placePart, progressPart]),
   ("textDocument/prepareTypeHierarchy",
     .composite "TypeHierarchyPrepareParams" [] [placePart, progressPart]),
   ("textDocument/moniker", .composite "MonikerParams" [] (placePart :: tokenParts)),
   ("textDocument/linkedEditingRange",
     .composite "LinkedEditingRangeParams" [] [placePart, progressPart]),
   ("textDocument/references",
     .composite "ReferenceParams"
       [needed "context" (.record "ReferenceContext" [needed "includeDeclaration" .bool])]
       (placePart :: tokenParts)),
   ("textDocument/rename",
     .composite "RenameParams" [needed "newName" .string] [placePart, progressPart]),
   ("textDocument/prepareRename", .record "TextDocumentPositionParams" placePart),
   ("textDocument/onTypeFormatting",
     .composite "DocumentOnTypeFormattingParams"
       [needed "ch" .string, needed "options" formattingCheck] [placePart])]

/-- Requests about a document as a whole. -/
def documentRequests : List (String × Check) :=
  let about (name : String) : Check := .composite name [documentField] tokenParts
  [("textDocument/documentSymbol", about "DocumentSymbolParams"),
   ("textDocument/documentLink", about "DocumentLinkParams"),
   ("textDocument/codeLens", about "CodeLensParams"),
   ("textDocument/foldingRange", about "FoldingRangeParams"),
   ("textDocument/documentColor", about "DocumentColorParams"),
   ("textDocument/semanticTokens/full", about "SemanticTokensParams"),
   ("textDocument/semanticTokens/full/delta",
     .composite "SemanticTokensDeltaParams" [documentField, needed "previousResultId" .string]
       tokenParts),
   ("textDocument/diagnostic",
     .composite "DocumentDiagnosticParams"
       [documentField, maybe "identifier" .string, maybe "previousResultId" .string] tokenParts),
   ("textDocument/formatting",
     .composite "DocumentFormattingParams" [documentField, needed "options" formattingCheck]
       [progressPart]),
   ("textDocument/willSaveWaitUntil",
     .record "WillSaveTextDocumentParams" [documentField, needed "reason" .int32]),
   ("textDocument/selectionRange",
     .composite "SelectionRangeParams"
       [documentField, needed "positions" (.list (.of readPosition))] tokenParts)]

/-- Requests about a range of a document. -/
def rangeRequests : List (String × Check) :=
  let range := needed "range" rangeCheck
  [("textDocument/rangeFormatting",
     .composite "DocumentRangeFormattingParams"
       [documentField, range, needed "options" formattingCheck] [progressPart]),
   ("textDocument/codeAction",
     .composite "CodeActionParams"
       [documentField, range,
        needed "context" (.record "CodeActionContext"
          [needed "diagnostics" (.list diagnosticCheck), maybe "only" (.list .string),
           maybe "triggerKind" .int32])] tokenParts),
   ("textDocument/colorPresentation",
     .composite "ColorPresentationParams"
       [documentField,
        needed "color" (.record "Color"
          (["red", "green", "blue", "alpha"].map fun part => needed part .number)),
        range] tokenParts),
   ("textDocument/semanticTokens/range",
     .composite "SemanticTokensRangeParams" [documentField, range] tokenParts),
   ("textDocument/inlineValue",
     .composite "InlineValueParams"
       [documentField, range,
        needed "context" (.record "InlineValueContext"
          [needed "frameId" .int32, needed "stoppedLocation" rangeCheck])] [progressPart]),
   ("textDocument/inlayHint",
     .composite "InlayHintParams" [documentField, range] [progressPart])]

/-- Requests about something that was handed out before. -/
def itemRequests : List (String × Check) :=
  let item (name : String) (check : Check) : Check :=
    .composite name [needed "item" check] tokenParts
  [("codeAction/resolve", actionCheck),
   ("codeLens/resolve", lensCheck),
   ("documentLink/resolve", linkCheck),
   ("completionItem/resolve", completionItemCheck),
   ("inlayHint/resolve", hintCheck),
   ("workspaceSymbol/resolve", symbolCheck),
   ("callHierarchy/incomingCalls", item "CallHierarchyIncomingCallsParams" callItemCheck),
   ("callHierarchy/outgoingCalls", item "CallHierarchyOutgoingCallsParams" callItemCheck),
   ("typeHierarchy/supertypes", item "TypeHierarchySupertypesParams" typeItemCheck),
   ("typeHierarchy/subtypes", item "TypeHierarchySubtypesParams" typeItemCheck)]

/-- Requests about a workspace. -/
def workspaceRequests : List (String × Check) :=
  let files (name item : String) (fields : List String) : Check :=
    .record name
      [needed "files" (.list (.record item (fields.map fun field => needed field .string)))]
  [("workspace/symbol", .composite "WorkspaceSymbolParams" [needed "query" .string] tokenParts),
   ("workspace/diagnostic",
     .composite "WorkspaceDiagnosticParams"
       [maybe "identifier" .string,
        needed "previousResultIds" (.list (.record "PreviousResultId"
          [needed "uri" .uri, needed "value" .string]))] tokenParts),
   ("workspace/executeCommand",
     .composite "ExecuteCommandParams"
       [needed "command" .string, ⟨"arguments", .defaulted, fun j _ => Check.list .any j⟩]
       [progressPart]),
   ("workspace/willCreateFiles", files "CreateFilesParams" "FileCreate" ["uri"]),
   ("workspace/willRenameFiles", files "RenameFilesParams" "FileRename" ["oldUri", "newUri"]),
   ("workspace/willDeleteFiles", files "DeleteFilesParams" "FileDelete" ["uri"])]

/-- The requests that are not served, with what their parameters have to be. -/
def unserved : List (String × Check) :=
  placeRequests ++ documentRequests ++ rangeRequests ++ itemRequests ++ workspaceRequests

end Kickstart.Server
