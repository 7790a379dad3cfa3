/-
# Kickstart.Session.Features -- what an editor can do

An editor describes itself in the handshake.  Of that description five switches
matter here; each is off unless the editor says otherwise.  The description is a
nest of optional records, and a malformed one is refused as a whole.
-/
import Kickstart.Json.Record

namespace Kickstart

set_option autoImplicit false

/-- What the connected editor can do. -/
structure Features where
  /-- It opens several folders at once. -/
  workspaceFolders : Bool
  /-- It answers settings queries per document. -/
  configuration : Bool
  /-- It shows places related to a diagnostic. -/
  relatedInformation : Bool
  /-- It lets the server ask for configuration changes. -/
  configurationRegistration : Bool
  /-- It lets the server ask for changes of files. -/
  watchedFilesRegistration : Bool
  deriving Repr, DecidableEq

namespace Features

/-- An editor that can do nothing of this. -/
def none : Features := ⟨false, false, false, false, false⟩

/-- An optional boolean; `null` leaves the switch off. -/
def switch (name : String) (store : Features → Bool → Features) : Json.RecordField Features :=
  .of name .optional (Json.readOptional Json.readBool) fun f b => store f (b.getD false)

/-- An optional record that fills in part of the same description. -/
def part (name record : String) (fields : List (Json.RecordField Features)) :
    Json.RecordField Features :=
  ⟨name, .optional, fun j f =>
    match j with
    | .null => .ok f
    | j => Json.readRecord record fields f j⟩

/-- A field that does not matter here. -/
def unused (name : String) : Json.RecordField Features := ⟨name, .optional, fun _ f => .ok f⟩

/-- What the editor can do with workspaces. -/
def workspaceFields : List (Json.RecordField Features) :=
  [unused "applyEdit", unused "workspaceEdit",
   part "didChangeConfiguration" "DynamicRegistrationClientCapabilities"
     [switch "dynamicRegistration" fun f b => { f with configurationRegistration := b }],
   part "didChangeWatchedFiles" "DidChangeWatchedFilesClientCapabilities"
     [switch "dynamicRegistration" fun f b => { f with watchedFilesRegistration := b },
      unused "relativePatternSupport"],
   unused "symbol", unused "executeCommand",
   switch "workspaceFolders" fun f b => { f with workspaceFolders := b },
   switch "configuration" fun f b => { f with configuration := b },
   unused "semanticTokens", unused "codeLens", unused "fileOperations", unused "inlineValue",
   unused "inlayHint", unused "diagnostic"]

/-- What the editor can do with published diagnostics. -/
def publishFields : List (Json.RecordField Features) :=
  [switch "relatedInformation" fun f b => { f with relatedInformation := b },
   ⟨"tagSupport", .defaulted, fun _ f => .ok f⟩, unused "versionSupport",
   unused "codeDescriptionSupport", unused "dataSupport"]

/-- What the editor can do with documents. -/
def documentFields : List (Json.RecordField Features) :=
  ["synchronization", "completion", "hover", "signatureHelp", "references",
    "documentHighlight", "documentSymbol", "formatting", "rangeFormatting",
    "onTypeFormatting", "declaration", "definition", "typeDefinition", "implementation",
    "codeAction", "codeLens", "documentLink", "colorProvider", "rename"].map unused ++
  [part "publishDiagnostics" "PublishDiagnosticsClientCapabilities" publishFields] ++
  ["foldingRange", "selectionRange", "linkedEditingRange", "callHierarchy",
    "semanticTokens", "moniker", "typeHierarchy", "inlineValue", "inlayHint",
    "diagnostic"].map unused

/-- The editor's description of itself. -/
def read : Json → Except Mismatch Features :=
  Json.readRecord "ClientCapabilities"
    [part "workspace" "WorkspaceClientCapabilities" workspaceFields,
     part "textDocument" "TextDocumentClientCapabilities" documentFields,
     unused "window", unused "general", unused "experimental"]
    none

end Features

end Kickstart
