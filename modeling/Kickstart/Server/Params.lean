/-
# Kickstart.Server.Params -- parameters of messages

How the parameters of the protocol's messages are read.  Names of records and fields
are those of the protocol, in the order in which it declares them: a record may also
be given as an array, and complaints name it.
-/
import Kickstart.Service.Handlers

namespace Kickstart.Server

set_option autoImplicit false

open Json

/-- A position. -/
def readPosition : Json → Except Mismatch Position :=
  readRecord "Position"
    [.of "line" .required readNat32 fun p n => { p with line := n },
     .of "character" .required readNat32 fun p n => { p with character := n }]
    default

/-- A range. -/
def readRange : Json → Except Mismatch Range :=
  readRecord "Range"
    [.of "start" .required readPosition fun r p => { r with start := p },
     .of "end" .required readPosition fun r p => { r with stop := p }]
    default

/-- One change to a buffer.  The length of the range is not needed. -/
def readEdit : Json → Except Mismatch Edit :=
  readRecord "TextDocumentContentChangeEvent"
    [.of "range" .optional (readOptional readRange) fun e r => { e with range := r },
     .of "rangeLength" .optional (readOptional readNat32) fun e _ => e,
     .of "text" .required readString fun e s => { e with text := s.toList }]
    default

/-- A batch of changes. -/
def readEdits : Json → Except Mismatch (List Edit) := readList readEdit

/-- The URI of a document. -/
def readIdentifier : Json → Except Mismatch Uri :=
  readRecord "TextDocumentIdentifier"
    [.of "uri" .required readUri fun _ u => u]
    default

/-- The URI and version of a document. -/
def readVersioned : Json → Except Mismatch (Uri × Int) :=
  readRecord "VersionedTextDocumentIdentifier"
    [.of "uri" .required readUri fun d u => (u, d.2),
     .of "version" .required readInt32 fun d n => (d.1, n)]
    default

/-- A whole document. -/
def readDocument : Json → Except Mismatch Document :=
  readRecord "TextDocumentItem"
    [.of "uri" .required readUri fun d u => { d with uri := u },
     .of "languageId" .required readString fun d _ => d,
     .of "version" .required readInt32 fun d n => { d with version := n },
     .of "text" .required readString fun d s => { d with text := s.toList }]
    default

/-- A document was opened. -/
def readOpened (j : Json) : Except Mismatch Notice :=
  Notice.opened <$> readRecord "DidOpenTextDocumentParams"
    [.of "textDocument" .required readDocument fun _ d => d]
    default j

/-- A document was changed. -/
def readChanged (j : Json) : Except Mismatch Notice :=
  (fun ((u, n), edits) => Notice.changed u n edits) <$> readRecord "DidChangeTextDocumentParams"
    [.of "textDocument" .required readVersioned fun p d => (d, p.2),
     .of "contentChanges" .required readEdits fun p edits => (p.1, edits)]
    default j

/-- A document was saved.  Its text, if sent along, is not needed. -/
def readSaved (j : Json) : Except Mismatch Notice :=
  Notice.saved <$> readRecord "DidSaveTextDocumentParams"
    [.of "textDocument" .required readIdentifier fun _ u => u,
     .of "text" .optional (readOptional readString) fun u _ => u]
    default j

/-- A document was closed. -/
def readClosed (j : Json) : Except Mismatch Notice :=
  Notice.closed <$> readRecord "DidCloseTextDocumentParams"
    [.of "textDocument" .required readIdentifier fun _ u => u]
    default j

/-- A change of a file on disk. -/
def readFileChange : Json → Except Mismatch FileChange :=
  readRecord "FileEvent"
    [.of "uri" .required readUri fun c u => { c with uri := u },
     .of "type" .required readInt32 fun c n => { c with kind := n }]
    default

/-- Files on disk were changed. -/
def readFilesChanged (j : Json) : Except Mismatch Notice :=
  Notice.filesChanged <$> readRecord "DidChangeWatchedFilesParams"
    [.of "changes" .required (readList readFileChange) fun _ changes => changes]
    default j

/-- The configuration was changed; its value may be anything. -/
def readConfigured (j : Json) : Except Mismatch Notice :=
  Notice.configured <$> readRecord "DidChangeConfigurationParams"
    [.of "settings" .required .ok fun _ payload => payload]
    default j

/-- The reader of the parameters of a notification, by its method. -/
def noticeReader? : String → Option (Json → Except Mismatch Notice)
  | "textDocument/didOpen" => some readOpened
  | "textDocument/didChange" => some readChanged
  | "textDocument/didSave" => some readSaved
  | "textDocument/didClose" => some readClosed
  | "workspace/didChangeWatchedFiles" => some readFilesChanged
  | "workspace/didChangeConfiguration" => some readConfigured
  | _ => none

/-- A folder the editor has open; it is not needed. -/
def readFolder : Json → Except Mismatch Unit :=
  readRecord "WorkspaceFolder"
    [.of "uri" .required readUri fun u _ => u,
     .of "name" .required readString fun u _ => u]
    ()

/-- The name and version of the editor; they are not needed. -/
def readEditor : Json → Except Mismatch Unit :=
  readRecord "ClientInfo"
    [.of "name" .required readString fun u _ => u,
     .of "version" .optional (readOptional readString) fun u _ => u]
    ()

/-- The editor's description of itself, in the handshake's parameters. -/
def readHandshake : Json → Except Mismatch Features :=
  readRecord "InitializeParams"
    [.of "processId" .optional (readOptional readNat32) fun f _ => f,
     .of "rootPath" .optional (readOptional readString) fun f _ => f,
     .of "rootUri" .defaulted (readOptional readUri) fun f _ => f,
     .of "initializationOptions" .optional .ok fun f _ => f,
     .of "capabilities" .required Features.read fun _ f => f,
     .of "trace" .defaulted (readOptional (readWord ["off", "messages", "verbose"])) fun f _ => f,
     .of "workspaceFolders" .optional (readOptional (readList readFolder)) fun f _ => f,
     .of "clientInfo" .optional (readOptional readEditor) fun f _ => f,
     .of "locale" .optional (readOptional readString) fun f _ => f]
    .none

/-- A completion's trigger. -/
def readTrigger : Json → Except Mismatch Unit :=
  readRecord "CompletionContext"
    [.of "triggerKind" .required readInt32 fun u _ => u,
     .of "triggerCharacter" .optional (readOptional readString) fun u _ => u]
    ()

/-- A token of the editor's: an integer or a string. -/
def readToken : Json → Except Mismatch Unit :=
  readForms "NumberOrString"
    [fun j => (readInt32 j).map fun _ => (), fun j => (readString j).map fun _ => ()]

/-- A token that may be left out, and is not needed. -/
def tokenField {σ : Type} (name : String) : RecordField σ :=
  .of name .optional (readOptional readToken) fun r _ => r

/-- Where completion is asked for. -/
def readCompletion : Json → Except Mismatch (Uri × Position) :=
  readComposite "CompletionParams"
    [.of "context" .optional (readOptional readTrigger) fun p _ => p]
    [[.of "textDocument" .required readIdentifier fun p u => (u, p.2),
      .of "position" .required readPosition fun p q => (p.1, q)],
     [tokenField "workDoneToken"], [tokenField "partialResultToken"]]
    default

end Kickstart.Server
