/-
# Kickstart.Server.Encode -- values on the wire

How positions, diagnostics, offers, capabilities and registrations are written in the
language server protocol.  What is absent is left out of an object, never `null`.
-/
import Kickstart.Completion.Offer
import Kickstart.Event
import Kickstart.Session.Capabilities

namespace Kickstart.Server

set_option autoImplicit false

/-- A text as a JSON string. -/
def ofText (t : Text) : Json := .string (String.ofList t)

/-- An object of some members, `none` marking one that is left out. -/
def ofPresent (members : List (String × Option Json)) : Json :=
  .ofMembers (members.filterMap fun (name, value) => value.map fun v => (name, v))

/-- A position. -/
def ofPosition (p : Position) : Json :=
  .ofMembers [("line", .integer p.line), ("character", .integer p.character)]

/-- A range. -/
def ofRange (r : Range) : Json :=
  .ofMembers [("start", ofPosition r.start), ("end", ofPosition r.stop)]

/-- A URI. -/
def ofUri (u : Uri) : Json := .string u.text

/-- A related place. -/
def ofRelated (p : RelatedPlace) : Json :=
  .ofMembers
    [("location", .ofMembers [("uri", ofUri p.uri), ("range", ofRange p.range)]),
     ("message", .string p.message)]

/-- A diagnostic. -/
def ofDiagnostic (d : Diagnostic) : Json :=
  ofPresent
    [("range", some (ofRange d.range)),
     ("severity", some (.integer d.severity.code)),
     ("source", some (.string d.source)),
     ("message", some (ofText d.message)),
     ("relatedInformation", d.related.map fun places => .array (places.map ofRelated))]

/-- An offer. -/
def ofOffer : Offer → Json
  | .command name detail =>
    .ofMembers [("label", .string name), ("kind", .integer 3), ("detail", .string detail)]
  | .snippet label insertion =>
    .ofMembers
      [("label", .string label), ("kind", .integer 10), ("insertText", .string insertion),
       ("insertTextFormat", .integer 2)]

/-- A list of offers. -/
def ofOffers (offers : List Offer) : Json := .array (offers.map ofOffer)

/-- What the server announces. -/
def ofCapabilities (c : Capabilities) : Json :=
  ofPresent
    [("textDocumentSync", some
        (if c.documents then
          .ofMembers
            [("openClose", .bool true), ("change", .integer 2),
             ("save", .ofMembers [("includeText", .bool false)])]
        else .integer 0)),
     ("completionProvider", some (.ofMembers [("triggerCharacters", .array [.string " "])])),
     ("workspace",
        if c.workspaceFolders then
          some (.ofMembers
            [("workspaceFolders",
              .ofMembers [("supported", .bool true), ("changeNotifications", .bool true)])])
        else none)]

/-- A change the server asks to be told of. -/
def ofRegistration : Registration → Json
  | .configuration =>
    .ofMembers
      [("id", .string "kickstart-ls/configuration"),
       ("method", .string "workspace/didChangeConfiguration")]
  | .watchedFiles =>
    .ofMembers
      [("id", .string "kickstart-ls/watched-files"),
       ("method", .string "workspace/didChangeWatchedFiles"),
       ("registerOptions",
        .ofMembers
          [("watchers",
            .array [.ofMembers [("globPattern", .string Registration.watchPattern)]])])]

/-- A publication; one that belongs to no version has none. -/
def ofPublication (p : Publication) : Json :=
  ofPresent
    [("uri", some (ofUri p.uri)),
     ("diagnostics", some (.array (p.diagnostics.map ofDiagnostic))),
     ("version", p.version.map .integer)]

end Kickstart.Server
