/-
# Kickstart.Document.Store -- open documents

A `Document` is an open buffer with the version the editor last gave it; a copy of
it at one moment is a value like any other, so no separate snapshot type is needed.
The `Store` holds at most one document per URI, in the order in which the URIs were
first opened.  Operations on one URI leave the documents of all others alone.
-/
import Kickstart.Document.Edit
import Kickstart.Uri.Basic

namespace Kickstart

set_option autoImplicit false

/-- An open buffer at one moment. -/
structure Document where
  uri : Uri
  version : Int
  text : Text
  deriving Repr, DecidableEq, Inhabited

/-- The document after a batch of changes that brought it to a version. -/
def Document.change (d : Document) (edits : List Edit) (version : Int) : Document :=
  { d with text := Edit.applyAll d.text edits, version }

/-- The part of the cursor's line before the cursor. -/
def Document.linePrefix? (d : Document) (p : Position) : Option Text := Lines.linePrefix? d.text p

/-- The open documents. -/
structure Store where
  documents : List Document
  deriving Repr, DecidableEq, Inhabited

namespace Store

/-- Nothing is open. -/
def empty : Store := ⟨[]⟩

/-- The document of a URI. -/
def get? (s : Store) (u : Uri) : Option Document := s.documents.find? fun d => d.uri = u

/-- Replaces the document of its URI in place, or adds it at the end. -/
def put (d : Document) : List Document → List Document
  | [] => [d]
  | e :: rest => if e.uri = d.uri then d :: rest else e :: put d rest

/-- Opens a document, or opens it anew. -/
def insert (s : Store) (d : Document) : Store := ⟨put d s.documents⟩

@[simp] theorem get?_insert_self (s : Store) (d : Document) : (s.insert d).get? d.uri = some d := by
  obtain ⟨documents⟩ := s
  unfold insert get?
  induction documents with
  | nil => simp [put]
  | cons e rest ih =>
      by_cases same : e.uri = d.uri
      · simp [put, same]
      · simpa [put, same] using ih

/-- Changes an open document; `none` if it is not open. -/
def change? (s : Store) (u : Uri) (edits : List Edit) (version : Int) :
    Option (Document × Store) :=
  (s.get? u).map fun d =>
    let changed := d.change edits version
    (changed, s.insert changed)

/-- Closes a document. -/
def erase (s : Store) (u : Uri) : Store := ⟨s.documents.filter fun d => d.uri ≠ u⟩

/-- The URI is open. -/
def contains (s : Store) (u : Uri) : Bool := (s.get? u).isSome

end Store

end Kickstart
