/-
# Kickstart.Proofs.Document.History -- open documents as a history tells them

A store is asked to open, change and close documents and to show them (`Store.serve`).
What it holds of a URI follows from the requests alone.  A document is there if it was
opened and not closed since, and then it is what was opened last with all changes since
then made to it in order (`Document.since`); how they came in batches does not matter.

One request is seen through `get?` (`get?_serve_of_undisturbed`).  A document that is neither opened anew
nor closed follows its history (`get?_serveAll_of_undisturbed`), so a store that started
empty holds what the history tells and nothing else (`get?_serveAll_eq_some_iff`).
-/
import Mathlib.Data.List.Induction
import Kickstart.Proofs.Document.Store

namespace Kickstart

set_option autoImplicit false

theorem Edit.applyAll_append (t : Text) (edits more : List Edit) :
    applyAll t (edits ++ more) = applyAll (applyAll t edits) more := List.foldl_append

namespace Store

/-! ## Requests -/

/-- What is asked of a store. -/
inductive Request where
  | opened (document : Document)
  | changed (uri : Uri) (edits : List Edit) (version : Int)
  | closed (uri : Uri)
  /-- To show the document of a URI. -/
  | shown (uri : Uri)
  /-- To show all documents. -/
  | listed
  deriving DecidableEq

/-- What a store answers. -/
inductive Response where
  /-- The document as it is then, if there is one. -/
  | document (found : Option Document)
  /-- Whether the document was there. -/
  | wasOpen (was : Bool)
  | documents (all : List Document)
  deriving DecidableEq

/-- One request: the answer, and the store after it. -/
def serve (s : Store) : Request → Response × Store
  | .opened d => (.document (some d), s.insert d)
  | .changed u edits version =>
    match s.change? u edits version with
    | some (d, store) => (.document (some d), store)
    | none => (.document none, s)
  | .closed u => (.wasOpen (s.contains u), s.erase u)
  | .shown u => (.document (s.get? u), s)
  | .listed => (.documents s.documents, s)

/-- The store after requests. -/
def serveAll (s : Store) (requests : List Request) : Store :=
  requests.foldl (fun s r => (s.serve r).2) s

namespace Request

/-- The URI that a request is about; a request to list is about none. -/
def uri? : Request → Option Uri
  | .opened d => some d.uri
  | .changed u _ _ => some u
  | .closed u => some u
  | .shown u => some u
  | .listed => none

/-- The changes that a request makes to the document of a URI. -/
def editsFor (u : Uri) : Request → List Edit
  | .changed v edits _ => if v = u then edits else []
  | _ => []

/-- The version that a change gives to the document of a URI. -/
def versionFor? (u : Uri) : Request → Option Int
  | .changed v _ version => if v = u then some version else none
  | _ => none

/-- The document of a URI is neither opened nor closed. -/
structure Undisturbed (u : Uri) (requests : List Request) : Prop where
  not_opened : ∀ d : Document, d.uri = u → .opened d ∉ requests
  not_closed : .closed u ∉ requests

theorem undisturbed_nil (u : Uri) : Undisturbed u [] :=
  ⟨fun _ _ => List.not_mem_nil, List.not_mem_nil⟩

theorem undisturbed_append {u : Uri} {requests more : List Request} :
    Undisturbed u (requests ++ more) ↔ Undisturbed u requests ∧ Undisturbed u more := by
  constructor
  · rintro ⟨not_opened, not_closed⟩
    simp only [List.mem_append, not_or] at not_opened not_closed
    exact ⟨⟨fun d named => (not_opened d named).1, not_closed.1⟩,
      fun d named => (not_opened d named).2, not_closed.2⟩
  · rintro ⟨first, second⟩
    constructor
    · intro d named member
      rcases List.mem_append.mp member with early | late
      · exact first.not_opened d named early
      · exact second.not_opened d named late
    · intro member
      rcases List.mem_append.mp member with early | late
      · exact first.not_closed early
      · exact second.not_closed late

theorem undisturbed_singleton {u : Uri} {r : Request} :
    Undisturbed u [r] ↔ (∀ d, r = .opened d → d.uri ≠ u) ∧ r ≠ .closed u := by
  constructor
  · rintro ⟨not_opened, not_closed⟩
    refine ⟨fun d same named => ?_, fun same => ?_⟩
    · exact not_opened d named (List.mem_singleton.mpr same.symm)
    · exact not_closed (List.mem_singleton.mpr same.symm)
  · rintro ⟨not_opened, not_closed⟩
    refine ⟨fun d named member => ?_, fun member => ?_⟩
    · exact not_opened d (List.mem_singleton.mp member).symm named
    · exact not_closed (List.mem_singleton.mp member).symm

/-- A request opens or closes the document of a URI, or does not disturb it. -/
theorem disturbs_cases (u : Uri) (r : Request) :
    (∃ d, r = .opened d ∧ d.uri = u) ∨ r = .closed u ∨ Undisturbed u [r] := by
  by_cases opens : ∃ d, r = .opened d ∧ d.uri = u
  · exact .inl opens
  · by_cases closes : r = .closed u
    · exact .inr (.inl closes)
    · exact .inr (.inr (undisturbed_singleton.mpr
        ⟨fun d same named => opens ⟨d, same, named⟩, closes⟩))

end Request

end Store

open Store

/-- The document that was opened, after the requests that came since: with the version of
the last change, and all changes made in order. -/
def Document.since (d : Document) (later : List Request) : Document where
  uri := d.uri
  version := (later.filterMap (Request.versionFor? d.uri)).getLastD d.version
  text := Edit.applyAll d.text (later.flatMap (Request.editsFor d.uri))

namespace Document

@[simp] theorem since_nil (d : Document) : d.since [] = d := rfl

theorem since_append (d : Document) (requests later : List Request) :
    d.since (requests ++ later) = (d.since requests).since later := by
  have version : ((requests ++ later).filterMap (Request.versionFor? d.uri)).getLastD d.version =
      (later.filterMap (Request.versionFor? d.uri)).getLastD
        ((requests.filterMap (Request.versionFor? d.uri)).getLastD d.version) := by
    rw [List.filterMap_append]
    simp only [List.getLastD_eq_getLast?, List.getLast?_append]
    cases (List.filterMap (Request.versionFor? d.uri) later).getLast? <;> rfl
  simp only [since, version, List.flatMap_append, Edit.applyAll_append]

theorem since_changed (d : Document) (edits : List Edit) (version : Int) :
    d.since [.changed d.uri edits version] = d.change edits version := by
  simp [since, change, Request.versionFor?, Request.editsFor]

end Document

namespace Store

variable {s : Store} {d e : Document} {r : Request} {u v : Uri}

/-! ## One request -/

theorem get?_serve_opened : (s.serve (.opened d)).2.get? u = if u = d.uri then some d else s.get? u :=
  get?_insert

theorem get?_serve_closed : (s.serve (.closed v)).2.get? u = if u = v then none else s.get? u :=
  get?_erase

theorem get?_serve_changed {edits : List Edit} {version : Int} :
    (s.serve (.changed v edits version)).2.get? u =
      if u = v then (s.get? u).map (·.change edits version) else s.get? u := by
  cases changed : s.change? v edits version with
  | none =>
      have absent := change?_eq_none.mp changed
      simp only [serve, changed]
      split
      · rename_i same
        rw [same, absent, Option.map_none]
      · rfl
  | some result =>
      obtain ⟨before, found, rfl⟩ := Option.map_eq_some_iff.mp changed
      obtain rfl := uri_of_get? found
      simp only [serve, changed, get?_insert, Document.change]
      split
      · rename_i same
        rw [same, found, Option.map_some]
      · rfl

/-- A document that is neither opened nor closed by a request is changed by it at most. -/
theorem get?_serve_of_undisturbed (undisturbed : Request.Undisturbed u [r]) :
    (s.serve r).2.get? u = (s.get? u).map (·.since [r]) := by
  obtain ⟨not_opened, not_closed⟩ := Request.undisturbed_singleton.mp undisturbed
  -- a request that is no change of the document leaves it as it is
  have unchanged (same : (s.serve r).2.get? u = s.get? u) (no_edits : r.editsFor u = [])
      (no_version : r.versionFor? u = none) :
      (s.serve r).2.get? u = (s.get? u).map (·.since [r]) := by
    rw [same]
    cases found : s.get? u with
    | none => rfl
    | some d =>
        obtain rfl := uri_of_get? found
        simp [Document.since, no_edits, no_version, Edit.applyAll]
  cases r with
  | opened d =>
      refine unchanged ?_ rfl rfl
      rw [get?_serve_opened, if_neg (Ne.symm (not_opened d rfl))]
  | changed v edits version =>
      by_cases same : u = v
      · subst same
        rw [get?_serve_changed, if_pos rfl]
        refine Option.map_congr fun d found => ?_
        obtain rfl := uri_of_get? found
        exact (d.since_changed edits version).symm
      · refine unchanged ?_ (if_neg (Ne.symm same)) (if_neg (Ne.symm same))
        rw [get?_serve_changed, if_neg same]
  | closed v =>
      refine unchanged ?_ rfl rfl
      rw [get?_serve_closed, if_neg]
      rintro rfl
      exact not_closed rfl
  | shown v => exact unchanged rfl rfl rfl
  | listed => exact unchanged rfl rfl rfl

/-- A request about one URI leaves the others alone. -/
theorem get?_serve_ne (about : r.uri? = some u) (other : v ≠ u) :
    (s.serve r).2.get? v = s.get? v := by
  cases r with
  | opened d =>
      obtain rfl := Option.some.inj about
      rw [get?_serve_opened, if_neg other]
  | changed w edits version =>
      obtain rfl := Option.some.inj about
      rw [get?_serve_changed, if_neg other]
  | closed w =>
      obtain rfl := Option.some.inj about
      rw [get?_serve_closed, if_neg other]
  | shown w => rfl
  | listed => rfl

theorem Distinct.serve (distinct : s.Distinct) (r : Request) : (s.serve r).2.Distinct := by
  cases r with
  | opened d => exact distinct.insert d
  | changed u edits version =>
      simp only [Store.serve]
      cases changed : s.change? u edits version with
      | none => exact distinct
      | some result =>
          obtain ⟨d, store⟩ := result
          obtain ⟨-, -, rfl, -⟩ := change?_eq_some changed
          exact distinct.insert d
  | closed u => exact distinct.erase u
  | shown u => exact distinct
  | listed => exact distinct

/-! ## All requests -/

theorem serveAll_append (s : Store) (requests later : List Request) :
    s.serveAll (requests ++ later) = (s.serveAll requests).serveAll later := List.foldl_append

theorem serveAll_cons (s : Store) (r : Request) (later : List Request) :
    s.serveAll (r :: later) = (s.serve r).2.serveAll later := rfl

theorem serveAll_concat (s : Store) (requests : List Request) (r : Request) :
    s.serveAll (requests ++ [r]) = ((s.serveAll requests).serve r).2 := serveAll_append s requests [r]

theorem Distinct.serveAll (distinct : s.Distinct) (requests : List Request) :
    (s.serveAll requests).Distinct := by
  induction requests generalizing s with
  | nil => exact distinct
  | cons r later ih => exact ih (distinct.serve r)

/-- A document that is neither opened anew nor closed follows its history. -/
theorem get?_serveAll_of_undisturbed {later : List Request}
    (undisturbed : Request.Undisturbed u later) (found : s.get? u = some d) :
    (s.serveAll later).get? u = some (d.since later) := by
  induction later generalizing s d with
  | nil => exact found
  | cons r later ih =>
      rw [← List.singleton_append, Request.undisturbed_append] at undisturbed
      obtain ⟨first, rest⟩ := undisturbed
      have next : (s.serve r).2.get? u = some (d.since [r]) := by
        rw [get?_serve_of_undisturbed first, found, Option.map_some]
      rw [serveAll_cons, ih rest next, ← Document.since_append, List.singleton_append]

/-- What is not closed stays. -/
theorem isSome_serveAll_of_not_closed {later : List Request} (not_closed : .closed u ∉ later)
    (present : (s.get? u).isSome = true) : ((s.serveAll later).get? u).isSome = true := by
  induction later generalizing s with
  | nil => exact present
  | cons r later ih =>
      obtain ⟨other, rest⟩ := List.ne_and_not_mem_of_not_mem_cons not_closed
      refine ih rest ?_
      rcases Request.disturbs_cases u r with ⟨d, rfl, rfl⟩ | closes | undisturbed
      · rw [get?_serve_opened, if_pos rfl]
        rfl
      · exact absurd closes.symm other
      · rw [get?_serve_of_undisturbed undisturbed, Option.isSome_map]
        exact present

/-- What a store holds is what was opened last, unless it was closed, with the changes
since. -/
theorem get?_serveAll_eq_some_iff {past : List Request} :
    (empty.serveAll past).get? u = some e ↔ ∃ before d later,
      past = before ++ .opened d :: later ∧ d.uri = u ∧ Request.Undisturbed u later ∧
        e = d.since later := by
  constructor
  · intro found
    -- from the last request back to the one that opened the document
    induction past using List.reverseRecOn generalizing e with
    | nil => cases found
    | append_singleton past r ih =>
        rw [serveAll_concat] at found
        rcases Request.disturbs_cases u r with ⟨d, rfl, rfl⟩ | rfl | undisturbed
        · rw [get?_serve_opened, if_pos rfl] at found
          exact ⟨past, d, [], rfl, rfl, Request.undisturbed_nil _, (Option.some.inj found).symm⟩
        · rw [get?_serve_closed, if_pos rfl] at found
          cases found
        · rw [get?_serve_of_undisturbed undisturbed] at found
          obtain ⟨e', held, rfl⟩ := Option.map_eq_some_iff.mp found
          obtain ⟨before, d, later, rfl, named, quiet, rfl⟩ := ih held
          refine ⟨before, d, later ++ [r], by simp, named, ?_, ?_⟩
          · exact Request.undisturbed_append.mpr ⟨quiet, undisturbed⟩
          · exact (d.since_append later [r]).symm
  · rintro ⟨before, d, later, rfl, rfl, undisturbed, rfl⟩
    rw [serveAll_append, serveAll_cons]
    refine get?_serveAll_of_undisturbed undisturbed ?_
    rw [get?_serve_opened, if_pos rfl]

/-- After any requests to a store that started empty, of every URI:

1. its document is there if and only if it was opened after every time it was closed;
2. it is then what was opened last, under its URI, with the version of the last opening or
   change and with the changes since made in order, however they came in batches;
3. a change of a document that is not there is refused and leaves the store as it is;
4. closing tells whether the document was there;
5. opening and changing show the document as it is shown afterwards;
6. the list shows every document that is there, once and as it is;
7. no request about the URI touches the document of another. -/
theorem store_holds_what_history_tells (past : List Request) (u : Uri) :
    let s := empty.serveAll past
    ((s.get? u).isSome = true ↔ ∃ before d later,
      past = before ++ .opened d :: later ∧ d.uri = u ∧ .closed u ∉ later) ∧
    (∀ e, s.get? u = some e ↔ ∃ before d later,
      past = before ++ .opened d :: later ∧ d.uri = u ∧ Request.Undisturbed u later ∧
        e = d.since later) ∧
    (s.get? u = none → ∀ edits version,
      s.serve (.changed u edits version) = (.document none, s)) ∧
    (s.serve (.closed u)).1 = .wasOpen (s.get? u).isSome ∧
    (∀ d, d.uri = u →
      (s.serve (.opened d)).1 = ((s.serve (.opened d)).2.serve (.shown u)).1) ∧
    (∀ edits version, (s.serve (.changed u edits version)).1 =
      ((s.serve (.changed u edits version)).2.serve (.shown u)).1) ∧
    (∃ all, (s.serve .listed).1 = .documents all ∧ (all.map (·.uri)).Nodup ∧
      ∀ e, e ∈ all ↔ s.get? e.uri = some e) ∧
    ∀ r v, r.uri? = some u → v ≠ u → (s.serve r).2.get? v = s.get? v := by
  intro s
  have distinct : s.Distinct := distinct_empty.serveAll past
  refine ⟨⟨fun present => ?_, ?_⟩, fun e => get?_serveAll_eq_some_iff, ?_, rfl, ?_, ?_, ?_,
    fun r v about other => get?_serve_ne about other⟩
  · obtain ⟨e, found⟩ := Option.isSome_iff_exists.mp present
    obtain ⟨before, d, later, told, named, undisturbed, -⟩ := get?_serveAll_eq_some_iff.mp found
    exact ⟨before, d, later, told, named, undisturbed.not_closed⟩
  · rintro ⟨before, d, later, told, rfl, not_closed⟩
    simp only [s]
    rw [told, serveAll_append, serveAll_cons]
    refine isSome_serveAll_of_not_closed not_closed ?_
    rw [get?_serve_opened, if_pos rfl]
    rfl
  · intro absent edits version
    simp only [serve, change?_eq_none.mpr absent]
  · rintro d rfl
    simp only [serve, get?_insert_self]
  · intro edits version
    cases changed : s.change? u edits version with
    | none => simp only [serve, changed, change?_eq_none.mp changed]
    | some result =>
        obtain ⟨d, store⟩ := result
        obtain ⟨rfl, -, rfl, -⟩ := change?_eq_some changed
        simp only [serve, changed, get?_insert_self]
  · refine ⟨s.documents, rfl, distinct, fun e => ⟨distinct.get?_of_mem, fun found => ?_⟩⟩
    exact List.mem_of_find?_eq_some found

end Store

end Kickstart
