/-
# Kickstart.Proofs.Document.Store -- what each operation does to the open documents

The store is seen through `get?`: opening or changing a document is one new value at its
URI, closing it takes the value away, and no operation touches another URI.  A store
that was built by them holds one document per URI (`Store.Distinct`), so every document
in it is the one that `get?` finds.
-/
import Kickstart.Document.Store

namespace Kickstart

set_option autoImplicit false

namespace Store

variable {s : Store} {d e : Document} {u v : Uri}

/-- No two open documents have the same URI. -/
def Distinct (s : Store) : Prop := (s.documents.map (·.uri)).Nodup

theorem distinct_empty : Distinct .empty := List.nodup_nil

theorem uri_of_get? (found : s.get? u = some d) : d.uri = u := by
  simpa using List.find?_some found

theorem get?_insert_ne (other : v ≠ d.uri) : (s.insert d).get? v = s.get? v := by
  obtain ⟨documents⟩ := s
  unfold insert get?
  induction documents with
  | nil => simp [put, Ne.symm other]
  | cons e rest ih =>
      by_cases same : e.uri = d.uri
      · simp [put, same, Ne.symm other]
      · simp only [put, if_neg same, List.find?_cons]
        rw [ih]

theorem get?_insert : (s.insert d).get? v = if v = d.uri then some d else s.get? v := by
  split
  · rename_i same
    rw [same, get?_insert_self]
  · exact get?_insert_ne ‹_›

theorem get?_erase : (s.erase u).get? v = if v = u then none else s.get? v := by
  unfold erase get?
  rw [List.find?_filter]
  split
  · rename_i same
    subst same
    simp
  · rename_i other
    congr 1
    funext d
    by_cases found : d.uri = v
    · simp [found, other]
    · simp [found]

theorem contains_insert : (s.insert d).contains u = (decide (d.uri = u) || s.contains u) := by
  unfold contains
  rw [get?_insert]
  by_cases same : u = d.uri
  · simp [same]
  · simp [same, Ne.symm same]

theorem contains_erase : (s.erase v).contains u = (!decide (v = u) && s.contains u) := by
  unfold contains
  rw [get?_erase]
  by_cases same : u = v
  · simp [same]
  · simp [same, Ne.symm same]

theorem mem_put (member : e ∈ put d s.documents) : e = d ∨ e ∈ s.documents := by
  obtain ⟨documents⟩ := s
  induction documents with
  | nil => exact .inl (List.mem_singleton.mp member)
  | cons x rest ih =>
      simp only [put] at member
      split at member
      · rcases List.mem_cons.mp member with rfl | later
        · exact .inl rfl
        · exact .inr (List.mem_cons_of_mem _ later)
      · rcases List.mem_cons.mp member with rfl | later
        · exact .inr List.mem_cons_self
        · exact (ih later).imp_right (List.mem_cons_of_mem _)

theorem Distinct.insert (distinct : s.Distinct) (d : Document) : (s.insert d).Distinct := by
  obtain ⟨documents⟩ := s
  unfold Distinct Store.insert at *
  simp only at *
  induction documents with
  | nil => simp [put]
  | cons e rest ih =>
      rw [List.map_cons, List.nodup_cons] at distinct
      by_cases same : e.uri = d.uri
      · simpa [put, same] using ⟨by simpa [same] using distinct.1, distinct.2⟩
      · rw [put, if_neg same, List.map_cons, List.nodup_cons]
        refine ⟨fun member => ?_, ih distinct.2⟩
        obtain ⟨x, inside, named⟩ := List.mem_map.mp member
        rcases mem_put (s := ⟨rest⟩) inside with rfl | old
        · exact same named.symm
        · exact distinct.1 (List.mem_map.mpr ⟨x, old, named⟩)

theorem Distinct.erase (distinct : s.Distinct) (u : Uri) : (s.erase u).Distinct :=
  List.Nodup.sublist (List.Sublist.map _ List.filter_sublist) distinct

theorem Distinct.get?_of_mem (distinct : s.Distinct) (member : d ∈ s.documents) :
    s.get? d.uri = some d := by
  obtain ⟨documents⟩ := s
  unfold Distinct at distinct
  unfold get?
  simp only at *
  induction documents with
  | nil => cases member
  | cons e rest ih =>
      rw [List.map_cons, List.nodup_cons] at distinct
      rcases List.mem_cons.mp member with rfl | later
      · simp
      · have other : e.uri ≠ d.uri := fun same =>
          distinct.1 (List.mem_map.mpr ⟨d, later, same.symm⟩)
        rw [List.find?_cons_of_neg (by simpa using other), ih distinct.2 later]

/-- The documents of a URI are the one that is found. -/
theorem Distinct.filter_uri (distinct : s.Distinct) (u : Uri) :
    s.documents.filter (fun d => d.uri = u) = (s.get? u).toList := by
  obtain ⟨documents⟩ := s
  unfold Distinct at distinct
  unfold get?
  simp only at *
  induction documents with
  | nil => rfl
  | cons e rest ih =>
      rw [List.map_cons, List.nodup_cons] at distinct
      by_cases same : e.uri = u
      · have no_more : rest.filter (fun d => d.uri = u) = [] := by
          rw [List.filter_eq_nil_iff]
          intro d member named
          refine distinct.1 (List.mem_map.mpr ⟨d, member, ?_⟩)
          rw [same]
          exact of_decide_eq_true named
        simp [same, no_more]
      · simpa [same] using ih distinct.2

/-- A change is one new value at its URI. -/
theorem change?_eq_some {edits : List Edit} {version : Int} {store : Store}
    (changed : s.change? u edits version = some (d, store)) :
    d.uri = u ∧ d.version = version ∧ store = s.insert d ∧
      ∃ before, s.get? u = some before ∧ d.text = Edit.applyAll before.text edits := by
  obtain ⟨before, found, result⟩ := Option.map_eq_some_iff.mp changed
  obtain ⟨rfl, rfl⟩ := Prod.mk.inj result
  have named : before.uri = u := uri_of_get? found
  exact ⟨named, rfl, rfl, before, found, rfl⟩

theorem change?_eq_none {edits : List Edit} {version : Int} :
    s.change? u edits version = none ↔ s.get? u = none :=
  Option.map_eq_none_iff

end Store

end Kickstart
