/-
# Kickstart.Proofs.Lint -- one report, two readers

A report is read twice: the service turns it into diagnostics for an editor, which count
lines from zero, and `checkFile` into problems for a terminal, which count them from one.
Both go back to the same pairs of a reported line and a message (`outline_diagnostics`,
`map_ofDiagnostic`).  Taking one off and adding it again gives the reported line, except
that line zero is taken for the first, and never leaves the 32 bits that a line number has
(`line_diagnostic`, `line_lt_of_mem_diagnostics`).

Where they part is a report that names no line: an editor shows nothing then, but to the
terminal the rejection itself is a problem (`ofReport_of_silent`), so that only a clean run
is reported as clean.
-/
import Kickstart.Lint
import Kickstart.Proofs.Service.Checks

namespace Kickstart

set_option autoImplicit false

theorem Text.lt_of_number32? {digits : Text} {n : Nat} (reads : number32? digits = some n) :
    n < 0x100000000 := by
  unfold number32? at reads
  split at reads
  · rename_i good
    obtain rfl := Option.some.inj reads
    exact good.2.2
  · cases reads

/-! ## What is read in a report -/

namespace Report

variable {report : Text} {related : Option Uri}

theorem lt_of_reportedLine? {line : Text} {n : Nat} (reported : reportedLine? line = some n) :
    n < 0x100000000 := by
  obtain ⟨digits, -, reads⟩ := Option.bind_eq_some_iff.mp reported
  exact Text.lt_of_number32? reads

/-- A number with a message was reported by one of the lines. -/
theorem reported_of_mem_pairs {ls : List Text} {x : Nat × Text} (member : x ∈ pairs ls) :
    ∃ line ∈ ls, reportedLine? line = some x.1 := by
  -- along the pairing: two lines are taken behind a location, one elsewhere
  fun_induction pairs ls with
  | case1 place message rest n reported ih =>
      rcases List.mem_cons.mp member with rfl | later
      · exact ⟨place, List.mem_cons_self, reported⟩
      · obtain ⟨line, inside, reads⟩ := ih later
        exact ⟨line, List.mem_cons_of_mem _ (List.mem_cons_of_mem _ inside), reads⟩
  | case2 place message rest silent ih =>
      obtain ⟨line, inside, reads⟩ := ih member
      exact ⟨line, List.mem_cons_of_mem _ inside, reads⟩
  | case3 => cases member

/-- Counted from one again, the line of a diagnostic is the reported one, but at least one. -/
theorem line_diagnostic (related : Option Uri) (x : Nat × Text) :
    (diagnostic related x).range.start.line + 1 = max x.1 1 := by
  show x.1 - 1 + 1 = max x.1 1
  omega

theorem line_lt_of_mem_diagnostics {d : Diagnostic} (member : d ∈ diagnostics report related) :
    d.range.start.line + 1 < 0x100000000 := by
  obtain ⟨x, paired, rfl⟩ := List.mem_map.mp member
  obtain ⟨line, -, reported⟩ := reported_of_mem_pairs paired
  have fits := lt_of_reportedLine? reported
  rw [line_diagnostic]
  omega

/-- Where diagnostics are and what they say does not depend on what they point back at. -/
theorem outline_diagnostics (report : Text) (related : Option Uri) :
    (diagnostics report related).map (fun d => (d.range, d.message)) =
      (pairs (spoken report)).map fun x => (.wholeLine (x.1 - 1), x.2.trim) := by
  rw [diagnostics, List.map_map]
  rfl

end Report

/-! ## Problems of a report -/

namespace Problem

open Report

variable {report : Text} {related : Option Uri}

theorem map_ofDiagnostic (report : Text) (related : Option Uri) :
    (diagnostics report related).map ofDiagnostic =
      (pairs (spoken report)).map fun x => ⟨some (max x.1 1), x.2.trim⟩ := by
  rw [diagnostics, List.map_map]
  refine List.map_congr_left fun x _ => ?_
  rw [Function.comp_apply, ofDiagnostic, line_diagnostic]
  rfl

/-- Diagnostics are problems one by one. -/
theorem ofReport_of_found (found : diagnostics report related ≠ []) :
    ofReport report = (diagnostics report related).map ofDiagnostic := by
  rw [ofReport]
  split
  · rename_i silent
    exact absurd (List.map_eq_nil_iff.mpr (List.map_eq_nil_iff.mp silent)) found
  · rw [map_ofDiagnostic, map_ofDiagnostic]

/-- A rejection without diagnostics is one problem, in the words of the report if it has any. -/
theorem ofReport_of_silent (silent : diagnostics report related = []) :
    ∃ message, message ≠ [] ∧ ofReport report = [⟨none, message⟩] := by
  have nothing : diagnostics report none = [] :=
    List.map_eq_nil_iff.mpr (List.map_eq_nil_iff.mp silent)
  simp only [ofReport, nothing]
  by_cases blank : report.trim = []
  · exact ⟨rejection, by decide, by rw [if_pos blank]⟩
  · exact ⟨report.trim, blank, by rw [if_neg blank]⟩

theorem ofReport_ne_nil (report : Text) : ofReport report ≠ [] := by
  by_cases silent : diagnostics report none = []
  · obtain ⟨message, -, one⟩ := ofReport_of_silent silent
    rw [one]
    exact List.cons_ne_nil _ _
  · rw [ofReport_of_found silent]
    exact fun empty => silent (List.map_eq_nil_iff.mp empty)

end Problem

/-- The problems of a file that is there are those of the verdict on it. -/
theorem result_checkFile {σ : Type} {m : Machine σ} {x : σ} {p : Path}
    (present : (m.files x).exists? p = true) :
    (checkFile m x p).result =
      (m.run x p).1.map fun rejected => (rejected.map Problem.ofReport).getD [] := by
  rw [checkFile, if_pos present]
  obtain ⟨verdict, y⟩ := m.run x p
  cases verdict with
  | error failure => rfl
  | ok rejected => cases rejected <;> rfl

/-- The service publishes what the verdict on the file of a URI means. -/
theorem Work.publications_judgeFile {sur : Surroundings} {s : Service} {u : Uri} {p : Path}
    (names : u.filePath? = some p.bytes) :
    Event.publications (run sur never (.judgeFile u) s).events =
      [⟨u, Verdict.diagnostics (relatedTo s u)
        (sur.validator.judge (Validator.seen s.files p)).verdict, none⟩] := by
  have ran : run sur never (.judgeFile u) s =
      ⟨{ s with files := ((Target.file u).check sur s.files).files },
        (Target.file u).events s ((Target.file u).check sur s.files), none⟩ :=
    run_target sur (.file u) s
  rw [ran, Target.publications_events]
  simp only [Target.check, Uri.isFile_of_filePath? names, names, if_true]
  rfl

/-! ## The two readers agree -/

/-- Of a file that is there, and any verdict on it:

1. after a clean run there is no problem, and after a failure the same failure;
2. the diagnostics of a report are at the same ranges and say the same whatever they point
   back at; counted from one again, which 32 bits always hold, their lines are the reported
   ones but at least one, each reported by a line of the report; if there are diagnostics
   there is one problem for each of them, in order, with that line and the same message, and
   if there are none there is exactly one problem, without a line and not without words;
3. so there is no problem if and only if the run was clean;
4. a service that comes to the same verdict on the file publishes once: the diagnostics of
   the report, and none after a clean run or a failure. -/
theorem problems_tell_what_is_published {σ : Type} (m : Machine σ) (x : σ) (p : Path)
    (present : (m.files x).exists? p = true) :
    let verdict := (m.run x p).1
    let checked := (checkFile m x p).result
    ((verdict = .ok none → checked = .ok []) ∧
        ∀ failure, verdict = .error failure → checked = .error failure) ∧
      (∀ report related, verdict = .ok (some report) →
        let found := Report.diagnostics report related
        let reported := Report.pairs (Report.spoken report)
        found.map (fun d => (d.range, d.message)) =
            (Report.diagnostics report none).map (fun d => (d.range, d.message)) ∧
          (∀ d ∈ found, d.range.start.line + 1 < 0x100000000) ∧
          found.map (fun d => d.range.start.line + 1) = reported.map (fun y => max y.1 1) ∧
          (∀ y ∈ reported, ∃ line ∈ Report.spoken report,
            Report.reportedLine? line = some y.1) ∧
          (found ≠ [] →
            checked = .ok (found.map fun d => ⟨some (d.range.start.line + 1), d.message⟩)) ∧
          (found = [] → ∃ message, message ≠ [] ∧ checked = .ok [⟨none, message⟩])) ∧
      (checked = .ok [] ↔ verdict = .ok none) ∧
      ∀ (sur : Surroundings) (s : Service) (u : Uri), u.filePath? = some p.bytes →
        (sur.validator.judge (Validator.seen s.files p)).verdict = verdict →
        ∃ shown, Event.publications (Work.run sur Work.never (.judgeFile u) s).events =
            [⟨u, shown, none⟩] ∧
          (verdict = .ok none → shown = []) ∧
          (∀ failure, verdict = .error failure → shown = []) ∧
          ∀ report, verdict = .ok (some report) →
            shown = Report.diagnostics report (Work.relatedTo s u) := by
  intro verdict checked
  have result : checked = verdict.map fun rejected => (rejected.map Problem.ofReport).getD [] :=
    result_checkFile present
  refine ⟨⟨fun clean => ?_, fun failure fails => ?_⟩, fun report related rejects => ?_, ?_, ?_⟩
  · rw [result, clean]
    rfl
  · rw [result, fails]
    rfl
  · rw [rejects] at result
    refine ⟨?_, fun d member => Report.line_lt_of_mem_diagnostics member, ?_,
      fun y member => Report.reported_of_mem_pairs member, fun found => ?_, fun silent => ?_⟩
    · rw [Report.outline_diagnostics, Report.outline_diagnostics]
    · rw [Report.diagnostics, List.map_map]
      exact List.map_congr_left fun y _ => Report.line_diagnostic related y
    · exact result.trans (congrArg Except.ok (Problem.ofReport_of_found found))
    · obtain ⟨message, filled, one⟩ := Problem.ofReport_of_silent silent
      exact ⟨message, filled, result.trans (congrArg Except.ok one)⟩
  · constructor
    · intro nothing
      rw [result] at nothing
      cases outcome : verdict with
      | error failure =>
          rw [outcome] at nothing
          cases nothing
      | ok rejected =>
          rw [outcome] at nothing
          cases rejected with
          | none => rfl
          | some report => exact absurd (Except.ok.inj nothing) (Problem.ofReport_ne_nil report)
    · intro clean
      rw [result, clean]
      rfl
  · intro sur s u names same
    refine ⟨Verdict.diagnostics (Work.relatedTo s u) verdict, ?_, fun clean => ?_,
      fun failure fails => ?_, fun report rejects => ?_⟩
    · rw [Work.publications_judgeFile names, same]
    · rw [clean]
      rfl
    · rw [fails]
      rfl
    · rw [rejects]
      rfl

/-- The greatest line there is and line zero, in one report. -/
theorem problems_tell_what_is_published_extremes :
    let report : Text := "on line 4294967295 of\nlast\non line 0 of\nfirst".toList
    let validator : Validator := ⟨true, fun _ => .plain (.ok (some report))⟩
    let u : Uri := ⟨"file", some ⟨"", "", none⟩, .rooted ["a"], none, none⟩
    let files : Files := ⟨[([[97]], .file [] false)], []⟩
    let sur : Surroundings := ⟨validator, fun _ => .ok none, .ofPlace [], .none⟩
    files.exists? (.ofPlace [[97]]) = true ∧
      (checkFile (Validator.machine validator.judge) files (.ofPlace [[97]])).result =
        .ok [⟨some 4294967295, "last".toList⟩, ⟨some 1, "first".toList⟩] ∧
      Event.publications
          (Work.run sur Work.never (.judgeFile u) ⟨.empty, none, files⟩).events =
        [⟨u, [.ofLine none 4294967294 "last".toList, .ofLine none 0 "first".toList], none⟩] := by
  intro report validator u files sur
  have present : files.exists? (.ofPlace [[97]]) = true := by decide
  have found : Report.diagnostics report none =
      [.ofLine none 4294967294 "last".toList, .ofLine none 0 "first".toList] := by decide
  obtain ⟨-, reads, -, publishes⟩ := problems_tell_what_is_published
    (Validator.machine validator.judge) files (.ofPlace [[97]]) present
  obtain ⟨shown, published, -, -, tells⟩ :=
    publishes sur ⟨.empty, none, files⟩ u (by decide) rfl
  obtain ⟨-, -, -, -, checked, -⟩ := reads report none rfl
  refine ⟨present, ?_, ?_⟩
  · rw [checked (by rw [found]; exact List.cons_ne_nil _ _), found]
    rfl
  · rw [published, tells report rfl, ← found]
    rfl

end Kickstart
