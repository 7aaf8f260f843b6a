import FileScanner.Lib.Group
import FileScanner.Python
import Mathlib.Algebra.Order.Ring.Rat
import Mathlib.Data.List.MinMax

namespace FileScanner
open Collections
set_option autoImplicit true

/-- The five words, from a backend's reply to the caller's response. -/
inductive Kind where
  | clean
  | malware
  | flagged
  | partialScan
  | error
  deriving DecidableEq, Repr

def Kind.word : Kind → String
  | .clean => "clean"
  | .malware => "malware"
  | .flagged => "flagged"
  | .partialScan => "partial"
  | .error => "error"

structure Verdict where
  kind : Kind
  reason : Json := .null
  score : Option Rat := none
  location : Json := .null

def clean : Verdict := { kind := .clean }

def malware (signature : Json) : Verdict := { kind := .malware, reason := signature }

def partialVerdict (tag : Json) : Verdict := { kind := .partialScan, reason := tag }

structure ScannerResult where
  scanner : String
  category : String
  kind : Kind
  reason : Json := .null
  score : Option Rat := none
  location : Json := .null
  time : Rat := 0
  scored : Bool := false
  advisory : Bool := false

def ScannerResult.incomplete (r : ScannerResult) : Bool :=
  r.kind = .error || r.kind = .partialScan

def ScannerResult.detection (r : ScannerResult) : Bool :=
  r.kind = .malware || r.kind = .flagged

def round4 (x : Rat) : Rat :=
  let n := (x * 10000).floor
  let rest := x * 10000 - n
  if rest < 1 / 2 ∨ (rest = 1 / 2 ∧ n % 2 = 0) then n / 10000 else (n + 1) / 10000

def optionalEntry (key : String) : Json → Dict String Json
  | .null => []
  | v => [(key, v)]

def scoreEntry : Option Rat → Dict String Json
  | none => []
  | some s => [("score", .float (round4 s))]

def ScannerResult.asDict (r : ScannerResult) : Dict String Json :=
  [("scanner", .str r.scanner), ("category", .str r.category), ("kind", .str r.kind.word),
    ("time", .float (round4 r.time))]
    ++ (if r.advisory then [("advisory", .bool true)] else [])
    ++ scoreEntry r.score ++ optionalEntry "reason" r.reason
    ++ optionalEntry "location" r.location

structure CategoryVerdict where
  kind : Kind
  reason : Json := .null
  score : Option Rat := none
  location : Json := .null

def CategoryVerdict.asDict (v : CategoryVerdict) : Dict String Json :=
  [("kind", .str v.kind.word)] ++ scoreEntry v.score ++ optionalEntry "reason" v.reason
    ++ optionalEntry "location" v.location

structure ScanReport where
  results : List ScannerResult

def ScanReport.malware (report : ScanReport) : Bool :=
  report.results.any (fun r => r.kind = .malware)

def ScanReport.detected (report : ScanReport) : Bool := report.results.any (·.detection)

def ScanReport.byCategory (report : ScanReport) : Dict String (List ScannerResult) :=
  groupBy ScannerResult.category report.results

/-- The non-advisory results, or all of them when only advisory scanners ran. -/
def decidingResults (results : List ScannerResult) : List ScannerResult :=
  if results.filter (!·.advisory) = [] then results else results.filter (!·.advisory)

def ScanReport.allErrored (report : ScanReport) : Bool :=
  if report.detected then false
  else
    let deciding := report.byCategory.flatMap (fun e => decidingResults e.2)
    !deciding.isEmpty && deciding.all (fun r => r.kind = .error)

/-- The incomplete deciding result to report: an error if any, else the first. -/
def blocker (results : List ScannerResult) : Option ScannerResult :=
  let unfinished := (decidingResults results).filter (·.incomplete)
  (unfinished.find? (fun r => r.kind = .error)).or unfinished.head?

/-- The first hit with the highest score, a missing score counting as zero. -/
def topHit (hits : List ScannerResult) : Option ScannerResult :=
  hits.argmax (fun r => r.score.getD 0)

/-- The reduction of an axis all of whose scanners report a score. -/
def scoredVerdict (results : List ScannerResult) : CategoryVerdict :=
  let scores := results.filterMap (·.score)
  match topHit (results.filter (fun r => r.kind = .flagged)) with
  | some top => { kind := .flagged, reason := top.reason, score := scores.max?.or top.score }
  | none =>
    match blocker results with
    | some b => { kind := b.kind, reason := b.reason }
    | none => { kind := .clean, score := scores.max? }

def discreteVerdict (results : List ScannerResult) : CategoryVerdict :=
  let detections := results.filter (·.detection)
  match (detections.find? (fun r => r.kind = .malware)).or detections.head? with
  | some top => { kind := top.kind, reason := top.reason, location := top.location }
  | none =>
    match blocker results with
    | some b => { kind := b.kind, reason := b.reason }
    | none => { kind := .clean }

def categoryVerdict (results : List ScannerResult) : CategoryVerdict :=
  if results ≠ [] ∧ results.all (·.scored) then scoredVerdict results
  else discreteVerdict results

def ScanReport.verdicts (report : ScanReport) : Dict String CategoryVerdict :=
  report.byCategory.map (fun e => (e.1, categoryVerdict e.2))

def ScanReport.asDict (report : ScanReport) : Dict String Json :=
  [("verdicts", .obj (report.verdicts.map (fun e => (e.1, .obj e.2.asDict)))),
    ("scanners", .list (report.results.map (fun r => .obj r.asDict)))]

def ScanReport.axis (report : ScanReport) (c : String) : List ScannerResult :=
  report.results.filter (fun r => r.category = c)

theorem ScanReport.lookup_byCategory (report : ScanReport) (c : String) :
    report.byCategory.lookup c =
      if c ∈ report.results.map (·.category) then some (report.axis c) else none :=
  lookup_groupBy _ _ c

theorem ScanReport.lookup_verdicts (report : ScanReport) (c : String) :
    report.verdicts.lookup c =
      if c ∈ report.results.map (·.category) then some (categoryVerdict (report.axis c))
      else none := by
  rw [verdicts, Dict.lookup_mapValues, lookup_byCategory]
  split <;> rfl

theorem ScanReport.axis_ne_nil {report : ScanReport} {c : String}
    (h : c ∈ report.results.map (·.category)) : report.axis c ≠ [] := by
  obtain ⟨r, hr, he⟩ := List.mem_map.1 h
  exact List.ne_nil_of_mem (List.mem_filter.2 ⟨hr, decide_eq_true he⟩)

theorem mem_decidingResults_sub {results : List ScannerResult} {r : ScannerResult}
    (h : r ∈ decidingResults results) : r ∈ results := by
  rw [decidingResults] at h
  split at h
  · exact h
  · exact List.mem_of_mem_filter h

theorem mem_decidingResults {results : List ScannerResult} {r : ScannerResult} :
    r ∈ decidingResults results ↔
      r ∈ results ∧ (r.advisory = false ∨ ∀ r' ∈ results, r'.advisory = true) := by
  have hnil : results.filter (!·.advisory) = [] ↔ ∀ r' ∈ results, r'.advisory = true := by
    simp [List.filter_eq_nil_iff]
  rw [decidingResults]
  split
  · rename_i h
    exact ⟨fun hr => ⟨hr, .inr (hnil.1 h)⟩, fun hr => hr.1⟩
  · rename_i h
    rw [List.mem_filter]
    constructor
    · rintro ⟨hr, ha⟩
      exact ⟨hr, .inl (by simpa using ha)⟩
    · rintro ⟨hr, ha | ha⟩
      · exact ⟨hr, by simpa using ha⟩
      · exact absurd (hnil.2 ha) h

/-- The results that decide their axis, over all the axes. -/
def ScanReport.deciding (report : ScanReport) : List ScannerResult :=
  report.byCategory.flatMap (fun e => decidingResults e.2)

theorem ScanReport.mem_deciding_axis {report : ScanReport} {r : ScannerResult} :
    r ∈ report.deciding ↔ r ∈ decidingResults (report.axis r.category) := by
  rw [deciding, List.mem_flatMap]
  constructor
  · intro h
    obtain ⟨⟨c, rs⟩, he, hr⟩ := h
    obtain ⟨-, hrs⟩ := lookup_groupBy_some ((groupBy_unique _ _).lookup_of_mem he)
    subst hrs
    have hc := of_decide_eq_true (List.mem_filter.1 (mem_decidingResults_sub hr)).2
    subst hc
    exact hr
  · intro h
    have hres := List.mem_of_mem_filter (mem_decidingResults_sub h)
    have hl := report.lookup_byCategory r.category
    rw [if_pos (List.mem_map.2 ⟨r, hres, rfl⟩)] at hl
    exact ⟨_, Dict.mem_of_lookup hl, h⟩

theorem ScanReport.mem_deciding {report : ScanReport} {r : ScannerResult} :
    r ∈ report.deciding ↔ r ∈ report.results ∧ (r.advisory = false ∨
      ∀ r' ∈ report.results, r'.category = r.category → r'.advisory = true) := by
  rw [mem_deciding_axis, mem_decidingResults]
  simp only [axis, List.mem_filter, decide_eq_true_eq, and_true, and_imp]

theorem ScanReport.allErrored_iff {report : ScanReport} :
    report.allErrored = true ↔ report.detected = false ∧ report.deciding ≠ [] ∧
      ∀ r ∈ report.deciding, r.kind = .error := by
  rw [allErrored, ← deciding]
  cases report.detected with
  | true => exact iff_of_false Bool.false_ne_true (fun h => Bool.noConfusion h.1)
  | false => simp

end FileScanner
