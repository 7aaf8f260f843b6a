import FileScanner.App.Scan
import FileScanner.Backends
import FileScanner.Precedence
import Mathlib.Data.Rat.Floor

namespace FileScanner
open Collections Orders Fallible
set_option autoImplicit true

def ScanReport.malwareKind (report : ScanReport) : Option Kind :=
  (report.verdicts.lookup "malware").map (·.kind)

def ScanReport.malwareScalar (report : ScanReport) : Json :=
  getKey (toV1 report.asDict) "malware"

structure ScanReport.MalwareOnly (report : ScanReport) : Prop where
  ran : report.results ≠ []
  category : ∀ r ∈ report.results, r.category = "malware"
  scored : ∀ r ∈ report.results, r.scored = false

def scalarOfKind : Kind → Json
  | .clean => .bool false
  | .malware | .flagged => .bool true
  | .partialScan | .error => .null

theorem scalar_unscored {v : CategoryVerdict} (h : v.score = none) :
    scalar v.asDict = scalarOfKind v.kind := by
  have hscore := getKey_score_asDict v
  rw [h, Option.map_none, Option.getD_none] at hscore
  rw [scalar, getKey_kind_asDict, hscore]
  cases v.kind <;> rfl

section MalwareOnly
variable {report : ScanReport} (h : report.MalwareOnly)
include h

theorem ScanReport.MalwareOnly.verdict :
    report.verdicts.lookup "malware" = some (discreteVerdict report.results) := by
  have haxis : report.axis "malware" = report.results :=
    List.filter_eq_self.2 (fun r hr => decide_eq_true (h.category r hr))
  obtain ⟨r, rs, hrs⟩ := List.exists_cons_of_ne_nil h.ran
  have hr : r ∈ report.results := by rw [hrs]; exact List.mem_cons_self
  have hc : "malware" ∈ report.results.map (·.category) :=
    List.mem_map.2 ⟨r, hr, h.category r hr⟩
  have hns : ¬ (report.results ≠ [] ∧ report.results.all (·.scored) = true) := by
    rintro ⟨-, hall⟩
    have hs := List.all_eq_true.1 hall r hr
    rw [h.scored r hr] at hs
    cases hs
  rw [report.lookup_verdicts, if_pos hc, haxis, categoryVerdict, if_neg hns]

theorem ScanReport.MalwareOnly.malwareKind_eq :
    report.malwareKind = some (documentedKind report.results) := by
  rw [malwareKind, h.verdict, Option.map_some, discreteVerdict_kind]

theorem ScanReport.MalwareOnly.malwareScalar_eq :
    report.malwareScalar = scalarOfKind (documentedKind report.results) := by
  rw [malwareScalar, getKey_of_lookup (ScanReport.lookup_toV1 rfl h.verdict),
    scalar_unscored (discreteVerdict_score _), discreteVerdict_kind]

end MalwareOnly

theorem documentedKind_malware {results : List ScannerResult} {r : ScannerResult}
    (hr : r ∈ results) (hk : r.kind = .malware) : documentedKind results = .malware :=
  if_pos ⟨r, hr, hk⟩

theorem deciding_clean_of_documentedKind {results : List ScannerResult}
    (h : documentedKind results = .clean) {r : ScannerResult} (hr : r ∈ decidingResults results) :
    r.kind = .clean := by
  rw [documentedKind_eq_axisKind, axisKind] at h
  have hmem := mem_decidingResults_sub hr
  have hle := le_highest (List.mem_map.2 ⟨r, hmem, evidence_of_scope (.inr hr) hmem⟩)
  rw [h] at hle
  exact le_bot_iff.1 hle

theorem ScanReport.allErrored_of_malware {report : ScanReport} {r : ScannerResult}
    (hr : r ∈ report.results) (hk : r.kind = .malware) : report.allErrored = false := by
  have hdet : report.detected = true :=
    List.any_eq_true.2 ⟨r, hr, detection_iff.2 (.inl hk)⟩
  rw [allErrored, hdet]
  rfl

theorem scanOutcome_of_ok {env : ScanEnv} {name : String} {scanner : Scanner} {data : Bytes}
    {v : Verdict} (ho : env.openFile name = .ok data) (hs : scanner.scan data = .ok v) :
    scanOutcome env name scanner = v := by
  have hb : (env.openFile name).bind scanner.scan = .ok v := bind_eq_ok.2 ⟨data, ho, hs⟩
  rw [scanOutcome, hb]

theorem scanOutcome_clean {env : ScanEnv} {name : String} {scanner : Scanner}
    (h : (scanOutcome env name scanner).kind = .clean) :
    ∃ data v, env.openFile name = .ok data ∧ scanner.scan data = .ok v ∧ v.kind = .clean := by
  rw [scanOutcome] at h
  split at h
  · rename_i v hb
    obtain ⟨data, ho, hs⟩ := bind_eq_ok.1 hb
    exact ⟨data, v, ho, hs, h⟩
  · cases h
  · cases h

theorem scannerResult_mem_deciding {settings : Settings} {env : ScanEnv} {names : List String}
    {report : ScanReport} (hrun : runScanners settings env names = .ok report) {name : String}
    (hd : name ∈ decidingScanners settings names) {scanner : Scanner}
    (hs : getScanner env.registry name = .ok scanner) :
    scannerResult settings env name scanner ∈ decidingResults report.results := by
  obtain ⟨hn, hadv⟩ := mem_decidingScanners.1 hd
  apply mem_decidingResults.2
  apply And.intro ((mem_results_runScanners hrun).2 ⟨name, hn, scanner, hs, rfl⟩)
  apply hadv.imp (fun h => decide_eq_false h)
  intro hall r hr
  obtain ⟨n, hn', scanner', -, rfl⟩ := (mem_results_runScanners hrun).1 hr
  exact decide_eq_true (hall n hn')

def Cleared (py : Python) (settings : Settings) (engines : Engines)
    (openFile : String → Except Exc Bytes) (name : String) : Prop :=
  ∃ data, openFile name = .ok data ∧ AllClear py settings engines name data

/-- The engine of this name reported a detection in the file it was given. -/
def Reported (py : Python) (settings : Settings) (engines : Engines)
    (openFile : String → Except Exc Bytes) (name : String) : Prop :=
  ∃ data, openFile name = .ok data ∧ Detects py settings engines name data

section Shipped
variable {py : Python} {settings : Settings} {engines : Engines}
  {openFile : String → Except Exc Bytes} {elapsed : String → Rat} {names : List String}
  {report : ScanReport}
  (hrun : runScanners settings ⟨BUILDERS py settings engines, openFile, elapsed⟩ names
    = .ok report)
include hrun

theorem malwareOnly_of_shipped : report.MalwareOnly where
  ran := by
    have hall := runScanners_forall₂ hrun
    rintro hnil
    rw [hnil] at hall
    cases hall
    cases hrun
  category r hr := by
    obtain ⟨n, -, scanner, hs, rfl⟩ := (mem_results_runScanners hrun).1 hr
    exact (builders_faithful hs).1
  scored r hr := by
    obtain ⟨n, -, scanner, hs, rfl⟩ := (mem_results_runScanners hrun).1 hr
    exact (builders_faithful hs).2.1

theorem exists_malware_of_reported {name : String} (hn : name ∈ names)
    (h : Reported py settings engines openFile name) :
    ∃ r ∈ report.results, r.kind = .malware := by
  obtain ⟨data, ho, hdet⟩ := h
  obtain ⟨scanner, hs⟩ := getScanner_of_runScanners hrun hn
  obtain ⟨v, hv, hk⟩ := (builders_faithful hs).2.2.finds data hdet
  refine ⟨_, (mem_results_runScanners hrun).2 ⟨name, hn, scanner, hs, rfl⟩, ?_⟩
  rw [scannerResult, scanOutcome_of_ok ho hv]
  exact hk

theorem cleared_of_documentedKind (h : documentedKind report.results = .clean) {name : String}
    (hd : name ∈ decidingScanners settings names) :
    Cleared py settings engines openFile name := by
  obtain ⟨scanner, hs⟩ := getScanner_of_runScanners hrun (mem_decidingScanners.1 hd).1
  have hk := deciding_clean_of_documentedKind h (scannerResult_mem_deciding hrun hd hs)
  obtain ⟨data, v, ho, hv, hc⟩ := scanOutcome_clean hk
  exact ⟨data, ho, (builders_faithful hs).2.2.clears data v hv hc⟩

end Shipped

def tickingClock : Clock where
  read n := n
  monotone _ _ h := Nat.cast_le.2 h
  reach t := ⌈t⌉₊
  reaches t := Nat.le_ceil t

/-- clamd names a signature, exav cannot be reached and JCOP is not asked. -/
def infectedEngines : Engines where
  instream _ := .ok (some [("stream", "FOUND", some "Eicar-Signature")])
  exinstream _ := .error (.connectionError "Error connecting to exav:3310")
  jcopReply _ := .error "no route to host"
  clock := tickingClock
  sha256 _ := ""

def clamavAdvisory : Settings := { advisoryScanners := "clamav", exavHosts := "exav:3310" }

end FileScanner
