import FileScanner.Config
import FileScanner.Lib.Traverse
import FileScanner.Report
import Mathlib.Tactic.Common

namespace FileScanner
open Collections
set_option autoImplicit true

/-- libclamav's ceiling on one file; a bigger one is skipped rather than scanned. -/
def CLAMAV_MAX_FILE_BYTES : Nat := 2 ^ 31 - 3

/-- A pluggable file scanner: the axis it feeds and what `scan` does with a file. -/
structure Scanner where
  category : String := "malware"
  scored : Bool := false
  scan : Bytes → Except Exc Verdict

/-- `_BUILDERS`: each public name with what its builder gives in this process. -/
abbrev Registry := Dict String (Except Exc Scanner)

def getScanner (registry : Registry) (name : String) : Except Exc Scanner :=
  match registry.lookup name with
  | some built => built
  | none => .error (.keyError name)

def Json.elements : Json → Except Exc (List Json)
  | .list xs => .ok xs
  | .str s => .ok (s.toList.map (fun c => .str (String.singleton c)))
  | .obj entries => .ok (entries.map (fun e => .str e.1))
  | v => .error (.typeError ("'" ++ v.typeName ++ "' object is not iterable"))

def categoryMap (py : Python) (settings : Settings) : Except Exc (Dict String (List Json)) :=
  let raw := strip settings.defaultScanners.toList
  if raw = [] then .ok []
  else
    match py.loads (String.ofList raw) with
    | .error (.jsonDecodeError m) =>
      .error (.runtimeError ("DEFAULT_SCANNERS must be JSON \x7bcategory: [scanners]\x7d: " ++ m))
    | .error e => .error e
    | .ok (.obj entries) => entries.mapM (fun e => e.2.elements.map (fun names => (e.1, names)))
    | .ok _ =>
      .error (.runtimeError
        "DEFAULT_SCANNERS must be a JSON object \x7bcategory: [scanners]\x7d")

def defaultCategories (settings : Settings) : List String := commaList settings.defaultCategories

def sortedRepr (py : Python) (names : List String) : String :=
  py.repr (.list ((names.mergeSort (fun a b => decide (a ≤ b))).map .str))

/-- The engines the map composes the asked categories of, in the order asked. -/
def expandCategories (py : Python) (catMap : Dict String (List Json)) :
    List String → Except Exc (List Json)
  | [] => .ok []
  | cat :: cats =>
    match catMap.lookup cat with
    | none => .error (.valueError ("unknown category " ++ py.repr (.str cat) ++ "; available: "
        ++ sortedRepr py (catMap.map Prod.fst)))
    | some names => (expandCategories py catMap cats).map (names ++ ·)

def Json.unhashable : Json → Bool
  | .list _ | .obj _ => true
  | _ => false

/-- Equality of dictionary keys, on the ones that can name a scanner. -/
def Json.sameName : Json → Json → Bool
  | .str a, .str b => a == b
  | _, _ => false

/-- One round of the availability loop: the name, when its backend can be built. -/
def checkAvailable (py : Python) (registry : Registry) (name : Json) : Except Exc String :=
  let unknown := Exc.valueError ("unknown scanner " ++ py.repr name ++ "; available: "
    ++ sortedRepr py (registry.map Prod.fst))
  match name with
  | .str s =>
    if (registry.lookup s).isNone then .error unknown
    else
      match getScanner registry s with
      | .ok _ => .ok s
      | .error (.runtimeError m) =>
        .error (.valueError ("scanner " ++ py.repr name ++ " is not available: " ++ m))
      | .error e => .error e
  | _ => .error unknown

/-- A request's categories union its scanners, as an ordered list of names without
repetition; absent selectors are the empty list. -/
def resolveScanners (py : Python) (settings : Settings) (registry : Registry)
    (categories scanners : List String) : Except Exc (List String) := do
  let catMap ← categoryMap py settings
  let categories := if categories = [] ∧ scanners = [] then defaultCategories settings
    else categories
  let expanded ← expandCategories py catMap categories
  let names := expanded ++ scanners.map .str
  match names.find? Json.unhashable with
  | some v => .error (.typeError ("unhashable type: '" ++ v.typeName ++ "'"))
  | none =>
    let deduped := names.eraseDupsBy Json.sameName
    if deduped.isEmpty then
      .error (.valueError
        "no scanners selected (DEFAULT_CATEGORIES / DEFAULT_SCANNERS empty?)")
    else deduped.mapM (checkAvailable py registry)

def advisoryScanners (settings : Settings) : List String := commaList settings.advisoryScanners

def decidingScanners (settings : Settings) (names : List String) : List String :=
  if names.filter (· ∉ advisoryScanners settings) = [] then names
  else names.filter (· ∉ advisoryScanners settings)

/-- Refuse a selection clamav would decide on a file it cannot scan in full. -/
def assertSizeCapDecidable (settings : Settings) (names : List String) (cap : Nat)
    (capName : String) : Except Exc Unit :=
  if CLAMAV_MAX_FILE_BYTES < cap ∧ "clamav" ∈ decidingScanners settings names then
    .error (.valueError ("clamav cannot decide a scan with " ++ capName ++ " above "
      ++ toString CLAMAV_MAX_FILE_BYTES ++ " bytes: name a deciding engine next to it"))
  else .ok ()

/-- What the process brings to a run of the scanners: its backends, what opening the file
gives each of them, and how long each took. -/
structure ScanEnv where
  registry : Registry
  openFile : String → Except Exc Bytes
  elapsed : String → Rat

/-- What opening the file and scanning it comes to; every exception is an error result. -/
def scanOutcome (env : ScanEnv) (name : String) (scanner : Scanner) : Verdict :=
  match (env.openFile name).bind scanner.scan with
  | .ok verdict => verdict
  | .error (.scannerError m) => { kind := .error, reason := .str m }
  | .error e => { kind := .error, reason := .str ("internal error: " ++ e.msg) }

def scannerResult (settings : Settings) (env : ScanEnv) (name : String) (scanner : Scanner) :
    ScannerResult :=
  let v := scanOutcome env name scanner
  { scanner := name, category := scanner.category, kind := v.kind, reason := v.reason,
    score := v.score, location := v.location, time := env.elapsed name,
    scored := scanner.scored, advisory := decide (name ∈ advisoryScanners settings) }

def runOne (settings : Settings) (env : ScanEnv) (name : String) : Except Exc ScannerResult :=
  (getScanner env.registry name).map (scannerResult settings env name)

/-- Run each named scanner and collect the report, in the order of the names. -/
def runScanners (settings : Settings) (env : ScanEnv) : List String → Except Exc ScanReport
  | [name] => (runOne settings env name).map (fun r => ⟨[r]⟩)
  | [] => .error (.valueError "max_workers must be greater than 0")
  | names => (names.mapM (runOne settings env)).map ScanReport.mk

theorem mem_decidingScanners {settings : Settings} {names : List String} {name : String} :
    name ∈ decidingScanners settings names ↔
      name ∈ names ∧ (name ∉ advisoryScanners settings ∨
        ∀ n ∈ names, n ∈ advisoryScanners settings) := by
  have hnil : names.filter (· ∉ advisoryScanners settings) = [] ↔
      ∀ n ∈ names, n ∈ advisoryScanners settings := by
    simp [List.filter_eq_nil_iff]
  rw [decidingScanners]
  split
  · rename_i h
    exact ⟨fun hn => ⟨hn, .inr (hnil.1 h)⟩, fun hn => hn.1⟩
  · rename_i h
    rw [List.mem_filter]
    constructor
    · rintro ⟨hn, ha⟩
      exact ⟨hn, .inl (of_decide_eq_true ha)⟩
    · rintro ⟨hn, ha | ha⟩
      · exact ⟨hn, decide_eq_true ha⟩
      · exact absurd (hnil.2 ha) h

/-- The fast path for a single name and the pool for several agree. -/
theorem runScanners_eq (settings : Settings) (env : ScanEnv) {names : List String}
    (hne : names ≠ []) :
    runScanners settings env names =
      (names.mapM (runOne settings env)).map ScanReport.mk := by
  match names, hne with
  | [name], _ =>
    rw [runScanners, List.mapM_cons, List.mapM_nil]
    cases runOne settings env name <;> rfl
  | n₁ :: n₂ :: names, _ =>
    rw [runScanners]
    · intro name h
      cases h
    · exact List.cons_ne_nil _ _

theorem runScanners_forall₂ {settings : Settings} {env : ScanEnv} {names : List String}
    {report : ScanReport} (h : runScanners settings env names = .ok report) :
    List.Forall₂ (fun name r => runOne settings env name = .ok r) names report.results := by
  have hne : names ≠ [] := by
    intro hnil
    subst hnil
    cases h
  rw [runScanners_eq settings env hne] at h
  cases hr : names.mapM (runOne settings env) with
  | error e =>
    rw [hr] at h
    cases h
  | ok rs =>
    rw [hr] at h
    cases h
    exact mapM_ok_forall₂ hr

theorem runOne_eq_ok {settings : Settings} {env : ScanEnv} {name : String} {r : ScannerResult}
    (h : runOne settings env name = .ok r) :
    ∃ scanner, getScanner env.registry name = .ok scanner ∧
      r = scannerResult settings env name scanner := by
  rw [runOne] at h
  cases hs : getScanner env.registry name with
  | error e =>
    rw [hs] at h
    cases h
  | ok scanner =>
    rw [hs] at h
    cases h
    exact ⟨scanner, rfl, rfl⟩

theorem mem_results_runScanners {settings : Settings} {env : ScanEnv} {names : List String}
    {report : ScanReport} (h : runScanners settings env names = .ok report) {r : ScannerResult} :
    r ∈ report.results ↔ ∃ name ∈ names, ∃ scanner,
      getScanner env.registry name = .ok scanner ∧ r = scannerResult settings env name scanner := by
  have hall := runScanners_forall₂ h
  constructor
  · intro hr
    obtain ⟨name, hn, hone⟩ := forall₂_exists_left hall hr
    exact ⟨name, hn, runOne_eq_ok hone⟩
  · rintro ⟨name, hn, scanner, hs, rfl⟩
    obtain ⟨r, hr, hone⟩ := forall₂_exists_right hall hn
    have he : runOne settings env name = .ok (scannerResult settings env name scanner) := by
      rw [runOne, hs]
      rfl
    rw [he] at hone
    cases hone
    exact hr

theorem exists_report (settings : Settings) (env : ScanEnv) {names : List String}
    (hne : names ≠ [])
    (hbuilt : ∀ n ∈ names, ∃ scanner, getScanner env.registry n = .ok scanner) :
    ∃ report, runScanners settings env names = .ok report := by
  have hone (n : String) (hn : n ∈ names) : ∃ r, runOne settings env n = .ok r := by
    obtain ⟨scanner, hs⟩ := hbuilt n hn
    rw [runOne, hs]
    exact ⟨_, rfl⟩
  obtain ⟨rs, hrs⟩ := exists_mapM_ok hone
  rw [runScanners_eq settings env hne, hrs]
  exact ⟨_, rfl⟩

theorem getScanner_of_runScanners {settings : Settings} {env : ScanEnv} {names : List String}
    {report : ScanReport} (h : runScanners settings env names = .ok report) {name : String}
    (hn : name ∈ names) : ∃ scanner, getScanner env.registry name = .ok scanner := by
  obtain ⟨r, -, hone⟩ := forall₂_exists_right (runScanners_forall₂ h) hn
  obtain ⟨scanner, hs, -⟩ := runOne_eq_ok hone
  exact ⟨scanner, hs⟩

theorem results_scanners {settings : Settings} {env : ScanEnv} {names : List String}
    {report : ScanReport} (h : runScanners settings env names = .ok report) :
    report.results.map (·.scanner) = names := by
  have hall := runScanners_forall₂ h
  clear h
  generalize report.results = results at hall
  induction hall with
  | nil => rfl
  | cons hone _ ih =>
    obtain ⟨scanner, -, rfl⟩ := runOne_eq_ok hone
    rw [List.map_cons, ih]
    rfl

end FileScanner
