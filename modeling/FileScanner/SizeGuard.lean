import FileScanner.Registry

namespace FileScanner
open Collections
set_option autoImplicit true

/-- The axis a name feeds, when its backend can be built. -/
def categoryOf (registry : Registry) (name : String) : Option String :=
  match getScanner registry name with
  | .ok scanner => some scanner.category
  | .error _ => none

def ScanReport.Decides (report : ScanReport) (name : String) : Prop :=
  ∃ e ∈ report.byCategory, ∃ r ∈ decidingResults e.2, r.scanner = name

/-- A named engine that is not advisory and feeds the same axis. -/
def HasDecidingSibling (settings : Settings) (registry : Registry) (names : List String)
    (name : String) : Prop :=
  ∃ n ∈ names, n ∉ advisoryScanners settings ∧ categoryOf registry n = categoryOf registry name

instance (report : ScanReport) (name : String) : Decidable (report.Decides name) :=
  inferInstanceAs (Decidable (∃ e ∈ report.byCategory, ∃ r ∈ decidingResults e.2, r.scanner = name))

instance (settings : Settings) (registry : Registry) (names : List String) (name : String) :
    Decidable (HasDecidingSibling settings registry names name) :=
  inferInstanceAs (Decidable (∃ n ∈ names, n ∉ advisoryScanners settings ∧
    categoryOf registry n = categoryOf registry name))

theorem ScanReport.decides_iff (report : ScanReport) (name : String) :
    report.Decides name ↔ ∃ r ∈ report.results, r.scanner = name ∧
      (r.advisory = false ∨
        ∀ r' ∈ report.results, r'.category = r.category → r'.advisory = true) := by
  have hflat : report.Decides name ↔ ∃ r ∈ report.deciding, r.scanner = name := by
    simp only [Decides, deciding, List.mem_flatMap]
    tauto
  rw [hflat]
  apply exists_congr
  intro r
  rw [mem_deciding]
  tauto

/-- In the report of a run, a scanner decides exactly when it is named and either is not
advisory or has no deciding sibling. -/
theorem decides_of_runScanners {settings : Settings} {env : ScanEnv} {names : List String}
    {report : ScanReport} (h : runScanners settings env names = .ok report) (name : String) :
    report.Decides name ↔ name ∈ names ∧ (name ∉ advisoryScanners settings ∨
      ¬ HasDecidingSibling settings env.registry names name) := by
  have hcat {n : String} {scanner : Scanner} (hs : getScanner env.registry n = .ok scanner) :
      categoryOf env.registry n = some scanner.category := by
    rw [categoryOf, hs]
  rw [report.decides_iff]
  constructor
  · rintro ⟨r, hr, hn, hdec⟩
    obtain ⟨n, hnames, scanner, hs, rfl⟩ := (mem_results_runScanners h).1 hr
    have hn : n = name := hn
    subst hn
    apply And.intro hnames
    rcases hdec with ha | hall
    · exact .inl (of_decide_eq_false ha)
    · apply Or.inr
      intro hsibling
      obtain ⟨n', hn', hna, he⟩ := hsibling
      obtain ⟨scanner', hs'⟩ := getScanner_of_runScanners h hn'
      rw [hcat hs, hcat hs'] at he
      have hadv := hall _ ((mem_results_runScanners h).2 ⟨n', hn', scanner', hs', rfl⟩)
        (Option.some.inj he)
      exact hna (of_decide_eq_true hadv)
  · rintro ⟨hnames, hdec⟩
    obtain ⟨scanner, hs⟩ := getScanner_of_runScanners h hnames
    refine ⟨_, (mem_results_runScanners h).2 ⟨name, hnames, scanner, hs, rfl⟩, rfl, ?_⟩
    rcases hdec with ha | hno
    · exact .inl (decide_eq_false ha)
    · apply Or.inr
      intro r' hr' hc'
      obtain ⟨n', hn', scanner', hs', rfl⟩ := (mem_results_runScanners h).1 hr'
      by_contra hadv
      refine hno ⟨n', hn', ?_, ?_⟩
      · intro hmem
        exact hadv (decide_eq_true hmem)
      · rw [hcat hs, hcat hs']
        exact congrArg some hc'

theorem assertSizeCapDecidable_ok_iff {settings : Settings} {names : List String} {cap : Nat}
    {capName : String} (hcap : CLAMAV_MAX_FILE_BYTES < cap) :
    assertSizeCapDecidable settings names cap capName = .ok () ↔
      ¬ ("clamav" ∈ names ∧ ("clamav" ∉ advisoryScanners settings ∨
        ∀ n ∈ names, n ∈ advisoryScanners settings)) := by
  rw [← mem_decidingScanners, assertSizeCapDecidable]
  split
  · rename_i h
    exact iff_of_false (nomatch ·) (fun hno => hno h.2)
  · rename_i h
    exact iff_of_true rfl (fun hmem => h ⟨hcap, hmem⟩)

/-- The guard over the whole selection and the report's view of each category agree exactly
when an advisory clamav among deciding engines has one of them on its own axis. -/
theorem size_cap_guard_agrees_iff (settings : Settings) (env : ScanEnv) (names : List String)
    (cap : Nat) (capName : String) (report : ScanReport) (hcap : CLAMAV_MAX_FILE_BYTES < cap)
    (hrun : runScanners settings env names = .ok report) :
    (assertSizeCapDecidable settings names cap capName = .ok () → ¬ report.Decides "clamav") ↔
      ("clamav" ∉ names ∨ "clamav" ∉ advisoryScanners settings ∨
        (∀ n ∈ names, n ∈ advisoryScanners settings) ∨
        HasDecidingSibling settings env.registry names "clamav") := by
  rw [assertSizeCapDecidable_ok_iff hcap, decides_of_runScanners hrun]
  tauto

/-- A deployment with an axis of its own next to an advisory clamav. -/
def nudenetSettings : Settings := { advisoryScanners := "clamav" }

def nudenetEnv : ScanEnv where
  registry := [("clamav", .ok { scan := fun _ => .ok clean }),
    ("nudenet", .ok { category := "nsfw", scored := true, scan := fun _ => .ok clean })]
  openFile := fun _ => .ok []
  elapsed := fun _ => 0

/-- Naming clamav with an engine of another axis passes the guard, and clamav decides. -/
theorem clamav_decides_past_the_guard :
    ∃ report, runScanners nudenetSettings nudenetEnv ["clamav", "nudenet"] = .ok report ∧
      CLAMAV_MAX_FILE_BYTES < 3 * 1024 ^ 3 ∧
      assertSizeCapDecidable nudenetSettings ["clamav", "nudenet"] (3 * 1024 ^ 3) "MAX_URL_SIZE"
        = .ok () ∧ report.Decides "clamav" :=
  ⟨_, rfl, by decide, by decide, by decide⟩

/-- The same deployment with a second engine of the axis of clamav. -/
def exavEnv : ScanEnv :=
  { nudenetEnv with
    registry := nudenetEnv.registry ++ [("exav", .ok { scan := fun _ => .ok clean })] }

theorem size_cap_guard_agrees_for_exav :
    ∃ report, runScanners nudenetSettings exavEnv ["clamav", "nudenet", "exav"] = .ok report ∧
      assertSizeCapDecidable nudenetSettings ["clamav", "nudenet", "exav"] (3 * 1024 ^ 3)
        "MAX_URL_SIZE" = .ok () ∧
      ¬ report.Decides "clamav" := by
  have hsibling : HasDecidingSibling nudenetSettings exavEnv.registry ["clamav", "nudenet", "exav"]
      "clamav" := ⟨"exav", by decide, by decide, by decide⟩
  have hguard : assertSizeCapDecidable nudenetSettings ["clamav", "nudenet", "exav"] (3 * 1024 ^ 3)
      "MAX_URL_SIZE" = .ok () := by decide
  exact ⟨_, rfl, hguard, (size_cap_guard_agrees_iff nudenetSettings exavEnv
    ["clamav", "nudenet", "exav"] (3 * 1024 ^ 3) "MAX_URL_SIZE" _ (by decide) rfl).2
    (.inr (.inr (.inr hsibling))) hguard⟩

end FileScanner
