import FileScanner.Lib.Fallible
import FileScanner.Registry

namespace FileScanner
open Collections Fallible
set_option autoImplicit true

/-- The process cannot build the backend, cannot open the file for it, or cannot carry out its
scan. -/
def Misbehaves (env : ScanEnv) (name : String) : Prop :=
  ∀ scanner data verdict, getScanner env.registry name = .ok scanner →
    env.openFile name = .ok data → scanner.scan data ≠ .ok verdict

/-- A report in which each name has its own result: an error where its backend misbehaved, else
the one it has when it runs alone, its time aside. -/
structure Isolated (settings : Settings) (env : ScanEnv) (names : List String)
    (report : ScanReport) : Prop where
  one : report.results.map (·.scanner) = names
  failed : ∀ r ∈ report.results, Misbehaves env r.scanner → r.kind = .error
  alone : ∀ r ∈ report.results, ¬ Misbehaves env r.scanner → ∀ elapsed,
    runScanners settings { env with elapsed := elapsed } [r.scanner] =
      .ok ⟨[{ r with time := elapsed r.scanner }]⟩

/-- A run of the scanners ends in such a report, on the path of a single name as on the pool. -/
structure Isolates (settings : Settings) (env : ScanEnv) (names : List String) : Prop where
  report : ∃ report, runScanners settings env names = .ok report ∧
    Isolated settings env names report
  paths : runScanners settings env names =
    (names.mapM (runOne settings env)).map ScanReport.mk

theorem scanOutcome_misbehaves {env : ScanEnv} {name : String} {scanner : Scanner}
    (hbuilt : getScanner env.registry name = .ok scanner) (h : Misbehaves env name) :
    (scanOutcome env name scanner).kind = .error := by
  rw [scanOutcome]
  split
  · rename_i verdict hok
    obtain ⟨data, hopen, hscan⟩ := bind_eq_ok.1 hok
    exact absurd hscan (h scanner data verdict hbuilt hopen)
  · rfl
  · rfl

/-- What a run records of a scanner does not depend on the others, nor on the time they take. -/
theorem runScanners_alone {settings : Settings} {env : ScanEnv} {name : String}
    {scanner : Scanner} (hbuilt : getScanner env.registry name = .ok scanner)
    (elapsed : String → Rat) :
    runScanners settings { env with elapsed := elapsed } [name] =
      .ok ⟨[{ scannerResult settings env name scanner with time := elapsed name }]⟩ := by
  rw [runScanners, runOne, hbuilt]
  rfl

theorem isolated_of_runScanners {settings : Settings} {env : ScanEnv} {names : List String}
    {report : ScanReport} (h : runScanners settings env names = .ok report) :
    Isolated settings env names report := by
  constructor
  · exact results_scanners h
  · intro r hr hbad
    obtain ⟨name, -, scanner, hbuilt, rfl⟩ := (mem_results_runScanners h).1 hr
    exact scanOutcome_misbehaves hbuilt hbad
  · intro r hr _ elapsed
    obtain ⟨name, -, scanner, hbuilt, rfl⟩ := (mem_results_runScanners h).1 hr
    exact runScanners_alone hbuilt elapsed

/-- The engines of a run are isolated from each other exactly when each of them can be built. -/
theorem siblings_isolated_iff (settings : Settings) (env : ScanEnv) (names : List String)
    (hne : names ≠ []) :
    Isolates settings env names ↔
      ∀ name ∈ names, ∃ scanner, getScanner env.registry name = .ok scanner := by
  constructor
  · intro h
    obtain ⟨report, hrun, -⟩ := h.report
    intro name hn
    exact getScanner_of_runScanners hrun hn
  · intro hbuilt
    obtain ⟨report, hrun⟩ := exists_report settings env hne hbuilt
    constructor
    · exact ⟨report, hrun, isolated_of_runScanners hrun⟩
    · exact runScanners_eq settings env hne

/-- A worker without the credentials of JCOP, where clamav finds a virus. -/
def unconfiguredEnv : ScanEnv where
  registry := [("clamav", .ok { scan := fun _ => .ok (malware (.str "Eicar-Signature")) }),
    ("jcop", .error (.runtimeError "JCOP backend requires JCOP_BASE_URL and JCOP_API_KEY"))]
  openFile := fun _ => .ok []
  elapsed := fun _ => 0

/-- The detection clamav makes alone is lost next to a backend that cannot be built. -/
theorem unconfigured_sibling_aborts :
    (∃ report, runScanners {} unconfiguredEnv ["clamav"] = .ok report ∧
        report.malware = true) ∧
      runScanners {} unconfiguredEnv ["clamav", "jcop"] =
        .error (.runtimeError "JCOP backend requires JCOP_BASE_URL and JCOP_API_KEY") ∧
      ¬ Isolates {} unconfiguredEnv ["clamav", "jcop"] := by
  have habort : runScanners {} unconfiguredEnv ["clamav", "jcop"] =
      .error (.runtimeError "JCOP backend requires JCOP_BASE_URL and JCOP_API_KEY") := rfl
  refine ⟨⟨_, rfl, rfl⟩, habort, ?_⟩
  intro h
  obtain ⟨report, hrun, -⟩ := h.report
  rw [habort] at hrun
  cases hrun

/-- A backend with a bug in it, next to one that is healthy. -/
def crashingEnv : ScanEnv where
  registry := [("crash", .ok { scan := fun _ => .error (.valueError "boom") }),
    ("ok", .ok { scan := fun _ => .ok clean })]
  openFile := fun _ => .ok []
  elapsed := fun _ => 0

theorem siblings_isolated_crash : Isolates {} crashingEnv ["crash", "ok"] := by
  apply (siblings_isolated_iff {} crashingEnv ["crash", "ok"] (by decide)).2
  intro name hn
  rcases List.mem_pair.1 hn with rfl | rfl
  · exact ⟨_, rfl⟩
  · exact ⟨_, rfl⟩

end FileScanner
