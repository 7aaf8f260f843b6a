import FileScanner.Boot
import FileScanner.Lib.Dedup

namespace FileScanner
open Collections Fallible
set_option autoImplicit true

def Json.text? : Json → Option String
  | .str s => some s
  | _ => none

/-- The engines the map lists under a category. -/
def namesUnder (catMap : Dict String (List Json)) (c : String) : List String :=
  ((catMap.lookup c).getD []).filterMap Json.text?

/-- What a request asks for, in its order and with its repetitions. -/
def asked (catMap : Dict String (List Json)) (cs ss : List String) : List String :=
  cs.flatMap (namesUnder catMap) ++ ss

/-- The categories a request asks for; one that selects nothing asks for the default ones. -/
def askedCategories (settings : Settings) (cs ss : List String) : List String :=
  if cs = [] ∧ ss = [] then defaultCategories settings else cs

/-- The categories a report answers. -/
def ScanReport.categories (report : ScanReport) : List String := report.verdicts.map Prod.fst

theorem ScanReport.mem_categories {report : ScanReport} {c : String} :
    c ∈ report.categories ↔ c ∈ report.results.map (·.category) := by
  rw [categories, Dict.mem_keys, report.lookup_verdicts]
  split
  · rename_i h
    exact iff_of_true ⟨_, rfl⟩ h
  · rename_i h
    exact iff_of_false (fun he => nomatch he.choose_spec) h

theorem getScanner_of_lookup {registry : Registry} {name : String} {scanner : Scanner}
    (h : registry.lookup name = some (.ok scanner)) : getScanner registry name = .ok scanner := by
  rw [getScanner, h]

theorem lookup_of_getScanner {registry : Registry} {name : String} {scanner : Scanner}
    (h : getScanner registry name = .ok scanner) : registry.lookup name = some (.ok scanner) := by
  rw [getScanner] at h
  split at h
  · rename_i built hb
    rw [hb, h]
  · cases h

theorem checkAvailable_ok {py : Python} {registry : Registry} {name : String} {scanner : Scanner}
    (h : getScanner registry name = .ok scanner) :
    checkAvailable py registry (.str name) = .ok name := by
  simp only [checkAvailable, lookup_of_getScanner h, h]
  rfl

theorem expandCategories_keys {py : Python} {catMap : Dict String (List Json)} {cs : List String}
    {names : List Json} (h : expandCategories py catMap cs = .ok names) :
    ∀ c ∈ cs, c ∈ catMap.map Prod.fst := by
  induction cs generalizing names with
  | nil => exact fun _ hc => absurd hc List.not_mem_nil
  | cons c cs ih =>
    rw [expandCategories] at h
    split at h
    · cases h
    · rename_i listed hlookup
      cases hrest : expandCategories py catMap cs with
      | error e =>
        rw [hrest] at h
        cases h
      | ok rest => exact List.forall_mem_cons.2 ⟨Dict.mem_keys.2 ⟨listed, hlookup⟩, ih hrest⟩

theorem checkAvailable_inv {py : Python} {registry : Registry} {n m : String}
    (h : checkAvailable py registry (.str n) = .ok m) :
    m = n ∧ ∃ scanner, getScanner registry n = .ok scanner := by
  simp only [checkAvailable] at h
  split at h
  · cases h
  · split at h
    · rename_i scanner hs
      cases h
      exact ⟨rfl, scanner, hs⟩
    · cases h
    · cases h

section Booted
variable {registry : Registry} {catMap : Dict String (List Json)}
  (hfit : ∀ entry ∈ catMap, CategoryFit registry entry)
include hfit

theorem namesUnder_of_lookup {c : String} {names : List Json} (h : catMap.lookup c = some names) :
    (namesUnder catMap c).map .str = names := by
  have hmem := Dict.mem_of_lookup h
  have htext : ∀ name ∈ names, name.text?.map .str = some name := by
    intro name hname
    obtain ⟨s, -, rfl, -⟩ := (hfit _ hmem).fit name hname
    rfl
  rw [namesUnder, h, Option.getD_some, List.map_filterMap, List.filterMap_congr htext]
  exact List.filterMap_some

/-- A configured category lists at least one engine, and each one listed declares it. -/
theorem namesUnder_fit {c : String} (hc : c ∈ catMap.map Prod.fst) :
    namesUnder catMap c ≠ [] ∧ ∀ n ∈ namesUnder catMap c, ∃ scanner,
      getScanner registry n = .ok scanner ∧ scanner.category = c := by
  obtain ⟨names, hlookup⟩ := Dict.mem_keys.1 hc
  have hmem := Dict.mem_of_lookup hlookup
  have hnames := namesUnder_of_lookup hfit hlookup
  constructor
  · intro hnil
    rw [hnil] at hnames
    exact (hfit _ hmem).nonempty hnames.symm
  · intro n hn
    have hjson : Json.str n ∈ names := by
      rw [← hnames]
      exact List.mem_map_of_mem hn
    obtain ⟨s, scanner, hs, hbuilt, hcat⟩ := (hfit _ hmem).fit _ hjson
    cases hs
    exact ⟨scanner, getScanner_of_lookup hbuilt, hcat⟩

theorem expandCategories_ok (py : Python) {cs : List String}
    (hcs : ∀ c ∈ cs, c ∈ catMap.map Prod.fst) :
    expandCategories py catMap cs = .ok ((cs.flatMap (namesUnder catMap)).map .str) := by
  induction cs with
  | nil => rfl
  | cons c cs ih =>
    obtain ⟨hc, hcs'⟩ := List.forall_mem_cons.1 hcs
    obtain ⟨names, hlookup⟩ := Dict.mem_keys.1 hc
    rw [expandCategories, hlookup, ih hcs', List.flatMap_cons, List.map_append,
      namesUnder_of_lookup hfit hlookup]
    rfl

theorem getScanner_asked {cs ss : List String} (hcs : ∀ c ∈ cs, c ∈ catMap.map Prod.fst)
    (hss : ∀ n ∈ ss, ∃ scanner, getScanner registry n = .ok scanner) {n : String}
    (hn : n ∈ asked catMap cs ss) : ∃ scanner, getScanner registry n = .ok scanner := by
  rcases List.mem_append.1 hn with hn | hn
  · obtain ⟨c, hc, hnc⟩ := List.mem_flatMap.1 hn
    obtain ⟨scanner, hs, -⟩ := (namesUnder_fit hfit (hcs c hc)).2 n hnc
    exact ⟨scanner, hs⟩
  · exact hss n hn

theorem asked_ne_nil {cs ss : List String} (hcs : ∀ c ∈ cs, c ∈ catMap.map Prod.fst)
    (hne : ¬ (cs = [] ∧ ss = [])) : asked catMap cs ss ≠ [] := by
  intro hnil
  obtain ⟨hmapped, hss⟩ := List.append_eq_nil_iff.1 hnil
  apply hne
  apply And.intro _ hss
  rw [List.eq_nil_iff_forall_not_mem]
  intro c hc
  exact (namesUnder_fit hfit (hcs c hc)).1 (List.flatMap_eq_nil_iff.1 hmapped c hc)

/-- The selection as names: those asked for, each once, then checked one by one. -/
theorem resolveScanners_expanded (py : Python) {settings : Settings} {cs ss : List String}
    (hmap : categoryMap py settings = .ok catMap)
    (hcs : ∀ c ∈ askedCategories settings cs ss, c ∈ catMap.map Prod.fst) :
    resolveScanners py settings registry cs ss =
      let names := (asked catMap (askedCategories settings cs ss) ss).eraseDups
      if names = [] then
        .error (.valueError "no scanners selected (DEFAULT_CATEGORIES / DEFAULT_SCANNERS empty?)")
      else (names.map .str).mapM (checkAvailable py registry) := by
  have hnames : ((askedCategories settings cs ss).flatMap (namesUnder catMap)).map Json.str
      ++ ss.map .str = (asked catMap (askedCategories settings cs ss) ss).map .str :=
    List.map_append.symm
  have hhash (names : List String) : (names.map Json.str).find? Json.unhashable = none := by
    rw [List.find?_eq_none]
    intro v hv
    obtain ⟨n, -, rfl⟩ := List.mem_map.1 hv
    exact Bool.false_ne_true
  have hdedup (names : List String) : (names.map Json.str).eraseDupsBy Json.sameName =
      names.eraseDups.map .str := eraseDupsBy_map _ _ _
  rw [resolveScanners, hmap, ok_bind, ← askedCategories]
  dsimp only
  rw [expandCategories_ok hfit py hcs, ok_bind, hnames, hhash]
  dsimp only
  rw [hdedup, List.isEmpty_map]
  simp only [List.isEmpty_iff]

theorem resolveScanners_ok (py : Python) {settings : Settings} {cs ss : List String}
    (hmap : categoryMap py settings = .ok catMap) (hcs : ∀ c ∈ cs, c ∈ catMap.map Prod.fst)
    (hss : ∀ n ∈ ss, ∃ scanner, getScanner registry n = .ok scanner)
    (hne : ¬ (cs = [] ∧ ss = [])) :
    resolveScanners py settings registry cs ss = .ok (asked catMap cs ss).eraseDups := by
  have hasked : askedCategories settings cs ss = cs := if_neg hne
  have havailable : ∀ n ∈ (asked catMap cs ss).eraseDups,
      checkAvailable py registry (.str n) = .ok n := by
    intro n hn
    obtain ⟨scanner, hs⟩ := getScanner_asked hfit hcs hss (List.mem_eraseDups.1 hn)
    exact checkAvailable_ok hs
  rw [resolveScanners_expanded hfit py hmap (by rwa [hasked]), hasked]
  dsimp only
  rw [if_neg (eraseDups_ne_nil (asked_ne_nil hfit hcs hne))]
  exact mapM_map_ok havailable

/-- A request that is accepted resolves to what it asks for, and every engine of it runs. -/
theorem resolveScanners_eq_ok {py : Python} {settings : Settings} {cs ss names : List String}
    (hmap : categoryMap py settings = .ok catMap)
    (h : resolveScanners py settings registry cs ss = .ok names) :
    names = (asked catMap (askedCategories settings cs ss) ss).eraseDups ∧ names ≠ [] ∧
      (∀ c ∈ askedCategories settings cs ss, c ∈ catMap.map Prod.fst) ∧
      ∀ n ∈ names, ∃ scanner, getScanner registry n = .ok scanner := by
  have hcs : ∀ c ∈ askedCategories settings cs ss, c ∈ catMap.map Prod.fst := by
    have hresolve := h
    rw [resolveScanners, hmap, ok_bind, ← askedCategories] at hresolve
    obtain ⟨expanded, hexpanded, -⟩ := bind_eq_ok.1 hresolve
    exact expandCategories_keys hexpanded
  rw [resolveScanners_expanded hfit py hmap hcs] at h
  dsimp only at h
  split at h
  · cases h
  · rename_i hne
    have hnames := eq_of_mapM_map_ok (fun n m hm => (checkAvailable_inv hm).1) h
    refine ⟨hnames, hnames ▸ hne, hcs, ?_⟩
    intro n hn
    rw [hnames] at hn
    obtain ⟨m, -, hm⟩ := forall₂_exists_right (mapM_ok_forall₂ h) (List.mem_map_of_mem hn)
    exact (checkAvailable_inv hm).2

/-- Each scanner of a report feeds an axis that was asked for, and each axis asked for is fed. -/
theorem mem_categories_asked {settings : Settings} {env : ScanEnv} {cs ss : List String}
    {report : ScanReport} (hregistry : env.registry = registry)
    (hcs : ∀ c ∈ cs, c ∈ catMap.map Prod.fst)
    (hrun : runScanners settings env (asked catMap cs ss).eraseDups = .ok report) (c : String) :
    c ∈ report.categories ↔ c ∈ cs ∨
      ∃ n ∈ ss, ∃ scanner, getScanner registry n = .ok scanner ∧ scanner.category = c := by
  subst hregistry
  have hmem : c ∈ report.categories ↔ ∃ n ∈ asked catMap cs ss, ∃ scanner,
      getScanner env.registry n = .ok scanner ∧ scanner.category = c := by
    rw [ScanReport.mem_categories, List.mem_map]
    constructor
    · intro h
      obtain ⟨r, hr, hc⟩ := h
      obtain ⟨n, hn, scanner, hs, rfl⟩ := (mem_results_runScanners hrun).1 hr
      exact ⟨n, List.mem_eraseDups.1 hn, scanner, hs, hc⟩
    · intro h
      obtain ⟨n, hn, scanner, hs, hc⟩ := h
      exact ⟨_, (mem_results_runScanners hrun).2
        ⟨n, List.mem_eraseDups.2 hn, scanner, hs, rfl⟩, hc⟩
  rw [hmem]
  constructor
  · intro h
    obtain ⟨n, hn, scanner, hs, hc⟩ := h
    rcases List.mem_append.1 hn with hn | hn
    · obtain ⟨c', hc', hnc⟩ := List.mem_flatMap.1 hn
      obtain ⟨scanner', hs', hcat⟩ := (namesUnder_fit hfit (hcs c' hc')).2 n hnc
      rw [hs, Except.ok.injEq] at hs'
      subst hs'
      rw [← hc, hcat]
      exact .inl hc'
    · exact .inr ⟨n, hn, scanner, hs, hc⟩
  · intro h
    rcases h with hc | ⟨n, hn, scanner, hs, hc⟩
    · obtain ⟨hne, hall⟩ := namesUnder_fit hfit (hcs c hc)
      obtain ⟨n, ns, hn⟩ := List.exists_cons_of_ne_nil hne
      have hnc : n ∈ namesUnder catMap c := by
        rw [hn]
        exact List.mem_cons_self
      obtain ⟨scanner, hs, hcat⟩ := hall n hnc
      exact ⟨n, List.mem_append_left _ (List.mem_flatMap.2 ⟨c, hc, hnc⟩), scanner, hs, hcat⟩
    · exact ⟨n, List.mem_append_right _ hn, scanner, hs, hc⟩

end Booted

/-- The names a request resolves to: those the map lists for its categories and those it names
itself, each once, in the order in which they come first. -/
structure Selects (catMap : Dict String (List Json)) (cs ss names : List String) : Prop where
  once : names.Nodup
  covers : ∀ n, n ∈ names ↔ (∃ c ∈ cs, n ∈ namesUnder catMap c) ∨ n ∈ ss
  ordered : names.Pairwise (fun a b => (asked catMap cs ss).idxOf a < (asked catMap cs ss).idxOf b)

/-- A report on these names: one result a scanner, and an answer for the axes asked for only. -/
structure Answers (registry : Registry) (cs ss names : List String) (report : ScanReport) :
    Prop where
  scanners : report.results.map (·.scanner) = names
  categories : ∀ c, c ∈ report.categories ↔ c ∈ cs ∨
    ∃ n ∈ ss, ∃ scanner, getScanner registry n = .ok scanner ∧ scanner.category = c

/-- After a boot that succeeds, a request is answered on every axis it asks for and on no other. -/
theorem booted_selection_answered (py : Python) (settings : Settings) (registry : Registry)
    (catMap : Dict String (List Json)) (cs ss : List String)
    (hboot : validateRegistry py settings registry = .ok ())
    (hmap : categoryMap py settings = .ok catMap) (hcs : ∀ c ∈ cs, c ∈ catMap.map Prod.fst)
    (hss : ∀ n ∈ ss, ∃ scanner, getScanner registry n = .ok scanner)
    (hne : ¬ (cs = [] ∧ ss = [])) :
    ∃ names, resolveScanners py settings registry cs ss = .ok names ∧
      Selects catMap cs ss names ∧
      ∀ openFile elapsed, ∃ report,
        runScanners settings ⟨registry, openFile, elapsed⟩ names = .ok report ∧
        Answers registry cs ss names report := by
  obtain ⟨catMap', hmap', hfit⟩ := validateRegistry_ok hboot
  rw [hmap, Except.ok.injEq] at hmap'
  subst hmap'
  refine ⟨_, resolveScanners_ok hfit py hmap hcs hss hne, ⟨eraseDups_nodup _, ?_,
    eraseDups_pairwise _⟩, ?_⟩
  · intro n
    rw [List.mem_eraseDups, asked, List.mem_append, List.mem_flatMap]
  · intro openFile elapsed
    have hbuilt : ∀ n ∈ (asked catMap cs ss).eraseDups, ∃ scanner,
        getScanner registry n = .ok scanner :=
      fun n hn => getScanner_asked hfit hcs hss (List.mem_eraseDups.1 hn)
    have hnames := eraseDups_ne_nil (asked_ne_nil hfit hcs hne)
    obtain ⟨report, hrun⟩ := exists_report settings ⟨registry, openFile, elapsed⟩ hnames hbuilt
    exact ⟨report, hrun, results_scanners hrun, mem_categories_asked hfit rfl hcs hrun⟩

/-- The library where the text of `DEFAULT_SCANNERS` is this object. -/
def mappingPython (entries : Dict String Json) : Python :=
  { asciiPython with loads := fun _ => .ok (.obj entries) }

def twoEngines : Dict String Json := [("malware", .list [.str "clamav", .str "exav"])]

def twoEnginesSettings : Settings where
  defaultScanners := "\x7b\"malware\": [\"clamav\", \"exav\"]\x7d"
  advisoryScanners := "clamav"

def quietEngine (category : String) : Except Exc Scanner :=
  .ok { category, scan := fun _ => .ok clean }

def threeBackends : Registry :=
  [("clamav", quietEngine "malware"), ("exav", quietEngine "malware"),
    ("nudenet", quietEngine "nsfw")]

theorem booted_selection_answered_two_axes :
    ∃ names, resolveScanners (mappingPython twoEngines) twoEnginesSettings threeBackends
        ["malware"] ["nudenet", "exav"] = .ok names ∧
      Selects [("malware", [.str "clamav", .str "exav"])] ["malware"] ["nudenet", "exav"] names ∧
      ∀ openFile elapsed, ∃ report,
        runScanners twoEnginesSettings ⟨threeBackends, openFile, elapsed⟩ names = .ok report ∧
        Answers threeBackends ["malware"] ["nudenet", "exav"] names report := by
  have hss : ∀ n ∈ ["nudenet", "exav"], ∃ scanner, getScanner threeBackends n = .ok scanner := by
    intro n hn
    rcases List.mem_pair.1 hn with rfl | rfl
    · exact ⟨_, rfl⟩
    · exact ⟨_, rfl⟩
  exact booted_selection_answered (mappingPython twoEngines) twoEnginesSettings threeBackends
    [("malware", [.str "clamav", .str "exav"])] ["malware"] ["nudenet", "exav"] rfl rfl
    (by decide) hss (by decide)

end FileScanner
