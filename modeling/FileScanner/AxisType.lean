import FileScanner.Selection

namespace FileScanner
open Collections Fallible
set_option autoImplicit true

/-- The reduction of an axis of this type. -/
def reduction (scored : Bool) (results : List ScannerResult) : CategoryVerdict :=
  if scored then scoredVerdict results else discreteVerdict results

/-- No category of the report mixes scored and unscored results. -/
def ScanReport.SingleType (report : ScanReport) : Prop :=
  ∀ r ∈ report.results, ∀ r' ∈ report.results, r.category = r'.category → r.scored = r'.scored

/-- Every category is one axis, and its verdict is the reduction of the type of that axis. -/
structure ScanReport.OneAxisType (report : ScanReport) : Prop where
  single : report.SingleType
  reduced : ∀ r ∈ report.results,
    report.verdicts.lookup r.category = some (reduction r.scored (report.axis r.category))

theorem ScanReport.SingleType.oneAxisType {report : ScanReport} (h : report.SingleType) :
    report.OneAxisType := by
  refine ⟨h, ?_⟩
  intro r hr
  have hcategory : r.category ∈ report.results.map (·.category) := List.mem_map_of_mem hr
  have haxis : ∀ r' ∈ report.axis r.category, r'.scored = r.scored := by
    intro r' hr'
    obtain ⟨hres, hc⟩ := List.mem_filter.1 hr'
    exact h r' hres r hr (of_decide_eq_true hc)
  rw [report.lookup_verdicts, if_pos hcategory, categoryVerdict, reduction]
  congr 1
  cases hscored : r.scored with
  | true =>
    have hall : (report.axis r.category).all (·.scored) = true := by
      rw [List.all_eq_true]
      intro r' hr'
      rw [haxis r' hr', hscored]
    rw [if_pos ⟨report.axis_ne_nil hcategory, hall⟩, if_pos rfl]
  | false =>
    have hmem : r ∈ report.axis r.category := List.mem_filter.2 ⟨hr, decide_eq_true rfl⟩
    rw [if_neg Bool.false_ne_true, if_neg]
    intro hall
    have htrue := List.all_eq_true.1 hall.2 r hmem
    rw [hscored] at htrue
    cases htrue

/-- Boot lists the engines of one category under one type of axis. -/
theorem checkCategory_scored {py : Python} {registry : Registry} {entry : String × List Json}
    {names : List String} (h : checkCategory py registry entry = .ok names) {n n' : String}
    {scanner scanner' : Scanner} (hn : .str n ∈ entry.2) (hn' : .str n' ∈ entry.2)
    (hs : getScanner registry n = .ok scanner) (hs' : getScanner registry n' = .ok scanner') :
    scanner.scored = scanner'.scored := by
  rw [checkCategory] at h
  obtain ⟨⟨⟩, -, h⟩ := bind_eq_ok.1 h
  obtain ⟨listed, hlisted, h⟩ := bind_eq_ok.1 h
  obtain ⟨⟨⟩, hone, -⟩ := bind_eq_ok.1 h
  have hmem {m : String} {s : Scanner} (hm : .str m ∈ entry.2)
      (hbuilt : getScanner registry m = .ok s) : s.scored ∈ listed.map (·.2.scored) := by
    obtain ⟨l, hl, hcheck⟩ := forall₂_exists_right (mapM_ok_forall₂ hlisted) hm
    obtain ⟨hname, hlookup, -⟩ := checkListed_ok hcheck
    cases hname
    rw [lookup_of_getScanner hbuilt] at hlookup
    cases hlookup
    exact List.mem_map_of_mem hl
  exact eq_of_length_eraseDups (not_lt.1 (raiseIf_eq_ok.1 hone)) (hmem hn hs) (hmem hn' hs')

theorem mem_namesUnder {catMap : Dict String (List Json)} {c n : String}
    (h : n ∈ namesUnder catMap c) :
    ∃ names, catMap.lookup c = some names ∧ .str n ∈ names := by
  rw [namesUnder, List.mem_filterMap] at h
  obtain ⟨v, hv, htext⟩ := h
  cases hlookup : catMap.lookup c with
  | none =>
    rw [hlookup] at hv
    cases hv
  | some names =>
    rw [hlookup, Option.getD_some] at hv
    cases v with
    | str s =>
      cases htext
      exact ⟨names, rfl, hv⟩
    | _ => cases htext

/-- The engines a request names itself agree, on each axis, with each other and with the engines
the map lists for a category it asks for. -/
structure NamedAgree (registry : Registry) (catMap : Dict String (List Json))
    (cs ss : List String) : Prop where
  named : ∀ n ∈ ss, ∀ n' ∈ ss, ∀ scanner scanner', getScanner registry n = .ok scanner →
    getScanner registry n' = .ok scanner' → scanner.category = scanner'.category →
    scanner.scored = scanner'.scored
  listed : ∀ n ∈ ss, ∀ scanner, getScanner registry n = .ok scanner → scanner.category ∈ cs →
    ∀ n' ∈ namesUnder catMap scanner.category, ∀ scanner', getScanner registry n' = .ok scanner' →
    scanner.scored = scanner'.scored

/-- In the report of a run, no axis is mixed exactly when no axis of the engines that ran is. -/
theorem singleType_iff {settings : Settings} {env : ScanEnv} {names : List String}
    {report : ScanReport} (hrun : runScanners settings env names = .ok report) :
    report.SingleType ↔ ∀ n ∈ names, ∀ n' ∈ names, ∀ scanner scanner',
      getScanner env.registry n = .ok scanner → getScanner env.registry n' = .ok scanner' →
      scanner.category = scanner'.category → scanner.scored = scanner'.scored := by
  constructor
  · intro h n hn n' hn' scanner scanner' hs hs' hc
    exact h _ ((mem_results_runScanners hrun).2 ⟨n, hn, scanner, hs, rfl⟩) _
      ((mem_results_runScanners hrun).2 ⟨n', hn', scanner', hs', rfl⟩) hc
  · intro h r hr r' hr' hc
    obtain ⟨n, hn, scanner, hs, rfl⟩ := (mem_results_runScanners hrun).1 hr
    obtain ⟨n', hn', scanner', hs', rfl⟩ := (mem_results_runScanners hrun).1 hr'
    exact h n hn n' hn' scanner scanner' hs hs' hc

section Booted
variable {py : Python} {settings : Settings} {registry : Registry}
  {catMap : Dict String (List Json)} (hboot : validateRegistry py settings registry = .ok ())
  (hmap : categoryMap py settings = .ok catMap)
include hboot hmap

theorem booted_fit : ∀ entry ∈ catMap, CategoryFit registry entry := by
  obtain ⟨catMap', hmap', hfit⟩ := validateRegistry_ok hboot
  rw [hmap, Except.ok.injEq] at hmap'
  subst hmap'
  exact hfit

theorem namesUnder_scored {c n n' : String} {scanner scanner' : Scanner}
    (hn : n ∈ namesUnder catMap c) (hn' : n' ∈ namesUnder catMap c)
    (hs : getScanner registry n = .ok scanner) (hs' : getScanner registry n' = .ok scanner') :
    scanner.scored = scanner'.scored := by
  obtain ⟨catMap', hmap', hchecked⟩ := validateRegistry_checked hboot
  rw [hmap, Except.ok.injEq] at hmap'
  subst hmap'
  obtain ⟨listed, hlookup, hjson⟩ := mem_namesUnder hn
  obtain ⟨listed', hlookup', hjson'⟩ := mem_namesUnder hn'
  rw [hlookup, Option.some.injEq] at hlookup'
  subst hlookup'
  obtain ⟨names, hcheck⟩ := hchecked _ (Dict.mem_of_lookup hlookup)
  exact checkCategory_scored hcheck hjson hjson' hs hs'

theorem namesUnder_category {c n : String} {scanner : Scanner} (hn : n ∈ namesUnder catMap c)
    (hs : getScanner registry n = .ok scanner) : scanner.category = c := by
  obtain ⟨listed, hlookup, -⟩ := mem_namesUnder hn
  obtain ⟨scanner', hs', hc⟩ :=
    (namesUnder_fit (booted_fit hboot hmap) (Dict.mem_keys.2 ⟨listed, hlookup⟩)).2 n hn
  rw [hs, Except.ok.injEq] at hs'
  rw [hs', hc]

/-- Two engines of one axis that a request gets from the map agree. -/
theorem mapped_scored {c c' n n' : String} {scanner scanner' : Scanner}
    (hn : n ∈ namesUnder catMap c) (hn' : n' ∈ namesUnder catMap c')
    (hs : getScanner registry n = .ok scanner) (hs' : getScanner registry n' = .ok scanner')
    (hc : scanner.category = scanner'.category) : scanner.scored = scanner'.scored := by
  rw [namesUnder_category hboot hmap hn hs, namesUnder_category hboot hmap hn' hs'] at hc
  subst hc
  exact namesUnder_scored hboot hmap hn hn' hs hs'

/-- The engines of a selection agree exactly when those it names itself do. -/
theorem asked_agree_iff {cs ss : List String} :
    (∀ n ∈ asked catMap (askedCategories settings cs ss) ss,
      ∀ n' ∈ asked catMap (askedCategories settings cs ss) ss, ∀ scanner scanner',
      getScanner registry n = .ok scanner → getScanner registry n' = .ok scanner' →
      scanner.category = scanner'.category → scanner.scored = scanner'.scored) ↔
    NamedAgree registry catMap cs ss := by
  have hasked {n : String} (hn : n ∈ ss) : askedCategories settings cs ss = cs :=
    if_neg (fun h => List.ne_nil_of_mem hn h.2)
  constructor
  · intro h
    constructor
    · intro n hn n' hn'
      exact h n (List.mem_append_right _ hn) n' (List.mem_append_right _ hn')
    · intro n hn scanner hs hcategory n' hn' scanner' hs'
      apply h n (List.mem_append_right _ hn) n' _ scanner scanner' hs hs'
      · exact (namesUnder_category hboot hmap hn' hs').symm
      · rw [hasked hn]
        exact List.mem_append_left _ (List.mem_flatMap.2 ⟨_, hcategory, hn'⟩)
  · intro h n hn n' hn' scanner scanner' hs hs' hc
    rcases List.mem_append.1 hn with hn | hn
    · obtain ⟨c, hcs, hnc⟩ := List.mem_flatMap.1 hn
      rcases List.mem_append.1 hn' with hn' | hn'
      · obtain ⟨c', -, hnc'⟩ := List.mem_flatMap.1 hn'
        exact mapped_scored hboot hmap hnc hnc' hs hs' hc
      · have hcat := namesUnder_category hboot hmap hnc hs
        rw [hasked hn', ← hcat, hc] at hcs
        rw [← hcat, hc] at hnc
        exact (h.listed n' hn' scanner' hs' hcs n hnc scanner hs).symm
    · rcases List.mem_append.1 hn' with hn' | hn'
      · obtain ⟨c', hcs', hnc'⟩ := List.mem_flatMap.1 hn'
        have hcat := namesUnder_category hboot hmap hnc' hs'
        rw [hasked hn, ← hcat, ← hc] at hcs'
        rw [← hcat, ← hc] at hnc'
        exact h.listed n hn scanner hs hcs' n' hnc' scanner' hs'
      · exact h.named n hn n' hn' scanner scanner' hs hs' hc

end Booted

/-- After a boot that succeeds, the report of a request that is accepted keeps every category one
axis, reduced by its type, exactly when the engines the request names itself fit in. -/
theorem single_axis_type_iff (py : Python) (settings : Settings) (registry : Registry)
    (catMap : Dict String (List Json)) (cs ss names : List String)
    (openFile : String → Except Exc Bytes) (elapsed : String → Rat)
    (hboot : validateRegistry py settings registry = .ok ())
    (hmap : categoryMap py settings = .ok catMap)
    (hresolve : resolveScanners py settings registry cs ss = .ok names) :
    ∃ report, runScanners settings ⟨registry, openFile, elapsed⟩ names = .ok report ∧
      (report.OneAxisType ↔ NamedAgree registry catMap cs ss) := by
  obtain ⟨hnames, hne, -, hbuilt⟩ :=
    resolveScanners_eq_ok (booted_fit hboot hmap) hmap hresolve
  obtain ⟨report, hrun⟩ := exists_report settings ⟨registry, openFile, elapsed⟩ hne hbuilt
  refine ⟨report, hrun, ?_⟩
  rw [← asked_agree_iff hboot hmap]
  have hsingle := singleType_iff hrun
  simp only [hnames, List.mem_eraseDups] at hsingle
  rw [← hsingle]
  exact ⟨fun h => h.single, fun h => h.oneAxisType⟩

/-- A scored engine of the axis of clamav, registered and not listed in the map. -/
def withScorer : Registry :=
  [("clamav", quietEngine "malware"),
    ("scorer", .ok { category := "malware", scored := true,
                     scan := fun _ => .ok { kind := .flagged, score := some (9 / 10) } })]

def clamavOnly : Dict String Json := [("malware", .list [.str "clamav"])]

/-- Naming the scorer next to the category it feeds mixes the axis, and its score is lost. -/
theorem named_scorer_mixes_axis :
    ∃ names report, validateRegistry (mappingPython clamavOnly) {} withScorer = .ok () ∧
      resolveScanners (mappingPython clamavOnly) {} withScorer ["malware"] ["scorer"] =
        .ok names ∧
      runScanners {} ⟨withScorer, fun _ => .ok [], fun _ => 0⟩ names = .ok report ∧
      ¬ report.OneAxisType ∧
      (report.verdicts.lookup "malware").map (·.score) = some none := by
  refine ⟨_, _, rfl, rfl, rfl, ?_, rfl⟩
  intro h
  have hscored := h.single _ List.mem_cons_self _ (List.mem_cons_of_mem _ List.mem_cons_self) rfl
  cases hscored

theorem single_axis_type_scorer :
    ∃ report, runScanners {} ⟨withScorer, fun _ => .ok [], fun _ => 0⟩ ["scorer"] = .ok report ∧
      report.OneAxisType := by
  obtain ⟨report, hrun, hiff⟩ := single_axis_type_iff (mappingPython clamavOnly) {} withScorer
    [("malware", [.str "clamav"])] [] ["scorer"] ["scorer"] (fun _ => .ok []) (fun _ => 0) rfl rfl
    rfl
  refine ⟨report, hrun, hiff.2 ⟨?_, fun _ _ _ _ h => absurd h List.not_mem_nil⟩⟩
  intro n hn n' hn' scanner scanner' hs hs' _
  rw [List.mem_singleton.1 hn] at hs
  rw [List.mem_singleton.1 hn', hs, Except.ok.injEq] at hs'
  rw [hs']

end FileScanner
