import FileScanner.OrderIndependence

namespace FileScanner
open Collections
set_option autoImplicit true

/-- What an advisory scanner says when it detects nothing. -/
def ScannerResult.Undetecting (r : ScannerResult) : Prop :=
  r.kind = .clean ∨ r.kind = .partialScan ∨ r.kind = .error

theorem ScannerResult.Undetecting.detection {r : ScannerResult} (h : r.Undetecting) :
    r.detection = false := by
  rw [ScannerResult.detection]
  rcases h with h | h | h
  · rw [h]
    rfl
  · rw [h]
    rfl
  · rw [h]
    rfl

section Insertion
variable {before after : List ScannerResult} {r : ScannerResult}

theorem filter_insert {p : ScannerResult → Bool} (hr : p r = false) :
    (before ++ r :: after).filter p = (before ++ after).filter p := by
  rw [List.filter_append, List.filter_append, List.filter_cons_of_neg (Bool.eq_false_iff.1 hr)]

theorem decidingResults_insert (hadv : r.advisory = true)
    (hdec : ∃ r' ∈ before ++ after, r'.advisory = false) :
    decidingResults (before ++ r :: after) = decidingResults (before ++ after) := by
  have hfilter : (before ++ r :: after).filter (!·.advisory) =
      (before ++ after).filter (!·.advisory) := filter_insert (by rw [hadv]; rfl)
  have hne : (before ++ after).filter (!·.advisory) ≠ [] := by
    obtain ⟨r', hr', ha⟩ := hdec
    exact List.ne_nil_of_mem (List.mem_filter.2 ⟨hr', by rw [ha]; rfl⟩)
  rw [decidingResults, decidingResults, hfilter, if_neg hne, if_neg hne]

theorem discreteVerdict_insert (hadv : r.advisory = true) (hkind : r.Undetecting)
    (hdec : ∃ r' ∈ before ++ after, r'.advisory = false) :
    discreteVerdict (before ++ r :: after) = discreteVerdict (before ++ after) := by
  have hblocker : blocker (before ++ r :: after) = blocker (before ++ after) := by
    rw [blocker, blocker, decidingResults_insert hadv hdec]
  have hdetections : (before ++ r :: after).filter (·.detection) =
      (before ++ after).filter (·.detection) := filter_insert hkind.detection
  rw [discreteVerdict, discreteVerdict, hdetections, hblocker]

/-- On an axis with an unscored result, the reduction is the one that reads detections. -/
theorem categoryVerdict_of_unscored {results : List ScannerResult}
    (h : ∃ r' ∈ results, r'.scored = false) :
    categoryVerdict results = discreteVerdict results := by
  rw [categoryVerdict, if_neg]
  intro hall
  obtain ⟨r', hr', hs⟩ := h
  rw [List.all_eq_true.1 hall.2 r' hr'] at hs
  cases hs

theorem categoryVerdict_insert (hadv : r.advisory = true) (hkind : r.Undetecting)
    (hdec : ∃ r' ∈ before ++ after, r'.advisory = false)
    (hunscored : ∃ r' ∈ before ++ after, r'.scored = false) :
    categoryVerdict (before ++ r :: after) = categoryVerdict (before ++ after) := by
  have hunscored' : ∃ r' ∈ before ++ r :: after, r'.scored = false := by
    obtain ⟨r', hr', hs⟩ := hunscored
    rw [List.mem_append] at hr'
    exact ⟨r', List.mem_append.2 (hr'.imp_right (List.mem_cons_of_mem r)), hs⟩
  rw [categoryVerdict_of_unscored hunscored, categoryVerdict_of_unscored hunscored',
    discreteVerdict_insert hadv hkind hdec]

end Insertion

/-- Two reports that say the same of every axis and of the scan as a whole. -/
structure SameVerdicts (a b : ScanReport) : Prop where
  verdicts : ∀ c, a.verdicts.lookup c = b.verdicts.lookup c
  allErrored : a.allErrored = b.allErrored

section Report
variable {before after : List ScannerResult} {r : ScannerResult}

theorem mem_insert (r' : ScannerResult) :
    r' ∈ before ++ r :: after ↔ r' = r ∨ r' ∈ before ++ after := by
  simp only [List.mem_append, List.mem_cons]
  tauto

theorem axis_insert_self :
    (ScanReport.mk (before ++ r :: after)).axis r.category =
      (ScanReport.mk before).axis r.category ++ r :: (ScanReport.mk after).axis r.category := by
  simp only [ScanReport.axis, List.filter_append]
  rw [List.filter_cons_of_pos (by simp)]

theorem axis_insert_ne {c : String} (h : r.category ≠ c) :
    (ScanReport.mk (before ++ r :: after)).axis c = (ScanReport.mk (before ++ after)).axis c :=
  filter_insert (decide_eq_false h)

/-- The results an advisory one joins on its axis. -/
theorem exists_axis {P : ScannerResult → Prop}
    (h : ∃ r' ∈ before ++ after, r'.category = r.category ∧ P r') :
    ∃ r' ∈ (ScanReport.mk before).axis r.category ++ (ScanReport.mk after).axis r.category,
      P r' := by
  obtain ⟨r', hr', hc, hP⟩ := h
  refine ⟨r', ?_, hP⟩
  rw [ScanReport.axis, ScanReport.axis, ← List.filter_append]
  exact List.mem_filter.2 ⟨hr', decide_eq_true hc⟩

theorem axisVerdict_insert (hadv : r.advisory = true) (hkind : r.Undetecting)
    (hdec : ∃ r' ∈ before ++ after, r'.category = r.category ∧ r'.advisory = false)
    (hunscored : ∃ r' ∈ before ++ after, r'.category = r.category ∧ r'.scored = false)
    (c : String) :
    categoryVerdict ((ScanReport.mk (before ++ r :: after)).axis c) =
      categoryVerdict ((ScanReport.mk (before ++ after)).axis c) := by
  by_cases hc : r.category = c
  · subst hc
    rw [axis_insert_self, categoryVerdict_insert hadv hkind (exists_axis hdec)
      (exists_axis hunscored)]
    simp only [ScanReport.axis, List.filter_append]
  · rw [axis_insert_ne hc]

theorem mem_categories_insert
    (hdec : ∃ r' ∈ before ++ after, r'.category = r.category ∧ r'.advisory = false) (c : String) :
    c ∈ (before ++ r :: after).map (·.category) ↔ c ∈ (before ++ after).map (·.category) := by
  simp only [List.mem_map, mem_insert]
  constructor
  · intro h
    obtain ⟨r', rfl | hr', hc⟩ := h
    · obtain ⟨d, hd, hcd, -⟩ := hdec
      exact ⟨d, hd, hcd.trans hc⟩
    · exact ⟨r', hr', hc⟩
  · intro h
    obtain ⟨r', hr', hc⟩ := h
    exact ⟨r', .inr hr', hc⟩

/-- The results that decide are the same ones: an advisory one defers to its sibling. -/
theorem deciding_insert (hadv : r.advisory = true)
    (hdec : ∃ r' ∈ before ++ after, r'.category = r.category ∧ r'.advisory = false) :
    SameMembers (ScanReport.mk (before ++ r :: after)).deciding
      (ScanReport.mk (before ++ after)).deciding := by
  obtain ⟨d, hd, hcd, had⟩ := hdec
  intro r'
  simp only [ScanReport.mem_deciding, mem_insert]
  constructor
  · intro h
    obtain ⟨hr', hscope⟩ := h
    have hr : r' ≠ r := by
      intro he
      subst he
      rcases hscope with ha | hall
      · rw [hadv] at ha
        cases ha
      · rw [hall d (.inr hd) hcd] at had
        cases had
    exact ⟨hr'.resolve_left hr, hscope.imp_right (fun hall x hx => hall x (.inr hx))⟩
  · intro h
    obtain ⟨hr', hscope⟩ := h
    apply And.intro (.inr hr')
    apply hscope.imp_right
    intro hall x hx hc
    rcases hx with hx | hx
    · rw [hx]
      exact hadv
    · exact hall x hx hc

end Report

/-- On an axis with a deciding and with an unscored result, an advisory result that detects nothing
changes nothing, wherever it comes. -/
theorem advisory_adds_only_detections (before after : List ScannerResult) (r : ScannerResult)
    (hadv : r.advisory = true) (hkind : r.Undetecting)
    (hdec : ∃ r' ∈ before ++ after, r'.category = r.category ∧ r'.advisory = false)
    (hunscored : ∃ r' ∈ before ++ after, r'.category = r.category ∧ r'.scored = false) :
    SameVerdicts ⟨before ++ r :: after⟩ ⟨before ++ after⟩ := by
  constructor
  · intro c
    rw [ScanReport.lookup_verdicts, ScanReport.lookup_verdicts]
    simp only [mem_categories_insert hdec, axisVerdict_insert hadv hkind hdec hunscored]
  · apply allErrored_congr
    · simp only [ScanReport.detected, List.any_append, List.any_cons, hkind.detection,
        Bool.false_or]
    · exact deciding_insert hadv hdec

/-- exav decides while an advisory clamav fails, next to an axis of another engine. -/
theorem advisory_adds_only_detections_exav :
    SameVerdicts
      ⟨[{ scanner := "nudenet", category := "nsfw", kind := .error, scored := true },
        { scanner := "clamav", category := "malware", kind := .error, advisory := true },
        { scanner := "exav", category := "malware", kind := .clean }]⟩
      ⟨[{ scanner := "nudenet", category := "nsfw", kind := .error, scored := true },
        { scanner := "exav", category := "malware", kind := .clean }]⟩ :=
  advisory_adds_only_detections
    [{ scanner := "nudenet", category := "nsfw", kind := .error, scored := true }]
    [{ scanner := "exav", category := "malware", kind := .clean }] _ rfl (.inr (.inr rfl))
    ⟨{ scanner := "exav", category := "malware", kind := .clean }, by simp, rfl, rfl⟩
    ⟨{ scanner := "exav", category := "malware", kind := .clean }, by simp, rfl, rfl⟩

end FileScanner
