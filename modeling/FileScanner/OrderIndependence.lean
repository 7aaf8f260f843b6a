import FileScanner.Lib.Members
import FileScanner.Precedence
import FileScanner.Selection

namespace FileScanner
open Collections
set_option autoImplicit true

section Axis
variable {results results' : List ScannerResult} (h : SameMembers results results')
include h

theorem decidingResults_sameMembers :
    SameMembers (decidingResults results) (decidingResults results') := by
  intro r
  rw [mem_decidingResults, mem_decidingResults, h r, h.forall_iff]

theorem documentedKind_sameMembers : documentedKind results = documentedKind results' := by
  have hdeciding := decidingResults_sameMembers h
  simp only [documentedKind, h.exists_iff, hdeciding.exists_iff]

theorem scoredVerdict_kind_sameMembers :
    (scoredVerdict results).kind = (scoredVerdict results').kind := by
  have hdeciding := decidingResults_sameMembers h
  simp only [scoredVerdict_kind, blockedKind_eq, h.exists_iff, hdeciding.exists_iff]

end Axis

/-- The score of a scored axis: the highest one reported, unless the axis is blocked. -/
theorem scoredVerdict_score (results : List ScannerResult) :
    (scoredVerdict results).score =
      if (scoredVerdict results).kind = .flagged ∨ (scoredVerdict results).kind = .clean then
        (results.filterMap (·.score)).max?
      else none := by
  by_cases hf : ∃ r ∈ results, r.kind = .flagged
  · obtain ⟨hkind, hscore⟩ := scoredVerdict_flagged hf
    rw [hkind, hscore, if_pos (.inl rfl)]
  · have hnone : topHit (results.filter (fun r => r.kind = .flagged)) = none := by
      rw [topHit_eq_none, List.filter_eq_nil_iff]
      intro r hr hk
      exact hf ⟨r, hr, of_decide_eq_true hk⟩
    rw [scoredVerdict]
    simp only [hnone]
    cases hb : blocker results with
    | none => exact (if_pos (.inr rfl)).symm
    | some b =>
      have hdet := blockedKind_not_detection results
      have hclean : b.kind ≠ .clean := by
        rcases blocker_eq_some hb with ⟨hk, -⟩ | ⟨hk, -⟩
        · rw [hk]
          exact Kind.noConfusion
        · rw [hk]
          exact Kind.noConfusion
      rw [hb] at hdet
      exact (if_neg (fun h => h.elim hdet.2 hclean)).symm

theorem categoryVerdict_sameMembers {results results' : List ScannerResult}
    (h : SameMembers results results') :
    (categoryVerdict results).kind = (categoryVerdict results').kind ∧
      (categoryVerdict results).score = (categoryVerdict results').score := by
  have hscored : (results ≠ [] ∧ results.all (·.scored) = true) ↔
      (results' ≠ [] ∧ results'.all (·.scored) = true) := by
    rw [Ne, h.eq_nil_iff, h.all_eq]
  rw [categoryVerdict, categoryVerdict]
  by_cases hs : results' ≠ [] ∧ results'.all (·.scored) = true
  · rw [if_pos hs, if_pos (hscored.2 hs)]
    have hkind := scoredVerdict_kind_sameMembers h
    apply And.intro hkind
    rw [scoredVerdict_score, scoredVerdict_score, hkind, (h.filterMap (·.score)).max?_eq]
  · rw [if_neg hs, if_neg (mt hscored.1 hs)]
    rw [discreteVerdict_kind, discreteVerdict_kind, discreteVerdict_score, discreteVerdict_score]
    exact ⟨documentedKind_sameMembers h, rfl⟩

/-- The answer of a report: a verdict for each category that an engine answered for, its kind and its
score, and whether anything usable came out. -/
structure SameAnswer (a b : ScanReport) : Prop where
  complete : ∀ r ∈ a.results, ∃ v v', a.verdicts.lookup r.category = some v ∧
    b.verdicts.lookup r.category = some v' ∧ v.kind = v'.kind ∧ v.score = v'.score
  categories : ∀ c, c ∈ a.categories ↔ c ∈ b.categories
  kind : ∀ c, (a.verdicts.lookup c).map (·.kind) = (b.verdicts.lookup c).map (·.kind)
  score : ∀ c, (a.verdicts.lookup c).map (·.score) = (b.verdicts.lookup c).map (·.score)
  allErrored : a.allErrored = b.allErrored

theorem allErrored_congr {a b : ScanReport} (hdet : a.detected = b.detected)
    (hdeciding : SameMembers a.deciding b.deciding) : a.allErrored = b.allErrored := by
  rw [Bool.eq_iff_iff, ScanReport.allErrored_iff, ScanReport.allErrored_iff, hdet, Ne,
    hdeciding.eq_nil_iff, hdeciding.forall_iff]

theorem sameAnswer_of_sameMembers {a b : ScanReport} (h : SameMembers a.results b.results) :
    SameAnswer a b := by
  have hcategories : SameMembers (a.results.map (·.category)) (b.results.map (·.category)) :=
    h.map _
  have haxis (c : String) : SameMembers (a.axis c) (b.axis c) := h.filter _
  have hlookup {γ : Type} (f : CategoryVerdict → γ) (hf : ∀ c,
      f (categoryVerdict (a.axis c)) = f (categoryVerdict (b.axis c))) (c : String) :
      (a.verdicts.lookup c).map f = (b.verdicts.lookup c).map f := by
    rw [ScanReport.lookup_verdicts, ScanReport.lookup_verdicts]
    by_cases hc : c ∈ b.results.map (·.category)
    · rw [if_pos hc, if_pos ((hcategories c).2 hc), Option.map_some, Option.map_some, hf]
    · rw [if_neg hc, if_neg (mt (hcategories c).1 hc)]
  constructor
  · intro r hr
    have hcategory := List.mem_map_of_mem (f := (·.category)) hr
    refine ⟨categoryVerdict (a.axis r.category), categoryVerdict (b.axis r.category), ?_, ?_,
      categoryVerdict_sameMembers (haxis r.category)⟩
    · rw [ScanReport.lookup_verdicts, if_pos hcategory]
    · rw [ScanReport.lookup_verdicts, if_pos ((hcategories r.category).1 hcategory)]
  · intro c
    rw [ScanReport.mem_categories, ScanReport.mem_categories]
    exact hcategories c
  · exact hlookup _ (fun c => (categoryVerdict_sameMembers (haxis c)).1)
  · exact hlookup _ (fun c => (categoryVerdict_sameMembers (haxis c)).2)
  · apply allErrored_congr (h.any_eq _)
    intro r
    rw [ScanReport.mem_deciding, ScanReport.mem_deciding, h r, h.forall_iff]

/-- The scores that the results of an axis report. -/
def reportedScores (results : List ScannerResult) : Set Rat :=
  {s | ∃ r ∈ results, r.score = some s}

/-- The score of a verdict: the highest one on a scored axis that is asserted, none on an axis
that is blocked. -/
structure ScoreRules (results : List ScannerResult) (v : CategoryVerdict) : Prop where
  greatest : (∀ r ∈ results, r.scored = true) → v.kind = .flagged ∨ v.kind = .clean →
    ∀ s, v.score = some s ↔ IsGreatest (reportedScores results) s
  absent : (∀ r ∈ results, r.scored = true) → v.kind = .flagged ∨ v.kind = .clean →
    (v.score = none ↔ ∀ r ∈ results, r.score = none)
  blocked : v.kind = .error ∨ v.kind = .partialScan → v.score = none

theorem categoryVerdict_scoreRules {results : List ScannerResult} (hne : results ≠ []) :
    ScoreRules results (categoryVerdict results) := by
  have hscored (hall : ∀ r ∈ results, r.scored = true) :
      categoryVerdict results = scoredVerdict results := by
    rw [categoryVerdict, if_pos ⟨hne, List.all_eq_true.2 hall⟩]
  have hreported : {s | s ∈ results.filterMap (·.score)} = reportedScores results := by
    apply Set.ext
    intro s
    exact List.mem_filterMap
  constructor
  · intro hall hkind s
    rw [hscored hall] at hkind ⊢
    rw [scoredVerdict_score, if_pos hkind, max?_eq_some_iff_greatest, hreported]
  · intro hall hkind
    rw [hscored hall] at hkind ⊢
    rw [scoredVerdict_score, if_pos hkind, List.max?_eq_none_iff, List.filterMap_eq_nil_iff]
  · intro hkind
    rw [categoryVerdict] at hkind ⊢
    split
    · rename_i hall
      rw [if_pos hall] at hkind
      rw [scoredVerdict_score, if_neg]
      intro hasserted
      rcases hkind with hk | hk
      · rw [hk] at hasserted
        exact hasserted.elim Kind.noConfusion Kind.noConfusion
      · rw [hk] at hasserted
        exact hasserted.elim Kind.noConfusion Kind.noConfusion
    · exact discreteVerdict_score results

/-- The answer of a report is the same in whatever order its results come, and its scores are
the highest ones of their axes. -/
theorem answer_ignores_order (results results' : List ScannerResult)
    (h : results.Perm results') :
    SameAnswer ⟨results⟩ ⟨results'⟩ ∧
      ∀ c v, (ScanReport.mk results).verdicts.lookup c = some v →
        ScoreRules ((ScanReport.mk results).axis c) v := by
  apply And.intro (sameAnswer_of_sameMembers (.of_perm h))
  intro c v hv
  rw [ScanReport.lookup_verdicts] at hv
  split at hv
  · rename_i hc
    cases hv
    exact categoryVerdict_scoreRules (ScanReport.axis_ne_nil hc)
  · cases hv

/-- Two engines of a scored axis, one of them without a score, and one of another axis. -/
def twoAxesResults : List ScannerResult :=
  [{ scanner := "nudenet", category := "nsfw", kind := .flagged, score := some (9 / 10),
     scored := true },
    { scanner := "clamav", category := "malware", kind := .error },
    { scanner := "tagger", category := "nsfw", kind := .clean, scored := true }]

theorem answer_ignores_order_reversed :
    SameAnswer ⟨twoAxesResults⟩ ⟨twoAxesResults.reverse⟩ ∧
      ∀ c v, (ScanReport.mk twoAxesResults).verdicts.lookup c = some v →
        ScoreRules ((ScanReport.mk twoAxesResults).axis c) v :=
  answer_ignores_order twoAxesResults twoAxesResults.reverse
    (List.reverse_perm twoAxesResults).symm

/-- Two runs that name the same engines give the same answer, in whatever order they name them. -/
theorem named_order_irrelevant {settings : Settings} {env : ScanEnv} {names names' : List String}
    {report report' : ScanReport} (h : SameMembers names names')
    (hrun : runScanners settings env names = .ok report)
    (hrun' : runScanners settings env names' = .ok report') : SameAnswer report report' := by
  apply sameAnswer_of_sameMembers
  intro r
  rw [mem_results_runScanners hrun, mem_results_runScanners hrun', h.exists_iff]

end FileScanner
