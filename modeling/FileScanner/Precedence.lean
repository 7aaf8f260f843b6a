import FileScanner.Lib.Sup
import FileScanner.Report

namespace FileScanner
open Collections Orders
set_option autoImplicit true

/-- The documented precedence, from the word that yields to every other one. -/
def Kind.rank : Kind → Nat
  | .clean => 0
  | .partialScan => 1
  | .error => 2
  | .flagged => 3
  | .malware => 4

theorem Kind.rank_injective : Function.Injective Kind.rank := by
  intro a b h
  cases a <;> cases b <;> first | rfl | cases h

instance : LinearOrder Kind := LinearOrder.lift' Kind.rank Kind.rank_injective

instance : OrderBot Kind where
  bot := .clean
  bot_le a := Nat.zero_le a.rank

/-- The documented scope: a detection counts from any scanner, the rest from deciding ones. -/
def inScope (results : List ScannerResult) (r : ScannerResult) : Bool :=
  r.detection || !r.advisory || results.all (·.advisory)

def evidence (results : List ScannerResult) (r : ScannerResult) : Kind :=
  if inScope results r then r.kind else .clean

def axisKind (results : List ScannerResult) : Kind :=
  highest (results.map (evidence results))

def documentedKind (results : List ScannerResult) : Kind :=
  if ∃ r ∈ results, r.kind = .malware then .malware
  else if ∃ r ∈ results, r.kind = .flagged then .flagged
  else if ∃ r ∈ decidingResults results, r.kind = .error then .error
  else if ∃ r ∈ decidingResults results, r.kind = .partialScan then .partialScan
  else .clean

theorem inScope_iff {results : List ScannerResult} {r : ScannerResult} (hr : r ∈ results) :
    inScope results r = true ↔ r.detection = true ∨ r ∈ decidingResults results := by
  rw [mem_decidingResults]
  simp only [inScope, Bool.or_eq_true, Bool.not_eq_true', List.all_eq_true]
  tauto

theorem evidence_of_scope {results : List ScannerResult} {r : ScannerResult}
    (h : r.detection = true ∨ r ∈ decidingResults results) (hr : r ∈ results) :
    evidence results r = r.kind := by
  rw [evidence, if_pos ((inScope_iff hr).2 h)]

theorem evidence_cases {results : List ScannerResult} {r : ScannerResult} (hr : r ∈ results) :
    evidence results r = .clean ∨
      (evidence results r = r.kind ∧ (r.detection = true ∨ r ∈ decidingResults results)) := by
  rw [evidence]
  split
  · rename_i h
    exact .inr ⟨rfl, (inScope_iff hr).1 h⟩
  · exact .inl rfl

theorem detection_iff {r : ScannerResult} :
    r.detection = true ↔ r.kind = .malware ∨ r.kind = .flagged := by
  simp only [ScannerResult.detection, Bool.or_eq_true, decide_eq_true_eq]

theorem incomplete_iff {r : ScannerResult} :
    r.incomplete = true ↔ r.kind = .error ∨ r.kind = .partialScan := by
  simp only [ScannerResult.incomplete, Bool.or_eq_true, decide_eq_true_eq]

/-- The kind of an axis is one that is in scope there and that no kind in scope exceeds. -/
theorem axisKind_eq {results : List ScannerResult} {k : Kind}
    (h : ∃ r ∈ results, r.kind = k ∧ (r.detection = true ∨ r ∈ decidingResults results))
    (hmax : ∀ r' ∈ results, r'.detection = true ∨ r' ∈ decidingResults results →
      r'.kind ≤ k) : axisKind results = k := by
  obtain ⟨r, hr, hk, hs⟩ := h
  apply highest_eq
  · exact List.mem_map.2 ⟨r, hr, (evidence_of_scope hs hr).trans hk⟩
  · intro k' hk'
    obtain ⟨r', hr', rfl⟩ := List.mem_map.1 hk'
    rcases evidence_cases hr' with he | ⟨he, hs'⟩
    · rw [he]
      exact Nat.zero_le _
    · rw [he]
      exact hmax r' hr' hs'

/-- Without a detection, the kinds in scope are those of the deciding results. -/
theorem axisKind_undetected {results : List ScannerResult}
    (hm : ∀ r ∈ results, r.kind ≠ .malware) (hf : ∀ r ∈ results, r.kind ≠ .flagged) :
    axisKind results =
      if ∃ r ∈ decidingResults results, r.kind = .error then .error
      else if ∃ r ∈ decidingResults results, r.kind = .partialScan then .partialScan
      else .clean := by
  have hdeciding : ∀ r ∈ results, r.detection = true ∨ r ∈ decidingResults results →
      r ∈ decidingResults results := by
    intro r hr hs
    apply hs.resolve_left
    intro hd
    exact (detection_iff.1 hd).elim (hm r hr) (hf r hr)
  split
  · rename_i h
    obtain ⟨r, hr, hk⟩ := h
    apply axisKind_eq ⟨r, mem_decidingResults_sub hr, hk, .inr hr⟩
    intro r' hr' _
    have hnm := hm r' hr'
    have hnf := hf r' hr'
    revert hnm hnf
    cases r'.kind <;> decide
  · rename_i hne
    split
    · rename_i h
      obtain ⟨r, hr, hk⟩ := h
      apply axisKind_eq ⟨r, mem_decidingResults_sub hr, hk, .inr hr⟩
      intro r' hr' hs
      have hnm := hm r' hr'
      have hnf := hf r' hr'
      have hnn : r'.kind ≠ .error := fun he => hne ⟨r', hdeciding r' hr' hs, he⟩
      revert hnm hnf hnn
      cases r'.kind <;> decide
    · rename_i hp
      apply highest_eq_bot
      intro k hk
      obtain ⟨r', hr', rfl⟩ := List.mem_map.1 hk
      rcases evidence_cases hr' with he | ⟨he, hs⟩
      · exact he
      · have hd := hdeciding r' hr' hs
        have hnm := hm r' hr'
        have hnf := hf r' hr'
        have hnn : r'.kind ≠ .error := fun hk => hne ⟨r', hd, hk⟩
        have hnp : r'.kind ≠ .partialScan := fun hk => hp ⟨r', hd, hk⟩
        rw [he]
        revert hnm hnf hnn hnp
        cases r'.kind <;> decide

theorem documentedKind_eq_axisKind (results : List ScannerResult) :
    documentedKind results = axisKind results := by
  rw [documentedKind]
  split
  · rename_i h
    obtain ⟨r, hr, hk⟩ := h
    symm
    apply axisKind_eq ⟨r, hr, hk, .inl (detection_iff.2 (.inl hk))⟩
    intro r' _ _
    cases r'.kind <;> decide
  · rename_i hnone
    have hm : ∀ r ∈ results, r.kind ≠ .malware := fun r hr he => hnone ⟨r, hr, he⟩
    split
    · rename_i h
      obtain ⟨r, hr, hk⟩ := h
      symm
      apply axisKind_eq ⟨r, hr, hk, .inl (detection_iff.2 (.inr hk))⟩
      intro r' hr' _
      have hnm := hm r' hr'
      revert hnm
      cases r'.kind <;> decide
    · rename_i hf
      exact (axisKind_undetected hm (fun r hr he => hf ⟨r, hr, he⟩)).symm

theorem find?_or_head?_eq_none {p : α → Bool} {xs : List α} :
    (xs.find? p).or xs.head? = none ↔ xs = [] := by
  cases xs with
  | nil => exact ⟨fun _ => rfl, fun _ => rfl⟩
  | cons x xs => cases h : (x :: xs).find? p <;> simp

theorem find?_or_head?_eq_some {p : α → Bool} {xs : List α} {x : α}
    (h : (xs.find? p).or xs.head? = some x) :
    x ∈ xs ∧ ((∃ y ∈ xs, p y = true) → p x = true) := by
  cases hf : xs.find? p with
  | some y =>
    rw [hf] at h
    cases h
    exact ⟨List.mem_of_find?_eq_some hf, fun _ => List.find?_some hf⟩
  | none =>
    rw [hf] at h
    refine ⟨List.mem_of_mem_head? h, ?_⟩
    rintro ⟨y, hy, hp⟩
    exact absurd hp (List.find?_eq_none.1 hf y hy)

theorem blocker_eq_none {results : List ScannerResult} :
    blocker results = none ↔ ∀ r ∈ decidingResults results, r.incomplete = false := by
  rw [blocker, find?_or_head?_eq_none, List.filter_eq_nil_iff]
  simp

theorem blocker_eq_some {results : List ScannerResult} {b : ScannerResult}
    (h : blocker results = some b) :
    (b.kind = .error ∧ ∃ r ∈ decidingResults results, r.kind = .error) ∨
      (b.kind = .partialScan ∧ (¬ ∃ r ∈ decidingResults results, r.kind = .error) ∧
        ∃ r ∈ decidingResults results, r.kind = .partialScan) := by
  obtain ⟨hb, hpref⟩ := find?_or_head?_eq_some h
  obtain ⟨hbd, hbi⟩ := List.mem_filter.1 hb
  rcases incomplete_iff.1 hbi with hk | hk
  · exact .inl ⟨hk, b, hbd, hk⟩
  · refine .inr ⟨hk, ?_, b, hbd, hk⟩
    rintro ⟨r, hr, hrk⟩
    have hr' : r ∈ (decidingResults results).filter (·.incomplete) :=
      List.mem_filter.2 ⟨hr, incomplete_iff.2 (.inl hrk)⟩
    have hpb := hpref ⟨r, hr', decide_eq_true hrk⟩
    rw [hk] at hpb
    cases hpb

def blockedKind : Option ScannerResult → Kind
  | some b => b.kind
  | none => .clean

theorem blockedKind_not_detection (results : List ScannerResult) :
    blockedKind (blocker results) ≠ .malware ∧ blockedKind (blocker results) ≠ .flagged := by
  cases hb : blocker results with
  | none => exact ⟨Kind.noConfusion, Kind.noConfusion⟩
  | some b =>
    rw [blockedKind]
    rcases blocker_eq_some hb with ⟨hk, -⟩ | ⟨hk, -⟩
    · rw [hk]
      exact ⟨Kind.noConfusion, Kind.noConfusion⟩
    · rw [hk]
      exact ⟨Kind.noConfusion, Kind.noConfusion⟩

theorem blockedKind_eq (results : List ScannerResult) :
    blockedKind (blocker results) =
      if ∃ r ∈ decidingResults results, r.kind = .error then .error
      else if ∃ r ∈ decidingResults results, r.kind = .partialScan then .partialScan
      else .clean := by
  cases hb : blocker results with
  | none =>
    have hinc := blocker_eq_none.1 hb
    have hno (k : Kind) (hk : k = .error ∨ k = .partialScan) :
        ¬ ∃ r ∈ decidingResults results, r.kind = k := by
      rintro ⟨r, hr, he⟩
      have hi := hinc r hr
      rw [incomplete_iff.2 (he ▸ hk)] at hi
      cases hi
    rw [if_neg (hno .error (.inl rfl)), if_neg (hno .partialScan (.inr rfl))]
    rfl
  | some b =>
    rw [blockedKind]
    rcases blocker_eq_some hb with ⟨hk, he⟩ | ⟨hk, hne, hp⟩
    · rw [if_pos he, hk]
    · rw [if_neg hne, if_pos hp, hk]

theorem documentedKind_blocker {results : List ScannerResult}
    (hm : ¬ ∃ r ∈ results, r.kind = .malware) (hf : ¬ ∃ r ∈ results, r.kind = .flagged) :
    documentedKind results = blockedKind (blocker results) := by
  rw [documentedKind, if_neg hm, if_neg hf, blockedKind_eq]

theorem discreteVerdict_kind (results : List ScannerResult) :
    (discreteVerdict results).kind = documentedKind results := by
  simp only [discreteVerdict]
  split
  · rename_i top htop
    obtain ⟨ht, hpref⟩ := find?_or_head?_eq_some htop
    obtain ⟨hmem, hdet⟩ := List.mem_filter.1 ht
    rw [documentedKind]
    split
    · rename_i h
      obtain ⟨r, hr, hk⟩ := h
      have hr' : r ∈ results.filter (·.detection) :=
        List.mem_filter.2 ⟨hr, detection_iff.2 (.inl hk)⟩
      exact of_decide_eq_true (hpref ⟨r, hr', decide_eq_true hk⟩)
    · rename_i hm
      have hflag : top.kind = .flagged :=
        (detection_iff.1 hdet).resolve_left (fun hk => hm ⟨top, hmem, hk⟩)
      rw [if_pos ⟨top, hmem, hflag⟩]
      exact hflag
  · rename_i hnone
    have hdet := List.filter_eq_nil_iff.1 (find?_or_head?_eq_none.1 hnone)
    rw [documentedKind_blocker]
    · cases blocker results <;> rfl
    · rintro ⟨r, hr, hk⟩
      exact hdet r hr (detection_iff.2 (.inl hk))
    · rintro ⟨r, hr, hk⟩
      exact hdet r hr (detection_iff.2 (.inr hk))

theorem discreteVerdict_score (results : List ScannerResult) :
    (discreteVerdict results).score = none := by
  simp only [discreteVerdict]
  split
  · rfl
  · split <;> rfl

theorem topHit_eq_none {hits : List ScannerResult} : topHit hits = none ↔ hits = [] :=
  List.argmax_eq_none

theorem scoredVerdict_kind (results : List ScannerResult) :
    (scoredVerdict results).kind =
      if ∃ r ∈ results, r.kind = .flagged then .flagged else blockedKind (blocker results) := by
  have hhits : (∃ r ∈ results, r.kind = .flagged) ↔
      results.filter (fun r => r.kind = .flagged) ≠ [] := by
    simp [List.filter_eq_nil_iff]
  simp only [scoredVerdict]
  split
  · rename_i top htop
    have hne : topHit (results.filter (fun r => r.kind = .flagged)) ≠ none := by
      rw [htop]
      exact Option.some_ne_none top
    rw [if_pos (hhits.2 (fun h => hne (topHit_eq_none.2 h)))]
  · rename_i hnone
    rw [if_neg (fun h => hhits.1 h (topHit_eq_none.1 hnone))]
    cases blocker results <;> rfl

/-- An axis with a flagged hit reports the highest score of all its scanners. -/
theorem scoredVerdict_flagged {results : List ScannerResult}
    (hf : ∃ r ∈ results, r.kind = .flagged) :
    (scoredVerdict results).kind = .flagged ∧
      (scoredVerdict results).score = (results.filterMap (·.score)).max? := by
  have hkind := scoredVerdict_kind results
  rw [if_pos hf] at hkind
  apply And.intro hkind
  obtain ⟨r, hr, hk⟩ := hf
  have hhit : r ∈ results.filter (fun r => r.kind = .flagged) :=
    List.mem_filter.2 ⟨hr, decide_eq_true hk⟩
  cases htop : topHit (results.filter (fun r => r.kind = .flagged)) with
  | none => exact absurd (topHit_eq_none.1 htop) (List.ne_nil_of_mem hhit)
  | some top =>
    have hmem : top ∈ results := List.mem_of_mem_filter (List.argmax_mem htop)
    simp only [scoredVerdict, htop]
    cases hmax : (results.filterMap (·.score)).max? with
    | some s => rfl
    | none =>
      have hnil := List.max?_eq_none_iff.1 hmax
      exact List.filterMap_eq_nil_iff.1 hnil top hmem

theorem scoredVerdict_kind_of_no_malware {results : List ScannerResult}
    (hm : ¬ ∃ r ∈ results, r.kind = .malware) :
    (scoredVerdict results).kind = documentedKind results := by
  rw [scoredVerdict_kind]
  split
  · rename_i hf
    rw [documentedKind, if_neg hm, if_pos hf]
  · rename_i hf
    exact (documentedKind_blocker hm hf).symm

theorem scoredVerdict_not_malware (results : List ScannerResult) :
    (scoredVerdict results).kind ≠ .malware := by
  rw [scoredVerdict_kind]
  split
  · exact Kind.noConfusion
  · exact (blockedKind_not_detection results).1

theorem categoryVerdict_kind_iff {results : List ScannerResult} (hne : results ≠ []) :
    (categoryVerdict results).kind = documentedKind results ↔
      ¬ ((∀ r ∈ results, r.scored = true) ∧ ∃ r ∈ results, r.kind = .malware) := by
  rw [categoryVerdict]
  by_cases hs : ∀ r ∈ results, r.scored = true
  · rw [if_pos ⟨hne, List.all_eq_true.2 hs⟩]
    by_cases hm : ∃ r ∈ results, r.kind = .malware
    · apply iff_of_false _ (fun h => h ⟨hs, hm⟩)
      rw [documentedKind, if_pos hm]
      exact scoredVerdict_not_malware results
    · exact iff_of_true (scoredVerdict_kind_of_no_malware hm) (fun h => hm h.2)
  · rw [if_neg (fun h => hs (List.all_eq_true.1 h.2))]
    exact iff_of_true (discreteVerdict_kind results) (fun h => hs h.1)

def ScanReport.FollowsRules (report : ScanReport) (c : String) : Prop :=
  (report.verdicts.lookup c).map (·.kind) = some (documentedKind (report.axis c))

instance (report : ScanReport) (c : String) : Decidable (report.FollowsRules c) :=
  inferInstanceAs (Decidable (_ = _))

/-- Where the reduction and the two rules agree, over every report. -/
theorem verdicts_follow_rules_iff (report : ScanReport) (c : String)
    (hc : c ∈ report.results.map (·.category)) :
    report.FollowsRules c ↔
      ¬ ((∀ r ∈ report.axis c, r.scored = true) ∧ ∃ r ∈ report.axis c, r.kind = .malware) := by
  rw [ScanReport.FollowsRules, report.lookup_verdicts, if_pos hc, Option.map_some,
    Option.some.injEq]
  exact categoryVerdict_kind_iff (ScanReport.axis_ne_nil hc)

def scoredMalwareReport : ScanReport :=
  ⟨[{ scanner := "scorer", category := "malware", kind := .malware, reason := .str "Eicar",
      scored := true }]⟩

theorem scored_malware_reduces_to_clean :
    ¬ scoredMalwareReport.FollowsRules "malware" ∧
      (scoredMalwareReport.verdicts.lookup "malware").map (·.kind) = some .clean :=
  ⟨by decide, by decide⟩

theorem verdicts_follow_rules_mixed :
    (ScanReport.mk [{ scanner := "clamav", category := "malware", kind := .malware },
      { scanner := "scorer", category := "malware", kind := .clean, scored := true }]).FollowsRules
        "malware" :=
  (verdicts_follow_rules_iff _ "malware" (by decide)).2 (by decide)

end FileScanner
