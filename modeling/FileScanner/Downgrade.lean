import FileScanner.Precedence
import FileScanner.Selection
import FileScanner.Wire
import Mathlib.Algebra.Order.Field.Rat
import Mathlib.Data.Rat.Lemmas
import Mathlib.Tactic.Linarith

namespace FileScanner
open Collections
set_option autoImplicit true

/-- A score disappears at four decimals when it is at most half of the last one. -/
theorem round4_eq_zero_iff {x : Rat} (hx : 0 ≤ x) : round4 x = 0 ↔ x ≤ 1 / 20000 := by
  have hlo : ((x * 10000).floor : Rat) ≤ x * 10000 := Rat.floor_le _
  have hhi : x * 10000 < (x * 10000).floor + 1 := by
    exact_mod_cast Rat.lt_floor_add_one (x * 10000)
  have hn : 0 ≤ (x * 10000).floor := by
    rw [Rat.le_floor_iff]
    push_cast
    linarith
  simp only [round4]
  generalize (x * 10000).floor = n at *
  rcases hn.eq_or_lt with hz | hpos
  · subst hz
    simp only [Int.cast_zero, sub_zero]
    split
    · rename_i h
      apply iff_of_true (by norm_num)
      rcases h with h | ⟨h, -⟩ <;> linarith
    · rename_i h
      rw [not_or, not_lt] at h
      apply iff_of_false (by norm_num)
      intro hle
      exact h.2 ⟨le_antisymm (by linarith) h.1, rfl⟩
  · have hone : (1 : Rat) ≤ n := by exact_mod_cast hpos
    apply iff_of_false
    · split
      · exact (div_pos (by linarith) (by norm_num)).ne'
      · exact (div_pos (by linarith) (by norm_num)).ne'
    · intro hle
      linarith

/-- What a v1 caller reads as clean: falsy, and an answer. -/
def ReadsClean (v : Json) : Prop := v.truthy = false ∧ v ≠ .null

/-- The score of a verdict as a v1 scalar, or the truth value its kind falls back to. -/
def scoreOr (score : Option Rat) (fallback : Bool) : Json :=
  (score.map (fun s => Json.float (round4 s))).getD (.bool fallback)

/-- The v1 word for a verdict, by its kind. -/
def CategoryVerdict.v1Word (v : CategoryVerdict) : Json :=
  match v.kind with
  | .malware => .bool true
  | .flagged => scoreOr v.score true
  | .clean => scoreOr v.score false
  | .partialScan | .error => .null

theorem scalar_asDict (v : CategoryVerdict) : scalar v.asDict = v.v1Word := by
  rw [scalar, getKey_kind_asDict, getKey_score_asDict, CategoryVerdict.v1Word]
  cases v.kind <;> cases v.score <;> rfl

theorem scoreOr_ne_null (score : Option Rat) (b : Bool) : scoreOr score b ≠ .null := by
  cases score <;> exact Json.noConfusion

theorem truthy_scoreOr_iff (score : Option Rat) :
    (scoreOr score true).truthy = true ↔ ¬ ∃ s, score = some s ∧ round4 s = 0 := by
  cases score with
  | none => exact iff_of_true rfl (fun h => nomatch h.choose_spec.1)
  | some s =>
    have ht : (scoreOr (some s) true).truthy = true ↔ round4 s ≠ 0 := bne_iff_ne
    rw [ht]
    simp only [Option.some.injEq, exists_eq_left']

/-- The v1 scalar of a verdict says no more than the verdict itself. -/
structure ScalarAgrees (s : Json) (kind : Kind) : Prop where
  clears : ReadsClean s → kind = .clean
  unanswered : s = .null ↔ kind = .partialScan ∨ kind = .error
  detects : kind = .malware ∨ kind = .flagged → s.truthy = true

theorem scalarAgrees_iff (v : CategoryVerdict) :
    ScalarAgrees (scalar v.asDict) v.kind ↔
      ¬ (v.kind = .flagged ∧ ∃ s, v.score = some s ∧ round4 s = 0) := by
  constructor
  · intro h hzero
    obtain ⟨hk, hs⟩ := hzero
    have ht := h.detects (.inr hk)
    rw [scalar_asDict, CategoryVerdict.v1Word, hk] at ht
    exact (truthy_scoreOr_iff v.score).1 ht hs
  · intro h
    rw [scalar_asDict, CategoryVerdict.v1Word]
    cases hk : v.kind with
    | clean =>
      exact ⟨fun _ => rfl, iff_of_false (scoreOr_ne_null _ _) (by decide),
        fun hd => absurd hd (by decide)⟩
    | malware =>
      exact ⟨fun hc => absurd hc.1 Bool.true_eq_false.mp,
        iff_of_false (scoreOr_ne_null none true) (by decide), fun _ => rfl⟩
    | flagged =>
      rw [hk] at h
      have ht : (scoreOr v.score true).truthy = true :=
        (truthy_scoreOr_iff v.score).2 (fun hs => h ⟨rfl, hs⟩)
      exact ⟨fun hc => absurd (hc.1.symm.trans ht) Bool.false_ne_true,
        iff_of_false (scoreOr_ne_null _ _) (by decide), fun _ => ht⟩
    | partialScan =>
      exact ⟨fun hc => absurd rfl hc.2, iff_of_true rfl (.inl rfl),
        fun hd => absurd hd (by decide)⟩
    | error =>
      exact ⟨fun hc => absurd rfl hc.2, iff_of_true rfl (.inr rfl),
        fun hd => absurd hd (by decide)⟩

/-- A hit whose score vanishes at four decimals, on an axis all of whose scanners are scored. -/
def SilentHit (results : List ScannerResult) : Prop :=
  (∀ r ∈ results, r.scored = true) ∧ (∃ r ∈ results, r.kind = .flagged) ∧
    ∃ s, (results.filterMap (·.score)).max? = some s ∧ round4 s = 0

theorem silentHit_iff (results : List ScannerResult) :
    SilentHit results ↔ (categoryVerdict results).kind = .flagged ∧
      ∃ s, (categoryVerdict results).score = some s ∧ round4 s = 0 := by
  rw [categoryVerdict]
  split
  · rename_i hall
    constructor
    · intro h
      obtain ⟨-, hf, hs⟩ := h
      obtain ⟨hkind, hscore⟩ := scoredVerdict_flagged hf
      rw [hscore]
      exact ⟨hkind, hs⟩
    · intro h
      obtain ⟨hkind, hs⟩ := h
      have hf : ∃ r ∈ results, r.kind = .flagged := by
        by_contra hno
        rw [scoredVerdict_kind, if_neg hno] at hkind
        exact (blockedKind_not_detection results).2 hkind
      rw [(scoredVerdict_flagged hf).2] at hs
      exact ⟨List.all_eq_true.1 hall.2, hf, hs⟩
  · rename_i hnot
    constructor
    · intro h
      obtain ⟨hall, hf, -⟩ := h
      obtain ⟨r, hr, -⟩ := hf
      exact absurd ⟨List.ne_nil_of_mem hr, List.all_eq_true.2 hall⟩ hnot
    · intro h
      obtain ⟨-, s, hs, -⟩ := h
      rw [discreteVerdict_score] at hs
      cases hs

/-- On this category, the v1 view of a payload says no more than the v2 view. -/
def V1Agrees (report : ScanReport) (payload : Dict String Json) (c : String) : Prop :=
  ∀ v, report.verdicts.lookup c = some v →
    ∃ s, (toV1 payload).lookup c = some s ∧ ScalarAgrees s v.kind

/-- Where the v1 view never clears what the v2 view does not. -/
theorem v1_never_clears_iff (report : ScanReport) (payload : Dict String Json) (c : String)
    (hp : payload.lookup "verdicts" = report.asDict.lookup "verdicts") :
    V1Agrees report payload c ↔ ¬ SilentHit (report.axis c) := by
  have hlookup := report.lookup_verdicts c
  rw [silentHit_iff, ← scalarAgrees_iff]
  split at hlookup
  · constructor
    · intro h
      obtain ⟨s, hs, hagrees⟩ := h _ hlookup
      rw [ScanReport.lookup_toV1 hp hlookup, Option.some.injEq] at hs
      rwa [hs]
    · intro h v hv
      rw [hlookup, Option.some.injEq] at hv
      subst hv
      exact ⟨_, ScanReport.lookup_toV1 hp hlookup, h⟩
  · rename_i hc
    apply iff_of_true
    · intro v hv
      rw [hlookup] at hv
      cases hv
    · have hnil : report.axis c = [] := by
        rw [ScanReport.axis, List.filter_eq_nil_iff]
        intro r hr he
        exact hc (List.mem_map.2 ⟨r, hr, of_decide_eq_true he⟩)
      rw [hnil, scalarAgrees_iff]
      intro h
      obtain ⟨h, -⟩ := h
      cases h

def scoredHit (score : Rat) : ScanReport :=
  ⟨[{ scanner := "nudenet", category := "nsfw", kind := .flagged, reason := .str "nsfw",
      score := some score, scored := true }]⟩

theorem faint_hit_reads_clean :
    ¬ V1Agrees (scoredHit (1 / 100000)) (scoredHit (1 / 100000)).asDict "nsfw" := by
  intro h
  have hv : (scoredHit (1 / 100000)).verdicts.lookup "nsfw" =
      some ⟨.flagged, .str "nsfw", some (1 / 100000), .null⟩ := rfl
  obtain ⟨s, hs, hagrees⟩ := h _ hv
  rw [ScanReport.lookup_toV1 rfl hv, Option.some.injEq] at hs
  subst hs
  have hzero : round4 (1 / 100000) = 0 := (round4_eq_zero_iff (by norm_num)).2 (by norm_num)
  exact (scalarAgrees_iff _).1 hagrees ⟨rfl, _, rfl, hzero⟩

theorem v1_never_clears_clear_hit :
    V1Agrees (scoredHit (9 / 10)) (scoredHit (9 / 10)).asDict "nsfw" := by
  apply (v1_never_clears_iff _ _ "nsfw" rfl).2
  intro h
  obtain ⟨-, -, s, hs, hzero⟩ := h
  have hscore : (((scoredHit (9 / 10)).axis "nsfw").filterMap (·.score)).max? =
      some (9 / 10) := rfl
  rw [hscore, Option.some.injEq] at hs
  subst hs
  have hle := (round4_eq_zero_iff (by norm_num)).1 hzero
  norm_num at hle

/-- A payload carries the verdicts of this report, or none when there is no report. -/
def Carries (payload : Dict String Json) (report : Option ScanReport) : Prop :=
  payload.lookup "verdicts" = report.bind (fun r => r.asDict.lookup "verdicts")

def verdictOf (report : Option ScanReport) (c : String) : Option CategoryVerdict :=
  report.bind (fun r => r.verdicts.lookup c)

/-- The v1 view of a payload keeps what stands beside the verdicts, and answers each axis. -/
structure KeepsEnvelope (payload : Dict String Json) (report : Option ScanReport) : Prop where
  kept : ∀ k v, k ≠ "verdicts" → payload.lookup k = some v → (toV1 payload).lookup k = some v
  dropped : (toV1 payload).lookup "verdicts" = none
  readable : ∀ c v, verdictOf report c = some v → (toV1 payload).lookup c = some (scalar v.asDict)

/-- A category has the name of a key of the payload that does not hold its v1 word already. -/
def Overwrites (payload : Dict String Json) (report : Option ScanReport) : Prop :=
  ∃ c v old, verdictOf report c = some v ∧ payload.lookup c = some old ∧ old ≠ v.v1Word

theorem lookup_qualify_ne {out verdicts : Dict String Json} {k : String} (hkind : k ≠ "error_kind")
    (herror : k ≠ "error") : (qualify out verdicts).lookup k = out.lookup k := by
  simp only [qualify]
  split
  · split
    · split
      · rw [Dict.lookup_setdefault_ne _ herror, Dict.lookup_setdefault_ne _ hkind]
      · exact Dict.lookup_setdefault_ne _ hkind _
    · rfl
  · rfl

theorem toV1_of_absent {payload : Dict String Json} (h : payload.lookup "verdicts" = none) :
    toV1 payload = payload.filter (fun e => e.1 ≠ "verdicts") := by
  rw [toV1, getKey, h, Option.getD_none]

theorem toV1_of_verdicts {payload verdicts : Dict String Json}
    (h : payload.lookup "verdicts" = some (.obj verdicts)) :
    toV1 payload =
      qualify (verdicts.foldl addScalar (payload.filter (fun e => e.1 ≠ "verdicts"))) verdicts := by
  rw [toV1, getKey_of_lookup h]

/-- The verdicts of a report on the wire are the names of its categories, each with its own. -/
theorem ScanReport.mem_wire_verdicts {report : ScanReport} {c : String}
    (h : c ∈ (report.verdicts.map (fun e => (e.1, Json.obj e.2.asDict))).map Prod.fst) :
    ∃ v, report.verdicts.lookup c = some v := by
  rw [List.map_map, Function.comp_def] at h
  exact Dict.mem_keys.1 h

theorem v1Word_ne_obj (v : CategoryVerdict) (entries : Dict String Json) :
    Json.obj entries ≠ v.v1Word := by
  rw [CategoryVerdict.v1Word]
  cases v.kind <;> cases v.score <;> exact Json.noConfusion

section Envelope
variable {payload : Dict String Json} {report : ScanReport}

theorem toV1_keeps (hp : Carries payload (some report))
    (hkeeps : ¬ Overwrites payload (some report)) {k : String} {v : Json} (hk : k ≠ "verdicts")
    (h : payload.lookup k = some v) : (toV1 payload).lookup k = some v := by
  by_cases hc : ∃ verdict, report.verdicts.lookup k = some verdict
  · obtain ⟨verdict, hverdict⟩ := hc
    have heq : v = verdict.v1Word := by
      by_contra hne
      exact hkeeps ⟨k, verdict, v, hverdict, h, hne⟩
    rw [ScanReport.lookup_toV1 hp hverdict, scalar_asDict, heq]
  · rw [toV1_of_verdicts hp]
    apply lookup_qualify_of_some
    rw [lookup_foldl_addScalar_of_absent (fun hmem => hc (ScanReport.mem_wire_verdicts hmem)),
      Dict.lookup_filter_ne payload hk]
    exact h

theorem toV1_drops (hp : Carries payload (some report))
    (hkeeps : ¬ Overwrites payload (some report)) :
    (toV1 payload).lookup "verdicts" = none := by
  have habsent : "verdicts" ∉
      (report.verdicts.map (fun e => (e.1, Json.obj e.2.asDict))).map Prod.fst := by
    intro hmem
    obtain ⟨v, hv⟩ := ScanReport.mem_wire_verdicts hmem
    exact hkeeps ⟨"verdicts", v, _, hv, hp, v1Word_ne_obj v _⟩
  rw [toV1_of_verdicts hp, lookup_qualify_ne (by decide) (by decide),
    lookup_foldl_addScalar_of_absent habsent]
  exact Dict.lookup_filter_self payload "verdicts"

end Envelope

/-- Where the v1 view of a canonical payload keeps its envelope and its breakdown. -/
theorem v1_keeps_envelope_iff (payload : Dict String Json) (report : Option ScanReport)
    (hp : Carries payload report) : KeepsEnvelope payload report ↔ ¬ Overwrites payload report := by
  constructor
  · intro h hover
    obtain ⟨c, v, old, hv, hold, hne⟩ := hover
    have hread := h.readable c v hv
    by_cases hc : c = "verdicts"
    · subst hc
      rw [h.dropped] at hread
      cases hread
    · rw [h.kept c old hc hold, scalar_asDict, Option.some.injEq] at hread
      exact hne hread
  · intro hkeeps
    cases report with
    | none =>
      have htoV1 := toV1_of_absent hp
      constructor
      · intro k v hk hv
        rwa [htoV1, Dict.lookup_filter_ne payload hk]
      · rw [htoV1]
        exact Dict.lookup_filter_self payload "verdicts"
      · intro c v hv
        cases hv
    | some report =>
      constructor
      · intro k v hk hv
        exact toV1_keeps hp hkeeps hk hv
      · exact toV1_drops hp hkeeps
      · intro c v hv
        exact ScanReport.lookup_toV1 hp hv

def scannersCategory : Dict String Json := [("scanners", .list [.str "nudenet"])]

def scannersSettings : Settings where
  defaultScanners := "\x7b\"scanners\": [\"nudenet\"]\x7d"
  defaultCategories := "scanners"

def scannersRegistry : Registry := [("nudenet", quietEngine "scanners")]

theorem scanners_category_replaces_breakdown :
    validateRegistry (mappingPython scannersCategory) scannersSettings scannersRegistry = .ok () ∧
      ∃ report, runScanners scannersSettings ⟨scannersRegistry, fun _ => .ok [], fun _ => 0⟩
          ["nudenet"] = .ok report ∧
        Carries report.asDict (some report) ∧ ¬ KeepsEnvelope report.asDict (some report) := by
  refine ⟨rfl, ⟨[⟨"nudenet", "scanners", .clean, .null, none, .null, 0, false, false⟩]⟩,
    rfl, rfl, ?_⟩
  intro h
  have hkept := h.kept "scanners" _ (by decide) rfl
  cases hkept

theorem v1_keeps_envelope_of_job :
    KeepsEnvelope (("job_id", .str "j") :: (scoredHit 1).asDict) (some (scoredHit 1)) := by
  apply (v1_keeps_envelope_iff (("job_id", .str "j") :: (scoredHit 1).asDict) (some (scoredHit 1))
    rfl).2
  intro h
  obtain ⟨c, v, old, hv, hold, -⟩ := h
  have hc := Dict.mem_of_lookup hv
  have hnsfw : c = "nsfw" := by
    have hmem := List.mem_map_of_mem (f := Prod.fst) hc
    exact List.mem_singleton.1 hmem
  subst hnsfw
  cases hold

end FileScanner
