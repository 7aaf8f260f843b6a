import FileScanner.App.Scan
import FileScanner.Attempt
import FileScanner.Downgrade

namespace FileScanner
open Collections
set_option autoImplicit true

def ScanReport.kindOf (report : ScanReport) (c : String) : Option Kind :=
  (report.verdicts.lookup c).map (·.kind)

def verdictsOf (payload : Dict String Json) : Dict String Json :=
  match getKey payload "verdicts" with
  | .obj verdicts => verdicts
  | _ => []

/-- The v1 qualifier of a `None` on the malware axis. -/
def errorKindOf : Kind → Option Json
  | .error => some (.str "transient")
  | .partialScan => some (.str "file")
  | .clean | .malware | .flagged => none

theorem decidingResults_ne_nil {results : List ScannerResult} (h : results ≠ []) :
    decidingResults results ≠ [] := by
  rw [decidingResults]
  split
  · exact h
  · assumption

theorem ScanReport.detection_of_undetected {report : ScanReport} (h : report.detected = false)
    {r : ScannerResult} (hr : r ∈ report.results) : r.detection = false := by
  rw [detected, List.any_eq_false] at h
  exact Bool.eq_false_iff.2 (h r hr)

theorem ScanReport.deciding_error {report : ScanReport} (h : report.allErrored = true)
    {c : String} {r : ScannerResult} (hr : r ∈ decidingResults (report.axis c)) :
    r.kind = .error := by
  obtain ⟨-, -, hall⟩ := allErrored_iff.1 h
  have hmem := mem_decidingResults_sub hr
  have hcat := of_decide_eq_true (List.mem_filter.1 hmem).2
  subst hcat
  exact hall r (mem_deciding_axis.2 hr)

theorem documentedKind_error {results : List ScannerResult}
    (hdet : ∀ r ∈ results, r.detection = false)
    (h : ∃ r ∈ decidingResults results, r.kind = .error) : documentedKind results = .error := by
  have hno (k : Kind) (hk : k = .malware ∨ k = .flagged) : ¬ ∃ r ∈ results, r.kind = k := by
    intro hex
    obtain ⟨r, hr, hrk⟩ := hex
    have hd := hdet r hr
    rw [detection_iff.2 (hrk ▸ hk)] at hd
    cases hd
  rw [documentedKind, if_neg (hno .malware (.inl rfl)), if_neg (hno .flagged (.inr rfl)), if_pos h]

/-- When every deciding scanner failed, each axis that ran has the verdict `error`. -/
theorem ScanReport.kindOf_of_allErrored {report : ScanReport} (h : report.allErrored = true)
    {c : String} (hc : c ∈ report.categories) : report.kindOf c = some .error := by
  rw [ScanReport.mem_categories] at hc
  have hne := report.axis_ne_nil hc
  have hdet : ∀ r ∈ report.axis c, r.detection = false := fun r hr =>
    report.detection_of_undetected (allErrored_iff.1 h).1 (List.mem_of_mem_filter hr)
  have hmalware : ¬ ∃ r ∈ report.axis c, r.kind = .malware := by
    intro hex
    obtain ⟨r, hr, hk⟩ := hex
    have hd := hdet r hr
    rw [detection_iff.2 (.inl hk)] at hd
    cases hd
  obtain ⟨r, rs, hr⟩ := List.exists_cons_of_ne_nil (decidingResults_ne_nil hne)
  have hmem : r ∈ decidingResults (report.axis c) := by
    rw [hr]
    exact List.mem_cons_self
  rw [kindOf, report.lookup_verdicts, if_pos hc, Option.map_some,
    (categoryVerdict_kind_iff hne).2 (fun hs => hmalware hs.2),
    documentedKind_error hdet ⟨r, hmem, report.deciding_error h hmem⟩]

theorem not_allErrored_of_kindOf {report : ScanReport} {c : String}
    (hc : c ∈ report.categories) (h : report.kindOf c ≠ some .error) :
    report.allErrored = false := by
  rw [Bool.eq_false_iff]
  intro hall
  exact h (report.kindOf_of_allErrored hall hc)

theorem Kind.isStr_word (kind : Kind) :
    (Json.str kind.word).isStr "partial" = decide (kind = .partialScan) ∧
      (Json.str kind.word).isStr "error" = decide (kind = .error) := by
  cases kind <;> exact ⟨rfl, rfl⟩

theorem lookup_setdefault_self (d : Dict String Json) (k : String) (v : Json) :
    (d.setdefault k v).lookup k = (d.lookup k).or (some v) := by
  rw [Dict.setdefault]
  cases h : d.lookup k with
  | none => exact Dict.lookup_set_self d k v
  | some old => exact h

theorem lookup_qualify_error_kind {out verdicts malware : Dict String Json} {kind : Kind}
    (hm : verdicts.lookup "malware" = some (.obj malware))
    (hk : getKey malware "kind" = .str kind.word) :
    (qualify out verdicts).lookup "error_kind" =
      (out.lookup "error_kind").or (errorKindOf kind) := by
  have hset (v : Json) (d : Dict String Json) :
      (d.setdefault "error" v).lookup "error_kind" = d.lookup "error_kind" :=
    Dict.lookup_setdefault_ne d (by decide) v
  rw [qualify, getKey_of_lookup hm]
  simp only [hk, Kind.isStr_word]
  cases kind with
  | partialScan =>
    simp only [decide_true, Bool.true_or, if_true]
    split
    · rw [hset]
      exact lookup_setdefault_self out _ _
    · exact lookup_setdefault_self out _ _
  | error =>
    simp only [decide_true, Bool.or_true, if_true]
    split
    · rw [hset]
      exact lookup_setdefault_self out _ _
    · exact lookup_setdefault_self out _ _
  | clean => exact (Option.or_none).symm
  | malware => exact (Option.or_none).symm
  | flagged => exact (Option.or_none).symm

theorem verdictsOf_of_lookup {payload verdicts : Dict String Json}
    (h : payload.lookup "verdicts" = some (.obj verdicts)) : verdictsOf payload = verdicts := by
  rw [verdictsOf, getKey_of_lookup h]

theorem lookup_toV1_error_kind {payload : Dict String Json} {report : ScanReport}
    {v : CategoryVerdict} (hp : payload.lookup "verdicts" = report.asDict.lookup "verdicts")
    (hm : report.verdicts.lookup "malware" = some v)
    (hfree : report.verdicts.lookup "error_kind" = none) :
    (toV1 payload).lookup "error_kind" =
      (payload.lookup "error_kind").or (errorKindOf v.kind) := by
  have hmalware : (report.verdicts.map (fun e => (e.1, Json.obj e.2.asDict))).lookup "malware" =
      some (.obj v.asDict) := by
    rw [report.lookup_wire, hm, Option.map_some]
  have habsent : "error_kind" ∉
      (report.verdicts.map (fun e => (e.1, Json.obj e.2.asDict))).map Prod.fst := by
    intro hmem
    obtain ⟨v, hv⟩ := ScanReport.mem_wire_verdicts hmem
    rw [hfree] at hv
    cases hv
  rw [toV1_of_verdicts hp, lookup_qualify_error_kind hmalware (getKey_kind_asDict v),
    lookup_foldl_addScalar_of_absent habsent, Dict.lookup_filter_ne payload (by decide)]

theorem lookup_deliveredResult (msg : ScanMessage) (report : ScanReport) (transient : Bool) :
    (deliveredResult msg report transient).lookup "verdicts" = report.asDict.lookup "verdicts" ∧
      (deliveredResult msg report transient).lookup "error_kind" =
        if transient then some (.str "transient") else none := by
  cases transient <;> exact ⟨rfl, rfl⟩

/-- The v1 view of a result qualifies its malware verdict by the kind of that verdict, when no
category takes the place of the qualifier. -/
def Qualified (result : Dict String Json) : Prop :=
  ∀ verdict, (verdictsOf result).lookup "malware" = some (.obj verdict) →
    (verdictsOf result).lookup "error_kind" = none →
    ∃ kind, getKey verdict "kind" = .str kind.word ∧
      (toV1 result).lookup "error_kind" = errorKindOf kind

theorem qualified_errorResult (msg : ScanMessage) (kind message : String) :
    Qualified (errorResult msg kind message) := by
  intro verdict hm
  have hnone : (errorResult msg kind message).lookup "verdicts" = none := rfl
  rw [verdictsOf, getKey, hnone] at hm
  cases hm

theorem qualified_deliveredResult (msg : ScanMessage) (report : ScanReport) :
    Qualified (deliveredResult msg report report.allErrored) := by
  intro verdict hm hfree
  obtain ⟨hverdicts, hkind⟩ := lookup_deliveredResult msg report report.allErrored
  rw [verdictsOf_of_lookup hverdicts, report.lookup_wire, Option.map_eq_some_iff] at hm
  obtain ⟨v, hv, hverdict⟩ := hm
  cases hverdict
  rw [verdictsOf_of_lookup hverdicts, report.lookup_wire, Option.map_eq_none_iff] at hfree
  apply Exists.intro v.kind
  apply And.intro (getKey_kind_asDict v)
  rw [lookup_toV1_error_kind hverdicts hv hfree, hkind]
  cases hall : report.allErrored with
  | true =>
    have hc : "malware" ∈ report.categories := Dict.mem_keys.2 ⟨v, hv⟩
    have herror := report.kindOf_of_allErrored hall hc
    rw [ScanReport.kindOf, hv, Option.map_some, Option.some.injEq] at herror
    rw [herror]
    rfl
  | false => rfl

/-- An attempt with this report delivers it as done, or raises for want of its scratch file's
removal. -/
def DeliversDone (settings : Settings) (env : Env) (msg : ScanMessage) (py : Python)
    (retries : Option Nat) (w : World) (report : ScanReport) : Prop :=
  let ended := scanTask py settings env msg retries w
  let done := deliveredResult msg report false
  (ended.2.finals = w.finals ++ [done] ∧ done.lookup "status" = some (.str DONE)) ∨
    (ended.2.finals = w.finals ∧ ∃ e, env.removeFails = some e ∧ ended.1 = .error e)

theorem deliversDone {settings : Settings} {env : Env} {msg : ScanMessage} {py : Python}
    {report : ScanReport} (hout : (tryBlock py settings env msg).outcome = .ok report)
    (hall : report.allErrored = false) (retries : Option Nat) (w : World) :
    DeliversDone settings env msg py retries w report := by
  simp only [DeliversDone, scanTask_finals, scanTask_ending, handedBy, endingOf, ending, handed,
    hout, hall, Bool.false_eq_true, if_false]
  cases hremoval : removal env (tryBlock py settings env msg) with
  | none => exact .inl ⟨rfl, rfl⟩
  | some e =>
    rw [removal] at hremoval
    split at hremoval
    · exact .inr ⟨List.append_nil _, e, hremoval, rfl⟩
    · cases hremoval

/-- A report is called unavailable only when each of its verdicts says so. -/
structure AgreesOnUnavailable (report : ScanReport) : Prop where
  undetected : report.allErrored = true → ∀ r ∈ report.results, r.detection = false
  errors : report.allErrored = true →
    ∀ c ∈ report.results.map (·.category), report.kindOf c = some .error
  answered : ∀ c ∈ report.results.map (·.category), report.kindOf c ≠ some .error →
    ∀ path, answer report path = .ok (serialize report.asDict (ofPath path))
  delivered : ∀ c ∈ report.results.map (·.category), report.kindOf c ≠ some .error →
    ∀ py settings env msg, (tryBlock py settings env msg).outcome = .ok report →
      ∀ retries w, DeliversDone settings env msg py retries w report

end FileScanner
