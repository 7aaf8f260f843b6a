import FileScanner.Attempt
import FileScanner.WebhookGuard

namespace FileScanner
open Collections Queues
set_option autoImplicit true

/-- The store write, the enqueue and the removal of the scratch file do not fail. -/
structure Env.Healthy (env : Env) : Prop where
  storeFails : env.storeFails = false
  enqueueFails : env.enqueueFails = none
  removeFails : env.removeFails = none

def callbacks (msg : ScanMessage) (result : Dict String Json) :
    List (String × Dict String Json) :=
  (msg.webhook.map (fun url => (url, serialize result msg.wireVersion))).toList

/-- The world once a terminal result has been recorded and its delivery enqueued. -/
def finalized (settings : Settings) (msg : ScanMessage) (result : Dict String Json) (w : World) :
    World :=
  { w with
    finals := w.finals ++ [result]
    store := record settings false w.store msg.jobId msg.apiClient result
    sent := w.sent ++ callbacks msg result }

/-- A failure nobody reports at once, or a report that says nothing about the file. -/
def Retryable : Except Exc ScanReport → Prop
  | .error e => reportedAs e = none
  | .ok report => report.allErrored = true

/-- A failure of the file, of its decryption, of the policy or of the download, or a report with
a detection. -/
def Settled : Except Exc ScanReport → Prop
  | .error e => reportedAs e ≠ none
  | .ok report => report.detected = true

theorem not_retryable_of_settled {outcome : Except Exc ScanReport} (h : Settled outcome) :
    ¬ Retryable outcome := by
  cases outcome with
  | error e => exact h
  | ok report =>
    have hdet : report.detected = true := h
    intro hr
    rw [Retryable, ScanReport.allErrored, if_pos hdet] at hr
    cases hr

/-- The kind of error a try block that ended this way is reported as; none is a job that is done. -/
def reportedKind : Except Exc ScanReport → Option String
  | .error e => some (((reportedAs e).map Prod.fst).getD "transient")
  | .ok report => if report.allErrored then some "transient" else none

/-- The terminal report of a job on how its try block ended: done with what the engines said, or
the error of this kind. -/
structure ReportOf (msg : ScanMessage) (outcome : Except Exc ScanReport)
    (result : Dict String Json) : Prop where
  jobId : result.lookup "job_id" = some (.str msg.jobId)
  status : result.lookup "status" =
    some (.str (if (reportedKind outcome).isSome then ERROR else DONE))
  errorKind : result.lookup "error_kind" = (reportedKind outcome).map Json.str
  engines : ∀ report, outcome = .ok report →
    result.lookup "verdicts" = report.asDict.lookup "verdicts" ∧
      result.lookup "scanners" = report.asDict.lookup "scanners"

section Attempt
variable {settings : Settings} {env : Env} {msg : ScanMessage}

theorem reportOf_errorResult (msg : ScanMessage) (e : Exc) (message : String) :
    ReportOf msg (.error e)
      (errorResult msg (((reportedAs e).map Prod.fst).getD "transient") message) where
  jobId := rfl
  status := rfl
  errorKind := rfl
  engines _ he := by cases he

theorem reportOf_deliveredResult (msg : ScanMessage) (report : ScanReport) :
    ReportOf msg (.ok report) (deliveredResult msg report report.allErrored) := by
  have hengines (transient : Bool) (report' : ScanReport)
      (he : Except.ok (ε := Exc) report = .ok report') :
      (deliveredResult msg report transient).lookup "verdicts" =
          report'.asDict.lookup "verdicts" ∧
        (deliveredResult msg report transient).lookup "scanners" =
          report'.asDict.lookup "scanners" := by
    cases he
    cases transient <;> exact ⟨rfl, rfl⟩
  cases hall : report.allErrored with
  | true =>
    have hkind : reportedKind (.ok report) = some "transient" := by rw [reportedKind, if_pos hall]
    refine ⟨rfl, ?_, ?_, hengines true⟩
    · rw [hkind]
      rfl
    · rw [hkind]
      rfl
  | false =>
    have hkind : reportedKind (.ok report) = none := by
      rw [reportedKind, if_neg (Bool.eq_false_iff.1 hall)]
    refine ⟨rfl, ?_, ?_, hengines false⟩
    · rw [hkind]
      rfl
    · rw [hkind]
      rfl

theorem reportOf_handed {retries : Option Nat} {a : Attempted} {result : Dict String Json}
    (h : handed env msg retries a = some result) : ReportOf msg a.outcome result := by
  rcases handed_cases h with ⟨e, message, hout, rfl⟩ | ⟨report, hout, rfl⟩
  · rw [hout]
    exact reportOf_errorResult msg e message
  · rw [hout]
    exact reportOf_deliveredResult msg report

/-- The world an attempt leaves: what it had scanned is noted, its scratch file is gone. -/
def World.scanned (w : World) (a : Attempted) : World := { w with scans := w.scans ++ a.scanned }

theorem enqueued_healthy (h : env.Healthy) : enqueued env msg = .ok () := by
  rw [enqueued, h.enqueueFails]
  cases msg.webhook <;> rfl

theorem handOver_healthy (h : env.Healthy) (result : Dict String Json) (w : World) :
    w.handOver settings env msg (some result) = finalized settings msg result w := by
  rw [World.handOver, finalize, enqueue, finalized, callbacks, h.enqueueFails, h.storeFails]
  cases msg.webhook with
  | none =>
    rw [Option.map_none, Option.toList_none, List.append_nil]
  | some url => rfl

theorem removal_healthy (h : env.Healthy) (a : Attempted) : removal env a = none := by
  rw [removal, h.removeFails]
  cases a.scratch <;> rfl

theorem removed_attempted (h : env.Healthy) (w : World) (a : Attempted) :
    (w.attempted a).removed env a = w.scanned a := by
  rw [World.removed, World.attempted, h.removeFails]
  cases a.scratch <;> rfl

theorem handed_eq_none_iff (h : env.Healthy) {retries : Option Nat} {a : Attempted} :
    handed env msg retries a = none ↔
      Retryable a.outcome ∧ retriesExhausted retries = false := by
  rw [handed, removal_healthy h]
  cases a.outcome with
  | error e =>
    dsimp only [Retryable]
    cases reportedAs e with
    | some said => simp
    | none => cases retriesExhausted retries <;> simp
  | ok report =>
    dsimp only [Retryable]
    cases report.allErrored with
    | true => cases retriesExhausted retries <;> simp
    | false => simp

/-- What an attempt does whose store, broker and disk hold: it hands its result over, or leaves
the job to the retries. -/
theorem scanTask_healthy (h : env.Healthy) (py : Python) (retries : Option Nat) (w : World) :
    scanTask py settings env msg retries w =
      match handedBy settings env msg py retries with
      | some result =>
        (.ok (), finalized settings msg result (w.scanned (tryBlock py settings env msg)))
      | none =>
        (.error (abandonedWith (tryBlock py settings env msg)),
          w.scanned (tryBlock py settings env msg)) := by
  rw [scanTask_eq settings env msg py retries w rfl, ← handOver_removed, removed_attempted h,
    ending, removal_healthy h, handedBy]
  cases handed env msg retries (tryBlock py settings env msg) with
  | none => rfl
  | some result =>
    dsimp only
    rw [enqueued_healthy h, handOver_healthy h]

/-- Everything one attempt does, by how its try block ended and what is left of the budget. -/
theorem scanTask_cases (h : env.Healthy) (py : Python) (settings : Settings) (msg : ScanMessage)
    (retries : Option Nat) (w : World) :
    let attempted := tryBlock py settings env msg
    (Retryable attempted.outcome ∧ retriesExhausted retries = false ∧
        ∃ e, scanTask py settings env msg retries w = (.error e, w.scanned attempted)) ∨
      ((Retryable attempted.outcome → retriesExhausted retries = true) ∧
        ∃ result, ReportOf msg attempted.outcome result ∧
          scanTask py settings env msg retries w =
            (.ok (), finalized settings msg result (w.scanned attempted))) := by
  intro attempted
  rw [scanTask_healthy h]
  cases hhanded : handedBy settings env msg py retries with
  | none =>
    obtain ⟨hretryable, hleft⟩ := (handed_eq_none_iff h).1 hhanded
    exact .inl ⟨hretryable, hleft, _, rfl⟩
  | some result =>
    right
    apply And.intro _ ⟨result, reportOf_handed hhanded, rfl⟩
    intro hretryable
    by_contra hexhausted
    have hnone : handedBy settings env msg py retries = none :=
      (handed_eq_none_iff h).2 ⟨hretryable, Bool.eq_false_iff.2 hexhausted⟩
    rw [hnone] at hhanded
    cases hhanded

end Attempt

/-- An attempt that ends the run: it returned, having finalized exactly one result, the terminal
report on how its try block ended. -/
def Finalizes (settings : Settings) (msg : ScanMessage) (outcome : Except Exc ScanReport)
    (inv : Invocation World Exc Unit) : Prop :=
  inv.Returned ∧ ∃ result, ReportOf msg outcome result ∧
    inv.after.finals = inv.before.finals ++ [result] ∧
    inv.after.store = record settings false inv.before.store msg.jobId msg.apiClient result ∧
    inv.after.sent = inv.before.sent ++ callbacks msg result

/-- An attempt that is run again: it raised, and nothing was recorded or enqueued. -/
def Abandoned (inv : Invocation World Exc Unit) : Prop :=
  inv.Raised ∧ inv.after.finals = inv.before.finals ∧ inv.after.store = inv.before.store ∧
    inv.after.sent = inv.before.sent

/-- The run of one message: all attempts but the last are abandoned, the last one reports. -/
structure OneReport (py : Python) (settings : Settings) (envs : Nat → Env) (msg : ScanMessage)
    (invs earlier : List (Invocation World Exc Unit)) (last : Invocation World Exc Unit) :
    Prop where
  split : invs = earlier ++ [last]
  abandoned : ∀ inv ∈ earlier, Abandoned inv
  reported : Finalizes settings msg (tryBlock py settings (envs last.retries) msg).outcome last
  attempt : last.retries = earlier.length ∧ last.retries ≤ MAX_RETRIES
  notDeadLettered : ¬ DeadLettered invs
  scratchGone : ∀ inv ∈ invs, inv.after.scratch = inv.before.scratch
  settledEnds : ∀ inv ∈ invs,
    Settled (tryBlock py settings (envs inv.retries) msg).outcome → inv = last

theorem invoke_cases (py : Python) (settings : Settings) {envs : Nat → Env} (msg : ScanMessage)
    (hhealthy : ∀ i, (envs i).Healthy) (i : Nat) (w : World) :
    let inv := invoke (scanActor py settings envs msg) i w
    (Abandoned inv ∧ Retryable (tryBlock py settings (envs i) msg).outcome ∧ i < MAX_RETRIES) ∨
      (Finalizes settings msg (tryBlock py settings (envs i) msg).outcome inv ∧
        (Retryable (tryBlock py settings (envs i) msg).outcome → MAX_RETRIES ≤ i)) := by
  intro inv
  rcases scanTask_cases (hhealthy i) py settings msg (some i) w with
    ⟨hr, hex, e, he⟩ | ⟨hr, result, hreport, he⟩
  · have hinv : inv = ⟨i, w, .error e, w.scanned (tryBlock py settings (envs i) msg)⟩ := by
      simp only [inv, invoke, scanActor, he]
    rw [hinv]
    exact .inl ⟨⟨⟨e, rfl⟩, rfl, rfl, rfl⟩, hr, not_le.1 (of_decide_eq_false hex)⟩
  · have hinv : inv = ⟨i, w, .ok (),
        finalized settings msg result (w.scanned (tryBlock py settings (envs i) msg))⟩ := by
      simp only [inv, invoke, scanActor, he]
    rw [hinv]
    exact .inr ⟨⟨⟨(), rfl⟩, result, hreport, rfl, rfl, rfl⟩, fun h => of_decide_eq_true (hr h)⟩

theorem invoke_scratch (py : Python) (settings : Settings) {envs : Nat → Env} (msg : ScanMessage)
    (hhealthy : ∀ i, (envs i).Healthy) (i : Nat) (w : World) :
    (invoke (scanActor py settings envs msg) i w).after.scratch = w.scratch := by
  rcases scanTask_cases (hhealthy i) py settings msg (some i) w with
    ⟨-, -, e, he⟩ | ⟨-, result, -, he⟩
  · simp only [invoke, scanActor, he]
    rfl
  · simp only [invoke, scanActor, he]
    rfl

def brokenWorker : Env where
  dns _ := .ok ["93.184.216.34"]
  net := ⟨fun _ _ => .error .gaierror, fun _ _ => .error (.requestException "no route")⟩
  gcm := ⟨fun _ _ plain _ => plain, fun _ _ _ _ => none⟩
  registry := []
  fault _ := some (.exception "No space left on device")

def servedPage : Response where
  statusCode := 200
  reason := "OK"
  url := "https://example.com/f"
  location := none
  contentLength := none
  body := ⟨[⟨encode "page", 0⟩], none⟩

/-- A source that answers with a page, to a worker whose one engine clears it. -/
def clearingWorker : Env where
  dns _ := .ok ["93.184.216.34"]
  net := ⟨fun _ _ => .ok ["93.184.216.34"], fun _ _ => .ok servedPage⟩
  gcm := ⟨fun _ _ plain _ => plain, fun _ _ _ _ => none⟩
  registry := [("clamav", .ok { scan := fun _ => .ok clean })]

/-- The disk is full at the first attempt, and the second one scans the file. -/
def recoveringWorker (i : Nat) : Env := if i = 0 then brokenWorker else clearingWorker

end FileScanner
