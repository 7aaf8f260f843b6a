import FileScanner.Tasks

namespace FileScanner
open Collections Queues
set_option autoImplicit true

def errorResult (msg : ScanMessage) (kind message : String) : Dict String Json :=
  msg.result.update (errorEntries kind message)

/-- What the finally clause fails with, when it has a file to remove and cannot. -/
def removal (env : Env) (a : Attempted) : Option Exc := if a.scratch then env.removeFails else none

/-- How the enqueue of the callback ends. -/
def enqueued (env : Env) (msg : ScanMessage) : Except Exc Unit :=
  match msg.webhook, env.enqueueFails with
  | some _, some e => .error e
  | _, _ => .ok ()

/-- The result an attempt hands to `_finalize`; none when it is left to the retries. -/
def handed (env : Env) (msg : ScanMessage) (retries : Option Nat) (a : Attempted) :
    Option (Dict String Json) :=
  match a.outcome with
  | .error e =>
    match reportedAs e with
    | some (kind, message) => some (errorResult msg kind message)
    | none => if retriesExhausted retries then some (errorResult msg "transient" e.msg) else none
  | .ok report =>
    if (removal env a).isSome then none
    else if report.allErrored then
      if retriesExhausted retries then some (deliveredResult msg report true) else none
    else some (deliveredResult msg report false)

/-- Two kinds of results are handed over: the error of a failure, and a report. -/
theorem handed_cases {env : Env} {msg : ScanMessage} {retries : Option Nat} {a : Attempted}
    {result : Dict String Json} (h : handed env msg retries a = some result) :
    (∃ e message, a.outcome = .error e ∧
        result = errorResult msg (((reportedAs e).map Prod.fst).getD "transient") message) ∨
      ∃ report, a.outcome = .ok report ∧
        result = deliveredResult msg report report.allErrored := by
  rw [handed] at h
  cases hout : a.outcome with
  | error e =>
    simp only [hout] at h
    left
    apply Exists.intro e
    split at h
    · rename_i kind message hsaid
      rw [hsaid]
      exact ⟨message, rfl, (Option.some.inj h).symm⟩
    · rename_i hsaid
      rw [hsaid]
      split at h
      · exact ⟨e.msg, rfl, (Option.some.inj h).symm⟩
      · cases h
  | ok report =>
    simp only [hout] at h
    right
    apply Exists.intro report
    apply And.intro rfl
    split at h
    · cases h
    · split at h
      · rename_i hall
        split at h
        · rw [hall]
          exact (Option.some.inj h).symm
        · cases h
      · rename_i hall
        rw [Bool.eq_false_iff.2 hall]
        exact (Option.some.inj h).symm

def abandonedWith (a : Attempted) : Exc :=
  match a.outcome with
  | .error e => e
  | .ok _ => .scannerError "all scanners failed transiently"

/-- How an attempt ends, whatever the world it started in. -/
def ending (env : Env) (msg : ScanMessage) (retries : Option Nat) (a : Attempted) :
    Except Exc Unit :=
  match removal env a, handed env msg retries a with
  | some e, _ => .error e
  | none, some _ => enqueued env msg
  | none, none => .error (abandonedWith a)

def World.handOver (settings : Settings) (env : Env) (msg : ScanMessage) (w : World) :
    Option (Dict String Json) → World
  | none => w
  | some result => (finalize settings env msg result w).2

def World.removed (w : World) (env : Env) (a : Attempted) : World :=
  if a.scratch = true ∧ env.removeFails = none then { w with scratch := w.scratch - 1 } else w

section Attempt
variable (settings : Settings) (env : Env) (msg : ScanMessage)

theorem finalize_eq (result : Dict String Json) (w : World) :
    finalize settings env msg result w =
      (enqueued env msg, w.handOver settings env msg (some result)) := by
  refine Prod.ext ?_ rfl
  rw [finalize, enqueue, enqueued]
  cases msg.webhook with
  | none => rfl
  | some url => cases env.enqueueFails <;> rfl

theorem handOver_removed (a : Attempted) (result : Option (Dict String Json)) (w : World) :
    (w.removed env a).handOver settings env msg result =
      (w.handOver settings env msg result).removed env a := by
  cases result with
  | none => rfl
  | some result =>
    simp only [World.removed]
    split
    · simp only [World.handOver, finalize, enqueue]
      cases msg.webhook with
      | none => rfl
      | some url => cases env.enqueueFails <;> rfl
    · rfl

theorem cleanup_eq (a : Attempted) (r : Except Exc Unit × World) :
    cleanup env a.scratch r =
      ((removal env a).elim r.1 .error, r.2.removed env a) := by
  rw [cleanup, removal, World.removed]
  cases a.scratch with
  | true => cases env.removeFails <;> rfl
  | false => rfl

theorem handle_eq (retries : Option Nat) {a : Attempted} {e : Exc} (h : a.outcome = .error e)
    (w : World) :
    handle settings env msg retries e w =
      ((handed env msg retries a).elim (.error e) (fun _ => enqueued env msg),
        w.handOver settings env msg (handed env msg retries a)) := by
  simp only [handle, handed, h, reportError]
  cases reportedAs e with
  | some said => exact finalize_eq settings env msg _ w
  | none =>
    cases retriesExhausted retries with
    | true => exact finalize_eq settings env msg _ w
    | false => rfl

theorem conclude_eq (retries : Option Nat) {a : Attempted} {report : ScanReport}
    (h : a.outcome = .ok report) (hremoved : removal env a = none) (w : World) :
    conclude settings env msg retries report w =
      (ending env msg retries a, w.handOver settings env msg (handed env msg retries a)) := by
  simp only [conclude, ending, handed, h, hremoved, deliver, abandonedWith]
  cases report.allErrored with
  | true =>
    cases retriesExhausted retries with
    | true => exact finalize_eq settings env msg _ w
    | false => rfl
  | false => exact finalize_eq settings env msg _ w

variable (py : Python) (retries : Option Nat) (w : World)

/-- What an attempt does to a world, by the result it hands over. -/
theorem scanTask_eq {a : Attempted} (ha : tryBlock py settings env msg = a) :
    scanTask py settings env msg retries w =
      (ending env msg retries a,
        ((w.attempted a).handOver settings env msg (handed env msg retries a)).removed env a) := by
  rw [scanTask, ha]
  cases hout : a.outcome with
  | error e =>
    dsimp only
    rw [cleanup_eq, handle_eq settings env msg retries hout]
    refine Prod.ext ?_ rfl
    simp only [ending, abandonedWith, hout]
    cases removal env a with
    | some e' => rfl
    | none => cases handed env msg retries a <;> rfl
  | ok report =>
    dsimp only
    rw [cleanup_eq]
    cases hremoval : removal env a with
    | some e =>
      simp only [handed, ending, hout, hremoval, Option.elim_some, Option.isSome_some, if_true,
        World.handOver]
    | none =>
      simp only [Option.elim_none]
      rw [conclude_eq settings env msg retries hout hremoval, handOver_removed]

/-- The result this attempt hands over. -/
def handedBy : Option (Dict String Json) :=
  handed env msg retries (tryBlock py settings env msg)

def endingOf : Except Exc Unit := ending env msg retries (tryBlock py settings env msg)

theorem removed_finals (a : Attempted) : (w.removed env a).finals = w.finals := by
  rw [World.removed]
  split <;> rfl

theorem removed_store (a : Attempted) : (w.removed env a).store = w.store := by
  rw [World.removed]
  split <;> rfl

theorem removed_sent (a : Attempted) : (w.removed env a).sent = w.sent := by
  rw [World.removed]
  split <;> rfl

theorem handOver_finals (result : Option (Dict String Json)) :
    (w.handOver settings env msg result).finals = w.finals ++ result.toList := by
  cases result with
  | none => exact (List.append_nil _).symm
  | some result =>
    rw [World.handOver, finalize, enqueue]
    cases msg.webhook with
    | none => rfl
    | some url => cases env.enqueueFails <;> rfl

theorem handOver_store (result : Option (Dict String Json)) :
    (w.handOver settings env msg result).store =
      result.elim w.store (record settings env.storeFails w.store msg.jobId msg.apiClient) := by
  cases result with
  | none => rfl
  | some result =>
    rw [World.handOver, finalize, enqueue]
    cases msg.webhook with
    | none => rfl
    | some url => cases env.enqueueFails <;> rfl

theorem scanTask_ending : (scanTask py settings env msg retries w).1 =
    endingOf settings env msg py retries := by
  rw [scanTask_eq settings env msg py retries w rfl, endingOf]

theorem scanTask_finals : (scanTask py settings env msg retries w).2.finals =
    w.finals ++ (handedBy settings env msg py retries).toList := by
  rw [scanTask_eq settings env msg py retries w rfl, removed_finals, handOver_finals, handedBy,
    World.attempted]

theorem scanTask_store : (scanTask py settings env msg retries w).2.store =
    (handedBy settings env msg py retries).elim w.store
      (record settings env.storeFails w.store msg.jobId msg.apiClient) := by
  rw [scanTask_eq settings env msg py retries w rfl, removed_store, handOver_store, handedBy,
    World.attempted]

end Attempt

end FileScanner
