import FileScanner.StoredState
import FileScanner.TerminalReport

namespace FileScanner
open Collections Queues
set_option autoImplicit true

/-- How an attempt runs against its time limit: to its end, or cut after a step, with the scratch
file removed by the finally clause or left. -/
inductive Timing where
  | inTime
  | interrupted (step : Nat) (cleaned : Bool)
  deriving DecidableEq, Repr

/-- What an attempt stops with. The interruption is no `Exception`, so no branch reports it. -/
inductive Stop where
  | raised (e : Exc)
  | timeLimitExceeded
  deriving DecidableEq, Repr

section Steps
variable (settings : Settings) (env : Env) (msg : ScanMessage)

def World.recorded (w : World) (result : Dict String Json) : World :=
  { w with
    finals := w.finals ++ [result]
    store := record settings env.storeFails w.store msg.jobId msg.apiClient result }

/-- The worlds `_finalize` passes through: its record written, its callback enqueued. -/
def handOverPasses (w : World) : Option (Dict String Json) → List World
  | none => []
  | some result => [w.recorded settings env msg result, w.handOver settings env msg (some result)]

variable (py : Python) (retries : Option Nat) (w : World)

/-- The worlds an attempt passes through, in order. The report of a failure comes before the
finally clause, the delivery of a report after it. -/
def passes : List World :=
  let a := tryBlock py settings env msg
  let opened := { w.attempted a with scans := w.scans }
  let tried := w.attempted a
  let result := handed env msg retries a
  match a.outcome with
  | .error _ =>
    [w, opened, tried] ++ handOverPasses settings env msg tried result ++
      [(tried.handOver settings env msg result).removed env a]
  | .ok _ =>
    [w, opened, tried, tried.removed env a] ++
      handOverPasses settings env msg (tried.removed env a) result

theorem handOverPasses_last (pre : List World) (result : Option (Dict String Json)) :
    (pre ++ [w] ++ handOverPasses settings env msg w result).getLast? =
      some (w.handOver settings env msg result) := by
  cases result with
  | none =>
    rw [handOverPasses, List.append_nil, List.getLast?_concat]
    rfl
  | some result =>
    rw [handOverPasses, List.getLast?_append_of_ne_nil _ (List.cons_ne_nil _ _)]
    rfl

/-- An attempt that runs to its end ends in the last of the worlds it passes through. -/
theorem passes_last : (passes settings env msg py retries w).getLast? =
    some (scanTask py settings env msg retries w).2 := by
  rw [scanTask_eq settings env msg py retries w rfl, passes]
  cases (tryBlock py settings env msg).outcome with
  | error e => exact List.getLast?_concat
  | ok report =>
    dsimp only
    rw [← handOver_removed]
    exact handOverPasses_last settings env msg _ [w, _, _] _

theorem passes_start : ∃ rest, passes settings env msg py retries w =
    w :: { w.attempted (tryBlock py settings env msg) with scans := w.scans } ::
      w.attempted (tryBlock py settings env msg) :: rest := by
  rw [passes]
  cases (tryBlock py settings env msg).outcome with
  | error e => exact ⟨_, rfl⟩
  | ok report => exact ⟨_, rfl⟩

/-- Up to the end of the try block, no result has been handed over. -/
theorem passes_try {step : Nat} (h : step ≤ 2) :
    ∃ v, (passes settings env msg py retries w)[step]? = some v ∧ v.finals = w.finals := by
  obtain ⟨rest, hrest⟩ := passes_start settings env msg py retries w
  rw [hrest]
  match step with
  | 0 => exact ⟨_, rfl, rfl⟩
  | 1 => exact ⟨_, rfl, rfl⟩
  | 2 => exact ⟨_, rfl, rfl⟩

def timedTask (timing : Timing) : Except Stop Unit × World :=
  match timing with
  | .inTime =>
    let (outcome, after) := scanTask py settings env msg retries w
    (outcome.mapError .raised, after)
  | .interrupted step cleaned =>
    let ws := passes settings env msg py retries w
    let after := ws[step]?.getD (scanTask py settings env msg retries w).2
    (.error .timeLimitExceeded, if cleaned then { after with scratch := w.scratch } else after)

end Steps

/-- `scan_task` under a time limit: attempt `i` meets the i-th environment and timing. -/
def timedActor (py : Python) (settings : Settings) (timings : Nat → Timing) (envs : Nat → Env)
    (msg : ScanMessage) : Actor World Stop Unit :=
  fun retries w => timedTask settings (envs retries) msg py (some retries) w (timings retries)

/-- An attempt recorded a terminal result, which the store holds where there is one, and enqueued
its callback. -/
def Reports (settings : Settings) (msg : ScanMessage) (inv : Invocation World Stop Unit) : Prop :=
  ∃ result, Terminal result ∧ inv.after.finals = inv.before.finals ++ [result] ∧
    (enabled settings = true → stored msg inv.after =
      some ⟨msg.apiClient, result, settings.workerResultTtl * 1000⟩) ∧
    inv.after.sent = inv.before.sent ++ callbacks msg result

/-- A message that has left the queue was answered, and took no key to the dead letters. -/
structure NotLost (settings : Settings) (msg : ScanMessage)
    (invs : List (Invocation World Stop Unit)) : Prop where
  reported : ∃ inv ∈ invs, Reports settings msg inv
  keyKept : msg.encryptionParams ≠ .null → ¬ DeadLettered invs

/-- The attempt is not cut, and no step after the write of its record fails. -/
structure RunsThrough (py : Python) (settings : Settings) (timing : Timing) (env : Env)
    (msg : ScanMessage) : Prop where
  inTime : timing = .inTime
  clean : ¬ FailsAfterWrite env msg (tryBlock py settings env msg)

/-- The store takes the write of an attempt that runs through and comes to `_finalize`. -/
def WriteTaken (py : Python) (settings : Settings) (timing : Timing) (env : Env)
    (msg : ScanMessage) (retries : Option Nat) : Prop :=
  RunsThrough py settings timing env msg →
    ComesToFinalize env retries (tryBlock py settings env msg) →
    enabled settings = true → env.storeFails = false

section Attempt
variable {py : Python} {settings : Settings} {env : Env} {msg : ScanMessage}
  {retries : Option Nat} {a : Attempted}

theorem handOver_sent (h : enqueued env msg = .ok ()) (result : Dict String Json) (w : World) :
    (w.handOver settings env msg (some result)).sent = w.sent ++ callbacks msg result := by
  rw [enqueued] at h
  rw [World.handOver, finalize, enqueue, callbacks]
  cases hwebhook : msg.webhook with
  | none =>
    rw [Option.map_none, Option.toList_none, List.append_nil]
  | some url =>
    cases hfails : env.enqueueFails with
    | none => rfl
    | some e =>
      rw [hwebhook, hfails] at h
      cases h

theorem ending_ok (h : ending env msg retries a = .ok ()) :
    enqueued env msg = .ok () ∧ ∃ result, handed env msg retries a = some result := by
  rw [ending] at h
  split at h
  · cases h
  · rename_i hhanded
    exact ⟨h, _, hhanded⟩
  · cases h

theorem comesToFinalize_of_exhausted (hretries : retriesExhausted retries = true)
    (hremoved : removal env a = none) : ComesToFinalize env retries a := by
  rw [ComesToFinalize]
  split
  · exact .inr hretries
  · exact ⟨hremoved, fun _ => hretries⟩

/-- With no retry left, an attempt returns exactly when nothing fails after its write. -/
theorem ending_ok_iff (hretries : retriesExhausted retries = true) :
    ending env msg retries a = .ok () ↔ ¬ FailsAfterWrite env msg a := by
  constructor
  · intro hok hfails
    obtain ⟨-, result, hhanded⟩ := ending_ok hok
    obtain ⟨e, he⟩ := (ending_error_iff hhanded).2 hfails
    rw [hok] at he
    cases he
  · intro hclean
    have hremoved : removal env a = none := by
      by_contra hne
      exact hclean (.inl hne)
    obtain ⟨result, hhanded⟩ :=
      handed_iff_comesToFinalize.2 (comesToFinalize_of_exhausted hretries hremoved)
    cases hending : ending env msg retries a with
    | ok u => rfl
    | error e => exact absurd ((ending_error_iff hhanded).1 ⟨e, hending⟩) hclean

theorem timedTask_ok_iff {timing : Timing} {w : World} :
    (∃ u, (timedTask settings env msg py retries w timing).1 = .ok u) ↔
      timing = .inTime ∧ endingOf settings env msg py retries = .ok () := by
  cases timing with
  | interrupted step cleaned => simp [timedTask]
  | inTime =>
    simp only [timedTask, scanTask_ending, true_and]
    cases endingOf settings env msg py retries <;> simp [Except.mapError]

end Attempt

section Run
variable {py : Python} {settings : Settings} {timings : Nat → Timing} {envs : Nat → Env}
  {msg : ScanMessage} {w : World}

theorem returned_iff {inv : Invocation World Stop Unit}
    (hinv : inv ∈ run (timedActor py settings timings envs msg) MAX_RETRIES w) :
    inv.Returned ↔ timings inv.retries = .inTime ∧
      endingOf settings (envs inv.retries) msg py (some inv.retries) = .ok () := by
  rw [run_genuine hinv]
  exact timedTask_ok_iff

/-- An attempt that returns has reported, if the store has taken its write. -/
theorem reports_of_returned {inv : Invocation World Stop Unit}
    (hinv : inv ∈ run (timedActor py settings timings envs msg) MAX_RETRIES w)
    (htaken : WriteTaken py settings (timings inv.retries) (envs inv.retries) msg
      (some inv.retries))
    (h : inv.Returned) : Reports settings msg inv := by
  obtain ⟨htime, hending⟩ := (returned_iff hinv).1 h
  obtain ⟨henqueued, result, hhanded⟩ := ending_ok hending
  have hclean : ¬ FailsAfterWrite (envs inv.retries) msg
      (tryBlock py settings (envs inv.retries) msg) := by
    intro hfails
    obtain ⟨e, he⟩ := (ending_error_iff hhanded).2 hfails
    rw [endingOf, he] at hending
    cases hending
  have hstore := htaken ⟨htime, hclean⟩ (handed_iff_comesToFinalize.1 ⟨result, hhanded⟩)
  have hafter : inv.after =
      (scanTask py settings (envs inv.retries) msg (some inv.retries) inv.before).2 := by
    rw [run_genuine hinv]
    simp only [invoke, timedActor, timedTask, htime]
  rw [Reports, hafter]
  refine ⟨result, terminal_handed hhanded, ?_, fun henabled => ?_, ?_⟩
  · rw [scanTask_finals, handedBy, hhanded]
    rfl
  · rw [stored_scanTask, handedBy, hhanded]
    exact if_pos ⟨henabled, hstore henabled⟩
  · rw [scanTask_eq settings _ msg py _ _ rfl, removed_sent, hhanded, handOver_sent henqueued]
    rfl

/-- An attempt that is cut in its try block reports nothing. -/
theorem not_reports_of_cut {inv : Invocation World Stop Unit} {step : Nat} {cleaned : Bool}
    (hinv : inv ∈ run (timedActor py settings timings envs msg) MAX_RETRIES w)
    (hcut : timings inv.retries = .interrupted step cleaned) (hstep : step ≤ 2) :
    ¬ Reports settings msg inv := by
  intro h
  obtain ⟨result, -, hfinals, -⟩ := h
  obtain ⟨v, hv, hunchanged⟩ :=
    passes_try settings (envs inv.retries) msg py (some inv.retries) inv.before hstep
  have hafter : inv.after.finals = inv.before.finals := by
    rw [run_genuine hinv]
    simp only [invoke, timedActor, timedTask, hcut, hv, Option.getD_some]
    cases cleaned <;> exact hunchanged
  rw [hafter, List.self_eq_append_right] at hfinals
  cases hfinals

/-- The message is dead-lettered exactly when its last permitted attempt does not run through. -/
theorem not_deadLettered_iff :
    ¬ DeadLettered (run (timedActor py settings timings envs msg) MAX_RETRIES w) ↔
      ∀ inv ∈ run (timedActor py settings timings envs msg) MAX_RETRIES w,
        inv.retries = MAX_RETRIES →
          RunsThrough py settings (timings inv.retries) (envs inv.retries) msg := by
  have hlast (inv) (hinv : inv ∈ run (timedActor py settings timings envs msg) MAX_RETRIES w)
      (hmax : inv.retries = MAX_RETRIES) :
      inv.Returned ↔ RunsThrough py settings (timings inv.retries) (envs inv.retries) msg := by
    have hexhausted : retriesExhausted (some inv.retries) = true := by
      rw [hmax]
      rfl
    rw [returned_iff hinv, endingOf, ending_ok_iff hexhausted]
    exact ⟨fun h => ⟨h.1, h.2⟩, fun h => ⟨h.inTime, h.clean⟩⟩
  rw [deadLettered_iff]
  constructor
  · intro h inv hinv hmax
    apply (hlast inv hinv hmax).1
    apply not_raised_iff.1
    intro hraised
    exact h ⟨inv, hinv, hmax, hraised⟩
  · intro h hdead
    obtain ⟨inv, hinv, hmax, hraised⟩ := hdead
    exact not_raised_iff.2 ((hlast inv hinv hmax).2 (h inv hinv hmax)) hraised

theorem reported_of_not_deadLettered
    (htaken : ∀ inv ∈ run (timedActor py settings timings envs msg) MAX_RETRIES w,
      WriteTaken py settings (timings inv.retries) (envs inv.retries) msg (some inv.retries))
    (h : ¬ DeadLettered (run (timedActor py settings timings envs msg) MAX_RETRIES w)) :
    ∃ inv ∈ run (timedActor py settings timings envs msg) MAX_RETRIES w,
      Reports settings msg inv := by
  obtain ⟨earlier, last, hs⟩ := run_shape (timedActor py settings timings envs msg) MAX_RETRIES w
  have hreturned : last.Returned := by
    apply not_raised_iff.1
    intro hraised
    exact h ⟨earlier, last, hs.split, hraised⟩
  exact ⟨last, hs.last_mem,
    reports_of_returned hs.last_mem (htaken last hs.last_mem) hreturned⟩

end Run

/-- A scan message leaves the queue with its report when its last permitted attempt, where the run
comes to it, runs through, and the store takes what is written; a message that carries a key goes
to no dead letters only then. -/
theorem retired_scan_reported (py : Python) (settings : Settings) (timings : Nat → Timing)
    (envs : Nat → Env) (msg : ScanMessage) (w : World) :
    let invs := run (timedActor py settings timings envs msg) MAX_RETRIES w
    let endsWell := ∀ inv ∈ invs, inv.retries = MAX_RETRIES →
      RunsThrough py settings (timings inv.retries) (envs inv.retries) msg
    let taken := ∀ inv ∈ invs,
      WriteTaken py settings (timings inv.retries) (envs inv.retries) msg (some inv.retries)
    (endsWell ∧ taken → NotLost settings msg invs) ∧
      (msg.encryptionParams ≠ .null → NotLost settings msg invs → endsWell) := by
  intro invs endsWell taken
  constructor
  · intro h
    have hkept := not_deadLettered_iff.2 h.1
    exact ⟨reported_of_not_deadLettered h.2 hkept, fun _ => hkept⟩
  · intro henc h
    exact not_deadLettered_iff.1 (h.keyKept henc)

def sealedJob : ScanMessage :=
  { hookedJob with
    encryptionParams := encryptionDump zeroFragment "f" 65536 1 }

/-- Every attempt is cut while it reads the body: no report, and the key is dead-lettered. -/
theorem interrupted_scan_is_lost :
    let invs := run (timedActor publicPython {} (fun _ => .interrupted 1 true)
      (fun _ => answering page) sealedJob) MAX_RETRIES {}
    ¬ NotLost {} sealedJob invs ∧ ∀ inv ∈ invs, ¬ Reports {} sealedJob inv := by
  intro invs
  constructor
  · intro h
    apply h.keyKept Json.noConfusion
    exact deadLettered_iff.2 ⟨_, .tail _ (.tail _ (.head _)), rfl, _, rfl⟩
  · intro inv hinv
    exact not_reports_of_cut hinv rfl (by decide)

end FileScanner
