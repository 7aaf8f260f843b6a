import FileScanner.DownloadStatus
import FileScanner.JobRecord

namespace FileScanner
open Collections Fallible Runs
set_option autoImplicit true

def stored (msg : ScanMessage) (w : World) : Option StoredResult :=
  w.store.lookup (keyMessage msg.jobId)

/-- The attempt comes to `_finalize`: its failure is reported, or its report is delivered. -/
def ComesToFinalize (env : Env) (retries : Option Nat) (a : Attempted) : Prop :=
  match a.outcome with
  | .error e => reportedAs e ≠ none ∨ retriesExhausted retries = true
  | .ok report =>
    removal env a = none ∧ (report.allErrored = true → retriesExhausted retries = true)

/-- A step after the write of the record fails: the enqueue of the callback, or the removal of
the scratch file that the report of a failure comes before. -/
def FailsAfterWrite (env : Env) (msg : ScanMessage) (a : Attempted) : Prop :=
  removal env a ≠ none ∨ (msg.webhook ≠ none ∧ env.enqueueFails ≠ none)

structure WrittenBeforeRaise (py : Python) (settings : Settings) (env : Env) (msg : ScanMessage)
    (retries : Option Nat) : Prop where
  enabled : enabled settings = true
  storeHolds : env.storeFails = false
  reached : ComesToFinalize env retries (tryBlock py settings env msg)
  fails : FailsAfterWrite env msg (tryBlock py settings env msg)

/-- An attempt that raises leaves the record of its job as it found it. -/
def KeepsRecord (py : Python) (settings : Settings) (env : Env) (msg : ScanMessage)
    (retries : Option Nat) : Prop :=
  ∀ w e, (scanTask py settings env msg retries w).1 = .error e →
    stored msg (scanTask py settings env msg retries w).2 = stored msg w

theorem handed_iff_comesToFinalize {env : Env} {msg : ScanMessage} {retries : Option Nat}
    {a : Attempted} : (∃ r, handed env msg retries a = some r) ↔ ComesToFinalize env retries a := by
  rw [← Option.isSome_iff_exists, handed, ComesToFinalize]
  cases a.outcome with
  | error e =>
    dsimp only
    cases reportedAs e with
    | some said => exact iff_of_true rfl (.inl (Option.some_ne_none said))
    | none =>
      cases retriesExhausted retries with
      | true => exact iff_of_true rfl (.inr rfl)
      | false => simp
  | ok report =>
    dsimp only
    cases removal env a with
    | some e => simp
    | none =>
      cases report.allErrored with
      | false => simp
      | true => cases retriesExhausted retries <;> simp

theorem enqueued_error_iff {env : Env} {msg : ScanMessage} :
    (∃ e, enqueued env msg = .error e) ↔ msg.webhook ≠ none ∧ env.enqueueFails ≠ none := by
  rw [enqueued]
  cases msg.webhook with
  | none => simp
  | some url => cases env.enqueueFails <;> simp

/-- An attempt that hands a result over raises exactly when a later step fails. -/
theorem ending_error_iff {env : Env} {msg : ScanMessage} {retries : Option Nat} {a : Attempted}
    {r : Dict String Json} (h : handed env msg retries a = some r) :
    (∃ e, ending env msg retries a = .error e) ↔ FailsAfterWrite env msg a := by
  rw [ending, FailsAfterWrite, h, ← enqueued_error_iff]
  cases removal env a with
  | some e => exact iff_of_true ⟨e, rfl⟩ (.inl (Option.some_ne_none e))
  | none => simp

section Attempt
variable {py : Python} {settings : Settings} {env : Env} {msg : ScanMessage} {retries : Option Nat}

theorem stored_scanTask (w : World) :
    stored msg (scanTask py settings env msg retries w).2 =
      match handedBy settings env msg py retries with
      | some r =>
        if enabled settings = true ∧ env.storeFails = false then
          some ⟨msg.apiClient, r, settings.workerResultTtl * 1000⟩
        else stored msg w
      | none => stored msg w := by
  rw [stored, scanTask_store]
  cases handedBy settings env msg py retries with
  | none => rfl
  | some r =>
    rw [Option.elim_some, lookup_record]
    simp only [true_and]
    rfl

theorem stored_of_not_writtenBeforeRaise
    (h : ¬ WrittenBeforeRaise py settings env msg retries) :
    KeepsRecord py settings env msg retries := by
  intro w e he
  rw [scanTask_ending, endingOf] at he
  rw [stored_scanTask]
  split
  · rename_i r hr
    rw [if_neg]
    intro hholds
    exact h ⟨hholds.1, hholds.2, handed_iff_comesToFinalize.1 ⟨r, hr⟩,
      (ending_error_iff hr).1 ⟨e, he⟩⟩
  · rfl

/-- When a failed attempt keeps the record it found. -/
theorem keepsRecord_iff :
    KeepsRecord py settings env msg retries ↔
      ¬ WrittenBeforeRaise py settings env msg retries := by
  constructor
  · intro hkeeps h
    obtain ⟨r, hr⟩ := handed_iff_comesToFinalize.2 h.reached
    obtain ⟨e, he⟩ := (ending_error_iff hr).2 h.fails
    have hraised : (scanTask py settings env msg retries {}).1 = .error e := by
      rw [scanTask_ending]
      exact he
    have hkept := hkeeps {} e hraised
    rw [stored_scanTask, handedBy, hr] at hkept
    dsimp only at hkept
    rw [if_pos ⟨h.enabled, h.storeHolds⟩] at hkept
    cases hkept
  · exact stored_of_not_writtenBeforeRaise

end Attempt

section Run
variable (py : Python) (settings : Settings) (msg : ScanMessage)

/-- An attempt does not raise after it has written the record. -/
def RaisesClean (s : JobState) : JobEvent → Prop
  | .attempt env => ∀ retries, s.queued = some retries →
    ¬ WrittenBeforeRaise py settings env msg (some retries)
  | _ => True

/-- An attempt does not replace a terminal record. -/
def TerminalStands (s : JobState) : JobEvent → Prop
  | .attempt env => ∀ s' r, jobStep py settings msg s (.attempt env) = some s' →
    stored msg s.world = some r → Terminal r.record → stored msg s'.world = some r
  | _ => True

/-- As long as an attempt is still to come, there is no terminal record. -/
structure RecordOpen (s : JobState) : Prop where
  first : s.handler = .accepted → s.queued = none
  pending : s.handler = .accepted ∨ s.queued ≠ none →
    ∀ r, stored msg s.world = some r → ¬ Terminal r.record

variable {py settings msg}

/-- A job that has just been accepted is open: nothing is queued, and its id is new to the store. -/
theorem recordOpen_accepted {world : World} (hnew : stored msg world = none)
    (polls : List (Except Failure (Dict String Json))) :
    RecordOpen msg ⟨.accepted, none, world, polls⟩ := by
  constructor
  · exact fun _ => rfl
  · intro _ r hr
    rw [hnew] at hr
    cases hr

theorem raisesClean_healthy {env : Env} (h : env.Healthy) (s : JobState) :
    RaisesClean py settings msg s (.attempt env) := by
  rintro retries - ⟨-, -, -, hremoval | ⟨-, henqueue⟩⟩
  · exact hremoval (removal_healthy h _)
  · exact henqueue h.enqueueFails

theorem recordOpen_seed {s : JobState} (h : RecordOpen msg s) :
    RecordOpen msg { s with
      handler := .seeded
      world := { s.world with
        store := record settings false s.world.store msg.jobId msg.apiClient
          (pendingRecord msg) } } := by
  constructor
  · intro hacc
    cases hacc
  · intro hto r hr
    have hqueued : s.queued ≠ none := hto.resolve_left Handler.noConfusion
    rw [stored, lookup_record] at hr
    split at hr
    · cases hr
      exact not_terminal_pendingRecord msg
    · exact h.pending (.inr hqueued) r hr

theorem recordOpen_attempt {s : JobState} {env : Env} {retries : Nat} (h : RecordOpen msg s)
    (hq : s.queued = some retries)
    (hclean : ¬ WrittenBeforeRaise py settings env msg (some retries)) :
    RecordOpen msg { s with
      queued := requeued retries (scanTask py settings env msg (some retries) s.world).1
      world := (scanTask py settings env msg (some retries) s.world).2 } := by
  have hhandler : s.handler ≠ .accepted := by
    intro hacc
    rw [h.first hacc] at hq
    cases hq
  constructor
  · intro hacc
    exact absurd hacc hhandler
  · intro hto r hr
    have hrequeued := hto.resolve_left hhandler
    cases hout : (scanTask py settings env msg (some retries) s.world).1 with
    | ok u =>
      rw [hout] at hrequeued
      exact absurd rfl hrequeued
    | error e =>
      rw [keepsRecord_iff.2 hclean s.world e hout] at hr
      apply h.pending (.inr _) r hr
      rw [hq]
      exact Option.some_ne_none retries

theorem recordOpen_step (s : JobState) (e : JobEvent) (s' : JobState) (h : RecordOpen msg s)
    (hclean : RaisesClean py settings msg s e) (hstep : jobStep py settings msg s e = some s') :
    RecordOpen msg s' ∧ TerminalStands py settings msg s e := by
  cases e with
  | enqueue =>
    apply And.intro _ trivial
    simp only [jobStep] at hstep
    split at hstep
    · rename_i hacc
      cases hstep
      constructor
      · intro hstill
        cases hstill
      · intro _
        exact h.pending (.inl hacc)
    · cases hstep
  | seed =>
    apply And.intro _ trivial
    simp only [jobStep] at hstep
    split at hstep
    · cases hstep
      exact recordOpen_seed h
    · cases hstep
  | attempt env =>
    cases hq : s.queued with
    | none =>
      simp only [jobStep, hq] at hstep
      cases hstep
    | some retries =>
      constructor
      · simp only [jobStep, hq] at hstep
        cases hstep
        exact recordOpen_attempt h hq (hclean retries hq)
      · intro s'' r _ hr hterminal
        have hqueued : s.queued ≠ none := by
          rw [hq]
          exact Option.some_ne_none retries
        exact absurd hterminal (h.pending (.inr hqueued) r hr)
  | poll path =>
    apply And.intro _ trivial
    cases hstep
    exact ⟨h.first, h.pending⟩

end Run

/-- When a failed attempt keeps the record of its job; and where every attempt of a run does, no
terminal record that a poll can see is replaced. -/
theorem failed_attempts_keep_record (py : Python) (settings : Settings) (msg : ScanMessage) :
    (∀ env retries, KeepsRecord py settings env msg retries ↔
      ¬ WrittenBeforeRaise py settings env msg retries) ∧
      ∀ s es, RecordOpen msg s →
        EachStep (jobStep py settings msg) (RaisesClean py settings msg) s es →
        EachStep (jobStep py settings msg) (TerminalStands py settings msg) s es := by
  constructor
  · intro env retries
    exact keepsRecord_iff
  · intro s es hopen hclean
    exact hclean.imp recordOpen_step hopen

/-- The disk is full at the first attempt of a job, and the second one scans its file. -/
theorem failed_attempts_keep_record_retried :
    EachStep (jobStep publicPython { workerResultTtl := 3600 } plainJob)
      (TerminalStands publicPython { workerResultTtl := 3600 } plainJob)
      ⟨.accepted, none, {}, []⟩
      [.enqueue, .seed, .attempt brokenWorker, .attempt clearingWorker] := by
  have hbroken : brokenWorker.Healthy := ⟨rfl, rfl, rfl⟩
  have hclearing : clearingWorker.Healthy := ⟨rfl, rfl, rfl⟩
  apply (failed_attempts_keep_record publicPython { workerResultTtl := 3600 } plainJob).2
  · exact recordOpen_accepted rfl []
  · refine fun s _ => ⟨trivial, fun s _ => ⟨trivial, fun s _ => ⟨?_, fun s _ => ⟨?_, trivial⟩⟩⟩⟩
    · exact raisesClean_healthy hbroken _
    · exact raisesClean_healthy hclearing _

def hookedJob : ScanMessage :=
  { plainJob with webhookUrl := some "https://example.com/hook", apiClient := "drive" }

def page : Response := { nowhere with statusCode := 200, reason := "OK" }

/-- The broker refuses the callback of a scan that is done. -/
def refusing : Env := { answering page with enqueueFails := some (.exception "Connection refused") }

/-- The source is gone when the job is run again. -/
def gone : Env :=
  { answering page with
    fault := fun step => if step = .connect then some (.requestException "no route") else none }

theorem refused_callback_leaves_record :
    ¬ KeepsRecord publicPython { workerResultTtl := 3600 } refusing hookedJob (some 0) ∧
      ¬ EachStep (jobStep publicPython { workerResultTtl := 3600 } hookedJob)
        (TerminalStands publicPython { workerResultTtl := 3600 } hookedJob)
        ⟨.accepted, none, {}, []⟩ [.enqueue, .attempt refusing, .attempt gone] := by
  constructor
  · intro hkeeps
    have hkept := hkeeps {} (.exception "Connection refused") rfl
    cases hkept
  · intro hrun
    obtain ⟨-, hrun⟩ := hrun _ rfl
    obtain ⟨-, hrun⟩ := hrun _ rfl
    obtain ⟨hstands, -⟩ := hrun _ rfl
    have hkept := hstands _ _ rfl rfl (.inl rfl)
    have hkind := congrArg (Option.map (fun w => w.record.lookup "error_kind")) hkept
    cases hkind

end FileScanner
