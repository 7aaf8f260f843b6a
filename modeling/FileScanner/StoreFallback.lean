import FileScanner.Custody
import FileScanner.Traffic

namespace FileScanner
open Collections Fallible Queues Unwinding
set_option autoImplicit true

def Env.unstored (env : Env) : Env := { env with storeFails := true }

def World.unstored (w : World) : World := { w with store := [] }

def JobOp.unstored : JobOp → JobOp
  | .enqueue => .enqueue
  | .seed _ => .seed true
  | .attempt env => .attempt env.unstored

/-- The event in a service whose store takes nothing; there is nothing to expire and to poll. -/
def ServiceEvent.unstored : ServiceEvent → Option ServiceEvent
  | .submit username jobId path registry dns body =>
    some (.submit username jobId path registry dns body)
  | .job jobId op => some (.job jobId op.unstored)
  | .expire _ => none
  | .poll .. => none

def PipelineEvent.unstored : PipelineEvent → Option PipelineEvent
  | .serve e => e.unstored.map .serve
  | .deliver i env => some (.deliver i env)

def Service.unstored (s : Service) : Service :=
  { s with world := s.world.unstored, answers := [] }

def Pipeline.unstored (p : Pipeline) : Pipeline := { p with service := p.service.unstored }

/-- Two pipelines that differ in nothing but the store and the answers to polls. -/
structure SameButStore (p p' : Pipeline) : Prop where
  jobs : p.service.jobs = p'.service.jobs
  sent : p.service.world.sent = p'.service.world.sent
  finals : p.service.world.finals = p'.service.world.finals
  scans : p.service.world.scans = p'.service.world.scans
  scratch : p.service.world.scratch = p'.service.world.scratch
  callbacks : p.callbacks = p'.callbacks

theorem sameButStore_iff {p p' : Pipeline} : SameButStore p p' ↔ p.unstored = p'.unstored := by
  obtain ⟨⟨jobs, world, answers⟩, callbacks⟩ := p
  obtain ⟨⟨jobs', world', answers'⟩, callbacks'⟩ := p'
  constructor
  · rintro ⟨rfl, hsent, hfinals, hscans, hscratch, rfl⟩
    have hworld : world.unstored = world'.unstored := by
      dsimp only at hsent hfinals hscans hscratch
      rw [World.unstored, World.unstored, hsent, hfinals, hscans, hscratch]
    rw [Pipeline.unstored, Service.unstored, hworld]
    rfl
  · intro h
    injection h with hservice hcallbacks
    injection hservice with hjobs hworld
    injection hworld with _ hsent hfinals hscans hscratch
    exact ⟨hjobs, hsent, hfinals, hscans, hscratch, hcallbacks⟩

section Steps
variable (py : Python) (settings : Settings)

theorem finalize_unstored (env : Env) (msg : ScanMessage) (result : Dict String Json) (w : World) :
    (finalize settings env.unstored msg result w.unstored).2 =
      (finalize settings env msg result w).2.unstored := by
  have hnone (jobId owner : String) (store : Store) :
      record settings true store jobId owner result = store := by
    rw [record, Bool.or_true, if_pos rfl]
  simp only [finalize, enqueue, Env.unstored, World.unstored, hnone]
  cases msg.webhook with
  | none => rfl
  | some url => cases env.enqueueFails <;> rfl

theorem scanTask_unstored (env : Env) (msg : ScanMessage) (retries : Option Nat) (w : World) :
    scanTask py settings env.unstored msg retries w.unstored =
      ((scanTask py settings env msg retries w).1,
        (scanTask py settings env msg retries w).2.unstored) := by
  have htry : tryBlock py settings env.unstored msg = tryBlock py settings env msg := rfl
  rw [scanTask_eq settings env.unstored msg py retries w.unstored htry,
    scanTask_eq settings env msg py retries w rfl]
  generalize tryBlock py settings env msg = a
  have hremoved (w : World) : w.unstored.removed env.unstored a = (w.removed env a).unstored := by
    rw [World.removed, World.removed, apply_ite World.unstored]
    rfl
  have hhanded : (w.unstored.attempted a).handOver settings env.unstored msg
      (handed env.unstored msg retries a) =
        ((w.attempted a).handOver settings env msg (handed env msg retries a)).unstored := by
    change (w.attempted a).unstored.handOver settings env.unstored msg
      (handed env msg retries a) = _
    cases handed env msg retries a with
    | none => rfl
    | some result => exact finalize_unstored settings env msg result (w.attempted a)
  rw [hhanded, hremoved]
  rfl

theorem Job.step_unstored (job : Job) (w : World) (op : JobOp) :
    job.step py settings w.unstored op.unstored =
      ((job.step py settings w op).1, (job.step py settings w op).2.unstored) := by
  obtain ⟨msg, handler, queued⟩ := job
  cases op with
  | enqueue => cases handler <;> rfl
  | seed fails =>
    cases handler with
    | enqueued =>
      rw [JobOp.unstored, step, step, record, Bool.or_true, if_pos rfl]
      rfl
    | _ => rfl
  | attempt env =>
    cases queued with
    | none => rfl
    | some retries =>
      dsimp only [JobOp.unstored, step]
      rw [scanTask_unstored]

theorem serviceStep_unstored (s : Service) (e : ServiceEvent) :
    e.unstored.elim s.unstored (serviceStep py settings s.unstored) =
      (serviceStep py settings s e).unstored := by
  cases e with
  | submit username jobId path registry dns body =>
    rw [ServiceEvent.unstored, Option.elim_some, serviceStep, serviceStep]
    dsimp only [Service.unstored]
    split <;> rfl
  | job jobId op =>
    rw [ServiceEvent.unstored, Option.elim_some, serviceStep, serviceStep]
    dsimp only [Service.unstored]
    cases s.jobs.lookup jobId with
    | none => rfl
    | some job =>
      dsimp only
      rw [Job.step_unstored]
  | expire jobId => rfl
  | poll username jobId path fails => rfl

theorem ServiceEvent.unstored_none {e : ServiceEvent} (h : e.unstored = none) (s : Service) :
    (serviceStep py settings s e).world.sent = s.world.sent := by
  cases e with
  | expire jobId => rfl
  | poll username jobId path fails => rfl
  | _ => cases h

theorem ServiceEvent.unstored_target {e e' : ServiceEvent} (h : e.unstored = some e') :
    e'.target = e.target := by
  cases e with
  | expire jobId => cases h
  | poll username jobId path fails => cases h
  | _ =>
    cases h
    rfl

theorem pipelineStep_unstored (p : Pipeline) (e : PipelineEvent) :
    e.unstored.elim p.unstored (pipelineStep py settings p.unstored) =
      (pipelineStep py settings p e).unstored := by
  cases e with
  | deliver i env => rfl
  | serve e =>
    have hstep := serviceStep_unstored py settings p.service e
    rw [PipelineEvent.unstored, pipelineStep, enqueuedBy]
    cases hkept : e.unstored with
    | none =>
      rw [hkept, Option.elim_none] at hstep
      rw [Option.map_none, Option.elim_none, ServiceEvent.unstored_none py settings hkept,
        List.drop_length, List.map_nil, List.append_nil]
      exact congrArg (Pipeline.mk · p.callbacks) hstep
    | some e' =>
      rw [hkept, Option.elim_some] at hstep
      rw [Option.map_some, Option.elim_some, pipelineStep, enqueuedBy,
        ServiceEvent.unstored_target hkept]
      dsimp only [Pipeline.unstored]
      rw [hstep]
      rfl

theorem Pipeline.connections_unstored (p : Pipeline) (e : PipelineEvent) :
    e.unstored.elim [] (p.unstored.connections py settings) = p.connections py settings e := by
  cases e with
  | deliver i env => rfl
  | serve e =>
    cases e with
    | job jobId op =>
      have hdials (job : Job) : job.dials py settings op.unstored = job.dials py settings op := by
        cases op <;> rfl
      dsimp only [PipelineEvent.unstored, ServiceEvent.unstored, Option.map_some,
        Option.elim_some, connections, Service.connections]
      simp only [hdials]
      rfl
    | _ => rfl

end Steps

theorem pipeline_unstored (py : Python) (settings : Settings) (history : List PipelineEvent) :
    pipeline py settings (history.filterMap PipelineEvent.unstored) =
      (pipeline py settings history).unstored :=
  run_projects (pipelineStep_unstored py settings) {} history

theorem traffic_unstored (py : Python) (settings : Settings) (history : List PipelineEvent) :
    traffic py settings (history.filterMap PipelineEvent.unstored) =
      traffic py settings history :=
  emitted_projects (pipelineStep_unstored py settings)
    (Pipeline.connections_unstored py settings) {} history

/-- The store is a convenience and never fails a scan: whatever writes it loses, whatever expires
and whoever polls, the jobs end alike, with the same files scanned, the same callbacks and the same
connections. -/
theorem store_never_interferes (py : Python) (settings : Settings)
    {history history' : List PipelineEvent}
    (h : history.filterMap PipelineEvent.unstored = history'.filterMap PipelineEvent.unstored) :
    SameButStore (pipeline py settings history) (pipeline py settings history') ∧
      traffic py settings history = traffic py settings history' := by
  constructor
  · rw [sameButStore_iff, ← pipeline_unstored, h, pipeline_unstored]
  · rw [← traffic_unstored, h, traffic_unstored]

/-- The job of `oneJob`, polled while it runs; the store fails it at its end and forgets it. -/
def forgottenJob : List PipelineEvent :=
  [.serve (.submit "drive" "job" "/api/v2.0/scan-async" oneScanner publicDns
      { url := "https://example.com/f", webhookUrl := some "https://example.com/hook",
        scanners := ["clamav"] }),
    .serve (.job "job" .enqueue), .serve (.poll "drive" "job" "/api/v2.0/jobs/job" false),
    .serve (.job "job" (.attempt { unresolvable with storeFails := true })),
    .serve (.expire "job"), .deliver 0 (receiver [204] 0)]

theorem store_never_interferes_forgotten :
    SameButStore (pipeline publicPython polledSettings oneJob)
        (pipeline publicPython polledSettings forgottenJob) ∧
      traffic publicPython polledSettings oneJob =
        traffic publicPython polledSettings forgottenJob :=
  @store_never_interferes publicPython polledSettings oneJob forgottenJob rfl

end FileScanner
