import FileScanner.JobRecord
import FileScanner.Lib.Unwinding

namespace FileScanner
open Collections Fallible
set_option autoImplicit true

/-- An accepted job: its message, how far its handler is, and its place in the queue. -/
structure Job where
  msg : ScanMessage
  handler : Handler := .accepted
  queued : Option Nat := none

/-- What the processes of the service do for a job once it is accepted. An attempt runs to its end
here; one that is cut by its time limit is a `timedTask`. -/
inductive JobOp where
  | enqueue
  | seed (fails : Bool)
  | attempt (env : Env)

/-- All jobs of the service over one store, and the answers to all polls. -/
structure Service where
  jobs : Dict String Job := []
  world : World := {}
  answers : List (String × Except Failure (Dict String Json)) := []

inductive ServiceEvent where
  | submit (username jobId path : String) (registry : Registry) (dns : Dns)
      (body : ScanAsyncRequest)
  | job (jobId : String) (op : JobOp)
  | expire (jobId : String)
  | poll (username jobId path : String) (fails : Bool)

/-- An operation on a job; one that is not due leaves everything as it is. -/
def Job.step (py : Python) (settings : Settings) (job : Job) (w : World) : JobOp → Job × World
  | .enqueue =>
    if job.handler = .accepted then ({ job with handler := .enqueued, queued := some 0 }, w)
    else (job, w)
  | .seed fails =>
    if job.handler = .enqueued then
      ({ job with handler := .seeded },
        { w with
          store := record settings fails w.store job.msg.jobId job.msg.apiClient
            (pendingRecord job.msg) })
    else (job, w)
  | .attempt env =>
    match job.queued with
    | none => (job, w)
    | some retries =>
      let (outcome, w) := scanTask py settings env job.msg (some retries) w
      ({ job with queued := requeued retries outcome }, w)

def Service.expired (s : Service) (jobId : String) : Service :=
  { s with
    world := { s.world with store := s.world.store.filter (fun e => e.1 ≠ keyMessage jobId) } }

/-- One event of the service. An id is given to one job only. -/
def serviceStep (py : Python) (settings : Settings) (s : Service) : ServiceEvent → Service
  | .submit username jobId path registry dns body =>
    match s.jobs.lookup jobId, accept py settings registry dns path username jobId body with
    | none, .ok msg => { s with jobs := s.jobs.set jobId { msg := msg } }
    | _, _ => s
  | .job jobId op =>
    match s.jobs.lookup jobId with
    | none => s
    | some job =>
      let (job, w) := job.step py settings s.world op
      { s with jobs := s.jobs.set jobId job, world := w }
  | .expire jobId => s.expired jobId
  | .poll username jobId path fails =>
    { s with
      answers := s.answers ++
        [(username, jobStatus settings fails s.world.store path jobId username)] }

/-- The service after a history of events. -/
def serve (py : Python) (settings : Settings) (history : List ServiceEvent) : Service :=
  Unwinding.run (serviceStep py settings) {} history

/-- The record an operation hands to the store, if it does. -/
def Job.written (py : Python) (settings : Settings) (job : Job) : JobOp → Option (Dict String Json)
  | .enqueue => none
  | .seed _ => if job.handler = .enqueued then some (pendingRecord job.msg) else none
  | .attempt env =>
    match job.queued with
    | none => none
    | some retries => handedBy settings env job.msg py (some retries)

def JobOp.storeFails : JobOp → Bool
  | .enqueue => false
  | .seed fails => fails
  | .attempt env => env.storeFails

/-- The job after an operation, without the world. -/
def Job.next (py : Python) (settings : Settings) (job : Job) : JobOp → Job
  | .enqueue =>
    if job.handler = .accepted then { job with handler := .enqueued, queued := some 0 } else job
  | .seed _ => if job.handler = .enqueued then { job with handler := .seeded } else job
  | .attempt env =>
    match job.queued with
    | none => job
    | some retries =>
      { job with queued := requeued retries (endingOf settings env job.msg py (some retries)) }

theorem Job.step_job (py : Python) (settings : Settings) (job : Job) (w : World) (op : JobOp) :
    (job.step py settings w op).1 = job.next py settings op := by
  cases op with
  | enqueue =>
    rw [step, next]
    split <;> rfl
  | seed fails =>
    rw [step, next]
    split <;> rfl
  | attempt env =>
    rw [step, next]
    cases job.queued with
    | none => rfl
    | some retries =>
      dsimp only
      rw [scanTask_ending]

theorem Job.next_msg (py : Python) (settings : Settings) (job : Job) (op : JobOp) :
    (job.next py settings op).msg = job.msg := by
  cases op with
  | enqueue =>
    rw [next]
    split <;> rfl
  | seed fails =>
    rw [next]
    split <;> rfl
  | attempt env =>
    rw [next]
    split <;> rfl

/-- No operation changes the message of its job. -/
theorem Job.step_msg (py : Python) (settings : Settings) (job : Job) (w : World) (op : JobOp) :
    (job.step py settings w op).1.msg = job.msg := by
  rw [step_job, next_msg]

/-- An operation writes to the store under the id and the owner of its job, or not at all. -/
theorem Job.step_store (py : Python) (settings : Settings) (job : Job) (w : World) (op : JobOp) :
    (job.step py settings w op).2.store =
      (job.written py settings op).elim w.store
        (record settings op.storeFails w.store job.msg.jobId job.msg.apiClient) := by
  cases op with
  | enqueue =>
    rw [step, written]
    split <;> rfl
  | seed fails =>
    rw [step, written]
    split <;> rfl
  | attempt env =>
    rw [step, written]
    cases job.queued with
    | none => rfl
    | some retries =>
      dsimp only
      rw [scanTask_store]
      rfl

theorem accept_msg {py : Python} {settings : Settings} {registry : Registry} {dns : Dns}
    {path username jobId : String} {body : ScanAsyncRequest} {msg : ScanMessage}
    (h : accept py settings registry dns path username jobId body = .ok msg) :
    msg.jobId = jobId ∧ msg.apiClient = username := by
  rw [accept] at h
  obtain ⟨names, -, h⟩ := bind_eq_ok.1 h
  obtain ⟨⟨⟩, -, h⟩ := bind_eq_ok.1 h
  obtain ⟨⟨⟩, -, h⟩ := bind_eq_ok.1 h
  obtain ⟨⟨⟩, -, h⟩ := bind_eq_ok.1 h
  cases h
  exact ⟨rfl, rfl⟩

end FileScanner
