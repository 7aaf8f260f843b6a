import FileScanner.Custody

namespace FileScanner
open Collections Queues Unwinding
set_option autoImplicit true

def Handler.left : Handler → Nat
  | .accepted => 2
  | .enqueued => 1
  | .seeded => 0

/-- What a step of a handler, an attempt on a job and one on a callback are counted for. -/
structure Costs where
  handler : Nat
  attempt : Nat
  delivery : Nat

def everyStep : Costs := ⟨1, 1, 1⟩

def Costs.ofOp (costs : Costs) : JobOp → Nat
  | .enqueue => costs.handler
  | .seed _ => costs.handler
  | .attempt _ => costs.attempt

def Costs.ofEvent (costs : Costs) : PipelineEvent → Nat
  | .serve (.submit ..) => 0
  | .serve (.job _ op) => costs.ofOp op
  | .serve (.expire _) => 0
  | .serve (.poll ..) => 0
  | .deliver .. => costs.delivery

/-- What the attempts on a callback may cost. -/
def Costs.perCallback (costs : Costs) (settings : Settings) : Nat :=
  (settings.webhookMaxAttempts + 1) * costs.delivery

/-- What an attempt on a job may cost: itself, and the attempts on the callback it enqueues. -/
def Costs.perAttempt (costs : Costs) (settings : Settings) : Nat :=
  costs.attempt + costs.perCallback settings

/-- What a job may cost from its acceptance on. -/
def Costs.perJob (costs : Costs) (settings : Settings) : Nat :=
  2 * costs.handler + (MAX_RETRIES + 1) * costs.perAttempt settings

def attemptWork (settings : Settings) : Nat := 1 + (settings.webhookMaxAttempts + 1)

/-- The steps a job may take from its acceptance on. -/
def jobWork (settings : Settings) : Nat := 2 + (MAX_RETRIES + 1) * attemptWork settings

theorem perJob_everyStep (settings : Settings) : everyStep.perJob settings = jobWork settings := by
  simp only [Costs.perJob, Costs.perAttempt, Costs.perCallback, everyStep, jobWork, attemptWork,
    Nat.mul_one]

section Costs
variable (costs : Costs) (settings : Settings)

def Costs.queued : Option Nat → Nat
  | none => 0
  | some retries => (MAX_RETRIES - retries + 1) * costs.perAttempt settings

def Job.work (job : Job) : Nat :=
  (if job.handler = .accepted then costs.queued settings (some 0) else 0) +
    job.handler.left * costs.handler + costs.queued settings job.queued

def Callback.work (c : Callback) : Nat :=
  c.ticket.fate.left settings.webhookMaxAttempts * costs.delivery

def Pipeline.work (p : Pipeline) : Nat :=
  (p.service.jobs.map (fun e => e.2.work costs settings)).sum +
    (p.callbacks.map (Callback.work costs settings)).sum

/-- What the jobs of the service may cost altogether, from their acceptance on. -/
def Pipeline.credit (p : Pipeline) : Nat :=
  p.service.jobs.length * costs.perJob settings

end Costs

def Job.works (job : Job) : JobOp → Bool
  | .enqueue => job.handler = .accepted
  | .seed _ => job.handler = .enqueued
  | .attempt _ => job.queued.isSome

def Service.works (s : Service) : ServiceEvent → Bool
  | .submit .. => false
  | .job jobId op => (s.jobs.lookup jobId).any (·.works op)
  | .expire _ => false
  | .poll .. => false

/-- An event is a step of a handler, of a worker or of a delivery that was due. -/
def Pipeline.works (p : Pipeline) : PipelineEvent → Bool
  | .serve e => p.service.works e
  | .deliver i _ => p.callbacks[i]?.any (fun c => !c.ticket.fate.settled)

def PipelineEvent.isSubmission : PipelineEvent → Bool
  | .serve (.submit ..) => true
  | .serve (.job ..) => false
  | .serve (.expire _) => false
  | .serve (.poll ..) => false
  | .deliver .. => false

section Work
variable {py : Python} {settings : Settings}

theorem calls_length_le (py : Python) (settings : Settings) (job : Job) (op : JobOp) :
    (job.calls py settings op).length ≤ 1 := by
  cases op with
  | enqueue => exact Nat.zero_le 1
  | seed fails => exact Nat.zero_le 1
  | attempt env =>
    rw [Job.calls]
    split
    · exact Nat.zero_le 1
    · split
      · cases handedBy settings env job.msg py _ with
        | none => exact Nat.zero_le 1
        | some result =>
          rw [Option.toList_some, List.flatMap_singleton, callbacks]
          exact Option.length_toList_le
      · exact Nat.zero_le 1

theorem queued_requeued (costs : Costs) (settings : Settings) (retries : Nat)
    (outcome : Except Exc Unit) :
    costs.perAttempt settings + costs.queued settings (requeued retries outcome) ≤
      costs.queued settings (some retries) := by
  have hone : costs.perAttempt settings ≤ costs.queued settings (some retries) := by
    rw [Costs.queued]
    exact Nat.le_mul_of_pos_left _ (Nat.succ_pos _)
  cases outcome with
  | ok _ => exact hone
  | error e =>
    rw [requeued]
    split
    · rename_i hlt
      have hleft : MAX_RETRIES - retries + 1 = 1 + (MAX_RETRIES - (retries + 1) + 1) := by omega
      rw [Costs.queued, Costs.queued, hleft, Nat.add_mul 1 _ (costs.perAttempt settings),
        Nat.one_mul]
    · exact hone

/-- The work of a new callback is counted in the attempt that enqueues it. -/
theorem Job.work_next (py : Python) (costs : Costs) (settings : Settings) (job : Job) (op : JobOp) :
    (job.works op).toNat * costs.ofOp op + (job.next py settings op).work costs settings +
      (job.calls py settings op).length * costs.perCallback settings ≤
        job.work costs settings := by
  cases op with
  | enqueue =>
    rw [works, next, calls, List.length_nil, Nat.zero_mul]
    by_cases haccepted : job.handler = .accepted
    · simp only [haccepted, if_true, decide_true, Bool.toNat_true, work, Handler.left,
        Costs.ofOp]
      rw [if_neg (by decide)]
      omega
    · rw [if_neg haccepted, decide_eq_false haccepted, Bool.toNat_false, Nat.zero_mul]
      exact Nat.le_of_eq (Nat.zero_add _)
  | seed fails =>
    rw [works, next, calls, List.length_nil, Nat.zero_mul]
    by_cases henqueued : job.handler = .enqueued
    · simp only [henqueued, if_true, decide_true, Bool.toNat_true, work, Handler.left,
        Costs.ofOp]
      rw [if_neg (by decide), if_neg (by decide)]
      omega
    · rw [if_neg henqueued, decide_eq_false henqueued, Bool.toNat_false, Nat.zero_mul]
      exact Nat.le_of_eq (Nat.zero_add _)
  | attempt env =>
    have hcalls := Nat.mul_le_mul_right (costs.perCallback settings)
      (calls_length_le py settings job (.attempt env))
    rw [works, next]
    cases hqueued : job.queued with
    | none =>
      rw [calls, hqueued]
      exact Nat.le_of_eq (by rw [List.length_nil]; simp)
    | some retries =>
      have hpaid := queued_requeued costs settings retries
        (endingOf settings env job.msg py (some retries))
      rw [Costs.perAttempt] at hpaid
      rw [work, work, hqueued, Option.isSome_some, Bool.toNat_true, Costs.ofOp]
      dsimp only
      omega

theorem sum_work_new (costs : Costs) (id : String) (calls : List (String × Dict String Json)) :
    ((calls.map (fun m => (⟨id, m.1, m.2, { state := [] }⟩ : Callback))).map
      (Callback.work costs settings)).sum = calls.length * costs.perCallback settings := by
  induction calls with
  | nil => exact (Nat.zero_mul _).symm
  | cons m calls ih =>
    rw [List.map_cons, List.map_cons, List.sum_cons, ih, List.length_cons, Nat.succ_mul,
      Nat.add_comm]
    rfl

theorem work_accepted (costs : Costs) (msg : ScanMessage) :
    ({ msg := msg } : Job).work costs settings = costs.perJob settings := by
  rw [Job.work, if_pos rfl, Costs.queued, Costs.queued, Handler.left, Costs.perJob, Nat.sub_zero]
  omega

theorem Pipeline.work_serve (costs : Costs) (p : Pipeline) (e : ServiceEvent) :
    (p.service.works e).toNat * costs.ofEvent (.serve e) +
        (pipelineStep py settings p (.serve e)).work costs settings + p.credit costs settings ≤
      p.work costs settings + (pipelineStep py settings p (.serve e)).credit costs settings := by
  rw [pipelineStep, work, work, credit, credit]
  dsimp only
  rw [enqueuedBy_serviceStep, List.map_append, List.sum_append, sum_work_new]
  cases e with
  | submit username jobId path registry dns body =>
    rw [Service.works, ServiceEvent.calls, serviceStep, List.length_nil, Bool.toNat_false]
    split
    · rename_i msg hnone hok
      have hset := Dict.sum_set_new (Job.work costs settings) hnone { msg := msg }
      rw [work_accepted] at hset
      dsimp only
      rw [Dict.length_set_new hnone, Nat.succ_mul]
      omega
    · omega
  | job jobId op =>
    rw [Service.works, ServiceEvent.calls, serviceStep, Costs.ofEvent]
    cases hlookup : p.service.jobs.lookup jobId with
    | none => exact Nat.le_of_eq (by simp)
    | some job =>
      have hpaid := Job.work_next py costs settings job op
      have hset := Dict.sum_set (Job.work costs settings) hlookup (job.next py settings op)
      rw [Option.any_some, Option.toList_some, List.flatMap_singleton]
      dsimp only
      rw [Job.step_job, Dict.length_set hlookup]
      omega
  | expire jobId => exact Nat.le_of_eq (by simp [Service.works, serviceStep, Service.expired,
      ServiceEvent.calls])
  | poll username jobId path fails => exact Nat.le_of_eq (by simp [Service.works, serviceStep,
      ServiceEvent.calls])

theorem Pipeline.work_deliver (costs : Costs) (p : Pipeline) (i : Nat) (env : DeliveryEnv) :
    (p.works (.deliver i env)).toNat * costs.delivery +
        (pipelineStep py settings p (.deliver i env)).work costs settings ≤
      p.work costs settings := by
  rw [works, pipelineStep, work, work]
  dsimp only
  cases hget : p.callbacks[i]? with
  | none =>
    rw [List.modify_eq_self (List.getElem?_eq_none_iff.1 hget), Option.any_none, Bool.toNat_false,
      Nat.zero_mul]
    exact Nat.le_of_eq (Nat.zero_add _)
  | some c =>
    have hpaid := Nat.mul_le_mul_right costs.delivery
      (c.ticket.left_attempt (delivery py settings c.webhookUrl c.payload)
        settings.webhookMaxAttempts env)
    have hsum := sum_modify (f := Callback.attempt py settings env) (Callback.work costs settings)
      hget
    have hattempt : (c.attempt py settings env).work costs settings = (c.ticket.attempt
      (delivery py settings c.webhookUrl c.payload) settings.webhookMaxAttempts env).fate.left
        settings.webhookMaxAttempts * costs.delivery := rfl
    rw [Nat.add_mul] at hpaid
    rw [Option.any_some]
    rw [hattempt, Callback.work] at hsum
    omega

/-- Only a new job raises the work that is left, and an event that was due lowers it. -/
theorem Pipeline.work_step (costs : Costs) (p : Pipeline) (e : PipelineEvent) :
    (p.works e).toNat * costs.ofEvent e + (pipelineStep py settings p e).work costs settings +
        p.credit costs settings ≤
      p.work costs settings + (pipelineStep py settings p e).credit costs settings := by
  cases e with
  | serve e => exact p.work_serve costs e
  | deliver i env => exact Nat.add_le_add_right (p.work_deliver costs i env) _

/-- What a history costs, whatever each event in it meets. -/
theorem spent_pipeline (py : Python) (settings : Settings) (costs : Costs)
    (history : List PipelineEvent) :
    spent (pipelineStep py settings) (fun p e => (p.works e).toNat * costs.ofEvent e) {} history ≤
      (pipeline py settings history).service.jobs.length * costs.perJob settings := by
  have hspent := spent_le (@Pipeline.work_step py settings costs) {} history
  have hstart : Pipeline.work costs settings {} = 0 := rfl
  have hcredit : Pipeline.credit costs settings {} = 0 := Nat.zero_mul _
  rw [pipeline, ← Pipeline.credit]
  omega

theorem length_jobs_step (p : Pipeline) (e : PipelineEvent) :
    (pipelineStep py settings p e).service.jobs.length ≤
      p.service.jobs.length + e.isSubmission.toNat := by
  cases e with
  | deliver i env => exact Nat.le_refl _
  | serve e =>
    rw [pipelineStep]
    cases e with
    | submit username jobId path registry dns body =>
      rw [serviceStep, PipelineEvent.isSubmission]
      split
      · rename_i msg hnone hok
        exact Nat.le_of_eq (Dict.length_set_new hnone _)
      · exact Nat.le_add_right _ _
    | job jobId op =>
      rw [serviceStep]
      cases hlookup : p.service.jobs.lookup jobId with
      | none => exact Nat.le_refl _
      | some job => exact Nat.le_of_eq (Dict.length_set hlookup _)
    | expire jobId => exact Nat.le_refl _
    | poll username jobId path fails => exact Nat.le_refl _

theorem length_jobs_run (p : Pipeline) (history : List PipelineEvent) :
    (run (pipelineStep py settings) p history).service.jobs.length ≤
      p.service.jobs.length + history.countP PipelineEvent.isSubmission := by
  induction history generalizing p with
  | nil => exact Nat.le_refl _
  | cons e history ih =>
    have hstep := @length_jobs_step py settings p e
    have hrest := ih (pipelineStep py settings p e)
    have hcount : (e :: history).countP PipelineEvent.isSubmission =
        e.isSubmission.toNat + history.countP PipelineEvent.isSubmission := by
      rw [List.countP_cons, Nat.add_comm]
      cases e.isSubmission <;> rfl
    rw [hcount, ← Nat.add_assoc]
    exact Nat.le_trans hrest (Nat.add_le_add_right hstep _)

/-- Every step of a handler, of a worker or of a delivery counts for one. -/
theorem works_everyStep (p : Pipeline) (e : PipelineEvent) :
    (p.works e).toNat = (p.works e).toNat * everyStep.ofEvent e := by
  cases e with
  | deliver i env => exact (Nat.mul_one _).symm
  | serve e =>
    cases e with
    | job jobId op =>
      cases op with
      | enqueue => exact (Nat.mul_one _).symm
      | seed fails => exact (Nat.mul_one _).symm
      | attempt env => exact (Nat.mul_one _).symm
    | submit username jobId path registry dns body => rfl
    | expire jobId => rfl
    | poll username jobId path fails => rfl

end Work

/-- Every job is out of its handler and of its queue, and no callback waits. -/
structure Pipeline.Dry (p : Pipeline) : Prop where
  handlers : ∀ id job, p.service.jobs.lookup id = some job → job.handler = .seeded
  jobs : ∀ id job, p.service.jobs.lookup id = some job → job.queued = none
  callbacks : ∀ c ∈ p.callbacks, c.ticket.fate.settled = true

/-- Nothing is left to do exactly when no event, whatever it meets, would do any work. -/
theorem Pipeline.dry_iff (p : Pipeline) : p.Dry ↔ ∀ e, p.works e = false := by
  constructor
  · intro h e
    cases e with
    | serve e =>
      cases e with
      | submit username jobId path registry dns body => rfl
      | expire jobId => rfl
      | poll username jobId path fails => rfl
      | job jobId op =>
        rw [works, Service.works]
        cases hlookup : p.service.jobs.lookup jobId with
        | none => rfl
        | some job =>
          have hhandler := h.handlers jobId job hlookup
          have hqueued := h.jobs jobId job hlookup
          cases op with
          | enqueue => simp only [Option.any_some, Job.works, hhandler]; rfl
          | seed fails => simp only [Option.any_some, Job.works, hhandler]; rfl
          | attempt env => simp only [Option.any_some, Job.works, hqueued]; rfl
    | deliver i env =>
      rw [works]
      cases hget : p.callbacks[i]? with
      | none => rfl
      | some c =>
        rw [Option.any_some, h.callbacks c (List.mem_of_getElem? hget)]
        rfl
  · intro h
    have hjob (id) (job) (hlookup : p.service.jobs.lookup id = some job) (op) :
        job.works op = false := by
      have hidle := h (.serve (.job id op))
      rwa [works, Service.works, hlookup, Option.any_some] at hidle
    refine ⟨fun id job hlookup => ?_, fun id job hlookup => ?_, fun c hc => ?_⟩
    · have henqueue := of_decide_eq_false (hjob id job hlookup .enqueue)
      have hseed := of_decide_eq_false (hjob id job hlookup (.seed false))
      cases hhandler : job.handler with
      | accepted => exact absurd hhandler henqueue
      | enqueued => exact absurd hhandler hseed
      | seeded => rfl
    · exact Option.isSome_eq_false_iff.1 (hjob id job hlookup (.attempt unresolvable)) |>
        Option.isNone_iff_eq_none.1
    · obtain ⟨i, hget⟩ := List.mem_iff_getElem?.1 hc
      have hidle := h (.deliver i (receiver [] 0))
      rw [works, hget, Option.any_some] at hidle
      exact Bool.eq_true_of_not_eq_false fun hwaits => by rw [hwaits] at hidle; cases hidle

/-- Whatever fails on the way, each submission is worth a fixed number of steps of handlers, of
workers and of deliveries. When no step is due any more, every job is out of its handler and of
its queue, and every callback is out of the other. -/
theorem queues_run_dry (py : Python) (settings : Settings) (history : List PipelineEvent) :
    effort (pipelineStep py settings) Pipeline.works {} history ≤
        history.countP PipelineEvent.isSubmission * jobWork settings ∧
      ((pipeline py settings history).Dry ↔
        ∀ e, (pipeline py settings history).works e = false) := by
  refine ⟨?_, Pipeline.dry_iff _⟩
  rw [effort_eq_spent, ← perJob_everyStep]
  refine Nat.le_trans (spent_mono (fun p e => Nat.le_of_eq (works_everyStep p e)) _ _) ?_
  refine Nat.le_trans (spent_pipeline py settings everyStep history)
    (Nat.mul_le_mul_right _ ?_)
  exact Nat.le_trans (length_jobs_run {} history) (Nat.le_of_eq (Nat.zero_add _))

end FileScanner
