import FileScanner.Isolation
import FileScanner.Lib.Pool
import FileScanner.TerminalReport
import FileScanner.Webhook

namespace FileScanner
open Collections Queues Unwinding
set_option autoImplicit true

/-- A callback in the webhooks queue, with the job whose attempt enqueued it. -/
structure Callback where
  origin : String
  webhookUrl : String
  payload : Dict String Json
  ticket : Ticket DeliveryEnv (List Post) Delivery := { state := [] }

def Callback.message (c : Callback) : String × Dict String Json := (c.webhookUrl, c.payload)

/-- The service, and the queue its callbacks wait in. -/
structure Pipeline where
  service : Service := {}
  callbacks : List Callback := []

inductive PipelineEvent where
  | serve (e : ServiceEvent)
  | deliver (i : Nat) (env : DeliveryEnv)

def delivery (py : Python) (settings : Settings) (webhookUrl : String)
    (payload : Dict String Json) (env : DeliveryEnv) : Actor (List Post) Exc Delivery :=
  fun _ posts => deliverWebhook py settings env webhookUrl payload posts

def Callback.attempt (py : Python) (settings : Settings) (env : DeliveryEnv) (c : Callback) :
    Callback :=
  { c with
    ticket := c.ticket.attempt (delivery py settings c.webhookUrl c.payload)
      settings.webhookMaxAttempts env }

/-- What an event of the service has put in the webhooks queue. -/
def enqueuedBy (e : ServiceEvent) (before after : World) : List Callback :=
  (after.sent.drop before.sent.length).map (fun m => ⟨e.target.getD "", m.1, m.2, { state := [] }⟩)

def pipelineStep (py : Python) (settings : Settings) (p : Pipeline) : PipelineEvent → Pipeline
  | .serve e =>
    let service := serviceStep py settings p.service e
    { service, callbacks := p.callbacks ++ enqueuedBy e p.service.world service.world }
  | .deliver i env => { p with callbacks := p.callbacks.modify i (Callback.attempt py settings env) }

/-- The service and its callbacks after a history of events. -/
def pipeline (py : Python) (settings : Settings) (history : List PipelineEvent) : Pipeline :=
  run (pipelineStep py settings) {} history

def Pipeline.callbacksOf (p : Pipeline) (id : String) : List Callback :=
  p.callbacks.filter (fun c => c.origin = id)

/-- The callbacks of a job, as they were enqueued. -/
def Pipeline.sentFor (p : Pipeline) (id : String) : List (String × Dict String Json) :=
  (p.callbacksOf id).map Callback.message

section Sent
variable {py : Python} {settings : Settings}

theorem handOver_sent_eq (env : Env) (msg : ScanMessage) (w : World)
    (result : Option (Dict String Json)) :
    (w.handOver settings env msg result).sent =
      w.sent ++ (if env.enqueueFails = none then result.toList.flatMap (callbacks msg) else []) := by
  cases result with
  | none =>
    rw [World.handOver, Option.toList_none, List.flatMap_nil, ite_self, List.append_nil]
  | some result =>
    rw [World.handOver, finalize, enqueue, Option.toList_some, List.flatMap_singleton, callbacks]
    cases msg.webhook with
    | none => rw [Option.map_none, Option.toList_none, ite_self, List.append_nil]
    | some url =>
      cases env.enqueueFails with
      | none => rfl
      | some e => exact (List.append_nil _).symm

theorem scanTask_sent (env : Env) (msg : ScanMessage) (retries : Option Nat) (w : World) :
    (scanTask py settings env msg retries w).2.sent =
      w.sent ++ (if env.enqueueFails = none then
        (handedBy settings env msg py retries).toList.flatMap (callbacks msg) else []) := by
  rw [scanTask_eq settings env msg py retries w rfl, removed_sent, handOver_sent_eq, handedBy,
    World.attempted]

/-- The callbacks an operation on a job enqueues. -/
def Job.calls (py : Python) (settings : Settings) (job : Job) : JobOp →
    List (String × Dict String Json)
  | .enqueue => []
  | .seed _ => []
  | .attempt env =>
    match job.queued with
    | none => []
    | some retries =>
      if env.enqueueFails = none then
        (handedBy settings env job.msg py (some retries)).toList.flatMap (callbacks job.msg)
      else []

theorem Job.step_sent (job : Job) (w : World) (op : JobOp) :
    (job.step py settings w op).2.sent = w.sent ++ job.calls py settings op := by
  cases op with
  | enqueue =>
    rw [step, calls, List.append_nil]
    split <;> rfl
  | seed fails =>
    rw [step, calls, List.append_nil]
    split <;> rfl
  | attempt env =>
    rw [step, calls]
    cases job.queued with
    | none => exact (List.append_nil _).symm
    | some retries => exact scanTask_sent env job.msg (some retries) w

/-- The callbacks an event of the service enqueues. -/
def ServiceEvent.calls (py : Python) (settings : Settings) (s : Service) :
    ServiceEvent → List (String × Dict String Json)
  | .submit .. => []
  | .job jobId op => (s.jobs.lookup jobId).toList.flatMap (·.calls py settings op)
  | .expire _ => []
  | .poll .. => []

theorem serviceStep_sent (s : Service) (e : ServiceEvent) :
    (serviceStep py settings s e).world.sent = s.world.sent ++ e.calls py settings s := by
  cases e with
  | submit username jobId path registry dns body =>
    rw [serviceStep, ServiceEvent.calls, List.append_nil]
    split <;> rfl
  | job jobId op =>
    rw [serviceStep, ServiceEvent.calls]
    cases s.jobs.lookup jobId with
    | none => exact (List.append_nil _).symm
    | some job =>
      rw [Option.toList_some, List.flatMap_singleton]
      exact Job.step_sent job s.world op
  | expire jobId => exact (List.append_nil _).symm
  | poll username jobId path fails => exact (List.append_nil _).symm

theorem enqueuedBy_serviceStep (s : Service) (e : ServiceEvent) :
    enqueuedBy e s.world (serviceStep py settings s e).world =
      (e.calls py settings s).map (fun m => ⟨e.target.getD "", m.1, m.2, { state := [] }⟩) := by
  rw [enqueuedBy, serviceStep_sent, List.drop_left]

end Sent

section Frame
variable {py : Python} {settings : Settings} {p : Pipeline}

theorem calls_of_target {s : Service} {e : ServiceEvent} (h : e.target = none) :
    e.calls py settings s = [] := by
  cases e with
  | poll username jobId path fails => rfl
  | _ => cases h

theorem sentFor_serve (e : ServiceEvent) (id : String) :
    (pipelineStep py settings p (.serve e)).sentFor id =
      p.sentFor id ++ (if e.target = some id then e.calls py settings p.service else []) := by
  simp only [Pipeline.sentFor, Pipeline.callbacksOf, pipelineStep, enqueuedBy_serviceStep,
    List.filter_append, List.map_append, List.append_cancel_left_eq]
  cases htarget : e.target with
  | none => rw [calls_of_target htarget, List.map_nil, List.filter_nil, List.map_nil, ite_self]
  | some jobId =>
    by_cases hid : jobId = id
    · rw [if_pos (congrArg some hid), List.filter_eq_self.2, List.map_map]
      · exact List.map_id _
      · intro c hc
        obtain ⟨m, -, rfl⟩ := List.mem_map.1 hc
        exact decide_eq_true hid
    · rw [if_neg (fun h => hid (Option.some.inj h)), List.filter_eq_nil_iff.2, List.map_nil]
      intro c hc
      obtain ⟨m, -, rfl⟩ := List.mem_map.1 hc
      exact fun h => hid (of_decide_eq_true h)

theorem sentFor_target {e : ServiceEvent} {id : String} (h : e.target = some id) :
    (pipelineStep py settings p (.serve e)).sentFor id =
      p.sentFor id ++ e.calls py settings p.service := by
  rw [sentFor_serve, if_pos h]

theorem sentFor_deliver (i : Nat) (env : DeliveryEnv) (id : String) :
    (pipelineStep py settings p (.deliver i env)).sentFor id = p.sentFor id := by
  simp only [Pipeline.sentFor, Pipeline.callbacksOf, pipelineStep]
  apply map_filter_modify
  · exact fun _ => rfl
  · exact fun _ => rfl

/-- A job keeps its message, whatever the service does next. -/
theorem serviceStep_msg (py : Python) (settings : Settings) {s : Service} {id : String} {job : Job}
    (e : ServiceEvent) (h : s.jobs.lookup id = some job) :
    ∃ job', (serviceStep py settings s e).jobs.lookup id = some job' ∧ job'.msg = job.msg := by
  cases e with
  | submit username jobId path registry dns body =>
    rw [serviceStep]
    split
    · rename_i msg hnone hok
      have hid : id ≠ jobId := by
        intro heq
        rw [← heq, h] at hnone
        cases hnone
      exact ⟨job, (Dict.lookup_set_ne _ hid _).trans h, rfl⟩
    · exact ⟨job, h, rfl⟩
  | job jobId op =>
    rw [serviceStep]
    split
    · exact ⟨job, h, rfl⟩
    · rename_i job' hjob'
      by_cases hid : id = jobId
      · subst hid
        rw [h, Option.some.injEq] at hjob'
        subst hjob'
        exact ⟨_, Dict.lookup_set_self _ _ _, Job.step_msg py settings job s.world op⟩
      · exact ⟨job, (Dict.lookup_set_ne _ hid _).trans h, rfl⟩
  | expire jobId => exact ⟨job, h, rfl⟩
  | poll username jobId path fails => exact ⟨job, h, rfl⟩

end Frame

/-- A result of a job: it bears the id of the job, and says done or error. -/
structure ResultOf (msg : ScanMessage) (result : Dict String Json) : Prop where
  terminal : Terminal result
  jobId : result.lookup "job_id" = some (.str msg.jobId)

theorem resultOf_handed {env : Env} {msg : ScanMessage} {retries : Option Nat} {a : Attempted}
    {result : Dict String Json} (h : handed env msg retries a = some result) :
    ResultOf msg result := by
  apply ResultOf.mk (terminal_handed h)
  rcases handed_cases h with ⟨e, message, -, rfl⟩ | ⟨report, -, rfl⟩
  · rfl
  · cases report.allErrored <;> rfl

theorem mem_callbacks {msg : ScanMessage} {result payload : Dict String Json} {url : String}
    (h : (url, payload) ∈ callbacks msg result) :
    msg.webhook = some url ∧ payload = serialize result msg.wireVersion := by
  rw [callbacks, Option.mem_toList, Option.map_eq_some_iff] at h
  obtain ⟨url', hurl, heq⟩ := h
  cases heq
  exact ⟨hurl, rfl⟩

section Receivers
variable {py : Python} {settings : Settings}

/-- What an event enqueues is for the receiver its job names. -/
theorem mem_calls {s : Service} {e : ServiceEvent} {url : String} {payload : Dict String Json}
    (h : (url, payload) ∈ e.calls py settings s) :
    ∃ jobId op job result, e = .job jobId op ∧ s.jobs.lookup jobId = some job ∧
      job.msg.webhook = some url ∧ job.written py settings op = some result ∧
      ResultOf job.msg result ∧ payload = serialize result job.msg.wireVersion := by
  cases e with
  | submit username jobId path registry dns body => cases h
  | expire jobId => cases h
  | poll username jobId path fails => cases h
  | job jobId op =>
    obtain ⟨job, hjob, hcall⟩ := List.mem_flatMap.1 h
    rw [Option.mem_toList] at hjob
    cases op with
    | enqueue => cases hcall
    | seed fails => cases hcall
    | attempt env =>
      rw [Job.calls] at hcall
      split at hcall
      · cases hcall
      · rename_i retries hqueued
        split at hcall
        · obtain ⟨result, hresult, hcall⟩ := List.mem_flatMap.1 hcall
          rw [Option.mem_toList] at hresult
          obtain ⟨hurl, hpayload⟩ := mem_callbacks hcall
          have hwritten : job.written py settings (.attempt env) = some result := by
            rw [Job.written, hqueued]
            exact hresult
          exact ⟨jobId, _, job, result, rfl, hjob, hurl, hwritten, resultOf_handed hresult,
            hpayload⟩
        · cases hcall

theorem dials_once {net : Network} {url : String} :
    ∀ dial ∈ (requestWithRedirects py settings net false url).2, dial.url = url := by
  intro dial hdial
  cases hvalid : validateAndUnpack py settings (net.dns 0) url with
  | error e =>
    rw [requestWithRedirects, hops, hvalid] at hdial
    cases hdial
  | ok first =>
    rw [requestWithRedirects_once hvalid, List.mem_singleton] at hdial
    rw [hdial, (validateAndUnpack_ok hvalid).url_eq]

/-- A callback is about the job that enqueued it, and its POSTs go to the receiver this job names
and carry its result. -/
structure OwnReceiver (py : Python) (s : Service) (c : Callback) : Prop where
  asked : ∃ job result, s.jobs.lookup c.origin = some job ∧ job.msg.webhook = some c.webhookUrl ∧
    ResultOf job.msg result ∧ c.payload = serialize result job.msg.wireVersion
  posts : ∀ post ∈ c.ticket.state,
    post.dial.url = c.webhookUrl ∧ post.body = webhookBody py c.payload

def Pipeline.OwnReceivers (py : Python) (p : Pipeline) : Prop :=
  ∀ c ∈ p.callbacks, OwnReceiver py p.service c

theorem OwnReceiver.attempt {s : Service} {c : Callback} (h : OwnReceiver py s c)
    (env : DeliveryEnv) : OwnReceiver py s (c.attempt py settings env) := by
  refine ⟨h.asked, fun post hpost => ?_⟩
  simp only [Callback.attempt, Ticket.attempt] at hpost
  split at hpost
  · simp only [delivery, deliverWebhook] at hpost
    split at hpost
    · exact h.posts post hpost
    · rcases List.mem_append.1 hpost with hold | hnew
      · exact h.posts post hold
      · obtain ⟨dial, hdial, rfl⟩ := List.mem_map.1 hnew
        exact ⟨dials_once dial hdial, rfl⟩
  · exact h.posts post hpost

theorem OwnReceiver.serve {s : Service} {c : Callback} (h : OwnReceiver py s c)
    (e : ServiceEvent) : OwnReceiver py (serviceStep py settings s e) c := by
  obtain ⟨job, result, hjob, hurl, hresult, hpayload⟩ := h.asked
  obtain ⟨job', hjob', hmsg⟩ := serviceStep_msg py settings e hjob
  rw [← hmsg] at hurl hresult hpayload
  exact ⟨⟨job', result, hjob', hurl, hresult, hpayload⟩, h.posts⟩

theorem ownReceivers_step {p : Pipeline} (e : PipelineEvent) (h : p.OwnReceivers py) :
    (pipelineStep py settings p e).OwnReceivers py := by
  cases e with
  | deliver i env => exact forall_modify (fun c hc => hc.attempt env) h i
  | serve e =>
    intro c hc
    rw [pipelineStep] at hc
    rcases List.mem_append.1 hc with hold | hnew
    · exact (h c hold).serve e
    · rw [enqueuedBy_serviceStep] at hnew
      obtain ⟨⟨url, payload⟩, hm, rfl⟩ := List.mem_map.1 hnew
      obtain ⟨jobId, op, job, result, rfl, hjob, hurl, -, hresult, hpayload⟩ := mem_calls hm
      have hown : OwnReceiver py p.service ⟨jobId, url, payload, { state := [] }⟩ :=
        ⟨⟨job, result, hjob, hurl, hresult, hpayload⟩,
          fun _ hpost => absurd hpost List.not_mem_nil⟩
      exact hown.serve (.job jobId op)

theorem pipeline_concat {history : List PipelineEvent} (e : PipelineEvent) :
    pipeline py settings (history ++ [e]) =
      pipelineStep py settings (pipeline py settings history) e :=
  Unwinding.run_append _ _ _ _

/-- A job keeps its message over the rest of a history. -/
theorem pipeline_msg {pre : List PipelineEvent} {id : String} {job : Job}
    (h : (pipeline py settings pre).service.jobs.lookup id = some job)
    (post : List PipelineEvent) :
    ∃ job', (pipeline py settings (pre ++ post)).service.jobs.lookup id = some job' ∧
      job'.msg = job.msg := by
  induction post using List.reverseRecOn with
  | nil =>
    rw [List.append_nil]
    exact ⟨job, h, rfl⟩
  | append_singleton post e ih =>
    obtain ⟨job', hjob', hmsg⟩ := ih
    rw [← List.append_assoc, pipeline_concat]
    cases e with
    | deliver i env => exact ⟨job', hjob', hmsg⟩
    | serve e =>
      obtain ⟨job'', hjob'', hmsg'⟩ := serviceStep_msg py settings e hjob'
      exact ⟨job'', hjob'', hmsg'.trans hmsg⟩

theorem ownReceivers_pipeline (history : List PipelineEvent) :
    (pipeline py settings history).OwnReceivers py := by
  have hstep (p : Pipeline) (e : PipelineEvent) (_ : True) (h : p.OwnReceivers py) :
      (pipelineStep py settings p e).OwnReceivers py := ownReceivers_step e h
  exact Unwinding.run_invariant hstep (fun _ _ => trivial) (fun _ h => absurd h List.not_mem_nil)

/-- Over any history of the service and of its two queues, every POST goes to the receiver that
the job of its callback named, and carries a result of this job. -/
theorem callbacks_reach_own_receiver (py : Python) (settings : Settings)
    (history : List PipelineEvent) : (pipeline py settings history).OwnReceivers py :=
  ownReceivers_pipeline history

end Receivers

end FileScanner
