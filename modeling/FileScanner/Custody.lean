import FileScanner.Pipeline
import FileScanner.UrlCrashes
import FileScanner.WebhookDelivery

namespace FileScanner
open Collections Fallible Queues
set_option autoImplicit true

/-- The result of an accepted job is still due: it is not in the queue yet, or not out of it. -/
def Job.Open (job : Job) : Prop := job.handler = .accepted ∨ job.queued ≠ none

/-- Nothing has been said about a job, but that it is pending. -/
structure Due (msg : ScanMessage) (sent : List (String × Dict String Json))
    (stored : Option StoredResult) : Prop where
  sent : sent = []
  stored : ∀ s, stored = some s → s.record = pendingRecord msg

/-- One result of a job has been reported: its callback is out, and the record does not say
anything else. -/
structure Told (msg : ScanMessage) (result : Dict String Json)
    (sent : List (String × Dict String Json)) (stored : Option StoredResult) : Prop where
  genuine : ResultOf msg result
  sent : sent = callbacks msg result
  stored : ∀ s, stored = some s → s.record = pendingRecord msg ∨ s.record = result

structure Stands (job : Job) (sent : List (String × Dict String Json))
    (stored : Option StoredResult) : Prop where
  early : job.handler = .accepted → job.queued = none
  due : job.Open → Due job.msg sent stored
  reported : ¬ job.Open → ∃ result, Told job.msg result sent stored

def JobOp.Healthy : JobOp → Prop
  | .enqueue => True
  | .seed _ => True
  | .attempt env => env.Healthy

/-- No attempt of the event meets a store, a broker or a disk that fails. -/
def ServiceEvent.Healthy : ServiceEvent → Prop
  | .submit .. => True
  | .job _ op => op.Healthy
  | .expire _ => True
  | .poll .. => True

def PipelineEvent.Healthy : PipelineEvent → Prop
  | .serve e => e.Healthy
  | .deliver .. => True

theorem endingOf_healthy {env : Env} (h : env.Healthy) (settings : Settings) (msg : ScanMessage)
    (py : Python) (retries : Option Nat) :
    (handedBy settings env msg py retries = none ∧ retriesExhausted retries = false ∧
        ∃ e, endingOf settings env msg py retries = .error e) ∨
      ∃ result, handedBy settings env msg py retries = some result ∧ ResultOf msg result ∧
        endingOf settings env msg py retries = .ok () := by
  rw [endingOf, ending, removal_healthy h, handedBy]
  cases hhanded : handed env msg retries (tryBlock py settings env msg) with
  | none => exact .inl ⟨rfl, ((handed_eq_none_iff h).1 hhanded).2, _, rfl⟩
  | some result => exact .inr ⟨result, rfl, resultOf_handed hhanded, enqueued_healthy h⟩

section Job
variable {py : Python} {settings : Settings} {job : Job}
  {sent : List (String × Dict String Json)} {stored stored' : Option StoredResult}

theorem Stands.forget (h : Stands job sent stored) (hle : ∀ s, stored' = some s → stored = some s) :
    Stands job sent stored' := by
  refine ⟨h.early, fun ho => ⟨(h.due ho).sent, ?_⟩, fun ho => ?_⟩
  · exact fun s hs => (h.due ho).stored s (hle s hs)
  · obtain ⟨result, hr⟩ := h.reported ho
    exact ⟨result, hr.genuine, hr.sent, fun s hs => hr.stored s (hle s hs)⟩

theorem stands_accepted (msg : ScanMessage) : Stands { msg := msg } [] none :=
  ⟨fun _ => rfl, fun _ => ⟨rfl, fun _ hs => by cases hs⟩, fun ho => absurd (.inl rfl) ho⟩

theorem Stands.enqueue (h : Stands job sent stored) :
    Stands (job.next py settings .enqueue) sent stored := by
  rw [Job.next]
  split
  · rename_i haccepted
    refine ⟨(fun he => by cases he), fun _ => h.due (.inl haccepted), fun ho => ?_⟩
    exact absurd (.inr (Option.some_ne_none 0)) ho
  · exact h

theorem Stands.seed {fails : Bool} (h : Stands job sent stored)
    (hstored : ∀ s, stored' = some s → stored = some s ∨
      (job.handler = .enqueued ∧ s.record = pendingRecord job.msg)) :
    Stands (job.next py settings (.seed fails)) sent stored' := by
  rw [Job.next]
  split
  · rename_i henqueued
    have hopen : job.queued ≠ none → job.Open := .inr
    refine ⟨(fun he => by cases he), fun ho => ?_, fun ho => ?_⟩
    · have hdue := h.due (hopen (ho.resolve_left (fun he => by cases he)))
      refine ⟨hdue.sent, fun s hs => ?_⟩
      rcases hstored s hs with hold | ⟨-, hnew⟩
      · exact hdue.stored s hold
      · exact hnew
    · have hclosed : ¬ job.Open := by
        intro hjob
        apply ho
        right
        rw [Job.Open, henqueued] at hjob
        exact hjob.resolve_left (by decide)
      obtain ⟨result, hr⟩ := h.reported hclosed
      refine ⟨result, hr.genuine, hr.sent, fun s hs => ?_⟩
      rcases hstored s hs with hold | ⟨-, hnew⟩
      · exact hr.stored s hold
      · exact .inl hnew
  · rename_i hother
    apply h.forget
    intro s hs
    rcases hstored s hs with hold | ⟨henqueued, -⟩
    · exact hold
    · exact absurd henqueued hother

theorem Stands.attempt {env : Env} (henv : env.Healthy) (h : Stands job sent stored)
    (hstored : ∀ s, stored' = some s → stored = some s ∨
      job.written py settings (.attempt env) = some s.record) :
    Stands (job.next py settings (.attempt env)) (sent ++ job.calls py settings (.attempt env))
      stored' := by
  cases hqueued : job.queued with
  | none =>
    simp only [Job.next, Job.calls, Job.written, hqueued, List.append_nil] at hstored ⊢
    apply h.forget
    intro s hs
    exact (hstored s hs).resolve_right (Option.some_ne_none _).symm
  | some retries =>
    have hopen : job.Open := .inr (by rw [hqueued]; exact Option.some_ne_none retries)
    have hhandler : job.handler ≠ .accepted := by
      intro he
      have hnone := h.early he
      rw [hqueued] at hnone
      cases hnone
    obtain ⟨hsent, hpending⟩ := h.due hopen
    simp only [Job.next, Job.calls, Job.written, hqueued, henv.enqueueFails, if_true] at hstored ⊢
    rcases endingOf_healthy henv settings job.msg py (some retries) with
      ⟨hnone, hleft, e, hend⟩ | ⟨result, hsome, hresult, hend⟩
    · have hlt : retries < MAX_RETRIES := not_le.1 (of_decide_eq_false hleft)
      rw [hnone] at hstored ⊢
      rw [hend, requeued, if_pos hlt]
      refine ⟨fun he => absurd he hhandler, fun _ => ⟨?_, fun s hs => ?_⟩, fun ho => ?_⟩
      · rw [hsent]
        rfl
      · exact hpending s ((hstored s hs).resolve_right (Option.some_ne_none _).symm)
      · exact absurd (.inr (Option.some_ne_none (retries + 1))) ho
    · rw [hsome] at hstored ⊢
      rw [hend, requeued]
      refine ⟨fun _ => rfl, fun ho => ?_, fun _ => ⟨result, hresult, ?_, fun s hs => ?_⟩⟩
      · rcases ho with haccepted | hsome
        · exact absurd haccepted hhandler
        · exact absurd rfl hsome
      · rw [hsent, Option.toList_some, List.flatMap_singleton, List.nil_append]
      · rcases hstored s hs with hold | hnew
        · exact .inl (hpending s hold)
        · exact .inr (Option.some.inj hnew).symm

/-- An operation on a job keeps what stands about it. -/
theorem Stands.step {w : World} {op : JobOp} (hop : op.Healthy)
    (h : Stands job sent (w.store.lookup (keyMessage job.msg.jobId))) :
    Stands (job.step py settings w op).1 (sent ++ job.calls py settings op)
      ((job.step py settings w op).2.store.lookup (keyMessage job.msg.jobId)) := by
  have hstored : ∀ s,
      (job.step py settings w op).2.store.lookup (keyMessage job.msg.jobId) = some s →
        w.store.lookup (keyMessage job.msg.jobId) = some s ∨
          job.written py settings op = some s.record := by
    intro s hs
    rcases Job.lookup_step_store py settings hs with hold | ⟨-, hnew⟩
    · exact .inl hold
    · exact .inr hnew
  rw [Job.step_job]
  cases op with
  | attempt env => exact h.attempt hop hstored
  | enqueue =>
    rw [Job.calls, List.append_nil]
    apply h.enqueue.forget
    intro s hs
    exact (hstored s hs).resolve_right (Option.some_ne_none _).symm
  | seed fails =>
    rw [Job.calls, List.append_nil]
    apply h.seed
    intro s hs
    rcases hstored s hs with hold | hnew
    · exact .inl hold
    · rw [Job.written] at hnew
      split at hnew
      · rename_i henqueued
        exact .inr ⟨henqueued, (Option.some.inj hnew).symm⟩
      · cases hnew

end Job

/-- What stands in the store under an id. -/
def Pipeline.stored (p : Pipeline) (id : String) : Option StoredResult :=
  p.service.world.store.lookup (keyMessage id)

/-- What holds of the service and its queues in every state. -/
structure Ledger (py : Python) (settings : Settings) (p : Pipeline) : Prop where
  owned : Owned (fun _ _ => True) p.service
  jobs : ∀ id job, p.service.jobs.lookup id = some job → Stands job (p.sentFor id) (p.stored id)
  receivers : p.OwnReceivers py
  known : ∀ id s, p.stored id = some s → ∃ job, p.service.jobs.lookup id = some job
  follows : ∀ c ∈ p.callbacks,
    c.ticket.Follows (delivery py settings c.webhookUrl c.payload) settings.webhookMaxAttempts []

section Ledger
variable {py : Python} {settings : Settings} {p : Pipeline}

theorem Ledger.sentFor_unknown (h : Ledger py settings p) {id : String}
    (hnone : p.service.jobs.lookup id = none) : p.sentFor id = [] := by
  rw [Pipeline.sentFor, Pipeline.callbacksOf, List.filter_eq_nil_iff.2, List.map_nil]
  intro c hc horigin
  obtain ⟨job, result, hjob, -⟩ := (h.receivers c hc).asked
  rw [of_decide_eq_true horigin, hnone] at hjob
  cases hjob

theorem Ledger.stored_unknown (h : Ledger py settings p) {id : String}
    (hnone : p.service.jobs.lookup id = none) : p.stored id = none := by
  cases hs : p.stored id with
  | none => rfl
  | some s =>
    obtain ⟨job, hjob⟩ := h.known id s hs
    rw [hnone] at hjob
    cases hjob

/-- An event about a job keeps what stands about it. -/
theorem Ledger.stands_target (h : Ledger py settings p) {e : ServiceEvent} (he : e.Healthy)
    {id : String} (htarget : e.target = some id) {job : Job}
    (hjob : (serviceStep py settings p.service e).jobs.lookup id = some job) :
    Stands job (p.sentFor id ++ e.calls py settings p.service)
      ((serviceStep py settings p.service e).world.store.lookup (keyMessage id)) := by
  cases e with
  | poll username jobId path fails => cases htarget
  | submit username jobId path registry dns body =>
    cases htarget
    rw [ServiceEvent.calls, List.append_nil]
    rw [serviceStep] at hjob ⊢
    split at hjob
    · rename_i msg hnone hok
      rw [Dict.lookup_set_self, Option.some.injEq] at hjob
      subst hjob
      rw [h.sentFor_unknown hnone]
      apply (stands_accepted msg).forget
      intro s hs
      rw [← Pipeline.stored, h.stored_unknown hnone] at hs
      cases hs
    · exact h.jobs _ job hjob
  | job jobId op =>
    cases htarget
    rw [serviceStep] at hjob ⊢
    rw [ServiceEvent.calls]
    cases hlookup : p.service.jobs.lookup id with
    | none =>
      rw [hlookup] at hjob
      cases hlookup.symm.trans hjob
    | some job' =>
      rw [hlookup] at hjob
      dsimp only at hjob ⊢
      rw [Dict.lookup_set_self, Option.some.injEq] at hjob
      subst hjob
      have hid : job'.msg.jobId = id := (h.owned.jobs id job' hlookup).1
      have hstands := h.jobs id job' hlookup
      rw [Pipeline.stored, ← hid] at hstands
      rw [Option.toList_some, List.flatMap_singleton, ← hid]
      exact hstands.step he
  | expire jobId =>
    cases htarget
    rw [ServiceEvent.calls, List.append_nil]
    apply (h.jobs id job hjob).forget
    intro s hs
    rw [serviceStep, Service.lookup_expired, if_pos rfl] at hs
    cases hs

theorem Ledger.stands_serve (h : Ledger py settings p) {e : ServiceEvent} (he : e.Healthy)
    {id : String} {job : Job}
    (hjob : (serviceStep py settings p.service e).jobs.lookup id = some job) :
    Stands job ((pipelineStep py settings p (.serve e)).sentFor id)
      ((pipelineStep py settings p (.serve e)).stored id) := by
  rw [sentFor_serve]
  by_cases htarget : e.target = some id
  · rw [if_pos htarget]
    exact h.stands_target he htarget hjob
  · obtain ⟨hjobs, hstore⟩ := serviceStep_frame py settings h.owned htarget
    rw [if_neg htarget, List.append_nil, Pipeline.stored, pipelineStep]
    dsimp only
    rw [hstore]
    exact h.jobs id job (hjobs.symm.trans hjob)

theorem Ledger.known_serve (h : Ledger py settings p) (e : ServiceEvent) {id : String}
    {s : StoredResult}
    (hs : (serviceStep py settings p.service e).world.store.lookup (keyMessage id) = some s) :
    ∃ job, (serviceStep py settings p.service e).jobs.lookup id = some job := by
  have hold (hs : p.stored id = some s) :
      ∃ job, (serviceStep py settings p.service e).jobs.lookup id = some job := by
    obtain ⟨job, hjob⟩ := h.known id s hs
    obtain ⟨job', hjob', -⟩ := serviceStep_msg py settings e hjob
    exact ⟨job', hjob'⟩
  by_cases htarget : e.target = some id
  · cases e with
    | poll username jobId path fails => cases htarget
    | submit username jobId path registry dns body =>
      rw [serviceStep] at hs
      split at hs
      · exact hold hs
      · exact hold hs
    | expire jobId =>
      cases htarget
      rw [serviceStep, Service.lookup_expired, if_pos rfl] at hs
      cases hs
    | job jobId op =>
      cases htarget
      cases hlookup : p.service.jobs.lookup id with
      | none =>
        rw [serviceStep, hlookup] at hs
        exact hold hs
      | some job =>
        obtain ⟨job', hjob', -⟩ :=
          serviceStep_msg py settings (.job id op) hlookup
        exact ⟨job', hjob'⟩
  · rw [(serviceStep_frame py settings h.owned htarget).2] at hs
    exact hold hs

theorem Ledger.step {e : PipelineEvent} (he : e.Healthy) (h : Ledger py settings p) :
    Ledger py settings (pipelineStep py settings p e) := by
  cases e with
  | deliver i env =>
    refine ⟨h.owned, fun id job hjob => ?_, ownReceivers_step (.deliver i env) h.receivers,
      h.known, forall_modify (fun c hc => hc.attempt env) h.follows i⟩
    rw [sentFor_deliver]
    exact h.jobs id job hjob
  | serve e =>
    refine ⟨owned_step py settings ?_ h.owned, fun id job hjob => h.stands_serve he hjob,
      ownReceivers_step (.serve e) h.receivers, fun id s hs => h.known_serve e hs, ?_⟩
    · cases e <;> trivial
    · intro c hc
      rw [pipelineStep] at hc
      rcases List.mem_append.1 hc with hold | hnew
      · exact h.follows c hold
      · obtain ⟨m, -, rfl⟩ := List.mem_map.1 hnew
        exact follows_start

theorem ledger_start : Ledger py settings {} := by
  refine ⟨owned_initial _, ?_, ?_, ?_, ?_⟩
  · exact fun id job hjob => by cases hjob
  · exact fun c hc => absurd hc List.not_mem_nil
  · exact fun id s hs => by cases hs
  · exact fun c hc => absurd hc List.not_mem_nil

theorem ledger_pipeline {history : List PipelineEvent} (h : ∀ e ∈ history, e.Healthy) :
    Ledger py settings (pipeline py settings history) :=
  Unwinding.run_invariant (fun _ _ he hp => hp.step he) h ledger_start

end Ledger

/-- No job that is out of its handler is still queued, and no callback waits. -/
structure Pipeline.Quiet (p : Pipeline) : Prop where
  jobs : ∀ id job, p.service.jobs.lookup id = some job → job.handler ≠ .accepted →
    job.queued = none
  callbacks : ∀ c ∈ p.callbacks, c.ticket.fate.settled = true

/-- A job is reported once and to the receiver it names, when its attempts are over and not
before; each callback is attempted as a message of its own is. -/
structure ReportedOnce (py : Python) (settings : Settings) (p : Pipeline) : Prop where
  silent : ∀ id job, p.service.jobs.lookup id = some job → job.Open → p.callbacksOf id = []
  reported : ∀ id job, p.service.jobs.lookup id = some job → ¬ job.Open →
    ∃ result, ResultOf job.msg result ∧ p.sentFor id = callbacks job.msg result
  attempts : ∀ c ∈ p.callbacks,
    c.ticket.Follows (delivery py settings c.webhookUrl c.payload) settings.webhookMaxAttempts []
  quiet : p.Quiet → ∀ id job url, p.service.jobs.lookup id = some job →
    job.handler ≠ .accepted → job.msg.webhook = some url →
    ∃ c result, p.callbacksOf id = [c] ∧ c.webhookUrl = url ∧ ResultOf job.msg result ∧
      c.payload = serialize result job.msg.wireVersion ∧ c.ticket.fate.settled = true

theorem Ledger.quiet {py : Python} {settings : Settings} {p : Pipeline}
    (h : Ledger py settings p) (hq : p.Quiet) {id url : String} {job : Job}
    (hjob : p.service.jobs.lookup id = some job) (hhandler : job.handler ≠ .accepted)
    (hurl : job.msg.webhook = some url) :
    ∃ c result, p.callbacksOf id = [c] ∧ c.webhookUrl = url ∧ ResultOf job.msg result ∧
      c.payload = serialize result job.msg.wireVersion ∧ c.ticket.fate.settled = true := by
  have hclosed : ¬ job.Open := by
    intro ho
    exact ho.resolve_left hhandler (hq.jobs id job hjob hhandler)
  obtain ⟨result, hr⟩ := (h.jobs id job hjob).reported hclosed
  have hsent := hr.sent
  rw [callbacks, hurl, Option.map_some, Option.toList_some, Pipeline.sentFor,
    List.map_eq_singleton_iff] at hsent
  obtain ⟨c, hc, hmessage⟩ := hsent
  have hmem : c ∈ p.callbacks := by
    apply List.mem_of_mem_filter (p := fun c => c.origin = id)
    rw [← Pipeline.callbacksOf, hc]
    exact List.mem_singleton.2 rfl
  obtain ⟨hurl', hpayload⟩ := Prod.mk.inj hmessage
  exact ⟨c, result, hc, hurl', hr.genuine, hpayload, hq.callbacks c hmem⟩

/-- Over any history of the service and its two queues in which the store, the broker and the disk
hold, every job is reported exactly once. -/
theorem every_job_reported_once (py : Python) (settings : Settings)
    (history : List PipelineEvent) (h : ∀ e ∈ history, e.Healthy) :
    ReportedOnce py settings (pipeline py settings history) := by
  have hledger : Ledger py settings (pipeline py settings history) := ledger_pipeline h
  refine ⟨fun id job hjob ho => ?_, fun id job hjob ho => ?_, hledger.follows, ?_⟩
  · exact List.map_eq_nil_iff.1 ((hledger.jobs id job hjob).due ho).sent
  · obtain ⟨result, hr⟩ := (hledger.jobs id job hjob).reported ho
    exact ⟨result, hr.genuine, hr.sent⟩
  · intro hq id job url hjob hhandler hurl
    exact hledger.quiet hq hjob hhandler hurl

/-- One job, accepted, taken by a worker that cannot resolve its source, and called back. -/
def oneJob : List PipelineEvent :=
  [.serve (.submit "drive" "job" "/api/v2.0/scan-async" oneScanner publicDns
      { url := "https://example.com/f", webhookUrl := some "https://example.com/hook",
        scanners := ["clamav"] }),
    .serve (.job "job" .enqueue), .serve (.job "job" (.attempt unresolvable)),
    .deliver 0 (receiver [204] 0)]

theorem oneJob_healthy : ∀ e ∈ oneJob, e.Healthy := by
  simp only [oneJob, List.forall_mem_cons]
  exact ⟨trivial, trivial, ⟨rfl, rfl, rfl⟩, trivial, List.forall_mem_nil _⟩

theorem every_job_reported_once_delivered :
    ∃ c, (pipeline publicPython unmapped oneJob).callbacksOf "job" = [c] ∧
      c.ticket.fate.settled = true := by
  have hreported := every_job_reported_once publicPython unmapped oneJob oneJob_healthy
  have hjobs : (pipeline publicPython unmapped oneJob).service.jobs.map (·.2.queued) = [none] := rfl
  have hcallbacks :
      (pipeline publicPython unmapped oneJob).callbacks.map (·.ticket.fate.settled) = [true] := rfl
  have hq : (pipeline publicPython unmapped oneJob).Quiet := by
    constructor
    · intro id job hjob _
      have hmem := List.mem_map_of_mem (f := fun e : String × Job => e.2.queued)
        (Dict.mem_of_lookup hjob)
      rwa [hjobs, List.mem_singleton] at hmem
    · intro c hc
      have hmem := List.mem_map_of_mem (f := fun c : Callback => c.ticket.fate.settled) hc
      rwa [hcallbacks, List.mem_singleton] at hmem
  obtain ⟨c, result, hc, -, -, -, hsettled⟩ :=
    hreported.quiet hq "job" _ "https://example.com/hook" rfl (by decide) rfl
  exact ⟨c, hc, hsettled⟩

/-- Over any history in which the store, the broker and the disk hold, a poll says that the job is
pending, or what its callback says. -/
theorem polls_agree_with_callback (py : Python) (settings : Settings)
    (history : List PipelineEvent) (h : ∀ e ∈ history, e.Healthy) (fails : Bool)
    (path id username : String) (answer : Dict String Json)
    (hpoll : jobStatus settings fails (pipeline py settings history).service.world.store path id
      username = .ok answer) :
    ∃ job, (pipeline py settings history).service.jobs.lookup id = some job ∧
      (answer = serialize (pendingRecord job.msg) (ofPath path) ∨
        (¬ job.Open ∧ ∃ result, ResultOf job.msg result ∧
          (pipeline py settings history).sentFor id = callbacks job.msg result ∧
          answer = serialize result (ofPath path))) := by
  have hledger : Ledger py settings (pipeline py settings history) := ledger_pipeline h
  obtain ⟨s, hs, -, rfl⟩ := jobStatus_ok settings username hpoll
  obtain ⟨job, hjob⟩ := hledger.known id s hs
  have hstands := hledger.jobs id job hjob
  refine ⟨job, hjob, ?_⟩
  by_cases ho : job.Open
  · rw [(hstands.due ho).stored s hs]
    exact .inl rfl
  · obtain ⟨result, hr⟩ := hstands.reported ho
    rcases hr.stored s hs with hpending | hresult
    · rw [hpending]
      exact .inl rfl
    · rw [hresult]
      exact .inr ⟨ho, result, hr.genuine, hr.sent, rfl⟩

def polledSettings : Settings := { unmapped with workerResultTtl := 3600 }

theorem polls_agree_with_callback_done :
    ∃ answer, jobStatus polledSettings false
        (pipeline publicPython polledSettings oneJob).service.world.store "/api/v2.0/jobs/job" "job"
        "drive" = .ok answer ∧
      ∃ job, (pipeline publicPython polledSettings oneJob).service.jobs.lookup "job" = some job ∧
        (answer = serialize (pendingRecord job.msg) V2 ∨ ¬ job.Open) := by
  refine ⟨_, rfl, ?_⟩
  obtain ⟨job, hjob, hanswer⟩ := polls_agree_with_callback publicPython polledSettings oneJob
    oneJob_healthy false "/api/v2.0/jobs/job" "job" "drive" _ rfl
  refine ⟨job, hjob, ?_⟩
  rcases hanswer with hpending | ⟨hclosed, -⟩
  · exact .inl hpending
  · exact .inr hclosed

end FileScanner
