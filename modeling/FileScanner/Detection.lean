import FileScanner.Provenance

namespace FileScanner
open Collections Fallible Queues
set_option autoImplicit true

/-- In this environment an attempt downloads a file, and an engine that is named for it and can
read it reports a detection. -/
structure Finds (py : Python) (settings : Settings) (env : Env) (msg : ScanMessage)
    (engines : Engines) (name : String) (file : Bytes) : Prop where
  shipped : env.registry = BUILDERS py settings engines
  built : ∀ n ∈ msg.scanners, ∃ scanner, getScanner env.registry n = .ok scanner
  downloaded : (download py settings env msg).1 = .ok file
  undisturbed : env.fault .scan = none
  named : name ∈ msg.scanners
  opens : env.openFails name = none
  detects : Detects py settings engines name file

section Attempt
variable {py : Python} {settings : Settings} {env : Env} {msg : ScanMessage} {engines : Engines}
  {name : String} {file : Bytes}

theorem Finds.report (h : Finds py settings env msg engines name file) :
    ∃ report, (tryBlock py settings env msg).outcome = .ok report ∧
      documentedKind report.results = .malware ∧ report.allErrored = false := by
  have hne : msg.scanners ≠ [] := List.ne_nil_of_mem h.named
  obtain ⟨report, hrun⟩ := exists_report settings (env.scanEnv file) hne h.built
  have hout : (tryBlock py settings env msg).outcome = .ok report := by
    rw [tryBlock]
    cases hdownload : download py settings env msg with
    | mk outcome scratch =>
      have hfile := h.downloaded
      rw [hdownload] at hfile
      cases hfile
      simp only [h.undisturbed, hrun]
  rw [scanEnv_shipped h.shipped] at hrun
  obtain ⟨r, hr, hk⟩ :=
    exists_malware_of_reported hrun h.named ⟨file, openFile_of_opens h.opens, h.detects⟩
  exact ⟨report, hout, documentedKind_malware hr hk, ScanReport.allErrored_of_malware hr hk⟩

/-- An attempt that finds something is the last one, whatever is left of the budget. -/
theorem Finds.handedBy (henv : env.Healthy) (h : Finds py settings env msg engines name file)
    (retries : Option Nat) :
    ∃ result, FileScanner.handedBy settings env msg py retries = some result ∧
      endingOf settings env msg py retries = .ok () ∧ ResultOf msg result ∧
      ∀ version, Says .malware (serialize result version) := by
  obtain ⟨report, hout, hkind, hall⟩ := h.report
  have hhanded : FileScanner.handedBy settings env msg py retries =
      some (deliveredResult msg report false) := by
    simp only [FileScanner.handedBy, handed, hout, removal_healthy henv, hall, Option.isSome_none,
      Bool.false_eq_true, if_false]
  refine ⟨_, hhanded, ?_, resultOf_handed hhanded, fun version => ?_⟩
  · rw [FileScanner.handedBy] at hhanded
    rw [endingOf, ending, removal_healthy henv, hhanded]
    exact enqueued_healthy henv
  · rw [← hkind]
    exact says_kind (malwareOnly_of_attempt h.shipped hout) (carries_deliveredResult msg report _)
      (deliveredResult_free msg report _) version

end Attempt

/-- What a pipeline has said about a job is this result, and it will not say anything else. -/
def Pipeline.Said (p : Pipeline) (id : String) (msg : ScanMessage)
    (result : Dict String Json) : Prop :=
  ∃ job, p.service.jobs.lookup id = some job ∧ job.msg = msg ∧ ¬ job.Open ∧
    Told msg result (p.sentFor id) (p.stored id)

section Final
variable {py : Python} {settings : Settings} {p : Pipeline} {id : String} {msg : ScanMessage}
  {result : Dict String Json}

theorem Told.forget {sent : List (String × Dict String Json)} {stored stored' : Option StoredResult}
    (h : Told msg result sent stored) (hle : ∀ s, stored' = some s → stored = some s ∨
      s.record = pendingRecord msg) : Told msg result sent stored' := by
  refine ⟨h.genuine, h.sent, fun s hs => ?_⟩
  rcases hle s hs with hold | hpending
  · exact h.stored s hold
  · exact .inl hpending

/-- Nothing an operation does to a closed job opens it, enqueues a callback or writes a result. -/
theorem Job.next_closed (py : Python) (settings : Settings) {job : Job} (h : ¬ job.Open) (op : JobOp) :
    ¬ (job.next py settings op).Open ∧ job.calls py settings op = [] ∧
      ∀ r, job.written py settings op = some r → r = pendingRecord job.msg := by
  rw [Job.Open, not_or, not_not] at h
  obtain ⟨hhandler, hqueued⟩ := h
  cases op with
  | enqueue =>
    rw [next, if_neg hhandler]
    refine ⟨?_, rfl, fun r hr => by cases hr⟩
    rw [Job.Open, hqueued]
    exact fun ho => ho.elim hhandler (fun hne => hne rfl)
  | seed fails =>
    rw [next, written]
    refine ⟨?_, rfl, fun r hr => ?_⟩
    · split
      · rw [Job.Open, hqueued]
        exact fun ho => ho.elim (fun he => by cases he) (fun hne => hne rfl)
      · rw [Job.Open, hqueued]
        exact fun ho => ho.elim hhandler (fun hne => hne rfl)
    · split at hr
      · exact (Option.some.inj hr).symm
      · cases hr
  | attempt env =>
    rw [next, calls, written, hqueued]
    refine ⟨?_, rfl, fun r hr => by cases hr⟩
    dsimp only
    rw [Job.Open, hqueued]
    exact fun ho => ho.elim hhandler (fun hne => hne rfl)

theorem Pipeline.Said.job_step (h : p.Said id msg result) (howned : Owned (fun _ _ => True) p.service)
    (op : JobOp) : (pipelineStep py settings p (.serve (.job id op))).Said id msg result := by
  obtain ⟨job, hjob, rfl, hclosed, htold⟩ := h
  obtain ⟨hclosed', hcalls, hwritten⟩ := Job.next_closed py settings hclosed op
  have hid : job.msg.jobId = id := (howned.jobs id job hjob).1
  refine ⟨job.next py settings op, ?_, Job.next_msg py settings job op, hclosed', ?_⟩
  · simp only [pipelineStep, serviceStep, hjob, Job.step_job]
    exact Dict.lookup_set_self _ _ _
  · rw [sentFor_target rfl, ServiceEvent.calls, hjob, Option.toList_some,
      List.flatMap_singleton, hcalls, List.append_nil]
    apply htold.forget
    intro s hs
    simp only [Pipeline.stored, pipelineStep, serviceStep, hjob] at hs ⊢
    rw [← hid] at hs ⊢
    rcases Job.lookup_step_store py settings hs with hold | ⟨-, hnew⟩
    · exact .inl hold
    · exact .inr (hwritten _ hnew)

/-- What has been said about a job stands, whatever the service does next. -/
theorem Pipeline.Said.step (h : p.Said id msg result) (howned : Owned (fun _ _ => True) p.service)
    (e : PipelineEvent) : (pipelineStep py settings p e).Said id msg result := by
  cases e with
  | deliver i env =>
    obtain ⟨job, hjob, hmsg, hclosed, htold⟩ := h
    refine ⟨job, hjob, hmsg, hclosed, ?_⟩
    rw [sentFor_deliver]
    exact htold
  | serve e =>
    by_cases htarget : e.target = some id
    · cases e with
      | poll username jobId path fails => cases htarget
      | job jobId op =>
        cases htarget
        exact h.job_step howned op
      | submit username jobId path registry dns body =>
        cases htarget
        obtain ⟨job, hjob, hmsg, hclosed, htold⟩ := h
        have hsame : serviceStep py settings p.service
            (.submit username id path registry dns body) = p.service := by
          simp only [serviceStep, hjob]
        refine ⟨job, ?_, hmsg, hclosed, ?_⟩
        · rw [pipelineStep, hsame]
          exact hjob
        · rw [sentFor_target rfl, ServiceEvent.calls, List.append_nil, Pipeline.stored,
            pipelineStep, hsame]
          exact htold
      | expire jobId =>
        cases htarget
        obtain ⟨job, hjob, hmsg, hclosed, htold⟩ := h
        refine ⟨job, hjob, hmsg, hclosed, ?_⟩
        rw [sentFor_target rfl, ServiceEvent.calls, List.append_nil]
        apply htold.forget
        intro s hs
        rw [Pipeline.stored, pipelineStep, serviceStep, Service.lookup_expired, if_pos rfl] at hs
        cases hs
    · obtain ⟨job, hjob, hmsg, hclosed, htold⟩ := h
      obtain ⟨hjobs, hstore⟩ := serviceStep_frame py settings howned htarget
      refine ⟨job, hjobs.trans hjob, hmsg, hclosed, ?_⟩
      rw [sentFor_serve, if_neg htarget, List.append_nil, Pipeline.stored, pipelineStep]
      dsimp only
      rw [hstore]
      exact htold

end Final

section Reached
variable {py : Python} {settings : Settings}

theorem owned_pipeline (history : List PipelineEvent) :
    Owned (fun _ _ => True) (pipeline py settings history).service := by
  rw [pipeline_service]
  apply owned_serve
  intro e he
  cases e <;> trivial

theorem said_pipeline {pre : List PipelineEvent} {id : String} {msg : ScanMessage}
    {result : Dict String Json} (h : (pipeline py settings pre).Said id msg result)
    (post : List PipelineEvent) : (pipeline py settings (pre ++ post)).Said id msg result := by
  induction post using List.reverseRecOn with
  | nil =>
    rw [List.append_nil]
    exact h
  | append_singleton post e ih =>
    rw [← List.append_assoc, pipeline_concat]
    exact ih.step (owned_pipeline _) e

/-- The attempt that finds something closes its job with what it found. -/
theorem said_of_finds {pre : List PipelineEvent} (hpre : ∀ e ∈ pre, e.Healthy) {id : String}
    {job : Job} {retries : Nat} (hjob : (pipeline py settings pre).service.jobs.lookup id = some job)
    (hqueued : job.queued = some retries) {env : Env} (henv : env.Healthy) {engines : Engines}
    {name : String} {file : Bytes} (h : Finds py settings env job.msg engines name file) :
    ∃ result, (∀ version, Says .malware (serialize result version)) ∧
      (pipeline py settings (pre ++ [.serve (.job id (.attempt env))])).Said id job.msg result := by
  obtain ⟨result, hhanded, hending, hresult, hsaid⟩ := h.handedBy henv (some retries)
  have hledger : Ledger py settings (pipeline py settings pre) := ledger_pipeline hpre
  have hstands := hledger.jobs id job hjob
  have hopen : job.Open := by
    right
    rw [hqueued]
    exact Option.some_ne_none retries
  obtain ⟨hsent, hpending⟩ := hstands.due hopen
  have hid : job.msg.jobId = id := (hledger.owned.jobs id job hjob).1
  refine ⟨result, hsaid, job.next py settings (.attempt env), ?_,
    Job.next_msg py settings job _, ?_, hresult, ?_, ?_⟩
  · rw [pipeline_concat]
    simp only [pipelineStep, serviceStep, hjob, Job.step_job]
    exact Dict.lookup_set_self _ _ _
  · rw [Job.next, hqueued]
    dsimp only
    rw [hending, requeued]
    rintro (hhandler | hne)
    · have hnone := hstands.early hhandler
      rw [hqueued] at hnone
      cases hnone
    · exact hne rfl
  · rw [pipeline_concat, sentFor_target rfl, hsent, List.nil_append, ServiceEvent.calls,
      hjob, Option.toList_some, List.flatMap_singleton, Job.calls, hqueued]
    dsimp only
    rw [if_pos henv.enqueueFails, hhanded, Option.toList_some, List.flatMap_singleton]
  · intro s hs
    rw [pipeline_concat] at hs
    simp only [Pipeline.stored, pipelineStep, serviceStep, hjob] at hs
    rw [← hid] at hs
    rcases Job.lookup_step_store py settings hs with hold | ⟨-, hnew⟩
    · rw [hid] at hold
      exact .inl (hpending s hold)
    · rw [Job.written, hqueued] at hnew
      dsimp only at hnew
      rw [hhanded] at hnew
      exact .inr (Option.some.inj hnew).symm

end Reached

/-- A detection is the last word on a job. Where the store, the broker and the disk hold until an
attempt makes it, and this attempt is not disturbed, its one result is, over any history after it,
what the callback of the job and every record of it but the pending one tell: of malware, in either
version. -/
theorem detection_is_final (py : Python) (settings : Settings) (pre : List PipelineEvent)
    (hpre : ∀ e ∈ pre, e.Healthy) (id : String) (job : Job) (retries : Nat)
    (hjob : (pipeline py settings pre).service.jobs.lookup id = some job)
    (hqueued : job.queued = some retries) (env : Env) (henv : env.Healthy) (engines : Engines)
    (name : String) (file : Bytes) (h : Finds py settings env job.msg engines name file) :
    ∃ result, (∀ version, Says .malware (serialize result version)) ∧
      ∀ post, (pipeline py settings (pre ++ .serve (.job id (.attempt env)) :: post)).Said id
        job.msg result := by
  obtain ⟨result, hkind, hsaid⟩ := said_of_finds hpre hjob hqueued henv h
  refine ⟨result, hkind, fun post => ?_⟩
  have hlater := said_pipeline hsaid post
  rw [List.append_assoc, List.singleton_append] at hlater
  exact hlater

/-- The job of `jobScannedBy`, and its history up to the attempt. -/
def submittedJob : ScanMessage := { hookedJob with wireVersion := V2 }

def queuedJob : List PipelineEvent := (jobScannedBy (clamdAlone "FOUND")).take 2

theorem detection_is_final_found :
    ∃ result, Says .malware (serialize result V1) ∧
      (pipeline publicPython unmapped (jobScannedBy (clamdAlone "FOUND"))).Said "job"
        submittedJob result := by
  have hpre : ∀ e ∈ queuedJob, e.Healthy := by
    simp only [queuedJob, jobScannedBy, List.take_succ_cons, List.take_zero, List.forall_mem_cons]
    exact ⟨trivial, trivial, List.forall_mem_nil _⟩
  have hdetects : ClamdFound ((clamdAlone "FOUND").instream (encode "moved")) :=
    ⟨_, "FOUND", none, rfl, rfl, by decide, by decide, by decide⟩
  have hfinds : Finds publicPython unmapped (scannedBy (clamdAlone "FOUND")) submittedJob
      (clamdAlone "FOUND") "clamav" (encode "moved") := by
    refine ⟨rfl, fun n hn => ?_, rfl, rfl, List.mem_singleton.2 rfl, rfl, .inl ⟨rfl, hdetects⟩⟩
    rw [List.mem_singleton.1 hn]
    exact ⟨_, rfl⟩
  obtain ⟨result, hkind, hsaid⟩ := detection_is_final publicPython unmapped queuedJob hpre "job"
    { msg := submittedJob, handler := .enqueued, queued := some 0 } 0 rfl rfl
    (scannedBy (clamdAlone "FOUND")) ⟨rfl, rfl, rfl⟩ (clamdAlone "FOUND") "clamav" (encode "moved")
    hfinds
  exact ⟨result, hkind V1, hsaid []⟩

end FileScanner
