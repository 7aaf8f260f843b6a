import FileScanner.Custody

namespace FileScanner
open Collections Fallible Unwinding
set_option autoImplicit true

/-- The same job, but for the version its callback is to be in. -/
def SameJob (job job' : Job) : Prop :=
  ∃ path path', job.msg.wireVersion = ofPath path ∧
    job' = { job with msg := { job.msg with wireVersion := ofPath path' } }

/-- A callback of two services: one finalised result, to the receiver of one job, each in the
version that this job has there. -/
inductive SameCallback (s s' : Service) :
    String × Dict String Json → String × Dict String Json → Prop where
  | told {id : String} {job job' : Job} {url : String} {result : Dict String Json}
      (hjob : s.jobs.lookup id = some job) (hjob' : s'.jobs.lookup id = some job')
      (hurl : job.msg.webhook = some url) (hfinal : result ∈ s.world.finals) :
      SameCallback s s' (url, serialize result job.msg.wireVersion)
        (url, serialize result job'.msg.wireVersion)

/-- The same but for the callbacks, which are the same in the sense given. -/
structure SameWorld (Same : String × Dict String Json → String × Dict String Json → Prop)
    (w w' : World) : Prop where
  store : w.store = w'.store
  finals : w.finals = w'.finals
  scans : w.scans = w'.scans
  scratch : w.scratch = w'.scratch
  sent : List.Forall₂ Same w.sent w'.sent

structure SameService (s s' : Service) : Prop where
  jobs : s.jobs.Rel SameJob s'.jobs
  world : SameWorld (SameCallback s s') s.world s'.world

/-- A poll, with the record that the store had for it. -/
structure Reply where
  username : String
  jobId : String
  path : String
  record : Option (Dict String Json)
  answer : Except Failure (Dict String Json)

/-- The polls an event answers. -/
def Service.replies (settings : Settings) (s : Service) : ServiceEvent → List Reply
  | .submit .. => []
  | .job .. => []
  | .expire _ => []
  | .poll username jobId path fails =>
    [{ username, jobId, path,
       record := fetchRecord settings fails s.world.store jobId username,
       answer := jobStatus settings fails s.world.store path jobId username }]

/-- All polls answered in a history, in order. -/
def replies (py : Python) (settings : Settings) (history : List ServiceEvent) : List Reply :=
  emitted (serviceStep py settings) (Service.replies settings) {} history

/-- A poll on two paths: one record, each time in the version of its path, or one refusal. -/
structure SameReply (r r' : Reply) : Prop where
  username : r.username = r'.username
  jobId : r.jobId = r'.jobId
  record : r.record = r'.record
  answer : (∃ e, r.answer = .error e ∧ r'.answer = .error e) ∨
    ∃ record, r.record = some record ∧ r.answer = .ok (serialize record (ofPath r.path)) ∧
      r'.answer = .ok (serialize record (ofPath r'.path))

/-- The same event, through the route of another version. -/
inductive SameEvent : ServiceEvent → ServiceEvent → Prop where
  | submit (username jobId path path' registry dns body) :
    SameEvent (.submit username jobId path registry dns body)
      (.submit username jobId path' registry dns body)
  | job (jobId op) : SameEvent (.job jobId op) (.job jobId op)
  | expire (jobId) : SameEvent (.expire jobId) (.expire jobId)
  | poll (username jobId path path' fails) :
    SameEvent (.poll username jobId path fails) (.poll username jobId path' fails)

section Steps
variable {py : Python} {settings : Settings}
  {Same : String × Dict String Json → String × Dict String Json → Prop}

theorem SameWorld.imp {Same' : String × Dict String Json → String × Dict String Json → Prop}
    {w w' : World} (h : SameWorld Same w w') (himp : ∀ m m', Same m m' → Same' m m') :
    SameWorld Same' w w' :=
  ⟨h.store, h.finals, h.scans, h.scratch, h.sent.imp himp⟩

theorem finalize_same (env : Env) {msg : ScanMessage} {version : String}
    {result : Dict String Json} (hresult : ∀ url, msg.webhook = some url →
      Same (url, serialize result msg.wireVersion) (url, serialize result version))
    {w w' : World} (h : SameWorld Same w w') :
    SameWorld Same (finalize settings env msg result w).2
      (finalize settings env { msg with wireVersion := version } result w').2 := by
  obtain ⟨store, sent, finals, scans, scratch⟩ := w
  obtain ⟨store', sent', finals', scans', scratch'⟩ := w'
  obtain ⟨rfl, rfl, rfl, rfl, hsent⟩ := h
  simp only [finalize, enqueue]
  have hwebhook : ({ msg with wireVersion := version } : ScanMessage).webhook = msg.webhook := rfl
  rw [hwebhook]
  cases hurl : msg.webhook with
  | none => exact ⟨rfl, rfl, rfl, rfl, hsent⟩
  | some url =>
    cases env.enqueueFails with
    | some e => exact ⟨rfl, rfl, rfl, rfl, hsent⟩
    | none =>
      exact ⟨rfl, rfl, rfl, rfl, List.rel_append hsent (.cons (hresult url hurl) .nil)⟩

theorem attempted_same (a : Attempted) {w w' : World} (h : SameWorld Same w w') :
    SameWorld Same (w.attempted a) (w'.attempted a) := by
  obtain ⟨hstore, hfinals, hscans, hscratch, hsent⟩ := h
  refine ⟨hstore, hfinals, ?_, ?_, hsent⟩
  · rw [World.attempted, World.attempted, hscans]
  · rw [World.attempted, World.attempted, hscratch]

theorem removed_same (env : Env) (a : Attempted) {w w' : World} (h : SameWorld Same w w') :
    SameWorld Same (w.removed env a) (w'.removed env a) := by
  rw [World.removed, World.removed]
  split
  · obtain ⟨hstore, hfinals, hscans, hscratch, hsent⟩ := h
    exact ⟨hstore, hfinals, hscans, congrArg (· - 1) hscratch, hsent⟩
  · exact h

theorem scanTask_same (env : Env) (msg : ScanMessage) (version : String) (retries : Option Nat)
    {w w' : World} (h : SameWorld Same w w')
    (hresult : ∀ result ∈ (scanTask py settings env msg retries w).2.finals, ∀ url,
      msg.webhook = some url →
        Same (url, serialize result msg.wireVersion) (url, serialize result version)) :
    (scanTask py settings env { msg with wireVersion := version } retries w').1 =
        (scanTask py settings env msg retries w).1 ∧
      SameWorld Same (scanTask py settings env msg retries w).2
        (scanTask py settings env { msg with wireVersion := version } retries w').2 := by
  have htry : tryBlock py settings env { msg with wireVersion := version } =
      tryBlock py settings env msg := rfl
  rw [scanTask_finals, handedBy] at hresult
  rw [scanTask_eq settings env msg py retries w rfl, scanTask_eq settings env _ py retries w' htry]
  generalize tryBlock py settings env msg = a at hresult
  have hattempted := attempted_same a h
  refine ⟨rfl, removed_same env a ?_⟩
  change SameWorld Same ((w.attempted a).handOver settings env msg (handed env msg retries a))
    ((w'.attempted a).handOver settings env { msg with wireVersion := version }
      (handed env msg retries a))
  cases hhanded : handed env msg retries a with
  | none => exact hattempted
  | some result =>
    have hmem : result ∈ w.finals ++ (handed env msg retries a).toList := by
      rw [hhanded]
      exact List.mem_append_right _ List.mem_cons_self
    exact finalize_same env (hresult result hmem) hattempted

theorem Job.step_same {job job' : Job} (hjob : SameJob job job') {w w' : World}
    (h : SameWorld Same w w') (op : JobOp)
    (hresult : ∀ result ∈ (job.step py settings w op).2.finals, ∀ url,
      job.msg.webhook = some url → Same (url, serialize result job.msg.wireVersion)
        (url, serialize result job'.msg.wireVersion)) :
    SameJob (job.step py settings w op).1 (job'.step py settings w' op).1 ∧
      SameWorld Same (job.step py settings w op).2 (job'.step py settings w' op).2 := by
  obtain ⟨path, path', hmsg, rfl⟩ := hjob
  cases op with
  | enqueue =>
    rw [step, step]
    dsimp only
    split
    · exact ⟨⟨path, path', hmsg, rfl⟩, h⟩
    · exact ⟨⟨path, path', hmsg, rfl⟩, h⟩
  | seed fails =>
    rw [step, step]
    dsimp only
    split
    · obtain ⟨hstore, hfinals, hscans, hscratch, hsent⟩ := h
      refine ⟨⟨path, path', hmsg, rfl⟩, ?_, hfinals, hscans, hscratch, hsent⟩
      dsimp only
      rw [hstore]
      rfl
    · exact ⟨⟨path, path', hmsg, rfl⟩, h⟩
  | attempt env =>
    obtain ⟨msg, handler, queued⟩ := job
    cases queued with
    | none => exact ⟨⟨path, path', hmsg, rfl⟩, h⟩
    | some retries =>
      obtain ⟨hend, hworld⟩ := scanTask_same env msg (ofPath path') (some retries) h hresult
      dsimp only [step]
      rw [hend]
      exact ⟨⟨path, path', hmsg, rfl⟩, hworld⟩

theorem Job.step_finals (job : Job) (w : World) (op : JobOp) :
    w.finals ⊆ (job.step py settings w op).2.finals := by
  cases op with
  | enqueue =>
    rw [step]
    split <;> exact List.Subset.refl _
  | seed fails =>
    rw [step]
    split <;> exact List.Subset.refl _
  | attempt env =>
    rw [step]
    split
    · exact List.Subset.refl _
    · rw [scanTask_finals]
      exact List.subset_append_left _ _

theorem serviceStep_finals (s : Service) (e : ServiceEvent) :
    s.world.finals ⊆ (serviceStep py settings s e).world.finals := by
  cases e with
  | submit username jobId path registry dns body =>
    rw [serviceStep]
    split <;> exact List.Subset.refl _
  | job jobId op =>
    rw [serviceStep]
    split
    · exact List.Subset.refl _
    · exact Job.step_finals _ _ op
  | expire jobId => exact List.Subset.refl _
  | poll username jobId path fails => exact List.Subset.refl _

/-- What a callback tells stays true: jobs keep their messages, and results stay finalised. -/
theorem SameCallback.step {s s' : Service} {m m' : String × Dict String Json}
    (h : SameCallback s s' m m') (e e' : ServiceEvent) :
    SameCallback (serviceStep py settings s e) (serviceStep py settings s' e') m m' := by
  cases h with
  | told hjob hjob' hurl hfinal =>
    obtain ⟨next, hnext, hmsg⟩ := serviceStep_msg py settings e hjob
    obtain ⟨next', hnext', hmsg'⟩ := serviceStep_msg py settings e' hjob'
    rw [← hmsg] at hurl ⊢
    rw [← hmsg']
    exact .told hnext hnext' hurl (serviceStep_finals s e hfinal)

theorem accept_path (registry : Registry) (dns : Dns) (path path' username jobId : String)
    (body : ScanAsyncRequest) :
    accept py settings registry dns path' username jobId body =
      (fun msg => { msg with wireVersion := ofPath path' }) <$>
        accept py settings registry dns path username jobId body := by
  simp only [accept, map_bind, map_pure]

theorem serviceStep_same (s s' : Service) (e e' : ServiceEvent) (h : SameService s s')
    (he : SameEvent e e') :
    SameService (serviceStep py settings s e) (serviceStep py settings s' e') := by
  obtain ⟨hjobs, hworld⟩ := h
  have hkept : SameWorld (SameCallback (serviceStep py settings s e) (serviceStep py settings s' e'))
      s.world s'.world := hworld.imp fun _ _ hm => hm.step e e'
  cases he with
  | submit username jobId path path' registry dns body =>
    have hlookup := hjobs.lookup jobId
    rw [serviceStep, serviceStep, accept_path registry dns path path'] at hkept ⊢
    generalize s.jobs.lookup jobId = found at hlookup hkept
    generalize s'.jobs.lookup jobId = found' at hlookup hkept
    cases hlookup with
    | some hjob => exact ⟨hjobs, hkept⟩
    | none =>
      cases haccept : accept py settings registry dns path username jobId body with
      | error e =>
        rw [haccept] at hkept
        exact ⟨hjobs, hkept⟩
      | ok msg =>
        rw [haccept] at hkept
        have hself := haccept
        rw [accept_path registry dns path path, haccept] at hself
        have hmsg : msg.wireVersion = ofPath path :=
          (congrArg ScanMessage.wireVersion (Except.ok.inj hself)).symm
        exact ⟨hjobs.set jobId ⟨path, path', hmsg, rfl⟩, hkept⟩
  | job jobId op =>
    have hlookup := hjobs.lookup jobId
    rw [serviceStep, serviceStep] at hkept ⊢
    generalize s.jobs.lookup jobId = found at hlookup hkept
    generalize s'.jobs.lookup jobId = found' at hlookup hkept
    cases hlookup with
    | none => exact ⟨hjobs, hkept⟩
    | @some job job' hjob =>
      obtain ⟨hnext, hworld⟩ := Job.step_same hjob hkept op (by
        intro result hfinal url hurl
        rw [← Job.step_msg py settings job s.world op] at hurl ⊢
        rw [← Job.step_msg py settings job' s'.world op]
        exact .told (Dict.lookup_set_self _ _ _) (Dict.lookup_set_self _ _ _) hurl hfinal)
      exact ⟨hjobs.set jobId hnext, hworld⟩
  | expire jobId =>
    obtain ⟨hstore, hfinals, hscans, hscratch, hsent⟩ := hkept
    refine ⟨hjobs, ⟨?_, hfinals, hscans, hscratch, hsent⟩⟩
    rw [serviceStep, serviceStep, Service.expired, Service.expired, hstore]
  | poll username jobId path path' fails => exact ⟨hjobs, hkept⟩

/-- A poll is refused on every path, or gives one record, in the version of the path. -/
theorem jobStatus_views (settings : Settings) (fails : Bool) (store : Store)
    (jobId username : String) :
    (∃ e, ∀ path, jobStatus settings fails store path jobId username = .error e) ∨
      ∃ record, fetchRecord settings fails store jobId username = some record ∧
        ∀ path, jobStatus settings fails store path jobId username =
          .ok (serialize record (ofPath path)) := by
  by_cases hdisabled : enabled settings = false
  · refine .inl ⟨.http 404 "result store is disabled (WORKER_RESULT_TTL=0)", fun path => ?_⟩
    rw [jobStatus, raiseIf_pos hdisabled]
    rfl
  · cases hfetch : fetchRecord settings fails store jobId username with
    | none =>
      refine .inl ⟨.http 404 "job not found", fun path => ?_⟩
      rw [jobStatus, raiseIf_neg hdisabled, ok_bind, hfetch]
    | some record =>
      refine .inr ⟨record, rfl, fun path => ?_⟩
      rw [jobStatus, raiseIf_neg hdisabled, ok_bind, hfetch]
      rfl

theorem replies_same (s s' : Service) (e e' : ServiceEvent) (h : SameService s s')
    (he : SameEvent e e') :
    List.Forall₂ SameReply (s.replies settings e) (s'.replies settings e') := by
  cases he with
  | submit username jobId path path' registry dns body => exact .nil
  | job jobId op => exact .nil
  | expire jobId => exact .nil
  | poll username jobId path path' fails =>
    rw [Service.replies, Service.replies, ← h.world.store]
    refine .cons ⟨rfl, rfl, rfl, ?_⟩ .nil
    rcases jobStatus_views settings fails s.world.store jobId username with
      ⟨e, hrefused⟩ | ⟨record, hrecord, hviews⟩
    · exact .inl ⟨e, hrefused path, hrefused path'⟩
    · exact .inr ⟨record, hrecord, hviews path, hviews path'⟩

theorem answers_eq_replies (history : List ServiceEvent) :
    (serve py settings history).answers =
      (replies py settings history).map (fun r => (r.username, r.answer)) := by
  refine run_gathers (fun s e => ?_) ({} : Service) history
  cases e with
  | submit username jobId path registry dns body =>
    rw [serviceStep, Service.replies, List.map_nil, List.append_nil]
    split <;> rfl
  | job jobId op =>
    rw [serviceStep, Service.replies, List.map_nil, List.append_nil]
    split <;> rfl
  | expire jobId => exact (List.append_nil _).symm
  | poll username jobId path fails => rfl

end Steps

/-- A version is a view: whichever versions callers submit and poll on, the same files are scanned,
the same canonical records are stored, each callback is one finalised result in the version of its
job, and each answer one record in the version of its path. -/
theorem version_is_a_view (py : Python) (settings : Settings)
    {history history' : List ServiceEvent} (h : List.Forall₂ SameEvent history history') :
    SameService (serve py settings history) (serve py settings history') ∧
      List.Forall₂ SameReply (replies py settings history) (replies py settings history') ∧
      ∀ run, (serve py settings run).answers =
        (replies py settings run).map (fun r => (r.username, r.answer)) := by
  have hstart : SameService {} {} := ⟨.nil, ⟨rfl, rfl, rfl, rfl, .nil⟩⟩
  exact ⟨run_related serviceStep_same hstart h,
    emitted_related serviceStep_same replies_same hstart h, answers_eq_replies⟩

/-- A job submitted and polled on these routes, with a source that cannot be resolved. -/
def routedJob (path poll : String) : List ServiceEvent :=
  [.submit "drive" "job" path oneScanner publicDns
      { url := "https://example.com/f", webhookUrl := some "https://example.com/hook",
        scanners := ["clamav"] },
    .job "job" .enqueue, .job "job" (.attempt unresolvable), .poll "drive" "job" poll false]

theorem version_is_a_view_routed :
    SameService
        (serve publicPython polledSettings (routedJob "/api/v1.0/scan-async" "/api/v2.0/jobs/job"))
        (serve publicPython polledSettings
          (routedJob "/api/v2.0/scan-async" "/api/v1.0/jobs/job")) ∧
      List.Forall₂ SameReply
        (replies publicPython polledSettings
          (routedJob "/api/v1.0/scan-async" "/api/v2.0/jobs/job"))
        (replies publicPython polledSettings
          (routedJob "/api/v2.0/scan-async" "/api/v1.0/jobs/job")) := by
  obtain ⟨hservice, hreplies, -⟩ := version_is_a_view publicPython polledSettings
    (.cons (.submit _ _ _ _ _ _ _) (.cons (.job _ _) (.cons (.job _ _)
      (.cons (.poll _ _ _ _ _) .nil))))
  exact ⟨hservice, hreplies⟩

end FileScanner
