import FileScanner.App.Encryption
import FileScanner.Provenance
import FileScanner.TokenBinding
import FileScanner.Traffic

namespace FileScanner
open Collections Fallible Unwinding
set_option autoImplicit true

/-- A body as pydantic reads it, at the types of the model; the encryption is yet to be checked. -/
structure BodyFields where
  request : ScanAsyncRequest
  encryption : Option EncryptionFields := none

/-- FastAPI around the handlers, on which nothing is assumed: what it decodes and reads, what it
says of a body that is refused, and its answer where no route is found. -/
structure Web where
  json : Bytes → Except Failure Json
  fields : Json → Except Failure BodyFields
  form : Bytes → Except Failure (Option Bytes)
  param : String → String → Option String
  render : List FieldError → String
  unrouted : Request → Failure

/-- A web process: its libraries, and how it is configured. -/
structure Deployment where
  py : JwtPython
  lib : PyJwt
  web : Web
  settings : Settings
  jwt : JwtSettings

/-- What a handler finds when a request comes: the clock, the engines and the time they take, the
name service, the id it draws for a job, and whether the store can be reached. -/
structure Moment where
  now : Rat
  registry : Registry
  elapsed : String → Rat
  dns : Dns
  jobId : String
  storeFails : Bool

/-- A request that is past the gate, with what it brings. -/
inductive Admitted where
  | scan (file : Bytes)
  | scanAsync (body : ScanAsyncRequest)
  | jobStatus (jobId : String)

namespace Deployment
variable (d : Deployment)

/-- `ScanAsyncRequest`, once its fields are read. -/
def validateBody (fields : BodyFields) : Except Failure ScanAsyncRequest :=
  match fields.encryption with
  | none => .ok { fields.request with encryption := .null }
  | some e =>
    match validateEncryption d.py.toPython d.settings e with
    | .ok encryption => .ok { fields.request with encryption := encryption.modelDump }
    | .error errors => .error (.http 422 (d.web.render errors))

/-- `Depends(auth_sync)` and `Depends(auth_async)`; an issuer that has a key is a text. -/
def username (now : Rat) (request : Request) (bindBody : Bool) : Except Failure String := do
  let iss ← authenticate d.py d.lib d.jwt now request bindBody
  match iss with
  | .str username => pure username
  | _ => .error (.unhandled (.typeError "iss"))

/-- FastAPI decodes a body, runs the dependencies of the route, and validates the body last. -/
def enter (now : Rat) (request : Request) : Except Failure (String × Admitted) :=
  match dispatch request with
  | none => .error (d.web.unrouted request)
  | some .scan => do
    let form ← d.web.form request.body
    let username ← d.username now request Endpoint.scan.bindsBody
    match form with
    | none => .error (.http 422 "Field required")
    | some file => pure (username, .scan file)
  | some .scanAsync => do
    let raw ← d.web.json request.body
    let username ← d.username now request Endpoint.scanAsync.bindsBody
    let fields ← d.web.fields raw
    let body ← d.validateBody fields
    pure (username, .scanAsync body)
  | some (.jobStatus jobId) => do
    let username ← d.username now request (Endpoint.jobStatus jobId).bindsBody
    pure (username, .jobStatus jobId)

/-- The body of a submission, decoded and validated. -/
def readBody (raw : Bytes) : Except Failure ScanAsyncRequest := do
  let raw ← d.web.json raw
  let fields ← d.web.fields raw
  d.validateBody fields

/-- What a submission that is past the gate is accepted as. -/
def accepted (m : Moment) (request : Request) (username : String) (body : ScanAsyncRequest) :
    Except Failure ScanMessage :=
  accept d.py.toPython d.settings m.registry m.dns request.urlPath username m.jobId body

/-- The answer to a request, where its handler gets to its end. -/
def reply (p : Pipeline) (m : Moment) (request : Request) :
    Except Failure (Dict String Json) := do
  let (username, admitted) ← d.enter m.now request
  match admitted with
  | .scan file =>
    scan d.py.toPython d.settings m.registry m.elapsed request.urlPath
      (d.web.param request.query "categories") (d.web.param request.query "scanners") file
  | .scanAsync body => do
    let msg ← d.accepted m request username body
    pure [("job_id", .str msg.jobId), ("status", .str PENDING)]
  | .jobStatus jobId =>
    jobStatus d.settings m.storeFails p.service.world.store request.urlPath jobId username

end Deployment

/-- What happens to the service: a request of anybody's, with whatever it holds, or a step that
its own processes take. -/
inductive GatewayEvent where
  | request (m : Moment) (request : Request)
  | job (jobId : String) (op : JobOp)
  | expire (jobId : String)
  | deliver (i : Nat) (env : DeliveryEnv)

namespace Deployment
variable (d : Deployment)

/-- What an event comes to behind the gate. -/
def event : GatewayEvent → Option PipelineEvent
  | .request m request =>
    match d.enter m.now request with
    | .ok (username, .scanAsync body) =>
      some (.serve (.submit username m.jobId request.urlPath m.registry m.dns body))
    | .ok (username, .jobStatus jobId) =>
      some (.serve (.poll username jobId request.urlPath m.storeFails))
    | .ok (_, .scan _) | .error _ => none
  | .job jobId op => some (.serve (.job jobId op))
  | .expire jobId => some (.serve (.expire jobId))
  | .deliver i env => some (.deliver i env)

def gatewayStep (p : Pipeline) (e : GatewayEvent) : Pipeline :=
  (d.event e).elim p (pipelineStep d.py.toPython d.settings p)

/-- The service after a history of requests and of its own steps. -/
def gateway (history : List GatewayEvent) : Pipeline := run d.gatewayStep {} history

/-- The history behind the gate. -/
def admittedHistory (history : List GatewayEvent) : List PipelineEvent :=
  history.filterMap d.event

/-- All connections that the service opens. -/
def traffic (history : List GatewayEvent) : List Connection :=
  FileScanner.traffic d.py.toPython d.settings (d.admittedHistory history)

theorem gateway_eq_pipeline (history : List GatewayEvent) :
    d.gateway history = pipeline d.py.toPython d.settings (d.admittedHistory history) :=
  run_gate (pipelineStep d.py.toPython d.settings) d.event {} history

variable {d} {m : Moment} {request : Request} {user : String}

theorem username_ok {now : Rat} {bindBody : Bool} :
    d.username now request bindBody = .ok user ↔
      authenticate d.py d.lib d.jwt now request bindBody = .ok (.str user) := by
  rw [username]
  constructor
  · intro h
    obtain ⟨iss, hiss, h⟩ := bind_eq_ok.1 h
    split at h
    · cases h
      exact hiss
    · cases h
  · intro h
    rw [h]
    rfl

theorem validated {bytes : Bytes} {body : ScanAsyncRequest} :
    d.readBody bytes = .ok body ↔ ∃ raw fields, d.web.json bytes = .ok raw ∧
      d.web.fields raw = .ok fields ∧ d.validateBody fields = .ok body := by
  rw [readBody]
  constructor
  · intro h
    obtain ⟨raw, hraw, h⟩ := bind_eq_ok.1 h
    obtain ⟨fields, hfields, h⟩ := bind_eq_ok.1 h
    exact ⟨raw, fields, hraw, hfields, h⟩
  · intro h
    obtain ⟨raw, fields, hraw, hfields, h⟩ := h
    rw [hraw, ok_bind, hfields, ok_bind, h]

/-- Nothing passes without a token of a caller, and a submission not without a body. -/
theorem enter_ok {now : Rat} {a : Admitted} (h : d.enter now request = .ok (user, a)) :
    ∃ endpoint, dispatch request = some endpoint ∧
      d.username now request endpoint.bindsBody = .ok user ∧
      match a with
      | .scan _ => endpoint = .scan
      | .scanAsync body => endpoint = .scanAsync ∧ d.readBody request.body = .ok body
      | .jobStatus jobId => endpoint = .jobStatus jobId := by
  rw [enter] at h
  split at h
  · cases h
  · rename_i hdispatch
    obtain ⟨form, -, h⟩ := bind_eq_ok.1 h
    obtain ⟨user', huser, h⟩ := bind_eq_ok.1 h
    split at h
    · cases h
    · cases h
      exact ⟨_, hdispatch, huser, rfl⟩
  · rename_i hdispatch
    obtain ⟨raw, hraw, h⟩ := bind_eq_ok.1 h
    obtain ⟨user', huser, h⟩ := bind_eq_ok.1 h
    obtain ⟨fields, hfields, h⟩ := bind_eq_ok.1 h
    obtain ⟨body, hbody, h⟩ := bind_eq_ok.1 h
    cases h
    exact ⟨_, hdispatch, huser, rfl, validated.2 ⟨raw, fields, hraw, hfields, hbody⟩⟩
  · rename_i jobId hdispatch
    obtain ⟨user', huser, h⟩ := bind_eq_ok.1 h
    cases h
    exact ⟨_, hdispatch, huser, rfl⟩

theorem event_submit {e : GatewayEvent} {path jobId : String} {registry : Registry} {dns : Dns}
    {body : ScanAsyncRequest}
    (h : d.event e = some (.serve (.submit user jobId path registry dns body))) :
    ∃ m request, e = .request m request ∧ d.enter m.now request = .ok (user, .scanAsync body) ∧
      jobId = m.jobId ∧ path = request.urlPath ∧ registry = m.registry ∧ dns = m.dns := by
  cases e with
  | request m request =>
    rw [event] at h
    split at h
    · rename_i henter
      cases h
      exact ⟨m, request, rfl, henter, rfl, rfl, rfl, rfl⟩
    · cases h
    · cases h
    · cases h
  | job jobId op => cases h
  | expire jobId => cases h
  | deliver i env => cases h

end Deployment

section Origins
variable {py : Python} {settings : Settings}

/-- The submission that a job of this message comes from. -/
def ServiceEvent.Submits (py : Python) (settings : Settings) (msg : ScanMessage) :
    ServiceEvent → Prop
  | .submit username jobId path registry dns body =>
    accept py settings registry dns path username jobId body = .ok msg
  | _ => False

theorem serviceStep_jobs {s : Service} {e : ServiceEvent} {id : String} {job : Job}
    (h : (serviceStep py settings s e).jobs.lookup id = some job) :
    (∃ old, s.jobs.lookup id = some old ∧ old.msg = job.msg) ∨
      e.Submits py settings job.msg := by
  cases e with
  | submit username jobId path registry dns body =>
    rw [serviceStep] at h
    split at h
    · rename_i msg hnone hok
      rw [Dict.lookup_set] at h
      split at h
      · cases h
        exact .inr hok
      · exact .inl ⟨job, h, rfl⟩
    · exact .inl ⟨job, h, rfl⟩
  | job jobId op =>
    rw [serviceStep] at h
    split at h
    · exact .inl ⟨job, h, rfl⟩
    · rename_i old hold
      rw [Dict.lookup_set] at h
      split at h
      · rename_i hid
        cases h
        exact .inl ⟨old, hid ▸ hold, (Job.step_msg py settings old s.world op).symm⟩
      · exact .inl ⟨job, h, rfl⟩
  | expire jobId => exact .inl ⟨job, h, rfl⟩
  | poll username jobId path fails => exact .inl ⟨job, h, rfl⟩

/-- Every job was submitted, and accepted as the message it has. -/
theorem job_submitted {history : List ServiceEvent} {id : String} {job : Job}
    (h : (serve py settings history).jobs.lookup id = some job) :
    ∃ e ∈ history, e.Submits py settings job.msg := by
  let Holds (s : Service) (msg : ScanMessage) : Prop :=
    ∃ job, s.jobs.lookup id = some job ∧ job.msg = msg
  have hstep (s : Service) (e : ServiceEvent) (msg : ScanMessage)
      (h : Holds (serviceStep py settings s e) msg) :
      Holds s msg ∨ e.Submits py settings msg := by
    obtain ⟨job, hjob, rfl⟩ := h
    exact serviceStep_jobs hjob
  have hstart : ¬ Holds {} job.msg := by
    rintro ⟨old, hold, -⟩
    cases hold
  exact @exists_origin _ _ _ _ Holds (fun e msg => e.Submits py settings msg) hstep _ _ hstart _
    ⟨job, h, rfl⟩

/-- Whatever stands under an id belongs to the caller whose job it is. -/
def Recorded (s : Service) : Prop :=
  ∀ id w, s.world.store.lookup (keyMessage id) = some w →
    ∃ job, s.jobs.lookup id = some job ∧ w.owner = job.msg.apiClient

theorem recorded_step {s : Service} (howned : Owned (fun _ _ => True) s) (h : Recorded s)
    (e : ServiceEvent) : Recorded (serviceStep py settings s e) := by
  have hkept {id : String} {w : StoredResult}
      (hw : s.world.store.lookup (keyMessage id) = some w) :
      ∃ job, (serviceStep py settings s e).jobs.lookup id = some job ∧
        w.owner = job.msg.apiClient := by
    obtain ⟨job, hjob, howner⟩ := h id w hw
    obtain ⟨job', hjob', hmsg⟩ := serviceStep_msg py settings e hjob
    exact ⟨job', hjob', howner.trans (congrArg ScanMessage.apiClient hmsg.symm)⟩
  intro id w hw
  cases e with
  | submit username jobId path registry dns body =>
    apply hkept
    rw [serviceStep] at hw
    split at hw
    · exact hw
    · exact hw
  | job jobId op =>
    cases hjob : s.jobs.lookup jobId with
    | none =>
      apply hkept
      rw [serviceStep, hjob] at hw
      exact hw
    | some job =>
      have hstored := hw
      rw [serviceStep, hjob] at hstored
      have hid := (howned.jobs jobId job hjob).1
      by_cases hsame : id = job.msg.jobId
      · rw [hsame] at hw hstored ⊢
        rcases Job.lookup_step_store py settings hstored with hold | ⟨howner, -⟩
        · exact hkept hold
        · obtain ⟨job', hjob', hmsg⟩ := serviceStep_msg py settings (.job jobId op) hjob
          rw [hid]
          exact ⟨job', hjob', howner.trans (congrArg ScanMessage.apiClient hmsg.symm)⟩
      · apply hkept
        rwa [Job.lookup_step_store_ne py settings hsame] at hstored
  | expire jobId =>
    apply hkept
    rw [serviceStep, Service.lookup_expired] at hw
    split at hw
    · cases hw
    · exact hw
  | poll username jobId path fails => exact hkept hw

theorem recorded_serve (history : List ServiceEvent) : Recorded (serve py settings history) := by
  have hstep (s : Service) (e : ServiceEvent) (_ : True)
      (h : Owned (fun _ _ => True) s ∧ Recorded s) :
      Owned (fun _ _ => True) (serviceStep py settings s e) ∧
        Recorded (serviceStep py settings s e) := by
    apply And.intro _ (recorded_step h.1 h.2 e)
    apply owned_step py settings _ h.1
    cases e <;> exact trivial
  exact (run_invariant hstep (fun _ _ => trivial)
    ⟨owned_initial _, fun _ _ h => by cases h⟩).2

end Origins

/-- Every job comes from a request that was admitted, and accepted as the message it has. -/
theorem Deployment.job_admitted {d : Deployment} {history : List GatewayEvent} {id : String}
    {job : Job} (h : (d.gateway history).service.jobs.lookup id = some job) :
    ∃ m request body, .request m request ∈ history ∧
      d.enter m.now request = .ok (job.msg.apiClient, .scanAsync body) ∧
      d.accepted m request job.msg.apiClient body = .ok job.msg := by
  rw [gateway_eq_pipeline, pipeline_service] at h
  obtain ⟨e, he, hsubmits⟩ := job_submitted h
  cases e with
  | job jobId op => cases hsubmits
  | expire jobId => cases hsubmits
  | poll username jobId path fails => cases hsubmits
  | submit username jobId path registry dns body =>
    obtain ⟨ge, hge, hevent⟩ := List.mem_filterMap.1 (mem_served he)
    obtain ⟨m, request, rfl, henter, rfl, rfl, rfl, rfl⟩ := event_submit hevent
    obtain ⟨-, hclient⟩ := accept_msg hsubmits
    rw [← hclient] at henter hsubmits
    exact ⟨m, request, body, hge, henter, hsubmits⟩

end FileScanner
