import FileScanner.Drain
import FileScanner.Pinning

namespace FileScanner
open Collections Queues Unwinding
set_option autoImplicit true

/-- What a connection is opened for. -/
inductive Errand where
  | download
  | callback
  deriving DecidableEq, Repr

/-- A connection to the outside, at a hop of a request made for a job. -/
structure Connection where
  jobId : String
  errand : Errand
  hop : Nat
  dial : Dial
  deriving DecidableEq, Repr

def connections (jobId : String) (errand : Errand) (dials : List Dial) : List Connection :=
  dials.zipIdx.map (fun d => ⟨jobId, errand, d.2, d.1⟩)

/-- The connections of one attempt on a callback: those of the POSTs it adds. -/
def Callback.dials (py : Python) (settings : Settings) (env : DeliveryEnv) (c : Callback) :
    List Dial :=
  ((c.attempt py settings env).ticket.state.drop c.ticket.state.length).map Post.dial

def Job.dials (py : Python) (settings : Settings) (job : Job) : JobOp → List Dial
  | .enqueue => []
  | .seed _ => []
  | .attempt env => if job.queued.isSome then downloadDials py settings env job.msg else []

def Service.connections (py : Python) (settings : Settings) (s : Service) :
    ServiceEvent → List Connection
  | .submit .. => []
  | .job jobId op =>
    FileScanner.connections jobId .download
      ((s.jobs.lookup jobId).toList.flatMap (·.dials py settings op))
  | .expire _ => []
  | .poll .. => []

/-- The connections that an event opens. -/
def Pipeline.connections (py : Python) (settings : Settings) (p : Pipeline) :
    PipelineEvent → List Connection
  | .serve e => p.service.connections py settings e
  | .deliver i env =>
    p.callbacks[i]?.toList.flatMap
      (fun c => FileScanner.connections c.origin .callback (c.dials py settings env))

/-- All connections opened in a history, in order. -/
def traffic (py : Python) (settings : Settings) (history : List PipelineEvent) :
    List Connection :=
  emitted (pipelineStep py settings) (Pipeline.connections py settings) {} history

/-- What a job may open: a chain of redirects at each of its attempts, and one connection at each
attempt on the callback that this enqueues. -/
def connectionsPerJob (settings : Settings) : Nat :=
  (MAX_RETRIES + 1) * (MAX_REDIRECTS + 1 + (settings.webhookMaxAttempts + 1))

/-- A hop of a download: it is past the guard, by a lookup of its own, and it is one of the few that
lead on from the submitted URL, each over the redirect of the one before it. -/
structure DownloadHop (py : Python) (settings : Settings) (env : Env) (msg : ScanMessage)
    (hop : Nat) (dial : Dial) : Prop where
  guarded : Guarded py settings (env.net.dns hop) dial
  few : hop ≤ MAX_REDIRECTS
  submitted : hop = 0 → dial.url = msg.url ∧ hostAllowed py settings dial.hostname = true
  led : Led py env.net true 0 msg.url (downloadDials py settings env msg) dial hop

/-- A connection is past the guard, and opened for an accepted job: in one of its attempts, to
download its file, or in an attempt on a callback, to tell its webhook. -/
def Legitimate (py : Python) (settings : Settings) (history : List PipelineEvent)
    (c : Connection) : Prop :=
  ∃ job, (pipeline py settings history).service.jobs.lookup c.jobId = some job ∧
    match c.errand with
    | .download => ∃ env, .serve (.job c.jobId (.attempt env)) ∈ history ∧
        DownloadHop py settings env job.msg c.hop c.dial
    | .callback => ∃ i env, .deliver i env ∈ history ∧ c.hop = 0 ∧
        job.msg.webhook = some c.dial.url ∧ Guarded py settings (env.net.dns 0) c.dial

section Connections
variable {py : Python} {settings : Settings}

theorem length_connections (jobId : String) (errand : Errand) (dials : List Dial) :
    (connections jobId errand dials).length = dials.length := by
  rw [connections, List.length_map, List.length_zipIdx]

theorem mem_connections {jobId : String} {errand : Errand} {dials : List Dial} {c : Connection}
    (h : c ∈ connections jobId errand dials) :
    c.jobId = jobId ∧ c.errand = errand ∧ dials[c.hop]? = some c.dial := by
  obtain ⟨⟨dial, hop⟩, hmem, rfl⟩ := List.mem_map.1 h
  exact ⟨rfl, rfl, List.mem_zipIdx_iff_getElem?.1 hmem⟩

/-- An attempt opens no connection, or the one that its request without redirects does. -/
theorem Callback.dials_cases (env : DeliveryEnv) (c : Callback) :
    c.dials py settings env = [] ∨ c.ticket.fate.settled = false ∧
      c.dials py settings env =
        (requestWithRedirects py settings env.net false c.webhookUrl).2 := by
  rw [dials, attempt, Ticket.attempt]
  cases hfate : c.ticket.fate with
  | returned a => exact .inl (by rw [List.drop_length, List.map_nil])
  | deadLettered => exact .inl (by rw [List.drop_length, List.map_nil])
  | pending retries =>
    dsimp only
    rw [delivery, deliverWebhook]
    cases env.sign c.webhookUrl (webhookBody py c.payload) with
    | error e => exact .inl (by rw [List.drop_length, List.map_nil])
    | ok token =>
      refine .inr ⟨rfl, ?_⟩
      dsimp only
      rw [List.drop_left, List.map_map]
      exact List.map_id _

theorem length_request_once (net : Network) (url : String) :
    (requestWithRedirects py settings net false url).2.length ≤ 1 := by
  cases hvalid : validateAndUnpack py settings (net.dns 0) url with
  | error e =>
    rw [requestWithRedirects, hops, hvalid]
    exact Nat.zero_le 1
  | ok dial =>
    rw [requestWithRedirects_once hvalid]
    exact Nat.le_refl 1

theorem Callback.length_dials (env : DeliveryEnv) (c : Callback) :
    (c.dials py settings env).length ≤ (!c.ticket.fate.settled).toNat := by
  rcases c.dials_cases env with hnone | ⟨hwaits, hdials⟩
  · rw [hnone]
    exact Nat.zero_le _
  · rw [hdials, hwaits]
    exact length_request_once env.net c.webhookUrl

theorem Job.length_dials (job : Job) (op : JobOp) :
    (job.dials py settings op).length ≤ (job.works op).toNat * (MAX_REDIRECTS + 1) := by
  cases op with
  | enqueue => exact Nat.zero_le _
  | seed fails => exact Nat.zero_le _
  | attempt env =>
    rw [dials, works]
    cases job.queued with
    | none => exact Nat.zero_le _
    | some retries =>
      rw [Option.isSome_some, if_pos rfl, Bool.toNat_true, Nat.one_mul]
      exact length_downloadDials_le

/-- What a step may open is counted for its connections. -/
def connectionCosts : Costs := ⟨0, MAX_REDIRECTS + 1, 1⟩

theorem Pipeline.length_connections (p : Pipeline) (e : PipelineEvent) :
    (p.connections py settings e).length ≤ (p.works e).toNat * connectionCosts.ofEvent e := by
  cases e with
  | deliver i env =>
    rw [connections, works]
    cases p.callbacks[i]? with
    | none => exact Nat.zero_le _
    | some c =>
      rw [Option.toList_some, List.flatMap_singleton, FileScanner.length_connections,
        Option.any_some]
      exact Nat.le_trans (c.length_dials env) (Nat.le_of_eq (Nat.mul_one _).symm)
  | serve e =>
    cases e with
    | submit username jobId path registry dns body => exact Nat.zero_le _
    | expire jobId => exact Nat.zero_le _
    | poll username jobId path fails => exact Nat.zero_le _
    | job jobId op =>
      rw [connections, Service.connections, FileScanner.length_connections, works, Service.works]
      cases p.service.jobs.lookup jobId with
      | none => exact Nat.zero_le _
      | some job =>
        rw [Option.toList_some, List.flatMap_singleton, Option.any_some]
        have hdials := @Job.length_dials py settings job op
        cases op with
        | enqueue => exact Nat.zero_le _
        | seed fails => exact Nat.zero_le _
        | attempt env => exact hdials

theorem downloadHop {env : Env} {msg : ScanMessage} {hop : Nat} {dial : Dial}
    (h : (downloadDials py settings env msg)[hop]? = some dial) :
    DownloadHop py settings env msg hop dial := by
  have hchain : Guarded py settings (env.net.dns hop) dial ∧
      Led py env.net true 0 msg.url (downloadDials py settings env msg) dial hop := by
    rw [downloadDials] at h ⊢
    split at h
    · cases h
    · have hguarded := hops_guarded env.net true h
      rwa [Nat.zero_add] at hguarded
  refine ⟨hchain.1, ?_, fun hfirst => ?_, hchain.2⟩
  · have hlt := (List.getElem?_eq_some_iff.1 h).1
    exact Nat.le_of_lt_succ (Nat.lt_of_lt_of_le hlt length_downloadDials_le)
  · rw [hfirst] at h
    cases hdials : downloadDials py settings env msg with
    | nil =>
      rw [hdials] at h
      cases h
    | cons first rest =>
      rw [hdials] at h
      cases h
      exact submitted_allowed hdials

section Moment
variable {pre post : List PipelineEvent}

/-- A connection of an attempt on a job. -/
theorem Job.legitimate {jobId : String} {job : Job} {op : JobOp}
    (hjob : (pipeline py settings pre).service.jobs.lookup jobId = some job) {c : Connection}
    (hc : c ∈ FileScanner.connections jobId .download (job.dials py settings op)) :
    Legitimate py settings (pre ++ .serve (.job jobId op) :: post) c := by
  obtain ⟨hid, herrand, hget⟩ := mem_connections hc
  obtain ⟨job', hjob', hmsg⟩ := pipeline_msg hjob (.serve (.job jobId op) :: post)
  rw [Legitimate, hid, herrand]
  refine ⟨job', hjob', ?_⟩
  cases op with
  | enqueue => cases hget
  | seed fails => cases hget
  | attempt env =>
    rw [dials] at hget
    split at hget
    · refine ⟨env, List.mem_append_right _ List.mem_cons_self, ?_⟩
      rw [hmsg]
      exact downloadHop hget
    · cases hget

/-- A connection of an attempt on a callback. -/
theorem Callback.legitimate {i : Nat} {env : DeliveryEnv} {cb : Callback}
    (hown : OwnReceiver py (pipeline py settings pre).service cb) {c : Connection}
    (hc : c ∈ FileScanner.connections cb.origin .callback (cb.dials py settings env)) :
    Legitimate py settings (pre ++ .deliver i env :: post) c := by
  obtain ⟨hid, herrand, hget⟩ := mem_connections hc
  obtain ⟨job, result, hjob, hurl, -, -⟩ := hown.asked
  obtain ⟨job', hjob', hmsg⟩ := pipeline_msg hjob (.deliver i env :: post)
  rw [Legitimate, hid, herrand]
  refine ⟨job', hjob', i, env, List.mem_append_right _ List.mem_cons_self, ?_⟩
  have hlength := @Callback.length_dials py settings env cb
  have hfirst : c.hop = 0 := by
    have hlt := (List.getElem?_eq_some_iff.1 hget).1
    have hone := Nat.le_trans hlength (Bool.toNat_le _)
    omega
  rcases @Callback.dials_cases py settings env cb with hnone | ⟨-, hdials⟩
  · rw [hnone] at hget
    cases hget
  · rw [hdials, hfirst] at hget
    have hguarded := (hops_guarded env.net false hget).1
    rw [hmsg, hurl, dials_once _ (List.mem_of_getElem? hget)]
    exact ⟨hfirst, rfl, hguarded⟩

end Moment

theorem legitimate_traffic {history : List PipelineEvent} {c : Connection}
    (h : c ∈ traffic py settings history) : Legitimate py settings history c := by
  obtain ⟨pre, e, post, rfl, hc⟩ := mem_emitted h
  rw [← pipeline] at hc
  cases e with
  | deliver i env =>
    rw [Pipeline.connections] at hc
    cases hget : (pipeline py settings pre).callbacks[i]? with
    | none =>
      rw [hget] at hc
      cases hc
    | some cb =>
      rw [hget, Option.toList_some, List.flatMap_singleton] at hc
      exact Callback.legitimate (ownReceivers_pipeline pre cb (List.mem_of_getElem? hget)) hc
  | serve e =>
    cases e with
    | submit username jobId path registry dns body => cases hc
    | expire jobId => cases hc
    | poll username jobId path fails => cases hc
    | job jobId op =>
      rw [Pipeline.connections, Service.connections] at hc
      cases hjob : (pipeline py settings pre).service.jobs.lookup jobId with
      | none =>
        rw [hjob] at hc
        cases hc
      | some job =>
        rw [hjob, Option.toList_some, List.flatMap_singleton] at hc
        exact Job.legitimate hjob hc

end Connections

/-- Whatever the hosts on the way answer, the service talks to no one but the hosts its jobs name
or are redirected to, past the guard, and each accepted job is worth a fixed number of
connections. -/
theorem traffic_is_legitimate (py : Python) (settings : Settings)
    (history : List PipelineEvent) :
    let p := pipeline py settings history
    (traffic py settings history).length ≤ p.service.jobs.length * connectionsPerJob settings ∧
      ∀ c ∈ traffic py settings history, Legitimate py settings history c := by
  intro p
  constructor
  · have hjob : connectionCosts.perJob settings = connectionsPerJob settings := by
      simp only [Costs.perJob, Costs.perAttempt, Costs.perCallback, connectionCosts,
        connectionsPerJob, Nat.mul_zero, Nat.mul_one, Nat.zero_add]
    rw [traffic, length_emitted, ← hjob]
    exact Nat.le_trans (spent_mono Pipeline.length_connections {} history)
      (spent_pipeline py settings connectionCosts history)
  · exact fun c hc => legitimate_traffic hc

end FileScanner
