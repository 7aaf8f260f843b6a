import FileScanner.Gateway

namespace FileScanner
open Collections Fallible
set_option autoImplicit true

/-- A call that a token can be for: its method and target, and its body where that is bound. -/
structure Call where
  method : String
  target : String
  body : Option Bytes
  deriving DecidableEq, Repr

/-- The claims of a token are for this call. -/
structure Call.Claimed (py : JwtPython) (call : Call) (claims : Dict String Json) : Prop where
  htm : getKey claims "htm" = .str call.method
  htu : getKey claims "htu" = .str call.target
  bh : getKey claims "bh" = (call.body.map (fun body => Json.str (bodyHash py body))).getD .null

/-- The call that a request makes, as `request.url` has its target, for an endpoint that binds its
body. -/
def Deployment.call (d : Deployment) (request : Request) : Call :=
  ⟨d.py.upper request.method,
    (requestTarget d.py request.method request.urlPath request.urlQuery).2, some request.body⟩

/-- Signatures are not forged, and callers sign for the calls they mean: what verifies under the
key of a caller is a token of theirs. -/
structure Deployment.Unforged (d : Deployment) (Means : String → Call → Prop) : Prop where
  carried : d.lib.ReturnsCarried
  meant : ∀ now iss key token claims, d.jwt.issuerKeys.lookup iss = some key →
    d.lib.verified now key d.jwt.audience d.jwt.leeway token = .ok claims →
    getKey claims "iss" = .str iss → ∃ call, Means iss call ∧ call.Claimed d.py claims

/-- No body that is sent has the digest of another one that a caller means to send. -/
def Deployment.CollisionFree (d : Deployment) (Means : String → Call → Prop)
    (history : List GatewayEvent) : Prop :=
  ∀ m request, .request m request ∈ history → ∀ iss call body, Means iss call →
    call.body = some body → d.py.sha256 body = d.py.sha256 request.body → body = request.body

/-- The caller of a job means the call that submitted it, body included, and the job is what the
endpoint makes of this call. -/
def Deployment.Asked (d : Deployment) (Means : String → Call → Prop)
    (history : List GatewayEvent) (msg : ScanMessage) : Prop :=
  ∃ m request body, .request m request ∈ history ∧ dispatch request = some .scanAsync ∧
    Means msg.apiClient (d.call request) ∧ d.readBody request.body = .ok body ∧
    d.accepted m request msg.apiClient body = .ok msg

namespace Deployment
variable {d : Deployment} {Means : String → Call → Prop} {request : Request} {user : String}

/-- Who a request is admitted as means a call of this method and target, and of this body as far
as digests tell. -/
theorem Unforged.username_meant (h : d.Unforged Means) {now : Rat} {bindBody : Bool}
    (huser : d.username now request bindBody = .ok user) :
    ∃ call, Means user call ∧ call.method = (d.call request).method ∧
      call.target = (d.call request).target ∧ (bindBody = true →
        ∃ body, call.body = some body ∧ d.py.sha256 body = d.py.sha256 request.body) := by
  rw [username_ok, authenticate_ok] at huser
  obtain ⟨-, -, token, claims, -, hclaims, hbinding, hiss⟩ := huser
  obtain ⟨iss, key, -, hname, hkey, hverified, -⟩ := decode_carried h.carried hclaims
  obtain ⟨hmethod, htarget, hbody⟩ := checkBinding_ok hbinding
  have hsame := hname
  rw [getKey_of_lookup hiss, Json.str.injEq] at hsame
  subst hsame
  obtain ⟨call, hmeans, hclaimed⟩ := h.meant now user key token claims hkey hverified hname
  rw [hclaimed.htm, Json.str.injEq] at hmethod
  rw [hclaimed.htu, Json.str.injEq] at htarget
  refine ⟨call, hmeans, hmethod, htarget, fun hbind => ?_⟩
  have hbh := hbody hbind
  rw [hclaimed.bh, if_pos hbind, Option.getD_some] at hbh
  cases hcall : call.body with
  | none =>
    rw [hcall] at hbh
    cases hbh
  | some body =>
    rw [hcall, Option.map_some, Option.getD_some, Json.str.injEq] at hbh
    exact ⟨body, rfl, b64urlEncode_injective hbh⟩

section History
variable {history : List GatewayEvent}

/-- A job stands for a call that its caller means. -/
theorem Unforged.job_asked (h : d.Unforged Means) (hfree : d.CollisionFree Means history)
    {id : String} {job : Job} (hjob : (d.gateway history).service.jobs.lookup id = some job) :
    d.Asked Means history job.msg := by
  obtain ⟨m, request, body, hmem, henter, haccepted⟩ := job_admitted hjob
  obtain ⟨endpoint, hdispatch, huser, rfl, hbody⟩ := enter_ok henter
  obtain ⟨call, hmeans, hmethod, htarget, hdigest⟩ := h.username_meant huser
  obtain ⟨sent, hsent, hsha⟩ := hdigest rfl
  rw [hfree m request hmem _ call sent hmeans hsent hsha] at hsent
  have hcall : call = d.call request := by
    cases call
    cases hmethod
    cases htarget
    cases hsent
    rfl
  exact ⟨m, request, body, hmem, hdispatch, hcall ▸ hmeans, hbody, haccepted⟩

/-- A connection of the service is for a job that was asked for. -/
theorem Unforged.connection_asked (h : d.Unforged Means)
    (hfree : d.CollisionFree Means history) {c : Connection} (hc : c ∈ d.traffic history) :
    Legitimate d.py.toPython d.settings (d.admittedHistory history) c ∧
      ∃ job, (d.gateway history).service.jobs.lookup c.jobId = some job ∧
        d.Asked Means history job.msg := by
  obtain ⟨job, hjob, -⟩ := legitimate_traffic hc
  rw [← gateway_eq_pipeline] at hjob
  exact ⟨legitimate_traffic hc, job, hjob, h.job_asked hfree hjob⟩

/-- Nobody gets an answer but to a call they mean, and a record only of a job of theirs. -/
theorem Unforged.reply_meant (h : d.Unforged Means) {m : Moment} {payload : Dict String Json}
    (hreply : d.reply (d.gateway history) m request = .ok payload) :
    ∃ user call, Means user call ∧ call.method = (d.call request).method ∧
      call.target = (d.call request).target ∧
      ∀ jobId, dispatch request = some (.jobStatus jobId) →
        ∃ job, (d.gateway history).service.jobs.lookup jobId = some job ∧
          job.msg.apiClient = user := by
  rw [reply] at hreply
  obtain ⟨⟨user, a⟩, henter, hreply⟩ := bind_eq_ok.1 hreply
  obtain ⟨endpoint, hdispatch, huser, ha⟩ := enter_ok henter
  obtain ⟨call, hmeans, hmethod, htarget, -⟩ := h.username_meant huser
  refine ⟨user, call, hmeans, hmethod, htarget, fun jobId hpoll => ?_⟩
  rw [hdispatch, Option.some.injEq] at hpoll
  subst hpoll
  cases a with
  | scan file => cases ha
  | scanAsync body => cases ha.1
  | jobStatus id =>
    cases ha
    obtain ⟨stored, hstored, howner, -⟩ := jobStatus_ok d.settings user hreply
    rw [gateway_eq_pipeline, pipeline_service] at hstored ⊢
    obtain ⟨job, hjob, hclient⟩ := recorded_serve _ jobId stored hstored
    exact ⟨job, hjob, hclient.symm.trans howner⟩

end History

end Deployment

/-- Whatever requests come, of anybody and in any order, the service does for its callers what
they mean, and nothing else: each job is made of a call that its caller means, body included, each
connection is opened for such a job, and an answer is given to a call that is meant, with a record
only where the job is the caller's own. -/
theorem effects_are_meant (d : Deployment) (Means : String → Call → Prop)
    (hunforged : d.Unforged Means) (history : List GatewayEvent)
    (hfree : d.CollisionFree Means history) :
    let p := d.gateway history
    (∀ id job, p.service.jobs.lookup id = some job → d.Asked Means history job.msg) ∧
      (∀ c ∈ d.traffic history,
        Legitimate d.py.toPython d.settings (d.admittedHistory history) c ∧
        ∃ job, p.service.jobs.lookup c.jobId = some job ∧ d.Asked Means history job.msg) ∧
      ∀ m request payload, d.reply p m request = .ok payload →
        ∃ user call, Means user call ∧ call.method = (d.call request).method ∧
          call.target = (d.call request).target ∧
          ∀ jobId, dispatch request = some (.jobStatus jobId) →
            ∃ job, p.service.jobs.lookup jobId = some job ∧ job.msg.apiClient = user :=
  ⟨fun _ _ hjob => hunforged.job_asked hfree hjob,
    fun _ hc => hunforged.connection_asked hfree hc,
    fun _ _ _ hreply => hunforged.reply_meant hreply⟩

def callPayload : Json :=
  .obj [("url", .str "https://example.com/f"), ("webhook_url", .str "https://example.com/hook"),
    ("scanners", .list [.str "clamav"])]

/-- FastAPI on this text. -/
def callWeb : Web where
  json raw := if raw = callBody then .ok callPayload else .error (.http 422 "JSON decode error")
  fields
    | .obj entries =>
      match getKey entries "url", getKey entries "webhook_url", getKey entries "scanners" with
      | .str url, .str hook, .list [.str scanner] =>
        .ok { request := { url := url, webhookUrl := some hook, scanners := [scanner] } }
      | _, _, _ => .error (.http 422 "Field required")
    | _ => .error (.http 422 "Field required")
  form _ := .ok none
  param _ _ := none
  render _ := "Value error"
  unrouted _ := .http 404 "Not Found"

def callDeployment : Deployment where
  py := callPython
  lib := windowLibrary publicPython callClaims
  web := callWeb
  settings := unmapped
  jwt := windowSettings "drive" 300 60

def callMoment (jobId : String) : Moment where
  now := 1700000100
  registry := oneScanner
  elapsed := fun _ => 0
  dns := publicDns
  jobId := jobId
  storeFails := false

theorem username_callRequest :
    callDeployment.username 1700000100 callRequest true = .ok "drive" :=
  Deployment.username_ok.2 (authenticate_callRequest rfl)

def callAsked : ScanAsyncRequest where
  url := "https://example.com/f"
  webhookUrl := some "https://example.com/hook"
  scanners := ["clamav"]

def callMessage (jobId : String) : ScanMessage where
  jobId := jobId
  url := "https://example.com/f"
  scanners := ["clamav"]
  webhookUrl := some "https://example.com/hook"
  apiClient := "drive"
  wireVersion := V2

theorem enter_callRequest (jobId : String) :
    callDeployment.enter (callMoment jobId).now callRequest =
      .ok ("drive", .scanAsync callAsked) := by
  have hdispatch : dispatch callRequest = some .scanAsync := by decide
  have hjson : callDeployment.web.json callRequest.body = .ok callPayload := by
    change (if callBody = callBody then Except.ok callPayload else
      .error (.http 422 "JSON decode error")) = .ok callPayload
    exact if_pos rfl
  have huser : callDeployment.username (callMoment jobId).now callRequest
      Endpoint.scanAsync.bindsBody = .ok "drive" := username_callRequest
  rw [Deployment.enter, hdispatch]
  dsimp only
  rw [hjson, ok_bind, huser]
  rfl

theorem accepted_callRequest (jobId : String) :
    callDeployment.accepted (callMoment jobId) callRequest "drive" callAsked =
      .ok (callMessage jobId) := rfl

/-- One caller means one call. -/
def callMeans (iss : String) (call : Call) : Prop :=
  iss = "drive" ∧ call = callDeployment.call callRequest

theorem unforged_callDeployment : callDeployment.Unforged callMeans where
  carried := (windowLibrary_checks publicPython callClaims).carried
  meant := by
    intro now iss key token claims hkey hverified hiss
    have hclaims := (windowLibrary_checks publicPython callClaims).carried _ _ _ _ _ _ hverified
    rw [windowLibrary, Except.ok.injEq] at hclaims
    subst hclaims
    refine ⟨callDeployment.call callRequest, ⟨(Json.str.inj hiss).symm, rfl⟩, ?_⟩
    have hcall : callDeployment.call callRequest =
        ⟨"POST", "/api/v2.0/scan-async?trace=1", some callBody⟩ := by
      have htarget := target_callRequest
      rw [Prod.ext_iff] at htarget
      exact congrArg₂ (fun method target => Call.mk method target (some callBody))
        htarget.1 htarget.2
    rw [hcall]
    refine ⟨rfl, rfl, ?_⟩
    rw [Option.map_some, Option.getD_some]
    exact congrArg Json.str bodyHash_callBody.symm

theorem effects_are_meant_call :
    ∃ job, (callDeployment.gateway
        [.request (callMoment "job") callRequest]).service.jobs.lookup "job" = some job ∧
      callDeployment.Asked callMeans [.request (callMoment "job") callRequest] job.msg := by
  have hfree : callDeployment.CollisionFree callMeans
      [.request (callMoment "job") callRequest] := by
    intro m request hmem iss call body hmeans hbody _
    obtain ⟨-, rfl⟩ := hmeans
    cases List.mem_singleton.1 hmem
    exact (Option.some.inj hbody).symm
  have hevent : callDeployment.event (.request (callMoment "job") callRequest) =
      some (.serve (.submit "drive" "job" "/api/v2.0/scan-async" oneScanner publicDns
        callAsked)) := by
    rw [Deployment.event, enter_callRequest]
    rfl
  have hjob : (callDeployment.gateway
      [.request (callMoment "job") callRequest]).service.jobs.lookup "job" =
        some { msg := callMessage "job" } := by
    rw [Deployment.gateway_eq_pipeline, Deployment.admittedHistory, List.filterMap_cons, hevent]
    rfl
  exact ⟨_, hjob, (effects_are_meant callDeployment callMeans unforged_callDeployment _ hfree).1
    _ _ hjob⟩

/-- A request under this token that is admitted, as this caller and for this. -/
def Deployment.Passes (d : Deployment) (history : List GatewayEvent) (token : String)
    (m : Moment) (request : Request) (user : String) (a : Admitted) : Prop :=
  .request m request ∈ history ∧ bearer request = .ok token ∧
    d.enter m.now request = .ok (user, a)

/-- The bodies of a history are told apart by their digests. -/
def Deployment.DistinctDigests (d : Deployment) (history : List GatewayEvent) : Prop :=
  ∀ m₁ m₂ r₁ r₂, .request m₁ r₁ ∈ history → .request m₂ r₂ ∈ history →
    d.py.sha256 r₁.body = d.py.sha256 r₂.body → r₁.body = r₂.body

section Tokens
variable {py : JwtPython} {lib : PyJwt} {cfg : JwtSettings} {r₁ r₂ : Request} {bind₁ bind₂ : Bool}
  {token : String} {user₁ user₂ : Json} {claims₁ claims₂ : Dict String Json}

/-- What one token is bound to is one request. -/
theorem Bound.same (h₁ : Bound py lib cfg r₁ bind₁ token user₁ claims₁)
    (h₂ : Bound py lib cfg r₂ bind₂ token user₂ claims₂) :
    user₁ = user₂ ∧ r₁.urlPath = r₂.urlPath ∧
      (bind₁ = true → bind₂ = true → py.sha256 r₁.body = py.sha256 r₂.body) := by
  have hclaims := h₁.carried
  rw [h₂.carried, Except.ok.injEq] at hclaims
  subst hclaims
  have hmethod := h₁.method
  rw [h₂.method, Json.str.injEq] at hmethod
  have htarget := h₁.target
  rw [h₂.target, Json.str.injEq] at htarget
  have huser := h₁.issuer
  rw [h₂.issuer, Option.some.injEq] at huser
  refine ⟨huser.symm, (requestTarget_inj (Prod.ext hmethod htarget)).2.1.symm, ?_⟩
  intro hbind₁ hbind₂
  have hbody := h₁.body hbind₁
  rw [h₂.body hbind₂, Json.str.injEq] at hbody
  exact (b64urlEncode_injective hbody).symm

end Tokens

/-- `request.url` gives back what each request of a history is dispatched on. -/
def AllDirect (history : List GatewayEvent) : Prop :=
  ∀ m request, .request m request ∈ history → request.Direct

/-- What a token admits is what it has admitted before, if that was a submission. -/
theorem Deployment.Passes.same {d : Deployment} (hlib : d.lib.ReturnsCarried)
    {history : List GatewayEvent} (hdirect : AllDirect history)
    (hdistinct : d.DistinctDigests history) {token : String} {m₁ m₂ : Moment} {r₁ r₂ : Request}
    {user₁ user₂ : String} {body : ScanAsyncRequest} {a : Admitted}
    (h₁ : d.Passes history token m₁ r₁ user₁ (.scanAsync body))
    (h₂ : d.Passes history token m₂ r₂ user₂ a) :
    user₂ = user₁ ∧ r₁.urlPath = r₂.urlPath ∧ a = .scanAsync body := by
  obtain ⟨hmem₁, hbearer₁, henter₁⟩ := h₁
  obtain ⟨hmem₂, hbearer₂, henter₂⟩ := h₂
  obtain ⟨e₁, hdispatch₁, huser₁, rfl, hbody₁⟩ := enter_ok henter₁
  obtain ⟨e₂, hdispatch₂, huser₂, ha⟩ := enter_ok henter₂
  obtain ⟨token₁, claims₁, htoken₁, hbound₁⟩ := authenticate_bound hlib (username_ok.1 huser₁)
  obtain ⟨token₂, claims₂, htoken₂, hbound₂⟩ := authenticate_bound hlib (username_ok.1 huser₂)
  cases hbearer₁.symm.trans htoken₁
  cases hbearer₂.symm.trans htoken₂
  obtain ⟨huser, hpath, hdigest⟩ := hbound₁.same hbound₂
  have hendpoint := dispatch_path hdispatch₁
  rw [← (hdirect m₁ r₁ hmem₁).1, hpath, (hdirect m₂ r₂ hmem₂).1, dispatch_path hdispatch₂,
    Option.some.injEq] at hendpoint
  subst hendpoint
  refine ⟨(Json.str.inj huser).symm, hpath, ?_⟩
  cases a with
  | scan file => cases ha
  | jobStatus jobId => cases ha
  | scanAsync body₂ =>
    have hsame := hdistinct m₁ m₂ r₁ r₂ hmem₁ hmem₂ (hdigest rfl rfl)
    rw [hsame, ha.2, Except.ok.injEq] at hbody₁
    rw [hbody₁]

section Names
variable {py : Python} {settings : Settings}

theorem names_available {registry : Registry} {values : List Json} {names : List String}
    (h : values.mapM (checkAvailable py registry) = .ok names) : values = names.map .str := by
  have hall := mapM_ok_forall₂ h
  clear h
  induction hall with
  | nil => rfl
  | @cons value name values names hname hall ih =>
    rw [List.map_cons, ih]
    cases value with
    | str s => rw [(checkAvailable_inv hname).1]
    | _ => cases hname

/-- The registry decides whether the names of a request can be used, not what they are. -/
theorem resolveScanners_names {registry₁ registry₂ : Registry}
    {categories scanners names₁ names₂ : List String}
    (h₁ : resolveScanners py settings registry₁ categories scanners = .ok names₁)
    (h₂ : resolveScanners py settings registry₂ categories scanners = .ok names₂) :
    names₁ = names₂ := by
  obtain ⟨catMap, hmap, h₁⟩ := bind_eq_ok.1 h₁
  obtain ⟨expanded, hexpanded, h₁⟩ := bind_eq_ok.1 h₁
  obtain ⟨catMap₂, hmap₂, h₂⟩ := bind_eq_ok.1 h₂
  cases hmap.symm.trans hmap₂
  obtain ⟨expanded₂, hexpanded₂, h₂⟩ := bind_eq_ok.1 h₂
  cases hexpanded.symm.trans hexpanded₂
  dsimp only at h₁ h₂
  split at h₁
  · cases h₁
  · rename_i hhashable
    rw [hhashable] at h₂
    dsimp only at h₂
    split at h₁
    · cases h₁
    · rename_i hne
      rw [if_neg hne] at h₂
      have hsame := (names_available h₁).symm.trans (names_available h₂)
      exact List.map_injective_iff.2 (fun _ _ h => Json.str.inj h) hsame

/-- Accepted again, whenever and wherever, a body makes the same job under another id. -/
theorem accept_again {registry₁ registry₂ : Registry} {dns₁ dns₂ : Dns}
    {path user id₁ id₂ : String} {body : ScanAsyncRequest} {msg₁ msg₂ : ScanMessage}
    (h₁ : accept py settings registry₁ dns₁ path user id₁ body = .ok msg₁)
    (h₂ : accept py settings registry₂ dns₂ path user id₂ body = .ok msg₂) :
    msg₂ = { msg₁ with jobId := id₂ } := by
  rw [accept] at h₁ h₂
  obtain ⟨names₁, hnames₁, h₁⟩ := bind_eq_ok.1 h₁
  obtain ⟨names₂, hnames₂, h₂⟩ := bind_eq_ok.1 h₂
  obtain ⟨⟨⟩, -, h₁⟩ := bind_eq_ok.1 h₁
  obtain ⟨⟨⟩, -, h₁⟩ := bind_eq_ok.1 h₁
  obtain ⟨⟨⟩, -, h₁⟩ := bind_eq_ok.1 h₁
  obtain ⟨⟨⟩, -, h₂⟩ := bind_eq_ok.1 h₂
  obtain ⟨⟨⟩, -, h₂⟩ := bind_eq_ok.1 h₂
  obtain ⟨⟨⟩, -, h₂⟩ := bind_eq_ok.1 h₂
  have hnames := resolveScanners_names (mapError_eq_ok.1 hnames₁) (mapError_eq_ok.1 hnames₂)
  cases h₁
  cases h₂
  rw [hnames]

end Names

/-- Whoever gets hold of a token can do no more with it than its caller has: every job of the
service was submitted under some token, and a token that has submitted a job admits nothing but
submissions of the same job, for the same caller and to the same receiver, under other ids. -/
theorem token_repeats_one_job (d : Deployment) (hlib : d.lib.ReturnsCarried)
    (history : List GatewayEvent) (hdirect : AllDirect history)
    (hdistinct : d.DistinctDigests history) :
    (∀ id job, (d.gateway history).service.jobs.lookup id = some job →
      ∃ token m request body, d.Passes history token m request job.msg.apiClient (.scanAsync body) ∧
        d.accepted m request job.msg.apiClient body = .ok job.msg) ∧
      ∀ token m₁ m₂ r₁ r₂ user₁ user₂ body a msg₁,
        d.Passes history token m₁ r₁ user₁ (.scanAsync body) →
        d.accepted m₁ r₁ user₁ body = .ok msg₁ → d.Passes history token m₂ r₂ user₂ a →
        user₂ = user₁ ∧ a = .scanAsync body ∧
          ∀ msg₂, d.accepted m₂ r₂ user₂ body = .ok msg₂ →
            msg₂ = { msg₁ with jobId := m₂.jobId } := by
  apply And.intro
  · intro id job hjob
    obtain ⟨m, request, body, hmem, henter, haccepted⟩ := Deployment.job_admitted hjob
    obtain ⟨endpoint, -, huser, -⟩ := Deployment.enter_ok henter
    obtain ⟨token, claims, htoken, -⟩ :=
      authenticate_bound hlib (Deployment.username_ok.1 huser)
    exact ⟨token, m, request, body, ⟨hmem, htoken, henter⟩, haccepted⟩
  · intro token m₁ m₂ r₁ r₂ user₁ user₂ body a msg₁ hpass₁ hmsg₁ hpass₂
    obtain ⟨huser, hpath, rfl⟩ := Deployment.Passes.same hlib hdirect hdistinct hpass₁ hpass₂
    refine ⟨huser, rfl, fun msg₂ hmsg₂ => ?_⟩
    rw [Deployment.accepted, huser, ← hpath] at hmsg₂
    exact accept_again hmsg₁ hmsg₂

/-- A call that is sent, and sent again. -/
def callTwice : List GatewayEvent :=
  [.request (callMoment "job") callRequest, .request (callMoment "copy") callRequest]

theorem token_repeats_one_job_copy :
    ∃ msg, callDeployment.accepted (callMoment "copy") callRequest "drive" callAsked = .ok msg ∧
      msg = { callMessage "job" with jobId := "copy" } := by
  have hrequest (m : Moment) (request : Request) (h : .request m request ∈ callTwice) :
      request = callRequest := by
    rcases List.mem_cons.1 h with h | h
    · cases h
      rfl
    · cases List.mem_singleton.1 h
      rfl
  have hdistinct : callDeployment.DistinctDigests callTwice := by
    intro m₁ m₂ r₁ r₂ h₁ h₂ _
    rw [hrequest m₁ r₁ h₁, hrequest m₂ r₂ h₂]
  have hdirect : AllDirect callTwice := by
    intro m request h
    rw [hrequest m request h]
    exact ⟨rfl, rfl⟩
  have hbearer : bearer callRequest = .ok "token" := by decide
  have hpasses (jobId : String)
      (hmem : .request (callMoment jobId) callRequest ∈ callTwice) :
      callDeployment.Passes callTwice "token" (callMoment jobId) callRequest "drive"
        (.scanAsync callAsked) := ⟨hmem, hbearer, enter_callRequest jobId⟩
  have hrepeats := (token_repeats_one_job callDeployment
    (windowLibrary_checks publicPython callClaims).carried callTwice hdirect hdistinct).2 "token" _ _ _ _
    _ _ _ _ _ (hpasses "job" List.mem_cons_self) (accepted_callRequest "job")
    (hpasses "copy" (List.mem_cons_of_mem _ List.mem_cons_self))
  exact ⟨_, accepted_callRequest "copy", hrepeats.2.2 _ (accepted_callRequest "copy")⟩

end FileScanner
