import FileScanner.GuardCauses
import FileScanner.StoredState
import FileScanner.WebhookDelivery

namespace FileScanner
open Collections Fallible Queues
set_option autoImplicit true

/-- The hop at which the download of an attempt stops. -/
def downloadEnd (py : Python) (settings : Settings) (env : Env) (msg : ScanMessage) :
    Option (Nat × String) :=
  lastHop py settings env.net (MAX_REDIRECTS + 1) 0 msg.url

/-- The policy lets the attempt come to the download. -/
def DownloadStarts (py : Python) (settings : Settings) (env : Env) (msg : ScanMessage) : Prop :=
  env.at .policy (assertScannable py settings env.dns msg.url msg.webhookUrl) = .ok () ∧
    env.fault .connect = none

/-- A lookup that an attempt makes fails. -/
def AttemptUnresolved (py : Python) (settings : Settings) (env : Env) (msg : ScanMessage) : Prop :=
  (env.fault .policy = none ∧ PolicyUnresolved py settings env.dns msg.url msg.webhookUrl) ∨
    DownloadStarts py settings env msg ∧ ∃ hop url,
      downloadEnd py settings env msg = some (hop, url) ∧ UrlUnresolved py (env.net.dns hop) url

/-- The source redirects an attempt past the limit. -/
def AttemptUnending (py : Python) (settings : Settings) (env : Env) (msg : ScanMessage) : Prop :=
  DownloadStarts py settings env msg ∧ downloadEnd py settings env msg = none

/-- An attempt is refused for a host, a scheme or an address that is not allowed. -/
def AttemptForbidden (py : Python) (settings : Settings) (env : Env) (msg : ScanMessage) : Prop :=
  (env.fault .policy = none ∧ PolicyForbidden py settings env.dns msg.url msg.webhookUrl) ∨
    DownloadStarts py settings env msg ∧ ∃ hop url,
      downloadEnd py settings env msg = some (hop, url) ∧ HopForbidden py settings env.net hop url

theorem tryBlock_outcome (py : Python) (settings : Settings) (env : Env) (msg : ScanMessage) :
    (tryBlock py settings env msg).outcome = (do
      let response ← fetch py settings env msg
      let write ← openScratch py settings env msg
      let file ← writeScratch env write response
      env.at .scan (runScanners settings (env.scanEnv file) msg.scanners)) := by
  rw [tryBlock, download]
  cases fetch py settings env msg with
  | error e => rfl
  | ok response =>
    rw [ok_bind]
    cases openScratch py settings env msg with
    | error e => rfl
    | ok write =>
      rw [ok_bind]
      dsimp only
      cases writeScratch env write response with
      | error e => rfl
      | ok file =>
        rw [ok_bind, Env.at]
        dsimp only
        cases env.fault .scan <;> rfl

section Attempt
variable {py : Python} (settings : Settings) {env : Env} (msg : ScanMessage) (hpy : py.Foreign)
  (henv : env.Foreign)
include henv

theorem at_causes (step : Step) {x : Except Exc α} {U F : Prop} (h : Causes IsRefusal x U F) :
    Causes IsRefusal (env.at step x) (env.fault step = none ∧ U) (env.fault step = none ∧ F) := by
  rw [Env.at]
  cases hfault : env.fault step with
  | none =>
    apply h.congr
    · simp
    · simp
  | some e =>
    apply (Causes.never (.error (henv.fault step e hfault))).congr
    · simp
    · simp

theorem writeScratch_unrefused {response : Response}
    (hfetch : fetch py settings env msg = .ok response) {write : Body → Except Exc (Nat × Bytes)}
    (hwrite : openScratch py settings env msg = .ok write) :
    Unrefused (writeScratch env write response) := by
  obtain ⟨write', hwriter, hopen⟩ := bind_eq_ok.1 hwrite
  cases (at_eq_ok.1 hopen).2
  obtain ⟨⟨⟩, -, hfetch⟩ := bind_eq_ok.1 hfetch
  obtain ⟨served, hserved, hfetch⟩ := bind_eq_ok.1 hfetch
  obtain ⟨⟨⟩, -, hfetch⟩ := bind_eq_ok.1 hfetch
  obtain ⟨⟨⟩, -, hfetch⟩ := bind_eq_ok.1 hfetch
  cases hfetch
  obtain ⟨init, last, -, hanswer⟩ := hops_final (at_eq_ok.1 hserved).2
  apply RaisesOnly.bind
  · apply at_unrefused henv
    exact write_unrefused py settings _ hwriter (henv.net.body _ last.url response · hanswer)
  · intro _ _
    exact (at_unrefused henv (.ok ())).bind (fun _ _ => .ok _)

include hpy

theorem fetch_causes :
    Causes IsRefusal (fetch py settings env msg)
      (AttemptUnending py settings env msg ∨ AttemptUnresolved py settings env msg)
      (AttemptForbidden py settings env msg) := by
  have hpolicy := at_causes henv .policy
    (assertScannable_causes py settings henv.dns msg.url msg.webhookUrl)
  have hdownload := at_causes henv .connect
    (hops_causes settings hpy henv.net (MAX_REDIRECTS + 1) 0 msg.url)
  apply (hpolicy.bind (fun _ _ => hdownload.bind_never _)).congr
  · simp only [AttemptUnending, AttemptUnresolved, DownloadStarts, downloadEnd]
    constructor
    · intro h
      rcases h with ⟨⟨hp, hc⟩, hend⟩ | ⟨hp, hunresolved⟩ | ⟨⟨hp, hc⟩, hunresolved⟩
      · exact .inr ⟨(), hp, hc, .inl hend⟩
      · exact .inl ⟨hp, hunresolved⟩
      · exact .inr ⟨(), hp, hc, .inr hunresolved⟩
    · intro h
      rcases h with ⟨hp, hunresolved⟩ | ⟨⟨⟩, hp, hc, hend | hunresolved⟩
      · exact .inr (.inl ⟨hp, hunresolved⟩)
      · exact .inl ⟨⟨hp, hc⟩, hend⟩
      · exact .inr (.inr ⟨⟨hp, hc⟩, hunresolved⟩)
  · simp only [AttemptForbidden, DownloadStarts, downloadEnd]
    constructor
    · intro h
      rcases h with hforbidden | ⟨⟨hp, hc⟩, hforbidden⟩
      · exact .inl hforbidden
      · exact .inr ⟨(), hp, hc, hforbidden⟩
    · intro h
      rcases h with hforbidden | ⟨⟨⟩, hp, hc, hforbidden⟩
      · exact .inl hforbidden
      · exact .inr ⟨⟨hp, hc⟩, hforbidden⟩
  · intro _ _ response _
    apply (at_unrefused henv (raiseForStatus_unrefused response)).bind
    intro _ _
    have hguard : Unrefused (sizeGuard py settings msg.encryptionParams response) := by
      apply (wireCap_unrefused py settings msg.encryptionParams).bind
      intro cap _ e he
      exact fileFailures_unrefused.of_isFileError (checkDeclared_raises _ e he)
    exact (at_unrefused henv hguard).bind (fun _ _ => .ok _)

/-- Why an attempt ends in the branch that reports `file` for its URL. -/
theorem tryBlock_causes :
    Causes IsRefusal (tryBlock py settings env msg).outcome
      (AttemptUnending py settings env msg ∨ AttemptUnresolved py settings env msg)
      (AttemptForbidden py settings env msg) := by
  rw [tryBlock_outcome]
  apply (fetch_causes settings msg hpy henv).bind_never
  intro response hfetch
  apply RaisesOnly.bind
  · apply (bodyWriter_unrefused py settings msg.encryptionParams env.gcm).bind
    intro _ _
    exact at_unrefused henv (.ok _)
  · intro write hwrite
    apply RaisesOnly.bind
    · exact writeScratch_unrefused settings msg henv hfetch hwrite
    · intro file _
      exact at_unrefused henv (runScanners_unrefused henv file msg.scanners)

end Attempt

section Delivery
variable {py : Python} {settings : Settings} {env : DeliveryEnv} {webhookUrl : String}

theorem requestWithRedirects_unfollowed (net : Network) (url : String) :
    (requestWithRedirects py settings net false url).1 = (do
      let _ ← validateAndUnpack py settings (net.dns 0) url
      net.serve 0 url) := by
  rw [requestWithRedirects, hops]
  cases validateAndUnpack py settings (net.dns 0) url with
  | error e => rfl
  | ok dial =>
    rw [ok_bind]
    cases net.serve 0 url <;> rfl

theorem delivery_causes (hnet : env.net.Foreign) :
    Causes IsRefusal
      ((requestWithRedirects py settings env.net false webhookUrl).1 >>= requireAccepted py)
      (UrlUnresolved py (env.net.dns 0) webhookUrl)
      (UrlForbidden py settings (env.net.dns 0) webhookUrl) := by
  rw [requestWithRedirects_unfollowed]
  apply Causes.bind_never
  · exact (validateAndUnpack_causes py settings (hnet.dns 0) webhookUrl).bind_never
      (fun _ _ => hnet.serve 0 webhookUrl)
  · intro response _
    exact requireAccepted_unrefused py response

theorem retire_dropped_iff {x : Except Exc Unit} :
    retire x = .ok .dropped ↔ ∃ e, IsRefusal e ∧ x = .error e := by
  cases x with
  | ok u => simp [retire]
  | error e => cases e <;> simp [retire, IsRefusal]

end Delivery

/-- The lookup a delivery makes fails. -/
def DeliveryUnresolved (py : Python) (env : DeliveryEnv) (webhookUrl : String)
    (payload : Dict String Json) : Prop :=
  (∃ token, env.sign webhookUrl (webhookBody py payload) = .ok token) ∧
    UrlUnresolved py (env.net.dns 0) webhookUrl

/-- The attempt has reported `file` in the branch for the policy. -/
def PolicyReported (py : Python) (settings : Settings) (envs : Nat → Env) (msg : ScanMessage)
    (inv : Invocation World Exc Unit) : Prop :=
  ∃ m, (tryBlock py settings (envs inv.retries) msg).outcome = .error (.ssrfValidationError m) ∧
    inv.after.finals = inv.before.finals ++ [errorResult msg "file" ("ssrf_blocked: " ++ m)]

/-- A failed lookup of an attempt does not end its job as `file`, and what ends it so for the
policy is a host, a scheme or an address that is not allowed. -/
structure ScanStaysTransient (py : Python) (settings : Settings) (envs : Nat → Env)
    (msg : ScanMessage) (inv : Invocation World Exc Unit) : Prop where
  notFile : AttemptUnresolved py settings (envs inv.retries) msg →
    ∀ result, inv.after.finals = inv.before.finals ++ [result] →
      result.lookup "error_kind" ≠ some (.str "file")
  onlyForbidden : PolicyReported py settings envs msg inv →
    AttemptForbidden py settings (envs inv.retries) msg

/-- A failed lookup of the webhook host makes its delivery raise, and what drops a callback is a
scheme or a host that is not allowed. -/
structure DeliveryStaysTransient (py : Python) (settings : Settings) (envs : Nat → DeliveryEnv)
    (webhookUrl : String) (payload : Dict String Json)
    (inv : Invocation (List Post) Exc Delivery) : Prop where
  raises : DeliveryUnresolved py (envs inv.retries) webhookUrl payload → inv.Raised
  onlyForbidden : inv.outcome = .ok .dropped →
    UrlForbidden py settings ((envs inv.retries).net.dns 0) webhookUrl

section Invocation
variable {py : Python} {settings : Settings}

theorem policyReported_iff {envs : Nat → Env} {msg : ScanMessage} (retries : Nat) (w : World) :
    PolicyReported py settings envs msg (invoke (scanActor py settings envs msg) retries w) ↔
      ∃ e, IsRefusal e ∧ (tryBlock py settings (envs retries) msg).outcome = .error e := by
  constructor
  · intro h
    obtain ⟨m, hout, -⟩ := h
    exact ⟨.ssrfValidationError m, trivial, hout⟩
  · intro h
    obtain ⟨e, he, hout⟩ := h
    cases e with
    | ssrfValidationError m =>
      apply Exists.intro m
      apply And.intro hout
      simp only [invoke, scanActor, scanTask_finals, handedBy, handed, hout, reportedAs,
        Option.toList_some]
    | _ => cases he

theorem scanStaysTransient_iff {envs : Nat → Env} {msg : ScanMessage} (hpy : py.Foreign)
    (henvs : ∀ i, (envs i).Foreign) (retries : Nat) (w : World) :
    ScanStaysTransient py settings envs msg (invoke (scanActor py settings envs msg) retries w) ↔
      ¬ AttemptUnending py settings (envs retries) msg ∧
        ¬ AttemptUnresolved py settings (envs retries) msg := by
  have honly := (tryBlock_causes settings msg hpy (henvs retries)).only_iff
  rw [← policyReported_iff retries w, not_or] at honly
  constructor
  · intro h
    exact honly.1 h.onlyForbidden
  · intro h
    exact ⟨fun hunresolved => absurd hunresolved h.2, honly.2 h⟩

/-- A delivery drops its callback for what the guard refuses, where the signing let it come to
the guard. -/
theorem dropped_iff {envs : Nat → DeliveryEnv} {webhookUrl : String} {payload : Dict String Json}
    (retries : Nat) (posts : List Post) :
    (invoke (webhookActor py settings envs webhookUrl payload) retries posts).outcome =
        .ok .dropped ↔
      (∃ token, (envs retries).sign webhookUrl (webhookBody py payload) = .ok token) ∧
        ∃ e, IsRefusal e ∧ ((requestWithRedirects py settings (envs retries).net false
          webhookUrl).1 >>= requireAccepted py) = .error e := by
  rw [← retire_dropped_iff]
  simp only [invoke, webhookActor, deliverWebhook]
  cases (envs retries).sign webhookUrl (webhookBody py payload) with
  | error e => simp
  | ok token => simp

theorem deliveryStaysTransient_iff {envs : Nat → DeliveryEnv} {webhookUrl : String}
    {payload : Dict String Json} (henvs : ∀ i, (envs i).net.Foreign) (retries : Nat)
    (posts : List Post) :
    DeliveryStaysTransient py settings envs webhookUrl payload
        (invoke (webhookActor py settings envs webhookUrl payload) retries posts) ↔
      ¬ DeliveryUnresolved py (envs retries) webhookUrl payload := by
  have hcauses : Causes IsRefusal ((requestWithRedirects py settings (envs retries).net false
      webhookUrl).1 >>= requireAccepted py) _ _ := delivery_causes (henvs retries)
  constructor
  · intro h hunresolved
    obtain ⟨hsigned, hlookup⟩ := hunresolved
    obtain ⟨e, he⟩ := h.raises ⟨hsigned, hlookup⟩
    have hdropped := (dropped_iff retries posts).2 ⟨hsigned, hcauses.fails.2 (.inl hlookup)⟩
    rw [he] at hdropped
    cases hdropped
  · intro h
    constructor
    · intro hunresolved
      exact absurd hunresolved h
    · intro hdropped
      obtain ⟨hsigned, hrefused⟩ := (dropped_iff retries posts).1 hdropped
      exact (hcauses.fails.1 hrefused).resolve_left (fun hlookup => h ⟨hsigned, hlookup⟩)

end Invocation

/-- No failed lookup is taken for permanent in the runs of a job, its scan and its callback,
exactly when none fails in them, and the source redirects no attempt past the limit. -/
theorem lookups_stay_transient_iff (py : Python) (settings : Settings) (envs : Nat → Env)
    (deliveries : Nat → DeliveryEnv) (msg : ScanMessage) (webhookUrl : String)
    (payload : Dict String Json) (w : World) (posts : List Post) (hpy : py.Foreign)
    (henvs : ∀ i, (envs i).Foreign) (hdeliveries : ∀ i, (deliveries i).net.Foreign) :
    let scans := run (scanActor py settings envs msg) MAX_RETRIES w
    let callbacks := run (webhookActor py settings deliveries webhookUrl payload)
      settings.webhookMaxAttempts posts
    ((∀ inv ∈ scans, ScanStaysTransient py settings envs msg inv) ∧
        ∀ inv ∈ callbacks, DeliveryStaysTransient py settings deliveries webhookUrl payload inv) ↔
      (∀ inv ∈ scans, ¬ AttemptUnending py settings (envs inv.retries) msg ∧
          ¬ AttemptUnresolved py settings (envs inv.retries) msg) ∧
        ∀ inv ∈ callbacks, ¬ DeliveryUnresolved py (deliveries inv.retries) webhookUrl payload := by
  intro scans callbacks
  apply and_congr
  · apply forall₂_congr
    intro inv hinv
    rw [run_genuine hinv]
    exact scanStaysTransient_iff hpy henvs inv.retries inv.before
  · apply forall₂_congr
    intro inv hinv
    rw [run_genuine hinv]
    exact deliveryStaysTransient_iff hdeliveries inv.retries inv.before

theorem not_hostUnresolved_public (py : Python) (hostname : String) :
    ¬ HostUnresolved py publicDns hostname := by
  intro h
  rcases h.lookup with hfails | hnone
  · cases hfails
  · cases hnone

theorem publicDns_foreign : publicDns.Foreign := fun _ _ => nofun

theorem answering_foreign {response : Response} (h : response.body.ending = none) :
    (answering response).Foreign := by
  refine ⟨publicDns_foreign, ⟨fun _ => publicDns_foreign, fun _ _ => .ok response, ?_⟩,
    fun _ _ => nofun, ?_⟩
  · intro hop url served e hserved hending
    cases hserved
    rw [h] at hending
    cases hending
  · intro name e hbuilt
    rw [answering] at hbuilt
    dsimp only at hbuilt
    by_cases hname : name = "clamav"
    · rw [hname, lookup_cons_eq] at hbuilt
      cases hbuilt
    · rw [lookup_cons_ne (Ne.symm hname)] at hbuilt
      cases hbuilt

theorem receiver_foreign (codes : List Nat) (i : Nat) : (receiver codes i).net.Foreign := by
  refine ⟨fun _ => publicDns_foreign, fun _ _ => .ok _, ?_⟩
  intro hop url served e hserved hending
  cases hserved
  cases hending

theorem lookups_stay_transient_public :
    (∀ inv ∈ run (scanActor publicPython {} (fun _ => answering page) hookedJob) MAX_RETRIES {},
        ScanStaysTransient publicPython {} (fun _ => answering page) hookedJob inv) ∧
      ∀ inv ∈ callbackRun [503, 204], DeliveryStaysTransient publicPython {} (receiver [503, 204])
        "https://example.com/hook" jobPayload inv := by
  apply (lookups_stay_transient_iff publicPython {} (fun _ => answering page) (receiver [503, 204])
    hookedJob "https://example.com/hook" jobPayload {} [] (fun _ url => .ok url)
    (fun _ => answering_foreign rfl) (receiver_foreign [503, 204])).2
  refine ⟨fun _ _ => ⟨?_, ?_⟩, fun _ _ => ?_⟩
  · intro h
    cases h.2
  · intro h
    rcases h with ⟨-, hostname, -, -, -, h | ⟨-, webhook, -, -, hostname, -, h⟩⟩ |
      ⟨-, hop, url, -, -, hostname, -, h⟩
    · exact not_hostUnresolved_public _ _ h
    · exact not_hostUnresolved_public _ _ h
    · exact not_hostUnresolved_public _ _ h
  · intro h
    obtain ⟨-, -, hostname, -, h⟩ := h
    exact not_hostUnresolved_public _ _ h

/-- The resolver is down for the first attempt, and back for the next. -/
def restored (i : Nat) : Env := if i = 0 then unresolvable else answering page

def restoredReceiver (i : Nat) : DeliveryEnv :=
  { receiver [204] i with
    net := { (receiver [204] i).net with
      dns := fun _ => if i = 0 then unresolvable.dns else publicDns } }

/-- One failed lookup ends the job as `file`, and one drops its callback. -/
theorem passing_lookup_failure_is_final :
    (∃ inv ∈ run (scanActor publicPython {} restored polledJob) MAX_RETRIES {},
        ¬ ScanStaysTransient publicPython {} restored polledJob inv) ∧
      ∃ inv ∈ run (webhookActor publicPython {} restoredReceiver "https://example.com/hook"
          jobPayload) 3 [],
        inv.outcome = .ok .dropped ∧ ¬ DeliveryStaysTransient publicPython {} restoredReceiver
          "https://example.com/hook" jobPayload inv := by
  have hnames : NamesHost publicPython "https://example.com/f" "example.com" :=
    ⟨⟨"https", "example.com".toList⟩, by decide, by decide, by decide⟩
  have hhook : NamesHost publicPython "https://example.com/hook" "example.com" :=
    ⟨⟨"https", "example.com".toList⟩, by decide, by decide, by decide⟩
  constructor
  · refine ⟨_, .head _, fun h => ?_⟩
    apply h.notFile _ _ rfl
    · rfl
    · exact .inl ⟨rfl, "example.com", hnames, rfl, rfl, .inl ⟨by decide, rfl, .inl rfl⟩⟩
  · refine ⟨_, .head _, rfl, fun h => ?_⟩
    have hunresolved : DeliveryUnresolved publicPython (restoredReceiver 0)
        "https://example.com/hook" jobPayload :=
      ⟨⟨none, rfl⟩, ⟨⟨"https", "example.com".toList⟩, by decide, .inr rfl⟩, "example.com", hhook,
        by decide, rfl, .inl rfl⟩
    obtain ⟨e, he⟩ := h.raises hunresolved
    cases he

end FileScanner
