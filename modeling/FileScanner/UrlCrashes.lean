import FileScanner.App.Jobs
import FileScanner.Attempt
import FileScanner.GuardCauses

namespace FileScanner
open Collections Fallible
set_option autoImplicit true

/-- The lookup of a name raises something else than the `gaierror` its caller expects. -/
def HostCrashes (py : Python) (dns : Dns) (hostname : String) : Prop :=
  py.ipAddress hostname = none ∧ ∃ e, dns hostname = .error (.other e)

/-- A URL that cannot be parsed, or whose host crashes its lookup. -/
def UrlCrashes (py : Python) (dns : Dns) (url : String) : Prop :=
  (∃ e, urlparse py url = .error e) ∨
    ∃ hostname, NamesHost py url hostname ∧ HostCrashes py dns hostname

/-- Checking the two URLs comes to such a one: the source, whose host is looked up where it is
allowed and the guard is on, or the webhook, where the source has passed. -/
def PolicyCrashes (py : Python) (settings : Settings) (dns : Dns) (url : String)
    (webhookUrl : Option String) : Prop :=
  (∃ e, urlparse py url = .error e) ∨ ∃ hostname, NamesHost py url hostname ∧
    hostAllowed py settings hostname = true ∧ settings.testing = false ∧
      (HostCrashes py dns hostname ∨ (∃ ips, validateHostname py settings dns hostname = .ok ips) ∧
        ∃ webhook, webhookUrl = some webhook ∧ webhook ≠ "" ∧ UrlCrashes py dns webhook)

/-- An exception of another class than the guard's. -/
def IsUnexpected (e : Exc) : Prop := ¬ IsRefusal e

theorem never_crashes {x : Except Exc α} (h : RaisesOnly IsRefusal x) :
    Causes IsUnexpected x False False := by
  apply Causes.never
  intro e he hcrash
  exact hcrash (h e he)

theorem refused_crashes {P : Prop} (m : String) (hP : ¬ P) :
    Causes IsUnexpected (.error (.ssrfValidationError m) : Except Exc α) P False := by
  have hrefusal : IsRefusal (.ssrfValidationError m) := trivial
  exact (never_crashes (.error hrefusal)).congr (iff_false_intro hP) Iff.rfl

theorem urlparse_crashes (py : Python) (url : String) :
    Causes IsUnexpected (urlparse py url) (∃ e, urlparse py url = .error e) False := by
  constructor
  · rw [or_false]
    constructor
    · intro h
      obtain ⟨e, -, he⟩ := h
      exact ⟨e, he⟩
    · intro h
      obtain ⟨e, he⟩ := h
      exact ⟨e, urlparse_unrefused py url e he, he⟩
  · exact fun _ => id

theorem requireHostname_refuses (py : Python) (m : String) (parsed : SplitResult) :
    RaisesOnly IsRefusal (parsed.requireHostname py (.ssrfValidationError m)) := by
  rw [SplitResult.requireHostname]
  cases parsed.hostname py with
  | none => exact .error trivial
  | some hostname =>
    dsimp only
    split
    · exact .error trivial
    · exact .ok _

theorem checkedIps_refuses (py : Python) (settings : Settings) (hostname : String)
    (addrInfo : List String) : RaisesOnly IsRefusal (do
      let validIps ← addrInfo.mapM (validIp py (isAllowlistedHost py settings hostname) hostname)
      raiseIf (validIps = []) (.ssrfValidationError "No valid IP addresses found")
      pure validIps) := by
  apply RaisesOnly.bind
  · exact RaisesOnly.mapM (fun ipStr e => validIp_refuses py _ hostname ipStr e) addrInfo
  · intro validIps _
    exact (RaisesOnly.raiseIf trivial).bind (fun _ _ => .ok _)

theorem exists_namesHost {py : Python} {url : String} {P : String → Prop} :
    (∃ hostname, NamesHost py url hostname ∧ P hostname) ↔
      ∃ parsed, urlparse py url = .ok parsed ∧
        ∃ hostname, (parsed.hostname py = some hostname ∧ hostname ≠ "") ∧ P hostname := by
  constructor
  · intro h
    obtain ⟨hostname, ⟨parsed, hp, hh⟩, hP⟩ := h
    exact ⟨parsed, hp, hostname, hh, hP⟩
  · intro h
    obtain ⟨parsed, hp, hostname, hh, hP⟩ := h
    exact ⟨hostname, ⟨parsed, hp, hh⟩, hP⟩

section Guard
variable (py : Python) (settings : Settings) {dns : Dns} (hdns : dns.Foreign)
include hdns

theorem validateHostname_crashes {hostname : String} (hgiven : hostname ≠ "") :
    Causes IsUnexpected (validateHostname py settings dns hostname)
      (HostCrashes py dns hostname) False := by
  rw [validateHostname, if_neg hgiven]
  by_cases hname : py.ipAddress hostname = none
  · rw [if_neg (by rw [hname]; exact Bool.false_ne_true)]
    cases hlookup : dns hostname with
    | error err =>
      cases err with
      | gaierror => exact refused_crashes _ (fun h => by simpa [hlookup] using h.2)
      | other e =>
        have hcrash : IsUnexpected e := hdns hostname e hlookup
        exact (Causes.first hcrash).congr (iff_true_intro ⟨hname, e, hlookup⟩) Iff.rfl
    | ok addrInfo =>
      apply (never_crashes (checkedIps_refuses py settings hostname addrInfo)).congr _ Iff.rfl
      exact iff_false_intro (fun h => by simpa [hlookup] using h.2)
  · rw [if_pos (Option.isSome_iff_ne_none.2 hname)]
    exact refused_crashes _ (fun h => hname h.1)

theorem assertWebhookScannable_crashes (webhookUrl : Option String) :
    Causes IsUnexpected (assertWebhookScannable py settings dns webhookUrl)
      (∃ webhook, webhookUrl = some webhook ∧ webhook ≠ "" ∧ UrlCrashes py dns webhook) False := by
  cases webhookUrl with
  | none => exact (Causes.ok ()).congr (by simp) Iff.rfl
  | some webhook =>
    rw [assertWebhookScannable]
    by_cases hempty : webhook = ""
    · rw [if_pos hempty]
      exact (Causes.ok ()).congr (by simp [hempty]) Iff.rfl
    · rw [if_neg hempty]
      have hnamed (parsed : SplitResult) := (never_crashes (requireHostname_refuses py
        "invalid webhook_url (missing hostname)" parsed)).bind (fun hostname hh =>
          (validateHostname_crashes py settings hdns
            (SplitResult.requireHostname_eq_ok.1 hh).2).bind (fun _ _ => Causes.ok ()))
      apply ((urlparse_crashes py webhook).bind (fun parsed _ => hnamed parsed)).congr
      · simp [hempty, UrlCrashes, exists_namesHost, SplitResult.requireHostname_eq_ok]
      · simp

theorem assertHostsSafe_crashes {hostname : String} (hgiven : hostname ≠ "")
    (webhookUrl : Option String) :
    Causes IsUnexpected (assertHostsSafe py settings dns hostname webhookUrl)
      (settings.testing = false ∧ (HostCrashes py dns hostname ∨
        (∃ ips, validateHostname py settings dns hostname = .ok ips) ∧
          ∃ webhook, webhookUrl = some webhook ∧ webhook ≠ "" ∧ UrlCrashes py dns webhook))
      False := by
  rw [assertHostsSafe]
  cases settings.testing with
  | true => exact (Causes.ok ()).congr (by simp) Iff.rfl
  | false =>
    apply ((validateHostname_crashes py settings hdns hgiven).bind
      (fun _ _ => assertWebhookScannable_crashes py settings hdns webhookUrl)).congr
    · simp only [true_and, exists_and_right]
    · simp

theorem assertScannable_crashes (url : String) (webhookUrl : Option String) :
    Causes IsUnexpected (assertScannable py settings dns url webhookUrl)
      (PolicyCrashes py settings dns url webhookUrl) False := by
  have hallowed (hostname : String) : RaisesOnly IsRefusal
      (raiseIf (hostAllowed py settings hostname = false)
        (.ssrfValidationError ("host " ++ hostname ++ " not allowed"))) :=
    RaisesOnly.raiseIf trivial
  have hnamed (parsed : SplitResult) := (never_crashes (requireHostname_refuses py
    "invalid url (missing hostname)" parsed)).bind (fun hostname hh =>
      (never_crashes (hallowed hostname)).bind (fun _ _ => assertHostsSafe_crashes py settings
        hdns (SplitResult.requireHostname_eq_ok.1 hh).2 webhookUrl))
  apply ((urlparse_crashes py url).bind (fun parsed _ => hnamed parsed)).congr
  · simp [PolicyCrashes, exists_namesHost, SplitResult.requireHostname_eq_ok, raiseIf_eq_ok]
  · simp

theorem assertScannable_refuses_iff (url : String) (webhookUrl : Option String) :
    RaisesOnly IsRefusal (assertScannable py settings dns url webhookUrl) ↔
      ¬ PolicyCrashes py settings dns url webhookUrl := by
  have hfails := (assertScannable_crashes py settings hdns url webhookUrl).fails
  rw [or_false] at hfails
  rw [← hfails]
  constructor
  · intro h hcrash
    obtain ⟨e, hunexpected, he⟩ := hcrash
    exact hunexpected (h e he)
  · intro h e he
    by_contra hunexpected
    exact h ⟨e, hunexpected, he⟩

end Guard

/-- A URL the guard does not pass is refused: the endpoint answers 400, and an attempt of the
worker reports a file error at once. -/
structure Rejects (py : Python) (settings : Settings) (dns : Dns) (url : String)
    (webhookUrl : Option String) : Prop where
  guard : RaisesOnly IsRefusal (assertScannable py settings dns url webhookUrl)
  endpoint : ∀ registry path username jobId body names e, body.url = url →
    body.webhookUrl = webhookUrl →
    resolve py settings registry body.categories body.scanners = .ok names →
    assertSizeCapDecidable settings names settings.maxUrlSize "MAX_URL_SIZE" = .ok () →
    assertScannable py settings dns url webhookUrl = .error e →
    ∃ m, accept py settings registry dns path username jobId body = .error (.http 400 m)
  worker : ∀ env msg retries w e, env.dns = dns → env.fault .policy = none → msg.url = url →
    msg.webhookUrl = webhookUrl → assertScannable py settings dns url webhookUrl = .error e →
    ∃ m, (scanTask py settings env msg retries w).2.finals =
      w.finals ++ [errorResult msg "file" ("ssrf_blocked: " ++ m)]

theorem accept_badUrl {py : Python} {settings : Settings} {registry : Registry} {dns : Dns}
    {body : ScanAsyncRequest} {names : List String} {e : Exc}
    (hnames : resolve py settings registry body.categories body.scanners = .ok names)
    (hsize : assertSizeCapDecidable settings names settings.maxUrlSize "MAX_URL_SIZE" = .ok ())
    (hguard : assertScannable py settings dns body.url body.webhookUrl = .error e)
    (path username jobId : String) :
    accept py settings registry dns path username jobId body = .error (badUrl e) := by
  rw [accept, hnames, ok_bind, hsize, hguard]
  rfl

theorem scanTask_refused {py : Python} {settings : Settings} {env : Env} {msg : ScanMessage}
    {m : String} (hfault : env.fault .policy = none)
    (hguard : assertScannable py settings env.dns msg.url msg.webhookUrl =
      .error (.ssrfValidationError m)) (retries : Option Nat) (w : World) :
    (scanTask py settings env msg retries w).2.finals =
      w.finals ++ [errorResult msg "file" ("ssrf_blocked: " ++ m)] := by
  have hfetch : fetch py settings env msg = .error (.ssrfValidationError m) := by
    rw [fetch, Env.at, hfault]
    dsimp only
    rw [hguard]
    rfl
  have hout : (tryBlock py settings env msg).outcome = .error (.ssrfValidationError m) := by
    rw [tryBlock, download, hfetch]
  rw [scanTask_finals, handedBy, handed, hout]
  rfl

/-- A URL is a rejection or passes exactly when checking it comes to none that cannot be parsed
and to no lookup that crashes. -/
theorem bad_url_rejected_iff (py : Python) (settings : Settings) (dns : Dns) (hdns : dns.Foreign)
    (url : String) (webhookUrl : Option String) :
    Rejects py settings dns url webhookUrl ↔
      ¬ PolicyCrashes py settings dns url webhookUrl := by
  rw [← assertScannable_refuses_iff py settings hdns]
  constructor
  · exact Rejects.guard
  · intro h
    constructor
    · exact h
    · intro registry path username jobId body names e hurl hwebhook hnames hsize hguard
      subst hurl hwebhook
      have hrefusal := h e hguard
      cases e with
      | ssrfValidationError m =>
        exact ⟨m, accept_badUrl hnames hsize hguard path username jobId⟩
      | _ => cases hrefusal
    · intro env msg retries w e hdns hfault hurl hwebhook hguard
      subst hurl hwebhook hdns
      have hrefusal := h e hguard
      cases e with
      | ssrfValidationError m => exact ⟨m, scanTask_refused hfault hguard retries w⟩
      | _ => cases hrefusal

/-- The resolver, which does not take an empty label for a name. -/
def labelDns : Dns := fun hostname =>
  if hostname = "a..b" then .error (.other (.valueError "label empty or too long"))
  else publicDns hostname

def oneScanner : Registry := [("clamav", .ok { scan := fun _ => .ok clean })]

/-- A deployment without a map of categories. -/
def unmapped : Settings := { defaultScanners := "" }

def unreadableWebhook : ScanAsyncRequest where
  url := "https://example.com/f"
  webhookUrl := some "https://["
  scanners := ["clamav"]

/-- A bracket left open and an empty label in a webhook are no rejections, and the endpoint
answers 500. -/
theorem unreadable_webhook_crashes :
    accept publicPython unmapped oneScanner publicDns "/api/v2.0/scan-async" "drive" "job"
        unreadableWebhook = .error (.unhandled (.valueError "Invalid IPv6 URL")) ∧
      assertScannable publicPython unmapped labelDns "https://example.com/f"
        (some "https://a..b/hook") = .error (.valueError "label empty or too long") ∧
      ¬ Rejects publicPython unmapped publicDns "https://example.com/f" (some "https://[") ∧
      ¬ Rejects publicPython unmapped labelDns "https://example.com/f"
        (some "https://a..b/hook") := by
  have hopen : assertScannable publicPython unmapped publicDns unreadableWebhook.url
      unreadableWebhook.webhookUrl = .error (.valueError "Invalid IPv6 URL") := by decide
  have hlabel : assertScannable publicPython unmapped labelDns "https://example.com/f"
      (some "https://a..b/hook") = .error (.valueError "label empty or too long") := by decide
  have hnames : resolve publicPython unmapped oneScanner unreadableWebhook.categories
      unreadableWebhook.scanners = .ok ["clamav"] := by decide
  have hsize : assertSizeCapDecidable unmapped ["clamav"] unmapped.maxUrlSize "MAX_URL_SIZE" =
      .ok () := by decide
  refine ⟨?_, hlabel, fun h => h.guard _ hopen, fun h => h.guard _ hlabel⟩
  exact accept_badUrl hnames hsize hopen _ _ _

/-- A webhook without a host is a rejection. -/
theorem bad_url_rejected_no_host :
    Rejects publicPython unmapped publicDns "https://example.com/f" (some "/hook") := by
  apply (bad_url_rejected_iff publicPython unmapped publicDns (fun _ _ => nofun)
    "https://example.com/f" (some "/hook")).2
  have hurl : urlparse publicPython "https://example.com/f" =
      .ok ⟨"https", "example.com".toList⟩ := by decide
  have hhook : urlparse publicPython "/hook" = .ok ⟨"", []⟩ := by decide
  intro h
  rcases h with ⟨e, he⟩ | ⟨hostname, -, -, -, ⟨-, e, he⟩ | ⟨-, webhook, hw, -, hcrash⟩⟩
  · cases hurl.symm.trans he
  · cases he
  · cases hw
    rcases hcrash with ⟨e, he⟩ | ⟨host, -, -, e, he⟩
    · cases hhook.symm.trans he
    · cases he

end FileScanner
