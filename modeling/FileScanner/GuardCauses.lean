import FileScanner.Lib.Causes
import FileScanner.Refusals
import FileScanner.WebhookGuard

namespace FileScanner
open Collections Fallible
set_option autoImplicit true

/-- The lookup of a host fails, or gives no address. -/
structure HostUnresolved (py : Python) (dns : Dns) (hostname : String) : Prop where
  given : hostname ≠ ""
  name : py.ipAddress hostname = none
  lookup : dns hostname = .error .gaierror ∨ dns hostname = .ok []

/-- A host that is unsafe itself: none at all, an address instead of a name, or a name one of
whose addresses is refused. -/
def HostForbidden (py : Python) (settings : Settings) (dns : Dns) (hostname : String) : Prop :=
  hostname = "" ∨ py.ipAddress hostname ≠ none ∨
    ∃ addrInfo, dns hostname = .ok addrInfo ∧ ∃ ipStr ∈ addrInfo, ∃ e,
      validIp py (isAllowlistedHost py settings hostname) hostname ipStr = .error e

section Host
variable {py : Python} {settings : Settings} {dns : Dns} {hostname : String}

theorem validIp_refuses (py : Python) (allowlisted : Bool) (hostname ipStr : String) (e : Exc)
    (h : validIp py allowlisted hostname ipStr = .error e) : IsRefusal e := by
  rw [validIp] at h
  cases hip : py.ipAddress ipStr with
  | none =>
    rw [hip] at h
    cases h
    trivial
  | some ip =>
    rw [hip] at h
    cases allowlisted with
    | true => cases h
    | false =>
      dsimp only at h
      rw [if_neg Bool.false_ne_true, checkIp] at h
      dsimp only at h
      split_ifs at h <;> cases h <;> trivial

/-- The addresses of a host that resolves: there are none, or one of them is refused. -/
theorem checkedIps_causes (py : Python) (settings : Settings) (hostname : String)
    (addrInfo : List String) :
    Causes IsRefusal (do
        let validIps ← addrInfo.mapM
          (validIp py (isAllowlistedHost py settings hostname) hostname)
        raiseIf (validIps = []) (.ssrfValidationError "No valid IP addresses found")
        pure validIps)
      (addrInfo = [])
      (∃ ipStr ∈ addrInfo, ∃ e,
        validIp py (isAllowlistedHost py settings hostname) hostname ipStr = .error e) := by
  cases addrInfo with
  | nil =>
    apply (Causes.first trivial).congr
    · simp
    · simp
  | cons ipStr rest =>
    have hips := Causes.mapM
      (validIp_refuses py (isAllowlistedHost py settings hostname) hostname) (ipStr :: rest)
    apply (hips.bind_never _).congr
    · simp
    · exact Iff.rfl
    · intro validIps hvalid
      have hall := mapM_ok_forall₂ hvalid
      have hsome : validIps ≠ [] := by
        intro hnil
        rw [hnil] at hall
        cases hall
      rw [raiseIf_neg hsome]
      exact .ok _

theorem validateHostname_causes (py : Python) (settings : Settings)
    (hdns : ∀ e, dns hostname = .error (.other e) → ¬ IsRefusal e) :
    Causes IsRefusal (validateHostname py settings dns hostname)
      (HostUnresolved py dns hostname) (HostForbidden py settings dns hostname) := by
  rw [validateHostname]
  by_cases hgiven : hostname = ""
  · rw [if_pos hgiven]
    apply (Causes.second trivial).congr
    · exact iff_false_intro (fun h => h.given hgiven)
    · exact iff_true_intro (.inl hgiven)
  · rw [if_neg hgiven]
    by_cases hname : py.ipAddress hostname = none
    · rw [if_neg (by rw [hname]; exact Bool.false_ne_true)]
      cases hlookup : dns hostname with
      | error err =>
        have hsafe : ¬ HostForbidden py settings dns hostname := by
          simp [HostForbidden, hgiven, hname, hlookup]
        cases err with
        | gaierror =>
          apply (Causes.first trivial).congr
          · exact iff_true_intro ⟨hgiven, hname, .inl hlookup⟩
          · exact iff_false_intro hsafe
        | other e =>
          apply (Causes.never (.error (hdns e hlookup))).congr
          · exact iff_false_intro (fun h => by simpa [hlookup] using h.lookup)
          · exact iff_false_intro hsafe
      | ok addrInfo =>
        apply (checkedIps_causes py settings hostname addrInfo).congr
        · apply Iff.intro
          · intro h
            simpa [hlookup] using h.lookup
          · intro hnone
            exact ⟨hgiven, hname, .inr (hnone ▸ hlookup)⟩
        · simp [HostForbidden, hgiven, hname, hlookup]
    · rw [if_pos (Option.isSome_iff_ne_none.2 hname)]
      apply (Causes.second trivial).congr
      · exact iff_false_intro (fun h => hname h.name)
      · exact iff_true_intro (.inr (.inl hname))

end Host

def NamesHost (py : Python) (url hostname : String) : Prop :=
  ∃ parsed, urlparse py url = .ok parsed ∧ parsed.hostname py = some hostname ∧ hostname ≠ ""

def NamesNone (py : Python) (url : String) : Prop :=
  ∃ parsed, urlparse py url = .ok parsed ∧ ∀ hostname, parsed.hostname py = some hostname →
    hostname = ""

def NamedUnresolved (py : Python) (dns : Dns) (url : String) : Prop :=
  ∃ hostname, NamesHost py url hostname ∧ HostUnresolved py dns hostname

def NamedForbidden (py : Python) (settings : Settings) (dns : Dns) (url : String) : Prop :=
  NamesNone py url ∨ ∃ hostname, NamesHost py url hostname ∧ HostForbidden py settings dns hostname

section Url
variable (py : Python) (settings : Settings) {dns : Dns} (hdns : dns.Foreign)

theorem requireHostname_causes (m : String) (parsed : SplitResult) :
    Causes IsRefusal (parsed.requireHostname py (.ssrfValidationError m)) False
      (∀ hostname, parsed.hostname py = some hostname → hostname = "") := by
  rw [SplitResult.requireHostname]
  cases parsed.hostname py with
  | none =>
    apply (Causes.second trivial).congr Iff.rfl
    simp
  | some hostname =>
    by_cases hempty : hostname = ""
    · dsimp only
      rw [if_pos hempty]
      apply (Causes.second trivial).congr Iff.rfl
      simp [hempty]
    · dsimp only
      rw [if_neg hempty]
      apply (Causes.ok hostname).congr Iff.rfl
      simp [hempty]

include hdns

/-- The host a URL names and its lookup, as each of the guards goes about them. -/
theorem named_causes (m : String) {url : String} {parsed : SplitResult}
    (hp : urlparse py url = .ok parsed) {f : String → List String → Except Exc α}
    (hf : ∀ hostname ips, Unrefused (f hostname ips)) :
    Causes IsRefusal (do
        let hostname ← parsed.requireHostname py (.ssrfValidationError m)
        let ips ← validateHostname py settings dns hostname
        f hostname ips)
      (NamedUnresolved py dns url) (NamedForbidden py settings dns url) := by
  have hlookup (hostname : String) : Causes IsRefusal (do
      let ips ← validateHostname py settings dns hostname
      f hostname ips) (HostUnresolved py dns hostname) (HostForbidden py settings dns hostname) :=
    (validateHostname_causes py settings (hdns hostname)).bind_never (fun ips _ => hf hostname ips)
  apply ((requireHostname_causes py m parsed).bind (fun hostname _ => hlookup hostname)).congr
  · simp [NamedUnresolved, NamesHost, hp, SplitResult.requireHostname_eq_ok]
  · simp [NamedForbidden, NamesNone, NamesHost, hp, SplitResult.requireHostname_eq_ok]

end Url

def HttpUrl (py : Python) (url : String) : Prop :=
  ∃ parsed, urlparse py url = .ok parsed ∧ (parsed.scheme = "http" ∨ parsed.scheme = "https")

/-- The lookup the session makes for a URL fails. -/
def UrlUnresolved (py : Python) (dns : Dns) (url : String) : Prop :=
  HttpUrl py url ∧ NamedUnresolved py dns url

/-- The session refuses a URL for its scheme or for its host. -/
def UrlForbidden (py : Python) (settings : Settings) (dns : Dns) (url : String) : Prop :=
  (∃ parsed, urlparse py url = .ok parsed ∧ parsed.scheme ≠ "http" ∧ parsed.scheme ≠ "https") ∨
    NamedForbidden py settings dns url

/-- A lookup of `assert_scannable` fails: that of the source, or that of the webhook after it. -/
def PolicyUnresolved (py : Python) (settings : Settings) (dns : Dns) (url : String)
    (webhookUrl : Option String) : Prop :=
  ∃ hostname, NamesHost py url hostname ∧ hostAllowed py settings hostname = true ∧
    settings.testing = false ∧ (HostUnresolved py dns hostname ∨
      (∃ ips, validateHostname py settings dns hostname = .ok ips) ∧
        ∃ webhook, webhookUrl = some webhook ∧ webhook ≠ "" ∧ NamedUnresolved py dns webhook)

def PolicyForbidden (py : Python) (settings : Settings) (dns : Dns) (url : String)
    (webhookUrl : Option String) : Prop :=
  NamesNone py url ∨ ∃ hostname, NamesHost py url hostname ∧
    (hostAllowed py settings hostname = false ∨ settings.testing = false ∧
      (HostForbidden py settings dns hostname ∨
        (∃ ips, validateHostname py settings dns hostname = .ok ips) ∧
          ∃ webhook, webhookUrl = some webhook ∧ webhook ≠ "" ∧
            NamedForbidden py settings dns webhook))

section Guard
variable (py : Python) (settings : Settings) {dns : Dns} (hdns : dns.Foreign)
include hdns

theorem validateAndUnpack_causes (url : String) :
    Causes IsRefusal (validateAndUnpack py settings dns url)
      (UrlUnresolved py dns url) (UrlForbidden py settings dns url) := by
  rw [validateAndUnpack]
  cases hp : urlparse py url with
  | error e =>
    apply (Causes.never (.error (urlparse_unrefused py url e hp))).congr
    · simp [UrlUnresolved, HttpUrl, hp]
    · simp [UrlForbidden, NamedForbidden, NamesNone, NamesHost, hp]
  | ok parsed =>
    rw [ok_bind]
    by_cases hscheme : parsed.scheme ≠ "http" ∧ parsed.scheme ≠ "https"
    · rw [raiseIf_pos hscheme]
      apply (Causes.second trivial).congr
      · simp [UrlUnresolved, HttpUrl, hp, hscheme]
      · simp [UrlForbidden, hp, hscheme]
    · rw [raiseIf_neg hscheme, ok_bind]
      have hport (hostname : String) (ips : List String) : Unrefused (do
          let port ← parsed.port py
          pure (⟨url, ips.headD "", hostname, parsed.scheme, effectivePort parsed.scheme port⟩ :
            Dial)) :=
        (port_unrefused py parsed).bind (fun _ _ => .ok _)
      apply (named_causes py settings hdns _ hp hport).congr
      · have hhttp : parsed.scheme = "http" ∨ parsed.scheme = "https" := by tauto
        simp [UrlUnresolved, HttpUrl, hp, hhttp]
      · simp [UrlForbidden, hp, hscheme]

theorem assertWebhookScannable_causes (webhookUrl : Option String) :
    Causes IsRefusal (assertWebhookScannable py settings dns webhookUrl)
      (∃ webhook, webhookUrl = some webhook ∧ webhook ≠ "" ∧ NamedUnresolved py dns webhook)
      (∃ webhook, webhookUrl = some webhook ∧ webhook ≠ "" ∧
        NamedForbidden py settings dns webhook) := by
  cases webhookUrl with
  | none =>
    apply (Causes.ok ()).congr
    · simp
    · simp
  | some webhook =>
    rw [assertWebhookScannable]
    by_cases hempty : webhook = ""
    · rw [if_pos hempty]
      apply (Causes.ok ()).congr
      · simp [hempty]
      · simp [hempty]
    · rw [if_neg hempty]
      cases hp : urlparse py webhook with
      | error e =>
        apply (Causes.never (.error (urlparse_unrefused py webhook e hp))).congr
        · simp [NamedUnresolved, NamesHost, hp]
        · simp [NamedForbidden, NamesNone, NamesHost, hp]
      | ok parsed =>
        apply (named_causes py settings hdns _ hp (fun _ _ => .ok ())).congr
        · simp [hempty]
        · simp [hempty]

theorem assertHostsSafe_causes (hostname : String) (webhookUrl : Option String) :
    Causes IsRefusal (assertHostsSafe py settings dns hostname webhookUrl)
      (settings.testing = false ∧ (HostUnresolved py dns hostname ∨
        (∃ ips, validateHostname py settings dns hostname = .ok ips) ∧
          ∃ webhook, webhookUrl = some webhook ∧ webhook ≠ "" ∧ NamedUnresolved py dns webhook))
      (settings.testing = false ∧ (HostForbidden py settings dns hostname ∨
        (∃ ips, validateHostname py settings dns hostname = .ok ips) ∧
          ∃ webhook, webhookUrl = some webhook ∧ webhook ≠ "" ∧
            NamedForbidden py settings dns webhook)) := by
  rw [assertHostsSafe]
  cases settings.testing with
  | true =>
    apply (Causes.ok ()).congr
    · simp
    · simp
  | false =>
    apply ((validateHostname_causes py settings (hdns hostname)).bind
      (fun _ _ => assertWebhookScannable_causes py settings hdns webhookUrl)).congr
    · simp only [true_and, exists_and_right]
    · simp only [true_and, exists_and_right]

theorem assertScannable_causes (url : String) (webhookUrl : Option String) :
    Causes IsRefusal (assertScannable py settings dns url webhookUrl)
      (PolicyUnresolved py settings dns url webhookUrl)
      (PolicyForbidden py settings dns url webhookUrl) := by
  rw [assertScannable]
  cases hp : urlparse py url with
  | error e =>
    apply (Causes.never (.error (urlparse_unrefused py url e hp))).congr
    · simp [PolicyUnresolved, NamesHost, hp]
    · simp [PolicyForbidden, NamesNone, NamesHost, hp]
  | ok parsed =>
    rw [ok_bind]
    apply ((requireHostname_causes py _ parsed).bind
      (fun hostname _ => (Causes.raiseIf trivial).bind
        (fun _ _ => assertHostsSafe_causes py settings hdns hostname webhookUrl))).congr
    · simp [PolicyUnresolved, NamesHost, hp, SplitResult.requireHostname_eq_ok, raiseIf_eq_ok]
    · simp only [PolicyForbidden, NamesNone, NamesHost, hp, SplitResult.requireHostname_eq_ok,
        raiseIf_eq_ok, Except.ok.injEq, exists_eq_left']
      apply or_congr Iff.rfl
      apply exists_congr
      intro hostname
      cases hostAllowed py settings hostname <;> simp

end Guard

/-- A redirect that the session does not follow, from `https` to `http`. -/
def Downgrades (py : Python) (url : String) (response : Response) : Prop :=
  response.statusCode ∈ REDIRECT_STATUS_CODES ∧ ∃ location next current target,
    response.location = some location ∧ location ≠ "" ∧ py.urljoin url location = .ok next ∧
    urlparse py url = .ok current ∧ urlparse py next = .ok target ∧
    current.scheme = "https" ∧ target.scheme = "http"

/-- One hop of a download: its response, and where it sends the session. -/
def oneHop (py : Python) (settings : Settings) (net : Network) (hop : Nat) (url : String) :
    Except Exc (Response × Option String) := do
  let _ ← validateAndUnpack py settings (net.dns hop) url
  let response ← net.serve hop url
  let next ← nextUrl py true url response
  pure (response, next)

/-- The hop a download stops at; none when it is redirected past the limit. -/
def lastHop (py : Python) (settings : Settings) (net : Network) :
    Nat → Nat → String → Option (Nat × String)
  | 0, _, _ => none
  | left + 1, hop, url =>
    match oneHop py settings net hop url with
    | .ok (_, some next) => lastHop py settings net left (hop + 1) next
    | _ => some (hop, url)

def HopForbidden (py : Python) (settings : Settings) (net : Network) (hop : Nat) (url : String) :
    Prop :=
  UrlForbidden py settings (net.dns hop) url ∨
    (∃ dial, validateAndUnpack py settings (net.dns hop) url = .ok dial) ∧
      ∃ response, net.serve hop url = .ok response ∧ Downgrades py url response

section Session
variable {py : Python} (settings : Settings) {net : Network} (hpy : py.Foreign) (hnet : net.Foreign)

theorem hops_succ (left hop : Nat) (url : String) :
    (hops py settings net true (left + 1) hop url).1 =
      oneHop py settings net hop url >>= fun answer => answer.2.elim (.ok answer.1)
        (fun next => (hops py settings net true left (hop + 1) next).1) := by
  rw [hops, oneHop]
  cases validateAndUnpack py settings (net.dns hop) url with
  | error e => rfl
  | ok dial =>
    rw [ok_bind]
    cases net.serve hop url with
    | error e => rfl
    | ok response =>
      rw [ok_bind]
      dsimp only
      cases nextUrl py true url response with
      | error e => rfl
      | ok next => cases next <;> rfl

include hpy

theorem nextUrl_causes (url : String) (response : Response) :
    Causes IsRefusal (nextUrl py true url response) False (Downgrades py url response) := by
  rw [nextUrl, List.contains_eq_mem]
  by_cases hcode : response.statusCode ∈ REDIRECT_STATUS_CODES
  · rw [decide_eq_true hcode, if_neg (by decide)]
    split
    · rename_i hlocation
      apply (Causes.ok none).congr Iff.rfl
      simp [Downgrades, hlocation]
    · rename_i hlocation
      apply (Causes.ok none).congr Iff.rfl
      simp [Downgrades, hlocation]
    · rename_i location hempty hlocation
      have hgiven : location ≠ "" := hempty
      apply (Causes.never_bind (hpy url location) (fun next _ =>
        Causes.never_bind (urlparse_unrefused py url) (fun current _ =>
        Causes.never_bind (urlparse_unrefused py next) (fun target _ =>
        (Causes.raiseIf trivial).bind_never (fun _ _ => .ok (some next)))))).congr
      · simp
      · simp [Downgrades, hcode, hlocation, hgiven]
  · rw [decide_eq_false hcode, if_pos (by decide)]
    apply (Causes.ok none).congr Iff.rfl
    simp [Downgrades, hcode]

include hnet

theorem oneHop_causes (hop : Nat) (url : String) :
    Causes IsRefusal (oneHop py settings net hop url) (UrlUnresolved py (net.dns hop) url)
      (HopForbidden py settings net hop url) := by
  have hnext (response : Response) : Causes IsRefusal (do
      let next ← nextUrl py true url response
      pure (response, next)) False (Downgrades py url response) :=
    (nextUrl_causes hpy url response).bind_never (fun _ _ => .ok _)
  apply ((validateAndUnpack_causes py settings (hnet.dns hop) url).bind
    (fun _ _ => Causes.never_bind (hnet.serve hop url) (fun response _ => hnext response))).congr
  · simp
  · simp [HopForbidden]

/-- A download is refused for the hop it stops at, or because it does not stop. -/
theorem hops_causes (left hop : Nat) (url : String) :
    Causes IsRefusal (hops py settings net true left hop url).1
      (lastHop py settings net left hop url = none ∨
        ∃ i final, lastHop py settings net left hop url = some (i, final) ∧
          UrlUnresolved py (net.dns i) final)
      (∃ i final, lastHop py settings net left hop url = some (i, final) ∧
        HopForbidden py settings net i final) := by
  induction left generalizing hop url with
  | zero =>
    apply (Causes.first trivial).congr
    · simp [lastHop]
    · simp [lastHop]
  | succ left ih =>
    have hone := oneHop_causes settings hpy hnet hop url
    rw [hops_succ, lastHop]
    cases hanswer : oneHop py settings net hop url with
    | error e =>
      rw [hanswer] at hone
      apply (hone.bind_never _).congr
      · simp
      · simp
      · intro answer h
        cases h
    | ok answer =>
      obtain ⟨response, next⟩ := answer
      cases next with
      | none =>
        obtain ⟨hresolved, hallowed⟩ := hone.not_ok hanswer
        apply (Causes.ok response).congr
        · simp [hresolved]
        · simp [hallowed]
      | some next => exact ih (hop + 1) next

end Session

end FileScanner
