import FileScanner.Config
import FileScanner.Url

namespace FileScanner
open Fallible
set_option autoImplicit true

def CLOUD_METADATA_IPS : List String := ["169.254.169.254", "fd00:ec2::254"]

def MAX_REDIRECTS : Nat := 5

def REDIRECT_STATUS_CODES : List Nat := [301, 302, 303, 307, 308]

inductive DnsError where
  | gaierror
  | other (e : Exc)

/-- What a lookup of a host name gives: the addresses in order. -/
abbrev Dns := String → Except DnsError (List String)

def allowedHosts (py : Python) (settings : Settings) : List String :=
  (commaList settings.ssrfAllowedHosts).map py.lower

def isAllowlistedHost (py : Python) (settings : Settings) (hostname : String) : Bool :=
  if hostname = "" then false else decide (py.lower hostname ∈ allowedHosts py settings)

def checkIp (ip : IpAddress) (hostname : String) : Except Exc Unit :=
  let refuse (what : String) : Except Exc Unit :=
    .error (.ssrfValidationError (hostname ++ " resolves to " ++ what))
  if ip.text ∈ CLOUD_METADATA_IPS then refuse "cloud metadata endpoint"
  else if ip.isLoopback then refuse "loopback address"
  else if ip.isLinkLocal then refuse "link-local address"
  else if ip.isMulticast then refuse "multicast address"
  else if ip.isReserved then refuse "reserved address"
  else if ip.isPrivate then refuse "private IP address"
  else if !ip.isGlobal then refuse "non-global address"
  else .ok ()

def validIp (py : Python) (allowlisted : Bool) (hostname ipStr : String) :
    Except Exc String :=
  match py.ipAddress ipStr with
  | none => .error (.ssrfValidationError "Invalid IP address in DNS response")
  | some ip => (if allowlisted then .ok () else checkIp ip hostname).map (fun _ => ipStr)

/-- Resolve a host name and refuse internal addresses; every caller refuses IP literals. -/
def validateHostname (py : Python) (settings : Settings) (dns : Dns) (hostname : String) :
    Except Exc (List String) :=
  if hostname = "" then .error (.ssrfValidationError "Invalid hostname (missing)")
  else if (py.ipAddress hostname).isSome then
    .error (.ssrfValidationError "IP addresses are not allowed (domain name required)")
  else
    match dns hostname with
    | .error .gaierror => .error (.ssrfValidationError "Unable to resolve hostname")
    | .error (.other e) => .error e
    | .ok addrInfo => do
      let validIps ← addrInfo.mapM (validIp py (isAllowlistedHost py settings hostname) hostname)
      raiseIf (validIps = []) (.ssrfValidationError "No valid IP addresses found")
      pure validIps

structure Dial where
  url : String
  ip : String
  hostname : String
  scheme : String
  port : Nat
  deriving DecidableEq, Repr

/-- The port to dial: the one the URL names, else that of its scheme. -/
def effectivePort (scheme : String) : Option Nat → Nat
  | some (p + 1) => p + 1
  | _ => if scheme = "http" then 80 else 443

def validateAndUnpack (py : Python) (settings : Settings) (dns : Dns) (url : String) :
    Except Exc Dial := do
  let parsed ← urlparse py url
  raiseIf (parsed.scheme ≠ "http" ∧ parsed.scheme ≠ "https")
    (.ssrfValidationError "Invalid URL scheme (only http/https allowed)")
  let hostname ← parsed.requireHostname py (.ssrfValidationError "Invalid URL (missing hostname)")
  let validIps ← validateHostname py settings dns hostname
  let port ← parsed.port py
  pure ⟨url, validIps.headD "", hostname, parsed.scheme, effectivePort parsed.scheme port⟩

/-- One piece of a body as `iter_content` yields it, and when it came. -/
structure Chunk where
  data : Bytes
  elapsed : Rat

/-- A body as it is read: its pieces, then its end or the exception that breaks it off. -/
structure Body where
  chunks : List Chunk
  ending : Option Exc

def Body.bytes (body : Body) : Bytes := body.chunks.flatMap (·.data)

structure Response where
  statusCode : Nat
  reason : String
  url : String
  location : Option String
  contentLength : Option String
  body : Body

def raiseForStatus (response : Response) : Except Exc Unit :=
  let text (side : String) : String := toString response.statusCode ++ side ++ response.reason
    ++ " for url: " ++ response.url
  if 400 ≤ response.statusCode ∧ response.statusCode < 500 then
    .error (.requestException (text " Client Error: "))
  else if 500 ≤ response.statusCode ∧ response.statusCode < 600 then
    .error (.requestException (text " Server Error: "))
  else .ok ()

def Response.isRedirect (response : Response) : Bool :=
  response.location.isSome && REDIRECT_STATUS_CODES.contains response.statusCode

/-- The network around one request: the lookups and the answers, by hop. -/
structure Network where
  dns : Nat → Dns
  serve : Nat → String → Except Exc Response

/-- Where a response sends the session next; `none` when it is the final one. -/
def nextUrl (py : Python) (followRedirects : Bool) (url : String) (response : Response) :
    Except Exc (Option String) :=
  if !followRedirects || !REDIRECT_STATUS_CODES.contains response.statusCode then .ok none
  else
    match response.location with
    | none | some "" => .ok none
    | some location => do
      let next ← py.urljoin url location
      let current ← urlparse py url
      let target ← urlparse py next
      raiseIf (current.scheme = "https" ∧ target.scheme = "http")
        (.ssrfValidationError "Refusing to follow HTTPS→HTTP redirect downgrade")
      pure (some next)

/-- The hops still allowed, each one validated and pinned anew; with the connections opened. -/
def hops (py : Python) (settings : Settings) (net : Network) (followRedirects : Bool) :
    Nat → Nat → String → Except Exc Response × List Dial
  | 0, _, _ =>
    (.error (.ssrfValidationError ("Too many redirects (max " ++ toString MAX_REDIRECTS ++ ")")),
      [])
  | left + 1, hop, url =>
    match validateAndUnpack py settings (net.dns hop) url with
    | .error e => (.error e, [])
    | .ok dial =>
      match net.serve hop url with
      | .error e => (.error e, [dial])
      | .ok response =>
        match nextUrl py followRedirects url response with
        | .error e => (.error e, [dial])
        | .ok none => (.ok response, [dial])
        | .ok (some next) =>
          let (final, dials) := hops py settings net followRedirects left (hop + 1) next
          (final, dial :: dials)

def requestWithRedirects (py : Python) (settings : Settings) (net : Network)
    (followRedirects : Bool) (url : String) : Except Exc Response × List Dial :=
  hops py settings net followRedirects (MAX_REDIRECTS + 1) 0 url

def Response.Success (response : Response) : Prop :=
  200 ≤ response.statusCode ∧ response.statusCode < 300

def Response.Failed (response : Response) : Prop :=
  400 ≤ response.statusCode ∧ response.statusCode < 600

theorem raiseForStatus_failed {response : Response} (h : response.Failed) :
    ∃ m, raiseForStatus response = .error (.requestException m) := by
  obtain ⟨hlo, hhi⟩ := h
  rw [raiseForStatus]
  by_cases hclient : response.statusCode < 500
  · rw [if_pos ⟨hlo, hclient⟩]
    exact ⟨_, rfl⟩
  · rw [if_neg (by omega), if_pos ⟨by omega, hhi⟩]
    exact ⟨_, rfl⟩

theorem raiseForStatus_passed {response : Response} (h : ¬ response.Failed) :
    raiseForStatus response = .ok () := by
  rw [Response.Failed] at h
  rw [raiseForStatus, if_neg (by omega), if_neg (by omega)]

theorem Response.Success.not_failed {response : Response} (h : response.Success) :
    ¬ response.Failed := by
  obtain ⟨-, hhi⟩ := h
  rintro ⟨hlo, -⟩
  omega

theorem Response.Success.not_isRedirect {response : Response} (h : response.Success) :
    response.isRedirect = false := by
  obtain ⟨-, hhi⟩ := h
  have hcode : response.statusCode ∉ REDIRECT_STATUS_CODES := by
    intro hmem
    have hlo : ∀ code ∈ REDIRECT_STATUS_CODES, 300 ≤ code := by decide
    have := hlo response.statusCode hmem
    omega
  rw [isRedirect, List.contains_eq_mem, decide_eq_false hcode, Bool.and_false]

theorem requestWithRedirects_once {py : Python} {settings : Settings} {net : Network}
    {url : String} {dial : Dial} (h : validateAndUnpack py settings (net.dns 0) url = .ok dial) :
    requestWithRedirects py settings net false url = (net.serve 0 url, [dial]) := by
  rw [requestWithRedirects, hops, h]
  dsimp only
  cases net.serve 0 url <;> rfl

/-- What the session has checked about a connection that it opens. -/
structure DialChecked (py : Python) (settings : Settings) (dns : Dns) (url : String)
    (dial : Dial) : Prop where
  url_eq : dial.url = url
  named : ∃ parsed, urlparse py url = .ok parsed ∧ parsed.hostname py = some dial.hostname
  pinned : ∃ ips, validateHostname py settings dns dial.hostname = .ok ips ∧ dial.ip ∈ ips

theorem validateHostname_ne_nil {py : Python} {settings : Settings} {dns : Dns}
    {hostname : String} {ips : List String}
    (h : validateHostname py settings dns hostname = .ok ips) : ips ≠ [] := by
  rw [validateHostname] at h
  split at h
  · cases h
  · split at h
    · cases h
    · split at h
      · cases h
      · cases h
      · obtain ⟨validIps, -, h⟩ := bind_eq_ok.1 h
        obtain ⟨⟨⟩, hne, h⟩ := bind_eq_ok.1 h
        cases h
        exact raiseIf_eq_ok.1 hne

theorem validateAndUnpack_ok {py : Python} {settings : Settings} {dns : Dns} {url : String}
    {dial : Dial} (h : validateAndUnpack py settings dns url = .ok dial) :
    DialChecked py settings dns url dial := by
  rw [validateAndUnpack] at h
  obtain ⟨parsed, hparsed, h⟩ := bind_eq_ok.1 h
  obtain ⟨⟨⟩, -, h⟩ := bind_eq_ok.1 h
  obtain ⟨hostname, hhost, h⟩ := bind_eq_ok.1 h
  obtain ⟨ips, hips, h⟩ := bind_eq_ok.1 h
  obtain ⟨port, -, h⟩ := bind_eq_ok.1 h
  cases h
  refine ⟨rfl, ⟨parsed, hparsed, (SplitResult.requireHostname_eq_ok.1 hhost).1⟩, ips, hips, ?_⟩
  cases ips with
  | nil => exact absurd rfl (validateHostname_ne_nil hips)
  | cons ip ips => exact List.mem_cons_self

/-- The response of a request is the answer of the last host dialled. -/
theorem hops_final {py : Python} {settings : Settings} {net : Network} {follow : Bool}
    {left hop : Nat} {url : String} {response : Response}
    (h : (hops py settings net follow left hop url).1 = .ok response) :
    ∃ init last, (hops py settings net follow left hop url).2 = init ++ [last] ∧
      net.serve (hop + init.length) last.url = .ok response := by
  induction left generalizing hop url with
  | zero => cases h
  | succ left ih =>
    rw [hops] at h ⊢
    split at h
    · cases h
    · rename_i dial hdial
      have hurl := (validateAndUnpack_ok hdial).url_eq
      split at h
      · cases h
      · rename_i answer hserve
        split at h
        · cases h
        · cases h
          exact ⟨[], dial, rfl, by rw [hurl]; exact hserve⟩
        · rename_i next _
          obtain ⟨init, last, hdials, hlast⟩ := ih h
          refine ⟨dial :: init, last, congrArg (dial :: ·) hdials, ?_⟩
          have hhop : hop + (init.length + 1) = hop + 1 + init.length := by omega
          rw [List.length_cons, hhop]
          exact hlast

end FileScanner
