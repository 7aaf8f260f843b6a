import FileScanner.Encryption
import FileScanner.Lib.Dict
import FileScanner.Lib.Traverse
import FileScanner.Url

namespace FileScanner
open Collections Fallible
set_option autoImplicit true

structure GateSettings where
  workerDashboardUser : String := ""
  workerDashboardPassword : String := ""
  workerDashboardAllowedIps : String := ""
  workerDashboardForwardedIpHeader : String := ""
  prometheusApiKey : String := ""

structure IpNetwork where
  version : Nat
  networkAddress : Nat
  netmask : Nat
  deriving DecidableEq, Repr

/-- The further library functions of the dashboard, on which nothing is assumed. -/
structure GatePython extends Python where
  upper : String → String
  /-- `ipaddress.ip_network(text, strict=False)`; none is the `ValueError`. -/
  ipNetwork : String → Option IpNetwork
  /-- `int(ip)`. -/
  ipNumber : IpAddress → Nat

abbrev Environ := Dict String String

def ipNetwork (py : GatePython) (entry : String) : Except Exc IpNetwork :=
  match py.ipNetwork entry with
  | some net => .ok net
  | none => .error (.valueError
      (py.repr (.str entry) ++ " does not appear to be an IPv4 or IPv6 network"))

def allowedNetworks (py : GatePython) (cfg : GateSettings) : Except Exc (List IpNetwork) :=
  (commaList cfg.workerDashboardAllowedIps).mapM (ipNetwork py)

/-- The header that the settings trust to name the client, as the server passes it on. -/
def forwardedHeader (py : GatePython) (cfg : GateSettings) : Option String :=
  let header := strip cfg.workerDashboardForwardedIpHeader.toList
  if header = [] then none
  else some ("HTTP_" ++ String.ofList
    ((py.upper (String.ofList header)).toList.map (fun c => if c = '-' then '_' else c)))

def clientIp (py : GatePython) (cfg : GateSettings) (environ : Environ) : Option String :=
  match ((forwardedHeader py cfg).bind (environ.lookup ·)).filter (· ≠ "") with
  | some value => some (String.ofList (strip (value.toList.takeWhile (· ≠ ','))))
  | none => environ.lookup "REMOTE_ADDR"

/-- `ip in net`. -/
def IpNetwork.contains (py : GatePython) (net : IpNetwork) (ip : IpAddress) : Bool :=
  net.version == ip.version && (py.ipNumber ip &&& net.netmask) == net.networkAddress

def ipAllowed (py : GatePython) (cfg : GateSettings) (host : Option String) :
    Except Exc Bool := do
  let nets ← allowedNetworks py cfg
  if nets = [] then pure true
  else
    match py.ipAddress (host.getD "") with
    | none => pure false
    | some ip => pure (nets.any (·.contains py ip))

/-- `hmac.compare_digest` on two texts. -/
def compareDigest (a b : String) : Except Exc Bool :=
  if isAscii a.toList = true ∧ isAscii b.toList = true then .ok (a == b)
  else .error (.typeError "comparing strings with non-ASCII characters is not supported")

inductive DecodeFailure where
  | binasciiError (msg : String)
  | unicodeDecodeError
  | raised (e : Exc)

/-- `base64.b64decode` on a text, whose alphabet has no `-` and no `_`. -/
def b64decode (text : String) : Except DecodeFailure Bytes :=
  if isAscii text.toList = true then
    (base64Decode (text.toList.filter (fun c => c ≠ '-' ∧ c ≠ '_')) 0 0 0 []).mapError
      (fun e => .binasciiError e.msg)
  else .error (.raised (.valueError "string argument should contain only ASCII characters"))

/-- The text whose UTF-8 the bytes are. -/
def utf8Decode (bytes : Bytes) : Option String := String.fromUTF8? ⟨bytes.toArray⟩

def decodeCredentials (payload : String) : Except DecodeFailure (String × String) := do
  let bytes ← b64decode payload
  match utf8Decode bytes with
  | some text =>
    let (user, _, password) := partitionAt ':' text.toList
    pure (String.ofList user, String.ofList password)
  | none => .error .unicodeDecodeError

/-- The password is always compared, the user only with one that is configured. -/
def checkCredentials (cfg : GateSettings) (user password : String) : Except Exc Bool := do
  let okPassword ← compareDigest password cfg.workerDashboardPassword
  let okUser ←
    if cfg.workerDashboardUser = "" then pure true
    else compareDigest user cfg.workerDashboardUser
  pure (okUser && okPassword)

def authorized (cfg : GateSettings) (authHeader : Option String) : Except Exc Bool :=
  if cfg.workerDashboardPassword = "" then .ok false
  else
    let header := (authHeader.getD "").toList
    if "Basic ".toList.isPrefixOf header = false then .ok false
    else
      match decodeCredentials (String.ofList (header.drop 6)) with
      | .ok (user, password) => checkCredentials cfg user password
      | .error (.raised e) => .error e
      | .error _ => .ok false

/-- The errors that `authorized` takes for a refusal. -/
def IsCaught : DecodeFailure → Prop
  | .raised _ => False
  | _ => True

structure Answer where
  status : String
  headers : List (String × String)
  body : Bytes
  deriving DecidableEq, Repr

def deny (status message : String) (headers : List (String × String)) : Answer where
  status := status
  headers := [("Content-Type", "text/plain; charset=utf-8"),
    ("Content-Length", toString (encode message).length)] ++ headers
  body := encode message

/-- What the guard does with a request: it calls the dashboard app on it, or denies it. -/
inductive Decision where
  | calls (environ : Environ)
  | denies (answer : Answer)
  deriving DecidableEq, Repr

def Guard.call (py : GatePython) (cfg : GateSettings) (environ : Environ) :
    Except Exc Decision := do
  if (← ipAllowed py cfg (clientIp py cfg environ)) = false then
    pure (.denies (deny "403 Forbidden" "Forbidden\n" []))
  else if (← authorized cfg (environ.lookup "HTTP_AUTHORIZATION")) = false then
    pure (.denies (deny "401 Unauthorized" "Unauthorized\n"
      [("WWW-Authenticate", "Basic realm=\"dashboard\"")]))
  else pure (.calls environ)

/-- The address is in a network of the allowlist, or there is no allowlist. -/
def IpAllowed (py : GatePython) (cfg : GateSettings) (host : Option String) : Prop :=
  commaList cfg.workerDashboardAllowedIps = [] ∨
    ∃ ip, py.ipAddress (host.getD "") = some ip ∧
      ∃ entry ∈ commaList cfg.workerDashboardAllowedIps, ∃ net, py.ipNetwork entry = some net ∧
        net.contains py ip = true

/-- Basic credentials decode to a user and a password. -/
def CarriesCredentials (payload user password : String) : Prop :=
  ∃ bytes text, b64decode payload = .ok bytes ∧ utf8Decode bytes = some text ∧
    (partitionAt ':' text.toList).1 = user.toList ∧
    (partitionAt ':' text.toList).2.2 = password.toList

def Admits (cfg : GateSettings) (authHeader : Option String) : Prop :=
  cfg.workerDashboardPassword ≠ "" ∧ ∃ payload user password,
    authHeader = some ("Basic " ++ payload) ∧ CarriesCredentials payload user password ∧
      password = cfg.workerDashboardPassword ∧
      (cfg.workerDashboardUser ≠ "" → user = cfg.workerDashboardUser)

/-- The credentials are of texts that `compare_digest` compares with those configured. -/
def Comparable (cfg : GateSettings) (user password : String) : Prop :=
  (isAscii password.toList = true ∧ isAscii cfg.workerDashboardPassword.toList = true) ∧
    (cfg.workerDashboardUser ≠ "" →
      isAscii user.toList = true ∧ isAscii cfg.workerDashboardUser.toList = true)

/-- Basic credentials for a password that is configured, which cannot be decoded or compared. -/
def CredentialsCrash (cfg : GateSettings) (authHeader : Option String) : Prop :=
  cfg.workerDashboardPassword ≠ "" ∧ ∃ payload, authHeader = some ("Basic " ++ payload) ∧
    (isAscii payload.toList = false ∨
      ∃ user password, CarriesCredentials payload user password ∧ ¬ Comparable cfg user password)

theorem utf8Decode_eq_some {bytes : Bytes} {text : String} :
    utf8Decode bytes = some text ↔ encode text = bytes := by
  rw [utf8Decode, String.fromUTF8?]
  constructor
  · intro h
    split at h
    · cases h
      rfl
    · cases h
  · intro h
    cases h
    exact dif_pos text.isValidUTF8

section Allowlist
variable {py : GatePython} {cfg : GateSettings}

theorem ipNetwork_ok {entry : String} {net : IpNetwork} :
    ipNetwork py entry = .ok net ↔ py.ipNetwork entry = some net := by
  rw [ipNetwork]
  cases py.ipNetwork entry with
  | none => exact iff_of_false (nomatch ·) (nomatch ·)
  | some net' => rw [Except.ok.injEq, Option.some.injEq]

theorem mem_allowedNetworks {nets : List IpNetwork} (h : allowedNetworks py cfg = .ok nets)
    (net : IpNetwork) :
    net ∈ nets ↔ ∃ entry ∈ commaList cfg.workerDashboardAllowedIps,
      py.ipNetwork entry = some net := by
  have hall := mapM_ok_forall₂ h
  constructor
  · intro hnet
    obtain ⟨entry, hentry, he⟩ := forall₂_exists_left hall hnet
    exact ⟨entry, hentry, ipNetwork_ok.1 he⟩
  · intro hentry
    obtain ⟨entry, hentry, he⟩ := hentry
    obtain ⟨net', hnet', he'⟩ := forall₂_exists_right hall hentry
    rw [ipNetwork_ok.1 he', Option.some.injEq] at he
    exact he ▸ hnet'

/-- An allowlist that parses is decided for every address. -/
theorem ipAllowed_ok
    (hparse : ∀ entry ∈ commaList cfg.workerDashboardAllowedIps, (py.ipNetwork entry).isSome = true)
    (host : Option String) :
    ∃ b, ipAllowed py cfg host = .ok b ∧ (b = true ↔ IpAllowed py cfg host) := by
  obtain ⟨nets, hnets⟩ : ∃ nets, allowedNetworks py cfg = .ok nets := by
    apply exists_mapM_ok
    intro entry hentry
    obtain ⟨net, hnet⟩ := Option.isSome_iff_exists.1 (hparse entry hentry)
    exact ⟨net, ipNetwork_ok.2 hnet⟩
  have hmem := mem_allowedNetworks hnets
  have hnil : nets = [] ↔ commaList cfg.workerDashboardAllowedIps = [] := by
    rw [← List.length_eq_zero_iff, ← List.length_eq_zero_iff,
      (mapM_ok_forall₂ hnets).length_eq]
  rw [ipAllowed, hnets, ok_bind]
  by_cases hempty : nets = []
  · rw [if_pos hempty]
    exact ⟨true, rfl, iff_of_true rfl (.inl (hnil.1 hempty))⟩
  · rw [if_neg hempty]
    have hlist : commaList cfg.workerDashboardAllowedIps ≠ [] := fun h => hempty (hnil.2 h)
    rw [IpAllowed, or_iff_right hlist]
    cases py.ipAddress (host.getD "") with
    | none => exact ⟨false, rfl, iff_of_false Bool.false_ne_true (fun h => nomatch h.choose_spec.1)⟩
    | some ip =>
      refine ⟨_, rfl, ?_⟩
      rw [List.any_eq_true]
      constructor
      · intro h
        obtain ⟨net, hnet, hcontains⟩ := h
        obtain ⟨entry, hentry, he⟩ := (hmem net).1 hnet
        exact ⟨ip, rfl, entry, hentry, net, he, hcontains⟩
      · intro h
        obtain ⟨ip', hip, entry, hentry, net, he, hcontains⟩ := h
        cases hip
        exact ⟨net, (hmem net).2 ⟨entry, hentry, he⟩, hcontains⟩

end Allowlist

section Credentials
variable {cfg : GateSettings} {payload user password : String}

theorem compareDigest_ok {a b : String} (h : isAscii a.toList = true ∧ isAscii b.toList = true) :
    compareDigest a b = .ok (a == b) := if_pos h

theorem decodeCredentials_ok :
    decodeCredentials payload = .ok (user, password) ↔
      CarriesCredentials payload user password := by
  rw [decodeCredentials, bind_eq_ok]
  constructor
  · intro h
    obtain ⟨bytes, hbytes, h⟩ := h
    cases htext : utf8Decode bytes with
    | none =>
      rw [htext] at h
      cases h
    | some text =>
      rw [htext] at h
      cases h
      exact ⟨bytes, text, hbytes, htext, String.toList_ofList.symm, String.toList_ofList.symm⟩
  · intro h
    obtain ⟨bytes, text, hbytes, htext, huser, hpassword⟩ := h
    refine ⟨bytes, hbytes, ?_⟩
    rw [htext]
    dsimp only
    rw [huser, hpassword, String.ofList_toList, String.ofList_toList]
    rfl

theorem decodeCredentials_caught (h : isAscii payload.toList = true) :
    RaisesOnly IsCaught (decodeCredentials payload) := by
  rw [decodeCredentials, b64decode, if_pos h]
  apply RaisesOnly.bind
  · exact raisesOnly_mapError.2 (fun _ _ => trivial)
  · intro bytes _
    cases utf8Decode bytes with
    | none => exact .error trivial
    | some text => exact .ok _

theorem decodeCredentials_not_ascii (h : isAscii payload.toList = false) :
    ∃ e, decodeCredentials payload = .error (.raised e) := by
  rw [decodeCredentials, b64decode, if_neg (by rw [h]; exact Bool.false_ne_true)]
  exact ⟨_, rfl⟩

theorem checkCredentials_of_comparable (h : Comparable cfg user password) :
    ∃ b, checkCredentials cfg user password = .ok b ∧
      (b = true ↔ password = cfg.workerDashboardPassword ∧
        (cfg.workerDashboardUser ≠ "" → user = cfg.workerDashboardUser)) := by
  rw [checkCredentials, compareDigest_ok h.1, ok_bind]
  by_cases hany : cfg.workerDashboardUser = ""
  · rw [if_pos hany]
    refine ⟨_, rfl, ?_⟩
    simp [hany]
  · rw [if_neg hany, compareDigest_ok (h.2 hany)]
    refine ⟨_, rfl, ?_⟩
    simp [hany, and_comm]

theorem checkCredentials_of_not_comparable (h : ¬ Comparable cfg user password) :
    ∃ e, checkCredentials cfg user password = .error e := by
  rw [checkCredentials, compareDigest]
  split
  · rename_i hpassword
    have huser := not_and.1 h hpassword
    rw [Classical.not_imp] at huser
    rw [ok_bind, if_neg huser.1, compareDigest, if_neg huser.2]
    exact ⟨_, rfl⟩
  · exact ⟨_, rfl⟩

theorem authorized_basic (hconfigured : cfg.workerDashboardPassword ≠ "") (payload : String) :
    authorized cfg (some ("Basic " ++ payload)) =
      match decodeCredentials payload with
      | .ok (user, password) => checkCredentials cfg user password
      | .error (.raised e) => .error e
      | .error _ => .ok false := by
  have hhead : "Basic ".toList.isPrefixOf ("Basic " ++ payload).toList = true := by
    rw [List.isPrefixOf_iff_prefix, String.toList_append]
    exact List.prefix_append _ _
  have hdrop : String.ofList (("Basic " ++ payload).toList.drop 6) = payload := by
    rw [String.toList_append]
    exact String.ofList_toList
  rw [authorized, if_neg hconfigured]
  dsimp only [Option.getD_some]
  rw [if_neg (by rw [hhead]; exact Bool.true_eq_false.mp), hdrop]

theorem authorized_not_basic {authHeader : Option String}
    (h : ∀ payload, authHeader ≠ some ("Basic " ++ payload)) :
    authorized cfg authHeader = .ok false := by
  rw [authorized]
  split
  · rfl
  · apply if_pos
    rw [← Bool.not_eq_true, List.isPrefixOf_iff_prefix]
    intro hhead
    obtain ⟨payload, hpayload⟩ := hhead
    cases authHeader with
    | none => cases hpayload
    | some header =>
      have hheader : header = "Basic " ++ String.ofList payload := by
        apply String.toList_injective
        rw [String.toList_append]
        exact hpayload.symm.trans (congrArg ("Basic ".toList ++ ·) String.toList_ofList.symm)
      exact h (String.ofList payload) (congrArg some hheader)

theorem basic_injective {payload payload' : String}
    (h : "Basic " ++ payload = "Basic " ++ payload') : payload = payload' := by
  have hlist := congrArg String.toList h
  rw [String.toList_append, String.toList_append, List.append_right_inj] at hlist
  exact String.toList_injective hlist

theorem exists_payload {P : String → Prop} :
    (∃ payload', some ("Basic " ++ payload) = some ("Basic " ++ payload') ∧ P payload') ↔
      P payload := by
  constructor
  · intro h
    obtain ⟨payload', hheader, hP⟩ := h
    exact basic_injective (Option.some.inj hheader) ▸ hP
  · intro hP
    exact ⟨payload, rfl, hP⟩

/-- A payload carries one user and one password at most. -/
theorem exists_carried (h : CarriesCredentials payload user password)
    {P : String → String → Prop} :
    (∃ user' password', CarriesCredentials payload user' password' ∧ P user' password') ↔
      P user password := by
  constructor
  · intro h'
    obtain ⟨user', password', hcarries, hP⟩ := h'
    have hsame := decodeCredentials_ok.2 hcarries
    rw [decodeCredentials_ok.2 h, Except.ok.injEq, Prod.mk.injEq] at hsame
    rw [hsame.1, hsame.2]
    exact hP
  · intro hP
    exact ⟨user, password, h, hP⟩

theorem admits_payload :
    Admits cfg (some ("Basic " ++ payload)) ↔ cfg.workerDashboardPassword ≠ "" ∧
      ∃ user password, CarriesCredentials payload user password ∧
        password = cfg.workerDashboardPassword ∧
        (cfg.workerDashboardUser ≠ "" → user = cfg.workerDashboardUser) := by
  rw [Admits]
  simp only [exists_and_left]
  rw [exists_payload]

theorem credentialsCrash_payload :
    CredentialsCrash cfg (some ("Basic " ++ payload)) ↔ cfg.workerDashboardPassword ≠ "" ∧
      (isAscii payload.toList = false ∨ ∃ user password,
        CarriesCredentials payload user password ∧ ¬ Comparable cfg user password) := by
  rw [CredentialsCrash, exists_payload]

theorem authorized_of_crash {authHeader : Option String} (h : CredentialsCrash cfg authHeader) :
    ∃ e, authorized cfg authHeader = .error e := by
  obtain ⟨hconfigured, payload, hheader, hcrash⟩ := h
  rw [hheader, authorized_basic hconfigured]
  rcases hcrash with hascii | ⟨user, password, hcarries, hnot⟩
  · obtain ⟨e, he⟩ := decodeCredentials_not_ascii hascii
    rw [he]
    exact ⟨e, rfl⟩
  · rw [decodeCredentials_ok.2 hcarries]
    exact checkCredentials_of_not_comparable hnot

theorem authorized_payload (hconfigured : cfg.workerDashboardPassword ≠ "")
    (h : ¬ CredentialsCrash cfg (some ("Basic " ++ payload))) :
    ∃ b, authorized cfg (some ("Basic " ++ payload)) = .ok b ∧
      (b = true ↔ Admits cfg (some ("Basic " ++ payload))) := by
  rw [credentialsCrash_payload, and_iff_right hconfigured, not_or, Bool.not_eq_false] at h
  obtain ⟨hascii, hcomparable⟩ := h
  rw [authorized_basic hconfigured, admits_payload, and_iff_right hconfigured]
  cases hdecode : decodeCredentials payload with
  | error e =>
    have hcaught := decodeCredentials_caught hascii e hdecode
    have hnone : ¬ ∃ user password, CarriesCredentials payload user password ∧
        password = cfg.workerDashboardPassword ∧
        (cfg.workerDashboardUser ≠ "" → user = cfg.workerDashboardUser) := by
      intro hcarried
      obtain ⟨user, password, hcarries, -⟩ := hcarried
      cases hdecode.symm.trans (decodeCredentials_ok.2 hcarries)
    cases e with
    | raised e => exact hcaught.elim
    | _ => exact ⟨false, rfl, iff_of_false Bool.false_ne_true hnone⟩
  | ok credentials =>
    obtain ⟨user, password⟩ := credentials
    have hcarries := decodeCredentials_ok.1 hdecode
    rw [exists_carried hcarries, not_not] at hcomparable
    rw [exists_carried hcarries]
    exact checkCredentials_of_comparable hcomparable

theorem authorized_of_not_crash {authHeader : Option String}
    (h : ¬ CredentialsCrash cfg authHeader) :
    ∃ b, authorized cfg authHeader = .ok b ∧ (b = true ↔ Admits cfg authHeader) := by
  by_cases hconfigured : cfg.workerDashboardPassword = ""
  · refine ⟨false, if_pos hconfigured, iff_of_false Bool.false_ne_true ?_⟩
    intro hadmits
    exact hadmits.1 hconfigured
  · by_cases hbasic : ∃ payload, authHeader = some ("Basic " ++ payload)
    · obtain ⟨payload, rfl⟩ := hbasic
      exact authorized_payload hconfigured h
    · refine ⟨false, authorized_not_basic (fun payload hheader => hbasic ⟨payload, hheader⟩),
        iff_of_false Bool.false_ne_true ?_⟩
      intro hadmits
      obtain ⟨-, payload, -, -, hheader, -⟩ := hadmits
      exact hbasic ⟨payload, hheader⟩

end Credentials

end FileScanner
