import FileScanner.BasicAuth

namespace FileScanner
open Collections Fallible
set_option autoImplicit true

/-- An `HTTPException` with the headers it answers, or what nobody handles. -/
inductive GateFailure where
  | http (statusCode : Nat) (detail : String) (headers : List (String × String))
  | unhandled (e : Exc)
  deriving DecidableEq, Repr

/-- The gate of `/metrics`, on the `Authorization` header. -/
def verifyPrometheus (cfg : GateSettings) (authorization : Option String) :
    Except GateFailure Unit :=
  let key := cfg.prometheusApiKey
  if key = "" then .ok ()
  else do
    let same ← (compareDigest (authorization.getD "") ("Bearer " ++ key)).mapError
      GateFailure.unhandled
    raiseIf (same = false) (.http 401 "Unauthorized" [("WWW-Authenticate", "Bearer")])

/-- The client is allowed, and its credentials decode to those configured. -/
def LetIn (py : GatePython) (cfg : GateSettings) (environ : Environ) : Prop :=
  IpAllowed py cfg (clientIp py cfg environ) ∧ Admits cfg (environ.lookup "HTTP_AUTHORIZATION")

/-- The guard calls the app on exactly the requests it should, answers 401 or 403 to the others,
and never raises. -/
structure GuardDecides (py : GatePython) (cfg : GateSettings) (environ : Environ) : Prop where
  calls : ∀ passed, Guard.call py cfg environ = .ok (.calls passed) ↔
    LetIn py cfg environ ∧ passed = environ
  denies : ∀ answer, Guard.call py cfg environ = .ok (.denies answer) →
    answer.status ∈ ["401 Unauthorized", "403 Forbidden"]
  returns : ∃ decision, Guard.call py cfg environ = .ok decision

/-- The gate of `/metrics` returns for exactly the key, and raises nothing but the 401. -/
structure PrometheusDecides (cfg : GateSettings) (authorization : Option String) : Prop where
  returns : verifyPrometheus cfg authorization = .ok () ↔
    cfg.prometheusApiKey = "" ∨ authorization = some ("Bearer " ++ cfg.prometheusApiKey)
  raises : ∀ e, verifyPrometheus cfg authorization = .error e →
    e = .http 401 "Unauthorized" [("WWW-Authenticate", "Bearer")]

section Guard
variable {py : GatePython} {cfg : GateSettings} {environ : Environ}

theorem guardDecides_of_denied {answer : Answer}
    (h : Guard.call py cfg environ = .ok (.denies answer))
    (hstatus : answer.status ∈ ["401 Unauthorized", "403 Forbidden"])
    (hnot : ¬ LetIn py cfg environ) : GuardDecides py cfg environ := by
  constructor
  · intro passed
    rw [h]
    exact iff_of_false (nomatch ·) (fun hin => hnot hin.1)
  · intro answer' h'
    rw [h] at h'
    cases h'
    exact hstatus
  · exact ⟨_, h⟩

theorem guardDecides_of_called (h : Guard.call py cfg environ = .ok (.calls environ))
    (hin : LetIn py cfg environ) : GuardDecides py cfg environ := by
  constructor
  · intro passed
    rw [h]
    constructor
    · intro hpassed
      cases hpassed
      exact ⟨hin, rfl⟩
    · intro hpassed
      rw [hpassed.2]
  · intro answer h'
    rw [h] at h'
    cases h'
  · exact ⟨_, h⟩

/-- From an address that is allowed, the credentials decide. -/
theorem Guard.call_allowed
    (h : ipAllowed py cfg (clientIp py cfg environ) = .ok true) :
    Guard.call py cfg environ = (do
      if (← authorized cfg (environ.lookup "HTTP_AUTHORIZATION")) = false then
        pure (.denies (deny "401 Unauthorized" "Unauthorized\n"
          [("WWW-Authenticate", "Basic realm=\"dashboard\"")]))
      else pure (.calls environ)) := by
  rw [Guard.call, h, ok_bind, if_neg Bool.true_eq_false.mp]

theorem guardDecides_iff
    (hparse : ∀ entry ∈ commaList cfg.workerDashboardAllowedIps,
      (py.ipNetwork entry).isSome = true) :
    GuardDecides py cfg environ ↔ ¬ (IpAllowed py cfg (clientIp py cfg environ) ∧
      CredentialsCrash cfg (environ.lookup "HTTP_AUTHORIZATION")) := by
  obtain ⟨allowed, hallowed, hiff⟩ := ipAllowed_ok hparse (clientIp py cfg environ)
  cases allowed with
  | false =>
    have hnot : ¬ IpAllowed py cfg (clientIp py cfg environ) := fun h => nomatch hiff.2 h
    have hcall : Guard.call py cfg environ =
        .ok (.denies (deny "403 Forbidden" "Forbidden\n" [])) := by
      rw [Guard.call, hallowed]
      rfl
    exact iff_of_true (guardDecides_of_denied hcall (by decide) (fun h => hnot h.1))
      (fun h => hnot h.1)
  | true =>
    rw [and_iff_right (hiff.1 rfl)]
    by_cases hcrash : CredentialsCrash cfg (environ.lookup "HTTP_AUTHORIZATION")
    · obtain ⟨e, he⟩ := authorized_of_crash hcrash
      apply iff_of_false _ (not_not_intro hcrash)
      intro hdecides
      obtain ⟨decision, hdecision⟩ := hdecides.returns
      rw [Guard.call_allowed hallowed, he] at hdecision
      cases hdecision
    · apply iff_of_true _ hcrash
      obtain ⟨b, hb, hadmits⟩ := authorized_of_not_crash hcrash
      cases b with
      | false =>
        have hcall : Guard.call py cfg environ = .ok (.denies (deny "401 Unauthorized"
            "Unauthorized\n" [("WWW-Authenticate", "Basic realm=\"dashboard\"")])) := by
          rw [Guard.call_allowed hallowed, hb]
          rfl
        exact guardDecides_of_denied hcall (by decide) (fun h => nomatch hadmits.2 h.2)
      | true =>
        have hcall : Guard.call py cfg environ = .ok (.calls environ) := by
          rw [Guard.call_allowed hallowed, hb]
          rfl
        exact guardDecides_of_called hcall ⟨hiff.1 rfl, hadmits.1 rfl⟩

end Guard

section Prometheus
variable {cfg : GateSettings} {authorization : Option String}

theorem isAscii_bearer (key : String) :
    isAscii ("Bearer " ++ key).toList = isAscii key.toList := by
  rw [isAscii, String.toList_append, List.all_append]
  rfl

theorem getD_eq_bearer {key : String} :
    authorization.getD "" = "Bearer " ++ key ↔ authorization = some ("Bearer " ++ key) := by
  cases authorization with
  | none =>
    apply iff_of_false
    · intro h
      have hlist := congrArg String.toList h
      rw [String.toList_append] at hlist
      cases hlist
    · exact (nomatch ·)
  | some header => rw [Option.getD_some, Option.some.injEq]

theorem prometheusDecides_iff :
    PrometheusDecides cfg authorization ↔ cfg.prometheusApiKey = "" ∨
      isAscii (authorization.getD "").toList = true ∧
        isAscii cfg.prometheusApiKey.toList = true := by
  by_cases hunset : cfg.prometheusApiKey = ""
  · have hopen : verifyPrometheus cfg authorization = .ok () := if_pos hunset
    apply iff_of_true _ (.inl hunset)
    constructor
    · exact iff_of_true hopen (.inl hunset)
    · intro e he
      rw [hopen] at he
      cases he
  · rw [or_iff_right hunset]
    have hkey := isAscii_bearer cfg.prometheusApiKey
    by_cases hascii : isAscii (authorization.getD "").toList = true ∧
        isAscii cfg.prometheusApiKey.toList = true
    · apply iff_of_true _ hascii
      have hverify : verifyPrometheus cfg authorization =
          raiseIf ((authorization.getD "" == "Bearer " ++ cfg.prometheusApiKey) = false)
            (.http 401 "Unauthorized" [("WWW-Authenticate", "Bearer")]) := by
        rw [verifyPrometheus, if_neg hunset, compareDigest_ok (by rw [hkey]; exact hascii)]
        rfl
      constructor
      · rw [hverify, raiseIf_eq_ok, Bool.not_eq_false, beq_iff_eq, getD_eq_bearer,
          or_iff_right hunset]
      · intro e he
        rw [hverify] at he
        exact (raiseIf_eq_error.1 he).2.symm
    · apply iff_of_false _ hascii
      have hverify : ∃ e, verifyPrometheus cfg authorization = .error (.unhandled e) := by
        rw [verifyPrometheus, if_neg hunset, compareDigest, if_neg (by rw [hkey]; exact hascii)]
        exact ⟨_, rfl⟩
      intro hdecides
      obtain ⟨e, he⟩ := hverify
      cases hdecides.raises _ he

end Prometheus

/-- Both gates decide exactly the requests and the settings whose texts they can compare. -/
theorem gates_decide_iff (py : GatePython) (cfg : GateSettings)
    (hparse : ∀ entry ∈ commaList cfg.workerDashboardAllowedIps,
      (py.ipNetwork entry).isSome = true)
    (environ : Environ) (authorization : Option String) :
    (GuardDecides py cfg environ ↔ ¬ (IpAllowed py cfg (clientIp py cfg environ) ∧
      CredentialsCrash cfg (environ.lookup "HTTP_AUTHORIZATION"))) ∧
    (PrometheusDecides cfg authorization ↔ cfg.prometheusApiKey = "" ∨
      isAscii (authorization.getD "").toList = true ∧ isAscii cfg.prometheusApiKey.toList = true) :=
  ⟨guardDecides_iff hparse, prometheusDecides_iff⟩

/-- The library on the network `10.0.0.0/8` and on one address of it. -/
def tenPython : GatePython :=
  { asciiPython with
    ipAddress := fun text =>
      if text = "10.1.2.3" then some ⟨text, 4, false, false, false, false, true, false⟩ else none
    upper := fun s => String.ofList (s.toList.map Char.toUpper)
    ipNetwork := fun text =>
      if text = "10.0.0.0/8" then some ⟨4, 0x0a000000, 0xff000000⟩ else none
    ipNumber := fun _ => 0x0a010203 }

def tenSettings (password : String) : GateSettings where
  workerDashboardPassword := password
  workerDashboardAllowedIps := "10.0.0.0/8"
  prometheusApiKey := "s3cret"

def tenRequest (authorization : String) : Environ :=
  [("REMOTE_ADDR", "10.1.2.3"), ("HTTP_AUTHORIZATION", authorization)]

theorem tenRequest_allowed (password authorization : String) :
    ipAllowed tenPython (tenSettings password)
      (clientIp tenPython (tenSettings password) (tenRequest authorization)) = .ok true := by
  have hclient : clientIp tenPython (tenSettings password) (tenRequest authorization) =
      some "10.1.2.3" := rfl
  have hlist : commaList "10.0.0.0/8" = ["10.0.0.0/8"] := by decide
  have hnets : allowedNetworks tenPython (tenSettings password) =
      .ok [⟨4, 0x0a000000, 0xff000000⟩] := by
    rw [allowedNetworks, tenSettings, hlist]
    rfl
  rw [hclient, ipAllowed, hnets]
  rfl

theorem tenRequest_authorization (authorization : String) :
    (tenRequest authorization).lookup "HTTP_AUTHORIZATION" = some authorization := rfl

/-- Anyone can send what is not ASCII, and a password that is not ASCII lets nobody in. -/
theorem non_ascii_credentials_crash :
    Guard.call tenPython (tenSettings "s3cret") (tenRequest "Basic é") =
        .error (.valueError "string argument should contain only ASCII characters") ∧
      basic "" "é" = "Basic OsOp" ∧
      Guard.call tenPython (tenSettings "é") (tenRequest "Basic OsOp") =
        .error (.typeError "comparing strings with non-ASCII characters is not supported") ∧
      verifyPrometheus (tenSettings "é") (some "Bearer é") = .error (.unhandled
        (.typeError "comparing strings with non-ASCII characters is not supported")) ∧
      ¬ GuardDecides tenPython (tenSettings "s3cret") (tenRequest "Basic é") ∧
      ¬ GuardDecides tenPython (tenSettings "é") (tenRequest "Basic OsOp") ∧
      ¬ PrometheusDecides (tenSettings "é") (some "Bearer é") := by
  have hascii : Guard.call tenPython (tenSettings "s3cret") (tenRequest "Basic é") =
      .error (.valueError "string argument should contain only ASCII characters") := by
    have hheader : "Basic é" = "Basic " ++ "é" := by decide
    have hconfigured : (tenSettings "s3cret").workerDashboardPassword ≠ "" := by decide
    rw [Guard.call_allowed (tenRequest_allowed _ _), tenRequest_authorization, hheader,
      authorized_basic hconfigured]
    rfl
  have hlocked : Guard.call tenPython (tenSettings "é") (tenRequest "Basic OsOp") =
      .error (.typeError "comparing strings with non-ASCII characters is not supported") := by
    have hcarries : CarriesCredentials "OsOp" "" "é" :=
      ⟨[0x3a, 0xc3, 0xa9], ":é", by rfl, utf8Decode_eq_some.2 (by decide), by decide⟩
    have hheader : "Basic OsOp" = "Basic " ++ "OsOp" := by decide
    have hconfigured : (tenSettings "é").workerDashboardPassword ≠ "" := by decide
    rw [Guard.call_allowed (tenRequest_allowed _ _), tenRequest_authorization, hheader,
      authorized_basic hconfigured, decodeCredentials_ok.2 hcarries]
    rfl
  have hmetrics : verifyPrometheus (tenSettings "é") (some "Bearer é") = .error (.unhandled
      (.typeError "comparing strings with non-ASCII characters is not supported")) := rfl
  refine ⟨hascii, by decide, hlocked, hmetrics, ?_, ?_, ?_⟩
  · intro h
    obtain ⟨decision, hdecision⟩ := h.returns
    rw [hascii] at hdecision
    cases hdecision
  · intro h
    obtain ⟨decision, hdecision⟩ := h.returns
    rw [hlocked] at hdecision
    cases hdecision
  · intro h
    cases h.raises _ hmetrics

theorem gates_decide_ten :
    GuardDecides tenPython (tenSettings "s3cret") (tenRequest (basic "admin" "s3cret")) ∧
      PrometheusDecides (tenSettings "s3cret") (some "Bearer wrong") := by
  have hgates := gates_decide_iff tenPython (tenSettings "s3cret") (by decide)
    (tenRequest (basic "admin" "s3cret")) (some "Bearer wrong")
  constructor
  · apply hgates.1.2
    intro h
    have hcrash := (credentialsCrash_basic (by decide) "s3cret").1 h.2
    exact hcrash.2 ⟨⟨by decide, by decide⟩, fun hany => absurd rfl hany⟩
  · exact hgates.2.2 (.inr ⟨by decide, by decide⟩)

end FileScanner
