import FileScanner.App.Auth
import FileScanner.Signing

namespace FileScanner
open Collections Fallible
set_option autoImplicit true

def AUDIENCE : String := "file-scanner"

def TTL_SECONDS : Int := 300

def mintedClaims (py : JwtPython) (now : Rat) (iss method htu : String) (body : Option Bytes) :
    Claims where
  iss := iss
  aud := AUDIENCE
  iat := truncate now
  exp := truncate now + TTL_SECONDS
  htm := py.upper method
  htu := htu
  bh := body.map (bodyHash py)

/-- `mint-token.py`: a token for one request of a caller, and for its body if there is one. -/
def mintToken (py : JwtPython) (signer : Signer) (now : Rat) (privateKey iss method htu : String)
    (body : Option Bytes) : Except JwtFailure String := do
  let raw ← urlsafeB64decode (privateKey.toList ++ "==".toList)
  if h : raw.length = KEY_BYTES then
    pure (signer.encode (mintedClaims py now iss method htu body).payload ⟨raw, h⟩ none)
  else throw (.raised (.valueError "An Ed25519 private key is 32 bytes long"))

/-- The request with the token that is sent with it. -/
def Request.withToken (request : Request) (token : String) : Request :=
  { request with authorization := some ("Bearer " ++ token) }

theorem bearer_withToken (request : Request) {token : String}
    (h : ∀ c ∈ token.toList, isSpace c = false) : bearer (request.withToken token) = .ok token := by
  have htext : ((request.withToken token).authorization.getD "").toList =
      "Bearer ".toList ++ token.toList := String.toList_append
  have hprefix : "Bearer ".toList.isPrefixOf ("Bearer ".toList ++ token.toList) = true :=
    List.isPrefixOf_iff_prefix.2 (List.prefix_append _ _)
  have hdrop : ("Bearer ".toList ++ token.toList).drop 7 = token.toList := rfl
  have hstrip : strip token.toList = token.toList :=
    strip_eq_self (fun c hc => h c (List.mem_of_head? hc)) (fun c hc => h c (List.mem_of_getLast? hc))
  rw [bearer, htext, hprefix, raiseIf_neg Bool.true_eq_false.mp, ok_bind, hdrop, hstrip,
    String.ofList_toList]
  rfl

/-- The body of a request is within the cap, where it is bound. -/
def Request.WithinCap (py : JwtPython) (request : Request) (bindBody : Bool) : Prop :=
  bindBody = true → checkDeclaredBody py request.contentLength = .ok () ∧
    request.body.length ≤ JSON_MAX_BODY_SIZE

/-- What `mint-token.py` is told about a request. -/
def Request.claims (py : JwtPython) (request : Request) (bindBody : Bool) (now : Rat)
    (iss : String) : Claims :=
  mintedClaims py now iss request.method
    (requestTarget py request.method request.urlPath request.urlQuery).2
    (if bindBody then some request.body else none)

section Onboarding
variable {py : JwtPython} {lib : PyJwt} {signer : Signer} {key : Ed25519Key}

theorem mintToken_issued (signer : Signer) {privateKey : String}
    (h : urlsafeB64decode (privateKey.toList ++ "==".toList) = .ok key.bytes) (now : Rat)
    (iss method htu : String) (body : Option Bytes) :
    mintToken py signer now privateKey iss method htu body =
      .ok (signer.encode (mintedClaims py now iss method htu body).payload key none) := by
  rw [mintToken, h, ok_bind, dif_pos key.length]
  rfl

/-- A token minted for a request admits it, on behalf of the caller whose key signed it. -/
theorem authenticate_minted (hsigner : signer.Verifies lib) {cfg : JwtSettings} {minted now : Rat}
    {request : Request} {bindBody : Bool} {iss : String}
    (hfits : (request.claims py bindBody minted iss).Fits cfg (signer.publicKey key) now)
    (hcap : request.WithinCap py bindBody) :
    authenticate py lib cfg now (request.withToken
      (signer.encode (request.claims py bindBody minted iss).payload key none)) bindBody =
        .ok (.str iss) := by
  rw [authenticate_ok]
  refine ⟨?_, ?_, _, _, bearer_withToken request (hsigner.plain _ _ _),
    decode_payload hsigner hfits, checkBinding_payload.2 ⟨rfl, rfl, ?_⟩, rfl⟩
  · cases bindBody with
    | false => rfl
    | true => exact (hcap rfl).1
  · rintro ⟨hbind, hlong⟩
    exact absurd (hcap hbind).2 (not_le.2 hlong)
  · intro hbind
    rw [Request.claims, mintedClaims, hbind]
    rfl

end Onboarding

/-- A caller who is set up by the scripts is admitted: with the printed entry appended to any
configuration that loads, a token minted with the printed key for a request admits this request,
within its window, as one of this caller. -/
theorem onboarded_caller_admitted (py : JwtPython) (lib : PyJwt) (signer : Signer)
    (hsigner : signer.Verifies lib) (config argument : String) (keys : Dict String PublicKey)
    (hconfig : loadIssuers py config = .ok keys) (seed : Ed25519Key) (issued : NewIssuer)
    (hnew : newIssuer argument seed (signer.publicKey seed) = some issued) :
    ∃ keys' iss, loadIssuers py (config ++ "," ++ issued.entry) = .ok keys' ∧
      iss = String.ofList (strip argument.toList) ∧
      ∀ (request : Request) (bindBody : Bool) (minted : Rat), request.WithinCap py bindBody →
        ∃ token, mintToken py signer minted issued.privateKey iss request.method
            (requestTarget py request.method request.urlPath request.urlQuery).2
            (if bindBody then some request.body else none) = .ok token ∧
          ∀ cfg now, cfg.issuerKeys = keys' → cfg.audience = AUDIENCE →
            (cfg.maxAge = 0 ∨ TTL_SECONDS ≤ cfg.maxAge) →
            (truncate minted : Rat) ≤ now + cfg.leeway →
            now - cfg.leeway < (truncate minted + TTL_SECONDS : Int) →
            authenticate py lib cfg now (request.withToken token) bindBody = .ok (.str iss) := by
  have hregistered := new_issuer_registered py argument seed (signer.publicKey seed) issued hnew
  refine ⟨_, _, hregistered.appended config keys hconfig, rfl, fun request bindBody minted hcap => ?_⟩
  refine ⟨_, mintToken_issued signer hregistered.minted minted _ _ _ _, ?_⟩
  intro cfg now hkeys haud hlife hiat hexp
  refine authenticate_minted hsigner ⟨?_, haud, ?_, hiat, hexp⟩ hcap
  · rw [hkeys]
    exact Dict.lookup_set_self _ _ _
  · have hspan : (request.claims py bindBody minted (String.ofList (strip argument.toList))).exp -
        (request.claims py bindBody minted (String.ofList (strip argument.toList))).iat =
          TTL_SECONDS := add_sub_cancel_left _ _
    rwa [hspan]

def pollRequest : Request where
  method := "GET"
  path := "/api/v2.0/jobs/job"
  query := ""
  urlPath_plain := by decide

theorem onboarded_caller_admitted_drive :
    authenticate asciiJwtPython tablePyJwt { issuerKeys := [("drive", zeroPoint.bytes)] }
      1700000100 (pollRequest.withToken pollToken) false = .ok (.str "drive") := by
  obtain ⟨keys, iss, hload, hiss, hadmits⟩ := onboarded_caller_admitted asciiJwtPython tablePyJwt
    tableSigner tableSigner_verifies "" "drive" [] rfl zeroSeed _ rfl
  obtain ⟨token, hminted, htoken⟩ :=
    hadmits pollRequest false 1700000000 (by intro hbind; cases hbind)
  have hregistered := new_issuer_registered asciiJwtPython "drive" zeroSeed
    (tableSigner.publicKey zeroSeed) _ rfl
  have hkeys := hregistered.appended "" [] rfl
  have hdrive : iss = "drive" := hiss
  rw [hload, Except.ok.injEq] at hkeys
  subst hdrive
  have hclaims : mintedClaims asciiJwtPython 1700000000 "drive" "GET" "/api/v2.0/jobs/job" none =
    pollClaims := by decide +kernel
  have hpoll : tableSigner.encode pollClaims.payload zeroSeed none = pollToken := rfl
  have hissued := @mintToken_issued asciiJwtPython zeroSeed tableSigner _ hregistered.minted
    1700000000 "drive" "GET" "/api/v2.0/jobs/job" none
  rw [hclaims, hpoll] at hissued
  cases hissued.symm.trans hminted
  rw [hkeys] at htoken
  exact htoken { issuerKeys := [("drive", zeroPoint.bytes)] } 1700000100 rfl rfl
    (.inr (by decide)) (by decide +kernel) (by decide +kernel)

end FileScanner
