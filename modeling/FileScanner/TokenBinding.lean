import FileScanner.App.Auth
import FileScanner.TokenLife
import FileScanner.WebhookGuard

namespace FileScanner
open Collections Fallible
set_option autoImplicit true

/-- What follows the path in a request target. -/
def targetTail (query : String) : List Char := if query ≠ "" then '?' :: query.toList else []

theorem targetTail_injective : Function.Injective targetTail := by
  intro q₁ q₂ h
  rw [targetTail, targetTail] at h
  split at h
  · split at h
    · exact String.toList_injective (List.cons.inj h).2
    · cases h
  · rename_i h₁
    split at h
    · cases h
    · rename_i h₂
      exact (not_not.1 h₁).trans (not_not.1 h₂).symm

theorem toList_requestTarget (py : JwtPython) (method path query : String) :
    (requestTarget py method path query).2.toList = path.toList ++ targetTail query := by
  rw [requestTarget, targetTail, String.toList_append]
  split
  · rw [String.toList_append]
    rfl
  · rfl

/-- The path is what precedes the first question mark of the target. -/
theorem takeWhile_target {path : List Char} (h : '?' ∉ path) (query : String) :
    (path ++ targetTail query).takeWhile (· ≠ '?') = path := by
  have hpath : ∀ c ∈ path, decide (c ≠ '?') = true := by
    intro c hc
    apply decide_eq_true
    intro he
    exact h (he ▸ hc)
  rw [List.takeWhile_append_of_pos hpath, targetTail]
  split
  · exact List.append_nil path
  · exact List.append_nil path

theorem requestTarget_inj {py : JwtPython} {r₁ r₂ : Request}
    (h : requestTarget py r₁.method r₁.urlPath r₁.urlQuery =
      requestTarget py r₂.method r₂.urlPath r₂.urlQuery) :
    py.upper r₁.method = py.upper r₂.method ∧ r₁.urlPath = r₂.urlPath ∧
      r₁.urlQuery = r₂.urlQuery := by
  have htarget := congrArg (fun t : String × String => t.2.toList) h
  simp only [toList_requestTarget] at htarget
  have hpath : r₁.urlPath.toList = r₂.urlPath.toList := by
    rw [← takeWhile_target r₁.urlPath_plain r₁.urlQuery, htarget,
      takeWhile_target r₂.urlPath_plain]
  rw [hpath, List.append_right_inj] at htarget
  exact ⟨(Prod.mk.inj h).1, String.toList_injective hpath, targetTail_injective htarget⟩

/-- A request that is accepted is the one the claims of its token name, by a configured issuer. -/
structure Bound (py : JwtPython) (lib : PyJwt) (cfg : JwtSettings) (request : Request)
    (bindBody : Bool) (token : String) (user : Json) (claims : Dict String Json) : Prop where
  carried : lib.unverified token = .ok claims
  issuer : claims.lookup "iss" = some user
  configured : ∃ iss key, user = .str iss ∧ cfg.issuerKeys.lookup iss = some key
  method : getKey claims "htm" = .str (py.upper request.method)
  target : getKey claims "htu" =
    .str (requestTarget py request.method request.urlPath request.urlQuery).2
  body : bindBody = true → getKey claims "bh" = .str (bodyHash py request.body)

section Binding
variable {py : JwtPython} {lib : PyJwt} {cfg : JwtSettings}

theorem authenticate_bound (hlib : lib.ReturnsCarried) {now : Rat} {request : Request}
    {bindBody : Bool} {user : Json} (h : authenticate py lib cfg now request bindBody = .ok user) :
    ∃ token claims, bearer request = .ok token ∧
      Bound py lib cfg request bindBody token user claims := by
  obtain ⟨-, -, token, claims, htoken, hclaims, hbinding, huser⟩ := authenticate_ok.1 h
  obtain ⟨iss, key, hcarried, hiss, hlookup, -, -⟩ := decode_carried hlib hclaims
  obtain ⟨hmethod, htarget, hbody⟩ := checkBinding_ok hbinding
  rw [getKey_of_lookup huser] at hiss
  refine ⟨token, claims, htoken, hcarried, huser, ⟨iss, key, hiss, hlookup⟩, hmethod, htarget, ?_⟩
  intro hbind
  have hbh := hbody hbind
  rw [if_pos hbind] at hbh
  exact hbh

end Binding

/-- Two requests are the same one, as far as a token binds it, and so is their version. -/
structure SameRequest (py : JwtPython) (r₁ r₂ : Request) : Prop where
  method : py.upper r₁.method = py.upper r₂.method
  path : r₁.urlPath = r₂.urlPath
  query : r₁.urlQuery = r₂.urlQuery
  version : ofPath r₁.urlPath = ofPath r₂.urlPath

/-- Two requests are dispatched alike, on one path with one query, and their bodies are the same
where the endpoint binds them. -/
structure SameCall (py : JwtPython) (r₁ r₂ : Request) (bind₁ bind₂ : Bool) (e₁ e₂ : Endpoint) :
    Prop where
  path : r₁.path = r₂.path
  query : r₁.query = r₂.query
  endpoint : e₁ = e₂
  body : bind₁ = e₁.bindsBody → bind₂ = e₂.bindsBody → e₁.bindsBody = true →
    (py.sha256 r₁.body = py.sha256 r₂.body → r₁.body = r₂.body) → r₁.body = r₂.body

theorem dispatch_path {request : Request} {e : Endpoint} (h : dispatch request = some e) :
    endpointOf request.path = some e := (Option.filter_eq_some_iff.1 h).1

/-- A token authorises one request: any two it is accepted with are the same, and are dispatched as
one where `request.url` gives back what they are dispatched on. -/
theorem token_authorizes_one_request (py : JwtPython) (lib : PyJwt) (cfg : JwtSettings)
    (hlib : lib.ReturnsCarried) (t₁ t₂ : Rat) (r₁ r₂ : Request) (bind₁ bind₂ : Bool)
    (u₁ u₂ : Json) (htoken : bearer r₁ = bearer r₂)
    (h₁ : authenticate py lib cfg t₁ r₁ bind₁ = .ok u₁)
    (h₂ : authenticate py lib cfg t₂ r₂ bind₂ = .ok u₂) :
    SameRequest py r₁ r₂ ∧
      (∃ iss key, u₁ = .str iss ∧ u₂ = .str iss ∧ cfg.issuerKeys.lookup iss = some key) ∧
      (r₁.Direct → r₂.Direct → ∀ e₁ e₂, dispatch r₁ = some e₁ → dispatch r₂ = some e₂ →
        SameCall py r₁ r₂ bind₁ bind₂ e₁ e₂) := by
  obtain ⟨token, claims, hb₁, hbound₁⟩ := authenticate_bound hlib h₁
  obtain ⟨token', claims', hb₂, hbound₂⟩ := authenticate_bound hlib h₂
  rw [htoken, hb₂, Except.ok.injEq] at hb₁
  subst hb₁
  have hclaims := hbound₁.carried
  rw [hbound₂.carried, Except.ok.injEq] at hclaims
  subst hclaims
  have htarget := hbound₁.target
  rw [hbound₂.target, Json.str.injEq] at htarget
  have hmethod := hbound₁.method
  rw [hbound₂.method, Json.str.injEq] at hmethod
  obtain ⟨-, hpath, hquery⟩ := requestTarget_inj (Prod.ext hmethod.symm htarget.symm)
  have huser := hbound₁.issuer
  rw [hbound₂.issuer, Option.some.injEq] at huser
  subst huser
  obtain ⟨iss, key, hiss, hkey⟩ := hbound₁.configured
  refine ⟨⟨hmethod.symm, hpath, hquery, congrArg ofPath hpath⟩, ⟨iss, key, hiss, hiss, hkey⟩, ?_⟩
  intro hdirect₁ hdirect₂ e₁ e₂ he₁ he₂
  have hpaths : r₁.path = r₂.path := by rw [← hdirect₁.1, hpath, hdirect₂.1]
  have hqueries : r₁.query = r₂.query := by rw [← hdirect₁.2, hquery, hdirect₂.2]
  have hendpoint := dispatch_path he₁
  rw [hpaths, dispatch_path he₂, Option.some.injEq] at hendpoint
  subst hendpoint
  refine ⟨hpaths, hqueries, rfl, ?_⟩
  intro hbind₁ hbind₂ hbody hcollision
  have hhash := hbound₁.body (hbind₁.trans hbody)
  rw [hbound₂.body (hbind₂.trans hbody), Json.str.injEq] at hhash
  exact hcollision (b64urlEncode_injective hhash).symm

/-- The text that a caller sends to have a file scanned. -/
def callBody : Bytes :=
  encode ("\x7b\"url\":\"https://example.com/f\",\"webhook_url\":\"https://example.com/hook\"," ++
    "\"scanners\":[\"clamav\"]\x7d")

/-- The SHA-256 digest of this text. -/
def callDigest : Bytes :=
  [0xae, 0xec, 0x6c, 0xe5, 0x8c, 0x59, 0xad, 0x44, 0xc2, 0x09, 0xef, 0xb8, 0xec, 0x39, 0x29, 0x2d,
    0xdc, 0x98, 0x8e, 0x24, 0xec, 0x27, 0x36, 0xe1, 0xab, 0x48, 0x1e, 0x66, 0xea, 0xca, 0xa9, 0xea]

def callPython : JwtPython :=
  { publicPython with
    upper := asciiJwtPython.upper
    floatSub := asciiJwtPython.floatSub
    sha256 := fun raw => if raw = callBody then callDigest else emptyDigest }

/-- The claims of a token for a call with this text. -/
def callClaims : Dict String Json :=
  [("iss", .str "drive"), ("iat", .int 1700000000), ("exp", .int 1700000300),
    ("htm", .str "POST"), ("htu", .str "/api/v2.0/scan-async?trace=1"),
    ("bh", .str "ruxs5YxZrUTCCe-47DkpLdyYjiTsJzbhq0geZurKqeo")]

def callRequest : Request where
  method := "POST"
  path := "/api/v2.0/scan-async"
  query := "trace=1"
  authorization := some "Bearer token"
  body := callBody
  urlPath_plain := by decide

theorem target_callRequest : requestTarget callPython "POST" "/api/v2.0/scan-async" "trace=1" =
    ("POST", "/api/v2.0/scan-async?trace=1") := by decide

theorem bodyHash_callBody :
    bodyHash callPython callBody = "ruxs5YxZrUTCCe-47DkpLdyYjiTsJzbhq0geZurKqeo" := by
  have hdigest : callPython.sha256 callBody = callDigest := by
    change (if callBody = callBody then callDigest else emptyDigest) = callDigest
    exact if_pos rfl
  rw [bodyHash, hdigest]
  decide

/-- The request passes, with the length of its body declared or not. -/
theorem authenticate_callRequest {contentLength : Option String}
    (hdeclared : checkDeclaredBody callPython contentLength = .ok ()) :
    authenticate callPython (windowLibrary publicPython callClaims)
      (windowSettings "drive" 300 60) 1700000100
      { callRequest with contentLength := contentLength } true = .ok (.str "drive") := by
  have hdecode : decode callPython (windowLibrary publicPython callClaims)
      (windowSettings "drive" 300 60) 1700000100 "token" = .ok callClaims :=
    decode_windowLibrary (by decide) rfl (.inr (.inr ⟨.int 300, rfl, rfl⟩)) rfl rfl
      (by norm_num) (by norm_num) "token"
  have hbearer : bearer callRequest = .ok "token" := by decide
  have hcap : callBody.length ≤ JSON_MAX_BODY_SIZE := by decide
  apply authenticate_ok.2
  refine ⟨hdeclared, fun h => absurd hcap (not_le.2 h.2), "token", callClaims, hbearer, hdecode, ?_,
    rfl⟩
  change checkBinding callPython callClaims
    (requestTarget callPython "POST" "/api/v2.0/scan-async" "trace=1").1
    (requestTarget callPython "POST" "/api/v2.0/scan-async" "trace=1").2 (some callBody) true =
      .ok ()
  rw [target_callRequest, checkBinding, Option.getD_some, bodyHash_callBody]
  rfl

/-- The request with the length of its body declared. -/
def declaredRequest : Request := { callRequest with contentLength := some "94" }

theorem token_authorizes_one_request_declared :
    SameRequest callPython callRequest declaredRequest ∧
      SameCall callPython callRequest declaredRequest true true .scanAsync .scanAsync := by
  obtain ⟨hsame, -, hcall⟩ := token_authorizes_one_request callPython
    (windowLibrary publicPython callClaims) (windowSettings "drive" 300 60)
    (windowLibrary_checks publicPython callClaims).carried 1700000100 1700000100 callRequest
    declaredRequest true true _ _ rfl (authenticate_callRequest rfl)
    (authenticate_callRequest (by decide))
  exact ⟨hsame, hcall ⟨rfl, rfl⟩ ⟨rfl, rfl⟩ _ _ (by decide) (by decide)⟩

end FileScanner
