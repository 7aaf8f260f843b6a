import FileScanner.App.Scan
import FileScanner.Encryption
import FileScanner.Jwt

namespace FileScanner
open Collections Fallible
set_option autoImplicit true

def JSON_MAX_BODY_SIZE : Nat := 64 * 1024

/-- A request: its decoded path and its raw query, on which it is dispatched, and what `request.url`
has for these, a URL made of the `Host` header, the path and the query and then read again. -/
structure Request where
  method : String
  path : String
  query : String
  urlPath : String := path
  urlQuery : String := query
  contentLength : Option String := none
  authorization : Option String := none
  body : Bytes := []
  urlPath_plain : '?' ∉ urlPath.toList

/-- `request.url` gives back what the request is dispatched on. It does unless the decoded path or
the `Host` header holds a delimiter of URLs. -/
def Request.Direct (request : Request) : Prop :=
  request.urlPath = request.path ∧ request.urlQuery = request.query

/-- `isdigit` on the text of a header, which is Latin-1. -/
def isDigitText (text : String) : Bool :=
  text ≠ "" && text.toList.all (fun c => c.isDigit || ['²', '³', '¹'].contains c)

/-- The cap on the declared length, before the body is buffered. -/
def checkDeclaredBody (py : JwtPython) (contentLength : Option String) : Except Failure Unit :=
  match contentLength with
  | none => .ok ()
  | some cl =>
    if isDigitText cl then
      match py.int cl with
      | none => .error (.unhandled
          (.valueError ("invalid literal for int() with base 10: " ++ py.repr (.str cl))))
      | some n => raiseIf (JSON_MAX_BODY_SIZE < n) (.http 413 "Request body too large")
    else .ok ()

def bearer (request : Request) : Except Failure String := do
  let authz := (request.authorization.getD "").toList
  raiseIf ("Bearer ".toList.isPrefixOf authz = false) (.http 401 "Missing bearer token")
  pure (String.ofList (strip (authz.drop 7)))

def unauthorized : JwtFailure → Failure
  | .jwtError msg => .http 401 ("Invalid token: " ++ msg)
  | .raised e => .unhandled e

/-- Authenticate a request by its token, bound to the request, and to its body on demand; the
identity of the caller. -/
def authenticate (py : JwtPython) (lib : PyJwt) (cfg : JwtSettings) (now : Rat)
    (request : Request) (bindBody : Bool) : Except Failure Json := do
  checkDeclaredBody py (if bindBody then request.contentLength else none)
  let token ← bearer request
  let payload ← (decode py lib cfg now token).mapError unauthorized
  let target := requestTarget py request.method request.urlPath request.urlQuery
  raiseIf (bindBody = true ∧ JSON_MAX_BODY_SIZE < request.body.length)
    (.http 413 "Request body too large")
  (checkBinding py payload target.1 target.2 (if bindBody then some request.body else none)
    bindBody).mapError unauthorized
  match payload.lookup "iss" with
  | some iss => pure iss
  | none => .error (.unhandled (.keyError "iss"))

theorem authenticate_ok {py : JwtPython} {lib : PyJwt} {cfg : JwtSettings} {now : Rat}
    {request : Request} {bindBody : Bool} {user : Json} :
    authenticate py lib cfg now request bindBody = .ok user ↔
      checkDeclaredBody py (if bindBody then request.contentLength else none) = .ok () ∧
      ¬ (bindBody = true ∧ JSON_MAX_BODY_SIZE < request.body.length) ∧
      ∃ token claims, bearer request = .ok token ∧ decode py lib cfg now token = .ok claims ∧
        checkBinding py claims
          (requestTarget py request.method request.urlPath request.urlQuery).1
          (requestTarget py request.method request.urlPath request.urlQuery).2
          (if bindBody then some request.body else none) bindBody = .ok () ∧
        claims.lookup "iss" = some user := by
  rw [authenticate]
  constructor
  · intro h
    obtain ⟨⟨⟩, hdeclared, h⟩ := bind_eq_ok.1 h
    obtain ⟨token, htoken, h⟩ := bind_eq_ok.1 h
    obtain ⟨claims, hclaims, h⟩ := bind_eq_ok.1 h
    obtain ⟨⟨⟩, hcap, h⟩ := bind_eq_ok.1 h
    obtain ⟨⟨⟩, hbinding, h⟩ := bind_eq_ok.1 h
    refine ⟨hdeclared, raiseIf_eq_ok.1 hcap, token, claims, htoken, mapError_eq_ok.1 hclaims,
      mapError_eq_ok.1 hbinding, ?_⟩
    split at h
    · rename_i iss hiss
      cases h
      exact hiss
    · cases h
  · intro h
    obtain ⟨hdeclared, hcap, token, claims, htoken, hclaims, hbinding, hiss⟩ := h
    rw [hdeclared, ok_bind, htoken, ok_bind, mapError_eq_ok.2 hclaims, ok_bind]
    dsimp only
    rw [raiseIf_neg hcap, ok_bind, mapError_eq_ok.2 hbinding, ok_bind, hiss]
    rfl

/-- The endpoints that authenticate a caller. -/
inductive Endpoint where
  | scan
  | scanAsync
  | jobStatus (jobId : String)
  deriving DecidableEq, Repr

/-- `auth_async` on the asynchronous endpoint, `auth_sync` on the others. -/
def Endpoint.bindsBody : Endpoint → Bool
  | .scanAsync => true
  | .scan | .jobStatus _ => false

def Endpoint.method : Endpoint → String
  | .scan | .scanAsync => "POST"
  | .jobStatus _ => "GET"

def stripPrefix (head text : List Char) : Option (List Char) :=
  if head.isPrefixOf text then some (text.drop head.length) else none

/-- The route of a path under a version; the `$` of a route also matches before a last break. -/
def endpointUnder (rest : List Char) : Option Endpoint :=
  if dropLastBreak rest = "scan".toList then some .scan
  else if dropLastBreak rest = "scan-async".toList then some .scanAsync
  else
    match stripPrefix "jobs/".toList rest with
    | some jobId =>
      if jobId ≠ [] ∧ '/' ∉ jobId then some (.jobStatus (String.ofList jobId)) else none
    | none => none

def endpointOf (path : String) : Option Endpoint :=
  (PREFIXES.findSome? (fun e => stripPrefix e.1.toList path.toList)).bind endpointUnder

/-- The endpoint a request is dispatched to. -/
def dispatch (request : Request) : Option Endpoint :=
  (endpointOf request.path).filter (fun e => e.method = request.method)

end FileScanner
