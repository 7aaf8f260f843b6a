import FileScanner.TokenBinding

namespace FileScanner
open Collections Fallible
set_option autoImplicit true

def IsJwtError : JwtFailure → Prop
  | .jwtError _ => True
  | .raised _ => False

def IsPyJwtError : PyJwtFailure → Prop
  | .pyJwtError _ _ => True
  | .raised _ => False

/-- The 401 of a refused token, or the 413 of a body that is bound and too large. -/
def IsRejection (bindBody : Bool) : Failure → Prop
  | .http statusCode _ => statusCode = 401 ∨ (bindBody = true ∧ statusCode = 413)
  | .unhandled _ => False

/-- What the token code computes on a token's claims can be computed: its issuer can be looked
up, PyJWT can verify it under the key of that issuer, and its lifetime can be measured. -/
structure TokenReads (py : JwtPython) (lib : PyJwt) (cfg : JwtSettings) (now : Rat)
    (token : String) : Prop where
  issuer : ∀ claims, lib.unverified token = .ok claims → (getKey claims "iss").unhashable = false
  verification : ∀ claims key, lib.unverified token = .ok claims →
    issuerKey py cfg (getKey claims "iss") = .ok key →
    RaisesOnly IsPyJwtError (lib.verified now key cfg.audience cfg.leeway token)
  lifetime : ∀ claims key, lib.unverified token = .ok claims →
    issuerKey py cfg (getKey claims "iss") = .ok key →
    lib.verified now key cfg.audience cfg.leeway token = .ok claims → cfg.maxAge ≠ 0 →
    (getKey claims "iat").isNumber = true → (getKey claims "exp").isNumber = true →
    ∃ life, subtract py (getKey claims "exp") (getKey claims "iat") = .ok life

/-- A declared length that is all digits is a number to `int`. -/
def LengthReads (py : JwtPython) (contentLength : Option String) : Prop :=
  ∀ cl, contentLength = some cl → isDigitText cl = true → ∃ n, py.int cl = some n

/-- Every failure is a rejection, and who is let in is an issuer whose key verified the token. -/
structure FailsSafe (py : JwtPython) (lib : PyJwt) (cfg : JwtSettings) (now : Rat)
    (request : Request) (bindBody : Bool) : Prop where
  accepted : ∀ user, authenticate py lib cfg now request bindBody = .ok user →
    ∃ iss key token claims, user = .str iss ∧ cfg.issuerKeys.lookup iss = some key ∧
      bearer request = .ok token ∧
      lib.verified now key cfg.audience cfg.leeway token = .ok claims ∧
      claims.lookup "iss" = some (.str iss)
  refused : RaisesOnly (IsRejection bindBody) (authenticate py lib cfg now request bindBody)
  decoding : ∀ token, bearer request = .ok token →
    RaisesOnly IsJwtError (decode py lib cfg now token)

section Decode
variable {py : JwtPython} {lib : PyJwt} {cfg : JwtSettings} {now : Rat} {token : String}

theorem issuerKey_raises_iff (iss : Json) :
    RaisesOnly IsJwtError (issuerKey py cfg iss) ↔ iss.unhashable = false := by
  cases iss with
  | list xs => exact iff_of_false raisesOnly_error.1 Bool.true_eq_false.mp
  | obj entries => exact iff_of_false raisesOnly_error.1 Bool.true_eq_false.mp
  | str s =>
    rw [issuerKey]
    apply iff_of_true _ rfl
    split
    · exact .ok _
    · exact .error trivial
  | _ => exact iff_of_true (.error trivial) rfl

theorem checkLifetime_raises_iff {maxAge : Int} {claims : Dict String Json} :
    RaisesOnly IsJwtError (checkLifetime py maxAge claims) ↔
      (maxAge ≠ 0 → (getKey claims "iat").isNumber = true →
        (getKey claims "exp").isNumber = true →
        ∃ life, subtract py (getKey claims "exp") (getKey claims "iat") = .ok life) := by
  rw [checkLifetime]
  split
  · rename_i h
    obtain ⟨hage, hiat, hexp⟩ := h
    cases hlife : subtract py (getKey claims "exp") (getKey claims "iat") with
    | error e =>
      apply iff_of_false raisesOnly_error.1
      intro hlife'
      obtain ⟨life, hl⟩ := hlife' hage hiat hexp
      cases hl
    | ok life => exact iff_of_true (.raiseIf trivial) (fun _ _ _ => ⟨life, rfl⟩)
  · rename_i h
    exact iff_of_true (.ok _) (fun hage hiat hexp => absurd ⟨hage, hiat, hexp⟩ h)

theorem malformed_isJwtError (e : PyJwtFailure) : IsJwtError (malformed e) ↔ IsPyJwtError e := by
  cases e with
  | pyJwtError kind text => exact Iff.rfl
  | raised e => exact Iff.rfl

theorem rejected_isJwtError (audience : String) (e : PyJwtFailure) :
    IsJwtError (rejected py audience e) ↔ IsPyJwtError e := by
  cases e with
  | pyJwtError kind text => cases kind <;> exact Iff.rfl
  | raised e => exact Iff.rfl

theorem decode_raises_iff (hlib : lib.ReturnsCarried)
    (hunverified : RaisesOnly IsPyJwtError (lib.unverified token)) :
    RaisesOnly IsJwtError (decode py lib cfg now token) ↔ TokenReads py lib cfg now token := by
  rw [decode, raisesOnly_bind, raisesOnly_mapError]
  simp only [malformed_isJwtError, mapError_eq_ok, raisesOnly_bind, raisesOnly_mapError,
    rejected_isJwtError, issuerKey_raises_iff, checkLifetime_raises_iff]
  constructor
  · intro h
    constructor
    · intro claims hc
      exact (h.2 claims hc).1
    · intro claims key hc hkey
      exact ((h.2 claims hc).2 key hkey).1
    · intro claims key hc hkey hv
      exact (((h.2 claims hc).2 key hkey).2 claims hv).1
  · intro h
    apply And.intro hunverified
    intro claims hc
    apply And.intro (h.issuer claims hc)
    intro key hkey
    apply And.intro (h.verification claims key hc hkey)
    intro verified hv
    have hcarried := hlib _ _ _ _ _ _ hv
    rw [hc, Except.ok.injEq] at hcarried
    subst hcarried
    exact ⟨h.lifetime claims key hc hkey hv, fun _ _ => .ok claims⟩

theorem checkBinding_raises (payload : Dict String Json) (method htu : String)
    (body : Option Bytes) (requireBody : Bool) :
    RaisesOnly IsJwtError (checkBinding py payload method htu body requireBody) := by
  apply RaisesOnly.bind
  · exact .raiseIf trivial
  · intro _ _
    apply RaisesOnly.bind
    · exact .raiseIf trivial
    · intro _ _
      exact .raiseIf trivial

/-- Claims that pass name an issuer, since its key verified them. -/
theorem decode_issuer (hlib : lib.ReturnsCarried) {claims : Dict String Json}
    (h : decode py lib cfg now token = .ok claims) :
    ∃ iss key, claims.lookup "iss" = some (.str iss) ∧ cfg.issuerKeys.lookup iss = some key ∧
      lib.verified now key cfg.audience cfg.leeway token = .ok claims := by
  obtain ⟨iss, key, -, hiss, hlookup, hverified, -⟩ := decode_carried hlib h
  exact ⟨iss, key, lookup_of_getKey hiss Json.noConfusion, hlookup, hverified⟩

end Decode

section Authenticate
variable {py : JwtPython} {lib : PyJwt} {cfg : JwtSettings} {now : Rat} {request : Request}
  {bindBody : Bool}

theorem unauthorized_isRejection (e : JwtFailure) :
    IsRejection bindBody (unauthorized e) ↔ IsJwtError e := by
  cases e with
  | jwtError msg => exact iff_of_true (.inl rfl) trivial
  | raised e => exact Iff.rfl

theorem checkDeclaredBody_raises_iff :
    RaisesOnly (IsRejection bindBody)
        (checkDeclaredBody py (if bindBody then request.contentLength else none)) ↔
      (bindBody = true → LengthReads py request.contentLength) := by
  cases bindBody with
  | false => exact iff_of_true (.ok _) (fun h => nomatch h)
  | true =>
    rw [if_pos rfl]
    cases request.contentLength with
    | none => exact iff_of_true (.ok _) (fun _ cl h => nomatch h)
    | some cl =>
      rw [checkDeclaredBody]
      split
      · rename_i hdigits
        cases hint : py.int cl with
        | none =>
          apply iff_of_false raisesOnly_error.1
          intro h
          obtain ⟨n, hn⟩ := h rfl cl rfl hdigits
          cases hint.symm.trans hn
        | some n =>
          apply iff_of_true (.raiseIf (.inr ⟨rfl, rfl⟩))
          intro _ cl' hcl' _
          cases hcl'
          exact ⟨n, hint⟩
      · rename_i hdigits
        apply iff_of_true (.ok _)
        intro _ cl' hcl' hdigits'
        cases hcl'
        exact absurd hdigits' hdigits

theorem bearer_raises (request : Request) : RaisesOnly (IsRejection bindBody) (bearer request) := by
  apply RaisesOnly.bind
  · exact .raiseIf (.inl rfl)
  · intro _ _
    exact .ok _

theorem authenticate_raises (hlib : lib.ReturnsCarried)
    (hlength : bindBody = true → LengthReads py request.contentLength)
    (hdecode : ∀ token, bearer request = .ok token →
      RaisesOnly IsJwtError (decode py lib cfg now token)) :
    RaisesOnly (IsRejection bindBody) (authenticate py lib cfg now request bindBody) := by
  apply (checkDeclaredBody_raises_iff.2 hlength).bind
  intro _ _
  apply (bearer_raises request).bind
  intro token htoken
  apply RaisesOnly.bind
  · rw [raisesOnly_mapError]
    simp only [unauthorized_isRejection]
    exact hdecode token htoken
  · intro claims hclaims
    obtain ⟨iss, key, hiss, -, -⟩ := decode_issuer hlib (mapError_eq_ok.1 hclaims)
    dsimp only
    apply RaisesOnly.bind
    · intro e he
      obtain ⟨⟨hbind, -⟩, rfl⟩ := raiseIf_eq_error.1 he
      exact .inr ⟨hbind, rfl⟩
    · intro _ _
      apply RaisesOnly.bind
      · rw [raisesOnly_mapError]
        simp only [unauthorized_isRejection]
        exact checkBinding_raises claims _ _ _ _
      · intro _ _
        rw [hiss]
        exact .ok _

/-- A request is answered 401 for any failure of its token, or 413 for its body, exactly when the
code can compute what it computes on the claims of the token and on the declared length. -/
theorem token_failures_rejected_iff (py : JwtPython) (lib : PyJwt) (cfg : JwtSettings) (now : Rat)
    (request : Request) (bindBody : Bool) (hlib : lib.ReturnsCarried)
    (hunverified : ∀ token, RaisesOnly IsPyJwtError (lib.unverified token)) :
    FailsSafe py lib cfg now request bindBody ↔
      (bindBody = true → LengthReads py request.contentLength) ∧
        ∀ token, bearer request = .ok token → TokenReads py lib cfg now token := by
  have hdecode : ∀ token,
      RaisesOnly IsJwtError (decode py lib cfg now token) ↔ TokenReads py lib cfg now token :=
    fun token => decode_raises_iff hlib (hunverified token)
  constructor
  · intro h
    constructor
    · apply checkDeclaredBody_raises_iff.1
      intro e he
      apply h.refused e
      rw [authenticate, he]
      rfl
    · intro token htoken
      exact (hdecode token).1 (h.decoding token htoken)
  · intro h
    obtain ⟨hlength, hreads⟩ := h
    have hdecoding : ∀ token, bearer request = .ok token →
        RaisesOnly IsJwtError (decode py lib cfg now token) :=
      fun token htoken => (hdecode token).2 (hreads token htoken)
    constructor
    · intro user huser
      obtain ⟨-, -, token, claims, htoken, hclaims, -, hiss⟩ := authenticate_ok.1 huser
      obtain ⟨iss, key, hlookup, hkey, hverified⟩ := decode_issuer hlib hclaims
      rw [hlookup, Option.some.injEq] at hiss
      exact ⟨iss, key, token, claims, hiss.symm, hkey, htoken, hverified, hlookup⟩
    · exact authenticate_raises hlib hlength hdecoding
    · exact hdecoding

end Authenticate

/-- A token whose issuer is an empty list, signed by nobody. -/
theorem unhashable_issuer_crashes :
    authenticate callPython (windowLibrary publicPython [("iss", .list [])])
        (windowSettings "drive" 300 60) 1700000100 callRequest true =
          .error (.unhandled (.typeError "unhashable type: 'list'")) ∧
      ¬ FailsSafe callPython (windowLibrary publicPython [("iss", .list [])])
        (windowSettings "drive" 300 60) 1700000100 callRequest true := by
  have hcrash : authenticate callPython (windowLibrary publicPython [("iss", .list [])])
      (windowSettings "drive" 300 60) 1700000100 callRequest true =
        .error (.unhandled (.typeError "unhashable type: 'list'")) := by
    have hbearer : bearer callRequest = .ok "token" := by decide
    rw [authenticate, hbearer]
    rfl
  apply And.intro hcrash
  intro h
  exact h.refused _ hcrash

theorem windowLibrary_raises (py : Python) (claims : Dict String Json) {now : Rat}
    {key : PublicKey} {audience : String} {leeway : Int} {token : String} :
    RaisesOnly IsPyJwtError
      ((windowLibrary py claims).verified now key audience leeway token) := by
  simp only [windowLibrary]
  split
  · split
    · exact .ok _
    · exact .error trivial
  · exact .error trivial

theorem token_failures_rejected_call :
    FailsSafe callPython (windowLibrary publicPython callClaims)
      (windowSettings "drive" 300 60) 1700000100 callRequest true := by
  have hunverified : ∀ token,
      RaisesOnly IsPyJwtError ((windowLibrary publicPython callClaims).unverified token) :=
    fun _ => .ok _
  apply (token_failures_rejected_iff callPython (windowLibrary publicPython callClaims)
    (windowSettings "drive" 300 60) 1700000100 callRequest true
    (windowLibrary_checks publicPython callClaims).carried hunverified).2
  constructor
  · intro _ cl h
    cases h
  · intro token _
    constructor
    · intro claims h
      cases h
      rfl
    · intro claims key _ _
      exact windowLibrary_raises publicPython callClaims
    · intro claims key h _ _ _ _ _
      cases h
      exact ⟨.int 300, rfl⟩

end FileScanner
