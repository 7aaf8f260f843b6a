import FileScanner.Lib.Base64
import FileScanner.Lib.Fallible
import FileScanner.Wire

namespace FileScanner
open Base64 Collections Fallible
set_option autoImplicit true

abbrev PublicKey := Bytes

structure JwtSettings where
  issuerKeys : Dict String PublicKey
  audience : String := "file-scanner"
  maxAge : Int := 300
  leeway : Int := 60

/-- The further library functions of the token code, on which nothing is assumed. -/
structure JwtPython extends Python where
  upper : String → String
  /-- `exp - iat` when one of them is a float. -/
  floatSub : Json → Json → Except Exc Json
  /-- `hashlib.sha256(raw).digest()`. -/
  sha256 : Bytes → Bytes

/-- The classes of PyJWT's errors that are told apart. -/
inductive PyJwtKind where
  | expiredSignature
  | invalidAudience
  | missingRequiredClaim
  | invalidAlgorithm
  | invalidSignature
  | other
  deriving DecidableEq, Repr

inductive PyJwtFailure where
  | pyJwtError (kind : PyJwtKind) (text : String)
  | raised (e : Exc)

/-- PyJWT: the claims a token carries, unverified, and what `jwt.decode` gives for it under a
key, with the audience and the leeway, at an instant. -/
structure PyJwt where
  unverified : String → Except PyJwtFailure (Dict String Json)
  verified : Rat → PublicKey → String → Int → String → Except PyJwtFailure (Dict String Json)

/-- A token that is accepted, whenever and under whatever key, gives the claims it carries. -/
def PyJwt.ReturnsCarried (lib : PyJwt) : Prop :=
  ∀ now key audience leeway token claims,
    lib.verified now key audience leeway token = .ok claims → lib.unverified token = .ok claims

inductive JwtFailure where
  | jwtError (msg : String)
  | raised (e : Exc)

def malformed : PyJwtFailure → JwtFailure
  | .pyJwtError _ text => .jwtError ("malformed token: " ++ text)
  | .raised e => .raised e

def rejected (py : JwtPython) (audience : String) : PyJwtFailure → JwtFailure
  | .pyJwtError .expiredSignature _ => .jwtError "token expired"
  | .pyJwtError .invalidAudience _ =>
    .jwtError ("wrong audience; expected " ++ py.repr (.str audience))
  | .pyJwtError .missingRequiredClaim text => .jwtError ("missing claim: " ++ text)
  | .pyJwtError .invalidAlgorithm text => .jwtError ("algorithm not allowed: " ++ text)
  | .pyJwtError .invalidSignature _ => .jwtError "bad signature"
  | .pyJwtError .other text => .jwtError ("invalid token: " ++ text)
  | .raised e => .raised e

/-- `keys.get(iss)`: only a text can be a key of the map. -/
def issuerKey (py : JwtPython) (cfg : JwtSettings) (iss : Json) : Except JwtFailure PublicKey :=
  let unknown := JwtFailure.jwtError ("unknown issuer " ++ py.repr iss)
  match iss with
  | .list _ | .obj _ => .error (.raised (.typeError ("unhashable type: '" ++ iss.typeName ++ "'")))
  | .str s =>
    match cfg.issuerKeys.lookup s with
    | some key => .ok key
    | none => .error unknown
  | _ => .error unknown

/-- `isinstance(value, (int, float))`. -/
def Json.isNumber : Json → Bool
  | .bool _ | .int _ | .float _ | .nonFinite _ => true
  | _ => false

def Json.asInteger : Json → Option Int
  | .bool b => some (if b then 1 else 0)
  | .int n => some n
  | _ => none

/-- `exp - iat`, exact on integers. -/
def subtract (py : JwtPython) (exp iat : Json) : Except Exc Json :=
  match exp.asInteger, iat.asInteger with
  | some e, some i => .ok (.int (e - i))
  | _, _ => py.floatSub exp iat

/-- `value > n`, on a number. -/
def Json.exceeds (n : Int) : Json → Bool
  | .int m => decide (n < m)
  | .float q => decide ((n : Rat) < q)
  | .nonFinite literal => literal = "Infinity"
  | _ => false

/-- The cap on the lifetime, which only numbers are held to. -/
def checkLifetime (py : JwtPython) (maxAge : Int) (claims : Dict String Json) :
    Except JwtFailure Unit :=
  let iat := getKey claims "iat"
  let exp := getKey claims "exp"
  if maxAge ≠ 0 ∧ iat.isNumber = true ∧ exp.isNumber = true then
    match subtract py exp iat with
    | .error e => .error (.raised e)
    | .ok life =>
      raiseIf (life.exceeds maxAge = true)
        (.jwtError ("token lifetime exceeds max_age (" ++ toString maxAge ++ "s)"))
  else .ok ()

/-- Verify a token at an instant; the claims of one that is accepted. -/
def decode (py : JwtPython) (lib : PyJwt) (cfg : JwtSettings) (now : Rat) (token : String) :
    Except JwtFailure (Dict String Json) := do
  let unverified ← (lib.unverified token).mapError malformed
  let key ← issuerKey py cfg (getKey unverified "iss")
  let claims ← (lib.verified now key cfg.audience cfg.leeway token).mapError
    (rejected py cfg.audience)
  checkLifetime py cfg.maxAge claims
  pure claims

def requestTarget (py : JwtPython) (method path query : String) : String × String :=
  (py.upper method, path ++ (if query ≠ "" then "?" ++ query else ""))

def b64urlEncode (raw : Bytes) : String := String.ofList (rstrip '=' (urlsafeEncode raw))

def bodyHash (py : JwtPython) (raw : Bytes) : String := b64urlEncode (py.sha256 raw)

def checkBinding (py : JwtPython) (payload : Dict String Json) (method htu : String)
    (body : Option Bytes) (requireBody : Bool) : Except JwtFailure Unit := do
  raiseIf ((getKey payload "htm").isStr method = false)
    (.jwtError "htm claim does not match request method")
  raiseIf ((getKey payload "htu").isStr htu = false)
    (.jwtError "htu claim does not match request target")
  raiseIf (requireBody = true ∧ (getKey payload "bh").isStr (bodyHash py (body.getD [])) = false)
    (.jwtError "bh claim does not match request body")

theorem issuerKey_ok {py : JwtPython} {cfg : JwtSettings} {iss : Json} {key : PublicKey}
    (h : issuerKey py cfg iss = .ok key) :
    ∃ s, iss = .str s ∧ cfg.issuerKeys.lookup s = some key := by
  cases iss with
  | str s =>
    simp only [issuerKey] at h
    split at h
    · rename_i key' hkey
      cases h
      exact ⟨s, rfl, hkey⟩
    · cases h
  | _ => cases h

theorem decode_ok {py : JwtPython} {lib : PyJwt} {cfg : JwtSettings} {now : Rat} {token : String}
    {claims : Dict String Json} :
    decode py lib cfg now token = .ok claims ↔
      ∃ unverified key, lib.unverified token = .ok unverified ∧
        issuerKey py cfg (getKey unverified "iss") = .ok key ∧
        lib.verified now key cfg.audience cfg.leeway token = .ok claims ∧
        checkLifetime py cfg.maxAge claims = .ok () := by
  rw [decode]
  constructor
  · intro h
    obtain ⟨unverified, hu, h⟩ := bind_eq_ok.1 h
    obtain ⟨key, hkey, h⟩ := bind_eq_ok.1 h
    obtain ⟨claims', hv, h⟩ := bind_eq_ok.1 h
    obtain ⟨⟨⟩, hlife, h⟩ := bind_eq_ok.1 h
    cases h
    exact ⟨unverified, key, mapError_eq_ok.1 hu, hkey, mapError_eq_ok.1 hv, hlife⟩
  · intro h
    obtain ⟨unverified, key, hu, hkey, hv, hlife⟩ := h
    rw [mapError_eq_ok.2 hu, ok_bind, hkey, ok_bind, mapError_eq_ok.2 hv, ok_bind, hlife]
    rfl

/-- The claims of a token that is accepted are those it carries: they name the issuer whose key
verified them. -/
theorem decode_carried {py : JwtPython} {lib : PyJwt} {cfg : JwtSettings} {now : Rat}
    {token : String} {claims : Dict String Json} (hlib : lib.ReturnsCarried)
    (h : decode py lib cfg now token = .ok claims) :
    ∃ iss key, lib.unverified token = .ok claims ∧ getKey claims "iss" = .str iss ∧
      cfg.issuerKeys.lookup iss = some key ∧
      lib.verified now key cfg.audience cfg.leeway token = .ok claims ∧
      checkLifetime py cfg.maxAge claims = .ok () := by
  obtain ⟨unverified, key, hunverified, hkey, hverified, hlife⟩ := decode_ok.1 h
  have hcarried := hlib _ _ _ _ _ _ hverified
  rw [hunverified, Except.ok.injEq] at hcarried
  subst hcarried
  obtain ⟨iss, hiss, hlookup⟩ := issuerKey_ok hkey
  exact ⟨iss, key, hunverified, hiss, hlookup, hverified, hlife⟩

theorem checkBinding_ok {py : JwtPython} {payload : Dict String Json} {method htu : String}
    {body : Option Bytes} {requireBody : Bool}
    (h : checkBinding py payload method htu body requireBody = .ok ()) :
    getKey payload "htm" = .str method ∧ getKey payload "htu" = .str htu ∧
      (requireBody = true → getKey payload "bh" = .str (bodyHash py (body.getD []))) := by
  rw [checkBinding] at h
  obtain ⟨⟨⟩, hmethod, h⟩ := bind_eq_ok.1 h
  obtain ⟨⟨⟩, htarget, h⟩ := bind_eq_ok.1 h
  have hmethod := raiseIf_eq_ok.1 hmethod
  have htarget := raiseIf_eq_ok.1 htarget
  have hbody := raiseIf_eq_ok.1 h
  rw [Bool.not_eq_false] at hmethod htarget
  refine ⟨Json.isStr_iff.1 hmethod, Json.isStr_iff.1 htarget, ?_⟩
  intro hrequire
  rw [not_and, Bool.not_eq_false] at hbody
  exact Json.isStr_iff.1 (hbody hrequire)

theorem b64urlEncode_injective : Function.Injective b64urlEncode := by
  intro xs ys h
  exact rstrip_urlsafeEncode_injective (String.ofList_injective h)

/-- The SHA-256 digest of the empty text. -/
def emptyDigest : Bytes :=
  [0xe3, 0xb0, 0xc4, 0x42, 0x98, 0xfc, 0x1c, 0x14, 0x9a, 0xfb, 0xf4, 0xc8, 0x99, 0x6f, 0xb9, 0x24,
    0x27, 0xae, 0x41, 0xe4, 0x64, 0x9b, 0x93, 0x4c, 0xa4, 0x95, 0x99, 0x1b, 0x78, 0x52, 0xb8, 0x55]

/-- The library on plain ASCII text, on integers and on the empty body. -/
def asciiJwtPython : JwtPython :=
  { asciiPython with
    upper := fun s => String.ofList (s.toList.map Char.toUpper)
    floatSub := fun _ _ => .error (.exception "not a float")
    sha256 := fun _ => emptyDigest }

example : bodyHash asciiJwtPython [] = "47DEQpj8HBSa-_TImW-5JCeuQeRkm5NMpJWZG3hSuFU" := by decide

end FileScanner
