import FileScanner.Keys
import FileScanner.TokenLife
import Mathlib.Logic.Equiv.List

namespace FileScanner
open Base64 Collections Fallible
set_option autoImplicit true

def ALG : String := "EdDSA"

/-- The key pairs of Ed25519, and `jwt.encode` with a key, and a key id in the header. -/
structure Signer where
  publicKey : Ed25519Key → Ed25519Key
  encode : Dict String Json → Ed25519Key → Option String → String

/-- The settings of the service's own tokens. -/
structure SigningSettings where
  privateKey : Option Ed25519Key := none
  jwtSigningKid : String := ""
  jwtIssuer : String := "file-scanner"
  jwtMaxAge : Int := 300

def SigningSettings.canSign (signing : SigningSettings) : Bool := signing.privateKey.isSome

/-- The claims of a token: who signs it, for whom and how long, and the request it is bound to. -/
structure Claims where
  iss : String
  aud : String
  iat : Int
  exp : Int
  htm : String
  htu : String
  bh : Option String
  deriving DecidableEq

/-- The payload that the claims make. -/
def Claims.payload (c : Claims) : Dict String Json :=
  [("iss", .str c.iss), ("aud", .str c.aud), ("iat", .int c.iat), ("exp", .int c.exp),
    ("htm", .str c.htm), ("htu", .str c.htu)] ++ (c.bh.map (fun bh => ("bh", Json.str bh))).toList

/-- `jwt_auth.encode`, which signs with the configured key unless it is given another. -/
def encodeToken (signer : Signer) (signing : SigningSettings) (payload : Dict String Json)
    (privateKey : Option Ed25519Key := none) : Except JwtFailure String :=
  match privateKey <|> signing.privateKey with
  | none => .error (.jwtError "no signing key configured (JWT_SIGNING_KEY)")
  | some key =>
    let kid := if signing.jwtSigningKid = "" then none else some signing.jwtSigningKid
    .ok (signer.encode payload key kid)

def webhookClaims (py : JwtPython) (signing : SigningSettings) (now : Rat) (webhookUrl : String)
    (body : Bytes) : Claims where
  iss := signing.jwtIssuer
  aud := webhookUrl
  iat := truncate now
  exp := truncate now + signing.jwtMaxAge
  htm := "POST"
  htu := webhookUrl
  bh := some (bodyHash py body)

def signWebhook (py : JwtPython) (signer : Signer) (signing : SigningSettings) (now : Rat)
    (webhookUrl : String) (body : Bytes) : Except JwtFailure (Option String) :=
  if signing.canSign then
    (encodeToken signer signing (webhookClaims py signing now webhookUrl body).payload).map some
  else .ok none

/-- The public half of the signing key; `OKPAlgorithm.to_jwk` gives its first three members. -/
def publicJwk (signer : Signer) (signing : SigningSettings) : Dict String Json :=
  match signing.privateKey with
  | none => []
  | some key =>
    let jwk : Dict String Json :=
      [("x", .str (b64urlEncode (signer.publicKey key).bytes)), ("kty", .str "OKP"),
        ("crv", .str "Ed25519"), ("use", .str "sig"), ("alg", .str ALG)]
    if signing.jwtSigningKid = "" then jwk else jwk.set "kid" (.str signing.jwtSigningKid)

def jwks (signer : Signer) (signing : SigningSettings) : Dict String Json :=
  let jwk := publicJwk signer signing
  [("keys", .list (if jwk = [] then [] else [.obj jwk]))]

def JwtFailure.toExc : JwtFailure → Exc
  | .jwtError msg => .exception msg
  | .raised e => e

/-- What is relied on in PyJWT: a token carries the claims it was made from, in text without
blanks, and under the public half of its key it is accepted for its audience from `iat` to `exp`,
up to the leeway. -/
structure Signer.Verifies (signer : Signer) (lib : PyJwt) : Prop where
  carried : ∀ (c : Claims) key kid, lib.unverified (signer.encode c.payload key kid) = .ok c.payload
  nonempty : ∀ (c : Claims) key kid, signer.encode c.payload key kid ≠ ""
  plain : ∀ (c : Claims) key kid, ∀ x ∈ (signer.encode c.payload key kid).toList, isSpace x = false
  verified : ∀ (c : Claims) key kid now (leeway : Int), (c.iat : Rat) ≤ now + leeway →
    now - leeway < c.exp → lib.verified now (signer.publicKey key).bytes c.aud leeway
      (signer.encode c.payload key kid) = .ok c.payload

/-- The claims read back from a payload. -/
def Claims.ofPayload (payload : Dict String Json) : Claims :=
  let text (key : String) : Option String :=
    match payload.lookup key with
    | some (.str s) => some s
    | _ => none
  let integer (key : String) : Int :=
    match payload.lookup key with
    | some (.int n) => n
    | _ => 0
  { iss := (text "iss").getD "", aud := (text "aud").getD "", iat := integer "iat",
    exp := integer "exp", htm := (text "htm").getD "", htu := (text "htu").getD "", bh := text "bh" }

theorem Claims.ofPayload_payload (c : Claims) : Claims.ofPayload c.payload = c := by
  obtain ⟨iss, aud, iat, exp, htm, htu, bh⟩ := c
  cases bh <;> rfl

section Codes

def codes (text : String) : List Nat := text.toList.map Char.toNat

def ofCodes (ns : List Nat) : String := String.ofList (ns.map Char.ofNat)

theorem ofCodes_codes (text : String) : ofCodes (codes text) = text := by
  rw [ofCodes, codes, List.map_map]
  have hid : Char.ofNat ∘ Char.toNat = id := funext Char.ofNat_toNat
  rw [hid, List.map_id, String.ofList_toList]

abbrev ClaimCodes :=
  List Nat × List Nat × Int × Int × List Nat × List Nat × Option (List Nat)

def Claims.codes (c : Claims) : ClaimCodes :=
  (FileScanner.codes c.iss, FileScanner.codes c.aud, c.iat, c.exp, FileScanner.codes c.htm,
    FileScanner.codes c.htu, c.bh.map FileScanner.codes)

def Claims.ofCodes : ClaimCodes → Claims
  | (iss, aud, iat, exp, htm, htu, bh) =>
    ⟨FileScanner.ofCodes iss, FileScanner.ofCodes aud, iat, exp, FileScanner.ofCodes htm,
      FileScanner.ofCodes htu, bh.map FileScanner.ofCodes⟩

theorem Claims.ofCodes_codes (c : Claims) : Claims.ofCodes c.codes = c := by
  obtain ⟨iss, aud, iat, exp, htm, htu, bh⟩ := c
  rw [Claims.codes, Claims.ofCodes]
  simp only [FileScanner.ofCodes_codes, Option.map_map]
  cases bh with
  | none => rfl
  | some bh => simp only [Option.map_some, Function.comp_apply, FileScanner.ofCodes_codes]

end Codes

/-- The compact form of a signed token. -/
def compact (header payload : String) (signature : Bytes) : String :=
  b64urlEncode (encode header) ++ "." ++ b64urlEncode (encode payload) ++ "."
    ++ b64urlEncode signature

def HEADER : String := "\x7b\"alg\":\"EdDSA\",\"typ\":\"JWT\"\x7d"

/-- The claims of one callback. -/
def hookClaims : Claims where
  iss := "file-scanner"
  aud := "https://example.com/hook"
  iat := 1700000000
  exp := 1700000300
  htm := "POST"
  htu := "https://example.com/hook"
  bh := some "SsMNW6MGz58zZ2qm_m6oaVaAXpe2leil1Oa3oeAd4yk"

def hookToken : String :=
  compact HEADER
    ("\x7b\"iss\":\"file-scanner\",\"aud\":\"https://example.com/hook\",\"iat\":1700000000,"
      ++ "\"exp\":1700000300,\"htm\":\"POST\",\"htu\":\"https://example.com/hook\","
      ++ "\"bh\":\"SsMNW6MGz58zZ2qm_m6oaVaAXpe2leil1Oa3oeAd4yk\"\x7d")
    [203, 26, 229, 208, 144, 224, 95, 198, 120, 184, 238, 154, 20, 187, 43, 39, 166, 6,
      174, 160, 140, 222, 99, 33, 142, 143, 140, 75, 120, 2, 185, 128, 249, 184, 64, 18,
      185, 163, 77, 120, 148, 147, 132, 35, 78, 222, 40, 136, 180, 21, 186, 229, 70, 86,
      133, 96, 222, 143, 125, 176, 214, 168, 99, 2]

/-- The claims of one poll. -/
def pollClaims : Claims where
  iss := "drive"
  aud := "file-scanner"
  iat := 1700000000
  exp := 1700000300
  htm := "GET"
  htu := "/api/v2.0/jobs/job"
  bh := none

def pollToken : String :=
  compact HEADER
    ("\x7b\"iss\":\"drive\",\"aud\":\"file-scanner\",\"iat\":1700000000,\"exp\":1700000300,"
      ++ "\"htm\":\"GET\",\"htu\":\"/api/v2.0/jobs/job\"\x7d")
    [246, 227, 95, 2, 164, 19, 88, 48, 167, 54, 22, 160, 94, 1, 159, 93, 25, 14,
      89, 41, 102, 133, 205, 237, 189, 96, 86, 47, 213, 244, 6, 22, 175, 13, 223, 67,
      253, 97, 193, 102, 189, 134, 197, 64, 126, 20, 219, 9, 139, 211, 118, 143, 105, 93,
      51, 51, 207, 128, 216, 214, 8, 82, 27, 15]

/-- What PyJWT makes of these claims with the key of the zero seed. -/
def zeroTokens : List (Claims × String) := [(hookClaims, hookToken), (pollClaims, pollToken)]

def publicPoint (key : Ed25519Key) : Ed25519Key :=
  if key.bytes = zeroSeed.bytes then zeroPoint else key

/-- The number that stands for claims and a public key in a token not listed. -/
def tokenNumber (c : Claims) (point : Ed25519Key) : String :=
  toString (Encodable.encode (c.codes, point.bytes.map UInt8.toNat))

/-- A signer that is Ed25519 and PyJWT on the tokens listed, and numbers all others. -/
def tableSigner : Signer where
  publicKey := publicPoint
  encode payload key kid :=
    match zeroTokens.find? (fun e => decide (e.1 = Claims.ofPayload payload ∧
      key.bytes = zeroSeed.bytes ∧ kid = none)) with
    | some e => e.2
    | none => tokenNumber (Claims.ofPayload payload) (publicPoint key)

/-- The claims that a token carries, and the public half of the key that has signed it. -/
def readToken (token : String) : Option (Claims × List Nat) :=
  match zeroTokens.find? (fun e => decide (e.2 = token)) with
  | some e => some (e.1, zeroPoint.bytes.map UInt8.toNat)
  | none => (Encodable.decode (digitsToNat token.toList)).map
      (fun p : ClaimCodes × List Nat => (Claims.ofCodes p.1, p.2))

/-- A library that reads these tokens, with the checks of PyJWT in its order. -/
def tablePyJwt : PyJwt where
  unverified token :=
    match readToken token with
    | none => .error (.pyJwtError .other "Not enough segments")
    | some (c, _) => .ok c.payload
  verified now key audience leeway token :=
    match readToken token with
    | none => .error (.pyJwtError .other "Not enough segments")
    | some (c, signed) =>
      if key.map UInt8.toNat ≠ signed then
        .error (.pyJwtError .invalidSignature "Signature verification failed")
      else if now + leeway < c.iat then
        .error (.pyJwtError .other "The token is not yet valid (iat)")
      else if (c.exp : Rat) ≤ now - leeway then
        .error (.pyJwtError .expiredSignature "Signature has expired")
      else if c.aud ≠ audience then
        .error (.pyJwtError .invalidAudience "Audience doesn't match")
      else .ok c.payload

theorem compact_toList (header payload : String) (signature : Bytes) :
    (compact header payload signature).toList =
      (sextets (encode header)).map digit ++ '.' :: ((sextets (encode payload)).map digit ++
        '.' :: (sextets signature).map digit) := by
  have hdot : ".".toList = ['.'] := rfl
  simp only [compact, String.toList_append, b64urlEncode_toList, hdot, List.append_assoc,
    List.nil_append, List.cons_append]

theorem compact_text (header payload : String) (signature : Bytes) :
    (compact header payload signature).toList.all Char.isDigit = false ∧
      ∀ c ∈ (compact header payload signature).toList, isSpace c = false := by
  have hdigit (raw : Bytes) : ∀ c ∈ (sextets raw).map digit, isSpace c = false := by
    intro c hc
    rw [← b64urlEncode_toList] at hc
    exact (b64urlEncode_plain raw c hc).1
  have hdot : isSpace '.' = false := by decide
  rw [compact_toList]
  constructor
  · simp
  · exact List.forall_mem_append.2 ⟨hdigit _, List.forall_mem_cons.2 ⟨hdot,
      List.forall_mem_append.2 ⟨hdigit _, List.forall_mem_cons.2 ⟨hdot, hdigit _⟩⟩⟩⟩

theorem compact_getLast? (header payload : String) (signature : Bytes) :
    (compact header payload signature).toList.getLast? =
      ('.' :: (sextets signature).map digit).getLast? := by
  rw [compact_toList, ← List.cons_append, ← List.append_assoc,
    List.getLast?_append_of_ne_nil _ (List.cons_ne_nil _ _)]

theorem zeroTokens_text : ∀ e ∈ zeroTokens, e.2.toList.all Char.isDigit = false ∧
    ∀ c ∈ e.2.toList, isSpace c = false := by
  rw [zeroTokens]
  exact List.forall_mem_cons.2 ⟨compact_text _ _ _, List.forall_mem_cons.2
    ⟨compact_text _ _ _, List.forall_mem_nil _⟩⟩

theorem zeroTokens_distinct :
    ∀ e ∈ zeroTokens, zeroTokens.find? (fun e' => decide (e'.2 = e.2)) = some e := by
  have hne : hookToken ≠ pollToken := by
    intro heq
    have hlast : hookToken.toList.getLast? = pollToken.toList.getLast? := by rw [heq]
    rw [hookToken, pollToken, compact_getLast?, compact_getLast?] at hlast
    revert hlast
    decide
  rw [zeroTokens]
  refine List.forall_mem_cons.2 ⟨?_, List.forall_mem_cons.2 ⟨?_, List.forall_mem_nil _⟩⟩
  · simp
  · simp [hne]

theorem tableSigner_cases (c : Claims) (key : Ed25519Key) (kid : Option String) :
    (∃ e ∈ zeroTokens, e.1 = c ∧ publicPoint key = zeroPoint ∧
      tableSigner.encode c.payload key kid = e.2) ∨
      tableSigner.encode c.payload key kid = tokenNumber c (publicPoint key) := by
  rw [tableSigner]
  dsimp only
  rw [Claims.ofPayload_payload]
  split
  · rename_i e hfound
    have hmatch := List.find?_some hfound
    rw [decide_eq_true_eq] at hmatch
    obtain ⟨hclaims, hkey, -⟩ := hmatch
    have hpoint : publicPoint key = zeroPoint := if_pos hkey
    exact .inl ⟨e, List.mem_of_find?_eq_some hfound, hclaims, hpoint, rfl⟩
  · exact .inr rfl

theorem isDigit_tokenNumber (c : Claims) (point : Ed25519Key) :
    (tokenNumber c point).toList.all Char.isDigit = true := isDigit_toString

theorem readToken_encode (c : Claims) (key : Ed25519Key) (kid : Option String) :
    readToken (tableSigner.encode c.payload key kid) =
      some (c, (publicPoint key).bytes.map UInt8.toNat) := by
  rcases tableSigner_cases c key kid with ⟨e, hmem, rfl, hpoint, htoken⟩ | htoken
  · rw [htoken, readToken, zeroTokens_distinct e hmem, hpoint]
  · have hnone : zeroTokens.find? (fun e => decide (e.2 = tokenNumber c (publicPoint key))) =
        none := by
      rw [List.find?_eq_none]
      intro e hmem heq
      have hdigits := (zeroTokens_text e hmem).1
      rw [of_decide_eq_true heq, isDigit_tokenNumber] at hdigits
      cases hdigits
    rw [htoken, readToken, hnone]
    dsimp only
    rw [tokenNumber, digitsToNat_toString, Encodable.encodek, Option.map_some,
      Claims.ofCodes_codes]

theorem isSpace_of_isDigit {c : Char} (h : c.isDigit = true) : isSpace c = false := by
  obtain ⟨hlo, hhi⟩ := Char.isDigit_iff_toNat.1 h
  have hdigits : ∀ n < 58, 48 ≤ n → ([9, 10, 11, 12, 13, 28, 29, 30, 31, 32, 133, 160, 5760, 8232,
      8233, 8239, 8287, 12288].contains n || (8192 ≤ n && n ≤ 8202)) = false := by decide
  exact hdigits c.toNat (Nat.lt_succ_of_le hhi) hlo

theorem tableSigner_verifies : tableSigner.Verifies tablePyJwt where
  carried c key kid := by
    simp only [tablePyJwt, readToken_encode]
  nonempty c key kid he := by
    rcases tableSigner_cases c key kid with ⟨e, hmem, -, -, htoken⟩ | htoken
    · have htext := (zeroTokens_text e hmem).1
      rw [← htoken, he] at htext
      cases htext
    · have hnil := congrArg String.toList (htoken.symm.trans he)
      rw [tokenNumber, Text.toList_toString_nat] at hnil
      exact Nat.toDigits_ne_nil hnil
  plain c key kid x hx := by
    rcases tableSigner_cases c key kid with ⟨e, hmem, -, -, htoken⟩ | htoken
    · rw [htoken] at hx
      exact (zeroTokens_text e hmem).2 x hx
    · rw [htoken] at hx
      exact isSpace_of_isDigit (List.all_eq_true.1 (isDigit_tokenNumber _ _) x hx)
  verified c key kid now leeway hiat hexp := by
    have hkey : (tableSigner.publicKey key).bytes = (publicPoint key).bytes := rfl
    simp only [tablePyJwt, readToken_encode, hkey, ne_eq, not_true_eq_false, if_false]
    rw [if_neg (not_lt.2 hiat), if_neg (not_le.2 hexp)]

/-- A verifier takes the claims: it knows the key of their issuer, it is their audience, it allows
their lifetime, and the time is within their window. -/
structure Claims.Fits (c : Claims) (cfg : JwtSettings) (point : Ed25519Key) (now : Rat) : Prop where
  key : cfg.issuerKeys.lookup c.iss = some point.bytes
  audience : cfg.audience = c.aud
  life : cfg.maxAge = 0 ∨ c.exp - c.iat ≤ cfg.maxAge
  issued : (c.iat : Rat) ≤ now + cfg.leeway
  expires : now - cfg.leeway < c.exp

/-- The request that the claims bind. -/
structure Claims.Binds (py : JwtPython) (c : Claims) (method target : String)
    (body : Option Bytes) (bind : Bool) : Prop where
  method : c.htm = method
  target : c.htu = target
  body : bind = true → c.bh = some (bodyHash py (body.getD []))

/-- What a token is good for: whoever takes its claims accepts it, for the request it binds and for
no other. -/
structure Authenticates (py : JwtPython) (lib : PyJwt) (c : Claims) (point : Ed25519Key)
    (token : String) : Prop where
  accepted : ∀ cfg now, c.Fits cfg point now → decode py lib cfg now token = .ok c.payload
  issuer : c.payload.lookup "iss" = some (.str c.iss)
  binding : ∀ method target body bind, checkBinding py c.payload method target body bind = .ok () ↔
    c.Binds py method target body bind

section Claims
variable {py : JwtPython} {lib : PyJwt} {signer : Signer} {c : Claims}

theorem checkLifetime_payload {maxAge : Int} (h : maxAge = 0 ∨ c.exp - c.iat ≤ maxAge) :
    checkLifetime py maxAge c.payload = .ok () := by
  have hiat : getKey c.payload "iat" = .int c.iat := rfl
  have hexp : getKey c.payload "exp" = .int c.exp := rfl
  rw [checkLifetime, hiat, hexp]
  split
  · rename_i hcapped
    have hle := h.resolve_left hcapped.1
    have hlife : subtract py (.int c.exp) (.int c.iat) = .ok (.int (c.exp - c.iat)) := rfl
    rw [hlife]
    dsimp only
    rw [raiseIf_neg]
    rw [Json.exceeds, decide_eq_true_eq]
    omega
  · rfl

theorem decode_payload (hsigner : signer.Verifies lib) {key : Ed25519Key} {kid : Option String}
    {cfg : JwtSettings} {now : Rat} (h : c.Fits cfg (signer.publicKey key) now) :
    decode py lib cfg now (signer.encode c.payload key kid) = .ok c.payload := by
  have hissuer : issuerKey py cfg (getKey c.payload "iss") = .ok (signer.publicKey key).bytes := by
    have hiss : getKey c.payload "iss" = .str c.iss := rfl
    rw [hiss, issuerKey, h.key]
  rw [decode_ok]
  refine ⟨_, _, hsigner.carried _ _ _, hissuer, ?_, checkLifetime_payload h.life⟩
  rw [h.audience]
  exact hsigner.verified _ _ _ _ _ h.issued h.expires

theorem checkBinding_payload {method target : String} {body : Option Bytes} {bind : Bool} :
    checkBinding py c.payload method target body bind = .ok () ↔
      c.Binds py method target body bind := by
  have hhtm : getKey c.payload "htm" = .str c.htm := rfl
  have hhtu : getKey c.payload "htu" = .str c.htu := rfl
  have hbh : getKey c.payload "bh" = c.bh.elim .null .str := by
    rw [Claims.payload]
    cases c.bh <;> rfl
  constructor
  · intro h
    obtain ⟨hmethod, htarget, hbody⟩ := checkBinding_ok h
    rw [hhtm, Json.str.injEq] at hmethod
    rw [hhtu, Json.str.injEq] at htarget
    refine ⟨hmethod, htarget, fun hbind => ?_⟩
    have hhash := hbody hbind
    rw [hbh] at hhash
    cases hbound : c.bh with
    | none =>
      rw [hbound] at hhash
      cases hhash
    | some bh =>
      rw [hbound] at hhash
      exact congrArg some (Json.str.inj hhash)
  · rintro ⟨rfl, rfl, hbody⟩
    have hself (text : String) : (Json.str text).isStr text = true := Json.isStr_iff.2 rfl
    rw [checkBinding, hhtm, hhtu, hbh,
      raiseIf_neg (by rw [hself]; exact Bool.true_eq_false.mp), ok_bind,
      raiseIf_neg (by rw [hself]; exact Bool.true_eq_false.mp), ok_bind, raiseIf_neg]
    rintro ⟨hbind, hmismatch⟩
    rw [hbody hbind, Option.elim_some, hself] at hmismatch
    cases hmismatch

theorem encode_authenticates (hsigner : signer.Verifies lib) (c : Claims) (key : Ed25519Key)
    (kid : Option String) :
    Authenticates py lib c (signer.publicKey key) (signer.encode c.payload key kid) :=
  ⟨fun _ _ h => decode_payload hsigner h, rfl, fun _ _ _ _ => checkBinding_payload⟩

end Claims

end FileScanner
