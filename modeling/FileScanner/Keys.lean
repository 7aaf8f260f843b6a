import FileScanner.App.Encryption
import FileScanner.Dashboard
import FileScanner.Jwt
import FileScanner.UrlParts

namespace FileScanner
open Base64 Collections Fallible
set_option autoImplicit true

/-- Raw Ed25519 key material: a private seed, or a public point. -/
structure Ed25519Key where
  bytes : Bytes
  length : bytes.length = KEY_BYTES

def urlsafeB64decode (text : List Char) : Except JwtFailure Bytes :=
  if isAscii text = true then (base64Decode text 0 0 0 []).mapError .raised
  else .error (.raised (.valueError "string argument should contain only ASCII characters"))

def b64urlDecode (segment : List Char) : Except JwtFailure Bytes :=
  urlsafeB64decode (segment ++ List.replicate ((4 - segment.length % 4) % 4) '=')

def keyBytes (fragment : List Char) : Except JwtFailure Ed25519Key := do
  let raw ← b64urlDecode (strip fragment)
  if h : raw.length = KEY_BYTES then pure ⟨raw, h⟩
  else
    throw (.jwtError ("Ed25519 key must be " ++ toString KEY_BYTES ++ " bytes, got "
      ++ toString raw.length))

def loadPrivate (signingKey : String) : Except JwtFailure (Option Ed25519Key) :=
  if signingKey = "" then .ok none else (keyBytes signingKey.toList).map some

/-- One entry of `JWT_ISSUER_KEYS`; a later one for the same caller wins. -/
def loadIssuer (py : JwtPython) (keys : Dict String PublicKey) (entry : String) :
    Except JwtFailure (Dict String PublicKey) :=
  match partitionAt ':' entry.toList with
  | (iss, true, pub) => do
    let key ← keyBytes pub
    pure (keys.set (String.ofList (strip iss)) key.bytes)
  | _ =>
    .error (.raised (.valueError ("JWT_ISSUER_KEYS entry " ++ py.repr (.str entry)
      ++ " is missing the 'iss:pubkey' separator ':'.")))

def loadIssuers (py : JwtPython) (issuerKeys : String) :
    Except JwtFailure (Dict String PublicKey) :=
  (commaList issuerKeys).foldlM (loadIssuer py) []

/-- The name that a new caller is registered under; the script refuses any other argument. -/
def issuerName (argument : String) : Option (List Char) :=
  let iss := strip argument.toList
  if iss = [] ∨ argument.toList.head? = some '-' then none
  else if ':' ∈ iss ∨ ',' ∈ iss then none
  else some iss

/-- What `new-issuer.py` prints: the key for the caller, and its entry for `JWT_ISSUER_KEYS`. -/
structure NewIssuer where
  privateKey : String
  entry : String

def newIssuer (argument : String) (seed point : Ed25519Key) : Option NewIssuer :=
  (issuerName argument).map (fun iss =>
    ⟨b64urlEncode seed.bytes, String.ofList (iss ++ ':' :: (b64urlEncode point.bytes).toList)⟩)

section Base64
variable {d : Nat → Char}

/-- Digits are decoded to the bytes of their groups of six bits, up to the bits left over. -/
theorem base64Decode_digits (hd : ∀ n < 64, d n ≠ '=' ∧ base64Value (d n) = some n)
    {vs : List Nat} (hvs : ∀ n ∈ vs, n < 64) (hlen : vs.length % 4 ≠ 1) (rest : List Char)
    (out : Bytes) :
    ∃ left, base64Decode (vs.map d ++ rest) 0 0 0 out =
      base64Decode rest (vs.length % 4) left 0 (out ++ bytesOf vs) := by
  have hdigit {n : Nat} (h : n < 64) := base64Decode_value (hd n h).1 (hd n h).2
  induction vs using bytesOf.induct generalizing out with
  | case1 p q r s vs ih =>
    simp only [List.forall_mem_cons] at hvs
    obtain ⟨hp, hq, hr, hs, hvs⟩ := hvs
    simp only [List.length_cons, Nat.add_assoc, Nat.add_mod_right] at hlen ⊢
    obtain ⟨left, hleft⟩ := ih hvs hlen (out ++ [UInt8.ofNat (p * 4 + q / 16)]
      ++ [UInt8.ofNat (q % 16 * 16 + r / 4)] ++ [UInt8.ofNat (r % 4 * 64 + s)])
    refine ⟨left, ?_⟩
    simp only [List.map_cons, List.cons_append, hdigit hp, hdigit hq, hdigit hr, hdigit hs]
    rw [hleft, bytesOf]
    simp only [List.append_assoc, List.cons_append, List.nil_append]
  | case2 p q r =>
    simp only [List.forall_mem_cons] at hvs
    obtain ⟨hp, hq, hr, -⟩ := hvs
    refine ⟨r % 4, ?_⟩
    simp only [List.map_cons, List.map_nil, List.cons_append, List.nil_append, hdigit hp, hdigit hq,
      hdigit hr, bytesOf, List.append_assoc]
    rfl
  | case3 p q =>
    simp only [List.forall_mem_cons] at hvs
    obtain ⟨hp, hq, -⟩ := hvs
    refine ⟨q % 16, ?_⟩
    simp only [List.map_cons, List.map_nil, List.cons_append, List.nil_append, hdigit hp, hdigit hq,
      bytesOf]
    rfl
  | case4 vs hfour hthree htwo =>
    rcases vs with _ | ⟨p, _ | ⟨q, _ | ⟨r, _ | ⟨s, vs⟩⟩⟩⟩
    · have hnil : bytesOf [] = [] := rfl
      exact ⟨0, by rw [hnil, List.append_nil]; rfl⟩
    · exact absurd rfl hlen
    · exact absurd rfl (htwo p q)
    · exact absurd rfl (hthree p q r)
    · exact absurd rfl (hfour p q r s vs)

end Base64

theorem digit_plain : ∀ n < 64, (digit n ≠ '=' ∧ base64Value (digit n) = some n) ∧
    isSpace (digit n) = false ∧ digit n ≠ ',' ∧ (digit n).toNat < 128 := by
  decide +kernel

/-- The digits of the last, unfinished group: none, two or three. -/
theorem length_sextets_mod (bytes : Bytes) :
    (sextets bytes).length % 4 = bytes.length % 3 + (bytes.length % 3 + 2) / 3 := by
  induction bytes using sextets.induct with
  | case1 => rfl
  | case2 a => simp [sextets]
  | case3 a b => simp [sextets]
  | case4 a b c rest ih =>
    simp only [sextets, List.length_cons, Nat.add_assoc, Nat.add_mod_right]
    exact ih

theorem b64urlEncode_toList (raw : Bytes) :
    (b64urlEncode raw).toList = (sextets raw).map digit := by
  rw [b64urlEncode, String.toList_ofList]
  apply rstrip_append_replicate
  intro hmem
  obtain ⟨n, hn, he⟩ := List.mem_map.1 hmem
  exact digit_ne_pad (sextets_lt raw n hn) he

theorem b64urlEncode_plain (raw : Bytes) : ∀ c ∈ (b64urlEncode raw).toList,
    isSpace c = false ∧ c ≠ ',' ∧ c.toNat < 128 := by
  intro c hc
  rw [b64urlEncode_toList] at hc
  obtain ⟨n, hn, rfl⟩ := List.mem_map.1 hc
  exact (digit_plain n (sextets_lt raw n hn)).2

/-- Enough padding decodes to the bytes that were encoded; `mint-token.py` pads with two. -/
theorem urlsafeB64decode_encode (raw : Bytes) {n : Nat}
    (hn : raw.length % 3 = 0 ∨ 3 ≤ raw.length % 3 + n) :
    urlsafeB64decode ((b64urlEncode raw).toList ++ List.replicate n '=') = .ok raw := by
  have hlength := length_sextets_mod raw
  have hascii : isAscii ((b64urlEncode raw).toList ++ List.replicate n '=') = true := by
    rw [isAscii, List.all_eq_true]
    intro c hc
    rcases List.mem_append.1 hc with hc | hc
    · exact decide_eq_true (b64urlEncode_plain raw c hc).2.2
    · rw [(List.mem_replicate.1 hc).2]
      rfl
  obtain ⟨left, hdecode⟩ := base64Decode_digits (fun n hn => (digit_plain n hn).1) (sextets_lt raw)
    (by omega) (List.replicate n '=') []
  rw [urlsafeB64decode, if_pos hascii, b64urlEncode_toList, hdecode, List.nil_append,
    bytesOf_sextets raw, (base64Decode_padding (by omega) n left raw raw).2 ⟨rfl, by omega⟩]
  rfl

theorem b64urlDecode_encode (raw : Bytes) : b64urlDecode (b64urlEncode raw).toList = .ok raw := by
  have hlength := length_sextets_mod raw
  have hdigits : (b64urlEncode raw).toList.length = (sextets raw).length := by
    rw [b64urlEncode_toList, List.length_map]
  rw [b64urlDecode, hdigits]
  exact urlsafeB64decode_encode raw (by omega)

section Strip
variable {text : List Char}

theorem strip_eq_self (hfirst : ∀ c, text.head? = some c → isSpace c = false)
    (hlast : ∀ c, text.getLast? = some c → isSpace c = false) : strip text = text := by
  have hfront {text : List Char} (h : ∀ c, text.head? = some c → isSpace c = false) :
      text.dropWhile isSpace = text := by
    cases text with
    | nil => rfl
    | cons c text =>
      rw [List.dropWhile_cons, h c rfl]
      rfl
  rw [strip, hfront hfirst, hfront, List.reverse_reverse]
  intro c hc
  rw [List.head?_reverse] at hc
  exact hlast c hc

theorem head?_dropWhile_isSpace {c : Char} (h : (text.dropWhile isSpace).head? = some c) :
    isSpace c = false := by
  have hstop := List.head?_dropWhile_not isSpace text
  rwa [h] at hstop

theorem getLast?_strip {c : Char} (h : (strip text).getLast? = some c) : isSpace c = false := by
  rw [strip, List.getLast?_reverse] at h
  exact head?_dropWhile_isSpace h

theorem head?_strip {c : Char} (h : (strip text).head? = some c) : isSpace c = false := by
  have hprefix : strip text <+: text.dropWhile isSpace := by
    rw [strip, ← List.reverse_suffix, List.reverse_reverse]
    exact List.dropWhile_suffix _
  obtain ⟨rest, hrest⟩ := hprefix
  apply @head?_dropWhile_isSpace text
  rw [← hrest, List.head?_append, h]
  rfl

theorem strip_strip : strip (strip text) = strip text :=
  strip_eq_self (fun _ => head?_strip) (fun _ => getLast?_strip)

end Strip

theorem commaList_append (texts texts' : String) :
    commaList (texts ++ "," ++ texts') = commaList texts ++ commaList texts' := by
  have htext : (texts ++ "," ++ texts').toList = texts.toList ++ ',' :: texts'.toList := by
    rw [String.toList_append, String.toList_append, List.append_assoc]
    rfl
  rw [commaList, commaList, commaList, htext, List.splitOn_append_cons_self, List.map_append,
    List.filter_append]

theorem commaList_single {text : String} (hcomma : ',' ∉ text.toList)
    (hstrip : strip text.toList = text.toList) (hne : text ≠ "") : commaList text = [text] := by
  rw [commaList, List.splitOn_eq_singleton hcomma, List.map_singleton, hstrip, String.ofList_toList,
    List.filter_singleton]
  simp [hne]

theorem keyBytes_encode (key : Ed25519Key) : keyBytes (b64urlEncode key.bytes).toList = .ok key := by
  have hspace (c) (hc : c ∈ (b64urlEncode key.bytes).toList) : isSpace c = false :=
    (b64urlEncode_plain key.bytes c hc).1
  rw [keyBytes, strip_eq_self (fun c hc => hspace c (List.mem_of_head? hc))
    (fun c hc => hspace c (List.mem_of_getLast? hc)), b64urlDecode_encode, ok_bind, dif_pos key.length]
  rfl

theorem issuerName_eq_some {argument : String} {iss : List Char} (h : issuerName argument = some iss) :
    iss = strip argument.toList ∧ iss ≠ [] ∧ ':' ∉ iss ∧ ',' ∉ iss := by
  rw [issuerName] at h
  split at h
  · cases h
  · rename_i hname
    split at h
    · cases h
    · rename_i hmarks
      cases h
      exact ⟨rfl, fun he => hname (.inl he), fun hc => hmarks (.inl hc), fun hc => hmarks (.inr hc)⟩

section NewIssuer
variable {argument : String} {seed point : Ed25519Key} {issued : NewIssuer}

/-- An entry is one item of a comma-separated list, and names the caller and its key. -/
theorem newIssuer_entry (h : newIssuer argument seed point = some issued) :
    ∃ iss, issuerName argument = some iss ∧ issued.privateKey = b64urlEncode seed.bytes ∧
      commaList issued.entry = [issued.entry] ∧
      partitionAt ':' issued.entry.toList = (iss, true, (b64urlEncode point.bytes).toList) := by
  obtain ⟨iss, hiss, rfl⟩ := Option.map_eq_some_iff.1 h
  obtain ⟨hstrip, hne, hcolon, hcomma⟩ := issuerName_eq_some hiss
  have hkey := b64urlEncode_plain point.bytes
  have htail : ∀ c ∈ ':' :: (b64urlEncode point.bytes).toList, isSpace c = false :=
    List.forall_mem_cons.2 ⟨by decide, fun c hc => (hkey c hc).1⟩
  refine ⟨iss, hiss, rfl, commaList_single ?_ ?_ ?_, ?_⟩
  · rw [String.toList_ofList, List.mem_append, List.mem_cons, not_or, not_or]
    exact ⟨hcomma, by decide, fun hc => (hkey _ hc).2.1 rfl⟩
  · rw [String.toList_ofList]
    apply strip_eq_self
    · intro c hc
      rw [List.head?_append_of_ne_nil _ hne, hstrip] at hc
      exact head?_strip hc
    · intro c hc
      rw [List.getLast?_append_of_ne_nil _ (List.cons_ne_nil _ _)] at hc
      exact htail c (List.mem_of_getLast? hc)
  · intro he
    have hnil := String.ofList_eq_empty_iff.1 he
    exact hne (List.append_eq_nil_iff.1 hnil).1
  · rw [String.toList_ofList, partitionAt_append hcolon]

end NewIssuer

theorem loadIssuers_append {py : JwtPython} {config fragment : String} {keys : Dict String PublicKey}
    (h : loadIssuers py config = .ok keys) :
    loadIssuers py (config ++ "," ++ fragment) =
      (commaList fragment).foldlM (loadIssuer py) keys := by
  rw [loadIssuers] at h
  rw [loadIssuers, commaList_append, List.foldlM_append, h, ok_bind]

theorem loadIssuer_entry (py : JwtPython) (keys : Dict String PublicKey) {entry : String}
    {iss : List Char} {point : Ed25519Key} (h : partitionAt ':' entry.toList =
      (iss, true, (b64urlEncode point.bytes).toList)) :
    loadIssuer py keys entry = .ok (keys.set (String.ofList (strip iss)) point.bytes) := by
  rw [loadIssuer, h]
  dsimp only
  rw [keyBytes_encode, ok_bind]
  rfl

/-- What `new-issuer.py` prints is read back: its entry registers the caller, alone or after any
configuration that loads, and leaves every other caller as it was; its private key is the seed. -/
structure Registered (py : JwtPython) (issued : NewIssuer) (seed point : Ed25519Key)
    (iss : String) : Prop where
  alone : loadIssuers py issued.entry = .ok [(iss, point.bytes)]
  appended : ∀ config keys, loadIssuers py config = .ok keys →
    loadIssuers py (config ++ "," ++ issued.entry) = .ok (keys.set iss point.bytes)
  others : ∀ config keys keys' caller, loadIssuers py config = .ok keys →
    loadIssuers py (config ++ "," ++ issued.entry) = .ok keys' → caller ≠ iss →
    keys'.lookup caller = keys.lookup caller
  loaded : loadPrivate issued.privateKey = .ok (some seed)
  minted : urlsafeB64decode (issued.privateKey.toList ++ "==".toList) = .ok seed.bytes

theorem new_issuer_registered (py : JwtPython) (argument : String) (seed point : Ed25519Key)
    (issued : NewIssuer) (h : newIssuer argument seed point = some issued) :
    Registered py issued seed point (String.ofList (strip argument.toList)) := by
  obtain ⟨iss, hiss, hprivate, hlist, hentry⟩ := newIssuer_entry h
  obtain ⟨hname, -⟩ := issuerName_eq_some hiss
  have hstrip : strip iss = strip argument.toList := by rw [hname, strip_strip]
  have hload (keys) := loadIssuer_entry py keys hentry
  rw [hstrip] at hload
  have happended (config) (keys) (hconfig : loadIssuers py config = .ok keys) :
      loadIssuers py (config ++ "," ++ issued.entry) =
        .ok (keys.set (String.ofList (strip argument.toList)) point.bytes) := by
    rw [loadIssuers_append hconfig, hlist, List.foldlM_cons, hload, ok_bind, List.foldlM_nil]
    rfl
  refine ⟨?_, happended, ?_, ?_, ?_⟩
  · rw [loadIssuers, hlist, List.foldlM_cons, hload, ok_bind, List.foldlM_nil]
    rfl
  · intro config keys keys' caller hconfig hconfig' hne
    rw [happended config keys hconfig, Except.ok.injEq] at hconfig'
    rw [← hconfig', Dict.lookup_set_ne _ hne]
  · have hne : b64urlEncode seed.bytes ≠ "" := by
      intro he
      have hempty : b64urlEncode [] = "" := by decide
      have hnil := b64urlEncode_injective (he.trans hempty.symm)
      have hlength := seed.length
      rw [hnil] at hlength
      cases hlength
    rw [loadPrivate, hprivate, if_neg hne, keyBytes_encode]
    rfl
  · have hpads : "==".toList = List.replicate 2 '=' := rfl
    rw [hprivate, hpads]
    exact urlsafeB64decode_encode seed.bytes (n := 2) (.inr (by rw [seed.length]; decide))

def zeroSeed : Ed25519Key := ⟨List.replicate 32 0, List.length_replicate⟩

/-- The public key of this seed. -/
def zeroPoint : Ed25519Key :=
  ⟨[59, 106, 39, 188, 206, 182, 164, 45, 98, 163, 168, 208, 42, 111, 13, 115,
    101, 50, 21, 119, 29, 226, 67, 166, 58, 192, 72, 161, 139, 89, 218, 41], rfl⟩

theorem new_issuer_registered_drive :
    ∃ issued, newIssuer " drive " zeroSeed zeroPoint = some issued ∧
      loadIssuers asciiJwtPython issued.entry = .ok [("drive", zeroPoint.bytes)] :=
  ⟨_, rfl, (new_issuer_registered asciiJwtPython " drive " zeroSeed zeroPoint _ rfl).alone⟩

end FileScanner
