import FileScanner.Config
import FileScanner.Lib.Fallible
import FileScanner.Lib.Join
import FileScanner.Python

namespace FileScanner
open Fallible Text
set_option autoImplicit true

def SCHEME : String := "aes-256-gcm-chunked-v1"

def SCHEMES : List String := [SCHEME]

def IV_BYTES : Nat := 12

def GCM_TAG_BYTES : Nat := 16

def KEY_BYTES : Nat := 32

def OVERHEAD_PER_CHUNK : Nat := IV_BYTES + GCM_TAG_BYTES

/-- AES-GCM under a key, by nonce and associated data; none is an invalid tag. -/
structure AesGcm where
  encrypt : Bytes → Bytes → Bytes → Bytes → Bytes
  decrypt : Bytes → Bytes → Bytes → Bytes → Option Bytes

structure Key where
  bytes : Bytes
  length : bytes.length = KEY_BYTES

def isFragmentChar (c : Char) : Bool := c.isAlpha || c.isDigit || c = '_' || c = '-'

/-- The `$` of a regular expression also matches before a last line break. -/
def dropLastBreak (text : List Char) : List Char :=
  if text.getLast? = some '\n' then text.dropLast else text

def isFragment (text : List Char) : Bool :=
  let text := dropLastBreak text
  !(text.takeWhile isFragmentChar).isEmpty
    && [[], ['='], ['=', '=']].contains (text.dropWhile isFragmentChar)

def base64Value (c : Char) : Option Nat :=
  if 'A' ≤ c ∧ c ≤ 'Z' then some (c.toNat - 'A'.toNat)
  else if 'a' ≤ c ∧ c ≤ 'z' then some (c.toNat - 'a'.toNat + 26)
  else if '0' ≤ c ∧ c ≤ '9' then some (c.toNat - '0'.toNat + 52)
  else if c = '-' ∨ c = '+' then some 62
  else if c = '_' ∨ c = '/' then some 63
  else none

/-- `urlsafe_b64decode`: other characters are skipped, and enough padding ends the text. -/
def base64Decode : List Char → Nat → Nat → Nat → Bytes → Except Exc Bytes
  | [], 0, _, _, out => .ok out
  | [], 1, _, _, out =>
    .error (.valueError ("Invalid base64-encoded string: number of data characters ("
      ++ toString (out.length / 3 * 4 + 1) ++ ") cannot be 1 more than a multiple of 4"))
  | [], _, _, _, _ => .error (.valueError "Incorrect padding")
  | c :: cs, quad, left, pads, out =>
    if c = '=' then
      if quad < 2 then base64Decode cs quad left pads out
      else if 4 ≤ quad + pads + 1 then .ok out
      else base64Decode cs quad left (pads + 1) out
    else
      match base64Value c, quad with
      | none, _ => base64Decode cs quad left pads out
      | some v, 0 => base64Decode cs 1 v 0 out
      | some v, 1 => base64Decode cs 2 (v % 16) 0 (out ++ [UInt8.ofNat (left * 4 + v / 16)])
      | some v, 2 => base64Decode cs 3 (v % 4) 0 (out ++ [UInt8.ofNat (left * 16 + v / 4)])
      | some v, _ => base64Decode cs 0 0 0 (out ++ [UInt8.ofNat (left * 64 + v)])

def decodeFragment (fragment : String) : Except Exc Key :=
  if !isFragment fragment.toList then
    .error (.decryptionError "key must be URL-safe base64 (A-Z a-z 0-9 - _)")
  else do
    let padding := List.replicate ((4 - fragment.length % 4) % 4) '='
    let raw ← base64Decode (fragment.toList ++ padding) 0 0 0 []
    if h : raw.length = KEY_BYTES then pure ⟨raw, h⟩
    else
      throw (.decryptionError ("expected a " ++ toString KEY_BYTES ++ "-byte key, got "
        ++ toString raw.length))

/-- `decode_key`; what is no text either counts as an empty one or has the wrong type. -/
def decodeKey : Json → Except Exc Key
  | .str fragment => decodeFragment fragment
  | v =>
    if v.truthy then
      .error (.typeError ("expected string or bytes-like object, got '" ++ v.typeName ++ "'"))
    else decodeFragment ""

def chunkAad (fileId : String) (partNumber parts : Nat) : Bytes :=
  encode (fileId ++ ":" ++ toString partNumber ++ ":" ++ toString parts)

def decryptChunk (gcm : AesGcm) (key : Key) (blob : Bytes) (fileId : String)
    (partNumber parts : Nat) : Except Exc Bytes :=
  if blob.length ≤ OVERHEAD_PER_CHUNK then
    .error (.decryptionError ("chunk " ++ toString partNumber ++ " is " ++ toString blob.length
      ++ " bytes, too short to hold an IV + tag (" ++ toString OVERHEAD_PER_CHUNK
      ++ ") plus ciphertext"))
  else
    match gcm.decrypt key.bytes (blob.take IV_BYTES) (blob.drop IV_BYTES)
        (chunkAad fileId partNumber parts) with
    | some plain => .ok plain
    | none =>
      .error (.decryptionError ("chunk " ++ toString partNumber ++ " failed authentication "
        ++ "(wrong key, chunking, or tampered/truncated ciphertext)"))

structure DecryptionParams (settings : Settings) where
  key : Key
  fileId : String
  chunkSize : Nat
  parts : Nat
  floor : settings.encryptionMinChunkSize ≤ chunkSize
  ceiling : chunkSize ≤ settings.encryptionMaxChunkSize

def checkScheme (py : Python) : Json → Except Exc Unit
  | .obj entries =>
    match (entries.lookup "scheme").getD (.str SCHEME) with
    | .str scheme =>
      raiseIf (scheme ∉ SCHEMES)
        (.decryptionError ("unsupported encryption scheme " ++ py.repr (.str scheme)))
    | .list _ => .error (.typeError "unhashable type: 'list'")
    | .obj _ => .error (.typeError "unhashable type: 'dict'")
    | scheme => .error (.decryptionError ("unsupported encryption scheme " ++ py.repr scheme))
  | v => .error (.attributeError ("'" ++ v.typeName ++ "' object has no attribute 'get'"))

def invalidParams : Exc → Exc
  | .keyError key => .decryptionError ("invalid encryption params: " ++ (Exc.keyError key).msg)
  | .typeError m | .valueError m => .decryptionError ("invalid encryption params: " ++ m)
  | e => e

def readParams (py : Python) (enc : Json) : Except Exc (Key × String × Int × Int) := do
  let fragment ← enc.item "key"
  let key ← decodeKey fragment
  let fileId ← enc.item "file_id"
  let chunkSize ← (← enc.item "chunk_size").toInt py
  let parts ← (← enc.item "parts").toInt py
  pure (key, py.format fileId, chunkSize, parts)

def checkRanges (settings : Settings) (key : Key) (fileId : String) (chunkSize parts : Int) :
    Except Exc (DecryptionParams settings) :=
  let lo := settings.encryptionMinChunkSize
  let hi := settings.encryptionMaxChunkSize
  if h : lo ≤ chunkSize ∧ chunkSize ≤ hi then do
    raiseIf (parts < 0) (.decryptionError ("invalid parts " ++ toString parts))
    pure ⟨key, fileId, chunkSize.toNat, parts.toNat, by omega, by omega⟩
  else
    .error (.decryptionError ("chunk_size " ++ toString chunkSize ++ " out of range ("
      ++ toString lo ++ ".." ++ toString hi ++ ")"))

def decryptionParams (py : Python) (settings : Settings) (enc : Json) :
    Except Exc (DecryptionParams settings) := do
  checkScheme py enc
  let (key, fileId, chunkSize, parts) ← (readParams py enc).mapError invalidParams
  checkRanges settings key fileId chunkSize parts

/-- A digit is worth its six bits, by the place it has in its group of four. -/
theorem base64Decode_value {c : Char} {v : Nat} (hpad : c ≠ '=') (hv : base64Value c = some v)
    (cs : List Char) (quad left pads : Nat) (out : Bytes) :
    base64Decode (c :: cs) quad left pads out =
      match quad with
      | 0 => base64Decode cs 1 v 0 out
      | 1 => base64Decode cs 2 (v % 16) 0 (out ++ [UInt8.ofNat (left * 4 + v / 16)])
      | 2 => base64Decode cs 3 (v % 4) 0 (out ++ [UInt8.ofNat (left * 16 + v / 4)])
      | _ => base64Decode cs 0 0 0 (out ++ [UInt8.ofNat (left * 64 + v)]) := by
  rw [base64Decode.eq_def]
  dsimp only
  rw [if_neg hpad, hv]
  rcases quad with _ | _ | _ | quad
  · rfl
  · rfl
  · rfl
  · rfl

theorem chunkAad_inj {f f' : String} {p p' n n' : Nat} (h : chunkAad f p n = chunkAad f' p' n') :
    f = f' ∧ p = p' ∧ n = n' := by
  have hs := congrArg String.toList (encode_injective h)
  simp only [String.toList_append, List.append_assoc] at hs
  have hcut (g : String) (q m : Nat) :
      g.toList ++ (":".toList ++ ((toString q).toList ++ (":".toList ++ (toString m).toList))) =
        (g.toList ++ ':' :: (toString q).toList) ++ ':' :: (toString m).toList := by
    simp
  rw [hcut, hcut] at hs
  have hsep := sep_not_mem_nat (c := ':') (by decide)
  -- The file id is free text, so the text is read from its end.
  obtain ⟨hfp, hn⟩ := append_sep_inj (hsep n) (hsep n') hs
  obtain ⟨hf, hp⟩ := append_sep_inj (hsep p) (hsep p') hfp
  exact ⟨String.toList_injective hf, toString_nat_inj hp, toString_nat_inj hn⟩

theorem checkRanges_ok {settings : Settings} {key : Key} {fileId : String} {chunkSize parts : Int}
    {params : DecryptionParams settings}
    (h : checkRanges settings key fileId chunkSize parts = .ok params) :
    params.key = key ∧ params.fileId = fileId ∧ params.parts = parts.toNat := by
  rw [checkRanges] at h
  split at h
  · obtain ⟨⟨⟩, -, h⟩ := bind_eq_ok.1 h
    cases h
    exact ⟨rfl, rfl, rfl⟩
  · cases h

theorem decryptionParams_ok {py : Python} {settings : Settings} {enc : Json}
    {params : DecryptionParams settings} (h : decryptionParams py settings enc = .ok params) :
    ∃ fragment fileId parts n, enc.item "key" = .ok fragment ∧ decodeKey fragment = .ok params.key ∧
      enc.item "file_id" = .ok fileId ∧ params.fileId = py.format fileId ∧
      enc.item "parts" = .ok parts ∧ parts.toInt py = .ok n ∧ params.parts = n.toNat := by
  rw [decryptionParams] at h
  obtain ⟨⟨⟩, -, h⟩ := bind_eq_ok.1 h
  obtain ⟨⟨key, fid, chunkSize, n⟩, hread, h⟩ := bind_eq_ok.1 h
  obtain ⟨hk, hf, hn⟩ := checkRanges_ok h
  rw [mapError_eq_ok, readParams] at hread
  obtain ⟨fragment, hkey, hread⟩ := bind_eq_ok.1 hread
  obtain ⟨key', hdecode, hread⟩ := bind_eq_ok.1 hread
  obtain ⟨fileId, hfid, hread⟩ := bind_eq_ok.1 hread
  obtain ⟨chunk, -, hread⟩ := bind_eq_ok.1 hread
  obtain ⟨chunkSize', -, hread⟩ := bind_eq_ok.1 hread
  obtain ⟨parts, hparts, hread⟩ := bind_eq_ok.1 hread
  obtain ⟨n', hn', hread⟩ := bind_eq_ok.1 hread
  cases hread
  exact ⟨fragment, fileId, parts, n, hkey, hk ▸ hdecode, hfid, hf, hparts, hn', hn⟩

def encryptionDump (fragment fileId : String) (chunkSize parts : Nat) : Json :=
  .obj [("scheme", .str SCHEME), ("key", .str fragment), ("chunk_size", .int chunkSize),
    ("file_id", .str fileId), ("parts", .int parts)]

theorem decryptionParams_dump (py : Python) {settings : Settings} {fragment fileId : String}
    {chunkSize parts : Nat} {key : Key} (hkey : decodeFragment fragment = .ok key)
    (hlo : settings.encryptionMinChunkSize ≤ chunkSize)
    (hhi : chunkSize ≤ settings.encryptionMaxChunkSize) :
    decryptionParams py settings (encryptionDump fragment fileId chunkSize parts) =
      .ok ⟨key, fileId, chunkSize, parts, hlo, hhi⟩ := by
  have hscheme : checkScheme py (encryptionDump fragment fileId chunkSize parts) = .ok () := rfl
  have hread : readParams py (encryptionDump fragment fileId chunkSize parts) =
      .ok (key, fileId, chunkSize, parts) := by
    have hk : (encryptionDump fragment fileId chunkSize parts).item "key" = .ok (.str fragment) :=
      rfl
    rw [readParams, hk, ok_bind, decodeKey, hkey]
    rfl
  have hranges : (settings.encryptionMinChunkSize : Int) ≤ chunkSize ∧
      (chunkSize : Int) ≤ settings.encryptionMaxChunkSize := by omega
  rw [decryptionParams, hscheme, ok_bind, hread]
  simp only [Except.mapError, ok_bind, checkRanges]
  rw [dif_pos hranges, raiseIf_neg (by omega)]
  rfl

end FileScanner
