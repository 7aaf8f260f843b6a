import FileScanner.Keys
import FileScanner.Lib.Likeness
import FileScanner.RoundTrip

namespace FileScanner
open Base64 Collections Fallible Streams
set_option autoImplicit true

/-- The key of a text exchanged for another one, and spelled anew; what spells no key stays. -/
def respell (σ : Equiv.Perm Key) (text : String) : String :=
  match decodeFragment text with
  | .ok key => b64urlEncode (σ key).bytes
  | .error _ => text

def rekeyEntry (σ : Equiv.Perm Key) (name : String) : Json → Json
  | .str text => if name = "key" then .str (respell σ text) else .str text
  | v => v

/-- The same decryption material, with the key exchanged. -/
def rekeyParams (σ : Equiv.Perm Key) : Json → Json
  | .obj entries => .obj (entries.map (fun e => (e.1, rekeyEntry σ e.1 e.2)))
  | v => v

def DecryptionParams.rekey {settings : Settings} (σ : Equiv.Perm Key)
    (params : DecryptionParams settings) : DecryptionParams settings :=
  { params with key := σ params.key }

section Decoding
variable {σ : Equiv.Perm Key}

theorem isFragmentChar_digit : ∀ n < 64, isFragmentChar (digit n) = true := by decide +kernel

theorem decodeFragment_encode (key : Key) :
    decodeFragment (b64urlEncode key.bytes) = .ok key := by
  have hmod : (sextets key.bytes).length % 4 = 3 := by
    rw [length_sextets_mod, key.length]
    decide
  have hlength : (b64urlEncode key.bytes).length % 4 = 3 := by
    rw [← String.length_toList, b64urlEncode_toList, List.length_map, hmod]
  have hchars : ∀ c ∈ (b64urlEncode key.bytes).toList, isFragmentChar c = true := by
    intro c hc
    rw [b64urlEncode_toList] at hc
    obtain ⟨n, hn, rfl⟩ := List.mem_map.1 hc
    exact isFragmentChar_digit n (sextets_lt key.bytes n hn)
  have hpattern : matchesKeyPattern (b64urlEncode key.bytes).toList = true := by
    rw [matchesKeyPattern, List.takeWhile_eq_self_iff.2 hchars, List.dropWhile_eq_nil_iff.2 hchars,
      Bool.and_eq_true, Bool.not_eq_true']
    refine ⟨List.isEmpty_eq_false_iff.2 fun hnil => ?_, rfl⟩
    rw [← String.length_toList, hnil] at hlength
    cases hlength
  have hdecode : base64Decode ((b64urlEncode key.bytes).toList ++ List.replicate 1 '=') 0 0 0 [] =
      .ok key.bytes := by
    have h := urlsafeB64decode_encode key.bytes (n := 1) (by rw [key.length]; decide)
    rw [urlsafeB64decode] at h
    split at h
    · exact mapError_eq_ok.1 h
    · cases h
  rw [decodeFragment, isFragment_of_matchesKeyPattern hpattern, Bool.not_true,
    if_neg Bool.false_ne_true]
  dsimp only
  rw [hlength, hdecode, ok_bind, dif_pos key.length]
  rfl

theorem decodeFragment_respell (text : String) :
    decodeFragment (respell σ text) = σ <$> decodeFragment text := by
  rw [respell]
  cases h : decodeFragment text with
  | error e => exact h
  | ok key => exact decodeFragment_encode (σ key)

end Decoding

section Material
variable (σ : Equiv.Perm Key) {settings : Settings}

theorem rekeyEntry_ne {name : String} (h : name ≠ "key") (v : Json) : rekeyEntry σ name v = v := by
  cases v with
  | str text => exact if_neg h
  | _ => rfl

theorem item_rekey (enc : Json) (name : String) :
    (rekeyParams σ enc).item name = rekeyEntry σ name <$> enc.item name := by
  cases enc with
  | obj entries =>
    rw [rekeyParams, Json.item, Json.item]
    rw [Dict.lookup_mapEntries entries (rekeyEntry σ)]
    cases entries.lookup name <;> rfl
  | _ => rfl

/-- What is not the key of the material stays as it is. -/
theorem item_rekey_ne (enc : Json) {name : String} (h : name ≠ "key") :
    (rekeyParams σ enc).item name = enc.item name := by
  rw [item_rekey, funext (rekeyEntry_ne σ h)]
  cases enc.item name <;> rfl

theorem truthy_rekey (enc : Json) : (rekeyParams σ enc).truthy = enc.truthy := by
  cases enc with
  | obj entries => cases entries <;> rfl
  | _ => rfl

theorem decodeKey_rekey (v : Json) :
    decodeKey (rekeyEntry σ "key" v) = σ <$> decodeKey v := by
  have hempty : σ <$> decodeFragment "" = decodeFragment "" := rfl
  cases v with
  | str text => exact decodeFragment_respell text
  | _ =>
    simp only [rekeyEntry, decodeKey]
    split
    · rfl
    · exact hempty.symm

theorem checkScheme_rekey (py : Python) (enc : Json) :
    checkScheme py (rekeyParams σ enc) = checkScheme py enc := by
  cases enc with
  | obj entries =>
    have hscheme : (entries.map (fun e => (e.1, rekeyEntry σ e.1 e.2))).lookup "scheme" =
        entries.lookup "scheme" := by
      rw [Dict.lookup_mapEntries entries (rekeyEntry σ), funext (rekeyEntry_ne σ (by decide)),
        Option.map_id']
    rw [rekeyParams, checkScheme, checkScheme, hscheme]
  | _ => rfl

theorem readParams_rekey (py : Python) (enc : Json) :
    readParams py (rekeyParams σ enc) = Prod.map σ id <$> readParams py enc := by
  rw [readParams, readParams, item_rekey, item_rekey_ne σ enc (by decide : "file_id" ≠ "key"),
    item_rekey_ne σ enc (by decide : "chunk_size" ≠ "key"),
    item_rekey_ne σ enc (by decide : "parts" ≠ "key")]
  simp only [bind_map_left, map_bind, map_pure, decodeKey_rekey]
  rfl

theorem checkRanges_rekey (key : Key) (fileId : String) (chunkSize parts : Int) :
    checkRanges settings (σ key) fileId chunkSize parts =
      (·.rekey σ) <$> checkRanges settings key fileId chunkSize parts := by
  rw [checkRanges, checkRanges]
  split
  · rw [raiseIf]
    split <;> rfl
  · rfl

theorem decryptionParams_rekey (py : Python) (enc : Json) :
    decryptionParams py settings (rekeyParams σ enc) =
      (·.rekey σ) <$> decryptionParams py settings enc := by
  rw [decryptionParams, decryptionParams, checkScheme_rekey, readParams_rekey]
  cases checkScheme py enc with
  | error e => rfl
  | ok _ =>
    rw [ok_bind, ok_bind]
    cases readParams py enc with
    | error e => rfl
    | ok read => exact checkRanges_rekey σ read.1 read.2.1 read.2.2.1 read.2.2.2

theorem wireCap_rekey (py : Python) (settings : Settings) (enc : Json) :
    wireCap py settings (rekeyParams σ enc) = wireCap py settings enc := by
  rw [wireCap, wireCap, truthy_rekey, item_rekey_ne σ enc (by decide)]

end Material

/-- The chunks of a stream, each of them decrypted. -/
def DecryptionParams.chunks {settings : Settings} (gcm : AesGcm) (params : DecryptionParams settings)
    (stream : Bytes) : List (Except Exc Bytes) :=
  (slices (params.chunkSize + OVERHEAD_PER_CHUNK) stream).mapIdx
    (fun i blob => decryptChunk gcm params.key blob params.fileId (i + 1) params.parts)

/-- A body in the place of another one: its pieces have the same lengths and come at the same
times, it ends alike, and under the exchanged key each of its chunks decrypts to what the chunk of
the other did. -/
structure Resealed (gcm : AesGcm) (σ : Equiv.Perm Key) {settings : Settings}
    (params : DecryptionParams settings) (body body' : Body) : Prop where
  pieces : List.Forall₂ (fun c c' => c'.data.length = c.data.length ∧ c'.elapsed = c.elapsed)
    body.chunks body'.chunks
  ending : body'.ending = body.ending
  chunks : (params.rekey σ).chunks gcm body'.bytes = params.chunks gcm body.bytes

section Streams
variable {gcm : AesGcm} {σ : Equiv.Perm Key} {settings : Settings}
  {params : DecryptionParams settings} {body body' : Body}

theorem decryptBlock_sees (gcm : AesGcm) (params : DecryptionParams settings) :
    Sees (ε := Exc) Prod.fst
      (fun i blob => decryptChunk gcm params.key blob params.fileId (i + 1) params.parts)
      (fun state decrypted => do
        let file ← writePlain settings state.2 (← decrypted)
        pure (state.1 + 1, file))
      (decryptBlock gcm settings params) where
  sees _ _ := rfl
  counts _ _ _ h := by
    obtain ⟨_, -, -, hcount, -⟩ := decryptBlock_ok_iff.1 h
    exact hcount

theorem Resealed.length_bytes (h : Resealed gcm σ params body body') :
    body'.bytes.length = body.bytes.length := by
  have hpieces := h.pieces
  rw [Body.bytes, Body.bytes]
  clear h
  generalize body.chunks = chunks at hpieces
  generalize body'.chunks = chunks' at hpieces
  induction hpieces with
  | nil => rfl
  | cons hc _ ih =>
    rw [List.flatMap_cons, List.flatMap_cons, List.length_append, List.length_append, hc.1, ih]

theorem Resealed.lookAlike (h : Resealed gcm σ params body body') :
    LookAlike (params.chunkSize + OVERHEAD_PER_CHUNK)
      (fun i blob => decryptChunk gcm params.key blob params.fileId (i + 1) params.parts)
      (fun i blob => decryptChunk gcm (σ params.key) blob params.fileId (i + 1) params.parts)
      0 body.bytes body'.bytes where
  length := h.length_bytes
  slices := by
    simp only [Nat.zero_add]
    exact h.chunks

/-- A resealed stream is written, or refused, as the stream in whose place it is. -/
theorem decryptStream_resealed (h : Resealed gcm σ params body body') (cap : Nat) :
    decryptStream gcm settings (params.rekey σ) cap body' =
      decryptStream gcm settings params cap body := by
  have hn : 0 < params.chunkSize + OVERHEAD_PER_CHUNK := by
    rw [OVERHEAD_PER_CHUNK, IV_BYTES]
    omega
  have hpieces : List.Forall₂ (fun c c' => c'.data.length = c.data.length ∧
      ∀ read, account settings cap read c' = account settings cap read c)
      body.chunks body'.chunks := by
    refine h.pieces.imp fun c c' hc => ⟨hc.1, fun read => ?_⟩
    rw [account, account, hc.1, hc.2]
  have hfinish : body'.finish = body.finish := by rw [Body.finish, Body.finish, h.ending]
  have hnil : ([] : Bytes).length = ([] : Bytes).length := rfl
  have hshort : ([] : Bytes).length < params.chunkSize + OVERHEAD_PER_CHUNK := hn
  rw [decryptStream, decryptStream, hfinish]
  rcases feed_alike hn (decryptBlock_sees gcm params) (decryptBlock_sees gcm (params.rekey σ))
      hpieces 0 (s := (0, [])) hnil hshort h.lookAlike with
    ⟨e, he, he'⟩ | ⟨read, state, buffer, buffer', hok, hok', hshort, hbuffer⟩
  · rw [he]
    exact congrArg (· >>= _) he'
  · have htail : decryptTail gcm settings (params.rekey σ) state buffer' =
        decryptTail gcm settings params state buffer := by
      have hempty : buffer' = [] ↔ buffer = [] := by
        rw [← List.length_eq_zero_iff, ← List.length_eq_zero_iff, hbuffer.length]
      rw [decryptTail, decryptTail]
      by_cases hbuf : buffer = []
      · rw [if_pos hbuf, if_pos (hempty.2 hbuf)]
      · have hlook := hbuffer.tail hshort hbuf
        rw [if_neg hbuf, if_neg (mt hempty.1 hbuf), decryptBlock, decryptBlock]
        exact congrArg (· >>= _) hlook
    rw [hok, ok_bind]
    dsimp only
    rw [← htail]
    exact congrArg (· >>= _) hok'

end Streams

/-- What a job reads in the place of a body: a resealed one when it decrypts, else the same. -/
def SameBody (py : Python) (gcm : AesGcm) (settings : Settings) (σ : Equiv.Perm Key) (enc : Json)
    (body body' : Body) : Prop :=
  if enc.truthy then
    ∀ params, decryptionParams py settings enc = .ok params → Resealed gcm σ params body body'
  else body' = body

/-- What a source answers in the place of another answer: the same failure, or a response that
differs in its body alone. -/
inductive ServedAlike (py : Python) (gcm : AesGcm) (settings : Settings) (σ : Equiv.Perm Key)
    (enc : Json) : Except Exc Response → Except Exc Response → Prop
  | failed (e : Exc) : ServedAlike py gcm settings σ enc (.error e) (.error e)
  | answered (response : Response) (body' : Body)
      (h : SameBody py gcm settings σ enc response.body body') :
      ServedAlike py gcm settings σ enc (.ok response) (.ok { response with body := body' })

section Writing
variable (σ : Equiv.Perm Key) (py : Python) (gcm : AesGcm) (settings : Settings)

/-- With the key exchanged, the writer of a job is refused alike, or writes alike. -/
theorem bodyWriter_rekey (enc : Json) :
    (∃ e, bodyWriter py gcm settings enc = .error e ∧
      bodyWriter py gcm settings (rekeyParams σ enc) = .error e) ∨
      ∃ write write', bodyWriter py gcm settings enc = .ok write ∧
        bodyWriter py gcm settings (rekeyParams σ enc) = .ok write' ∧
        ∀ body body', SameBody py gcm settings σ enc body body' → write' body' = write body := by
  rw [bodyWriter, bodyWriter, truthy_rekey, decryptWriter, decryptWriter, decryptionParams_rekey,
    wireCap_rekey]
  cases htruthy : enc.truthy with
  | false =>
    refine .inr ⟨_, _, rfl, rfl, fun body body' h => ?_⟩
    rw [SameBody, htruthy] at h
    rw [show body' = body from h]
  | true =>
    cases hparams : decryptionParams py settings enc with
    | error e => exact .inl ⟨e, rfl, rfl⟩
    | ok params =>
      cases wireCap py settings enc with
      | error e => exact .inl ⟨e, rfl, rfl⟩
      | ok cap =>
        refine .inr ⟨_, _, rfl, rfl, fun body body' h => ?_⟩
        rw [SameBody, if_pos htruthy] at h
        exact decryptStream_resealed (h params hparams) cap

end Writing

/-- The same upload under the exchanged key. -/
def Upload.rekey {settings : Settings} (σ : Equiv.Perm Key) (u : Upload settings) :
    Upload settings :=
  { u with
    fragment := respell σ u.fragment
    key := σ u.key
    decoded := by rw [decodeFragment_respell, u.decoded]; rfl }

section Upload
variable {gcm : AesGcm} {σ : Equiv.Perm Key} {settings : Settings} {u : Upload settings}
  {body body' : Body}

theorem Upload.chunks_wire (h : Undoes gcm u.key) :
    u.params.chunks gcm (u.wire gcm) = (slices u.chunkSize u.plain).map .ok := by
  have hne : ∀ b ∈ slices u.chunkSize u.plain, b ≠ [] := slices_ne_nil u.positive
  rw [DecryptionParams.chunks, u.slices_wire h, blobs]
  apply List.ext_getElem
  · simp only [List.length_mapIdx, List.length_map]
  · intro i hi hi'
    rw [List.getElem_mapIdx, List.getElem_mapIdx, List.getElem_map]
    exact u.decryptChunk_blob h i (hne _ (List.getElem_mem _))

/-- A file sealed under the exchanged key is in the place of the file sealed under the other. -/
theorem Upload.resealed (h : Undoes gcm u.key) (h' : Undoes gcm (σ u.key))
    (hbytes : body.bytes = u.wire gcm) (hbytes' : body'.bytes = (u.rekey σ).wire gcm)
    (hpieces : List.Forall₂ (fun c c' => c'.data.length = c.data.length ∧ c'.elapsed = c.elapsed)
      body.chunks body'.chunks) (hending : body'.ending = body.ending) :
    Resealed gcm σ u.params body body' where
  pieces := hpieces
  ending := hending
  chunks := by
    rw [hbytes, hbytes', u.chunks_wire h]
    exact (u.rekey σ).chunks_wire h'

end Upload

end FileScanner
