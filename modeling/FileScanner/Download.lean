import FileScanner.Encryption
import FileScanner.Lib.Blocks
import FileScanner.Ssrf

namespace FileScanner
open Fallible Streams
set_option autoImplicit true

/-- The most bytes a source may send: the cap counts the plaintext, so an encrypted source gets
the room its chunking adds. -/
def wireCap (py : Python) (settings : Settings) (enc : Json) : Except Exc Nat :=
  let cap := settings.maxUrlSize
  if !enc.truthy then .ok cap
  else
    match (enc.item "chunk_size").bind (·.toInt py) with
    | .error (.keyError _) | .error (.typeError _) | .error (.valueError _) => .ok cap
    | .error e => .error e
    | .ok chunkSize =>
      if chunkSize ≤ 0 then .ok cap
      else .ok (cap + (max 1 (-((-(cap : Int)).fdiv chunkSize))).toNat * OVERHEAD_PER_CHUNK)

/-- The size and time budgets, checked on every piece of the body. -/
def checkLimits (settings : Settings) (readBytes : Nat) (elapsed : Rat) (wireCap : Nat) :
    Except Exc Unit := do
  raiseIf (settings.downloadMaxSeconds < elapsed)
    (.fileError ("download_timeout: exceeded " ++ toString settings.downloadMaxSeconds
      ++ "s total transfer budget"))
  raiseIf (wireCap < readBytes)
    (.fileError ("file_too_large: streamed over " ++ toString wireCap
      ++ " bytes (Content-Length missing or understated)"))

def account (settings : Settings) (cap : Nat) (read : Nat) (chunk : Chunk) : Except Exc Nat := do
  checkLimits settings (read + chunk.data.length) chunk.elapsed cap
  pure (read + chunk.data.length)

def Body.finish (body : Body) : Except Exc Unit :=
  match body.ending with
  | none => .ok ()
  | some e => .error e

def writeChunk (settings : Settings) (state : Nat × Bytes) (chunk : Chunk) :
    Except Exc (Nat × Bytes) := do
  let read ← account settings settings.maxUrlSize state.1 chunk
  pure (read, state.2 ++ chunk.data)

/-- `_write_plaintext`: the bytes read off the wire and the file left on disk. -/
def writePlaintext (settings : Settings) (body : Body) : Except Exc (Nat × Bytes) := do
  let state ← body.chunks.foldlM (writeChunk settings) (0, [])
  body.finish
  pure state

def writePlain (settings : Settings) (file plain : Bytes) : Except Exc Bytes := do
  raiseIf (settings.maxUrlSize < file.length + plain.length)
    (.fileError ("file_too_large: plaintext over " ++ toString settings.maxUrlSize ++ " bytes"))
  pure (file ++ plain)

/-- Decrypt and write the next chunk; the state is the chunks done and the file. -/
def decryptBlock (gcm : AesGcm) (settings : Settings) (params : DecryptionParams settings)
    (state : Nat × Bytes) (blob : Bytes) : Except Exc (Nat × Bytes) := do
  let plain ← decryptChunk gcm params.key blob params.fileId (state.1 + 1) params.parts
  let file ← writePlain settings state.2 plain
  pure (state.1 + 1, file)

def decryptTail (gcm : AesGcm) (settings : Settings) (params : DecryptionParams settings)
    (state : Nat × Bytes) (buffer : Bytes) : Except Exc (Nat × Bytes) :=
  if buffer = [] then .ok state else decryptBlock gcm settings params state buffer

/-- The streaming part of `_write_decrypted`: decrypt chunk by chunk, then check the count. -/
def decryptStream (gcm : AesGcm) (settings : Settings) (params : DecryptionParams settings)
    (cap : Nat) (body : Body) : Except Exc (Nat × Bytes) := do
  let (read, state, buffer) ← feed (account settings cap) Chunk.data
    (params.chunkSize + OVERHEAD_PER_CHUNK) (decryptBlock gcm settings params) body.chunks
    0 (0, []) []
  body.finish
  let (partNumber, file) ← decryptTail gcm settings params state buffer
  raiseIf (partNumber ≠ params.parts)
    (.decryptionError ("expected " ++ toString params.parts ++ " chunks, decrypted "
      ++ toString partNumber ++ " (truncated?)"))
  pure (read, file)

def decryptWriter (py : Python) (gcm : AesGcm) (settings : Settings) (enc : Json) :
    Except Exc (Body → Except Exc (Nat × Bytes)) := do
  let params ← decryptionParams py settings enc
  let cap ← wireCap py settings enc
  pure (decryptStream gcm settings params cap)

def writeDecrypted (py : Python) (gcm : AesGcm) (settings : Settings) (enc : Json)
    (body : Body) : Except Exc (Nat × Bytes) := do
  let write ← decryptWriter py gcm settings enc
  write body

/-- The writer a job uses: an encrypted source is decrypted on the way to disk. -/
def bodyWriter (py : Python) (gcm : AesGcm) (settings : Settings) (enc : Json) :
    Except Exc (Body → Except Exc (Nat × Bytes)) :=
  if enc.truthy then decryptWriter py gcm settings enc else .ok (writePlaintext settings)

def declaredLength (py : Python) (header : Option String) : Option Int :=
  match header with
  | none | some "" => none
  | some text => py.int text

def checkDeclared (py : Python) (cap : Nat) (header : Option String) : Except Exc Unit :=
  match declaredLength py header with
  | none => .ok ()
  | some declared =>
    raiseIf (declared ≠ 0 ∧ (cap : Int) < declared)
      (.fileError ("file_too_large: " ++ toString declared ++ " bytes exceeds " ++ toString cap
        ++ " limit"))

theorem neg_fdiv_neg (m : Nat) {c : Nat} (hc : 0 < c) :
    -((-(m : Int)).fdiv c) = ((m + c - 1) / c : Nat) := by
  obtain ⟨hlo, hhi⟩ := (Nat.div_eq_iff hc (x := m + c - 1)).1 rfl
  generalize (m + c - 1) / c = q at hlo hhi
  have hdiv : (-(m : Int)).fdiv c = -(q : Int) := by
    rw [Int.fdiv_eq_ediv_of_nonneg _ (Int.natCast_nonneg c), Int.ediv_eq_iff_of_pos (by omega),
      Int.neg_mul, ← Int.natCast_mul]
    omega
  rw [hdiv, Int.neg_neg]

/-- The cap of an encrypted source whose chunk size reads as a number. -/
theorem wireCap_of_int {py : Python} {settings : Settings} {enc : Json} {chunkSize : Int}
    (hchunk : (enc.item "chunk_size").bind (·.toInt py) = .ok chunkSize) :
    wireCap py settings enc = .ok (if chunkSize ≤ 0 then settings.maxUrlSize
      else settings.maxUrlSize
        + (max 1 (-((-(settings.maxUrlSize : Int)).fdiv chunkSize))).toNat
          * OVERHEAD_PER_CHUNK) := by
  have htruthy : enc.truthy = true := by
    cases enc with
    | obj entries =>
      cases entries with
      | nil => cases hchunk
      | cons entry entries => rfl
    | _ => cases hchunk
  rw [wireCap, htruthy, hchunk, Bool.not_true, if_neg Bool.false_ne_true]
  dsimp only
  split
  · rfl
  · rfl

theorem account_ok_iff {settings : Settings} {cap read n : Nat} {chunk : Chunk} :
    account settings cap read chunk = .ok n ↔
      chunk.elapsed ≤ settings.downloadMaxSeconds ∧ read + chunk.data.length ≤ cap ∧
        n = read + chunk.data.length := by
  rw [account, checkLimits]
  constructor
  · intro h
    obtain ⟨⟨⟩, hlimits, h⟩ := bind_eq_ok.1 h
    obtain ⟨⟨⟩, htime, hsize⟩ := bind_eq_ok.1 hlimits
    cases h
    exact ⟨Rat.not_lt.1 (raiseIf_eq_ok.1 htime), not_lt.1 (raiseIf_eq_ok.1 hsize), rfl⟩
  · rintro ⟨htime, hsize, rfl⟩
    rw [raiseIf_neg (Rat.not_lt.2 htime), ok_bind, raiseIf_neg (not_lt.2 hsize), ok_bind]
    rfl

/-- A body passes the budgets when each piece comes in time and all of it fits. -/
theorem accounts_ok_iff {settings : Settings} {cap : Nat} {chunks : List Chunk} {read n : Nat}
    (hread : read ≤ cap) :
    chunks.foldlM (account settings cap) read = .ok n ↔
      (∀ chunk ∈ chunks, chunk.elapsed ≤ settings.downloadMaxSeconds) ∧
        read + (chunks.flatMap (·.data)).length ≤ cap ∧
        n = read + (chunks.flatMap (·.data)).length := by
  induction chunks generalizing read with
  | nil =>
    rw [List.foldlM_nil, List.flatMap_nil, List.length_nil, Nat.add_zero]
    refine ⟨fun h => ?_, fun h => ?_⟩
    · cases h
      exact ⟨fun _ hc => absurd hc List.not_mem_nil, hread, rfl⟩
    · rw [h.2.2]
      rfl
  | cons chunk chunks ih =>
    rw [List.foldlM_cons, bind_eq_ok, List.flatMap_cons, List.length_append, List.forall_mem_cons,
      ← Nat.add_assoc]
    constructor
    · rintro ⟨read', hacc, hrest⟩
      obtain ⟨htime, hsize, rfl⟩ := account_ok_iff.1 hacc
      obtain ⟨htimes, hsizes, hn⟩ := (ih hsize).1 hrest
      exact ⟨⟨htime, htimes⟩, hsizes, hn⟩
    · rintro ⟨⟨htime, htimes⟩, hsizes, hn⟩
      have hsize : read + chunk.data.length ≤ cap := le_trans (Nat.le_add_right _ _) hsizes
      exact ⟨_, account_ok_iff.2 ⟨htime, hsize, rfl⟩, (ih hsize).2 ⟨htimes, hsizes, hn⟩⟩

theorem Body.finish_ok_iff {body : Body} : body.finish = .ok () ↔ body.ending = none := by
  rw [Body.finish]
  cases body.ending with
  | none => exact iff_of_true rfl rfl
  | some e => exact iff_of_false (nomatch ·) (nomatch ·)

theorem writeChunks_ok_iff {settings : Settings} {chunks : List Chunk} {read n : Nat}
    {file file' : Bytes} :
    chunks.foldlM (writeChunk settings) (read, file) = .ok (n, file') ↔
      chunks.foldlM (account settings settings.maxUrlSize) read = .ok n ∧
        file' = file ++ chunks.flatMap (·.data) := by
  induction chunks generalizing read file with
  | nil =>
    rw [List.foldlM_nil, List.foldlM_nil, List.flatMap_nil, List.append_nil]
    constructor
    · intro h
      cases h
      exact ⟨rfl, rfl⟩
    · rintro ⟨h, rfl⟩
      cases h
      rfl
  | cons chunk chunks ih =>
    rw [List.foldlM_cons, List.foldlM_cons, List.flatMap_cons, ← List.append_assoc, writeChunk]
    cases account settings settings.maxUrlSize read chunk with
    | error e => exact iff_of_false (nomatch ·) (fun h => nomatch h.1)
    | ok read' => exact ih

/-- A plain body is written when it comes in time, fits the cap and ends well. -/
theorem writePlaintext_ok_iff {settings : Settings} {body : Body} {n : Nat} {file : Bytes} :
    writePlaintext settings body = .ok (n, file) ↔
      (∀ chunk ∈ body.chunks, chunk.elapsed ≤ settings.downloadMaxSeconds) ∧
        body.bytes.length ≤ settings.maxUrlSize ∧ body.ending = none ∧
        n = body.bytes.length ∧ file = body.bytes := by
  rw [writePlaintext]
  constructor
  · intro h
    obtain ⟨⟨n', file'⟩, hchunks, h⟩ := bind_eq_ok.1 h
    obtain ⟨⟨⟩, hend, h⟩ := bind_eq_ok.1 h
    cases h
    obtain ⟨hread, hfile⟩ := writeChunks_ok_iff.1 hchunks
    obtain ⟨htimes, hsize, hn⟩ := (accounts_ok_iff (Nat.zero_le _)).1 hread
    rw [Nat.zero_add] at hsize hn
    exact ⟨htimes, hsize, Body.finish_ok_iff.1 hend, hn, hfile⟩
  · rintro ⟨htimes, hsize, hend, rfl, rfl⟩
    have hread : body.chunks.foldlM (account settings settings.maxUrlSize) 0 =
        .ok body.bytes.length := by
      rw [accounts_ok_iff (Nat.zero_le _), Nat.zero_add]
      exact ⟨htimes, hsize, rfl⟩
    rw [writeChunks_ok_iff.2 ⟨hread, rfl⟩, ok_bind, Body.finish_ok_iff.2 hend]
    rfl

end FileScanner
