import FileScanner.DownloadErrors

namespace FileScanner
open Fallible Streams
set_option autoImplicit true

/-- A body that comes whole and within the time budget. -/
structure Body.Arrives (settings : Settings) (body : Body) : Prop where
  inTime : ∀ chunk ∈ body.chunks, chunk.elapsed ≤ settings.downloadMaxSeconds
  ending : body.ending = none

/-- No encryption, or parameters that pass the checks of the worker. -/
def CheckedParams (py : Python) (settings : Settings) (enc : Json) : Prop :=
  enc.truthy = false ∨ ∃ params, decryptionParams py settings enc = .ok params

/-- The writer of a job run on a body. -/
def writeFile (py : Python) (gcm : AesGcm) (settings : Settings) (enc : Json) (body : Body) :
    Except Exc (Nat × Bytes) := do
  let write ← bodyWriter py gcm settings enc
  write body

/-- A failure that is reported at once as one of the file. -/
def IsPermanent (e : Exc) : Prop := IsFileError e ∨ ∃ m, e = .decryptionError m

theorem fileFailures_isPermanent : FileFailures IsPermanent :=
  ⟨fun m => .inl ⟨m, rfl⟩, fun m => .inr ⟨m, rfl⟩⟩

/-- Both runs leave the same file, or both fail for good. -/
inductive SameOutcome (bytes : Bytes) (x y : Except Exc (Nat × Bytes)) : Prop where
  | written (file : Bytes) (hx : x = .ok (bytes.length, file)) (hy : y = .ok (bytes.length, file))
  | refused (e e' : Exc) (hx : x = .error e) (hy : y = .error e') (he : IsPermanent e)
      (he' : IsPermanent e')

section Cutting
variable {py : Python} {gcm : AesGcm} {settings : Settings} {enc : Json} {body body' : Body}

theorem readParams_chunkSize {read : Key × String × Int × Int}
    (h : readParams py enc = .ok read) :
    (enc.item "chunk_size").bind (·.toInt py) = .ok read.2.2.1 := by
  rw [readParams] at h
  obtain ⟨fragment, -, h⟩ := bind_eq_ok.1 h
  obtain ⟨key, -, h⟩ := bind_eq_ok.1 h
  obtain ⟨fileId, -, h⟩ := bind_eq_ok.1 h
  obtain ⟨chunk, hchunk, h⟩ := bind_eq_ok.1 h
  obtain ⟨chunkSize, hsize, h⟩ := bind_eq_ok.1 h
  obtain ⟨parts, -, h⟩ := bind_eq_ok.1 h
  obtain ⟨n, -, h⟩ := bind_eq_ok.1 h
  cases h
  exact bind_eq_ok.2 ⟨chunk, hchunk, hsize⟩

theorem wireCap_of_params {params : DecryptionParams settings}
    (h : decryptionParams py settings enc = .ok params) :
    ∃ cap, wireCap py settings enc = .ok cap := by
  rw [decryptionParams] at h
  obtain ⟨⟨⟩, -, h⟩ := bind_eq_ok.1 h
  obtain ⟨read, hread, -⟩ := bind_eq_ok.1 h
  exact ⟨_, wireCap_of_int (readParams_chunkSize (mapError_eq_ok.1 hread))⟩

/-- The writer of a job whose parameters pass: the plain one, or a decrypting one. -/
theorem bodyWriter_cases (gcm : AesGcm) (h : CheckedParams py settings enc) :
    (enc.truthy = false ∧ bodyWriter py gcm settings enc = .ok (writePlaintext settings)) ∨
      ∃ params cap,
        bodyWriter py gcm settings enc = .ok (decryptStream gcm settings params cap) := by
  rw [bodyWriter]
  cases htruthy : enc.truthy with
  | false => exact .inl ⟨rfl, rfl⟩
  | true =>
    right
    have hparams := h.resolve_left (by rw [htruthy]; exact Bool.noConfusion)
    obtain ⟨params, hparams⟩ := hparams
    obtain ⟨cap, hcap⟩ := wireCap_of_params hparams
    exact ⟨params, cap, by rw [if_pos rfl, decryptWriter, hparams, ok_bind, hcap]; rfl⟩

/-- A decrypting writer sees only the bytes of a body that arrives. -/
theorem decryptStream_arrives {params : DecryptionParams settings} {cap read : Nat} {file : Bytes}
    (h : body.Arrives settings) :
    decryptStream gcm settings params cap body = .ok (read, file) ↔
      body.bytes.length ≤ cap ∧ read = body.bytes.length ∧
        (slices (params.chunkSize + OVERHEAD_PER_CHUNK) body.bytes).foldlM
          (decryptBlock gcm settings params) (0, []) = .ok (params.parts, file) := by
  rw [decryptStream_ok_iff, accounts_ok_iff (Nat.zero_le _), Nat.zero_add, ← Body.bytes]
  constructor
  · intro hok
    obtain ⟨⟨-, hsize, hread⟩, -, hslices⟩ := hok
    exact ⟨hsize, hread, hslices⟩
  · intro hok
    obtain ⟨hsize, hread, hslices⟩ := hok
    exact ⟨⟨h.inTime, hsize, hread⟩, h.ending, hslices⟩

theorem writePlaintext_arrives {read : Nat} {file : Bytes} (h : body.Arrives settings) :
    writePlaintext settings body = .ok (read, file) ↔
      body.bytes.length ≤ settings.maxUrlSize ∧ read = body.bytes.length ∧ file = body.bytes := by
  rw [writePlaintext_ok_iff]
  constructor
  · intro hok
    obtain ⟨-, hsize, -, hread, hfile⟩ := hok
    exact ⟨hsize, hread, hfile⟩
  · intro hok
    obtain ⟨hsize, hread, hfile⟩ := hok
    exact ⟨h.inTime, hsize, h.ending, hread, hfile⟩

/-- What is written of a body that arrives is told by its bytes, and what is read is all of them. -/
theorem writeFile_congr (hparams : CheckedParams py settings enc) (h : body.Arrives settings)
    (h' : body'.Arrives settings) (hbytes : body.bytes = body'.bytes) {read : Nat} {file : Bytes}
    (hok : writeFile py gcm settings enc body = .ok (read, file)) :
    read = body.bytes.length ∧ writeFile py gcm settings enc body' = .ok (read, file) := by
  rw [writeFile] at hok ⊢
  rcases bodyWriter_cases gcm hparams with ⟨-, hwriter⟩ | ⟨params, cap, hwriter⟩
  · rw [hwriter, ok_bind, writePlaintext_arrives h] at hok
    rw [hwriter, ok_bind, writePlaintext_arrives h', ← hbytes]
    exact ⟨hok.2.1, hok⟩
  · rw [hwriter, ok_bind, decryptStream_arrives h] at hok
    rw [hwriter, ok_bind, decryptStream_arrives h', ← hbytes]
    exact ⟨hok.2.1, hok⟩

theorem writeFile_raises (hparams : CheckedParams py settings enc) (h : body.Arrives settings) :
    RaisesOnly IsPermanent (writeFile py gcm settings enc body) := by
  have hend : ∀ e, body.ending = some e → IsPermanent e := by
    intro e he
    rw [h.ending] at he
    cases he
  rw [writeFile]
  rcases bodyWriter_cases gcm hparams with ⟨-, hwriter⟩ | ⟨params, cap, hwriter⟩
  · rw [hwriter]
    exact writePlaintext_raises fileFailures_isPermanent hend
  · rw [hwriter]
    exact decryptStream_raises fileFailures_isPermanent hend

end Cutting

/-- How the network cuts a body never changes its outcome; a plain body is written, as it is,
exactly when it fits the cap. -/
theorem cutting_is_irrelevant (py : Python) (gcm : AesGcm) (settings : Settings) (enc : Json)
    (body body' : Body) (hparams : CheckedParams py settings enc) (h : body.Arrives settings)
    (h' : body'.Arrives settings) (hbytes : body.bytes = body'.bytes) :
    SameOutcome body.bytes (writeFile py gcm settings enc body)
        (writeFile py gcm settings enc body') ∧
      (enc.truthy = false → ∀ read file, writeFile py gcm settings enc body = .ok (read, file) ↔
        body.bytes.length ≤ settings.maxUrlSize ∧ read = body.bytes.length ∧
          file = body.bytes) := by
  constructor
  · cases hx : writeFile py gcm settings enc body with
    | ok written =>
      obtain ⟨hread, hy⟩ := writeFile_congr hparams h h' hbytes hx
      exact .written written.2 (by rw [← hread]) (by rw [← hread, hy])
    | error e =>
      cases hy : writeFile py gcm settings enc body' with
      | ok written =>
        obtain ⟨-, hx'⟩ := writeFile_congr hparams h' h hbytes.symm hy
        rw [hx] at hx'
        cases hx'
      | error e' =>
        exact .refused e e' rfl rfl (writeFile_raises hparams h e hx)
          (writeFile_raises hparams h' e' hy)
  · intro htruthy read file
    rw [writeFile, bodyWriter, htruthy, if_neg Bool.false_ne_true, ok_bind]
    exact writePlaintext_arrives h

/-- The same stream in one piece, which the network may cut otherwise. -/
def abcWhole : Body := ⟨[⟨zeroIv ++ abcSealed, 2⟩], none⟩

theorem cutting_is_irrelevant_abc :
    SameOutcome (zeroIv ++ abcSealed)
      (writeFile asciiPython aesGcm {} (encryptionDump zeroFragment "f" 4096 1) abcBody)
      (writeFile asciiPython aesGcm {} (encryptionDump zeroFragment "f" 4096 1) abcWhole) := by
  have hparams : decryptionParams asciiPython {} (encryptionDump zeroFragment "f" 4096 1) =
      .ok ⟨zeroKey, "f", 4096, 1, by decide, by decide⟩ :=
    decryptionParams_dump asciiPython decodeFragment_zero (by decide) (by decide)
  have htimes : ∀ chunk ∈ abcBody.chunks, chunk.elapsed ≤ ((300 : Nat) : Rat) := by decide
  have htimes' : ∀ chunk ∈ abcWhole.chunks, chunk.elapsed ≤ ((300 : Nat) : Rat) := by decide
  exact (cutting_is_irrelevant asciiPython aesGcm {} (encryptionDump zeroFragment "f" 4096 1)
    abcBody abcWhole (.inr ⟨_, hparams⟩) ⟨htimes, rfl⟩ ⟨htimes', rfl⟩ rfl).1

end FileScanner
