import FileScanner.DownloadStatus

namespace FileScanner
open Collections Fallible Streams
set_option autoImplicit true

/-- AES-GCM under a key undoes itself, and adds a tag to what it encrypts. -/
structure Undoes (gcm : AesGcm) (key : Key) : Prop where
  decrypt_encrypt : ∀ iv plain aad,
    gcm.decrypt key.bytes iv (gcm.encrypt key.bytes iv plain aad) aad = some plain
  length_encrypt : ∀ iv plain aad,
    (gcm.encrypt key.bytes iv plain aad).length = plain.length + GCM_TAG_BYTES

/-- A file as a caller encrypts it, under parameters the endpoint accepts. -/
structure Upload (settings : Settings) where
  plain : Bytes
  fragment : String
  key : Key
  decoded : decodeFragment fragment = .ok key
  fileId : String
  chunkSize : Nat
  positive : 0 < chunkSize
  floor : settings.encryptionMinChunkSize ≤ chunkSize
  ceiling : chunkSize ≤ settings.encryptionMaxChunkSize
  ivs : Nat → Bytes
  length_ivs : ∀ i, (ivs i).length = IV_BYTES

section Upload
variable {settings : Settings}

def Upload.parts (u : Upload settings) : Nat := (u.plain.length + u.chunkSize - 1) / u.chunkSize

def Upload.blob (gcm : AesGcm) (u : Upload settings) (i : Nat) (slice : Bytes) : Bytes :=
  u.ivs i ++ gcm.encrypt u.key.bytes (u.ivs i) slice (chunkAad u.fileId (i + 1) u.parts)

def Upload.blobs (gcm : AesGcm) (u : Upload settings) : List Bytes :=
  (slices u.chunkSize u.plain).mapIdx (u.blob gcm)

def Upload.wire (gcm : AesGcm) (u : Upload settings) : Bytes := (u.blobs gcm).flatten

def Upload.enc (u : Upload settings) : Json :=
  encryptionDump u.fragment u.fileId u.chunkSize u.parts

def Upload.params (u : Upload settings) : DecryptionParams settings :=
  ⟨u.key, u.fileId, u.chunkSize, u.parts, u.floor, u.ceiling⟩

variable {gcm : AesGcm} {u : Upload settings}

theorem Upload.length_blob (h : Undoes gcm u.key) (i : Nat) (slice : Bytes) :
    (u.blob gcm i slice).length = slice.length + OVERHEAD_PER_CHUNK := by
  rw [blob, List.length_append, u.length_ivs, h.length_encrypt, OVERHEAD_PER_CHUNK]
  omega

theorem Upload.length_blobs : (u.blobs gcm).length = u.parts := by
  rw [blobs, List.length_mapIdx, length_slices u.positive, parts]

theorem Upload.length_wire (h : Undoes gcm u.key) :
    (u.wire gcm).length = u.plain.length + u.parts * OVERHEAD_PER_CHUNK := by
  rw [wire, blobs, length_flatten_mapIdx (u.length_blob h), slices_flatten u.positive,
    length_slices u.positive, parts]

theorem Upload.slices_wire (h : Undoes gcm u.key) :
    slices (u.params.chunkSize + OVERHEAD_PER_CHUNK) (u.wire gcm) = u.blobs gcm :=
  slices_flatten_mapIdx u.positive (u.length_blob h) u.plain

theorem Upload.decryptChunk_blob (h : Undoes gcm u.key) (i : Nat) {slice : Bytes}
    (hne : slice ≠ []) :
    decryptChunk gcm u.key (u.blob gcm i slice) u.fileId (i + 1) u.parts = .ok slice := by
  have hlen := u.length_blob h i slice
  have hpos := List.length_pos_of_ne_nil hne
  have hshort : ¬ (u.blob gcm i slice).length ≤ OVERHEAD_PER_CHUNK := by omega
  rw [decryptChunk, if_neg hshort, blob, List.take_left' (u.length_ivs i),
    List.drop_left' (u.length_ivs i), h.decrypt_encrypt]

theorem Upload.decryptsTo_from (h : Undoes gcm u.key) {bs : List Bytes}
    (hne : ∀ b ∈ bs, b ≠ []) (i : Nat) :
    DecryptsTo gcm u.key u.fileId u.parts i (bs.mapIdx (fun j => u.blob gcm (i + j))) bs := by
  induction bs generalizing i with
  | nil => exact .nil
  | cons b bs ih =>
    have hshift : (fun j => u.blob gcm (i + (j + 1))) = fun j => u.blob gcm (i + 1 + j) := by
      funext j
      rw [Nat.add_right_comm i 1 j, Nat.add_assoc]
    rw [List.mapIdx_cons, hshift]
    exact .cons (u.decryptChunk_blob h i (hne b List.mem_cons_self))
      (ih (fun b' hb' => hne b' (List.mem_cons_of_mem b hb')) (i + 1))

theorem Upload.decryptsTo_blobs (h : Undoes gcm u.key) :
    DecryptsTo gcm u.key u.fileId u.parts 0 (u.blobs gcm) (slices u.chunkSize u.plain) := by
  have hne : ∀ b ∈ slices u.chunkSize u.plain, b ≠ [] := slices_ne_nil u.positive
  have hall := u.decryptsTo_from h hne 0
  simp only [Nat.zero_add] at hall
  exact hall

/-- The cap on the wire leaves room for the chunking of any file within the cap. -/
theorem wireCap_of_chunkSize {py : Python} {settings : Settings} {enc : Json} {chunkSize : Nat}
    (hpos : 0 < chunkSize)
    (hchunk : (enc.item "chunk_size").bind (·.toInt py) = .ok (chunkSize : Int)) :
    wireCap py settings enc = .ok (settings.maxUrlSize
      + max 1 ((settings.maxUrlSize + chunkSize - 1) / chunkSize) * OVERHEAD_PER_CHUNK) := by
  rw [wireCap_of_int hchunk, if_neg (by omega), neg_fdiv_neg _ hpos]
  congr 3
  omega

theorem Upload.wireCap_enc (py : Python) (u : Upload settings) :
    wireCap py settings u.enc = .ok (settings.maxUrlSize
      + max 1 ((settings.maxUrlSize + u.chunkSize - 1) / u.chunkSize) * OVERHEAD_PER_CHUNK) :=
  wireCap_of_chunkSize u.positive rfl

theorem Upload.length_wire_le (h : Undoes gcm u.key) (hcap : u.plain.length ≤ settings.maxUrlSize) :
    (u.wire gcm).length ≤ settings.maxUrlSize
      + max 1 ((settings.maxUrlSize + u.chunkSize - 1) / u.chunkSize) * OVERHEAD_PER_CHUNK := by
  have hparts : u.parts ≤ (settings.maxUrlSize + u.chunkSize - 1) / u.chunkSize :=
    Nat.div_le_div_right (by omega)
  rw [u.length_wire h]
  exact Nat.add_le_add hcap
    (Nat.mul_le_mul_right OVERHEAD_PER_CHUNK (le_trans hparts (le_max_right _ _)))

end Upload

section Blobs
variable {gcm : AesGcm} {settings : Settings} {params : DecryptionParams settings}

theorem decryptBlobs_fit {blobs plains : List Bytes} {i : Nat} {file : Bytes}
    (h : DecryptsTo gcm params.key params.fileId params.parts i blobs plains)
    (hcap : file.length + plains.flatten.length ≤ settings.maxUrlSize) :
    blobs.foldlM (decryptBlock gcm settings params) (i, file) =
      .ok (i + blobs.length, file ++ plains.flatten) := by
  induction h generalizing file with
  | nil =>
    rw [List.flatten_nil, List.append_nil]
    rfl
  | @cons i blob plain blobs plains hplain _ ih =>
    rw [List.flatten_cons, List.length_append, ← Nat.add_assoc] at hcap
    have hblock : decryptBlock gcm settings params (i, file) blob = .ok (i + 1, file ++ plain) :=
      decryptBlock_ok_iff.2 ⟨plain, hplain, by omega, rfl, rfl⟩
    rw [List.foldlM_cons, hblock, ok_bind, ih (by rwa [List.length_append]), List.flatten_cons,
      List.append_assoc, List.length_cons, Nat.add_right_comm, Nat.add_assoc]

theorem decryptBlobs_overflow {blobs plains : List Bytes} {i : Nat} {file : Bytes}
    (h : DecryptsTo gcm params.key params.fileId params.parts i blobs plains)
    (hfile : file.length ≤ settings.maxUrlSize)
    (hcap : settings.maxUrlSize < file.length + plains.flatten.length) :
    ∃ m, blobs.foldlM (decryptBlock gcm settings params) (i, file) = .error (.fileError m) := by
  induction h generalizing file with
  | nil =>
    rw [List.flatten_nil, List.length_nil] at hcap
    omega
  | @cons i blob plain blobs plains hplain _ ih =>
    rw [List.flatten_cons, List.length_append, ← Nat.add_assoc] at hcap
    rw [List.foldlM_cons]
    by_cases hfit : file.length + plain.length ≤ settings.maxUrlSize
    · have hblock : decryptBlock gcm settings params (i, file) blob = .ok (i + 1, file ++ plain) :=
        decryptBlock_ok_iff.2 ⟨plain, hplain, hfit, rfl, rfl⟩
      rw [hblock, ok_bind]
      exact ih (by rwa [List.length_append]) (by rwa [List.length_append])
    · rw [decryptBlock, hplain, ok_bind, writePlain, raiseIf_pos (not_le.1 hfit)]
      exact ⟨_, rfl⟩

end Blobs

/-- The body of a response is the stream of an upload, whole, in time and well declared. -/
structure Serves (py : Python) (gcm : AesGcm) {settings : Settings} (u : Upload settings)
    (response : Response) : Prop where
  bytes : response.body.bytes = u.wire gcm
  ending : response.body.ending = none
  inTime : ∀ chunk ∈ response.body.chunks, chunk.elapsed ≤ settings.downloadMaxSeconds
  declared : response.contentLength = none ∨
    ∃ text, response.contentLength = some text ∧ py.int text = some ((u.wire gcm).length : Int)

section Serves
variable {py : Python} {gcm : AesGcm} {settings : Settings} {u : Upload settings}
  {response : Response}

theorem decryptWriter_enc (py : Python) (gcm : AesGcm) (u : Upload settings) :
    ∃ cap, wireCap py settings u.enc = .ok cap ∧
      decryptWriter py gcm settings u.enc = .ok (decryptStream gcm settings u.params cap) := by
  refine ⟨_, u.wireCap_enc py, ?_⟩
  rw [decryptWriter, Upload.enc, decryptionParams_dump py u.decoded u.floor u.ceiling, ok_bind,
    ← Upload.enc, u.wireCap_enc py]
  rfl

/-- A declared length that is the length of the stream passes under a cap it fits. -/
theorem checkDeclared_fit (h : Serves py gcm u response) {cap : Nat}
    (hcap : (u.wire gcm).length ≤ cap) : checkDeclared py cap response.contentLength = .ok () := by
  have hlength : declaredLength py response.contentLength = none ∨
      declaredLength py response.contentLength = some ((u.wire gcm).length : Int) := by
    rcases h.declared with hnone | ⟨text, htext, hint⟩
    · rw [hnone]
      exact .inl rfl
    · rw [htext]
      by_cases hempty : text = ""
      · rw [hempty]
        exact .inl rfl
      · rw [declaredLength]
        · exact .inr hint
        · exact hempty
  rw [checkDeclared]
  rcases hlength with hl | hl
  · rw [hl]
  · rw [hl]
    exact raiseIf_neg (by omega)

theorem writeDecrypted_fit (hgcm : Undoes gcm u.key) (h : Serves py gcm u response)
    (hcap : u.plain.length ≤ settings.maxUrlSize) :
    writeDecrypted py gcm settings u.enc response.body =
      .ok ((u.wire gcm).length, u.plain) := by
  obtain ⟨cap, hwire, hwriter⟩ := decryptWriter_enc py gcm u
  rw [u.wireCap_enc py, Except.ok.injEq] at hwire
  rw [writeDecrypted, hwriter, ok_bind, decryptStream_ok_iff]
  refine ⟨?_, h.ending, ?_⟩
  · rw [accounts_ok_iff (Nat.zero_le _), Nat.zero_add, ← Body.bytes, h.bytes, ← hwire]
    exact ⟨h.inTime, u.length_wire_le hgcm hcap, rfl⟩
  · have hflat := slices_flatten u.positive u.plain
    rw [h.bytes, u.slices_wire hgcm, decryptBlobs_fit (u.decryptsTo_blobs hgcm)
      (by rwa [hflat, List.length_nil, Nat.zero_add]), hflat, Nat.zero_add, u.length_blobs]
    rfl

theorem writeBody_overflow (hgcm : Undoes gcm u.key) (h : Serves py gcm u response)
    (hcap : settings.maxUrlSize < u.plain.length) :
    ∃ m, writeBody py gcm settings u.enc response = .error (.fileError m) := by
  obtain ⟨cap, hwire, hwriter⟩ := decryptWriter_enc py gcm u
  have hbody : bodyWriter py gcm settings u.enc = .ok (decryptStream gcm settings u.params cap) :=
    hwriter
  have hflat := slices_flatten u.positive u.plain
  have hover : ∃ m, (u.blobs gcm).foldlM (decryptBlock gcm settings u.params) (0, []) =
      .error (.fileError m) := by
    apply decryptBlobs_overflow (u.decryptsTo_blobs hgcm) (Nat.zero_le _)
    rwa [hflat, List.length_nil, Nat.zero_add]
  obtain ⟨m, hover⟩ := hover
  rw [← u.slices_wire hgcm, ← h.bytes] at hover
  rw [writeBody, sizeGuard, hwire, ok_bind]
  cases hdeclared : checkDeclared py cap response.contentLength with
  | error e =>
    obtain ⟨m', rfl⟩ := checkDeclared_raises _ e hdeclared
    exact ⟨m', rfl⟩
  | ok done =>
    rw [ok_bind, hbody, ok_bind]
    cases hstream : decryptStream gcm settings u.params cap response.body with
    | ok written =>
      have hslices := (decryptStream_ok_iff.1 hstream).2.2
      cases hover.symm.trans hslices
    | error e =>
      rcases decryptStream_error hstream with haccount | hending | hslices | ⟨_, _, _, hslices, -⟩
      · obtain ⟨m', rfl⟩ := RaisesOnly.foldlM account_raises _ _ e haccount
        exact ⟨m', rfl⟩
      · cases h.ending.symm.trans hending
      · rw [hover, Except.error.injEq] at hslices
        subst hslices
        exact ⟨m, rfl⟩
      · cases hover.symm.trans hslices

end Serves

/-- Decryption undoes the documented encryption, however the network cuts the stream, and the cap
counts exactly the plaintext: a longer file ends the job with a `FileError`, unscanned. -/
theorem decryption_undoes_encryption (py : Python) (gcm : AesGcm) (settings : Settings)
    (u : Upload settings) (response : Response) (hgcm : Undoes gcm u.key)
    (hserves : Serves py gcm u response) :
    (u.plain.length ≤ settings.maxUrlSize →
      sizeGuard py settings u.enc response = .ok () ∧
        writeDecrypted py gcm settings u.enc response.body =
          .ok ((u.wire gcm).length, u.plain)) ∧
      (settings.maxUrlSize < u.plain.length → ∀ env msg retries w, env.Healthy →
        (∀ step, env.fault step = none) → env.gcm = gcm → msg.encryptionParams = u.enc →
        Answered py settings env msg response → ¬ response.Failed →
        ∃ m, (tryBlock py settings env msg).outcome = .error (.fileError m) ∧
          (tryBlock py settings env msg).scanned = [] ∧
          scanTask py settings env msg retries w =
            (.ok (), finalized settings msg (msg.result.update (errorEntries "file" m)) w)) := by
  refine ⟨fun hcap => ⟨?_, writeDecrypted_fit hgcm hserves hcap⟩, ?_⟩
  · rw [sizeGuard, u.wireCap_enc py, ok_bind]
    exact checkDeclared_fit hserves (u.length_wire_le hgcm hcap)
  · rintro hcap env msg retries w hhealthy hfault rfl henc hanswered hstatus
    obtain ⟨m, hbody⟩ := writeBody_overflow hgcm hserves hcap
    rw [← henc] at hbody
    obtain ⟨scratch, htry⟩ := tryBlock_refused hfault hanswered hstatus hbody
    have hrun := scanTask_reported hhealthy rfl htry retries w
    rw [htry]
    exact ⟨m, rfl, rfl, hrun⟩

theorem undoes_aesGcm (key : Key) : Undoes aesGcm key where
  decrypt_encrypt _ plain aad := Gcm.decrypt_encrypt plain aad
  length_encrypt _ _ _ := Gcm.length_encrypt _ _

/-- A file that takes two chunks. -/
def pageUpload (cap : Nat) : Upload { maxUrlSize := cap } where
  plain := List.replicate 5000 97
  fragment := zeroFragment
  key := zeroKey
  decoded := decodeFragment_zero
  fileId := "f"
  chunkSize := 4096
  positive := by decide
  floor := Nat.le_refl 4096
  ceiling := (by decide : 4096 ≤ 50 * 1024 * 1024)
  ivs := pageIv
  length_ivs _ := rfl

theorem length_pageUpload (cap : Nat) :
    (pageUpload cap).plain.length = 5000 ∧ (pageUpload cap).parts = 2 ∧
      ((pageUpload cap).wire aesGcm).length = 5056 := by
  have hplain : (pageUpload cap).plain.length = 5000 := List.length_replicate
  have hparts : (pageUpload cap).parts = 2 := by
    rw [Upload.parts, hplain]
    exact (by decide : (5000 + 4096 - 1) / 4096 = 2)
  refine ⟨hplain, hparts, ?_⟩
  rw [(pageUpload cap).length_wire (undoes_aesGcm _), hplain, hparts]
  rfl

/-- The stream of this file, cut within its first chunk. -/
def pageResponse (cap : Nat) : Response where
  statusCode := 200
  reason := "OK"
  url := "https://example.com/f"
  location := none
  contentLength := some "5056"
  body :=
    ⟨[⟨((pageUpload cap).wire aesGcm).take 1000, 0⟩, ⟨((pageUpload cap).wire aesGcm).drop 1000, 1⟩],
      none⟩

theorem serves_pageResponse (cap : Nat) :
    Serves publicPython aesGcm (pageUpload cap) (pageResponse cap) := by
  refine ⟨?_, rfl, ?_, .inr ⟨"5056", rfl, ?_⟩⟩
  · rw [Body.bytes, pageResponse]
    simp only [List.flatMap_cons, List.flatMap_nil, List.append_nil]
    exact List.take_append_drop 1000 _
  · have htimes : ∀ t ∈ [0, 1], t ≤ ((300 : Nat) : Rat) := by decide
    intro chunk hchunk
    exact htimes chunk.elapsed (List.mem_map_of_mem (f := Chunk.elapsed) hchunk)
  · rw [(length_pageUpload cap).2.2]
    decide

/-- The upload is written whole, or ends its job when the cap is smaller. -/
theorem decryption_undoes_encryption_page :
    writeDecrypted publicPython aesGcm {} (pageUpload (2 ^ 31 - 3)).enc
        (pageResponse (2 ^ 31 - 3)).body = .ok (5056, List.replicate 5000 97) ∧
      ∃ m, (tryBlock publicPython { maxUrlSize := 4999 }
        { answering (pageResponse 4999) with gcm := aesGcm }
        { plainJob with encryptionParams := (pageUpload 4999).enc }).outcome =
          .error (.fileError m) := by
  obtain ⟨hplain, -, hwire⟩ := length_pageUpload (2 ^ 31 - 3)
  have hfit := (decryption_undoes_encryption publicPython aesGcm _ (pageUpload (2 ^ 31 - 3))
    (pageResponse _) (undoes_aesGcm _) (serves_pageResponse _)).1
      (hplain.trans_le (by decide : 5000 ≤ 2 ^ 31 - 3))
  have hover := (decryption_undoes_encryption publicPython aesGcm _ (pageUpload 4999)
    (pageResponse _) (undoes_aesGcm _) (serves_pageResponse _)).2
      ((by decide : 4999 < 5000).trans_eq (length_pageUpload 4999).1.symm)
  rw [hwire] at hfit
  refine ⟨hfit.2, ?_⟩
  obtain ⟨m, hm, -⟩ := hover { answering (pageResponse 4999) with gcm := aesGcm }
    { plainJob with encryptionParams := (pageUpload 4999).enc } none {} ⟨rfl, rfl, rfl⟩
    (fun _ => rfl) rfl rfl ⟨rfl, rfl⟩ (fun h => absurd h.1 (by decide))
  exact ⟨m, hm⟩

end FileScanner
