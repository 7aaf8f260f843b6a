import FileScanner.Download
import FileScanner.Lib.Gcm

namespace FileScanner
open Fallible Streams
set_option autoImplicit true

/-- The blobs decrypt, in place from this position on, to the plaintexts. -/
inductive DecryptsTo (gcm : AesGcm) (key : Key) (fileId : String) (parts : Nat) :
    Nat → List Bytes → List Bytes → Prop where
  | nil {i : Nat} : DecryptsTo gcm key fileId parts i [] []
  | cons {i : Nat} {blob plain : Bytes} {blobs plains : List Bytes}
      (hplain : decryptChunk gcm key blob fileId (i + 1) parts = .ok plain)
      (hrest : DecryptsTo gcm key fileId parts (i + 1) blobs plains) :
      DecryptsTo gcm key fileId parts i (blob :: blobs) (plain :: plains)

section Stream
variable {gcm : AesGcm} {settings : Settings} {params : DecryptionParams settings}

theorem decryptBlock_ok_iff {i j : Nat} {file file' blob : Bytes} :
    decryptBlock gcm settings params (i, file) blob = .ok (j, file') ↔
      ∃ plain, decryptChunk gcm params.key blob params.fileId (i + 1) params.parts = .ok plain ∧
        file.length + plain.length ≤ settings.maxUrlSize ∧ j = i + 1 ∧ file' = file ++ plain := by
  rw [decryptBlock, bind_eq_ok]
  apply exists_congr
  intro plain
  apply and_congr_right
  intro _
  rw [writePlain]
  constructor
  · intro h
    obtain ⟨file'', hfile, h⟩ := bind_eq_ok.1 h
    obtain ⟨⟨⟩, hcap, hfile⟩ := bind_eq_ok.1 hfile
    cases hfile
    cases h
    exact ⟨not_lt.1 (raiseIf_eq_ok.1 hcap), rfl, rfl⟩
  · rintro ⟨hcap, rfl, rfl⟩
    rw [raiseIf_neg (not_lt.2 hcap)]
    rfl

theorem decryptBlobs_ok {blobs : List Bytes} {i j : Nat} {file file' : Bytes}
    (h : blobs.foldlM (decryptBlock gcm settings params) (i, file) = .ok (j, file')) :
    ∃ plains, DecryptsTo gcm params.key params.fileId params.parts i blobs plains ∧
      j = i + blobs.length ∧ file' = file ++ plains.flatten := by
  induction blobs generalizing i file with
  | nil =>
    cases h
    exact ⟨[], .nil, rfl, by simp⟩
  | cons blob blobs ih =>
    rw [List.foldlM_cons] at h
    obtain ⟨⟨i', file''⟩, hblock, h⟩ := bind_eq_ok.1 h
    obtain ⟨plain, hplain, -, rfl, rfl⟩ := decryptBlock_ok_iff.1 hblock
    obtain ⟨plains, hall, rfl, rfl⟩ := ih h
    refine ⟨plain :: plains, .cons hplain hall, ?_, ?_⟩
    · rw [List.length_cons]
      omega
    · rw [List.flatten_cons, List.append_assoc]

theorem decryptTail_eq (state : Nat × Bytes) (buffer : Bytes) :
    decryptTail gcm settings params state buffer =
      (if buffer = [] then [] else [buffer]).foldlM (decryptBlock gcm settings params) state := by
  rw [decryptTail]
  split
  · rfl
  · rw [List.foldlM_cons]
    cases decryptBlock gcm settings params state buffer <;> rfl

theorem slices_eq (n : Nat) (xs : Bytes) :
    slices n xs = (blocks n xs).1 ++ (if (blocks n xs).2 = [] then [] else [(blocks n xs).2]) := by
  rw [slices]
  split
  · rw [List.append_nil]
  · rfl

/-- The whole stream is accepted when its size is, when it ends well, and when its slices decrypt
within the cap to the declared number of chunks; how it was cut does not matter. -/
theorem decryptStream_ok_iff {cap read : Nat} {body : Body} {file : Bytes} :
    decryptStream gcm settings params cap body = .ok (read, file) ↔
      body.chunks.foldlM (account settings cap) 0 = .ok read ∧ body.ending = none ∧
        (slices (params.chunkSize + OVERHEAD_PER_CHUNK) body.bytes).foldlM
          (decryptBlock gcm settings params) (0, []) = .ok (params.parts, file) := by
  have hn : 0 < params.chunkSize + OVERHEAD_PER_CHUNK := by
    rw [OVERHEAD_PER_CHUNK, IV_BYTES]
    omega
  rw [decryptStream, slices_eq, List.foldlM_append]
  constructor
  · intro h
    obtain ⟨⟨read', state, buffer⟩, hfeed, h⟩ := bind_eq_ok.1 h
    obtain ⟨⟨⟩, hend, h⟩ := bind_eq_ok.1 h
    obtain ⟨⟨partNumber, file'⟩, htail, h⟩ := bind_eq_ok.1 h
    obtain ⟨⟨⟩, hcount, h⟩ := bind_eq_ok.1 h
    obtain ⟨hread, hblocks, hbuf⟩ :=
      (feed_ok_iff hn body.chunks 0 read' (0, []) state [] buffer hn).1 hfeed
    cases h
    rw [List.nil_append] at hblocks hbuf
    refine ⟨hread, Body.finish_ok_iff.1 hend, bind_eq_ok.2 ⟨state, hblocks, ?_⟩⟩
    rw [decryptTail_eq] at htail
    rw [Body.bytes, hbuf, htail, not_not.1 (raiseIf_eq_ok.1 hcount)]
  · rintro ⟨hread, hend, hslices⟩
    obtain ⟨state, hblocks, htail⟩ := bind_eq_ok.1 hslices
    have hfeed := (feed_ok_iff hn body.chunks 0 read (0, []) state []
      (blocks (params.chunkSize + OVERHEAD_PER_CHUNK) body.bytes).2 hn).2
      ⟨hread, by rwa [List.nil_append], by rw [List.nil_append]; rfl⟩
    rw [hfeed, ok_bind]
    dsimp only
    rw [Body.finish_ok_iff.2 hend, ok_bind, decryptTail_eq, htail, ok_bind]
    dsimp only
    rw [raiseIf_neg (not_not_intro rfl)]
    rfl

/-- A stream fails with its size, with its end, with one of its slices, or on their count. -/
theorem decryptStream_error {cap : Nat} {body : Body} {e : Exc}
    (h : decryptStream gcm settings params cap body = .error e) :
    body.chunks.foldlM (account settings cap) 0 = .error e ∨ body.ending = some e ∨
      (slices (params.chunkSize + OVERHEAD_PER_CHUNK) body.bytes).foldlM
        (decryptBlock gcm settings params) (0, []) = .error e ∨
      ∃ n file m, (slices (params.chunkSize + OVERHEAD_PER_CHUNK) body.bytes).foldlM
        (decryptBlock gcm settings params) (0, []) = .ok (n, file) ∧ n ≠ params.parts ∧
          e = .decryptionError m := by
  have hn : 0 < params.chunkSize + OVERHEAD_PER_CHUNK := by
    rw [OVERHEAD_PER_CHUNK, IV_BYTES]
    omega
  rw [slices_eq, List.foldlM_append]
  rcases bind_eq_error.1 h with hfeed | ⟨⟨read, state, buffer⟩, hfeed, h⟩
  · rcases feed_error hn hfeed with haccount | hblocks
    · exact .inl haccount
    · rw [List.nil_append] at hblocks
      rw [Body.bytes, hblocks, error_bind]
      exact .inr (.inr (.inl rfl))
  · obtain ⟨-, hblocks, hbuf⟩ :=
      (feed_ok_iff hn body.chunks 0 read (0, []) state [] buffer hn).1 hfeed
    rw [List.nil_append] at hblocks hbuf
    rw [Body.bytes, hblocks, ok_bind, hbuf, ← decryptTail_eq]
    rcases bind_eq_error.1 h with hend | ⟨⟨⟩, -, h⟩
    · apply Or.inr
      apply Or.inl
      rw [Body.finish] at hend
      split at hend
      · cases hend
      · rename_i e' he
        cases hend
        exact he
    · apply Or.inr
      apply Or.inr
      rcases bind_eq_error.1 h with htail | ⟨⟨n, file⟩, htail, h⟩
      · exact .inl htail
      · rcases bind_eq_error.1 h with hcount | ⟨⟨⟩, -, h⟩
        · obtain ⟨hne, hm⟩ := raiseIf_eq_error.1 hcount
          exact .inr ⟨n, file, _, htail, hne, hm.symm⟩
        · cases h

end Stream

/-- A file of a caller, as the slices it encrypts. -/
structure SourceFile where
  fileId : String
  slices : List Bytes

def SourceFile.content (f : SourceFile) : Bytes := f.slices.flatten

def SourceFile.parts (f : SourceFile) : Nat := f.slices.length

/-- Under the key, a blob decrypts only with associated data the caller used for a slice, and
then yields that slice. -/
def IdealAead (gcm : AesGcm) (key : Key) (files : SourceFile → Prop) : Prop :=
  ∀ iv body aad plain, gcm.decrypt key.bytes iv body aad = some plain →
    ∃ f, files f ∧ ∃ i, f.slices[i]? = some plain ∧ aad = chunkAad f.fileId (i + 1) f.parts

theorem decryptChunk_ok {gcm : AesGcm} {key : Key} {blob plain : Bytes} {fileId : String}
    {partNumber parts : Nat} (h : decryptChunk gcm key blob fileId partNumber parts = .ok plain) :
    gcm.decrypt key.bytes (blob.take IV_BYTES) (blob.drop IV_BYTES)
      (chunkAad fileId partNumber parts) = some plain := by
  rw [decryptChunk] at h
  split at h
  · cases h
  · split at h
    · rename_i plain' hp
      cases h
      exact hp
    · cases h

/-- From a position on, blobs that decrypt yield the slices of the file that follow it. -/
theorem decryptsTo_slices {gcm : AesGcm} {key : Key} {files : SourceFile → Prop}
    (hideal : IdealAead gcm key files)
    (hunique : ∀ f g, files f → files g → f.fileId = g.fileId → f.parts = g.parts → f = g)
    {f : SourceFile} (hf : files f) {i : Nat} {blobs plains : List Bytes}
    (h : DecryptsTo gcm key f.fileId f.parts i blobs plains)
    (hlen : i + blobs.length = f.slices.length) : plains = f.slices.drop i := by
  induction h with
  | nil =>
    rw [List.length_nil, Nat.add_zero] at hlen
    rw [hlen, List.drop_length]
  | @cons i blob plain blobs plains hplain _ ih =>
    obtain ⟨g, hg, k, hk, haad⟩ := hideal _ _ _ _ (decryptChunk_ok hplain)
    obtain ⟨hid, hi, hparts⟩ := chunkAad_inj haad
    have hgf : g = f := hunique g f hg hf hid.symm hparts.symm
    have hki : k = i := by omega
    subst hgf hki
    rw [List.length_cons] at hlen
    rw [ih (by omega)]
    obtain ⟨hlt, hget⟩ := List.getElem?_eq_some_iff.1 hk
    rw [List.drop_eq_getElem_cons hlt, hget]

/-- Whatever the storage serves and however it is cut, a stream that is accepted for a file is
that file, whole and in order. -/
theorem accepted_stream_is_the_file (py : Python) (gcm : AesGcm) (settings : Settings)
    (key : Key) (files : SourceFile → Prop) (f : SourceFile) (enc fragment : Json) (body : Body)
    (read : Nat) (written : Bytes) (hideal : IdealAead gcm key files)
    (hunique : ∀ f g, files f → files g → f.fileId = g.fileId → f.parts = g.parts → f = g)
    (hf : files f) (hkey : enc.item "key" = .ok fragment) (hdecode : decodeKey fragment = .ok key)
    (hid : enc.item "file_id" = .ok (.str f.fileId))
    (hparts : enc.item "parts" = .ok (.int f.parts))
    (haccept : writeDecrypted py gcm settings enc body = .ok (read, written)) :
    written = f.content := by
  rw [writeDecrypted, decryptWriter] at haccept
  obtain ⟨write, hwriter, hstream⟩ := bind_eq_ok.1 haccept
  obtain ⟨params, hparams, hwriter⟩ := bind_eq_ok.1 hwriter
  obtain ⟨cap, -, hwriter⟩ := bind_eq_ok.1 hwriter
  cases hwriter
  obtain ⟨fragment', fileId, parts, n, hkey', hdecode', hid', hpid, hparts', hn, hpparts⟩ :=
    decryptionParams_ok hparams
  rw [hkey] at hkey'
  cases hkey'
  rw [hdecode] at hdecode'
  rw [hid] at hid'
  cases hid'
  rw [hparts] at hparts'
  cases hparts'
  cases hn
  have hk : params.key = key := (Except.ok.inj hdecode').symm
  have hfid : params.fileId = f.fileId := hpid
  have hcount : params.parts = f.parts := hpparts
  obtain ⟨plains, hall, hlen, hwritten⟩ := decryptBlobs_ok (decryptStream_ok_iff.1 hstream).2.2
  rw [hk, hfid, hcount] at hall
  rw [hcount] at hlen
  have hplains := decryptsTo_slices hideal hunique hf hall hlen.symm
  rw [hwritten, hplains, List.drop_zero, List.nil_append, SourceFile.content]

def zeroFragment : String := "AAAAAAAAAAAAAAAAAAAAAAAAAAAAAAAAAAAAAAAAAAA"

def zeroKey : Key := ⟨List.replicate 32 0, rfl⟩

theorem decodeFragment_zero : decodeFragment zeroFragment = .ok zeroKey := rfl

def zeroIv : Bytes := List.replicate 12 0

def abc : Bytes := [97, 98, 99]

/-- Its ciphertext and tag under the zero key and nonce, as chunk 1 of 1 of the file `f`. -/
def abcSealed : Bytes :=
  [175, 197, 35, 6, 147, 23, 228, 234, 23, 110, 105, 229, 252, 184, 82, 140, 104, 27, 58]

/-- The cipher of the library: AES-256 in Galois/Counter mode. -/
def aesGcm : AesGcm := ⟨Gcm.encrypt, Gcm.decrypt⟩

theorem encrypt_abc :
    aesGcm.encrypt zeroKey.bytes zeroIv abc (chunkAad "f" 1 1) = abcSealed := by decide +kernel

/-- The cipher where nobody but the caller of this file seals under its key, and nothing but its
slices: anything else is forged. -/
def sealedOnly (f : SourceFile) : AesGcm where
  encrypt := aesGcm.encrypt
  decrypt key iv body aad := (aesGcm.decrypt key iv body aad).filter (fun plain =>
    f.slices.zipIdx.any (fun s => s.1 = plain ∧ aad = chunkAad f.fileId (s.2 + 1) f.parts))

section Sealed
variable {f : SourceFile} {key : Key} {iv plain : Bytes}

theorem idealAead_sealedOnly : IdealAead (sealedOnly f) key (· = f) := by
  intro iv body aad plain h
  obtain ⟨-, hslice⟩ := Option.filter_eq_some_iff.1 h
  obtain ⟨⟨slice, i⟩, hmem, hsame⟩ := List.any_eq_true.1 hslice
  obtain ⟨rfl, haad⟩ := of_decide_eq_true hsame
  exact ⟨f, rfl, i, List.mem_zipIdx_iff_getElem?.1 hmem, haad⟩

/-- A slice that is sealed in its place opens there. -/
theorem decryptChunk_sealedOnly {i : Nat} (hiv : iv.length = IV_BYTES)
    (hslice : f.slices[i]? = some plain) (hne : plain ≠ []) :
    decryptChunk (sealedOnly f) key (iv ++ aesGcm.encrypt key.bytes iv plain
      (chunkAad f.fileId (i + 1) f.parts)) f.fileId (i + 1) f.parts = .ok plain := by
  have hlength : (aesGcm.encrypt key.bytes iv plain
      (chunkAad f.fileId (i + 1) f.parts)).length = plain.length + 16 := Gcm.length_encrypt _ _
  have hopens : aesGcm.decrypt key.bytes iv (aesGcm.encrypt key.bytes iv plain
      (chunkAad f.fileId (i + 1) f.parts)) (chunkAad f.fileId (i + 1) f.parts) = some plain :=
    Gcm.decrypt_encrypt _ _
  have hplace : f.slices.zipIdx.any (fun s => s.1 = plain ∧
      chunkAad f.fileId (i + 1) f.parts = chunkAad f.fileId (s.2 + 1) f.parts) = true :=
    List.any_eq_true.2 ⟨(plain, i), List.mem_zipIdx_iff_getElem?.2 hslice,
      decide_eq_true ⟨rfl, rfl⟩⟩
  have hpos := List.length_pos_of_ne_nil hne
  rw [decryptChunk, if_neg, List.take_left' hiv, List.drop_left' hiv, sealedOnly]
  · dsimp only
    rw [hopens, Option.filter_some, if_pos hplace]
  · rw [List.length_append, hlength, hiv, OVERHEAD_PER_CHUNK, GCM_TAG_BYTES]
    omega

end Sealed

section Pages
variable (s₀ s₁ : Bytes)

def pageIv (i : Nat) : Bytes := List.replicate 11 0 ++ [UInt8.ofNat i]

/-- A slice of a file of two, as its caller encrypts it. -/
def pageBlob (i : Nat) (slice : Bytes) : Bytes :=
  pageIv i ++ aesGcm.encrypt zeroKey.bytes (pageIv i) slice (chunkAad "f" (i + 1) 2)

def pageWire : Bytes := pageBlob 0 s₀ ++ pageBlob 1 s₁

/-- The network cuts the stream within its first slice. -/
def pageBody : Body :=
  ⟨[⟨(pageWire s₀ s₁).take 1000, 0⟩, ⟨[], 0⟩, ⟨(pageWire s₀ s₁).drop 1000, 1⟩], none⟩

variable {s₀ s₁}

theorem length_pageBlob (i : Nat) (slice : Bytes) :
    (pageBlob i slice).length = slice.length + 28 := by
  have hlength : (aesGcm.encrypt zeroKey.bytes (pageIv i) slice
      (chunkAad "f" (i + 1) 2)).length = slice.length + 16 := Gcm.length_encrypt _ _
  have hiv : (pageIv i).length = 12 := rfl
  rw [pageBlob, List.length_append, hlength, hiv]
  omega

theorem bytes_pageBody : (pageBody s₀ s₁).bytes = pageWire s₀ s₁ := by
  rw [Body.bytes, pageBody]
  simp only [List.flatMap_cons, List.flatMap_nil, List.nil_append, List.append_nil]
  exact List.take_append_drop 1000 (pageWire s₀ s₁)

theorem slices_pageWire (h₀ : s₀.length = 4096) (h₁ : s₁.length < 4096) :
    slices (4096 + OVERHEAD_PER_CHUNK) (pageWire s₀ s₁) = [pageBlob 0 s₀, pageBlob 1 s₁] := by
  have hoverhead : OVERHEAD_PER_CHUNK = 28 := rfl
  have hfull : (pageBlob 0 s₀).length = 4096 + OVERHEAD_PER_CHUNK := by
    rw [length_pageBlob, h₀, hoverhead]
  have hshort : (pageBlob 1 s₁).length < 4096 + OVERHEAD_PER_CHUNK := by
    rw [length_pageBlob, hoverhead]
    omega
  have hne : pageBlob 1 s₁ ≠ [] := by
    intro hnil
    have hlength := length_pageBlob 1 s₁
    rw [hnil, List.length_nil] at hlength
    omega
  rw [slices, pageWire, blocks_cons (by decide) hfull, blocks_short hshort, if_neg hne]
  rfl

theorem decryptBlock_page {i : Nat} {slice file : Bytes}
    (hslice : [s₀, s₁][i]? = some slice) (hne : slice ≠ [])
    (hcap : file.length + slice.length ≤ 8192) :
    decryptBlock (sealedOnly ⟨"f", [s₀, s₁]⟩) {} ⟨zeroKey, "f", 4096, 2, by decide, by decide⟩
      (i, file) (pageBlob i slice) = .ok (i + 1, file ++ slice) := by
  refine decryptBlock_ok_iff.2 ⟨slice, decryptChunk_sealedOnly rfl hslice hne, ?_, rfl, rfl⟩
  exact Nat.le_trans hcap (by decide)

theorem writeDecrypted_page (h₀ : s₀.length = 4096) (hne : s₁ ≠ []) (h₁ : s₁.length < 4096) :
    writeDecrypted asciiPython (sealedOnly ⟨"f", [s₀, s₁]⟩) {}
      (encryptionDump zeroFragment "f" 4096 2) (pageBody s₀ s₁) =
        .ok (4096 + s₁.length + 56, s₀ ++ s₁) := by
  have hparams : decryptionParams asciiPython {} (encryptionDump zeroFragment "f" 4096 2) =
      .ok ⟨zeroKey, "f", 4096, 2, by decide, by decide⟩ :=
    decryptionParams_dump asciiPython decodeFragment_zero (by decide) (by decide)
  have hcap : wireCap asciiPython {} (encryptionDump zeroFragment "f" 4096 2) = .ok 2162163709 :=
    rfl
  have hne₀ : s₀ ≠ [] := by
    rintro rfl
    cases h₀
  have hlength : (pageWire s₀ s₁).length = 4096 + s₁.length + 56 := by
    rw [pageWire, List.length_append, length_pageBlob, length_pageBlob, h₀]
    omega
  have hfirst := @decryptBlock_page s₀ s₁ 0 s₀ [] rfl hne₀ (by rw [h₀]; decide)
  have hsecond := @decryptBlock_page s₀ s₁ 1 s₁ ([] ++ s₀) rfl hne (by rw [List.nil_append]; omega)
  rw [writeDecrypted, decryptWriter, hparams, ok_bind, hcap, ok_bind]
  refine decryptStream_ok_iff.2 ⟨?_, rfl, ?_⟩
  · refine (accounts_ok_iff (Nat.zero_le _)).2 ⟨?_, ?_⟩
    · have htimes : ∀ t ∈ [0, 0, 1], t ≤ ((300 : Nat) : Rat) := by decide
      intro chunk hchunk
      exact htimes chunk.elapsed (List.mem_map_of_mem (f := Chunk.elapsed) hchunk)
    · rw [← Body.bytes, bytes_pageBody, hlength]
      omega
  · rw [bytes_pageBody]
    dsimp only
    rw [slices_pageWire h₀ h₁, List.foldlM_cons, hfirst, ok_bind, List.foldlM_cons, hsecond]
    rfl

end Pages

theorem accepted_stream_is_the_file_page :
    ∃ written, writeDecrypted asciiPython
        (sealedOnly ⟨"f", [List.replicate 4096 97, List.replicate 904 98]⟩) {}
        (encryptionDump zeroFragment "f" 4096 2)
        (pageBody (List.replicate 4096 97) (List.replicate 904 98)) = .ok (5056, written) ∧
      written = SourceFile.content ⟨"f", [List.replicate 4096 97, List.replicate 904 98]⟩ := by
  have hshort : (List.replicate 904 (98 : UInt8)).length < 4096 := by
    rw [List.length_replicate]
    decide
  have hne : List.replicate 904 (98 : UInt8) ≠ [] :=
    mt (List.replicate_eq_nil_iff 98).1 (by decide)
  have haccept := @writeDecrypted_page (List.replicate 4096 97) _ List.length_replicate hne hshort
  rw [List.length_replicate] at haccept
  refine ⟨_, haccept, ?_⟩
  exact accepted_stream_is_the_file asciiPython (sealedOnly _) {} zeroKey (· = _) _
    (encryptionDump zeroFragment "f" 4096 2) (.str zeroFragment) _ _ _ idealAead_sealedOnly
    (fun f g hf hg _ _ => hf.trans hg.symm) rfl rfl decodeFragment_zero rfl rfl haccept

def abcBody : Body := ⟨[⟨zeroIv, 0⟩, ⟨[], 0⟩, ⟨abcSealed, 1⟩], none⟩

end FileScanner
