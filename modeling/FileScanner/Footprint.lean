import FileScanner.Decryption
import FileScanner.Lib.Feeding
import FileScanner.Lib.Sup
import Mathlib.Order.Nat

namespace FileScanner
open Fallible Streams Orders
set_option autoImplicit true

/-- A moment of the loop of `_write_decrypted`: the body to come, the bytes read, the chunks done
with the file on disk, and the buffer. -/
abbrev WriterMoment := Moment Nat (Nat × Bytes) Chunk UInt8

def Body.longest (body : Body) : Nat := highest (body.chunks.map (·.data.length))

def Body.start (body : Body) : WriterMoment := ⟨body.chunks, 0, (0, []), []⟩

section Writer
variable (gcm : AesGcm) (settings : Settings) (params : DecryptionParams settings) (cap : Nat)

def DecryptionParams.blobSize : Nat := params.chunkSize + OVERHEAD_PER_CHUNK

def WriterMoment.step (m : WriterMoment) : Except Exc (Option WriterMoment) :=
  Moment.step (account settings cap) Chunk.data (params.blobSize settings)
    (decryptBlock gcm settings params) m

/-- The loop of `_write_decrypted` comes from the one moment to the other. -/
def Comes : WriterMoment → WriterMoment → Prop :=
  Passes (account settings cap) Chunk.data (params.blobSize settings)
    (decryptBlock gcm settings params)

/-- What `_write_decrypted` makes of the last moment of its loop. -/
def WriterMoment.conclude (body : Body) (last : WriterMoment) : Except Exc (Nat × Bytes) := do
  let _ ← last.step gcm settings params cap
  body.finish
  let (partNumber, file) ← decryptTail gcm settings params last.done last.buffer
  raiseIf (partNumber ≠ params.parts)
    (.decryptionError ("expected " ++ toString params.parts ++ " chunks, decrypted "
      ++ toString partNumber ++ " (truncated?)"))
  pure (last.account, file)

/-- What the writer holds at a moment: on the wire, on disk and in memory no more than it is
allowed, and on disk nothing but the plaintexts of the blobs that came, in their places. -/
structure Footprint (body : Body) (m : WriterMoment) : Prop where
  source : m.source <:+ body.chunks
  wire : m.account ≤ cap
  disk : m.done.2.length ≤ settings.maxUrlSize
  memory : m.buffer.length <
    settings.encryptionMaxChunkSize + OVERHEAD_PER_CHUNK + body.longest
  counted : m.account = m.done.1 * params.blobSize settings + m.buffer.length
  kept : ∃ blobs plains, DecryptsTo gcm params.key params.fileId params.parts 0 blobs plains ∧
    blobs.length = m.done.1 ∧ plains.flatten = m.done.2 ∧
    blobs.flatten ++ m.buffer ++ m.source.flatMap (·.data) = body.bytes

end Writer

theorem DecryptsTo.concat {gcm : AesGcm} {key : Key} {fileId : String} {parts i : Nat}
    {blobs plains : List Bytes} {blob plain : Bytes}
    (h : DecryptsTo gcm key fileId parts i blobs plains)
    (hplain : decryptChunk gcm key blob fileId (i + blobs.length + 1) parts = .ok plain) :
    DecryptsTo gcm key fileId parts i (blobs ++ [blob]) (plains ++ [plain]) := by
  induction h with
  | nil => exact .cons hplain .nil
  | @cons i b p bs ps hp _ ih =>
    apply DecryptsTo.cons hp
    apply ih
    rwa [List.length_cons, ← Nat.add_assoc, Nat.add_right_comm i] at hplain

section Writer
variable {gcm : AesGcm} {settings : Settings} {params : DecryptionParams settings} {cap : Nat}
  {body : Body}

variable (params) in
theorem blobSize_pos : 0 < params.blobSize settings := by
  rw [DecryptionParams.blobSize, OVERHEAD_PER_CHUNK, IV_BYTES]
  omega

variable (params) in
theorem blobSize_le : params.blobSize settings ≤
    settings.encryptionMaxChunkSize + OVERHEAD_PER_CHUNK :=
  Nat.add_le_add_right params.ceiling _

theorem length_le_longest {chunk : Chunk} (h : chunk ∈ body.chunks) :
    chunk.data.length ≤ body.longest :=
  le_highest (List.mem_map_of_mem h)

theorem footprint_start : Footprint gcm settings params cap body body.start := by
  refine ⟨List.suffix_refl _, Nat.zero_le _, Nat.zero_le _, ?_, ?_, [], [], .nil, rfl, rfl, rfl⟩
  · exact Nat.lt_of_lt_of_le (blobSize_pos params)
      (Nat.le_trans (blobSize_le params) (Nat.le_add_right _ _))
  · exact (Nat.zero_mul _).symm

theorem Footprint.block {m : WriterMoment} (h : Footprint gcm settings params cap body m)
    (hfull : params.blobSize settings ≤ m.buffer.length) {done : Nat × Bytes}
    (hdone : decryptBlock gcm settings params m.done (m.buffer.take (params.blobSize settings)) =
      .ok done) :
    Footprint gcm settings params cap body
      { m with done := done, buffer := m.buffer.drop (params.blobSize settings) } := by
  obtain ⟨plain, hplain, hcap, hcount, hfile⟩ := decryptBlock_ok_iff.1 hdone
  obtain ⟨blobs, plains, hall, hlen, hflat, hbytes⟩ := h.kept
  have hlength : (m.buffer.drop (params.blobSize settings)).length ≤ m.buffer.length := by
    rw [List.length_drop]
    omega
  refine ⟨h.source, h.wire, ?_, Nat.lt_of_le_of_lt hlength h.memory, ?_, ?_⟩
  · rw [hfile, List.length_append]
    exact hcap
  · have hcounted := h.counted
    have hnext : done.1 = m.done.1 + 1 := hcount
    change m.account = done.1 * params.blobSize settings +
      (m.buffer.drop (params.blobSize settings)).length
    rw [hcounted, hnext, Nat.succ_mul, List.length_drop]
    omega
  · refine ⟨blobs ++ [m.buffer.take (params.blobSize settings)], plains ++ [plain],
      hall.concat ?_, ?_, ?_, ?_⟩
    · rw [Nat.zero_add, hlen]
      exact hplain
    · rw [List.length_append, List.length_singleton, hlen, hcount]
    · rw [List.flatten_append, List.flatten_singleton, hflat, hfile]
    · rw [List.flatten_append, List.flatten_singleton, List.append_assoc blobs.flatten,
        List.take_append_drop, hbytes]

theorem Footprint.piece {m : WriterMoment} (h : Footprint gcm settings params cap body m)
    (hshort : m.buffer.length < params.blobSize settings) {chunk : Chunk} {chunks : List Chunk}
    {read : Nat} (hsource : m.source = chunk :: chunks)
    (hread : account settings cap m.account chunk = .ok read) :
    Footprint gcm settings params cap body
      { m with source := chunks, account := read, buffer := m.buffer ++ chunk.data } := by
  obtain ⟨-, hcap, rfl⟩ := account_ok_iff.1 hread
  obtain ⟨blobs, plains, hall, hlen, hflat, hbytes⟩ := h.kept
  have hsuffix := h.source
  rw [hsource] at hsuffix
  have hlongest := length_le_longest (hsuffix.subset List.mem_cons_self)
  have hblob : params.blobSize settings ≤
      settings.encryptionMaxChunkSize + OVERHEAD_PER_CHUNK := blobSize_le params
  refine ⟨(List.suffix_cons chunk chunks).trans hsuffix, hcap, h.disk, ?_, ?_,
    blobs, plains, hall, hlen, hflat, ?_⟩
  · rw [List.length_append]
    omega
  · rw [List.length_append, ← Nat.add_assoc, ← h.counted]
  · rw [← hbytes, hsource, List.flatMap_cons]
    simp only [List.append_assoc]

theorem footprint_of_comes {m : WriterMoment}
    (h : Comes gcm settings params cap body.start m) :
    Footprint gcm settings params cap body m := by
  apply h.invariant footprint_start
  intro a b ha hnext
  rcases Moment.next_cases hnext with ⟨hfull, done, hdone, rfl⟩ |
    ⟨hshort, chunk, chunks, read, hsource, hread, rfl⟩
  · exact ha.block hfull hdone
  · exact ha.piece hshort hsource hread

/-- The writer is its loop, taken to its last moment. -/
theorem decryptStream_conclude :
    ∃ last, Comes gcm settings params cap body.start last ∧
      (∀ m, last.step gcm settings params cap ≠ .ok (some m)) ∧
      decryptStream gcm settings params cap body =
        last.conclude gcm settings params cap body := by
  have hempty : ([] : Bytes).length < params.blobSize settings := blobSize_pos params
  obtain ⟨hends, hfails⟩ := @feed_passes _ _ _ _ _ (account settings cap) Chunk.data _
    (decryptBlock gcm settings params) (blobSize_pos params) body.chunks 0 (0, []) _ hempty
  cases hfeed : feed (account settings cap) Chunk.data (params.blobSize settings)
      (decryptBlock gcm settings params) body.chunks 0 (0, []) [] with
  | error e =>
    obtain ⟨m, hcomes, hstep⟩ := hfails e hfeed
    refine ⟨m, hcomes, ?_, ?_⟩
    · intro m' hnext
      rw [WriterMoment.step, hstep] at hnext
      cases hnext
    · rw [WriterMoment.conclude, WriterMoment.step, hstep, decryptStream]
      rw [DecryptionParams.blobSize] at hfeed
      rw [hfeed]
      rfl
  | ok fed =>
    obtain ⟨read, state, buffer⟩ := fed
    obtain ⟨hcomes, hshort⟩ := hends read state buffer hfeed
    have hstep : WriterMoment.step gcm settings params cap ⟨[], read, state, buffer⟩ =
        .ok none := by
      rw [WriterMoment.step, Moment.step, if_neg (Nat.not_le.2 hshort)]
    refine ⟨_, hcomes, ?_, ?_⟩
    · intro m' hnext
      rw [hstep] at hnext
      cases hnext
    · rw [WriterMoment.conclude, hstep, decryptStream]
      rw [DecryptionParams.blobSize] at hfeed
      rw [hfeed]
      rfl

theorem decryptTail_kept {done done' : Nat × Bytes} {buffer : Bytes}
    (hdone : done.2.length ≤ settings.maxUrlSize)
    (h : decryptTail gcm settings params done buffer = .ok done') :
    done.2 <+: done'.2 ∧ done'.2.length ≤ settings.maxUrlSize := by
  rw [decryptTail] at h
  split at h
  · cases h
    exact ⟨List.prefix_refl _, hdone⟩
  · obtain ⟨plain, -, hcap, -, hfile⟩ := decryptBlock_ok_iff.1 h
    rw [hfile, List.length_append]
    exact ⟨List.prefix_append _ _, hcap⟩

/-- The file only grows. -/
theorem file_grows {m m' : WriterMoment} (h : Comes gcm settings params cap m m') :
    m.done.2 <+: m'.done.2 := by
  induction h with
  | refl => exact List.prefix_refl _
  | tail _ hnext ih =>
    rcases Moment.next_cases hnext with ⟨-, done, hdone, rfl⟩ |
      ⟨-, chunk, chunks, read, -, -, rfl⟩
    · obtain ⟨plain, -, -, -, hfile⟩ := decryptBlock_ok_iff.1 hdone
      exact ih.trans (hfile ▸ List.prefix_append _ _)
    · exact ih

/-- A writer that succeeds has read the whole body, and only adds to the file it had. -/
theorem conclude_ok {last : WriterMoment} {read : Nat} {file : Bytes}
    (hlast : ∀ m, last.step gcm settings params cap ≠ .ok (some m))
    (hdisk : last.done.2.length ≤ settings.maxUrlSize)
    (h : last.conclude gcm settings params cap body = .ok (read, file)) :
    last.source = [] ∧ last.account = read ∧ last.done.2 <+: file ∧
      file.length ≤ settings.maxUrlSize := by
  obtain ⟨next, hstep, h⟩ := bind_eq_ok.1 h
  obtain ⟨⟨⟩, -, h⟩ := bind_eq_ok.1 h
  obtain ⟨⟨partNumber, file'⟩, htail, h⟩ := bind_eq_ok.1 h
  obtain ⟨⟨⟩, -, h⟩ := bind_eq_ok.1 h
  cases h
  obtain ⟨hgrows, hcap⟩ := decryptTail_kept hdisk htail
  refine ⟨?_, rfl, hgrows, hcap⟩
  cases next with
  | some m => exact absurd hstep (hlast m)
  | none => exact Moment.step_none hstep

/-- Whatever body comes, the writer keeps to its footprint at every moment of its loop, and a run
that succeeds only adds to the file of any of them. -/
theorem writer_keeps_footprint (gcm : AesGcm) (settings : Settings)
    (params : DecryptionParams settings) (cap : Nat) (body : Body) :
    ∃ last, Comes gcm settings params cap body.start last ∧
      decryptStream gcm settings params cap body = last.conclude gcm settings params cap body ∧
      (∀ m, Comes gcm settings params cap body.start m →
        Footprint gcm settings params cap body m ∧ Comes gcm settings params cap m last) ∧
      ∀ read file, decryptStream gcm settings params cap body = .ok (read, file) →
        last.source = [] ∧ last.account = read ∧ file.length ≤ settings.maxUrlSize ∧
          ∀ m, Comes gcm settings params cap body.start m → m.done.2 <+: file := by
  obtain ⟨last, hcomes, hlast, hstream⟩ :=
    @decryptStream_conclude gcm settings params cap body
  refine ⟨last, hcomes, hstream, ?_, ?_⟩
  · intro m hm
    exact ⟨footprint_of_comes hm, hm.to_last hcomes hlast⟩
  · intro read file hok
    rw [hstream] at hok
    obtain ⟨hsource, hread, hgrows, hcap⟩ :=
      conclude_ok hlast (footprint_of_comes hcomes).disk hok
    refine ⟨hsource, hread, hcap, ?_⟩
    intro m hm
    exact (file_grows (hm.to_last hcomes hlast)).trans hgrows

end Writer

end FileScanner
