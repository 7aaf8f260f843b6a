import FileScanner.Backends.Clamd
import FileScanner.Lib.Blocks
import FileScanner.Lib.Framing

namespace FileScanner
open Fallible Framing Streams
set_option autoImplicit true

def STREAM_CHUNK : Nat := 1024

/-- The daemon at the other end of the socket: whether it can be reached, where it stops taking
the bytes it is offered behind those it has, and its reply to all of them. -/
structure ExavDaemon where
  connect : Except ClamdError Unit
  refuse : Bytes → Bytes → Option (ClamdError × Nat)
  reply : Bytes → Except ClamdError String

/-- What `fileobj.read(_STREAM_CHUNK)` returns, call by call, up to the empty read at the end. -/
structure Reads (content : Bytes) where
  pieces : List Bytes
  sized : ∀ p ∈ pieces, 1 ≤ p.length ∧ p.length ≤ STREAM_CHUNK
  whole : pieces.flatten = content

/-- `struct.pack(b"!L", n)`. -/
def packLong (n : Nat) : Except ClamdError Bytes :=
  if n < 2 ^ 32 then .ok (beBytes 4 n)
  else .error (.other (.exception "'L' format requires 0 <= number <= 4294967295"))

def ExavDaemon.sendall (daemon : ExavDaemon) (sent data : Bytes) :
    Except ClamdError Unit × Bytes :=
  match daemon.refuse sent data with
  | some (e, n) => (.error e, sent ++ data.take n)
  | none => (.ok (), sent ++ data)

def ExavDaemon.sendChunk (daemon : ExavDaemon) (sent chunk : Bytes) :
    Except ClamdError Unit × Bytes :=
  match packLong chunk.length with
  | .error e => (.error e, sent)
  | .ok header => daemon.sendall sent (header ++ chunk)

/-- The loop of `exinstream`: what has been sent behind the command when it is over. -/
def ExavDaemon.sendChunks (daemon : ExavDaemon) :
    List Bytes → Bytes → Except ClamdError Unit × Bytes
  | [], sent => daemon.sendChunk sent []
  | chunk :: reads, sent =>
    if chunk = [] then daemon.sendChunk sent []
    else
      match daemon.sendChunk sent chunk with
      | (.error e, sent) => (.error e, sent)
      | (.ok (), sent) => daemon.sendChunks reads sent

def exinstream (daemon : ExavDaemon) (reads : List Bytes) : Except ClamdError String × Bytes :=
  match daemon.connect with
  | .error e => (.error e, [])
  | .ok () =>
    match daemon.sendChunks reads [] with
    | (.error e, sent) => (.error e, sent)
    | (.ok (), sent) => (daemon.reply sent, sent)

/-- The whole stream of a file read in these pieces. -/
def framedStream (pieces : List Bytes) : Bytes := pieces.flatMap (frame 4) ++ frame 4 []

theorem packLong_ok {n : Nat} (h : n < 2 ^ 32) : packLong n = .ok (beBytes 4 n) := if_pos h

theorem framedStream_cons (chunk : Bytes) (pieces : List Bytes) :
    framedStream (chunk :: pieces) = frame 4 chunk ++ framedStream pieces := by
  rw [framedStream, List.flatMap_cons, List.append_assoc]
  rfl

/-- The daemon got a beginning of these bytes, and all of them unless it refused some. -/
structure Delivers (daemon : ExavDaemon) (out : Except ClamdError Unit × Bytes)
    (whole : Bytes) : Prop where
  part : out.2 <+: whole
  done : out.1 = .ok () → out.2 = whole
  total : (∀ sent data, daemon.refuse sent data = none) → out.1 = .ok ()

theorem sendall_delivers (daemon : ExavDaemon) (sent data : Bytes) :
    Delivers daemon (daemon.sendall sent data) (sent ++ data) := by
  rw [ExavDaemon.sendall]
  cases h : daemon.refuse sent data with
  | none => exact ⟨List.prefix_refl _, fun _ => rfl, fun _ => rfl⟩
  | some refusal =>
    constructor
    · exact (List.prefix_append_right_inj sent).2 (List.take_prefix _ _)
    · exact fun hok => nomatch hok
    · intro hall
      cases (hall sent data).symm.trans h

theorem sendChunk_eq {chunk : Bytes} (h : chunk.length < 2 ^ 32) (daemon : ExavDaemon)
    (sent : Bytes) : daemon.sendChunk sent chunk = daemon.sendall sent (frame 4 chunk) := by
  rw [ExavDaemon.sendChunk, packLong_ok h]
  rfl

theorem sendChunks_delivers (daemon : ExavDaemon) {pieces : List Bytes}
    (h : ∀ p ∈ pieces, p ≠ [] ∧ p.length < 2 ^ 32) (sent : Bytes) :
    Delivers daemon (daemon.sendChunks pieces sent) (sent ++ framedStream pieces) := by
  induction pieces generalizing sent with
  | nil =>
    have hfits : ([] : Bytes).length < 2 ^ 32 := Nat.two_pow_pos 32
    rw [ExavDaemon.sendChunks, sendChunk_eq hfits]
    exact sendall_delivers daemon sent (frame 4 [])
  | cons chunk pieces ih =>
    obtain ⟨hne, hfits⟩ := h chunk List.mem_cons_self
    have ih' := ih (fun p hp => h p (List.mem_cons_of_mem _ hp))
    have hsend := sendall_delivers daemon sent (frame 4 chunk)
    rw [ExavDaemon.sendChunks, if_neg hne, sendChunk_eq hfits, framedStream_cons,
      ← List.append_assoc]
    cases hout : daemon.sendall sent (frame 4 chunk) with
    | mk result sent' =>
      rw [hout] at hsend
      cases result with
      | error e =>
        constructor
        · exact hsend.part.trans (List.prefix_append _ _)
        · exact fun hok => nomatch hok
        · exact fun hall => nomatch hsend.total hall
      | ok _ =>
        cases hsend.done rfl
        exact ih' _

theorem Reads.framed {content : Bytes} (reads : Reads content) :
    ∀ p ∈ reads.pieces, p ≠ [] ∧ p.length < 2 ^ 32 := by
  intro p hp
  obtain ⟨hpos, hmax⟩ := reads.sized p hp
  rw [STREAM_CHUNK] at hmax
  refine ⟨List.ne_nil_of_length_pos hpos, ?_⟩
  omega

theorem Reads.deframe_framedStream {content : Bytes} (reads : Reads content) :
    deframe 4 (framedStream reads.pieces) = some (reads.pieces, []) := by
  have hwidth : 2 ^ 32 = 256 ^ 4 := by decide
  have hframed := reads.framed
  rw [hwidth] at hframed
  have hframes := deframe_frames hframed []
  rw [List.append_nil] at hframes
  exact hframes

/-- The reference decoder takes these bytes, to the last one, for exactly this file. -/
def DecodesTo (content sent : Bytes) : Prop :=
  ∃ frames, deframe 4 sent = some (frames, []) ∧ frames.flatten = content ∧
    ∀ f ∈ frames, f ≠ [] ∧ f.length < 2 ^ 32

/-- All that was sent decodes to the file, unless an error cut it; then what was sent decodes to
nothing, or the error came with the last byte. -/
structure SendsFile (daemon : ExavDaemon) (content : Bytes)
    (out : Except ClamdError Unit × Bytes) : Prop where
  done : out.1 = .ok () → DecodesTo content out.2
  total : (∀ sent data, daemon.refuse sent data = none) → out.1 = .ok ()
  cut : deframe 4 out.2 = none ∨ DecodesTo content out.2

theorem sendsFile (daemon : ExavDaemon) {content : Bytes} (reads : Reads content) :
    SendsFile daemon content (daemon.sendChunks reads.pieces []) := by
  have hsent := sendChunks_delivers daemon reads.framed []
  rw [List.nil_append] at hsent
  have hwhole : DecodesTo content (framedStream reads.pieces) :=
    ⟨reads.pieces, reads.deframe_framedStream, reads.whole, reads.framed⟩
  constructor
  · intro hok
    rw [hsent.done hok]
    exact hwhole
  · exact hsent.total
  · obtain ⟨more, hmore⟩ := hsent.part
    by_cases hcut : more = []
    · rw [hcut, List.append_nil] at hmore
      rw [hmore]
      exact .inr hwhole
    · have hdeframe := reads.deframe_framedStream
      rw [← hmore] at hdeframe
      exact .inl (deframe_cut hdeframe hcut)

/-- A regular file: every read but the last is full. -/
def fullReads (content : Bytes) : Reads content where
  pieces := slices STREAM_CHUNK content
  sized p hp := by
    have hpos : 0 < STREAM_CHUNK := by decide
    have hne := slices_ne_nil hpos p hp
    exact ⟨List.length_pos_iff.2 hne, length_le_of_mem_slices hpos p hp⟩
  whole := slices_flatten (by decide) content

instance (content : Bytes) : Inhabited (Reads content) := ⟨fullReads content⟩

theorem exinstream_ok {daemon : ExavDaemon} {pieces : List Bytes} {raw : String}
    (h : (exinstream daemon pieces).1 = .ok raw) :
    (daemon.sendChunks pieces []).1 = .ok () ∧
      (exinstream daemon pieces).2 = (daemon.sendChunks pieces []).2 ∧
      daemon.reply (exinstream daemon pieces).2 = .ok raw := by
  rw [exinstream] at h ⊢
  cases hc : daemon.connect with
  | error e =>
    rw [hc] at h
    cases h
  | ok _ =>
    rw [hc] at h
    cases hsent : daemon.sendChunks pieces [] with
    | mk result sent =>
      simp only [hsent] at h ⊢
      cases result with
      | error e => cases h
      | ok _ => exact ⟨rfl, rfl, h⟩

theorem reply_whole_file {daemon : ExavDaemon} {content : Bytes} (reads : Reads content)
    {raw : String} (h : (exinstream daemon reads.pieces).1 = .ok raw) :
    DecodesTo content (exinstream daemon reads.pieces).2 ∧
      daemon.reply (exinstream daemon reads.pieces).2 = .ok raw := by
  obtain ⟨hok, hsent, hreply⟩ := exinstream_ok h
  have hdecodes := (sendsFile daemon reads).done hok
  rw [← hsent] at hdecodes
  exact ⟨hdecodes, hreply⟩

theorem exavScan_ok {py : Python} {exinstream : Bytes → Except ClamdError String}
    {content : Bytes} {v : Verdict} (h : exavScan py exinstream content = .ok v) :
    ∃ raw, exinstream content = .ok raw ∧ parseVerdict py raw = .ok v := by
  rw [exavScan] at h
  split at h <;> try cases h
  exact ⟨_, by assumption, h⟩

/-- A verdict of exav is the daemon's word on bytes that decode to the whole file. -/
theorem exavScan_whole_file {py : Python} {daemon : ExavDaemon}
    {reader : ∀ content, Reads content} {content : Bytes} {v : Verdict}
    (h : exavScan py (fun content => (exinstream daemon (reader content).pieces).1) content =
      .ok v) :
    ∃ sent raw, DecodesTo content sent ∧ daemon.reply sent = .ok raw ∧
      parseVerdict py raw = .ok v := by
  obtain ⟨raw, hraw, hv⟩ := exavScan_ok h
  obtain ⟨hdecodes, hreply⟩ := reply_whole_file (reader content) hraw
  exact ⟨_, raw, hdecodes, hreply, hv⟩

/-- However the file is read and however much the daemon takes of it, what exav receives behind
the command is exactly the file, and its reply is about exactly the file. -/
theorem exav_receives_exactly_the_file (daemon : ExavDaemon) (content : Bytes)
    (reads : Reads content) :
    SendsFile daemon content (daemon.sendChunks reads.pieces []) ∧
      ∀ raw, (exinstream daemon reads.pieces).1 = .ok raw →
        DecodesTo content (exinstream daemon reads.pieces).2 ∧
          daemon.reply (exinstream daemon reads.pieces).2 = .ok raw :=
  ⟨sendsFile daemon reads, fun _ => reply_whole_file reads⟩

end FileScanner
