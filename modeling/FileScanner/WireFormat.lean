import FileScanner.Lib.Chunking
import FileScanner.RoundTrip

namespace FileScanner
open Collections Fallible Streams
set_option autoImplicit true

/-- Under the key, the chunk passes with the associated data it was sealed with only. -/
def SealedWith (gcm : AesGcm) (key : Key) (blob aad : Bytes) : Prop :=
  ∀ aad' plain, gcm.decrypt key.bytes (blob.take IV_BYTES) (blob.drop IV_BYTES) aad' = some plain →
    aad' = aad

/-- The associated data tells the file, the position and the number of chunks, so that no chunk
passes in the place of another. -/
theorem chunk_aad_injective :
    (∀ f₁ f₂ p₁ p₂ n₁ n₂,
      chunkAad f₁ p₁ n₁ = chunkAad f₂ p₂ n₂ ↔ f₁ = f₂ ∧ p₁ = p₂ ∧ n₁ = n₂) ∧
    ∀ gcm key blob f₁ p₁ n₁, SealedWith gcm key blob (chunkAad f₁ p₁ n₁) →
      ∀ f₂ p₂ n₂ plain, decryptChunk gcm key blob f₂ p₂ n₂ = .ok plain →
        f₂ = f₁ ∧ p₂ = p₁ ∧ n₂ = n₁ := by
  constructor
  · intro f₁ f₂ p₁ p₂ n₁ n₂
    constructor
    · exact chunkAad_inj
    · intro h
      rw [h.1, h.2.1, h.2.2]
  · intro gcm key blob f₁ p₁ n₁ hsealed f₂ p₂ n₂ plain hplain
    exact chunkAad_inj (hsealed _ _ (decryptChunk_ok hplain))

def abcFile : SourceFile := ⟨"f", [abc]⟩

def abcBlob : Bytes := zeroIv ++ aesGcm.encrypt zeroKey.bytes zeroIv abc (chunkAad "f" 1 1)

/-- The one known chunk passes at its place; its file id cannot be cut elsewhere. -/
theorem chunk_aad_injective_abc :
    decryptChunk (sealedOnly abcFile) zeroKey abcBlob "f" 1 1 = .ok abc ∧
      (∀ f p n plain, decryptChunk (sealedOnly abcFile) zeroKey abcBlob f p n = .ok plain →
        f = "f" ∧ p = 1 ∧ n = 1) ∧
      chunkAad "f:1" 1 1 ≠ chunkAad "f" 11 1 := by
  refine ⟨decryptChunk_sealedOnly rfl rfl (List.cons_ne_nil _ _), ?_, ?_⟩
  · apply chunk_aad_injective.2
    intro aad' plain h
    obtain ⟨f, rfl, i, hslice, haad⟩ := idealAead_sealedOnly _ _ _ _ h
    obtain ⟨hi, -⟩ := List.getElem?_eq_some_iff.1 hslice
    rw [haad, Nat.lt_one_iff.1 hi]
    rfl
  · intro h
    exact absurd ((chunk_aad_injective.1 _ _ _ _ _ _).1 h).2.1 (by decide)

/-- The stream of a file in the documented format: every slice, with an IV and a tag. -/
def Conforms (chunkSize : Nat) (plain wire : Bytes) : Prop :=
  ∃ blobs, List.Forall₂ (fun blob slice => blob.length = slice.length + OVERHEAD_PER_CHUNK) blobs
    (slices chunkSize plain) ∧ wire = blobs.flatten

theorem Conforms.length {chunkSize : Nat} {plain wire : Bytes} (hpos : 0 < chunkSize)
    (h : Conforms chunkSize plain wire) :
    wire.length = chunkedLength OVERHEAD_PER_CHUNK chunkSize plain.length := by
  obtain ⟨blobs, hblobs, rfl⟩ := h
  exact length_flatten_slices hpos hblobs

/-- What a caller encrypts as documented conforms. -/
theorem Upload.conforms {settings : Settings} {gcm : AesGcm} {u : Upload settings}
    (h : Undoes gcm u.key) : Conforms u.chunkSize u.plain (u.wire gcm) :=
  ⟨u.blobs gcm, forall₂_mapIdx (u.length_blob h) _, rfl⟩

theorem Conforms.length_le_iff {chunkSize cap : Nat} {plain wire : Bytes} (hpos : 0 < chunkSize)
    (h : Conforms chunkSize plain wire) :
    wire.length ≤ chunkedLength OVERHEAD_PER_CHUNK chunkSize cap ↔ plain.length ≤ cap := by
  rw [h.length hpos]
  exact (chunkedLength_strictMono OVERHEAD_PER_CHUNK hpos).le_iff_le

section Allowance
variable {py : Python} {settings : Settings} {enc : Json} {chunkSize : Nat}
  (hcap : 1 ≤ settings.maxUrlSize) (hpos : 1 ≤ chunkSize)
  (hchunk : (enc.item "chunk_size").bind (·.toInt py) = .ok (chunkSize : Int))
include hcap hpos hchunk

theorem wireCap_eq_chunkedLength :
    wireCap py settings enc =
      .ok (chunkedLength OVERHEAD_PER_CHUNK chunkSize settings.maxUrlSize) := by
  have hone : 1 ≤ settings.maxUrlSize ⌈/⌉ chunkSize := ceilDiv_pos hcap hpos
  rw [wireCap_of_chunkSize hpos hchunk, ← Nat.ceilDiv_eq_add_pred_div, Nat.max_eq_right hone,
    chunkedLength, Nat.mul_comm]

/-- A conforming body that comes in time is read to its end exactly when its file fits the cap. -/
theorem conforming_body_read_iff {body : Body} {plain : Bytes} {allowance : Nat}
    (hallowance : wireCap py settings enc = .ok allowance)
    (hbody : Conforms chunkSize plain body.bytes)
    (htimes : ∀ chunk ∈ body.chunks, chunk.elapsed ≤ settings.downloadMaxSeconds) :
    (∃ n, body.chunks.foldlM (account settings allowance) 0 = .ok n) ↔
      plain.length ≤ settings.maxUrlSize := by
  rw [wireCap_eq_chunkedLength hcap hpos hchunk, Except.ok.injEq] at hallowance
  rw [← hbody.length_le_iff hpos, hallowance]
  simp only [accounts_ok_iff (Nat.zero_le _), Nat.zero_add]
  constructor
  · intro h
    obtain ⟨n, -, hsize, -⟩ := h
    exact hsize
  · intro hsize
    exact ⟨_, htimes, hsize, rfl⟩

end Allowance

/-- The allowance on the wire is the length of the longest conforming stream of a file within the
cap: such a stream fits exactly when its file does. -/
theorem wire_allowance_exact (py : Python) (settings : Settings) (enc : Json) (chunkSize : Nat)
    (hcap : 1 ≤ settings.maxUrlSize) (hpos : 1 ≤ chunkSize)
    (hchunk : (enc.item "chunk_size").bind (·.toInt py) = .ok (chunkSize : Int)) :
    ∃ allowance, wireCap py settings enc = .ok allowance ∧
      IsGreatest (chunkedLength OVERHEAD_PER_CHUNK chunkSize '' Set.Iic settings.maxUrlSize)
        allowance ∧
      StrictMono (chunkedLength OVERHEAD_PER_CHUNK chunkSize) ∧
      ∀ plain wire, Conforms chunkSize plain wire →
        wire.length = chunkedLength OVERHEAD_PER_CHUNK chunkSize plain.length ∧
          (wire.length ≤ allowance ↔ plain.length ≤ settings.maxUrlSize) := by
  refine ⟨_, wireCap_eq_chunkedLength hcap hpos hchunk, isGreatest_chunkedLength _ hpos _,
    chunkedLength_strictMono _ hpos, ?_⟩
  intro plain wire h
  exact ⟨h.length hpos, h.length_le_iff hpos⟩

/-- Under a cap of its own size, the stream of a file in two chunks takes the whole allowance. -/
theorem wire_allowance_exact_page :
    ∃ allowance, wireCap publicPython { maxUrlSize := 5000 } (pageUpload 5000).enc = .ok allowance ∧
      IsGreatest (chunkedLength OVERHEAD_PER_CHUNK 4096 '' Set.Iic 5000) allowance ∧
      allowance = 5056 ∧ ((pageUpload 5000).wire aesGcm).length = allowance := by
  obtain ⟨allowance, hallowance, hgreatest, -, hfits⟩ := wire_allowance_exact publicPython
    { maxUrlSize := 5000 } (pageUpload 5000).enc 4096 (by decide) (by decide) rfl
  have hwire := hfits _ _ ((pageUpload 5000).conforms (undoes_aesGcm _))
  have hexact : allowance = 5056 := by
    rw [(pageUpload 5000).wireCap_enc] at hallowance
    exact (Except.ok.inj hallowance).symm
  refine ⟨allowance, hallowance, hgreatest, hexact, ?_⟩
  rw [hwire.1, (length_pageUpload 5000).1, hexact]
  rfl

end FileScanner
