import FileScanner.Cutting
import FileScanner.DownloadStatus
import Mathlib.Data.List.TakeWhile

namespace FileScanner
open Fallible
set_option autoImplicit true

/-- A field of a body that is refused, and why. -/
structure FieldError where
  loc : List String
  msg : String
  deriving DecidableEq, Repr

def complain (c : Prop) [Decidable c] (msg : String) : Option String :=
  if c then some msg else none

def characters (n : Nat) : String := toString n ++ (if n = 1 then " character" else " characters")

/-- `min_length` and `max_length` of a field. -/
def checkLength (lo hi : Nat) (text : String) : Option String :=
  (complain (text.length < lo) ("String should have at least " ++ characters lo)).or
    (complain (hi < text.length) ("String should have at most " ++ characters hi))

def atLeast (lo n : Int) : Option String :=
  complain (n < lo) ("Input should be greater than or equal to " ++ toString lo)

def atMost (hi n : Int) : Option String :=
  complain (hi < n) ("Input should be less than or equal to " ++ toString hi)

/-- The pattern of the key, whose `$` matches at the very end of the text only. -/
def matchesKeyPattern (text : List Char) : Bool :=
  !(text.takeWhile isFragmentChar).isEmpty
    && [[], ['='], ['=', '=']].contains (text.dropWhile isFragmentChar)

/-- The fields of an encryption object, read at their types. -/
structure EncryptionFields where
  scheme : String := SCHEME
  key : String
  chunkSize : Int
  fileId : String
  parts : Int

def knownScheme (py : Python) (scheme : String) : Option String :=
  complain (scheme ∉ SCHEMES) ("Value error, unknown scheme " ++ py.repr (.str scheme)
    ++ "; supported: " ++ sortedRepr py SCHEMES)

def checkKey (key : String) : Option String :=
  (checkLength 43 44 key).or (complain (matchesKeyPattern key.toList = false)
    "String should match pattern '^[A-Za-z0-9_-]+=\x7b0,2\x7d$'")

def checkChunkSize (settings : Settings) (chunkSize : Int) : Option String :=
  (atMost settings.encryptionMaxChunkSize chunkSize).or
    (atLeast settings.encryptionMinChunkSize chunkSize)

/-- Every field is checked, and each one that fails is reported once. -/
def fieldErrors (py : Python) (settings : Settings) (fields : EncryptionFields) :
    List FieldError :=
  [("scheme", knownScheme py fields.scheme), ("key", checkKey fields.key),
    ("chunk_size", checkChunkSize settings fields.chunkSize),
    ("file_id", checkLength 1 255 fields.fileId), ("parts", atLeast 0 fields.parts)].filterMap
      (fun e => e.2.map (FieldError.mk ["body", "encryption", e.1]))

/-- Decryption material that the endpoint has validated. -/
structure ScanEncryption (settings : Settings) where
  scheme : String
  key : String
  chunkSize : Nat
  fileId : String
  parts : Nat
  known : scheme ∈ SCHEMES
  keyLength : 43 ≤ key.length ∧ key.length ≤ 44
  keyPattern : matchesKeyPattern key.toList = true
  floor : settings.encryptionMinChunkSize ≤ chunkSize
  ceiling : chunkSize ≤ settings.encryptionMaxChunkSize
  fileIdLength : 1 ≤ fileId.length ∧ fileId.length ≤ 255

theorem complain_eq_none {c : Prop} [Decidable c] {msg : String} :
    complain c msg = none ↔ ¬ c := by
  rw [complain]
  split
  · rename_i h
    exact iff_of_false (Option.some_ne_none msg) (not_not_intro h)
  · rename_i h
    exact iff_of_true rfl h

theorem checkLength_eq_none {lo hi : Nat} {text : String} :
    checkLength lo hi text = none ↔ lo ≤ text.length ∧ text.length ≤ hi := by
  rw [checkLength, Option.or_eq_none_iff, complain_eq_none, complain_eq_none, not_lt, not_lt]

/-- What a body without errors has established. -/
structure FieldsFit (settings : Settings) (fields : EncryptionFields) : Prop where
  known : fields.scheme ∈ SCHEMES
  keyLength : 43 ≤ fields.key.length ∧ fields.key.length ≤ 44
  keyPattern : matchesKeyPattern fields.key.toList = true
  floor : settings.encryptionMinChunkSize ≤ fields.chunkSize
  ceiling : fields.chunkSize ≤ settings.encryptionMaxChunkSize
  fileIdLength : 1 ≤ fields.fileId.length ∧ fields.fileId.length ≤ 255
  partsNonneg : 0 ≤ fields.parts

theorem fieldErrors_eq_nil_iff {py : Python} {settings : Settings} {fields : EncryptionFields} :
    fieldErrors py settings fields = [] ↔ FieldsFit settings fields := by
  simp only [fieldErrors, List.filterMap_eq_nil_iff, List.forall_mem_cons, Option.map_eq_none_iff,
    knownScheme, checkKey, checkChunkSize, atLeast, atMost, Option.or_eq_none_iff,
    checkLength_eq_none, complain_eq_none, not_not, not_lt, Bool.not_eq_false]
  constructor
  · intro h
    obtain ⟨hknown, ⟨hlength, hpattern⟩, ⟨hceiling, hfloor⟩, hfileId, hparts, -⟩ := h
    exact ⟨hknown, hlength, hpattern, hfloor, hceiling, hfileId, hparts⟩
  · intro h
    exact ⟨h.known, ⟨h.keyLength, h.keyPattern⟩, ⟨h.ceiling, h.floor⟩, h.fileIdLength,
      h.partsNonneg, List.forall_mem_nil _⟩

/-- The validation of the object: it is refused with all of its errors, or it is built. -/
def validateEncryption (py : Python) (settings : Settings) (fields : EncryptionFields) :
    Except (List FieldError) (ScanEncryption settings) :=
  if h : fieldErrors py settings fields = [] then
    let fit := fieldErrors_eq_nil_iff.1 h
    .ok { scheme := fields.scheme, key := fields.key, chunkSize := fields.chunkSize.toNat,
          fileId := fields.fileId, parts := fields.parts.toNat, known := fit.known,
          keyLength := fit.keyLength, keyPattern := fit.keyPattern,
          floor := Int.ofNat_le.1 (le_trans fit.floor (Int.self_le_toNat _)),
          ceiling := Int.toNat_le.2 fit.ceiling, fileIdLength := fit.fileIdLength }
  else .error (fieldErrors py settings fields)

/-- `model_dump`, which travels in the message. -/
def ScanEncryption.modelDump {settings : Settings} (e : ScanEncryption settings) : Json :=
  .obj [("scheme", .str e.scheme), ("key", .str e.key), ("chunk_size", .int e.chunkSize),
    ("file_id", .str e.fileId), ("parts", .int e.parts)]

theorem ScanEncryption.modelDump_eq {settings : Settings} (e : ScanEncryption settings) :
    e.modelDump = encryptionDump e.key e.fileId e.chunkSize e.parts := by
  rw [modelDump, List.mem_singleton.1 e.known, encryptionDump]

/-- A character of the base64 alphabets. -/
def IsDigit (c : Char) : Prop := c ≠ '=' ∧ ∃ v, base64Value c = some v

theorem isFragmentChar_isDigit {c : Char} (h : isFragmentChar c = true) : IsDigit c := by
  constructor
  · intro he
    subst he
    exact absurd h (by decide)
  · have hupper : c.isUpper = decide (c.val ≥ 'A'.val ∧ c.val ≤ 'Z'.val) := rfl
    have hlower : c.isLower = (decide (c.val ≥ 'a'.val) && decide (c.val ≤ 'z'.val)) := rfl
    have hdigit : c.isDigit = (decide (c.val ≥ '0'.val) && decide (c.val ≤ '9'.val)) := rfl
    have hclass : ((c.isUpper || c.isLower) || c.isDigit || decide (c = '_') ||
        decide (c = '-')) = true := h
    simp only [hupper, hlower, hdigit, Bool.or_eq_true, Bool.and_eq_true, decide_eq_true_eq,
      ge_iff_le] at hclass
    simp only [base64Value, Char.le_def]
    split_ifs
    · exact ⟨_, rfl⟩
    · exact ⟨_, rfl⟩
    · exact ⟨_, rfl⟩
    · exact ⟨_, rfl⟩
    · exact ⟨_, rfl⟩
    · tauto

theorem base64Decode_step {c : Char} (hc : IsDigit c) (cs : List Char) {quad : Nat} (hq : quad < 4)
    (left pads : Nat) (out : Bytes) :
    ∃ left' out', base64Decode (c :: cs) quad left pads out =
        base64Decode cs ((quad + 1) % 4) left' 0 out' ∧
      out'.length + quad * 3 / 4 = out.length + (quad + 1) * 3 / 4 := by
  obtain ⟨hpad, v, hv⟩ := hc
  rw [base64Decode_value hpad hv]
  match quad, hq with
  | 0, _ => exact ⟨_, _, rfl, rfl⟩
  | 1, _ => exact ⟨_, _, rfl, by rw [List.length_append]; rfl⟩
  | 2, _ => exact ⟨_, _, rfl, by rw [List.length_append]; rfl⟩
  | 3, _ => exact ⟨_, _, rfl, by rw [List.length_append]; rfl⟩

theorem base64Decode_run {ds : List Char} (h : ∀ c ∈ ds, IsDigit c) (rest : List Char) {quad : Nat}
    (hq : quad < 4) (left : Nat) (out : Bytes) :
    ∃ left' out', base64Decode (ds ++ rest) quad left 0 out =
        base64Decode rest ((quad + ds.length) % 4) left' 0 out' ∧
      out'.length + quad * 3 / 4 = out.length + (quad + ds.length) * 3 / 4 := by
  induction ds generalizing quad left out with
  | nil => exact ⟨left, out, by rw [List.length_nil, Nat.add_zero, Nat.mod_eq_of_lt hq]; rfl, rfl⟩
  | cons c ds ih =>
    obtain ⟨hc, hds⟩ := List.forall_mem_cons.1 h
    obtain ⟨left₁, out₁, hstep, hlen₁⟩ := base64Decode_step hc (ds ++ rest) hq left 0 out
    have hq₁ : (quad + 1) % 4 < 4 := Nat.mod_lt _ (by decide)
    obtain ⟨left₂, out₂, hrun, hlen₂⟩ := ih hds hq₁ left₁ out₁
    have hplace : ((quad + 1) % 4 + ds.length) % 4 = (quad + (c :: ds).length) % 4 := by
      rw [List.length_cons]
      omega
    refine ⟨left₂, out₂, ?_, ?_⟩
    · rw [List.cons_append, hstep, hrun, hplace]
    · rw [List.length_cons]
      omega

theorem base64Decode_pad (cs : List Char) (quad left pads : Nat) (out : Bytes) :
    base64Decode ('=' :: cs) quad left pads out =
      if quad < 2 then base64Decode cs quad left pads out
      else if 4 ≤ quad + pads + 1 then .ok out
      else base64Decode cs quad left (pads + 1) out := by
  rw [base64Decode.eq_def]
  rfl

/-- Padding ends a text whose last group holds two or three characters, when there is enough. -/
theorem base64Decode_padding {quad pads : Nat} (hq : quad + pads < 4) (n left : Nat)
    (out raw : Bytes) :
    base64Decode (List.replicate n '=') quad left pads out = .ok raw ↔
      raw = out ∧ (quad = 0 ∨ 2 ≤ quad ∧ 4 ≤ quad + pads + n) := by
  induction n generalizing pads with
  | zero =>
    rw [List.replicate_zero]
    match quad, hq with
    | 0, _ => simp [base64Decode, eq_comm]
    | 1, _ => simp [base64Decode]
    | n + 2, _ =>
      simp [base64Decode]
      omega
  | succ n ih =>
    rw [List.replicate_succ, base64Decode_pad]
    split
    · rw [ih hq]
      apply and_congr_right
      intro
      omega
    · split
      · rw [Except.ok.injEq, eq_comm (a := out)]
        exact (and_iff_left (by omega)).symm
      · rw [ih (by omega)]
        apply and_congr_right
        intro
        omega

/-- Digits and their padding decode to as many bytes as the digits hold, when no digit is left over
and the padding fills the last group. -/
theorem base64Decode_length_iff {ds : List Char} (h : ∀ c ∈ ds, IsDigit c) (n k : Nat) :
    (∃ raw, base64Decode (ds ++ List.replicate n '=') 0 0 0 [] = .ok raw ∧ raw.length = k) ↔
      ds.length * 3 / 4 = k ∧
        (ds.length % 4 = 0 ∨ 2 ≤ ds.length % 4 ∧ 4 ≤ ds.length % 4 + n) := by
  obtain ⟨left, out, hrun, hlen⟩ :=
    base64Decode_run h (List.replicate n '=') (by decide : 0 < 4) 0 []
  rw [Nat.zero_add] at hrun hlen
  have hout : out.length = ds.length * 3 / 4 := by
    rw [List.length_nil] at hlen
    omega
  have hquad : ds.length % 4 + 0 < 4 := Nat.mod_lt _ (by decide)
  rw [hrun]
  simp only [base64Decode_padding hquad, Nat.add_zero, and_assoc, exists_eq_left, hout]
  exact and_comm

/-- A key of the pattern is a run of digits and at most two signs of padding. -/
theorem matchesKeyPattern_split {text : List Char} (h : matchesKeyPattern text = true) :
    ∃ ds n, (∀ c ∈ ds, isFragmentChar c = true) ∧ text = ds ++ List.replicate n '=' := by
  rw [matchesKeyPattern, Bool.and_eq_true, List.contains_iff_mem] at h
  have hrest : ∃ n, text.dropWhile isFragmentChar = List.replicate n '=' := by
    simp only [List.mem_cons, List.not_mem_nil, or_false] at h
    rcases h.2 with hnil | hone | htwo
    · exact ⟨0, hnil⟩
    · exact ⟨1, hone⟩
    · exact ⟨2, htwo⟩
  obtain ⟨n, hn⟩ := hrest
  refine ⟨text.takeWhile isFragmentChar, n, fun c hc => List.mem_takeWhile_imp hc, ?_⟩
  rw [← hn, List.takeWhile_append_dropWhile]

/-- The worker's own pattern lets a last line break through, which the endpoint refuses. -/
theorem isFragment_of_matchesKeyPattern {text : List Char} (h : matchesKeyPattern text = true) :
    isFragment text = true := by
  obtain ⟨ds, n, hds, rfl⟩ := matchesKeyPattern_split h
  have hbreak : '\n' ∉ ds ++ List.replicate n '=' := by
    intro hmem
    rcases List.mem_append.1 hmem with hd | hpad
    · exact absurd (hds _ hd) (by decide)
    · exact absurd (List.eq_of_mem_replicate hpad) (by decide)
  have hlast : (ds ++ List.replicate n '=').getLast? ≠ some '\n' :=
    fun he => hbreak (List.mem_of_getLast? he)
  rw [isFragment, dropLastBreak, if_neg hlast]
  exact h

theorem countP_digits {ds : List Char} (h : ∀ c ∈ ds, IsDigit c) (n : Nat) :
    (ds ++ List.replicate n '=').countP (· ≠ '=') = ds.length := by
  have hds : ds.countP (· ≠ '=') = ds.length := by
    rw [List.countP_eq_length]
    intro c hc
    exact decide_eq_true (h c hc).1
  have hpad : (List.replicate n '=').countP (· ≠ '=') = 0 := by
    rw [List.countP_eq_zero]
    intro c hc
    rw [List.eq_of_mem_replicate hc]
    decide
  rw [List.countP_append, hds, hpad, Nat.add_zero]

theorem decodeFragment_ok_iff {fragment : String} (h : isFragment fragment.toList = true) :
    (∃ key, decodeFragment fragment = .ok key) ↔
      ∃ raw, base64Decode (fragment.toList
          ++ List.replicate ((4 - fragment.length % 4) % 4) '=') 0 0 0 [] = .ok raw ∧
        raw.length = KEY_BYTES := by
  rw [decodeFragment, h, Bool.not_true, if_neg Bool.false_ne_true]
  dsimp only
  cases base64Decode (fragment.toList ++ List.replicate ((4 - fragment.length % 4) % 4) '=') 0 0 0
      [] with
  | error e =>
    apply iff_of_false
    · intro hok
      obtain ⟨key, hkey⟩ := hok
      cases hkey
    · intro hok
      obtain ⟨raw, hraw, -⟩ := hok
      cases hraw
  | ok raw =>
    rw [ok_bind]
    constructor
    · intro hok
      obtain ⟨key, hkey⟩ := hok
      split at hkey
      · rename_i hlen
        exact ⟨raw, rfl, hlen⟩
      · cases hkey
    · intro hok
      obtain ⟨raw', hraw, hlen⟩ := hok
      cases hraw
      rw [dif_pos hlen]
      exact ⟨_, rfl⟩

/-- A text of the key pattern decodes to a key exactly when it holds 43 digits. -/
theorem decodeFragment_digits_iff {fragment : String}
    (h : matchesKeyPattern fragment.toList = true) :
    (∃ key, decodeFragment fragment = .ok key) ↔ fragment.toList.countP (· ≠ '=') = 43 := by
  rw [decodeFragment_ok_iff (isFragment_of_matchesKeyPattern h), ← String.length_toList]
  obtain ⟨ds, n, hfragment, htext⟩ := matchesKeyPattern_split h
  have hds : ∀ c ∈ ds, IsDigit c := fun c hc => isFragmentChar_isDigit (hfragment c hc)
  rw [htext, countP_digits hds, List.append_assoc, List.replicate_append_replicate,
    base64Decode_length_iff hds, List.length_append, List.length_replicate, KEY_BYTES]
  omega

section Validated
variable {settings : Settings} (e : ScanEncryption settings)

theorem ScanEncryption.dumped : Dumped e.modelDump :=
  .inr ⟨e.key, e.fileId, e.chunkSize, e.parts, e.modelDump_eq⟩

/-- Of the parameters the endpoint has validated, the worker can only refuse the key. -/
theorem ScanEncryption.decryptionParams_ok_iff (py : Python) :
    (∃ params, decryptionParams py settings e.modelDump = .ok params) ↔
      ∃ key, decodeFragment e.key = .ok key := by
  rw [e.modelDump_eq]
  constructor
  · intro h
    obtain ⟨params, hparams⟩ := h
    obtain ⟨fragment, -, -, -, hitem, hdecode, -⟩ := decryptionParams_ok hparams
    cases hitem
    exact ⟨params.key, hdecode⟩
  · intro h
    obtain ⟨key, hkey⟩ := h
    exact ⟨_, decryptionParams_dump py hkey e.floor e.ceiling⟩

theorem ScanEncryption.refused_by_worker (py : Python) (h : ¬ e.key.toList.countP (· ≠ '=') = 43) :
    ∃ m, decryptionParams py settings e.modelDump = .error (.decryptionError m) := by
  cases hparams : decryptionParams py settings e.modelDump with
  | ok params =>
    exact absurd ((decodeFragment_digits_iff e.keyPattern).1
      ((e.decryptionParams_ok_iff py).1 ⟨params, hparams⟩)) h
  | error x =>
    rw [e.modelDump_eq] at hparams
    obtain ⟨m, rfl⟩ := decryptionParams_raises (P := fun x => ∃ m, x = .decryptionError m)
      (fun m => ⟨m, rfl⟩) py settings e.key e.fileId e.chunkSize e.parts x hparams
    exact ⟨m, rfl⟩

theorem ScanEncryption.writeBody_refused (py : Python) (gcm : AesGcm) (response : Response)
    (h : ¬ e.key.toList.countP (· ≠ '=') = 43) :
    ∃ x, writeBody py gcm settings e.modelDump response = .error x ∧ IsPermanent x := by
  obtain ⟨m, hparams⟩ := e.refused_by_worker py h
  have hwriter : bodyWriter py gcm settings e.modelDump = .error (.decryptionError m) := by
    have htruthy : e.modelDump.truthy = true := rfl
    rw [bodyWriter, if_pos htruthy, decryptWriter, hparams]
    rfl
  rw [writeBody]
  cases hguard : sizeGuard py settings e.modelDump response with
  | error x => exact ⟨x, rfl, .inl (sizeGuard_raises py settings e.dumped response x hguard)⟩
  | ok done =>
    rw [ok_bind, hwriter]
    exact ⟨_, rfl, .inr ⟨m, rfl⟩⟩

/-- The job of a key the worker refuses ends as a failure of the file, and nothing is scanned. -/
theorem ScanEncryption.job_fails {py : Python} {env : Env} {msg : ScanMessage}
    {response : Response} (hhealthy : env.Healthy) (hfault : ∀ step, env.fault step = none)
    (henc : msg.encryptionParams = e.modelDump)
    (hanswered : Answered py settings env msg response) (hstatus : ¬ response.Failed)
    (h : ¬ e.key.toList.countP (· ≠ '=') = 43) (retries : Option Nat) (w : World) :
    ∃ m, (tryBlock py settings env msg).scanned = [] ∧
      scanTask py settings env msg retries w =
        (.ok (), finalized settings msg (msg.result.update (errorEntries "file" m)) w) := by
  obtain ⟨x, hbody, hpermanent⟩ := e.writeBody_refused py env.gcm response h
  rw [← henc] at hbody
  obtain ⟨scratch, htry⟩ := tryBlock_refused hfault hanswered hstatus hbody
  have hreported : ∃ m, reportedAs x = some ("file", m) := by
    rcases hpermanent with ⟨m, rfl⟩ | ⟨m, rfl⟩
    · exact ⟨m, rfl⟩
    · exact ⟨_, rfl⟩
  obtain ⟨m, hm⟩ := hreported
  refine ⟨m, ?_, scanTask_reported hhealthy hm htry retries w⟩
  rw [htry]

end Validated

theorem validateEncryption_ok {py : Python} {settings : Settings} {fields : EncryptionFields}
    {e : ScanEncryption settings} (h : validateEncryption py settings fields = .ok e) :
    FieldsFit settings fields ∧ e.key = fields.key := by
  rw [validateEncryption] at h
  split at h
  · rename_i hnil
    cases h
    exact ⟨fieldErrors_eq_nil_iff.1 hnil, rfl⟩
  · cases h

theorem validateEncryption_of_fit (py : Python) {settings : Settings} {fields : EncryptionFields}
    (h : FieldsFit settings fields) : ∃ e, validateEncryption py settings fields = .ok e := by
  rw [validateEncryption, dif_pos (fieldErrors_eq_nil_iff.2 h)]
  exact ⟨_, rfl⟩

/-- What the endpoint accepts, the worker accepts exactly when the key holds 43 characters besides
its padding; no other parameter it has accepted is refused later. -/
theorem accepted_encryption_passes_iff (py : Python) (settings : Settings)
    (fields : EncryptionFields) (e : ScanEncryption settings)
    (h : validateEncryption py settings fields = .ok e) :
    (∃ params, decryptionParams py settings e.modelDump = .ok params) ↔
      fields.key.toList.countP (· ≠ '=') = 43 := by
  rw [e.decryptionParams_ok_iff, decodeFragment_digits_iff e.keyPattern, (validateEncryption_ok h).2]

/-- An encryption object under this key, for a file in one chunk. -/
def oneChunk (key : String) : EncryptionFields where
  key := key
  chunkSize := 4096
  fileId := "f"
  parts := 1

/-- A key of 44 characters without padding is accepted, and is 33 bytes for the worker. -/
theorem long_key_accepted_then_refused :
    ∃ e, validateEncryption asciiPython {}
        (oneChunk "AAAAAAAAAAAAAAAAAAAAAAAAAAAAAAAAAAAAAAAAAAAA") = .ok e ∧
      decryptionParams asciiPython {} e.modelDump =
        .error (.decryptionError "expected a 32-byte key, got 33") := by
  refine ⟨_, rfl, ?_⟩
  rfl

theorem accepted_encryption_passes_padded :
    ∃ e params, validateEncryption asciiPython {}
        (oneChunk "AAAAAAAAAAAAAAAAAAAAAAAAAAAAAAAAAAAAAAAAAAA=") = .ok e ∧
      decryptionParams asciiPython {} e.modelDump = .ok params := by
  obtain ⟨params, hparams⟩ := (accepted_encryption_passes_iff asciiPython {}
    (oneChunk "AAAAAAAAAAAAAAAAAAAAAAAAAAAAAAAAAAAAAAAAAAA=") _ rfl).2 (by decide)
  exact ⟨_, params, rfl, hparams⟩

end FileScanner
