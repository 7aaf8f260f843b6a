import FileScanner.Decryption
import FileScanner.Tasks

namespace FileScanner
open Collections Fallible Streams
set_option autoImplicit true

def IsFileError (e : Exc) : Prop := ∃ m, e = .fileError m

def ReportedAtOnce (e : Exc) : Prop := reportedAs e ≠ none

/-- A class of failures that takes those of the file and of its decryption. -/
structure FileFailures (P : Exc → Prop) : Prop where
  file : ∀ m, P (.fileError m)
  decryption : ∀ m, P (.decryptionError m)

theorem FileFailures.of_isFileError {P : Exc → Prop} (h : FileFailures P) {e : Exc}
    (he : IsFileError e) : P e := by
  obtain ⟨m, rfl⟩ := he
  exact h.file m

theorem fileFailures_reportedAtOnce : FileFailures ReportedAtOnce :=
  ⟨fun _ => Option.some_ne_none _, fun _ => Option.some_ne_none _⟩

theorem reportedAtOnce_requestException (m : String) : ReportedAtOnce (.requestException m) :=
  Option.some_ne_none _

section Budgets
variable {py : Python} {settings : Settings} {cap : Nat}

theorem account_raises (read : Nat) (chunk : Chunk) :
    RaisesOnly IsFileError (account settings cap read chunk) := by
  apply RaisesOnly.bind
  · exact (RaisesOnly.raiseIf ⟨_, rfl⟩).bind (fun _ _ => .raiseIf ⟨_, rfl⟩)
  · intro _ _
    exact .ok _

theorem writeChunk_raises (state : Nat × Bytes) (chunk : Chunk) :
    RaisesOnly IsFileError (writeChunk settings state chunk) :=
  (account_raises state.1 chunk).bind (fun _ _ => .ok _)

theorem writePlain_raises (file plain : Bytes) :
    RaisesOnly IsFileError (writePlain settings file plain) :=
  (RaisesOnly.raiseIf ⟨_, rfl⟩).bind (fun _ _ => .ok _)

theorem checkDeclared_raises (header : Option String) :
    RaisesOnly IsFileError (checkDeclared py cap header) := by
  rw [checkDeclared]
  cases declaredLength py header with
  | none => exact .ok _
  | some declared => exact .raiseIf ⟨_, rfl⟩

end Budgets

section Transfer
variable {P : Exc → Prop} {settings : Settings} {body : Body}

theorem decryptChunk_raises (hP : FileFailures P) (gcm : AesGcm) (key : Key) (blob : Bytes)
    (fileId : String) (partNumber parts : Nat) :
    RaisesOnly P (decryptChunk gcm key blob fileId partNumber parts) := by
  rw [decryptChunk]
  split
  · exact .error (hP.decryption _)
  · split
    · exact .ok _
    · exact .error (hP.decryption _)

theorem decryptBlock_raises (hP : FileFailures P) (gcm : AesGcm)
    (params : DecryptionParams settings) (state : Nat × Bytes) (blob : Bytes) :
    RaisesOnly P (decryptBlock gcm settings params state blob) := by
  apply RaisesOnly.bind
  · exact decryptChunk_raises hP gcm params.key blob params.fileId _ _
  · intro plain _
    apply RaisesOnly.bind
    · intro e he
      exact hP.of_isFileError (writePlain_raises state.2 plain e he)
    · intro _ _
      exact .ok _

theorem writePlaintext_raises (hP : FileFailures P) (hend : ∀ e, body.ending = some e → P e) :
    RaisesOnly P (writePlaintext settings body) := by
  have hfinish : RaisesOnly P body.finish := by
    rw [Body.finish]
    cases hending : body.ending with
    | none => exact .ok _
    | some e => exact .error (hend e hending)
  apply RaisesOnly.bind
  · intro e he
    exact hP.of_isFileError (RaisesOnly.foldlM writeChunk_raises _ _ e he)
  · intro _ _
    exact hfinish.bind (fun _ _ => .ok _)

theorem decryptStream_raises (hP : FileFailures P) {gcm : AesGcm}
    {params : DecryptionParams settings} {cap : Nat} (hend : ∀ e, body.ending = some e → P e) :
    RaisesOnly P (decryptStream gcm settings params cap body) := by
  intro e he
  rcases decryptStream_error he with haccount | hending | hslices | ⟨-, -, m, -, -, rfl⟩
  · exact hP.of_isFileError (RaisesOnly.foldlM account_raises _ _ e haccount)
  · exact hend e hending
  · exact RaisesOnly.foldlM (decryptBlock_raises hP gcm params) _ _ e hslices
  · exact hP.decryption m

theorem checkRanges_raises (hdecryption : ∀ m, P (.decryptionError m)) (settings : Settings)
    (key : Key) (fileId : String) (chunkSize parts : Int) :
    RaisesOnly P (checkRanges settings key fileId chunkSize parts) := by
  rw [checkRanges]
  split
  · exact (RaisesOnly.raiseIf (hdecryption _)).bind (fun _ _ => .ok _)
  · exact .error (hdecryption _)

end Transfer

theorem base64Decode_raises (text : List Char) (quad left pads : Nat) (out : Bytes) :
    RaisesOnly (fun e => ∃ m, e = .valueError m) (base64Decode text quad left pads out) := by
  fun_induction base64Decode text quad left pads out <;>
    first | exact .ok _ | exact .error ⟨_, rfl⟩ | assumption

theorem decodeFragment_raises {P : Exc → Prop} (hdecryption : ∀ m, P (.decryptionError m))
    (hvalue : ∀ m, P (.valueError m)) (fragment : String) :
    RaisesOnly P (decodeFragment fragment) := by
  rw [decodeFragment]
  split
  · exact .error (hdecryption _)
  · apply RaisesOnly.bind
    · intro e he
      obtain ⟨m, rfl⟩ := base64Decode_raises _ _ _ _ _ e he
      exact hvalue m
    · intro raw _
      split
      · exact .ok _
      · exact .error (hdecryption _)

/-- The parameters a message carries: none, or what the endpoint has dumped. -/
def Dumped (enc : Json) : Prop :=
  enc = .null ∨ ∃ fragment fileId chunkSize parts,
    enc = encryptionDump fragment fileId chunkSize parts

theorem decryptionParams_raises {P : Exc → Prop} (hdecryption : ∀ m, P (.decryptionError m))
    (py : Python) (settings : Settings) (fragment fileId : String) (chunkSize parts : Nat) :
    RaisesOnly P
      (decryptionParams py settings (encryptionDump fragment fileId chunkSize parts)) := by
  have hscheme : checkScheme py (encryptionDump fragment fileId chunkSize parts) = .ok () := rfl
  rw [decryptionParams, hscheme, ok_bind]
  have hread : RaisesOnly (fun e => P (invalidParams e))
      (readParams py (encryptionDump fragment fileId chunkSize parts)) :=
    (decodeFragment_raises (P := fun e => P (invalidParams e)) hdecryption
      (fun _ => hdecryption _) fragment).bind (fun _ _ => .ok _)
  apply RaisesOnly.bind
  · exact hread.mapError (fun _ h => h)
  · intro read _
    exact checkRanges_raises hdecryption settings _ _ _ _

theorem wireCap_dumped (py : Python) (settings : Settings) {enc : Json} (h : Dumped enc) :
    ∃ cap, wireCap py settings enc = .ok cap := by
  rcases h with rfl | ⟨fragment, fileId, chunkSize, parts, rfl⟩
  · exact ⟨_, rfl⟩
  · exact ⟨_, wireCap_of_int rfl⟩

theorem sizeGuard_raises (py : Python) (settings : Settings) {enc : Json} (h : Dumped enc)
    (response : Response) : RaisesOnly IsFileError (sizeGuard py settings enc response) := by
  obtain ⟨cap, hcap⟩ := wireCap_dumped py settings h
  rw [sizeGuard, hcap]
  exact checkDeclared_raises response.contentLength

theorem bodyWriter_raises (py : Python) (gcm : AesGcm) (settings : Settings) {enc : Json}
    (h : Dumped enc) {body : Body} (hend : ∀ e, body.ending = some e → ReportedAtOnce e) :
    RaisesOnly ReportedAtOnce (bodyWriter py gcm settings enc >>= fun write => write body) := by
  rcases h with rfl | ⟨fragment, fileId, chunkSize, parts, rfl⟩
  · exact writePlaintext_raises fileFailures_reportedAtOnce hend
  · have hwriter : bodyWriter py gcm settings (encryptionDump fragment fileId chunkSize parts) =
        decryptWriter py gcm settings (encryptionDump fragment fileId chunkSize parts) := rfl
    rw [hwriter]
    apply RaisesOnly.bind
    · apply (decryptionParams_raises fileFailures_reportedAtOnce.decryption py settings fragment
        fileId chunkSize parts).bind
      intro _ _
      obtain ⟨cap, hcap⟩ :=
        wireCap_dumped py settings (.inr ⟨fragment, fileId, chunkSize, parts, rfl⟩)
      rw [hcap]
      exact .ok _
    · intro write hwrite
      obtain ⟨params, -, hwrite⟩ := bind_eq_ok.1 hwrite
      obtain ⟨cap, -, hwrite⟩ := bind_eq_ok.1 hwrite
      cases hwrite
      exact decryptStream_raises fileFailures_reportedAtOnce hend

end FileScanner
