import FileScanner.App.Scan
import FileScanner.RoundTrip
import FileScanner.Selection
import FileScanner.Unavailable

namespace FileScanner
open Collections Fallible Queues Streams
set_option autoImplicit true

/-- What a result has next to the report. -/
def ENVELOPE : List String := ["job_id", "filename", "metadata", "status"]

section Payload
variable {d d' : Dict String Json}

theorem extends_addScalar (h : Dict.Extends ENVELOPE d d') (verdicts : Dict String Json) :
    Dict.Extends ENVELOPE (verdicts.foldl addScalar d) (verdicts.foldl addScalar d') := by
  induction verdicts generalizing d d' with
  | nil => exact h
  | cons e verdicts ih =>
    apply ih
    obtain ⟨category, verdict⟩ := e
    cases verdict with
    | obj entries => exact h.set category (scalar entries)
    | _ => exact h

theorem extends_qualify (h : Dict.Extends ENVELOPE d d') (verdicts : Dict String Json) :
    Dict.Extends ENVELOPE (qualify d verdicts) (qualify d' verdicts) := by
  have hkind : "error_kind" ∉ ENVELOPE := by decide
  have herror : "error" ∉ ENVELOPE := by decide
  simp only [qualify]
  split
  · split
    · split
      · exact (h.setdefault hkind _).setdefault herror _
      · exact h.setdefault hkind _
    · exact h
  · exact h

theorem extends_toV1 (h : Dict.Extends ENVELOPE d d') :
    Dict.Extends ENVELOPE (toV1 d) (toV1 d') := by
  have hout := h.filter_ne "verdicts"
  have hsame : getKey d' "verdicts" = getKey d "verdicts" := by
    rcases h "verdicts" with hsame | ⟨hmem, -⟩
    · rw [getKey, hsame, getKey]
    · exact absurd hmem (by decide)
  rw [toV1, toV1, hsame]
  cases getKey d "verdicts" with
  | obj verdicts => exact extends_qualify (extends_addScalar hout verdicts) verdicts
  | _ => exact hout

/-- What two payloads have in common, they have in common in every version. -/
theorem extends_serialize (h : Dict.Extends ENVELOPE d d') (version : String) :
    Dict.Extends ENVELOPE (serialize d version) (serialize d' version) := by
  rw [serialize, serialize]
  split
  · exact (extends_toV1 h).set "api_version" _
  · exact h.set "api_version" _

/-- A result that is delivered has the entries of its report, and those of its job. -/
theorem extends_deliveredResult (msg : ScanMessage) (report : ScanReport) :
    Dict.Extends ENVELOPE report.asDict (deliveredResult msg report false) := by
  have hresult : deliveredResult msg report false =
      msg.result ++ report.asDict ++ [("status", .str DONE)] := rfl
  intro k
  by_cases hk : k ∈ ENVELOPE
  · refine .inr ⟨hk, List.lookup_eq_none_iff.2 ?_⟩
    intro e he
    have hkeys : ∀ name ∈ ["verdicts", "scanners"], name ∉ ENVELOPE := by decide
    have hmem : e.1 ∈ ["verdicts", "scanners"] := List.mem_map_of_mem he
    exact bne_iff_ne.2 fun heq => hkeys e.1 hmem (heq ▸ hk)
  · have habsent (job : Dict String Json) (hjob : ∀ e ∈ job, e.1 ∈ ENVELOPE) :
        job.lookup k = none := by
      rw [List.lookup_eq_none_iff]
      exact fun e he => bne_iff_ne.2 fun heq => hk (heq ▸ hjob e he)
    rw [hresult, List.lookup_append, List.lookup_append, habsent msg.result, habsent [_],
      Option.none_or, Option.or_none]
    · exact .inl rfl
    · exact List.forall_mem_singleton.2 (by decide)
    · intro e he
      have hkeys : ∀ name ∈ ["job_id", "filename", "metadata"], name ∈ ENVELOPE := by decide
      exact hkeys e.1 (List.mem_map_of_mem he)

end Payload

/-- A response brings this file: as it is, or as its owner has encrypted it. -/
inductive Brings (py : Python) (gcm : AesGcm) (settings : Settings) (data : Bytes) (enc : Json)
    (response : Response) : Prop where
  | plain : enc = .null → response.body.bytes = data → response.body.ending = none →
      (∀ chunk ∈ response.body.chunks, chunk.elapsed ≤ settings.downloadMaxSeconds) →
      checkDeclared py settings.maxUrlSize response.contentLength = .ok () →
      Brings py gcm settings data enc response
  | encrypted (u : Upload settings) : enc = u.enc → u.plain = data → Undoes gcm u.key →
      Serves py gcm u response → Brings py gcm settings data enc response

/-- The names a request resolves to are those of engines that can be built. -/
theorem resolved_built {py : Python} {settings : Settings} {registry : Registry}
    {categories scanners names : List String}
    (h : resolveScanners py settings registry categories scanners = .ok names) :
    names ≠ [] ∧ ∀ n ∈ names, ∃ scanner, getScanner registry n = .ok scanner := by
  obtain ⟨catMap, -, h⟩ := bind_eq_ok.1 h
  obtain ⟨expanded, -, h⟩ := bind_eq_ok.1 h
  dsimp only at h
  split at h
  · cases h
  · split at h
    · cases h
    · rename_i hne
      have hall := mapM_ok_forall₂ h
      constructor
      · intro hnil
        have hlength := hall.length_eq
        rw [hnil] at hlength
        exact hne (List.isEmpty_iff.2 (List.length_eq_zero_iff.1 hlength))
      · intro n hn
        obtain ⟨name, -, hname⟩ := forall₂_exists_left hall hn
        cases name with
        | str s =>
          obtain ⟨rfl, hbuilt⟩ := checkAvailable_inv hname
          exact hbuilt
        | _ => cases hname

section Agreement
variable {py : Python} {settings : Settings} {env : Env} {msg : ScanMessage} {data : Bytes}
  {response : Response}

theorem Brings.writeBody {gcm : AesGcm} {enc : Json}
    (h : Brings py gcm settings data enc response) (hfits : data.length ≤ settings.maxUrlSize) :
    writeBody py gcm settings enc response = .ok data := by
  cases h with
  | plain henc hbytes hending htimes hdeclared =>
    rw [henc, writeBody_plain_ok_iff, hbytes]
    exact ⟨hdeclared, htimes, hfits, hending, rfl⟩
  | encrypted u henc hplain hgcm hserves =>
    rw [← hplain] at hfits ⊢
    have hguard : sizeGuard py settings u.enc response = .ok () := by
      rw [sizeGuard, u.wireCap_enc py, ok_bind]
      exact checkDeclared_fit hserves (u.length_wire_le hgcm hfits)
    obtain ⟨cap, -, hwriter⟩ := decryptWriter_enc py gcm u
    have hbody : bodyWriter py gcm settings u.enc = .ok (decryptStream gcm settings u.params cap) :=
      hwriter
    have hwritten := writeDecrypted_fit hgcm hserves hfits
    rw [writeDecrypted, hwriter, ok_bind] at hwritten
    rw [henc, FileScanner.writeBody, hguard, ok_bind, hbody, ok_bind, hwritten]
    rfl

/-- Both endpoints run the named engines on the file. -/
theorem report_of_downloaded (hfault : ∀ step, env.fault step = none)
    (hopens : ∀ name, env.openFails name = none)
    (hanswered : Answered py settings env msg response) (hstatus : ¬ response.Failed)
    (hbrings : Brings py env.gcm settings data msg.encryptionParams response)
    (hfits : data.length ≤ settings.maxUrlSize) :
    (tryBlock py settings env msg).outcome =
      runScanners settings ⟨env.registry, fun _ => .ok data, env.elapsed⟩ msg.scanners := by
  have hopen : (fun name => (env.scanEnv data).openFile name) = fun _ => .ok data := by
    funext name
    simp only [Env.scanEnv, hopens]
  rw [tryBlock_accepted hfault hanswered hstatus (hbrings.writeBody hfits)]
  exact congrArg (fun openFile => runScanners settings ⟨env.registry, openFile, env.elapsed⟩
    msg.scanners) hopen

/-- What an attempt hands over, by its report. -/
theorem handedBy_report (hhealthy : env.Healthy) {report : ScanReport}
    (hout : (tryBlock py settings env msg).outcome = .ok report) (retries : Option Nat) :
    handedBy settings env msg py retries =
      if report.allErrored then
        if retriesExhausted retries then some (deliveredResult msg report true) else none
      else some (deliveredResult msg report false) := by
  rw [handedBy, handed, hout]
  dsimp only
  rw [removal_healthy hhealthy]
  rfl

theorem ending_of_handed (hhealthy : env.Healthy) {retries : Option Nat}
    {result : Dict String Json} (h : handedBy settings env msg py retries = some result) :
    endingOf settings env msg py retries = .ok () := by
  rw [handedBy] at h
  rw [endingOf, ending, removal_healthy hhealthy, h]
  exact enqueued_healthy hhealthy

end Agreement

/-- How the answers of the two endpoints to one file correspond. -/
inductive Corresponds (settings : Settings) (env : Env) (msg : ScanMessage) (py : Python)
    (retries : Option Nat) : Except Failure (Dict String Json) → Prop where
  | answered (payload result : Dict String Json) :
      handedBy settings env msg py retries = some result →
      endingOf settings env msg py retries = .ok () →
      Dict.Extends ENVELOPE payload (serialize result msg.wireVersion) →
      Corresponds settings env msg py retries (.ok payload)
  | retried (e : Exc) : retriesExhausted retries = false →
      handedBy settings env msg py retries = none →
      endingOf settings env msg py retries = .error e →
      Corresponds settings env msg py retries (.error (.http 503 "scan temporarily unavailable"))
  | unavailable (result : Dict String Json) : retriesExhausted retries = true →
      handedBy settings env msg py retries = some result →
      result.lookup "status" = some (.str ERROR) →
      result.lookup "error_kind" = some (.str "transient") →
      Corresponds settings env msg py retries (.error (.http 503 "scan temporarily unavailable"))

/-- A file is judged the same whether it is uploaded or fetched, as it is or encrypted: where the
one endpoint answers, the callback has that very answer, next to the entries of the job; where it
calls the scan unavailable, the attempt is retried, and in the end the job fails as transient. -/
theorem download_answers_as_upload (py : Python) (settings : Settings) (env : Env)
    (msg : ScanMessage) (retries : Option Nat) (response : Response) (data : Bytes)
    (path : String) (categories scanners : Option String)
    (hhealthy : env.Healthy) (hfault : ∀ step, env.fault step = none)
    (hopens : ∀ name, env.openFails name = none)
    (hanswered : Answered py settings env msg response) (hstatus : ¬ response.Failed)
    (hbrings : Brings py env.gcm settings data msg.encryptionParams response)
    (hfits : data.length ≤ settings.maxUrlSize) (hsize : data.length ≤ settings.maxUploadSize)
    (hnames : resolve py settings env.registry (splitParam categories) (splitParam scanners) =
      .ok msg.scanners)
    (hcap : assertSizeCapDecidable settings msg.scanners settings.maxUploadSize
      "MAX_UPLOAD_SIZE" = .ok ())
    (hversion : msg.wireVersion = ofPath path) :
    Corresponds settings env msg py retries
      (scan py settings env.registry env.elapsed path categories scanners data) := by
  have hout := report_of_downloaded hfault hopens hanswered hstatus hbrings hfits
  have hreport : ∃ report, runScanners settings ⟨env.registry, fun _ => .ok data, env.elapsed⟩
      msg.scanners = .ok report := by
    cases hresolved : resolveScanners py settings env.registry (splitParam categories)
        (splitParam scanners) with
    | error e =>
      rw [resolve, hresolved] at hnames
      cases hnames
    | ok names =>
      rw [resolve, hresolved] at hnames
      cases hnames
      obtain ⟨hne, hbuilt⟩ := resolved_built hresolved
      exact exists_report settings _ hne hbuilt
  obtain ⟨report, hreport⟩ := hreport
  rw [hreport] at hout
  have hscan : scan py settings env.registry env.elapsed path categories scanners data =
      answer report path := by
    rw [scan, hnames, ok_bind, raiseIf_neg (Nat.not_lt.2 hsize), hcap, hreport]
    rfl
  have hhanded := handedBy_report hhealthy hout retries
  rw [hscan, answer]
  cases hall : report.allErrored with
  | false =>
    rw [hall, if_neg Bool.false_ne_true] at hhanded
    refine .answered _ _ hhanded (ending_of_handed hhealthy hhanded) ?_
    rw [hversion]
    exact extends_serialize (extends_deliveredResult msg report) _
  | true =>
    rw [hall, if_pos rfl] at hhanded
    cases hretries : retriesExhausted retries with
    | false =>
      rw [hretries, if_neg Bool.false_ne_true] at hhanded
      refine .retried (abandonedWith (tryBlock py settings env msg)) hretries hhanded ?_
      rw [handedBy] at hhanded
      rw [endingOf, ending, removal_healthy hhealthy, hhanded]
    | true =>
      rw [hretries, if_pos rfl] at hhanded
      exact .unavailable _ hretries hhanded rfl rfl

def clamavPython : Python :=
  { publicPython with loads := fun _ => .ok (.obj [("malware", .list [.str "clamav"])]) }

def abcUpload (cap : Nat) : Upload { maxUrlSize := cap } :=
  { pageUpload cap with
    plain := abc
    ivs := fun _ => zeroIv
    length_ivs := fun _ => rfl }

def abcResponse : Response where
  statusCode := 200
  reason := "OK"
  url := "https://example.com/f"
  location := none
  contentLength := some "31"
  body := abcBody

theorem serves_abcResponse (cap : Nat) :
    Serves publicPython aesGcm (abcUpload cap) abcResponse := by
  have hone : (abcUpload cap).wire aesGcm = zeroIv ++ abcSealed := by
    have hslices : slices 4096 abc = [abc] := by
      rw [slices, blocks_short (by decide)]
      rfl
    have hparts : (abcUpload cap).parts = 1 :=
      (by decide : (abc.length + 4096 - 1) / 4096 = 1)
    have hblob : (abcUpload cap).blob aesGcm 0 abc = zeroIv ++ abcSealed := by
      rw [Upload.blob, hparts]
      exact congrArg (zeroIv ++ ·) encrypt_abc
    have hblobs : (abcUpload cap).blobs aesGcm =
        (slices 4096 abc).mapIdx ((abcUpload cap).blob aesGcm) := rfl
    rw [Upload.wire, hblobs, hslices, List.mapIdx_cons, hblob]
    rfl
  have htimes : ∀ chunk ∈ abcBody.chunks, chunk.elapsed ≤ ((300 : Nat) : Rat) := by decide
  refine ⟨hone.symm, rfl, htimes, .inr ⟨"31", rfl, ?_⟩⟩
  rw [hone]
  decide

/-- A worker that fetches an encrypted file, and the job it does it for. -/
def abcWorker : Env := { answering abcResponse with gcm := aesGcm }

def abcJob : ScanMessage :=
  { plainJob with
    scanners := ["clamav"]
    encryptionParams := (abcUpload (2 ^ 31 - 3)).enc
    wireVersion := V1 }

theorem download_answers_as_upload_abc :
    ∃ payload result,
      scan clamavPython {} abcWorker.registry (fun _ => 0) "/api/v1.0/scan" none (some "clamav") abc =
        .ok payload ∧
      handedBy {} abcWorker abcJob clamavPython (some 0) = some result ∧
      Dict.Extends ENVELOPE payload (serialize result V1) := by
  have hserves := serves_abcResponse (2 ^ 31 - 3)
  have hbrings : Brings clamavPython aesGcm {} abc abcJob.encryptionParams abcResponse :=
    .encrypted (abcUpload (2 ^ 31 - 3)) rfl rfl (undoes_aesGcm _)
      ⟨hserves.bytes, hserves.ending, hserves.inTime, hserves.declared⟩
  have hagree := download_answers_as_upload clamavPython {} abcWorker abcJob (some 0) abcResponse
    abc "/api/v1.0/scan" none (some "clamav") ⟨rfl, rfl, rfl⟩ (fun _ => rfl) (fun _ => rfl)
    ⟨rfl, rfl⟩ (fun h => absurd h.1 (by decide)) hbrings (by decide) (by decide) rfl rfl rfl
  have hscan : ∃ payload, scan clamavPython {} abcWorker.registry (fun _ => 0) "/api/v1.0/scan" none
      (some "clamav") abc = .ok payload := ⟨_, rfl⟩
  obtain ⟨payload, hpayload⟩ := hscan
  rw [show abcWorker.elapsed = fun _ => 0 from rfl, hpayload] at hagree
  cases hagree with
  | answered _ result hhanded _ hextends => exact ⟨payload, result, hpayload, hhanded, hextends⟩

end FileScanner
