import FileScanner.Custody
import FileScanner.DownloadStatus
import FileScanner.FailClosed
import FileScanner.NameResolution
import FileScanner.StoredState
import FileScanner.Unavailable

namespace FileScanner
open Collections Fallible Queues
set_option autoImplicit true

/-- A payload tells its reader that the file is of this kind, in the verdict of the malware axis
or in the scalar that the first version has for it. -/
def Says (kind : Kind) (payload : Dict String Json) : Prop :=
  (∃ verdict, (verdictsOf payload).lookup "malware" = some (.obj verdict) ∧
      getKey verdict "kind" = .str kind.word) ∨
    payload.lookup "malware" = some (scalarOfKind kind)

section Payload
variable {report : ScanReport}

theorem ScanReport.MalwareOnly.only (h : report.MalwareOnly) {c : String} {v : CategoryVerdict}
    (hv : report.verdicts.lookup c = some v) : c = "malware" := by
  rw [report.lookup_verdicts] at hv
  split at hv
  · rename_i hc
    obtain ⟨r, hr, hrc⟩ := List.mem_map.1 hc
    rw [← hrc]
    exact h.category r hr
  · cases hv

theorem ScanReport.MalwareOnly.not_overwrites (h : report.MalwareOnly)
    {payload : Dict String Json} (hfree : payload.lookup "malware" = none) :
    ¬ Overwrites payload (some report) := by
  intro hover
  obtain ⟨c, v, old, hv, hold, -⟩ := hover
  rw [h.only hv, hfree] at hold
  cases hold

theorem verdictsOf_of_absent {payload : Dict String Json} (h : payload.lookup "verdicts" = none) :
    verdictsOf payload = [] := by
  rw [verdictsOf, getKey, h]
  rfl

/-- Where a payload with the verdicts of a report has its answer on the malware axis. -/
theorem serialize_axis (h : report.MalwareOnly) {payload : Dict String Json}
    (hp : Carries payload (some report)) (hfree : payload.lookup "malware" = none)
    (version : String) :
    let out := serialize payload version
    ((verdictsOf out).lookup "malware" =
          some (.obj (discreteVerdict report.results).asDict) ∧ out.lookup "malware" = none) ∨
      (verdictsOf out = [] ∧
        out.lookup "malware" = some (scalarOfKind (documentedKind report.results))) := by
  dsimp only
  by_cases hversion : version = V1
  · right
    rw [serialize, if_pos hversion]
    constructor
    · apply verdictsOf_of_absent
      rw [Dict.lookup_set_ne _ (by decide)]
      exact toV1_drops hp (h.not_overwrites hfree)
    · rw [Dict.lookup_set_ne _ (by decide), ScanReport.lookup_toV1 hp h.verdict,
        scalar_unscored (discreteVerdict_score _), discreteVerdict_kind]
  · left
    rw [serialize, if_neg hversion]
    constructor
    · have hout : (payload.set "api_version" (.str version)).lookup "verdicts" =
          report.asDict.lookup "verdicts" := by
        rw [Dict.lookup_set_ne _ (by decide)]
        exact hp
      rw [verdictsOf_of_lookup hout, report.lookup_wire, h.verdict, Option.map_some]
    · rw [Dict.lookup_set_ne _ (by decide), hfree]

theorem kind_of_word {a b : Kind} (h : a.word = b.word) : a = b := by
  cases a <;> cases b <;> first | rfl | exact absurd h (by decide)

theorem says_clean (h : report.MalwareOnly) {payload : Dict String Json}
    (hp : Carries payload (some report)) (hfree : payload.lookup "malware" = none)
    {version : String} (hsaid : Says .clean (serialize payload version)) :
    documentedKind report.results = .clean := by
  rcases serialize_axis h hp hfree version with ⟨hverdicts, hnone⟩ | ⟨hverdicts, hscalar⟩
  · rcases hsaid with ⟨verdict, hv, hk⟩ | hv
    · rw [hverdicts, Option.some.injEq] at hv
      cases hv
      rw [getKey_kind_asDict, discreteVerdict_kind] at hk
      exact kind_of_word (Json.str.inj hk)
    · rw [hnone] at hv
      cases hv
  · rcases hsaid with ⟨verdict, hv, -⟩ | hv
    · rw [hverdicts] at hv
      cases hv
    · rw [hscalar, Option.some.injEq] at hv
      cases hk : documentedKind report.results with
      | clean => rfl
      | _ =>
        rw [hk] at hv
        cases hv

theorem says_kind (h : report.MalwareOnly) {payload : Dict String Json}
    (hp : Carries payload (some report)) (hfree : payload.lookup "malware" = none)
    (version : String) : Says (documentedKind report.results) (serialize payload version) := by
  rcases serialize_axis h hp hfree version with ⟨hverdicts, -⟩ | ⟨-, hscalar⟩
  · left
    refine ⟨_, hverdicts, ?_⟩
    rw [getKey_kind_asDict, discreteVerdict_kind]
  · exact .inr hscalar

theorem says_nothing {payload : Dict String Json} (hverdicts : payload.lookup "verdicts" = none)
    (hfree : payload.lookup "malware" = none) (kind : Kind) (version : String) :
    ¬ Says kind (serialize payload version) := by
  have hout : ∀ key, key ≠ "api_version" → payload.lookup key = none →
      (serialize payload version).lookup key = none := by
    intro key hkey hnone
    rw [serialize, Dict.lookup_set_ne _ hkey]
    split
    · rw [toV1_of_absent hverdicts]
      by_cases hv : key = "verdicts"
      · rw [hv]
        exact Dict.lookup_filter_self payload "verdicts"
      · rw [Dict.lookup_filter_ne payload hv, hnone]
    · exact hnone
  rintro (⟨verdict, hv, -⟩ | hv)
  · rw [verdictsOf_of_absent (hout _ (by decide) hverdicts)] at hv
    cases hv
  · rw [hout _ (by decide) hfree] at hv
    cases hv

end Payload

/-- What an attempt found out about a file, with the engines that its worker has: the file came
whole from the source and was scanned, every deciding engine cleared it, and no engine that could
read it detected anything. -/
structure Examined (py : Python) (settings : Settings) (env : Env) (engines : Engines)
    (msg : ScanMessage) (file : Bytes) : Prop where
  shipped : env.registry = BUILDERS py settings engines
  source : ∃ response, Answered py settings env msg response ∧ ¬ response.Failed ∧
    writeBody py env.gcm settings msg.encryptionParams response = .ok file
  scanned : (tryBlock py settings env msg).scanned = [file]
  cleared : ∀ n ∈ decidingScanners settings msg.scanners, AllClear py settings engines n file
  undetected : ∀ n ∈ msg.scanners, env.openFails n = none →
    ¬ Detects py settings engines n file

section Attempt
variable {py : Python} {settings : Settings} {env : Env} {engines : Engines} {msg : ScanMessage}

theorem tryBlock_ok {report : ScanReport}
    (h : (tryBlock py settings env msg).outcome = .ok report) :
    ∃ response file, fetch py settings env msg = .ok response ∧
      writeBody py env.gcm settings msg.encryptionParams response = .ok file ∧
      (tryBlock py settings env msg).scanned = [file] ∧
      runScanners settings (env.scanEnv file) msg.scanners = .ok report := by
  rcases tryBlock_cases py settings env msg with
    ⟨e, scratch, he⟩ | ⟨response, file, hfetch, hbody, he⟩
  · rw [he] at h
    cases h
  · rw [he] at h ⊢
    exact ⟨response, file, hfetch, hbody, rfl, h⟩

theorem scanEnv_shipped (henv : env.registry = BUILDERS py settings engines) (file : Bytes) :
    env.scanEnv file =
      ⟨BUILDERS py settings engines, (env.scanEnv file).openFile, env.elapsed⟩ := by
  rw [← henv]
  rfl

theorem openFile_scanEnv {file data : Bytes} {name : String}
    (h : (env.scanEnv file).openFile name = .ok data) : data = file := by
  rw [Env.scanEnv] at h
  dsimp only at h
  split at h
  · cases h
  · exact (Except.ok.inj h).symm

theorem openFile_of_opens {file : Bytes} {name : String} (h : env.openFails name = none) :
    (env.scanEnv file).openFile name = .ok file := by
  rw [Env.scanEnv]
  dsimp only
  rw [h]

theorem examined_of_clean (henv : env.registry = BUILDERS py settings engines)
    {report : ScanReport} (hout : (tryBlock py settings env msg).outcome = .ok report)
    (hclean : documentedKind report.results = .clean) :
    ∃ file, Examined py settings env engines msg file := by
  obtain ⟨response, file, hfetch, hbody, hscanned, hrun⟩ := tryBlock_ok hout
  obtain ⟨hanswered, hstatus⟩ := answered_of_fetch hfetch
  rw [scanEnv_shipped henv] at hrun
  refine ⟨file, henv, ⟨response, hanswered, hstatus, hbody⟩, hscanned, fun n hn => ?_,
    fun n hn hopens hdet => ?_⟩
  · obtain ⟨data, ho, hall⟩ := cleared_of_documentedKind hrun hclean hn
    rwa [openFile_scanEnv ho] at hall
  · obtain ⟨r, hr, hk⟩ :=
      exists_malware_of_reported hrun hn ⟨file, openFile_of_opens hopens, hdet⟩
    rw [documentedKind_malware hr hk] at hclean
    cases hclean

theorem malwareOnly_of_attempt (henv : env.registry = BUILDERS py settings engines)
    {report : ScanReport} (hout : (tryBlock py settings env msg).outcome = .ok report) :
    report.MalwareOnly := by
  obtain ⟨response, file, -, -, -, hrun⟩ := tryBlock_ok hout
  rw [scanEnv_shipped henv] at hrun
  exact malwareOnly_of_shipped hrun

theorem carries_deliveredResult (msg : ScanMessage) (report : ScanReport) (transient : Bool) :
    Carries (deliveredResult msg report transient) (some report) :=
  (lookup_deliveredResult msg report transient).1

theorem deliveredResult_free (msg : ScanMessage) (report : ScanReport) (transient : Bool) :
    (deliveredResult msg report transient).lookup "malware" = none := by
  cases transient <;> rfl

/-- An attempt hands over a result that reads as clean only for a file it has examined. -/
theorem examined_of_handed (henv : env.registry = BUILDERS py settings engines)
    {retries : Option Nat} {result : Dict String Json}
    (h : handedBy settings env msg py retries = some result) {version : String}
    (hsaid : Says .clean (serialize result version)) :
    ∃ file, Examined py settings env engines msg file := by
  rcases handed_cases h with ⟨e, message, -, rfl⟩ | ⟨report, hout, rfl⟩
  · exact absurd hsaid (says_nothing rfl rfl .clean version)
  · have hmal := malwareOnly_of_attempt henv hout
    exact examined_of_clean henv hout
      (says_clean hmal (carries_deliveredResult msg report _) (deliveredResult_free msg report _)
        hsaid)

end Attempt

def JobOp.Shipped (py : Python) (settings : Settings) : JobOp → Prop
  | .enqueue => True
  | .seed _ => True
  | .attempt env => ∃ engines, env.registry = BUILDERS py settings engines

/-- Whatever the engines do, a worker runs the backends that ship with the service. -/
def ServiceEvent.Shipped (py : Python) (settings : Settings) : ServiceEvent → Prop
  | .submit .. => True
  | .job _ op => op.Shipped py settings
  | .expire _ => True
  | .poll .. => True

def PipelineEvent.served : PipelineEvent → Option ServiceEvent
  | .serve e => some e
  | .deliver .. => none

/-- The events of the service among those of the pipeline. -/
def served (history : List PipelineEvent) : List ServiceEvent :=
  history.filterMap PipelineEvent.served

/-- An attempt that is due on the job of this id, with the engines of its worker: it examined the
file, and handed over what reads, in some version, as this payload. -/
structure Earns (py : Python) (settings : Settings) (p : Pipeline) (id : String) (env : Env)
    (msg : ScanMessage) (payload : Dict String Json) : Prop where
  due : ∃ job retries result version, p.service.jobs.lookup id = some job ∧ job.msg = msg ∧
    job.queued = some retries ∧ handedBy settings env msg py (some retries) = some result ∧
    payload = serialize result version
  examined : ∃ engines file, Examined py settings env engines msg file

/-- An attempt of the history earned this payload. -/
def Earned (py : Python) (settings : Settings) (history : List PipelineEvent) (id : String)
    (msg : ScanMessage) (payload : Dict String Json) : Prop :=
  ∃ pre env post, history = pre ++ .serve (.job id (.attempt env)) :: post ∧
    Earns py settings (pipeline py settings pre) id env msg payload

/-- A callback carries, in some version, a result that was written for its job. -/
def Callback.Grounded (py : Python) (settings : Settings) (events : List ServiceEvent)
    (c : Callback) : Prop :=
  ∃ result version, Written py settings events c.origin result ∧
    c.payload = serialize result version

section History
variable {py : Python} {settings : Settings} {history : List PipelineEvent}

theorem served_concat (e : PipelineEvent) :
    served (history ++ [e]) = served history ++ e.served.toList := by
  rw [served, List.filterMap_append, served]
  cases e <;> rfl

theorem pipeline_service :
    (pipeline py settings history).service = serve py settings (served history) := by
  induction history using List.reverseRecOn with
  | nil => rfl
  | append_singleton history e ih =>
    rw [pipeline_concat, served_concat]
    cases e with
    | deliver i env =>
      rw [PipelineEvent.served, Option.toList_none, List.append_nil]
      exact ih
    | serve e =>
      rw [PipelineEvent.served, Option.toList_some, serve_concat, ← ih]
      rfl

/-- Where an event of the service stands in the history of the pipeline. -/
theorem served_split {pre : List ServiceEvent} {e : ServiceEvent} {post : List ServiceEvent}
    (h : served history = pre ++ e :: post) :
    ∃ before after, history = before ++ .serve e :: after ∧ served before = pre := by
  rw [served, List.filterMap_eq_append_iff] at h
  obtain ⟨left, right, rfl, hleft, hright⟩ := h
  obtain ⟨skipped, e', rest, rfl, hskipped, he', -⟩ := List.filterMap_eq_cons_iff.1 hright
  cases e' with
  | deliver i env => cases he'
  | serve e' =>
    cases he'
    refine ⟨left ++ skipped, rest, (List.append_assoc _ _ _).symm, ?_⟩
    rw [served, List.filterMap_append, List.filterMap_eq_nil_iff.2 hskipped, List.append_nil, hleft]

theorem mem_served {e : ServiceEvent} (h : e ∈ served history) : .serve e ∈ history := by
  obtain ⟨e', he', hserved⟩ := List.mem_filterMap.1 h
  cases e' with
  | deliver i env => cases hserved
  | serve e' =>
    cases hserved
    exact he'

theorem Callback.Grounded.attempt {events : List ServiceEvent} {c : Callback}
    (h : c.Grounded py settings events) (env : DeliveryEnv) :
    (c.attempt py settings env).Grounded py settings events := h

theorem callbacks_grounded :
    ∀ c ∈ (pipeline py settings history).callbacks, c.Grounded py settings (served history) := by
  induction history using List.reverseRecOn with
  | nil => exact fun c hc => absurd hc List.not_mem_nil
  | append_singleton history e ih =>
    rw [pipeline_concat, served_concat]
    cases e with
    | deliver i env =>
      rw [PipelineEvent.served, Option.toList_none, List.append_nil]
      exact forall_modify (fun c hc => hc.attempt env) ih i
    | serve e =>
      rw [PipelineEvent.served, Option.toList_some]
      intro c hc
      rw [pipelineStep] at hc
      rcases List.mem_append.1 hc with hold | hnew
      · obtain ⟨result, version, hwritten, hpayload⟩ := ih c hold
        exact ⟨result, version, hwritten.concat py settings e, hpayload⟩
      · rw [enqueuedBy_serviceStep, pipeline_service] at hnew
        obtain ⟨⟨url, payload⟩, hm, rfl⟩ := List.mem_map.1 hnew
        obtain ⟨id, op, job, result, rfl, hjob, -, hwritten, -, hpayload⟩ := mem_calls hm
        exact ⟨result, job.msg.wireVersion, ⟨served history, op, [], job, rfl, hjob, hwritten⟩,
          hpayload⟩

theorem earned_of_written (hshipped : ∀ e ∈ served history, e.Shipped py settings) {id : String}
    {r : Dict String Json} (h : Written py settings (served history) id r) {version : String}
    (hsaid : Says .clean (serialize r version)) :
    ∃ job, (pipeline py settings history).service.jobs.lookup id = some job ∧
      Earned py settings history id job.msg (serialize r version) := by
  obtain ⟨pre, op, post, job, hsplit, hjob, hr⟩ := h
  have hship := hshipped (.job id op) (by
    rw [hsplit]
    exact List.mem_append_right _ List.mem_cons_self)
  obtain ⟨before, after, rfl, rfl⟩ := served_split hsplit
  rw [← pipeline_service] at hjob
  obtain ⟨job', hjob', hmsg⟩ := pipeline_msg hjob (.serve (.job id op) :: after)
  refine ⟨job', hjob', ?_⟩
  cases op with
  | enqueue => cases hr
  | seed fails =>
    rw [Job.written] at hr
    split at hr
    · cases hr
      exact absurd hsaid (says_nothing rfl rfl .clean version)
    · cases hr
  | attempt env =>
    obtain ⟨engines, henv⟩ := hship
    rw [Job.written] at hr
    split at hr
    · cases hr
    · rename_i retries hqueued
      obtain ⟨file, hexamined⟩ := examined_of_handed henv hr hsaid
      rw [hmsg]
      exact ⟨before, env, after, rfl,
        ⟨⟨job, retries, r, version, hjob, rfl, hqueued, hr, rfl⟩, engines, file, hexamined⟩⟩

end History

/-- A clean bill, in a callback or in the answer to a poll and in either version, is what an attempt
on the job handed over that had downloaded the source in full, with every deciding engine of its
worker clearing the file and none finding fault with it. -/
theorem clean_is_earned (py : Python) (settings : Settings) (history : List PipelineEvent)
    (hshipped : ∀ e ∈ served history, e.Shipped py settings) :
    (∀ c ∈ (pipeline py settings history).callbacks, Says .clean c.payload →
      ∃ job, (pipeline py settings history).service.jobs.lookup c.origin = some job ∧
        Earned py settings history c.origin job.msg c.payload) ∧
    ∀ fails path id username answer,
      jobStatus settings fails (pipeline py settings history).service.world.store path id
        username = .ok answer → Says .clean answer →
      ∃ job, (pipeline py settings history).service.jobs.lookup id = some job ∧
        Earned py settings history id job.msg answer := by
  constructor
  · intro c hc hsaid
    obtain ⟨result, version, hwritten, hpayload⟩ := callbacks_grounded c hc
    rw [hpayload] at hsaid ⊢
    exact earned_of_written hshipped hwritten hsaid
  · intro fails path id username answer hanswer hsaid
    obtain ⟨stored, hstored, -, rfl⟩ := jobStatus_ok settings username hanswer
    rw [pipeline_service] at hstored
    exact earned_of_written hshipped (written_of_lookup py settings hstored) hsaid

/-- clamd answers the same to every file, and the other engines cannot be reached. -/
def clamdAlone (status : String) : Engines :=
  { infectedEngines with instream := fun _ => .ok (some [("stream", status, none)]) }

/-- A source that serves a page, to a worker that has clamav alone. -/
def scannedBy (engines : Engines) : Env :=
  { answering page with registry := BUILDERS publicPython unmapped engines }

def jobScannedBy (engines : Engines) : List PipelineEvent :=
  [.serve (.submit "drive" "job" "/api/v2.0/scan-async" oneScanner publicDns
      { url := "https://example.com/f", webhookUrl := some "https://example.com/hook",
        scanners := ["clamav"] }),
    .serve (.job "job" .enqueue), .serve (.job "job" (.attempt (scannedBy engines)))]

theorem jobScannedBy_shipped (engines : Engines) :
    ∀ e ∈ served (jobScannedBy engines), e.Shipped publicPython unmapped := by
  simp only [jobScannedBy, served, List.filterMap_cons, PipelineEvent.served, List.filterMap_nil,
    List.forall_mem_cons]
  exact ⟨trivial, trivial, ⟨engines, rfl⟩, List.forall_mem_nil _⟩

theorem clean_is_earned_cleared :
    ∃ c, (pipeline publicPython unmapped (jobScannedBy (clamdAlone "OK"))).callbacks = [c] ∧
      Says .clean c.payload ∧
      ∃ msg, Earned publicPython unmapped (jobScannedBy (clamdAlone "OK")) "job" msg c.payload := by
  have hcallbacks :
      ∃ c, (pipeline publicPython unmapped (jobScannedBy (clamdAlone "OK"))).callbacks = [c] ∧
        c.origin = "job" ∧ Says .clean c.payload := ⟨_, rfl, rfl, .inl ⟨_, rfl, rfl⟩⟩
  obtain ⟨c, hc, horigin, hsaid⟩ := hcallbacks
  have hmem : c ∈ (pipeline publicPython unmapped (jobScannedBy (clamdAlone "OK"))).callbacks := by
    rw [hc]
    exact List.mem_singleton.2 rfl
  obtain ⟨job, -, hearned⟩ := (clean_is_earned publicPython unmapped _
    (jobScannedBy_shipped (clamdAlone "OK"))).1 c hmem hsaid
  rw [horigin] at hearned
  exact ⟨c, hc, hsaid, job.msg, hearned⟩

end FileScanner
