import FileScanner.EndpointAgreement
import FileScanner.Rekeying
import FileScanner.Traffic

namespace FileScanner
open Collections Fallible Queues Unwinding
set_option autoImplicit true

def ScanMessage.rekey (σ : Equiv.Perm Key) (msg : ScanMessage) : ScanMessage :=
  { msg with encryptionParams := rekeyParams σ msg.encryptionParams }

def ScanAsyncRequest.rekey (σ : Equiv.Perm Key) (body : ScanAsyncRequest) : ScanAsyncRequest :=
  { body with encryption := rekeyParams σ body.encryption }

def Job.rekey (σ : Equiv.Perm Key) (job : Job) : Job := { job with msg := job.msg.rekey σ }

def Service.rekey (σ : Equiv.Perm Key) (s : Service) : Service :=
  { s with jobs := s.jobs.map (fun e => (e.1, e.2.rekey σ)) }

def Pipeline.rekey (σ : Equiv.Perm Key) (p : Pipeline) : Pipeline :=
  { p with service := p.service.rekey σ }

/-- The same attempt, with other answers of the sources. -/
def Env.serving (env : Env) (serve : Nat → String → Except Exc Response) : Env :=
  { env with net := { env.net with serve := serve } }

/-- An operation in the place of another one on a job with this material: the sources of an attempt
serve it the same under the exchanged key. -/
inductive JobOp.Rekeyed (σ : Equiv.Perm Key) (py : Python) (settings : Settings) (enc : Json) :
    JobOp → JobOp → Prop
  | enqueue : Rekeyed σ py settings enc .enqueue .enqueue
  | seed (fails : Bool) : Rekeyed σ py settings enc (.seed fails) (.seed fails)
  | attempt (env : Env) (serve : Nat → String → Except Exc Response)
      (h : ∀ hop url,
        ServedAlike py env.gcm settings σ enc (env.net.serve hop url) (serve hop url)) :
      Rekeyed σ py settings enc (.attempt env) (.attempt (env.serving serve))

/-- An event in the place of another one: a caller submits the key that its own was exchanged for,
and what a job meets is in the place of what it met. -/
inductive ServiceEvent.Rekeyed (σ : Equiv.Perm Key) (py : Python) (settings : Settings)
    (s : Service) : ServiceEvent → ServiceEvent → Prop
  | submit (username jobId path : String) (registry : Registry) (dns : Dns)
      (body : ScanAsyncRequest) :
      Rekeyed σ py settings s (.submit username jobId path registry dns body)
        (.submit username jobId path registry dns (body.rekey σ))
  | job (jobId : String) (op op' : JobOp)
      (h : ∀ job, s.jobs.lookup jobId = some job →
        op.Rekeyed σ py settings job.msg.encryptionParams op') :
      Rekeyed σ py settings s (.job jobId op) (.job jobId op')
  | expire (jobId : String) : Rekeyed σ py settings s (.expire jobId) (.expire jobId)
  | poll (username jobId path : String) (fails : Bool) :
      Rekeyed σ py settings s (.poll username jobId path fails) (.poll username jobId path fails)

inductive PipelineEvent.Rekeyed (σ : Equiv.Perm Key) (py : Python) (settings : Settings)
    (p : Pipeline) : PipelineEvent → PipelineEvent → Prop
  | serve (e e' : ServiceEvent) (h : e.Rekeyed σ py settings p.service e') :
      Rekeyed σ py settings p (.serve e) (.serve e')
  | deliver (i : Nat) (env : DeliveryEnv) : Rekeyed σ py settings p (.deliver i env) (.deliver i env)

/-- Two histories that differ in the keys alone: event by event, the second has in the place of
each event of the first the one under exchanged keys. -/
def Rekeyed (σ : Equiv.Perm Key) (py : Python) (settings : Settings) :
    List PipelineEvent → List PipelineEvent → Prop :=
  Along (pipelineStep py settings) (PipelineEvent.Rekeyed σ py settings) {}

section Download
variable {σ : Equiv.Perm Key} {py : Python} {settings : Settings} {env : Env} {msg : ScanMessage}
  {serve : Nat → String → Except Exc Response} {gcm : AesGcm} {enc : Json}

theorem ServedAlike.bind {answer answer' : Except Exc Response}
    {go go' : Response → Except Exc Response} (h : ServedAlike py gcm settings σ enc answer answer')
    (hgo : ∀ response body', SameBody py gcm settings σ enc response.body body' →
      ServedAlike py gcm settings σ enc (go response) (go' { response with body := body' })) :
    ServedAlike py gcm settings σ enc (answer >>= go) (answer' >>= go') := by
  cases h with
  | failed e => exact .failed e
  | answered response body' hbody => exact hgo response body' hbody

theorem ServedAlike.after {answer answer' : Except Exc Response} (check : Except Exc Unit)
    (h : ServedAlike py gcm settings σ enc answer answer') :
    ServedAlike py gcm settings σ enc (check >>= fun _ => answer) (check >>= fun _ => answer') := by
  cases check with
  | error e => exact .failed e
  | ok _ => exact h

theorem ServedAlike.at {answer answer' : Except Exc Response} (env : Env) (step : Step)
    (h : ServedAlike py gcm settings σ enc answer answer') :
    ServedAlike py gcm settings σ enc (env.at step answer) (env.at step answer') := by
  rw [Env.at, Env.at]
  cases env.fault step with
  | none => exact h
  | some e => exact .failed e

/-- Requests whose answers are alike open the same connections and end alike. -/
theorem hops_alike {net : Network}
    (h : ∀ hop url, ServedAlike py gcm settings σ enc (net.serve hop url) (serve hop url))
    (follow : Bool) (left hop : Nat) (url : String) :
    ServedAlike py gcm settings σ enc (hops py settings net follow left hop url).1
        (hops py settings { net with serve := serve } follow left hop url).1 ∧
      (hops py settings { net with serve := serve } follow left hop url).2 =
        (hops py settings net follow left hop url).2 := by
  induction left generalizing hop url with
  | zero => exact ⟨.failed _, rfl⟩
  | succ left ih =>
    have hserved := h hop url
    rw [hops, hops]
    dsimp only
    cases validateAndUnpack py settings (net.dns hop) url with
    | error e => exact ⟨.failed e, rfl⟩
    | ok dial =>
      dsimp only
      generalize net.serve hop url = answer at hserved
      generalize serve hop url = answer' at hserved
      cases hserved with
      | failed e => exact ⟨.failed e, rfl⟩
      | answered response body' hbody =>
        have hnext : nextUrl py follow url { response with body := body' } =
            nextUrl py follow url response := rfl
        dsimp only
        rw [hnext]
        cases nextUrl py follow url response with
        | error e => exact ⟨.failed e, rfl⟩
        | ok next =>
          cases next with
          | none => exact ⟨.answered response body' hbody, rfl⟩
          | some next =>
            obtain ⟨hlast, hdials⟩ := ih (hop + 1) next
            exact ⟨hlast, congrArg (dial :: ·) hdials⟩

variable (hserve : ∀ hop url, ServedAlike py env.gcm settings σ msg.encryptionParams
  (env.net.serve hop url) (serve hop url))
include hserve

theorem fetch_alike :
    ServedAlike py env.gcm settings σ msg.encryptionParams (fetch py settings env msg)
      (fetch py settings (env.serving serve) (msg.rekey σ)) := by
  have hguard : ∀ response, sizeGuard py settings (msg.rekey σ).encryptionParams response =
      sizeGuard py settings msg.encryptionParams response := by
    intro response
    rw [sizeGuard, sizeGuard, ScanMessage.rekey, wireCap_rekey]
  have hrequest := (hops_alike hserve true (MAX_REDIRECTS + 1) 0 msg.url).1
  rw [fetch, fetch]
  refine .after _ (.bind (hrequest.at env .connect) fun response body' hbody => ?_)
  rw [hguard]
  exact .after _ (.after _ (.answered response body' hbody))

/-- A download of resealed bodies leaves the same file, or fails alike. -/
theorem download_alike :
    download py settings (env.serving serve) (msg.rekey σ) = download py settings env msg := by
  have hfetch := fetch_alike hserve
  rw [download, download]
  generalize fetch py settings env msg = answer at hfetch
  generalize fetch py settings (env.serving serve) (msg.rekey σ) = answer' at hfetch
  cases hfetch with
  | failed e => rfl
  | answered response body' hbody =>
    dsimp only
    rw [openScratch, openScratch]
    rcases bodyWriter_rekey σ py env.gcm settings msg.encryptionParams with
      ⟨e, he, he'⟩ | ⟨write, write', hwrite, hwrite', halike⟩
    · have hrefused : bodyWriter py (env.serving serve).gcm settings
          (msg.rekey σ).encryptionParams = .error e := he'
      rw [he, hrefused]
      rfl
    · have hwriter : bodyWriter py (env.serving serve).gcm settings
          (msg.rekey σ).encryptionParams = .ok write' := hwrite'
      rw [hwrite, hwriter, ok_bind, ok_bind, Env.at, Env.at, Env.serving]
      dsimp only
      cases env.fault .openScratch with
      | some e => rfl
      | none =>
        dsimp only
        rw [writeScratch, writeScratch, halike response.body body' hbody]
        rfl

theorem downloadDials_alike :
    downloadDials py settings (env.serving serve) (msg.rekey σ) =
      downloadDials py settings env msg := by
  have hdials : (requestWithRedirects py settings (env.serving serve).net true
      (msg.rekey σ).url).2 = (requestWithRedirects py settings env.net true msg.url).2 :=
    (hops_alike hserve true (MAX_REDIRECTS + 1) 0 msg.url).2
  rw [downloadDials, downloadDials, hdials]
  rfl

theorem scanTask_alike (retries : Option Nat) (w : World) :
    scanTask py settings (env.serving serve) (msg.rekey σ) retries w =
      scanTask py settings env msg retries w := by
  have htry : tryBlock py settings (env.serving serve) (msg.rekey σ) =
      tryBlock py settings env msg := by
    rw [tryBlock, tryBlock, download_alike hserve]
    rfl
  rw [scanTask, scanTask, htry]
  rfl

end Download

section Steps
variable (σ : Equiv.Perm Key) (py : Python) (settings : Settings)

theorem accept_rekey (registry : Registry) (dns : Dns) (path username jobId : String)
    (body : ScanAsyncRequest) :
    accept py settings registry dns path username jobId (body.rekey σ) =
      (·.rekey σ) <$> accept py settings registry dns path username jobId body := by
  simp only [accept, map_bind, map_pure]
  rfl

theorem Job.step_rekey (job : Job) (w : World) {op op' : JobOp}
    (h : op.Rekeyed σ py settings job.msg.encryptionParams op') :
    (job.rekey σ).step py settings w op' =
      ((job.step py settings w op).1.rekey σ, (job.step py settings w op).2) := by
  obtain ⟨msg, handler, queued⟩ := job
  cases h with
  | enqueue => cases handler <;> rfl
  | seed fails => cases handler <;> rfl
  | attempt env serve hserve =>
    cases queued with
    | none => rfl
    | some retries =>
      dsimp only [rekey, step]
      rw [scanTask_alike hserve]

theorem Service.lookup_rekey (s : Service) (jobId : String) :
    (s.rekey σ).jobs.lookup jobId = (s.jobs.lookup jobId).map (·.rekey σ) :=
  Dict.lookup_mapValues s.jobs (·.rekey σ) jobId

theorem Service.rekey_set (s : Service) (jobId : String) (job : Job) (w : World) :
    ({ s with jobs := s.jobs.set jobId job, world := w } : Service).rekey σ =
      { s.rekey σ with jobs := (s.rekey σ).jobs.set jobId (job.rekey σ), world := w } := by
  rw [rekey, Dict.map_set]
  rfl

theorem serviceStep_rekey (s : Service) {e e' : ServiceEvent} (h : e.Rekeyed σ py settings s e') :
    serviceStep py settings (s.rekey σ) e' = (serviceStep py settings s e).rekey σ := by
  cases h with
  | submit username jobId path registry dns body =>
    rw [serviceStep, serviceStep, Service.lookup_rekey, accept_rekey]
    cases s.jobs.lookup jobId with
    | some job => rfl
    | none =>
      cases accept py settings registry dns path username jobId body with
      | error e => rfl
      | ok msg => exact (s.rekey_set σ jobId { msg := msg } s.world).symm
  | job jobId op op' hop =>
    rw [serviceStep, serviceStep, Service.lookup_rekey]
    cases hjob : s.jobs.lookup jobId with
    | none => rfl
    | some job =>
      dsimp only [Option.map_some]
      rw [job.step_rekey σ py settings _ (hop job hjob)]
      exact (s.rekey_set σ jobId _ _).symm
  | expire jobId => rfl
  | poll username jobId path fails => rfl

theorem pipelineStep_rekey (p : Pipeline) (e e' : PipelineEvent)
    (h : e.Rekeyed σ py settings p e') :
    pipelineStep py settings (p.rekey σ) e' = (pipelineStep py settings p e).rekey σ := by
  cases h with
  | serve e e' he =>
    have hstep := serviceStep_rekey σ py settings p.service he
    have htarget : e'.target = e.target := by cases he <;> rfl
    rw [pipelineStep, pipelineStep, enqueuedBy, enqueuedBy, htarget]
    dsimp only [Pipeline.rekey]
    rw [hstep]
    rfl
  | deliver i env => rfl

theorem Job.dials_rekey (job : Job) {op op' : JobOp}
    (h : op.Rekeyed σ py settings job.msg.encryptionParams op') :
    (job.rekey σ).dials py settings op' = job.dials py settings op := by
  cases h with
  | enqueue => rfl
  | seed fails => rfl
  | attempt env serve hserve =>
    rw [dials, dials, rekey, downloadDials_alike hserve]

theorem Pipeline.connections_rekey (p : Pipeline) (e e' : PipelineEvent)
    (h : e.Rekeyed σ py settings p e') :
    (p.rekey σ).connections py settings e' = p.connections py settings e := by
  cases h with
  | deliver i env => rfl
  | serve e e' he =>
    cases he with
    | job jobId op op' hop =>
      dsimp only [connections, Service.connections, rekey]
      rw [Service.lookup_rekey]
      cases hjob : p.service.jobs.lookup jobId with
      | none => rfl
      | some job =>
        simp only [Option.map_some, Option.toList_some, List.flatMap_singleton,
          job.dials_rekey σ py settings (hop job hjob)]
    | _ => rfl

end Steps

/-- Two pipelines that differ in nothing but the keys of the jobs. -/
structure Alike (p p' : Pipeline) : Prop where
  world : p'.service.world = p.service.world
  answers : p'.service.answers = p.service.answers
  callbacks : p'.callbacks = p.callbacks
  places : p'.service.jobs.map (fun e => (e.1, e.2.handler, e.2.queued)) =
    p.service.jobs.map (fun e => (e.1, e.2.handler, e.2.queued))

theorem alike_rekey (σ : Equiv.Perm Key) (p : Pipeline) : Alike p (p.rekey σ) where
  world := rfl
  answers := rfl
  callbacks := rfl
  places := by
    dsimp only [Pipeline.rekey, Service.rekey]
    rw [List.map_map]
    rfl

/-- A decryption key leaves no trace: a history under exchanged keys, in which the sources serve each
job the files resealed for it, records the same, scans the same files, answers every poll alike,
enqueues and delivers the same callbacks and opens the same connections. -/
theorem keys_stay_hidden (py : Python) (settings : Settings) (σ : Equiv.Perm Key)
    (history history' : List PipelineEvent) (h : Rekeyed σ py settings history history') :
    Alike (pipeline py settings history) (pipeline py settings history') ∧
      traffic py settings history' = traffic py settings history := by
  have hstep := pipelineStep_rekey σ py settings
  have hrun : pipeline py settings history' = (pipeline py settings history).rekey σ :=
    run_along hstep h
  have htraffic : traffic py settings history' = traffic py settings history :=
    emitted_along hstep (Pipeline.connections_rekey σ py settings) h
  rw [hrun]
  exact ⟨alike_rekey σ _, htraffic⟩

/-- Every key is exchanged for the one with all its bits flipped. -/
def flipped : Equiv.Perm Key :=
  Function.Involutive.toPerm
    (fun key => ⟨key.bytes.map (~~~ ·), (List.length_map _).trans key.length⟩) (by
      rintro ⟨bytes, length⟩
      simp [Function.comp_def])

/-- The stream of an upload, cut within its first chunk. -/
def Upload.cut {settings : Settings} (u : Upload settings) : Body :=
  ⟨[⟨(u.wire aesGcm).take 1000, 0⟩, ⟨(u.wire aesGcm).drop 1000, 1⟩], none⟩

theorem Upload.bytes_cut {settings : Settings} (u : Upload settings) :
    u.cut.bytes = u.wire aesGcm := by
  rw [Body.bytes, cut]
  simp only [List.flatMap_cons, List.flatMap_nil, List.append_nil]
  exact List.take_append_drop 1000 _

/-- A worker whose source holds an upload. -/
def holding (u : Upload {}) : Env :=
  { answering { pageResponse (2 ^ 31 - 3) with body := u.cut } with gcm := aesGcm }

def uploadRequest (u : Upload {}) : ScanAsyncRequest where
  url := "https://example.com/f"
  webhookUrl := some "https://example.com/hook"
  scanners := ["clamav"]
  encryption := u.enc

def uploadJob (u : Upload {}) : List PipelineEvent :=
  [.serve (.submit "drive" "job" "/api/v2.0/scan-async" oneScanner publicDns (uploadRequest u)),
    .serve (.job "job" .enqueue), .serve (.job "job" (.attempt (holding u)))]

def uploadMessage (u : Upload {}) : ScanMessage where
  jobId := "job"
  url := "https://example.com/f"
  scanners := ["clamav"]
  webhookUrl := some "https://example.com/hook"
  apiClient := "drive"
  encryptionParams := u.enc
  wireVersion := V2

theorem accept_uploadRequest (u : Upload {}) :
    accept clamavPython {} oneScanner publicDns "/api/v2.0/scan-async" "drive" "job"
      (uploadRequest u) = .ok (uploadMessage u) := by
  have hsafe : assertScannable clamavPython {} publicDns "https://example.com/f"
      (some "https://example.com/hook") = .ok () := rfl
  have hurls := congrArg (Except.mapError badUrl) hsafe
  exact bind_eq_ok.2 ⟨["clamav"], rfl, bind_eq_ok.2 ⟨(), rfl, bind_eq_ok.2 ⟨(), hurls,
    bind_eq_ok.2 ⟨(), rfl, rfl⟩⟩⟩⟩

/-- The job of an upload, once it is queued. -/
def uploadQueued (u : Upload {}) : Pipeline :=
  { service.jobs := [("job", { msg := uploadMessage u, handler := .enqueued, queued := some 0 })] }

theorem pipeline_uploadQueued (u : Upload {}) :
    pipelineStep clamavPython {} (pipelineStep clamavPython {} {} (.serve (.submit "drive" "job"
      "/api/v2.0/scan-async" oneScanner publicDns (uploadRequest u))))
      (.serve (.job "job" .enqueue)) = uploadQueued u := by
  have hsubmit : pipelineStep clamavPython {} {} (.serve (.submit "drive" "job"
      "/api/v2.0/scan-async" oneScanner publicDns (uploadRequest u))) =
      { service.jobs := [("job", { msg := uploadMessage u })] } := by
    rw [pipelineStep, serviceStep, accept_uploadRequest]
    rfl
  rw [hsubmit]
  rfl

theorem resealed_cut (σ : Equiv.Perm Key) (u : Upload {}) :
    Resealed aesGcm σ u.params u.cut (u.rekey σ).cut := by
  have hlength : ((u.rekey σ).wire aesGcm).length = (u.wire aesGcm).length := by
    rw [(u.rekey σ).length_wire (undoes_aesGcm _), u.length_wire (undoes_aesGcm _)]
    rfl
  refine u.resealed (undoes_aesGcm _) (undoes_aesGcm _) u.bytes_cut (u.rekey σ).bytes_cut ?_ rfl
  refine .cons ⟨?_, rfl⟩ (.cons ⟨?_, rfl⟩ .nil)
  · rw [List.length_take, List.length_take, hlength]
  · rw [List.length_drop, List.length_drop, hlength]

theorem rekeyed_uploadJob (σ : Equiv.Perm Key) (u : Upload {}) :
    Rekeyed σ clamavPython {} (uploadJob u) (uploadJob (u.rekey σ)) := by
  refine .cons (.serve _ _ (.submit ..)) (.cons (.serve _ _ (.job _ _ _ fun _ _ => .enqueue))
    (.cons (.serve _ _ (.job _ _ _ fun job hjob => ?_)) .nil))
  rw [pipeline_uploadQueued] at hjob
  cases hjob
  refine .attempt (holding u) (fun _ _ => .ok { pageResponse _ with body := (u.rekey σ).cut })
    fun hop url => .answered _ _ ?_
  have htruthy : u.enc.truthy = true := rfl
  have hdump : decryptionParams clamavPython {} u.enc = .ok u.params :=
    decryptionParams_dump clamavPython u.decoded u.floor u.ceiling
  rw [uploadMessage, SameBody, if_pos htruthy, hdump]
  rintro params ⟨⟩
  exact resealed_cut σ u

theorem scans_uploadJob (u : Upload {}) :
    (pipeline clamavPython {} (uploadJob u)).service.world.scans =
      (scanTask clamavPython {} (holding u) (uploadMessage u) (some 0) {}).2.scans := by
  rw [pipeline, uploadJob, Unwinding.run, List.foldl_cons, List.foldl_cons, pipeline_uploadQueued]
  rfl

/-- The two chunks of a file sealed under another key are scanned as the same file. -/
theorem keys_stay_hidden_page :
    ∃ history history', Rekeyed flipped clamavPython {} history history' ∧
      Alike (pipeline clamavPython {} history) (pipeline clamavPython {} history') ∧
      traffic clamavPython {} history' = traffic clamavPython {} history ∧
      (pipeline clamavPython {} history').service.world.scans = [List.replicate 5000 97] := by
  have hrekeyed := rekeyed_uploadJob flipped (pageUpload (2 ^ 31 - 3))
  obtain ⟨halike, htraffic⟩ := keys_stay_hidden clamavPython {} flipped _ _ hrekeyed
  refine ⟨_, _, hrekeyed, halike, htraffic, ?_⟩
  have hserves := serves_pageResponse (2 ^ 31 - 3)
  have hbrings : Brings clamavPython aesGcm {} (List.replicate 5000 97)
      (uploadMessage (pageUpload (2 ^ 31 - 3))).encryptionParams (pageResponse (2 ^ 31 - 3)) :=
    .encrypted (pageUpload (2 ^ 31 - 3)) rfl rfl (undoes_aesGcm _)
      ⟨hserves.bytes, hserves.ending, hserves.inTime, hserves.declared⟩
  have hbody := hbrings.writeBody (by rw [List.length_replicate]; decide)
  have hanswered : Answered clamavPython {} (holding (pageUpload (2 ^ 31 - 3)))
      (uploadMessage (pageUpload (2 ^ 31 - 3))) (pageResponse (2 ^ 31 - 3)) := ⟨rfl, rfl⟩
  have hstatus : ¬ (pageResponse (2 ^ 31 - 3)).Failed :=
    fun h => absurd h.1 (by decide : ¬ 400 ≤ 200)
  rw [halike.world, scans_uploadJob, scanTask_scans ⟨rfl, rfl, rfl⟩,
    tryBlock_accepted (fun _ => rfl) hanswered hstatus hbody]
  rfl

end FileScanner
