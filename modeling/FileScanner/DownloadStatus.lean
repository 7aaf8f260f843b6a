import FileScanner.DownloadErrors
import FileScanner.TerminalReport
import FileScanner.WebhookGuard

namespace FileScanner
open Collections Fallible Queues Streams
set_option autoImplicit true

/-- What is done with a response once its status has passed, up to the scan. -/
def writeBody (py : Python) (gcm : AesGcm) (settings : Settings) (enc : Json)
    (response : Response) : Except Exc Bytes := do
  sizeGuard py settings enc response
  let write ← bodyWriter py gcm settings enc
  let (_, file) ← write response.body
  pure file

/-- The policy let the request out, and this is the response it ended with. -/
structure Answered (py : Python) (settings : Settings) (env : Env) (msg : ScanMessage)
    (response : Response) : Prop where
  policy : assertScannable py settings env.dns msg.url msg.webhookUrl = .ok ()
  final : (requestWithRedirects py settings env.net true msg.url).1 = .ok response

theorem Answered.unique {py : Python} {settings : Settings} {env : Env} {msg : ScanMessage}
    {response response' : Response} (h : Answered py settings env msg response)
    (h' : Answered py settings env msg response') : response = response' :=
  Except.ok.inj (h.final.symm.trans h'.final)

section TryBlock
variable {py : Python} {settings : Settings} {env : Env} {msg : ScanMessage} {response : Response}

/-- An attempt either scans nothing and fails, or scans the file that was written from the body of the
response it fetched. -/
theorem tryBlock_cases (py : Python) (settings : Settings) (env : Env) (msg : ScanMessage) :
    (∃ e scratch, tryBlock py settings env msg = ⟨.error e, scratch, []⟩) ∨
      ∃ response file, fetch py settings env msg = .ok response ∧
        writeBody py env.gcm settings msg.encryptionParams response = .ok file ∧
        tryBlock py settings env msg =
          ⟨runScanners settings (env.scanEnv file) msg.scanners, true, [file]⟩ := by
  rw [tryBlock, download]
  cases hfetch : fetch py settings env msg with
  | error e => exact .inl ⟨e, false, rfl⟩
  | ok response =>
    dsimp only
    cases hopen : openScratch py settings env msg with
    | error e => exact .inl ⟨e, false, rfl⟩
    | ok write =>
      dsimp only
      cases hfile : writeScratch env write response with
      | error e => exact .inl ⟨e, true, rfl⟩
      | ok file =>
        dsimp only
        cases hfault : env.fault .scan with
        | some e => exact .inl ⟨e, true, rfl⟩
        | none =>
          refine .inr ⟨response, file, rfl, ?_, rfl⟩
          rw [fetch] at hfetch
          obtain ⟨⟨⟩, -, hfetch⟩ := bind_eq_ok.1 hfetch
          obtain ⟨response', -, hfetch⟩ := bind_eq_ok.1 hfetch
          obtain ⟨⟨⟩, -, hfetch⟩ := bind_eq_ok.1 hfetch
          obtain ⟨⟨⟩, hguard, hfetch⟩ := bind_eq_ok.1 hfetch
          cases hfetch
          obtain ⟨write', hwriter, hopen⟩ := bind_eq_ok.1 hopen
          cases (at_eq_ok.1 hopen).2
          obtain ⟨⟨read, file'⟩, hwrite, hfile⟩ := bind_eq_ok.1 hfile
          obtain ⟨⟨⟩, -, hfile⟩ := bind_eq_ok.1 hfile
          cases hfile
          rw [writeBody, (at_eq_ok.1 hguard).2, ok_bind, hwriter, ok_bind, (at_eq_ok.1 hwrite).2]
          rfl

theorem answered_of_fetch (h : fetch py settings env msg = .ok response) :
    Answered py settings env msg response ∧ ¬ response.Failed := by
  obtain ⟨⟨⟩, hpolicy, h⟩ := bind_eq_ok.1 h
  obtain ⟨response', hfinal, h⟩ := bind_eq_ok.1 h
  obtain ⟨⟨⟩, hstatus, h⟩ := bind_eq_ok.1 h
  obtain ⟨⟨⟩, -, h⟩ := bind_eq_ok.1 h
  cases h
  refine ⟨⟨(at_eq_ok.1 hpolicy).2, (at_eq_ok.1 hfinal).2⟩, fun hfailed => ?_⟩
  obtain ⟨m, hm⟩ := raiseForStatus_failed hfailed
  rw [hm] at hstatus
  cases (at_eq_ok.1 hstatus).2

theorem at_undisturbed (hfault : ∀ step, env.fault step = none) (step : Step)
    (x : Except Exc α) : env.at step x = x := by
  rw [Env.at, hfault]

theorem openScratch_undisturbed (hfault : ∀ step, env.fault step = none) :
    openScratch py settings env msg = bodyWriter py env.gcm settings msg.encryptionParams := by
  rw [openScratch]
  cases bodyWriter py env.gcm settings msg.encryptionParams with
  | error e => rfl
  | ok write => exact at_undisturbed hfault _ _

theorem fetch_answered (hfault : ∀ step, env.fault step = none)
    (h : Answered py settings env msg response) :
    fetch py settings env msg = (do
      raiseForStatus response
      sizeGuard py settings msg.encryptionParams response
      pure response) := by
  simp only [fetch, at_undisturbed hfault, h.policy, h.final, ok_bind]

theorem tryBlock_unanswered (hfault : ∀ step, env.fault step = none)
    (h : ∀ response, ¬ Answered py settings env msg response) :
    (tryBlock py settings env msg).scanned = [] := by
  have hfetch : ∃ e, fetch py settings env msg = .error e := by
    simp only [fetch, at_undisturbed hfault]
    cases hpolicy : assertScannable py settings env.dns msg.url msg.webhookUrl with
    | error e => exact ⟨e, rfl⟩
    | ok u =>
      cases hfinal : (requestWithRedirects py settings env.net true msg.url).1 with
      | error e => exact ⟨e, rfl⟩
      | ok response => exact absurd ⟨hpolicy, hfinal⟩ (h response)
  obtain ⟨e, he⟩ := hfetch
  simp only [tryBlock, download, he]

theorem tryBlock_failed (hfault : ∀ step, env.fault step = none)
    (h : Answered py settings env msg response) (hstatus : response.Failed) :
    ∃ m, tryBlock py settings env msg = ⟨.error (.requestException m), false, []⟩ := by
  obtain ⟨m, hm⟩ := raiseForStatus_failed hstatus
  have hfetch := fetch_answered hfault h
  rw [hm, error_bind] at hfetch
  exact ⟨m, by simp only [tryBlock, download, hfetch]⟩

theorem tryBlock_refused (hfault : ∀ step, env.fault step = none)
    (h : Answered py settings env msg response) (hstatus : ¬ response.Failed)
    (hbody : writeBody py env.gcm settings msg.encryptionParams response = .error e) :
    ∃ scratch, tryBlock py settings env msg = ⟨.error e, scratch, []⟩ := by
  have hfetch := fetch_answered hfault h
  rw [raiseForStatus_passed hstatus, ok_bind] at hfetch
  rcases bind_eq_error.1 hbody with hguard | ⟨⟨⟩, hguard, hbody⟩
  · rw [hguard, error_bind] at hfetch
    exact ⟨false, by simp only [tryBlock, download, hfetch]⟩
  · rw [hguard, ok_bind] at hfetch
    rcases bind_eq_error.1 hbody with hwriter | ⟨write, hwriter, hbody⟩
    · rw [← openScratch_undisturbed hfault] at hwriter
      exact ⟨false, by simp only [tryBlock, download, hfetch, hwriter, pure, Except.pure]⟩
    · rw [← openScratch_undisturbed hfault] at hwriter
      rcases bind_eq_error.1 hbody with hwrite | ⟨_, -, hbody⟩
      · exact ⟨true, by
          simp only [tryBlock, download, hfetch, hwriter, pure, Except.pure, writeScratch,
            at_undisturbed hfault, hwrite, error_bind]⟩
      · cases hbody

theorem tryBlock_accepted (hfault : ∀ step, env.fault step = none)
    (h : Answered py settings env msg response) (hstatus : ¬ response.Failed)
    (hbody : writeBody py env.gcm settings msg.encryptionParams response = .ok file) :
    tryBlock py settings env msg =
      ⟨runScanners settings (env.scanEnv file) msg.scanners, true, [file]⟩ := by
  have hfetch := fetch_answered hfault h
  obtain ⟨⟨⟩, hguard, hbody⟩ := bind_eq_ok.1 hbody
  obtain ⟨write, hwriter, hbody⟩ := bind_eq_ok.1 hbody
  obtain ⟨⟨read, file'⟩, hwrite, hbody⟩ := bind_eq_ok.1 hbody
  cases hbody
  rw [raiseForStatus_passed hstatus, ok_bind, hguard, ok_bind] at hfetch
  rw [← openScratch_undisturbed hfault] at hwriter
  simp only [tryBlock, download, hfetch, hwriter, pure, Except.pure, writeScratch,
    at_undisturbed hfault, hwrite, ok_bind, hfault]

end TryBlock

theorem writeBody_raises (py : Python) (gcm : AesGcm) (settings : Settings) {enc : Json}
    (h : Dumped enc) {response : Response}
    (hend : ∀ e, response.body.ending = some e → ReportedAtOnce e) :
    RaisesOnly ReportedAtOnce (writeBody py gcm settings enc response) := by
  intro e he
  rcases bind_eq_error.1 he with hguard | ⟨⟨⟩, -, he⟩
  · exact fileFailures_reportedAtOnce.of_isFileError
      (sizeGuard_raises py settings h response e hguard)
  · apply bodyWriter_raises py gcm settings h hend e
    apply bind_eq_error.2
    rcases bind_eq_error.1 he with hwriter | ⟨write, hwriter, he⟩
    · exact .inl hwriter
    · rcases bind_eq_error.1 he with hwrite | ⟨_, -, he⟩
      · exact .inr ⟨write, hwriter, hwrite⟩
      · cases he

/-- A body without encryption is written unless its length, declared or real, its time or its
transfer refuses it. -/
theorem writeBody_plain_ok_iff {py : Python} {gcm : AesGcm} {settings : Settings}
    {response : Response} {file : Bytes} :
    writeBody py gcm settings .null response = .ok file ↔
      checkDeclared py settings.maxUrlSize response.contentLength = .ok () ∧
        (∀ chunk ∈ response.body.chunks, chunk.elapsed ≤ settings.downloadMaxSeconds) ∧
        response.body.bytes.length ≤ settings.maxUrlSize ∧ response.body.ending = none ∧
        file = response.body.bytes := by
  have hguard : sizeGuard py settings .null response =
      checkDeclared py settings.maxUrlSize response.contentLength := rfl
  have hwriter : bodyWriter py gcm settings .null = .ok (writePlaintext settings) := rfl
  rw [writeBody, hguard, hwriter, ok_bind]
  constructor
  · intro h
    obtain ⟨⟨⟩, hdeclared, h⟩ := bind_eq_ok.1 h
    obtain ⟨⟨read, file'⟩, hwrite, h⟩ := bind_eq_ok.1 h
    cases h
    obtain ⟨htimes, hsize, hend, -, hfile⟩ := writePlaintext_ok_iff.1 hwrite
    exact ⟨hdeclared, htimes, hsize, hend, hfile⟩
  · rintro ⟨hdeclared, htimes, hsize, hend, rfl⟩
    rw [hdeclared, ok_bind, writePlaintext_ok_iff.2 ⟨htimes, hsize, hend, rfl, rfl⟩]
    rfl

/-- An exception that is reported at once ends the job, and the scratch file is gone. -/
theorem scanTask_reported {env : Env} (h : env.Healthy) {py : Python} {settings : Settings}
    {msg : ScanMessage} {e : Exc} {scratch : Bool} {kind message : String}
    (hsaid : reportedAs e = some (kind, message))
    (htry : tryBlock py settings env msg = ⟨.error e, scratch, []⟩)
    (retries : Option Nat) (w : World) :
    scanTask py settings env msg retries w =
      (.ok (), finalized settings msg (msg.result.update (errorEntries kind message)) w) := by
  have hhanded : handedBy settings env msg py retries =
      some (errorResult msg kind message) := by
    rw [handedBy, htry, handed]
    dsimp only
    rw [hsaid]
  rw [scanTask_healthy h, hhanded, htry]
  dsimp only
  rw [World.scanned, List.append_nil]
  rfl

/-- An attempt that ends the job with an error and says nothing about the file. -/
def ReportsError (inv : Invocation World Exc Unit) : Prop :=
  inv.Returned ∧ ∃ result, inv.after.finals = inv.before.finals ++ [result] ∧
    result.lookup "status" = some (.str ERROR) ∧ result.lookup "verdicts" = none

/-- Only the body of a successful response is scanned; any other response ends the job. -/
structure OnlySuccessScanned (py : Python) (settings : Settings) (envs : Nat → Env)
    (msg : ScanMessage) (inv : Invocation World Exc Unit) : Prop where
  scanned : inv.after.scans ≠ inv.before.scans →
    ∃ response, Answered py settings (envs inv.retries) msg response ∧ response.Success
  refused : ∀ response, Answered py settings (envs inv.retries) msg response →
    ¬ response.Success → ReportsError inv

/-- A response is told apart: it succeeded, `raise_for_status` raises, or its body is refused. -/
def ToldApart (py : Python) (settings : Settings) (env : Env) (msg : ScanMessage)
    (response : Response) : Prop :=
  response.Success ∨ response.Failed ∨
    ∃ e, writeBody py env.gcm settings msg.encryptionParams response = .error e

theorem lookup_errorResult (msg : ScanMessage) (kind message : String) :
    (msg.result.update (errorEntries kind message)).lookup "status" = some (.str ERROR) ∧
      (msg.result.update (errorEntries kind message)).lookup "verdicts" = none :=
  ⟨rfl, rfl⟩

theorem scanTask_scans {env : Env} (h : env.Healthy) (py : Python) (settings : Settings)
    (msg : ScanMessage) (retries : Option Nat) (w : World) :
    (scanTask py settings env msg retries w).2.scans =
      w.scans ++ (tryBlock py settings env msg).scanned := by
  rcases scanTask_cases h py settings msg retries w with ⟨-, -, e, he⟩ | ⟨-, result, -, he⟩
  · rw [he]
    rfl
  · rw [he]
    rfl

section Attempt
variable {py : Python} {settings : Settings} {envs : Nat → Env} {msg : ScanMessage}

theorem onlySuccessScanned_of_reported {i : Nat} (h : (envs i).Healthy) {e : Exc}
    {scratch : Bool} (hreported : ReportedAtOnce e)
    (htry : tryBlock py settings (envs i) msg = ⟨.error e, scratch, []⟩) (w : World) :
    OnlySuccessScanned py settings envs msg (invoke (scanActor py settings envs msg) i w) := by
  obtain ⟨⟨kind, message⟩, hsaid⟩ := Option.ne_none_iff_exists'.1 hreported
  have hrun := scanTask_reported h hsaid htry (some i) w
  constructor
  · intro hscans
    apply absurd _ hscans
    simp only [invoke, scanActor, hrun]
    rfl
  · intro _ _ _
    simp only [invoke, scanActor, hrun]
    exact ⟨⟨(), rfl⟩, _, rfl, lookup_errorResult msg kind message⟩

theorem attempt_scans {i : Nat} (h : (envs i).Healthy) (w : World) :
    (invoke (scanActor py settings envs msg) i w).after.scans =
      w.scans ++ (tryBlock py settings (envs i) msg).scanned :=
  scanTask_scans h py settings msg (some i) w

theorem onlySuccessScanned_of_success {i : Nat} {response : Response}
    (hr : Answered py settings (envs i) msg response) (hsuccess : response.Success) (w : World) :
    OnlySuccessScanned py settings envs msg (invoke (scanActor py settings envs msg) i w) := by
  refine ⟨fun _ => ⟨response, hr, hsuccess⟩, fun r' hr' hno => ?_⟩
  exact absurd (hr.unique hr' ▸ hsuccess) hno

theorem onlySuccessScanned_of_unanswered {i : Nat} (h : (envs i).Healthy)
    (hfault : ∀ step, (envs i).fault step = none)
    (hnone : ∀ response, ¬ Answered py settings (envs i) msg response) (w : World) :
    OnlySuccessScanned py settings envs msg (invoke (scanActor py settings envs msg) i w) := by
  refine ⟨fun hgrown => ?_, fun r hr => absurd hr (hnone r)⟩
  apply absurd _ hgrown
  rw [attempt_scans h, tryBlock_unanswered hfault hnone]
  exact List.append_nil _

/-- An accepted body is scanned, so the response it came with has to be a success. -/
theorem OnlySuccessScanned.success {i : Nat} {w : World} (h : (envs i).Healthy)
    (hfault : ∀ step, (envs i).fault step = none) {response : Response} {file : Bytes}
    (hr : Answered py settings (envs i) msg response) (hfailed : ¬ response.Failed)
    (hbody : writeBody py (envs i).gcm settings msg.encryptionParams response = .ok file)
    (honly : OnlySuccessScanned py settings envs msg
      (invoke (scanActor py settings envs msg) i w)) :
    response.Success := by
  have hgrown : (invoke (scanActor py settings envs msg) i w).after.scans ≠ w.scans := by
    rw [attempt_scans h, tryBlock_accepted hfault hr hfailed hbody]
    exact fun heq => List.cons_ne_nil file [] (List.append_right_eq_self.1 heq)
  obtain ⟨r', hr', hsuccess⟩ := honly.scanned hgrown
  exact hr.unique hr' ▸ hsuccess

theorem attempt_onlySuccessScanned_iff {i : Nat} (h : (envs i).Healthy)
    (hfault : ∀ step, (envs i).fault step = none) (henc : Dumped msg.encryptionParams)
    (hend : ∀ response, Answered py settings (envs i) msg response →
      ∀ e, response.body.ending = some e → ∃ m, e = .requestException m) (w : World) :
    OnlySuccessScanned py settings envs msg (invoke (scanActor py settings envs msg) i w) ↔
      ∀ response, Answered py settings (envs i) msg response →
        ToldApart py settings (envs i) msg response := by
  constructor
  · intro honly response hr
    by_cases hfailed : response.Failed
    · exact .inr (.inl hfailed)
    · cases hbody : writeBody py (envs i).gcm settings msg.encryptionParams response with
      | error e => exact .inr (.inr ⟨e, hbody⟩)
      | ok file => exact .inl (honly.success h hfault hr hfailed hbody)
  · intro hall
    by_cases hanswer : ∃ response, Answered py settings (envs i) msg response
    · obtain ⟨response, hr⟩ := hanswer
      by_cases hfailed : response.Failed
      · obtain ⟨m, htry⟩ := tryBlock_failed hfault hr hfailed
        exact onlySuccessScanned_of_reported h (reportedAtOnce_requestException m) htry w
      · rcases hall response hr with hsuccess | hfailed' | ⟨e, hbody⟩
        · exact onlySuccessScanned_of_success hr hsuccess w
        · exact absurd hfailed' hfailed
        · obtain ⟨scratch, htry⟩ := tryBlock_refused hfault hr hfailed hbody
          have hreported : ReportedAtOnce e := by
            apply writeBody_raises py (envs i).gcm settings henc _ e hbody
            intro e' he'
            obtain ⟨m, rfl⟩ := hend response hr e' he'
            exact reportedAtOnce_requestException m
          exact onlySuccessScanned_of_reported h hreported htry w
    · have hnone : ∀ response, ¬ Answered py settings (envs i) msg response :=
        fun response hr => hanswer ⟨response, hr⟩
      exact onlySuccessScanned_of_unanswered h hfault hnone w

end Attempt

/-- Over the run of a job, only bodies of successful responses are scanned, and any other response
ends it with an error, exactly when every response it ended with was told apart. -/
theorem only_success_scanned_iff (py : Python) (settings : Settings) (envs : Nat → Env)
    (msg : ScanMessage) (w : World) (hhealthy : ∀ i, (envs i).Healthy)
    (hfault : ∀ i step, (envs i).fault step = none) (henc : Dumped msg.encryptionParams)
    (hend : ∀ i response, Answered py settings (envs i) msg response →
      ∀ e, response.body.ending = some e → ∃ m, e = .requestException m) :
    (∀ inv ∈ run (scanActor py settings envs msg) MAX_RETRIES w,
        OnlySuccessScanned py settings envs msg inv) ↔
      ∀ inv ∈ run (scanActor py settings envs msg) MAX_RETRIES w,
        ∀ response, Answered py settings (envs inv.retries) msg response →
          ToldApart py settings (envs inv.retries) msg response := by
  apply forall₂_congr
  intro inv hinv
  have h := attempt_onlySuccessScanned_iff (hhealthy inv.retries) (hfault inv.retries) henc
    (hend inv.retries) inv.before
  rwa [← run_genuine hinv] at h

/-- A source that answers every request alike, behind an engine that finds nothing. -/
def answering (response : Response) : Env where
  dns := publicDns
  net := ⟨fun _ => publicDns, fun _ _ => .ok response⟩
  gcm := ⟨fun _ _ plain _ => plain, fun _ _ _ _ => none⟩
  registry := [("clamav", .ok { scan := fun _ => .ok clean })]

def plainJob : ScanMessage where
  jobId := "job"
  url := "https://example.com/f"
  scanners := ["clamav"]

def nowhere : Response where
  statusCode := 302
  reason := "Found"
  url := "https://example.com/f"
  location := none
  contentLength := none
  body := ⟨[⟨encode "moved", 0⟩], none⟩

def missing : Response := { nowhere with statusCode := 404, reason := "Not Found" }

/-- The page of a redirect without a target is scanned, and the job is done. -/
theorem redirect_page_reported_done :
    (scanTask publicPython {} (answering nowhere) plainJob (some 0) {}).2.scans =
        [encode "moved"] ∧
      (scanTask publicPython {} (answering nowhere) plainJob (some 0) {}).2.finals.map
        (·.lookup "status") = [some (.str DONE)] ∧
      ¬ ∀ inv ∈ run (scanActor publicPython {} (fun _ => answering nowhere) plainJob)
        MAX_RETRIES {},
        OnlySuccessScanned publicPython {} (fun _ => answering nowhere) plainJob inv := by
  refine ⟨rfl, rfl, fun h => ?_⟩
  have honly := h (invoke (scanActor publicPython {} (fun _ => answering nowhere) plainJob) 0 {})
    (List.mem_singleton.2 rfl)
  obtain ⟨response, hr, hsuccess⟩ := honly.scanned (List.cons_ne_nil (encode "moved") [])
  have hfinal : Except.ok nowhere = Except.ok response := hr.final
  cases hfinal
  exact absurd hsuccess.2 (by decide)

theorem only_success_scanned_missing :
    OnlySuccessScanned publicPython {} (fun _ => answering missing) plainJob
      (invoke (scanActor publicPython {} (fun _ => answering missing) plainJob) 0 {}) := by
  refine (only_success_scanned_iff publicPython {} (fun _ => answering missing) plainJob {}
    (fun _ => ⟨rfl, rfl, rfl⟩) (fun _ _ => rfl) (.inl rfl) (fun _ response hr e he => ?_)).2
    (fun inv _ response hr => ?_) _ (List.mem_singleton.2 rfl)
  · have hfinal : Except.ok missing = Except.ok response := hr.final
    cases hfinal
    cases he
  · have hfinal : Except.ok missing = Except.ok response := hr.final
    cases hfinal
    exact .inr (.inl ⟨by decide, by decide⟩)

end FileScanner
