import FileScanner.Download
import FileScanner.Lib.Retry
import FileScanner.Registry
import FileScanner.Results
import FileScanner.Validation
import FileScanner.Wire

namespace FileScanner
open Collections Fallible Queues
set_option autoImplicit true

def MAX_RETRIES : Nat := 2

structure ScanMessage where
  jobId : String
  url : String
  scanners : List String
  filename : Json := .null
  webhookUrl : Option String := none
  metadata : Json := .null
  apiClient : String := ""
  encryptionParams : Json := .null
  wireVersion : String := V1

/-- The steps of the try block, where anything else may go wrong as well. -/
inductive Step where
  | policy
  | connect
  | status
  | sizeGuard
  | openScratch
  | stream
  | log
  | scan
  deriving DecidableEq, Repr

structure Env where
  dns : Dns
  net : Network
  gcm : AesGcm
  registry : Registry
  elapsed : String → Rat := fun _ => 0
  openFails : String → Option Exc := fun _ => none
  fault : Step → Option Exc := fun _ => none
  storeFails : Bool := false
  enqueueFails : Option Exc := none
  removeFails : Option Exc := none

def Env.at {α : Type} (env : Env) (step : Step) (x : Except Exc α) : Except Exc α :=
  match env.fault step with
  | some e => .error e
  | none => x

theorem at_eq_ok {env : Env} {step : Step} {x : Except Exc α} {a : α} :
    env.at step x = .ok a ↔ env.fault step = none ∧ x = .ok a := by
  rw [Env.at]
  cases env.fault step <;> simp

def Env.scanEnv (env : Env) (file : Bytes) : ScanEnv where
  registry := env.registry
  openFile name :=
    match env.openFails name with
    | some e => .error e
    | none => .ok file
  elapsed := env.elapsed

/-- What the worker has done so far: the shared store, the callbacks enqueued, the results handed
to `_finalize`, the files handed to the scanners, and the number of scratch files on disk. -/
structure World where
  store : Store := []
  sent : List (String × Dict String Json) := []
  finals : List (Dict String Json) := []
  scans : List Bytes := []
  scratch : Nat := 0

/-- True when a failure is to be reported now; outside a worker there is no retry loop. -/
def retriesExhausted : Option Nat → Bool
  | none => true
  | some retries => decide (MAX_RETRIES ≤ retries)

def ScanMessage.result (msg : ScanMessage) : Dict String Json :=
  [("job_id", .str msg.jobId), ("filename", msg.filename), ("metadata", msg.metadata)]

def ScanMessage.webhook (msg : ScanMessage) : Option String := msg.webhookUrl.filter (· ≠ "")

def enqueue (env : Env) (msg : ScanMessage) (result : Dict String Json) (w : World) :
    Except Exc Unit × World :=
  match msg.webhook with
  | none => (.ok (), w)
  | some url =>
    match env.enqueueFails with
    | some e => (.error e, w)
    | none => (.ok (), { w with sent := w.sent ++ [(url, serialize result msg.wireVersion)] })

def finalize (settings : Settings) (env : Env) (msg : ScanMessage) (result : Dict String Json)
    (w : World) : Except Exc Unit × World :=
  enqueue env msg result
    { w with
      finals := w.finals ++ [result]
      store := record settings env.storeFails w.store msg.jobId msg.apiClient result }

def errorEntries (kind message : String) : Dict String Json :=
  [("status", .str ERROR), ("error_kind", .str kind), ("error", .str message)]

def reportError (settings : Settings) (env : Env) (msg : ScanMessage) (kind message : String)
    (w : World) : Except Exc Unit × World :=
  finalize settings env msg (msg.result.update (errorEntries kind message)) w

def deliveredResult (msg : ScanMessage) (report : ScanReport) (transientError : Bool) :
    Dict String Json :=
  let result := msg.result.update report.asDict
  if transientError then result.update (errorEntries "transient" "all scanners failed")
  else result.set "status" (.str DONE)

def deliver (settings : Settings) (env : Env) (msg : ScanMessage) (report : ScanReport)
    (transientError : Bool) (w : World) : Except Exc Unit × World :=
  finalize settings env msg (deliveredResult msg report transientError) w

/-- The guard on the declared length, under the cap of this source. -/
def sizeGuard (py : Python) (settings : Settings) (enc : Json) (response : Response) :
    Except Exc Unit := do
  let cap ← wireCap py settings enc
  checkDeclared py cap response.contentLength

/-- The try block up to the response whose body is to be read. -/
def fetch (py : Python) (settings : Settings) (env : Env) (msg : ScanMessage) :
    Except Exc Response := do
  env.at .policy (assertScannable py settings env.dns msg.url msg.webhookUrl)
  let response ← env.at .connect (requestWithRedirects py settings env.net true msg.url).1
  env.at .status (raiseForStatus response)
  env.at .sizeGuard (sizeGuard py settings msg.encryptionParams response)
  pure response

/-- The checks before the body is read, and the scratch file it goes to. -/
def openScratch (py : Python) (settings : Settings) (env : Env) (msg : ScanMessage) :
    Except Exc (Body → Except Exc (Nat × Bytes)) := do
  let write ← bodyWriter py env.gcm settings msg.encryptionParams
  env.at .openScratch (.ok write)

def writeScratch (env : Env) (write : Body → Except Exc (Nat × Bytes)) (response : Response) :
    Except Exc Bytes := do
  let (_, file) ← env.at .stream (write response.body)
  env.at .log (.ok ())
  pure file

def download (py : Python) (settings : Settings) (env : Env) (msg : ScanMessage) :
    Except Exc Bytes × Bool :=
  match fetch py settings env msg with
  | .error e => (.error e, false)
  | .ok response =>
    match openScratch py settings env msg with
    | .error e => (.error e, false)
    | .ok write => (writeScratch env write response, true)

/-- How the try block ended, whether its scratch file exists, and what was scanned. -/
structure Attempted where
  outcome : Except Exc ScanReport
  scratch : Bool
  scanned : List Bytes

def tryBlock (py : Python) (settings : Settings) (env : Env) (msg : ScanMessage) : Attempted :=
  match download py settings env msg with
  | (.error e, scratch) => ⟨.error e, scratch, []⟩
  | (.ok file, scratch) =>
    match env.fault .scan with
    | some e => ⟨.error e, scratch, []⟩
    | none => ⟨runScanners settings (env.scanEnv file) msg.scanners, scratch, [file]⟩

/-- How an exception is reported at once; none is for the retries. -/
def reportedAs : Exc → Option (String × String)
  | .fileError m => some ("file", m)
  | .decryptionError m => some ("file", "decryption_failed: " ++ m)
  | .ssrfValidationError m => some ("file", "ssrf_blocked: " ++ m)
  | .requestException m => some ("transient", "download_failed: " ++ m)
  | _ => none

def handle (settings : Settings) (env : Env) (msg : ScanMessage) (retries : Option Nat)
    (e : Exc) (w : World) : Except Exc Unit × World :=
  match reportedAs e with
  | some (kind, message) => reportError settings env msg kind message w
  | none =>
    if retriesExhausted retries then reportError settings env msg "transient" e.msg w
    else (.error e, w)

/-- The finally clause: remove the scratch file, whatever the outcome so far. -/
def cleanup (env : Env) (scratch : Bool) (r : Except Exc Unit × World) :
    Except Exc Unit × World :=
  if scratch then
    match env.removeFails with
    | some e => (.error e, r.2)
    | none => (r.1, { r.2 with scratch := r.2.scratch - 1 })
  else r

def conclude (settings : Settings) (env : Env) (msg : ScanMessage) (retries : Option Nat)
    (report : ScanReport) (w : World) : Except Exc Unit × World :=
  if report.allErrored then
    if !retriesExhausted retries then
      (.error (.scannerError "all scanners failed transiently"), w)
    else deliver settings env msg report true w
  else deliver settings env msg report false w

/-- The world after the try block: its scratch file and what it had scanned. -/
def World.attempted (w : World) (a : Attempted) : World :=
  { w with
    scans := w.scans ++ a.scanned
    scratch := if a.scratch then w.scratch + 1 else w.scratch }

def scanTask (py : Python) (settings : Settings) (env : Env) (msg : ScanMessage)
    (retries : Option Nat) (w : World) : Except Exc Unit × World :=
  let attempted := tryBlock py settings env msg
  let w := w.attempted attempted
  match attempted.outcome with
  | .error e => cleanup env attempted.scratch (handle settings env msg retries e w)
  | .ok report =>
    match cleanup env attempted.scratch (.ok (), w) with
    | (.error e, w) => (.error e, w)
    | (.ok (), w) => conclude settings env msg retries report w

/-- `scan_task` as an actor: attempt `i` sees `retries = i` and meets the i-th environment. -/
def scanActor (py : Python) (settings : Settings) (envs : Nat → Env) (msg : ScanMessage) :
    Actor World Exc Unit :=
  fun retries w => scanTask py settings (envs retries) msg (some retries) w

end FileScanner
