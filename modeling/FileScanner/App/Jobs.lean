import FileScanner.App.Scan
import FileScanner.Tasks

namespace FileScanner
open Collections Fallible
set_option autoImplicit true

/-- The body of an asynchronous request; an absent selector is the empty list. -/
structure ScanAsyncRequest where
  url : String
  filename : Json := .null
  webhookUrl : Option String := none
  metadata : Json := .null
  categories : List String := []
  scanners : List String := []
  encryption : Json := .null

def badUrl : Exc → Failure
  | .ssrfValidationError m => .http 400 m
  | e => .unhandled e

def requireChannel (settings : Settings) (webhookUrl : Option String) : Except Failure Unit :=
  raiseIf (webhookUrl.filter (· ≠ "") = none ∧ enabled settings = false)
    (.http 422 "webhook_url is required (no result store configured to poll)")

def accept (py : Python) (settings : Settings) (registry : Registry) (dns : Dns)
    (path username jobId : String) (body : ScanAsyncRequest) : Except Failure ScanMessage := do
  let names ← resolve py settings registry body.categories body.scanners
  (assertSizeCapDecidable settings names settings.maxUrlSize "MAX_URL_SIZE").mapError badRequest
  (assertScannable py settings dns body.url body.webhookUrl).mapError badUrl
  requireChannel settings body.webhookUrl
  pure { jobId := jobId, url := body.url, scanners := names, filename := body.filename,
         webhookUrl := body.webhookUrl, metadata := body.metadata, apiClient := username,
         encryptionParams := body.encryption, wireVersion := ofPath path }

def pendingRecord (msg : ScanMessage) : Dict String Json :=
  [("job_id", .str msg.jobId), ("status", .str PENDING), ("filename", msg.filename),
    ("metadata", msg.metadata)]

def jobStatus (settings : Settings) (fails : Bool) (store : Store) (path jobId username : String) :
    Except Failure (Dict String Json) := do
  raiseIf (enabled settings = false)
    (.http 404 "result store is disabled (WORKER_RESULT_TTL=0)")
  match fetchRecord settings fails store jobId username with
  | none => .error (.http 404 "job not found")
  | some record => pure (serialize record (ofPath path))

end FileScanner
