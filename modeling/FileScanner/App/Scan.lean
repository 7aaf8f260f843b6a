import FileScanner.Lib.Fallible
import FileScanner.Registry
import FileScanner.Wire

namespace FileScanner
open Collections Fallible
set_option autoImplicit true

/-- How an endpoint fails: with an `HTTPException`, or with one nothing handles (a 500). -/
inductive Failure where
  | http (statusCode : Nat) (detail : String)
  | unhandled (e : Exc)
  deriving DecidableEq, Repr

def badRequest : Exc → Failure
  | .valueError m => .http 400 m
  | e => .unhandled e

def splitParam (raw : Option String) : List String := commaList (raw.getD "")

def resolve (py : Python) (settings : Settings) (registry : Registry)
    (categories scanners : List String) : Except Failure (List String) :=
  (resolveScanners py settings registry categories scanners).mapError badRequest

/-- The end of the synchronous endpoint, once the report is there. -/
def answer (report : ScanReport) (path : String) : Except Failure (Dict String Json) :=
  if report.allErrored then .error (.http 503 "scan temporarily unavailable")
  else .ok (serialize report.asDict (ofPath path))

def scan (py : Python) (settings : Settings) (registry : Registry) (elapsed : String → Rat)
    (path : String) (categories scanners : Option String) (data : Bytes) :
    Except Failure (Dict String Json) := do
  let names ← resolve py settings registry (splitParam categories) (splitParam scanners)
  raiseIf (settings.maxUploadSize < data.length) (.http 413 "File Too Large")
  (assertSizeCapDecidable settings names settings.maxUploadSize "MAX_UPLOAD_SIZE").mapError
    badRequest
  let report ← (runScanners settings ⟨registry, fun _ => .ok data, elapsed⟩ names).mapError
    .unhandled
  answer report path

theorem answer_of_not_allErrored {report : ScanReport} (h : report.allErrored = false)
    (path : String) : answer report path = .ok (serialize report.asDict (ofPath path)) := by
  rw [answer, h]
  rfl

end FileScanner
