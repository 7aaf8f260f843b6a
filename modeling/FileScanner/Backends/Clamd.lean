import FileScanner.Lib.Fallible
import FileScanner.Registry
import Mathlib.Data.List.Infix

namespace FileScanner
open Collections Fallible
set_option autoImplicit true

/-- What a clamd client raises, as far as the backends tell it apart. -/
inductive ClamdError where
  | connectionError (msg : String)
  | bufferTooLong (msg : String)
  | brokenPipe (msg : String)
  | connectionReset (msg : String)
  /-- Any other `OSError`, a socket timeout for instance. -/
  | osError (msg : String)
  | other (e : Exc)

/-- The error as it leaves a backend that does not handle it. -/
def ClamdError.exc : ClamdError → Exc
  | .connectionError m | .bufferTooLong m | .brokenPipe m | .connectionReset m | .osError m =>
    .exception m
  | .other e => e

/-- A reply of `instream`: the scanned name with its status and reason, or nothing. -/
abbrev ClamdReply := Option (Dict String (String × Option String))

def TRANSIENT_HINTS : List String := ["allocate", "time limit", "timeout", "no space"]

def LIMIT_ALERT : String := "Heuristics.Limits.Exceeded"

def orEmpty (reason : Option String) : String := reason.getD ""

def isTransient (py : Python) (reason : Option String) : Bool :=
  TRANSIENT_HINTS.any (fun h => decide (h.toList <:+: (py.lower (orEmpty reason)).toList))

def startsWith (text start : String) : Bool := start.toList.isPrefixOf text.toList

def LIMIT_HINT : String :=
  "a file above clamd's StreamMaxLength? (raise CLAMD_CONF_StreamMaxLength "
    ++ "/ MaxFileSize / MaxScanSize past MAX_URL_SIZE)"

def formatReason (reason : Option String) : String := reason.getD "None"

/-- A `ERROR` reply: the file was not fully scanned, so it is never clean. -/
def errorVerdict (py : Python) (reason : Option String) : Except Exc Verdict :=
  if isTransient py reason then .error (.scannerError ("scan error: " ++ formatReason reason))
  else .ok (partialVerdict (.str "UNSCANNABLE"))

def clamavVerdict (py : Python) (status : String) (reason : Option String) :
    Except Exc Verdict :=
  if status = "OK" then .ok clean
  else if status = "ERROR" then errorVerdict py reason
  else if startsWith (orEmpty reason) LIMIT_ALERT then
    .ok (partialVerdict (.str "LIMITS-EXCEEDED"))
  else .ok (malware ((reason.map Json.str).getD .null))

def clamavScan (py : Python) (instream : Bytes → Except ClamdError ClamdReply)
    (fileobj : Bytes) : Except Exc Verdict :=
  match instream fileobj with
  | .error (.connectionError m) =>
    .error (.scannerError ("clamd connection failed: " ++ m ++ " — daemon unreachable, or "
      ++ LIMIT_HINT))
  | .error (.brokenPipe m) | .error (.connectionReset m) | .error (.bufferTooLong m) =>
    .error (.scannerError ("clamd closed the stream mid-scan: " ++ LIMIT_HINT ++ ": " ++ m))
  | .error e => .error e.exc
  | .ok none | .ok (some []) =>
    .error (.scannerError ("clamd sent no reply: " ++ LIMIT_HINT))
  | .ok (some result) =>
    match result.lookup "stream" with
    | none => .error (.keyError "stream")
    | some (status, reason) => clamavVerdict py status reason

def exavVerdict (py : Python) (data : Json) : Except Exc Verdict := do
  let status ← data.get "status"
  if status.isStr "OK" then pure clean
  else if status.isStr "FOUND" then
    let signature ← data.get "signature"
    let location ← data.get "location"
    pure { kind := .malware, reason := signature, location := location }
  else if status.isStr "PARTIAL" then
    let category ← data.get "category"
    pure (partialVerdict (category.orElse (.str "UNSCANNABLE")))
  else if status.isStr "ERROR" then
    let reason ← data.get "reason"
    throw (.scannerError ("exav scan error: "
      ++ py.format (reason.orElse (.str "unspecified"))))
  else throw (.scannerError ("exav returned an unknown status: " ++ py.repr status))

def parseVerdict (py : Python) (raw : String) : Except Exc Verdict :=
  if startsWith raw "UNKNOWN COMMAND" then
    .error (.scannerError "exav does not support EXINSTREAM (upgrade the daemon)")
  else
    match py.loads raw with
    | .error (.jsonDecodeError _) | .error (.typeError _) =>
      .error (.scannerError ("exav returned a non-JSON reply: "
        ++ py.repr (.str (String.ofList (raw.toList.take 80)))))
    | .error e => .error e
    | .ok data => exavVerdict py data

def exavScan (py : Python) (exinstream : Bytes → Except ClamdError String)
    (fileobj : Bytes) : Except Exc Verdict :=
  match exinstream fileobj with
  | .error (.connectionError m) | .error (.brokenPipe m) | .error (.connectionReset m)
  | .error (.osError m) => .error (.scannerError ("exav scan failed: " ++ m))
  | .error e => .error e.exc
  | .ok raw => parseVerdict py raw

def ClamdOk (reply : Except ClamdError ClamdReply) : Prop :=
  ∃ result reason, reply = .ok (some result) ∧ result.lookup "stream" = some ("OK", reason)

/-- A clamd detection: neither of its other words, and no limit it hit. -/
def ClamdFound (reply : Except ClamdError ClamdReply) : Prop :=
  ∃ result status reason, reply = .ok (some result) ∧
    result.lookup "stream" = some (status, reason) ∧ status ≠ "OK" ∧ status ≠ "ERROR" ∧
    startsWith (orEmpty reason) LIMIT_ALERT = false

/-- An exav reply line that is a JSON object with this status. -/
def ExavStatus (py : Python) (status : String) (reply : Except ClamdError String) : Prop :=
  ∃ raw entries, reply = .ok raw ∧ startsWith raw "UNKNOWN COMMAND" = false ∧
    py.loads raw = .ok (.obj entries) ∧ entries.lookup "status" = some (.str status)

theorem clamavVerdict_clean {py : Python} {status : String} {reason : Option String} {v : Verdict}
    (h : clamavVerdict py status reason = .ok v) (hv : v.kind = .clean) : status = "OK" := by
  rw [clamavVerdict] at h
  split at h
  · assumption
  · split at h
    · rw [errorVerdict] at h
      split at h
      · cases h
      · cases h
        cases hv
    · split at h
      · cases h
        cases hv
      · cases h
        cases hv

theorem clamavVerdict_found {status : String} {reason : Option String} (py : Python)
    (hok : status ≠ "OK") (herr : status ≠ "ERROR")
    (hlim : startsWith (orEmpty reason) LIMIT_ALERT = false) :
    clamavVerdict py status reason = .ok (malware ((reason.map Json.str).getD .null)) := by
  rw [clamavVerdict, if_neg hok, if_neg herr, hlim, if_neg Bool.false_ne_true]

theorem clamavScan_clean {py : Python} {instream : Bytes → Except ClamdError ClamdReply}
    {data : Bytes} {v : Verdict} (h : clamavScan py instream data = .ok v)
    (hv : v.kind = .clean) : ClamdOk (instream data) := by
  rw [clamavScan] at h
  split at h <;> try cases h
  rename_i result _ hreply
  split at h
  · cases h
  · rename_i status reason hl
    have hs := clamavVerdict_clean h hv
    subst hs
    exact ⟨result, reason, hreply, hl⟩

theorem clamavScan_found (py : Python) {instream : Bytes → Except ClamdError ClamdReply}
    {data : Bytes} (h : ClamdFound (instream data)) :
    ∃ v, clamavScan py instream data = .ok v ∧ v.kind = .malware := by
  obtain ⟨result, status, reason, hreply, hl, hok, herr, hlim⟩ := h
  have hne : result ≠ [] := by
    rintro rfl
    cases hl
  obtain ⟨e, result, rfl⟩ := List.exists_cons_of_ne_nil hne
  rw [clamavScan, hreply]
  simp only [hl]
  exact ⟨_, clamavVerdict_found py hok herr hlim, rfl⟩

theorem exavVerdict_clean {py : Python} {data : Json} {v : Verdict}
    (h : exavVerdict py data = .ok v) (hv : v.kind = .clean) :
    ∃ status, data.get "status" = .ok status ∧ status.isStr "OK" = true := by
  rw [exavVerdict] at h
  obtain ⟨status, hs, h⟩ := bind_eq_ok.1 h
  split at h
  · exact ⟨status, hs, by assumption⟩
  · split at h
    · obtain ⟨signature, -, h⟩ := bind_eq_ok.1 h
      obtain ⟨location, -, h⟩ := bind_eq_ok.1 h
      cases h
      cases hv
    · split at h
      · obtain ⟨category, -, h⟩ := bind_eq_ok.1 h
        cases h
        cases hv
      · split at h
        · obtain ⟨reason, -, h⟩ := bind_eq_ok.1 h
          cases h
        · cases h

theorem Json.get_eq_str {data : Json} {key text : String} (h : data.get key = .ok (.str text)) :
    ∃ entries, data = .obj entries ∧ entries.lookup key = some (.str text) := by
  cases data with
  | obj entries =>
    refine ⟨entries, rfl, ?_⟩
    rw [get, Except.ok.injEq] at h
    cases hl : entries.lookup key with
    | none =>
      rw [hl] at h
      cases h
    | some v =>
      rw [hl, Option.getD_some] at h
      rw [h]
  | _ => cases h

theorem exavScan_clean {py : Python} {exinstream : Bytes → Except ClamdError String}
    {data : Bytes} {v : Verdict} (h : exavScan py exinstream data = .ok v)
    (hv : v.kind = .clean) : ExavStatus py "OK" (exinstream data) := by
  rw [exavScan] at h
  split at h <;> try cases h
  rename_i raw hreply
  rw [parseVerdict] at h
  split at h
  · cases h
  · rename_i hcmd
    split at h <;> try cases h
    rename_i json hjson
    obtain ⟨status, hs, hok⟩ := exavVerdict_clean h hv
    rw [Json.isStr_iff.1 hok] at hs
    obtain ⟨entries, rfl, hl⟩ := Json.get_eq_str hs
    exact ⟨raw, entries, hreply, Bool.eq_false_of_not_eq_true hcmd, hjson, hl⟩

theorem exavVerdict_found (py : Python) {entries : List (String × Json)}
    (h : entries.lookup "status" = some (.str "FOUND")) :
    ∃ v, exavVerdict py (.obj entries) = .ok v ∧ v.kind = .malware := by
  have hs : (Json.obj entries).get "status" = .ok (.str "FOUND") := by
    rw [Json.get, h, Option.getD_some]
  rw [exavVerdict, hs, ok_bind]
  exact ⟨_, rfl, rfl⟩

theorem exavScan_found {py : Python} {exinstream : Bytes → Except ClamdError String}
    {data : Bytes} (h : ExavStatus py "FOUND" (exinstream data)) :
    ∃ v, exavScan py exinstream data = .ok v ∧ v.kind = .malware := by
  obtain ⟨raw, entries, hreply, hcmd, hjson, hl⟩ := h
  rw [exavScan, hreply]
  simp only [parseVerdict, hcmd, hjson]
  exact exavVerdict_found py hl

end FileScanner
