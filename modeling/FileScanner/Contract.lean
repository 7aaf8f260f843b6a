import FileScanner.Backends
import FileScanner.FailClosed
import FileScanner.JcopRun

namespace FileScanner
open Collections Fallible Traces
set_option autoImplicit true

def IsScannerError : Exc → Prop
  | .scannerError _ => True
  | _ => False

/-- `scan` gives a verdict it may give, or raises a `ScannerError`. -/
structure KeepsContract (result : Except Exc Verdict) : Prop where
  raises : RaisesOnly IsScannerError result
  kinds : ∀ v, result = .ok v → v.kind ∈ [Kind.clean, .malware, .partialScan]

theorem keepsContract_raised {e : Exc} : KeepsContract (.error e) ↔ IsScannerError e := by
  constructor
  · intro h
    exact h.raises e rfl
  · intro h
    exact ⟨.error h, fun v hv => nomatch hv⟩

theorem keepsContract_verdict {v : Verdict} (h : v.kind ∈ [Kind.clean, .malware, .partialScan]) :
    KeepsContract (.ok v) := by
  constructor
  · exact .ok v
  · intro v' hv
    cases hv
    exact h

theorem KeepsContract.clean : KeepsContract (.ok clean) :=
  keepsContract_verdict List.mem_cons_self

theorem KeepsContract.malware {v : Verdict} (h : v.kind = .malware) : KeepsContract (.ok v) :=
  keepsContract_verdict (by rw [h]; decide)

theorem KeepsContract.partialScan (reason : Json) : KeepsContract (.ok (partialVerdict reason)) :=
  keepsContract_verdict (List.mem_cons_of_mem _ (List.mem_cons_of_mem _ List.mem_cons_self))

theorem KeepsContract.scannerError (m : String) : KeepsContract (.error (.scannerError m)) :=
  keepsContract_raised.2 trivial

/-- clamd's reply names the stream, there is none, or the client raises what `scan` handles. -/
def ClamdAnswered : Except ClamdError ClamdReply → Prop
  | .error (.connectionError _) | .error (.bufferTooLong _) | .error (.brokenPipe _)
  | .error (.connectionReset _) => True
  | .error (.osError _) => False
  | .error (.other e) => IsScannerError e
  | .ok none | .ok (some []) => True
  | .ok (some result) => ∃ reply, result.lookup "stream" = some reply

theorem clamavVerdict_keeps (py : Python) (status : String) (reason : Option String) :
    KeepsContract (clamavVerdict py status reason) := by
  rw [clamavVerdict]
  split
  · exact .clean
  · split
    · rw [errorVerdict]
      split
      · exact .scannerError _
      · exact .partialScan _
    · split
      · exact .partialScan _
      · exact .malware rfl

theorem clamavScan_keeps_iff (py : Python) (instream : Bytes → Except ClamdError ClamdReply)
    (data : Bytes) :
    KeepsContract (clamavScan py instream data) ↔ ClamdAnswered (instream data) := by
  rw [clamavScan]
  generalize instream data = reply
  cases reply with
  | error e =>
    cases e with
    | osError m => exact keepsContract_raised
    | other e => exact keepsContract_raised
    | _ => exact iff_of_true (.scannerError _) trivial
  | ok result =>
    cases result with
    | none => exact iff_of_true (.scannerError _) trivial
    | some result =>
      cases result with
      | nil => exact iff_of_true (.scannerError _) trivial
      | cons e result =>
        simp only [ClamdAnswered]
        cases (e :: result).lookup "stream" with
        | none =>
          apply iff_of_false keepsContract_raised.1
          intro h
          obtain ⟨reply, h⟩ := h
          cases h
        | some reply => exact iff_of_true (clamavVerdict_keeps py _ _) ⟨reply, rfl⟩

def Json.IsObj (v : Json) : Prop := ∃ entries, v = .obj entries

/-- exav's line is a JSON object, is not JSON or names the missing verb, or the client raises
what `scan` handles. -/
def ExavAnswered (py : Python) : Except ClamdError String → Prop
  | .error (.connectionError _) | .error (.brokenPipe _) | .error (.connectionReset _)
  | .error (.osError _) => True
  | .error (.bufferTooLong _) => False
  | .error (.other e) => IsScannerError e
  | .ok raw => startsWith raw "UNKNOWN COMMAND" = true ∨
    match py.loads raw with
    | .error (.jsonDecodeError _) | .error (.typeError _) => True
    | .error e => IsScannerError e
    | .ok data => data.IsObj

theorem Json.get_obj {v : Json} (h : v.IsObj) (key : String) : ∃ value, v.get key = .ok value := by
  obtain ⟨entries, rfl⟩ := h
  exact ⟨_, rfl⟩

theorem Json.get_not_obj {v : Json} (h : ¬ v.IsObj) (key : String) :
    ∃ m, v.get key = .error (.attributeError m) := by
  cases v with
  | obj entries => exact absurd ⟨entries, rfl⟩ h
  | _ => exact ⟨_, rfl⟩

theorem exavVerdict_keeps_iff (py : Python) (data : Json) :
    KeepsContract (exavVerdict py data) ↔ data.IsObj := by
  by_cases hobj : data.IsObj
  · apply iff_of_true _ hobj
    obtain ⟨status, hs⟩ := Json.get_obj hobj "status"
    obtain ⟨signature, hsignature⟩ := Json.get_obj hobj "signature"
    obtain ⟨location, hlocation⟩ := Json.get_obj hobj "location"
    obtain ⟨category, hcategory⟩ := Json.get_obj hobj "category"
    obtain ⟨reason, hreason⟩ := Json.get_obj hobj "reason"
    rw [exavVerdict, hs, ok_bind, hsignature, hlocation, hcategory, hreason]
    simp only [ok_bind]
    split
    · exact .clean
    · split
      · exact .malware rfl
      · split
        · exact .partialScan _
        · split
          · exact .scannerError _
          · exact .scannerError _
  · obtain ⟨m, hm⟩ := Json.get_not_obj hobj "status"
    rw [exavVerdict, hm, error_bind]
    exact iff_of_false keepsContract_raised.1 hobj

theorem parseVerdict_keeps_iff (py : Python) (raw : String) :
    KeepsContract (parseVerdict py raw) ↔ ExavAnswered py (.ok raw) := by
  rw [parseVerdict, ExavAnswered]
  split
  · rename_i hcmd
    exact iff_of_true (.scannerError _) (.inl hcmd)
  · rename_i hcmd
    rw [or_iff_right hcmd]
    cases py.loads raw with
    | ok data => exact exavVerdict_keeps_iff py data
    | error e =>
      cases e with
      | jsonDecodeError m => exact iff_of_true (.scannerError _) trivial
      | typeError m => exact iff_of_true (.scannerError _) trivial
      | _ => exact keepsContract_raised

theorem exavScan_keeps_iff (py : Python) (exinstream : Bytes → Except ClamdError String)
    (data : Bytes) :
    KeepsContract (exavScan py exinstream data) ↔ ExavAnswered py (exinstream data) := by
  rw [exavScan]
  generalize exinstream data = reply
  cases reply with
  | error e =>
    cases e with
    | bufferTooLong m => exact keepsContract_raised
    | other e => exact keepsContract_raised
    | _ => exact iff_of_true (.scannerError _) trivial
  | ok raw => exact parseVerdict_keeps_iff py raw

/-- The body is the JSON object that a lookup's reply should be. -/
def JcopReply.Object (r : JcopReply) : Prop :=
  match r.json with
  | .error e => IsScannerError e
  | .ok content => content.IsObj

/-- The body is a JSON object with an id, as a submission's reply should be. -/
def JcopReply.HasId (r : JcopReply) : Prop :=
  match r.json with
  | .error e => IsScannerError e
  | .ok content => ∃ entries id, content = .obj entries ∧ entries.lookup "id" = some id

theorem doneContent_raises_iff (r : JcopReply) :
    RaisesOnly IsScannerError (doneContent r) ↔ r.Object := by
  rw [doneContent, JcopReply.Object]
  cases r.json with
  | error e => exact raisesOnly_error
  | ok content =>
    by_cases hobj : content.IsObj
    · obtain ⟨done, hdone⟩ := Json.get_obj hobj "done"
      simp only [ok_bind, hdone]
      exact iff_of_true (.ok _) hobj
    · obtain ⟨m, hm⟩ := Json.get_not_obj hobj "done"
      simp only [ok_bind, hm, error_bind]
      exact iff_of_false raisesOnly_error.1 hobj

theorem isObj_of_done {r : JcopReply} {content : Json} (h : doneContent r = .ok (some content)) :
    content.IsObj := by
  rw [doneContent] at h
  obtain ⟨content', -, h⟩ := bind_eq_ok.1 h
  obtain ⟨done, hdone, h⟩ := bind_eq_ok.1 h
  split at h
  · cases h
    by_contra hobj
    obtain ⟨m, hm⟩ := Json.get_not_obj hobj "done"
    cases hm.symm.trans hdone
  · cases h

theorem Json.item_ok {content v : Json} {key : String} (h : content.item key = .ok v) :
    ∃ entries, content = .obj entries ∧ entries.lookup key = some v := by
  cases content with
  | obj entries =>
    rw [Json.item] at h
    split at h
    · cases h
      exact ⟨entries, rfl, by assumption⟩
    · cases h
  | _ => cases h

theorem Json.item_error {content : Json} {key : String} {e : Exc}
    (h : content.item key = .error e) : ¬ IsScannerError e := by
  cases content with
  | obj entries =>
    rw [Json.item] at h
    split at h
    · cases h
    · cases h
      exact id
  | _ =>
    cases h
    exact id

theorem submittedId_raises_iff (py : Python) (r : JcopReply) :
    RaisesOnly IsScannerError (submittedId py r) ↔ r.HasId := by
  rw [submittedId, JcopReply.HasId]
  cases r.json with
  | error e => exact raisesOnly_error
  | ok content =>
    simp only [Except.bind]
    cases hid : content.item "id" with
    | ok v =>
      obtain ⟨entries, hobj, hlookup⟩ := Json.item_ok hid
      exact iff_of_true (.ok _) ⟨entries, v, hobj, hlookup⟩
    | error e =>
      apply iff_of_false
      · intro h
        exact Json.item_error hid (h e rfl)
      · intro h
        obtain ⟨entries, v, rfl, hlookup⟩ := h
        simp only [Json.item, hlookup] at hid
        cases hid

/-- Round `k` of polling is in time and its reply keeps the loop waiting. -/
def Waits (svc : JcopService) (k : Nat) : Prop :=
  svc.clock.read k < svc.deadline svc.clock.read ∧ ∃ r, svc.reply k = .ok r ∧
    r.statusCode ≠ 401 ∧ (r.statusCode = 200 → doneContent r = .ok none)

/-- Round `k` of polling is in time and its reply is 200 without the object. -/
def Misleads (svc : JcopService) (k : Nat) : Prop :=
  svc.clock.read k < svc.deadline svc.clock.read ∧ ∃ r, svc.reply k = .ok r ∧
    r.statusCode = 200 ∧ ¬ r.Object

/-- Polling from round `n` on comes to such a reply. -/
def PollMisled (svc : JcopService) (n : Nat) : Prop := Until (Waits svc) (Misleads svc) n

/-- The submission is in time and answered 200. -/
def Submitted (svc : JcopService) (r : JcopReply) : Prop :=
  svc.clock.read 1 < svc.deadline svc.clock.read ∧ svc.reply 1 = .ok r ∧ r.statusCode = 200

/-- The submission is answered 200 without the object or its id, or polling goes wrong after
it. -/
def SubmitMisled (py : Python) (svc : JcopService) : Prop :=
  ∃ r, Submitted svc r ∧
    (¬ r.HasId ∨ ((∃ key, submittedId py r = .ok key) ∧ PollMisled svc 2))

/-- The run comes to a 200 reply whose body is not the JSON it should be. -/
def JcopMisled (py : Python) (svc : JcopService) : Prop :=
  ∃ r, svc.reply 0 = .ok r ∧
    ((r.statusCode = 200 ∧ (¬ r.Object ∨ (doneContent r = .ok none ∧ PollMisled svc 1))) ∨
      (r.statusCode = 404 ∧ SubmitMisled py svc))

theorem Object.of_content {r : JcopReply} {content : Option Json}
    (h : doneContent r = .ok content) : r.Object := by
  apply (doneContent_raises_iff r).1
  rw [h]
  exact .ok content

theorem not_misleads {svc : JcopService} {k : Nat} {r : JcopReply} (hr : svc.reply k = .ok r)
    (h : r.statusCode = 200 → r.Object) : ¬ Misleads svc k := by
  intro hmisleads
  obtain ⟨-, r', hr', hs, hobj⟩ := hmisleads
  cases hr.symm.trans hr'
  exact hobj (h hs)

theorem misleads_iff {svc : JcopService} {k : Nat} {r : JcopReply}
    (htime : svc.clock.read k < svc.deadline svc.clock.read) (hr : svc.reply k = .ok r)
    (hs : r.statusCode = 200) : Misleads svc k ↔ ¬ r.Object := by
  constructor
  · intro h hobj
    exact not_misleads hr (fun _ => hobj) h
  · intro h
    exact ⟨htime, r, hr, hs, h⟩

theorem not_waits {svc : JcopService} {k : Nat} {r : JcopReply} (hr : svc.reply k = .ok r)
    (h : r.statusCode ≠ 401 → ¬ (r.statusCode = 200 → doneContent r = .ok none)) :
    ¬ Waits svc k := by
  intro hwaits
  obtain ⟨-, r', hr', h401, hnone⟩ := hwaits
  cases hr.symm.trans hr'
  exact h h401 hnone

theorem not_pollMisled {svc : JcopService} {n : Nat} (hm : ¬ Misleads svc n)
    (hw : ¬ Waits svc n) : ¬ PollMisled svc n := by
  intro h
  rcases until_iff.1 h with h | ⟨h, -⟩
  · exact hm h
  · exact hw h

theorem not_waits_of_content {svc : JcopService} {k : Nat} {r : JcopReply}
    (hr : svc.reply k = .ok r) (hs : r.statusCode = 200) (hd : doneContent r ≠ .ok none) :
    ¬ Waits svc k := not_waits hr (fun _ hnone => hd (hnone hs))

theorem not_pollMisled_of_failed {svc : JcopService} {n : Nat} {m : String}
    (hr : svc.reply n = .error m) : ¬ PollMisled svc n := by
  apply not_pollMisled
  · intro hmisleads
    obtain ⟨-, r, hr', -⟩ := hmisleads
    cases hr.symm.trans hr'
  · intro hwaits
    obtain ⟨-, r, hr', -⟩ := hwaits
    cases hr.symm.trans hr'

theorem pollMisled_iff {svc : JcopService} {n : Nat} (hm : ¬ Misleads svc n)
    (hw : Waits svc n) : PollMisled svc n ↔ PollMisled svc (n + 1) := by
  rw [PollMisled, until_iff, or_iff_right hm, and_iff_right hw]
  rfl

theorem poll_raises_iff {svc : JcopService} {key : String} {tick : Nat} {trace : List Exchange}
    (hlen : trace.length = tick) :
    RaisesOnly IsScannerError (poll svc key (svc.deadline svc.clock.read) tick trace).1 ↔
      ¬ PollMisled svc tick := by
  fun_induction poll svc key (svc.deadline svc.clock.read) tick trace with
  | case1 tick trace h e trace' hget =>
    obtain ⟨m, hr, he, rfl⟩ := reply_of_getResult_error hget
    cases he
    rw [hlen] at hr
    exact iff_of_true (.error trivial) (not_pollMisled_of_failed hr)
  | case2 tick trace h r trace' hget hs e hd =>
    obtain ⟨hr, rfl⟩ := reply_of_getResult hget
    rw [hlen] at hr
    have hraise := doneContent_raises_iff r
    rw [hd, raisesOnly_error] at hraise
    have hw : ¬ Waits svc tick := by
      apply not_waits_of_content hr hs
      intro hnone
      cases hd.symm.trans hnone
    rw [raisesOnly_error, hraise, PollMisled, until_iff, or_iff_left (fun hp => hw hp.1),
      misleads_iff h hr hs, not_not]
  | case3 tick trace h r trace' hget hs content hd =>
    obtain ⟨hr, rfl⟩ := reply_of_getResult hget
    rw [hlen] at hr
    apply iff_of_true (.ok _)
    apply not_pollMisled (not_misleads hr (fun _ => Object.of_content hd))
    apply not_waits_of_content hr hs
    intro hnone
    cases hd.symm.trans hnone
  | case4 tick trace h r trace' hget hs hd ih =>
    obtain ⟨hr, rfl⟩ := reply_of_getResult hget
    rw [hlen] at hr
    rw [ih (by rw [List.length_append, hlen]; rfl),
      pollMisled_iff (not_misleads hr (fun _ => Object.of_content hd))
        ⟨h, r, hr, by rw [hs]; decide, fun _ => hd⟩]
  | case5 tick trace h r trace' hget hs h401 =>
    obtain ⟨hr, rfl⟩ := reply_of_getResult hget
    rw [hlen] at hr
    apply iff_of_true (.error trivial)
    apply not_pollMisled (not_misleads hr (fun h200 => absurd h200 hs))
    exact not_waits hr (fun h => absurd h401 h)
  | case6 tick trace h r trace' hget hs h401 ih =>
    obtain ⟨hr, rfl⟩ := reply_of_getResult hget
    rw [hlen] at hr
    rw [ih (by rw [List.length_append, hlen]; rfl),
      pollMisled_iff (not_misleads hr (fun h200 => absurd h200 hs))
        ⟨h, r, hr, h401, fun h200 => absurd h200 hs⟩]
  | case7 tick trace h =>
    apply iff_of_true (.error trivial)
    exact not_pollMisled (fun hm => h hm.1) (fun hw => h hw.1)

theorem submit_sent {svc : JcopService} {r : JcopReply} (h : Submitted svc r) (py : Python)
    (fileobj : Bytes) {trace : List Exchange} (hlen : trace.length = 1) :
    submit py svc fileobj (svc.deadline svc.clock.read) trace =
      (submittedId py r, trace ++ [⟨.post (svc.baseUrl ++ "/submit") fileobj, .ok r⟩]) := by
  obtain ⟨htime, hr, hs⟩ := h
  rw [submit, if_neg (not_le.2 (sub_pos.2 htime)), JcopService.send, hlen, hr]
  exact if_pos hs

theorem submit_refused {svc : JcopService} (h : ∀ r, ¬ Submitted svc r) (py : Python)
    (fileobj : Bytes) {trace : List Exchange} (hlen : trace.length = 1) :
    ∃ m trace', submit py svc fileobj (svc.deadline svc.clock.read) trace =
      (.error (.scannerError m), trace') := by
  rw [submit]
  split
  · exact ⟨_, _, rfl⟩
  · rename_i htime
    rw [JcopService.send, hlen]
    cases hr : svc.reply 1 with
    | error m => exact ⟨_, _, rfl⟩
    | ok r =>
      simp only
      split
      · rename_i hs
        exact absurd ⟨sub_pos.1 (not_le.1 htime), hr, hs⟩ (h r)
      · split
        · exact ⟨_, _, rfl⟩
        · exact ⟨_, _, rfl⟩

/-- The submission, and the polling after it when it gave a key. -/
def submitAndPoll (py : Python) (svc : JcopService) (fileobj : Bytes) (trace : List Exchange) :
    Except Exc Json × List Exchange :=
  match submit py svc fileobj (svc.deadline svc.clock.read) trace with
  | (.error e, trace) => (.error e, trace)
  | (.ok pollKey, trace) => poll svc pollKey (svc.deadline svc.clock.read) 2 trace

theorem submitMisled_iff {py : Python} {svc : JcopService} {r : JcopReply}
    (h : Submitted svc r) : SubmitMisled py svc ↔
      ¬ r.HasId ∨ ((∃ key, submittedId py r = .ok key) ∧ PollMisled svc 2) := by
  constructor
  · intro hmisled
    obtain ⟨r', h', hmisled⟩ := hmisled
    cases h.2.1.symm.trans h'.2.1
    exact hmisled
  · intro hmisled
    exact ⟨r, h, hmisled⟩

theorem submitAndPoll_raises_iff (py : Python) (svc : JcopService) (fileobj : Bytes)
    {trace : List Exchange} (hlen : trace.length = 1) :
    RaisesOnly IsScannerError (submitAndPoll py svc fileobj trace).1 ↔ ¬ SubmitMisled py svc := by
  rw [submitAndPoll]
  by_cases hsent : ∃ r, Submitted svc r
  · obtain ⟨r, hr⟩ := hsent
    rw [submit_sent hr py fileobj hlen]
    have hraise := submittedId_raises_iff py r
    rw [submitMisled_iff hr]
    cases hid : submittedId py r with
    | error e =>
      rw [hid, raisesOnly_error] at hraise
      simp only [raisesOnly_error, hraise, reduceCtorEq, exists_false, false_and, or_false, not_not]
    | ok key =>
      rw [hid] at hraise
      have hlen' : ∀ x : Exchange, (trace ++ [x]).length = 2 := by
        intro x
        rw [List.length_append, hlen]
        rfl
      simp only
      have hkey : ∃ key', (Except.ok key : Except Exc String) = .ok key' := ⟨key, rfl⟩
      rw [poll_raises_iff (hlen' _), or_iff_right (not_not_intro (hraise.1 (.ok key))),
        and_iff_right hkey]
  · obtain ⟨m, trace', hm⟩ := submit_refused (not_exists.1 hsent) py fileobj hlen
    rw [hm]
    apply iff_of_true (.error trivial)
    intro hmisled
    obtain ⟨r, hr, -⟩ := hmisled
    exact hsent ⟨r, hr⟩

theorem jcopMisled_iff {py : Python} {svc : JcopService} {r : JcopReply}
    (hr : svc.reply 0 = .ok r) : JcopMisled py svc ↔
      (r.statusCode = 200 ∧ (¬ r.Object ∨ (doneContent r = .ok none ∧ PollMisled svc 1))) ∨
        (r.statusCode = 404 ∧ SubmitMisled py svc) := by
  constructor
  · intro hmisled
    obtain ⟨r', hr', hmisled⟩ := hmisled
    cases hr.symm.trans hr'
    exact hmisled
  · intro hmisled
    exact ⟨r, hr, hmisled⟩

theorem analyse_raises_iff (py : Python) (svc : JcopService) (fileobj : Bytes) :
    RaisesOnly IsScannerError (analyse py svc (svc.sha256 fileobj) fileobj).1 ↔
      ¬ JcopMisled py svc := by
  rw [analyse]
  split
  · rename_i e trace hget
    obtain ⟨m, hr, he, rfl⟩ := reply_of_getResult_error hget
    cases he
    apply iff_of_true (.error trivial)
    intro hmisled
    obtain ⟨r, hr', -⟩ := hmisled
    cases hr.symm.trans hr'
  · rename_i r trace hget
    obtain ⟨hr, rfl⟩ := reply_of_getResult hget
    rw [jcopMisled_iff hr]
    split
    · rename_i hs
      have hraise := doneContent_raises_iff r
      have h404 : ¬ r.statusCode = 404 := by rw [hs]; decide
      rw [or_iff_left (fun h => h404 h.1), and_iff_right hs]
      split
      · rename_i e hd
        rw [hd, raisesOnly_error] at hraise
        simp only [raisesOnly_error, hraise, hd, reduceCtorEq, false_and, or_false, not_not]
      · rename_i content hd
        apply iff_of_true (.ok _)
        intro hor
        rcases hor with hobj | ⟨hnone, -⟩
        · exact hobj (Object.of_content hd)
        · cases hd.symm.trans hnone
      · rename_i hd
        rw [or_iff_right (not_not_intro (Object.of_content hd)), and_iff_right hd]
        exact poll_raises_iff rfl
    · rename_i hs
      rw [or_iff_right (fun h => hs h.1)]
      split
      · rename_i h404
        rw [and_iff_right h404]
        exact submitAndPoll_raises_iff py svc fileobj rfl
      · rename_i h404
        apply iff_of_true _ (fun h => h404 h.1)
        split
        · exact .error trivial
        · exact .error trivial

theorem jcopVerdict_keeps {content : Json} (h : content.IsObj) :
    KeepsContract (jcopVerdict content) := by
  obtain ⟨m, hm⟩ := Json.get_obj h "is_malware"
  obtain ⟨error, herror⟩ := Json.get_obj h "error"
  obtain ⟨code, hcode⟩ := Json.get_obj h "error_code"
  rw [jcopVerdict, hm, ok_bind]
  split
  · rw [herror]
    exact .malware rfl
  · exact .clean
  · rw [hcode, ok_bind]
    split
    · exact .partialScan _
    · exact .partialScan _

theorem jcopScan_keeps_iff (py : Python) (svc : JcopService) (data : Bytes) :
    KeepsContract (jcopScan py svc data) ↔ ¬ JcopMisled py svc := by
  rw [jcopScan, ← analyse_raises_iff py svc data]
  have hanswers := analyse_answersFor py svc (svc.sha256 data) data
  cases hout : (analyse py svc (svc.sha256 data) data).1 with
  | error e => exact keepsContract_raised.trans raisesOnly_error.symm
  | ok content =>
    obtain ⟨url, r, -, -, hd⟩ := (hanswers content).1 hout
    exact iff_of_true (jcopVerdict_keeps (isObj_of_done hd)) (.ok content)

/-- What the engine of this name answers, or what its client raises, is what the backend
expects of it. -/
structure WellAnswered (py : Python) (settings : Settings) (engines : Engines) (name : String)
    (data : Bytes) : Prop where
  clamav : name = "clamav" → ClamdAnswered (engines.instream data)
  exav : name = "exav" → ExavAnswered py (engines.exinstream data)
  jcop : name = "jcop" → ¬ JcopMisled py (jcopService settings engines)

/-- A shipped backend keeps the contract on a file exactly when its engine answers as it
expects. -/
theorem contract_kept_iff (py : Python) (settings : Settings) (engines : Engines)
    (name : String) (scanner : Scanner)
    (hbuilt : getScanner (BUILDERS py settings engines) name = .ok scanner) (data : Bytes) :
    KeepsContract (scanner.scan data) ↔ WellAnswered py settings engines name data := by
  rcases getScanner_builders hbuilt with ⟨rfl, hb⟩ | ⟨rfl, hb⟩ | ⟨rfl, hb⟩
  · cases hb
    rw [clamavScan_keeps_iff]
    exact ⟨fun h => ⟨fun _ => h, (absurd · (by decide)), (absurd · (by decide))⟩,
      fun h => h.clamav rfl⟩
  · rw [buildExav] at hb
    split at hb
    · cases hb
    cases hb
    rw [exavScan_keeps_iff]
    exact ⟨fun h => ⟨(absurd · (by decide)), fun _ => h, (absurd · (by decide))⟩,
      fun h => h.exav rfl⟩
  · rw [buildJcop] at hb
    split at hb
    · cases hb
    cases hb
    rw [jcopScan_keeps_iff]
    exact ⟨fun h => ⟨(absurd · (by decide)), (absurd · (by decide)), fun _ => h⟩,
      fun h => h.jcop rfl⟩

/-- The library on a line that is the empty JSON list. -/
def listPython : Python :=
  { asciiPython with
    loads := fun text => if text = "[]" then .ok (.list []) else asciiPython.loads text }

/-- clamd answers about another name, exav with a JSON list and JCOP with a page that is not
JSON. -/
def misleadingEngines : Engines where
  instream _ := .ok (some [("/tmp/file", "OK", none)])
  exinstream _ := .ok "[]"
  jcopReply _ := .ok ⟨200, .error (.requestException "Expecting value: line 1 column 1 (char 0)")⟩
  clock := tickingClock
  sha256 _ := ""

def everyEngine : Settings :=
  { exavHosts := "exav:3310", jcopBaseUrl := "https://jcop/api/v1", jcopApiKey := "key" }

/-- Each shipped backend raises something else than a `ScannerError`. -/
theorem contract_broken :
    (∃ scanner, getScanner (BUILDERS listPython everyEngine misleadingEngines) "clamav" =
        .ok scanner ∧ scanner.scan [88] = .error (.keyError "stream") ∧
        ¬ KeepsContract (scanner.scan [88])) ∧
      (∃ scanner, getScanner (BUILDERS listPython everyEngine misleadingEngines) "exav" =
        .ok scanner ∧
        scanner.scan [88] = .error (.attributeError "'list' object has no attribute 'get'") ∧
        ¬ KeepsContract (scanner.scan [88])) ∧
      ∃ scanner, getScanner (BUILDERS listPython everyEngine misleadingEngines) "jcop" =
        .ok scanner ∧ scanner.scan [88] =
          .error (.requestException "Expecting value: line 1 column 1 (char 0)") ∧
        ¬ KeepsContract (scanner.scan [88]) := by
  have hraised : ∀ (result : Except Exc Verdict) e, result = .error e → ¬ IsScannerError e →
      result = .error e ∧ ¬ KeepsContract result := by
    rintro result e rfl he
    exact ⟨rfl, fun h => he (keepsContract_raised.1 h)⟩
  refine ⟨⟨_, rfl, hraised _ _ rfl id⟩, ⟨_, rfl, hraised _ _ rfl id⟩, ⟨_, rfl, hraised _ _ rfl id⟩⟩

/-- A daemon that does not know the verb. -/
def stockDaemon : Engines := { misleadingEngines with exinstream := fun _ => .ok "UNKNOWN COMMAND" }

theorem contract_kept_unknown_command : ∃ scanner,
    getScanner (BUILDERS listPython everyEngine stockDaemon) "exav" = .ok scanner ∧
      KeepsContract (scanner.scan [88]) := by
  have hanswered : WellAnswered listPython everyEngine stockDaemon "exav" [88] := by
    constructor
    · exact (absurd · (by decide))
    · exact fun _ => .inl (by decide)
    · exact (absurd · (by decide))
  exact ⟨_, rfl, (contract_kept_iff listPython everyEngine stockDaemon "exav" _ rfl [88]).2
    hanswered⟩

end FileScanner
