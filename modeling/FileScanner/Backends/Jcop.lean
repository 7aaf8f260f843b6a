import FileScanner.Lib.Fallible
import FileScanner.Registry
import Mathlib.Algebra.Order.Ring.Rat

namespace FileScanner
open Collections Fallible
set_option autoImplicit true

/-- Successive readings of `time.monotonic()`: never back, and past any deadline in the end. -/
structure Clock where
  read : Nat → Rat
  monotone : Monotone read
  reach : Rat → Nat
  reaches : ∀ t, t ≤ read (reach t)

structure JcopReply where
  statusCode : Nat
  json : Except Exc Json

inductive JcopRequest where
  | get (url : String)
  | post (url : String) (file : Bytes)
  deriving DecidableEq

/-- A request with its reply, or with the text of the `RequestException`. -/
structure Exchange where
  request : JcopRequest
  outcome : Except String JcopReply

/-- The configured backend and everything one scan meets: the outcome of each request in turn
and the clock. -/
structure JcopService where
  baseUrl : String
  submitTimeout : Nat
  sha256 : Bytes → String
  reply : Nat → Except String JcopReply
  clock : Clock

def JcopService.send (svc : JcopService) (request : JcopRequest) (trace : List Exchange) :
    Except String JcopReply × List Exchange :=
  (svc.reply trace.length, trace ++ [⟨request, svc.reply trace.length⟩])

def getResult (svc : JcopService) (key : String) (trace : List Exchange) :
    Except Exc JcopReply × List Exchange :=
  match svc.send (.get (svc.baseUrl ++ "/results/" ++ key)) trace with
  | (.ok r, trace) => (.ok r, trace)
  | (.error m, trace) =>
    (.error (.scannerError ("JCOP results request failed: " ++ m)), trace)

def submit (py : Python) (svc : JcopService) (fileobj : Bytes) (deadline : Rat)
    (trace : List Exchange) : Except Exc String × List Exchange :=
  if deadline - svc.clock.read 1 ≤ 0 then
    (.error (.scannerError "JCOP budget exhausted before submit"), trace)
  else
    match svc.send (.post (svc.baseUrl ++ "/submit") fileobj) trace with
    | (.error m, trace) => (.error (.scannerError ("JCOP submit failed: " ++ m)), trace)
    | (.ok r, trace) =>
      if r.statusCode = 200 then ((r.json.bind (·.item "id")).map py.format, trace)
      else if r.statusCode = 401 then
        (.error (.scannerError "JCOP submit rejected: invalid API key"), trace)
      else
        (.error (.scannerError ("JCOP submit failed: HTTP " ++ toString r.statusCode)), trace)

def doneContent (r : JcopReply) : Except Exc (Option Json) := do
  let content ← r.json
  let done ← content.get "done"
  pure (if done.truthy then some content else none)

def invalidKey : Exc := .scannerError "JCOP rejected the request: invalid API key"

theorem Clock.before_reach (clock : Clock) {deadline : Rat} {tick : Nat}
    (h : clock.read tick < deadline) : tick < clock.reach deadline := by
  by_contra hge
  have hm := clock.monotone (not_lt.1 hge)
  exact absurd (lt_of_lt_of_le h (clock.reaches deadline)) (not_lt.2 hm)

/-- The loop of `_analyse`: one reading of the clock and one lookup a round. -/
def poll (svc : JcopService) (key : String) (deadline : Rat) (tick : Nat)
    (trace : List Exchange) : Except Exc Json × List Exchange :=
  if _h : svc.clock.read tick < deadline then
    match getResult svc key trace with
    | (.error e, trace) => (.error e, trace)
    | (.ok r, trace) =>
      if r.statusCode = 200 then
        match doneContent r with
        | .error e => (.error e, trace)
        | .ok (some content) => (.ok content, trace)
        | .ok none => poll svc key deadline (tick + 1) trace
      else if r.statusCode = 401 then (.error invalidKey, trace)
      else poll svc key deadline (tick + 1) trace
  else
    (.error (.scannerError ("JCOP analysis did not complete within "
      ++ toString svc.submitTimeout ++ "s")), trace)
termination_by svc.clock.reach deadline - tick
decreasing_by all_goals (have hlt := svc.clock.before_reach _h; omega)

def analyse (py : Python) (svc : JcopService) (fileHash : String) (fileobj : Bytes) :
    Except Exc Json × List Exchange :=
  let deadline := svc.clock.read 0 + svc.submitTimeout
  match getResult svc fileHash [] with
  | (.error e, trace) => (.error e, trace)
  | (.ok r, trace) =>
    if r.statusCode = 200 then
      match doneContent r with
      | .error e => (.error e, trace)
      | .ok (some content) => (.ok content, trace)
      | .ok none => poll svc fileHash deadline 1 trace
    else if r.statusCode = 404 then
      match submit py svc fileobj deadline trace with
      | (.error e, trace) => (.error e, trace)
      | (.ok pollKey, trace) => poll svc pollKey deadline 2 trace
    else if r.statusCode = 401 then (.error invalidKey, trace)
    else
      (.error (.scannerError ("JCOP results lookup failed: HTTP " ++ toString r.statusCode)),
        trace)

def TOO_LARGE_CODE : Int := 413

def jcopVerdict (content : Json) : Except Exc Verdict := do
  match ← content.get "is_malware" with
  | .bool true =>
    let error ← content.get "error"
    pure (malware (error.orElse (.str "malware")))
  | .bool false => pure clean
  | _ =>
    let code ← content.get "error_code"
    if code.isInt TOO_LARGE_CODE then pure (partialVerdict (.str "LIMITS-EXCEEDED"))
    else pure (partialVerdict (.str "UNSCANNABLE"))

def jcopScan (py : Python) (svc : JcopService) (fileobj : Bytes) : Except Exc Verdict :=
  (analyse py svc (svc.sha256 fileobj) fileobj).1.bind jcopVerdict

/-- A lookup was answered by a 200 reply marked done, with this content. -/
def DoneReply (trace : List Exchange) (content : Json) : Prop :=
  ∃ url r, ⟨.get url, .ok r⟩ ∈ trace ∧ r.statusCode = 200 ∧ doneContent r = .ok (some content)

/-- A result that is the content of the only done reply among its exchanges, or a failure
without any. -/
def AnswersFor (out : Except Exc Json × List Exchange) : Prop :=
  ∀ content, out.1 = .ok content ↔ DoneReply out.2 content

theorem DoneReply.append {trace : List Exchange} {x : Exchange} {content : Json} :
    DoneReply (trace ++ [x]) content ↔ DoneReply trace content ∨ DoneReply [x] content := by
  simp only [DoneReply, List.mem_append, or_and_right, exists_or]

theorem doneReply_get {url : String} {r : JcopReply} {content : Json} :
    DoneReply [⟨.get url, .ok r⟩] content ↔
      r.statusCode = 200 ∧ doneContent r = .ok (some content) := by
  constructor
  · intro hdone
    obtain ⟨url', r', hm, hs, hd⟩ := hdone
    cases List.mem_singleton.1 hm
    exact ⟨hs, hd⟩
  · rintro ⟨hs, hd⟩
    exact ⟨url, r, List.mem_singleton.2 rfl, hs, hd⟩

theorem not_doneReply_post {url : String} {file : Bytes} {o : Except String JcopReply}
    {content : Json} : ¬ DoneReply [⟨.post url file, o⟩] content := by
  intro hdone
  obtain ⟨url', r', hm, -⟩ := hdone
  cases List.mem_singleton.1 hm

theorem not_doneReply_failed {request : JcopRequest} {m : String} {content : Json} :
    ¬ DoneReply [⟨request, .error m⟩] content := by
  intro hdone
  obtain ⟨url', r', hm, -⟩ := hdone
  cases List.mem_singleton.1 hm

theorem answersFor_error {e : Exc} {trace : List Exchange} (h : ∀ c, ¬ DoneReply trace c) :
    AnswersFor (.error e, trace) :=
  fun c => iff_of_false (nomatch ·) (h c)

theorem getResult_error {svc : JcopService} {key : String} {trace trace' : List Exchange}
    {e : Exc} (h : getResult svc key trace = (.error e, trace')) (c : Json) :
    DoneReply trace' c ↔ DoneReply trace c := by
  rw [getResult, JcopService.send] at h
  cases hr : svc.reply trace.length with
  | error m =>
    rw [hr] at h
    cases h
    rw [DoneReply.append]
    exact or_iff_left not_doneReply_failed
  | ok r =>
    rw [hr] at h
    cases h

theorem getResult_ok {svc : JcopService} {key : String} {trace trace' : List Exchange}
    {r : JcopReply} (h : getResult svc key trace = (.ok r, trace')) (c : Json) :
    DoneReply trace' c ↔
      DoneReply trace c ∨ (r.statusCode = 200 ∧ doneContent r = .ok (some c)) := by
  rw [getResult, JcopService.send] at h
  cases hr : svc.reply trace.length with
  | error m =>
    rw [hr] at h
    cases h
  | ok r =>
    rw [hr] at h
    cases h
    rw [DoneReply.append, doneReply_get]

theorem answersFor_done {svc : JcopService} {key : String} {trace trace' : List Exchange}
    {r : JcopReply} {content : Json} (htrace : ∀ c, ¬ DoneReply trace c)
    (hget : getResult svc key trace = (.ok r, trace')) (hs : r.statusCode = 200)
    (hd : doneContent r = .ok (some content)) : AnswersFor (.ok content, trace') := by
  intro c
  rw [getResult_ok hget, or_iff_right (htrace c), hd]
  simp only [Except.ok.injEq, Option.some.injEq, hs, true_and]

theorem not_doneReply_of_pending {svc : JcopService} {key : String}
    {trace trace' : List Exchange} {r : JcopReply} (htrace : ∀ c, ¬ DoneReply trace c)
    (hget : getResult svc key trace = (.ok r, trace'))
    (hr : r.statusCode = 200 → ∀ c, doneContent r ≠ .ok (some c)) :
    ∀ c, ¬ DoneReply trace' c := by
  intro c hc
  rcases (getResult_ok hget c).1 hc with h | ⟨hs, hd⟩
  · exact htrace c h
  · exact hr hs c hd

theorem poll_answersFor (svc : JcopService) (key : String) (deadline : Rat) (tick : Nat)
    (trace : List Exchange) (htrace : ∀ c, ¬ DoneReply trace c) :
    AnswersFor (poll svc key deadline tick trace) := by
  fun_induction poll svc key deadline tick trace with
  | case1 tick trace h e trace' hget =>
    exact answersFor_error (fun c hc => htrace c ((getResult_error hget c).1 hc))
  | case2 tick trace h r trace' hget hs e hd =>
    exact answersFor_error (not_doneReply_of_pending htrace hget (fun _ c hc => nomatch hd ▸ hc))
  | case3 tick trace h r trace' hget hs content hd => exact answersFor_done htrace hget hs hd
  | case4 tick trace h r trace' hget hs hd ih =>
    exact ih (not_doneReply_of_pending htrace hget (fun _ c hc => nomatch hd ▸ hc))
  | case5 tick trace h r trace' hget hs h401 =>
    exact answersFor_error (not_doneReply_of_pending htrace hget (fun h200 => absurd h200 hs))
  | case6 tick trace h r trace' hget hs h401 ih =>
    exact ih (not_doneReply_of_pending htrace hget (fun h200 => absurd h200 hs))
  | case7 tick trace h => exact answersFor_error htrace

theorem submit_doneReply (py : Python) (svc : JcopService) (fileobj : Bytes) (deadline : Rat)
    (trace : List Exchange) (c : Json) :
    DoneReply (submit py svc fileobj deadline trace).2 c ↔ DoneReply trace c := by
  rw [submit]
  split
  · rfl
  · rw [JcopService.send]
    have hpost : DoneReply (trace ++ [⟨.post (svc.baseUrl ++ "/submit") fileobj,
        svc.reply trace.length⟩]) c ↔ DoneReply trace c := by
      rw [DoneReply.append]
      exact or_iff_left not_doneReply_post
    cases hr : svc.reply trace.length with
    | error m =>
      rw [hr] at hpost
      exact hpost
    | ok r =>
      rw [hr] at hpost
      simp only
      split
      · exact hpost
      · split <;> exact hpost

theorem analyse_answersFor (py : Python) (svc : JcopService) (fileHash : String)
    (fileobj : Bytes) : AnswersFor (analyse py svc fileHash fileobj) := by
  have hnil : ∀ c, ¬ DoneReply [] c := by
    intro c hdone
    obtain ⟨url, r, hm, -⟩ := hdone
    cases hm
  rw [analyse]
  split
  · rename_i e trace hget
    exact answersFor_error (fun c hc => hnil c ((getResult_error hget c).1 hc))
  · rename_i r trace hget
    split
    · rename_i hs
      split
      · rename_i e hd
        exact answersFor_error (not_doneReply_of_pending hnil hget (fun _ c hc => nomatch hd ▸ hc))
      · rename_i content hd
        exact answersFor_done hnil hget hs hd
      · rename_i hd
        exact poll_answersFor _ _ _ _ _
          (not_doneReply_of_pending hnil hget (fun _ c hc => nomatch hd ▸ hc))
    · rename_i hs
      have htrace := not_doneReply_of_pending hnil hget (fun h200 => absurd h200 hs)
      split
      · have hsub := submit_doneReply py svc fileobj
          (svc.clock.read 0 + svc.submitTimeout) trace
        split
        · rename_i e trace' he
          rw [he] at hsub
          exact answersFor_error (fun c hc => htrace c ((hsub c).1 hc))
        · rename_i key trace' he
          rw [he] at hsub
          exact poll_answersFor _ _ _ _ _ (fun c hc => htrace c ((hsub c).1 hc))
      · split
        · exact answersFor_error htrace
        · exact answersFor_error htrace

/-- Content of a done reply whose `is_malware` is exactly this truth value. -/
def IsMalware (content : Json) (b : Bool) : Prop := content.get "is_malware" = .ok (.bool b)

theorem Json.get_ok_of_get_ok {content v : Json} {key : String} (h : content.get key = .ok v)
    (key' : String) : ∃ v', content.get key' = .ok v' := by
  cases content with
  | obj entries => exact ⟨_, rfl⟩
  | _ => cases h

theorem jcopVerdict_malware {content : Json} (h : IsMalware content true) :
    ∃ signature, jcopVerdict content = .ok (malware signature) := by
  obtain ⟨e, he⟩ := Json.get_ok_of_get_ok h "error"
  refine ⟨e.orElse (.str "malware"), ?_⟩
  rw [jcopVerdict, h, ok_bind]
  simp only [he, ok_bind]
  rfl

theorem jcopVerdict_clean {content : Json} {v : Verdict} (h : jcopVerdict content = .ok v)
    (hv : v.kind = .clean) : IsMalware content false := by
  rw [jcopVerdict] at h
  obtain ⟨m, hm, h⟩ := bind_eq_ok.1 h
  split at h
  · obtain ⟨e, -, h⟩ := bind_eq_ok.1 h
    cases h
    cases hv
  · exact hm
  · obtain ⟨code, -, h⟩ := bind_eq_ok.1 h
    split at h
    · cases h
      cases hv
    · cases h
      cases hv

end FileScanner
