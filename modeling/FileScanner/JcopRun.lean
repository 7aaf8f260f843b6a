import FileScanner.Backends.Jcop
import FileScanner.Lib.Traces

namespace FileScanner
open Fallible Traces
set_option autoImplicit true

/-- What the run asks next: a lookup of the file, its submission, another lookup of a key, or
nothing more. -/
inductive JcopPhase where
  | lookup
  | submit
  | poll (key : String)
  | ended (result : Except Exc Json)

structure JcopRun where
  phase : JcopPhase
  ticks : Nat
  trace : List Exchange

def JcopService.results (svc : JcopService) (key : String) : String :=
  svc.baseUrl ++ "/results/" ++ key

def JcopService.deadline (svc : JcopService) (read : Nat → Rat) : Rat :=
  read 0 + svc.submitTimeout

def afterOk (r : JcopReply) (pending : JcopPhase) : JcopPhase :=
  match doneContent r with
  | .error e => .ended (.error e)
  | .ok (some content) => .ended (.ok content)
  | .ok none => pending

def lookupFailed (m : String) : JcopPhase :=
  .ended (.error (.scannerError ("JCOP results request failed: " ++ m)))

def afterLookup (fileHash : String) : Except String JcopReply → JcopPhase
  | .error m => lookupFailed m
  | .ok r =>
    if r.statusCode = 200 then afterOk r (.poll fileHash)
    else if r.statusCode = 404 then .submit
    else if r.statusCode = 401 then .ended (.error invalidKey)
    else .ended (.error (.scannerError ("JCOP results lookup failed: HTTP "
      ++ toString r.statusCode)))

def submittedId (py : Python) (r : JcopReply) : Except Exc String :=
  (r.json.bind (·.item "id")).map py.format

def afterId : Except Exc String → JcopPhase
  | .error e => .ended (.error e)
  | .ok key => .poll key

def afterSubmit (py : Python) : Except String JcopReply → JcopPhase
  | .error m => .ended (.error (.scannerError ("JCOP submit failed: " ++ m)))
  | .ok r =>
    if r.statusCode = 200 then afterId (submittedId py r)
    else if r.statusCode = 401 then
      .ended (.error (.scannerError "JCOP submit rejected: invalid API key"))
    else .ended (.error (.scannerError ("JCOP submit failed: HTTP " ++ toString r.statusCode)))

def afterPoll (key : String) : Except String JcopReply → JcopPhase
  | .error m => lookupFailed m
  | .ok r =>
    if r.statusCode = 200 then afterOk r (.poll key)
    else if r.statusCode = 401 then .ended (.error invalidKey)
    else .poll key

def JcopRun.ask (svc : JcopService) (run : JcopRun) (ticks : Nat) (request : JcopRequest)
    (next : Except String JcopReply → JcopPhase) : JcopRun :=
  let outcome := svc.reply run.trace.length
  ⟨next outcome, ticks, run.trace ++ [⟨request, outcome⟩]⟩

/-- The run up to its next request, by whatever `time.monotonic` reads. -/
def JcopRun.step (py : Python) (svc : JcopService) (read : Nat → Rat) (fileobj : Bytes)
    (run : JcopRun) : JcopRun :=
  match run.phase with
  | .lookup =>
    run.ask svc run.ticks (.get (svc.results (svc.sha256 fileobj)))
      (afterLookup (svc.sha256 fileobj))
  | .submit =>
    if svc.deadline read - read run.ticks ≤ 0 then
      ⟨.ended (.error (.scannerError "JCOP budget exhausted before submit")), run.ticks + 1,
        run.trace⟩
    else
      run.ask svc (run.ticks + 1) (.post (svc.baseUrl ++ "/submit") fileobj) (afterSubmit py)
  | .poll key =>
    if read run.ticks < svc.deadline read then
      run.ask svc (run.ticks + 1) (.get (svc.results key)) (afterPoll key)
    else
      ⟨.ended (.error (.scannerError ("JCOP analysis did not complete within "
        ++ toString svc.submitTimeout ++ "s"))), run.ticks + 1, run.trace⟩
  | .ended _ => run

def jcopRun (py : Python) (svc : JcopService) (read : Nat → Rat) (fileobj : Bytes) :
    Nat → JcopRun
  | 0 => ⟨.lookup, 1, []⟩
  | steps + 1 => (jcopRun py svc read fileobj steps).step py svc read fileobj

def JcopPhase.Failed (phase : JcopPhase) : Prop := ∃ e, phase = .ended (.error e)

/-- What the lookups so far say: the result, once there is one, else nothing yet. -/
def JcopPhase.Tells (phase : JcopPhase) (trace : List Exchange) : Prop :=
  match phase with
  | .ended result => AnswersFor (result, trace)
  | _ => ∀ content, ¬ DoneReply trace content

theorem JcopPhase.Tells.append {phase : JcopPhase} {trace : List Exchange} {x : Exchange}
    (htrace : ∀ content, ¬ DoneReply trace content) (h : phase.Tells [x]) :
    phase.Tells (trace ++ [x]) := by
  have hx : ∀ content, DoneReply (trace ++ [x]) content ↔ DoneReply [x] content := by
    intro content
    rw [DoneReply.append]
    exact or_iff_right (htrace content)
  cases phase with
  | ended result => exact fun content => (h content).trans (hx content).symm
  | lookup => exact fun content hdone => h content ((hx content).1 hdone)
  | submit => exact fun content hdone => h content ((hx content).1 hdone)
  | poll key => exact fun content hdone => h content ((hx content).1 hdone)

/-- How a lookup with this outcome can go on. -/
inductive Leads (outcome : Except String JcopReply) : JcopPhase → Prop where
  | done : outcome = .ok r → r.statusCode = 200 → doneContent r = .ok (some content) →
      Leads outcome (.ended (.ok content))
  | failed : (∀ url content, ¬ DoneReply [⟨.get url, outcome⟩] content) →
      Leads outcome (.ended (.error e))
  | pending : outcome = .ok r → r.statusCode ≠ 401 →
      (∀ url content, ¬ DoneReply [⟨.get url, outcome⟩] content) →
      (∀ result, phase ≠ .ended result) → Leads outcome phase

theorem Leads.tells {outcome : Except String JcopReply} {phase : JcopPhase}
    (h : Leads outcome phase) (url : String) : phase.Tells [⟨.get url, outcome⟩] := by
  cases h with
  | done ho hs hd =>
    subst ho
    intro c
    rw [doneReply_get, hd]
    simp only [Except.ok.injEq, Option.some.injEq, hs, true_and]
  | failed hnone => exact answersFor_error (hnone url)
  | pending ho h401 hnone hphase =>
    cases phase with
    | ended result => exact absurd rfl (hphase result)
    | lookup => exact hnone url
    | submit => exact hnone url
    | poll key => exact hnone url

theorem Leads.replied {outcome : Except String JcopReply} {phase : JcopPhase}
    (h : Leads outcome phase) (hphase : ¬ phase.Failed) :
    ∃ r, outcome = .ok r ∧ r.statusCode ≠ 401 := by
  cases h with
  | done ho hs hd => exact ⟨_, ho, by rw [hs]; decide⟩
  | failed hnone => exact absurd ⟨_, rfl⟩ hphase
  | pending ho h401 hnone hphase => exact ⟨_, ho, h401⟩

theorem not_done_of_status {url : String} {r : JcopReply} {content : Json}
    (h : r.statusCode ≠ 200) : ¬ DoneReply [⟨.get url, .ok r⟩] content :=
  fun hdone => h (doneReply_get.1 hdone).1

theorem leads_afterOk {r : JcopReply} {pending : JcopPhase} (hs : r.statusCode = 200)
    (hpending : ∀ result, pending ≠ .ended result) : Leads (.ok r) (afterOk r pending) := by
  rw [afterOk]
  cases hd : doneContent r with
  | error e =>
    apply Leads.failed
    intro url content hdone
    cases hd ▸ (doneReply_get.1 hdone).2
  | ok content =>
    cases content with
    | some content => exact .done rfl hs hd
    | none =>
      apply Leads.pending rfl (by rw [hs]; decide) _ hpending
      intro url content hdone
      cases hd ▸ (doneReply_get.1 hdone).2

theorem leads_afterPoll (key : String) (outcome : Except String JcopReply) :
    Leads outcome (afterPoll key outcome) := by
  cases outcome with
  | error m => exact .failed (fun url content => not_doneReply_failed)
  | ok r =>
    rw [afterPoll]
    split
    · rename_i hs
      exact leads_afterOk hs (fun result => JcopPhase.noConfusion)
    · rename_i hs
      split
      · exact .failed (fun url content => not_done_of_status hs)
      · rename_i h401
        exact .pending rfl h401 (fun url content => not_done_of_status hs)
          (fun result => JcopPhase.noConfusion)

theorem leads_afterLookup (fileHash : String) (outcome : Except String JcopReply) :
    Leads outcome (afterLookup fileHash outcome) := by
  cases outcome with
  | error m => exact .failed (fun url content => not_doneReply_failed)
  | ok r =>
    rw [afterLookup]
    split
    · rename_i hs
      exact leads_afterOk hs (fun result => JcopPhase.noConfusion)
    · rename_i hs
      split
      · rename_i h404
        exact .pending rfl (by rw [h404]; decide) (fun url content => not_done_of_status hs)
          (fun result => JcopPhase.noConfusion)
      · split
        · exact .failed (fun url content => not_done_of_status hs)
        · exact .failed (fun url content => not_done_of_status hs)

theorem afterOk_ended_or (r : JcopReply) (pending : JcopPhase) :
    (∃ result, afterOk r pending = .ended result) ∨ afterOk r pending = pending := by
  rw [afterOk]
  split
  · exact .inl ⟨_, rfl⟩
  · exact .inl ⟨_, rfl⟩
  · exact .inr rfl

/-- A first lookup that does not fail was answered, and what comes next depends on its status. -/
theorem afterLookup_answered {fileHash : String} {outcome : Except String JcopReply}
    (h : ¬ (afterLookup fileHash outcome).Failed) :
    ∃ r, outcome = .ok r ∧
      ((r.statusCode = 200 ∧ ((∃ result, afterLookup fileHash outcome = .ended result) ∨
          afterLookup fileHash outcome = .poll fileHash)) ∨
        (r.statusCode = 404 ∧ afterLookup fileHash outcome = .submit)) := by
  cases outcome with
  | error m => exact absurd ⟨_, rfl⟩ h
  | ok r =>
    rw [afterLookup] at h ⊢
    refine ⟨r, rfl, ?_⟩
    split at h
    · rename_i hs
      rw [if_pos hs]
      exact .inl ⟨hs, afterOk_ended_or r _⟩
    · rename_i hs
      rw [if_neg hs]
      split at h
      · rename_i h404
        rw [if_pos h404]
        exact .inr ⟨h404, rfl⟩
      · split at h
        · exact absurd ⟨_, rfl⟩ h
        · exact absurd ⟨_, rfl⟩ h

theorem afterPoll_ended_or (key : String) (outcome : Except String JcopReply) :
    (∃ result, afterPoll key outcome = .ended result) ∨ afterPoll key outcome = .poll key := by
  cases outcome with
  | error m => exact .inl ⟨_, rfl⟩
  | ok r =>
    rw [afterPoll]
    split
    · exact afterOk_ended_or r _
    · split
      · exact .inl ⟨_, rfl⟩
      · exact .inr rfl

theorem afterSubmit_failed_or (py : Python) (outcome : Except String JcopReply) :
    (afterSubmit py outcome).Failed ∨
      ∃ r key, outcome = .ok r ∧ r.statusCode = 200 ∧ submittedId py r = .ok key ∧
        afterSubmit py outcome = .poll key := by
  cases outcome with
  | error m => exact .inl ⟨_, rfl⟩
  | ok r =>
    rw [afterSubmit]
    split
    · rename_i hs
      cases hid : submittedId py r with
      | error e => exact .inl ⟨_, rfl⟩
      | ok key => exact .inr ⟨r, key, rfl, hs, hid, rfl⟩
    · split
      · exact .inl ⟨_, rfl⟩
      · exact .inl ⟨_, rfl⟩

/-- The keys a run may look up: the hash of the file, and the id its submission was given. -/
inductive OwnKey (py : Python) (svc : JcopService) (fileobj : Bytes) (before : List Exchange) :
    String → Prop where
  | hash : OwnKey py svc fileobj before (svc.sha256 fileobj)
  | id : ⟨.post (svc.baseUrl ++ "/submit") fileobj, .ok r⟩ ∈ before → r.statusCode = 200 →
      submittedId py r = .ok key → OwnKey py svc fileobj before key

/-- The requests a run may send: the lookup of such a key, and, right after the lookup of the
hash answered 404 and before the deadline, the submission of the file. -/
inductive OwnRequest (py : Python) (svc : JcopService) (read : Nat → Rat) (fileobj : Bytes)
    (before : List Exchange) : JcopRequest → Prop where
  | lookup : OwnKey py svc fileobj before key →
      OwnRequest py svc read fileobj before (.get (svc.results key))
  | submit : before = [⟨.get (svc.results (svc.sha256 fileobj)), .ok r⟩] → r.statusCode = 404 →
      read 1 < svc.deadline read →
      OwnRequest py svc read fileobj before (.post (svc.baseUrl ++ "/submit") fileobj)

/-- The statuses a run goes on from. -/
structure GoesOn (before : List Exchange) (x : Exchange) (r : JcopReply) : Prop where
  replied : x.outcome = .ok r
  submit : ∀ url file, x.request = .post url file → r.statusCode = 200
  lookup : ∀ url, x.request = .get url → r.statusCode ≠ 401
  first : before = [] → r.statusCode = 200 ∨ r.statusCode = 404

theorem GoesOn.get {before : List Exchange} {url : String} {r : JcopReply}
    (h401 : r.statusCode ≠ 401) (hfirst : before = [] → r.statusCode = 200 ∨ r.statusCode = 404) :
    GoesOn before ⟨.get url, .ok r⟩ r where
  replied := rfl
  submit := nofun
  lookup _ _ := h401
  first := hfirst

theorem GoesOn.post {before : List Exchange} {url : String} {file : Bytes} {r : JcopReply}
    (hs : r.statusCode = 200) : GoesOn before ⟨.post url file, .ok r⟩ r where
  replied := rfl
  submit _ _ _ := hs
  lookup := nofun
  first _ := .inl hs

def JcopRun.Next (py : Python) (svc : JcopService) (fileobj : Bytes) (run : JcopRun) : Prop :=
  match run.phase with
  | .lookup => run.ticks = 1 ∧ run.trace = []
  | .submit => run.ticks = 1 ∧
      ∃ r, run.trace = [⟨.get (svc.results (svc.sha256 fileobj)), .ok r⟩] ∧ r.statusCode = 404
  | .poll key => run.trace ≠ [] ∧ OwnKey py svc fileobj run.trace key
  | .ended _ => True

structure JcopRun.Own (py : Python) (svc : JcopService) (read : Nat → Rat) (fileobj : Bytes)
    (run : JcopRun) : Prop where
  next : run.Next py svc fileobj
  requests : Causal (fun before x => OwnRequest py svc read fileobj before x.request) run.trace
  goesOn : ¬ run.phase.Failed →
    Causal (fun before x => ∃ r, GoesOn before x r) run.trace
  tells : run.phase.Tells run.trace

section Step
variable {py : Python} {svc : JcopService} {read : Nat → Rat} {fileobj : Bytes} {run : JcopRun}

theorem JcopRun.Own.ask (h : run.Own py svc read fileobj)
    (hnone : ∀ content, ¬ DoneReply run.trace content) (hphase : ¬ run.phase.Failed)
    {ticks : Nat} {request : JcopRequest} {next : Except String JcopReply → JcopPhase}
    (hrequest : OwnRequest py svc read fileobj run.trace request)
    (hgoes : ∀ outcome, ¬ (next outcome).Failed →
      ∃ r, GoesOn run.trace ⟨request, outcome⟩ r)
    (htells : ∀ outcome, (next outcome).Tells [⟨request, outcome⟩])
    (hnext : (run.ask svc ticks request next).Next py svc fileobj) :
    (run.ask svc ticks request next).Own py svc read fileobj where
  next := hnext
  requests := h.requests.snoc hrequest
  goesOn hopen := (h.goesOn hphase).snoc (hgoes _ hopen)
  tells := (htells _).append hnone

theorem JcopRun.Own.stop (h : run.Own py svc read fileobj)
    (hnone : ∀ content, ¬ DoneReply run.trace content) (ticks : Nat) (e : Exc) :
    JcopRun.Own py svc read fileobj ⟨.ended (.error e), ticks, run.trace⟩ where
  next := trivial
  requests := h.requests
  goesOn hopen := absurd ⟨e, rfl⟩ hopen
  tells := answersFor_error hnone

theorem JcopRun.Own.lookup (h : run.Own py svc read fileobj) (hphase : run.phase = .lookup) :
    (run.ask svc run.ticks (.get (svc.results (svc.sha256 fileobj)))
      (afterLookup (svc.sha256 fileobj))).Own py svc read fileobj := by
  have hnone := h.tells
  have hnext := h.next
  rw [hphase] at hnone
  rw [Next, hphase] at hnext
  obtain ⟨hticks, htrace⟩ := hnext
  apply h.ask hnone (by rw [hphase]; exact fun hf => nomatch hf) (.lookup .hash)
  · intro outcome hopen
    obtain ⟨r, rfl, hr⟩ := afterLookup_answered hopen
    obtain ⟨r', hr', h401⟩ := (leads_afterLookup _ _).replied hopen
    cases hr'
    exact ⟨r, .get h401 (fun _ => hr.imp And.left And.left)⟩
  · exact fun outcome => (leads_afterLookup _ outcome).tells _
  · rw [Next, JcopRun.ask, htrace]
    simp only [List.nil_append, List.length_nil]
    by_cases hf : (afterLookup (svc.sha256 fileobj) (svc.reply 0)).Failed
    · obtain ⟨e, he⟩ := hf
      rw [he]
      trivial
    · obtain ⟨r, hr, ⟨hs, ⟨result, ho⟩ | ho⟩ | ⟨hs, ho⟩⟩ := afterLookup_answered hf
      · rw [ho]
        trivial
      · rw [ho]
        exact ⟨List.cons_ne_nil _ _, .hash⟩
      · rw [ho]
        exact ⟨hticks, r, by rw [hr], hs⟩

theorem JcopRun.Own.submit (h : run.Own py svc read fileobj) (hphase : run.phase = .submit)
    (htime : read run.ticks < svc.deadline read) :
    (run.ask svc (run.ticks + 1) (.post (svc.baseUrl ++ "/submit") fileobj)
      (afterSubmit py)).Own py svc read fileobj := by
  have hnone := h.tells
  have hnext := h.next
  rw [hphase] at hnone
  rw [Next, hphase] at hnext
  obtain ⟨hticks, r₀, htrace, h404⟩ := hnext
  rw [hticks] at htime
  apply h.ask hnone (by rw [hphase]; exact fun hf => nomatch hf) (.submit htrace h404 htime)
  · intro outcome hopen
    rcases afterSubmit_failed_or py outcome with hf | ⟨r, key, rfl, hs, -, -⟩
    · exact absurd hf hopen
    · exact ⟨r, .post hs⟩
  · intro outcome
    rcases afterSubmit_failed_or py outcome with ⟨e, he⟩ | ⟨r, key, -, -, -, hpoll⟩
    · rw [he]
      exact answersFor_error (fun _ => not_doneReply_post)
    · rw [hpoll]
      exact fun _ => not_doneReply_post
  · rw [Next, JcopRun.ask]
    rcases afterSubmit_failed_or py (svc.reply run.trace.length) with
      ⟨e, he⟩ | ⟨r, key, hr, hs, hid, hpoll⟩
    · rw [he]
      trivial
    · rw [hpoll, hr]
      refine ⟨List.append_ne_nil_of_right_ne_nil _ (List.cons_ne_nil _ _), .id ?_ hs hid⟩
      exact List.mem_append_right _ (List.mem_singleton.2 rfl)

theorem OwnKey.append {before : List Exchange} {key : String}
    (h : OwnKey py svc fileobj before key) (x : Exchange) :
    OwnKey py svc fileobj (before ++ [x]) key := by
  cases h with
  | hash => exact .hash
  | id hm hs hid => exact .id (List.mem_append_left _ hm) hs hid

theorem JcopRun.Own.poll {key : String} (h : run.Own py svc read fileobj)
    (hphase : run.phase = .poll key) :
    (run.ask svc (run.ticks + 1) (.get (svc.results key)) (afterPoll key)).Own
      py svc read fileobj := by
  have hnone := h.tells
  have hnext := h.next
  rw [hphase] at hnone
  rw [Next, hphase] at hnext
  obtain ⟨hne, hkey⟩ := hnext
  apply h.ask hnone (by rw [hphase]; exact fun hf => nomatch hf) (.lookup hkey)
  · intro outcome hopen
    obtain ⟨r, rfl, h401⟩ := (leads_afterPoll key outcome).replied hopen
    exact ⟨r, .get h401 (fun hnil => absurd hnil hne)⟩
  · exact fun outcome => (leads_afterPoll key outcome).tells _
  · rw [Next, JcopRun.ask]
    rcases afterPoll_ended_or key (svc.reply run.trace.length) with ⟨result, ho⟩ | ho
    · rw [ho]
      trivial
    · rw [ho]
      exact ⟨List.append_ne_nil_of_right_ne_nil _ (List.cons_ne_nil _ _), hkey.append _⟩

theorem JcopRun.Own.step (h : run.Own py svc read fileobj) :
    (run.step py svc read fileobj).Own py svc read fileobj := by
  rw [JcopRun.step]
  have hnone := h.tells
  split
  · rename_i hphase
    exact h.lookup hphase
  · rename_i hphase
    rw [hphase] at hnone
    split
    · exact h.stop hnone _ _
    · rename_i htime
      exact h.submit hphase (sub_pos.1 (not_le.1 htime))
  · rename_i key hphase
    rw [hphase] at hnone
    split
    · exact h.poll hphase
    · exact h.stop hnone _ _
  · exact h

end Step

/-- The invariant holds however far the run gets and whatever the clock reads. -/
theorem jcopRun_own (py : Python) (svc : JcopService) (read : Nat → Rat) (fileobj : Bytes)
    (steps : Nat) : (jcopRun py svc read fileobj steps).Own py svc read fileobj := by
  induction steps with
  | zero =>
    constructor
    · exact ⟨rfl, rfl⟩
    · exact .nil
    · exact fun _ => .nil
    · intro content hdone
      obtain ⟨url, r, hm, -⟩ := hdone
      cases hm
  | succ steps ih => exact ih.step

theorem reply_of_getResult {svc : JcopService} {key : String} {trace trace' : List Exchange}
    {r : JcopReply} (h : getResult svc key trace = (.ok r, trace')) :
    svc.reply trace.length = .ok r ∧ trace' = trace ++ [⟨.get (svc.results key), .ok r⟩] := by
  rw [getResult, JcopService.send] at h
  cases hr : svc.reply trace.length with
  | error m =>
    rw [hr] at h
    cases h
  | ok r =>
    rw [hr] at h
    cases h
    exact ⟨rfl, rfl⟩

theorem reply_of_getResult_error {svc : JcopService} {key : String}
    {trace trace' : List Exchange} {e : Exc} (h : getResult svc key trace = (.error e, trace')) :
    ∃ m, svc.reply trace.length = .error m ∧ lookupFailed m = .ended (.error e) ∧
      trace' = trace ++ [⟨.get (svc.results key), .error m⟩] := by
  rw [getResult, JcopService.send] at h
  cases hr : svc.reply trace.length with
  | error m =>
    rw [hr] at h
    cases h
    exact ⟨m, rfl, rfl, rfl⟩
  | ok r =>
    rw [hr] at h
    cases h

section Refines
variable {py : Python} {svc : JcopService} {fileobj : Bytes}

/-- The run comes to this result with these exchanges. -/
def Ends (py : Python) (svc : JcopService) (fileobj : Bytes)
    (out : Except Exc Json × List Exchange) : Prop :=
  ∃ steps ticks, jcopRun py svc svc.clock.read fileobj steps = ⟨.ended out.1, ticks, out.2⟩

theorem jcopRun_succ {steps : Nat} {run : JcopRun}
    (hrun : jcopRun py svc svc.clock.read fileobj steps = run) :
    jcopRun py svc svc.clock.read fileobj (steps + 1) =
      run.step py svc svc.clock.read fileobj := by
  rw [jcopRun, hrun]

theorem step_poll {key : String} {tick : Nat} {trace : List Exchange}
    (htime : svc.clock.read tick < svc.deadline svc.clock.read)
    {outcome : Except String JcopReply} (hreply : svc.reply trace.length = outcome) :
    JcopRun.step py svc svc.clock.read fileobj ⟨.poll key, tick, trace⟩ =
      ⟨afterPoll key outcome, tick + 1, trace ++ [⟨.get (svc.results key), outcome⟩]⟩ := by
  rw [← hreply]
  exact if_pos htime

theorem afterPoll_ok {key : String} {r : JcopReply} (hs : r.statusCode = 200) :
    afterPoll key (.ok r) = afterOk r (.poll key) := if_pos hs

theorem ends_of_step {steps ticks : Nat} {run : JcopRun}
    {out : Except Exc Json × List Exchange}
    (hrun : jcopRun py svc svc.clock.read fileobj steps = run)
    (hstep : run.step py svc svc.clock.read fileobj = ⟨.ended out.1, ticks, out.2⟩) :
    Ends py svc fileobj out :=
  ⟨steps + 1, ticks, (jcopRun_succ hrun).trans hstep⟩

theorem ends_of_poll {key : String} {tick steps : Nat} {trace : List Exchange}
    {outcome : Except String JcopReply} {result : Except Exc Json}
    (hrun : jcopRun py svc svc.clock.read fileobj steps = ⟨.poll key, tick, trace⟩)
    (htime : svc.clock.read tick < svc.deadline svc.clock.read)
    (hreply : svc.reply trace.length = outcome) (hended : afterPoll key outcome = .ended result) :
    Ends py svc fileobj (result, trace ++ [⟨.get (svc.results key), outcome⟩]) :=
  ends_of_step hrun (by rw [step_poll htime hreply, hended])

theorem ends_poll {key : String} {tick steps : Nat} {trace : List Exchange}
    (hrun : jcopRun py svc svc.clock.read fileobj steps = ⟨.poll key, tick, trace⟩) :
    Ends py svc fileobj (poll svc key (svc.deadline svc.clock.read) tick trace) := by
  fun_induction poll svc key (svc.deadline svc.clock.read) tick trace generalizing steps with
  | case1 tick trace h e trace' hget =>
    obtain ⟨m, hr, he, rfl⟩ := reply_of_getResult_error hget
    exact ends_of_poll hrun h hr he
  | case2 tick trace h r trace' hget hs e hd =>
    obtain ⟨hr, rfl⟩ := reply_of_getResult hget
    apply ends_of_poll hrun h hr
    rw [afterPoll_ok hs, afterOk, hd]
  | case3 tick trace h r trace' hget hs content hd =>
    obtain ⟨hr, rfl⟩ := reply_of_getResult hget
    apply ends_of_poll hrun h hr
    rw [afterPoll_ok hs, afterOk, hd]
  | case4 tick trace h r trace' hget hs hd ih =>
    obtain ⟨hr, rfl⟩ := reply_of_getResult hget
    exact ih (by rw [jcopRun_succ hrun, step_poll h hr, afterPoll_ok hs, afterOk, hd])
  | case5 tick trace h r trace' hget hs h401 =>
    obtain ⟨hr, rfl⟩ := reply_of_getResult hget
    apply ends_of_poll hrun h hr
    rw [afterPoll, if_neg hs, if_pos h401]
  | case6 tick trace h r trace' hget hs h401 ih =>
    obtain ⟨hr, rfl⟩ := reply_of_getResult hget
    exact ih (by rw [jcopRun_succ hrun, step_poll h hr, afterPoll, if_neg hs, if_neg h401])
  | case7 tick trace h => exact ends_of_step hrun (if_neg h)

theorem step_submit (trace : List Exchange) :
    JcopRun.step py svc svc.clock.read fileobj ⟨.submit, 1, trace⟩ =
      ⟨afterId (submit py svc fileobj (svc.deadline svc.clock.read) trace).1, 2,
        (submit py svc fileobj (svc.deadline svc.clock.read) trace).2⟩ := by
  rw [submit, JcopRun.step]
  simp only
  split
  · rfl
  · rw [JcopService.send, JcopRun.ask]
    cases svc.reply trace.length with
    | error m => rfl
    | ok r =>
      simp only [afterSubmit]
      split
      · rfl
      · split <;> rfl

theorem step_lookup : jcopRun py svc svc.clock.read fileobj 1 =
    ⟨afterLookup (svc.sha256 fileobj) (svc.reply 0), 1,
      [⟨.get (svc.results (svc.sha256 fileobj)), svc.reply 0⟩]⟩ := rfl

theorem ends_analyse (py : Python) (svc : JcopService) (fileobj : Bytes) :
    Ends py svc fileobj (analyse py svc (svc.sha256 fileobj) fileobj) := by
  rw [analyse]
  have hrun : jcopRun py svc svc.clock.read fileobj 1 = _ := step_lookup
  split
  · rename_i e trace hget
    obtain ⟨m, hr, he, rfl⟩ := reply_of_getResult_error hget
    rw [List.length_nil] at hr
    rw [hr, afterLookup, he] at hrun
    exact ⟨1, 1, hrun⟩
  · rename_i r trace hget
    obtain ⟨hr, rfl⟩ := reply_of_getResult hget
    rw [List.length_nil] at hr
    rw [hr, afterLookup] at hrun
    split
    · rename_i hs
      rw [if_pos hs, afterOk] at hrun
      split
      · rename_i e hd
        rw [hd] at hrun
        exact ⟨1, 1, hrun⟩
      · rename_i content hd
        rw [hd] at hrun
        exact ⟨1, 1, hrun⟩
      · rename_i hd
        rw [hd] at hrun
        exact ends_poll hrun
    · rename_i hs
      rw [if_neg hs] at hrun
      split
      · rename_i h404
        rw [if_pos h404] at hrun
        have hsub := (jcopRun_succ hrun).trans
          (step_submit ([] ++ [⟨.get (svc.results (svc.sha256 fileobj)), .ok r⟩]))
        split
        · rename_i e trace hout
          replace hout : submit py svc fileobj (svc.deadline svc.clock.read) _ = _ := hout
          rw [hout] at hsub
          exact ⟨2, 2, hsub⟩
        · rename_i key trace hout
          replace hout : submit py svc fileobj (svc.deadline svc.clock.read) _ = _ := hout
          rw [hout] at hsub
          exact ends_poll hsub
      · rename_i h404
        rw [if_neg h404] at hrun
        split
        · rename_i h401
          rw [if_pos h401] at hrun
          exact ⟨1, 1, hrun⟩
        · rename_i h401
          rw [if_neg h401] at hrun
          exact ⟨1, 1, hrun⟩

end Refines

def Exchange.isSubmit (x : Exchange) : Bool :=
  match x.request with
  | .post _ _ => true
  | .get _ => false

/-- At most one submission, and no request that is not for this file. -/
structure ForFile (py : Python) (svc : JcopService) (read : Nat → Rat) (fileobj : Bytes)
    (trace : List Exchange) : Prop where
  once : trace.countP Exchange.isSubmit ≤ 1
  own : ∀ before x after, trace = before ++ x :: after →
    OwnRequest py svc read fileobj before x.request

def FirstDone (trace : List Exchange) (content : Json) : Prop :=
  ∃ before x after, trace = before ++ x :: after ∧ DoneReply [x] content ∧
    ∀ c, ¬ DoneReply before c

/-- No reply is done, the first lookup is answered neither 200 nor 404, the submission other than
200, or a lookup 401 before any reply is done. -/
inductive Hopeless (trace : List Exchange) : Prop where
  | pending : (∀ c, ¬ DoneReply trace c) → Hopeless trace
  | lookup : trace = x :: after →
      (∀ r, x.outcome = .ok r → r.statusCode ≠ 200 ∧ r.statusCode ≠ 404) → Hopeless trace
  | submit : x ∈ trace → x.request = .post url file →
      (∀ r, x.outcome = .ok r → r.statusCode ≠ 200) → Hopeless trace
  | rejected : trace = before ++ x :: after → x.request = .get url → x.outcome = .ok r →
      r.statusCode = 401 → (∀ c, ¬ DoneReply before c) → Hopeless trace

structure VerdictOf (trace : List Exchange) (result : Except Exc Verdict) : Prop where
  first : ∀ v, result = .ok v → ∃ content, FirstDone trace content ∧
    jcopVerdict content = .ok v ∧ (v.kind = .clean → IsMalware content false)
  fails : Hopeless trace → ∃ e, result = .error e

theorem doneReply_iff {trace : List Exchange} {content : Json} :
    DoneReply trace content ↔ ∃ x ∈ trace, DoneReply [x] content := by
  induction trace with
  | nil =>
    apply iff_of_false
    · intro hdone
      obtain ⟨url, r, hm, -⟩ := hdone
      cases hm
    · intro hfirst
      obtain ⟨x, hm, -⟩ := hfirst
      cases hm
  | cons x trace ih =>
    have hcons : DoneReply (x :: trace) content ↔
        DoneReply [x] content ∨ DoneReply trace content := by
      simp only [DoneReply, List.mem_cons, List.not_mem_nil, or_false, or_and_right, exists_or]
    rw [hcons, ih]
    simp only [List.mem_cons, or_and_right, exists_or, exists_eq_left]

theorem exists_firstDone {trace : List Exchange} {content : Json} (h : DoneReply trace content) :
    ∃ c, FirstDone trace c := by
  obtain ⟨x, hx, hdone⟩ := doneReply_iff.1 h
  have hsome : ∃ x ∈ trace, ∃ c, DoneReply [x] c := ⟨x, hx, content, hdone⟩
  obtain ⟨before, y, after, hsplit, ⟨c, hc⟩, hbefore⟩ := exists_first hsome
  refine ⟨c, before, y, after, hsplit, hc, fun c' hdone' => ?_⟩
  obtain ⟨z, hz, hzdone⟩ := doneReply_iff.1 hdone'
  exact hbefore z hz ⟨c', hzdone⟩

theorem FirstDone.done {trace : List Exchange} {content : Json} (h : FirstDone trace content) :
    DoneReply trace content := by
  obtain ⟨before, x, after, rfl, hdone, -⟩ := h
  exact doneReply_iff.2 ⟨x, List.mem_append_right _ List.mem_cons_self, hdone⟩

section Claim
variable {py : Python} {svc : JcopService} {read : Nat → Rat} {fileobj : Bytes} {run : JcopRun}

theorem OwnRequest.length_eq_one {before : List Exchange} {x : Exchange}
    (h : OwnRequest py svc read fileobj before x.request) (hx : x.isSubmit = true) :
    before.length = 1 := by
  obtain ⟨request, outcome⟩ := x
  cases h with
  | lookup hkey => cases hx
  | submit hbefore h404 htime =>
    rw [hbefore]
    rfl

theorem JcopRun.Own.forFile (h : run.Own py svc read fileobj) :
    ForFile py svc read fileobj run.trace where
  once := by
    have hsecond : ∀ before x after, run.trace = before ++ x :: after → x.isSubmit = true →
        before.length = 1 := by
      intro before x after hsplit hx
      exact (h.requests.justified hsplit).length_eq_one hx
    exact countP_le_one hsecond
  own _ _ _ hsplit := h.requests.justified hsplit

theorem Hopeless.refuted {trace : List Exchange} {content : Json} (h : Hopeless trace)
    (hdone : DoneReply trace content)
    (hgoes : Causal (fun before x => ∃ r, GoesOn before x r) trace) : False := by
  cases h with
  | pending hnone => exact hnone content hdone
  | lookup hsplit hstatus =>
    rw [← List.nil_append (_ :: _)] at hsplit
    obtain ⟨r, hr⟩ := hgoes.justified hsplit
    obtain ⟨h200, h404⟩ := hstatus r hr.replied
    exact (hr.first rfl).elim h200 h404
  | submit hx hpost hstatus =>
    obtain ⟨before, after, hsplit⟩ := List.append_of_mem hx
    obtain ⟨r, hr⟩ := hgoes.justified hsplit
    exact hstatus r hr.replied (hr.submit _ _ hpost)
  | rejected hsplit hget hr h401 _ =>
    obtain ⟨r', hr'⟩ := hgoes.justified hsplit
    cases hr.symm.trans hr'.replied
    exact hr'.lookup _ hget h401

theorem JcopRun.Own.verdictOf (h : run.Own py svc read fileobj) {result : Except Exc Json}
    (hphase : run.phase = .ended result) : VerdictOf run.trace (result.bind jcopVerdict) := by
  have hanswers := h.tells
  rw [hphase] at hanswers
  constructor
  · intro v hv
    obtain ⟨content, rfl, hverdict⟩ := bind_eq_ok.1 hv
    obtain ⟨c, hfirst⟩ := exists_firstDone ((hanswers content).1 rfl)
    cases (hanswers c).2 hfirst.done
    exact ⟨content, hfirst, hverdict, jcopVerdict_clean hverdict⟩
  · intro hopeless
    cases result with
    | error e => exact ⟨e, rfl⟩
    | ok content =>
      have hopen : ¬ run.phase.Failed := by
        intro hfailed
        obtain ⟨e, he⟩ := hfailed
        cases hphase.symm.trans he
      cases hopeless.refuted ((hanswers content).1 rfl) (h.goesOn hopen)

end Claim

def jcopTrace (py : Python) (svc : JcopService) (fileobj : Bytes) : List Exchange :=
  (analyse py svc (svc.sha256 fileobj) fileobj).2

/-- Whatever JCOP answers, the run asks about this file only, as far as it gets and whatever the
clock reads, and its verdict is that of the first reply marked done. -/
theorem jcop_answers_for_this_file (py : Python) (svc : JcopService) (fileobj : Bytes) :
    (∀ read steps, ForFile py svc read fileobj (jcopRun py svc read fileobj steps).trace ∧
      ∀ result, (jcopRun py svc read fileobj steps).phase = .ended result →
        VerdictOf (jcopRun py svc read fileobj steps).trace (result.bind jcopVerdict)) ∧
      ForFile py svc svc.clock.read fileobj (jcopTrace py svc fileobj) ∧
      VerdictOf (jcopTrace py svc fileobj) (jcopScan py svc fileobj) := by
  have hrun : ∀ read steps, (jcopRun py svc read fileobj steps).Own py svc read fileobj :=
    fun read steps => jcopRun_own py svc read fileobj steps
  refine ⟨fun read steps => ⟨(hrun read steps).forFile, fun _ => (hrun read steps).verdictOf⟩, ?_⟩
  obtain ⟨steps, ticks, hend⟩ := ends_analyse py svc fileobj
  have hown := hrun svc.clock.read steps
  rw [hend] at hown
  exact ⟨hown.forFile, hown.verdictOf rfl⟩

end FileScanner
