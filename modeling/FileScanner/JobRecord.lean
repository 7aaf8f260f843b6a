import FileScanner.App.Jobs
import FileScanner.Attempt
import FileScanner.Lib.Runs
import FileScanner.WebhookGuard

namespace FileScanner
open Collections Fallible Runs
set_option autoImplicit true

def Terminal (result : Dict String Json) : Prop :=
  result.lookup "status" = some (.str DONE) ∨ result.lookup "status" = some (.str ERROR)

theorem lookup_status_errorEntries (d : Dict String Json) (kind message : String) :
    (d.update (errorEntries kind message)).lookup "status" = some (.str ERROR) := by
  simp only [Dict.update, errorEntries, List.foldl_cons, List.foldl_nil]
  rw [Dict.lookup_set_ne _ (by decide), Dict.lookup_set_ne _ (by decide), Dict.lookup_set_self]

theorem terminal_deliveredResult (msg : ScanMessage) (report : ScanReport) (transient : Bool) :
    Terminal (deliveredResult msg report transient) := by
  cases transient with
  | true => exact .inr (lookup_status_errorEntries _ _ _)
  | false => exact .inl (Dict.lookup_set_self _ _ _)

theorem terminal_handed {env : Env} {msg : ScanMessage} {retries : Option Nat} {a : Attempted}
    {result : Dict String Json} (h : handed env msg retries a = some result) :
    Terminal result := by
  rcases handed_cases h with ⟨e, message, -, rfl⟩ | ⟨report, -, rfl⟩
  · exact .inr (lookup_status_errorEntries _ _ _)
  · exact terminal_deliveredResult msg report _

/-- How far the accept handler is, once the request has been accepted. -/
inductive Handler where
  | accepted
  | enqueued
  | seeded
  deriving DecidableEq, Repr

/-- One accepted job: its handler, its message in the queue with the retries so far, the worker's
world, and the answers of the polls. -/
structure JobState where
  handler : Handler := .accepted
  queued : Option Nat := none
  world : World
  polls : List (Except Failure (Dict String Json)) := []

/-- A step of the web process, of the worker, or of a caller. -/
inductive JobEvent where
  | enqueue
  | seed
  | attempt (env : Env)
  | poll (path : String)

/-- What its owner is answered on a path that polls the job. -/
def polled (settings : Settings) (msg : ScanMessage) (w : World) (path : String) :
    Except Failure (Dict String Json) :=
  jobStatus settings false w.store path msg.jobId msg.apiClient

/-- The queue after an attempt: one that raises is run again while the budget lasts. The broker is
taken to hand a message out once for each of its retries, and not again. -/
def requeued (retries : Nat) : Except Exc Unit → Option Nat
  | .ok () => none
  | .error _ => if retries < MAX_RETRIES then some (retries + 1) else none

def jobStep (py : Python) (settings : Settings) (msg : ScanMessage) (s : JobState) :
    JobEvent → Option JobState
  | .enqueue =>
    if s.handler = .accepted then some { s with handler := .enqueued, queued := some 0 } else none
  | .seed =>
    if s.handler = .enqueued then
      some { s with
        handler := .seeded
        world := { s.world with
          store := record settings false s.world.store msg.jobId msg.apiClient
            (pendingRecord msg) } }
    else none
  | .attempt env =>
    match s.queued with
    | none => none
    | some retries =>
      let (outcome, world) := scanTask py settings env msg (some retries) s.world
      some { s with queued := requeued retries outcome, world := world }
  | .poll path => some { s with polls := s.polls ++ [polled settings msg s.world path] }

/-- Once a terminal result has been recorded, every poll returns this one, the first. -/
def TerminalKept (settings : Settings) (msg : ScanMessage) (w : World) : Prop :=
  ∀ first, w.finals.head? = some first →
    ∀ path, polled settings msg w path = .ok (serialize first (ofPath path))

/-- Two records that every poll is answered alike with. -/
def ReadAlike (r r' : Dict String Json) : Prop :=
  ∀ path, serialize r (ofPath path) = serialize r' (ofPath path)

/-- The record of the job is not written after a terminal one: the seed comes first, and no attempt
comes to `_finalize` after another one has, unless it only says the same again. -/
def WritesFirst (py : Python) (settings : Settings) (msg : ScanMessage) (s : JobState) :
    JobEvent → Prop
  | .seed => s.world.finals = []
  | .attempt env => ∀ retries first result, s.queued = some retries →
    s.world.finals.head? = some first →
    handedBy settings env msg py (some retries) = some result → ReadAlike result first
  | _ => True

def StoreHolds : JobEvent → Prop
  | .attempt env => env.storeFails = false
  | _ => True

def FinalsTerminal (w : World) : Prop := ∀ r ∈ w.finals, Terminal r

theorem polled_record {settings : Settings} (henabled : enabled settings = true)
    (msg : ScanMessage) (w : World) (r : Dict String Json) (path : String) :
    polled settings msg
        { w with store := record settings false w.store msg.jobId msg.apiClient r } path =
      .ok (serialize r (ofPath path)) := by
  have hne : ¬ enabled settings = false := by
    rw [henabled]
    exact Bool.true_eq_false.mp
  rw [polled, jobStatus, raiseIf_neg hne, ok_bind, fetchRecord_record henabled]
  rfl

theorem finalsTerminal_scanTask {py : Python} {settings : Settings} {env : Env}
    {msg : ScanMessage} {retries : Option Nat} {w : World} (h : FinalsTerminal w) :
    FinalsTerminal (scanTask py settings env msg retries w).2 := by
  rw [FinalsTerminal, scanTask_finals]
  cases hhanded : handedBy settings env msg py retries with
  | none =>
    rw [Option.toList_none, List.append_nil]
    exact h
  | some result =>
    apply List.forall_mem_append.2 ⟨h, _⟩
    exact List.forall_mem_singleton.2 (terminal_handed hhanded)

/-- An attempt keeps the terminal record it finds, exactly when it has nothing else to say. -/
theorem terminalKept_scanTask {py : Python} {settings : Settings} {env : Env} {msg : ScanMessage}
    {retries : Nat} {w : World} (henabled : enabled settings = true)
    (hstore : env.storeFails = false) (hkept : TerminalKept settings msg w) :
    TerminalKept settings msg (scanTask py settings env msg (some retries) w).2 ↔
      ∀ first result, w.finals.head? = some first →
        handedBy settings env msg py (some retries) = some result → ReadAlike result first := by
  have hpolled (path : String) :
      polled settings msg (scanTask py settings env msg (some retries) w).2 path =
        (handedBy settings env msg py (some retries)).elim (polled settings msg w path)
          (fun result => .ok (serialize result (ofPath path))) := by
    rw [polled, scanTask_store, hstore]
    cases handedBy settings env msg py (some retries) with
    | none => rfl
    | some result => exact polled_record henabled msg w result path
  simp only [TerminalKept, hpolled, scanTask_finals]
  cases handedBy settings env msg py (some retries) with
  | none =>
    rw [Option.toList_none, List.append_nil]
    exact iff_of_true hkept (fun _ _ _ hnone => by cases hnone)
  | some result =>
    cases w.finals with
    | nil =>
      apply iff_of_true
      · intro first hfirst path
        cases hfirst
        rfl
      · intro first _ hfirst
        cases hfirst
    | cons first rest =>
      constructor
      · intro h first' result' hfirst hresult path
        cases hfirst
        cases hresult
        exact Except.ok.inj (h first rfl path)
      · intro h first' hfirst path
        cases hfirst
        exact congrArg Except.ok (h first result rfl rfl path)

theorem not_terminal_pendingRecord (msg : ScanMessage) : ¬ Terminal (pendingRecord msg) := by
  have hl : (pendingRecord msg).lookup "status" = some (.str PENDING) := rfl
  rintro (h | h)
  · rw [hl, Option.some.injEq, Json.str.injEq] at h
    exact absurd h (by decide)
  · rw [hl, Option.some.injEq, Json.str.injEq] at h
    exact absurd h (by decide)

theorem serialize_pendingRecord_ne {r : Dict String Json} (hr : Terminal r) (msg : ScanMessage) :
    serialize (pendingRecord msg) V2 ≠ serialize r V2 := by
  intro h
  have hl := congrArg (List.lookup "status") h
  rw [lookup_serialize_v2 (by decide), lookup_serialize_v2 (by decide)] at hl
  rw [Terminal, ← hl] at hr
  exact not_terminal_pendingRecord msg hr

/-- The seed leaves no terminal record behind it. -/
theorem terminalKept_seed {settings : Settings} {msg : ScanMessage} {w : World}
    (henabled : enabled settings = true) (hfinals : FinalsTerminal w) :
    TerminalKept settings msg
        { w with
          store := record settings false w.store msg.jobId msg.apiClient (pendingRecord msg) } ↔
      w.finals = [] := by
  simp only [TerminalKept, polled_record henabled]
  constructor
  · intro hfirst
    by_contra hne
    have hterm := hfinals _ (List.head_mem hne)
    have hr := hfirst _ (List.head?_eq_some_head hne) "/api/v2.0/jobs/"
    exact serialize_pendingRecord_ne hterm msg (Except.ok.inj hr)
  · intro hnil first hfirst
    rw [hnil] at hfirst
    cases hfirst

theorem jobStep_terminalKept {py : Python} {settings : Settings} {msg : ScanMessage}
    (henabled : enabled settings = true) (s : JobState) (e : JobEvent) (s' : JobState)
    (hfinals : FinalsTerminal s.world) (hkept : TerminalKept settings msg s.world)
    (hstore : StoreHolds e) (h : jobStep py settings msg s e = some s') :
    FinalsTerminal s'.world ∧
      (TerminalKept settings msg s'.world ↔ WritesFirst py settings msg s e) := by
  cases e with
  | enqueue =>
    rw [jobStep] at h
    split at h
    · cases h
      exact ⟨hfinals, iff_of_true hkept trivial⟩
    · cases h
  | poll =>
    cases h
    exact ⟨hfinals, iff_of_true hkept trivial⟩
  | seed =>
    rw [jobStep] at h
    split at h
    · cases h
      exact ⟨hfinals, terminalKept_seed henabled hfinals⟩
    · cases h
  | attempt env =>
    rw [jobStep] at h
    cases hq : s.queued with
    | none =>
      rw [hq] at h
      cases h
    | some retries =>
      rw [hq, Option.some.injEq] at h
      subst h
      refine ⟨finalsTerminal_scanTask hfinals, ?_⟩
      dsimp only
      rw [terminalKept_scanTask henabled hstore hkept]
      constructor
      · intro hsame retries' first result hqueued
        rw [hq] at hqueued
        cases hqueued
        exact hsame first result
      · intro hsame first result
        exact hsame retries first result hq

/-- In every interleaving of an accepted job, the terminal record stays what a poll returns
exactly when nothing else is written to the record after it. -/
theorem terminal_record_kept_iff (py : Python) (settings : Settings) (msg : ScanMessage)
    (store : Store) (events : List JobEvent) (henabled : enabled settings = true)
    (hstore : ∀ e ∈ events, StoreHolds e) :
    Always (jobStep py settings msg) (fun s => TerminalKept settings msg s.world)
        ⟨.accepted, none, { store }, []⟩ events ↔
      EachStep (jobStep py settings msg) (WritesFirst py settings msg)
        ⟨.accepted, none, { store }, []⟩ events := by
  apply always_iff_eachStep (jobStep_terminalKept henabled)
  · intro r hr
    cases hr
  · intro r hr
    cases hr
  · exact hstore

def polledJob : ScanMessage where
  jobId := "job"
  url := "https://example.com/f"
  scanners := ["clamav"]
  apiClient := "drive"

/-- The host of the file no longer resolves when the worker takes the job. -/
def unresolvable : Env where
  dns _ := .error .gaierror
  net := ⟨fun _ _ => .error .gaierror, fun _ _ => .error (.requestException "no route")⟩
  gcm := ⟨fun _ _ plain _ => plain, fun _ _ _ _ => none⟩
  registry := []

/-- A worker that is done before the handler seeds leaves the job pending. -/
theorem late_seed_reverts_terminal_record :
    ¬ Always (jobStep publicPython { workerResultTtl := 3600 } polledJob)
      (fun s => TerminalKept { workerResultTtl := 3600 } polledJob s.world)
      ⟨.accepted, none, {}, []⟩ [.enqueue, .attempt unresolvable, .seed] := by
  intro h
  have hkept := h.final rfl _ rfl "/api/v2.0/jobs/job"
  have hterm : Terminal (polledJob.result.update
      (errorEntries "file" "ssrf_blocked: Unable to resolve hostname")) :=
    .inr (lookup_status_errorEntries _ _ _)
  exact serialize_pendingRecord_ne hterm polledJob (Except.ok.inj hkept)

theorem early_seed_keeps_terminal_record :
    Always (jobStep publicPython { workerResultTtl := 3600 } polledJob)
      (fun s => TerminalKept { workerResultTtl := 3600 } polledJob s.world)
      ⟨.accepted, none, {}, []⟩
      [.enqueue, .poll "/api/v1.0/jobs/job", .seed, .attempt unresolvable] := by
  refine (terminal_record_kept_iff publicPython { workerResultTtl := 3600 } polledJob [] _ rfl
    (by simp [StoreHolds, unresolvable])).2 ?_
  intro s₁ h₁
  cases h₁
  refine ⟨trivial, fun s₂ h₂ => ?_⟩
  cases h₂
  refine ⟨trivial, fun s₃ h₃ => ?_⟩
  cases h₃
  refine ⟨rfl, fun s₄ _ => ⟨?_, trivial⟩⟩
  intro retries first result _ hfirst
  cases hfirst

end FileScanner
