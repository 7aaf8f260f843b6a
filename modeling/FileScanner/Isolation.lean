import FileScanner.Service
import FileScanner.TerminalReport

namespace FileScanner
open Collections Fallible
set_option autoImplicit true

/-- Whoever is behind a job or a record of this id stands in the relation to the id. -/
structure Owned (P : String → String → Prop) (s : Service) : Prop where
  jobs : ∀ id job, s.jobs.lookup id = some job → job.msg.jobId = id ∧ P id job.msg.apiClient
  store : ∀ id w, s.world.store.lookup (keyMessage id) = some w → P id w.owner

def ServiceEvent.Respects (P : String → String → Prop) : ServiceEvent → Prop
  | .submit username jobId .. => P jobId username
  | _ => True

section Store
variable (py : Python) (settings : Settings)

theorem Job.lookup_step_store_ne {job : Job} {id : String} (h : id ≠ job.msg.jobId) (w : World)
    (op : JobOp) :
    (job.step py settings w op).2.store.lookup (keyMessage id) =
      w.store.lookup (keyMessage id) := by
  rw [Job.step_store]
  cases job.written py settings op with
  | none => rfl
  | some r =>
    rw [Option.elim_some, lookup_record, if_neg (fun hr => h hr.1)]

theorem Job.lookup_step_store_congr {job : Job} {id : String} {w w' : World}
    (h : w.store.lookup (keyMessage id) = w'.store.lookup (keyMessage id)) (op : JobOp) :
    (job.step py settings w op).2.store.lookup (keyMessage id) =
      (job.step py settings w' op).2.store.lookup (keyMessage id) := by
  rw [Job.step_store, Job.step_store]
  cases job.written py settings op with
  | none => exact h
  | some r => rw [Option.elim_some, Option.elim_some, lookup_record, lookup_record, h]

/-- What stands under the id of a job after an operation: what stood there, or its own record. -/
theorem Job.lookup_step_store {job : Job} {w : World} {op : JobOp} {stored : StoredResult}
    (h : (job.step py settings w op).2.store.lookup (keyMessage job.msg.jobId) = some stored) :
    w.store.lookup (keyMessage job.msg.jobId) = some stored ∨
      (stored.owner = job.msg.apiClient ∧ job.written py settings op = some stored.record) := by
  rw [Job.step_store] at h
  cases hw : job.written py settings op with
  | none =>
    rw [hw] at h
    exact .inl h
  | some r =>
    rw [hw, Option.elim_some, lookup_record] at h
    split at h
    · cases h
      exact .inr ⟨rfl, rfl⟩
    · exact .inl h

theorem Service.lookup_expired (s : Service) (jobId id : String) :
    (s.expired jobId).world.store.lookup (keyMessage id) =
      if id = jobId then none else s.world.store.lookup (keyMessage id) := by
  rw [Service.expired]
  split
  · rename_i h
    subst h
    exact Dict.lookup_filter_self _ _
  · rename_i h
    exact Dict.lookup_filter_ne _ (fun hk => h (keyMessage_injective hk))

/-- The job an event is about. -/
def ServiceEvent.target : ServiceEvent → Option String
  | .submit _ jobId .. | .job jobId _ | .expire jobId => some jobId
  | .poll .. => none

theorem serviceStep_lookup_ne {s : Service} {e : ServiceEvent} {id : String}
    (hne : e.target ≠ some id) :
    (serviceStep py settings s e).jobs.lookup id = s.jobs.lookup id := by
  cases e with
  | submit username jobId path registry dns body =>
    have hid : id ≠ jobId := fun heq => hne (congrArg some heq.symm)
    rw [serviceStep]
    split
    · exact Dict.lookup_set_ne _ hid _
    · rfl
  | job jobId op =>
    have hid : id ≠ jobId := fun heq => hne (congrArg some heq.symm)
    rw [serviceStep]
    split
    · rfl
    · exact Dict.lookup_set_ne _ hid _
  | expire jobId => rfl
  | poll username jobId path fails => rfl

/-- An event leaves every other job, and its record, as they are. -/
theorem serviceStep_frame {P : String → String → Prop} {s : Service} {e : ServiceEvent}
    {id : String} (h : Owned P s) (hne : e.target ≠ some id) :
    (serviceStep py settings s e).jobs.lookup id = s.jobs.lookup id ∧
      (serviceStep py settings s e).world.store.lookup (keyMessage id) =
        s.world.store.lookup (keyMessage id) := by
  apply And.intro (serviceStep_lookup_ne py settings hne)
  cases e with
  | submit username jobId path registry dns body =>
    rw [serviceStep]
    split <;> rfl
  | job jobId op =>
    have hid : id ≠ jobId := fun heq => hne (congrArg some heq.symm)
    rw [serviceStep]
    split
    · rfl
    · rename_i job hjob
      rw [← (h.jobs jobId job hjob).1] at hid
      exact Job.lookup_step_store_ne py settings hid _ op
  | expire jobId =>
    have hid : id ≠ jobId := fun heq => hne (congrArg some heq.symm)
    rw [serviceStep, Service.lookup_expired, if_neg hid]
  | poll username jobId path fails => rfl

/-- One event keeps the owners, when a submission gives its id to the right one. -/
theorem Owned.jobs_set {P : String → String → Prop} {s : Service} (h : Owned P s)
    {jobId : String} {job : Job} (hid : job.msg.jobId = jobId)
    (howner : P jobId job.msg.apiClient) (id : String) (job' : Job)
    (hjob : (s.jobs.set jobId job).lookup id = some job') :
    job'.msg.jobId = id ∧ P id job'.msg.apiClient := by
  rw [Dict.lookup_set] at hjob
  split at hjob
  · rename_i hsame
    cases hjob
    subst hsame
    exact ⟨hid, howner⟩
  · exact h.jobs id job' hjob

theorem Owned.store_step {P : String → String → Prop} {s : Service} (h : Owned P s) {job : Job}
    (howner : P job.msg.jobId job.msg.apiClient) {op : JobOp} (id : String) (w : StoredResult)
    (hw : (job.step py settings s.world op).2.store.lookup (keyMessage id) = some w) :
    P id w.owner := by
  by_cases hsame : id = job.msg.jobId
  · subst hsame
    rcases Job.lookup_step_store py settings hw with hold | ⟨hnew, -⟩
    · exact h.store _ w hold
    · rw [hnew]
      exact howner
  · rw [Job.lookup_step_store_ne py settings hsame] at hw
    exact h.store id w hw

theorem owned_step {P : String → String → Prop} {s : Service} {e : ServiceEvent}
    (he : e.Respects P) (h : Owned P s) : Owned P (serviceStep py settings s e) := by
  cases e with
  | submit username jobId path registry dns body =>
    rw [serviceStep]
    split
    · rename_i msg hnone hok
      obtain ⟨hid, hclient⟩ := accept_msg hok
      have howner : P jobId msg.apiClient := by
        rw [hclient]
        exact he
      exact ⟨h.jobs_set hid howner, h.store⟩
    · exact h
  | job jobId op =>
    rw [serviceStep]
    split
    · exact h
    · rename_i job hjob
      obtain ⟨hid, howner⟩ := h.jobs jobId job hjob
      have hmsg := Job.step_msg py settings job s.world op
      constructor
      · apply h.jobs_set
        · rw [hmsg, hid]
        · rw [hmsg]
          exact howner
      · subst hid
        exact h.store_step py settings howner
  | expire jobId =>
    constructor
    · exact h.jobs
    · intro id w hw
      rw [serviceStep, Service.lookup_expired] at hw
      split at hw
      · cases hw
      · exact h.store id w hw
  | poll username jobId path fails => exact ⟨h.jobs, h.store⟩

theorem owned_initial (P : String → String → Prop) : Owned P {} := by
  constructor
  · intro id job h
    cases h
  · intro id w h
    cases h

theorem owned_serve {P : String → String → Prop} {events : List ServiceEvent}
    (h : ∀ e ∈ events, e.Respects P) : Owned P (serve py settings events) := by
  have hstep (s : Service) (e : ServiceEvent) (he : e.Respects P) (hs : Owned P s) :
      Owned P (serviceStep py settings s e) := owned_step py settings he hs
  exact Unwinding.run_invariant hstep h (owned_initial P)

end Store

def Service.answersTo (s : Service) (username : String) :
    List (Except Failure (Dict String Json)) :=
  (s.answers.filter (fun a => a.1 = username)).map Prod.snd

def ServiceEvent.submits (username id : String) : ServiceEvent → Bool
  | .submit username' id' .. => username' = username && id' = id
  | _ => false

/-- The caller submits the job of this id at some point of the history. -/
def owns (history : List ServiceEvent) (username id : String) : Bool :=
  history.any (·.submits username id)

/-- The operations of a caller: its submissions, its polls, and what happens to its jobs. -/
def ServiceEvent.concerns (own : String → Bool) (username : String) : ServiceEvent → Bool
  | .submit username' .. | .poll username' .. => username' = username
  | .job id _ | .expire id => own id

def projection (username : String) (history : List ServiceEvent) : List ServiceEvent :=
  history.filter (·.concerns (owns history username) username)

/-- No job id is given to two callers. -/
def UniqueIds (history : List ServiceEvent) : Prop :=
  ∀ u v id, owns history u id = true → owns history v id = true → u = v

/-- The ids of a caller are its own, and nobody else's. -/
def OwnedBy (own : String → Bool) (username id owner : String) : Prop :=
  own id = true ↔ owner = username

/-- Two services look the same to a caller: its jobs, their records and its answers. -/
structure SameView (own : String → Bool) (username : String) (s t : Service) : Prop where
  jobs : ∀ id, own id = true → s.jobs.lookup id = t.jobs.lookup id
  store : ∀ id, own id = true →
    s.world.store.lookup (keyMessage id) = t.world.store.lookup (keyMessage id)
  answers : s.answersTo username = t.answersTo username

section View
variable {py : Python} {settings : Settings} {own : String → Bool} {username : String}
  {s t : Service}

theorem fetchRecord_foreign (hs : Owned (OwnedBy own username) s) {id : String}
    (hown : ¬ own id = true) (fails : Bool) :
    fetchRecord settings fails s.world.store id username = none := by
  rw [fetchRecord]
  split
  · rfl
  · split
    · rfl
    · rename_i w hw
      have howner : w.owner ≠ username := fun he => hown ((hs.store id w hw).2 he)
      rw [if_pos howner]

/-- A poll is answered from the caller's own records. -/
theorem jobStatus_sameView (hs : Owned (OwnedBy own username) s)
    (ht : Owned (OwnedBy own username) t) (h : SameView own username s t) (fails : Bool)
    (path id : String) :
    jobStatus settings fails s.world.store path id username =
      jobStatus settings fails t.world.store path id username := by
  rw [jobStatus, jobStatus]
  by_cases hown : own id = true
  · rw [fetchRecord, fetchRecord, h.store id hown]
  · rw [fetchRecord_foreign hs hown, fetchRecord_foreign ht hown]

theorem answersTo_concat (s : Service) (caller : String)
    (answer : Except Failure (Dict String Json)) :
    ({ s with answers := s.answers ++ [(caller, answer)] } : Service).answersTo username =
      if caller = username then s.answersTo username ++ [answer] else s.answersTo username := by
  rw [Service.answersTo, Service.answersTo, List.filter_append, List.map_append]
  split
  · rename_i h
    simp only [List.filter_cons, decide_eq_true h, if_true, List.filter_nil, List.map_cons,
      List.map_nil]
  · rename_i h
    simp only [List.filter_cons, decide_eq_false h, Bool.false_eq_true, if_false, List.filter_nil,
      List.map_nil, List.append_nil]

/-- What does not concern a caller is not about a job of its own. -/
theorem target_ne_of_own {e : ServiceEvent} (he : e.Respects (OwnedBy own username))
    (hmine : e.concerns own username = false) {id : String} (hown : own id = true) :
    e.target ≠ some id := by
  intro htarget
  cases e with
  | submit caller jobId path registry dns body =>
    cases htarget
    exact of_decide_eq_false hmine (he.1 hown)
  | job jobId op =>
    cases htarget
    exact Bool.eq_false_iff.1 hmine hown
  | expire jobId =>
    cases htarget
    exact Bool.eq_false_iff.1 hmine hown
  | poll caller jobId path fails => cases htarget

theorem answersTo_hidden {e : ServiceEvent} (hmine : e.concerns own username = false) :
    (serviceStep py settings s e).answersTo username = s.answersTo username := by
  cases e with
  | submit caller jobId path registry dns body =>
    rw [serviceStep]
    split <;> rfl
  | job jobId op =>
    rw [serviceStep]
    split <;> rfl
  | expire jobId => rfl
  | poll caller jobId path fails =>
    rw [serviceStep, answersTo_concat, if_neg (of_decide_eq_false hmine)]

/-- What happens to other callers' jobs changes nothing a caller sees. -/
theorem serviceStep_hidden {e : ServiceEvent} (he : e.Respects (OwnedBy own username))
    (hs : Owned (OwnedBy own username) s) (hmine : e.concerns own username = false) :
    SameView own username (serviceStep py settings s e) s where
  jobs _ hown := (serviceStep_frame py settings hs (target_ne_of_own he hmine hown)).1
  store _ hown := (serviceStep_frame py settings hs (target_ne_of_own he hmine hown)).2
  answers := answersTo_hidden hmine

/-- A caller's own operations go the same way wherever it sees the same. -/
theorem serviceStep_shown {e : ServiceEvent} (he : e.Respects (OwnedBy own username))
    (hs : Owned (OwnedBy own username) s) (ht : Owned (OwnedBy own username) t)
    (hmine : e.concerns own username = true) (h : SameView own username s t) :
    SameView own username (serviceStep py settings s e) (serviceStep py settings t e) := by
  cases e with
  | submit caller jobId path registry dns body =>
    have hjob := h.jobs jobId (he.2 (of_decide_eq_true hmine))
    rw [serviceStep, serviceStep, hjob]
    split
    · constructor
      · intro id hown
        dsimp only
        rw [Dict.lookup_set, Dict.lookup_set, h.jobs id hown]
      · exact h.store
      · exact h.answers
    · exact h
  | job jobId op =>
    have hjob := h.jobs jobId hmine
    rw [serviceStep, serviceStep, hjob]
    split
    · exact h
    · rename_i job _
      constructor
      · intro id hown
        dsimp only
        rw [Dict.lookup_set, Dict.lookup_set, h.jobs id hown, Job.step_job, Job.step_job]
      · intro id hown
        exact Job.lookup_step_store_congr py settings (h.store id hown) op
      · exact h.answers
  | expire jobId =>
    constructor
    · exact h.jobs
    · intro id hown
      rw [serviceStep, serviceStep, Service.lookup_expired, Service.lookup_expired,
        h.store id hown]
    · exact h.answers
  | poll caller jobId path fails =>
    have hcaller : caller = username := of_decide_eq_true hmine
    subst hcaller
    constructor
    · exact h.jobs
    · exact h.store
    · rw [serviceStep, serviceStep, answersTo_concat, answersTo_concat, if_pos rfl, if_pos rfl,
        h.answers, jobStatus_sameView hs ht h]

variable (py settings own username)

/-- A caller as an observer of the service. -/
theorem caller_observes :
    Unwinding.Observer (serviceStep py settings) (·.Respects (OwnedBy own username))
      (Owned (OwnedBy own username)) (·.concerns own username) (SameView own username) where
  refl _ := ⟨fun _ _ => rfl, fun _ _ => rfl, rfl⟩
  trans _ _ _ h h' :=
    ⟨fun id hown => (h.jobs id hown).trans (h'.jobs id hown),
      fun id hown => (h.store id hown).trans (h'.store id hown), h.answers.trans h'.answers⟩
  invariant _ _ he hs := owned_step py settings he hs
  hidden _ _ he hs hmine := serviceStep_hidden he hs hmine
  shown _ _ _ he hs ht hmine h := serviceStep_shown he hs ht hmine h

end View

theorem owns_of_mem {history : List ServiceEvent} {username jobId path : String}
    {registry : Registry} {dns : Dns} {body : ScanAsyncRequest}
    (h : .submit username jobId path registry dns body ∈ history) :
    owns history username jobId = true := by
  rw [owns, List.any_eq_true]
  exact ⟨_, h, by simp only [ServiceEvent.submits, decide_true, Bool.and_self]⟩

/-- With unique ids, every submission of a history gives its id to the one owner. -/
theorem respects_of_uniqueIds {history : List ServiceEvent} (h : UniqueIds history)
    (username : String) :
    ∀ e ∈ history, e.Respects (OwnedBy (owns history username) username) := by
  intro e he
  cases e with
  | submit caller jobId path registry dns body =>
    have hcaller := owns_of_mem he
    constructor
    · intro hown
      exact h caller username jobId hcaller hown
    · intro hsame
      rwa [← hsame]
  | _ => trivial

section Histories
variable (py : Python) (settings : Settings) (username : String)

theorem owned_history {history events : List ServiceEvent} (h : UniqueIds history)
    (hsub : ∀ e ∈ events, e ∈ history) :
    Owned (OwnedBy (owns history username) username) (serve py settings events) :=
  owned_serve py settings (fun e he => respects_of_uniqueIds h username e (hsub e he))

/-- A caller sees a history as the history of its own operations. -/
theorem sameView_projection {history : List ServiceEvent} (h : UniqueIds history) :
    SameView (owns history username) username (serve py settings history)
      (serve py settings (projection username history)) := by
  have hobserves := caller_observes py settings (owns history username) username
  exact hobserves.purge (respects_of_uniqueIds h username) (owned_initial _) (owned_initial _)
    (hobserves.refl _)

/-- A record was handed to the store for the job of this id at some point of the history. -/
def Written (history : List ServiceEvent) (id : String) (r : Dict String Json) : Prop :=
  ∃ pre op post job, history = pre ++ .job id op :: post ∧
    (serve py settings pre).jobs.lookup id = some job ∧ job.written py settings op = some r

theorem Written.concat {history : List ServiceEvent} {id : String} {r : Dict String Json}
    (h : Written py settings history id r) (e : ServiceEvent) :
    Written py settings (history ++ [e]) id r := by
  obtain ⟨pre, op, post, job, rfl, hjob, hr⟩ := h
  exact ⟨pre, op, post ++ [e], job, by rw [List.append_assoc, List.cons_append], hjob, hr⟩

theorem serve_concat (history : List ServiceEvent) (e : ServiceEvent) :
    serve py settings (history ++ [e]) = serviceStep py settings (serve py settings history) e :=
  Unwinding.run_append _ _ _ _

/-- Every job and every record belongs to a caller that submitted its id. -/
theorem owned_submitters (history : List ServiceEvent) :
    Owned (fun id owner => owns history owner id = true) (serve py settings history) := by
  apply owned_serve
  intro e he
  cases e with
  | submit caller jobId path registry dns body => exact owns_of_mem he
  | _ => trivial

/-- What stands under an id was written for that id. -/
theorem written_of_lookup {history : List ServiceEvent} {id : String} {stored : StoredResult}
    (h : (serve py settings history).world.store.lookup (keyMessage id) = some stored) :
    Written py settings history id stored.record := by
  induction history using List.reverseRecOn with
  | nil => cases h
  | append_singleton history e ih =>
    rw [serve_concat] at h
    cases e with
    | submit caller jobId path registry dns body =>
      apply (ih _).concat
      rw [serviceStep] at h
      split at h
      · exact h
      · exact h
    | job jobId op =>
      rw [serviceStep] at h
      split at h
      · exact (ih h).concat py settings _
      · rename_i job hjob
        obtain ⟨hid, -⟩ := (owned_submitters py settings history).jobs jobId job hjob
        by_cases hsame : id = job.msg.jobId
        · subst hsame
          rcases Job.lookup_step_store py settings h with hold | ⟨-, hnew⟩
          · exact (ih hold).concat py settings _
          · rw [hid]
            exact ⟨history, op, [], job, rfl, hjob, hnew⟩
        · rw [Job.lookup_step_store_ne py settings hsame] at h
          exact (ih h).concat py settings _
    | expire jobId =>
      apply (ih _).concat
      rw [serviceStep, Service.lookup_expired] at h
      split at h
      · cases h
      · exact h
    | poll caller jobId path fails => exact (ih h).concat py settings _

theorem jobStatus_ok {store : Store} {fails : Bool} {path id : String}
    {answer : Dict String Json} (h : jobStatus settings fails store path id username = .ok answer) :
    ∃ stored, store.lookup (keyMessage id) = some stored ∧ stored.owner = username ∧
      answer = serialize stored.record (ofPath path) := by
  rw [jobStatus] at h
  obtain ⟨⟨⟩, -, h⟩ := bind_eq_ok.1 h
  split at h
  · cases h
  · rename_i record hrecord
    cases h
    rw [fetchRecord] at hrecord
    split at hrecord
    · cases hrecord
    · split at hrecord
      · cases hrecord
      · rename_i stored hstored
        split at hrecord
        · cases hrecord
        · rename_i howner
          cases hrecord
          exact ⟨stored, hstored, not_not.1 howner, rfl⟩

end Histories

/-- The polls of a caller are answered alike in both histories. -/
structure AnsweredAlike (settings : Settings) (username : String) (s t : Service) : Prop where
  past : s.answersTo username = t.answersTo username
  next : ∀ fails path id, jobStatus settings fails s.world.store path id username =
    jobStatus settings fails t.world.store path id username

/-- A poll of a caller returns a record of its own, written for the very id it asks for, and an id
of another caller is answered as one that never existed. -/
structure OwnRecordsOnly (py : Python) (settings : Settings) (username : String)
    (history : List ServiceEvent) : Prop where
  returned : ∀ fails path id answer,
    jobStatus settings fails (serve py settings history).world.store path id username = .ok answer →
    owns history username id = true ∧
      ∃ r, Written py settings history id r ∧ answer = serialize r (ofPath path)
  foreign : ∀ fails path id, owns history username id = false →
    jobStatus settings fails (serve py settings history).world.store path id username =
      jobStatus settings fails [] path id username

/-- A caller's jobs are its own: nothing that happens to other jobs reaches its polls, and no
other job does. -/
theorem callers_isolated (py : Python) (settings : Settings) (username : String) :
    (∀ h₁ h₂, UniqueIds h₁ → UniqueIds h₂ → projection username h₁ = projection username h₂ →
      AnsweredAlike settings username (serve py settings h₁) (serve py settings h₂)) ∧
      ∀ h, UniqueIds h → OwnRecordsOnly py settings username h := by
  constructor
  · intro h₁ h₂ hu₁ hu₂ hsame
    have hview₁ := sameView_projection py settings username hu₁
    have hview₂ := sameView_projection py settings username hu₂
    rw [← hsame] at hview₂
    have hmem₁ : ∀ e ∈ projection username h₁, e ∈ h₁ := fun e he => List.mem_of_mem_filter he
    have hmem₂ : ∀ e ∈ projection username h₁, e ∈ h₂ := by
      rw [hsame]
      exact fun e he => List.mem_of_mem_filter he
    constructor
    · exact hview₁.answers.trans hview₂.answers.symm
    · intro fails path id
      rw [jobStatus_sameView (owned_history py settings username hu₁ (fun e he => he))
        (owned_history py settings username hu₁ hmem₁) hview₁]
      exact (jobStatus_sameView (owned_history py settings username hu₂ (fun e he => he))
        (owned_history py settings username hu₂ hmem₂) hview₂ fails path id).symm
  · intro h hu
    have howned := owned_history py settings username hu (fun e he => he)
    constructor
    · intro fails path id answer hanswer
      obtain ⟨stored, hstored, howner, heq⟩ := jobStatus_ok settings username hanswer
      exact ⟨(howned.store id stored hstored).2 howner, stored.record,
        written_of_lookup py settings hstored, heq⟩
    · intro fails path id hforeign
      have hempty : fetchRecord settings fails [] id username = none := by
        rw [fetchRecord]
        split <;> rfl
      rw [jobStatus, jobStatus, hempty,
        fetchRecord_foreign howned (Bool.eq_false_iff.1 hforeign)]

def storing : Settings := { defaultScanners := "", workerResultTtl := 3600 }

/-- A caller has a file scanned, under this id. -/
def submitted (username jobId : String) : ServiceEvent :=
  .submit username jobId "/api/v2.0/scan-async" clearingWorker.registry publicDns
    { url := "https://example.com/f", scanners := ["clamav"] }

/-- Two callers at once: one has its file scanned and polls, the other asks for its record, and then
has its own file fail. -/
def interleaved : List ServiceEvent :=
  [submitted "drive" "a", submitted "mail" "b", .job "b" .enqueue, .job "a" .enqueue,
    .job "b" (.seed false), .job "a" (.attempt clearingWorker),
    .poll "mail" "a" "/api/v2.0/jobs/a" false, .poll "drive" "a" "/api/v2.0/jobs/a" false,
    .job "b" (.attempt brokenWorker)]

/-- The same for the first caller, while another job of the second one expires. -/
def otherwise : List ServiceEvent :=
  [submitted "mail" "c", submitted "drive" "a", .job "a" .enqueue, .job "c" .enqueue,
    .job "a" (.attempt clearingWorker), .job "c" (.seed false), .expire "c",
    .poll "drive" "a" "/api/v2.0/jobs/a" false]

theorem callers_isolated_interleaved :
    AnsweredAlike storing "drive" (serve publicPython storing interleaved)
        (serve publicPython storing otherwise) ∧
      OwnRecordsOnly publicPython storing "drive" interleaved ∧
      (serve publicPython storing interleaved).answers.map
          (fun e => (e.1, e.2.map (List.lookup "status"))) =
        [("mail", .error (.http 404 "job not found")), ("drive", .ok (some (.str DONE)))] := by
  have hunique {history : List ServiceEvent} (other : String)
      (h : ∀ u id, owns history u id = true →
        (u = "drive" ∧ id = "a") ∨ (u = "mail" ∧ id = other)) (hne : other ≠ "a") :
      UniqueIds history := by
    intro u v id hu hv
    rcases h u id hu with ⟨rfl, hid⟩ | ⟨rfl, hid⟩
    · rcases h v id hv with ⟨rfl, -⟩ | ⟨-, hid'⟩
      · rfl
      · exact absurd (hid'.symm.trans hid) hne
    · rcases h v id hv with ⟨-, hid'⟩ | ⟨rfl, -⟩
      · exact absurd (hid.symm.trans hid') hne
      · rfl
  have hinterleaved : UniqueIds interleaved := by
    apply hunique "b" _ (by decide)
    intro u id h
    simp only [owns, interleaved, submitted, List.any_cons, List.any_nil, ServiceEvent.submits,
      Bool.or_false, Bool.or_eq_true, Bool.and_eq_true, decide_eq_true_eq] at h
    tauto
  have hotherwise : UniqueIds otherwise := by
    apply hunique "c" _ (by decide)
    intro u id h
    simp only [owns, otherwise, submitted, List.any_cons, List.any_nil, ServiceEvent.submits,
      Bool.or_false, Bool.or_eq_true, Bool.and_eq_true, decide_eq_true_eq] at h
    tauto
  obtain ⟨halike, hown⟩ := callers_isolated publicPython storing "drive"
  exact ⟨halike interleaved otherwise hinterleaved hotherwise rfl, hown interleaved hinterleaved, rfl⟩

end FileScanner
