import FileScanner.Custody
import FileScanner.Traffic

namespace FileScanner
open Collections Fallible Queues Unwinding
set_option autoImplicit true

/-- All there is to a job in the service and its queues: how far it is, and what it has sent. -/
structure Lane where
  job : Option Job := none
  sent : List (String × Dict String Json) := []

def Pipeline.lane (id : String) (p : Pipeline) : Lane := ⟨p.service.jobs.lookup id, p.sentFor id⟩

/-- An event of a job, where this job is the only one. -/
def Lane.step (py : Python) (settings : Settings) (l : Lane) : ServiceEvent → Lane
  | .submit username jobId path registry dns body =>
    match l.job, accept py settings registry dns path username jobId body with
    | none, .ok msg => { l with job := some { msg := msg } }
    | _, _ => l
  | .job _ op =>
    { job := l.job.map (·.next py settings op)
      sent := l.sent ++ l.job.toList.flatMap (·.calls py settings op) }
  | .expire _ => l
  | .poll .. => l

def Lane.connections (py : Python) (settings : Settings) (id : String) (l : Lane) :
    ServiceEvent → List Connection
  | .job _ op =>
    FileScanner.connections id .download (l.job.toList.flatMap (·.dials py settings op))
  | _ => []

/-- The event, if it is one of this job. -/
def PipelineEvent.of (id : String) : PipelineEvent → Option ServiceEvent
  | .serve e => if e.target = some id then some e else none
  | .deliver .. => none

def Connection.downloads (id : String) (c : Connection) : Bool :=
  decide (c.jobId = id ∧ c.errand = .download)

section Lanes
variable {py : Python} {settings : Settings}

theorem lane_target {p : Pipeline} {e : ServiceEvent} {id : String} (h : e.target = some id) :
    (pipelineStep py settings p (.serve e)).lane id = (p.lane id).step py settings e := by
  rw [Pipeline.lane, sentFor_target h]
  cases e with
  | poll username jobId path fails => cases h
  | expire jobId => exact congrArg (Lane.mk _) (List.append_nil _)
  | submit username jobId path registry dns body =>
    cases h
    rw [ServiceEvent.calls, List.append_nil, pipelineStep, serviceStep, Lane.step, Pipeline.lane]
    dsimp only
    cases hjob : p.service.jobs.lookup id with
    | some job =>
      dsimp only
      rw [hjob]
    | none =>
      cases accept py settings registry dns path username id body with
      | error e =>
        dsimp only
        rw [hjob]
      | ok msg =>
        dsimp only
        rw [Dict.lookup_set_self]
  | job jobId op =>
    cases h
    rw [ServiceEvent.calls, pipelineStep, serviceStep, Lane.step, Pipeline.lane]
    dsimp only
    cases hjob : p.service.jobs.lookup id with
    | none =>
      dsimp only
      rw [hjob]
      rfl
    | some job =>
      dsimp only
      rw [Dict.lookup_set_self, Job.step_job]
      rfl

theorem lane_step (id : String) (p : Pipeline) (e : PipelineEvent) :
    (e.of id).elim (p.lane id) ((p.lane id).step py settings) =
      (pipelineStep py settings p e).lane id := by
  cases e with
  | deliver i env =>
    rw [PipelineEvent.of, Option.elim_none, Pipeline.lane, Pipeline.lane, sentFor_deliver]
    rfl
  | serve e =>
    rw [PipelineEvent.of]
    split
    · rename_i htarget
      exact (lane_target htarget).symm
    · rename_i htarget
      have hlookup : (serviceStep py settings p.service e).jobs.lookup id =
          p.service.jobs.lookup id := serviceStep_lookup_ne py settings htarget
      rw [Option.elim_none, Pipeline.lane, Pipeline.lane, sentFor_serve, if_neg htarget,
        List.append_nil]
      exact congrArg (Lane.mk · _) hlookup.symm

theorem lane_connections (id : String) (p : Pipeline) (e : PipelineEvent) :
    (e.of id).elim [] ((p.lane id).connections py settings id) =
      (p.connections py settings e).filter (Connection.downloads id) := by
  cases e with
  | deliver i env =>
    refine (List.filter_eq_nil_iff.2 fun c hc hdownloads => ?_).symm
    obtain ⟨callback, -, hc⟩ := List.mem_flatMap.1 hc
    have herrand := (of_decide_eq_true hdownloads).2
    rw [(mem_connections hc).2.1] at herrand
    cases herrand
  | serve e =>
    cases e with
    | job jobId op =>
      rw [PipelineEvent.of, ServiceEvent.target, Pipeline.connections, Service.connections]
      split
      · rename_i htarget
        cases htarget
        refine (List.filter_eq_self.2 fun c hc => ?_).symm
        obtain ⟨hid, herrand, -⟩ := mem_connections hc
        exact decide_eq_true ⟨hid, herrand⟩
      · rename_i htarget
        refine (List.filter_eq_nil_iff.2 fun c hc hdownloads => ?_).symm
        have hid := (of_decide_eq_true hdownloads).1
        rw [(mem_connections hc).1] at hid
        exact htarget (congrArg some hid)
    | _ =>
      rw [PipelineEvent.of]
      split <;> rfl

end Lanes

/-- No job gets in the way of another: how far a job is, what it downloads and what it sends are
settled by its own events, in every history that holds them. -/
theorem jobs_do_not_interfere (py : Python) (settings : Settings) (id : String)
    {history history' : List PipelineEvent}
    (h : history.filterMap (PipelineEvent.of id) = history'.filterMap (PipelineEvent.of id)) :
    (pipeline py settings history).service.jobs.lookup id =
        (pipeline py settings history').service.jobs.lookup id ∧
      (pipeline py settings history).sentFor id = (pipeline py settings history').sentFor id ∧
      (traffic py settings history).filter (Connection.downloads id) =
        (traffic py settings history').filter (Connection.downloads id) := by
  have hlane (history : List PipelineEvent) :
      run (Lane.step py settings) {} (history.filterMap (PipelineEvent.of id)) =
        (pipeline py settings history).lane id :=
    run_projects (lane_step id) {} history
  have htraffic (history : List PipelineEvent) :
      emitted (Lane.step py settings) (Lane.connections py settings id) {}
          (history.filterMap (PipelineEvent.of id)) =
        (traffic py settings history).filter (Connection.downloads id) := by
    rw [traffic, filter_emitted]
    exact emitted_projects (lane_step id) (lane_connections id) {} history
  have hsame : (pipeline py settings history).lane id =
      (pipeline py settings history').lane id := by
    rw [← hlane, h, hlane]
  rw [← htraffic, h, htraffic]
  exact ⟨congrArg Lane.job hsame, congrArg Lane.sent hsame, rfl⟩

/-- The job of `oneJob` amid another one of another caller, on the same queues. -/
def crowdedJob : List PipelineEvent :=
  [.serve (.submit "docs" "other" "/api/v1.0/scan-async" oneScanner publicDns
      { url := "https://example.org/g", webhookUrl := some "https://example.org/hook",
        scanners := ["clamav"] }),
    .serve (.submit "drive" "job" "/api/v2.0/scan-async" oneScanner publicDns
      { url := "https://example.com/f", webhookUrl := some "https://example.com/hook",
        scanners := ["clamav"] }),
    .serve (.job "other" .enqueue), .serve (.job "job" .enqueue),
    .serve (.job "other" (.attempt unresolvable)), .deliver 0 (receiver [500] 0),
    .serve (.job "job" (.attempt unresolvable)), .serve (.expire "other")]

theorem jobs_do_not_interfere_crowded :
    (pipeline publicPython unmapped oneJob).service.jobs.lookup "job" =
        (pipeline publicPython unmapped crowdedJob).service.jobs.lookup "job" ∧
      (pipeline publicPython unmapped oneJob).sentFor "job" =
        (pipeline publicPython unmapped crowdedJob).sentFor "job" ∧
      (traffic publicPython unmapped oneJob).filter (Connection.downloads "job") =
        (traffic publicPython unmapped crowdedJob).filter (Connection.downloads "job") := by
  have h : oneJob.filterMap (PipelineEvent.of "job") =
      crowdedJob.filterMap (PipelineEvent.of "job") := rfl
  exact jobs_do_not_interfere publicPython unmapped "job" h

end FileScanner
