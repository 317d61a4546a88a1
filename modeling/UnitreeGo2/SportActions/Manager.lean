import UnitreeGo2.SportActions.Worker

/-!
# The manager of the sport actions

The clients and the workers share the runs and the active run under one lock.  Every critical
section is one event, and the workers take the steps of `Job.work` in between.  A run is known
by its position, which stands for the fresh identifier that it draws.
-/

namespace UnitreeGo2.SportActions

/-! ## Names -/

def PlanName.all : List PlanName :=
  [.hello, .stretch, .dance1, .dance2, .newYearGreeting, .crouch, .handstand, .handstandWalk]

/-- `PLANS[name]`, as far as the name is a key. -/
def PlanName.ofString? (name : String) : Option PlanName :=
  PlanName.all.find? fun plan => plan.toString = name

/-- The dances that the manager was configured with. -/
structure DanceVariants where
  names : List PlanName
  nonempty : names ≠ []
  nodup : names.Nodup
  dances : ∀ name ∈ names, name = .dance1 ∨ name = .dance2

/-- `secrets.choice`. -/
def DanceVariants.choose (variants : DanceVariants) (choice : ℕ) : PlanName :=
  variants.names.get ⟨choice % variants.names.length,
    Nat.mod_lt _ (List.length_pos_iff.mpr variants.nonempty)⟩

/-! ## The state -/

structure Manager where
  danceVariants : DanceVariants
  /-- The socket path is not empty. -/
  configured : Bool
  jobs : List Job := []
  activeRunId : Option ℕ := none
  /-- The runs that a shutdown has looked up and not cancelled yet. -/
  shutdowns : List ℕ := []

structure ExecuteReply where
  accepted : Bool
  runId : Option ℕ
  selectedAction : Option PlanName := none
  reason : String
  requestId : Option String
  motionSent : Bool := false
  deriving DecidableEq, Repr

structure Snapshot where
  runId : ℕ
  name : PlanName
  requestedName : String
  requestId : String
  state : RunState
  dispatchedSteps : ℕ
  sdkRequestsAccepted : ℕ
  detail : String
  stopAcknowledged : Bool
  physicalCompletionVerified : Bool := false
  deriving DecidableEq, Repr

structure CancelReply where
  ok : Bool
  runId : Option ℕ
  reason : String
  stopAcknowledged : Bool
  deriving DecidableEq, Repr

inductive ManagerOutput where
  | none
  | executed (reply : ExecuteReply)
  /-- A status, which is empty for an unknown run. -/
  | status (reply : Option Snapshot)
  | cancelled (reply : CancelReply)
  | called (runId : ℕ) (call : Call)
  deriving DecidableEq, Repr

inductive ManagerEvent where
  | execute (name requestId : String) (choice : ℕ)
  | status (runId : ℕ)
  | cancel (runId : ℕ)
  | cancelActive
  /-- A shutdown looks up the active run. -/
  | shutdown
  /-- A shutdown cancels the run that it has looked up. -/
  | shutdownCancel (index : ℕ)
  | work (runId : ℕ) (answer : Answer)
  deriving DecidableEq, Repr

/-- `requested_name or name`. -/
def Run.requested (run : Run) : String :=
  if run.requestedName = "" then run.name.toString else run.requestedName

def Run.snapshot (run : Run) (runId : ℕ) : Snapshot where
  runId := runId
  name := run.name
  requestedName := run.requested
  requestId := run.requestId
  state := run.state
  dispatchedSteps := run.dispatchedSteps
  sdkRequestsAccepted := run.sdkRequestsAccepted
  detail := run.detail
  stopAcknowledged := run.stopAcknowledged

/-- `run.cancel_requested.set()`. -/
def Job.requestCancel (job : Job) : Job :=
  { job with run := { job.run with cancelRequested := true } }

namespace Manager

/-- The first run with a request identifier. -/
def findRequest (m : Manager) (requestId : String) : Option (Job × ℕ) :=
  m.jobs.zipIdx.find? fun entry => entry.1.run.requestId = requestId

/-- The run that `execute` starts. -/
def start (m : Manager) (name requestId : String) (choice : ℕ) : Job :=
  .queued ((PlanName.ofString? name).getD (m.danceVariants.choose choice)) requestId name

def execute (m : Manager) (name requestId : String) (choice : ℕ) : ExecuteReply × Manager :=
  if PlanName.ofString? name = none ∧ name ≠ "dance" then
    ({ accepted := false, runId := none, reason := "action_not_in_physical_plan",
       requestId := requestId }, m)
  else if m.configured = false then
    ({ accepted := false, runId := none, reason := "physical_backend_not_configured",
       requestId := requestId }, m)
  else
    match if requestId = "" then none else m.findRequest requestId, m.activeRunId with
    | some (prior, runId), _ =>
      if prior.run.requested ≠ name then
        ({ accepted := false, runId := runId, reason := "request_id_used_for_different_action",
           requestId := none }, m)
      else
        ({ accepted := true, runId := runId, selectedAction := prior.run.name,
           reason := "duplicate_request_id_existing_run", requestId := requestId }, m)
    | none, some _ =>
      ({ accepted := false, runId := none, reason := "action_in_progress",
         requestId := requestId }, m)
    | none, none =>
      let job := m.start name requestId choice
      ({ accepted := true, runId := m.jobs.length, selectedAction := job.run.name,
         reason := "queued_check_status_for_dispatch", requestId := requestId },
       { m with jobs := m.jobs ++ [job], activeRunId := m.jobs.length })

def status (m : Manager) (runId : ℕ) : Option Snapshot :=
  m.jobs[runId]?.map fun job => job.run.snapshot runId

def cancel (m : Manager) (runId : ℕ) : CancelReply × Manager :=
  match m.jobs[runId]? with
  | none =>
    ({ ok := false, runId := runId, reason := "unknown_run_id", stopAcknowledged := false }, m)
  | some job =>
    if m.activeRunId ≠ some runId then
      ({ ok := false, runId := runId, reason := "run_already_finished",
         stopAcknowledged := job.run.stopAcknowledged }, m)
    else
      ({ ok := true, runId := runId, reason := "cancel_requested",
         stopAcknowledged := job.run.stopAcknowledged },
       { m with jobs := m.jobs.modify runId Job.requestCancel })

def cancelActive (m : Manager) : CancelReply × Manager :=
  match m.activeRunId with
  | none =>
    ({ ok := false, runId := none, reason := "no_active_action", stopAcknowledged := false }, m)
  | some runId => m.cancel runId

/-- The critical section of `shutdown`. -/
def shutdown (m : Manager) : Manager :=
  { m with shutdowns := m.activeRunId.toList ++ m.shutdowns }

/-- The rest of `shutdown`: the run that was looked up is cancelled, even when it has finished
since. -/
def shutdownCancel (m : Manager) (index : ℕ) : Manager :=
  match m.shutdowns[index]? with
  | none => m
  | some runId =>
    { m with
      jobs := m.jobs.modify runId Job.requestCancel
      shutdowns := m.shutdowns.eraseIdx index }

/-- A step of the worker of a run; its last critical section gives up the activity. -/
def work (m : Manager) (runId : ℕ) (answer : Answer) : Option Call × Manager :=
  match m.jobs[runId]? with
  | none => (none, m)
  | some job =>
    let (call, next) := job.work answer
    (call,
      { m with
        jobs := m.jobs.set runId next
        activeRunId :=
          if job.worker.pc = .finishing ∧ next.worker.pc = .finished ∧
              m.activeRunId = some runId then none
          else m.activeRunId })

end Manager

/-- Clients and workers in any order. -/
def managerMachine : Machine Manager ManagerEvent ManagerOutput where
  step m event :=
    match event with
    | .execute name requestId choice => ((m.execute name requestId choice).map .executed id)
    | .status runId => (.status (m.status runId), m)
    | .cancel runId => (m.cancel runId).map .cancelled id
    | .cancelActive => m.cancelActive.map .cancelled id
    | .shutdown => (.none, m.shutdown)
    | .shutdownCancel index => (.none, m.shutdownCancel index)
    | .work runId answer =>
      (m.work runId answer).map (fun call => (call.map (.called runId)).getD .none) id

end UnitreeGo2.SportActions
