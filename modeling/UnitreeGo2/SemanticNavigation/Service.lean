import UnitreeGo2.SemanticNavigation.MapLifecycle
import UnitreeGo2.Lib.ThreadPool

/-!
# The semantic navigation service

The service runs its calls, its status monitors, its cancel workers and the callbacks of the map
lifecycle as threads.  A segment of a thread is what it does between two points where another
thread may come in: one operation of the registry or of a guard, or what it does while it holds
the service lock.  The provider answers as it likes.
-/

namespace UnitreeGo2.SemanticNavigation

/-- The library, and the configured waiting times as the service prints them. -/
structure Settings extends Library where
  cancelRetryS : String
  lifecycleWaitS : String

/-! ## What comes from outside -/

structure StatusReply where
  known : Bool
  state : String
  detail : String
  deriving DecidableEq, Repr

structure CancelReply where
  accepted : Bool
  detail : String
  deriving DecidableEq, Repr

structure NavigateReply where
  accepted : Bool
  runId : String
  detail : String
  deriving DecidableEq, Repr

/-- What a request to the navigation provider raises. -/
inductive RpcFailure where
  | rpcError (code details text : String)
  | other (text : String)
  deriving DecidableEq, Repr

/-- `str(exc)`. -/
def RpcFailure.text : RpcFailure → String
  | rpcError _ _ text | other text => text

/-- What a question to Atlas raises. -/
inductive BindingFailure where
  | bindingError (message : String)
  | other (message : String)
  deriving DecidableEq, Repr

def BindingFailure.message : BindingFailure → String
  | bindingError message | other message => message

/-- What the service takes from a saved landmark. -/
structure Target where
  id : String
  name : String
  deriving DecidableEq, Repr

/-- What a thread has got when it goes on. -/
inductive Input where
  | go
  | navigateReply (reply : Except RpcFailure NavigateReply)
  | statusReply (reply : Except RpcFailure StatusReply)
  | cancelReply (reply : Except RpcFailure CancelReply)
  /-- Whether the retry window of a cancel worker has passed. -/
  | window (expired : Bool)
  | provider (outcome : Except BindingFailure Unit)
  | landmark (resolved : Except String Target)
  | observe (state : MapLifecycleState)
  | fail (reason : String) (sampleSeen : Bool)
  | exit
  /-- A stop event was seen. -/
  | stop

/-! ## The shared state -/

/-- A subscriber, and whether its thread is alive. -/
structure Subscriber where
  guard : ℕ
  alive : Bool
  deriving DecidableEq, Repr

/-- The current guard, subscriber and topic.  Guards and subscribers are compared by identity. -/
structure Binding where
  guard : ℕ
  subscriber : ℕ
  topic : String
  deriving DecidableEq, Repr

structure Shared where
  runs : Registry := {}
  /-- Every guard that was ever made. -/
  guards : List LifecycleGuard := []
  subscribers : List Subscriber := []
  binding : Option Binding := none
  accepting : Bool := false
  /-- The thread that holds the service lock beyond its segment. -/
  lock : Option ℕ := none
  /-- The identifiers drawn by `uuid4`, and the calls that drew them. -/
  issued : List (String × ℕ) := []
  deriving DecidableEq, Repr

namespace Shared

def subscriberAlive (s : Shared) (subscriber : ℕ) : Bool :=
  match s.subscribers[subscriber]? with
  | none => false
  | some found => found.alive

/-- A guard moves, and says which transition it has to announce. -/
def moveGuard (s : Shared) (guard : ℕ)
    (f : LifecycleGuard → LifecycleGuard × Option LifecycleTransition) :
    Shared × Option LifecycleTransition :=
  match s.guards[guard]? with
  | none => (s, none)
  | some g => ({ s with guards := s.guards.set guard (f g).1 }, (f g).2)

end Shared

structure Admission where
  guard : ℕ
  subscriber : ℕ
  topic : String
  snapshot : LifecycleSnapshot
  deriving DecidableEq, Repr

/-- The snapshot of the guard if the admission is still current, or the text of the
`LifecycleBindingError`. -/
def Admission.validateCurrent (lib : Library) (admission : Admission) (s : Shared) :
    Except String LifecycleSnapshot :=
  if ¬ s.accepting then .error "semantic navigation stopped accepting goals"
  else
    match s.binding with
    | none => .error "map lifecycle binding changed before dispatch"
    | some current =>
      if current.guard ≠ admission.guard ∨ current.subscriber ≠ admission.subscriber then
        .error "map lifecycle binding changed before dispatch"
      else if current.topic ≠ admission.topic then
        .error "map lifecycle topic changed before dispatch"
      else if ¬ s.subscriberAlive admission.subscriber then
        .error "map lifecycle subscriber stopped before dispatch"
      else
        match s.guards[admission.guard]? with
        | none => .error "map lifecycle binding changed before dispatch"
        | some guard =>
          match guard.requireReady lib with
          | .error message => .error message
          | .ok latest =>
            if latest.revision ≠ admission.snapshot.revision ∨
                latest.state ≠ admission.snapshot.state then
              .error "map lifecycle state changed before dispatch"
            else .ok latest

/-! ## Reports -/

/-- Why the unfinished runs are invalidated. -/
inductive Cause where
  /-- The transition callback of a guard, at a revision. -/
  | callback (guard revision : ℕ)
  | stop
  | recheck
  deriving DecidableEq, Repr

/-- What a segment has done. -/
inductive Report where
  | silent
  | reserved (runId : String) (admission : Admission)
  /-- A run was removed after a navigation reply that is not accepted. -/
  | rejected (runId : String)
  | attached (runId navRunId : String)
  /-- A status reply for a run, to a request for a navigation run. -/
  | statusReply (runId navRunId : String) (reply : StatusReply)
  | moved (guard : ℕ) (transition : LifecycleTransition)
  | invalidated (cause : Cause)
  /-- A cancel worker has reported its retry window as unconfirmed. -/
  | unconfirmed (runId : String)
  deriving DecidableEq, Repr

def Report.ofTransition (guard : ℕ) : Option LifecycleTransition → Report
  | none => .silent
  | some transition => .moved guard transition

/-- The threads that a segment starts. -/
inductive Spawn where
  | cancelWorker (claim : CancelClaim)
  | monitor (runId : String)
  | subscriber (guard subscriber : ℕ)
  deriving DecidableEq, Repr

/-- A segment of a part of a thread. -/
structure Part (α : Type) where
  shared : Shared
  next : α
  spawned : List Spawn := []
  report : Report := .silent

def Part.map {α β : Type} (f : α → β) (part : Part α) : Part β :=
  ⟨part.shared, f part.next, part.spawned, part.report⟩

/-! ## Invalidation -/

/-- `_invalidate_nonterminal_runs`, with the claims that it has still to schedule. -/
inductive Invalidation where
  | pending (reason : String)
  | scheduling (claims : List CancelClaim)
  deriving DecidableEq, Repr

def Invalidation.step (s : Shared) (cause : Cause) :
    Invalidation → Option (Part (Option Invalidation))
  | .pending reason =>
    some {
      shared := { s with runs := (s.runs.invalidateNonterminal reason).1 }
      next := some (.scheduling (s.runs.invalidateNonterminal reason).2)
      report := .invalidated cause }
  | .scheduling (claim :: claims) =>
    if s.lock = none then
      some { shared := s, next := some (.scheduling claims), spawned := [.cancelWorker claim] }
    else none
  | .scheduling [] => some { shared := s, next := none }

/-- `_on_lifecycle_transition`, which holds the service lock while it invalidates. -/
inductive Callback where
  | waiting (guard : ℕ) (transition : LifecycleTransition)
  | scheduling (claims : List CancelClaim)
  deriving DecidableEq, Repr

def Callback.step (s : Shared) (index : ℕ) : Callback → Option (Part (Option Callback))
  | .waiting guard transition =>
    if transition.Initial then some { shared := s, next := none }
    else if s.lock = none then
      let reason := transitionDetail transition
      some {
        shared := { s with
          runs := (s.runs.invalidateNonterminal reason).1
          lock := some index }
        next := some (.scheduling (s.runs.invalidateNonterminal reason).2)
        report := .invalidated (.callback guard transition.revision) }
    else none
  | .scheduling (claim :: claims) =>
    some { shared := s, next := some (.scheduling claims), spawned := [.cancelWorker claim] }
  | .scheduling [] => some { shared := { s with lock := none }, next := none }

/-- A guard moves on a thread that then runs the callback. -/
def Shared.announce (s : Shared) (guard : ℕ)
    (f : LifecycleGuard → LifecycleGuard × Option LifecycleTransition) : Part (Option Callback) :=
  { shared := (s.moveGuard guard f).1
    next := (s.moveGuard guard f).2.map (.waiting guard)
    report := .ofTransition guard (s.moveGuard guard f).2 }

/-! ## Readiness -/

/-- `_require_lifecycle_ready`. -/
inductive ReadyStage where
  | reading
  | probing (binding : Binding)
  | notifying (binding : Binding) (callback : Callback)
  | checking (binding : Binding)
  | liveness (binding : Binding) (snapshot : LifecycleSnapshot)
  deriving DecidableEq, Repr

inductive ReadyResult where
  | goOn (stage : ReadyStage)
  | ready (admission : Admission)
  | bindingError (message : String)
  | raised (message : String)
  deriving DecidableEq, Repr

/-- The readiness check after a callback, or while it runs. -/
def ReadyResult.afterCallback (binding : Binding) : Option Callback → ReadyResult
  | none => .goOn (.checking binding)
  | some callback => .goOn (.notifying binding callback)

def ReadyStage.step (lib : Library) (s : Shared) (index : ℕ) :
    ReadyStage → Input → Option (Part ReadyResult)
  | .reading, .go =>
    if s.lock = none then
      match s.accepting, s.binding with
      | true, some binding => some { shared := s, next := .goOn (.probing binding) }
      | _, _ => some { shared := s, next := .bindingError "semantic navigation is not active" }
    else none
  | .probing binding, .go =>
    if s.subscriberAlive binding.subscriber then
      some { shared := s, next := .goOn (.checking binding) }
    else
      some ((s.announce binding.guard fun guard =>
        guard.fail lib "map lifecycle subscriber is not running" false).map
          (.afterCallback binding))
  | .notifying binding callback, .go =>
    (callback.step s index).map (Part.map (.afterCallback binding))
  | .checking binding, .go =>
    match s.guards[binding.guard]? with
    | none => none
    | some guard =>
      match guard.requireReady lib with
      | .error message => some { shared := s, next := .bindingError message }
      | .ok snapshot => some { shared := s, next := .goOn (.liveness binding snapshot) }
  | .liveness binding snapshot, .provider outcome =>
    match outcome with
    | .ok () =>
      some {
        shared := s
        next := .ready ⟨binding.guard, binding.subscriber, binding.topic, snapshot⟩ }
    | .error (.bindingError message) => some { shared := s, next := .bindingError message }
    | .error (.other message) => some { shared := s, next := .raised message }
  | _, _ => none

/-! ## Calls -/

def RegistryError.message (lib : Library) : RegistryError → String
  | .singleFlight activeRun => singleFlightMessage lib activeRun
  | .valueError message | .keyError message => message

/-- The response to a call; its detail is rendered from the snapshot of the run. -/
structure NavigateResponse where
  accepted : Bool
  runId : String
  run : Run
  deriving DecidableEq, Repr

inductive NavigatePc where
  | admitting (stage : ReadyStage)
  | resolving (admission : Admission)
  | validating (admission : Admission) (target : Target)
  /-- It has validated its admission, and holds the service lock. -/
  | reserving (admission : Admission) (target : Target)
  | calling (admission : Admission) (target : Target)
  | schedulingCancel (claim : CancelClaim)
  | rechecking (revision : ℕ) (stage : ReadyStage)
  | invalidating (work : Invalidation)
  | finishing
  | schedulingMonitor (run : Run)
  | returned (result : Except String NavigateResponse)

/-- The text for a navigation request that has failed. -/
def RpcFailure.navigateDetail : RpcFailure → String
  | rpcError code details _ =>
    "Robonix navigation RPC failed ambiguously: " ++ code ++ ": " ++ details ++
      "; provider terminal is unconfirmed, so semantic single-flight remains busy"
  | other text =>
    "Robonix navigation call failed ambiguously: " ++ text ++
      "; provider terminal is unconfirmed, so semantic single-flight remains busy"

def missingRunIdDetail : String :=
  "navigation reported accepted but returned no run_id; provider terminal is unconfirmed, " ++
    "so semantic single-flight remains busy"

/-- The run stays busy after a navigation request with an unknown outcome. -/
def ambiguous (lib : Library) (s : Shared) (runId detail : String) : Part NavigatePc :=
  match s.runs.updateRemote lib runId "UNKNOWN" detail with
  | .error error => { shared := s, next := .returned (.error (error.message lib)) }
  | .ok (runs, _) => { shared := { s with runs := runs }, next := .returned (.error detail) }

/-- The answer of the navigation provider arrives. -/
def navigateReplied (lib : Library) (s : Shared) (runId : String) (admission : Admission)
    (target : Target) : Except RpcFailure NavigateReply → Part NavigatePc
  | .error failure => ambiguous lib s runId failure.navigateDetail
  | .ok reply =>
    if ¬ reply.accepted then
      { shared := { s with runs := s.runs.remove runId }
        next := .returned (.error ("navigation rejected landmark " ++ lib.repr target.name ++
          ": " ++ reply.detail))
        report := .rejected runId }
    else if reply.runId = "" then ambiguous lib s runId missingRunIdDetail
    else
      match s.runs.attachNavigation lib runId reply.runId reply.detail with
      | .error error => { shared := s, next := .returned (.error (error.message lib)) }
      | .ok (runs, run, mustCancel) =>
        { shared := { s with runs := runs }
          next :=
            if mustCancel then
              .schedulingCancel ⟨runId, reply.runId,
                if run.invalidationDetail = "" then "map lifecycle changed while goal was starting"
                else run.invalidationDetail⟩
            else .rechecking admission.snapshot.revision .reading
          report := .attached runId reply.runId }

/-- The admission is validated under the service lock. -/
def validate (lib : Library) (s : Shared) (index : ℕ) (admission : Admission) (target : Target) :
    Part NavigatePc :=
  match admission.validateCurrent lib s with
  | .error message => { shared := s, next := .returned (.error message) }
  | .ok _ => { shared := { s with lock := some index }, next := .reserving admission target }

/-- The run is reserved, and the service lock is released. -/
def reserveRun (lib : Library) (s : Shared) (runId : String) (admission : Admission)
    (target : Target) : Part NavigatePc :=
  match admission.snapshot.state with
  | none => { shared := { s with lock := none }, next := .returned (.error "") }
  | some active =>
    match s.runs.reserve lib target.id target.name active.mapId active.generation
        admission.snapshot.revision runId with
    | .error error =>
      { shared := { s with lock := none }, next := .returned (.error (error.message lib)) }
    | .ok runs =>
      { shared := { s with runs := runs, lock := none }
        next := .calling admission target
        report := .reserved runId admission }

/-- The readiness check after the goal was accepted. -/
def rechecked (revision : ℕ) : ReadyResult → NavigatePc
  | .goOn stage => .rechecking revision stage
  | .ready latest =>
    if latest.snapshot.revision ≠ revision then
      .invalidating (.pending
        "map lifecycle changed while the navigation goal was being accepted")
    else .finishing
  | .bindingError message => .invalidating (.pending message)
  | .raised message => .returned (.error message)

def admitted : ReadyResult → NavigatePc
  | .goOn stage => .admitting stage
  | .ready admission => .resolving admission
  | .bindingError message | .raised message => .returned (.error message)

/-- `navigate_landmark`. -/
def NavigatePc.step (lib : Library) (s : Shared) (index : ℕ) (runId : String) :
    NavigatePc → Input → Option (Part NavigatePc)
  | .admitting stage, input => (stage.step lib s index input).map (Part.map admitted)
  | .resolving admission, .landmark resolved =>
    match resolved with
    | .error message => some { shared := s, next := .returned (.error message) }
    | .ok target => some { shared := s, next := .validating admission target }
  | .validating admission target, .go =>
    if s.lock = none then some (validate lib s index admission target) else none
  | .reserving admission target, .go => some (reserveRun lib s runId admission target)
  | .calling admission target, .navigateReply reply =>
    some (navigateReplied lib s runId admission target reply)
  | .schedulingCancel claim, .go =>
    if s.lock = none then
      some { shared := s, next := .finishing, spawned := [.cancelWorker claim] }
    else none
  | .rechecking revision stage, input =>
    (stage.step lib s index input).map (Part.map (rechecked revision))
  | .invalidating work, .go =>
    (work.step s .recheck).map (Part.map fun next => next.elim .finishing .invalidating)
  | .finishing, .go =>
    match s.runs.get lib runId with
    | .error error => some { shared := s, next := .returned (.error (error.message lib)) }
    | .ok run => some { shared := s, next := .schedulingMonitor run }
  | .schedulingMonitor run, .go =>
    if s.lock = none then
      some {
        shared := s
        next := .returned (.ok ⟨!run.invalidated, runId, run⟩)
        spawned := [.monitor runId] }
    else none
  | _, _ => none

/-- The answer to a status call. -/
structure StatusResponse where
  known : Bool
  state : String
  run : Run
  deriving DecidableEq, Repr

inductive StatusPc where
  | resolving (runId : String)
  | getting (runId : String)
  | querying (runId navRunId : String)
  | returned (result : Except String StatusResponse)

def unknownRunDetail (lib : Library) (navRunId : String) : String :=
  "navigation provider does not currently know run " ++ lib.repr navRunId ++
    "; terminal state is unconfirmed"

/-- The state and the detail that a status reply gives to the registry. -/
def StatusReply.remote (lib : Library) (reply : StatusReply) (navRunId : String) :
    String × String :=
  if reply.known then (reply.state, reply.detail)
  else ("UNKNOWN", unknownRunDetail lib navRunId)

/-- The answer to a status call, after the registry was updated. -/
def StatusReply.response (lib : Library) (reply : StatusReply) (navRunId : String) (run : Run) :
    Except String StatusResponse :=
  if reply.known then .ok ⟨true, run.state, run⟩
  else .error ("navigation provider lost run " ++ lib.repr navRunId)

/-- `landmark_status`. -/
def StatusPc.step (lib : Library) (s : Shared) : StatusPc → Input → Option (Part StatusPc)
  | .resolving runId, .go =>
    match s.runs.resolve lib runId with
    | .error error => some { shared := s, next := .returned (.error (error.message lib)) }
    | .ok resolved => some { shared := s, next := .getting resolved }
  | .getting runId, .go =>
    match s.runs.get lib runId with
    | .error error => some { shared := s, next := .returned (.error (error.message lib)) }
    | .ok run =>
      some {
        shared := s
        next :=
          if run.remoteTerminal then .returned (.ok ⟨true, run.state, run⟩)
          else .querying runId run.navRunId }
  | .querying _ _, .statusReply (.error failure) =>
    match failure with
    | .rpcError code details _ =>
      some {
        shared := s
        next := .returned (.error ("Robonix navigation status RPC failed: " ++ code ++ ": " ++
          details)) }
    | .other text => some { shared := s, next := .returned (.error text) }
  | .querying runId navRunId, .statusReply (.ok reply) =>
    match s.runs.updateRemote lib runId (reply.remote lib navRunId).1
        (reply.remote lib navRunId).2 with
    | .error error =>
      some {
        shared := s
        next := .returned (.error (error.message lib))
        report := .statusReply runId navRunId reply }
    | .ok (runs, run) =>
      some {
        shared := { s with runs := runs }
        next := .returned (reply.response lib navRunId run)
        report := .statusReply runId navRunId reply }
  | _, _ => none

structure CancelResponse where
  accepted : Bool
  detail : String
  deriving DecidableEq, Repr

inductive CancelPc where
  | resolving (runId : String)
  | getting (runId : String)
  | claiming (run : Run)
  | calling (run : Run)
  /-- A cancel worker takes over, and the call answers. -/
  | scheduling (claim : CancelClaim) (result : Except String CancelResponse)
  | returned (result : Except String CancelResponse)

/-- What a cancel call does with the snapshot of its run. -/
def CancelPc.ofRun (run : Run) : CancelPc :=
  if run.navRunId = "" then
    .returned (.error "semantic run has no navigation run_id; cancel fails closed")
  else if run.remoteTerminal then
    if run.remoteState = "CANCELED" then
      .returned (.ok ⟨true,
        if run.navigationDetail = "" then "already canceled" else run.navigationDetail⟩)
    else
      .returned (.error ("cannot cancel provider-terminal semantic run in state " ++
        run.remoteState))
  else if run.cancelStarted then
    .returned (.ok ⟨true,
      if run.cancelDetail = "" then "cancellation is already in progress; provider terminal " ++
        "status has not yet been confirmed"
      else run.cancelDetail⟩)
  else .claiming run

/-- The answer of the provider to the first cancel request. -/
def cancelReplied (lib : Library) (s : Shared) (run : Run) :
    Except RpcFailure CancelReply → Part CancelPc
  | .error (.rpcError code details _) =>
    { shared := s
      next := .scheduling ⟨run.semanticRunId, run.navRunId,
          "user requested cancellation; initial cancel RPC failed: " ++ code⟩
        (.error ("Robonix navigation cancel RPC failed: " ++ code ++ ": " ++ details)) }
  | .error (.other text) =>
    { shared := s
      next := .scheduling ⟨run.semanticRunId, run.navRunId,
          "user requested cancellation; initial cancel call failed: " ++ text⟩
        (.error ("Robonix navigation cancel call failed: " ++ text)) }
  | .ok reply =>
    if ¬ reply.accepted then
      { shared := s
        next := .scheduling ⟨run.semanticRunId, run.navRunId,
            "user requested cancellation; initial cancel request was rejected"⟩
          (.error ("navigation cancel rejected: " ++ reply.detail)) }
    else
      match s.runs.markCancelResult lib run.semanticRunId
          ((if reply.detail = "" then "cancel submitted" else reply.detail) ++
            "; waiting for provider terminal confirmation") none with
      | .error error => { shared := s, next := .returned (.error (error.message lib)) }
      | .ok (runs, marked) =>
        { shared := { s with runs := runs }
          next := .scheduling
            ⟨run.semanticRunId, marked.navRunId, "user requested cancellation"⟩
            (.ok ⟨true, marked.cancelDetail⟩) }

/-- `landmark_cancel`. -/
def CancelPc.step (lib : Library) (s : Shared) : CancelPc → Input → Option (Part CancelPc)
  | .resolving runId, .go =>
    match s.runs.resolve lib runId with
    | .error error => some { shared := s, next := .returned (.error (error.message lib)) }
    | .ok resolved => some { shared := s, next := .getting resolved }
  | .getting runId, .go =>
    match s.runs.get lib runId with
    | .error error => some { shared := s, next := .returned (.error (error.message lib)) }
    | .ok run => some { shared := s, next := .ofRun run }
  | .claiming run, .go =>
    match s.runs.claimCancel lib run.semanticRunId with
    | .error error => some { shared := s, next := .returned (.error (error.message lib)) }
    | .ok (_, none) =>
      some {
        shared := s
        next := .returned (.error "unable to claim semantic cancellation; retry status first") }
    | .ok (runs, some _) => some { shared := { s with runs := runs }, next := .calling run }
  | .calling run, .cancelReply reply => some (cancelReplied lib s run reply)
  | .scheduling claim result, .go =>
    if s.lock = none then
      some { shared := s, next := .returned result, spawned := [.cancelWorker claim] }
    else none
  | _, _ => none

/-! ## Monitors and cancel workers -/

inductive MonitorPc where
  | getting
  | querying (navRunId : String)
  | returned
  deriving DecidableEq, Repr

/-- `_monitor_navigation_status`. -/
def MonitorPc.step (lib : Library) (s : Shared) (runId : String) :
    MonitorPc → Input → Option (Part MonitorPc)
  | .getting, .stop => some { shared := s, next := .returned }
  | .getting, .go =>
    match s.runs.get lib runId with
    | .error _ => some { shared := s, next := .returned }
    | .ok run =>
      some { shared := s, next := if run.remoteTerminal then .returned else .querying run.navRunId }
  | .querying _, .statusReply (.error _) => some { shared := s, next := .getting }
  | .querying navRunId, .statusReply (.ok reply) =>
    match s.runs.updateRemote lib runId (reply.remote lib navRunId).1
        (reply.remote lib navRunId).2 with
    | .error _ =>
      some { shared := s, next := .getting, report := .statusReply runId navRunId reply }
    | .ok (runs, run) =>
      some {
        shared := { s with runs := runs }
        next := if run.remoteTerminal then .returned else .getting
        report := .statusReply runId navRunId reply }
  | _, _ => none

/-- What the loop of `cancel_until_terminal` keeps. -/
structure CancelProgress where
  attempts : ℕ := 0
  accepted : Bool := false
  lastDetail : String := "no status or cancel response"
  deriving DecidableEq, Repr

structure CancelOutcome where
  terminal : Bool
  terminalState : String
  detail : String
  cancelAttempts : ℕ
  cancelWasAccepted : Bool
  timedOut : Bool
  deriving DecidableEq, Repr

inductive CancelWorkerPc where
  | polling (progress : CancelProgress)
  | cancelling (progress : CancelProgress)
  | waiting (progress : CancelProgress)
  | getting (outcome : CancelOutcome)
  | updating (outcome : CancelOutcome)
  /-- The outcome is marked on the run that the registry has shown. -/
  | marking (outcome : CancelOutcome) (confirmed : Run)
  | returned
  deriving DecidableEq, Repr

/-- `str(getattr(status, "state", "")).strip().upper()`. -/
def StatusReply.normalState (lib : Library) (reply : StatusReply) : String :=
  lib.upper (lib.strip reply.state)

/-- A status reply arrives in the loop of `cancel_until_terminal`. -/
def CancelProgress.polled (lib : Library) (progress : CancelProgress) :
    Except RpcFailure StatusReply → CancelWorkerPc
  | .error failure =>
    .cancelling { progress with lastDetail := "navigation status failed: " ++ failure.text }
  | .ok reply =>
    if reply.known then
      if reply.normalState lib ∈ terminalStates then
        .getting {
          terminal := true
          terminalState := reply.normalState lib
          detail :=
            if reply.detail = "" then "navigation confirmed " ++ reply.normalState lib
            else reply.detail
          cancelAttempts := progress.attempts
          cancelWasAccepted := progress.accepted
          timedOut := false }
      else
        .cancelling { progress with
          lastDetail :=
            if reply.detail = "" then
              "navigation remains " ++
                (if reply.normalState lib = "" then "UNKNOWN" else reply.normalState lib)
            else reply.detail }
    else
      .cancelling { progress with lastDetail := "navigation status is unknown/not registered" }

/-- A cancel reply arrives in the loop of `cancel_until_terminal`. -/
def CancelProgress.cancelled (progress : CancelProgress) :
    Except RpcFailure CancelReply → CancelProgress
  | .error failure =>
    { progress with
      attempts := progress.attempts + 1
      lastDetail := "navigation cancel failed: " ++ failure.text }
  | .ok reply =>
    if reply.accepted then
      { attempts := progress.attempts + 1
        accepted := true
        lastDetail :=
          if reply.detail = "" then "cancel submitted; terminal not confirmed" else reply.detail }
    else
      { progress with
        attempts := progress.attempts + 1
        lastDetail := if reply.detail = "" then "cancel request rejected" else reply.detail }

/-- The retry window has passed. -/
def CancelProgress.timedOut (progress : CancelProgress) : CancelOutcome where
  terminal := false
  terminalState := ""
  detail := progress.lastDetail
  cancelAttempts := progress.attempts
  cancelWasAccepted := progress.accepted
  timedOut := true

def pyBool (b : Bool) : String := if b then "True" else "False"

/-- The text that a cancel worker leaves on its run. -/
def cancelResultDetail (settings : Settings) (reason : String) (outcome : CancelOutcome)
    (confirmed : Run) : String :=
  if outcome.terminal || confirmed.remoteTerminal then
    reason ++ "; provider terminal confirmed as " ++ confirmed.remoteState ++
      "; cancel_attempts=" ++ toString outcome.cancelAttempts ++ "; cancel_accepted=" ++
      pyBool outcome.cancelWasAccepted ++ "; " ++
      (if confirmed.navigationDetail = "" then outcome.detail else confirmed.navigationDetail)
  else
    "HIGH-RISK: " ++ reason ++ "; provider terminal state was not confirmed within " ++
      settings.cancelRetryS ++ "s; semantic single-flight remains busy; cancel_attempts=" ++
      toString outcome.cancelAttempts ++ "; cancel_accepted=" ++
      pyBool outcome.cancelWasAccepted ++ "; " ++ outcome.detail

/-- `_cancel_run_until_terminal`. -/
def CancelWorkerPc.step (settings : Settings) (s : Shared) (claim : CancelClaim) :
    CancelWorkerPc → Input → Option (Part CancelWorkerPc)
  | .polling progress, .statusReply reply =>
    some {
      shared := s
      next := progress.polled settings.toLibrary reply
      report := match reply with
        | .error _ => .silent
        | .ok reply => .statusReply claim.semanticRunId claim.navRunId reply }
  | .cancelling progress, .cancelReply reply =>
    some { shared := s, next := .waiting (progress.cancelled reply) }
  | .waiting progress, .window expired =>
    some {
      shared := s
      next := if expired then .getting progress.timedOut else .polling progress }
  | .getting outcome, .go =>
    match s.runs.get settings.toLibrary claim.semanticRunId with
    | .error _ => some { shared := s, next := .returned }
    | .ok current =>
      some {
        shared := s
        next := if outcome.terminal then .updating outcome else .marking outcome current }
  | .updating outcome, .go =>
    match s.runs.updateRemote settings.toLibrary claim.semanticRunId outcome.terminalState
        outcome.detail with
    | .error _ => some { shared := s, next := .returned }
    | .ok (runs, confirmed) =>
      some { shared := { s with runs := runs }, next := .marking outcome confirmed }
  | .marking outcome confirmed, .go =>
    match s.runs.markCancelResult settings.toLibrary claim.semanticRunId
        (cancelResultDetail settings claim.reason outcome confirmed)
        (some (outcome.terminal || confirmed.remoteTerminal)) with
    | .error _ => some { shared := s, next := .returned }
    | .ok (runs, _) =>
      some {
        shared := { s with runs := runs }
        next := .returned
        report :=
          if outcome.terminal || confirmed.remoteTerminal then .silent
          else .unconfirmed claim.semanticRunId }
  | _, _ => none

/-! ## The binding to the map lifecycle -/

inductive SubscriberPc where
  | idle
  | notifying (callback : Callback)
  | exited
  deriving DecidableEq, Repr

/-- The thread of a subscriber goes on after a callback, or while it runs. -/
def SubscriberPc.afterCallback : Option Callback → SubscriberPc
  | none => .idle
  | some callback => .notifying callback

/-- The thread of a subscriber, which hands every message to its guard. -/
def SubscriberPc.step (lib : Library) (s : Shared) (index guard subscriber : ℕ) :
    SubscriberPc → Input → Option (Part SubscriberPc)
  | .idle, .observe state =>
    some ((s.announce guard fun g => g.observe state).map .afterCallback)
  | .idle, .fail reason sampleSeen =>
    some ((s.announce guard fun g => g.fail lib reason sampleSeen).map .afterCallback)
  | .idle, .exit =>
    some {
      shared := { s with subscribers := s.subscribers.set subscriber ⟨guard, false⟩ }
      next := .exited }
  | .notifying callback, .go => (callback.step s index).map (Part.map .afterCallback)
  | _, _ => none

/-- `_stop_lifecycle_binding`. -/
inductive StopStage where
  | unbinding (reason : String)
  | invalidating (subscriber : Option ℕ) (work : Invalidation)
  | joining (subscriber : Option ℕ)
  | notifying (callback : Callback)
  deriving DecidableEq, Repr

/-- The stop waits for the subscriber's thread, and fails its guard if it is still alive. -/
def joinSubscriber (lib : Library) (s : Shared) (subscriber : ℕ) : Part (Option StopStage) :=
  match s.subscribers[subscriber]? with
  | none => { shared := s, next := none }
  | some found =>
    if found.alive then
      (s.announce found.guard fun g =>
        g.fail lib "map lifecycle subscriber did not stop cleanly" false).map
          (Option.map .notifying)
    else { shared := s, next := none }

def StopStage.step (lib : Library) (s : Shared) (index : ℕ) :
    StopStage → Input → Option (Part (Option StopStage))
  | .unbinding reason, .go =>
    if s.lock = none then
      some {
        shared := { s with accepting := false, binding := none }
        next := some (.invalidating (s.binding.map Binding.subscriber) (.pending reason)) }
    else none
  | .invalidating subscriber work, .go =>
    (work.step s .stop).map (Part.map fun next =>
      some (next.elim (.joining subscriber) (.invalidating subscriber)))
  | .joining none, .go => some { shared := s, next := none }
  | .joining (some subscriber), .go => some (joinSubscriber lib s subscriber)
  | .notifying callback, .go => (callback.step s index).map (Part.map (Option.map .notifying))
  | _, _ => none

inductive ActivatePc where
  | preparing (mapId : String) (generation : ℕ) (topic : String)
  | binding (mapId : String) (generation : ℕ) (topic : String)
  | starting (guard subscriber : ℕ)
  | sampling (guard : ℕ)
  | checking (guard : ℕ)
  | liveness
  | accepting
  | stopping (stage : StopStage)
  | returned
  deriving DecidableEq, Repr

/-- Activation fails closed. -/
def ActivatePc.failed (message : String) : ActivatePc :=
  .stopping (.unbinding ("activation failed: " ++ message))

/-- `activate`. -/
def ActivatePc.step (settings : Settings) (s : Shared) (index : ℕ) :
    ActivatePc → Input → Option (Part ActivatePc)
  | .preparing mapId generation topic, .provider outcome =>
    match outcome with
    | .error failure => some { shared := s, next := .failed failure.message }
    | .ok () =>
      some {
        shared := s
        next :=
          if settings.strip mapId = "" then .failed "expected map_id is empty"
          else .binding (settings.strip mapId) generation topic }
  | .binding mapId generation topic, .go =>
    if s.lock = none then
      some {
        shared := { s with
          guards := s.guards ++ [{ expectedMapId := mapId, expectedGeneration := generation }]
          subscribers := s.subscribers ++ [⟨s.guards.length, false⟩]
          binding := some ⟨s.guards.length, s.subscribers.length, topic⟩
          accepting := false }
        next := .starting s.guards.length s.subscribers.length }
    else none
  | .starting guard subscriber, .provider outcome =>
    match outcome with
    | .error failure => some { shared := s, next := .failed failure.message }
    | .ok () =>
      some {
        shared := { s with subscribers := s.subscribers.set subscriber ⟨guard, true⟩ }
        next := .sampling guard
        spawned := [.subscriber guard subscriber] }
  | .sampling guard, .go =>
    match s.guards[guard]? with
    | none => none
    | some g =>
      some {
        shared := s
        next :=
          if g.sampleSeen then .checking guard
          else .failed ("no latched MapLifecycle sample received within " ++
            settings.lifecycleWaitS ++ "s") }
  | .checking guard, .go =>
    match s.guards[guard]? with
    | none => none
    | some g =>
      match g.requireReady settings.toLibrary with
      | .error message => some { shared := s, next := .failed message }
      | .ok _ => some { shared := s, next := .liveness }
  | .liveness, .provider outcome =>
    match outcome with
    | .error failure => some { shared := s, next := .failed failure.message }
    | .ok () => some { shared := s, next := .accepting }
  | .accepting, .go =>
    if s.lock = none then some { shared := { s with accepting := true }, next := .returned }
    else none
  | .stopping stage, input =>
    (stage.step settings.toLibrary s index input).map
      (Part.map fun next => next.elim .returned .stopping)
  | _, _ => none

/-! ## The service -/

inductive Thread where
  | navigate (runId : String) (pc : NavigatePc)
  | status (pc : StatusPc)
  | cancel (pc : CancelPc)
  | monitor (runId : String) (pc : MonitorPc)
  | cancelWorker (claim : CancelClaim) (pc : CancelWorkerPc)
  | subscriber (guard subscriber : ℕ) (pc : SubscriberPc)
  | activate (pc : ActivatePc)
  /-- `deactivate` and `shutdown`. -/
  | stop (stage : Option StopStage)

/-- A thread that was just started. -/
def Thread.ofSpawn : Spawn → Thread
  | .cancelWorker claim => .cancelWorker claim (.polling {})
  | .monitor runId => .monitor runId .getting
  | .subscriber guard self => .subscriber guard self .idle

/-- A segment of a part of a thread as one of the thread. -/
def Part.segment {α : Type} (wrap : α → Thread) (part : Part α) : Segment Shared Thread Report :=
  ⟨part.shared, wrap part.next, part.spawned.map .ofSpawn, part.report⟩

def Thread.act (settings : Settings) (s : Shared) (index : ℕ) :
    Thread → Input → Option (Segment Shared Thread Report)
  | .navigate runId pc, input =>
    (pc.step settings.toLibrary s index runId input).map (Part.segment (.navigate runId))
  | .status pc, input => (pc.step settings.toLibrary s input).map (Part.segment .status)
  | .cancel pc, input => (pc.step settings.toLibrary s input).map (Part.segment .cancel)
  | .monitor runId pc, input =>
    (pc.step settings.toLibrary s runId input).map (Part.segment (.monitor runId))
  | .cancelWorker claim pc, input =>
    (pc.step settings s claim input).map (Part.segment (.cancelWorker claim))
  | .subscriber guard self pc, input =>
    (pc.step settings.toLibrary s index guard self input).map
      (Part.segment (.subscriber guard self))
  | .activate pc, input => (pc.step settings s index input).map (Part.segment .activate)
  | .stop none, _ => none
  | .stop (some stage), input =>
    (stage.step settings.toLibrary s index input).map (Part.segment .stop)

inductive Request where
  /-- `navigate_landmark`, with the identifier that it draws. -/
  | navigate (runId : String)
  | status (runId : String)
  | cancel (runId : String)
  | activate (mapId : String) (generation : ℕ) (topic : String)
  | stop (reason : String)
  deriving DecidableEq, Repr

/-- A call starts its thread.  `uuid4` does not draw an identifier twice. -/
def Shared.call (s : Shared) (index : ℕ) : Request → Option (Shared × Thread)
  | .navigate runId =>
    if runId ∈ s.issued.map Prod.fst then none
    else
      some ({ s with issued := (runId, index) :: s.issued }, .navigate runId (.admitting .reading))
  | .status runId => some (s, .status (.resolving runId))
  | .cancel runId => some (s, .cancel (.resolving runId))
  | .activate mapId generation topic => some (s, .activate (.preparing mapId generation topic))
  | .stop reason => some (s, .stop (some (.unbinding reason)))

def service (settings : Settings) : Program Shared Thread Input Request Report where
  act := Thread.act settings
  call := Shared.call

/-- The service before its first call. -/
def idleService : Pool Shared Thread := ⟨{}, []⟩

end UnitreeGo2.SemanticNavigation
