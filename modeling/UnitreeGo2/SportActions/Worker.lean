import UnitreeGo2.Lib.Machine
import UnitreeGo2.SportActions.Ipc
import Mathlib.Data.Rat.Defs

/-!
# The worker of a sport action

A worker owns one session with the chassis daemon: it arms, sends the packets of one plan,
keeps every one of them alive for its supervision window, and cleans up.  It is a machine over
the answers of its surroundings, so that a cancellation and the other threads come between any
two of its steps.
-/

namespace UnitreeGo2.SportActions

/-! ## Plans -/

structure Step where
  operation : ℤ
  durationS : ℚ := 0
  actionId : ℤ := 0
  vx : ℚ := 0
  deriving DecidableEq, Repr

/-- The keys of `PLANS`. -/
inductive PlanName where
  | hello
  | stretch
  | dance1
  | dance2
  | newYearGreeting
  | crouch
  | handstand
  | handstandWalk
  deriving DecidableEq, Repr

def PlanName.toString : PlanName → String
  | .hello => "hello"
  | .stretch => "stretch"
  | .dance1 => "dance_1"
  | .dance2 => "dance_2"
  | .newYearGreeting => "new_year_greeting"
  | .crouch => "crouch"
  | .handstand => "handstand"
  | .handstandWalk => "handstand_walk"

def plans : PlanName → List Step
  | .hello => [{ operation := sportAction, durationS := 15, actionId := 1 }]
  | .stretch => [{ operation := sportAction, durationS := 20, actionId := 2 }]
  | .dance1 => [{ operation := sportAction, durationS := 45, actionId := 3 }]
  | .dance2 => [{ operation := sportAction, durationS := 55, actionId := 4 }]
  | .newYearGreeting => [{ operation := sportAction, durationS := 30, actionId := 17 }]
  | .crouch => [{ operation := sportAction, durationS := 8, actionId := 14 },
      { operation := sportAction, durationS := 8, actionId := 15 }]
  | .handstand => [{ operation := sportAction, durationS := 8, actionId := 5 },
      { operation := sportAction, durationS := 4, actionId := 6 }]
  | .handstandWalk => [{ operation := sportAction, durationS := 8, actionId := 5 },
      { operation := move, durationS := 5, vx := 3 / 50 }, { operation := stop },
      { operation := sportAction, durationS := 4, actionId := 6 }]

/-! ## Runs -/

inductive RunState where
  | queued
  | connecting
  | running
  | failed
  | cancelled
  | sdkAcceptedCompletionUnverified
  deriving DecidableEq, Repr

/-- The states in which a worker leaves its run. -/
def RunState.isFinal : RunState → Bool
  | .failed | .cancelled | .sdkAcceptedCompletionUnverified => true
  | .queued | .connecting | .running => false

/-- A `Run`, without its identifier and its thread. -/
structure Run where
  name : PlanName
  requestId : String
  requestedName : String := ""
  state : RunState := .queued
  dispatchedSteps : ℕ := 0
  sdkRequestsAccepted : ℕ := 0
  detail : String := ""
  stopAcknowledged : Bool := false
  cancelRequested : Bool := false
  deriving DecidableEq, Repr

/-! ## Calls of the daemon -/

/-- What `DaemonClient` raises. -/
inductive CallError where
  | notConnected
  | osError (errno : ℕ) (strerror : String)
  | timedOut
  | notSentInFull
  | incorrectLength
  | failedValidation
  | rejected (operation code : ℤ)
  deriving DecidableEq, Repr

/-- The text of the exception. -/
def CallError.text : CallError → String
  | .notConnected => "daemon socket is not connected"
  | .osError errno strerror => "[Errno " ++ toString errno ++ "] " ++ strerror
  | .timedOut => "timed out"
  | .notSentInFull => "daemon command was not sent in full"
  | .incorrectLength => "daemon reply has incorrect length"
  | .failedValidation => "daemon reply failed protocol validation"
  | .rejected operation code =>
    "daemon rejected operation=" ++ toString operation ++ " code=" ++ toString code

/-- What becomes of a call: the daemon acknowledges the packet with `OK`, or the call raises
before the packet is sent, or after it. -/
inductive Outcome where
  | acknowledged
  | unsent (error : CallError)
  | unacknowledged (error : CallError)
  deriving DecidableEq, Repr

def Outcome.error? : Outcome → Option CallError
  | .acknowledged => none
  | .unsent error | .unacknowledged error => some error

/-- The packet went out. -/
def Outcome.sent : Outcome → Bool
  | .acknowledged | .unacknowledged _ => true
  | .unsent _ => false

/-- The arguments of a call. -/
structure Packet where
  operation : ℤ
  actionId : ℤ := 0
  vx : ℚ := 0
  deriving DecidableEq, Repr

structure Call where
  packet : Packet
  outcome : Outcome
  deriving DecidableEq, Repr

/-! ## The worker -/

/-- Where a worker stands. -/
inductive Pc where
  | starting
  | connecting
  | arming
  | running
  /-- The head of the loop over the steps of the plan. -/
  | checking (steps : List Step)
  | dispatching (step : Step) (rest : List Step)
  | recording (step : Step) (rest : List Step)
  | holding (step : Step) (rest : List Step)
  /-- The head of the loop of `_hold`. -/
  | timing (step : Step) (rest : List Step) (endS : ℚ)
  | watching (step : Step) (rest : List Step) (endS : ℚ)
  | sleeping (step : Step) (rest : List Step) (endS : ℚ)
  | keepingAlive (step : Step) (rest : List Step) (endS : ℚ)
  | stopping
  | leavingHandstand
  | standingUp
  | disarming
  | closing
  | finishing
  | finished
  deriving DecidableEq, Repr

/-- The local variables of `_worker`. -/
structure Worker where
  pc : Pc := .starting
  handstandEntered : Bool := false
  crouched : Bool := false
  stopOk : Bool := false
  error : String := ""
  cancelled : Bool := false
  deriving DecidableEq, Repr

/-- The packet of the call that the worker is about to make. -/
def Pc.packet? : Pc → Option Packet
  | .arming => some { operation := arm }
  | .dispatching step _ =>
    some { operation := step.operation, actionId := step.actionId, vx := step.vx }
  | .keepingAlive step _ _ =>
    if step.operation = move then some { operation := move, vx := step.vx }
    else some { operation := ping }
  | .stopping => some { operation := stop }
  | .leavingHandstand => some { operation := sportAction, actionId := 6 }
  | .standingUp => some { operation := sportAction, actionId := 15 }
  | .disarming => some { operation := disarm }
  | _ => none

namespace Worker

/-- `error = error or f"{what}: {exc}"`. -/
def blame (w : Worker) (what : String) : Option CallError → Worker
  | none => w
  | some error => { w with error := if w.error = "" then what ++ ": " ++ error.text else w.error }

/-- `raise Cancelled()`. -/
def cancel (w : Worker) : Worker := { w with cancelled := true, pc := .stopping }

/-- A call inside the plan, and where the worker goes on after it. -/
def attempt (w : Worker) (outcome : Outcome) (next : Pc) : Worker :=
  match outcome.error? with
  | none => { w with pc := next }
  | some error => { w with error := error.text, pc := .stopping }

/-- The cleanup after the handstand. -/
def standUp (w : Worker) : Worker :=
  { w with pc := if w.crouched then .standingUp else .disarming }

/-- The cleanup after the stop. -/
def leaveHandstand (w : Worker) : Worker :=
  if w.handstandEntered then { w with pc := .leavingHandstand } else w.standUp

/-- The worker after the call that it was about to make. -/
def called (w : Worker) (outcome : Outcome) : Worker :=
  match w.pc with
  | .arming => w.attempt outcome .running
  | .dispatching step rest => w.attempt outcome (.recording step rest)
  | .keepingAlive step rest endS => w.attempt outcome (.timing step rest endS)
  | .stopping =>
    ({ w with stopOk := outcome.error?.isNone }.blame "stop_unconfirmed"
      outcome.error?).leaveHandstand
  | .leavingHandstand => (w.blame "handstand_exit_unconfirmed" outcome.error?).standUp
  | .standingUp => { w.blame "standup_unconfirmed" outcome.error? with pc := .disarming }
  | .disarming => { w.blame "disarm_unconfirmed" outcome.error? with pc := .closing }
  | _ => w

/-- The flags after an acknowledged step. -/
def note (w : Worker) (step : Step) : Worker :=
  if step.actionId = 5 then { w with handstandEntered := true }
  else if step.actionId = 6 then { w with handstandEntered := false }
  else if step.actionId = 14 then { w with crouched := true }
  else if step.actionId = 15 then { w with crouched := false }
  else w

end Worker

/-- A run and its worker. -/
structure Job where
  run : Run
  worker : Worker := {}
  deriving DecidableEq, Repr

/-- What the surroundings of a worker answer to it. -/
inductive Answer where
  /-- Its next critical section, or its next look at the cancellation flag. -/
  | proceed
  | connected (error : Option CallError)
  | clock (now : ℚ)
  | called (outcome : Outcome)
  | closed (error : Option CallError)
  deriving DecidableEq, Repr

namespace Job

/-- A new run, with its worker not started. -/
def queued (name : PlanName) (requestId requestedName : String) : Job where
  run := { name, requestId, requestedName }

/-- The counters of a run after an acknowledged step. -/
def record (run : Run) (step : Step) : Run :=
  { run with
    dispatchedSteps := run.dispatchedSteps + 1
    sdkRequestsAccepted :=
      if step.operation = sportAction then run.sdkRequestsAccepted + 1
      else run.sdkRequestsAccepted }

/-- The last critical section of the worker. -/
def finish (run : Run) (w : Worker) : Run :=
  { run with
    stopAcknowledged := w.stopOk
    detail := if w.error = "" then
        "Exact requests dispatched; remote acceptance and physical completion not measured"
      else w.error
    state := if w.error ≠ "" then .failed
      else if w.cancelled then .cancelled
      else .sdkAcceptedCompletionUnverified }

/-- The worker leaves the plan when it sees the cancellation flag. -/
def unlessCancelled (job : Job) (next : Pc) : Job :=
  if job.run.cancelRequested then { job with worker := job.worker.cancel }
  else { job with worker := { job.worker with pc := next } }

/-- A step of the worker other than a call of the daemon. -/
def proceed (job : Job) (answer : Answer) : Job :=
  match job.worker.pc, answer with
  | .starting, .proceed =>
    { run := { job.run with state := .connecting },
      worker := { job.worker with pc := .connecting } }
  | .connecting, .connected none => { job with worker := { job.worker with pc := .arming } }
  | .connecting, .connected (some error) =>
    { job with
      worker := { job.worker.blame "daemon_unavailable" (some error) with pc := .finishing } }
  | .running, .proceed =>
    { run := { job.run with state := .running },
      worker := { job.worker with pc := .checking (plans job.run.name) } }
  | .checking [], .proceed => { job with worker := { job.worker with pc := .stopping } }
  | .checking (step :: rest), .proceed => job.unlessCancelled (.dispatching step rest)
  | .recording step rest, .proceed =>
    { run := record job.run step, worker := { job.worker.note step with pc := .holding step rest } }
  | .holding step rest, .clock now =>
    { job with worker := { job.worker with pc := .timing step rest (now + step.durationS) } }
  | .timing step rest endS, .clock now =>
    if now < endS then { job with worker := { job.worker with pc := .watching step rest endS } }
    else { job with worker := { job.worker with pc := .checking rest } }
  | .watching step rest endS, .proceed => job.unlessCancelled (.sleeping step rest endS)
  | .sleeping step rest endS, .proceed => job.unlessCancelled (.keepingAlive step rest endS)
  | .closing, .closed error =>
    { job with worker := { job.worker.blame "daemon_unavailable" error with pc := .finishing } }
  | .finishing, .proceed =>
    { run := finish job.run job.worker, worker := { job.worker with pc := .finished } }
  | _, _ => job

/-- One step of the worker, and the call of the daemon that it makes. -/
def work (job : Job) (answer : Answer) : Option Call × Job :=
  match job.worker.pc.packet?, answer with
  | some packet, .called outcome =>
    (some ⟨packet, outcome⟩, { job with worker := job.worker.called outcome })
  | some _, _ => (none, job)
  | none, answer => (none, job.proceed answer)

end Job

/-! ## The machine of one run -/

inductive JobEvent where
  | cancel
  | work (answer : Answer)
  deriving DecidableEq, Repr

/-- One run: its worker works, and its cancellation is requested at any time. -/
def jobMachine : Machine Job JobEvent (Option Call) where
  step job event :=
    match event with
    | .cancel => (none, { job with run := { job.run with cancelRequested := true } })
    | .work answer => job.work answer

/-- The calls of a run so far, the last one first. -/
def calls (tr : List (Machine.Step Job JobEvent (Option Call))) : List Call :=
  tr.reverse.filterMap (·.output)

end UnitreeGo2.SportActions
