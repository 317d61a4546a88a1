import UnitreeGo2.StagedNav2.Transitions

/-!
# The session of a staged navigation guard

The node runs its guard from callbacks, and once the guard is complete or faulted it stops
and disarms the chassis, while callbacks keep running, and writes one terminal result.  The
session records the evidence of the stop, and allows its parts and the callbacks in any
order.
-/

namespace UnitreeGo2.StagedNav2

/-- The `stop_evidence` of the node, as far as the terminal result reads it. -/
structure StopEvidence where
  cancelRequired : Bool := false
  cancelRequested : Bool := false
  cancelConfirmed : Bool := false
  zeroPublishedCount : Nat := 0
  zeroConfirmed : Bool := false
  disarmRequested : Bool := false
  disarmServiceSuccess : Bool := false
  disarmMeasured : Bool := false
  postStopPassed : Bool := false

structure Session where
  policy : StagedNav2Guard
  stopEvidence : StopEvidence := {}

inductive ResultStatus where
  | pass
  | fail
  deriving DecidableEq, Repr

/-- The status and the failure reason of the terminal result. -/
structure TerminalResult where
  status : ResultStatus
  failureReason : String

inductive SessionEvent where
  /-- A callback or a timer calls the guard. -/
  | operation (op : Operation)
  /-- `_publish_stop_zero`. -/
  | publishStopZero
  /-- After the first zeros `stop_and_disarm` decides whether to cancel. -/
  | requireCancel
  | cancelRequested (requested : Bool)
  | cancelAnswered (confirmed : Bool)
  | disarmRequested (requested : Bool)
  | disarmAnswered
  | measureDisarmed
  | observePostStop (passed : Bool)
  /-- `write_terminal_result`, with the errors of the action result and of the validation. -/
  | writeTerminalResult (actionError : Option String) (measurementComplete : Bool)
      (validationError : Option String)

inductive SessionAnswer where
  | done
  | answered (answer : Except Raised Decision)
  | result (result : TerminalResult)

def Phase.value : Phase → String
  | .disabled => "disabled"
  | .idle => "idle"
  | .pendingArm => "pending_arm"
  | .armed => "armed"
  | .complete => "complete"
  | .fault => "fault"

namespace StopEvidence

/-- The checks of the terminal result that the evidence decides. -/
def checks (e : StopEvidence) : Bool :=
  (!e.cancelRequired || (e.cancelRequested && e.cancelConfirmed)) &&
    (e.zeroPublishedCount ≥ 10 && e.zeroConfirmed) &&
    (e.disarmRequested && e.disarmServiceSuccess && e.disarmMeasured) && e.postStopPassed

end StopEvidence

namespace Session

/-- The session of a new node. -/
def start (config : GuardConfig) : Session where
  policy := StagedNav2Guard.fresh config

/-- `normal_success` of `write_terminal_result`. -/
def normalSuccess (actionError : Option String) (measurementComplete : Bool) (s : Session) :
    Bool :=
  s.policy.phase = .complete && s.policy.terminalReason = "nav2_goal_succeeded" &&
    actionError.isNone && measurementComplete && s.stopEvidence.checks

def failureReason (actionError : Option String) (s : Session) : String :=
  StagedNav2Guard.orElse s.policy.faultReason
    (StagedNav2Guard.orElse (actionError.getD "")
      ("terminal state was " ++
        StagedNav2Guard.orElse s.policy.terminalReason s.policy.phase.value))

def writeTerminalResult (actionError : Option String) (measurementComplete : Bool)
    (validationError : Option String) (s : Session) : TerminalResult :=
  if s.normalSuccess actionError measurementComplete then
    match validationError with
    | none => ⟨.pass, ""⟩
    | some error => ⟨.fail, "terminal result self-validation failed: " ++ error⟩
  else ⟨.fail, s.failureReason actionError⟩

/-- The evidence after a part of `stop_and_disarm`. -/
def record (s : Session) : SessionEvent → StopEvidence
  | .publishStopZero =>
    { s.stopEvidence with zeroPublishedCount := s.stopEvidence.zeroPublishedCount + 1 }
  | .requireCancel =>
    { s.stopEvidence with
      zeroConfirmed := s.stopEvidence.zeroPublishedCount ≥ 10
      cancelRequired := s.policy.phase = .fault && s.policy.hasGoal }
  | .cancelRequested requested =>
    if s.stopEvidence.cancelRequired then
      { s.stopEvidence with cancelRequested := requested }
    else s.stopEvidence
  | .cancelAnswered confirmed =>
    if s.stopEvidence.cancelRequired then
      { s.stopEvidence with cancelConfirmed := confirmed }
    else s.stopEvidence
  | .disarmRequested requested => { s.stopEvidence with disarmRequested := requested }
  | .disarmAnswered => { s.stopEvidence with disarmServiceSuccess := true }
  | .measureDisarmed =>
    if s.policy.chassisGuardState = .disarmed ∧ s.policy.daemonArmed = false then
      { s.stopEvidence with disarmMeasured := true }
    else s.stopEvidence
  | .observePostStop passed => { s.stopEvidence with postStopPassed := passed }
  | .operation _ => s.stopEvidence
  | .writeTerminalResult _ _ _ => s.stopEvidence

end Session

/-- The machine of a session. -/
def session (lib : Library) (config : GuardConfig) :
    Machine Session SessionEvent SessionAnswer where
  step s event :=
    match event with
    | .operation op =>
      let (answer, policy) := perform lib config op s.policy
      (.answered answer, { s with policy := policy })
    | .writeTerminalResult actionError measurementComplete validationError =>
      (.result (s.writeTerminalResult actionError measurementComplete validationError), s)
    | event => (.done, { s with stopEvidence := s.record event })

@[simp] lemma session_operation_policy (lib : Library) (config : GuardConfig) (s : Session)
    (op : Operation) : ((session lib config).step s (.operation op)).2.policy =
      (perform lib config op s.policy).2 := rfl

/-- Only the calls on the guard change it. -/
lemma session_policy (lib : Library) (config : GuardConfig) (s : Session)
    (event : SessionEvent) (h : ∀ op, event ≠ .operation op) :
    ((session lib config).step s event).2.policy = s.policy := by
  cases event with
  | operation op => exact absurd rfl (h op)
  | _ => rfl

end UnitreeGo2.StagedNav2
