import UnitreeGo2.Chassis.Adapter

/-!
# The callbacks of the chassis adapter

The subscriptions, the arm service and the timers of the node, as functions of the state of
the node and of what each of them reads: a message, the steady clock and the clock of the
source stamps.  The machine of the node runs them in any order.
-/

namespace UnitreeGo2.Chassis

namespace AdapterNode

variable (config : AdapterConfig) (geo : Geometry) (link : DaemonLink)

/-! ## The commissioning envelope -/

def resetCommissioningMeasurements (n : AdapterNode) : AdapterNode :=
  { n with
    commissioningMotionActive := false
    commissioningMotionStartSec := 0
    commissioningElapsedSec := 0
    commissioningDistanceM := 0
    commissioningLastX := n.previousX
    commissioningLastY := n.previousY
    commissioningHasLastPosition := n.hasPreviousPosition }

def durationReason : MotionProfile → String
  | .firstMotion => "commissioning 2.0 second hard deadline reached"
  | .secondMotion => "second-motion 1.5 second hard deadline reached"
  | _ => "staged-nav2 20.0 second hard deadline reached"

def distanceReason : MotionProfile → String
  | .firstMotion => "commissioning 0.10 metre hard distance reached"
  | .secondMotion => "second-motion 0.30 metre hard distance reached"
  | _ => "staged-nav2 0.50 metre hard distance reached"

/-- `CommissioningEnvelopeExceeded`: the reason, if the envelope is exceeded. -/
def commissioningEnvelopeExceeded (nowSec : ℚ) (n : AdapterNode) :
    Option String × AdapterNode :=
  if !n.commissioningMotionActive then (none, n)
  else if nowSec < n.commissioningMotionStartSec then
    (some "steady clock regressed during commissioning motion", n)
  else
    let n := { n with commissioningElapsedSec := nowSec - n.commissioningMotionStartSec }
    if 0 < config.commissioningMaxDurationSec ∧
        config.commissioningMaxDurationSec ≤ n.commissioningElapsedSec then
      (some (durationReason config.motionProfile), n)
    else if !n.commissioningDistanceM.isFinite ∨ (0 < config.commissioningMaxDistanceM ∧
        (ExtRat.fin config.commissioningMaxDistanceM).le n.commissioningDistanceM) then
      (some (distanceReason config.motionProfile), n)
    else (none, n)

/-- The stop of a motion that exceeds its envelope. -/
def stopIfExceeded (nowSec : ℚ) (n : AdapterNode) : AdapterNode :=
  let (reason, n) := n.commissioningEnvelopeExceeded config nowSec
  match reason with
  | some reason => n.failClosedCommissioningStop config link reason
  | none => n

/-- `UpdateCommissioningDistance`; the callers pass finite positions. -/
def updateCommissioningDistance (x y nowSec : ℚ) (n : AdapterNode) : AdapterNode :=
  if !n.commissioningMotionActive then n
  else
    stopIfExceeded config link nowSec { n with
      commissioningDistanceM :=
        if n.commissioningHasLastPosition then
          n.commissioningDistanceM.add
            (geo.hypot (x - n.commissioningLastX) (y - n.commissioningLastY))
        else n.commissioningDistanceM
      commissioningLastX := x
      commissioningLastY := y
      commissioningHasLastPosition := true }

def beginCommissioningMotion (nowSec : ℚ) (n : AdapterNode) : AdapterNode :=
  if n.commissioningMotionActive then n
  else if !n.hasPreviousPosition || !n.lastStateValid then
    n.failClosedCommissioningStop config link
      "cannot start commissioning motion without a valid pose"
  else
    { n with
      commissioningMotionActive := true
      commissioningMotionStartSec := nowSec
      commissioningElapsedSec := 0
      commissioningDistanceM := 0
      commissioningLastX := n.previousX
      commissioningLastY := n.previousY
      commissioningHasLastPosition := true }

/-! ## Robot states -/

/-- A state that is refused as a whole. -/
def rejectSportModeState (reason : String) (n : AdapterNode) : AdapterNode :=
  let n := { n with lastStateValid := false }
  let n := if config.external then n.rejectExternalOdometry config link reason true else n
  n.failClosedIfOpen config link reason

/-- A delayed or repeated state is ignored, unless the last accepted one has expired. -/
def ignoreSportModeState (receiptSec : ℚ) (n : AdapterNode) : AdapterNode :=
  if !n.freshValidSportModeState config receiptSec && config.external then
    n.handleExternalOdometryLivenessLoss config link "SportModeState fresh-sample timeout"
  else n

def stampTracker (isPrimary : Bool) (n : AdapterNode) : SourceStampTracker :=
  if isPrimary then n.primaryStampTracker else n.fallbackStampTracker

def setStampTracker (isPrimary : Bool) (tracker : SourceStampTracker) (n : AdapterNode) :
    AdapterNode :=
  if isPrimary then { n with primaryStampTracker := tracker }
  else { n with fallbackStampTracker := tracker }

/-- The source and the receipt of an accepted state. -/
def recordSportModeState (isPrimary : Bool) (message : SportModeState) (receiptSec : ℚ)
    (n : AdapterNode) : AdapterNode :=
  { n with
    activeStateSource := some isPrimary
    hasPreviousPosition :=
      n.hasPreviousPosition && (n.activeStateSource = some isPrimary || config.external)
    lastPrimaryStateReceiptSec :=
      if isPrimary then receiptSec else n.lastPrimaryStateReceiptSec
    lastStateReceiptSec := receiptSec
    lastMode := message.mode }

/-- The position jumps too far from the previous one. -/
def positionJumps (message : SportModeState) (receiptSec : ℚ) (n : AdapterNode) : Bool :=
  let jump := geo.hypot (message.position.x.toRat - n.previousX)
    (message.position.y.toRat - n.previousY)
  let elapsed := receiptSec - n.previousPositionReceiptSec
  !config.external && n.hasPreviousPosition && 0 ≤ elapsed && elapsed < 1 &&
    (ExtRat.fin config.maxPositionJumpM).le jump && !jump.le (.fin config.maxPositionJumpM)

/-- What the marker of a state does to the policy, and whether the state is valid. -/
def observeMarker (valid : Bool) (message : SportModeState) (receiptSec : ℚ) (n : AdapterNode) :
    Bool × OpaqueFirmwareStateMarkerPolicy :=
  if valid then n.policy.observe config.markerPolicy message.errorCode (.fin receiptSec)
  else (false, n.policy)

/-- The guard and the policy after an accepted state. -/
def updateState (valid : Bool) (message : SportModeState) (receiptSec : ℚ) (n : AdapterNode) :
    AdapterNode :=
  let (stateValid, policy) := n.observeMarker config valid message receiptSec
  let n := { n with
    policy := policy
    lastStateMeasurementsValid := valid
    lastStateValid := stateValid
    guard := n.guard.updateRobotState receiptSec message.mode stateValid }
  if policy.changeLatched then
    forceFault config
      "opaque firmware state marker changed; explicit disarm acknowledgement and re-arm required"
      { n with hasPreviousPosition := n.hasPreviousPosition && config.external }
  else n

/-- `PassiveStateMarkerPauseIsRecoverable`, at the members of the node. -/
def markerPauseIsRecoverable (n : AdapterNode) : Bool :=
  !config.allowMotion && config.external && config.allowPassiveStateMarkerTransitions &&
    n.lastStateMeasurementsValid && n.policy.passiveRecoveryPending && !n.policy.changeLatched

/-- An accepted state whose measurements or marker are not valid. -/
def quarantineSportModeState (n : AdapterNode) : AdapterNode :=
  let n :=
    if !config.external then n
    else if n.markerPauseIsRecoverable config then
      n.handleExternalOdometryLivenessLoss config link
        ("SportModeState marker quarantined; waiting for an explicitly allowed marker to " ++
          "remain stable")
    else n.rejectExternalOdometry config link "SportModeState became invalid" true
  n.failClosedIfOpen config link "SportModeState became invalid during commissioning"

def recordPosition (position : Vector3) (receiptSec : ℚ) (n : AdapterNode) : AdapterNode :=
  { n with
    previousX := position.x.toRat
    previousY := position.y.toRat
    previousPositionReceiptSec := receiptSec
    hasPreviousPosition := true }

/-- A valid state is the source of the odometry, unless that is external. -/
def publishSportModeState (message : SportModeState) (receiptSec publishSec : ℚ)
    (n : AdapterNode) : AdapterNode :=
  let n :=
    if config.external then n
    else
      let n := n.recordPosition message.position receiptSec
      (n.updateCommissioningDistance config geo link n.previousX n.previousY
        receiptSec).publishCanonicalOdometry config link message.stamp publishSec
  n.emit (.imu message.stamp)

/-- A state that is fresh and that its tracker accepts. -/
def acceptSportModeState (isPrimary : Bool) (message : SportModeState) (receiptSec publishSec : ℚ)
    (n : AdapterNode) : AdapterNode :=
  let n := n.recordSportModeState config isPrimary message receiptSec
  let valid := message.measurementsValid geo && !n.positionJumps config geo message receiptSec
  let n := n.updateState config valid message receiptSec
  if n.lastStateValid then n.publishSportModeState config geo link message receiptSec publishSec
  else n.quarantineSportModeState config link

/-- A fresh state with a source stamp, which its tracker may refuse. -/
def progressSportModeState (isPrimary : Bool) (message : SportModeState) (sourceNs : ℕ)
    (receiptSec publishSec : ℚ) (n : AdapterNode) : AdapterNode :=
  let (accepted, tracker) := (n.stampTracker isPrimary).accept sourceNs config.allowMotion
  if accepted then
    (n.setStampTracker isPrimary tracker).acceptSportModeState config geo link isPrimary message
      receiptSec publishSec
  else if sourceNs = (n.stampTracker isPrimary).lastSourceStampNs then
    n.ignoreSportModeState config link receiptSec
  else n.rejectSportModeState config link "SportModeState source timestamp stopped progressing"

def onSportModeState (isPrimary : Bool) (message : SportModeState) (receiptSec : ℚ)
    (referenceNs : ℤ) (publishSec : ℚ) (n : AdapterNode) : AdapterNode :=
  if !isPrimary ∧ 0 < n.lastPrimaryStateReceiptSec ∧
      receiptSec - n.lastPrimaryStateReceiptSec ≤ config.guard.stateTimeoutSec then n
  else
    match stampFreshness config message.stamp referenceNs with
    | .fresh =>
      n.progressSportModeState config geo link isPrimary message message.stamp.sourceNs
        receiptSec publishSec
    | .tooOld =>
      if message.measurementsValid geo then n.ignoreSportModeState config link receiptSec
      else n.rejectSportModeState config link "SportModeState measurements invalid while stale"
    | _ => n.rejectSportModeState config link "SportModeState source timestamp rejected"

/-! ## External odometry -/

/-- A delayed or repeated message is ignored, unless the last accepted one has expired. -/
def ignoreExternalOdometry (receiptSec : ℚ) (n : AdapterNode) : AdapterNode :=
  if n.freshValidExternalOdometry config receiptSec then n
  else
    n.handleExternalOdometryLivenessLoss config link "external odometry fresh-sample timeout"

def messageYaw (message : Odometry) : ExtRat :=
  geo.yaw message.orientation (geo.norm message.orientation)

/-- `ExternalOdometryPoseContinuityEligible`, at a message. -/
def poseContinuityEligible (message : Odometry) (n : AdapterNode) : Bool :=
  let positionJump := geo.hypot (message.position.x.toRat - n.previousX)
    (message.position.y.toRat - n.previousY)
  let yawJump := geo.yawJump (messageYaw geo message) n.previousExternalYaw
  !n.hasPreviousPosition || (positionJump.isFinite && yawJump.isFinite &&
    positionJump.le (.fin config.maxPositionJumpM) &&
    yawJump.le (.fin config.maxExternalOdomYawJumpRad))

def recordExternalOdometry (message : Odometry) (receiptSec : ℚ) (n : AdapterNode) :
    AdapterNode :=
  { n.recordPosition message.position receiptSec with
    previousExternalYaw := messageYaw geo message
    lastExternalOdomReceiptSec := receiptSec
    lastExternalOdomValid := true }

/-- A message that passes every check becomes the canonical odometry. -/
def acceptExternalOdometry (message : Odometry) (receiptSec publishSec : ℚ) (n : AdapterNode) :
    AdapterNode :=
  let n := n.recordExternalOdometry geo message receiptSec
  (n.updateCommissioningDistance config geo link n.previousX n.previousY
    receiptSec).publishCanonicalOdometry config link message.stamp publishSec

/-- A message with a source stamp, which the tracker may refuse. -/
def progressExternalOdometry (message : Odometry) (sourceNs : ℕ) (receiptSec publishSec : ℚ)
    (n : AdapterNode) : AdapterNode :=
  let (accepted, tracker) := n.externalOdomStampTracker.accept sourceNs true
  if accepted then
    { n with externalOdomStampTracker := tracker }.acceptExternalOdometry config geo link
      message receiptSec publishSec
  else if sourceNs = n.externalOdomStampTracker.lastSourceStampNs then
    n.ignoreExternalOdometry config link receiptSec
  else n.rejectExternalOdometry config link "source timestamp did not strictly advance" true

/-- The checks that follow those of the message itself. -/
def continueExternalOdometry (message : Odometry) (receiptSec publishSec : ℚ)
    (n : AdapterNode) : AdapterNode :=
  if !n.freshValidSportModeState config receiptSec then
    if 0 < n.lastStateReceiptSec ∨ 0 < n.lastExternalOdomReceiptSec then
      n.handleExternalOdometryLivenessLoss config link
        "fresh valid SportModeState required for external odometry"
    else
      n.rejectExternalOdometry config link
        "fresh valid SportModeState required for external odometry" false
  else if 0 < n.lastExternalOdomReceiptSec ∧
      config.externalOdomTimeoutSec < receiptSec - n.lastExternalOdomReceiptSec then
    n.handleExternalOdometryLivenessLoss config link "external odometry timeout"
  else
    n.progressExternalOdometry config geo link message message.stamp.sourceNs receiptSec
      publishSec

def onExternalOdometry (message : Odometry) (receiptSec : ℚ) (referenceNs : ℤ) (publishSec : ℚ)
    (n : AdapterNode) : AdapterNode :=
  if !config.external ∨ n.externalOdomFaultLatch then n
  else if n.receiptClockRegressed receiptSec then
    n.rejectExternalOdometry config link "steady receipt clock is invalid or regressed" true
  else if message.frameId ≠ config.odomFrame ∨ message.childFrameId ≠ config.baseFrame then
    n.rejectExternalOdometry config link "frame mismatch (requires odom -> base_link)" true
  else
    match stampFreshness config message.stamp referenceNs with
    | .fresh =>
      if !message.valid geo then
        n.rejectExternalOdometry config link "non-finite values or invalid quaternion" true
      else if !n.poseContinuityEligible config geo message then
        n.rejectExternalOdometry config link
          "pose or yaw continuity exceeded verified odom limits" true
      else n.continueExternalOdometry config geo link message receiptSec publishSec
    | .malformed => n.rejectExternalOdometry config link "malformed source timestamp" true
    | .tooOld => n.ignoreExternalOdometry config link receiptSec
    | freshness =>
      n.rejectExternalOdometry config link ("source timestamp " ++ freshness.name) true

/-! ## The arm service -/

def respond (success : Bool) (message : String) (n : AdapterNode) : AdapterNode :=
  n.emit (.response success message)

/-- `OnArmRequest(true)`; the request reads the steady clock twice. -/
def onArm (checkSec requestSec : ℚ) (n : AdapterNode) : AdapterNode :=
  if n.commissioningArmSpent ∧ config.motionProfile ≠ .stagedNav2 then
    n.respond false
      (if config.motionProfile = .firstMotion then
        "first-motion permit is already spent in this adapter process"
      else "second-motion permit is already spent in this adapter process")
  else if !n.lastStateValid || !n.hasPreviousPosition then
    n.respond false "fresh valid odometry pose is required before arm"
  else if !n.externalOdometryFresh config checkSec then
    n.respond false "fresh verified external odometry is required before arm"
  else
    let (answer, guard) := n.guard.requestArm config.guard requestSec
    let n := { n with guard := guard }
    let n :=
      if answer.1 then { n with commissioningArmSpent := true }.resetCommissioningMeasurements
      else n
    n.respond answer.1 answer.2

/-- Whether a latched marker change may be acknowledged, and the text if it may not. -/
def markerCanBeAcknowledged (n : AdapterNode) : Bool × String :=
  if !n.lastStateMeasurementsValid then
    (false, "cannot acknowledge marker change: latest state measurements are invalid")
  else (n.policy.canAcknowledgeCurrent.1, n.policy.canAcknowledgeCurrent.2.getD "")

/-- The acknowledgement of a marker change, after the guard was disarmed with a message. -/
def acknowledgeMarker (disarmMessage : String) (n : AdapterNode) : (Bool × String) × AdapterNode :=
  let (answer, policy) := n.policy.acknowledgeCurrent
  let message := answer.2.getD ""
  let n := { n with policy := policy }
  if answer.1 then ((true, message ++ "; " ++ disarmMessage), n)
  else
    ((false, message),
      forceFault config "firmware state marker acknowledgement changed unexpectedly" n)

/-- The requests of `OnArmRequest(false)` to the guard and the policy, with the success and
the message of the response so far. -/
def disarmGuard (requestSec : ℚ) (n : AdapterNode) : (Bool × String) × AdapterNode :=
  if !n.policy.changeLatched then
    let (answer, guard) := n.guard.requestDisarm config.guard requestSec
    (answer, { n with guard := guard })
  else if !n.markerCanBeAcknowledged.1 then ((false, n.markerCanBeAcknowledged.2), n)
  else
    let guard := n.guard.updateRobotState n.lastStateReceiptSec n.lastMode
      n.lastStateMeasurementsValid
    let (answer, guard) := guard.requestDisarm config.guard requestSec
    let n := { n with guard := guard }
    if answer.1 && guard.state = .disarmed then n.acknowledgeMarker config answer.2
    else ((false, answer.2), n)

/-- The message of a disarm request, once the daemon was asked to stop. -/
def disarmMessage (restoreClassicWalk daemonStopped classicWalkRestored : Bool)
    (message : String) : String :=
  if !daemonStopped then
    message ++ "; daemon did not acknowledge, independent watchdog must stop it"
  else if restoreClassicWalk && !classicWalkRestored then
    (if message = "" then message else message ++ "; ") ++
      "chassis disarmed; ClassicWalk restore was not confirmed and will be retried before " ++
      "the next arm"
  else message

/-- `OnArmRequest(false)`. -/
def onDisarm (requestSec : ℚ) (n : AdapterNode) : AdapterNode :=
  let cleanClassicWalkRestore : Bool := n.guard.state ≠ .fault && !n.policy.changeLatched
  let (answer, n) := n.disarmGuard config requestSec
  let restoreClassicWalk :=
    answer.1 && cleanClassicWalkRestore && config.preserveClassicWalk
  let (stopped, n) := bestEffortDaemonDisarm config link restoreClassicWalk
    { n with commissioningMotionActive := false }
  n.respond (answer.1 && stopped.1)
    (disarmMessage restoreClassicWalk stopped.1 stopped.2 answer.2)

def onArmRequest (arm : Bool) (checkSec requestSec : ℚ) (n : AdapterNode) : AdapterNode :=
  if arm then n.onArm config checkSec requestSec else n.onDisarm config link requestSec

/-! ## Velocity commands -/

/-- The reason why a raw command stops the selected profile. -/
def rawCommandRefusal (command : Velocity ExtRat) : Option String :=
  match config.motionProfile with
  | .secondMotion =>
    if !SafetyGuard.finite command ∨ command.vx.toRat < 0 ∨
        kSecondMotionMaxVx < command.vx.toRat ∨ command.vy.toRat ≠ 0 ∨ command.wz.toRat ≠ 0 then
      some "second-motion raw command exceeded fixed envelope"
    else none
  | .stagedNav2 =>
    if !SafetyGuard.finite command ∨ command.vx.toRat < 0 ∨
        config.guard.maxVx < command.vx.toRat ∨ command.vy.toRat ≠ 0 ∨
        kStagedNav2MaxWz < |command.wz.toRat| then
      some "staged-nav2 raw command exceeded fixed envelope"
    else none
  | _ => none

def onVelocityCommand (command : Velocity ExtRat) (nowSec : ℚ) (n : AdapterNode) :
    AdapterNode :=
  match rawCommandRefusal config command with
  | some reason => n.failClosedCommissioningStop config link reason
  | none => { n with guard := n.guard.updateCommand config.guard nowSec command }

/-! ## The control timer -/

/-- `HandleIpcFault`; but for its log it does what a commissioning stop does.  The callers
leave out the text of the error that ends the reason. -/
def handleIpcFault (reason : String) (n : AdapterNode) : AdapterNode :=
  n.failClosedCommissioningStop config link reason

/-- The first exchange of an armed guard. -/
def armDaemon (n : AdapterNode) : AdapterNode :=
  let (connected, n) := n.connect link
  if !connected then n.handleIpcFault config link "cannot arm SDK daemon: "
  else
    let (success, n) := n.exchange link .arm 0
    if success then { n with daemonArmed := true, lastOutputStopped := true }
    else n.handleIpcFault config link "cannot arm SDK daemon: "

def sendCommand (op : CommandOp) (velocity : Velocity ℚ) (n : AdapterNode) : AdapterNode :=
  let (success, n) := n.exchange link op velocity
  if success then n else n.handleIpcFault config link "SDK daemon command failed: "

/-- The velocity is one that the selected profile may generate. -/
def permitsVelocity (velocity : Velocity ℚ) : Bool :=
  match config.motionProfile with
  | .firstMotion =>
    0 ≤ velocity.vx && velocity.vx ≤ kFirstMotionMaxVx && velocity.vy = 0 && velocity.wz = 0
  | .secondMotion =>
    0 ≤ velocity.vx && velocity.vx ≤ kSecondMotionMaxVx && velocity.vy = 0 && velocity.wz = 0
  | .stagedNav2 =>
    0 ≤ velocity.vx && velocity.vx ≤ config.guard.maxVx && velocity.vy = 0 &&
      |velocity.wz| ≤ kStagedNav2MaxWz
  | .unaudited => false

def sendMove (velocity : Velocity ℚ) (nowSec : ℚ) (n : AdapterNode) : AdapterNode :=
  if !permitsVelocity config velocity then
    n.failClosedCommissioningStop config link
      "adapter generated velocity outside selected motion profile"
  else
    let n := n.beginCommissioningMotion config link nowSec
    if !n.commissioningMotionActive then n
    else
      let (reason, n) := n.commissioningEnvelopeExceeded config nowSec
      match reason with
      | some reason => n.failClosedCommissioningStop config link reason
      | none => { n with lastOutputStopped := false }.sendCommand config link .move velocity

/-- What the control timer does with the decision of the guard. -/
def followDecision (decision : GuardDecision) (nowSec : ℚ) (n : AdapterNode) : AdapterNode :=
  if decision.state = .fault then
    (bestEffortDaemonDisarm config link false { n with commissioningMotionActive := false }).2
  else if decision.state ≠ .armed then n
  else if !n.daemonArmed then n.armDaemon config link
  else if decision.action = .move then n.sendMove config link decision.velocity nowSec
  else if !n.lastOutputStopped then
    { n with lastOutputStopped := true }.sendCommand config link .stop 0
  else n.sendCommand config link .ping 0

def tickGuard (nowSec : ℚ) (n : AdapterNode) : AdapterNode :=
  let (decision, guard) := n.guard.tick config.guard nowSec config.controlPeriodSec
  { n with guard := guard }.followDecision config link decision nowSec

def onControlTimer (nowSec : ℚ) (n : AdapterNode) : AdapterNode :=
  let n := n.checkExternalOdometryInterlock config link nowSec
  if !config.allowMotion then n
  else if n.commissioningSessionOpen && !n.externalOdometryFresh config nowSec then
    n.failClosedCommissioningStop config link "verified external odometry became stale"
  else
    let (reason, n) := n.commissioningEnvelopeExceeded config nowSec
    match reason with
    | some reason => n.failClosedCommissioningStop config link reason
    | none => n.tickGuard config link nowSec

/-- `PublishDiagnostics`, as far as it changes the node. -/
def publishDiagnostics (nowSec : ℚ) (n : AdapterNode) : AdapterNode :=
  n.checkExternalOdometryInterlock config link nowSec

end AdapterNode

/-! ## The node as a machine -/

/-- The callbacks, with the clock readings that they make. -/
inductive AdapterEvent where
  | sportModeState (isPrimary : Bool) (message : SportModeState) (receiptSec : ℚ)
      (referenceNs : ℤ) (publishSec : ℚ)
  | externalOdometry (message : Odometry) (receiptSec : ℚ) (referenceNs : ℤ) (publishSec : ℚ)
  | velocityCommand (command : Velocity ExtRat) (nowSec : ℚ)
  | armRequest (arm : Bool) (checkSec requestSec : ℚ)
  | controlTimer (nowSec : ℚ)
  | diagnosticsTimer (nowSec : ℚ)

/-- The callback exists: the commands, the service and the control timer belong to the
motion-control graph, and only some profiles subscribe to a fallback. -/
def AdapterConfig.subscribes (config : AdapterConfig) : AdapterEvent → Bool
  | .sportModeState isPrimary _ _ _ _ => isPrimary || config.hasFallback
  | .externalOdometry _ _ _ _ => config.external
  | .velocityCommand _ _ => config.allowMotion
  | .armRequest _ _ _ => config.allowMotion
  | .controlTimer _ => config.allowMotion
  | .diagnosticsTimer _ => true

/-- The node after its constructor. -/
def AdapterNode.init (config : AdapterConfig) : AdapterNode where
  guard := SafetyGuard.init config.guard

/-- The callback of an event. -/
def AdapterNode.callback (config : AdapterConfig) (geo : Geometry) (link : DaemonLink)
    (event : AdapterEvent) (n : AdapterNode) : AdapterNode :=
  match event with
  | .sportModeState isPrimary message receiptSec referenceNs publishSec =>
    n.onSportModeState config geo link isPrimary message receiptSec referenceNs publishSec
  | .externalOdometry message receiptSec referenceNs publishSec =>
    n.onExternalOdometry config geo link message receiptSec referenceNs publishSec
  | .velocityCommand command nowSec => n.onVelocityCommand config link command nowSec
  | .armRequest arm checkSec requestSec => n.onArmRequest config link arm checkSec requestSec
  | .controlTimer nowSec => n.onControlTimer config link nowSec
  | .diagnosticsTimer nowSec => n.publishDiagnostics config link nowSec

/-- The machine of a node; a step answers with the effects of its callback. -/
def adapter (config : AdapterConfig) (geo : Geometry) (link : DaemonLink) :
    Machine AdapterNode AdapterEvent (List Effect) where
  step n event :=
    let n := { n with effects := [] }
    let n := if config.subscribes event then n.callback config geo link event else n
    (n.effects, n)

abbrev AdapterStep := Machine.Step AdapterNode AdapterEvent (List Effect)

end UnitreeGo2.Chassis
