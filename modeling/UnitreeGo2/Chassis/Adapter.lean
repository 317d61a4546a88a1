import Mathlib.Data.Rat.Floor
import UnitreeGo2.Chassis.Protocol
import UnitreeGo2.Chassis.SafetyGuard
import UnitreeGo2.Chassis.StateMarkerPolicy

/-!
# The chassis adapter

The adapter turns robot states, or verified external odometry, into the canonical odometry
of the chassis, and feeds the motion guard whose decisions it sends to the SDK daemon.  One
executor runs its callbacks one after the other; a callback reads the steady clock and the
clock of the source stamps, and each exchange with the daemon may fail.
-/

namespace UnitreeGo2.Chassis

/-! ## The configuration -/

inductive OdomSource where
  | sportState
  | externalVerified
  deriving DecidableEq, Repr

/-- The values of `motion_profile`; no other value permits motion. -/
inductive MotionProfile where
  | firstMotion
  | secondMotion
  | stagedNav2
  | unaudited
  deriving DecidableEq, Repr

def kFirstMotionMaxVx : ℚ := 0.05
def kSecondMotionMaxVx : ℚ := 0.30
def kStagedNav2MaxVx : ℚ := 0.30
def kRobotTrackMaxVx : ℚ := 0.50
def kStagedNav2MaxWz : ℚ := 0.40
def kCommissioningStateTimeoutSec : ℚ := 0.20
def kStagedNav2StateTimeoutSec : ℚ := 1
def kMaximumStateTimeoutSec : ℚ := 1
def kMaximumSourceStampAgeSec : ℚ := 0.20
def kMaximumSourceStampFutureSkewSec : ℚ := 0.05

/-- The parameters of the node that its callbacks read. -/
structure AdapterConfig where
  guard : GuardConfig := {}
  motionProfile : MotionProfile := .firstMotion
  preserveClassicWalk : Bool := false
  odomSource : OdomSource := .sportState
  /-- A fallback topic is subscribed. -/
  hasFallback : Bool := true
  allowPassiveStateMarkerTransitions : Bool := false
  allowMotionStateMarkerTransitions : Bool := false
  allowedStateMarkers : List UInt32 := []
  maxSourceStampAgeSec : ℚ := kMaximumSourceStampAgeSec
  maxSourceStampFutureSkewSec : ℚ := kMaximumSourceStampFutureSkewSec
  externalOdomTimeoutSec : ℚ := kCommissioningStateTimeoutSec
  maxExternalOdomYawJumpRad : ℚ := 1
  maxPositionJumpM : ℚ := 1
  odomFrame : String := "odom"
  baseFrame : String := "base_link"
  controlPeriodSec : ℚ := 0.02
  commissioningMaxDurationSec : ℚ := 2
  commissioningMaxDistanceM : ℚ := 0.10

namespace AdapterConfig

def allowMotion (c : AdapterConfig) : Bool := c.guard.allowMotion

def external (c : AdapterConfig) : Bool := c.odomSource = .externalVerified

/-- The constructor arguments of `state_marker_policy_`. -/
def markerPolicy (c : AdapterConfig) : MarkerPolicyConfig where
  allowedStateMarkers := c.allowedStateMarkers
  allowAllowlistedTransitions :=
    c.allowPassiveStateMarkerTransitions || c.allowMotionStateMarkerTransitions
  allowPassiveRecovery := c.allowPassiveStateMarkerTransitions

/-- The envelope that the selected profile asks of the guard. -/
def profileEnvelope (c : AdapterConfig) : Bool :=
  match c.motionProfile with
  | .firstMotion =>
    c.guard.maxVx = kFirstMotionMaxVx && c.guard.maxVy = 0 && c.guard.maxWz = 0 &&
      c.guard.stateTimeoutSec = kCommissioningStateTimeoutSec &&
      c.maxSourceStampAgeSec = kMaximumSourceStampAgeSec && c.guard.commandTimeoutSec = 0.20
  | .secondMotion =>
    c.guard.maxVx = kSecondMotionMaxVx && c.guard.maxVy = 0 && c.guard.maxWz = 0 &&
      c.guard.maxLinearAcceleration = 0.30 && c.guard.maxAngularAcceleration = 0.10 &&
      c.guard.stateTimeoutSec = kCommissioningStateTimeoutSec &&
      c.maxSourceStampAgeSec = kMaximumSourceStampAgeSec &&
      c.maxSourceStampFutureSkewSec = kMaximumSourceStampFutureSkewSec &&
      c.guard.commandTimeoutSec = 0.20
  | .stagedNav2 =>
    (c.guard.maxVx = kStagedNav2MaxVx || c.guard.maxVx = kRobotTrackMaxVx) &&
      c.guard.maxVy = 0 && c.guard.maxWz = kStagedNav2MaxWz &&
      c.guard.maxLinearAcceleration = 0.30 && c.guard.maxAngularAcceleration = 0.80 &&
      c.guard.stateTimeoutSec = kStagedNav2StateTimeoutSec &&
      c.maxSourceStampAgeSec = kMaximumSourceStampAgeSec &&
      c.maxSourceStampFutureSkewSec = kMaximumSourceStampFutureSkewSec &&
      c.guard.commandTimeoutSec = 0.20
  | .unaudited => false

/-- The checks of `DeclareGuardConfig`. -/
def guardAdmitted (c : AdapterConfig) : Bool :=
  c.guard.allowedModes ≠ [] && c.allowedStateMarkers.all (· ≠ 0) &&
    (0 < c.guard.stateTimeoutSec && c.guard.stateTimeoutSec ≤ kMaximumStateTimeoutSec) &&
    (0 < c.maxSourceStampAgeSec && c.maxSourceStampAgeSec ≤ kMaximumSourceStampAgeSec) &&
    (0 ≤ c.maxSourceStampFutureSkewSec &&
      c.maxSourceStampFutureSkewSec ≤ kMaximumSourceStampFutureSkewSec) &&
    0 < c.guard.commandTimeoutSec && 0 ≤ c.guard.zeroPreparationSec && 0 < c.guard.maxVx &&
    0 ≤ c.guard.maxVy && 0 ≤ c.guard.maxWz && 0 < c.guard.maxLinearAcceleration &&
    0 < c.guard.maxAngularAcceleration && (!c.allowMotion || c.profileEnvelope)

/-- `ClassicMotionStateMarkerTransitionDeploymentEligible`. -/
def classicTransitionsEligible (c : AdapterConfig) : Bool :=
  !c.allowMotionStateMarkerTransitions ||
    (c.allowMotion && c.motionProfile = .stagedNav2 && c.external &&
      !c.allowPassiveStateMarkerTransitions && c.guard.allowedModes.dedup.length = 1 &&
      c.allowedStateMarkers.dedup.length = 2 && c.allowedStateMarkers.contains 100 &&
      c.allowedStateMarkers.contains 2010)

/-- The later motion profiles require the corrected external odometry. -/
def laterProfileAdmitted (c : AdapterConfig) : Bool :=
  !(c.allowMotion && (c.motionProfile = .secondMotion || c.motionProfile = .stagedNav2)) ||
    (c.external && c.externalOdomTimeoutSec =
      (if c.motionProfile = .stagedNav2 then 1 else kCommissioningStateTimeoutSec))

/-- The duration and the distance of the selected profile. -/
def commissioningAdmitted (c : AdapterConfig) : Bool :=
  match c.motionProfile with
  | .firstMotion => c.commissioningMaxDurationSec = 2 && c.commissioningMaxDistanceM = 0.10
  | .secondMotion => c.commissioningMaxDurationSec = 1.5 && c.commissioningMaxDistanceM = 0.30
  | _ => c.commissioningMaxDurationSec = 0 && c.commissioningMaxDistanceM = 0

/-- The constructor of the node does not throw. -/
def admitted (c : AdapterConfig) : Bool :=
  c.guardAdmitted && (!c.allowMotion || c.motionProfile ≠ .unaudited) &&
    (!c.preserveClassicWalk || (c.allowMotion && c.motionProfile = .stagedNav2)) &&
    0 < c.maxPositionJumpM &&
    (0 < c.externalOdomTimeoutSec && c.externalOdomTimeoutSec ≤ kMaximumStateTimeoutSec) &&
    (0 < c.maxExternalOdomYawJumpRad && c.maxExternalOdomYawJumpRad ≤ 1) &&
    c.laterProfileAdmitted &&
    (!c.allowPassiveStateMarkerTransitions ||
      (!c.allowMotion && c.external && 2 ≤ c.allowedStateMarkers.dedup.length)) &&
    c.classicTransitionsEligible && (!c.allowMotion || !c.hasFallback) &&
    (!c.allowMotion || (0 < c.controlPeriodSec && c.commissioningAdmitted))

end AdapterConfig

/-! ## Source stamps and receipts -/

/-- The stamp of a message header. -/
structure Stamp where
  sec : ℤ
  nanosec : ℕ
  deriving DecidableEq

namespace Stamp

def encodingValid (s : Stamp) : Bool := 0 ≤ s.sec && s.nanosec < 1000000000

/-- The stamp in nanoseconds. -/
def sourceNs (s : Stamp) : ℕ := s.sec.toNat * 1000000000 + s.nanosec

end Stamp

inductive SourceStampFreshness where
  | fresh
  | malformed
  | zero
  | referenceClockInvalid
  | tooOld
  | tooFarInFuture
  deriving DecidableEq, Repr

def SourceStampFreshness.name : SourceStampFreshness → String
  | .fresh => "fresh"
  | .malformed => "malformed"
  | .zero => "zero"
  | .referenceClockInvalid => "reference_clock_invalid"
  | .tooOld => "too_old"
  | .tooFarInFuture => "too_far_in_future"

def validateSourceStamp (sourceStampNs : ℕ) (referenceStampNs : ℤ)
    (maxAgeNs maxFutureSkewNs : ℕ) : SourceStampFreshness :=
  if sourceStampNs = 0 then .zero
  else if referenceStampNs ≤ 0 then .referenceClockInvalid
  else if sourceStampNs > referenceStampNs.toNat then
    if sourceStampNs - referenceStampNs.toNat > maxFutureSkewNs then .tooFarInFuture else .fresh
  else if referenceStampNs.toNat - sourceStampNs > maxAgeNs then .tooOld
  else .fresh

/-- The freshness of a stamp that may be malformed. -/
def stampFreshness (c : AdapterConfig) (stamp : Stamp) (referenceNs : ℤ) :
    SourceStampFreshness :=
  if stamp.encodingValid then
    validateSourceStamp stamp.sourceNs referenceNs ⌊c.maxSourceStampAgeSec * 1000000000⌋.toNat
      ⌊c.maxSourceStampFutureSkewSec * 1000000000⌋.toNat
  else .malformed

structure SourceStampTracker where
  lastSourceStampNs : ℕ := 0

namespace SourceStampTracker

/-- `Accept`, with the value that it returns. -/
def accept (sourceStampNs : ℕ) (requireStrictProgress : Bool) (t : SourceStampTracker) :
    Bool × SourceStampTracker :=
  if sourceStampNs = 0 then (false, t)
  else if requireStrictProgress then
    if t.lastSourceStampNs ≠ 0 ∧ sourceStampNs ≤ t.lastSourceStampNs then (false, t)
    else (true, ⟨sourceStampNs⟩)
  else if t.lastSourceStampNs ≠ 0 ∧ sourceStampNs < t.lastSourceStampNs then (false, t)
  else (true, ⟨sourceStampNs⟩)

end SourceStampTracker

def freshValidReceipt (valid : Bool) (lastReceiptSec nowSec timeoutSec : ℚ) : Bool :=
  valid && 0 < lastReceiptSec && 0 < timeoutSec && lastReceiptSec ≤ nowSec &&
    nowSec - lastReceiptSec ≤ timeoutSec

/-- `ReceiptClockInvalidOrRegressed`; the steady clock is finite. -/
def receiptClockInvalidOrRegressed
    (nowSec lastSportStateReceiptSec lastExternalOdomReceiptSec : ℚ) : Bool :=
  (0 < lastSportStateReceiptSec && nowSec < lastSportStateReceiptSec) ||
    (0 < lastExternalOdomReceiptSec && nowSec < lastExternalOdomReceiptSec)

/-! ## Messages -/

structure Vector3 where
  x : ExtRat
  y : ExtRat
  z : ExtRat

def Vector3.finite (v : Vector3) : Bool := v.x.isFinite && v.y.isFinite && v.z.isFinite

structure Quaternion where
  w : ExtRat
  x : ExtRat
  y : ExtRat
  z : ExtRat

/-- The functions of the mathematical library that the callbacks use. -/
structure Geometry where
  /-- `std::sqrt` of the sum of the squares. -/
  norm : Quaternion → ExtRat
  /-- The yaw of a quaternion with the given norm. -/
  yaw : Quaternion → ExtRat → ExtRat
  hypot : ℚ → ℚ → ExtRat
  /-- `std::abs(std::remainder(a - b, kTwoPi))`. -/
  yawJump : ExtRat → ExtRat → ExtRat

structure SportModeState where
  stamp : Stamp
  quaternion : Quaternion
  position : Vector3
  velocity : Vector3
  gyroscope : Vector3
  accelerometer : Vector3
  yawSpeed : ExtRat
  mode : UInt8
  errorCode : UInt32

structure Odometry where
  frameId : String
  childFrameId : String
  stamp : Stamp
  position : Vector3
  orientation : Quaternion
  linear : Vector3
  angular : Vector3
  poseCovariance : List ExtRat
  twistCovariance : List ExtRat

/-- A norm that a rotation may have. -/
def normValid (norm : ExtRat) : Bool :=
  norm.isFinite && 0.5 < norm.toRat && norm.toRat < 1.5

def SportModeState.measurementsValid (geo : Geometry) (message : SportModeState) : Bool :=
  normValid (geo.norm message.quaternion) && message.position.finite && message.velocity.finite &&
    message.gyroscope.finite && message.accelerometer.finite && message.yawSpeed.isFinite &&
    message.stamp.encodingValid

def Odometry.valid (geo : Geometry) (message : Odometry) : Bool :=
  message.position.finite &&
    (message.orientation.x.isFinite && message.orientation.y.isFinite &&
      message.orientation.z.isFinite && message.orientation.w.isFinite) &&
    message.linear.finite && message.angular.finite &&
    message.poseCovariance.all ExtRat.isFinite && message.twistCovariance.all ExtRat.isFinite &&
    normValid (geo.norm message.orientation)

/-! ## The node -/

/-- How an exchange with the daemon ends, once it is connected. -/
inductive ExchangeOutcome where
  | notSent
  | noReply
  | rejected
  | ok
  deriving DecidableEq, Repr

/-- The daemon: whether the n-th attempt to connect succeeds, and how the n-th exchange
ends. -/
structure DaemonLink where
  accepts : ℕ → Bool
  reply : ℕ → ExchangeOutcome

/-- What a callback does that is seen outside. -/
inductive Effect where
  /-- A command is written to the daemon. -/
  | packet (op : CommandOp) (velocity : Velocity ℚ)
  /-- A canonical odometry message is published, with its transform. -/
  | odometry (stamp : Stamp)
  | imu (stamp : Stamp)
  /-- `HandleExternalOdometryLivenessLoss` is called in a state of the guard. -/
  | livenessLoss (state : GuardState)
  | response (success : Bool) (message : String)
  deriving DecidableEq

/-- The members of `Go2ChassisAdapterNode`, and the effects of the current callback. -/
structure AdapterNode where
  guard : SafetyGuard
  policy : OpaqueFirmwareStateMarkerPolicy := {}
  daemonArmed : Bool := false
  lastOutputStopped : Bool := true
  commissioningArmSpent : Bool := false
  commissioningMotionActive : Bool := false
  commissioningHasLastPosition : Bool := false
  lastStateValid : Bool := false
  lastStateMeasurementsValid : Bool := false
  hasPreviousPosition : Bool := false
  lastExternalOdomValid : Bool := false
  lastMode : UInt8 := 0
  /-- The source of the last state: none, the primary or the fallback. -/
  activeStateSource : Option Bool := none
  primaryStampTracker : SourceStampTracker := {}
  fallbackStampTracker : SourceStampTracker := {}
  externalOdomStampTracker : SourceStampTracker := {}
  externalOdomFaultLatch : Bool := false
  lastStateReceiptSec : ℚ := 0
  lastPrimaryStateReceiptSec : ℚ := 0
  lastExternalOdomReceiptSec : ℚ := 0
  previousX : ℚ := 0
  previousY : ℚ := 0
  previousPositionReceiptSec : ℚ := 0
  previousExternalYaw : ExtRat := 0
  commissioningMotionStartSec : ℚ := 0
  commissioningElapsedSec : ℚ := 0
  commissioningDistanceM : ExtRat := 0
  commissioningLastX : ℚ := 0
  commissioningLastY : ℚ := 0
  connected : Bool := false
  connects : ℕ := 0
  sequence : ℕ := 0
  effects : List Effect := []

namespace AdapterNode

def emit (effect : Effect) (n : AdapterNode) : AdapterNode :=
  { n with effects := n.effects ++ [effect] }

variable (config : AdapterConfig) (geo : Geometry) (link : DaemonLink)

/-! ### The link to the daemon -/

/-- `Connect`. -/
def connect (n : AdapterNode) : Bool × AdapterNode :=
  if n.connected then (true, n)
  else
    (link.accepts n.connects,
      { n with connected := link.accepts n.connects, connects := n.connects + 1 })

/-- The end of `Exchange`, when the client is connected. -/
def exchangeConnected (op : CommandOp) (velocity : Velocity ℚ) (n : AdapterNode) :
    Bool × AdapterNode :=
  let n := { n with sequence := n.sequence + 1 }
  match link.reply n.sequence with
  | .notSent => (false, { n with connected := false })
  | .noReply => (false, { n.emit (.packet op velocity) with connected := false })
  | .rejected => (false, n.emit (.packet op velocity))
  | .ok => (true, n.emit (.packet op velocity))

/-- `Exchange`. -/
def exchange (op : CommandOp) (velocity : Velocity ℚ) (n : AdapterNode) : Bool × AdapterNode :=
  let (connected, n) := n.connect link
  if connected then n.exchangeConnected link op velocity else (false, n)

/-- The exchanges of `BestEffortDaemonDisarm`, and whether the daemon stopped and whether
ClassicWalk is as it should be. -/
def disarmExchanges (restoreClassicWalk : Bool) (n : AdapterNode) :
    (Bool × Bool) × AdapterNode :=
  let (stopSuccess, n) := if n.daemonArmed then n.exchange link .stop 0 else (true, n)
  let (disarmSuccess, n) := n.exchange link .disarm 0
  let (classicWalkSuccess, n) :=
    if stopSuccess && disarmSuccess && restoreClassicWalk then
      n.exchange link .restoreClassicWalk 0
    else (true, n)
  ((stopSuccess && disarmSuccess, classicWalkSuccess), n)

/-- `BestEffortDaemonDisarm`. -/
def bestEffortDaemonDisarm (restoreClassicWalk : Bool) (n : AdapterNode) :
    (Bool × Bool) × AdapterNode :=
  if !config.allowMotion then ((true, !restoreClassicWalk), { n with daemonArmed := false })
  else
    let (connected, n) := n.connect link
    if !connected then ((false, !restoreClassicWalk), { n with daemonArmed := false })
    else
      let (success, n) := n.disarmExchanges link restoreClassicWalk
      (success, { n with daemonArmed := false, lastOutputStopped := true, connected := false })

/-! ### Fail-closed stops -/

def commissioningSessionOpen (n : AdapterNode) : Bool :=
  n.commissioningMotionActive || n.daemonArmed || n.guard.state = .preparing ||
    n.guard.state = .armed

def forceFault (reason : String) (n : AdapterNode) : AdapterNode :=
  { n with guard := n.guard.forceFault config.guard reason }

def failClosedCommissioningStop (reason : String) (n : AdapterNode) : AdapterNode :=
  (bestEffortDaemonDisarm config link false
    (forceFault config reason { n with commissioningMotionActive := false })).2

/-- The stop of an open session in a motion profile. -/
def failClosedIfOpen (reason : String) (n : AdapterNode) : AdapterNode :=
  if config.allowMotion && n.commissioningSessionOpen then
    n.failClosedCommissioningStop config link reason
  else n

def rejectExternalOdometry (reason : String) (latchProcess : Bool) (n : AdapterNode) :
    AdapterNode :=
  failClosedIfOpen config link ("external odometry rejected: " ++ reason)
    { n with
      lastExternalOdomValid := false
      externalOdomFaultLatch := n.externalOdomFaultLatch || latchProcess }

def handleExternalOdometryLivenessLoss (reason : String) (n : AdapterNode) : AdapterNode :=
  let n := n.emit (.livenessLoss n.guard.state)
  if config.allowMotion && n.commissioningSessionOpen then
    n.rejectExternalOdometry config link (reason ++ "; process restart required") true
  else
    { n.rejectExternalOdometry config link
        (reason ++ "; waiting for fresh state and external odometry") false with
      lastExternalOdomReceiptSec := 0
      previousPositionReceiptSec := 0
      hasPreviousPosition := false }

/-! ### Freshness -/

def freshValidSportModeState (nowSec : ℚ) (n : AdapterNode) : Bool :=
  freshValidReceipt n.lastStateValid n.lastStateReceiptSec nowSec config.guard.stateTimeoutSec

def freshValidExternalOdometry (nowSec : ℚ) (n : AdapterNode) : Bool :=
  freshValidReceipt n.lastExternalOdomValid n.lastExternalOdomReceiptSec nowSec
    config.externalOdomTimeoutSec

/-- `ExternalOdometryFaultLatch::CanonicalOutputEligible`. -/
def canonicalOutputEligible (nowSec : ℚ) (n : AdapterNode) : Bool :=
  !n.externalOdomFaultLatch && n.freshValidSportModeState config nowSec &&
    n.freshValidExternalOdometry config nowSec

def externalOdometryFresh (nowSec : ℚ) (n : AdapterNode) : Bool :=
  !config.external || n.canonicalOutputEligible config nowSec

def receiptClockRegressed (nowSec : ℚ) (n : AdapterNode) : Bool :=
  receiptClockInvalidOrRegressed nowSec n.lastStateReceiptSec n.lastExternalOdomReceiptSec

def checkExternalOdometryInterlock (nowSec : ℚ) (n : AdapterNode) : AdapterNode :=
  if !config.external ∨ n.externalOdomFaultLatch ∨ n.lastExternalOdomReceiptSec ≤ 0 then n
  else if n.receiptClockRegressed nowSec then
    n.rejectExternalOdometry config link "steady receipt clock is invalid or regressed" true
  else if !n.freshValidSportModeState config nowSec then
    n.handleExternalOdometryLivenessLoss config link "SportModeState invalid or stale"
  else if !n.freshValidExternalOdometry config nowSec then
    n.handleExternalOdometryLivenessLoss config link "external odometry timeout"
  else n

/-- `PublishCanonicalOdometry` of a message with a stamp. -/
def publishCanonicalOdometry (stamp : Stamp) (nowSec : ℚ) (n : AdapterNode) : AdapterNode :=
  if config.external && n.receiptClockRegressed nowSec then
    n.rejectExternalOdometry config link "steady receipt clock is invalid or regressed" true
  else if config.external && !n.externalOdometryFresh config nowSec then
    n.handleExternalOdometryLivenessLoss config link
      "canonical odometry blocked by state/odometry interlock"
  else n.emit (.odometry stamp)

end AdapterNode

end UnitreeGo2.Chassis
