import UnitreeGo2.Lib.Script
import Mathlib.Data.Finset.Dedup
import Mathlib.Data.Finset.Insert
import Mathlib.Data.Rat.Defs
import Mathlib.Algebra.Order.Ring.Rat

/-!
# The arm gate of the persistent profile

A tool for the operator that arms the chassis.  It collects one sample of each stream, checks
them and the endpoints of the command topic, publishes zero velocities for a second, sends the
arm request, and waits for the armed state.  Every call of the script to its node, its clock or
its client may raise.
-/

namespace UnitreeGo2.PersistentNav2

open Script (ask get modify raise tryCatch ensure loop)

def PROFILE : String := "workstation-staged-nav2-corrected-v1"

def CLASSIC_MOTION_STATE_MARKERS : List ℤ := [100, 2010]

def ACTIVE_GOAL_STATES : List ℤ := [1, 2, 3]

def SNAPSHOT_TIMEOUT_S : ℚ := 15

def INITIAL_GOAL_STATUS_OBSERVATION_S : ℚ := 6

def ZERO_PREPARATION_S : ℚ := 1

inductive Raised where
  | armError (text : String)
  /-- Any other `Exception`. -/
  | exception (typeName : String)
  /-- An exception that `except Exception` lets through, such as `KeyboardInterrupt`. -/
  | baseException (typeName : String)
  deriving DecidableEq, Repr

/-- `isinstance(error, Exception)`. -/
def Raised.isException : Raised → Bool
  | baseException _ => false
  | _ => true

/-- What the standard library does with texts and floats. -/
structure Library where
  /-- `text.strip().casefold()`. -/
  stripCasefold : String → String
  /-- `int(text, 10)`, if it does not raise. -/
  parseInt : String → Option ℤ
  /-- The rounding of a float operation. -/
  fl : ℚ → ℚ

/-! ## Endpoints -/

structure Endpoint where
  nodeNamespace : String
  nodeName : String
  deriving DecidableEq, Repr

/-- `text.rstrip("/")`. -/
def rstripSlash (text : String) : String :=
  String.ofList (text.toList.reverse.dropWhile (· = '/')).reverse

/-- `text.lstrip("/")`. -/
def lstripSlash (text : String) : String := String.ofList (text.toList.dropWhile (· = '/'))

/-- The name of one endpoint. -/
def Endpoint.name (entry : Endpoint) : String :=
  let namespaceText :=
    rstripSlash (if entry.nodeNamespace = "" then "/" else entry.nodeNamespace)
  if namespaceText = "" then "/" ++ lstripSlash entry.nodeName
  else namespaceText ++ "/" ++ lstripSlash entry.nodeName

/-- `_endpoint_names`. -/
def endpointNames (entries : List Endpoint) : Finset String :=
  (entries.map Endpoint.name).toFinset

def velocityGuard : String := "/robonix_velocity_guard"

def chassisAdapter : String := "/go2_chassis_adapter"

def btNavigator : String := "/bt_navigator"

/-! ## Samples -/

/-- A message of a subscription. -/
inductive Payload where
  | lifecycle (mapId mode : String) (generation : ℤ)
  | pose (frameId : String)
  | odom (frameId childFrameId : String)
  | scan (frameId : String)
  /-- The identifiers and the states of the goals. -/
  | goals (statusList : List (String × ℤ))
  /-- The names and the values of the statuses. -/
  | diagnostics (statuses : List (String × List (String × String)))

/-- A message and the clock in its callback. -/
structure Message where
  receivedAt : ℚ
  payload : Payload

structure Samples where
  lifecycle : Option (ℚ × String × String × ℤ) := none
  pose : Option (ℚ × String) := none
  odom : Option (ℚ × String × String) := none
  scan : Option (ℚ × String) := none
  goals : Option (ℚ × List String) := none
  diagnostics : Option (ℚ × List (String × String)) := none

/-- `values.get(key)` of a dictionary that was filled in this order. -/
def lastValue (values : List (String × String)) (key : String) : Option String :=
  values.reverse.lookup key

/-- What a callback stores. -/
def Samples.observed (lib : Library) (samples : Samples) (message : Message) : Samples :=
  match message.payload with
  | .lifecycle mapId mode generation =>
    { samples with
      lifecycle := some (message.receivedAt, mapId, lib.stripCasefold mode, generation) }
  | .pose frameId => { samples with pose := some (message.receivedAt, frameId) }
  | .odom frameId childFrameId =>
    { samples with odom := some (message.receivedAt, frameId, childFrameId) }
  | .scan frameId => { samples with scan := some (message.receivedAt, frameId) }
  | .goals statusList =>
    { samples with goals := some (message.receivedAt,
        (statusList.filter fun item => item.2 ∈ ACTIVE_GOAL_STATES).map Prod.fst) }
  | .diagnostics statuses =>
    match (statuses.filter fun status => status.1 = "go2_chassis_adapter").getLast? with
    | none => samples
    | some status => { samples with diagnostics := some (message.receivedAt, status.2) }

/-- The only safe case without a goal status is one exact publisher of it. -/
def inferInitialIdleGoalState (samples : Samples) (statusPublishers : List Endpoint) (now : ℚ) :
    Except Raised Samples :=
  if samples.goals.isSome then .ok samples
  else if endpointNames statusPublishers ≠ {btNavigator} then
    .error (.armError "no goal status sample and unexpected status publishers")
  else .ok { samples with goals := some (now, []) }

/-- What the operator asks for. -/
structure ArmRequest where
  mapId : String
  generation : ℤ
  allowedMode : ℕ
  allowedMarker : ℤ

/-- A stream is missing or its sample is too old. -/
def stale {α : Type} (lib : Library) (now maximumAge : ℚ) (sample : Option (ℚ × α)) : Bool :=
  sample.all fun entry => maximumAge < lib.fl (now - entry.1)

/-- The diagnostics of a healthy, disarmed chassis. -/
def expectedDiagnostics (request : ArmRequest) : List (String × String) :=
  [("guard_state", "DISARMED"), ("allow_motion", "true"), ("motion_profile", PROFILE),
    ("external_odom_valid", "true"), ("external_odom_fault_latched", "false"),
    ("daemon_armed", "false"), ("state_valid", "true"),
    ("opaque_state_marker_change_latched", "false"),
    ("passive_state_marker_transitions_enabled", "false"),
    ("motion_state_marker_transitions_enabled", "true"),
    ("sport_mode", toString request.allowedMode)]

/-- The check of the diagnostics values. -/
def validateDiagnostics (lib : Library) (request : ArmRequest)
    (diagnostics : List (String × String)) : Except Raised Unit :=
  if ¬ (expectedDiagnostics request).all fun item => lastValue diagnostics item.1 = some item.2 then
    .error (.armError "chassis diagnostic gate failed")
  else
    match lib.parseInt ((lastValue diagnostics "sport_error_code").getD "None") with
    | none => .error (.armError "chassis diagnostic marker is malformed")
    | some currentMarker =>
      if currentMarker ∉ CLASSIC_MOTION_STATE_MARKERS then
        .error (.armError "chassis diagnostic marker is outside the reviewed Classic set")
      else .ok ()

def validateSnapshot (lib : Library) (request : ArmRequest) (samples : Samples) (now : ℚ) :
    Except Raised Unit :=
  if request.allowedMarker ∉ CLASSIC_MOTION_STATE_MARKERS then
    .error (.armError "allowed marker is outside the reviewed Classic set")
  else
    match samples.lifecycle, samples.pose, samples.odom, samples.scan, samples.goals,
      samples.diagnostics with
    | some lifecycle, some pose, some odom, some scan, some goals, some diagnostics =>
      if lifecycle.2 ≠ (request.mapId, "localization", request.generation) then
        .error (.armError "live MapLifecycle does not match the requested localization map")
      else if stale lib now (lib.fl (3 / 4)) samples.pose then
        .error (.armError "pose sample is stale")
      else if stale lib now (lib.fl (3 / 4)) samples.odom then
        .error (.armError "odom sample is stale")
      else if stale lib now (lib.fl (3 / 4)) samples.scan then
        .error (.armError "scan sample is stale")
      else if stale lib now (lib.fl (3 / 2)) samples.diagnostics then
        .error (.armError "diagnostics sample is stale")
      else if pose.2 ≠ "map" then .error (.armError "localization pose frame must be map")
      else if odom.2 ≠ ("odom", "base_link") then
        .error (.armError "odometry frame chain must be odom -> base_link")
      else if scan.2 ≠ "base_link" then
        .error (.armError "navigation scan frame must be base_link")
      else if goals.2 ≠ [] then
        .error (.armError "an accepted, executing or canceling navigation goal already exists")
      else validateDiagnostics lib request diagnostics.2
    | _, _, _, _, _, _ => .error (.armError "missing live samples")

/-! ## The script -/

/-- A `geometry_msgs/Twist`. -/
structure Twist where
  linearX : ℚ := 0
  linearY : ℚ := 0
  linearZ : ℚ := 0
  angularX : ℚ := 0
  angularY : ℚ := 0
  angularZ : ℚ := 0
  deriving DecidableEq, Repr

structure Response where
  success : Bool
  message : String

/-- The future of a service call. -/
inductive Future where
  | pending
  | done (response : Option Response)
  | failed (raised : Raised)

inductive Call where
  /-- The initialisation of the node, its subscriptions and its client. -/
  | start
  | waitForService
  | monotonic
  | spinOnce
  | statusPublishers
  | commandPublishers
  | commandSubscriptions
  | createPublisher
  | publish (twist : Twist)
  /-- A request to the arm service. -/
  | callAsync (data : Bool)
  | destroyPublisher
  | sleep
  | print (text : String)
  | serviceIsReady
  | spinUntilFutureComplete
  | destroyNode
  | shutdown
  deriving DecidableEq

/-- The surroundings at a call, and what it gives back. -/
structure Answer where
  now : ℚ
  raised : Option Raised := none
  serviceReady : Bool := true
  /-- The messages whose callbacks a spin runs. -/
  received : List Message := []
  /-- The future after a spin. -/
  future : Future := .pending
  /-- The endpoints of the command topic, without the publisher of this tool. -/
  publishers : List Endpoint
  subscribers : List Endpoint
  statusPublishers : List Endpoint := []

structure Gate where
  samples : Samples := {}
  /-- There is a zero publisher. -/
  zeroPublisher : Bool := false
  future : Future := .pending

abbrev ArmScript := Script Gate Call Answer Raised

/-- A call that may raise. -/
def perform (call : Call) : ArmScript Answer := do
  let answer ← ask call
  match answer.raised with
  | some raised => raise raised
  | none => return answer

/-- A spin runs callbacks, before it may raise. -/
def spin (lib : Library) (call : Call) : ArmScript Unit := do
  let answer ← ask call
  modify fun gate => { gate with
    samples := answer.received.foldl (Samples.observed lib) gate.samples
    future := answer.future }
  match answer.raised with
  | some raised => raise raised
  | none => return ()

def monotonic : ArmScript ℚ := do
  let answer ← perform .monotonic
  return answer.now

/-- The endpoint of the zero publisher. -/
def ownEndpoint : Endpoint := ⟨"/", "go2_persistent_nav2_arm_gate"⟩

/-- `get_publishers_info_by_topic(COMMAND_TOPIC)`. -/
def commandPublishers : ArmScript (List Endpoint) := do
  let answer ← perform .commandPublishers
  let gate ← get
  return if gate.zeroPublisher then answer.publishers ++ [ownEndpoint] else answer.publishers

/-- The goals are inferred where none were received. -/
def inferGoals (publishers : List Endpoint) (now : ℚ) : ArmScript Unit := do
  let gate ← get
  match inferInitialIdleGoalState gate.samples publishers now with
  | .error raised => raise raised
  | .ok samples => modify fun gate => { gate with samples }

def streamsFresh (lib : Library) (samples : Samples) (now : ℚ) : Bool :=
  samples.lifecycle.isSome && !stale lib now (lib.fl (3 / 4)) samples.pose &&
    samples.pose.isSome && !stale lib now (lib.fl (3 / 4)) samples.odom && samples.odom.isSome &&
    !stale lib now (lib.fl (3 / 4)) samples.scan && samples.scan.isSome &&
    !stale lib now (lib.fl (3 / 2)) samples.diagnostics && samples.diagnostics.isSome

/-- One round of the loop that waits for the samples. -/
def snapshotRound (lib : Library) (snapshotStarted deadline : ℚ) (_ : Unit) :
    ArmScript (Unit ⊕ Unit) := do
  let now ← monotonic
  if now < deadline then
    spin lib .spinOnce
    let now ← monotonic
    let gate ← get
    if streamsFresh lib gate.samples now then
      if gate.samples.goals.isSome then return .inr ()
      else if INITIAL_GOAL_STATUS_OBSERVATION_S ≤ lib.fl (now - snapshotStarted) then
        let answer ← perform .statusPublishers
        inferGoals answer.statusPublishers now
        return .inr ()
      else return .inl ()
    else return .inl ()
  else return .inr ()

/-- The zero velocity is published every 40 ms. -/
def publishZero (lib : Library) (now nextZero : ℚ) : ArmScript ℚ := do
  if nextZero ≤ now then
    let _ ← perform (.publish {})
    return lib.fl (now + lib.fl (1 / 25))
  else return nextZero

/-- One round of the zero preparation. -/
def preparationRound (lib : Library) (preparationDeadline nextZero : ℚ) :
    ArmScript (ℚ ⊕ ℚ) := do
  let now ← monotonic
  if now < preparationDeadline then
    let now ← monotonic
    let nextZero ← publishZero lib now nextZero
    spin lib .spinOnce
    return .inl nextZero
  else return .inr nextZero

/-- `future.result()`. -/
def futureResult (future : Future) : ArmScript (Option Response) :=
  match future with
  | .pending => return none
  | .done response => return response
  | .failed raised => raise raised

/-- The newest diagnostics report the armed state. -/
def reportsArmed (samples : Samples) : Bool :=
  let current := (samples.diagnostics.map Prod.snd).getD []
  lastValue current "guard_state" = some "ARMED" && lastValue current "daemon_armed" = some "true"

def Future.isDone : Future → Bool
  | pending => false
  | _ => true

/-- The chassis is armed: the command topic goes back to its owner. -/
def releaseCommandTopic : ArmScript Unit := do
  let _ ← perform .destroyPublisher
  modify fun gate => { gate with zeroPublisher := false }
  let _ ← perform .sleep
  let publishers ← commandPublishers
  if endpointNames publishers ≠ {velocityGuard} then
    raise (.armError "command ownership did not return to Navigation")
  else
    let _ ← perform (.print "Go2 chassis armed for persistent voice/Nav2 goals")
    return ()

/-- One round of the wait for the armed state; it leaves with `true` once it is reached. -/
def armRound (lib : Library) (armDeadline nextZero : ℚ) : ArmScript (ℚ ⊕ Bool) := do
  let now ← monotonic
  if now < armDeadline then
    let now ← monotonic
    let nextZero ← publishZero lib now nextZero
    spin lib .spinOnce
    let gate ← get
    if gate.future.isDone then
      let response ← futureResult gate.future
      if (response.any fun response => response.success) && reportsArmed gate.samples then
        releaseCommandTopic
        return .inr true
      else return .inl nextZero
    else return .inl nextZero
  else return .inr false

/-- The samples and the endpoints that an arm request needs. -/
def collectSnapshot (lib : Library) (request : ArmRequest) : ArmScript Unit := do
  let snapshotStarted ← monotonic
  let deadline := lib.fl (snapshotStarted + SNAPSHOT_TIMEOUT_S)
  loop (snapshotRound lib snapshotStarted deadline) ()
  let answer ← perform .statusPublishers
  let now ← monotonic
  inferGoals answer.statusPublishers now
  let publishers ← commandPublishers
  let answer ← perform .commandSubscriptions
  if endpointNames publishers ≠ {velocityGuard} then
    raise (.armError "unexpected command publishers")
  else if endpointNames answer.subscribers ≠ {chassisAdapter} then
    raise (.armError "unexpected command subscribers")
  else
    let now ← monotonic
    let gate ← get
    match validateSnapshot lib request gate.samples now with
    | .error raised => raise raised
    | .ok () => return ()

/-- The zero preparation, which leaves with the time of the next zero velocity. -/
def prepareZero (lib : Library) : ArmScript ℚ := do
  let _ ← perform .createPublisher
  modify fun gate => { gate with zeroPublisher := true }
  let now ← monotonic
  loop (preparationRound lib (lib.fl (now + ZERO_PREPARATION_S))) 0

/-- The arm request and the wait for the armed state. -/
def requestArm (lib : Library) (nextZero : ℚ) : ArmScript Unit := do
  let _ ← perform (.callAsync true)
  modify fun gate => { gate with future := .pending }
  let now ← monotonic
  let armed ← loop (armRound lib (lib.fl (now + 4))) nextZero
  if armed then return ()
  else
    let gate ← get
    let _ ← futureResult gate.future
    raise (.armError "arm did not reach guarded armed state")

/-- `run(arm=False)`, once the service is there. -/
def requestDisarm (lib : Library) : ArmScript Unit := do
  let _ ← perform (.callAsync false)
  spin lib .spinUntilFutureComplete
  let gate ← get
  let response ← futureResult gate.future
  if response.any fun response => response.success then
    let _ ← perform (.print "Go2 chassis disarmed")
    return ()
  else raise (.armError "disarm was rejected")

/-- The `except Exception` block. -/
def disarmAfter (lib : Library) (arm : Bool) (error : Raised) : ArmScript Unit := do
  if error.isException = true ∧ arm = true then
    let answer ← perform .serviceIsReady
    if answer.serviceReady then
      let _ ← perform (.callAsync false)
      spin lib .spinUntilFutureComplete
      raise error
    else raise error
  else raise error

/-- The `finally` block. -/
def cleanUp : ArmScript Unit := do
  let gate ← get
  if gate.zeroPublisher then
    let _ ← perform .destroyPublisher
    let _ ← perform .destroyNode
    let _ ← perform .shutdown
    return ()
  else
    let _ ← perform .destroyNode
    let _ ← perform .shutdown
    return ()

/-- The `try` block. -/
def armOrDisarm (lib : Library) (arm : Bool) (request : ArmRequest) : ArmScript Unit := do
  let answer ← perform .waitForService
  if answer.serviceReady = false then raise (.armError "chassis arm service is unavailable")
  else if arm = false then requestDisarm lib
  else
    collectSnapshot lib request
    let nextZero ← prepareZero lib
    requestArm lib nextZero

def run (lib : Library) (arm : Bool) (request : ArmRequest) : ArmScript Unit := do
  let _ ← perform .start
  ensure (tryCatch (armOrDisarm lib arm request) (disarmAfter lib arm)) cleanUp

end UnitreeGo2.PersistentNav2
