import UnitreeGo2.RobotTrack.DistanceWorker
import UnitreeGo2.RobotTrack.FollowDistanceRuntime
import UnitreeGo2.RobotTrack.RgbdPairing
import UnitreeGo2.Lib.Component

/-!
# The RobotTrack node

The node takes camera frames and raw commands in the callbacks of a single-threaded executor,
where a timer dispatches the latest plan.  An inference thread stores plans, the distance worker
commits measurements, and the provider calls the distance runtime.  What runs between two points
where another thread may come in is one segment.
-/

namespace UnitreeGo2.RobotTrack

/-! ## Plans -/

/-- `clipped`; a command that is not finite is refused. -/
def VelocityCommand.clipped (command : VelocityCommand) (maxVx maxWz : ℚ) :
    Except String VelocityCommand := do
  let vx ← finiteFloat (.number command.vx) "vx"
  let wz ← finiteFloat (.number command.wz) "wz"
  return ⟨.fin (max (-maxVx) (min maxVx vx)), .fin (max (-maxWz) (min maxWz wz))⟩

def ZERO_COMMAND : VelocityCommand := {}

structure DispatchState where
  command : VelocityCommand
  reason : String
  ageS : Option ℚ
  version : ℕ
  deriving DecidableEq

/-- The latest plan, by its bounded command. -/
structure PlanStore where
  plan : Option VelocityCommand := none
  arrivalMonotonic : ℚ := 0
  version : ℕ := 0

namespace PlanStore

/-- `update` under its lock. -/
def update (store : PlanStore) (bounded : VelocityCommand) (arrival : ℚ) : PlanStore where
  plan := some bounded
  arrivalMonotonic := arrival
  version := store.version + 1

def clear (store : PlanStore) : PlanStore where
  version := store.version + 1

def dispatch (store : PlanStore) (maxPlanAgeS current : ℚ) : DispatchState :=
  match store.plan with
  | none => ⟨ZERO_COMMAND, "no_plan", none, store.version⟩
  | some command =>
    let age := max 0 (current - store.arrivalMonotonic)
    if maxPlanAgeS < age then ⟨ZERO_COMMAND, "stale_plan", some age, store.version⟩
    else ⟨command, "active_plan", some age, store.version⟩

end PlanStore

/-! ## The node -/

/-- What the node takes from its `RuntimeConfig`, as `from_mapping` has checked it. -/
structure NodeConfig where
  live : Bool
  distanceEnabled : Bool
  maxPlanAgeS : ℚ
  maxVx : ℚ
  maxWz : ℚ
  selectedSource : Source
  sourceMaxAgeS : ℚ
  distancePairMaxDeltaS : ℚ
  distanceMeasurementMaxAgeS : ℚ
  maxVx_pos : 0 < maxVx
  maxWz_pos : 0 < maxWz
  sourceMaxAge_pos : 0 < sourceMaxAgeS
  pairDelta_pos : 0 < distancePairMaxDeltaS
  measurementAge_pos : 0 < distanceMeasurementMaxAgeS

def NodeConfig.pairerBounds (cfg : NodeConfig) : PairerBounds :=
  ⟨cfg.distancePairMaxDeltaS, cfg.distanceMeasurementMaxAgeS, cfg.pairDelta_pos.le,
    cfg.measurementAge_pos⟩

/-- What the node reads of a `DistanceEstimate`. -/
structure DistanceEstimate where
  valid : Bool
  status : String
  source : String
  distanceM : Option FloatInput
  confidence : FloatInput

/-- Where the executor is in its callbacks. -/
inductive Callback (I : Type) where
  /-- The constructor of the node starts the distance worker. -/
  | constructing
  | idle
  | submitting (pair : RgbdFramePair I)
  /-- `_invalidate_distance_measurement`. -/
  | invalidating (status detail : String)
  | clearing (status detail : String)
  /-- `_dispatch`, with the time that it has read. -/
  | expiring (now : ℚ)
  | reading (now : ℚ)
  | applying (now : ℚ) (command : VelocityCommand)
  | computing (now : ℚ) (command : VelocityCommand) (controller : ℕ) (active : Bool)
      (measurement : Option DistanceMeasurement)
  | recording (now : ℚ) (controller : ℕ) (result : DistanceControlResult)
  | rechecking (now : ℚ) (command : VelocityCommand) (reason : String)
  | reexpiring (now : ℚ) (command : VelocityCommand) (reason : String)
  | publishing (now : ℚ) (command : VelocityCommand) (reason : String)
  /-- `close`, after it has closed the distance state. -/
  | stoppingWorker
  | clearingPlans
  | resettingRuntime
  | deactivating
  | zeroing
  | closed

/-- Where the inference thread is. -/
inductive Inference where
  | waiting
  /-- `update` before its lock. -/
  | storing (bounded : VelocityCommand) (arrival : ℚ)

structure RobotTrackNode (σ I : Type) where
  plans : PlanStore := {}
  inference : Inference := .waiting
  mux : CommandSourceMux
  pairer : LatestRgbdPairer I := {}
  worker : RgbdDistanceWorker σ (RgbdFramePair I) DistanceEstimate
  runtime : FollowDistanceRuntime
  measurementReceived : Option ℚ := none
  executor : Callback I := .constructing
  /-- The latest time at which one of the threads ran. -/
  clock : ℚ

/-- A call of the provider on the distance runtime. -/
inductive RuntimeCall where
  | configure (config : DistanceControlConfig) (minTargetM maxTargetM : FloatInput)
  | setActive (active : Bool) (detail : String)
  | setTargetDistance (distanceM : FloatInput)
  | adjustTargetDistance (deltaM : FloatInput)

def RuntimeCall.run (r : FollowDistanceRuntime) : RuntimeCall → FollowDistanceRuntime
  | .configure config minTargetM maxTargetM => (r.configure config minTargetM maxTargetM).2
  | .setActive active detail => (r.setActive active detail).2
  | .setTargetDistance distanceM => (r.setTargetDistance distanceM).2
  | .adjustTargetDistance deltaM => (r.adjustTargetDistance deltaM).2

inductive NodeEvent (I ι : Type) where
  /-- An RGB image with its source time, unless it cannot be converted. -/
  | image (frame : Option (I × ℚ))
  | depth (frame : Except String (I × ℚ))
  | navigationCommand (message : TwistCommand)
  | robottrackCommand (message : TwistCommand)
  | timer
  /-- The executor goes on in its callback. -/
  | proceed
  /-- The inference thread has got a plan, or stores it. -/
  | plan (command : VelocityCommand)
  | store
  | work (input : ι)
  | runtime (call : RuntimeCall)
  /-- The executor has left its loop. -/
  | close

inductive NodeOutput (I : Type) where
  | silent
  /-- Both publishers of `_dispatch`. -/
  | published (now : ℚ) (raw : VelocityCommand) (selection : MuxSelection)
  | predicted (command : VelocityCommand) (reason : String)
  | committed (epoch : ℕ) (pair : RgbdFramePair I) (estimate : DistanceEstimate)
  | raised (detail : String)
  | zeroed

def velocityTwist (command : VelocityCommand) : TwistCommand :=
  { linearX := command.vx, angularZ := command.wz }

/-- `update` on the one thread that has the mux, for a valid source. -/
def CommandSourceMux.update (m : CommandSourceMux) (name : Source) (command : TwistCommand)
    (received : ℚ) : Except String CommandSourceMux := do
  let checked ← command.finite
  return if m.Outdated name received then m else m.store name checked received

namespace RobotTrackNode

variable {σ I ι : Type} (cfg : NodeConfig) (strip : String → String)

/-- The executor is elsewhere in its callbacks. -/
def goTo (callback : Callback I) (n : RobotTrackNode σ I) : RobotTrackNode σ I :=
  { n with executor := callback }

/-- `_clear_distance_measurement_locked`. -/
def clearMeasurement (status detail source : String) (n : RobotTrackNode σ I) :
    RobotTrackNode σ I :=
  { n with
    runtime := (n.runtime.updateMeasurement strip none status source detail).2
    measurementReceived := none }

/-- The `commit` of `_on_distance_estimate` at the time `now`. -/
def commit (pair : RgbdFramePair I) (estimate : DistanceEstimate) (now : ℚ)
    (n : RobotTrackNode σ I) : RobotTrackNode σ I :=
  let detail := s!"{estimate.status}; source={estimate.source}; " ++
    s!"pair_delta={fixed3 pair.sourceDeltaS}s"
  match freshRgbdMeasurementTimestamp pair now cfg.distanceMeasurementMaxAgeS with
  | none =>
    n.clearMeasurement strip "stale_measurement"
      (s!"RGB-D result age {fixed3 (now - pair.receivedMonotonic)}s exceeds " ++
        s!"{fixed3 cfg.distanceMeasurementMaxAgeS}s") estimate.source
  | some _ =>
    match estimate.valid, estimate.distanceM with
    | true, some distance =>
      { n with
        runtime := (n.runtime.updateMeasurement strip
          (some ⟨distance, estimate.confidence, .number (.fin pair.receivedMonotonic)⟩)
          estimate.status estimate.source detail).2
        measurementReceived := some pair.receivedMonotonic }
    | _, _ => n.clearMeasurement strip estimate.status detail estimate.source

/-- The distance worker runs one of its segments. -/
def work (est : DistanceEstimator σ (RgbdFramePair I) DistanceEstimate ι) (input : ι) (now : ℚ)
    (n : RobotTrackNode σ I) : NodeOutput I × RobotTrackNode σ I :=
  let n' := { n with worker := (n.worker.work est input).2 }
  match (n.worker.work est input).1 with
  | .committed epoch pair estimate =>
    (.committed epoch pair estimate, n'.commit cfg strip pair estimate now)
  | .cleared _ =>
    (.silent, n'.clearMeasurement strip "distance_estimation_error"
      "RGB-D distance estimation failed" "")
  | .done | .answered _ => (.silent, n')

/-- `_handle_rgbd_decision`, up to its first lock. -/
def handleDecision (decision : RgbdPairDecision I) : Callback I :=
  match decision.pair with
  | some pair => .submitting pair
  | none =>
    if decision.invalidateMeasurement then .invalidating decision.status decision.detail else .idle

/-- `_expire_distance_measurement`. -/
def expire (now : ℚ) (n : RobotTrackNode σ I) : RobotTrackNode σ I :=
  match n.measurementReceived with
  | none => n
  | some received =>
    if now - received ≤ cfg.distanceMeasurementMaxAgeS then n
    else
      n.clearMeasurement strip "stale_measurement"
        "the latest RGB-D target distance measurement expired" ""

/-- `close`, up to the release of the distance state. -/
def beginClose (n : RobotTrackNode σ I) : RobotTrackNode σ I :=
  ({ n with worker := { n.worker with closed := true } }).goTo .stoppingWorker

/-- The end of `_dispatch`. -/
def publish (now : ℚ) (command : VelocityCommand) (reason : String) (n : RobotTrackNode σ I) :
    NodeOutput I × RobotTrackNode σ I :=
  if cfg.live = false then (.predicted command reason, n.goTo .idle)
  else
    match n.mux.update .robottrack (velocityTwist command) now with
    | .error detail => (.raised detail, n.beginClose)
    | .ok mux =>
      (.published now command (mux.output now), ({ n with mux := mux }).goTo .idle)

/-- The executor goes on in its callback at the time `monotonic`. -/
def proceed (monotonic : ℚ) (n : RobotTrackNode σ I) : NodeOutput I × RobotTrackNode σ I :=
  match n.executor with
  | .constructing =>
    (.silent,
      ({ n with worker := if cfg.distanceEnabled then n.worker.start else n.worker }).goTo .idle)
  | .submitting pair =>
    (.silent, ({ n with worker := (n.worker.submit pair).2 }).goTo .idle)
  | .invalidating status detail =>
    (.silent, ({ n with worker := n.worker.invalidate.2 }).goTo (.clearing status detail))
  | .clearing status detail =>
    -- nothing is cleared once the node is closed
    (.silent, (if n.worker.closed then n
      else n.clearMeasurement strip status detail "").goTo .idle)
  | .expiring now => (.silent, (n.expire cfg strip now).goTo (.reading now))
  | .reading now =>
    let state := n.plans.dispatch cfg.maxPlanAgeS now
    (.silent, n.goTo (
      if state.reason ≠ "active_plan" then .publishing now ZERO_COMMAND state.reason
      else if cfg.distanceEnabled = false then .publishing now state.command state.reason
      else .applying now state.command))
  | .applying now command =>
    (.silent, n.goTo (
      .computing now command n.runtime.replaced.length n.runtime.active n.runtime.measurement))
  | .computing now command index active measurement =>
    match n.runtime.controllerAt index with
    | none => (.silent, n)
    | some controller =>
      (.silent, n.goTo (.recording now index
        (FollowDistanceRuntime.applyTo controller active command measurement
          (some (.number (.fin now))) monotonic)))
  | .recording now index result =>
    (.silent, ({ n with runtime := n.runtime.recordResult index result }).goTo (
      if result.reason = DistanceReason.staleMeasurement then
        .rechecking now result.command result.reason.text
      else .publishing now result.command result.reason.text))
  | .rechecking now command reason =>
    (.silent, n.goTo (
      if n.runtime.snapshot.measuredDistanceM ≠ none then .reexpiring now command reason
      else .publishing now command reason))
  | .reexpiring now command reason =>
    (.silent, (n.expire cfg strip now).goTo (.publishing now command reason))
  | .publishing now command reason => n.publish cfg now command reason
  | .stoppingWorker =>
    (.silent, ({ n with
      worker := if cfg.distanceEnabled then n.worker.requestStop else n.worker }).goTo
        .clearingPlans)
  | .clearingPlans =>
    (.silent, ({ n with plans := n.plans.clear, pairer := {} }).goTo
      (if cfg.distanceEnabled then .resettingRuntime else .zeroing))
  | .resettingRuntime =>
    (.silent, ({ n with
      runtime := (n.runtime.updateMeasurement strip none "inactive" ""
        "RobotTrack RGB-D runtime closed").2 }).goTo .deactivating)
  | .deactivating =>
    (.silent, ({ n with
      runtime := (n.runtime.setActive false "RobotTrack RGB-D runtime closed").2 }).goTo .zeroing)
  | .zeroing => (.zeroed, n.goTo .closed)
  | .idle | .closed => (.silent, n)

/-- A raw command arrives on the topic of a source. -/
def receive (name : Source) (message : TwistCommand) (received : ℚ) (n : RobotTrackNode σ I) :
    RobotTrackNode σ I :=
  match n.mux.update name message received with
  | .error _ => n
  | .ok mux => { n with mux := mux }

/-- A callback of the idle executor begins at the time `now`. -/
def callback (now : ℚ) (n : RobotTrackNode σ I) : NodeEvent I ι → RobotTrackNode σ I
  | .image (some (image, source)) =>
    if cfg.distanceEnabled then
      let (decision, pairer) := n.pairer.offerRgb cfg.pairerBounds image source now
      ({ n with pairer := pairer }).goTo (handleDecision decision)
    else n
  | .depth (.ok (image, source)) =>
    if cfg.distanceEnabled then
      let (decision, pairer) := n.pairer.offerDepth cfg.pairerBounds image source now
      ({ n with pairer := pairer }).goTo (handleDecision decision)
    else n
  | .depth (.error error) =>
    if cfg.distanceEnabled then
      n.goTo (.invalidating "depth_frame_error"
        ("D435i aligned depth frame rejected: " ++ error))
    else n
  | .navigationCommand message => if cfg.live then n.receive .navigation message now else n
  | .robottrackCommand message => if cfg.live then n.receive .robottrack message now else n
  | .timer => n.goTo (.expiring now)
  | .close => n.beginClose
  | .image none | .proceed | .plan _ | .store | .work _ | .runtime _ => n

/-- The inference thread has got a plan.  A command that is not finite raises. -/
def arrive (command : VelocityCommand) (arrival : ℚ) (n : RobotTrackNode σ I) :
    RobotTrackNode σ I :=
  match n.inference, command.clipped cfg.maxVx cfg.maxWz with
  | .waiting, .ok bounded => { n with inference := .storing bounded arrival }
  | _, _ => n

def storePlan (n : RobotTrackNode σ I) : RobotTrackNode σ I :=
  match n.inference with
  | .waiting => n
  | .storing bounded arrival =>
    { n with plans := n.plans.update bounded arrival, inference := .waiting }

/-- One segment of a thread at the time `now`. -/
def act (est : DistanceEstimator σ (RgbdFramePair I) DistanceEstimate ι) (now : ℚ)
    (n : RobotTrackNode σ I) (event : NodeEvent I ι) : NodeOutput I × RobotTrackNode σ I :=
  match event with
  | .proceed => n.proceed cfg strip now
  | .plan command => (.silent, n.arrive cfg command now)
  | .store => (.silent, n.storePlan)
  | .work input => n.work cfg strip est input now
  | .runtime call => (.silent, { n with runtime := call.run n.runtime })
  | event =>
    match n.executor with
    | .idle => (.silent, n.callback cfg now event)
    | _ => (.silent, n)

end RobotTrackNode

/-- The node with its threads.  Time does not go back from one segment to the next. -/
def robotTrackNode {σ I ι : Type} (cfg : NodeConfig) (strip : String → String)
    (est : DistanceEstimator σ (RgbdFramePair I) DistanceEstimate ι) :
    Machine (RobotTrackNode σ I) (ℚ × NodeEvent I ι) (NodeOutput I) where
  step n event :=
    if event.1 < n.clock then (.silent, n)
    else { n with clock := event.1 }.act cfg strip est event.1 event.2

/-- The node as its constructor begins, with the runtime that an earlier node has left. -/
def RobotTrackNode.new {σ I : Type} (cfg : NodeConfig) (estimator : σ)
    (runtime : FollowDistanceRuntime) (clock : ℚ) : RobotTrackNode σ I where
  mux := {
    selectedSource := cfg.selectedSource
    maxAgeS := cfg.sourceMaxAgeS
    maxAge_pos := cfg.sourceMaxAge_pos }
  worker := .new estimator
  runtime := { runtime with measurement := none }
  clock := clock

end UnitreeGo2.RobotTrack
