import Mathlib.Logic.Function.Basic
import UnitreeGo2.Lib.Machine
import UnitreeGo2.StagedNav2.GoalClaim

/-!
# The guard of a staged navigation session

`StagedNav2Guard` follows one navigation goal: it waits for a claim that matches the permit
and for an active goal with the claimed UUID, asks the chassis to arm, holds zero until the
chassis is measured armed, and then forwards bounded velocities.  Every method answers with
a decision or raises an exception, and leaves a next state in both cases.

Times, positions and velocities are exact rationals; an argument that the source checks with
`math.isfinite` is what a float may hold.
-/

namespace UnitreeGo2.StagedNav2

inductive Phase where
  | disabled
  | idle
  | pendingArm
  | armed
  | complete
  | fault
  deriving DecidableEq, Repr

/-- The fields of `StageLimits` that the guard reads. -/
structure StageLimits where
  maxLinearXMps : ℚ := 0.30
  maxLinearYMps : ℚ := 0
  maxAngularZRps : ℚ := 0.40
  maxLinearAccelMps2 : ℚ := 0.30
  maxAngularAccelRps2 : ℚ := 0.80
  maxDistanceM : ℚ := 0
  commandTimeoutS : ℚ := 0.20
  armResponseTimeoutS : ℚ := 1
  zeroPreambleS : ℚ := 0.60
  chassisReadyTimeoutS : ℚ := 2

/-- The health witnesses. -/
inductive Witness where
  | state
  | odom
  | tf
  | scan
  | localization
  | goalStatus
  | goalClaim
  | map
  | mapLifecycle
  | ownership
  | chassis
  deriving DecidableEq, Repr

namespace Witness

/-- The keys of `FRESHNESS_LIMIT_S`, in order. -/
def all : List Witness :=
  [state, odom, tf, scan, localization, goalStatus, goalClaim, map, mapLifecycle, ownership,
    chassis]

def name : Witness → String
  | state => "state"
  | odom => "odom"
  | tf => "tf"
  | scan => "scan"
  | localization => "localization"
  | goalStatus => "goal_status"
  | goalClaim => "goal_claim"
  | map => "map"
  | mapLifecycle => "map_lifecycle"
  | ownership => "ownership"
  | chassis => "chassis"

def ofName? (text : String) : Option Witness :=
  all.find? fun w => w.name = text

/-- `FRESHNESS_LIMIT_S`. -/
def freshnessLimitS : Witness → ℚ
  | state => 1
  | odom => 1
  | tf => 1
  | scan => 1.50
  | localization => 0.50
  | goalStatus => 0.50
  | goalClaim => 0.75
  | map => 0.75
  | mapLifecycle => 0.75
  | ownership => 0.75
  | chassis => 1

/-- `SOURCE_STAMP_LIMIT_S`. -/
def sourceStampLimitS : Witness → Option ℚ
  | state => some 0.20
  | odom => some 0.20
  | scan => some 0.25
  | localization => some 0.50
  | _ => none

lemma mem_all (w : Witness) : w ∈ all := by
  cases w <;> decide

@[simp] lemma ofName?_name (w : Witness) : ofName? w.name = some w := by
  cases w <;> rfl

end Witness

def maxSourceFutureS : ℚ := 0.05

def unverifiedGoalTimeoutS : ℚ := 0.50

def maxStartPositionErrorM : ℚ := 0.05

/-- `math.pi`. -/
def mathPi : ℚ := 884279719003555 / 281474976710656

/-- The guard states that the chassis reports. -/
inductive ChassisGuardState where
  | unknown
  | disarmed
  | preparing
  | armed
  | fault
  deriving DecidableEq, Repr

def ChassisGuardState.ofString? (text : String) : Option ChassisGuardState :=
  if text = "DISARMED" then some .disarmed
  else if text = "PREPARING" then some .preparing
  else if text = "ARMED" then some .armed
  else if text = "FAULT" then some .fault
  else none

abbrev Velocity := ℚ × ℚ × ℚ

structure Decision where
  command : Velocity := 0
  requestArm : Bool := false
  requestDisarm : Bool := false
  requestCancel : Bool := false
  reason : String := ""

/-- What the constructor of the guard is given. -/
structure GuardConfig where
  enabled : Bool := false
  stage : String := "stage1"
  limits : StageLimits := {}
  expectedGoal : Option ExpectedGoalClaim := none
  allowedModes : List Int := []
  allowedStateMarkers : List Int := []

/-- The attributes of `StagedNav2Guard` that change. -/
structure StagedNav2Guard where
  phase : Phase
  sessionSpent : Bool := false
  goalId : String := ""
  faultReason : String := ""
  terminalReason : String := ""
  witnesses : Witness → Option ℚ := fun _ => none
  ownershipValid : Bool := false
  mapLifecycle : Option (String × Int) := none
  lockedMapLifecycle : Option (String × Int) := none
  acceptedGoalClaim : Option AcceptedGoalClaim := none
  goalClaimSeen : Bool := false
  unverifiedGoalId : String := ""
  unverifiedGoalAt : Option ℚ := none
  chassisGuardState : ChassisGuardState := .unknown
  daemonArmed : Bool := false
  odomXy : Option (ℚ × ℚ) := none
  localizationXy : Option (ℚ × ℚ) := none
  localizationYaw : Option ℚ := none
  lastDistanceXy : Option (ℚ × ℚ) := none
  distanceTraveledM : ExtRat := 0
  armRequestedAt : Option ℚ := none
  armServiceAccepted : Bool := false
  armedAt : Option ℚ := none
  lastCommandAt : Option ℚ := none
  lastOutputAt : Option ℚ := none
  lastOutput : Velocity := 0

/-- What a method of the guard answers, and the guard after it. -/
abbrev Outcome := Except Raised Decision × StagedNav2Guard

namespace StagedNav2Guard

/-! ## The constructor -/

def inRange (minimum maximum : Int) (values : List Int) : Bool :=
  values.all fun value => minimum ≤ value && value ≤ maximum

/-- A guard that has not been called yet. -/
def fresh (config : GuardConfig) : StagedNav2Guard :=
  { phase := if config.enabled then .idle else .disabled }

/-- `__init__`. -/
def init (config : GuardConfig) : Except Raised StagedNav2Guard :=
  if config.stage ≠ "stage1" then
    .error (.guardError ("unsupported staged Nav2 stage: '" ++ config.stage ++ "'"))
  else if config.enabled ∧ (config.expectedGoal = none ∨ config.allowedModes = []) then
    .error (.guardError "enabled staged guard requires goal and audited mode claims")
  else if !inRange 0 254 config.allowedModes then
    .error (.guardError "allowed modes must be uint8 values below 255")
  else if !inRange 1 0xFFFFFFFF config.allowedStateMarkers then
    .error (.guardError "allowed state markers must be non-zero uint32 values")
  else if ¬ config.allowedModes.Nodup ∨ ¬ config.allowedStateMarkers.Nodup then
    .error (.guardError "audited state claims must not contain duplicates")
  else .ok (fresh config)

/-! ## Helpers -/

/-- `first or second` for strings. -/
def orElse (first second : String) : String :=
  if first = "" then second else first

def answer (decision : Decision) (g : StagedNav2Guard) : Outcome :=
  (.ok decision, g)

/-- `bool(self.goal_id or self._unverified_goal_id)`. -/
def hasGoal (g : StagedNav2Guard) : Bool :=
  g.goalId ≠ "" || g.unverifiedGoalId ≠ ""

/-- The state after `_trip`. -/
def tripped (reason : String) (g : StagedNav2Guard) : StagedNav2Guard :=
  let g :=
    if g.phase ≠ .fault then
      { g with phase := .fault, faultReason := reason, terminalReason := reason }
    else g
  { g with sessionSpent := true, lastOutput := 0 }

/-- `_trip`. -/
def trip (reason : String) (g : StagedNav2Guard) : Outcome :=
  let g := g.tripped reason
  answer { requestDisarm := true
           requestCancel := g.hasGoal
           reason := orElse g.faultReason reason } g

/-- `_complete`. -/
def complete (reason : String) (cancel : Bool) (g : StagedNav2Guard) : Outcome :=
  answer { requestDisarm := true, requestCancel := cancel, reason := reason }
    { g with
      phase := .complete, terminalReason := reason, sessionSpent := true, lastOutput := 0 }

def setWitness (w : Witness) (observed : Option ℚ) (g : StagedNav2Guard) : StagedNav2Guard :=
  { g with witnesses := Function.update g.witnesses w observed }

/-- Whether the guard is arming or armed. -/
def isActive (g : StagedNav2Guard) : Bool :=
  g.phase = .pendingArm || g.phase = .armed

/-- `_finite_time`, and the rest of the method on the time. -/
def withTime (nowS : ExtRat) (method : ℚ → StagedNav2Guard → Outcome) (g : StagedNav2Guard) :
    Outcome :=
  match nowS with
  | .fin t =>
    if t < 0 then
      (.error (.guardError "monotonic time must be a finite non-negative time"), g)
    else method t g
  | _ => (.error (.guardError "monotonic time must be a finite non-negative time"), g)

/-- The reason to reject an invalid witness, which trips an active guard. -/
def reject (reason : String) (g : StagedNav2Guard) : Outcome :=
  if g.isActive then g.trip reason else answer { reason := reason } g

variable (lib : Library) (config : GuardConfig)

/-- `_start_position_matches`. -/
def startPositionMatches (g : StagedNav2Guard) : Bool :=
  match config.expectedGoal, g.localizationXy with
  | some expected, some (x, y) =>
    let errorM := lib.hypot (x - expected.startXM) (y - expected.startYM)
    errorM.isFinite && errorM.le (.fin maxStartPositionErrorM)
  | _, _ => false

/-- The reason why one witness is stale.  The difference of two times is finite. -/
def witnessReason (nowS : ℚ) (g : StagedNav2Guard) (w : Witness) : Option String :=
  if w = .goalStatus ∨ w = .goalClaim then none
  else if (w = .scan ∨ w = .localization) ∧ g.isActive then none
  else
    match g.witnesses w with
    | none => some (w.name ++ "_missing")
    | some observed =>
      let age := nowS - observed
      if age < 0 ∨ age > w.freshnessLimitS then some (w.name ++ "_stale") else none

/-- `_stale_reason`. -/
def staleReason (nowS : ℚ) (g : StagedNav2Guard) : Option String :=
  match Witness.all.findSome? (g.witnessReason nowS) with
  | some reason => some reason
  | none => if g.ownershipValid then none else some "command_ownership_mismatch"

/-! ## Health observations -/

/-- Whether a source age may refresh a witness. -/
def sourceAgeValid (w : Witness) (age : ExtRat) : Bool :=
  match w.sourceStampLimitS with
  | none => false
  | some maximum => age.isFinite && -maxSourceFutureS ≤ age.toRat && age.toRat ≤ maximum

/-- `observe` at a known witness and a valid time. -/
def observeAt (w : Witness) (sourceAgeS : Option ExtRat) (nowS : ℚ) (g : StagedNav2Guard) :
    Outcome :=
  if sourceAgeS.all (sourceAgeValid w) then
    answer { reason := w.name ++ "_fresh" } (g.setWitness w (some nowS))
  else if w = .scan ∨ w = .localization then
    answer { reason := w.name ++ "_delegated_to_nav2" } (g.setWitness w none)
  else (g.setWitness w none).reject (w.name ++ "_source_stamp_invalid")

def observe (name : String) (nowS : ExtRat) (sourceAgeS : Option ExtRat)
    (g : StagedNav2Guard) : Outcome :=
  match Witness.ofName? name with
  | none => (.error (.guardError ("unknown guard witness: " ++ name)), g)
  | some w => g.withTime nowS (observeAt w sourceAgeS)

/-- The distance traveled by an armed guard, whose last position is known. -/
def addDistance (x y lastX lastY : ℚ) (decision : Decision) (g : StagedNav2Guard) : Outcome :=
  let stepM := lib.hypot (x - lastX) (y - lastY)
  let g := { g with
    lastDistanceXy := some (x, y)
    distanceTraveledM := g.distanceTraveledM.add stepM }
  if !stepM.isFinite || !g.distanceTraveledM.isFinite ||
      (config.limits.maxDistanceM > 0 &&
        g.distanceTraveledM.toRat ≥ config.limits.maxDistanceM) then
    g.trip "stage_distance_limit"
  else answer decision g

def observeOdom (nowS xM yM : ExtRat) (sourceAgeS : Option ExtRat) (g : StagedNav2Guard) :
    Outcome :=
  match xM, yM with
  | .fin x, .fin y =>
    match g.observe "odom" nowS sourceAgeS with
    | (.error e, g) => (.error e, g)
    | (.ok result, g) =>
      if g.phase = .fault then answer result g
      else
        let g := { g with odomXy := some (x, y) }
        match g.phase, g.lastDistanceXy with
        | .armed, some (lastX, lastY) => g.addDistance lib config x y lastX lastY result
        | _, _ => answer result g
  | _, _ => g.trip "odom_pose_non_finite"

/-- Whether a firmware mode and a state marker are audited. -/
def stateValid (mode errorCode : PyValue) : Bool :=
  match mode.exactInt?, errorCode.exactInt? with
  | some mode, some errorCode =>
    mode ∈ config.allowedModes && (errorCode = 0 || errorCode ∈ config.allowedStateMarkers)
  | _, _ => false

def observeState (nowS : ExtRat) (mode errorCode : PyValue) (sourceAgeS : Option ExtRat)
    (g : StagedNav2Guard) : Outcome :=
  if !stateValid config mode errorCode then
    (g.setWitness .state none).reject "state_mode_or_marker_mismatch"
  else g.observe "state" nowS sourceAgeS

/-- The payload of a laser scan. -/
structure LaserScan where
  frameId : String
  angleMin : ExtRat
  angleMax : ExtRat
  angleIncrement : ExtRat
  rangeMin : ExtRat
  rangeMax : ExtRat
  ranges : List ExtRat

def scanValid (scan : LaserScan) : Bool :=
  let validRanges := scan.ranges.filter fun value =>
    value.isFinite && scan.rangeMin.le value && value.le scan.rangeMax
  lib.strip scan.frameId ≠ "" &&
    [scan.angleMin, scan.angleMax, scan.angleIncrement, scan.rangeMin, scan.rangeMax].all
      ExtRat.isFinite &&
    scan.angleIncrement.toRat > 0 && scan.angleMax.toRat > scan.angleMin.toRat &&
    0 ≤ scan.rangeMin.toRat && scan.rangeMin.toRat < scan.rangeMax.toRat &&
    scan.ranges ≠ [] && validRanges ≠ []

def observeScan (nowS : ExtRat) (scan : LaserScan) (sourceAgeS : Option ExtRat)
    (g : StagedNav2Guard) : Outcome :=
  if !scanValid lib scan then
    answer { reason := "scan_delegated_to_nav2" } (g.setWitness .scan none)
  else g.observe "scan" nowS sourceAgeS

/-- A map pose that `observe_localization` tracks. -/
def localizationValid (frameId : String) (xM yM yawRad : ExtRat) : Bool :=
  frameId = "map" && xM.isFinite && yM.isFinite && yawRad.isFinite &&
    -mathPi ≤ yawRad.toRat && yawRad.toRat ≤ mathPi

def observeLocalization (nowS : ExtRat) (frameId : String) (xM yM yawRad : ExtRat)
    (sourceAgeS : Option ExtRat) (g : StagedNav2Guard) : Outcome :=
  if !localizationValid frameId xM yM yawRad then
    answer { reason := "localization_delegated_to_nav2" } (g.setWitness .localization none)
  else
    let g := { g with
      localizationXy := some (xM.toRat, yM.toRat)
      localizationYaw := some yawRad.toRat }
    match g.observe "localization" nowS sourceAgeS with
    | (.error e, g) => (.error e, g)
    | (.ok result, g) =>
      if g.phase = .pendingArm && !g.startPositionMatches lib config then
        g.trip "localization_left_permitted_start_before_arm"
      else answer result g

def expectedControllerNode : String := "/velocity_smoother"

def guardNode : String := "/go2_staged_nav2_motion_guard"

def expectedChassisNode : String := "/go2_chassis_adapter"

def expectedGoalDispatchNode : String := "/go2_staged_nav2_goal_dispatch"

def observeOwnership (nowS : ExtRat) (controllerPublishers outputPublishers
    chassisSubscribers : List String) (canonicalPublishers : Int) :
    StagedNav2Guard → Outcome :=
  withTime nowS fun t g =>
    let valid : Bool := controllerPublishers = [expectedControllerNode] &&
      outputPublishers = [guardNode] && chassisSubscribers = [expectedChassisNode] &&
      canonicalPublishers = 0
    let g := { g with ownershipValid := valid }
    if !valid then (g.setWitness .ownership none).reject "command_ownership_mismatch"
    else answer { reason := "command_ownership_fresh" } (g.setWitness .ownership (some t))

/-- The identity that a map lifecycle message names, if it is valid. -/
def lifecycleIdentity (mapId mode : String) (generation : PyValue) : Option (String × Int) :=
  match generation.exactInt? with
  | some generation =>
    if lib.strip mapId = "" ∨ lib.lower (lib.strip mode) ≠ "localization" ∨ generation ≤ 0 then
      none
    else some (lib.strip mapId, generation)
  | none => none

def observeMapLifecycle (nowS : ExtRat) (mapId mode : String) (generation : PyValue) :
    StagedNav2Guard → Outcome :=
  withTime nowS fun t g =>
    match lifecycleIdentity lib mapId mode generation with
    | none => (g.setWitness .mapLifecycle none).reject "map_lifecycle_invalid"
    | some current =>
      if config.expectedGoal.any fun expected =>
          current ≠ (expected.mapId, expected.generation) then
        (g.setWitness .mapLifecycle none).reject "map_lifecycle_does_not_match_goal_permit"
      else if g.lockedMapLifecycle.any fun locked => current ≠ locked then
        g.trip "map_lifecycle_changed"
      else
        answer { reason := "map_lifecycle_fresh" }
          (setWitness .mapLifecycle (some t) { g with mapLifecycle := some current })

def motionProfile : String := "workstation-staged-nav2-corrected-v1"

/-- What the adapter reports about the chassis. -/
structure ChassisStatus where
  guardState : String
  daemonArmed : PyValue
  motionConfigured : PyValue
  motionProfile : String
  odomSource : String

/-- The measured state of a status with the exact profile. -/
def chassisMeasured (status : ChassisStatus) : Option (ChassisGuardState × Bool) :=
  match ChassisGuardState.ofString? (lib.upper (lib.strip status.guardState)),
    status.daemonArmed.exactBool? with
  | some guardState, some daemonArmed =>
    if status.motionConfigured.exactBool? = some true ∧
        status.motionProfile = motionProfile ∧ status.odomSource = "external_verified" then
      some (guardState, daemonArmed)
    else none
  | _, _ => none

/-- Whether a measured armed chassis ends the zero hold. -/
def zeroHoldOver (t : ℚ) (guardState : ChassisGuardState) (daemonArmed : Bool)
    (g : StagedNav2Guard) : Bool :=
  match g.armRequestedAt with
  | some requestedAt =>
    g.armServiceAccepted && t - requestedAt ≥ config.limits.zeroPreambleS &&
      guardState = .armed && daemonArmed
  | none => false

def observeChassisStatus (nowS : ExtRat) (status : ChassisStatus) :
    StagedNav2Guard → Outcome :=
  withTime nowS fun t g =>
    match chassisMeasured lib status with
    | none => (g.setWitness .chassis none).reject "chassis_status_or_profile_invalid"
    | some (guardState, daemonArmed) =>
      let g := setWitness .chassis (some t)
        { g with chassisGuardState := guardState, daemonArmed := daemonArmed }
      if guardState = .fault then g.trip "chassis_fault"
      else if g.phase = .armed then
        if guardState ≠ .armed ∨ !daemonArmed then g.trip "chassis_left_armed_state"
        else answer { reason := "chassis_status_fresh" } g
      else if g.phase = .pendingArm then
        if zeroHoldOver config t guardState daemonArmed g then
          if !g.startPositionMatches lib config then
            g.trip "chassis_armed_outside_permitted_start_position"
          else
            answer { reason := "chassis_measured_armed_after_zero_hold" }
              { g with
                phase := .armed
                armedAt := some t
                lastCommandAt := some t
                lastOutputAt := some t
                lastOutput := 0 }
        else if daemonArmed && guardState ≠ .armed then
          g.trip "daemon_armed_without_chassis_armed"
        else answer { reason := "chassis_status_fresh" } g
      else answer { reason := "chassis_status_fresh" } g

/-! ## Goals -/

/-- `_start_bound_goal_if_ready`. -/
def startBoundGoalIfReady (t : ℚ) (g : StagedNav2Guard) : Outcome :=
  if g.phase ≠ .idle ∨ g.goalId = "" then g.trip "bound_goal_start_state_invalid"
  else
    match g.staleReason t with
    | some stale => answer { reason := "goal_waiting_for_" ++ stale } g
    | none =>
      if g.odomXy = none then g.trip "goal_started_without_odom_pose"
      else if !g.startPositionMatches lib config then
        g.trip "goal_started_outside_permitted_start_position"
      else if g.mapLifecycle = none then g.trip "goal_started_without_map_lifecycle"
      else if g.chassisGuardState ≠ .disarmed ∨ g.daemonArmed then
        g.trip "goal_started_while_chassis_not_disarmed"
      else
        answer { requestArm := true, reason := "goal_active_request_arm" }
          { g with
            sessionSpent := true
            phase := .pendingArm
            armRequestedAt := some t
            armServiceAccepted := false
            lastDistanceXy := g.odomXy
            distanceTraveledM := 0
            lockedMapLifecycle := g.mapLifecycle
            lastCommandAt := none
            lastOutputAt := some t
            lastOutput := 0 }

/-- `begin_goal`. -/
def beginGoal (goalId : String) (t : ℚ) (g : StagedNav2Guard) : Outcome :=
  if g.phase = .disabled then
    answer { requestDisarm := true, requestCancel := true, reason := "profile_disabled" } g
  else if g.phase = .fault then
    answer { requestDisarm := true
             requestCancel := true
             reason := orElse g.faultReason "fault_latched" } g
  else if g.phase ≠ .idle ∨ g.sessionSpent then g.trip "staged_session_is_one_goal_only"
  else if goalId = "" ∨ goalId.length > 128 then g.trip "goal_id_invalid"
  else
    let g := { g with goalId := goalId }
    match g.acceptedGoalClaim with
    | none => g.trip "goal_claim_missing"
    | some claim =>
      if goalId ≠ claim.goalUuid then g.trip "active_goal_not_bound_to_claim"
      else
        startBoundGoalIfReady lib config t
          { g with unverifiedGoalId := "", unverifiedGoalAt := none }

/-- What follows the acceptance of a claim. -/
def claimAccepted (t : ℚ) (claim : AcceptedGoalClaim) (g : StagedNav2Guard) : Outcome :=
  if g.unverifiedGoalId = "" then answer { reason := "goal_claim_accepted" } g
  else if claim.goalUuid ≠ g.unverifiedGoalId then g.trip "goal_claim_uuid_mismatch"
  else g.beginGoal lib config claim.goalUuid t

def observeGoalClaim (nowS : ExtRat) (payload : PyValue) (publisherNodes : List String) :
    StagedNav2Guard → Outcome :=
  withTime nowS fun t g =>
    if publisherNodes ≠ [] ∧ publisherNodes ≠ [expectedGoalDispatchNode] then
      g.trip "goal_claim_owner_missing_or_ambiguous"
    else
      match config.expectedGoal with
      | none => g.trip "goal_permit_claims_missing"
      | some expected =>
        if g.goalClaimSeen then g.trip "second_goal_claim"
        else
          let g := { g with goalClaimSeen := true }
          match validateGoalClaim lib payload expected with
          | .error .overflowError => (.error .overflowError, g)
          | .error (.guardError _) => g.trip "goal_claim_mismatch"
          | .ok claim =>
            claimAccepted lib config t claim
              (setWitness .goalClaim (some t) { g with acceptedGoalClaim := some claim })

/-- `refresh_goal_claim`, which does not look at its publishers. -/
def refreshGoalClaim (nowS : ExtRat) : StagedNav2Guard → Outcome :=
  withTime nowS fun t g =>
    if g.acceptedGoalClaim = none then
      answer { reason := "goal_claim_missing" } (g.setWitness .goalClaim none)
    else answer { reason := "goal_claim_bound_static" } (g.setWitness .goalClaim (some t))

def activeStatuses : List String := ["accepted", "executing"]

def terminalSuccessStatuses : List String := ["succeeded"]

def terminalCancelStatuses : List String := ["canceling", "canceled"]

def terminalFailureStatuses : List String := ["aborted", "unknown"]

/-- The reports of an action server with normalised statuses. -/
def normalized (statuses : List (String × String)) : List (String × String) :=
  statuses.map fun entry => (entry.1, lib.lower entry.2)

/-- The entries of a report that are active. -/
def activeEntries (statuses : List (String × String)) : List (String × String) :=
  (normalized lib statuses).filter fun entry => entry.2 ∈ activeStatuses

/-- The statuses of the bound goal. -/
def currentStatuses (statuses : List (String × String)) (goalId : String) : List String :=
  ((normalized lib statuses).filter fun entry => entry.1 = goalId).map Prod.snd

/-- The rest of `observe_goal_statuses` when a goal is bound. -/
def observeBoundGoal (statuses : List (String × String)) (g : StagedNav2Guard) : Outcome :=
  match currentStatuses lib statuses g.goalId with
  | [current] =>
    if current ∈ terminalFailureStatuses then g.trip "nav2_goal_failed"
    else if current ∈ terminalCancelStatuses then g.complete "nav2_goal_canceled" true
    else if current ∈ terminalSuccessStatuses then g.complete "nav2_goal_succeeded" false
    else if (activeEntries lib statuses).head?.any fun entry => entry.1 ≠ g.goalId then
      g.trip "active_goal_identity_changed"
    else answer { reason := "active_goal_status_fresh" } g
  | _ => g.trip "bound_nav2_goal_status_missing_or_ambiguous"

/-- The rest of `observe_goal_statuses` when no goal is bound. -/
def observeUnboundGoal (statuses : List (String × String)) (t : ℚ) (g : StagedNav2Guard) :
    Outcome :=
  if (normalized lib statuses).any fun entry => entry.2 ∈ terminalCancelStatuses then
    g.complete "nav2_cancel_without_arm" true
  else
    match activeEntries lib statuses with
    | [] => answer { reason := "no_active_goal" } g
    | (goalId, _) :: _ =>
      if g.acceptedGoalClaim = none then
        if g.unverifiedGoalId ≠ "" ∧ g.unverifiedGoalId ≠ goalId then
          g.trip "second_unverified_active_goal"
        else
          let g :=
            if g.unverifiedGoalId = "" then
              { g with unverifiedGoalId := goalId, unverifiedGoalAt := some t }
            else g
          answer { reason := "active_goal_waiting_for_exact_claim" } g
      else g.beginGoal lib config goalId t

def observeGoalStatuses (nowS : ExtRat) (statuses : List (String × String)) :
    StagedNav2Guard → Outcome :=
  withTime nowS fun t g =>
    let g := g.setWitness .goalStatus (some t)
    if (activeEntries lib statuses).length > 1 then g.trip "multiple_active_nav2_goals"
    else if g.goalId ≠ "" then g.observeBoundGoal lib statuses
    else g.observeUnboundGoal lib config statuses t

/-! ## Arming and motion -/

def confirmArm (success : Bool) (nowS : ExtRat) : StagedNav2Guard → Outcome :=
  withTime nowS fun t g =>
    if g.phase ≠ .pendingArm then g.trip "unexpected_arm_response"
    else if !success then g.trip "chassis_arm_rejected"
    else
      match g.staleReason t with
      | some stale => g.trip ("arm_completed_with_" ++ stale)
      | none =>
        if !g.startPositionMatches lib config then
          g.trip "arm_completed_outside_permitted_start_position"
        else
          answer { reason := "chassis_prepare_acknowledged_zero_hold" }
            { g with armServiceAccepted := true }

/-- `_hold_zero_for_command_gap`. -/
def holdZeroForCommandGap (t : ℚ) (g : StagedNav2Guard) : StagedNav2Guard :=
  { g with lastCommandAt := none, lastOutputAt := some t, lastOutput := 0 }

/-- `_slew`. -/
def slew (target previous delta : ℚ) : ℚ :=
  min (max target (previous - delta)) (previous + delta)

/-- The output that a command slews to. -/
def slewOutput (linearX angularZ deltaS : ℚ) (previous : Velocity) : Velocity :=
  (slew linearX previous.1 (config.limits.maxLinearAccelMps2 * deltaS), 0,
    slew angularZ previous.2.2 (config.limits.maxAngularAccelRps2 * deltaS))

/-- The end of `command`: the output clock and the slewed output. -/
def forward (t linearX angularZ : ℚ) (g : StagedNav2Guard) : Outcome :=
  match g.lastOutputAt with
  | none => g.trip "output_clock_missing"
  | some previousAt =>
    if t - previousAt < 0 then g.trip "output_clock_regressed"
    else
      let output := slewOutput config linearX angularZ (t - previousAt) g.lastOutput
      answer { command := output, reason := "command_forwarded" }
        { g with lastCommandAt := some t, lastOutputAt := some t, lastOutput := output }

/-- The checks of `command` on the age of the previous command. -/
def forwardAfterGap (t linearX angularZ : ℚ) (g : StagedNav2Guard) : Outcome :=
  match g.lastCommandAt with
  | none => g.forward config t linearX angularZ
  | some last =>
    if t - last < 0 then g.trip "command_clock_invalid"
    else if t - last > config.limits.commandTimeoutS then
      (g.holdZeroForCommandGap t).forward config t linearX angularZ
    else g.forward config t linearX angularZ

/-- `command` on finite values. -/
def commandFinite (linearX linearY angularZ t : ℚ) (g : StagedNav2Guard) : Outcome :=
  if g.phase ≠ .armed then
    answer { requestDisarm := g.phase = .fault || g.phase = .complete
             requestCancel := g.phase = .fault
             reason := "command_while_not_armed" } g
  else
    match g.staleReason t with
    | some stale => g.trip stale
    | none =>
      if linearX < 0 ∨ linearX > config.limits.maxLinearXMps then
        g.trip "linear_x_outside_stage_envelope"
      else if |linearY| > config.limits.maxLinearYMps then
        g.trip "linear_y_outside_stage_envelope"
      else if |angularZ| > config.limits.maxAngularZRps then
        g.trip "angular_z_outside_stage_envelope"
      else if g.armedAt = none then g.trip "stage_duration_limit"
      else g.forwardAfterGap config t linearX angularZ

def command (nowS linearXMps linearYMps angularZRps : ExtRat) : StagedNav2Guard → Outcome :=
  withTime nowS fun t g =>
    match linearXMps, linearYMps, angularZRps with
    | .fin linearX, .fin linearY, .fin angularZ =>
      g.commandFinite config linearX linearY angularZ t
    | _, _, _ => g.trip "command_non_finite"

/-- `tick` while the arming is pending. -/
def tickPending (t : ℚ) (g : StagedNav2Guard) : Outcome :=
  match g.armRequestedAt with
  | none => g.trip "chassis_arm_clock_missing"
  | some requestedAt =>
    if !g.armServiceAccepted && t - requestedAt > config.limits.armResponseTimeoutS then
      g.trip "chassis_arm_response_timeout"
    else if g.armServiceAccepted && t - requestedAt > config.limits.chassisReadyTimeoutS then
      g.trip "chassis_measured_arm_timeout"
    else
      match g.staleReason t with
      | some stale => g.trip stale
      | none => answer { reason := "pending_arm" } g

/-- `tick` while the guard is armed. -/
def tickArmed (t : ℚ) (g : StagedNav2Guard) : Outcome :=
  match g.staleReason t with
  | some stale => g.trip stale
  | none =>
    if g.armedAt = none then g.trip "stage_duration_limit"
    else
      match g.lastCommandAt with
      | none =>
        answer { reason := "armed_waiting_for_controller_command" } (g.holdZeroForCommandGap t)
      | some last =>
        if t - last < 0 then g.trip "command_clock_invalid"
        else if t - last > config.limits.commandTimeoutS then
          answer { reason := "command_timeout_zero_hold" } (g.holdZeroForCommandGap t)
        else answer { reason := "armed_healthy" } g

/-- `tick` while the guard is idle. -/
def tickIdle (t : ℚ) (g : StagedNav2Guard) : Outcome :=
  if g.unverifiedGoalId ≠ "" then
    if g.unverifiedGoalAt.all fun at' => t - at' > unverifiedGoalTimeoutS then
      trip "active_goal_claim_timeout" { g with goalId := g.unverifiedGoalId }
    else answer { reason := "waiting_for_exact_goal_claim" } g
  else if g.goalId ≠ "" then g.startBoundGoalIfReady lib config t
  else answer { reason := "idle_zero" } g

def tick (nowS : ExtRat) : StagedNav2Guard → Outcome :=
  withTime nowS fun t g =>
    match g.phase with
    | .fault =>
      answer { requestDisarm := true
               requestCancel := g.hasGoal
               reason := orElse g.faultReason "fault_latched" } g
    | .complete => answer { requestDisarm := true, reason := "session_complete" } g
    | .idle => g.tickIdle lib config t
    | .pendingArm => g.tickPending config t
    | .armed => g.tickArmed config t
    | .disabled => answer { reason := "idle_zero" } g

end StagedNav2Guard

/-! ## The guard as a machine -/

/-- The calls that the node makes on its guard. -/
inductive Operation where
  | observe (name : String) (nowS : ExtRat) (sourceAgeS : Option ExtRat)
  | observeOdom (nowS xM yM : ExtRat) (sourceAgeS : Option ExtRat)
  | observeState (nowS : ExtRat) (mode errorCode : PyValue) (sourceAgeS : Option ExtRat)
  | observeScan (nowS : ExtRat) (scan : StagedNav2Guard.LaserScan) (sourceAgeS : Option ExtRat)
  | observeLocalization (nowS : ExtRat) (frameId : String) (xM yM yawRad : ExtRat)
      (sourceAgeS : Option ExtRat)
  | observeOwnership (nowS : ExtRat) (controllerPublishers outputPublishers
      chassisSubscribers : List String) (canonicalPublishers : Int)
  | observeMapLifecycle (nowS : ExtRat) (mapId mode : String) (generation : PyValue)
  | observeChassisStatus (nowS : ExtRat) (status : StagedNav2Guard.ChassisStatus)
  | observeGoalClaim (nowS : ExtRat) (payload : PyValue) (publisherNodes : List String)
  | refreshGoalClaim (nowS : ExtRat)
  | observeGoalStatuses (nowS : ExtRat) (statuses : List (String × String))
  | confirmArm (success : Bool) (nowS : ExtRat)
  | command (nowS linearXMps linearYMps angularZRps : ExtRat)
  | tick (nowS : ExtRat)
  | disconnect (reason : String)
  | shutdown

/-- The time that a call is given. -/
def Operation.nowS? : Operation → Option ExtRat
  | .observe _ nowS _ => some nowS
  | .observeOdom nowS _ _ _ => some nowS
  | .observeState nowS _ _ _ => some nowS
  | .observeScan nowS _ _ => some nowS
  | .observeLocalization nowS _ _ _ _ _ => some nowS
  | .observeOwnership nowS _ _ _ _ => some nowS
  | .observeMapLifecycle nowS _ _ _ => some nowS
  | .observeChassisStatus nowS _ => some nowS
  | .observeGoalClaim nowS _ _ => some nowS
  | .refreshGoalClaim nowS => some nowS
  | .observeGoalStatuses nowS _ => some nowS
  | .confirmArm _ nowS => some nowS
  | .command nowS _ _ _ => some nowS
  | .tick nowS => some nowS
  | .disconnect _ => none
  | .shutdown => none

open StagedNav2Guard in
/-- One call on the guard. -/
def perform (lib : Library) (config : GuardConfig) (op : Operation) (g : StagedNav2Guard) :
    Outcome :=
  match op with
  | .observe name nowS sourceAgeS => g.observe name nowS sourceAgeS
  | .observeOdom nowS xM yM sourceAgeS => g.observeOdom lib config nowS xM yM sourceAgeS
  | .observeState nowS mode errorCode sourceAgeS =>
    g.observeState config nowS mode errorCode sourceAgeS
  | .observeScan nowS scan sourceAgeS => g.observeScan lib nowS scan sourceAgeS
  | .observeLocalization nowS frameId xM yM yawRad sourceAgeS =>
    g.observeLocalization lib config nowS frameId xM yM yawRad sourceAgeS
  | .observeOwnership nowS controllers outputs chassis canonical =>
    observeOwnership nowS controllers outputs chassis canonical g
  | .observeMapLifecycle nowS mapId mode generation =>
    observeMapLifecycle lib config nowS mapId mode generation g
  | .observeChassisStatus nowS status => observeChassisStatus lib config nowS status g
  | .observeGoalClaim nowS payload publisherNodes =>
    observeGoalClaim lib config nowS payload publisherNodes g
  | .refreshGoalClaim nowS => refreshGoalClaim nowS g
  | .observeGoalStatuses nowS statuses => observeGoalStatuses lib config nowS statuses g
  | .confirmArm success nowS => confirmArm lib config success nowS g
  | .command nowS linearX linearY angularZ => command config nowS linearX linearY angularZ g
  | .tick nowS => tick lib config nowS g
  | .disconnect reason => g.trip reason
  | .shutdown => g.trip "shutdown"

/-- The machine of a guard. -/
def guardMachine (lib : Library) (config : GuardConfig) :
    Machine StagedNav2Guard Operation (Except Raised Decision) where
  step g op := perform lib config op g

end UnitreeGo2.StagedNav2
