import UnitreeGo2.Lib.DeadZone
import UnitreeGo2.RobotTrack.SourceMux
import Mathlib.Data.Rat.Floor

/-!
# The fixed-distance control law

The controller replaces the longitudinal velocity of a RobotTrack command by one that brings the
measured distance of the target to the requested one, and stops where it has no distance it can
trust.  Arithmetic on finite floats is exact.
-/

namespace UnitreeGo2.RobotTrack

/-! ## Floats from outside -/

/-- A value where a float is expected. -/
inductive FloatInput where
  | number (value : ExtRat)
  | boolean (value : Bool)
  /-- `float()` refuses the value, with the text of its `TypeError` or `ValueError`. -/
  | refused (error : String)
  deriving DecidableEq

/-- `_finite_float`. -/
def finiteFloat (value : FloatInput) (name : String) : Except String ℚ :=
  match value with
  | .number (.fin x) => .ok x
  | .refused error => .error error
  | _ => .error s!"{name} must be a finite number"

/-- The nearest integer; of two, the even one. -/
def roundHalfEven (x : ℚ) : ℤ :=
  let rest := x - ⌊x⌋
  if rest < 1 / 2 ∨ (rest = 1 / 2 ∧ ⌊x⌋ % 2 = 0) then ⌊x⌋ else ⌊x⌋ + 1

/-- The format `.2f`. -/
def fixed2 (x : ℚ) : String :=
  let cents := (roundHalfEven (100 * |x|)).toNat
  let digits := if cents % 100 < 10 then s!"0{cents % 100}" else s!"{cents % 100}"
  (if x < 0 then "-" else "") ++ s!"{cents / 100}." ++ digits

/-- The format `+.2f`. -/
def signedFixed2 (x : ℚ) : String := (if x < 0 then "" else "+") ++ fixed2 x

/-! ## The configuration -/

/-- `DistanceControlConfig` as it is given, with its defaults. -/
structure DistanceControlFields where
  enabled : Option Bool := some false
  targetDistanceM : FloatInput := .number (.fin 5)
  deadbandM : FloatInput := .number (.fin (1 / 4))
  kp : FloatInput := .number (.fin (1 / 4))
  maxForwardMps : FloatInput := .number (.fin (1 / 2))
  maxReverseMps : FloatInput := .number (.fin 0)
  maxMeasurementAgeS : FloatInput := .number (.fin (1 / 2))
  minConfidence : FloatInput := .number (.fin (1 / 2))

/-- A configuration that its validation accepts. -/
structure DistanceControlConfig where
  enabled : Bool
  targetDistanceM : ℚ
  deadbandM : ℚ
  kp : ℚ
  maxForwardMps : ℚ
  maxReverseMps : ℚ
  maxMeasurementAgeS : ℚ
  minConfidence : ℚ
  target_pos : 0 < targetDistanceM
  deadband_nonneg : 0 ≤ deadbandM
  kp_pos : 0 < kp
  maxForward_nonneg : 0 ≤ maxForwardMps
  maxReverse_nonneg : 0 ≤ maxReverseMps
  maxAge_pos : 0 < maxMeasurementAgeS
  minConfidence_mem : 0 ≤ minConfidence ∧ minConfidence ≤ 1

/-- `__post_init__`; an `enabled` that is no `bool` is `none`. -/
def DistanceControlFields.postInit (fields : DistanceControlFields) :
    Except String DistanceControlConfig := do
  let enabled ← fields.enabled.elim (.error "enabled must be a bool") .ok
  let target ← finiteFloat fields.targetDistanceM "target_distance_m"
  let deadband ← finiteFloat fields.deadbandM "deadband_m"
  let kp ← finiteFloat fields.kp "kp"
  let maxForward ← finiteFloat fields.maxForwardMps "max_forward_mps"
  let maxReverse ← finiteFloat fields.maxReverseMps "max_reverse_mps"
  let maxAge ← finiteFloat fields.maxMeasurementAgeS "max_measurement_age_s"
  let minConfidence ← finiteFloat fields.minConfidence "min_confidence"
  if htarget : 0 < target then
    if hdeadband : 0 ≤ deadband then
      if hkp : 0 < kp then
        if hforward : 0 ≤ maxForward then
          if hreverse : 0 ≤ maxReverse then
            if hage : 0 < maxAge then
              if hconfidence : 0 ≤ minConfidence ∧ minConfidence ≤ 1 then
                return ⟨enabled, target, deadband, kp, maxForward, maxReverse, maxAge,
                  minConfidence, htarget, hdeadband, hkp, hforward, hreverse, hage, hconfidence⟩
              else throw "min_confidence must be in [0, 1]"
            else throw "max_measurement_age_s must be greater than zero"
          else throw "max_reverse_mps must be non-negative"
        else throw "max_forward_mps must be non-negative"
      else throw "kp must be greater than zero"
    else throw "deadband_m must be non-negative"
  else throw "target_distance_m must be greater than zero"

/-- `DistanceControlConfig()`. -/
def DistanceControlConfig.default : DistanceControlConfig where
  enabled := false
  targetDistanceM := 5
  deadbandM := 1 / 4
  kp := 1 / 4
  maxForwardMps := 1 / 2
  maxReverseMps := 0
  maxMeasurementAgeS := 1 / 2
  minConfidence := 1 / 2
  target_pos := by norm_num
  deadband_nonneg := by norm_num
  kp_pos := by norm_num
  maxForward_nonneg := by norm_num
  maxReverse_nonneg := le_rfl
  maxAge_pos := by norm_num
  minConfidence_mem := by norm_num

/-! ## The controller -/

structure VelocityCommand where
  vx : ExtRat := 0
  wz : ExtRat := 0
  deriving DecidableEq

structure DistanceMeasurement where
  distanceM : FloatInput
  confidence : FloatInput
  receivedMonotonic : FloatInput
  deriving DecidableEq

inductive DistanceReason where
  | disabledPassthrough
  | inactive
  | noMeasurement
  | invalidDistance
  | invalidConfidence
  | lowConfidence
  | invalidTimestamp
  | futureMeasurement
  | staleMeasurement
  | withinDeadband
  | tooCloseForwardHold
  | trackingDistance
  deriving DecidableEq, Repr

def DistanceReason.text : DistanceReason → String
  | disabledPassthrough => "disabled_passthrough"
  | inactive => "inactive"
  | noMeasurement => "no_measurement"
  | invalidDistance => "invalid_distance"
  | invalidConfidence => "invalid_confidence"
  | lowConfidence => "low_confidence"
  | invalidTimestamp => "invalid_timestamp"
  | futureMeasurement => "future_measurement"
  | staleMeasurement => "stale_measurement"
  | withinDeadband => "within_deadband"
  | tooCloseForwardHold => "too_close_forward_hold"
  | trackingDistance => "tracking_distance"

structure DistanceControlResult where
  command : VelocityCommand
  reason : DistanceReason
  targetDistanceM : ℚ
  measuredDistanceM : Option ℚ := none
  distanceErrorM : Option ℚ := none
  measurementAgeS : Option ℚ := none
  requestedVx : Option ℚ := none
  deriving DecidableEq

/-- The double that `1e-9` stands for. -/
def edgeTolerance : ℚ := 4835703278458517 / 4835703278458516698824704

/-- `math.isclose` of finite values without a relative tolerance. -/
def isclose (a b absTol : ℚ) : Bool := a = b ∨ |b - a| ≤ absTol

/-- `math.copysign`; the sign of an exact zero is that of `+0.0`. -/
def copysign (x y : ℚ) : ℚ := if y < 0 then -|x| else |x|

structure FixedDistanceController where
  config : DistanceControlConfig
  targetDistanceM : ℚ
  target_pos : 0 < targetDistanceM

namespace FixedDistanceController

/-- The constructor. -/
def init (config : DistanceControlConfig) : FixedDistanceController :=
  ⟨config, config.targetDistanceM, config.target_pos⟩

def setTargetDistance (controller : FixedDistanceController) (distanceM : FloatInput) :
    Except String FixedDistanceController := do
  let target ← finiteFloat distanceM "distance_m"
  if h : 0 < target then return ⟨controller.config, target, h⟩
  else throw "distance_m must be greater than zero"

variable (controller : FixedDistanceController)

/-- The part of `apply` after its checks of the measurement. -/
def track (modelCommand : VelocityCommand) (distance age : ℚ) : DistanceControlResult :=
  let config := controller.config
  let target := controller.targetDistanceM
  let stopped : VelocityCommand := { vx := 0, wz := modelCommand.wz }
  let error := distance - target
  if |error| ≤ config.deadbandM ∨ isclose |error| config.deadbandM edgeTolerance then
    ⟨stopped, .withinDeadband, target, some distance, some error, some age, some 0⟩
  else
    let controlledError := copysign (|error| - config.deadbandM) error
    let requestedVx := config.kp * controlledError
    if requestedVx < 0 ∧ config.maxReverseMps = 0 then
      ⟨stopped, .tooCloseForwardHold, target, some distance, some error, some age,
        some requestedVx⟩
    else
      let vx := max (-config.maxReverseMps) (min config.maxForwardMps requestedVx)
      ⟨{ vx := .fin vx, wz := modelCommand.wz }, .trackingDistance, target, some distance,
        some error, some age, some requestedVx⟩

/-- `apply`, where `monotonic` is the time that the clock would give. -/
def apply (modelCommand : VelocityCommand) (measurement : Option DistanceMeasurement)
    (nowMonotonic : Option FloatInput) (monotonic : ℚ) : DistanceControlResult :=
  let config := controller.config
  let target := controller.targetDistanceM
  let stopped : VelocityCommand := { vx := 0, wz := modelCommand.wz }
  if config.enabled = false then
    { command := modelCommand, reason := .disabledPassthrough, targetDistanceM := target }
  else
    match measurement with
    | none => { command := stopped, reason := .noMeasurement, targetDistanceM := target }
    | some measurement =>
      match finiteFloat measurement.distanceM "distance_m" with
      | .error _ => { command := stopped, reason := .invalidDistance, targetDistanceM := target }
      | .ok distance =>
        if distance ≤ 0 then ⟨stopped, .invalidDistance, target, some distance, none, none, none⟩
        else
          match finiteFloat measurement.confidence "confidence" with
          | .error _ => ⟨stopped, .invalidConfidence, target, some distance, none, none, none⟩
          | .ok confidence =>
            if ¬ (0 ≤ confidence ∧ confidence ≤ 1) then
              ⟨stopped, .invalidConfidence, target, some distance, none, none, none⟩
            else if confidence < config.minConfidence then
              ⟨stopped, .lowConfidence, target, some distance, none, none, none⟩
            else
              match finiteFloat measurement.receivedMonotonic "received_monotonic",
                nowMonotonic.elim (.ok monotonic) (finiteFloat · "now_monotonic") with
              | .ok received, .ok current =>
                let age := current - received
                if age < 0 then
                  ⟨stopped, .futureMeasurement, target, some distance, none, some age, none⟩
                else if config.maxMeasurementAgeS < age then
                  ⟨stopped, .staleMeasurement, target, some distance, none, some age, none⟩
                else controller.track modelCommand distance age
              | _, _ => ⟨stopped, .invalidTimestamp, target, some distance, none, none, none⟩

/-! ## The law -/

/-- The measurement is fresh, confident and of a valid distance, at the given time. -/
structure Usable (config : DistanceControlConfig) (measurement : DistanceMeasurement)
    (nowMonotonic : Option FloatInput) (monotonic distance : ℚ) : Prop where
  distance_eq : measurement.distanceM = .number (.fin distance)
  distance_pos : 0 < distance
  confident : ∃ confidence, measurement.confidence = .number (.fin confidence) ∧
    0 ≤ confidence ∧ confidence ≤ 1 ∧ config.minConfidence ≤ confidence
  fresh : ∃ received current, measurement.receivedMonotonic = .number (.fin received) ∧
    (nowMonotonic = none ∧ current = monotonic ∨ nowMonotonic = some (.number (.fin current))) ∧
    received ≤ current ∧ current - received ≤ config.maxMeasurementAgeS

/-- The distance lies just outside the deadband, where the comparison with a tolerance still
takes it for its edge. -/
def AtEdge (distance : ℚ) : Prop :=
  controller.config.deadbandM < |distance - controller.targetDistanceM| ∧
    |distance - controller.targetDistanceM| ≤ controller.config.deadbandM + edgeTolerance

instance (distance : ℚ) : Decidable (controller.AtEdge distance) := by
  unfold AtEdge
  infer_instance

/-- The proportional law beyond the deadband, between the two bounds. -/
def lawVx (distance : ℚ) : ℚ :=
  saturate (-controller.config.maxReverseMps) controller.config.maxForwardMps
    (controller.config.kp *
      deadZone controller.config.deadbandM (distance - controller.targetDistanceM))

variable {controller} {modelCommand : VelocityCommand} {distance age : ℚ}

lemma finiteFloat_eq_ok_iff {value : FloatInput} {name : String} {x : ℚ} :
    finiteFloat value name = .ok x ↔ value = .number (.fin x) := by
  unfold finiteFloat
  constructor
  · intro h
    split at h
    · cases h
      rfl
    · cases h
    · cases h
  · rintro rfl
    rfl

lemma edgeTolerance_pos : 0 < edgeTolerance := by norm_num [edgeTolerance]

/-- Where the check of the deadband stops the robot. -/
lemma withinDeadband_iff {error deadband : ℚ} :
    (|error| ≤ deadband ∨ isclose |error| deadband edgeTolerance = true) ↔
      |error| ≤ deadband + edgeTolerance := by
  have htol := edgeTolerance_pos
  rw [isclose, decide_eq_true_eq]
  constructor
  · rintro (h | h | h)
    · linarith
    · linarith
    · linarith [neg_le_of_abs_le h]
  · intro h
    rcases le_or_gt |error| deadband with hle | hlt
    · exact .inl hle
    · refine .inr (.inr ?_)
      rw [abs_of_nonpos (by linarith)]
      linarith

/-- The controlled error is what the deadband leaves of the error. -/
lemma copysign_eq_deadZone {error deadband : ℚ} (hd : 0 ≤ deadband) (h : deadband < |error|) :
    copysign (|error| - deadband) error = deadZone deadband error := by
  have hnonneg : 0 ≤ |error| - deadband := by linarith
  unfold copysign
  rw [abs_of_nonneg hnonneg]
  split_ifs with hneg
  · rw [abs_of_neg hneg] at h ⊢
    rw [deadZone_below (by linarith) hd]
    ring
  · rw [abs_of_nonneg (not_lt.mp hneg)] at h ⊢
    rw [deadZone_above hd h.le]

/-- The command of `track` follows the law, except at the edges of the deadband. -/
lemma track_command :
    (controller.track modelCommand distance age).command =
      ⟨.fin (if controller.AtEdge distance then 0 else controller.lawVx distance),
        modelCommand.wz⟩ := by
  have hdead := controller.config.deadband_nonneg
  have hforward := controller.config.maxForward_nonneg
  unfold track
  simp only [withinDeadband_iff]
  by_cases hstop : |distance - controller.targetDistanceM| ≤
      controller.config.deadbandM + edgeTolerance
  · -- inside the deadband the law is zero as well
    rw [if_pos hstop]
    have hzero : (if controller.AtEdge distance then 0 else controller.lawVx distance) = 0 := by
      split_ifs with hedge
      · rfl
      · have hin : |distance - controller.targetDistanceM| ≤ controller.config.deadbandM :=
          not_lt.mp fun hlt => hedge ⟨hlt, hstop⟩
        rw [lawVx, deadZone_eq_zero (abs_le.mp hin).1 (abs_le.mp hin).2, mul_zero]
        exact saturate_of_mem (neg_nonpos.mpr controller.config.maxReverse_nonneg) hforward
    rw [hzero]
    rfl
  · have hout : controller.config.deadbandM < |distance - controller.targetDistanceM| := by
      linarith [edgeTolerance_pos]
    have hlaw : (if controller.AtEdge distance then 0 else controller.lawVx distance) =
        controller.lawVx distance := if_neg fun hedge => hstop hedge.2
    rw [if_neg hstop, hlaw, copysign_eq_deadZone hdead hout]
    split_ifs with hhold
    · rw [lawVx, hhold.2, neg_zero,
        le_antisymm (saturate_nonpos le_rfl hhold.1.le) le_saturate]
      rfl
    · rfl

/-- The law is monotone in the distance. -/
lemma lawVx_mono {d₁ d₂ : ℚ} (h : d₁ ≤ d₂) : controller.lawVx d₁ ≤ controller.lawVx d₂ := by
  refine saturate_mono (mul_le_mul_of_nonneg_left ?_ controller.config.kp_pos.le)
  exact deadZone_mono (by linarith)

lemma abs_lawVx_sub_le (d₁ d₂ : ℚ) :
    |controller.lawVx d₁ - controller.lawVx d₂| ≤ controller.config.kp * |d₁ - d₂| := by
  have hkp := controller.config.kp_pos
  refine (abs_saturate_sub_le _ _ _ _).trans ?_
  rw [← mul_sub, abs_mul, abs_of_pos hkp]
  refine mul_le_mul_of_nonneg_left ?_ hkp.le
  have h := abs_deadZone_sub_le controller.config.deadbandM (d₁ - controller.targetDistanceM)
    (d₂ - controller.targetDistanceM)
  rwa [sub_sub_sub_cancel_right] at h

/-- From the deadband on the law does not go backwards. -/
lemma lawVx_nonneg {d : ℚ} (h : -controller.config.deadbandM ≤ d - controller.targetDistanceM) :
    0 ≤ controller.lawVx d :=
  saturate_nonneg controller.config.maxForward_nonneg
    (mul_nonneg controller.config.kp_pos.le (deadZone_nonneg controller.config.deadband_nonneg h))

lemma lawVx_nonpos {d : ℚ} (h : d - controller.targetDistanceM ≤ controller.config.deadbandM) :
    controller.lawVx d ≤ 0 :=
  saturate_nonpos (neg_nonpos.mpr controller.config.maxReverse_nonneg)
    (mul_nonpos_of_nonneg_of_nonpos controller.config.kp_pos.le
      (deadZone_nonpos controller.config.deadband_nonneg h))

/-- A usable measurement reaches the law, and any other stops the robot. -/
lemma apply_cases (henabled : controller.config.enabled = true) (modelCommand : VelocityCommand)
    (measurement : Option DistanceMeasurement) (nowMonotonic : Option FloatInput)
    (monotonic : ℚ) :
    (∃ m distance age, measurement = some m ∧
      Usable controller.config m nowMonotonic monotonic distance ∧
      controller.apply modelCommand measurement nowMonotonic monotonic =
        controller.track modelCommand distance age) ∨
    ((∀ m distance, measurement = some m →
        ¬ Usable controller.config m nowMonotonic monotonic distance) ∧
      (controller.apply modelCommand measurement nowMonotonic monotonic).command =
        ⟨.fin 0, modelCommand.wz⟩) := by
  unfold apply
  rw [if_neg (by simp [henabled])]
  split
  · exact .inr ⟨fun m d h => absurd h (Option.some_ne_none m).symm, rfl⟩
  rename_i measurement
  split
  · rename_i hdistance
    refine .inr ⟨?_, rfl⟩
    rintro m d ⟨⟩ husable
    rw [husable.distance_eq] at hdistance
    cases hdistance
  rename_i distance hdistance
  rw [finiteFloat_eq_ok_iff] at hdistance
  have hsame : ∀ {d}, Usable controller.config measurement nowMonotonic monotonic d →
      d = distance := by
    intro d husable
    have h := husable.distance_eq.symm.trans hdistance
    cases h
    rfl
  split_ifs with hpos
  · refine .inr ⟨?_, rfl⟩
    rintro m d ⟨⟩ husable
    exact absurd husable.distance_pos (not_lt.mpr (hsame husable ▸ hpos))
  split
  · rename_i hconfidence
    refine .inr ⟨?_, rfl⟩
    rintro m d ⟨⟩ husable
    obtain ⟨confidence, heq, -⟩ := husable.confident
    rw [heq] at hconfidence
    cases hconfidence
  rename_i confidence hconfidence
  rw [finiteFloat_eq_ok_iff] at hconfidence
  have hconf : ∀ {d}, Usable controller.config measurement nowMonotonic monotonic d →
      (0 ≤ confidence ∧ confidence ≤ 1) ∧ controller.config.minConfidence ≤ confidence := by
    intro d husable
    obtain ⟨confidence', heq, h0, h1, hmin⟩ := husable.confident
    have h := heq.symm.trans hconfidence
    cases h
    exact ⟨⟨h0, h1⟩, hmin⟩
  split
  · rename_i hrange
    refine .inr ⟨?_, rfl⟩
    rintro m d ⟨⟩ husable
    exact hrange (hconf husable).1
  rename_i hrange
  split_ifs with hlow
  · refine .inr ⟨?_, rfl⟩
    rintro m d ⟨⟩ husable
    exact absurd (hconf husable).2 (not_le.mpr hlow)
  split
  · rename_i received current hreceived hcurrent
    rw [finiteFloat_eq_ok_iff] at hreceived
    have hnow : nowMonotonic = none ∧ current = monotonic ∨
        nowMonotonic = some (.number (.fin current)) := by
      cases nowMonotonic with
      | none => exact .inl ⟨rfl, (Except.ok.inj hcurrent).symm⟩
      | some now => exact .inr (congrArg some (finiteFloat_eq_ok_iff.mp hcurrent))
    have hfresh : ∀ {d}, Usable controller.config measurement nowMonotonic monotonic d →
        received ≤ current ∧ current - received ≤ controller.config.maxMeasurementAgeS := by
      intro d husable
      obtain ⟨received', current', heq, hnow', hle, hage⟩ := husable.fresh
      have h := heq.symm.trans hreceived
      cases h
      rcases hnow with ⟨rfl, rfl⟩ | rfl
      · rcases hnow' with ⟨-, rfl⟩ | h
        · exact ⟨hle, hage⟩
        · cases h
      · rcases hnow' with ⟨h, -⟩ | h
        · cases h
        · cases h
          exact ⟨hle, hage⟩
    dsimp only
    split_ifs with hfuture hstale
    · refine .inr ⟨?_, rfl⟩
      rintro m d ⟨⟩ husable
      linarith [(hfresh husable).1]
    · refine .inr ⟨?_, rfl⟩
      rintro m d ⟨⟩ husable
      exact absurd (hfresh husable).2 (not_le.mpr hstale)
    · exact .inl ⟨measurement, distance, current - received, rfl,
        ⟨hdistance, not_le.mp hpos, ⟨confidence, hconfidence, (not_not.mp hrange).1,
          (not_not.mp hrange).2, not_lt.mp hlow⟩,
          ⟨received, current, hreceived, hnow, by linarith, not_lt.mp hstale⟩⟩, rfl⟩
  · rename_i hnone
    refine .inr ⟨?_, rfl⟩
    rintro m d ⟨⟩ husable
    obtain ⟨received, current, heq, hnow, -⟩ := husable.fresh
    refine hnone received current (finiteFloat_eq_ok_iff.mpr heq) ?_
    rcases hnow with ⟨rfl, rfl⟩ | rfl <;> rfl

/-- The velocity that a usable measurement gives. -/
lemma apply_usable {m : DistanceMeasurement} {nowMonotonic : Option FloatInput} {monotonic : ℚ}
    (henabled : controller.config.enabled = true)
    (husable : Usable controller.config m nowMonotonic monotonic distance) :
    (controller.apply modelCommand (some m) nowMonotonic monotonic).command =
      ⟨.fin (if controller.AtEdge distance then 0 else controller.lawVx distance),
        modelCommand.wz⟩ := by
  rcases controller.apply_cases henabled modelCommand (some m) nowMonotonic
    monotonic with ⟨m', distance', age, heq, husable', happly⟩ | ⟨hnot, -⟩
  · cases heq
    have hsame := husable.distance_eq.symm.trans husable'.distance_eq
    cases hsame
    rw [happly, track_command]
  · exact absurd husable (hnot m distance rfl)

/-! ## What the law guarantees -/

/-- The longitudinal velocity of a result. -/
def vxOf (controller : FixedDistanceController) (modelCommand : VelocityCommand)
    (measurement : Option DistanceMeasurement) (nowMonotonic : Option FloatInput)
    (monotonic : ℚ) : ExtRat :=
  (controller.apply modelCommand measurement nowMonotonic monotonic).command.vx

/-- What an enabled controller makes of every command and every measurement. -/
structure HoldsDistance (controller : FixedDistanceController) : Prop where
  yaw : ∀ modelCommand measurement nowMonotonic monotonic,
    (controller.apply modelCommand measurement nowMonotonic monotonic).command.wz =
      modelCommand.wz
  bounded : ∀ modelCommand measurement nowMonotonic monotonic, ∃ vx : ℚ,
    controller.vxOf modelCommand measurement nowMonotonic monotonic = .fin vx ∧
      -controller.config.maxReverseMps ≤ vx ∧ vx ≤ controller.config.maxForwardMps
  /-- Without a usable measurement of a distance beyond the deadband the robot stops. -/
  stops : ∀ modelCommand measurement nowMonotonic monotonic,
    (∀ m distance, measurement = some m →
      Usable controller.config m nowMonotonic monotonic distance →
      |distance - controller.targetDistanceM| ≤ controller.config.deadbandM) →
    controller.vxOf modelCommand measurement nowMonotonic monotonic = 0
  /-- Of two usable measurements the nearer one never gives the higher velocity. -/
  monotone : ∀ modelCommand m₁ m₂ now₁ now₂ monotonic₁ monotonic₂ d₁ d₂ v₁ v₂,
    Usable controller.config m₁ now₁ monotonic₁ d₁ →
    Usable controller.config m₂ now₂ monotonic₂ d₂ →
    controller.vxOf modelCommand (some m₁) now₁ monotonic₁ = .fin v₁ →
    controller.vxOf modelCommand (some m₂) now₂ monotonic₂ = .fin v₂ →
    d₁ ≤ d₂ → v₁ ≤ v₂
  /-- Outside the edges of the deadband the gain bounds how fast the velocity changes. -/
  lipschitz : ∀ modelCommand m₁ m₂ now₁ now₂ monotonic₁ monotonic₂ d₁ d₂ v₁ v₂,
    Usable controller.config m₁ now₁ monotonic₁ d₁ →
    Usable controller.config m₂ now₂ monotonic₂ d₂ →
    controller.vxOf modelCommand (some m₁) now₁ monotonic₁ = .fin v₁ →
    controller.vxOf modelCommand (some m₂) now₂ monotonic₂ = .fin v₂ →
    ¬ controller.AtEdge d₁ → ¬ controller.AtEdge d₂ →
    |v₁ - v₂| ≤ controller.config.kp * |d₁ - d₂|

lemma vxOf_usable {m : DistanceMeasurement} {nowMonotonic : Option FloatInput} {monotonic v : ℚ}
    (henabled : controller.config.enabled = true)
    (husable : Usable controller.config m nowMonotonic monotonic distance)
    (hv : controller.vxOf modelCommand (some m) nowMonotonic monotonic = .fin v) :
    v = if controller.AtEdge distance then 0 else controller.lawVx distance := by
  rw [vxOf, apply_usable henabled husable] at hv
  exact (ExtRat.fin.inj hv).symm

/-- At an edge the robot stands, so the law may only step there from one sign to the other. -/
lemma edge_mono {d₁ d₂ : ℚ} (h : d₁ ≤ d₂) :
    (if controller.AtEdge d₁ then 0 else controller.lawVx d₁) ≤
      (if controller.AtEdge d₂ then 0 else controller.lawVx d₂) := by
  have hdead := controller.config.deadband_nonneg
  split_ifs with h₁ h₂ h₂
  · exact le_rfl
  · refine lawVx_nonneg ?_
    rcases abs_cases (d₁ - controller.targetDistanceM) with ⟨-, hsign⟩ | ⟨habs, -⟩
    · linarith
    · -- above the lower edge the deadband begins
      by_contra hlow
      refine h₂ ⟨?_, ?_⟩
      · exact lt_abs.mpr (.inr (by linarith))
      · rw [abs_of_neg (by linarith)]
        linarith [h₁.2]
  · refine lawVx_nonpos ?_
    rcases abs_cases (d₂ - controller.targetDistanceM) with ⟨habs, -⟩ | ⟨-, hsign⟩
    · -- below the upper edge the deadband ends
      by_contra hhigh
      refine h₁ ⟨?_, ?_⟩
      · exact lt_abs.mpr (.inl (by linarith))
      · rw [abs_of_pos (by linarith)]
        linarith [h₂.2]
    · linarith
  · exact lawVx_mono h

/-- **An enabled controller turns as the model says, keeps to its bounds, stops without a distance
it can trust, and follows that distance monotonically, no faster than its gain.** -/
theorem holdsDistance (henabled : controller.config.enabled = true) : HoldsDistance controller := by
  have hforward := controller.config.maxForward_nonneg
  have hreverse := controller.config.maxReverse_nonneg
  have hlaw : ∀ d, -controller.config.maxReverseMps ≤ controller.lawVx d ∧
      controller.lawVx d ≤ controller.config.maxForwardMps :=
    fun d => ⟨le_saturate, saturate_le (by linarith)⟩
  refine ⟨?_, ?_, ?_, ?_, ?_⟩
  · intro modelCommand measurement nowMonotonic monotonic
    rcases controller.apply_cases henabled modelCommand measurement nowMonotonic
      monotonic with ⟨m, distance, age, -, -, happly⟩ | ⟨-, happly⟩
    · rw [happly, track_command]
    · rw [happly]
  · intro modelCommand measurement nowMonotonic monotonic
    unfold vxOf
    rcases controller.apply_cases henabled modelCommand measurement nowMonotonic
      monotonic with ⟨m, distance, age, -, -, happly⟩ | ⟨-, happly⟩
    · rw [happly, track_command]
      refine ⟨_, rfl, ?_⟩
      split_ifs
      · exact ⟨by linarith, hforward⟩
      · exact hlaw distance
    · rw [happly]
      exact ⟨0, rfl, by linarith, hforward⟩
  · intro modelCommand measurement nowMonotonic monotonic hnear
    unfold vxOf
    rcases controller.apply_cases henabled modelCommand measurement nowMonotonic
      monotonic with ⟨m, distance, age, hm, husable, happly⟩ | ⟨-, happly⟩
    · have hin := hnear m distance hm husable
      have hedge : ¬ controller.AtEdge distance := fun h => absurd h.1 (not_lt.mpr hin)
      have hzero : controller.lawVx distance = 0 :=
        le_antisymm (lawVx_nonpos (abs_le.mp hin).2) (lawVx_nonneg (abs_le.mp hin).1)
      rw [happly, track_command, if_neg hedge, hzero]
      rfl
    · rw [happly]
      rfl
  · intro modelCommand m₁ m₂ now₁ now₂ monotonic₁ monotonic₂ d₁ d₂ v₁ v₂ hm₁ hm₂ hv₁ hv₂ hle
    rw [vxOf_usable henabled hm₁ hv₁, vxOf_usable henabled hm₂ hv₂]
    exact edge_mono hle
  · intro modelCommand m₁ m₂ now₁ now₂ monotonic₁ monotonic₂ d₁ d₂ v₁ v₂ hm₁ hm₂ hv₁ hv₂ he₁ he₂
    rw [vxOf_usable henabled hm₁ hv₁, vxOf_usable henabled hm₂ hv₂, if_neg he₁, if_neg he₂]
    exact abs_lawVx_sub_le d₁ d₂

end FixedDistanceController

end UnitreeGo2.RobotTrack
