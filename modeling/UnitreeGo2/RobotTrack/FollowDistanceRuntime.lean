import UnitreeGo2.RobotTrack.DistanceControl

/-!
# The follow-distance runtime

The runtime owns the distance controller: the lifecycle configures and activates it, the RPC
callbacks change its target, the camera publishes measurements, and the worker applies it.  All of
them run on threads of their own; what a method does under the lock is one segment.
-/

namespace UnitreeGo2.RobotTrack

/-! ## The runtime -/

structure FollowDistanceSnapshot where
  enabled : Bool
  active : Bool
  targetDistanceM : ℚ
  measuredDistanceM : Option ℚ
  status : String
  detail : String
  measurementConfidence : Option ℚ
  measurementSource : String
  revision : ℕ
  deriving DecidableEq

structure FollowDistanceRuntime where
  controller : FixedDistanceController := .init .default
  /-- The controllers before this one; a call of `apply` may still hold one of them. -/
  replaced : List FixedDistanceController := []
  minTargetM : ℚ := 1 / 2
  maxTargetM : ℚ := 7
  active : Bool := false
  measurement : Option DistanceMeasurement := none
  measurementSource : String := ""
  status : String := "disabled"
  detail : String := "fixed-distance control is disabled"
  revision : ℕ := 0

/-- `float()`, which takes a `bool` as well. -/
def FloatInput.toFloat? : FloatInput → Option ExtRat
  | .number x => some x
  | .boolean b => some (.fin (if b then 1 else 0))
  | .refused _ => none

namespace FollowDistanceRuntime

variable (r : FollowDistanceRuntime)

/-- `_snapshot_locked`. -/
def snapshot : FollowDistanceSnapshot where
  enabled := r.controller.config.enabled
  active := r.active
  targetDistanceM := r.controller.targetDistanceM
  measuredDistanceM := r.measurement.bind fun m =>
    match m.distanceM.toFloat? with
    | some (.fin x) => if 0 < x then some x else none
    | _ => none
  status := r.status
  detail := r.detail
  measurementConfidence := r.measurement.bind fun m =>
    match m.confidence.toFloat? with
    | some (.fin x) => some x
    | _ => none
  measurementSource := r.measurementSource
  revision := r.revision

/-- The checks of `configure` before its lock. -/
def checkLimits (config : DistanceControlConfig) (minTargetM maxTargetM : FloatInput) :
    Except String (ℚ × ℚ) := do
  let minimum ← finiteFloat minTargetM "min_target_m"
  let maximum ← finiteFloat maxTargetM "max_target_m"
  if minimum ≤ 0 then throw "min_target_m must be greater than zero"
  if maximum < minimum then throw "max_target_m must be at least min_target_m"
  if ¬ (minimum ≤ config.targetDistanceM ∧ config.targetDistanceM ≤ maximum) then
    throw s!"target_distance_m must be in [{fixed2 minimum}, {fixed2 maximum}]"
  return (minimum, maximum)

def configure (config : DistanceControlConfig) (minTargetM maxTargetM : FloatInput) :
    Except String FollowDistanceSnapshot × FollowDistanceRuntime :=
  match checkLimits config minTargetM maxTargetM with
  | .error error => (.error error, r)
  | .ok (minimum, maximum) =>
    let r' : FollowDistanceRuntime :=
      { controller := .init config
        replaced := r.replaced ++ [r.controller]
        minTargetM := minimum
        maxTargetM := maximum
        active := false
        measurement := none
        measurementSource := ""
        status := if config.enabled then "ready" else "disabled"
        detail := if config.enabled then "fixed-distance control is configured"
          else "fixed-distance control is disabled"
        revision := r.revision + 1 }
    (.ok r'.snapshot, r')

def setActive (active : Bool) (detail : String) : FollowDistanceSnapshot × FollowDistanceRuntime :=
  let enabled := r.controller.config.enabled
  let r' := { r with
    active := active && enabled
    status := if enabled = false then "disabled"
      else if active then "waiting_for_measurement" else "inactive"
    detail := if enabled = false then "fixed-distance control is disabled"
      else if detail ≠ "" then detail
      else if active then "waiting for a target distance measurement"
      else "RobotTrack runtime is inactive"
    revision := r.revision + 1 }
  (r'.snapshot, r')

/-- `update_measurement`, where `strip` is that of a `str`. -/
def updateMeasurement (strip : String → String) (measurement : Option DistanceMeasurement)
    (status source detail : String) : FollowDistanceSnapshot × FollowDistanceRuntime :=
  let r' := { r with
    measurement
    measurementSource := strip source
    status := if strip status ≠ "" then strip status else "measurement_updated"
    detail := strip detail
    revision := r.revision + 1 }
  (r'.snapshot, r')

/-- The first locked part of `apply`: it stores a measurement, and selects one. -/
def selectMeasurement (measurement : Option DistanceMeasurement) :
    Option DistanceMeasurement × FollowDistanceRuntime :=
  match measurement with
  | some m => (some m, { r with measurement := some m, revision := r.revision + 1 })
  | none => (r.measurement, r)

/-- The controller that a call of `apply` holds, by the number of its predecessors. -/
def controllerAt (index : ℕ) : Option FixedDistanceController :=
  (r.replaced ++ [r.controller])[index]?

/-- What `apply` computes between its locked parts. -/
def applyTo (controller : FixedDistanceController) (active : Bool)
    (modelCommand : VelocityCommand) (measurement : Option DistanceMeasurement)
    (nowMonotonic : Option FloatInput) (monotonic : ℚ) : DistanceControlResult :=
  if controller.config.enabled = true ∧ active = false then
    { command := { vx := 0, wz := modelCommand.wz }
      reason := .inactive
      targetDistanceM := controller.targetDistanceM }
  else controller.apply modelCommand measurement nowMonotonic monotonic

/-- The text of a reason without its underscores. -/
def spaced (reason : DistanceReason) : String :=
  String.ofList (reason.text.toList.map fun c => if c = '_' then ' ' else c)

def detailForResult (result : DistanceControlResult) : String :=
  match result.measuredDistanceM with
  | none => spaced result.reason
  | some measured => s!"{spaced result.reason}: measured {fixed2 measured} m, target " ++
      s!"{fixed2 result.targetDistanceM} m"

/-- The last locked part of `apply`.  A controller that was replaced leaves no trace. -/
def recordResult (index : ℕ) (result : DistanceControlResult) : FollowDistanceRuntime :=
  if index = r.replaced.length then
    { r with
      status := result.reason.text
      detail := detailForResult result
      revision := r.revision + 1 }
  else r

def requireEnabled : Except String Unit :=
  if r.controller.config.enabled = false then .error "fixed-distance control is disabled"
  else .ok ()

def validateTarget (target : ℚ) : Except String Unit :=
  if ¬ (r.minTargetM ≤ target ∧ target ≤ r.maxTargetM) then
    .error s!"target distance must be in [{fixed2 r.minTargetM}, {fixed2 r.maxTargetM}] m"
  else .ok ()

/-- The common end of `set_target_distance` and `adjust_target_distance`. -/
def changeTarget (target : ℚ) (detail : String) :
    Except String FollowDistanceSnapshot × FollowDistanceRuntime :=
  match r.validateTarget target with
  | .error error => (.error error, r)
  | .ok () =>
    match r.controller.setTargetDistance (.number (.fin target)) with
    | .error error => (.error error, r)
    | .ok controller =>
      let r' := { r with
        controller
        status := "target_updated"
        detail
        revision := r.revision + 1 }
      (.ok r'.snapshot, r')

def setTargetDistance (distanceM : FloatInput) :
    Except String FollowDistanceSnapshot × FollowDistanceRuntime :=
  match finiteFloat distanceM "distance_m" with
  | .error error => (.error error, r)
  | .ok target =>
    match r.requireEnabled with
    | .error error => (.error error, r)
    | .ok () => r.changeTarget target s!"target distance set to {fixed2 target} m"

def adjustTargetDistance (deltaM : FloatInput) :
    Except String FollowDistanceSnapshot × FollowDistanceRuntime :=
  match finiteFloat deltaM "distance_m" with
  | .error error => (.error error, r)
  | .ok delta =>
    match r.requireEnabled with
    | .error error => (.error error, r)
    | .ok () =>
      let target := r.controller.targetDistanceM + delta
      r.changeTarget target
        s!"target distance adjusted by {signedFixed2 delta} m to {fixed2 target} m"

end FollowDistanceRuntime

/-! ## Its methods on threads -/

inductive FollowCall where
  | configure (config : DistanceControlConfig) (minTargetM maxTargetM : FloatInput)
  | setActive (active : Bool) (detail : String)
  | updateMeasurement (measurement : Option DistanceMeasurement) (status source detail : String)
  | apply (modelCommand : VelocityCommand) (measurement : Option DistanceMeasurement)
      (nowMonotonic : Option FloatInput)
  | snapshot
  | setTargetDistance (distanceM : FloatInput)
  | adjustTargetDistance (deltaM : FloatInput)
  | handle (operation : String) (distanceM : FloatInput)

/-- Where a call is. -/
inductive FollowThread where
  | calling (call : FollowCall)
  /-- `apply` after its first locked part. -/
  | computing (controller : ℕ) (active : Bool) (modelCommand : VelocityCommand)
      (measurement : Option DistanceMeasurement) (nowMonotonic : Option FloatInput)
  /-- `apply` before its last locked part. -/
  | recording (controller : ℕ) (result : DistanceControlResult)
  /-- `handle` has caught an error. -/
  | refusing (error : String)
  | returned

inductive FollowReport where
  | silent
  | raised (error : String)
  | returned (snapshot : FollowDistanceSnapshot)
  | applied (result : DistanceControlResult)
  /-- `handle` catches the error of an operation. -/
  | refused (error : String)
  /-- `FollowDistanceCommandResult`. -/
  | answered (accepted : Bool) (snapshot : FollowDistanceSnapshot) (detail : String)
  deriving DecidableEq

abbrev FollowSegment := Segment FollowDistanceRuntime FollowThread FollowReport

/-- A method that raises or returns a snapshot. -/
def FollowSegment.ofResult (result : Except String FollowDistanceSnapshot × FollowDistanceRuntime) :
    FollowSegment :=
  match result.1 with
  | .ok snapshot => ⟨result.2, .returned, [], .returned snapshot⟩
  | .error error => ⟨result.2, .returned, [], .raised error⟩

/-- `handle` around an operation that raises or returns a snapshot. -/
def FollowSegment.ofOperation
    (result : Except String FollowDistanceSnapshot × FollowDistanceRuntime) : FollowSegment :=
  match result.1 with
  | .ok snapshot => ⟨result.2, .returned, [], .answered true snapshot snapshot.detail⟩
  | .error error => ⟨result.2, .refusing error, [], .refused error⟩

/-- `handle` up to its answer or to the error that it catches.  `normalize` is
`str(operation).strip().casefold()`. -/
def FollowDistanceRuntime.handle (normalize : String → String) (r : FollowDistanceRuntime)
    (operation : String) (distanceM : FloatInput) : FollowSegment :=
  if normalize operation = "get" then
    ⟨r, .returned, [], .answered true r.snapshot r.snapshot.detail⟩
  else if normalize operation = "set" then .ofOperation (r.setTargetDistance distanceM)
  else if normalize operation = "adjust" then .ofOperation (r.adjustTargetDistance distanceM)
  else .ofOperation (.error "operation must be one of: set, adjust, get", r)

/-- The segment of a thread at the time `monotonic`. -/
def FollowThread.act (normalize strip : String → String) (r : FollowDistanceRuntime)
    (monotonic : ℚ) : FollowThread → Option FollowSegment
  | .calling (.configure config minTargetM maxTargetM) =>
    some (.ofResult (r.configure config minTargetM maxTargetM))
  | .calling (.setActive active detail) =>
    let (snapshot, r') := r.setActive active detail
    some ⟨r', .returned, [], .returned snapshot⟩
  | .calling (.updateMeasurement measurement status source detail) =>
    let (snapshot, r') := r.updateMeasurement strip measurement status source detail
    some ⟨r', .returned, [], .returned snapshot⟩
  | .calling (.apply modelCommand measurement nowMonotonic) =>
    let (selected, r') := r.selectMeasurement measurement
    some ⟨r', .computing r.replaced.length r.active modelCommand selected nowMonotonic, [],
      .silent⟩
  | .calling .snapshot => some ⟨r, .returned, [], .returned r.snapshot⟩
  | .calling (.setTargetDistance distanceM) => some (.ofResult (r.setTargetDistance distanceM))
  | .calling (.adjustTargetDistance deltaM) => some (.ofResult (r.adjustTargetDistance deltaM))
  | .calling (.handle operation distanceM) => some (r.handle normalize operation distanceM)
  | .computing index active modelCommand measurement nowMonotonic =>
    (r.controllerAt index).map fun controller =>
      ⟨r, .recording index (FollowDistanceRuntime.applyTo controller active modelCommand
        measurement nowMonotonic monotonic), [], .silent⟩
  | .recording index result => some ⟨r.recordResult index result, .returned, [], .applied result⟩
  | .refusing error => some ⟨r, .returned, [], .answered false r.snapshot error⟩
  | .returned => none

/-- The runtime with the threads that call its methods. -/
def followDistance (normalize strip : String → String) :
    Program FollowDistanceRuntime FollowThread ℚ FollowCall FollowReport where
  act r _ t monotonic := t.act normalize strip r monotonic
  call r _ call := some (r, .calling call)

abbrev FollowStep :=
  Machine.Step (Pool FollowDistanceRuntime FollowThread) (PoolEvent ℚ FollowCall)
    (Option FollowReport)

/-- A new runtime, before its first call. -/
def followIdle : Pool FollowDistanceRuntime FollowThread := ⟨{}, []⟩

/-! ## What the runtime keeps -/

/-- The target lies between the limits. -/
def FollowDistanceRuntime.InBounds (r : FollowDistanceRuntime) : Prop :=
  r.minTargetM ≤ r.controller.targetDistanceM ∧ r.controller.targetDistanceM ≤ r.maxTargetM

instance (r : FollowDistanceRuntime) : Decidable r.InBounds := by
  unfold FollowDistanceRuntime.InBounds
  infer_instance

/-- The report of a request that is rejected, by the method or by `handle`. -/
def FollowReport.rejects : FollowReport → Bool
  | .raised _ | .refused _ | .answered false _ _ => true
  | _ => false

/-- What holds of the target in every step of a run. -/
structure KeepsTarget (tr : List FollowStep) : Prop where
  inBounds : ∀ z ∈ tr, z.pre.shared.InBounds ∧ z.post.shared.InBounds
  /-- A rejected request changes nothing at all. -/
  rejected : ∀ z ∈ tr, ∀ report, z.output = some report → report.rejects = true →
    z.post.shared = z.pre.shared
  /-- The target never changes without a new revision. -/
  revised : ∀ z ∈ tr, z.post.shared.controller.targetDistanceM ≠
      z.pre.shared.controller.targetDistanceM →
    z.post.shared.revision = z.pre.shared.revision + 1

/-- What a segment may do to the runtime. -/
structure SegmentKeeps (r : FollowDistanceRuntime) (seg : FollowSegment) : Prop where
  inBounds : r.InBounds → seg.shared.InBounds
  rejected : seg.report.rejects = true → seg.shared = r
  revised : seg.shared.controller.targetDistanceM ≠ r.controller.targetDistanceM →
    seg.shared.revision = r.revision + 1

namespace FollowDistanceRuntime

variable {r : FollowDistanceRuntime}

/-- What a method may leave that raises or returns a snapshot: it rejects its request and has
changed nothing, or it leaves the target between the limits under a new revision. -/
def Checked (r : FollowDistanceRuntime)
    (result : Except String FollowDistanceSnapshot × FollowDistanceRuntime) : Prop :=
  (∃ error, result = (.error error, r)) ∨
  ∃ r', result = (.ok r'.snapshot, r') ∧ r'.InBounds ∧ r'.revision = r.revision + 1

lemma configure_checked (config : DistanceControlConfig) (minTargetM maxTargetM : FloatInput) :
    r.Checked (r.configure config minTargetM maxTargetM) := by
  unfold configure
  split
  · exact .inl ⟨_, rfl⟩
  · rename_i minimum maximum hlimits
    refine .inr ⟨_, rfl, ?_, rfl⟩
    unfold checkLimits at hlimits
    cases hmin : finiteFloat minTargetM "min_target_m" with
    | error e =>
      rw [hmin] at hlimits
      cases hlimits
    | ok lower =>
      cases hmax : finiteFloat maxTargetM "max_target_m" with
      | error e =>
        rw [hmin, hmax] at hlimits
        cases hlimits
      | ok upper =>
        rw [hmin, hmax] at hlimits
        simp only [bind, Except.bind, pure, Except.pure, throw, throwThe,
          MonadExceptOf.throw] at hlimits
        split at hlimits
        · cases hlimits
        split at hlimits
        · cases hlimits
        split at hlimits
        · cases hlimits
        · rename_i hrange
          cases hlimits
          exact not_not.mp hrange

lemma changeTarget_checked (target : ℚ) (detail : String) :
    r.Checked (r.changeTarget target detail) := by
  unfold changeTarget
  split
  · exact .inl ⟨_, rfl⟩
  rename_i hvalid
  split
  · exact .inl ⟨_, rfl⟩
  rename_i controller hset
  have htarget : controller.targetDistanceM = target := by
    unfold FixedDistanceController.setTargetDistance at hset
    simp only [finiteFloat, bind, Except.bind, pure, Except.pure, throw, throwThe,
      MonadExceptOf.throw] at hset
    split at hset
    · cases hset
      rfl
    · cases hset
  have hrange : r.minTargetM ≤ target ∧ target ≤ r.maxTargetM := by
    unfold validateTarget at hvalid
    split at hvalid
    · cases hvalid
    · rename_i h
      exact not_not.mp h
  refine .inr ⟨_, rfl, ?_, rfl⟩
  unfold InBounds
  dsimp only
  rw [htarget]
  exact hrange

lemma setTargetDistance_checked (distanceM : FloatInput) :
    r.Checked (r.setTargetDistance distanceM) := by
  unfold setTargetDistance
  split
  · exact .inl ⟨_, rfl⟩
  split
  · exact .inl ⟨_, rfl⟩
  · exact changeTarget_checked _ _

lemma adjustTargetDistance_checked (deltaM : FloatInput) :
    r.Checked (r.adjustTargetDistance deltaM) := by
  unfold adjustTargetDistance
  split
  · exact .inl ⟨_, rfl⟩
  split
  · exact .inl ⟨_, rfl⟩
  · exact changeTarget_checked _ _

end FollowDistanceRuntime

section Segments

variable {r : FollowDistanceRuntime} {seg : FollowSegment}
  {result : Except String FollowDistanceSnapshot × FollowDistanceRuntime}

/-- A segment that leaves the target and its limits alone, and rejects nothing. -/
lemma SegmentKeeps.of_target (hcontroller : seg.shared.controller = r.controller)
    (hmin : seg.shared.minTargetM = r.minTargetM) (hmax : seg.shared.maxTargetM = r.maxTargetM)
    (hreport : seg.report.rejects = false) : SegmentKeeps r seg where
  inBounds h := by
    unfold FollowDistanceRuntime.InBounds
    rw [hcontroller, hmin, hmax]
    exact h
  rejected h := by rw [hreport] at h; cases h
  revised h := absurd (congrArg _ hcontroller) h

/-- A segment that leaves the runtime as it is. -/
lemma SegmentKeeps.of_eq (h : seg.shared = r) : SegmentKeeps r seg where
  inBounds hr := h ▸ hr
  rejected _ := h
  revised hne := absurd (by rw [h]) hne

lemma FollowDistanceRuntime.Checked.ofResult (h : r.Checked result) :
    SegmentKeeps r (.ofResult result) := by
  rcases h with ⟨error, rfl⟩ | ⟨r', rfl, hr', hrevision⟩
  · exact .of_eq rfl
  · exact ⟨fun _ => hr', fun hrejects => absurd hrejects Bool.false_ne_true,
      fun _ => hrevision⟩

lemma FollowDistanceRuntime.Checked.ofOperation (h : r.Checked result) :
    SegmentKeeps r (.ofOperation result) := by
  rcases h with ⟨error, rfl⟩ | ⟨r', rfl, hr', hrevision⟩
  · exact .of_eq rfl
  · exact ⟨fun _ => hr', fun hrejects => absurd hrejects Bool.false_ne_true,
      fun _ => hrevision⟩

lemma handle_keeps (normalize : String → String) (operation : String) (distanceM : FloatInput) :
    SegmentKeeps r (r.handle normalize operation distanceM) := by
  unfold FollowDistanceRuntime.handle
  split_ifs
  · exact .of_eq rfl
  · exact (FollowDistanceRuntime.setTargetDistance_checked distanceM).ofOperation
  · exact (FollowDistanceRuntime.adjustTargetDistance_checked distanceM).ofOperation
  · exact .of_eq rfl

/-- Every segment keeps the target between its limits, call by call. -/
lemma act_keeps {normalize strip : String → String} {monotonic : ℚ} {t : FollowThread}
    (h : t.act normalize strip r monotonic = some seg) : SegmentKeeps r seg := by
  cases t with
  | calling call =>
    cases call with
    | configure config minTargetM maxTargetM =>
      cases h
      exact (FollowDistanceRuntime.configure_checked config minTargetM maxTargetM).ofResult
    | setActive active detail =>
      cases h
      exact .of_target rfl rfl rfl rfl
    | updateMeasurement measurement status source detail =>
      cases h
      exact .of_target rfl rfl rfl rfl
    | apply modelCommand measurement nowMonotonic =>
      cases h
      cases measurement with
      | none => exact .of_eq rfl
      | some m => exact .of_target rfl rfl rfl rfl
    | snapshot =>
      cases h
      exact .of_eq rfl
    | setTargetDistance distanceM =>
      cases h
      exact (FollowDistanceRuntime.setTargetDistance_checked distanceM).ofResult
    | adjustTargetDistance deltaM =>
      cases h
      exact (FollowDistanceRuntime.adjustTargetDistance_checked deltaM).ofResult
    | handle operation distanceM =>
      cases h
      exact handle_keeps normalize operation distanceM
  | computing index active modelCommand measurement nowMonotonic =>
    obtain ⟨controller, -, rfl⟩ := Option.map_eq_some_iff.mp h
    exact .of_eq rfl
  | recording index result =>
    cases h
    unfold FollowDistanceRuntime.recordResult
    split_ifs
    · exact .of_target rfl rfl rfl rfl
    · exact .of_eq rfl
  | refusing error =>
    cases h
    exact .of_eq rfl
  | returned => cases h

end Segments

/-- What a step of the pool keeps: it is silent and leaves the runtime, or it is a segment. -/
lemma step_keeps (normalize strip : String → String)
    (p : Pool FollowDistanceRuntime FollowThread) (e : PoolEvent ℚ FollowCall) :
    (((followDistance normalize strip).step p e).1 = none ∧
      ((followDistance normalize strip).step p e).2.shared = p.shared) ∨
    ∃ seg, ((followDistance normalize strip).step p e).1 = some seg.report ∧
      ((followDistance normalize strip).step p e).2.shared = seg.shared ∧
      SegmentKeeps p.shared seg := by
  rcases (followDistance normalize strip).step_cases p e with hstep |
    ⟨request, s, t, -, hcall, hstep⟩ | ⟨index, input, t, seg, -, -, hact, hstep⟩
  · exact .inl (by rw [hstep]; exact ⟨rfl, rfl⟩)
  · cases hcall
    exact .inl (by rw [hstep]; exact ⟨rfl, rfl⟩)
  · exact .inr ⟨seg, by rw [hstep], by rw [hstep], act_keeps hact⟩

/-- The target of a new runtime lies between the limits, and every step keeps it there. -/
lemma inBounds_invariant (normalize strip : String → String) :
    (followDistance normalize strip).machine.Invariant followIdle fun p => p.shared.InBounds where
  init := by decide +kernel
  step p e hp := by
    rcases step_keeps normalize strip p e with ⟨-, hshared⟩ | ⟨seg, -, hshared, hkeeps⟩
    · exact (congrArg FollowDistanceRuntime.InBounds hshared).mpr hp
    · exact (congrArg FollowDistanceRuntime.InBounds hshared).mpr (hkeeps.inBounds hp)

/-- Whatever the threads do, the target keeps to its limits. -/
lemma keepsTarget_run (normalize strip : String → String) (es : List (PoolEvent ℚ FollowCall)) :
    KeepsTarget ((followDistance normalize strip).machine.trace followIdle es) where
  inBounds z hz :=
    ⟨(inBounds_invariant normalize strip).pre hz, (inBounds_invariant normalize strip).post hz⟩
  rejected z hz report hreport hrejects := by
    obtain ⟨es₁, -, -, hstep⟩ := Machine.mem_trace_stepAt _ hz
    rw [hstep] at hreport ⊢
    rcases step_keeps normalize strip _ z.event with ⟨hnone, -⟩ | ⟨seg, hsome, hshared, hkeeps⟩
    · cases hnone.symm.trans hreport
    · cases hsome.symm.trans hreport
      exact hshared.trans (hkeeps.rejected hrejects)
  revised z hz := by
    obtain ⟨es₁, -, -, hstep⟩ := Machine.mem_trace_stepAt _ hz
    rw [hstep]
    intro hne
    rcases step_keeps normalize strip _ z.event with ⟨-, hshared⟩ | ⟨seg, -, hshared, hkeeps⟩
    · exact absurd (congrArg (·.controller.targetDistanceM) hshared) hne
    · refine (congrArg FollowDistanceRuntime.revision hshared).trans (hkeeps.revised fun heq => ?_)
      exact hne ((congrArg (·.controller.targetDistanceM) hshared).trans heq)

/-- **Distance control keeps to its law and to its limits**: an enabled controller stops or
follows the measured distance, and no order of requests takes the target out of its limits. -/
theorem followsDistance (controller : FixedDistanceController)
    (henabled : controller.config.enabled = true) (normalize strip : String → String)
    (es : List (PoolEvent ℚ FollowCall)) :
    controller.HoldsDistance ∧
      KeepsTarget ((followDistance normalize strip).machine.trace followIdle es) :=
  ⟨FixedDistanceController.holdsDistance henabled, keepsTarget_run normalize strip es⟩

/-- A controller that may also go back, and a request beyond the limits. -/
theorem followsDistance_reverse :
    FixedDistanceController.HoldsDistance (.init { DistanceControlConfig.default with
      enabled := true, maxReverseMps := 1 / 4, maxReverse_nonneg := by norm_num }) ∧
    KeepsTarget ((followDistance id id).machine.trace followIdle
      [.call (.configure { DistanceControlConfig.default with enabled := true }
        (.number (.fin 1)) (.number (.fin 7))), .act 0 0,
        .call (.handle "set" (.number (.fin 9))), .act 1 0, .act 1 0]) :=
  followsDistance _ rfl id id _

end UnitreeGo2.RobotTrack
