import Mathlib.Tactic.Linarith
import UnitreeGo2.StagedNav2.Authorization
import UnitreeGo2.StagedNav2.Fault

/-!
# The velocities that the node publishes

The guard slews every command from the last output that it has recorded.  The node publishes
the decision of most of its callbacks, also of those that forward no command, and what
reaches the chassis is the merged sequence of all of them.
-/

namespace UnitreeGo2.StagedNav2

open StagedNav2Guard

/-! ## The node -/

/-- A velocity on the output topic. -/
structure Publication where
  time : ℚ
  velocity : Velocity
  deriving DecidableEq

inductive MotionEvent where
  /-- A callback that makes one call on the guard. -/
  | call (op : Operation)
  /-- `_on_chassis_status` when no odometry sample can start the measurement. -/
  | unmeasuredStatus (nowS : ExtRat) (status : ChassisStatus)

structure MotionNode where
  policy : StagedNav2Guard
  /-- What was published last while the guard is armed. -/
  published : Option Publication := none

/-- The reason of the decision that enters the armed phase. -/
def measuredArmed : String := "chassis_measured_armed_after_zero_hold"

/-- Whether the node publishes the decision of a call, which left the guard `g`. -/
def publishes (op : Operation) (d : Decision) (g : StagedNav2Guard) : Bool :=
  match op with
  | .command .. | .tick .. | .observeGoalStatuses .. | .observeGoalClaim .. | .confirmArm ..
  | .disconnect .. | .shutdown => true
  | .observeChassisStatus .. => g.phase = .fault || d.reason = measuredArmed
  | _ => g.phase = .fault

/-- `_publish` of the decision of a call.  A call that is given no time trips the guard, and what
it publishes is not part of the armed phase. -/
def publication (op : Operation) (o : Outcome) : Option Publication :=
  match o.1, op.nowS? with
  | .ok d, some (.fin t) => if publishes op d o.2 then some ⟨t, d.command⟩ else none
  | _, _ => none

/-- Whether the decision enters the armed phase. -/
def entersMeasured (o : Outcome) : Bool :=
  match o.1 with
  | .ok d => d.reason = measuredArmed
  | .error _ => false

section Node

variable (lib : Library) (config : GuardConfig)

/-- The last call that a callback makes, and its outcome. -/
def callback (event : MotionEvent) (g : StagedNav2Guard) : Operation × Outcome :=
  match event with
  | .call op => (op, perform lib config op g)
  | .unmeasuredStatus nowS status =>
    let op := .observeChassisStatus nowS status
    let o := perform lib config op g
    if entersMeasured o then
      let disconnect := .disconnect "stage_measurement_start_missing"
      (disconnect, perform lib config disconnect o.2)
    else (op, o)

/-- The machine of the node. -/
def motionNode : Machine MotionNode MotionEvent (Option Publication) where
  step n event :=
    let (op, o) := callback lib config event n.policy
    let published := publication op o
    (published,
      { policy := o.2
        published := if o.2.phase = .armed then published.or n.published else none })

end Node

/-- The time that a callback reads. -/
def MotionEvent.time? : MotionEvent → Option ℚ
  | .call op =>
    match op.nowS? with
    | some (.fin t) => some t
    | _ => none
  | .unmeasuredStatus (.fin t) _ => some t
  | .unmeasuredStatus _ _ => none

/-- The start of the node. -/
def MotionNode.start (config : GuardConfig) : MotionNode where
  policy := fresh config

abbrev MotionStep := Machine.Step MotionNode MotionEvent (Option Publication)

/-! ## The bound -/

/-- No axis grows by more than its acceleration allows in the time between. -/
structure SlewBounded (config : GuardConfig) (p q : Publication) : Prop where
  linearX : |q.velocity.1| ≤
    |p.velocity.1| + config.limits.maxLinearAccelMps2 * (q.time - p.time)
  linearY : |q.velocity.2.1| ≤ |p.velocity.2.1|
  angularZ : |q.velocity.2.2| ≤
    |p.velocity.2.2| + config.limits.maxAngularAccelRps2 * (q.time - p.time)

/-- Two consecutive publications of the armed phase are bounded. -/
def PublishedSlew (config : GuardConfig) (y : MotionStep) : Prop :=
  ∀ p q, y.pre.published = some p → y.output = some q → y.post.policy.phase = .armed →
    SlewBounded config p q

/-- The guard forwards a command that comes in time after the one before. -/
structure Forwards (config : GuardConfig) (g : StagedNav2Guard)
    (t linearX linearY angularZ previousAt : ℚ) : Prop where
  time : 0 ≤ t
  armed : g.phase = .armed
  fresh : g.staleReason t = none
  linearX : 0 ≤ linearX ∧ linearX ≤ config.limits.maxLinearXMps
  linearY : |linearY| ≤ config.limits.maxLinearYMps
  angularZ : |angularZ| ≤ config.limits.maxAngularZRps
  armedAt : g.armedAt ≠ none
  recent : ∀ last, g.lastCommandAt = some last →
    0 ≤ t - last ∧ t - last ≤ config.limits.commandTimeoutS
  outputAt : g.lastOutputAt = some previousAt
  elapsed : 0 ≤ t - previousAt

/-- Slewing an axis by `delta` from `previous` towards `target` ends within `limit` of zero. -/
structure AxisWithin (limit target previous delta : ℚ) : Prop where
  above : previous - delta ≤ limit
  below : -limit ≤ previous + delta
  rises : target ≤ limit ∨ previous + delta ≤ limit
  falls : -limit ≤ target ∨ -limit ≤ previous - delta

/-- Whenever the guard forwards a command and the last velocity that was published is not the
output it has recorded, each axis is close enough to zero for the time since. -/
def SlewsFromPublished (config : GuardConfig) (n : MotionNode) (event : MotionEvent) : Prop :=
  ∀ t linearX linearY angularZ previousAt p,
    event = .call (.command (.fin t) (.fin linearX) (.fin linearY) (.fin angularZ)) →
    Forwards config n.policy t linearX linearY angularZ previousAt →
    n.published = some p → p ≠ ⟨previousAt, n.policy.lastOutput⟩ →
    AxisWithin (config.limits.maxLinearAccelMps2 * (t - p.time)) linearX n.policy.lastOutput.1
        (config.limits.maxLinearAccelMps2 * (t - previousAt)) ∧
      AxisWithin (config.limits.maxAngularAccelRps2 * (t - p.time)) angularZ
        n.policy.lastOutput.2.2 (config.limits.maxAngularAccelRps2 * (t - previousAt))

section Slew

variable {config : GuardConfig} {limit target previous delta : ℚ}

lemma abs_slew_le_iff (hdelta : 0 ≤ delta) :
    |slew target previous delta| ≤ limit ↔ AxisWithin limit target previous delta := by
  unfold slew
  rw [abs_le, le_min_iff, le_max_iff, min_le_iff, max_le_iff]
  constructor
  · rintro ⟨⟨hfalls, hbelow⟩, hrises⟩
    refine ⟨?_, hbelow, hrises.imp_left And.left, hfalls⟩
    rcases hrises with hrises | hrises
    · exact hrises.2
    · linarith
  · rintro ⟨habove, hbelow, hrises, hfalls⟩
    exact ⟨⟨hfalls, hbelow⟩, hrises.imp_left fun h => ⟨h, habove⟩⟩

/-- A slew grows by no more than its step. -/
lemma abs_slew_le (hdelta : 0 ≤ delta) : |slew target previous delta| ≤ |previous| + delta := by
  have hbounds := abs_le.mp (le_refl |previous|)
  rw [abs_slew_le_iff hdelta]
  exact ⟨by linarith, by linarith, .inr (by linarith), .inr (by linarith)⟩

end Slew

/-! ## One command -/

section Commands

variable {lib : Library} {config : GuardConfig} {g : StagedNav2Guard}

/-- What a command does. -/
inductive CommandOutcome (config : GuardConfig) (g : StagedNav2Guard)
    (t linearX linearY angularZ : ℚ) : Outcome → Prop where
  | forwarded {previousAt : ℚ} {d : Decision} {g' : StagedNav2Guard}
      (h : Forwards config g t linearX linearY angularZ previousAt)
      (hcommand : d.command = slewOutput config linearX angularZ (t - previousAt) g.lastOutput)
      (hphase : g'.phase = .armed) (houtputAt : g'.lastOutputAt = some t)
      (houtput : g'.lastOutput = d.command) :
      CommandOutcome config g t linearX linearY angularZ (.ok d, g')
  /-- After a gap the guard starts from zero again. -/
  | resumed {last : ℚ} {d : Decision} {g' : StagedNav2Guard} (hlast : g.lastCommandAt = some last)
      (hgap : config.limits.commandTimeoutS < t - last) (hstill : d.Still) :
      CommandOutcome config g t linearX linearY angularZ (.ok d, g')
  | raised {e : Raised} : CommandOutcome config g t linearX linearY angularZ (.error e, g)
  | refused {o : Outcome} (hphase : o.2.phase ≠ .armed) :
      CommandOutcome config g t linearX linearY angularZ o

lemma phase_trip_ne (g : StagedNav2Guard) (reason : String) :
    (g.trip reason).2.phase ≠ .armed := by
  rw [show (g.trip reason).2.phase = .fault from tripped_phase reason g]
  decide

variable (config g) in
lemma commandOutcome (t linearX linearY angularZ : ℚ) :
    CommandOutcome config g t linearX linearY angularZ
      (command config (.fin t) (.fin linearX) (.fin linearY) (.fin angularZ) g) := by
  refine withTime_cases (fun _ => .raised) fun t' ht htime => ?_
  obtain rfl : t = t' := ExtRat.fin.inj ht
  simp only
  unfold commandFinite
  split
  · exact .refused ‹_›
  rename_i hphase
  split
  · exact .refused (phase_trip_ne g _)
  rename_i hfresh
  split
  · exact .refused (phase_trip_ne g _)
  rename_i hlinearX
  rw [not_or, not_lt, gt_iff_lt, not_lt] at hlinearX
  split
  · exact .refused (phase_trip_ne g _)
  rename_i hlinearY
  split
  · exact .refused (phase_trip_ne g _)
  rename_i hangularZ
  split
  · exact .refused (phase_trip_ne g _)
  rename_i harmedAt
  rw [not_not] at hphase
  -- without a gap the command is slewed from the recorded output
  have hforward : (∀ last, g.lastCommandAt = some last →
      0 ≤ t - last ∧ t - last ≤ config.limits.commandTimeoutS) →
      CommandOutcome config g t linearX linearY angularZ
        (g.forward config t linearX angularZ) := by
    intro hrecent
    unfold forward
    split
    · exact .refused (phase_trip_ne g _)
    rename_i previousAt houtputAt
    split
    · exact .refused (phase_trip_ne g _)
    rename_i helapsed
    exact .forwarded ⟨htime, hphase, hfresh, hlinearX, not_lt.mp hlinearY, not_lt.mp hangularZ,
      harmedAt, hrecent, houtputAt, not_lt.mp helapsed⟩ rfl hphase rfl rfl
  unfold forwardAfterGap
  split
  · rename_i hnone
    exact hforward fun last hlast => by cases hnone.symm.trans hlast
  rename_i last hlast
  split
  · exact .refused (phase_trip_ne g _)
  rename_i hnotNegative
  split
  · rename_i hgap
    have helapsed : ¬ t - t < 0 := by simp
    simp only [forward, holdZeroForCommandGap, helapsed, if_false]
    refine .resumed hlast hgap ?_
    simp [Decision.Still, slewOutput, slew]
  · rename_i hnoGap
    refine hforward fun last' hlast' => ?_
    obtain rfl : last = last' := Option.some.inj (hlast.symm.trans hlast')
    exact ⟨not_lt.mp hnotNegative, not_lt.mp hnoGap⟩

/-- A command that the guard forwards. -/
lemma command_of_forwards {t linearX linearY angularZ previousAt : ℚ}
    (h : Forwards config g t linearX linearY angularZ previousAt) :
    ∃ d g', command config (.fin t) (.fin linearX) (.fin linearY) (.fin angularZ) g =
        (.ok d, g') ∧ g'.phase = .armed ∧
      d.command = slewOutput config linearX angularZ (t - previousAt) g.lastOutput := by
  obtain ⟨htime, harmed, hfresh, hlinearX, hlinearY, hangularZ, harmedAt, hrecent, houtputAt,
    helapsed⟩ := h
  have hforward : g.forwardAfterGap config t linearX angularZ =
      g.forward config t linearX angularZ := by
    unfold forwardAfterGap
    split
    · rfl
    rename_i last hlast
    obtain ⟨hnotNegative, hnoGap⟩ := hrecent last hlast
    rw [if_neg (not_lt.mpr hnotNegative), if_neg (not_lt.mpr hnoGap)]
  have hcommand : command config (.fin t) (.fin linearX) (.fin linearY) (.fin angularZ) g =
      g.forward config t linearX angularZ := by
    have hx : ¬ (linearX < 0 ∨ linearX > config.limits.maxLinearXMps) := by
      rw [not_or, not_lt, gt_iff_lt, not_lt]
      exact hlinearX
    simp only [command, withTime, if_neg (not_lt.mpr htime), commandFinite, harmed, hfresh,
      if_neg hx, if_neg (not_lt.mpr hlinearY), if_neg (not_lt.mpr hangularZ), gt_iff_lt,
      if_neg harmedAt, ne_eq, not_true_eq_false, if_false, hforward]
  rw [hcommand]
  simp only [forward, houtputAt, if_neg (not_lt.mpr helapsed)]
  exact ⟨_, _, rfl, harmed, rfl⟩

end Commands

/-! ## The other calls -/

section Calls

variable {lib : Library} {config : GuardConfig} {g : StagedNav2Guard}

/-- A decision that is not that of a command moves nothing. -/
lemma Transition.still {op : Operation} {o : Outcome} (h : Transition lib config g op o)
    (hop : ∀ t linearX linearY angularZ,
      op ≠ .command (.fin t) (.fin linearX) (.fin linearY) (.fin angularZ))
    {d : Decision} (hd : o.1 = .ok d) : d.Still := by
  cases h with
  | settled h => exact (Begun.settled h : Begun lib config 0 "" g o).still hd
  | completed _ hstill => cases hd; exact hstill
  | claimRaised => cases hd
  | claimed _ _ _ _ _ _ hbegun =>
    rcases hbegun with hsettled | ⟨-, hbegun⟩
    · exact (Begun.settled hsettled : Begun lib config 0 "" _ o).still hd
    · exact hbegun.still hd
  | unverified _ hstill => cases hd; exact hstill
  | begun _ _ _ hbegun => exact hbegun.still hd
  | confirmed _ _ _ _ hstill => cases hd; exact hstill
  | entered _ _ _ _ _ _ _ hstill => cases hd; exact hstill
  | forwarded hcommand => exact absurd hcommand (hop _ _ _ _)

/-- What the guard has recorded as its last output. -/
def StagedNav2Guard.record (g : StagedNav2Guard) : Option ℚ × Velocity :=
  (g.lastOutputAt, g.lastOutput)

/-- Unless it disarms the guard the outcome keeps the recorded output. -/
def KeepsRecord (g : StagedNav2Guard) (o : Outcome) : Prop :=
  o.2.phase = .armed → o.2.record = g.record

lemma keepsRecord_trip (g g' : StagedNav2Guard) (reason : String) :
    KeepsRecord g (g'.trip reason) :=
  fun h => absurd h (phase_trip_ne g' reason)

lemma keepsRecord_reject {g' : StagedNav2Guard} (h : g'.record = g.record) (reason : String) :
    KeepsRecord g (g'.reject reason) := by
  unfold reject
  split
  · exact keepsRecord_trip g g' reason
  · exact fun _ => h

lemma keepsRecord_withTime {nowS : ExtRat} {method : ℚ → StagedNav2Guard → Outcome}
    (h : ∀ t, KeepsRecord g (method t g)) : KeepsRecord g (g.withTime nowS method) :=
  withTime_cases (fun _ _ => rfl) fun t _ _ => h t

lemma keepsRecord_observe {g' : StagedNav2Guard} (h : g'.record = g.record) (name : String)
    (nowS : ExtRat) (sourceAgeS : Option ExtRat) :
    KeepsRecord g (g'.observe name nowS sourceAgeS) := by
  unfold observe
  split
  · exact fun _ => h
  refine withTime_cases (fun _ _ => h) fun t _ _ => ?_
  unfold observeAt
  split
  · exact fun _ => h
  split
  · exact fun _ => h
  · exact keepsRecord_reject (by exact h) _

lemma keepsRecord_observeOdom (nowS xM yM : ExtRat) (sourceAgeS : Option ExtRat) :
    KeepsRecord g (g.observeOdom lib config nowS xM yM sourceAgeS) := by
  have hobserve := keepsRecord_observe (rfl : g.record = g.record) "odom" nowS sourceAgeS
  unfold observeOdom
  split
  · generalize g.observe "odom" nowS sourceAgeS = o at hobserve
    split
    · exact hobserve
    · split
      · exact hobserve
      simp only
      split
      · unfold addDistance
        simp only
        split
        · exact keepsRecord_trip g _ _
        · exact hobserve
      · exact hobserve
  · exact keepsRecord_trip g g _

lemma keepsRecord_observeLocalization (nowS : ExtRat) (frameId : String) (xM yM yawRad : ExtRat)
    (sourceAgeS : Option ExtRat) :
    KeepsRecord g (g.observeLocalization lib config nowS frameId xM yM yawRad sourceAgeS) := by
  unfold observeLocalization
  split
  · exact fun _ => rfl
  have hobserve : KeepsRecord g (observe "localization" nowS sourceAgeS { g with
      localizationXy := some (xM.toRat, yM.toRat)
      localizationYaw := some yawRad.toRat }) :=
    keepsRecord_observe rfl "localization" nowS sourceAgeS
  simp only
  generalize observe "localization" nowS sourceAgeS _ = o at hobserve
  split
  · exact hobserve
  · split
    · exact keepsRecord_trip g _ _
    · exact hobserve

lemma keepsRecord_observeMapLifecycle (nowS : ExtRat) (mapId mode : String)
    (generation : PyValue) :
    KeepsRecord g (observeMapLifecycle lib config nowS mapId mode generation g) := by
  refine keepsRecord_withTime fun t => ?_
  split
  · exact keepsRecord_reject rfl _
  split
  · exact keepsRecord_reject rfl _
  split
  · exact keepsRecord_trip g g _
  · exact fun _ => rfl

lemma keepsRecord_observeChassisStatus (hphase : g.phase = .armed) (nowS : ExtRat)
    (status : ChassisStatus) :
    KeepsRecord g (observeChassisStatus lib config nowS status g) := by
  refine keepsRecord_withTime fun t => ?_
  split
  · exact keepsRecord_reject rfl _
  simp only [setWitness_phase, hphase, if_true]
  split
  · exact keepsRecord_trip g _ _
  split
  · exact keepsRecord_trip g _ _
  · exact fun _ => rfl

/-- The method answers. -/
def Answers (o : Outcome) : Prop := ∃ d g', o = (.ok d, g')

/-- A callback that always publishes keeps the recorded output where it does not. -/
lemma keepsRecord_of_unpublished {op : Operation} {nowS : ExtRat}
    {method : ℚ → StagedNav2Guard → Outcome} (hnow : op.nowS? = some nowS)
    (hpublishes : ∀ d g', publishes op d g' = true)
    (hmethod : ∀ t, Answers (method t g) ∨ KeepsRecord g (method t g)) :
    publication op (g.withTime nowS method) = none → KeepsRecord g (g.withTime nowS method) := by
  refine withTime_cases (P := fun o => publication op o = none → KeepsRecord g o)
    (fun _ _ _ => rfl) fun t ht _ hnone => ?_
  rcases hmethod t with ⟨d, g', hanswer⟩ | hkeeps
  · rw [hanswer] at hnone
    simp [publication, hnow, ht, hpublishes] at hnone
  · exact hkeeps

lemma answers_command (t : ℚ) (linearX linearY angularZ : ExtRat) :
    Answers (match linearX, linearY, angularZ with
      | .fin linearX, .fin linearY, .fin angularZ =>
        g.commandFinite config linearX linearY angularZ t
      | _, _, _ => g.trip "command_non_finite") := by
  split
  · unfold commandFinite forwardAfterGap forward
    repeat' split
    all_goals exact ⟨_, _, rfl⟩
  · exact ⟨_, _, rfl⟩

lemma answers_tickArmed (t : ℚ) : Answers (g.tickArmed config t) := by
  unfold tickArmed
  repeat' split
  all_goals exact ⟨_, _, rfl⟩

lemma answers_observeGoalStatuses (t : ℚ) (statuses : List (String × String)) :
    Answers (if (activeEntries lib statuses).length > 1 then
        g.trip "multiple_active_nav2_goals"
      else if g.goalId ≠ "" then g.observeBoundGoal lib statuses
      else g.observeUnboundGoal lib config statuses t) := by
  split
  · exact ⟨_, _, rfl⟩
  split
  · unfold observeBoundGoal
    repeat' split
    all_goals exact ⟨_, _, rfl⟩
  unfold observeUnboundGoal
  repeat' split
  all_goals first | exact ⟨_, _, rfl⟩ | exact beginGoal_ok ..

/-- A call whose decision is not published keeps the recorded output. -/
lemma keepsRecord_perform (hphase : g.phase = .armed) (op : Operation)
    (hnone : publication op (perform lib config op g) = none) :
    KeepsRecord g (perform lib config op g) := by
  cases op with
  | observe name nowS sourceAgeS => exact keepsRecord_observe rfl name nowS sourceAgeS
  | observeOdom nowS xM yM sourceAgeS => exact keepsRecord_observeOdom nowS xM yM sourceAgeS
  | observeState nowS mode errorCode sourceAgeS =>
    show KeepsRecord g (g.observeState config nowS mode errorCode sourceAgeS)
    unfold observeState
    split
    · exact keepsRecord_reject rfl _
    · exact keepsRecord_observe rfl "state" nowS sourceAgeS
  | observeScan nowS scan sourceAgeS =>
    show KeepsRecord g (g.observeScan lib nowS scan sourceAgeS)
    unfold observeScan
    split
    · exact fun _ => rfl
    · exact keepsRecord_observe rfl "scan" nowS sourceAgeS
  | observeLocalization nowS frameId xM yM yawRad sourceAgeS =>
    exact keepsRecord_observeLocalization nowS frameId xM yM yawRad sourceAgeS
  | observeOwnership nowS controllers outputs chassis canonical =>
    refine keepsRecord_withTime fun t => ?_
    simp only
    split
    · exact keepsRecord_reject rfl _
    · exact fun _ => rfl
  | observeMapLifecycle nowS mapId mode generation =>
    exact keepsRecord_observeMapLifecycle nowS mapId mode generation
  | observeChassisStatus nowS status =>
    exact keepsRecord_observeChassisStatus hphase nowS status
  | observeGoalClaim nowS payload publisherNodes =>
    refine keepsRecord_of_unpublished rfl (fun _ _ => rfl) (fun t => ?_) hnone
    split
    · exact .inl ⟨_, _, rfl⟩
    split
    · exact .inl ⟨_, _, rfl⟩
    split
    · exact .inl ⟨_, _, rfl⟩
    simp only
    split
    · exact .inr fun _ => rfl
    · exact .inl ⟨_, _, rfl⟩
    · exact .inl (claimAccepted_cases lib config t _ _).1
  | refreshGoalClaim nowS =>
    refine keepsRecord_withTime fun t => ?_
    split
    · exact fun _ => rfl
    · exact fun _ => rfl
  | observeGoalStatuses nowS statuses =>
    refine keepsRecord_of_unpublished rfl (fun _ _ => rfl) (fun t => .inl ?_) hnone
    exact answers_observeGoalStatuses t statuses
  | confirmArm success nowS =>
    refine keepsRecord_of_unpublished rfl (fun _ _ => rfl) (fun t => .inl ?_) hnone
    rw [if_pos (by rw [hphase]; decide)]
    exact ⟨_, _, rfl⟩
  | command nowS linearX linearY angularZ =>
    refine keepsRecord_of_unpublished rfl (fun _ _ => rfl) (fun t => .inl ?_) hnone
    exact answers_command t linearX linearY angularZ
  | tick nowS =>
    refine keepsRecord_of_unpublished rfl (fun _ _ => rfl) (fun t => .inl ?_) hnone
    simp only [hphase]
    exact answers_tickArmed t
  | disconnect reason => exact keepsRecord_trip g g reason
  | shutdown => exact keepsRecord_trip g g _

end Calls

/-! ## One callback -/

section Callbacks

variable {lib : Library} {config : GuardConfig} {n : MotionNode}

variable (lib config n) in
lemma motionNode_call (op : Operation) :
    (motionNode lib config).step n (.call op) =
      let o := perform lib config op n.policy
      (publication op o,
        { policy := o.2
          published :=
            if o.2.phase = .armed then (publication op o).or n.published else none }) := rfl

variable (lib config n) in
/-- A callback leaves the armed phase, or does what a single call does. -/
lemma step_cases (event : MotionEvent) :
    ((motionNode lib config).step n event).2.policy.phase ≠ .armed ∨
      ∃ op, event.time? = (MotionEvent.call op).time? ∧
        (motionNode lib config).step n event = (motionNode lib config).step n (.call op) ∧
        (event = .call op ∨ ∃ nowS status, op = .observeChassisStatus nowS status) := by
  cases event with
  | call op => exact .inr ⟨op, rfl, rfl, .inl rfl⟩
  | unmeasuredStatus nowS status =>
    by_cases hentered :
      entersMeasured (perform lib config (.observeChassisStatus nowS status) n.policy) = true
    · left
      simp only [motionNode, callback, hentered, if_true]
      exact phase_trip_ne _ _
    · refine .inr ⟨.observeChassisStatus nowS status, ?_, ?_, .inr ⟨nowS, status, rfl⟩⟩
      · cases nowS <;> rfl
      · simp only [motionNode, callback, hentered]
        rfl

lemma publication_eq_some {op : Operation} {o : Outcome} {q : Publication}
    (h : publication op o = some q) :
    ∃ d, o.1 = .ok d ∧ q.velocity = d.command ∧
      (MotionEvent.call op).time? = some q.time := by
  unfold publication at h
  split at h
  · rename_i d t hd ht
    rw [Option.ite_none_right_eq_some, Option.some.injEq] at h
    obtain ⟨-, rfl⟩ := h
    exact ⟨d, hd, rfl, by simp [MotionEvent.time?, ht]⟩
  · cases h

/-- What is published last is a zero or the recorded output. -/
structure Published (n : MotionNode) : Prop where
  armed : ∀ p, n.published = some p → n.policy.phase = .armed
  recorded : ∀ p, n.published = some p →
    p.velocity = 0 ∨ n.policy.record = (some p.time, p.velocity)

/-- A publication of the armed phase is a zero or the slewed output of a command. -/
lemma publication_cases {op : Operation} {q : Publication}
    (hphase : (perform lib config op n.policy).2.phase = .armed)
    (hq : publication op (perform lib config op n.policy) = some q) :
    q.velocity = 0 ∨ ∃ linearX linearY angularZ previousAt,
      op = .command (.fin q.time) (.fin linearX) (.fin linearY) (.fin angularZ) ∧
        Forwards config n.policy q.time linearX linearY angularZ previousAt ∧
        q.velocity =
          slewOutput config linearX angularZ (q.time - previousAt) n.policy.lastOutput ∧
        (perform lib config op n.policy).2.record = (some q.time, q.velocity) := by
  obtain ⟨d, hd, hvelocity, htime⟩ := publication_eq_some hq
  rw [hvelocity]
  by_cases hop : ∃ t linearX linearY angularZ,
      op = .command (.fin t) (.fin linearX) (.fin linearY) (.fin angularZ)
  · obtain ⟨t, linearX, linearY, angularZ, rfl⟩ := hop
    obtain rfl : t = q.time := Option.some.inj htime
    have houtcome : CommandOutcome config n.policy q.time linearX linearY angularZ
        (perform lib config (.command (.fin q.time) (.fin linearX) (.fin linearY)
          (.fin angularZ)) n.policy) := commandOutcome config n.policy _ linearX linearY angularZ
    generalize perform lib config _ n.policy = o at hphase hd houtcome
    cases houtcome with
    | forwarded h hcommand _ houtputAt houtput =>
      cases hd
      refine .inr ⟨linearX, linearY, angularZ, _, rfl, h, hcommand, ?_⟩
      rw [record, houtputAt, houtput]
    | resumed _ _ hstill =>
      cases hd
      exact .inl hstill
    | raised => cases hd
    | refused hrefused => exact absurd hphase hrefused
  · push Not at hop
    exact .inl ((transition_of_perform lib config op n.policy).still hop hd)

lemma Published.step (hn : Published n) (event : MotionEvent) :
    Published ((motionNode lib config).step n event).2 := by
  rcases step_cases lib config n event with hphase | ⟨op, -, hstep, -⟩
  · have hnone : ((motionNode lib config).step n event).2.published = none := if_neg hphase
    exact ⟨fun p hp => (by cases hnone.symm.trans hp), fun p hp => (by cases hnone.symm.trans hp)⟩
  rw [hstep, motionNode_call]
  simp only
  by_cases hphase : (perform lib config op n.policy).2.phase = .armed
  · rw [if_pos hphase]
    refine ⟨fun _ _ => hphase, fun p hp => ?_⟩
    cases hq : publication op (perform lib config op n.policy) with
    | some q =>
      rw [hq, Option.some_or, Option.some.injEq] at hp
      subst hp
      rcases publication_cases hphase hq with hzero | ⟨_, _, _, _, _, _, _, hrecord⟩
      · exact .inl hzero
      · exact .inr hrecord
    | none =>
      rw [hq, Option.none_or] at hp
      have hkeeps := keepsRecord_perform (hn.armed p hp) op hq hphase
      rw [hkeeps]
      exact hn.recorded p hp
  · rw [if_neg hphase]
    exact ⟨fun p hp => (by cases hp), fun p hp => (by cases hp)⟩

lemma published_invariant (lib : Library) (config : GuardConfig) :
    (motionNode lib config).Invariant (.start config) Published where
  init := ⟨fun p hp => (by cases hp), fun p hp => (by cases hp)⟩
  step _ event hn := hn.step event

/-- A zero is bounded. -/
lemma slewBounded_zero {p q : Publication} (haccel : Accelerates config)
    (htime : p.time ≤ q.time) (hzero : q.velocity = 0) : SlewBounded config p q := by
  have helapsed : 0 ≤ q.time - p.time := sub_nonneg.mpr htime
  have hlinear := mul_nonneg haccel.1 helapsed
  have hangular := mul_nonneg haccel.2 helapsed
  refine ⟨?_, ?_, ?_⟩
  · rw [hzero, Prod.fst_zero, abs_zero]
    exact add_nonneg (abs_nonneg _) hlinear
  · rw [hzero, Prod.snd_zero, Prod.fst_zero, abs_zero]
    exact abs_nonneg _
  · rw [hzero, Prod.snd_zero, Prod.snd_zero, abs_zero]
    exact add_nonneg (abs_nonneg _) hangular

/-- A command that follows its own record is bounded. -/
lemma slewBounded_record {p q : Publication} (haccel : Accelerates config)
    {linearX angularZ : ℚ} (htime : 0 ≤ q.time - p.time)
    (hvelocity : q.velocity =
      slewOutput config linearX angularZ (q.time - p.time) p.velocity) :
    SlewBounded config p q := by
  refine ⟨?_, ?_, ?_⟩
  · rw [hvelocity]
    exact abs_slew_le (mul_nonneg haccel.1 htime)
  · rw [hvelocity, slewOutput, abs_zero]
    exact abs_nonneg _
  · rw [hvelocity]
    exact abs_slew_le (mul_nonneg haccel.2 htime)

lemma publishedSlew_of_slews (haccel : Accelerates config)
    {event : MotionEvent}
    (hclock : ∀ p t, n.published = some p → event.time? = some t → p.time ≤ t)
    (h : SlewsFromPublished config n event) :
    PublishedSlew config ((motionNode lib config).stepAt n event) := by
  intro p q hp hq hphase
  have hq' : ((motionNode lib config).step n event).1 = some q := hq
  have hphase' : ((motionNode lib config).step n event).2.policy.phase = .armed := hphase
  rcases step_cases lib config n event with hdisarmed | ⟨op, htime, hstep, hop⟩
  · exact absurd hphase' hdisarmed
  rw [hstep, motionNode_call] at hq' hphase'
  obtain ⟨-, -, -, hqtime⟩ := publication_eq_some hq'
  have hle : p.time ≤ q.time := hclock p q.time hp (htime.trans hqtime)
  rcases publication_cases hphase' hq' with
    hzero | ⟨linearX, linearY, angularZ, previousAt, hcommand, hforwards, hvelocity, -⟩
  · exact slewBounded_zero haccel hle hzero
  obtain rfl : event = .call op := hop.resolve_right (by
    rintro ⟨nowS, status, hstatus⟩
    cases hcommand.symm.trans hstatus)
  by_cases hrecord : p = ⟨previousAt, n.policy.lastOutput⟩
  · subst hrecord
    exact slewBounded_record haccel hforwards.elapsed hvelocity
  · obtain ⟨hlinear, hangular⟩ := h _ _ _ _ _ p (congrArg MotionEvent.call hcommand) hforwards hp
      hrecord
    rw [← abs_slew_le_iff (mul_nonneg haccel.1 hforwards.elapsed)] at hlinear
    rw [← abs_slew_le_iff (mul_nonneg haccel.2 hforwards.elapsed)] at hangular
    refine ⟨?_, ?_, ?_⟩
    · rw [hvelocity]
      exact hlinear.trans (le_add_of_nonneg_left (abs_nonneg _))
    · rw [hvelocity, slewOutput, abs_zero]
      exact abs_nonneg _
    · rw [hvelocity]
      exact hangular.trans (le_add_of_nonneg_left (abs_nonneg _))

lemma slews_of_publishedSlew (hn : Published n) (haccel : Accelerates config)
    {event : MotionEvent}
    (h : PublishedSlew config ((motionNode lib config).stepAt n event)) :
    SlewsFromPublished config n event := by
  intro t linearX linearY angularZ previousAt p hevent hforwards hp hne
  subst hevent
  obtain ⟨d, g', hcommand, hphase, hd⟩ := command_of_forwards hforwards
  have hperform : perform lib config
      (.command (.fin t) (.fin linearX) (.fin linearY) (.fin angularZ)) n.policy = (.ok d, g') :=
    hcommand
  have hzero : p.velocity = 0 := by
    refine (hn.recorded p hp).resolve_right fun hrecord => hne ?_
    obtain ⟨hat, hvelocity⟩ := Prod.mk.inj hrecord
    obtain rfl : previousAt = p.time := Option.some.inj (hforwards.outputAt.symm.trans hat)
    rw [hvelocity]
  have hstep := motionNode_call lib config n
    (.command (.fin t) (.fin linearX) (.fin linearY) (.fin angularZ))
  rw [hperform] at hstep
  have hbounded : SlewBounded config p ⟨t, d.command⟩ :=
    h p ⟨t, d.command⟩ hp (congrArg Prod.fst hstep)
      ((congrArg (fun o => o.2.policy.phase) hstep).trans hphase)
  obtain ⟨hlinear, -, hangular⟩ := hbounded
  rw [hzero, hd, Prod.fst_zero, abs_zero, zero_add] at hlinear
  rw [hzero, hd, Prod.snd_zero, Prod.snd_zero, abs_zero, zero_add] at hangular
  exact ⟨(abs_slew_le_iff (mul_nonneg haccel.1 hforwards.elapsed)).mp hlinear,
    (abs_slew_le_iff (mul_nonneg haccel.2 hforwards.elapsed)).mp hangular⟩

end Callbacks

/-! ## The publications of a run -/

section Runs

variable {lib : Library} {config : GuardConfig}

/-- What is published last was published by one of the callbacks. -/
lemma published_time (events : List MotionEvent) {p : Publication}
    (h : ((motionNode lib config).final (.start config) events).published = some p) :
    ∃ event ∈ events, event.time? = some p.time := by
  induction events using List.reverseRecOn with
  | nil => cases h
  | append_singleton events event ih =>
    rw [Machine.final_concat] at h
    generalize hn : (motionNode lib config).final (.start config) events = n at h ih
    rcases step_cases lib config n event with
      hdisarmed | ⟨op, htime, hstep, -⟩
    · have hnone : ((motionNode lib config).step n event).2.published = none := if_neg hdisarmed
      cases hnone.symm.trans h
    · rw [hstep, motionNode_call] at h
      simp only at h
      split at h
      · cases hq : publication op (perform lib config op n.policy) with
        | some q =>
          rw [hq, Option.some_or, Option.some.injEq] at h
          subst h
          obtain ⟨-, -, -, hqtime⟩ := publication_eq_some hq
          exact ⟨event, by simp, htime.trans hqtime⟩
        | none =>
          rw [hq, Option.none_or] at h
          obtain ⟨earlier, hearlier, hat⟩ := ih h
          exact ⟨earlier, by simp [hearlier], hat⟩
      · cases h

/-- **When the published velocity is slewed.**  In a run on a clock that does not go back, every
two consecutive publications of the armed phase are bounded exactly when every command that is
forwarded after something else than the recorded output stays close enough to zero. -/
theorem publishedSlew_iff (lib : Library) (config : GuardConfig) (events : List MotionEvent)
    (haccel : Accelerates config)
    (hclock : (events.filterMap MotionEvent.time?).Pairwise (· ≤ ·)) :
    (∀ y ∈ (motionNode lib config).trace (.start config) events, PublishedSlew config y) ↔
      ∀ y ∈ (motionNode lib config).trace (.start config) events,
        SlewsFromPublished config y.pre y.event := by
  refine forall₂_congr fun y hy => ?_
  obtain ⟨before, after, hevents, hye⟩ := (motionNode lib config).mem_trace_stepAt hy
  have hn := (published_invariant lib config).pre hy
  have hpre : y.pre = (motionNode lib config).final (.start config) before := by
    rw [hye]
    rfl
  have hlater : ∀ p t, y.pre.published = some p → y.event.time? = some t → p.time ≤ t := by
    intro p t hp ht
    obtain ⟨earlier, hearlier, hat⟩ := published_time before (hpre ▸ hp)
    rw [hevents, List.filterMap_append, List.pairwise_append] at hclock
    exact hclock.2.2 p.time (List.mem_filterMap.mpr ⟨earlier, hearlier, hat⟩) t
      (List.mem_filterMap.mpr ⟨y.event, by simp, ht⟩)
  rw [hpre] at hn hlater ⊢
  constructor
  · intro h
    rw [hye] at h
    exact slews_of_publishedSlew hn haccel h
  · intro h
    rw [hye]
    exact publishedSlew_of_slews haccel hlater h

lemma accelerates_missionConfig : Accelerates missionConfig := by
  unfold Accelerates
  decide +kernel

theorem publishedSlew_missionStart :
    (∀ y ∈ (motionNode plainLibrary missionConfig).trace (.start missionConfig)
      (missionStart.map .call), PublishedSlew missionConfig y) ↔
      ∀ y ∈ (motionNode plainLibrary missionConfig).trace (.start missionConfig)
        (missionStart.map .call), SlewsFromPublished missionConfig y.pre y.event :=
  publishedSlew_iff plainLibrary missionConfig (missionStart.map .call) accelerates_missionConfig
    (by decide +kernel)

/-- The timer publishes a zero after the first command. -/
def missionMotion : List Operation := missionStart ++ [.tick (.fin 0.72)]

/-- The command after the zero of a healthy tick is slewed from the command before it. -/
theorem not_publishedSlew_missionMotion : ¬ ∀ lib config events, Accelerates config →
    (events.filterMap MotionEvent.time?).Pairwise (· ≤ ·) →
    ∀ y ∈ (motionNode lib config).trace (.start config) events, PublishedSlew config y := by
  intro h
  let machine := motionNode plainLibrary missionConfig
  let last : MotionEvent := .call (.command (.fin 0.74) (.fin 0.1) (.fin 0) (.fin 0))
  let y := machine.stepAt (machine.final (.start missionConfig) (missionMotion.map .call)) last
  have hy : y ∈ machine.trace (.start missionConfig) (missionMotion.map .call ++ [last]) := by
    rw [machine.trace_concat]
    exact List.mem_append_right _ (List.mem_singleton.mpr rfl)
  have hslew := h plainLibrary missionConfig (missionMotion.map .call ++ [last])
    accelerates_missionConfig (by decide +kernel) y hy
  have hbounded := hslew ⟨0.72, 0⟩ ⟨0.74, (0.042, 0, 0)⟩ (by decide +kernel) (by decide +kernel)
    (by decide +kernel)
  have hlinear := hbounded.linearX
  revert hlinear
  decide +kernel

end Runs

end UnitreeGo2.StagedNav2
