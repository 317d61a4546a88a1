import Mathlib.Tactic.Linarith
import Mathlib.Tactic.NormNum
import UnitreeGo2.Chassis.SafetyGuardTransitions

/-!
# The envelope of the motion guard

Every velocity that the guard decides lies within its limits, and changes no faster than its
accelerations allow.
-/

namespace UnitreeGo2.Chassis

open SafetyGuard

namespace SafetyGuard

/-! ## Clamping and slewing -/

section Slew

variable {low high current target maximumDelta : ℚ}

lemma clampTo_mem (value : ℚ) (h : low ≤ high) :
    low ≤ clampTo value low high ∧ clampTo value low high ≤ high := by
  unfold clampTo
  split_ifs with h₁ h₂
  · exact ⟨le_refl _, h⟩
  · exact ⟨h, le_refl _⟩
  · exact ⟨not_lt.mp h₁, not_lt.mp h₂⟩

/-- Slewing moves by at most the maximal change. -/
lemma abs_slew_sub_le (h : 0 ≤ maximumDelta) :
    |slew current target maximumDelta - current| ≤ maximumDelta := by
  unfold slew
  split_ifs with hd
  · simpa using h
  · obtain ⟨hlow, hhigh⟩ := clampTo_mem (target - current)
      (neg_le_self (le_of_lt (not_le.mp hd)))
    rw [add_sub_cancel_left, abs_le]
    exact ⟨hlow, hhigh⟩

/-- Slewing from inside an interval towards a target inside it stays inside. -/
lemma slew_mem (hc : low ≤ current ∧ current ≤ high) (ht : low ≤ target ∧ target ≤ high) :
    low ≤ slew current target maximumDelta ∧ slew current target maximumDelta ≤ high := by
  unfold slew
  split_ifs with hd
  · exact hc
  · rw [not_le] at hd
    unfold clampTo
    split_ifs with h₁ h₂
    · constructor <;> linarith [hc.1, hc.2, ht.1, ht.2]
    · constructor <;> linarith [hc.1, hc.2, ht.1, ht.2]
    · constructor <;> linarith [ht.1, ht.2]

end Slew

end SafetyGuard

/-! ## The envelope and the slew rate of the output -/

/-- The limits and the accelerations of the guard are not negative. -/
structure GuardConfig.NonNegative (config : GuardConfig) : Prop where
  maxVx : 0 ≤ config.maxVx
  maxVy : 0 ≤ config.maxVy
  maxWz : 0 ≤ config.maxWz
  linear : 0 ≤ config.maxLinearAcceleration
  angular : 0 ≤ config.maxAngularAcceleration

/-- A velocity within the envelope. -/
structure Within (config : GuardConfig) (v : Velocity ℚ) : Prop where
  vx : 0 ≤ v.vx ∧ v.vx ≤ config.maxVx
  vy : -config.maxVy ≤ v.vy ∧ v.vy ≤ config.maxVy
  wz : -config.maxWz ≤ v.wz ∧ v.wz ≤ config.maxWz

/-- A change of velocity that the accelerations allow in a time. -/
structure Slewed (config : GuardConfig) (dt : ℚ) (v w : Velocity ℚ) : Prop where
  vx : |w.vx - v.vx| ≤ config.maxLinearAcceleration * dt
  vy : |w.vy - v.vy| ≤ config.maxLinearAcceleration * dt
  wz : |w.wz - v.wz| ≤ config.maxAngularAcceleration * dt

section Envelope

variable {config : GuardConfig}

lemma within_zero (hc : config.NonNegative) : Within config 0 where
  vx := ⟨le_refl _, hc.maxVx⟩
  vy := ⟨neg_nonpos.mpr hc.maxVy, hc.maxVy⟩
  wz := ⟨neg_nonpos.mpr hc.maxWz, hc.maxWz⟩

lemma within_clamp (hc : config.NonNegative) (command : Velocity ExtRat) :
    Within config (clamp config command) where
  vx := clampTo_mem _ hc.maxVx
  vy := clampTo_mem _ (neg_le_self hc.maxVy)
  wz := clampTo_mem _ (neg_le_self hc.maxWz)

lemma Within.slewOutput {v target : Velocity ℚ} (hv : Within config v)
    (ht : Within config target) (dt : ℚ) : Within config (slewOutput config v target dt) where
  vx := slew_mem hv.vx ht.vx
  vy := slew_mem hv.vy ht.vy
  wz := slew_mem hv.wz ht.wz

lemma slewed_slewOutput (hc : config.NonNegative) (v target : Velocity ℚ) {dt : ℚ}
    (hdt : 0 ≤ dt) : Slewed config dt v (slewOutput config v target dt) where
  vx := abs_slew_sub_le (mul_nonneg hc.linear hdt)
  vy := abs_slew_sub_le (mul_nonneg hc.linear hdt)
  wz := abs_slew_sub_le (mul_nonneg hc.angular hdt)

/-- The output of a reachable guard: zero unless it is armed, and within the envelope. -/
structure OutputBounded (config : GuardConfig) (g : SafetyGuard) : Prop where
  rest : g.state ≠ .armed → g.output = 0
  within : Within config g.output
  motion : g.state = .armed → config.allowMotion = true

lemma outputBounded_of_zero (hc : config.NonNegative) {g : SafetyGuard} (h : g.output = 0)
    (hstate : g.state ≠ .armed) : OutputBounded config g :=
  ⟨fun _ => h, h ▸ within_zero hc, fun hs => absurd hs hstate⟩

lemma OutputBounded.tickArmed (hc : config.NonNegative) {g : SafetyGuard}
    (hwithin : Within config g.output) (hmotion : config.allowMotion = true)
    (hstate : g.state = .armed) (nowSec dtSec : ℚ) :
    OutputBounded config (tickArmed config nowSec dtSec g).2 := by
  obtain ⟨hpost, -, -, hcases⟩ := tickArmed_cases config nowSec dtSec g
  refine ⟨fun h => absurd (hpost.trans hstate) h, ?_, fun _ => hmotion⟩
  rcases hcases with ⟨-, -, houtput⟩ | ⟨-, -, houtput⟩
  · rw [houtput]
    exact hwithin.slewOutput (within_clamp hc _) _
  · rw [houtput]
    exact within_zero hc

lemma SafetyGuard.TickStep.outputBounded (hc : config.NonNegative) {nowSec dtSec : ℚ}
    {g g' : SafetyGuard} {decision : GuardDecision} (h : TickStep config nowSec dtSec g decision g')
    (hg : OutputBounded config g) : OutputBounded config g' := by
  cases h with
  | @idle state reason hpre hstate =>
    have hrest : g.output = 0 := by
      rcases hpre with hmotion | ⟨-, harmed⟩
      · exact hg.rest fun harmed => by simp [hg.motion harmed] at hmotion
      · exact hg.rest harmed
    refine outputBounded_of_zero hc hrest ?_
    rcases hstate with rfl | ⟨rfl, -, harmed⟩
    · simp
    · exact harmed
  | failed => exact outputBounded_of_zero hc rfl (by simp)
  | restarted hstate =>
    exact outputBounded_of_zero hc (hg.rest (by simp [hstate])) (by simp [hstate])
  | holding hstate =>
    exact outputBounded_of_zero hc (hg.rest (by simp [hstate])) (by simp [hstate])
  | started hmotion _ _ _ _ hr =>
    subst hr
    refine OutputBounded.tickArmed hc ?_ hmotion ?_ nowSec dtSec
    · exact hg.within
    · rfl
  | continued hmotion hstate _ hr =>
    subst hr
    exact OutputBounded.tickArmed hc hg.within hmotion hstate nowSec dtSec

lemma SafetyGuard.CallStep.outputBounded (hc : config.NonNegative) {g g' : SafetyGuard}
    {event : GuardEvent} (h : CallStep config g event g') (hg : OutputBounded config g) :
    OutputBounded config g' := by
  cases h with
  | observed => exact ⟨hg.rest, hg.within, hg.motion⟩
  | commanded => exact ⟨hg.rest, hg.within, hg.motion⟩
  | opened => exact outputBounded_of_zero hc rfl (by simp)
  | unchanged => exact hg
  | closed hstate houtput =>
    refine outputBounded_of_zero hc ?_ hstate.2
    rcases houtput with hzero | ⟨hsame, hmotion⟩
    · exact hzero
    · rw [hsame]
      exact hg.rest fun harmed => by simp [hg.motion harmed] at hmotion

lemma outputBounded_invariant (hc : config.NonNegative) :
    (guard config).Invariant (SafetyGuard.init config) (OutputBounded config) where
  init := by
    refine outputBounded_of_zero hc rfl ?_
    simp only [SafetyGuard.init]
    split <;> simp
  step g event hg := by
    by_cases htick : ∃ nowSec dtSec, event = .tick nowSec dtSec
    · obtain ⟨nowSec, dtSec, rfl⟩ := htick
      exact (tick_step config nowSec dtSec g).outputBounded hc hg
    · push Not at htick
      exact (callStep_of_step config g event htick).outputBounded hc hg

end Envelope

/-! ## What a decision to move rests on -/

/-- The last robot state and the last command are valid, allowed and inside their
timeouts. -/
structure Evidence (config : GuardConfig) (l : List GuardRunStep) (nowSec : ℚ) : Prop where
  robotState : ∃ x lastSec mode, Machine.Latest IsUpdateRobotState l x ∧
    x.event = .updateRobotState lastSec mode true ∧ mode ∈ config.allowedModes ∧
    0 ≤ nowSec - lastSec ∧ nowSec - lastSec ≤ config.stateTimeoutSec
  command : ∃ x lastSec command, Machine.Latest IsUpdateCommand l x ∧
    x.event = .updateCommand lastSec command ∧ finite command = true ∧
    0 ≤ nowSec - lastSec ∧ nowSec - lastSec ≤ config.commandTimeoutSec

/-- The output from which a tick slews, and the time of the armed tick that left it: zero
and now at the tick that opens a session, else those of the previous tick. -/
inductive PreviousOutput (l : List GuardRunStep) (y : GuardRunStep) (nowSec : ℚ) :
    Velocity ℚ → ℚ → Prop where
  | opens (hpre : y.pre.state = .preparing) : PreviousOutput l y nowSec 0 nowSec
  | continues {x : GuardRunStep} {lastSec dtSec : ℚ} (hpre : y.pre.state = .armed)
      (hx : Machine.Latest IsTick l x) (hevent : x.event = .tick lastSec dtSec)
      (hpost : x.post.state = .armed) : PreviousOutput l y nowSec x.post.output lastSec

/-- A decision to move that the guard may take, where `slewSec` is the time by which a tick
may slew. -/
structure Permitted (config : GuardConfig) (slewSec : ℚ → ℚ → ℚ → ℚ) (l : List GuardRunStep)
    (y : GuardRunStep) (decision : GuardDecision) : Prop where
  armed : decision.state = .armed ∧ y.post.state = .armed
  within : Within config decision.velocity
  tick : ∃ nowSec dtSec previous lastSec, y.event = .tick nowSec dtSec ∧
    Evidence config l nowSec ∧ PreviousOutput l y nowSec previous lastSec ∧
    Slewed config (slewSec nowSec dtSec lastSec) previous decision.velocity

/-- Every decision to move of a run is permitted, and every tick that is not armed decides
to stop. -/
def Enveloped (config : GuardConfig) (slewSec : ℚ → ℚ → ℚ → ℚ) (tr : List GuardRunStep) :
    Prop :=
  ∀ l y r decision, tr = l ++ y :: r → y.output = .decision decision →
    (decision.action = .move → Permitted config slewSec l y decision) ∧
      (y.post.state ≠ .armed → decision.action = .stop)

lemma Records.evidence {config : GuardConfig} {l : List GuardRunStep} {g : SafetyGuard}
    {nowSec : ℚ} (hg : Records l g) (h : Healthy config nowSec g) :
    Evidence config l nowSec where
  robotState := by
    obtain ⟨x, hx, hevent⟩ := hg.robotState h.hasState
    rw [h.stateValid] at hevent
    exact ⟨x, _, _, hx, hevent, h.mode, h.stateFresh⟩
  command := by
    obtain ⟨x, hx, hevent⟩ := hg.command h.hasCommand
    exact ⟨x, _, _, hx, hevent, h.finite, h.commandFresh⟩

lemma slewTime_nonneg (nowSec dtSec lastSec : ℚ) : 0 ≤ slewTime nowSec dtSec lastSec :=
  le_max_left _ _

/-- Only ticks decide. -/
lemma isTick_of_decision {config : GuardConfig} {g : SafetyGuard} {event : GuardEvent}
    {decision : GuardDecision} (h : ((guard config).step g event).1 = .decision decision) :
    ∃ nowSec dtSec, event = .tick nowSec dtSec ∧
      decision = (tick config nowSec dtSec g).1 := by
  cases event with
  | tick nowSec dtSec =>
    simp only [guard, GuardAnswer.decision.injEq] at h
    exact ⟨nowSec, dtSec, rfl, h.symm⟩
  | _ => simp [guard] at h

/-- **The envelope of the motion guard.**  Every velocity that the guard decides is decided
by an armed tick on valid and recent evidence, lies within the limits, and differs from the
output before by no more than the accelerations allow in the time of the tick. -/
theorem enveloped_run (config : GuardConfig) (hc : config.NonNegative)
    (events : List GuardEvent) :
    Enveloped config slewTime ((guard config).trace (SafetyGuard.init config) events) := by
  intro l y r decision htr hdecision
  obtain ⟨before, -, -, rfl, hy, -⟩ := (guard config).trace_eq_append_cons htr
  have hrecords := records_run config before
  have hbounded := (outputBounded_invariant hc).final before
  generalize (guard config).final (SafetyGuard.init config) before = g at hy hrecords hbounded
  have hpre : y.pre = g := congrArg Machine.Step.pre hy
  have hpost : y.post = ((guard config).step g y.event).2 := congrArg Machine.Step.post hy
  have houtput : y.output = ((guard config).step g y.event).1 := congrArg Machine.Step.output hy
  obtain ⟨nowSec, dtSec, hevent, hd⟩ := isTick_of_decision (houtput.symm.trans hdecision)
  have hstep := tick_step config nowSec dtSec g
  rw [← hd] at hstep
  have hpost' : y.post = (tick config nowSec dtSec g).2 := by
    rw [hpost, hevent]
    rfl
  rw [← hpost'] at hstep
  refine ⟨fun hmove => ?_, hstep.stop⟩
  have harmed : y.post.state = .armed := by
    by_contra hne
    simp [hstep.stop hne] at hmove
  obtain ⟨hhealthy, hstate, -, lastSec, hlast, hslewed⟩ := hstep.armedTick harmed
  have hvelocity := hslewed hmove
  have hwithin : Within config decision.velocity := by
    rw [hvelocity]
    exact hbounded.within.slewOutput (within_clamp hc _) _
  have hslew : Slewed config (slewTime nowSec dtSec lastSec) g.output decision.velocity := by
    rw [hvelocity]
    exact slewed_slewOutput hc _ _ (slewTime_nonneg _ _ _)
  refine ⟨⟨hstate, harmed⟩, hwithin, nowSec, dtSec, g.output, lastSec, hevent,
    hrecords.evidence hhealthy, ?_, hslew⟩
  rcases hlast with ⟨hpreparing, rfl⟩ | ⟨hcontinued, rfl⟩
  · rw [hbounded.rest (by simp [hpreparing])]
    exact .opens (hpre ▸ hpreparing)
  · obtain ⟨x, dtSec', hx, hxevent, hxpost, hxoutput⟩ := hrecords.armedTick hcontinued
    rw [← hxoutput]
    exact .continues (hpre ▸ hcontinued) hx hxevent hxpost

/-- A configuration that arms without a preparation. -/
def driveConfig : GuardConfig :=
  { allowMotion := true, zeroPreparationSec := 0, allowedModes := [0] }

/-- A session opens at time zero, and a command for a quarter of a metre per second arrives. -/
def driveEvents : List GuardEvent :=
  [.updateRobotState 0 0 true, .updateCommand 0 0, .requestArm 0] ++
    [.tick 0 0.02, .updateCommand 0.05 ⟨.fin 0.25, .fin 0, .fin 0⟩]

lemma driveConfig_nonNegative : driveConfig.NonNegative := by
  constructor <;> norm_num [driveConfig]

theorem enveloped_drive : driveConfig.NonNegative ∧
    Enveloped driveConfig slewTime
      ((guard driveConfig).trace (SafetyGuard.init driveConfig)
        (driveEvents ++ [.tick 0.05 0.05])) :=
  ⟨driveConfig_nonNegative, enveloped_run driveConfig driveConfig_nonNegative _⟩

lemma latest_tick_driveEvents :
    Machine.Latest IsTick ((guard driveConfig).trace (SafetyGuard.init driveConfig) driveEvents)
      ((guard driveConfig).stepAt ((guard driveConfig).final (SafetyGuard.init driveConfig)
        [.updateRobotState 0 0 true, .updateCommand 0 0, .requestArm 0]) (.tick 0 0.02)) := by
  refine ⟨⟨_, _, rfl⟩, _, _, (guard driveConfig).trace_append _ _ _, ?_⟩
  intro z hz
  rw [List.mem_singleton.mp hz]
  rintro ⟨_, _, h⟩
  cases h

/-- A tick without a `dt` of its own slews by the time since the previous armed tick, and so
by more than its `dt` allows. -/
theorem not_enveloped_dtSec :
    ¬ ∀ config : GuardConfig, config.NonNegative → ∀ events,
      Enveloped config (fun _ dtSec _ => min dtSec 0.1)
        ((guard config).trace (SafetyGuard.init config) events) := by
  intro h
  have hrun := h driveConfig driveConfig_nonNegative (driveEvents ++ [.tick 0.05 0])
  rw [(guard driveConfig).trace_concat] at hrun
  let g := (guard driveConfig).final (SafetyGuard.init driveConfig) driveEvents
  have hmove : (tick driveConfig 0.05 0 g).1.action = .move := by decide +kernel
  have hvelocity : (tick driveConfig 0.05 0 g).1.velocity.vx = 0.015 := by decide +kernel
  obtain ⟨-, -, nowSec, dtSec, previous, lastSec, hevent, -, hprevious, hslewed⟩ :=
    (hrun _ _ [] (tick driveConfig 0.05 0 g).1 rfl rfl).1 hmove
  obtain ⟨rfl, rfl⟩ : 0.05 = nowSec ∧ 0 = dtSec := GuardEvent.tick.inj hevent
  have hrest : previous.vx = 0 := by
    cases hprevious with
    | opens => rfl
    | continues _ hx =>
      rw [hx.unique latest_tick_driveEvents]
      decide +kernel
  have hvx := hslewed.vx
  rw [hrest, hvelocity] at hvx
  norm_num [driveConfig] at hvx

end UnitreeGo2.Chassis
