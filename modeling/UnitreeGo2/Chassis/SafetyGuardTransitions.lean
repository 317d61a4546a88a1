import Mathlib.Algebra.Order.Ring.Rat
import Mathlib.Tactic.NormNum
import UnitreeGo2.Chassis.SafetyGuard

/-!
# The transitions of the motion guard

What one call of the guard can do: a relation for the tick, a relation for the other calls,
and what the fields of the guard record about the calls made so far.
-/

namespace UnitreeGo2.Chassis

namespace SafetyGuard

/-! ## What a healthy guard has seen -/

/-- The evidence that a healthy guard holds at a time. -/
structure Healthy (config : GuardConfig) (nowSec : ℚ) (g : SafetyGuard) : Prop where
  hasState : g.hasState = true
  stateValid : g.stateValid = true
  stateFresh : 0 ≤ nowSec - g.lastStateSec ∧ nowSec - g.lastStateSec ≤ config.stateTimeoutSec
  mode : g.stateMode ∈ config.allowedModes
  hasCommand : g.hasCommand = true
  commandFresh :
    0 ≤ nowSec - g.lastCommandSec ∧ nowSec - g.lastCommandSec ≤ config.commandTimeoutSec
  finite : SafetyGuard.finite g.command = true

lemma healthFailure_eq_none_iff {config : GuardConfig} {nowSec : ℚ} {g : SafetyGuard} :
    healthFailure config nowSec true g = none ↔ Healthy config nowSec g := by
  constructor
  · intro h
    unfold healthFailure at h
    split_ifs at h with h₁ h₂ h₃ h₄ h₅ h₆ h₇
    simp only [Bool.not_eq_true', Bool.not_eq_false, not_or, not_lt, gt_iff_lt, Bool.true_and,
      true_and] at h₁ h₂ h₃ h₄ h₅ h₆ h₇
    exact ⟨h₁, h₂, h₃, h₄, h₅, h₆, h₇⟩
  · rintro ⟨h₁, h₂, h₃, h₄, h₅, h₆, h₇⟩
    have hstate : ¬ (nowSec - g.lastStateSec < 0 ∨
        nowSec - g.lastStateSec > config.stateTimeoutSec) := by
      rw [not_or, not_lt, gt_iff_lt, not_lt]
      exact h₃
    have hcommand : ¬ (nowSec - g.lastCommandSec < 0 ∨
        nowSec - g.lastCommandSec > config.commandTimeoutSec) := by
      rw [not_or, not_lt, gt_iff_lt, not_lt]
      exact h₆
    simp only [healthFailure, h₁, h₂, h₄, h₅, h₇, hstate, hcommand, Bool.not_true,
      Bool.false_eq_true, if_false, not_true_eq_false, and_false,
      Bool.and_false]

/-! ## What one tick can do -/

/-- The transitions of a tick. -/
inductive TickStep (config : GuardConfig) (nowSec dtSec : ℚ) (g : SafetyGuard) :
    GuardDecision → SafetyGuard → Prop where
  /-- No session is open. -/
  | idle {state : GuardState} {reason : String}
      (hpre : config.allowMotion = false ∨ (g.state ≠ .preparing ∧ g.state ≠ .armed))
      (hstate : state = .disabled ∨ state = g.state ∧ g.state ≠ .preparing ∧ g.state ≠ .armed) :
      TickStep config nowSec dtSec g ⟨.stop, 0, state, reason⟩
        { g with state := state, reason := reason }
  /-- The health check ends the session. -/
  | failed {reason : String} (hmotion : config.allowMotion = true) :
      TickStep config nowSec dtSec g ⟨.stop, 0, .fault, reason⟩
        { g with state := .fault, reason := reason, output := 0 }
  | restarted {reason : String} (hstate : g.state = .preparing)
      (hcommand : isZero config g.command = false) :
      TickStep config nowSec dtSec g ⟨.stop, 0, g.state, reason⟩
        { g with preparationStartSec := nowSec, reason := reason }
  | holding {reason : String} (hstate : g.state = .preparing)
      (hcommand : isZero config g.command = true) :
      TickStep config nowSec dtSec g ⟨.stop, 0, g.state, reason⟩
        { g with reason := reason }
  /-- The preparation is over, and the session starts with its first tick. -/
  | started (hmotion : config.allowMotion = true) (hstate : g.state = .preparing)
      (hhealthy : Healthy config nowSec g) (hcommand : isZero config g.command = true)
      (hlong : config.zeroPreparationSec ≤ nowSec - g.preparationStartSec)
      {r : GuardDecision × SafetyGuard}
      (hr : r = tickArmed config nowSec dtSec { g with
        state := .armed, lastTickSec := nowSec, reason := "armed; watchdogs active" }) :
      TickStep config nowSec dtSec g r.1 r.2
  | continued (hmotion : config.allowMotion = true) (hstate : g.state = .armed)
      (hhealthy : Healthy config nowSec g) {r : GuardDecision × SafetyGuard}
      (hr : r = tickArmed config nowSec dtSec g) :
      TickStep config nowSec dtSec g r.1 r.2

theorem tick_step (config : GuardConfig) (nowSec dtSec : ℚ) (g : SafetyGuard) :
    TickStep config nowSec dtSec g (tick config nowSec dtSec g).1
      (tick config nowSec dtSec g).2 := by
  unfold tick
  cases hmotion : config.allowMotion with
  | false =>
    simp only [Bool.not_false, if_true]
    exact .idle (.inl hmotion) (.inl rfl)
  | true =>
    simp only [Bool.not_true, Bool.false_eq_true, if_false]
    split
    · rename_i hstate
      have hidle : g.state ≠ .preparing ∧ g.state ≠ .armed := by
        rcases hstate with h | h <;> simp [h]
      exact .idle (.inr hidle) (.inr ⟨rfl, hidle⟩)
    rename_i hopen
    split
    · rename_i hstate
      have hidle : g.state ≠ .preparing ∧ g.state ≠ .armed := by simp [hstate]
      exact .idle (.inr hidle) (.inr ⟨rfl, hidle⟩)
    rename_i hdisarmed
    split
    · rename_i health hhealth
      have hfault : forceFault config health g =
          { g with state := .fault, reason := health, output := 0 } := by
        simp [forceFault, hmotion]
      rw [hfault]
      exact .failed hmotion
    rename_i hhealthy
    rw [healthFailure_eq_none_iff] at hhealthy
    split
    · rename_i hstate
      cases hcommand : isZero config g.command with
      | false =>
        simp only [Bool.not_false, if_true]
        exact .restarted hstate hcommand
      | true =>
        simp only [Bool.not_true, Bool.false_eq_true, if_false]
        split
        · exact .holding hstate hcommand
        · rename_i hlong
          exact .started hmotion hstate hhealthy hcommand (not_lt.mp hlong) rfl
    · rename_i hpreparing
      have hstate : g.state = .armed := by
        cases h : g.state <;> simp_all
      exact .continued hmotion hstate hhealthy rfl

/-- An armed tick slews its output towards the clamped command, and decides it unless both
are zero. -/
lemma tickArmed_cases (config : GuardConfig) (nowSec dtSec : ℚ) (g : SafetyGuard) :
    let r := tickArmed config nowSec dtSec g
    let slewed := slewOutput config g.output (clamp config g.command) (safeDt nowSec dtSec g)
    r.2.state = g.state ∧ r.2.lastTickSec = nowSec ∧ r.1.state = g.state ∧
      (r.1.action = .move ∧ r.1.velocity = slewed ∧ r.2.output = slewed ∨
        r.1.action = .stop ∧ r.1.velocity = 0 ∧ r.2.output = 0) := by
  simp only [tickArmed]
  split
  · exact ⟨rfl, rfl, rfl, .inr ⟨rfl, rfl, rfl⟩⟩
  · exact ⟨rfl, rfl, rfl, .inl ⟨rfl, rfl, rfl⟩⟩

/-! ## What the other calls can do -/

/-- The transitions of every call but the tick. -/
inductive CallStep (config : GuardConfig) (g : SafetyGuard) :
    GuardEvent → SafetyGuard → Prop where
  | observed {nowSec : ℚ} {mode : UInt8} {valid : Bool} :
      CallStep config g (.updateRobotState nowSec mode valid)
        { g with hasState := true, lastStateSec := nowSec, stateMode := mode, stateValid := valid }
  | commanded {nowSec : ℚ} {command : Velocity ExtRat} (hfinite : finite command = true) :
      CallStep config g (.updateCommand nowSec command)
        { g with hasCommand := true, lastCommandSec := nowSec, command := command }
  | opened {nowSec : ℚ} {reason : String} (hmotion : config.allowMotion = true)
      (hstate : g.state ≠ .preparing ∧ g.state ≠ .armed ∧ g.state ≠ .fault)
      (hhealthy : Healthy config nowSec g) (hcommand : isZero config g.command = true) :
      CallStep config g (.requestArm nowSec)
        { g with state := .preparing, preparationStartSec := nowSec, output := 0, reason := reason }
  | unchanged {nowSec : ℚ} (hmotion : config.allowMotion = true) :
      CallStep config g (.requestArm nowSec) g
  /-- Every other outcome closes the session. -/
  | closed {event : GuardEvent} {g' : SafetyGuard}
      (hstate : g'.state ≠ .preparing ∧ g'.state ≠ .armed)
      (houtput : g'.output = 0 ∨ g'.output = g.output ∧ config.allowMotion = false) :
      CallStep config g event g'

end SafetyGuard

open SafetyGuard

lemma forceFault_closed (config : GuardConfig) (reason : String) (g : SafetyGuard) :
    let g' := forceFault config reason g
    (g'.state ≠ .preparing ∧ g'.state ≠ .armed) ∧ g'.output = 0 := by
  simp only [forceFault]
  split <;> simp

theorem callStep_of_step (config : GuardConfig) (g : SafetyGuard) (event : GuardEvent)
    (h : ∀ nowSec dtSec, event ≠ .tick nowSec dtSec) :
    CallStep config g event ((guard config).step g event).2 := by
  cases event with
  | updateRobotState nowSec mode valid => exact .observed
  | updateCommand nowSec command =>
    simp only [guard, updateCommand]
    cases hfinite : finite command with
    | true =>
      simp only [Bool.not_true, Bool.false_eq_true, if_false]
      exact .commanded hfinite
    | false =>
      simp only [Bool.not_false, if_true]
      obtain ⟨hstate, houtput⟩ := forceFault_closed config "command contains NaN or infinity"
        { g with hasCommand := true, lastCommandSec := nowSec, command := command }
      exact .closed hstate (.inl houtput)
  | requestArm nowSec =>
    simp only [guard, requestArm]
    cases hmotion : config.allowMotion with
    | false =>
      simp only [Bool.not_false, if_true]
      exact .closed (by simp) (.inr ⟨rfl, hmotion⟩)
    | true =>
      simp only [Bool.not_true, Bool.false_eq_true, if_false]
      split
      · exact .unchanged hmotion
      rename_i hfault
      split
      · exact .unchanged hmotion
      rename_i hopen
      rw [not_or] at hopen
      split
      · exact .unchanged hmotion
      rename_i hhealthy
      rw [healthFailure_eq_none_iff] at hhealthy
      cases hcommand : isZero config g.command with
      | false =>
        simp only [Bool.not_false, if_true]
        exact .unchanged hmotion
      | true =>
        simp only [Bool.not_true, Bool.false_eq_true, if_false]
        exact .opened hmotion ⟨hopen.2, hopen.1, hfault⟩ hhealthy hcommand
  | requestDisarm nowSec =>
    simp only [guard, requestDisarm]
    split
    · exact .closed (by simp) (.inl rfl)
    split
    · rename_i hfault
      simp only [Bool.and_eq_true, decide_eq_true_eq] at hfault
      exact .closed (by simp [hfault.1]) (.inl rfl)
    · exact .closed (by simp) (.inl rfl)
  | forceFault reason =>
    obtain ⟨hstate, houtput⟩ := forceFault_closed config reason g
    exact .closed hstate (.inl houtput)
  | tick nowSec dtSec => exact absurd rfl (h nowSec dtSec)

/-! ## What the fields of the guard record -/

/-- A step of the guard. -/
abbrev GuardRunStep := Machine.Step SafetyGuard GuardEvent GuardAnswer

def IsTick (x : GuardRunStep) : Prop := ∃ nowSec dtSec, x.event = .tick nowSec dtSec

def IsUpdateRobotState (x : GuardRunStep) : Prop :=
  ∃ nowSec mode valid, x.event = .updateRobotState nowSec mode valid

def IsUpdateCommand (x : GuardRunStep) : Prop :=
  ∃ nowSec command, x.event = .updateCommand nowSec command

/-- The fields of the guard in terms of the calls made so far. -/
structure Records (tr : List GuardRunStep) (g : SafetyGuard) : Prop where
  robotState : g.hasState = true → ∃ x, Machine.Latest IsUpdateRobotState tr x ∧
    x.event = .updateRobotState g.lastStateSec g.stateMode g.stateValid
  command : g.hasCommand = true → ∃ x, Machine.Latest IsUpdateCommand tr x ∧
    x.event = .updateCommand g.lastCommandSec g.command
  armedTick : g.state = .armed → ∃ x dtSec, Machine.Latest IsTick tr x ∧
    x.event = .tick g.lastTickSec dtSec ∧ x.post.state = .armed ∧ x.post.output = g.output

/-- What the guard has been told about the robot. -/
def stateInputs (g : SafetyGuard) : Bool × Bool × UInt8 × ℚ :=
  (g.hasState, g.stateValid, g.stateMode, g.lastStateSec)

/-- What the guard has been told to do. -/
def commandInputs (g : SafetyGuard) : Bool × ℚ × Velocity ExtRat :=
  (g.hasCommand, g.lastCommandSec, g.command)

def inputs (g : SafetyGuard) : (Bool × Bool × UInt8 × ℚ) × Bool × ℚ × Velocity ExtRat :=
  (stateInputs g, commandInputs g)

lemma inputs_forceFault (config : GuardConfig) (reason : String) (g : SafetyGuard) :
    inputs (forceFault config reason g) = inputs g := by
  unfold forceFault
  split <;> rfl

lemma inputs_tickArmed (config : GuardConfig) (nowSec dtSec : ℚ) (g : SafetyGuard) :
    inputs (tickArmed config nowSec dtSec g).2 = inputs g := by
  simp only [tickArmed]
  split <;> rfl

lemma SafetyGuard.TickStep.inputs_eq {config : GuardConfig} {nowSec dtSec : ℚ}
    {g g' : SafetyGuard} {decision : GuardDecision}
    (h : TickStep config nowSec dtSec g decision g') : inputs g' = inputs g := by
  cases h with
  | idle => rfl
  | failed => rfl
  | restarted => rfl
  | holding => rfl
  | started _ _ _ _ _ hr =>
    subst hr
    exact inputs_tickArmed ..
  | continued _ _ _ hr =>
    subst hr
    exact inputs_tickArmed ..

lemma inputs_requestArm (config : GuardConfig) (nowSec : ℚ) (g : SafetyGuard) :
    inputs (requestArm config nowSec g).2 = inputs g := by
  unfold requestArm
  repeat' split
  all_goals rfl

lemma inputs_requestDisarm (config : GuardConfig) (nowSec : ℚ) (g : SafetyGuard) :
    inputs (requestDisarm config nowSec g).2 = inputs g := by
  simp only [requestDisarm]
  repeat' split
  all_goals rfl

lemma inputs_updateCommand (config : GuardConfig) (nowSec : ℚ) (command : Velocity ExtRat)
    (g : SafetyGuard) :
    inputs (updateCommand config nowSec command g) = (stateInputs g, true, nowSec, command) := by
  simp only [updateCommand]
  split
  · exact inputs_forceFault ..
  · rfl

/-- Only a robot state changes what the guard has been told about the robot. -/
lemma stateInputs_step (config : GuardConfig) (g : SafetyGuard) (event : GuardEvent)
    (h : ¬ IsUpdateRobotState ((guard config).stepAt g event)) :
    stateInputs ((guard config).step g event).2 = stateInputs g := by
  cases event with
  | updateRobotState nowSec mode valid => exact absurd ⟨_, _, _, rfl⟩ h
  | updateCommand nowSec command =>
    exact congrArg Prod.fst (inputs_updateCommand config nowSec command g)
  | requestArm nowSec => exact congrArg Prod.fst (inputs_requestArm config nowSec g)
  | requestDisarm nowSec => exact congrArg Prod.fst (inputs_requestDisarm config nowSec g)
  | forceFault reason => exact congrArg Prod.fst (inputs_forceFault config reason g)
  | tick nowSec dtSec => exact congrArg Prod.fst (tick_step config nowSec dtSec g).inputs_eq

/-- Only a command changes what the guard has been told to do. -/
lemma commandInputs_step (config : GuardConfig) (g : SafetyGuard) (event : GuardEvent)
    (h : ¬ IsUpdateCommand ((guard config).stepAt g event)) :
    commandInputs ((guard config).step g event).2 = commandInputs g := by
  cases event with
  | updateRobotState nowSec mode valid => rfl
  | updateCommand nowSec command => exact absurd ⟨_, _, rfl⟩ h
  | requestArm nowSec => exact congrArg Prod.snd (inputs_requestArm config nowSec g)
  | requestDisarm nowSec => exact congrArg Prod.snd (inputs_requestDisarm config nowSec g)
  | forceFault reason => exact congrArg Prod.snd (inputs_forceFault config reason g)
  | tick nowSec dtSec => exact congrArg Prod.snd (tick_step config nowSec dtSec g).inputs_eq

/-- The time by which a tick may slew: its own `dt` when it has one, else the time since
the previous armed tick, within a tenth of a second. -/
def slewTime (nowSec dtSec lastSec : ℚ) : ℚ :=
  max 0 (min (if dtSec > 0 then dtSec else nowSec - lastSec) 0.1)

lemma safeDt_eq_slewTime (nowSec dtSec : ℚ) (g : SafetyGuard) :
    safeDt nowSec dtSec g = slewTime nowSec dtSec g.lastTickSec := by
  have htenth : (0.10 : ℚ) = 0.1 := by norm_num
  have hpos : (0 : ℚ) < 0.1 := by norm_num
  simp only [safeDt, slewTime, clampTo, htenth]
  generalize (if dtSec > 0 then dtSec else nowSec - g.lastTickSec) = dt
  split_ifs with h₁ h₂
  · rw [max_eq_left]
    exact le_trans (min_le_left _ _) (le_of_lt h₁)
  · rw [min_eq_right (le_of_lt h₂), max_eq_right (le_of_lt hpos)]
  · rw [min_eq_left (not_lt.mp h₂), max_eq_right (not_lt.mp h₁)]

/-- What a tick that leaves the guard armed has done. -/
structure ArmedTick (config : GuardConfig) (nowSec dtSec : ℚ) (g : SafetyGuard)
    (decision : GuardDecision) (g' : SafetyGuard) : Prop where
  healthy : Healthy config nowSec g
  state : decision.state = .armed
  lastTick : g'.lastTickSec = nowSec
  /-- The output is slewed from the one before, for the time since the previous armed tick,
  or since this tick itself when it opens the session. -/
  slewed : ∃ lastSec,
    (g.state = .preparing ∧ lastSec = nowSec ∨ g.state = .armed ∧ lastSec = g.lastTickSec) ∧
      (decision.action = .move → decision.velocity =
        slewOutput config g.output (clamp config g.command) (slewTime nowSec dtSec lastSec))

lemma SafetyGuard.TickStep.armedTick {config : GuardConfig} {nowSec dtSec : ℚ}
    {g g' : SafetyGuard} {decision : GuardDecision}
    (h : TickStep config nowSec dtSec g decision g') (hpost : g'.state = .armed) :
    ArmedTick config nowSec dtSec g decision g' := by
  cases h with
  | idle _ hstate =>
    rcases hstate with rfl | ⟨rfl, -, harmed⟩
    · cases hpost
    · exact absurd hpost harmed
  | failed => cases hpost
  | restarted hstate => cases hstate.symm.trans hpost
  | holding hstate => cases hstate.symm.trans hpost
  | started _ hstate hhealthy _ _ hr =>
    subst hr
    obtain ⟨-, hlast, hdecision, hcases⟩ := tickArmed_cases config nowSec dtSec
      { g with state := .armed, lastTickSec := nowSec, reason := "armed; watchdogs active" }
    refine ⟨hhealthy, hdecision, hlast, nowSec, .inl ⟨hstate, rfl⟩, fun hmove => ?_⟩
    rcases hcases with ⟨-, hvelocity, -⟩ | ⟨hstop, -, -⟩
    · rw [hvelocity, safeDt_eq_slewTime]
    · simp [hstop] at hmove
  | continued _ hstate hhealthy hr =>
    subst hr
    obtain ⟨-, hlast, hdecision, hcases⟩ := tickArmed_cases config nowSec dtSec g
    refine ⟨hhealthy, hdecision.trans hstate, hlast, g.lastTickSec, .inr ⟨hstate, rfl⟩,
      fun hmove => ?_⟩
    rcases hcases with ⟨-, hvelocity, -⟩ | ⟨hstop, -, -⟩
    · rw [hvelocity, safeDt_eq_slewTime]
    · simp [hstop] at hmove

/-- Every tick that does not leave the guard armed decides to stop. -/
lemma SafetyGuard.TickStep.stop {config : GuardConfig} {nowSec dtSec : ℚ}
    {g g' : SafetyGuard} {decision : GuardDecision}
    (h : TickStep config nowSec dtSec g decision g') (hpost : g'.state ≠ .armed) :
    decision.action = .stop := by
  cases h with
  | idle => rfl
  | failed => rfl
  | restarted => rfl
  | holding => rfl
  | started _ _ _ _ _ hr =>
    subst hr
    exact absurd (tickArmed_cases ..).1 hpost
  | continued _ hstate _ hr =>
    subst hr
    exact absurd ((tickArmed_cases ..).1.trans hstate) hpost

/-- Outside the ticks an armed guard was armed before, with the same output. -/
lemma SafetyGuard.CallStep.armed {config : GuardConfig} {g g' : SafetyGuard}
    {event : GuardEvent} (h : CallStep config g event g') (hpost : g'.state = .armed) :
    g.state = .armed ∧ g'.output = g.output ∧ g'.lastTickSec = g.lastTickSec := by
  cases h with
  | observed => exact ⟨hpost, rfl, rfl⟩
  | commanded => exact ⟨hpost, rfl, rfl⟩
  | opened => cases hpost
  | unchanged => exact ⟨hpost, rfl, rfl⟩
  | closed hstate => exact absurd hpost hstate.2

lemma Records.snoc {config : GuardConfig} {tr : List GuardRunStep} {g : SafetyGuard}
    (hg : Records tr g) (event : GuardEvent) :
    Records (tr ++ [(guard config).stepAt g event]) ((guard config).step g event).2 where
  robotState h := by
    by_cases hx : IsUpdateRobotState ((guard config).stepAt g event)
    · refine ⟨_, Machine.latest_concat hx, ?_⟩
      obtain ⟨nowSec, mode, valid, rfl⟩ := hx
      rfl
    · have hsame := stateInputs_step config g event hx
      simp only [stateInputs, Prod.mk.injEq] at hsame
      obtain ⟨hhas, hvalid, hmode, hlast⟩ := hsame
      obtain ⟨x, hlatest, hevent⟩ := hg.robotState (hhas ▸ h)
      exact ⟨x, hlatest.concat hx, by rw [hevent, hvalid, hmode, hlast]⟩
  command h := by
    by_cases hx : IsUpdateCommand ((guard config).stepAt g event)
    · refine ⟨_, Machine.latest_concat hx, ?_⟩
      obtain ⟨nowSec, command, rfl⟩ := hx
      have hinputs := congrArg Prod.snd (inputs_updateCommand config nowSec command g)
      simp only [inputs, commandInputs, Prod.mk.injEq] at hinputs
      obtain ⟨-, hlast, hcommand⟩ := hinputs
      simp only [guard, Machine.stepAt_event, hlast, hcommand]
    · have hsame := commandInputs_step config g event hx
      simp only [commandInputs, Prod.mk.injEq] at hsame
      obtain ⟨hhas, hlast, hcommand⟩ := hsame
      obtain ⟨x, hlatest, hevent⟩ := hg.command (hhas ▸ h)
      exact ⟨x, hlatest.concat hx, by rw [hevent, hlast, hcommand]⟩
  armedTick h := by
    by_cases htick : ∃ nowSec dtSec, event = .tick nowSec dtSec
    · obtain ⟨nowSec, dtSec, rfl⟩ := htick
      have harmed := (tick_step config nowSec dtSec g).armedTick h
      refine ⟨_, dtSec, Machine.latest_concat ⟨nowSec, dtSec, rfl⟩, ?_, h, rfl⟩
      exact congrArg (GuardEvent.tick · dtSec) harmed.lastTick.symm
    · push Not at htick
      obtain ⟨hpre, houtput, hlast⟩ := (callStep_of_step config g event htick).armed h
      obtain ⟨x, dtSec, hx, hevent, hpost, hxoutput⟩ := hg.armedTick hpre
      refine ⟨x, dtSec, hx.concat ?_, ?_, hpost, ?_⟩
      · rintro ⟨nowSec, dtSec, rfl⟩
        exact htick _ _ rfl
      · rw [hevent, hlast]
      · rw [hxoutput, houtput]

theorem records_run (config : GuardConfig) (events : List GuardEvent) :
    Records ((guard config).trace (SafetyGuard.init config) events)
      ((guard config).final (SafetyGuard.init config) events) := by
  refine (guard config).history_induction (motive := Records) ?_ ?_ events
  · refine ⟨fun h => (by cases h), fun h => (by cases h), fun h => ?_⟩
    simp only [SafetyGuard.init] at h
    split at h <;> cases h
  · intro tr g event hg
    exact hg.snoc event

end UnitreeGo2.Chassis
