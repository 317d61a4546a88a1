import UnitreeGo2.Lib.ExtendedRat
import UnitreeGo2.Lib.Machine

/-!
# The motion guard of the chassis adapter

`SafetyGuard` is fed with robot states and velocity commands as they arrive, and is asked
for a decision by a periodic tick.  Times, limits and outputs are exact rationals; a command
is what a float variable may hold, so that the finiteness checks of the guard mean
something.
-/

namespace UnitreeGo2.Chassis

inductive GuardState where
  | disabled
  | disarmed
  | preparing
  | armed
  | fault
  deriving DecidableEq, Repr

inductive GuardAction where
  | none
  | move
  | stop
  deriving DecidableEq, Repr

structure Velocity (α : Type*) where
  vx : α
  vy : α
  wz : α
  deriving DecidableEq

instance {α : Type*} [Zero α] : Zero (Velocity α) := ⟨⟨0, 0, 0⟩⟩

@[simp] lemma Velocity.zero_vx {α : Type*} [Zero α] : (0 : Velocity α).vx = 0 := rfl

@[simp] lemma Velocity.zero_vy {α : Type*} [Zero α] : (0 : Velocity α).vy = 0 := rfl

@[simp] lemma Velocity.zero_wz {α : Type*} [Zero α] : (0 : Velocity α).wz = 0 := rfl

/-- The fields of `GuardConfig` that the guard reads. -/
structure GuardConfig where
  allowMotion : Bool := false
  stateTimeoutSec : ℚ := 0.20
  commandTimeoutSec : ℚ := 0.25
  zeroPreparationSec : ℚ := 0.50
  maxVx : ℚ := 0.25
  maxVy : ℚ := 0
  maxWz : ℚ := 0.40
  maxLinearAcceleration : ℚ := 0.30
  maxAngularAcceleration : ℚ := 0.80
  zeroEpsilon : ℚ := 1.0e-4
  /-- The impossible mode 255 prevents motion until modes are configured. -/
  allowedModes : List UInt8 := [255]

structure GuardDecision where
  action : GuardAction
  velocity : Velocity ℚ
  state : GuardState
  reason : String

/-- The private fields of `SafetyGuard`, but for its configuration. -/
structure SafetyGuard where
  state : GuardState := .disabled
  reason : String := "motion disabled by configuration"
  hasState : Bool := false
  hasCommand : Bool := false
  stateValid : Bool := false
  stateMode : UInt8 := 0
  lastStateSec : ℚ := 0
  lastCommandSec : ℚ := 0
  preparationStartSec : ℚ := 0
  lastTickSec : ℚ := 0
  command : Velocity ExtRat := 0
  output : Velocity ℚ := 0

namespace SafetyGuard

/-! ## Helpers -/

/-- `std::clamp`. -/
def clampTo (value low high : ℚ) : ℚ :=
  if value < low then low else if high < value then high else value

/-- `Finite`. -/
def finite (velocity : Velocity ExtRat) : Bool :=
  velocity.vx.isFinite && velocity.vy.isFinite && velocity.wz.isFinite

variable (config : GuardConfig)

/-- `IsZero` at a command. -/
def isZero (velocity : Velocity ExtRat) : Bool :=
  velocity.vx.abs.le (.fin config.zeroEpsilon) && velocity.vy.abs.le (.fin config.zeroEpsilon) &&
    velocity.wz.abs.le (.fin config.zeroEpsilon)

/-- `IsZero` at a target or an output. -/
def isZeroRat (velocity : Velocity ℚ) : Bool :=
  |velocity.vx| ≤ config.zeroEpsilon && |velocity.vy| ≤ config.zeroEpsilon &&
    |velocity.wz| ≤ config.zeroEpsilon

/-- `HealthFailure`: the first reason why the guard must not move, if any. -/
def healthFailure (nowSec : ℚ) (requireCommand : Bool) (g : SafetyGuard) : Option String :=
  if !g.hasState then
    some "no SportModeState received"
  else if !g.stateValid then
    some "SportModeState is invalid"
  else if nowSec - g.lastStateSec < 0 ∨ nowSec - g.lastStateSec > config.stateTimeoutSec then
    some "SportModeState watchdog expired"
  else if g.stateMode ∉ config.allowedModes then
    some "SportModeState mode is not allowed"
  else if requireCommand && !g.hasCommand then
    some "no velocity command received"
  else if requireCommand ∧ (nowSec - g.lastCommandSec < 0 ∨
      nowSec - g.lastCommandSec > config.commandTimeoutSec) then
    some "velocity command watchdog expired"
  else if !finite g.command then
    some "velocity command is invalid"
  else none

/-- `Clamp`, which the guard applies to finite commands only. -/
def clamp (velocity : Velocity ExtRat) : Velocity ℚ where
  vx := clampTo velocity.vx.toRat 0 config.maxVx
  vy := clampTo velocity.vy.toRat (-config.maxVy) config.maxVy
  wz := clampTo velocity.wz.toRat (-config.maxWz) config.maxWz

def slew (current target maximumDelta : ℚ) : ℚ :=
  if maximumDelta ≤ 0 then current
  else current + clampTo (target - current) (-maximumDelta) maximumDelta

/-- The output slewed towards a target for the time `dt`. -/
def slewOutput (output target : Velocity ℚ) (dt : ℚ) : Velocity ℚ where
  vx := slew output.vx target.vx (config.maxLinearAcceleration * dt)
  vy := slew output.vy target.vy (config.maxLinearAcceleration * dt)
  wz := slew output.wz target.wz (config.maxAngularAcceleration * dt)

def stopDecision (g : SafetyGuard) : GuardDecision × SafetyGuard :=
  (⟨.stop, 0, g.state, g.reason⟩, g)

/-! ## The public methods -/

/-- The constructor. -/
def init : SafetyGuard where
  state := if config.allowMotion then .disarmed else .disabled
  reason :=
    if config.allowMotion then "waiting for explicit arm request"
    else "motion disabled by configuration"

def updateRobotState (nowSec : ℚ) (mode : UInt8) (valid : Bool) (g : SafetyGuard) :
    SafetyGuard :=
  { g with hasState := true, lastStateSec := nowSec, stateMode := mode, stateValid := valid }

def forceFault (reason : String) (g : SafetyGuard) : SafetyGuard :=
  if !config.allowMotion then
    { g with state := .disabled, reason := "motion disabled by configuration", output := 0 }
  else
    { g with state := .fault, reason := reason, output := 0 }

def updateCommand (nowSec : ℚ) (command : Velocity ExtRat) (g : SafetyGuard) : SafetyGuard :=
  let g := { g with hasCommand := true, lastCommandSec := nowSec, command := command }
  if !finite g.command then forceFault config "command contains NaN or infinity" g else g

/-- The result of an arm request: the returned flag, the message and the guard. -/
def requestArm (nowSec : ℚ) (g : SafetyGuard) : (Bool × String) × SafetyGuard :=
  if !config.allowMotion then
    ((false, "allow_motion is false"), { g with state := .disabled })
  else if g.state = .fault then
    ((false, "fault is latched; explicitly disarm before re-arming"), g)
  else if g.state = .armed ∨ g.state = .preparing then
    ((true, "arm sequence is already active"), g)
  else
    match healthFailure config nowSec true g with
    | some health => ((false, health), g)
    | none =>
      if !isZero config g.command then
        ((false, "a fresh zero command is required before arming"), g)
      else
        let reason := "holding zero command before arm"
        ((true, reason), { g with
          state := .preparing
          preparationStartSec := nowSec
          output := 0
          reason := reason })

def requestDisarm (nowSec : ℚ) (g : SafetyGuard) : (Bool × String) × SafetyGuard :=
  let wasFaulted : Bool := g.state = .fault
  let g := { g with output := 0, preparationStartSec := 0 }
  if !config.allowMotion then
    let reason := "motion disabled by configuration"
    ((true, reason), { g with state := .disabled, reason := reason })
  else
    let health := healthFailure config nowSec true g
    if wasFaulted && (health.isSome || !isZero config g.command) then
      let reason := health.getD "zero command required to clear fault"
      ((true, "disarmed; fault remains latched: " ++ reason), { g with reason := reason })
    else
      let reason := if wasFaulted then "fault cleared by explicit disarm" else "explicitly disarmed"
      ((true, reason), { g with state := .disarmed, reason := reason })

/-- The time by which an armed tick slews its output. -/
def safeDt (nowSec dtSec : ℚ) (g : SafetyGuard) : ℚ :=
  clampTo (if dtSec > 0 then dtSec else nowSec - g.lastTickSec) 0 0.10

/-- The tick of an armed guard. -/
def tickArmed (nowSec dtSec : ℚ) (g : SafetyGuard) : GuardDecision × SafetyGuard :=
  let dt := safeDt nowSec dtSec g
  let target := clamp config g.command
  let g := { g with lastTickSec := nowSec, output := slewOutput config g.output target dt }
  if isZeroRat config target && isZeroRat config g.output then
    stopDecision { g with output := 0, reason := "armed and stopped" }
  else
    let reason := "armed; bounded velocity command"
    (⟨.move, g.output, g.state, reason⟩, { g with reason := reason })

def tick (nowSec dtSec : ℚ) (g : SafetyGuard) : GuardDecision × SafetyGuard :=
  if !config.allowMotion then
    stopDecision { g with state := .disabled, reason := "motion disabled by configuration" }
  else if g.state = .fault ∨ g.state = .disabled then
    stopDecision g
  else if g.state = .disarmed then
    stopDecision { g with reason := "waiting for explicit arm request" }
  else
    match healthFailure config nowSec true g with
    | some health => stopDecision (forceFault config health g)
    | none =>
      if g.state = .preparing then
        if !isZero config g.command then
          stopDecision { g with
            preparationStartSec := nowSec
            reason := "zero preparation restarted after non-zero command" }
        else if nowSec - g.preparationStartSec < config.zeroPreparationSec then
          stopDecision { g with reason := "holding zero command before arm" }
        else
          tickArmed config nowSec dtSec { g with
            state := .armed
            lastTickSec := nowSec
            reason := "armed; watchdogs active" }
      else
        tickArmed config nowSec dtSec g

end SafetyGuard

/-! ## The guard as a machine -/

/-- The calls that the adapter makes on its guard. -/
inductive GuardEvent where
  | updateRobotState (nowSec : ℚ) (mode : UInt8) (valid : Bool)
  | updateCommand (nowSec : ℚ) (command : Velocity ExtRat)
  | requestArm (nowSec : ℚ)
  | requestDisarm (nowSec : ℚ)
  | forceFault (reason : String)
  | tick (nowSec dtSec : ℚ)

/-- What a call returns. -/
inductive GuardAnswer where
  | done
  | message (accepted : Bool) (text : String)
  | decision (value : GuardDecision)

/-- The machine of a guard with a given configuration. -/
def guard (config : GuardConfig) : Machine SafetyGuard GuardEvent GuardAnswer where
  step g event :=
    match event with
    | .updateRobotState nowSec mode valid => (.done, g.updateRobotState nowSec mode valid)
    | .updateCommand nowSec command => (.done, g.updateCommand config nowSec command)
    | .requestArm nowSec =>
      let (answer, g) := g.requestArm config nowSec
      (.message answer.1 answer.2, g)
    | .requestDisarm nowSec =>
      let (answer, g) := g.requestDisarm config nowSec
      (.message answer.1 answer.2, g)
    | .forceFault reason => (.done, g.forceFault config reason)
    | .tick nowSec dtSec =>
      let (decision, g) := g.tick config nowSec dtSec
      (.decision decision, g)

end UnitreeGo2.Chassis
