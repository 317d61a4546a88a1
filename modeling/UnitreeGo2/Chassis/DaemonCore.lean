import UnitreeGo2.Chassis.Protocol
import UnitreeGo2.Lib.Machine

/-!
# The SDK daemon core

`DaemonCore` is the only owner of the SDK sport client.  It handles the packets of the
adapter, a periodic watchdog and the loss of the connection, and it decides which client
calls are made.  The client is a parameter: an arbitrary state and, for every method, an
arbitrary answer.
-/

namespace UnitreeGo2.Chassis

structure DaemonConfig where
  allowMotion : Bool := false
  /-- Commissioning profiles consume one arm for the lifetime of the daemon; the
  long-running profile may re-arm only after an explicit disarm. -/
  repeatableArm : Bool := false
  preserveClassicWalk : Bool := false
  maxVx : Float32 := 0.05
  maxVy : Float32 := 0
  maxWz : Float32 := 0
  watchdogNs : UInt64 := 300000000
  maxMotionNs : UInt64 := 2000000000
  /-- The option parser of the daemon rejects a limit that is not finite. -/
  maxVx_finite : maxVx.isFinite = true := by decide
  maxVy_finite : maxVy.isFinite = true := by decide
  maxWz_finite : maxWz.isFinite = true := by decide

/-- The methods of the sport client that the daemon calls, as functions of the state `γ`
of the client. -/
structure ISportClient (γ : Type*) where
  prepareArm : γ → Int32 × γ
  classicWalk : Bool → γ → Int32 × γ
  move : Float32 → Float32 → Float32 → γ → Int32 × γ
  stopMove : γ → Int32 × γ
  sportActionCall : SportAction → γ → Int32 × γ
  freshSportState : UInt64 → γ → Bool × γ

/-- A call of a client method, with its arguments and its answer. -/
inductive SdkCall where
  | prepareArm (result : Int32)
  | classicWalk (enabled : Bool) (result : Int32)
  | move (vx vy wz : Float32) (result : Int32)
  | stopMove (result : Int32)
  | sportActionCall (action : SportAction) (result : Int32)
  | freshSportState (nowNs : UInt64) (result : Bool)
  deriving DecidableEq

/-- A client call, with the latches of the core when it was issued. -/
structure IssuedCall where
  call : SdkCall
  armed : Bool
  faulted : Bool
  deriving DecidableEq

/-- The private fields of `DaemonCore`. -/
structure DaemonCore where
  armed : Bool := false
  faulted : Bool := false
  moving : Bool := false
  sportActionActive : Bool := false
  stopUnconfirmed : Bool := false
  watchdogReason : String := ""
  commissioningArmSpent : Bool := false
  lastSequence : UInt64 := 0
  lastPacketNs : UInt64 := 0
  motionStartNs : UInt64 := 0
  deriving DecidableEq

/-- A core in the middle of a method: its fields, its client, and the calls that the method
has issued so far. -/
structure Execution (γ : Type*) where
  core : DaemonCore
  client : γ
  calls : List IssuedCall := []

namespace DaemonCore

variable {γ : Type*}

/-! ## Calling the client -/

/-- Record the answer of a client method and the state that the client moved to. -/
def issue (x : Execution γ) (client : γ) (call : SdkCall) : Execution γ :=
  { x with
    client := client
    calls := x.calls ++ [⟨call, x.core.armed, x.core.faulted⟩] }

variable (config : DaemonConfig) (api : ISportClient γ)

def callPrepareArm (x : Execution γ) : Int32 × Execution γ :=
  let answer := api.prepareArm x.client
  (answer.1, issue x answer.2 (.prepareArm answer.1))

def callClassicWalk (enabled : Bool) (x : Execution γ) : Int32 × Execution γ :=
  let answer := api.classicWalk enabled x.client
  (answer.1, issue x answer.2 (.classicWalk enabled answer.1))

def callMove (vx vy wz : Float32) (x : Execution γ) : Int32 × Execution γ :=
  let answer := api.move vx vy wz x.client
  (answer.1, issue x answer.2 (.move vx vy wz answer.1))

def callStopMove (x : Execution γ) : Int32 × Execution γ :=
  let answer := api.stopMove x.client
  (answer.1, issue x answer.2 (.stopMove answer.1))

def callSportActionCall (action : SportAction) (x : Execution γ) : Int32 × Execution γ :=
  let answer := api.sportActionCall action x.client
  (answer.1, issue x answer.2 (.sportActionCall action answer.1))

def callFreshSportState (nowNs : UInt64) (x : Execution γ) : Bool × Execution γ :=
  let answer := api.freshSportState nowNs x.client
  (answer.1, issue x answer.2 (.freshSportState nowNs answer.1))

/-! ## The private methods -/

/-- `Reply`: the reply shows the latches as the method left them. -/
def reply (sequence : UInt64) (code : ReplyCode) (x : Execution γ) :
    ReplyPacket × Execution γ :=
  (makeReply sequence code x.core.armed x.core.faulted, x)

def faultStop (x : Execution γ) : Execution γ :=
  let x :=
    if config.allowMotion && x.core.armed then
      let (result, x) := callStopMove api x
      { x with core := { x.core with stopUnconfirmed := result != 0 } }
    else x
  { x with core := { x.core with
      moving := false
      sportActionActive := false
      armed := false
      faulted := true } }

def move (packet : CommandPacket) (x : Execution γ) : ReplyCode × Execution γ :=
  let (result, x) := callMove api packet.vx packet.vy packet.wz x
  if result ≠ 0 then
    (.sdkError, faultStop config api x)
  else
    (.ok, { x with core := { x.core with moving := true } })

def stop (disarm : Bool) (x : Execution γ) : ReplyCode × Execution γ :=
  let (result, x) := callStopMove api x
  let x := { x with core := { x.core with moving := false, sportActionActive := false } }
  let x := if disarm then { x with core := { x.core with armed := false } } else x
  if result ≠ 0 then
    (.sdkError, { x with core := { x.core with
      armed := false
      faulted := true
      stopUnconfirmed := true } })
  else
    (.ok, { x with core := { x.core with stopUnconfirmed := false } })

def stopAndDisarm (x : Execution γ) : ReplyCode × Execution γ :=
  if !config.allowMotion then
    (.ok, { x with core := { x.core with
      armed := false
      moving := false
      sportActionActive := false
      motionStartNs := 0
      stopUnconfirmed := false } })
  else if !x.core.armed && !x.core.moving && !x.core.faulted && !x.core.stopUnconfirmed then
    (.ok, { x with core := { x.core with motionStartNs := 0 } })
  else
    stop api true x

def explicitDisarm (x : Execution γ) : ReplyCode × Execution γ :=
  if !config.allowMotion then
    (.ok, { x with core := { x.core with
      armed := false
      moving := false
      sportActionActive := false
      faulted := false
      motionStartNs := 0 } })
  else if x.core.armed || x.core.faulted || x.core.moving || x.core.stopUnconfirmed then
    -- a latched fault may have cleared `armed` already; the stop is retried all the same
    let (result, x) := callStopMove api x
    let x := { x with core := { x.core with
      moving := false
      sportActionActive := false
      armed := false
      motionStartNs := 0 } }
    if result ≠ 0 then
      (.sdkError, { x with core := { x.core with faulted := true, stopUnconfirmed := true } })
    else
      (.ok, { x with core := { x.core with stopUnconfirmed := false, faulted := false } })
  else
    (.ok, { x with core := { x.core with faulted := false, motionStartNs := 0 } })

/-! ## The operations of a packet -/

/-- The motion budget is exhausted, or the clock went back, with respect to a start. -/
def motionBudgetSpent (nowNs motionStartNs : UInt64) : Bool :=
  nowNs < motionStartNs ||
    (config.maxMotionNs != 0 && nowNs - motionStartNs ≥ config.maxMotionNs)

/-- `motion_start_ns_` is set by the first motion of a session; 0 means not started. -/
def startMotionClock (nowNs : UInt64) (x : Execution γ) : Execution γ :=
  if x.core.motionStartNs = 0 then
    { x with core := { x.core with motionStartNs := nowNs } }
  else x

/-- Forward motion within the limits of the profile, each checked independently of the
adapter's own clamp. -/
def exceedsLimits (packet : CommandPacket) : Bool :=
  packet.vx < 0 || packet.vx > config.maxVx || packet.vy.abs > config.maxVy ||
    packet.wz.abs > config.maxWz

def handleArm (packet : CommandPacket) (x : Execution γ) : ReplyPacket × Execution γ :=
  if !config.allowMotion then
    reply packet.sequence .motionDisabled x
  else if x.core.faulted then
    reply packet.sequence .faultLatched x
  else if x.core.commissioningArmSpent && !config.repeatableArm then
    reply packet.sequence .faultLatched x
  else
    let x := { x with core := { x.core with commissioningArmSpent := true } }
    let (result, x) := callPrepareArm api x
    if result ≠ 0 then
      let x := { x with core := { x.core with armed := false, moving := false, faulted := true } }
      reply packet.sequence .sdkError x
    else
      let (walk, x) :=
        if config.preserveClassicWalk then callClassicWalk api true x else (0, x)
      if walk ≠ 0 then
        let x := { x with core := { x.core with
          armed := false
          moving := false
          faulted := true } }
        reply packet.sequence .sdkError x
      else
        let x := { x with core := { x.core with
          armed := true
          moving := false
          motionStartNs := 0 } }
        reply packet.sequence .ok x

/-- `kStop` and `kPing` refuse alike when motion is disabled or the core is not armed. -/
def refuseUnlessArmed (x : Execution γ) : Option ReplyCode :=
  if !config.allowMotion || !x.core.armed then
    some (if config.allowMotion then .notArmed else .motionDisabled)
  else none

def handleStop (packet : CommandPacket) (x : Execution γ) : ReplyPacket × Execution γ :=
  match refuseUnlessArmed config x with
  | some code => reply packet.sequence code x
  | none =>
    let (code, x) := stop api false x
    reply packet.sequence code x

def handlePing (packet : CommandPacket) (x : Execution γ) : ReplyPacket × Execution γ :=
  match refuseUnlessArmed config x with
  | some code => reply packet.sequence code x
  | none => reply packet.sequence .ok x

def handleRestoreClassicWalk (packet : CommandPacket) (x : Execution γ) :
    ReplyPacket × Execution γ :=
  if !config.allowMotion || !config.preserveClassicWalk then
    reply packet.sequence .motionDisabled x
  else if x.core.armed || x.core.moving || x.core.faulted || x.core.stopUnconfirmed then
    reply packet.sequence .faultLatched x
  else
    let (result, x) := callClassicWalk api true x
    if result ≠ 0 then
      reply packet.sequence .sdkError x
    else
      reply packet.sequence .ok x

def handleSportAction (packet : CommandPacket) (nowNs : UInt64) (x : Execution γ) :
    ReplyPacket × Execution γ :=
  if !config.allowMotion then
    reply packet.sequence .motionDisabled x
  else if !x.core.armed || x.core.faulted then
    reply packet.sequence .notArmed x
  else
    let (fresh, x) := callFreshSportState api nowNs x
    if !fresh then
      reply packet.sequence .faultLatched (faultStop config api x)
    else
      let x := startMotionClock nowNs x
      if motionBudgetSpent config nowNs x.core.motionStartNs then
        reply packet.sequence .limitExceeded (faultStop config api x)
      else
        let (result, x) := callSportActionCall api (.ofUInt8 packet.reserved8) x
        if result ≠ 0 then
          reply packet.sequence .sdkError (faultStop config api x)
        else
          let x := { x with core := { x.core with moving := true, sportActionActive := true } }
          reply packet.sequence .ok x

def handleMove (packet : CommandPacket) (nowNs : UInt64) (x : Execution γ) :
    ReplyPacket × Execution γ :=
  if !config.allowMotion then
    reply packet.sequence .motionDisabled x
  else if !x.core.armed || x.core.faulted then
    reply packet.sequence .notArmed x
  else if exceedsLimits config packet then
    reply packet.sequence .limitExceeded (faultStop config api x)
  else if isZeroVelocity packet then
    let (code, x) := stop api false x
    reply packet.sequence code x
  else
    let x := startMotionClock nowNs x
    if motionBudgetSpent config nowNs x.core.motionStartNs then
      reply packet.sequence .limitExceeded (faultStop config api x)
    else
      let (code, x) := move config api packet x
      reply packet.sequence code x

/-! ## The public methods -/

def handle (packet : CommandPacket) (nowNs : UInt64) (x : Execution γ) :
    ReplyPacket × Execution γ :=
  let validation := (validateCommand packet nowNs).1
  if validation ≠ .ok then
    reply packet.sequence validation x
  else if packet.sequence ≤ x.core.lastSequence then
    reply packet.sequence .replay x
  else
    let x := { x with core := { x.core with
      lastSequence := packet.sequence
      lastPacketNs := nowNs } }
    match CommandOp.ofUInt8? packet.operation with
    | some .arm => handleArm config api packet x
    | some .disarm =>
      let (code, x) := explicitDisarm config api x
      reply packet.sequence code x
    | some .stop => handleStop config api packet x
    | some .ping => handlePing config packet x
    | some .restoreClassicWalk => handleRestoreClassicWalk config api packet x
    | some .sportAction => handleSportAction config api packet nowNs x
    | some .move => handleMove config api packet nowNs x
    | none => reply packet.sequence .malformed x

/-- The three stop conditions of an armed core, in the order in which they are checked. -/
def checkArmed (nowNs : UInt64) (x : Execution γ) : Bool × Execution γ :=
  let trip (reason : String) (x : Execution γ) : Bool × Execution γ :=
    (true, faultStop config api { x with core := { x.core with watchdogReason := reason } })
  let (stale, x) :=
    if x.core.sportActionActive then
      let (fresh, x) := callFreshSportState api nowNs x
      (!fresh, x)
    else (false, x)
  if stale then
    trip "sport_state_stale" x
  else if x.core.motionStartNs ≠ 0 ∧ config.maxMotionNs ≠ 0 ∧
      (nowNs < x.core.motionStartNs ∨
        nowNs - x.core.motionStartNs ≥ config.maxMotionNs) then
    trip "motion_duration_limit" x
  else if x.core.lastPacketNs = 0 ∨ nowNs < x.core.lastPacketNs ∨
      nowNs - x.core.lastPacketNs ≤ config.watchdogNs then
    (false, x)
  else
    trip "command_heartbeat_stale" x

def checkWatchdog (nowNs : UInt64) (x : Execution γ) : Bool × Execution γ :=
  let (stopAttempted, x) :=
    if x.core.stopUnconfirmed then
      -- a failed acknowledgement of a stop is not a stopped robot
      let x := { x with core := { x.core with watchdogReason := "retry_unconfirmed_stop" } }
      (true, (stopAndDisarm config api x).2)
    else (false, x)
  if !x.core.armed then
    (stopAttempted, x)
  else
    checkArmed config api nowNs x

def onDisconnect (x : Execution γ) : Execution γ :=
  let x := (stopAndDisarm config api x).2
  let x := if x.core.stopUnconfirmed then (stopAndDisarm config api x).2 else x
  { x with core := { x.core with lastSequence := 0, lastPacketNs := 0, motionStartNs := 0 } }

end DaemonCore

/-! ## The daemon as a machine -/

/-- A daemon between two calls. -/
structure Daemon (γ : Type*) where
  core : DaemonCore
  client : γ

/-- The calls that the daemon process makes on its core. -/
inductive DaemonEvent where
  | handle (packet : CommandPacket) (nowNs : UInt64)
  | checkWatchdog (nowNs : UInt64)
  | onDisconnect

/-- What a call of the daemon process returns. -/
inductive DaemonAnswer where
  | reply (packet : ReplyPacket)
  | watchdog (stopped : Bool)
  | disconnected

/-- What a call returns, and the client calls that it made. -/
structure DaemonOutput where
  answer : DaemonAnswer
  calls : List IssuedCall

/-- The machine of a daemon with a given configuration and client. -/
def daemon {γ : Type*} (config : DaemonConfig) (api : ISportClient γ) :
    Machine (Daemon γ) DaemonEvent DaemonOutput where
  step d event :=
    match event with
    | .handle packet nowNs =>
      let (packet, x) := DaemonCore.handle config api packet nowNs ⟨d.core, d.client, []⟩
      (⟨.reply packet, x.calls⟩, ⟨x.core, x.client⟩)
    | .checkWatchdog nowNs =>
      let (stopped, x) := DaemonCore.checkWatchdog config api nowNs ⟨d.core, d.client, []⟩
      (⟨.watchdog stopped, x.calls⟩, ⟨x.core, x.client⟩)
    | .onDisconnect =>
      let x := DaemonCore.onDisconnect config api ⟨d.core, d.client, []⟩
      (⟨.disconnected, x.calls⟩, ⟨x.core, x.client⟩)

/-- A freshly constructed daemon over a client in state `client`. -/
def Daemon.init {γ : Type*} (client : γ) : Daemon γ := ⟨{}, client⟩

end UnitreeGo2.Chassis
