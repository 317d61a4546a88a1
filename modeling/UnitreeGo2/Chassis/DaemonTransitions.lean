import UnitreeGo2.Chassis.DaemonCore

/-!
# The transitions of the daemon core

The relation of this file says once what a call of the daemon core can do: for each outcome
its guard, the client calls it makes with their answers, and the core it leaves behind.
The answers of the client are arbitrary.  Every step of the daemon machine from a
consistent core is one of these transitions, and every transition leads to a consistent
core; all later proofs go by cases on the relation.
-/

namespace UnitreeGo2.Chassis

namespace DaemonCore

/-- The core after a packet has been accepted. -/
def accept (s : DaemonCore) (packet : CommandPacket) (nowNs : UInt64) : DaemonCore :=
  { s with lastSequence := packet.sequence, lastPacketNs := nowNs }

/-- The core after the motion clock has been started, if it was not running. -/
def clocked (s : DaemonCore) (nowNs : UInt64) : DaemonCore :=
  { s with motionStartNs := if s.motionStartNs = 0 then nowNs else s.motionStartNs }

/-- The core after a fault stop whose `StopMove` returned `result`. -/
def halted (s : DaemonCore) (result : Int32) : DaemonCore :=
  { s with
    moving := false
    sportActionActive := false
    armed := false
    faulted := true
    stopUnconfirmed := result != 0 }

/-- The core after a stop that also disarms, whose `StopMove` returned `result`. -/
def disarmed (s : DaemonCore) (result : Int32) : DaemonCore :=
  { s with
    moving := false
    sportActionActive := false
    armed := false
    faulted := s.faulted || result != 0
    stopUnconfirmed := result != 0 }

lemma disarmed_zero (s : DaemonCore) :
    s.disarmed 0 = { s with
      moving := false, sportActionActive := false, armed := false, stopUnconfirmed := false } := by
  simp [disarmed]

lemma disarmed_of_ne {s : DaemonCore} {result : Int32} (h : result ≠ 0) :
    s.disarmed result = { s with
      moving := false
      sportActionActive := false
      armed := false
      faulted := true
      stopUnconfirmed := true } := by
  have hne : (result != 0) = true := bne_iff_ne.mpr h
  simp [disarmed, hne]

/-- The core as a lost connection leaves it. -/
def disconnected (s : DaemonCore) : DaemonCore :=
  { s with lastSequence := 0, lastPacketNs := 0, motionStartNs := 0 }

/-- A client call issued in the core `s`. -/
def call (s : DaemonCore) (c : SdkCall) : IssuedCall := ⟨c, s.armed, s.faulted⟩

@[simp] lemma call_call (s : DaemonCore) (c : SdkCall) : (s.call c).call = c := rfl

@[simp] lemma call_armed (s : DaemonCore) (c : SdkCall) : (s.call c).armed = s.armed := rfl

@[simp] lemma call_faulted (s : DaemonCore) (c : SdkCall) : (s.call c).faulted = s.faulted :=
  rfl

/-- The consistency of the latches: an unconfirmed stop is a fault, a fault is disarmed,
what moves is armed, and without motion no latch is ever set. -/
structure Consistent (config : DaemonConfig) (s : DaemonCore) : Prop where
  faulted_of_stopUnconfirmed : s.stopUnconfirmed = true → s.faulted = true
  not_armed_of_faulted : s.faulted = true → s.armed = false
  armed_of_moving : s.moving = true → s.armed = true
  spent_of_armed : s.armed = true → s.commissioningArmSpent = true
  armed_motion : s.armed = true → config.allowMotion = true
  faulted_motion : s.faulted = true → config.allowMotion = true
  action_motion : s.sportActionActive = true → config.allowMotion = true

lemma Consistent.latches_of_no_motion {config : DaemonConfig} {s : DaemonCore}
    (hs : s.Consistent config) (h : config.allowMotion = false) :
    s.armed = false ∧ s.faulted = false ∧ s.stopUnconfirmed = false := by
  have harmed : s.armed = false := by
    by_contra harmed
    simpa [h] using hs.armed_motion (by simpa using harmed)
  have hfaulted : s.faulted = false := by
    by_contra hfaulted
    simpa [h] using hs.faulted_motion (by simpa using hfaulted)
  refine ⟨harmed, hfaulted, ?_⟩
  by_contra hstop
  simpa [hfaulted] using hs.faulted_of_stopUnconfirmed (by simpa using hstop)

/-- A packet that passes the checks of every operation, and the operation it names. -/
structure Accepts (s : DaemonCore) (packet : CommandPacket) (nowNs : UInt64)
    (op : CommandOp) : Prop where
  valid : ValidCommand packet nowNs
  fresh : s.lastSequence < packet.sequence
  operation : CommandOp.ofUInt8? packet.operation = some op

/-- The guard under which an arm request reaches the client. -/
structure MayArm (config : DaemonConfig) (s : DaemonCore) : Prop where
  motion : config.allowMotion = true
  not_faulted : s.faulted = false
  unspent : s.commissioningArmSpent = true → config.repeatableArm = true

/-- The guard under which a motion request is considered. -/
structure MayMove (config : DaemonConfig) (s : DaemonCore) : Prop where
  motion : config.allowMotion = true
  armed : s.armed = true
  not_faulted : s.faulted = false

/-- The calls of an arm request that the client grants. -/
def armCalls (config : DaemonConfig) (s : DaemonCore) : List IssuedCall :=
  if config.preserveClassicWalk then
    [s.call (.prepareArm 0), s.call (.classicWalk true 0)]
  else [s.call (.prepareArm 0)]

end DaemonCore

open DaemonCore

/-! ## The relation -/

/-- What the handling of a packet can do: the reply code, the client calls and the core
after it. -/
inductive HandleStep (config : DaemonConfig) (s : DaemonCore) (packet : CommandPacket)
    (nowNs : UInt64) : ReplyCode → List IssuedCall → DaemonCore → Prop where
  /-- Validation fails, or the sequence number is old. -/
  | rejected {code : ReplyCode} (hcode : code ≠ .ok)
      (hrejected : ∀ op, ¬ s.Accepts packet nowNs op) :
      HandleStep config s packet nowNs code [] s
  /-- The operation is not allowed in this state. -/
  | refused {op : CommandOp} {code : ReplyCode} (h : s.Accepts packet nowNs op)
      (hcode : code ≠ .ok) :
      HandleStep config s packet nowNs code [] (s.accept packet nowNs)
  | armFailed {calls : List IssuedCall} {result : Int32} (h : s.Accepts packet nowNs .arm)
      (hmay : s.MayArm config) (hresult : result ≠ 0)
      (hcalls : calls = [s.call (.prepareArm result)] ∨
        calls = [s.call (.prepareArm 0), s.call (.classicWalk true result)]) :
      HandleStep config s packet nowNs .sdkError calls
        { s.accept packet nowNs with
          commissioningArmSpent := true, armed := false, moving := false, faulted := true }
  | armed (h : s.Accepts packet nowNs .arm) (hmay : s.MayArm config) :
      HandleStep config s packet nowNs .ok (s.armCalls config)
        { s.accept packet nowNs with
          commissioningArmSpent := true, armed := true, moving := false, motionStartNs := 0 }
  /-- There is nothing to stop. -/
  | disarmedIdle (h : s.Accepts packet nowNs .disarm) (harmed : s.armed = false)
      (hfaulted : s.faulted = false) (hstop : s.stopUnconfirmed = false) :
      HandleStep config s packet nowNs .ok []
        { s.accept packet nowNs with
          moving := false
          sportActionActive := config.allowMotion && s.sportActionActive
          motionStartNs := 0 }
  | disarmed {result : Int32} (h : s.Accepts packet nowNs .disarm)
      (hmotion : config.allowMotion = true) (hresult : result = 0) :
      HandleStep config s packet nowNs .ok [s.call (.stopMove result)]
        { (s.accept packet nowNs).disarmed result with faulted := false, motionStartNs := 0 }
  | disarmFailed {result : Int32} (h : s.Accepts packet nowNs .disarm)
      (hmotion : config.allowMotion = true) (hresult : result ≠ 0) :
      HandleStep config s packet nowNs .sdkError [s.call (.stopMove result)]
        { (s.accept packet nowNs).disarmed result with motionStartNs := 0 }
  /-- A stop request, or a move request with zero velocity. -/
  | stopped {op : CommandOp} {result : Int32} (h : s.Accepts packet nowNs op)
      (hop : op = .stop ∨ op = .move) (hmotion : config.allowMotion = true)
      (harmed : s.armed = true) (hresult : result = 0) :
      HandleStep config s packet nowNs .ok [s.call (.stopMove result)]
        { s.accept packet nowNs with
          moving := false, sportActionActive := false, stopUnconfirmed := false }
  | stopFailed {op : CommandOp} {result : Int32} (h : s.Accepts packet nowNs op)
      (hop : op = .stop ∨ op = .move) (hmotion : config.allowMotion = true)
      (harmed : s.armed = true) (hresult : result ≠ 0) :
      HandleStep config s packet nowNs .sdkError [s.call (.stopMove result)]
        ((s.accept packet nowNs).disarmed result)
  | pinged (h : s.Accepts packet nowNs .ping) (harmed : s.armed = true) :
      HandleStep config s packet nowNs .ok [] (s.accept packet nowNs)
  | walkRestored {result : Int32} {code : ReplyCode}
      (h : s.Accepts packet nowNs .restoreClassicWalk) (hmotion : config.allowMotion = true)
      (harmed : s.armed = false) (hfaulted : s.faulted = false)
      (hcode : code = if result = 0 then .ok else .sdkError) :
      HandleStep config s packet nowNs code [s.call (.classicWalk true result)]
        (s.accept packet nowNs)
  | actionStale {result : Int32} (h : s.Accepts packet nowNs .sportAction)
      (hmay : s.MayMove config) :
      HandleStep config s packet nowNs .faultLatched
        [s.call (.freshSportState nowNs false), s.call (.stopMove result)]
        ((s.accept packet nowNs).halted result)
  | actionOverBudget {result : Int32} (h : s.Accepts packet nowNs .sportAction)
      (hmay : s.MayMove config)
      (hspent : motionBudgetSpent config nowNs (s.clocked nowNs).motionStartNs = true) :
      HandleStep config s packet nowNs .limitExceeded
        [s.call (.freshSportState nowNs true), s.call (.stopMove result)]
        (((s.accept packet nowNs).clocked nowNs).halted result)
  | actionFailed {result stop : Int32} (h : s.Accepts packet nowNs .sportAction)
      (hmay : s.MayMove config)
      (hspent : motionBudgetSpent config nowNs (s.clocked nowNs).motionStartNs = false)
      (hresult : result ≠ 0) :
      HandleStep config s packet nowNs .sdkError
        [s.call (.freshSportState nowNs true),
          s.call (.sportActionCall (.ofUInt8 packet.reserved8) result),
          s.call (.stopMove stop)]
        (((s.accept packet nowNs).clocked nowNs).halted stop)
  | actionStarted (h : s.Accepts packet nowNs .sportAction) (hmay : s.MayMove config)
      (hspent : motionBudgetSpent config nowNs (s.clocked nowNs).motionStartNs = false) :
      HandleStep config s packet nowNs .ok
        [s.call (.freshSportState nowNs true),
          s.call (.sportActionCall (.ofUInt8 packet.reserved8) 0)]
        { (s.accept packet nowNs).clocked nowNs with moving := true, sportActionActive := true }
  | moveOverLimit {result : Int32} (h : s.Accepts packet nowNs .move)
      (hmay : s.MayMove config) (hlimit : exceedsLimits config packet = true) :
      HandleStep config s packet nowNs .limitExceeded [s.call (.stopMove result)]
        ((s.accept packet nowNs).halted result)
  | moveOverBudget {result : Int32} (h : s.Accepts packet nowNs .move)
      (hmay : s.MayMove config)
      (hspent : motionBudgetSpent config nowNs (s.clocked nowNs).motionStartNs = true) :
      HandleStep config s packet nowNs .limitExceeded [s.call (.stopMove result)]
        (((s.accept packet nowNs).clocked nowNs).halted result)
  | moveFailed {result stop : Int32} (h : s.Accepts packet nowNs .move)
      (hmay : s.MayMove config) (hlimit : exceedsLimits config packet = false)
      (hzero : isZeroVelocity packet = false)
      (hspent : motionBudgetSpent config nowNs (s.clocked nowNs).motionStartNs = false)
      (hresult : result ≠ 0) :
      HandleStep config s packet nowNs .sdkError
        [s.call (.move packet.vx packet.vy packet.wz result), s.call (.stopMove stop)]
        (((s.accept packet nowNs).clocked nowNs).halted stop)
  | moved (h : s.Accepts packet nowNs .move) (hmay : s.MayMove config)
      (hlimit : exceedsLimits config packet = false) (hzero : isZeroVelocity packet = false)
      (hspent : motionBudgetSpent config nowNs (s.clocked nowNs).motionStartNs = false) :
      HandleStep config s packet nowNs .ok
        [s.call (.move packet.vx packet.vy packet.wz 0)]
        { (s.accept packet nowNs).clocked nowNs with moving := true }

/-- What a watchdog tick can do: its answer, the client calls and the core after it. -/
inductive WatchdogStep (config : DaemonConfig) (s : DaemonCore) (nowNs : UInt64) :
    Bool → List IssuedCall → DaemonCore → Prop where
  | idle {checks : List IssuedCall} (hstop : s.stopUnconfirmed = false)
      (hfresh : s.armed = true → s.lastPacketNs = 0 ∨ nowNs < s.lastPacketNs ∨
        nowNs - s.lastPacketNs ≤ config.watchdogNs)
      (hchecks : checks = [] ∨
        s.armed = true ∧ checks = [s.call (.freshSportState nowNs true)]) :
      WatchdogStep config s nowNs false checks s
  | retried {result : Int32} (hstop : s.stopUnconfirmed = true) :
      WatchdogStep config s nowNs true [s.call (.stopMove result)]
        { s.disarmed result with watchdogReason := "retry_unconfirmed_stop" }
  | tripped {reason : String} {result : Int32} {checks : List IssuedCall}
      (hstop : s.stopUnconfirmed = false) (harmed : s.armed = true)
      (hchecks : checks = [] ∨ ∃ fresh, checks = [s.call (.freshSportState nowNs fresh)]) :
      WatchdogStep config s nowNs true (checks ++ [s.call (.stopMove result)])
        { s.halted result with watchdogReason := reason }

/-- What the loss of the connection can do: the client calls and the core after it. -/
inductive DisconnectStep (config : DaemonConfig) (s : DaemonCore) :
    List IssuedCall → DaemonCore → Prop where
  | idle (harmed : s.armed = false) (hfaulted : s.faulted = false)
      (hstop : s.stopUnconfirmed = false) :
      DisconnectStep config s []
        { s.disconnected with
          moving := false
          sportActionActive := config.allowMotion && s.sportActionActive }
  | stopped {result : Int32} (hmotion : config.allowMotion = true) (hresult : result = 0) :
      DisconnectStep config s [s.call (.stopMove result)] (s.disarmed result).disconnected
  | retried {result again : Int32} (hmotion : config.allowMotion = true)
      (hresult : result ≠ 0) :
      DisconnectStep config s
        [s.call (.stopMove result), (s.disarmed result).call (.stopMove again)]
        ((s.disarmed result).disarmed again).disconnected

/-- What one call of the daemon core can do. -/
inductive DaemonStep (config : DaemonConfig) (s : DaemonCore) :
    DaemonEvent → DaemonOutput → DaemonCore → Prop where
  | handle {packet : CommandPacket} {nowNs : UInt64} {code : ReplyCode}
      {calls : List IssuedCall} {s' : DaemonCore}
      (h : HandleStep config s packet nowNs code calls s') :
      DaemonStep config s (.handle packet nowNs)
        ⟨.reply (makeReply packet.sequence code s'.armed s'.faulted), calls⟩ s'
  | checkWatchdog {nowNs : UInt64} {stopped : Bool} {calls : List IssuedCall}
      {s' : DaemonCore} (h : WatchdogStep config s nowNs stopped calls s') :
      DaemonStep config s (.checkWatchdog nowNs) ⟨.watchdog stopped, calls⟩ s'
  | onDisconnect {calls : List IssuedCall} {s' : DaemonCore}
      (h : DisconnectStep config s calls s') :
      DaemonStep config s .onDisconnect ⟨.disconnected, calls⟩ s'

lemma DaemonStep.handled {config : DaemonConfig} {s s' : DaemonCore}
    {packet : CommandPacket} {nowNs : UInt64} {output : DaemonOutput}
    (h : DaemonStep config s (.handle packet nowNs) output s') :
    ∃ code, HandleStep config s packet nowNs code output.calls s' := by
  cases h with
  | handle h => exact ⟨_, h⟩

lemma DaemonStep.watched {config : DaemonConfig} {s s' : DaemonCore} {nowNs : UInt64}
    {output : DaemonOutput} (h : DaemonStep config s (.checkWatchdog nowNs) output s') :
    ∃ stopped, WatchdogStep config s nowNs stopped output.calls s' := by
  cases h with
  | checkWatchdog h => exact ⟨_, h⟩

lemma DaemonStep.disconnected {config : DaemonConfig} {s s' : DaemonCore}
    {output : DaemonOutput} (h : DaemonStep config s .onDisconnect output s') :
    DisconnectStep config s output.calls s' := by
  cases h with
  | onDisconnect h => exact h

/-! ## The machine takes the transitions of the relation -/

section Steps

variable {γ : Type*} {config : DaemonConfig} {api : ISportClient γ} {s : DaemonCore}
  {packet : CommandPacket} {nowNs : UInt64} {client : γ}

/-- A handler that has accepted a packet replies with a code and takes a transition. -/
def Answers (config : DaemonConfig) (s : DaemonCore) (packet : CommandPacket)
    (nowNs : UInt64) (r : ReplyPacket × Execution γ) : Prop :=
  ∃ code, r.1 = makeReply packet.sequence code r.2.core.armed r.2.core.faulted ∧
    HandleStep config s packet nowNs code r.2.calls r.2.core

lemma answers_reply {code : ReplyCode} {x : Execution γ}
    (h : HandleStep config s packet nowNs code x.calls x.core) :
    Answers config s packet nowNs (reply packet.sequence code x) :=
  ⟨code, rfl, h⟩

lemma handleArm_answers (h : s.Accepts packet nowNs .arm) :
    Answers config s packet nowNs
      (handleArm config api packet ⟨s.accept packet nowNs, client, []⟩) := by
  unfold handleArm
  split
  · exact answers_reply (.refused h (by decide))
  rename_i hmotion
  split
  · exact answers_reply (.refused h (by decide))
  rename_i hfaulted
  split
  · exact answers_reply (.refused h (by decide))
  rename_i hspent
  have hmay : s.MayArm config := by
    refine ⟨by simpa using hmotion, by simpa [accept] using hfaulted, ?_⟩
    intro hs
    simpa [accept, hs] using hspent
  simp only [callPrepareArm, callClassicWalk, issue, List.nil_append]
  by_cases hprepare : (api.prepareArm client).1 = 0
  · have harmed := HandleStep.armed h hmay
    simp only [hprepare, ne_eq, not_true_eq_false, if_false]
    cases hwalk : config.preserveClassicWalk with
    | false =>
      simp only [armCalls, hwalk, Bool.false_eq_true, if_false] at harmed
      simp only [Bool.false_eq_true, if_false, not_true_eq_false]
      exact answers_reply harmed
    | true =>
      simp only [armCalls, hwalk, if_true] at harmed
      simp only [if_true]
      split
      · rename_i hresult
        exact answers_reply (.armFailed h hmay hresult (.inr rfl))
      · rename_i hresult
        rw [not_not] at hresult
        rw [hresult]
        exact answers_reply harmed
  · simp only [hprepare, ne_eq, not_false_eq_true, if_true]
    exact answers_reply (.armFailed h hmay hprepare (.inl rfl))

lemma explicitDisarm_step (hs : s.Consistent config) (h : s.Accepts packet nowNs .disarm) :
    let r := explicitDisarm config api ⟨s.accept packet nowNs, client, []⟩
    HandleStep config s packet nowNs r.1 r.2.calls r.2.core := by
  simp only [explicitDisarm, callStopMove, issue, List.nil_append]
  cases hmotion : config.allowMotion with
  | false =>
    obtain ⟨harmed, hfaulted, hstop⟩ := hs.latches_of_no_motion hmotion
    have hidle : HandleStep config s packet nowNs _ _ _ := .disarmedIdle h harmed hfaulted hstop
    simp only [hmotion, Bool.false_and, accept, harmed, hfaulted] at hidle
    exact hidle
  | true =>
    simp only [Bool.not_true, Bool.false_eq_true, if_false]
    split
    · by_cases hresult : (api.stopMove client).1 = 0
      · simp only [hresult, ne_eq, not_true_eq_false, if_false]
        exact .disarmed h hmotion (Eq.refl 0)
      · simp only [hresult, ne_eq, not_false_eq_true, if_true]
        have hfailed := HandleStep.disarmFailed h hmotion hresult
        rw [disarmed_of_ne hresult] at hfailed
        exact hfailed
    · rename_i hlatches
      simp only [accept, Bool.or_eq_true, not_or, Bool.not_eq_true] at hlatches
      obtain ⟨⟨⟨harmed, hfaulted⟩, hmoving⟩, hstop⟩ := hlatches
      have hidle : HandleStep config s packet nowNs _ _ _ :=
        .disarmedIdle h harmed hfaulted hstop
      simp only [hmotion, Bool.true_and, accept, hfaulted] at hidle
      simpa [accept, hmoving] using hidle

lemma stop_step {op : CommandOp} (h : s.Accepts packet nowNs op)
    (hop : op = .stop ∨ op = .move) (hmotion : config.allowMotion = true)
    (harmed : s.armed = true) :
    let r := stop api false ⟨s.accept packet nowNs, client, []⟩
    HandleStep config s packet nowNs r.1 r.2.calls r.2.core := by
  simp only [stop, callStopMove, issue, List.nil_append, Bool.false_eq_true, if_false]
  by_cases hresult : (api.stopMove client).1 = 0
  · simp only [hresult, ne_eq, not_true_eq_false, if_false]
    exact .stopped h hop hmotion harmed (Eq.refl 0)
  · simp only [hresult, ne_eq, not_false_eq_true, if_true]
    have hfailed := HandleStep.stopFailed h hop hmotion harmed hresult
    rw [disarmed_of_ne hresult] at hfailed
    exact hfailed

lemma refuseUnlessArmed_some {x : Execution γ} {code : ReplyCode}
    (h : refuseUnlessArmed config x = some code) : code ≠ .ok := by
  unfold refuseUnlessArmed at h
  split at h
  · cases h
    split <;> decide
  · cases h

lemma refuseUnlessArmed_none {x : Execution γ} (h : refuseUnlessArmed config x = none) :
    config.allowMotion = true ∧ x.core.armed = true := by
  unfold refuseUnlessArmed at h
  split at h
  · cases h
  · simp_all

lemma handleStop_answers (h : s.Accepts packet nowNs .stop) :
    Answers config s packet nowNs
      (handleStop config api packet ⟨s.accept packet nowNs, client, []⟩) := by
  unfold handleStop
  split
  · rename_i code hcode
    exact answers_reply (.refused h (refuseUnlessArmed_some hcode))
  · rename_i hnone
    obtain ⟨hmotion, harmed⟩ := refuseUnlessArmed_none hnone
    exact answers_reply (stop_step h (.inl rfl) hmotion harmed)

lemma handlePing_answers (h : s.Accepts packet nowNs .ping) :
    Answers config s packet nowNs
      (handlePing config packet ⟨s.accept packet nowNs, client, []⟩) := by
  unfold handlePing
  split
  · rename_i code hcode
    exact answers_reply (.refused h (refuseUnlessArmed_some hcode))
  · rename_i hnone
    exact answers_reply (.pinged h (refuseUnlessArmed_none hnone).2)

lemma handleRestoreClassicWalk_answers (h : s.Accepts packet nowNs .restoreClassicWalk) :
    Answers config s packet nowNs
      (handleRestoreClassicWalk config api packet ⟨s.accept packet nowNs, client, []⟩) := by
  unfold handleRestoreClassicWalk
  split
  · exact answers_reply (.refused h (by decide))
  rename_i hmode
  split
  · exact answers_reply (.refused h (by decide))
  rename_i hlatches
  simp only [Bool.or_eq_true, Bool.not_eq_true', not_or, Bool.not_eq_false] at hmode
  simp only [accept, Bool.or_eq_true, not_or, Bool.not_eq_true] at hlatches
  obtain ⟨⟨⟨harmed, hmoving⟩, hfaulted⟩, hstop⟩ := hlatches
  simp only [callClassicWalk, issue, List.nil_append]
  by_cases hresult : (api.classicWalk true client).1 = 0
  · simp only [hresult, ne_eq, not_true_eq_false, if_false]
    exact answers_reply (.walkRestored h hmode.1 harmed hfaulted (if_pos (Eq.refl 0)).symm)
  · simp only [hresult, ne_eq, not_false_eq_true, if_true]
    exact answers_reply
      (.walkRestored h hmode.1 harmed hfaulted (by rw [if_neg hresult]))

/-- On an armed core a fault stop is a single `StopMove`. -/
lemma faultStop_armed {x : Execution γ} (hmotion : config.allowMotion = true)
    (harmed : x.core.armed = true) :
    faultStop config api x =
      ⟨x.core.halted (api.stopMove x.client).1, (api.stopMove x.client).2,
        x.calls ++ [x.core.call (.stopMove (api.stopMove x.client).1)]⟩ := by
  simp [faultStop, hmotion, harmed, callStopMove, issue, halted, call]

lemma startMotionClock_eq (x : Execution γ) :
    startMotionClock nowNs x = { x with core := x.core.clocked nowNs } := by
  unfold startMotionClock clocked
  split <;> simp_all

lemma not_refused_motion {x : DaemonCore} (hmotion : ¬ (!config.allowMotion) = true)
    (hlatches : ¬ (!x.armed || x.faulted) = true) : x.MayMove config := by
  simp only [Bool.or_eq_true, Bool.not_eq_true', not_or, Bool.not_eq_false,
    Bool.not_eq_true] at hlatches
  exact ⟨by simpa using hmotion, hlatches.1, hlatches.2⟩

lemma handleSportAction_answers (h : s.Accepts packet nowNs .sportAction) :
    Answers config s packet nowNs
      (handleSportAction config api packet nowNs ⟨s.accept packet nowNs, client, []⟩) := by
  unfold handleSportAction
  split
  · exact answers_reply (.refused h (by decide))
  rename_i hmotion
  split
  · exact answers_reply (.refused h (by decide))
  rename_i hlatches
  have hmay : s.MayMove config := by
    obtain ⟨hmotion, harmed, hfaulted⟩ := not_refused_motion hmotion hlatches
    exact ⟨hmotion, harmed, hfaulted⟩
  simp only [callFreshSportState, callSportActionCall, issue, List.nil_append,
    startMotionClock_eq]
  cases hfresh : (api.freshSportState nowNs client).1 with
  | false =>
    simp only [Bool.not_false, if_true]
    rw [faultStop_armed hmay.motion (by exact hmay.armed)]
    exact answers_reply (.actionStale h hmay)
  | true =>
    simp only [Bool.not_true, Bool.false_eq_true, if_false]
    split
    · rename_i hspent
      rw [faultStop_armed hmay.motion (by exact hmay.armed)]
      exact answers_reply (.actionOverBudget h hmay hspent)
    rename_i hspent
    rw [Bool.not_eq_true] at hspent
    split
    · rename_i hresult
      rw [faultStop_armed hmay.motion (by exact hmay.armed)]
      exact answers_reply (.actionFailed h hmay hspent hresult)
    · rename_i hresult
      rw [not_not] at hresult
      rw [hresult]
      exact answers_reply (.actionStarted h hmay hspent)

lemma handleMove_answers (h : s.Accepts packet nowNs .move) :
    Answers config s packet nowNs
      (handleMove config api packet nowNs ⟨s.accept packet nowNs, client, []⟩) := by
  unfold handleMove
  split
  · exact answers_reply (.refused h (by decide))
  rename_i hmotion
  split
  · exact answers_reply (.refused h (by decide))
  rename_i hlatches
  have hmay : s.MayMove config := by
    obtain ⟨hmotion, harmed, hfaulted⟩ := not_refused_motion hmotion hlatches
    exact ⟨hmotion, harmed, hfaulted⟩
  split
  · rename_i hlimit
    rw [faultStop_armed hmay.motion (by exact hmay.armed)]
    exact answers_reply (.moveOverLimit h hmay hlimit)
  rename_i hlimit
  rw [Bool.not_eq_true] at hlimit
  split
  · exact answers_reply (stop_step h (.inr rfl) hmay.motion hmay.armed)
  rename_i hzero
  rw [Bool.not_eq_true] at hzero
  simp only [startMotionClock_eq]
  split
  · rename_i hspent
    rw [faultStop_armed hmay.motion (by exact hmay.armed)]
    exact answers_reply (.moveOverBudget h hmay hspent)
  rename_i hspent
  rw [Bool.not_eq_true] at hspent
  simp only [DaemonCore.move, callMove, issue, List.nil_append]
  by_cases hresult : (api.move packet.vx packet.vy packet.wz client).1 = 0
  · simp only [hresult, ne_eq, not_true_eq_false, if_false]
    exact answers_reply (.moved h hmay hlimit hzero hspent)
  · simp only [hresult, ne_eq, not_false_eq_true, if_true]
    rw [faultStop_armed hmay.motion (by exact hmay.armed)]
    exact answers_reply (.moveFailed h hmay hlimit hzero hspent hresult)

variable (api packet nowNs client) in
lemma handle_answers (hs : s.Consistent config) :
    Answers config s packet nowNs (handle config api packet nowNs ⟨s, client, []⟩) := by
  simp only [handle]
  split
  · rename_i hcode
    exact answers_reply (.rejected hcode fun op h =>
      hcode (validateCommand_eq_ok_iff.mpr h.valid))
  rename_i hvalid
  rw [not_not, validateCommand_eq_ok_iff] at hvalid
  split
  · rename_i hold
    exact answers_reply (.rejected (by decide) fun op h => UInt64.not_le.mpr h.fresh hold)
  rename_i hfresh
  have hsequence : s.lastSequence < packet.sequence := UInt64.not_le.mp hfresh
  split
  · rename_i hop
    exact handleArm_answers ⟨hvalid, hsequence, hop⟩
  · rename_i hop
    exact answers_reply (explicitDisarm_step hs ⟨hvalid, hsequence, hop⟩)
  · rename_i hop
    exact handleStop_answers ⟨hvalid, hsequence, hop⟩
  · rename_i hop
    exact handlePing_answers ⟨hvalid, hsequence, hop⟩
  · rename_i hop
    exact handleRestoreClassicWalk_answers ⟨hvalid, hsequence, hop⟩
  · rename_i hop
    exact handleSportAction_answers ⟨hvalid, hsequence, hop⟩
  · rename_i hop
    exact handleMove_answers ⟨hvalid, hsequence, hop⟩
  · rename_i hop
    obtain ⟨op, hknown⟩ := hvalid.operation
    rw [hop] at hknown
    cases hknown

/-- A stop and disarm of a core with a latch set is one `StopMove`. -/
lemma stopAndDisarm_of_latch {x : Execution γ} (hmotion : config.allowMotion = true)
    (hlatch : x.core.armed = true ∨ x.core.faulted = true) :
    (stopAndDisarm config api x).2 =
      ⟨x.core.disarmed (api.stopMove x.client).1, (api.stopMove x.client).2,
        x.calls ++ [x.core.call (.stopMove (api.stopMove x.client).1)]⟩ := by
  have hne : (!x.core.armed && !x.core.moving && !x.core.faulted &&
      !x.core.stopUnconfirmed) = false := by
    rcases hlatch with h | h <;> simp [h]
  simp only [stopAndDisarm, hmotion, Bool.not_true, Bool.false_eq_true, if_false, hne, stop,
    callStopMove, issue, if_true]
  by_cases hresult : (api.stopMove x.client).1 = 0
  · simp only [hresult, ne_eq, not_true_eq_false, if_false, disarmed_zero]
    rfl
  · simp only [hresult, ne_eq, not_false_eq_true, if_true, disarmed_of_ne]
    rfl

/-- Without a latch a stop and disarm makes no call. -/
lemma stopAndDisarm_idle {x : Execution γ} (hs : x.core.Consistent config)
    (harmed : x.core.armed = false) (hfaulted : x.core.faulted = false)
    (hstop : x.core.stopUnconfirmed = false) :
    (stopAndDisarm config api x).2 =
      { x with core := { x.core with
        moving := false
        sportActionActive := config.allowMotion && x.core.sportActionActive
        motionStartNs := 0 } } := by
  have hmoving : x.core.moving = false := by
    by_contra hmoving
    simpa [harmed] using hs.armed_of_moving (by simpa using hmoving)
  cases hmotion : config.allowMotion with
  | false => simp [stopAndDisarm, hmotion, harmed, hstop]
  | true => simp [stopAndDisarm, hmotion, harmed, hfaulted, hstop, hmoving]

lemma checkArmed_step (hmotion : config.allowMotion = true) (harmed : s.armed = true)
    (hstop : s.stopUnconfirmed = false) :
    let r := checkArmed config api nowNs ⟨s, client, []⟩
    WatchdogStep config s nowNs r.1 r.2.calls r.2.core := by
  -- every trip is a fault stop after the same optional query of the sport state
  have htrip : ∀ (reason : String) (client : γ) (checks : List IssuedCall),
      (checks = [] ∨ ∃ fresh, checks = [s.call (.freshSportState nowNs fresh)]) →
      let x := faultStop config api ⟨{ s with watchdogReason := reason }, client, checks⟩
      WatchdogStep config s nowNs true x.calls x.core := by
    intro reason client checks hchecks
    rw [faultStop_armed hmotion harmed]
    exact .tripped hstop harmed hchecks
  have hrest : ∀ (client : γ) (checks : List IssuedCall),
      (checks = [] ∨ checks = [s.call (.freshSportState nowNs true)]) →
      let x : Execution γ := ⟨s, client, checks⟩
      let r := if s.motionStartNs ≠ 0 ∧ config.maxMotionNs ≠ 0 ∧
          (nowNs < s.motionStartNs ∨ nowNs - s.motionStartNs ≥ config.maxMotionNs) then
        (true, faultStop config api
          { x with core := { s with watchdogReason := "motion_duration_limit" } })
      else if s.lastPacketNs = 0 ∨ nowNs < s.lastPacketNs ∨
          nowNs - s.lastPacketNs ≤ config.watchdogNs then
        (false, x)
      else (true, faultStop config api
        { x with core := { s with watchdogReason := "command_heartbeat_stale" } })
      WatchdogStep config s nowNs r.1 r.2.calls r.2.core := by
    intro client checks hchecks
    have hany : checks = [] ∨ ∃ fresh, checks = [s.call (.freshSportState nowNs fresh)] := by
      rcases hchecks with h | h
      · exact .inl h
      · exact .inr ⟨true, h⟩
    dsimp only
    split_ifs with hduration hfresh
    · exact htrip _ _ _ hany
    · refine .idle hstop (fun _ => hfresh) ?_
      rcases hchecks with h | h
      · exact .inl h
      · exact .inr ⟨harmed, h⟩
    · exact htrip _ _ _ hany
  simp only [checkArmed, callFreshSportState, issue, List.nil_append]
  cases haction : s.sportActionActive with
  | false =>
    simp only [Bool.false_eq_true, if_false]
    exact hrest client [] (.inl rfl)
  | true =>
    simp only [if_true]
    cases hfresh : (api.freshSportState nowNs client).1 with
    | false =>
      simp only [Bool.not_false, if_true]
      exact htrip _ _ _ (.inr ⟨false, rfl⟩)
    | true =>
      simp only [Bool.not_true, Bool.false_eq_true, if_false]
      exact hrest _ _ (.inr rfl)

lemma checkWatchdog_step (hs : s.Consistent config) :
    let r := checkWatchdog config api nowNs ⟨s, client, []⟩
    WatchdogStep config s nowNs r.1 r.2.calls r.2.core := by
  simp only [checkWatchdog]
  cases hstop : s.stopUnconfirmed with
  | true =>
    have hfaulted : s.faulted = true := hs.faulted_of_stopUnconfirmed hstop
    simp only [if_true]
    rw [stopAndDisarm_of_latch (hs.faulted_motion hfaulted) (by exact .inr hfaulted)]
    exact .retried hstop
  | false =>
    simp only [Bool.false_eq_true, if_false]
    cases harmed : s.armed with
    | false =>
      simp only [Bool.not_false, if_true]
      exact .idle hstop (fun h => by simp [harmed] at h) (.inl rfl)
    | true =>
      simp only [Bool.not_true, Bool.false_eq_true, if_false]
      exact checkArmed_step (hs.armed_motion harmed) harmed hstop

lemma onDisconnect_step (hs : s.Consistent config) :
    let x := onDisconnect config api ⟨s, client, []⟩
    DisconnectStep config s x.calls x.core := by
  simp only [onDisconnect]
  by_cases hlatch : s.armed = true ∨ s.faulted = true
  · have hmotion : config.allowMotion = true := hlatch.elim hs.armed_motion hs.faulted_motion
    rw [stopAndDisarm_of_latch hmotion (by exact hlatch)]
    by_cases hresult : (api.stopMove client).1 = 0
    · have hstop : (s.disarmed (api.stopMove client).1).stopUnconfirmed = false := by
        rw [hresult, disarmed_zero]
      have hstopped : DisconnectStep config s _ _ := .stopped hmotion hresult
      simp only [hstop, Bool.false_eq_true, if_false]
      simp only [disconnected, hstop] at hstopped
      exact hstopped
    · have hstop : (s.disarmed (api.stopMove client).1).stopUnconfirmed = true := by
        rw [disarmed_of_ne hresult]
      have hfaulted : (s.disarmed (api.stopMove client).1).faulted = true := by
        rw [disarmed_of_ne hresult]
      simp only [hstop, if_true]
      rw [stopAndDisarm_of_latch hmotion (by exact .inr hfaulted)]
      exact .retried hmotion hresult
  · rw [not_or, Bool.not_eq_true, Bool.not_eq_true] at hlatch
    have hstop : s.stopUnconfirmed = false := by
      by_contra hstop
      simpa [hlatch.2] using hs.faulted_of_stopUnconfirmed (by simpa using hstop)
    rw [stopAndDisarm_idle (by exact hs) hlatch.1 hlatch.2 hstop]
    have hidle : DisconnectStep config s _ _ := .idle hlatch.1 hlatch.2 hstop
    simp only [hstop, Bool.false_eq_true, if_false]
    simp only [disconnected, hstop] at hidle
    exact hidle

end Steps

/-- Every step of the daemon from a consistent core is a transition of the relation. -/
theorem daemonStep_of_step {γ : Type*} {config : DaemonConfig} (api : ISportClient γ)
    {d : Daemon γ} (hs : d.core.Consistent config) (event : DaemonEvent) :
    DaemonStep config d.core event ((daemon config api).step d event).1
      ((daemon config api).step d event).2.core := by
  cases event with
  | handle packet nowNs =>
    obtain ⟨code, hreply, hstep⟩ := handle_answers api packet nowNs d.client hs
    have htransition := DaemonStep.handle hstep
    rw [← hreply] at htransition
    exact htransition
  | checkWatchdog nowNs => exact .checkWatchdog (checkWatchdog_step hs)
  | onDisconnect => exact .onDisconnect (onDisconnect_step hs)

/-! ## Consistency is an invariant -/

section Consistency

variable {config : DaemonConfig} {s s' : DaemonCore} {packet : CommandPacket}
  {nowNs : UInt64} {code : ReplyCode} {stopped : Bool} {calls : List IssuedCall}

namespace DaemonCore.Consistent

lemma accept (hs : s.Consistent config) : (s.accept packet nowNs).Consistent config :=
  ⟨hs.1, hs.2, hs.3, hs.4, hs.5, hs.6, hs.7⟩

lemma clocked (hs : s.Consistent config) : (s.clocked nowNs).Consistent config :=
  ⟨hs.1, hs.2, hs.3, hs.4, hs.5, hs.6, hs.7⟩

lemma disconnected (hs : s.Consistent config) : s.disconnected.Consistent config :=
  ⟨hs.1, hs.2, hs.3, hs.4, hs.5, hs.6, hs.7⟩

lemma halted (s : DaemonCore) (hmotion : config.allowMotion = true) (result : Int32) :
    (s.halted result).Consistent config := by
  constructor <;> simp [DaemonCore.halted, hmotion]

lemma disarmed (s : DaemonCore) (hmotion : config.allowMotion = true) (result : Int32) :
    (s.disarmed result).Consistent config := by
  by_cases h : result = 0
  · subst h
    rw [disarmed_zero]
    constructor <;> simp [hmotion]
  · rw [disarmed_of_ne h]
    constructor <;> simp [hmotion]

lemma still (hs : s.Consistent config) : ({ s with
    moving := false
    sportActionActive := false
    stopUnconfirmed := false } : DaemonCore).Consistent config :=
  ⟨by simp, hs.2, by simp, hs.4, hs.5, hs.6, by simp⟩

lemma inMotion (hs : s.Consistent config) (harmed : s.armed = true) (action : Bool) :
    ({ s with moving := true, sportActionActive := action } : DaemonCore).Consistent config :=
  ⟨hs.1, hs.2, fun _ => harmed, hs.4, hs.5, hs.6, fun _ => hs.5 harmed⟩

/-- Clearing what moves, when nothing is latched. -/
lemma idle (hs : s.Consistent config) : ({ s with
    moving := false
    sportActionActive := config.allowMotion && s.sportActionActive } :
      DaemonCore).Consistent config :=
  ⟨hs.1, hs.2, by simp, hs.4, hs.5, hs.6, by simp_all⟩

end DaemonCore.Consistent

theorem HandleStep.consistent (hs : s.Consistent config)
    (h : HandleStep config s packet nowNs code calls s') : s'.Consistent config := by
  have ha : (s.accept packet nowNs).Consistent config := hs.accept
  cases h with
  | rejected => exact hs
  | refused => exact ha
  | armFailed h hmay => constructor <;> simp [hmay.motion]
  | armed h hmay => 
    have hnf : (s.accept packet nowNs).faulted = false := hmay.not_faulted
    have hstop : (s.accept packet nowNs).stopUnconfirmed = false := by
      by_contra hstop
      simpa [hnf] using ha.faulted_of_stopUnconfirmed (by simpa using hstop)
    constructor <;> simp [hnf, hstop, hmay.motion]
  | disarmedIdle =>
    have hi := ha.idle
    exact ⟨hi.1, hi.2, hi.3, hi.4, hi.5, hi.6, hi.7⟩
  | disarmed h hmotion hresult =>
    subst hresult
    constructor <;> simp [disarmed_zero, hmotion]
  | disarmFailed h hmotion =>
    have hd := Consistent.disarmed (s.accept packet nowNs) hmotion ‹Int32›
    exact ⟨hd.1, hd.2, hd.3, hd.4, hd.5, hd.6, hd.7⟩
  | stopped => exact ha.still
  | stopFailed h hop hmotion => exact .disarmed _ hmotion _
  | pinged => exact ha
  | walkRestored => exact ha
  | actionStale h hmay => exact .halted _ hmay.motion _
  | actionOverBudget h hmay => exact .halted _ hmay.motion _
  | actionFailed h hmay => exact .halted _ hmay.motion _
  | actionStarted h hmay => exact ha.clocked.inMotion hmay.armed true
  | moveOverLimit h hmay => exact .halted _ hmay.motion _
  | moveOverBudget h hmay => exact .halted _ hmay.motion _
  | moveFailed h hmay => exact .halted _ hmay.motion _
  | moved h hmay => exact ha.clocked.inMotion hmay.armed s.sportActionActive

theorem WatchdogStep.consistent (hs : s.Consistent config)
    (h : WatchdogStep config s nowNs stopped calls s') : s'.Consistent config := by
  cases h with
  | idle => exact hs
  | @retried result hstop =>
    have hmotion := hs.faulted_motion (hs.faulted_of_stopUnconfirmed hstop)
    have hd := Consistent.disarmed s hmotion result
    exact ⟨hd.1, hd.2, hd.3, hd.4, hd.5, hd.6, hd.7⟩
  | @tripped reason result checks hstop harmed =>
    have hh := Consistent.halted s (hs.armed_motion harmed) result
    exact ⟨hh.1, hh.2, hh.3, hh.4, hh.5, hh.6, hh.7⟩

theorem DisconnectStep.consistent (hs : s.Consistent config)
    (h : DisconnectStep config s calls s') : s'.Consistent config := by
  cases h with
  | idle => exact hs.disconnected.idle
  | stopped hmotion => exact (Consistent.disarmed s hmotion _).disconnected
  | retried hmotion => exact (Consistent.disarmed _ hmotion _).disconnected

theorem DaemonStep.consistent {event : DaemonEvent} {output : DaemonOutput}
    (hs : s.Consistent config) (h : DaemonStep config s event output s') :
    s'.Consistent config := by
  cases h with
  | handle h => exact h.consistent hs
  | checkWatchdog h => exact h.consistent hs
  | onDisconnect h => exact h.consistent hs

end Consistency

section Runs

variable {γ : Type*} {config : DaemonConfig} {api : ISportClient γ} {client : γ}

/-- Every reachable core is consistent. -/
theorem consistent_invariant : (daemon config api).Invariant (Daemon.init client)
    (fun d => d.core.Consistent config) where
  init := by constructor <;> simp [Daemon.init]
  step _ event hs := (daemonStep_of_step api hs event).consistent hs

/-- **Every step of a run of the daemon is a transition of the relation.** -/
theorem daemonStep_of_mem {events : List DaemonEvent}
    {x : Machine.Step (Daemon γ) DaemonEvent DaemonOutput}
    (hx : x ∈ (daemon config api).trace (Daemon.init client) events) :
    DaemonStep config x.pre.core x.event x.output x.post.core := by
  have hpre := consistent_invariant.pre hx
  obtain ⟨es₁, es₂, -, hxe⟩ := (daemon config api).mem_trace_stepAt hx
  rw [hxe] at hpre ⊢
  exact daemonStep_of_step api hpre _

end Runs

end UnitreeGo2.Chassis
