import UnitreeGo2.Chassis.DaemonMotion
import UnitreeGo2.Lib.Float32Order

/-!
# Authorization of the client calls of the daemon

Every motion command that reaches the client comes from an armed core without a fault, from
a valid and fresh packet, and within the limits of the profile.  A fault withholds every
commanding call until a disarm request whose stop was acknowledged, and a commissioning
profile spends one arm and one motion budget over the whole life of the daemon.
-/

namespace UnitreeGo2.Chassis

open DaemonCore

/-! ## What a motion call may carry -/

/-- The calls that act on the robot: all but the stop and the query of its state. -/
def SdkCall.commands : SdkCall → Prop
  | .prepareArm _ | .classicWalk .. | .move .. | .sportActionCall .. => True
  | .stopMove _ | .freshSportState .. => False

lemma SdkCall.commands_of_commandsMotion {c : SdkCall} (h : c.commandsMotion) :
    c.commands := by
  cases c <;> trivial

/-- A motion call carries the payload of its packet: a velocity within the limits that is
not zero, or a known action. -/
def SdkCall.Carries (config : DaemonConfig) (packet : CommandPacket) : SdkCall → Prop
  | .move vx vy wz _ =>
    (vx = packet.vx ∧ vy = packet.vy ∧ wz = packet.wz) ∧
      (0 ≤ vx ∧ vx ≤ config.maxVx) ∧ vy.abs ≤ config.maxVy ∧ wz.abs ≤ config.maxWz ∧
      ¬ ((vx == 0) = true ∧ (vy == 0) = true ∧ (wz == 0) = true)
  | .sportActionCall action _ =>
    action = .ofUInt8 packet.reserved8 ∧ isKnownSportAction packet.reserved8 = true
  | _ => True

section Payload

variable {config : DaemonConfig} {packet : CommandPacket} {nowNs : UInt64}

/-- A finite velocity that passes the limit check is within the limits. -/
lemma within_of_not_exceedsLimits (hvalid : ValidCommand packet nowNs)
    (h : exceedsLimits config packet = false) :
    (0 ≤ packet.vx ∧ packet.vx ≤ config.maxVx) ∧ packet.vy.abs ≤ config.maxVy ∧
      packet.wz.abs ≤ config.maxWz := by
  obtain ⟨hx, hy, hz⟩ := hvalid.finite
  simp only [exceedsLimits, Bool.or_eq_false_iff, decide_eq_false_iff_not, gt_iff_lt] at h
  obtain ⟨⟨⟨hneg, hvx⟩, hvy⟩, hwz⟩ := h
  have hnan := @Float32.isNaN_eq_false_of_isFinite
  refine ⟨⟨?_, ?_⟩, ?_, ?_⟩
  · exact Float32.le_of_not_lt (by decide +kernel) (hnan hx) hneg
  · exact Float32.le_of_not_lt (hnan hx) (hnan config.maxVx_finite) hvx
  · exact Float32.le_of_not_lt (Float32.isNaN_abs (hnan hy)) (hnan config.maxVy_finite) hvy
  · exact Float32.le_of_not_lt (Float32.isNaN_abs (hnan hz)) (hnan config.maxWz_finite) hwz

lemma isKnownSportAction_of_valid (hvalid : ValidCommand packet nowNs)
    (hop : CommandOp.ofUInt8? packet.operation = some .sportAction) :
    isKnownSportAction packet.reserved8 = true := by
  have h := hvalid.reserved
  simp only [hasCanonicalReserved, hop, if_true, Bool.and_eq_true] at h
  exact h.2

end Payload

/-! ## What one step may call -/

section Steps

variable {config : DaemonConfig} {s s' : DaemonCore} {packet : CommandPacket}
  {nowNs : UInt64} {code : ReplyCode} {stopped : Bool} {calls : List IssuedCall}

/-- A handled packet that commands motion was accepted by an armed core without a fault. -/
lemma HandleStep.authorized (h : HandleStep config s packet nowNs code calls s') :
    ∀ c ∈ calls, c.call.commandsMotion →
      c.armed = true ∧ c.faulted = false ∧ (∃ op, s.Accepts packet nowNs op) ∧
        c.call.Carries config packet := by
  have hmove : ∀ result, s.Accepts packet nowNs .move → s.MayMove config →
      exceedsLimits config packet = false → isZeroVelocity packet = false →
      let c := s.call (.move packet.vx packet.vy packet.wz result)
      c.armed = true ∧ c.faulted = false ∧ (∃ op, s.Accepts packet nowNs op) ∧
        c.call.Carries config packet := by
    intro result h hmay hlimit hzero
    obtain ⟨hx, hy, hz⟩ := within_of_not_exceedsLimits h.valid hlimit
    exact ⟨hmay.armed, hmay.not_faulted, ⟨_, h⟩, ⟨rfl, rfl, rfl⟩, hx, hy, hz,
      not_zero_of_not_isZeroVelocity hzero⟩
  have haction : ∀ result, s.Accepts packet nowNs .sportAction → s.MayMove config →
      let c := s.call (.sportActionCall (.ofUInt8 packet.reserved8) result)
      c.armed = true ∧ c.faulted = false ∧ (∃ op, s.Accepts packet nowNs op) ∧
        c.call.Carries config packet := by
    intro result h hmay
    exact ⟨hmay.armed, hmay.not_faulted, ⟨_, h⟩, rfl,
      isKnownSportAction_of_valid h.valid h.operation⟩
  cases h with
  | armFailed h hmay hresult hcalls =>
    rcases hcalls with rfl | rfl <;> simp [SdkCall.commandsMotion]
  | armed =>
    unfold armCalls
    split <;> simp [SdkCall.commandsMotion]
  | actionFailed h hmay => simpa [SdkCall.commandsMotion] using haction _ h hmay
  | actionStarted h hmay => simpa [SdkCall.commandsMotion] using haction _ h hmay
  | moveFailed h hmay hlimit hzero =>
    simpa [SdkCall.commandsMotion] using hmove _ h hmay hlimit hzero
  | moved h hmay hlimit hzero =>
    simpa [SdkCall.commandsMotion] using hmove _ h hmay hlimit hzero
  | _ => simp [SdkCall.commandsMotion]

/-- A call that acts on the robot is issued by a core without a fault. -/
lemma HandleStep.not_faulted_of_commands (h : HandleStep config s packet nowNs code calls s') :
    ∀ c ∈ calls, c.call.commands → c.faulted = false ∧ s.faulted = false := by
  cases h with
  | armFailed h hmay hresult hcalls =>
    rcases hcalls with rfl | rfl <;> simp [SdkCall.commands, hmay.not_faulted]
  | armed h hmay =>
    unfold armCalls
    split <;> simp [SdkCall.commands, hmay.not_faulted]
  | walkRestored h hmotion harmed hfaulted => simp [hfaulted]
  | actionStale h hmay => simp [hmay.not_faulted]
  | actionOverBudget h hmay => simp [hmay.not_faulted]
  | actionFailed h hmay => simp [hmay.not_faulted]
  | actionStarted h hmay => simp [hmay.not_faulted]
  | moveOverLimit h hmay => simp [hmay.not_faulted]
  | moveOverBudget h hmay => simp [hmay.not_faulted]
  | moveFailed h hmay => simp [hmay.not_faulted]
  | moved h hmay => simp [hmay.not_faulted]
  | _ => simp [SdkCall.commands]

lemma WatchdogStep.not_commands (h : WatchdogStep config s nowNs stopped calls s') :
    ∀ c ∈ calls, ¬ c.call.commands := by
  cases h with
  | idle hstop hfresh hchecks =>
    rcases hchecks with rfl | ⟨-, rfl⟩ <;> simp [SdkCall.commands]
  | retried => simp [SdkCall.commands]
  | tripped hstop harmed hchecks =>
    rcases hchecks with rfl | ⟨_, rfl⟩ <;> simp [SdkCall.commands]

lemma DisconnectStep.not_commands (h : DisconnectStep config s calls s') :
    ∀ c ∈ calls, ¬ c.call.commands := by
  cases h <;> simp [SdkCall.commands]

/-- A fault outlives every packet but a disarm request whose stop is acknowledged. -/
lemma HandleStep.faulted_or (h : HandleStep config s packet nowNs code calls s')
    (hfaulted : s.faulted = true) :
    s'.faulted = true ∨ (CommandOp.ofUInt8? packet.operation = some .disarm ∧
      ∃ c ∈ calls, c.call = .stopMove 0) := by
  cases h with
  | disarmedIdle h harmed hnot => simp [hfaulted] at hnot
  | disarmed h hmotion hresult =>
    subst hresult
    exact .inr ⟨h.operation, _, List.mem_singleton_self _, rfl⟩
  | disarmFailed h hmotion hresult => exact .inl (by simp [DaemonCore.disarmed, hresult])
  | stopFailed h hop hmotion harmed hresult =>
    exact .inl (by simp [DaemonCore.disarmed, hresult])
  | armFailed => exact .inl rfl
  | actionStale => exact .inl rfl
  | actionOverBudget => exact .inl rfl
  | actionFailed => exact .inl rfl
  | moveOverLimit => exact .inl rfl
  | moveOverBudget => exact .inl rfl
  | moveFailed => exact .inl rfl
  | _ => exact .inl hfaulted

lemma WatchdogStep.faulted (h : WatchdogStep config s nowNs stopped calls s')
    (hfaulted : s.faulted = true) : s'.faulted = true := by
  cases h with
  | idle => exact hfaulted
  | retried => simp [DaemonCore.disarmed, hfaulted]
  | tripped => rfl

lemma DisconnectStep.faulted (h : DisconnectStep config s calls s')
    (hfaulted : s.faulted = true) : s'.faulted = true := by
  cases h with
  | idle => exact hfaulted
  | stopped => simp [DaemonCore.disconnected, DaemonCore.disarmed, hfaulted]
  | retried => simp [DaemonCore.disconnected, DaemonCore.disarmed, hfaulted]

/-- Without motion no client method is called. -/
lemma DaemonStep.silent {event : DaemonEvent} {output : DaemonOutput}
    (hs : s.Consistent config) (h : DaemonStep config s event output s')
    (hmotion : config.allowMotion = false) : output.calls = [] := by
  obtain ⟨harmed, hfaulted, hstop⟩ := hs.latches_of_no_motion hmotion
  cases h with
  | handle h =>
    cases h with
    | armFailed h hmay => simp [hmay.motion] at hmotion
    | armed h hmay => simp [hmay.motion] at hmotion
    | actionStale h hmay => simp [hmay.motion] at hmotion
    | actionOverBudget h hmay => simp [hmay.motion] at hmotion
    | actionFailed h hmay => simp [hmay.motion] at hmotion
    | actionStarted h hmay => simp [hmay.motion] at hmotion
    | moveOverLimit h hmay => simp [hmay.motion] at hmotion
    | moveOverBudget h hmay => simp [hmay.motion] at hmotion
    | moveFailed h hmay => simp [hmay.motion] at hmotion
    | moved h hmay => simp [hmay.motion] at hmotion
    | _ => first | rfl | simp_all
  | checkWatchdog h =>
    cases h with
    | idle h' hfresh hchecks =>
      rcases hchecks with rfl | ⟨h', -⟩
      · rfl
      · simp [harmed] at h'
    | retried h' => simp [hstop] at h'
    | tripped h' hnot => simp [harmed] at hnot
  | onDisconnect h =>
    cases h with
    | idle => rfl
    | stopped h' => simp [hmotion] at h'
    | retried h' => simp [hmotion] at h'

/-- The last sequence number never goes back while the connection lasts, and it is that of
the last accepted packet. -/
lemma HandleStep.lastSequence (h : HandleStep config s packet nowNs code calls s') :
    s.lastSequence ≤ s'.lastSequence ∧
      ((∃ op, s.Accepts packet nowNs op) → s'.lastSequence = packet.sequence) := by
  have haccepted : ∀ {op}, s.Accepts packet nowNs op → s.lastSequence ≤ packet.sequence :=
    fun h => UInt64.le_of_lt h.fresh
  cases h with
  | rejected hcode hrejected => exact ⟨UInt64.le_refl _, fun ⟨op, h⟩ => absurd h (hrejected op)⟩
  | _ => exact ⟨haccepted (by assumption), fun _ => rfl⟩

lemma WatchdogStep.lastSequence (h : WatchdogStep config s nowNs stopped calls s') :
    s'.lastSequence = s.lastSequence := by
  cases h <;> rfl

end Steps

/-! ## Authorization over a run -/

section Runs

variable {γ : Type*} {config : DaemonConfig} {api : ISportClient γ} {client : γ}
  {events : List DaemonEvent}

/-- The step accepts a packet. -/
def AcceptedBy (x : Machine.Step (Daemon γ) DaemonEvent DaemonOutput)
    (packet : CommandPacket) (nowNs : UInt64) : Prop :=
  x.event = .handle packet nowNs ∧ ∃ op, x.pre.core.Accepts packet nowNs op

/-- The step is a disarm request whose `StopMove` is acknowledged. -/
def ConfirmsDisarm (x : Machine.Step (Daemon γ) DaemonEvent DaemonOutput) : Prop :=
  ∃ packet nowNs, x.event = .handle packet nowNs ∧
    CommandOp.ofUInt8? packet.operation = some .disarm ∧
    ∃ c ∈ x.output.calls, c.call = .stopMove 0

/-- The authorization of the client calls of a run. -/
structure Authorized (config : DaemonConfig) (api : ISportClient γ) (client : γ)
    (events : List DaemonEvent) : Prop where
  /-- A motion call comes from an armed core without a fault, and from an accepted packet,
  which is valid and has the payload of the call. -/
  motion : ∀ x ∈ (daemon config api).trace (Daemon.init client) events,
    ∀ c ∈ x.output.calls, c.call.commandsMotion →
      c.armed = true ∧ c.faulted = false ∧ ∃ packet nowNs, AcceptedBy x packet nowNs ∧
        ValidCommand packet nowNs ∧ c.call.Carries config packet
  /-- On one connection an accepted packet has a greater sequence number than every packet
  accepted before it. -/
  fresh : ∀ l x m y r, (daemon config api).trace (Daemon.init client) events =
      l ++ x :: (m ++ y :: r) → (∀ z ∈ m, z.event ≠ .onDisconnect) →
    ∀ p t q u, AcceptedBy x p t → AcceptedBy y q u → p.sequence < q.sequence
  /-- No call acts on the robot in a fault, and none before a confirmed disarm after it. -/
  unfaulted : ∀ x ∈ (daemon config api).trace (Daemon.init client) events,
    ∀ c ∈ x.output.calls, c.call.commands → c.faulted = false
  latched : Machine.Separated (fun x => x.post.core.faulted = true) ConfirmsDisarm
    (fun x => ∃ c ∈ x.output.calls, c.call.commands)
    ((daemon config api).trace (Daemon.init client) events)
  silent : config.allowMotion = false →
    ∀ x ∈ (daemon config api).trace (Daemon.init client) events, x.output.calls = []
  /-- The latches are consistent in every state of the run. -/
  consistent : ∀ es es', events = es ++ es' →
    let s := ((daemon config api).final (Daemon.init client) es).core
    (s.stopUnconfirmed = true → s.faulted = true ∧ s.armed = false) ∧
      (s.faulted = true → s.armed = false) ∧ (s.moving = true → s.armed = true)

/-- The last sequence number only grows while the connection lasts. -/
lemma lastSequence_le_final {d : Daemon γ} (hs : d.core.Consistent config)
    (hno : ∀ z ∈ (daemon config api).trace d events, z.event ≠ .onDisconnect) :
    d.core.lastSequence ≤ ((daemon config api).final d events).core.lastSequence := by
  refine ((daemon config api).history_induction (s := d)
    (motive := fun tr d' => d'.core.Consistent config ∧
      ((∀ z ∈ tr, z.event ≠ .onDisconnect) → d.core.lastSequence ≤ d'.core.lastSequence))
    ⟨hs, fun _ => UInt64.le_refl _⟩ ?_ events).2 hno
  rintro tr d' event ⟨hs', ih⟩
  have hstep := daemonStep_of_step api hs' event
  refine ⟨hstep.consistent hs', fun hno => ?_⟩
  have hle := ih fun z hz => hno z (by simp [hz])
  cases event with
  | handle packet nowNs =>
    obtain ⟨code, hhandle⟩ := hstep.handled
    exact UInt64.le_trans hle hhandle.lastSequence.1
  | checkWatchdog nowNs =>
    obtain ⟨stopped, hwatch⟩ := hstep.watched
    rw [hwatch.lastSequence]
    exact hle
  | onDisconnect => exact absurd rfl (hno _ (List.mem_concat_self))

lemma not_faulted_of_mem {x : Machine.Step (Daemon γ) DaemonEvent DaemonOutput}
    (hx : x ∈ (daemon config api).trace (Daemon.init client) events) :
    ∀ c ∈ x.output.calls, c.call.commands → c.faulted = false ∧ x.pre.core.faulted = false := by
  have hstep := daemonStep_of_mem hx
  obtain ⟨pre, event, output, post⟩ := x
  cases event with
  | handle packet nowNs =>
    obtain ⟨code, hhandle⟩ := hstep.handled
    exact hhandle.not_faulted_of_commands
  | checkWatchdog nowNs =>
    obtain ⟨stopped, hwatch⟩ := hstep.watched
    exact fun c hc hcommands => absurd hcommands (hwatch.not_commands c hc)
  | onDisconnect => exact fun c hc h => absurd h (hstep.disconnected.not_commands c hc)

lemma faulted_or_confirmsDisarm {x : Machine.Step (Daemon γ) DaemonEvent DaemonOutput}
    (hx : x ∈ (daemon config api).trace (Daemon.init client) events)
    (hfaulted : x.pre.core.faulted = true) :
    x.post.core.faulted = true ∨ ConfirmsDisarm x := by
  have hstep := daemonStep_of_mem hx
  obtain ⟨pre, event, output, post⟩ := x
  cases event with
  | handle packet nowNs =>
    obtain ⟨code, hhandle⟩ := hstep.handled
    exact (hhandle.faulted_or hfaulted).imp_right fun h => ⟨packet, nowNs, rfl, h⟩
  | checkWatchdog nowNs =>
    obtain ⟨stopped, hwatch⟩ := hstep.watched
    exact .inl (hwatch.faulted hfaulted)
  | onDisconnect => exact .inl (hstep.disconnected.faulted hfaulted)

lemma authorized_of_mem {x : Machine.Step (Daemon γ) DaemonEvent DaemonOutput}
    (hx : x ∈ (daemon config api).trace (Daemon.init client) events) :
    ∀ c ∈ x.output.calls, c.call.commandsMotion →
      c.armed = true ∧ c.faulted = false ∧ ∃ packet nowNs, AcceptedBy x packet nowNs ∧
        ValidCommand packet nowNs ∧ c.call.Carries config packet := by
  have hstep := daemonStep_of_mem hx
  obtain ⟨pre, event, output, post⟩ := x
  intro c hc hmotion
  cases event with
  | handle packet nowNs =>
    obtain ⟨code, hhandle⟩ := hstep.handled
    obtain ⟨harmed, hfaulted, ⟨op, haccept⟩, hcarries⟩ := hhandle.authorized c hc hmotion
    exact ⟨harmed, hfaulted, packet, nowNs, ⟨rfl, op, haccept⟩, haccept.valid, hcarries⟩
  | checkWatchdog nowNs =>
    obtain ⟨stopped, hwatch⟩ := hstep.watched
    exact absurd hmotion (hwatch.not_commandsMotion c hc)
  | onDisconnect => exact absurd hmotion (hstep.disconnected.not_commandsMotion c hc)

lemma lastSequence_of_acceptedBy {x : Machine.Step (Daemon γ) DaemonEvent DaemonOutput}
    (hx : x ∈ (daemon config api).trace (Daemon.init client) events)
    {packet : CommandPacket} {nowNs : UInt64} (h : AcceptedBy x packet nowNs) :
    x.post.core.lastSequence = packet.sequence := by
  have hstep := daemonStep_of_mem hx
  obtain ⟨hevent, haccept⟩ := h
  rw [hevent] at hstep
  obtain ⟨code, hhandle⟩ := hstep.handled
  exact hhandle.lastSequence.2 haccept

/-- **Every motion call of every run of the daemon is authorized.** -/
theorem authorized_run (config : DaemonConfig) (api : ISportClient γ) (client : γ)
    (events : List DaemonEvent) : Authorized config api client events where
  motion x hx := authorized_of_mem hx
  fresh := by
    rintro l x m y r htr hno p t q u hx ⟨hye, op, hy⟩
    have hmem : x ∈ (daemon config api).trace (Daemon.init client) events := by
      rw [htr]
      simp
    obtain ⟨es, es₂, -, -, hxe, hrest⟩ := (daemon config api).trace_eq_append_cons htr
    obtain ⟨es', -, -, hm, hyp, -⟩ := (daemon config api).trace_eq_append_cons hrest.symm
    have hpre : y.pre = (daemon config api).final x.post es' := by rw [hyp]; rfl
    rw [hm] at hno
    have hle := lastSequence_le_final (consistent_invariant.post hmem) hno
    rw [lastSequence_of_acceptedBy hmem hx, ← hpre] at hle
    exact UInt64.lt_of_le_of_lt hle hy.fresh
  unfaulted x hx c hc hcommands := (not_faulted_of_mem hx c hc hcommands).1
  latched := by
    refine Machine.separated_of_latch (fun d => d.core.faulted = true)
      (fun x _ h => h) (fun x hx => faulted_or_confirmsDisarm hx) ?_
    rintro x hx hfaulted ⟨c, hc, hcommands⟩
    simp [(not_faulted_of_mem hx c hc hcommands).2] at hfaulted
  silent hmotion x hx := (daemonStep_of_mem hx).silent (consistent_invariant.pre hx) hmotion
  consistent := by
    rintro es es' -
    have hs : ((daemon config api).final (Daemon.init client) es).core.Consistent config :=
      consistent_invariant.final es
    exact ⟨fun h => ⟨hs.faulted_of_stopUnconfirmed h,
      hs.not_armed_of_faulted (hs.faulted_of_stopUnconfirmed h)⟩, hs.not_armed_of_faulted,
      hs.armed_of_moving⟩

end Runs

/-! ## One arm and one motion budget -/

section Commissioning

variable {γ : Type*} {config : DaemonConfig} {api : ISportClient γ} {client : γ}
  {events : List DaemonEvent} {s s' : DaemonCore} {packet : CommandPacket} {nowNs : UInt64}
  {code : ReplyCode} {stopped : Bool} {calls : List IssuedCall}

/-- The time that an event carries. -/
def DaemonEvent.time? : DaemonEvent → Option UInt64
  | .handle _ nowNs => some nowNs
  | .checkWatchdog nowNs => some nowNs
  | .onDisconnect => none

/-- The step sends a motion command to the client at a time. -/
def MovesAt (x : Machine.Step (Daemon γ) DaemonEvent DaemonOutput) (nowNs : UInt64) : Prop :=
  (∃ packet, x.event = .handle packet nowNs) ∧
    ∃ c ∈ x.output.calls, c.call.commandsMotion

/-- The arm of a commissioning core is spent, and while it is armed its motion clock runs
since the time `t` or before. -/
structure Commissioned (t : UInt64) (s : DaemonCore) : Prop where
  spent : s.commissioningArmSpent = true
  clock : s.armed = true → 0 < s.motionStartNs ∧ s.motionStartNs ≤ t

lemma HandleStep.spent (h : HandleStep config s packet nowNs code calls s')
    (hspent : s.commissioningArmSpent = true) : s'.commissioningArmSpent = true := by
  cases h <;> first | exact hspent | rfl

lemma DaemonStep.spent {event : DaemonEvent} {output : DaemonOutput}
    (h : DaemonStep config s event output s') (hspent : s.commissioningArmSpent = true) :
    s'.commissioningArmSpent = true := by
  cases h with
  | handle h => exact h.spent hspent
  | checkWatchdog h => cases h <;> exact hspent
  | onDisconnect h => cases h <;> exact hspent

variable (api events) in
lemma spent_final {d : Daemon γ} (hs : d.core.Consistent config)
    (hspent : d.core.commissioningArmSpent = true) :
    ((daemon config api).final d events).core.commissioningArmSpent = true := by
  refine ((daemon config api).history_induction (s := d)
    (motive := fun _ d => d.core.Consistent config ∧ d.core.commissioningArmSpent = true)
    ⟨hs, hspent⟩ ?_ events).2
  rintro _ d' event ⟨hs', hspent'⟩
  have hstep := daemonStep_of_step api hs' event
  exact ⟨hstep.consistent hs', hstep.spent hspent'⟩

variable (nowNs) in
/-- A motion clock that runs is not touched. -/
lemma clocked_of_running {s : DaemonCore} (h : 0 < s.motionStartNs) :
    (s.clocked nowNs).motionStartNs = s.motionStartNs := by
  have hne : s.motionStartNs ≠ 0 := fun h' => by simp [h'] at h
  simp [clocked, hne]

/-- A spent core is not armed again, and its running motion clock is not touched. -/
lemma HandleStep.commissioned {t : UInt64} (honce : config.repeatableArm = false)
    (h : HandleStep config s packet nowNs code calls s') (hc : Commissioned t s) :
    Commissioned t s' := by
  refine ⟨h.spent hc.spent, fun harmed => ?_⟩
  cases h with
  | armed h hmay => 
    have hrepeat := hmay.unspent hc.spent
    simp [honce] at hrepeat
  | actionStarted h hmay =>
    have hrun := hc.clock hmay.armed
    rw [← clocked_of_running nowNs hrun.1] at hrun
    exact hrun
  | moved h hmay =>
    have hrun := hc.clock hmay.armed
    rw [← clocked_of_running nowNs hrun.1] at hrun
    exact hrun
  | disarmedIdle h hnot => simp [accept, hnot] at harmed
  | rejected => exact hc.clock harmed
  | refused => exact hc.clock harmed
  | stopped => exact hc.clock harmed
  | pinged => exact hc.clock harmed
  | walkRestored => exact hc.clock harmed
  | armFailed => cases harmed
  | _ => simp [DaemonCore.disarmed, halted] at harmed

lemma WatchdogStep.commissioned {t : UInt64}
    (h : WatchdogStep config s nowNs stopped calls s') (hc : Commissioned t s) :
    Commissioned t s' := by
  cases h with
  | idle => exact hc
  | retried => exact ⟨hc.spent, by simp [DaemonCore.disarmed]⟩
  | tripped => exact ⟨hc.spent, by simp [halted]⟩

lemma DisconnectStep.commissioned {t : UInt64} (h : DisconnectStep config s calls s')
    (hc : Commissioned t s) : Commissioned t s' := by
  cases h with
  | idle harmed => exact ⟨hc.spent, by simp [DaemonCore.disconnected, harmed]⟩
  | stopped =>
    exact ⟨hc.spent, by simp [DaemonCore.disconnected, DaemonCore.disarmed]⟩
  | retried =>
    exact ⟨hc.spent, by simp [DaemonCore.disconnected, DaemonCore.disarmed]⟩

lemma DaemonStep.commissioned {t : UInt64} {event : DaemonEvent} {output : DaemonOutput}
    (honce : config.repeatableArm = false) (h : DaemonStep config s event output s')
    (hc : Commissioned t s) : Commissioned t s' := by
  cases h with
  | handle h => exact h.commissioned honce hc
  | checkWatchdog h => exact h.commissioned hc
  | onDisconnect h => exact h.commissioned hc

variable (api events) in
lemma commissioned_final {t : UInt64} {d : Daemon γ} (honce : config.repeatableArm = false)
    (hs : d.core.Consistent config) (hc : Commissioned t d.core) :
    Commissioned t ((daemon config api).final d events).core := by
  refine ((daemon config api).history_induction (s := d)
    (motive := fun _ d => d.core.Consistent config ∧ Commissioned t d.core) ⟨hs, hc⟩ ?_
    events).2
  rintro _ d' event ⟨hs', hc'⟩
  have hstep := daemonStep_of_step api hs' event
  exact ⟨hstep.consistent hs', hstep.commissioned honce hc'⟩

/-- A motion command starts the clock of its core, or finds the budget of a running one. -/
lemma HandleStep.moves (hs : s.Consistent config)
    (h : HandleStep config s packet nowNs code calls s')
    (hmotion : ∃ c ∈ calls, c.call.commandsMotion) :
    s.MayMove config ∧
      motionBudgetSpent config nowNs (s.clocked nowNs).motionStartNs = false ∧
      s'.commissioningArmSpent = true ∧
      (s'.armed = true → s'.motionStartNs = (s.clocked nowNs).motionStartNs) := by
  cases h with
  | actionFailed h hmay hspent =>
    exact ⟨hmay, hspent, hs.spent_of_armed hmay.armed, by simp [halted]⟩
  | actionStarted h hmay hspent =>
    exact ⟨hmay, hspent, hs.spent_of_armed hmay.armed, fun _ => rfl⟩
  | moveFailed h hmay hlimit hzero hspent =>
    exact ⟨hmay, hspent, hs.spent_of_armed hmay.armed, by simp [halted]⟩
  | moved h hmay hlimit hzero hspent =>
    exact ⟨hmay, hspent, hs.spent_of_armed hmay.armed, fun _ => rfl⟩
  | armFailed h hmay hresult hcalls =>
    rcases hcalls with rfl | rfl <;> simp [SdkCall.commandsMotion] at hmotion
  | armed =>
    unfold armCalls at hmotion
    split at hmotion <;> simp [SdkCall.commandsMotion] at hmotion
  | _ => simp [SdkCall.commandsMotion] at hmotion

lemma le_of_budget {start : UInt64} (h : motionBudgetSpent config nowNs start = false) :
    start ≤ nowNs := by
  simp only [motionBudgetSpent, Bool.or_eq_false_iff, decide_eq_false_iff_not] at h
  exact UInt64.not_lt.mp h.1

lemma lt_of_budget {start : UInt64} (hmax : 0 < config.maxMotionNs)
    (h : motionBudgetSpent config nowNs start = false) :
    nowNs.toNat < start.toNat + config.maxMotionNs.toNat := by
  have hle := le_of_budget h
  have hne : config.maxMotionNs ≠ 0 := fun h' => by simp [h'] at hmax
  simp only [motionBudgetSpent, Bool.or_eq_false_iff, Bool.and_eq_false_iff,
    decide_eq_false_iff_not, bne_eq_false_iff_eq, hne, false_or, ge_iff_le, UInt64.not_le] at h
  have hlt := UInt64.lt_iff_toNat_lt.mp h.2
  rw [UInt64.toNat_sub_of_le _ _ hle] at hlt
  have := UInt64.le_iff_toNat_le.mp hle
  omega

lemma MovesAt.step {x : Machine.Step (Daemon γ) DaemonEvent DaemonOutput}
    (hx : x ∈ (daemon config api).trace (Daemon.init client) events)
    (h : MovesAt x nowNs) :
    x.pre.core.MayMove config ∧
      motionBudgetSpent config nowNs (x.pre.core.clocked nowNs).motionStartNs = false ∧
      x.post.core.commissioningArmSpent = true ∧ (x.post.core.armed = true →
        x.post.core.motionStartNs = (x.pre.core.clocked nowNs).motionStartNs) := by
  obtain ⟨⟨packet, hevent⟩, hmotion⟩ := h
  have hstep := daemonStep_of_mem hx
  rw [hevent] at hstep
  obtain ⟨code, hhandle⟩ := hstep.handled
  exact hhandle.moves (consistent_invariant.pre hx) hmotion

/-- The times of the events are positive and never go back. -/
def Timed (events : List DaemonEvent) : Prop :=
  (∀ t ∈ events.filterMap DaemonEvent.time?, 0 < t) ∧
    (events.filterMap DaemonEvent.time?).Pairwise (· ≤ ·)

lemma Timed.pos {es es' : List DaemonEvent} (h : Timed (es ++ .handle packet nowNs :: es')) :
    0 < nowNs := by
  refine h.1 nowNs ?_
  simp [List.filterMap_append, DaemonEvent.time?]

lemma Timed.le {es es' es'' : List DaemonEvent} {packet' : CommandPacket} {laterNs : UInt64}
    (h : Timed (es ++ .handle packet nowNs :: (es' ++ .handle packet' laterNs :: es''))) :
    nowNs ≤ laterNs := by
  have hsorted := h.2
  simp only [List.filterMap_append, List.filterMap_cons, DaemonEvent.time?,
    List.pairwise_append, List.pairwise_cons] at hsorted
  exact hsorted.2.1.1 laterNs (by simp)

/-- A motion command leaves the core commissioned since its time. -/
lemma MovesAt.commissioned {x : Machine.Step (Daemon γ) DaemonEvent DaemonOutput}
    (hx : x ∈ (daemon config api).trace (Daemon.init client) events) (htime : 0 < nowNs)
    (h : MovesAt x nowNs) : Commissioned nowNs x.post.core := by
  obtain ⟨hmay, hbudget, hspent, hclock⟩ := h.step hx
  refine ⟨hspent, fun harmed => ?_⟩
  rw [hclock harmed]
  refine ⟨?_, le_of_budget hbudget⟩
  unfold clocked
  by_cases hzero : x.pre.core.motionStartNs = 0
  · simpa [hzero] using htime
  · simpa [hzero] using UInt64.pos_iff_ne_zero.mpr hzero

/-- The commissioning budget of a run: one granted arm request, and less than the maximal
motion time between the first motion command and any other. -/
structure OneShot (config : DaemonConfig) (api : ISportClient γ) (client : γ)
    (events : List DaemonEvent) : Prop where
  one_arm : ∀ l x m y r, (daemon config api).trace (Daemon.init client) events =
    l ++ x :: (m ++ y :: r) → AnsweredOk .arm x → ¬ AnsweredOk .arm y
  budget : ∀ l x r, (daemon config api).trace (Daemon.init client) events = l ++ x :: r →
    ∀ t, MovesAt x t → ∀ y ∈ x :: r, ∀ u, MovesAt y u →
      t ≤ u ∧ u.toNat < t.toNat + config.maxMotionNs.toNat

/-- **A commissioning daemon spends one arm and one motion budget in its whole life.** -/
theorem oneShot_of_commissioning (config : DaemonConfig) (api : ISportClient γ) (client : γ)
    (events : List DaemonEvent) (honce : config.repeatableArm = false)
    (hmax : 0 < config.maxMotionNs) (htimed : Timed events) :
    OneShot config api client events where
  one_arm := by
    intro l x m y r htr hx hy
    have hmem : ∀ z ∈ [x, y], z ∈ (daemon config api).trace (Daemon.init client) events := by
      intro z hz
      rw [htr]
      simp only [List.mem_append, List.mem_cons, List.not_mem_nil, or_false] at hz ⊢
      tauto
    obtain ⟨es, es₂, -, -, hxe, hrest⟩ := (daemon config api).trace_eq_append_cons htr
    obtain ⟨es', -, -, -, hye, -⟩ := (daemon config api).trace_eq_append_cons hrest.symm
    have hs := consistent_invariant.post (hmem x (by simp))
    have harmed : x.post.core.armed = true := by
      rw [hxe] at hx ⊢
      exact hx.armed_post (consistent_invariant.final es)
    have hspent := spent_final api es' hs (hs.spent_of_armed harmed)
    have hpre : y.pre = (daemon config api).final x.post es' := by rw [hye]; rfl
    rw [← hpre] at hspent
    obtain ⟨_, _, -, -, hmay, -⟩ := (answeredOk_iff_of_mem (hmem y (by simp))).1.mp hy
    have hrepeat := hmay.unspent hspent
    simp [honce] at hrepeat
  budget := by
    intro l x r htr t hx y hy u hyu
    have hmem : x ∈ (daemon config api).trace (Daemon.init client) events := by
      rw [htr]
      simp
    obtain ⟨⟨packet, hevent⟩, -⟩ := id hx
    obtain ⟨es, es₂, hes, -, -, hrest⟩ := (daemon config api).trace_eq_append_cons htr
    rw [hevent] at hes
    have hpos : 0 < t := (hes ▸ htimed).pos
    have hmax' : 0 < config.maxMotionNs.toNat := UInt64.lt_iff_toNat_lt.mp hmax
    rcases List.mem_cons.mp hy with rfl | hy
    · obtain ⟨⟨packet', hevent'⟩, -⟩ := hyu
      rw [hevent] at hevent'
      cases hevent'
      exact ⟨UInt64.le_refl _, by omega⟩
    · obtain ⟨m, r', rfl⟩ := List.append_of_mem hy
      have hmemy : y ∈ (daemon config api).trace (Daemon.init client) events := by
        rw [htr]
        simp
      obtain ⟨es', es₃, hes₂, -, hye, -⟩ := (daemon config api).trace_eq_append_cons hrest.symm
      obtain ⟨⟨packet', hevent'⟩, -⟩ := id hyu
      rw [hes₂, hevent'] at hes
      have hle : t ≤ u := (hes ▸ htimed).le
      have hc := commissioned_final api es' honce
        (consistent_invariant.post hmem) (hx.commissioned hmem hpos)
      have hpre : y.pre = (daemon config api).final x.post es' := by rw [hye]; rfl
      rw [← hpre] at hc
      obtain ⟨hmay, hbudget, -, -⟩ := hyu.step hmemy
      have hrun := hc.clock hmay.armed
      rw [clocked_of_running _ hrun.1] at hbudget
      have hlt := lt_of_budget hmax hbudget
      have hstart := UInt64.le_iff_toNat_le.mp hrun.2
      exact ⟨hle, by omega⟩

end Commissioning

/-- The commissioning profile: arm, drive, and drive again. -/
def commissioningRun : List DaemonEvent :=
  [.handle (makeCommand .arm 1 1000 1000) 1000,
    .handle (makeCommand .move 2 2000 1000 0.05) 2000,
    .handle (makeCommand .move 3 3000 1000 0.05) 3000]

lemma timed_commissioningRun : Timed commissioningRun := by
  have htimes : commissioningRun.filterMap DaemonEvent.time? = [1000, 2000, 3000] := rfl
  rw [Timed, htimes]
  constructor
  · intro t ht
    simp only [List.mem_cons, List.not_mem_nil, or_false] at ht
    rcases ht with rfl | rfl | rfl <;> decide
  · simp

theorem oneShot_commissioningRun :
    OneShot { allowMotion := true } scriptedClient [] commissioningRun :=
  oneShot_of_commissioning { allowMotion := true } scriptedClient [] commissioningRun rfl
    (by decide) timed_commissioningRun

end UnitreeGo2.Chassis
