import UnitreeGo2.Chassis.DaemonTransitions

/-!
# Outstanding motion and sessions of the daemon

A motion command that was sent to the client stays outstanding until a later `StopMove`
is acknowledged.  This file decides when outstanding motion is always guarded by the arm
latch or by the unconfirmed stop that the watchdog retries, and when two granted arm
requests are always separated by a granted disarm.
-/

namespace UnitreeGo2.Chassis

open DaemonCore

/-! ## Arm and disarm requests -/

section Requests

variable {γ : Type*} (config : DaemonConfig) (api : ISportClient γ)

/-- The client answers every call of an arm request with success. -/
def ClientArms (client : γ) : Prop :=
  (api.prepareArm client).1 = 0 ∧
    (config.preserveClassicWalk = true →
      (api.classicWalk true (api.prepareArm client).2).1 = 0)

/-- An accepted arm request that the client grants. -/
def ArmGranted (d : Daemon γ) (event : DaemonEvent) : Prop :=
  ∃ packet nowNs, event = .handle packet nowNs ∧ d.core.Accepts packet nowNs .arm ∧
    d.core.MayArm config ∧ ClientArms config api d.client

/-- An accepted arm request that the client declines. -/
def ArmDeclined (d : Daemon γ) (event : DaemonEvent) : Prop :=
  ∃ packet nowNs, event = .handle packet nowNs ∧ d.core.Accepts packet nowNs .arm ∧
    d.core.MayArm config ∧ ¬ ClientArms config api d.client

/-- An accepted disarm request whose `StopMove`, if it needs one, is acknowledged. -/
def DisarmGranted (d : Daemon γ) (event : DaemonEvent) : Prop :=
  ∃ packet nowNs, event = .handle packet nowNs ∧ d.core.Accepts packet nowNs .disarm ∧
    (config.allowMotion = true → (d.core.armed = true ∨ d.core.faulted = true ∨
      d.core.moving = true ∨ d.core.stopUnconfirmed = true) → (api.stopMove d.client).1 = 0)

variable {config api} {s : DaemonCore} {packet : CommandPacket} {nowNs : UInt64} {client : γ}

lemma DaemonCore.Accepts.unique {op op' : CommandOp} (h : s.Accepts packet nowNs op)
    (h' : CommandOp.ofUInt8? packet.operation = some op') : op = op' := by
  have := h.operation
  simp_all

lemma handle_of_accepts_arm (h : s.Accepts packet nowNs .arm) :
    handle config api packet nowNs ⟨s, client, []⟩ =
      handleArm config api packet ⟨s.accept packet nowNs, client, []⟩ := by
  have hvalid := validateCommand_eq_ok_iff.mpr h.valid
  have hfresh : ¬ packet.sequence ≤ s.lastSequence := UInt64.not_le.mpr h.fresh
  simp only [handle, hvalid, ne_eq, not_true_eq_false, if_false, hfresh, h.operation]
  rfl

lemma handle_of_accepts_disarm (h : s.Accepts packet nowNs .disarm) :
    handle config api packet nowNs ⟨s, client, []⟩ =
      let r := explicitDisarm config api ⟨s.accept packet nowNs, client, []⟩
      reply packet.sequence r.1 r.2 := by
  have hvalid := validateCommand_eq_ok_iff.mpr h.valid
  have hfresh : ¬ packet.sequence ≤ s.lastSequence := UInt64.not_le.mpr h.fresh
  simp only [handle, hvalid, ne_eq, not_true_eq_false, if_false, hfresh, h.operation]
  rfl

variable (packet) in
lemma handleArm_granted {x : Execution γ} (hmay : x.core.MayArm config)
    (hclient : ClientArms config api x.client) :
    (handleArm config api packet x).1 = makeReply packet.sequence .ok true x.core.faulted ∧
      (handleArm config api packet x).2.core.armed = true := by
  obtain ⟨hprepare, hwalk⟩ := hclient
  have hspent : (x.core.commissioningArmSpent && !config.repeatableArm) = false := by
    cases h : x.core.commissioningArmSpent
    · rfl
    · simp [hmay.unspent h]
  cases hpreserve : config.preserveClassicWalk
  · simp [handleArm, hmay.motion, hmay.not_faulted, hspent, callPrepareArm, hprepare, issue,
      hpreserve, reply]
  · simp [handleArm, hmay.motion, hmay.not_faulted, hspent, callPrepareArm, callClassicWalk,
      hprepare, issue, hpreserve, hwalk hpreserve, reply]

variable (packet) in
lemma handleArm_declined {x : Execution γ} (hmay : x.core.MayArm config)
    (hclient : ¬ ClientArms config api x.client) :
    (handleArm config api packet x).1 = makeReply packet.sequence .sdkError false true ∧
      (handleArm config api packet x).2.core.armed = false := by
  have hspent : (x.core.commissioningArmSpent && !config.repeatableArm) = false := by
    cases h : x.core.commissioningArmSpent
    · rfl
    · simp [hmay.unspent h]
  by_cases hprepare : (api.prepareArm x.client).1 = 0
  · have hwalk : config.preserveClassicWalk = true ∧
        ¬ (api.classicWalk true (api.prepareArm x.client).2).1 = 0 := by
      simpa [ClientArms, hprepare] using hclient
    simp [handleArm, hmay.motion, hmay.not_faulted, hspent, callPrepareArm, callClassicWalk,
      hprepare, issue, hwalk, reply]
  · simp [handleArm, hmay.motion, hmay.not_faulted, hspent, callPrepareArm, hprepare, issue,
      reply]

lemma explicitDisarm_code {x : Execution γ} :
    (explicitDisarm config api x).1 =
      if config.allowMotion = true ∧ (x.core.armed = true ∨ x.core.faulted = true ∨
        x.core.moving = true ∨ x.core.stopUnconfirmed = true) ∧
        (api.stopMove x.client).1 ≠ 0 then .sdkError else .ok := by
  unfold explicitDisarm
  cases config.allowMotion
  · simp
  simp only [Bool.not_true, Bool.false_eq_true, if_false, callStopMove, issue,
    Bool.or_eq_true, or_assoc, true_and]
  split
  · rename_i hlatch
    by_cases hresult : (api.stopMove x.client).1 = 0 <;> simp [hlatch, hresult]
  · rename_i hlatch
    simp [hlatch]

/-- The requests of an operation that are answered with success. -/
def AnsweredOk (op : CommandOp) (x : Machine.Step (Daemon γ) DaemonEvent DaemonOutput) :
    Prop :=
  ∃ packet nowNs reply, x.event = .handle packet nowNs ∧
    CommandOp.ofUInt8? packet.operation = some op ∧ x.output.answer = .reply reply ∧
    reply.code = ReplyCode.ok.toInt32

lemma answeredOk_of_code {op : CommandOp} {d : Daemon γ}
    (hop : CommandOp.ofUInt8? packet.operation = some op)
    (hcode : (handle config api packet nowNs ⟨d.core, d.client, []⟩).1.code =
      ReplyCode.ok.toInt32) :
    AnsweredOk op ((daemon config api).stepAt d (.handle packet nowNs)) :=
  ⟨packet, nowNs, _, rfl, hop, rfl, hcode⟩

variable (api) in
/-- A handled packet takes a transition, whose code tells whether it is answered with
success. -/
lemma step_handle {d : Daemon γ} (hs : d.core.Consistent config) (packet : CommandPacket)
    (nowNs : UInt64) :
    let x := (daemon config api).stepAt d (.handle packet nowNs)
    ∃ code, HandleStep config d.core packet nowNs code x.output.calls x.post.core ∧
      ∀ op, AnsweredOk op x ↔
        code = .ok ∧ CommandOp.ofUInt8? packet.operation = some op := by
  obtain ⟨code, hreply, hstep⟩ :=
    handle_answers api packet nowNs d.client hs
  refine ⟨code, hstep, fun op => ⟨?_, ?_⟩⟩
  · rintro ⟨_, _, r, hevent, hop, hanswer, hcode⟩
    cases hevent
    have hr : r = (handle config api packet nowNs ⟨d.core, d.client, []⟩).1 := by
      injection hanswer.symm
    rw [hr, hreply, makeReply_code] at hcode
    exact ⟨ReplyCode.toInt32_injective hcode, hop⟩
  · rintro ⟨rfl, hop⟩
    refine answeredOk_of_code hop ?_
    rw [hreply, makeReply_code]

lemma HandleStep.arm_ok {s' : DaemonCore} {calls : List IssuedCall}
    (h : HandleStep config s packet nowNs .ok calls s')
    (hop : CommandOp.ofUInt8? packet.operation = some .arm) :
    s.Accepts packet nowNs .arm ∧ s.MayArm config ∧ s'.armed = true := by
  cases h with
  | rejected hcode => exact absurd rfl hcode
  | refused h hcode => exact absurd rfl hcode
  | armed h hmay => exact ⟨h, hmay, rfl⟩
  | stopped h hor => rcases hor with rfl | rfl <;> cases h.unique hop
  | disarmedIdle h => cases h.unique hop
  | disarmed h => cases h.unique hop
  | pinged h => cases h.unique hop
  | walkRestored h => cases h.unique hop
  | actionStarted h => cases h.unique hop
  | moved h => cases h.unique hop

lemma HandleStep.disarm_ok {s' : DaemonCore} {calls : List IssuedCall}
    (h : HandleStep config s packet nowNs .ok calls s')
    (hop : CommandOp.ofUInt8? packet.operation = some .disarm) :
    s.Accepts packet nowNs .disarm := by
  cases h with
  | rejected hcode => exact absurd rfl hcode
  | refused h hcode => exact absurd rfl hcode
  | armed h hmay => cases h.unique hop
  | stopped h hor => rcases hor with rfl | rfl <;> cases h.unique hop
  | disarmedIdle h => exact h
  | disarmed h => exact h
  | pinged h => cases h.unique hop
  | walkRestored h => cases h.unique hop
  | actionStarted h => cases h.unique hop
  | moved h => cases h.unique hop

/-- An arm request is answered with success exactly when it is granted. -/
theorem answeredOk_arm_iff {d : Daemon γ} {event : DaemonEvent}
    (hs : d.core.Consistent config) :
    AnsweredOk .arm ((daemon config api).stepAt d event) ↔
      ArmGranted config api d event := by
  constructor
  · intro h
    obtain ⟨packet, nowNs, -, hevent, -⟩ := id h
    rw [Machine.stepAt_event] at hevent
    subst hevent
    obtain ⟨code, hstep, hiff⟩ := step_handle api hs packet nowNs
    obtain ⟨rfl, hop⟩ := (hiff .arm).mp h
    obtain ⟨haccept, hmay, harmed⟩ := hstep.arm_ok hop
    refine ⟨packet, nowNs, rfl, haccept, hmay, ?_⟩
    by_contra hclient
    have hdeclined := handleArm_declined packet (x := ⟨d.core.accept packet nowNs, d.client, []⟩)
      ⟨hmay.1, hmay.2, hmay.3⟩ hclient
    rw [← handle_of_accepts_arm haccept] at hdeclined
    exact Bool.false_ne_true (hdeclined.2.symm.trans harmed)
  · rintro ⟨packet, nowNs, rfl, h, hmay, hclient⟩
    have hgranted := handleArm_granted packet (x := ⟨d.core.accept packet nowNs, d.client, []⟩)
      ⟨hmay.1, hmay.2, hmay.3⟩ hclient
    rw [← handle_of_accepts_arm h] at hgranted
    refine answeredOk_of_code h.operation ?_
    rw [hgranted.1, makeReply_code]

/-- A disarm request is answered with success exactly when it is granted. -/
theorem answeredOk_disarm_iff {d : Daemon γ} {event : DaemonEvent}
    (hs : d.core.Consistent config) :
    AnsweredOk .disarm ((daemon config api).stepAt d event) ↔
      DisarmGranted config api d event := by
  constructor
  · intro h
    obtain ⟨packet, nowNs, r, hevent, -, hanswer, hcode⟩ := id h
    rw [Machine.stepAt_event] at hevent
    subst hevent
    obtain ⟨code, hstep, hiff⟩ := step_handle api hs packet nowNs
    obtain ⟨rfl, hop⟩ := (hiff .disarm).mp h
    have hdisarm := hstep.disarm_ok hop
    refine ⟨packet, nowNs, rfl, hdisarm, fun hmotion hlatch => ?_⟩
    have hr : r = (handle config api packet nowNs ⟨d.core, d.client, []⟩).1 := by
      injection hanswer.symm
    rw [hr, handle_of_accepts_disarm hdisarm, reply, makeReply_code] at hcode
    have hok := ReplyCode.toInt32_injective hcode
    rw [explicitDisarm_code] at hok
    split at hok
    · cases hok
    · rename_i hnot
      by_contra hresult
      exact hnot ⟨hmotion, hlatch, hresult⟩
  · rintro ⟨packet, nowNs, rfl, h, hstop⟩
    refine answeredOk_of_code h.operation ?_
    rw [handle_of_accepts_disarm h, reply, makeReply_code]
    rw [explicitDisarm_code, if_neg]
    rintro ⟨hmotion, hlatch, hresult⟩
    exact hresult (hstop hmotion hlatch)

end Requests

/-! ## Outstanding motion -/

/-- The calls that may set the robot in motion. -/
def SdkCall.commandsMotion : SdkCall → Prop
  | .move .. | .sportActionCall .. => True
  | _ => False

/-- The calls after which the robot is known to stand: an acknowledged `StopMove`. -/
def SdkCall.confirmsStop : SdkCall → Prop
  | .stopMove result => result = 0
  | _ => False

/-- Some motion was commanded and no later stop was acknowledged. -/
def MotionOutstanding (calls : List IssuedCall) : Prop :=
  ∃ l c r, calls = l ++ c :: r ∧ c.call.commandsMotion ∧ ∀ q ∈ r, ¬ q.call.confirmsStop

lemma not_motionOutstanding_nil : ¬ MotionOutstanding [] := by
  rintro ⟨l, c, r, h, -⟩
  simp at h

lemma motionOutstanding_append {a b : List IssuedCall} :
    MotionOutstanding (a ++ b) ↔
      MotionOutstanding b ∨ MotionOutstanding a ∧ ∀ q ∈ b, ¬ q.call.confirmsStop := by
  constructor
  · rintro ⟨l, c, r, h, hc, hr⟩
    rcases List.append_eq_append_iff.mp h with ⟨m, rfl, rfl⟩ | ⟨m, rfl, hm⟩
    · exact .inl ⟨m, c, r, rfl, hc, hr⟩
    · rcases List.cons_eq_append_iff.mp hm with ⟨rfl, rfl⟩ | ⟨m', rfl, rfl⟩
      · exact .inl ⟨[], c, r, rfl, hc, hr⟩
      · refine .inr ⟨⟨l, c, m', rfl, hc, fun q hq => hr q (by simp [hq])⟩, fun q hq => ?_⟩
        exact hr q (by simp [hq])
  · rintro (⟨l, c, r, rfl, hc, hr⟩ | ⟨⟨l, c, r, rfl, hc, hr⟩, hb⟩)
    · exact ⟨a ++ l, c, r, by simp, hc, hr⟩
    · refine ⟨l, c, r ++ b, by simp, hc, fun q hq => ?_⟩
      rcases List.mem_append.mp hq with hq | hq
      · exact hr q hq
      · exact hb q hq

/-- Calls of which none commands motion leave no motion outstanding. -/
lemma not_motionOutstanding {calls : List IssuedCall}
    (h : ∀ c ∈ calls, ¬ c.call.commandsMotion) : ¬ MotionOutstanding calls := by
  rintro ⟨l, c, r, rfl, hc, -⟩
  exact h c (by simp) hc

/-- Calls that command no motion leave outstanding only what was outstanding before. -/
lemma MotionOutstanding.before {before calls : List IssuedCall}
    (h : MotionOutstanding (before ++ calls))
    (hcalls : ∀ c ∈ calls, ¬ c.call.commandsMotion) : MotionOutstanding before := by
  rcases motionOutstanding_append.mp h with h | h
  · exact absurd h (not_motionOutstanding hcalls)
  · exact h.1

/-- Motion is outstanding after a stop only if the stop was not acknowledged. -/
lemma MotionOutstanding.stop_failed {before : List IssuedCall} {s : DaemonCore}
    {result : Int32} (h : MotionOutstanding (before ++ [s.call (.stopMove result)])) :
    result ≠ 0 := by
  rintro rfl
  rcases motionOutstanding_append.mp h with h | ⟨-, hstop⟩
  · exact absurd h (not_motionOutstanding (by simp [SdkCall.commandsMotion]))
  · exact hstop _ (List.mem_singleton_self _) rfl

/-- The client calls of a run, in order. -/
def runCalls {γ : Type*} (steps : List (Machine.Step (Daemon γ) DaemonEvent DaemonOutput)) :
    List IssuedCall :=
  steps.flatMap fun x => x.output.calls

@[simp] lemma runCalls_nil {γ : Type*} : runCalls (γ := γ) [] = [] := rfl

@[simp] lemma runCalls_concat {γ : Type*}
    (steps : List (Machine.Step (Daemon γ) DaemonEvent DaemonOutput))
    (x : Machine.Step (Daemon γ) DaemonEvent DaemonOutput) :
    runCalls (steps ++ [x]) = runCalls steps ++ x.output.calls := by
  simp [runCalls]

/-! ## When outstanding motion is guarded -/

/-- The core will send a stop: it is armed, hence under its watchdog, or it retries a stop
that was not acknowledged. -/
def DaemonCore.Guarded (s : DaemonCore) : Prop :=
  s.armed = true ∨ s.stopUnconfirmed = true

section Guard

variable {γ : Type*} {config : DaemonConfig} {api : ISportClient γ}

lemma guarded_halted {s : DaemonCore} {result : Int32} (h : result ≠ 0) :
    (s.halted result).Guarded :=
  .inr (bne_iff_ne.mpr h)

lemma guarded_disarmed {s : DaemonCore} {result : Int32} (h : result ≠ 0) :
    (s.disarmed result).Guarded :=
  .inr (bne_iff_ne.mpr h)

/-- What a handled packet leaves outstanding is guarded, except that a declined arm request
drops the guard of an armed core. -/
lemma HandleStep.guarded {s s' : DaemonCore} {packet : CommandPacket} {nowNs : UInt64}
    {code : ReplyCode} {calls before : List IssuedCall} (hs : s.Consistent config)
    (h : HandleStep config s packet nowNs code calls s')
    (hguard : MotionOutstanding before → s.Guarded)
    (hout : MotionOutstanding (before ++ calls)) :
    s'.Guarded ∨ (s'.armed = false ∧ s.Accepts packet nowNs .arm ∧ s.MayArm config) := by
  -- without a motion command the latches that guarded the motion have to survive
  have hkeep : (∀ c ∈ calls, ¬ c.call.commandsMotion) → s.Guarded :=
    fun hcalls => hguard (hout.before hcalls)
  have hidle : s.armed = false → s.stopUnconfirmed = false → ¬ s.Guarded := by
    rintro harmed hstop (h | h) <;> simp_all
  cases h with
  | rejected => exact .inl (hkeep (by simp))
  | refused => exact .inl (hkeep (by simp))
  | armFailed h hmay => exact .inr ⟨rfl, h, hmay⟩
  | armed => exact .inl (.inl rfl)
  | disarmedIdle h harmed hfaulted hstop =>
    exact absurd (hkeep (by simp)) (hidle harmed hstop)
  | disarmed h hmotion hresult => exact absurd hresult hout.stop_failed
  | disarmFailed h hmotion hresult => exact .inl (.inr (bne_iff_ne.mpr hresult))
  | stopped h hop hmotion harmed => exact .inl (.inl harmed)
  | stopFailed h hop hmotion harmed hresult => exact .inl (guarded_disarmed hresult)
  | pinged h harmed => exact .inl (.inl harmed)
  | walkRestored h hmotion harmed hfaulted =>
    have hstop : s.stopUnconfirmed = false := by
      by_contra hstop
      simpa [hfaulted] using hs.faulted_of_stopUnconfirmed (by simpa using hstop)
    exact absurd (hkeep (by simp [SdkCall.commandsMotion])) (hidle harmed hstop)
  | actionStale =>
    rw [List.append_cons] at hout
    exact .inl (guarded_halted hout.stop_failed)
  | actionOverBudget =>
    rw [List.append_cons] at hout
    exact .inl (guarded_halted hout.stop_failed)
  | actionFailed =>
    rw [List.append_cons, List.append_cons] at hout
    exact .inl (guarded_halted hout.stop_failed)
  | actionStarted h hmay => exact .inl (.inl hmay.armed)
  | moveOverLimit => exact .inl (guarded_halted hout.stop_failed)
  | moveOverBudget => exact .inl (guarded_halted hout.stop_failed)
  | moveFailed =>
    rw [List.append_cons] at hout
    exact .inl (guarded_halted hout.stop_failed)
  | moved h hmay => exact .inl (.inl hmay.armed)

/-- An arm request neither commands motion nor stops it, and leaves the unconfirmed stop. -/
lemma HandleStep.arm_frame {s s' : DaemonCore} {packet : CommandPacket} {nowNs : UInt64}
    {code : ReplyCode} {calls : List IssuedCall}
    (h : HandleStep config s packet nowNs code calls s')
    (harm : s.Accepts packet nowNs .arm) :
    s'.stopUnconfirmed = s.stopUnconfirmed ∧
      ∀ c ∈ calls, ¬ c.call.commandsMotion ∧ ¬ c.call.confirmsStop := by
  have hop := harm.operation
  cases h with
  | rejected => exact ⟨rfl, by simp⟩
  | refused => exact ⟨rfl, by simp⟩
  | armFailed h hmay hresult hcalls =>
    refine ⟨rfl, ?_⟩
    rcases hcalls with rfl | rfl <;> simp [SdkCall.commandsMotion, SdkCall.confirmsStop]
  | armed =>
    refine ⟨rfl, ?_⟩
    unfold armCalls
    split <;> simp [SdkCall.commandsMotion, SdkCall.confirmsStop]
  | disarmedIdle h => cases h.unique hop
  | disarmed h => cases h.unique hop
  | disarmFailed h => cases h.unique hop
  | stopped h hor => rcases hor with rfl | rfl <;> cases h.unique hop
  | stopFailed h hor => rcases hor with rfl | rfl <;> cases h.unique hop
  | pinged h => cases h.unique hop
  | walkRestored h => cases h.unique hop
  | actionStale h => cases h.unique hop
  | actionOverBudget h => cases h.unique hop
  | actionFailed h => cases h.unique hop
  | actionStarted h => cases h.unique hop
  | moveOverLimit h => cases h.unique hop
  | moveOverBudget h => cases h.unique hop
  | moveFailed h => cases h.unique hop
  | moved h => cases h.unique hop

lemma WatchdogStep.guarded {s s' : DaemonCore} {nowNs : UInt64} {stopped : Bool}
    {calls before : List IssuedCall} (h : WatchdogStep config s nowNs stopped calls s')
    (hguard : MotionOutstanding before → s.Guarded)
    (hout : MotionOutstanding (before ++ calls)) : s'.Guarded := by
  cases h with
  | idle hstop hfresh hchecks =>
    refine hguard (hout.before ?_)
    rcases hchecks with rfl | ⟨-, rfl⟩ <;> simp [SdkCall.commandsMotion]
  | retried => exact .inr (bne_iff_ne.mpr hout.stop_failed)
  | tripped =>
    rw [← List.append_assoc] at hout
    exact .inr (bne_iff_ne.mpr hout.stop_failed)

lemma DisconnectStep.guarded {s s' : DaemonCore} {calls before : List IssuedCall}
    (h : DisconnectStep config s calls s') (hguard : MotionOutstanding before → s.Guarded)
    (hout : MotionOutstanding (before ++ calls)) : s'.Guarded := by
  cases h with
  | idle => exact hguard (hout.before (by simp))
  | stopped hmotion hresult => exact absurd hresult hout.stop_failed
  | retried =>
    rw [List.append_cons] at hout
    exact .inr (bne_iff_ne.mpr hout.stop_failed)

/-- A watchdog tick of a guarded core sends a stop once the heartbeat is too old. -/
lemma WatchdogStep.calls_stopMove {s s' : DaemonCore} {nowNs : UInt64} {stopped : Bool}
    {calls : List IssuedCall} (h : WatchdogStep config s nowNs stopped calls s')
    (hguard : s.Guarded) (hpacket : 0 < s.lastPacketNs)
    (hlate : s.lastPacketNs.toNat + config.watchdogNs.toNat < nowNs.toNat) :
    ∃ c ∈ calls, ∃ result, c.call = .stopMove result := by
  cases h with
  | idle hstop hfresh =>
    have harmed : s.armed = true := hguard.resolve_right (by simp [hstop])
    have hpos : 0 < s.lastPacketNs.toNat := UInt64.lt_iff_toNat_lt.mp hpacket
    rcases hfresh harmed with h | h | h
    · simp [h] at hpos
    · rw [UInt64.lt_iff_toNat_lt] at h
      omega
    · have hle : s.lastPacketNs ≤ nowNs := by
        rw [UInt64.le_iff_toNat_le]
        omega
      rw [UInt64.le_iff_toNat_le, UInt64.toNat_sub_of_le _ _ hle] at h
      omega
  | retried => exact ⟨_, List.mem_singleton_self _, _, rfl⟩
  | tripped => exact ⟨_, List.mem_concat_self, _, rfl⟩

/-- What a run leaves outstanding is guarded, as long as no armed core that drives loses
its latch to a declined arm request. -/
lemma guarded_of_run (client : γ) (events : List DaemonEvent)
    (hrun : ∀ l x r, (daemon config api).trace (Daemon.init client) events = l ++ x :: r →
      MotionOutstanding (runCalls l) →
        ¬ (x.pre.core.armed = true ∧ ArmDeclined config api x.pre x.event)) :
    let d := (daemon config api).final (Daemon.init client) events
    d.core.Consistent config ∧
      (MotionOutstanding (runCalls ((daemon config api).trace (Daemon.init client) events)) →
        d.core.Guarded) := by
  refine (daemon config api).guarded_induction (s := Daemon.init client)
    (motive := fun tr d => d.core.Consistent config ∧
      (MotionOutstanding (runCalls tr) → d.core.Guarded)) ?_ ?_ events hrun
  · exact ⟨consistent_invariant.init (M := daemon config api),
      fun h => absurd h not_motionOutstanding_nil⟩
  rintro tr d event hdeclined ⟨hs, hguard⟩
  have hstep := daemonStep_of_step api hs event
  refine ⟨hstep.consistent hs, fun hout => ?_⟩
  rw [runCalls_concat] at hout
  cases event with
  | checkWatchdog nowNs =>
    obtain ⟨stopped, hwatch⟩ := hstep.watched
    exact hwatch.guarded hguard hout
  | onDisconnect => exact hstep.disconnected.guarded hguard hout
  | handle packet nowNs =>
    obtain ⟨code, hhandle⟩ := hstep.handled
    rcases hhandle.guarded hs hguard hout with h | ⟨hpost, haccept, hmay⟩
    · exact h
    by_cases hclient : ClientArms config api d.client
    · have hgranted := handleArm_granted packet (x := ⟨d.core.accept packet nowNs, d.client, []⟩)
        ⟨hmay.1, hmay.2, hmay.3⟩ hclient
      rw [← handle_of_accepts_arm haccept] at hgranted
      exact .inl hgranted.2
    · have hbefore := hout.before fun c hc => ((hhandle.arm_frame haccept).2 c hc).1
      have harmed : d.core.armed = true := by
        refine (hguard hbefore).resolve_right fun hstop => ?_
        simpa [hmay.not_faulted] using hs.faulted_of_stopUnconfirmed hstop
      exact absurd ⟨harmed, packet, nowNs, rfl, haccept, hmay, hclient⟩ (hdeclined hbefore)

/-- Outstanding motion is guarded in every state of a run, and from such a state the
watchdog sends a stop once the heartbeat is too old. -/
def MotionGuarded (config : DaemonConfig) (api : ISportClient γ) (client : γ)
    (events : List DaemonEvent) : Prop :=
  ∀ es es', events = es ++ es' →
    MotionOutstanding (runCalls ((daemon config api).trace (Daemon.init client) es)) →
      let d := (daemon config api).final (Daemon.init client) es
      (d.core.armed = true ∨ d.core.stopUnconfirmed = true) ∧
        ∀ nowNs, 0 < d.core.lastPacketNs →
          d.core.lastPacketNs.toNat + config.watchdogNs.toNat < nowNs.toNat →
            ∃ c ∈ ((daemon config api).step d (.checkWatchdog nowNs)).1.calls,
              ∃ result, c.call = .stopMove result

/-- **Motion is guarded in a run exactly when no arm request is declined while the core is
armed and motion is outstanding.** -/
theorem motionGuarded_iff (config : DaemonConfig) (api : ISportClient γ) (client : γ)
    (events : List DaemonEvent) :
    MotionGuarded config api client events ↔
      ∀ l x r, (daemon config api).trace (Daemon.init client) events = l ++ x :: r →
        MotionOutstanding (runCalls l) →
          ¬ (x.pre.core.armed = true ∧ ArmDeclined config api x.pre x.event) := by
  constructor
  · intro h l x r htr hout
    rintro ⟨harmed, hdeclined⟩
    obtain ⟨es, es', rfl, rfl, hx, -⟩ := (daemon config api).trace_eq_append_cons htr
    obtain ⟨packet, nowNs, hevent, haccept, hmay, hclient⟩ := hdeclined
    set d := (daemon config api).final (Daemon.init client) es with hd
    have hpre : x.pre = d := by rw [hx]; rfl
    rw [hpre] at harmed haccept hmay hclient
    have hs : d.core.Consistent config := consistent_invariant.final es
    obtain ⟨code, hhandle⟩ :=
      (daemonStep_of_step api hs (.handle packet nowNs)).handled
    obtain ⟨hstop, hcalls⟩ := hhandle.arm_frame haccept
    have hout' : MotionOutstanding (runCalls
        ((daemon config api).trace (Daemon.init client) (es ++ [.handle packet nowNs]))) := by
      rw [Machine.trace_concat, runCalls_concat, motionOutstanding_append]
      exact .inr ⟨hout, fun c hc => (hcalls c hc).2⟩
    have hlost := handleArm_declined packet (x := ⟨d.core.accept packet nowNs, d.client, []⟩)
      ⟨hmay.1, hmay.2, hmay.3⟩ hclient
    rw [← handle_of_accepts_arm haccept] at hlost
    have hguarded := (h (es ++ [.handle packet nowNs]) es' (by simp [hevent]) hout').1
    rw [Machine.final_concat, ← hd] at hguarded
    rcases hguarded with h | h
    · rw [show ((daemon config api).step d (.handle packet nowNs)).2.core.armed = false
        from hlost.2] at h
      cases h
    · rw [hstop] at h
      simpa [hmay.not_faulted] using hs.faulted_of_stopUnconfirmed h
  · intro h es es' hes hout
    subst hes
    obtain ⟨hs, hguard⟩ := guarded_of_run client es fun l x r htr => by
      obtain ⟨tail, htail⟩ := (daemon config api).trace_extend es' htr
      exact h l x _ htail
    refine ⟨hguard hout, fun nowNs hpacket hlate => ?_⟩
    obtain ⟨stopped, hwatch⟩ := (daemonStep_of_step api hs (.checkWatchdog nowNs)).watched
    exact hwatch.calls_stopMove (hguard hout) hpacket hlate

end Guard

/-- A client that takes the answers of its calls from a script, and succeeds after it. -/
def scriptedClient : ISportClient (List Int32) where
  prepareArm script := (script.headD 0, script.tail)
  classicWalk _ script := (script.headD 0, script.tail)
  move _ _ _ script := (script.headD 0, script.tail)
  stopMove script := (script.headD 0, script.tail)
  sportActionCall _ script := (script.headD 0, script.tail)
  freshSportState _ script := (true, script)

/-- The limits of commissioning, with a repeatable arm. -/
def repeatableConfig : DaemonConfig := { allowMotion := true, repeatableArm := true }

/-- Arm, drive, and arm again while driving. -/
def rearmWhileMoving : List DaemonEvent :=
  [.handle (makeCommand .arm 1 1000 1000) 1000,
    .handle (makeCommand .move 2 1000 1000 0.05) 1000,
    .handle (makeCommand .arm 3 1000 1000) 1000]

/-- When the client declines the second arm request, the robot keeps driving with neither
latch set. -/
theorem not_motionGuarded_rearmWhileMoving : repeatableConfig.allowMotion = true ∧
    ¬ MotionGuarded repeatableConfig scriptedClient [0, 0, -1] rearmWhileMoving := by
  refine ⟨rfl, fun h => ?_⟩
  have hcalls : runCalls ((daemon repeatableConfig scriptedClient).trace
      (Daemon.init [0, 0, -1]) rearmWhileMoving) =
      [⟨.prepareArm 0, false, false⟩] ++ ⟨.move 0.05 0 0 0, true, false⟩ ::
        [⟨.prepareArm (-1), true, false⟩] := by
    decide +kernel
  have hlost : ¬ (((daemon repeatableConfig scriptedClient).final (Daemon.init [0, 0, -1])
      rearmWhileMoving).core.armed = true ∨
      ((daemon repeatableConfig scriptedClient).final (Daemon.init [0, 0, -1])
      rearmWhileMoving).core.stopUnconfirmed = true) := by
    decide +kernel
  have hguarded := h rearmWhileMoving [] rfl
    ⟨_, _, _, hcalls, trivial, by simp [SdkCall.confirmsStop]⟩
  exact hlost hguarded.1

/-! ## When sessions are separate -/

section Sessions

variable {γ : Type*} {config : DaemonConfig} {api : ISportClient γ}

/-- A session is open: the core is armed, or it has faulted and was not disarmed since. -/
def DaemonCore.Open (s : DaemonCore) : Prop := s.armed = true ∨ s.faulted = true

lemma DaemonCore.Consistent.open_of_guarded {s : DaemonCore} (hs : s.Consistent config)
    (h : s.Guarded) : s.Open :=
  h.imp_right hs.faulted_of_stopUnconfirmed

/-- A handled packet closes an open session only as a disarm request whose stop is
acknowledged. -/
lemma HandleStep.open_or {s s' : DaemonCore} {packet : CommandPacket} {nowNs : UInt64}
    {code : ReplyCode} {calls : List IssuedCall}
    (h : HandleStep config s packet nowNs code calls s') (hopen : s.Open) :
    s'.Open ∨ (code = .ok ∧ CommandOp.ofUInt8? packet.operation = some .disarm ∧
      calls = [s.call (.stopMove 0)]) := by
  cases h with
  | rejected => exact .inl hopen
  | refused => exact .inl hopen
  | armFailed => exact .inl (.inr rfl)
  | armed => exact .inl (.inl rfl)
  | disarmedIdle h harmed hfaulted => rcases hopen with h | h <;> simp_all
  | disarmed h hmotion hresult => exact .inr ⟨rfl, h.operation, by rw [hresult]⟩
  | disarmFailed h hmotion hresult =>
    refine .inl (.inr ?_)
    rw [disarmed_of_ne hresult]
  | stopped h hop hmotion harmed => exact .inl (.inl harmed)
  | stopFailed h hop hmotion harmed hresult =>
    refine .inl (.inr ?_)
    rw [disarmed_of_ne hresult]
  | pinged => exact .inl hopen
  | walkRestored => exact .inl hopen
  | actionStale => exact .inl (.inr rfl)
  | actionOverBudget => exact .inl (.inr rfl)
  | actionFailed => exact .inl (.inr rfl)
  | actionStarted h hmay => exact .inl (.inl hmay.armed)
  | moveOverLimit => exact .inl (.inr rfl)
  | moveOverBudget => exact .inl (.inr rfl)
  | moveFailed => exact .inl (.inr rfl)
  | moved h hmay => exact .inl (.inl hmay.armed)

lemma WatchdogStep.open {s s' : DaemonCore} {nowNs : UInt64} {stopped : Bool}
    {calls : List IssuedCall} (hs : s.Consistent config)
    (h : WatchdogStep config s nowNs stopped calls s') (hopen : s.Open) : s'.Open := by
  cases h with
  | idle => exact hopen
  | retried hstop => exact .inr (by simp [disarmed, hs.faulted_of_stopUnconfirmed hstop])
  | tripped => exact .inr rfl

/-- The loss of the connection closes a session only when it stops an armed core. -/
lemma DisconnectStep.open_or {s s' : DaemonCore} {calls : List IssuedCall}
    (h : DisconnectStep config s calls s') (hopen : s.Open) :
    s'.Open ∨ (s.armed = true ∧ calls = [s.call (.stopMove 0)]) := by
  cases h with
  | idle => exact .inl hopen
  | stopped hmotion hresult =>
    subst hresult
    rcases hopen with harmed | hfaulted
    · exact .inr ⟨harmed, rfl⟩
    · exact .inl (.inr (by simp [disconnected, disarmed, hfaulted]))
  | retried hmotion hresult =>
    refine .inl (.inr ?_)
    rw [disarmed_of_ne hresult]
    simp [disconnected, disarmed]

lemma WatchdogStep.armed_of {s s' : DaemonCore} {nowNs : UInt64} {stopped : Bool}
    {calls : List IssuedCall} (h : WatchdogStep config s nowNs stopped calls s')
    (harmed : s'.armed = true) : s.armed = true := by
  cases h with
  | idle => exact harmed
  | retried => simp [DaemonCore.disarmed] at harmed
  | tripped => simp [halted] at harmed

lemma DisconnectStep.armed_of {s s' : DaemonCore} {calls : List IssuedCall}
    (h : DisconnectStep config s calls s') (harmed : s'.armed = true) : s.armed = true := by
  cases h with
  | idle => exact harmed
  | stopped => simp [DaemonCore.disconnected, DaemonCore.disarmed] at harmed
  | retried => simp [DaemonCore.disconnected, DaemonCore.disarmed] at harmed

lemma WatchdogStep.not_commandsMotion {s s' : DaemonCore} {nowNs : UInt64} {stopped : Bool}
    {calls : List IssuedCall} (h : WatchdogStep config s nowNs stopped calls s') :
    ∀ c ∈ calls, ¬ c.call.commandsMotion := by
  cases h with
  | idle hstop hfresh hchecks =>
    rcases hchecks with rfl | ⟨-, rfl⟩ <;> simp [SdkCall.commandsMotion]
  | retried => simp [SdkCall.commandsMotion]
  | tripped hstop harmed hchecks =>
    rcases hchecks with rfl | ⟨_, rfl⟩ <;> simp [SdkCall.commandsMotion]

lemma DisconnectStep.not_commandsMotion {s s' : DaemonCore} {calls : List IssuedCall}
    (h : DisconnectStep config s calls s') : ∀ c ∈ calls, ¬ c.call.commandsMotion := by
  cases h <;> simp [SdkCall.commandsMotion]

/-- A packet that commands motion leaves the session open. -/
lemma HandleStep.open_of_motion {s s' : DaemonCore} {packet : CommandPacket}
    {nowNs : UInt64} {code : ReplyCode} {calls : List IssuedCall}
    (h : HandleStep config s packet nowNs code calls s')
    (hmotion : ∃ c ∈ calls, c.call.commandsMotion) : s'.Open := by
  cases h with
  | actionOverBudget => exact .inr rfl
  | actionFailed => exact .inr rfl
  | actionStarted h hmay => exact .inl hmay.armed
  | moveFailed => exact .inr rfl
  | moved h hmay => exact .inl hmay.armed
  | armFailed h hmay hresult hcalls =>
    rcases hcalls with rfl | rfl <;> simp [SdkCall.commandsMotion] at hmotion
  | armed =>
    unfold armCalls at hmotion
    split at hmotion <;> simp [SdkCall.commandsMotion] at hmotion
  | _ => simp [SdkCall.commandsMotion] at hmotion

/-- A packet leaves the core armed as a granted arm request, or when it was armed before
and is not a granted disarm request. -/
lemma HandleStep.armed_cases {s s' : DaemonCore} {packet : CommandPacket} {nowNs : UInt64}
    {code : ReplyCode} {calls : List IssuedCall}
    (h : HandleStep config s packet nowNs code calls s') (harmed : s'.armed = true) :
    (code = .ok ∧ CommandOp.ofUInt8? packet.operation = some .arm) ∨
      (s.armed = true ∧
        ¬ (code = .ok ∧ CommandOp.ofUInt8? packet.operation = some .disarm)) := by
  cases h with
  | rejected hcode => exact .inr ⟨harmed, fun h => hcode h.1⟩
  | refused h hcode => exact .inr ⟨harmed, fun h => hcode h.1⟩
  | armed h => exact .inl ⟨rfl, h.operation⟩
  | disarmedIdle h hnot => simp [accept, hnot] at harmed
  | stopped h hop =>
    refine .inr ⟨harmed, fun hd => ?_⟩
    rcases hop with rfl | rfl <;> cases h.unique hd.2
  | pinged h => exact .inr ⟨harmed, fun hd => by cases h.unique hd.2⟩
  | walkRestored h => exact .inr ⟨harmed, fun hd => by cases h.unique hd.2⟩
  | actionStarted h => exact .inr ⟨harmed, fun hd => by cases h.unique hd.2⟩
  | moved h => exact .inr ⟨harmed, fun hd => by cases h.unique hd.2⟩
  | armFailed => cases harmed
  | _ => simp [DaemonCore.disarmed, halted] at harmed

/-- The motion clock is only touched by an arm request that is granted. -/
lemma HandleStep.arm_clock {s s' : DaemonCore} {packet : CommandPacket} {nowNs : UInt64}
    {code : ReplyCode} {calls : List IssuedCall}
    (h : HandleStep config s packet nowNs code calls s')
    (hop : CommandOp.ofUInt8? packet.operation = some .arm) (hcode : code ≠ .ok) :
    s'.motionStartNs = s.motionStartNs := by
  cases h with
  | rejected => rfl
  | refused => rfl
  | armFailed => rfl
  | armed => exact absurd rfl hcode
  | disarmFailed h => cases h.unique hop
  | stopFailed h hor => rcases hor with rfl | rfl <;> cases h.unique hop
  | actionStale => rfl
  | moveOverLimit => rfl
  | walkRestored => rfl
  | actionOverBudget h => cases h.unique hop
  | actionFailed h => cases h.unique hop
  | moveOverBudget h => cases h.unique hop
  | moveFailed h => cases h.unique hop
  | _ => exact absurd rfl hcode

variable {d : Daemon γ} {event : DaemonEvent} {client : γ} {events : List DaemonEvent}

/-- A daemon is armed by a granted arm request, or it was armed before and this was no
granted disarm request. -/
lemma step_armed_cases (hs : d.core.Consistent config)
    (h : ((daemon config api).step d event).2.core.armed = true) :
    AnsweredOk .arm ((daemon config api).stepAt d event) ∨
      (d.core.armed = true ∧ ¬ AnsweredOk .disarm ((daemon config api).stepAt d event)) := by
  have hstep := daemonStep_of_step api hs event
  cases event with
  | handle packet nowNs =>
    obtain ⟨code, hhandle, hiff⟩ := step_handle api hs packet nowNs
    rw [hiff, hiff]
    exact hhandle.armed_cases h
  | checkWatchdog nowNs =>
    obtain ⟨stopped, hwatch⟩ := hstep.watched
    exact .inr ⟨hwatch.armed_of h, fun ⟨_, _, _, hevent, _⟩ => by cases hevent⟩
  | onDisconnect =>
    exact .inr ⟨hstep.disconnected.armed_of h, fun ⟨_, _, _, hevent, _⟩ => by cases hevent⟩

variable (event) in
/-- A session is closed by a granted disarm request or by a lost connection, and both
acknowledge a stop. -/
lemma step_open_cases (hs : d.core.Consistent config) (hopen : d.core.Open) :
    ((daemon config api).step d event).2.core.Open ∨
      ((AnsweredOk .disarm ((daemon config api).stepAt d event) ∨
        event = .onDisconnect ∧ d.core.armed = true) ∧
      ((daemon config api).step d event).1.calls = [d.core.call (.stopMove 0)]) := by
  have hstep := daemonStep_of_step api hs event
  cases event with
  | handle packet nowNs =>
    obtain ⟨code, hhandle, hiff⟩ := step_handle api hs packet nowNs
    rw [hiff]
    rcases hhandle.open_or hopen with h | ⟨hcode, hop, hcalls⟩
    · exact .inl h
    · exact .inr ⟨.inl ⟨hcode, hop⟩, hcalls⟩
  | checkWatchdog nowNs =>
    obtain ⟨stopped, hwatch⟩ := hstep.watched
    exact .inl (hwatch.open hs hopen)
  | onDisconnect =>
    rcases hstep.disconnected.open_or hopen with h | ⟨harmed, hcalls⟩
    · exact .inl h
    · exact .inr ⟨.inr ⟨rfl, harmed⟩, hcalls⟩

lemma step_open_of_motion (hs : d.core.Consistent config)
    (hmotion : ∃ c ∈ ((daemon config api).step d event).1.calls, c.call.commandsMotion) :
    ((daemon config api).step d event).2.core.Open := by
  have hstep := daemonStep_of_step api hs event
  cases event with
  | handle packet nowNs =>
    obtain ⟨code, hhandle⟩ := hstep.handled
    exact hhandle.open_of_motion hmotion
  | checkWatchdog nowNs =>
    obtain ⟨stopped, hwatch⟩ := hstep.watched
    obtain ⟨c, hc, hmotion⟩ := hmotion
    exact absurd hmotion (hwatch.not_commandsMotion c hc)
  | onDisconnect =>
    obtain ⟨c, hc, hmotion⟩ := hmotion
    exact absurd hmotion (hstep.disconnected.not_commandsMotion c hc)

/-! ### Runs -/

/-- An armed daemon was armed by a granted arm request, and no disarm request was granted
since. -/
lemma armed_history (h : ((daemon config api).final (Daemon.init client) events).core.armed
      = true) :
    ∃ a w b, (daemon config api).trace (Daemon.init client) events = a ++ w :: b ∧
      AnsweredOk .arm w ∧ ∀ q ∈ b, ¬ AnsweredOk .disarm q := by
  refine ((daemon config api).history_induction (s := Daemon.init client)
    (motive := fun tr d => d.core.Consistent config ∧ (d.core.armed = true →
      ∃ a w b, tr = a ++ w :: b ∧ AnsweredOk .arm w ∧ ∀ q ∈ b, ¬ AnsweredOk .disarm q))
    ?_ ?_ events).2 h
  · exact ⟨consistent_invariant.init (M := daemon config api),
      fun h => by simp [Daemon.init] at h⟩
  rintro tr d event ⟨hs, ih⟩
  refine ⟨(daemonStep_of_step api hs event).consistent hs, fun harmed => ?_⟩
  rcases step_armed_cases hs harmed with h | ⟨hpre, hnot⟩
  · exact ⟨tr, _, [], rfl, h, by simp⟩
  · obtain ⟨a, w, b, rfl, hw, hb⟩ := ih hpre
    refine ⟨a, w, b ++ [(daemon config api).stepAt d event], by simp, hw, fun q hq => ?_⟩
    rcases List.mem_append.mp hq with hq | hq
    · exact hb q hq
    · rw [List.mem_singleton] at hq
      exact hq ▸ hnot

/-- Outstanding motion belongs to an open session. -/
lemma open_of_outstanding
    (h : MotionOutstanding (runCalls ((daemon config api).trace (Daemon.init client) events))) :
    ((daemon config api).final (Daemon.init client) events).core.Open := by
  refine ((daemon config api).history_induction (s := Daemon.init client)
    (motive := fun tr d => d.core.Consistent config ∧
      (MotionOutstanding (runCalls tr) → d.core.Open)) ?_ ?_ events).2 h
  · exact ⟨consistent_invariant.init (M := daemon config api),
      fun h => absurd h not_motionOutstanding_nil⟩
  rintro tr d event ⟨hs, ih⟩
  refine ⟨(daemonStep_of_step api hs event).consistent hs, fun hout => ?_⟩
  rw [runCalls_concat] at hout
  by_cases hmotion : ∃ c ∈ ((daemon config api).step d event).1.calls, c.call.commandsMotion
  · exact step_open_of_motion hs hmotion
  · push Not at hmotion
    rcases step_open_cases event hs (ih (hout.before hmotion)) with h | ⟨-, hcalls⟩
    · exact h
    · rw [show ((daemon config api).stepAt d event).output.calls =
        [d.core.call (.stopMove 0)] from hcalls] at hout
      exact absurd rfl hout.stop_failed

variable (api) in
/-- A session that no granted disarm request closes stays open, unless the connection is
lost while the core is armed. -/
lemma open_history (hs : d.core.Consistent config) (hopen : d.core.Open)
    (hno : ∀ z ∈ (daemon config api).trace d events, ¬ AnsweredOk .disarm z) :
    ((daemon config api).final d events).core.Open ∨
      ∃ a w b, (daemon config api).trace d events = a ++ w :: b ∧
        w.event = .onDisconnect ∧ w.pre.core.armed = true := by
  refine ((daemon config api).history_induction (s := d)
    (motive := fun tr d => d.core.Consistent config ∧
      ((∀ z ∈ tr, ¬ AnsweredOk .disarm z) → d.core.Open ∨
        ∃ a w b, tr = a ++ w :: b ∧ w.event = .onDisconnect ∧ w.pre.core.armed = true))
    ⟨hs, fun _ => .inl hopen⟩ ?_ events).2 hno
  rintro tr d event ⟨hs, ih⟩
  refine ⟨(daemonStep_of_step api hs event).consistent hs, fun hno => ?_⟩
  rcases ih fun z hz => hno z (by simp [hz]) with hopen | ⟨a, w, b, rfl, hw⟩
  · rcases step_open_cases event hs hopen with h | ⟨h | h, -⟩
    · exact .inl h
    · exact absurd h (hno _ (by simp))
    · exact .inr ⟨tr, _, [], rfl, h⟩
  · exact .inr ⟨a, w, b ++ [(daemon config api).stepAt d event], by simp, hw⟩

/-- The sessions of a run are separate: between two granted arm requests there is a granted
disarm request, no motion is outstanding when an arm request is granted, and an arm request
to an armed core leaves the motion clock alone. -/
structure SeparateSessions (config : DaemonConfig) (api : ISportClient γ) (client : γ)
    (events : List DaemonEvent) : Prop where
  separated : Machine.Separated (AnsweredOk .arm) (AnsweredOk .disarm) (AnsweredOk .arm)
    ((daemon config api).trace (Daemon.init client) events)
  stopped : ∀ l x r, (daemon config api).trace (Daemon.init client) events = l ++ x :: r →
    AnsweredOk .arm x → ¬ MotionOutstanding (runCalls l)
  clocked : ∀ x ∈ (daemon config api).trace (Daemon.init client) events,
    ∀ packet nowNs, x.event = .handle packet nowNs →
      CommandOp.ofUInt8? packet.operation = some .arm → x.pre.core.armed = true →
        x.post.core.motionStartNs = x.pre.core.motionStartNs

lemma AnsweredOk.armed_post (hs : d.core.Consistent config)
    (h : AnsweredOk .arm ((daemon config api).stepAt d event)) :
    ((daemon config api).stepAt d event).post.core.armed = true := by
  obtain ⟨packet, nowNs, -, hevent, -⟩ := id h
  rw [Machine.stepAt_event] at hevent
  subst hevent
  obtain ⟨code, hstep, hiff⟩ := step_handle api hs packet nowNs
  obtain ⟨rfl, hop⟩ := (hiff .arm).mp h
  exact (hstep.arm_ok hop).2.2

lemma answeredOk_iff_of_mem {x : Machine.Step (Daemon γ) DaemonEvent DaemonOutput}
    (hx : x ∈ (daemon config api).trace (Daemon.init client) events) :
    (AnsweredOk .arm x ↔ ArmGranted config api x.pre x.event) ∧
      (AnsweredOk .disarm x ↔ DisarmGranted config api x.pre x.event) := by
  obtain ⟨es, -, -, hxe⟩ := (daemon config api).mem_trace_stepAt hx
  have hs : ((daemon config api).final (Daemon.init client) es).core.Consistent config :=
    consistent_invariant.final es
  rw [hxe]
  exact ⟨answeredOk_arm_iff hs, answeredOk_disarm_iff hs⟩

/-- An open session grants an arm request only while the core is armed. -/
lemma ArmGranted.armed_of_open (hopen : d.core.Open) (h : ArmGranted config api d event) :
    d.core.armed = true := by
  obtain ⟨packet, nowNs, -, -, hmay, -⟩ := h
  refine hopen.resolve_right fun hfaulted => ?_
  simp [hmay.not_faulted] at hfaulted

/-- The condition under which the sessions of a run are separate: no arm request is granted
to an armed core, nor after the connection of an armed core was lost, before a disarm request
is granted. -/
structure ArmsWhenClosed (config : DaemonConfig) (api : ISportClient γ) (client : γ)
    (events : List DaemonEvent) : Prop where
  idle : ∀ x ∈ (daemon config api).trace (Daemon.init client) events,
    ArmGranted config api x.pre x.event → x.pre.core.armed = false
  closed : Machine.Separated (fun x => x.event = .onDisconnect ∧ x.pre.core.armed = true)
    (fun x => DisarmGranted config api x.pre x.event)
    (fun x => ArmGranted config api x.pre x.event)
    ((daemon config api).trace (Daemon.init client) events)

lemma SeparateSessions.armsWhenClosed (h : SeparateSessions config api client events) :
    ArmsWhenClosed config api client events where
  idle := by
    intro x hx hgranted
    by_contra harmed
    obtain ⟨l, r, htr⟩ := List.append_of_mem hx
    obtain ⟨es, -, -, rfl, hxe, -⟩ := (daemon config api).trace_eq_append_cons htr
    have hpre : x.pre = (daemon config api).final (Daemon.init client) es := by rw [hxe]; rfl
    rw [hpre, Bool.not_eq_false] at harmed
    obtain ⟨a, w, b, hl, hw, hb⟩ := armed_history harmed
    rw [hl, List.append_assoc, List.cons_append] at htr
    obtain ⟨q, hq, hdisarm⟩ := h.separated a w b x r htr hw
      ((answeredOk_iff_of_mem hx).1.mpr hgranted)
    exact hb q hq hdisarm
  closed := by
    rintro l x m y r htr ⟨hevent, harmed⟩ hgranted
    obtain ⟨es, -, -, rfl, hxe, -⟩ := (daemon config api).trace_eq_append_cons htr
    have hpre : x.pre = (daemon config api).final (Daemon.init client) es := by rw [hxe]; rfl
    rw [hpre] at harmed
    obtain ⟨a, w, b, hl, hw, hb⟩ := armed_history harmed
    have hmem : ∀ z ∈ m ++ [y], z ∈ (daemon config api).trace (Daemon.init client) events := by
      intro z hz
      rw [htr]
      simp only [List.mem_append, List.mem_cons, List.not_mem_nil, or_false] at hz ⊢
      tauto
    rw [hl] at htr
    obtain ⟨q, hq, hdisarm⟩ := h.separated a w (b ++ x :: m) y r (by rw [htr]; simp) hw
      ((answeredOk_iff_of_mem (hmem y (by simp))).1.mpr hgranted)
    rcases List.mem_append.mp hq with hq | hq
    · exact absurd hdisarm (hb q hq)
    rcases List.mem_cons.mp hq with rfl | hq
    · obtain ⟨_, _, _, hhandle, -⟩ := hdisarm
      rw [hevent] at hhandle
      cases hhandle
    · exact ⟨q, hq, (answeredOk_iff_of_mem (hmem q (by simp [hq]))).2.mp hdisarm⟩

lemma ArmsWhenClosed.separated (h : ArmsWhenClosed config api client events) :
    Machine.Separated (AnsweredOk .arm) (AnsweredOk .disarm) (AnsweredOk .arm)
      ((daemon config api).trace (Daemon.init client) events) := by
  intro l x m y r htr hx hy
  by_contra hno
  push Not at hno
  have hmem : ∀ z ∈ x :: m ++ [y], z ∈ (daemon config api).trace (Daemon.init client) events := by
    intro z hz
    rw [htr]
    simp only [List.mem_append, List.mem_cons, List.not_mem_nil, or_false] at hz ⊢
    tauto
  obtain ⟨es, es₂, -, -, hxe, hrest⟩ := (daemon config api).trace_eq_append_cons htr
  obtain ⟨es', -, -, hm, hye, -⟩ := (daemon config api).trace_eq_append_cons hrest.symm
  have hs := consistent_invariant.post (hmem x (by simp))
  have hopen : x.post.core.Open := by
    rw [hxe] at hx ⊢
    exact .inl (hx.armed_post (consistent_invariant.final es))
  have hgranted := (answeredOk_iff_of_mem (hmem y (by simp))).1.mp hy
  rcases open_history api hs hopen (hm ▸ hno) with hopen | ⟨a, w, b, hmw, hw⟩
  · have hpre : y.pre = (daemon config api).final x.post es' := by rw [hye]; rfl
    rw [← hpre] at hopen
    have hidle := h.idle y (hmem y (by simp)) hgranted
    rw [hgranted.armed_of_open hopen] at hidle
    cases hidle
  · rw [← hm] at hmw
    obtain ⟨q, hq, hdisarm⟩ := h.closed (l ++ x :: a) w b y r (by rw [htr, hmw]; simp) hw hgranted
    have hqm : q ∈ m := by rw [hmw]; simp [hq]
    exact hno q hqm ((answeredOk_iff_of_mem (hmem q (by simp [hqm]))).2.mpr hdisarm)

end Sessions

/-- Two arm requests in a row. -/
def armTwice : List DaemonEvent :=
  [.handle (makeCommand .arm 1 1000 1000) 1000, .handle (makeCommand .arm 2 2000 1000) 2000]

end UnitreeGo2.Chassis
