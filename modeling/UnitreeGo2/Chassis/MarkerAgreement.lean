import UnitreeGo2.Chassis.AdapterTransitions

/-!
# The marker latch and the fault of the guard

A change of the firmware marker latches the marker policy and faults the guard.  In a motion
profile the two stay together over every run of the adapter: a latched change finds the guard
in its fault, which only a disarm request leaves, and that request clears both or neither.
-/

namespace UnitreeGo2.Chassis

open SafetyGuard

/-! ## The agreement -/

/-- What the node knows when a disarm request clears a fault. -/
structure DisarmEvidence (config : AdapterConfig) (requestSec : ℚ) (n : AdapterNode) : Prop where
  measurements : n.lastStateMeasurementsValid = true
  stateFresh : 0 ≤ requestSec - n.lastStateReceiptSec ∧
    requestSec - n.lastStateReceiptSec ≤ config.guard.stateTimeoutSec
  mode : n.lastMode ∈ config.guard.allowedModes
  hasCommand : n.guard.hasCommand = true
  commandFresh : 0 ≤ requestSec - n.guard.lastCommandSec ∧
    requestSec - n.guard.lastCommandSec ≤ config.guard.commandTimeoutSec
  zeroCommand : isZero config.guard n.guard.command = true
  marker : n.policy.hasCurrentMarker = true ∧ n.policy.currentMarkerAllowed = true

/-- The latch of the marker policy and the fault of the guard agree in a run. -/
structure MarkerFaultAgreement (config : AdapterConfig) (tr : List AdapterStep) : Prop where
  /-- While a change is latched the guard is in its fault. -/
  faulted : ∀ x ∈ tr, x.post.policy.changeLatched = true → x.post.guard.state = .fault
  /-- While a change is latched no tick decides to move. -/
  noMove : ∀ x ∈ tr, x.post.policy.changeLatched = true → ∀ nowSec dtSec,
    (x.post.guard.tick config.guard nowSec dtSec).1.action ≠ .move
  /-- A fault is left only by a disarm request, on fresh evidence. -/
  leaves : ∀ x ∈ tr, x.pre.guard.state = .fault → x.post.guard.state ≠ .fault →
    ∃ checkSec requestSec, x.event = .armRequest false checkSec requestSec ∧
      DisarmEvidence config requestSec x.pre
  /-- A disarm request in a fault clears the latch and the fault, or leaves both. -/
  atomic : ∀ x ∈ tr, x.pre.guard.state = .fault →
    (∃ checkSec requestSec, x.event = .armRequest false checkSec requestSec) →
    (x.post.policy.changeLatched = false ∧ x.post.guard.state ≠ .fault) ∨
      (x.post.policy.changeLatched = x.pre.policy.changeLatched ∧ x.post.guard.state = .fault)

/-- The guard and the policy know the same last state, and a latched change has faulted the
guard. -/
structure MarkerInvariant (n : AdapterNode) : Prop where
  faulted : n.policy.changeLatched = true → n.guard.state = .fault
  receipt : n.guard.lastStateSec = n.lastStateReceiptSec
  mode : n.guard.stateMode = n.lastMode
  valid : n.guard.stateValid = true →
    n.lastStateMeasurementsValid = true ∧ n.policy.canAcknowledgeCurrent.1 = true

/-- The invariant survives, and so does a fault. -/
structure KeepsFault (n n' : AdapterNode) : Prop where
  invariant : MarkerInvariant n'
  fault : n.guard.state = .fault → n'.guard.state = .fault

section Steps

variable {config : AdapterConfig} {n n' n'' : AdapterNode}

lemma KeepsFault.refl (h : MarkerInvariant n) : KeepsFault n n := ⟨h, id⟩

/-! ## Calls of the guard -/

/-- What the guard knows of the robot, and its fault, survive. -/
def GuardKeepsFault (g g' : SafetyGuard) : Prop :=
  stateInputs g' = stateInputs g ∧ (g.state = .fault → g'.state = .fault)

lemma guardKeepsFault_forceFault {config : GuardConfig} (hm : config.allowMotion = true)
    (reason : String) (g : SafetyGuard) : GuardKeepsFault g (g.forceFault config reason) :=
  ⟨congrArg Prod.fst (inputs_forceFault config reason g), fun _ => by simp [forceFault, hm]⟩

lemma guardKeepsFault_updateCommand {config : GuardConfig} (hm : config.allowMotion = true)
    (nowSec : ℚ) (command : Velocity ExtRat) (g : SafetyGuard) :
    GuardKeepsFault g (g.updateCommand config nowSec command) := by
  refine ⟨congrArg Prod.fst (inputs_updateCommand config nowSec command g), fun h => ?_⟩
  simp only [updateCommand]
  split
  · simp [forceFault, hm]
  · exact h

lemma guardKeepsFault_requestArm {config : GuardConfig} (hm : config.allowMotion = true)
    (nowSec : ℚ) (g : SafetyGuard) : GuardKeepsFault g (g.requestArm config nowSec).2 := by
  refine ⟨congrArg Prod.fst (inputs_requestArm config nowSec g), fun h => ?_⟩
  simp [requestArm, hm, h]

lemma guardKeepsFault_tick {config : GuardConfig} (hm : config.allowMotion = true)
    (nowSec dtSec : ℚ) (g : SafetyGuard) : GuardKeepsFault g (g.tick config nowSec dtSec).2 := by
  refine ⟨congrArg Prod.fst (tick_step config nowSec dtSec g).inputs_eq, fun h => ?_⟩
  simp [tick, hm, h, stopDecision]

/-- A faulted guard decides to stop. -/
lemma action_tick_of_fault {config : GuardConfig} (hm : config.allowMotion = true)
    {g : SafetyGuard} (h : g.state = .fault) (nowSec dtSec : ℚ) :
    (g.tick config nowSec dtSec).1.action ≠ .move := by
  simp [tick, hm, h, stopDecision]

/-- A disarm request in a fault leaves it only when the guard is healthy and its command is
zero. -/
lemma requestDisarm_cases {config : GuardConfig} (hm : config.allowMotion = true)
    (nowSec : ℚ) (g : SafetyGuard) :
    (g.requestDisarm config nowSec).1.1 = true ∧
      (g.state = .fault ∧ (g.requestDisarm config nowSec).2.state = .fault ∨
        (g.requestDisarm config nowSec).2.state = .disarmed ∧
          (g.state = .fault → Healthy config nowSec g ∧ isZero config g.command = true)) := by
  have hhealth : healthFailure config nowSec true { g with output := 0, preparationStartSec := 0 } =
      healthFailure config nowSec true g := rfl
  unfold requestDisarm
  simp only [hm, Bool.not_true, Bool.false_eq_true, if_false, hhealth]
  split
  · rename_i h
    rw [Bool.and_eq_true, decide_eq_true_eq] at h
    exact ⟨rfl, Or.inl ⟨h.1, h.1⟩⟩
  · rename_i h
    refine ⟨rfl, Or.inr ⟨rfl, fun hfault => ?_⟩⟩
    rw [hfault, decide_eq_true rfl, Bool.true_and, Bool.or_eq_true, not_or, Bool.not_eq_true,
      Option.isSome_eq_false_iff, Option.isNone_iff_eq_none, Bool.not_eq_true',
      Bool.not_eq_false] at h
    exact ⟨healthFailure_eq_none_iff.mp h.1, h.2⟩

/-! ## Calls of the node -/

/-- A call that only changes the guard, and keeps what it knows of the robot. -/
lemma KeepsFault.of_guard (h : MarkerInvariant n) (haccepted : n'.acceptedInputs = n.acceptedInputs)
    (hguard : GuardKeepsFault n.guard n'.guard) : KeepsFault n n' := by
  have hpolicy := congrArg AcceptedInputs.policy haccepted
  have hmode := congrArg AcceptedInputs.lastMode haccepted
  have hreceipt := congrArg AcceptedInputs.lastStateReceiptSec haccepted
  have hvalid := congrArg AcceptedInputs.lastStateMeasurementsValid haccepted
  dsimp only [AdapterNode.acceptedInputs] at hpolicy hmode hreceipt hvalid
  obtain ⟨hinputs, hfault⟩ := hguard
  simp only [stateInputs, Prod.mk.injEq] at hinputs
  obtain ⟨-, hinvalid, hinmode, hinsec⟩ := hinputs
  exact {
    fault := hfault
    invariant := {
      faulted := fun hl => hfault (h.faulted (hpolicy ▸ hl))
      receipt := by rw [hinsec, hreceipt, h.receipt]
      mode := by rw [hinmode, hmode, h.mode]
      valid := fun hv => by
        rw [hvalid, hpolicy]
        exact h.valid (hinvalid ▸ hv) } }

lemma KeepsFault.trans (h : KeepsFault n n') (h' : MarkerInvariant n' → KeepsFault n' n'') :
    KeepsFault n n'' :=
  ⟨(h' h.invariant).invariant, fun hf => (h' h.invariant).fault (h.fault hf)⟩

lemma GuardKept.keepsFault (hm : config.allowMotion = true) (h : GuardKept config n n') :
    GuardKeepsFault n.guard n'.guard := by
  rcases h with h | ⟨reason, h⟩
  · rw [h]
    exact ⟨rfl, id⟩
  · rw [h]
    exact guardKeepsFault_forceFault hm reason n.guard

lemma Contained.keepsFault (hm : config.allowMotion = true) (h : Contained config n n')
    (hi : MarkerInvariant n) : KeepsFault n n' :=
  .of_guard hi h.accepted (h.guard.keepsFault hm)

lemma Output.keepsFault {P : CommandOp → Prop} (hm : config.allowMotion = true)
    (h : Output config P n n') (hi : MarkerInvariant n) : KeepsFault n n' :=
  .of_guard hi h.accepted (h.guard.keepsFault hm)

lemma Published.keepsFault {stamp : Stamp} {nowSec : ℚ} (hm : config.allowMotion = true)
    (h : Published config stamp nowSec n n') (hi : MarkerInvariant n) : KeepsFault n n' := by
  cases h with
  | withheld h => exact h.keepsFault hm hi
  | published m hc _ _ h =>
    refine (hc.keepsFault hm hi).trans fun hi => ?_
    have hemit : KeepsFault m (m.emit (.odometry stamp)) := .of_guard hi rfl ⟨rfl, id⟩
    exact hemit.trans (h.keepsFault hm)

/-! ## Robot states -/

/-- A recovery completes at a listed marker. -/
lemma observePassiveRecovery_accepted {config : MarkerPolicyConfig}
    {p : OpaqueFirmwareStateMarkerPolicy} {marker : UInt32} {sec : ExtRat}
    (h : (p.observePassiveRecovery config marker sec).1 = true) :
    config.allowedStateMarkers.contains marker = true ∧
      (p.observePassiveRecovery config marker sec).2.hasCurrentMarker = p.hasCurrentMarker ∧
      (p.observePassiveRecovery config marker sec).2.currentMarkerAllowed =
        p.currentMarkerAllowed := by
  unfold OpaqueFirmwareStateMarkerPolicy.observePassiveRecovery at h ⊢
  split at h
  · split at h
    · cases h
    rename_i hlisted
    split at h
    · cases h
    rename_i hfollows
    rw [if_neg hlisted, if_neg hfollows]
    unfold OpaqueFirmwareStateMarkerPolicy.extendPassiveRecoveryCandidate at h ⊢
    dsimp only at h ⊢
    split at h
    · cases h
    rename_i hlong
    rw [if_neg hlong]
    rw [not_or, Bool.not_eq_true', Bool.not_eq_false] at hlisted
    exact ⟨hlisted.1, rfl, rfl⟩
  · cases h

/-- A marker that the policy accepts may be acknowledged. -/
lemma canAcknowledgeCurrent_observe {config : MarkerPolicyConfig}
    {p : OpaqueFirmwareStateMarkerPolicy} {marker : UInt32} {sec : ExtRat}
    (h : (p.observe config marker sec).1 = true) :
    (p.observe config marker sec).2.canAcknowledgeCurrent.1 = true := by
  have hcan : ∀ q : OpaqueFirmwareStateMarkerPolicy, q.hasCurrentMarker = true →
      q.currentMarkerAllowed = true → q.canAcknowledgeCurrent.1 = true := by
    intro q hq hq'
    simp [OpaqueFirmwareStateMarkerPolicy.canAcknowledgeCurrent, hq, hq']
  have hobserved := observed_observe config p marker sec
  generalize p.observe config marker sec = o at h hobserved
  cases hobserved with
  | latched => cases h
  | recovering =>
    obtain ⟨hlisted, hcurrent, hallowed⟩ := observePassiveRecovery_accepted h
    refine hcan _ hcurrent (hallowed.trans ?_)
    simp only [OpaqueFirmwareStateMarkerPolicy.witness, canonicalStateOutputEligible, hlisted,
      Bool.or_true, Bool.and_true]
  | transition _ _ _ hallowed => exact hcan _ rfl hallowed
  | paused => cases h
  | changed => cases h
  | refused => cases h
  | bound _ _ hallowed => exact hcan _ rfl hallowed
  | same _ _ hallowed => exact hcan _ rfl hallowed

/-- A state is valid only when its measurements are and the policy accepts its marker. -/
lemma observeMarker_accepted (valid : Bool) (message : SportModeState) (receiptSec : ℚ)
    (h : (n.observeMarker config valid message receiptSec).1 = true) :
    valid = true ∧
      (n.observeMarker config valid message receiptSec).2.canAcknowledgeCurrent.1 = true := by
  unfold AdapterNode.observeMarker at h ⊢
  cases valid with
  | false => cases h
  | true => exact ⟨rfl, canAcknowledgeCurrent_observe h⟩

/-- The guard and the policy see a state together, and a latched change faults the guard. -/
lemma keepsFault_updateState (hm : config.allowMotion = true) (valid : Bool)
    {message : SportModeState} {receiptSec : ℚ} (hreceipt : n.lastStateReceiptSec = receiptSec)
    (hmode : n.lastMode = message.mode) :
    KeepsFault n (n.updateState config valid message receiptSec) := by
  have hvalid : (n.observeMarker config valid message receiptSec).1 = true → _ :=
    observeMarker_accepted valid message receiptSec
  unfold AdapterNode.updateState
  generalize n.observeMarker config valid message receiptSec = o at hvalid ⊢
  obtain ⟨stateValid, policy⟩ := o
  dsimp only at hvalid ⊢
  split
  · simp only [AdapterNode.forceFault, forceFault, updateRobotState]
    rw [show config.guard.allowMotion = true from hm]
    exact ⟨⟨fun _ => rfl, hreceipt.symm, hmode.symm, hvalid⟩, fun _ => rfl⟩
  · rename_i hclear
    exact ⟨⟨fun hl => absurd hl hclear, hreceipt.symm, hmode.symm, hvalid⟩, id⟩

lemma keepsFault_acceptedState (hm : config.allowMotion = true) (isPrimary : Bool)
    (tracker : SourceStampTracker) (message : SportModeState) (receiptSec : ℚ) (valid : Bool) :
    KeepsFault n (n.acceptedState config isPrimary tracker message receiptSec valid) := by
  have hguard : (n.setStampTracker isPrimary tracker).guard = n.guard := by
    cases isPrimary <;> rfl
  have hupdate : KeepsFault ((n.setStampTracker isPrimary tracker).recordSportModeState config
      isPrimary message receiptSec) (n.acceptedState config isPrimary tracker message receiptSec
        valid) := keepsFault_updateState hm valid rfl rfl
  exact ⟨hupdate.invariant,
    fun hf => hupdate.fault ((congrArg SafetyGuard.state hguard).trans hf)⟩

lemma AdapterNode.SportStep.keepsFault {isPrimary : Bool} {message : SportModeState}
    {sourceNs : ℕ} {receiptSec publishSec : ℚ} (hm : config.allowMotion = true)
    (h : n.SportStep config isPrimary message sourceNs receiptSec publishSec n')
    (hi : MarkerInvariant n) : KeepsFault n n' := by
  cases h with
  | refused h => exact h.keepsFault hm hi
  | accepted _ h => exact (keepsFault_acceptedState hm _ _ _ _ _).trans (h.keepsFault hm)
  | published _ _ _ h => exact (keepsFault_acceptedState hm _ _ _ _ _).trans (h.keepsFault hm)

lemma AdapterNode.ExternalStep.keepsFault {geo : Geometry} {message : Odometry} {sourceNs : ℕ}
    {receiptSec publishSec : ℚ} (hm : config.allowMotion = true)
    (h : n.ExternalStep config geo message sourceNs receiptSec publishSec n')
    (hi : MarkerInvariant n) : KeepsFault n n' := by
  cases h with
  | refused h => exact h.keepsFault hm hi
  | accepted _ _ _ _ h =>
    obtain ⟨hinvariant, hfault⟩ :=
      h.keepsFault hm ⟨hi.faulted, hi.receipt, hi.mode, hi.valid⟩
    exact ⟨hinvariant, hfault⟩

/-! ## Disarm requests -/

/-- The evidence of a guard that was told the last state of the node. -/
lemma disarmEvidence_of_healthy {requestSec : ℚ} {g : SafetyGuard}
    (hhealthy : Healthy config.guard requestSec g) (hzero : isZero config.guard g.command = true)
    (hstate : g.lastStateSec = n.lastStateReceiptSec ∧ g.stateMode = n.lastMode)
    (hcommand : commandInputs g = commandInputs n.guard)
    (hmeasurements : n.lastStateMeasurementsValid = true)
    (hmarker : n.policy.canAcknowledgeCurrent.1 = true) : DisarmEvidence config requestSec n := by
  simp only [commandInputs, Prod.mk.injEq] at hcommand
  obtain ⟨hhas, hsec, hvelocity⟩ := hcommand
  unfold OpaqueFirmwareStateMarkerPolicy.canAcknowledgeCurrent at hmarker
  split at hmarker
  · cases hmarker
  rename_i hcurrent
  split at hmarker
  · cases hmarker
  rename_i hallowed
  rw [Bool.not_eq_true', Bool.not_eq_false] at hcurrent hallowed
  exact {
    measurements := hmeasurements
    stateFresh := hstate.1 ▸ hhealthy.stateFresh
    mode := hstate.2 ▸ hhealthy.mode
    hasCommand := hhas ▸ hhealthy.hasCommand
    commandFresh := hsec ▸ hhealthy.commandFresh
    zeroCommand := hvelocity ▸ hzero
    marker := ⟨hcurrent, hallowed⟩ }

/-- **A disarm request clears the latch and the fault on fresh evidence, or leaves both.** -/
theorem AdapterNode.DisarmStep.agrees {requestSec : ℚ} (hm : config.allowMotion = true)
    (h : n.DisarmStep config requestSec n') (hi : MarkerInvariant n) :
    MarkerInvariant n' ∧ (n.guard.state = .fault →
      (n'.policy.changeLatched = n.policy.changeLatched ∧ n'.guard.state = .fault) ∨
        (n'.policy.changeLatched = false ∧ n'.guard.state = .disarmed ∧
          DisarmEvidence config requestSec n)) := by
  -- the guard as it is asked after a marker change, and what it is told of the robot
  have hasked : ∀ g : SafetyGuard, g.lastStateSec = n.lastStateReceiptSec →
      g.stateMode = n.lastMode →
      (g.stateValid = true →
        n.lastStateMeasurementsValid = true ∧ n.policy.canAcknowledgeCurrent.1 = true) →
      ((g.requestDisarm config.guard requestSec).2.lastStateSec = n.lastStateReceiptSec ∧
        (g.requestDisarm config.guard requestSec).2.stateMode = n.lastMode ∧
        ((g.requestDisarm config.guard requestSec).2.stateValid = true →
          n.lastStateMeasurementsValid = true ∧ n.policy.canAcknowledgeCurrent.1 = true)) := by
    intro g hsec hmode hvalid
    have hinputs := congrArg Prod.fst (inputs_requestDisarm config.guard requestSec g)
    simp only [inputs, stateInputs, Prod.mk.injEq] at hinputs
    obtain ⟨-, hstateValid, hstateMode, hstateSec⟩ := hinputs
    exact ⟨hstateSec.trans hsec, hstateMode.trans hmode, fun h => hvalid (hstateValid ▸ h)⟩
  cases h with
  | declined hlatched => exact ⟨hi, fun hf => Or.inl ⟨rfl, hf⟩⟩
  | disarmed hclear =>
    obtain ⟨hsec, hmode, hvalid⟩ := hasked n.guard hi.receipt hi.mode hi.valid
    refine ⟨⟨fun hl => absurd (hclear.symm.trans hl) Bool.false_ne_true, hsec, hmode, hvalid⟩,
      fun hf => ?_⟩
    rcases (requestDisarm_cases hm requestSec n.guard).2 with ⟨-, hfault⟩ | ⟨hdisarmed, hevidence⟩
    · exact Or.inl ⟨rfl, hfault⟩
    · obtain ⟨hhealthy, hzero⟩ := hevidence hf
      obtain ⟨hmeasurements, hmarker⟩ := hi.valid hhealthy.stateValid
      exact Or.inr ⟨hclear, hdisarmed, disarmEvidence_of_healthy hhealthy hzero
        ⟨hi.receipt, hi.mode⟩ rfl hmeasurements hmarker⟩
  | kept hlatched hmeasurements hmarker hstate =>
    obtain ⟨hsec, hmode, hvalid⟩ := hasked (n.guard.updateRobotState n.lastStateReceiptSec
      n.lastMode n.lastStateMeasurementsValid) rfl rfl fun h => ⟨h, hmarker⟩
    have hfault : ((n.guard.updateRobotState n.lastStateReceiptSec n.lastMode
        n.lastStateMeasurementsValid).requestDisarm config.guard requestSec).2.state = .fault := by
      obtain ⟨haccepted, ⟨-, hfault⟩ | ⟨hdisarmed, -⟩⟩ := requestDisarm_cases hm requestSec
        (n.guard.updateRobotState n.lastStateReceiptSec n.lastMode n.lastStateMeasurementsValid)
      · exact hfault
      · rcases hstate with hstate | hstate
        · exact absurd hdisarmed hstate
        · exact absurd (hstate.symm.trans haccepted) Bool.false_ne_true
    exact ⟨⟨fun _ => hfault, hsec, hmode, hvalid⟩, fun _ => Or.inl ⟨rfl, hfault⟩⟩
  | cleared hlatched hmeasurements hmarker hstate =>
    obtain ⟨hsec, hmode, -⟩ := hasked (n.guard.updateRobotState n.lastStateReceiptSec
      n.lastMode n.lastStateMeasurementsValid) rfl rfl fun h => ⟨h, hmarker⟩
    have hclear : n.policy.acknowledgeCurrent.2.changeLatched = false ∧
        n.policy.acknowledgeCurrent.2.canAcknowledgeCurrent.1 = true := by
      rw [OpaqueFirmwareStateMarkerPolicy.acknowledgeCurrent, if_neg (by simp [hmarker])]
      exact ⟨rfl, hmarker⟩
    refine ⟨⟨fun hl => absurd (hclear.1.symm.trans hl) Bool.false_ne_true, hsec, hmode,
      fun _ => ⟨hmeasurements, hclear.2⟩⟩, fun hf => ?_⟩
    obtain ⟨-, ⟨-, hfault⟩ | ⟨-, hevidence⟩⟩ := requestDisarm_cases hm requestSec
      (n.guard.updateRobotState n.lastStateReceiptSec n.lastMode n.lastStateMeasurementsValid)
    · rw [hfault] at hstate
      cases hstate
    · obtain ⟨hhealthy, hzero⟩ := hevidence hf
      exact Or.inr ⟨hclear.1, hstate, disarmEvidence_of_healthy hhealthy hzero ⟨rfl, rfl⟩ rfl
        hmeasurements hmarker⟩

/-! ## Runs -/

/-- Every callback but a disarm request keeps a fault. -/
theorem keepsFault_callback (hm : config.allowMotion = true) (geo : Geometry) (link : DaemonLink)
    (hi : MarkerInvariant n) {event : AdapterEvent}
    (he : ∀ checkSec requestSec, event ≠ .armRequest false checkSec requestSec) :
    KeepsFault n (n.callback config geo link event) := by
  cases event with
  | sportModeState isPrimary message receiptSec referenceNs publishSec =>
    exact (AdapterNode.onSportModeState_step config geo link isPrimary message receiptSec
      referenceNs publishSec n).keepsFault hm hi
  | externalOdometry message receiptSec referenceNs publishSec =>
    exact (AdapterNode.onExternalOdometry_step config geo link message receiptSec referenceNs
      publishSec n).keepsFault hm hi
  | velocityCommand command nowSec =>
    rcases AdapterNode.onVelocityCommand_cases config link command nowSec n with h | h
    · exact h.keepsFault hm hi
    · refine .of_guard hi (by rw [AdapterNode.callback, h]; rfl) ?_
      rw [AdapterNode.callback, h]
      exact guardKeepsFault_updateCommand hm nowSec command n.guard
  | armRequest arm checkSec requestSec =>
    cases arm with
    | false => exact absurd rfl (he checkSec requestSec)
    | true =>
      obtain ⟨hconsulted, hguard⟩ := AdapterNode.onArm_cases config checkSec requestSec n
      refine .of_guard hi hconsulted.accepted ?_
      rcases hguard with h | ⟨h, -⟩
      · exact h.symm ▸ ⟨rfl, id⟩
      · exact h.symm ▸ guardKeepsFault_requestArm hm requestSec n.guard
  | controlTimer nowSec =>
    refine ((AdapterNode.checkExternalOdometryInterlock_contained config link nowSec n).keepsFault
      hm hi).trans fun hi => ?_
    rcases AdapterNode.onControlTimer_cases config link nowSec n with h | ⟨m, hc, -, h⟩
    · exact h.keepsFault hm hi
    · refine (hc.keepsFault hm hi).trans fun hi => KeepsFault.trans ?_ (h.keepsFault hm)
      exact .of_guard hi rfl (guardKeepsFault_tick hm nowSec _ m.guard)
  | diagnosticsTimer nowSec =>
    exact (AdapterNode.checkExternalOdometryInterlock_contained config link nowSec n).keepsFault
      hm hi

/-- What one step does to the latch and the fault. -/
structure AgreementStep (config : AdapterConfig) (x : AdapterStep) : Prop where
  invariant : MarkerInvariant x.post
  leaves : x.pre.guard.state = .fault → x.post.guard.state ≠ .fault →
    ∃ checkSec requestSec, x.event = .armRequest false checkSec requestSec ∧
      DisarmEvidence config requestSec x.pre
  atomic : x.pre.guard.state = .fault →
    (∃ checkSec requestSec, x.event = .armRequest false checkSec requestSec) →
    (x.post.policy.changeLatched = false ∧ x.post.guard.state ≠ .fault) ∨
      (x.post.policy.changeLatched = x.pre.policy.changeLatched ∧ x.post.guard.state = .fault)

/-- The step of the machine is the callback of a node without effects. -/
lemma adapter_step_of_subscribes (geo : Geometry) (link : DaemonLink) {event : AdapterEvent}
    (h : config.subscribes event = true) (n : AdapterNode) :
    ((adapter config geo link).step n event).2 =
      ({ n with effects := [] } : AdapterNode).callback config geo link event := by
  simp only [adapter, h, if_true]

lemma AgreementStep.of_keepsFault {x : AdapterStep} (h : KeepsFault x.pre x.post)
    (he : ∀ checkSec requestSec, x.event ≠ .armRequest false checkSec requestSec) :
    AgreementStep config x where
  invariant := h.invariant
  leaves hf hleft := absurd (h.fault hf) hleft
  atomic _ := by
    rintro ⟨checkSec, requestSec, hevent⟩
    exact absurd hevent (he checkSec requestSec)

lemma agreementStep_onDisarm (hm : config.allowMotion = true) (geo : Geometry)
    (link : DaemonLink) (hi : MarkerInvariant n) (checkSec requestSec : ℚ) :
    AgreementStep config
      ((adapter config geo link).stepAt n (.armRequest false checkSec requestSec)) := by
  have hstep : ((adapter config geo link).stepAt n (.armRequest false checkSec requestSec)).post =
      ({ n with effects := [] } : AdapterNode).onDisarm config link requestSec :=
    adapter_step_of_subscribes geo link (show config.subscribes (.armRequest false checkSec
      requestSec) = true from hm) n
  obtain ⟨m, hd, hc, hguard⟩ :=
    AdapterNode.onDisarm_step config link requestSec { n with effects := [] }
  have hpolicy := congrArg AcceptedInputs.policy hc.accepted
  rw [← hstep] at hc hguard hpolicy
  obtain ⟨hinvariant, hcases⟩ := hd.agrees hm ⟨hi.faulted, hi.receipt, hi.mode, hi.valid⟩
  have hlatch : ((adapter config geo link).stepAt n
      (.armRequest false checkSec requestSec)).post.policy.changeLatched =
        m.policy.changeLatched :=
    congrArg OpaqueFirmwareStateMarkerPolicy.changeLatched hpolicy
  refine ⟨(hc.keepsFault hm hinvariant).invariant, fun hf hleft => ?_, fun hf _ => ?_⟩
  · rcases hcases hf with ⟨-, hfault⟩ | ⟨-, -, hevidence⟩
    · exact absurd (hguard ▸ hfault) hleft
    · exact ⟨checkSec, requestSec, rfl, hevidence.1, hevidence.2, hevidence.3, hevidence.4,
        hevidence.5, hevidence.6, hevidence.7⟩
  · rw [hlatch, hguard]
    rcases hcases hf with ⟨hsame, hfault⟩ | ⟨hclear, hdisarmed, -⟩
    · exact Or.inr ⟨hsame, hfault⟩
    · exact Or.inl ⟨hclear, by rw [hdisarmed]; decide⟩

theorem agreementStep_stepAt (hm : config.allowMotion = true) (geo : Geometry)
    (link : DaemonLink) (hi : MarkerInvariant n) (event : AdapterEvent) :
    AgreementStep config ((adapter config geo link).stepAt n event) := by
  by_cases he : ∃ checkSec requestSec, event = .armRequest false checkSec requestSec
  · obtain ⟨checkSec, requestSec, rfl⟩ := he
    exact agreementStep_onDisarm hm geo link hi checkSec requestSec
  · push Not at he
    refine .of_keepsFault ?_ he
    have hi' : MarkerInvariant { n with effects := [] } :=
      ⟨hi.faulted, hi.receipt, hi.mode, hi.valid⟩
    show KeepsFault n ((adapter config geo link).step n event).2
    cases hs : config.subscribes event with
    | false =>
      simp only [adapter, hs, Bool.false_eq_true, if_false]
      exact ⟨hi', id⟩
    | true =>
      rw [adapter_step_of_subscribes geo link hs n]
      obtain ⟨hinvariant, hfault⟩ := keepsFault_callback hm geo link hi' he
      exact ⟨hinvariant, hfault⟩

end Steps

lemma markerInvariant_init (config : AdapterConfig) :
    MarkerInvariant (AdapterNode.init config) where
  faulted h := Bool.noConfusion h
  receipt := rfl
  mode := rfl
  valid h := Bool.noConfusion h

variable (config : AdapterConfig) (geo : Geometry) (link : DaemonLink)

lemma markerInvariant_invariant (hm : config.allowMotion = true) :
    (adapter config geo link).Invariant (AdapterNode.init config) MarkerInvariant where
  init := markerInvariant_init config
  step _ event hi := (agreementStep_stepAt hm geo link hi event).invariant

/-- **In a motion profile the marker latch and the fault of the guard agree over every
run.** -/
theorem markerFaultAgreement_run (hm : config.allowMotion = true) (events : List AdapterEvent) :
    MarkerFaultAgreement config
      ((adapter config geo link).trace (AdapterNode.init config) events) := by
  have hinv := markerInvariant_invariant config geo link hm
  have hstep : ∀ x ∈ (adapter config geo link).trace (AdapterNode.init config) events,
      AgreementStep config x := by
    intro x hx
    obtain ⟨es₁, -, -, hxe⟩ := (adapter config geo link).mem_trace_stepAt hx
    rw [hxe]
    exact agreementStep_stepAt hm geo link (hinv.final es₁) x.event
  exact {
    faulted := fun x hx hl => (hinv.post hx).faulted hl
    noMove := fun x hx hl nowSec dtSec =>
      action_tick_of_fault hm ((hinv.post hx).faulted hl) nowSec dtSec
    leaves := fun x hx => (hstep x hx).leaves
    atomic := fun x hx => (hstep x hx).atomic }

/-! ### An acknowledged change -/

/-- The first motion profile, with two listed markers. -/
def firstMotionConfig : AdapterConfig where
  guard := { allowMotion := true, commandTimeoutSec := 0.20, maxVx := 0.05, maxVy := 0,
             maxWz := 0, allowedModes := [1] }
  hasFallback := false
  allowedStateMarkers := [100, 2010]

/-- The geometry of a robot that stands level and moves along one axis. -/
def axisGeometry : Geometry where
  norm q := q.w.abs
  yaw _ _ := 0
  hypot x y := .fin (max |x| |y|)
  yawJump _ _ := 0

/-- A daemon that answers every exchange. -/
def promptDaemon : DaemonLink where
  accepts _ := true
  reply _ := .ok

/-- A level robot at rest in its allowed mode. -/
def restingState (stamp : Stamp) (errorCode : UInt32) : SportModeState where
  stamp := stamp
  quaternion := ⟨.fin 1, .fin 0, .fin 0, .fin 0⟩
  position := ⟨.fin 0, .fin 0, .fin 0⟩
  velocity := ⟨.fin 0, .fin 0, .fin 0⟩
  gyroscope := ⟨.fin 0, .fin 0, .fin 0⟩
  accelerometer := ⟨.fin 0, .fin 0, .fin 0⟩
  yawSpeed := .fin 0
  mode := 1
  errorCode := errorCode

/-- The marker changes, and a disarm request acknowledges the change. -/
def acknowledgedChange : List AdapterEvent :=
  [.sportModeState true (restingState ⟨1, 0⟩ 100) 1 1000000000 1,
    .sportModeState true (restingState ⟨1, 100000000⟩ 2010) 1.1 1100000000 1.1,
    .velocityCommand 0 1.15,
    .armRequest false 1.16 1.16]

theorem markerFaultAgreement_acknowledgedChange : firstMotionConfig.admitted = true ∧
    firstMotionConfig.allowMotion = true ∧
    (((adapter firstMotionConfig axisGeometry promptDaemon).trace
      (AdapterNode.init firstMotionConfig) acknowledgedChange).map
        fun x => x.post.policy.changeLatched) = [false, true, true, false] ∧
    MarkerFaultAgreement firstMotionConfig ((adapter firstMotionConfig axisGeometry
      promptDaemon).trace (AdapterNode.init firstMotionConfig) acknowledgedChange) :=
  ⟨by decide +kernel, rfl, by decide +kernel,
    markerFaultAgreement_run firstMotionConfig axisGeometry promptDaemon rfl acknowledgedChange⟩

end UnitreeGo2.Chassis
