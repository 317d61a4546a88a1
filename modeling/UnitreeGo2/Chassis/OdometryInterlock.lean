import Mathlib.Tactic.Linarith
import UnitreeGo2.Chassis.MarkerAgreement

/-!
# The interlock of the external odometry

With external odometry a node publishes and moves only while its fault latch is clear and
both of its receipts are valid and fresh.  The latch is never cleared, and a liveness loss in
an open motion session sets it.
-/

namespace UnitreeGo2.Chassis

open SafetyGuard

/-! ## The interlock over a run -/

/-- The latch is clear, and both receipts are valid and within their timeouts. -/
structure InterlockOpen (config : AdapterConfig) (nowSec : ℚ) (n : AdapterNode) : Prop where
  latch : n.externalOdomFaultLatch = false
  stateValid : n.lastStateValid = true
  stateFresh : 0 < n.lastStateReceiptSec ∧ n.lastStateReceiptSec ≤ nowSec ∧
    nowSec - n.lastStateReceiptSec ≤ config.guard.stateTimeoutSec
  odomValid : n.lastExternalOdomValid = true
  odomFresh : 0 < n.lastExternalOdomReceiptSec ∧ n.lastExternalOdomReceiptSec ≤ nowSec ∧
    nowSec - n.lastExternalOdomReceiptSec ≤ config.externalOdomTimeoutSec

/-- The clock reading at which a callback publishes or moves. -/
def AdapterEvent.outputSec : AdapterEvent → ℚ
  | .sportModeState _ _ _ _ publishSec => publishSec
  | .externalOdometry _ _ _ publishSec => publishSec
  | .velocityCommand _ nowSec => nowSec
  | .armRequest _ _ requestSec => requestSec
  | .controlTimer nowSec => nowSec
  | .diagnosticsTimer nowSec => nowSec

/-- The clock reading of a timer. -/
def AdapterEvent.timerSec? : AdapterEvent → Option ℚ
  | .controlTimer nowSec => some nowSec
  | .diagnosticsTimer nowSec => some nowSec
  | _ => none

/-- The interlock of the external odometry in a run. -/
structure OdometryInterlock (config : AdapterConfig) (tr : List AdapterStep) : Prop where
  /-- A move is sent and a message is published only while the interlock is open. -/
  gated : ∀ x ∈ tr, ∀ e ∈ x.output, e.drives = true →
    InterlockOpen config x.event.outputSec x.post
  /-- After the latch is set nothing more is sent or published. -/
  silent : ∀ l x r, tr = l ++ x :: r → x.post.externalOdomFaultLatch = true →
    ∀ y ∈ r, ∀ e ∈ y.output, e.drives = false
  /-- A liveness loss that is noticed in an open motion session sets the latch. -/
  losses : ∀ x ∈ tr, ∀ state, .livenessLoss state ∈ x.output → state.SessionOpen →
    x.post.externalOdomFaultLatch = true
  /-- In an open motion session the timers notice every loss. -/
  timers : ∀ x ∈ tr, ∀ nowSec, x.event.timerSec? = some nowSec → x.pre.guard.state.SessionOpen →
    ¬ InterlockOpen config nowSec x.pre → x.post.externalOdomFaultLatch = true

/-! ## Open sessions -/

/-- A session is open only in a motion profile, and after a receipt of the external
odometry. -/
def SessionFounded (config : AdapterConfig) (n : AdapterNode) : Prop :=
  n.guard.state.SessionOpen → config.allowMotion = true ∧ 0 < n.lastExternalOdomReceiptSec

/-- A part of a callback keeps the latch and the foundation of a session, and latches the
losses that it notices in one. -/
structure KeepsInterlock (config : AdapterConfig) (n n' : AdapterNode) : Prop where
  session : SessionFounded config n'
  latch : n.externalOdomFaultLatch = true → n'.externalOdomFaultLatch = true
  losses : ∀ state, .livenessLoss state ∈ n'.effects → .livenessLoss state ∈ n.effects ∨
    (state.SessionOpen → n'.externalOdomFaultLatch = true)

section Calls

variable {config : AdapterConfig} {n n' n'' m : AdapterNode} {nowSec : ℚ}

lemma KeepsInterlock.trans (h : KeepsInterlock config n n')
    (h' : SessionFounded config n' → KeepsInterlock config n' n'') :
    KeepsInterlock config n n'' where
  session := (h' h.session).session
  latch hl := (h' h.session).latch (h.latch hl)
  losses state he := by
    rcases (h' h.session).losses state he with he | hl
    · exact (h.losses state he).imp_right fun hl hs => (h' h.session).latch (hl hs)
    · exact Or.inr hl

/-- A call that keeps the latch, and adds no loss. -/
lemma KeepsInterlock.of_eq (hsession : SessionFounded config n')
    (hlatch : n'.externalOdomFaultLatch = n.externalOdomFaultLatch)
    (heffects : ∀ state, .livenessLoss state ∈ n'.effects → .livenessLoss state ∈ n.effects) :
    KeepsInterlock config n n' where
  session := hsession
  latch hl := hlatch.trans hl
  losses state he := Or.inl (heffects state he)

lemma Contained.keepsInterlock (h : Contained config n n') (hi : SessionFounded config n) :
    KeepsInterlock config n n' where
  session hs := by
    have hs' : n.guard.state.SessionOpen := h.guard.guard_eq hs ▸ hs
    obtain ⟨hm, hr⟩ := hi hs'
    exact ⟨hm, by rwa [h.receipt hm hs]⟩
  latch := h.latch
  losses state he := by
    refine (h.losses state he).imp_right fun hl hs => ?_
    obtain ⟨hstate, hlatch⟩ := hl hs
    exact hlatch (hi (hstate ▸ hs)).1

lemma Output.keepsInterlock {P : CommandOp → Prop} (h : Output config P n n')
    (hi : SessionFounded config n) : KeepsInterlock config n n' := by
  refine .of_eq (fun hs => ?_) (congrArg InterlockInputs.externalOdomFaultLatch h.interlock)
    fun state he => ?_
  · obtain ⟨hm, hr⟩ := hi (h.guard.guard_eq hs ▸ hs)
    have heq : n'.lastExternalOdomReceiptSec = n.lastExternalOdomReceiptSec :=
      congrArg InterlockInputs.lastExternalOdomReceiptSec h.interlock
    exact ⟨hm, by rwa [heq]⟩
  · rcases h.effects _ he with he | ⟨op, velocity, heq, -⟩
    · exact he
    · cases heq

/-- With external odometry, freshness is an open interlock. -/
lemma interlockOpen_of_eligible (h : n.canonicalOutputEligible config nowSec = true) :
    InterlockOpen config nowSec n := by
  simp only [AdapterNode.canonicalOutputEligible, AdapterNode.freshValidSportModeState,
    AdapterNode.freshValidExternalOdometry, freshValidReceipt, Bool.and_eq_true,
    Bool.not_eq_true', decide_eq_true_eq] at h
  obtain ⟨⟨hlatch, ⟨⟨⟨hstate, hstate₁⟩, -⟩, hstate₂⟩, hstate₃⟩, ⟨⟨⟨hodom, hodom₁⟩, -⟩, hodom₂⟩,
    hodom₃⟩ := h
  exact ⟨hlatch, hstate, ⟨hstate₁, hstate₂, hstate₃⟩, hodom, hodom₁, hodom₂, hodom₃⟩

lemma eligible_of_fresh (he : config.external = true)
    (h : n.externalOdometryFresh config nowSec = true) :
    n.canonicalOutputEligible config nowSec = true := by
  simpa [AdapterNode.externalOdometryFresh, he] using h

/-! ## The callbacks -/

/-- What a callback does: it keeps the interlock, and sends a move or publishes a message only
while it is open. -/
structure InterlockCall (config : AdapterConfig) (nowSec : ℚ) (n n' : AdapterNode) : Prop where
  keeps : KeepsInterlock config n n'
  drives : ∀ e ∈ n'.effects, e.drives = true → e ∈ n.effects ∨ InterlockOpen config nowSec n'

lemma Contained.interlockCall (h : Contained config n n') (hi : SessionFounded config n) :
    InterlockCall config nowSec n n' :=
  ⟨h.keepsInterlock hi, fun e he hd => Or.inl (h.drives e he hd)⟩

lemma Published.interlockCall {stamp : Stamp} (hext : config.external = true)
    (h : Published config stamp nowSec n n') (hi : SessionFounded config n) :
    InterlockCall config nowSec n n' := by
  cases h with
  | withheld h => exact h.interlockCall hi
  | published m hc hfresh hinterlock h =>
    have hopen : InterlockOpen config nowSec n' := by
      refine interlockOpen_of_eligible (eligible_of_fresh hext ?_)
      rw [AdapterNode.externalOdometryFresh_congr config hinterlock, hfresh]
    refine ⟨(hc.keepsInterlock hi).trans fun hi => ?_, fun _ _ _ => Or.inr hopen⟩
    have hemit : KeepsInterlock config m (m.emit (.odometry stamp)) := by
      refine .of_eq hi rfl fun state he => ?_
      rcases List.mem_append.mp he with he | he
      · exact he
      · cases List.mem_singleton.mp he
    exact hemit.trans h.keepsInterlock

/-- What the guard and the policy learn of a state does not touch the interlock. -/
lemma keepsInterlock_acceptedState (hi : SessionFounded config n) (isPrimary : Bool)
    (tracker : SourceStampTracker) (message : SportModeState) (receiptSec : ℚ) (valid : Bool) :
    KeepsInterlock config n
      (n.acceptedState config isPrimary tracker message receiptSec valid) ∧
    (n.acceptedState config isPrimary tracker message receiptSec valid).effects = n.effects := by
  have hset : (n.setStampTracker isPrimary tracker).guard = n.guard ∧
      (n.setStampTracker isPrimary tracker).externalOdomFaultLatch = n.externalOdomFaultLatch ∧
      (n.setStampTracker isPrimary tracker).lastExternalOdomReceiptSec =
        n.lastExternalOdomReceiptSec ∧
      (n.setStampTracker isPrimary tracker).effects = n.effects := by
    cases isPrimary <;> exact ⟨rfl, rfl, rfl, rfl⟩
  obtain ⟨hguard, hlatch, hreceipt, heffects⟩ := hset
  unfold AdapterNode.acceptedState AdapterNode.updateState
  dsimp only
  split
  · refine ⟨.of_eq (fun hs => absurd hs (not_sessionOpen_forceFault _ _ _)) hlatch fun _ he => ?_,
      heffects⟩
    exact heffects ▸ he
  · refine ⟨.of_eq (fun hs => ?_) hlatch fun _ he => heffects ▸ he, heffects⟩
    obtain ⟨hm, hr⟩ := hi (hguard ▸ hs)
    exact ⟨hm, hreceipt.symm ▸ hr⟩

lemma AdapterNode.SportStep.interlockCall {isPrimary : Bool} {message : SportModeState}
    {sourceNs : ℕ} {receiptSec publishSec : ℚ} (hext : config.external = true)
    (h : n.SportStep config isPrimary message sourceNs receiptSec publishSec n')
    (hi : SessionFounded config n) : InterlockCall config nowSec n n' := by
  cases h with
  | refused h => exact h.interlockCall hi
  | accepted _ h =>
    obtain ⟨haccepted, heffects⟩ := keepsInterlock_acceptedState hi isPrimary _ message receiptSec _
    refine ⟨haccepted.trans h.keepsInterlock, fun e he hd => Or.inl ?_⟩
    exact heffects ▸ h.drives e he hd
  | published _ hsource => exact absurd (hsource.symm.trans hext) Bool.false_ne_true

lemma AdapterNode.ExternalStep.interlockCall {geo : Geometry} {message : Odometry}
    {sourceNs : ℕ} {receiptSec publishSec : ℚ}
    (h : n.ExternalStep config geo message sourceNs receiptSec publishSec n')
    (hi : SessionFounded config n) : InterlockCall config publishSec n n' := by
  cases h with
  | refused h => exact h.interlockCall hi
  | @accepted tracker hext _ hclock _ h =>
    have hrecord : KeepsInterlock config n
        (({ n with externalOdomStampTracker := tracker } : AdapterNode).recordExternalOdometry geo
          message receiptSec) := by
      refine .of_eq (fun hs => ?_) rfl fun _ he => he
      -- the receipts of an open session are positive, and the clock has not gone back
      obtain ⟨hm, hr⟩ := hi hs
      simp only [AdapterNode.receiptClockRegressed, receiptClockInvalidOrRegressed,
        Bool.or_eq_false_iff, Bool.and_eq_false_iff, decide_eq_false_iff_not, not_lt] at hclock
      rcases hclock.2 with h | h
      · exact absurd hr (not_lt.mpr h)
      · exact ⟨hm, hr.trans_le h⟩
    have hp := h.interlockCall hext hrecord.session
    exact ⟨hrecord.trans fun _ => hp.keeps, hp.drives⟩

/-! ### Calls of the guard -/

lemma sessionOpen_of_updateCommand {config : GuardConfig} {command : Velocity ExtRat}
    {g : SafetyGuard} (h : (g.updateCommand config nowSec command).state.SessionOpen) :
    g.state.SessionOpen := by
  unfold updateCommand at h
  dsimp only at h
  split at h
  · exact absurd h (not_sessionOpen_forceFault _ _ _)
  · exact h

lemma not_sessionOpen_requestDisarm (config : GuardConfig) (nowSec : ℚ) (g : SafetyGuard) :
    ¬ (g.requestDisarm config nowSec).2.state.SessionOpen := by
  unfold requestDisarm GuardState.SessionOpen
  dsimp only
  split
  · simp
  split
  · rename_i h
    rw [Bool.and_eq_true, decide_eq_true_eq] at h
    simp [h.1]
  · simp

/-- A tick opens no session, and only in an open one does it decide as an armed guard. -/
lemma TickStep.sessionOpen {config : GuardConfig} {dtSec : ℚ} {g g' : SafetyGuard}
    {decision : GuardDecision} (h : TickStep config nowSec dtSec g decision g') :
    (g'.state.SessionOpen → g.state.SessionOpen) ∧
      (decision.state = .armed → g.state.SessionOpen) := by
  cases h with
  | idle hpre hstate =>
    rcases hstate with rfl | ⟨rfl, -, harmed⟩
    · exact ⟨fun h => by simp [GuardState.SessionOpen] at h, fun h => by cases h⟩
    · exact ⟨id, fun h => absurd h harmed⟩
  | failed => exact ⟨fun h => by simp [GuardState.SessionOpen] at h, fun h => by cases h⟩
  | restarted hstate => exact ⟨fun _ => Or.inl hstate, fun _ => Or.inl hstate⟩
  | holding hstate => exact ⟨fun _ => Or.inl hstate, fun _ => Or.inl hstate⟩
  | started _ hstate => exact ⟨fun _ => Or.inl hstate, fun _ => Or.inl hstate⟩
  | continued _ hstate => exact ⟨fun _ => Or.inr hstate, fun _ => Or.inr hstate⟩

/-! ### The other callbacks -/

/-- A call that sends nothing and keeps what the interlock reads. -/
lemma Consulted.interlockCall (h : Consulted n n') (hsession : SessionFounded config n') :
    InterlockCall config nowSec n n' where
  keeps := .of_eq hsession (congrArg InterlockInputs.externalOdomFaultLatch h.interlock)
    fun _ he => h.losses he
  drives e he hd := Or.inl (h.drives e he hd)

lemma interlockCall_onArm (hext : config.external = true) (hm : config.allowMotion = true)
    (hi : SessionFounded config n) (checkSec requestSec : ℚ) :
    InterlockCall config nowSec n (n.onArm config checkSec requestSec) := by
  obtain ⟨hconsulted, hguard⟩ := AdapterNode.onArm_cases config checkSec requestSec n
  have hreceipt : (n.onArm config checkSec requestSec).lastExternalOdomReceiptSec =
      n.lastExternalOdomReceiptSec :=
    congrArg InterlockInputs.lastExternalOdomReceiptSec hconsulted.interlock
  refine hconsulted.interlockCall fun hs => ⟨hm, ?_⟩
  rw [hreceipt]
  rcases hguard with hsame | ⟨-, hfresh⟩
  · exact (hi (hsame ▸ hs)).2
  · exact (interlockOpen_of_eligible (eligible_of_fresh hext hfresh)).odomFresh.1

lemma interlockCall_onDisarm (link : DaemonLink) (hi : SessionFounded config n)
    (requestSec : ℚ) : InterlockCall config nowSec n (n.onDisarm config link requestSec) := by
  obtain ⟨m, hd, hc, -⟩ := AdapterNode.onDisarm_step config link requestSec n
  have hm : KeepsInterlock config n m ∧ m.effects = n.effects := by
    have hclosed : ∀ (g : SafetyGuard) (policy : OpaqueFirmwareStateMarkerPolicy),
        KeepsInterlock config n { n with
          guard := (g.requestDisarm config.guard requestSec).2, policy := policy } :=
      fun g policy => .of_eq (fun hs => absurd hs (not_sessionOpen_requestDisarm _ _ _)) rfl
        fun _ he => he
    cases hd with
    | declined => exact ⟨(Contained.refl n).keepsInterlock hi, rfl⟩
    | disarmed => exact ⟨hclosed n.guard n.policy, rfl⟩
    | kept => exact ⟨hclosed _ n.policy, rfl⟩
    | cleared => exact ⟨hclosed _ _, rfl⟩
  exact ⟨hm.1.trans hc.keepsInterlock, fun e he hd => Or.inl (hm.2 ▸ hc.drives e he hd)⟩

/-- After the interlock the control timer keeps it, and moves only while it is open. -/
lemma interlockCall_onControlTimer (hext : config.external = true) (link : DaemonLink)
    (hi : SessionFounded config (n.checkExternalOdometryInterlock config link nowSec)) :
    InterlockCall config nowSec (n.checkExternalOdometryInterlock config link nowSec)
      (n.onControlTimer config link nowSec) := by
  rcases AdapterNode.onControlTimer_cases config link nowSec n with h | ⟨m, hc, hfresh, h⟩
  · exact h.interlockCall hi
  obtain ⟨hsession, hdecision⟩ :=
    TickStep.sessionOpen (tick_step config.guard nowSec config.controlPeriodSec m.guard)
  have hm := hc.keepsInterlock hi
  have htick : KeepsInterlock config m { m with
      guard := (m.guard.tick config.guard nowSec config.controlPeriodSec).2 } :=
    .of_eq (fun hs => hm.session (hsession hs)) rfl fun _ he => he
  refine ⟨hm.trans fun _ => htick.trans h.keepsInterlock, fun e he hd => ?_⟩
  rcases h.effects e he with he | ⟨op, velocity, rfl, hop⟩
  · exact Or.inl (hc.drives e he hd)
  · -- a packet that drives is a move, and the guard was armed when it was decided
    have hmove : op = .move := by
      cases op with
      | move => rfl
      | _ => cases hd
    refine Or.inr (interlockOpen_of_eligible (eligible_of_fresh hext ?_))
    rw [AdapterNode.externalOdometryFresh_congr config h.interlock]
    exact hfresh (hdecision (hop hmove))

/-- **Every callback keeps the interlock.** -/
theorem interlockCall_callback (hext : config.external = true) (geo : Geometry)
    (link : DaemonLink) (hi : SessionFounded config n) {event : AdapterEvent}
    (hs : config.subscribes event = true) :
    InterlockCall config event.outputSec n (n.callback config geo link event) := by
  cases event with
  | sportModeState isPrimary message receiptSec referenceNs publishSec =>
    exact (AdapterNode.onSportModeState_step config geo link isPrimary message receiptSec
      referenceNs publishSec n).interlockCall hext hi
  | externalOdometry message receiptSec referenceNs publishSec =>
    exact (AdapterNode.onExternalOdometry_step config geo link message receiptSec referenceNs
      publishSec n).interlockCall hi
  | velocityCommand command nowSec =>
    rcases AdapterNode.onVelocityCommand_cases config link command nowSec n with h | h
    · exact h.interlockCall hi
    · rw [AdapterNode.callback, h]
      exact ⟨.of_eq (fun hs => hi (sessionOpen_of_updateCommand hs)) rfl fun _ he => he,
        fun _ he _ => Or.inl he⟩
  | armRequest arm checkSec requestSec =>
    cases arm with
    | false => exact interlockCall_onDisarm link hi requestSec
    | true => exact interlockCall_onArm hext hs hi checkSec requestSec
  | controlTimer nowSec =>
    have hchecked := (AdapterNode.checkExternalOdometryInterlock_contained config link nowSec
      n).keepsInterlock hi
    have hcall := interlockCall_onControlTimer hext link hchecked.session
    refine ⟨hchecked.trans fun _ => hcall.keeps, fun e he hd => ?_⟩
    exact (hcall.drives e he hd).imp_left fun he =>
      (AdapterNode.checkExternalOdometryInterlock_contained config link nowSec n).drives e he hd
  | diagnosticsTimer nowSec =>
    exact (AdapterNode.checkExternalOdometryInterlock_contained config link nowSec n).interlockCall
      hi

/-- In an open session a timer notices every loss. -/
lemma latch_of_timer (hext : config.external = true) (geo : Geometry) (link : DaemonLink)
    (hi : SessionFounded config n) (hopen : n.guard.state.SessionOpen) {event : AdapterEvent}
    (ht : event.timerSec? = some nowSec) (hclosed : ¬ InterlockOpen config nowSec n) :
    (n.callback config geo link event).externalOdomFaultLatch = true := by
  obtain ⟨hm, hr⟩ := hi hopen
  have hlatch : (n.checkExternalOdometryInterlock config link nowSec).externalOdomFaultLatch =
      true := by
    rcases AdapterNode.checkExternalOdometryInterlock_cases config link nowSec hext hm hopen hr with
      h | h
    · exact h
    · exact absurd (interlockOpen_of_eligible h) hclosed
  cases event with
  | controlTimer t =>
    cases ht
    have hchecked := (AdapterNode.checkExternalOdometryInterlock_contained config link nowSec
      n).keepsInterlock hi
    exact (interlockCall_onControlTimer hext link hchecked.session).keeps.latch hlatch
  | diagnosticsTimer t =>
    cases ht
    exact hlatch
  | _ => cases ht

/-! ## Runs -/

/-- What one step does to the interlock. -/
structure InterlockStep (config : AdapterConfig) (x : AdapterStep) : Prop where
  session : SessionFounded config x.post
  latch : x.pre.externalOdomFaultLatch = true → x.post.externalOdomFaultLatch = true
  gated : ∀ e ∈ x.output, e.drives = true → InterlockOpen config x.event.outputSec x.post
  losses : ∀ state, .livenessLoss state ∈ x.output → state.SessionOpen →
    x.post.externalOdomFaultLatch = true
  timers : ∀ nowSec, x.event.timerSec? = some nowSec → x.pre.guard.state.SessionOpen →
    ¬ InterlockOpen config nowSec x.pre → x.post.externalOdomFaultLatch = true

theorem interlockStep_stepAt (hext : config.external = true) (geo : Geometry)
    (link : DaemonLink) (hi : SessionFounded config n) (event : AdapterEvent) :
    InterlockStep config ((adapter config geo link).stepAt n event) := by
  cases hs : config.subscribes event with
  | false =>
    have hpost : (adapter config geo link).stepAt n event =
        ⟨n, event, [], { n with effects := [] }⟩ := by
      simp only [Machine.stepAt, adapter, hs, Bool.false_eq_true, if_false]
    rw [hpost]
    refine ⟨hi, id, fun e he => absurd he (by simp), fun state he => absurd he (by simp),
      fun nowSec ht hopen _ => ?_⟩
    -- in an open session both timers run
    cases event with
    | controlTimer t => exact absurd ((hi hopen).1.symm.trans hs) (by decide)
    | diagnosticsTimer t => cases hs
    | _ => cases ht
  | true =>
    let m : AdapterNode := { n with effects := [] }
    have hcall : InterlockCall config event.outputSec m (m.callback config geo link event) :=
      interlockCall_callback (n := m) hext geo link hi hs
    have hpost : (adapter config geo link).stepAt n event =
        ⟨n, event, (m.callback config geo link event).effects,
          m.callback config geo link event⟩ := by
      simp only [Machine.stepAt, adapter, hs, if_true, m]
    rw [hpost]
    exact {
      session := hcall.keeps.session
      latch := hcall.keeps.latch
      gated := fun e he hd => (hcall.drives e he hd).resolve_left List.not_mem_nil
      losses := fun state he => (hcall.keeps.losses state he).resolve_left List.not_mem_nil
      timers := fun nowSec ht hopen hclosed =>
        latch_of_timer (n := m) hext geo link hi hopen ht fun h => hclosed
          ⟨h.latch, h.stateValid, h.stateFresh, h.odomValid, h.odomFresh⟩ }

end Calls

variable (config : AdapterConfig) (geo : Geometry) (link : DaemonLink)

lemma sessionFounded_invariant (hext : config.external = true) :
    (adapter config geo link).Invariant (AdapterNode.init config) (SessionFounded config) where
  init hs := by
    unfold AdapterNode.init SafetyGuard.init GuardState.SessionOpen at hs
    dsimp only at hs
    split at hs <;> simp at hs
  step _ event hi := (interlockStep_stepAt hext geo link hi event).session

/-- The latch is never cleared. -/
lemma latch_final (hext : config.external = true) {n : AdapterNode}
    (hi : SessionFounded config n) (hl : n.externalOdomFaultLatch = true)
    (events : List AdapterEvent) :
    ((adapter config geo link).final n events).externalOdomFaultLatch = true := by
  have h := (adapter config geo link).history_induction (s := n)
    (motive := fun _ m => SessionFounded config m ∧ m.externalOdomFaultLatch = true) ⟨hi, hl⟩
    (fun _ m event ⟨hi, hl⟩ =>
      have hstep := interlockStep_stepAt hext geo link hi event
      ⟨hstep.session, hstep.latch hl⟩) events
  exact h.2

/-- **With external odometry the interlock holds over every run.** -/
theorem odometryInterlock_run (hext : config.external = true) (events : List AdapterEvent) :
    OdometryInterlock config
      ((adapter config geo link).trace (AdapterNode.init config) events) := by
  have hinv := sessionFounded_invariant config geo link hext
  have hstep : ∀ x ∈ (adapter config geo link).trace (AdapterNode.init config) events,
      InterlockStep config x := by
    intro x hx
    obtain ⟨es₁, -, -, hxe⟩ := (adapter config geo link).mem_trace_stepAt hx
    rw [hxe]
    exact interlockStep_stepAt hext geo link (hinv.final es₁) x.event
  refine ⟨fun x hx => (hstep x hx).gated, ?_, fun x hx => (hstep x hx).losses,
    fun x hx => (hstep x hx).timers⟩
  intro l x r htr hl y hy e he
  -- the latch is still set when `y` starts, and so when it ends
  obtain ⟨es₁, es₂, -, -, -, hr⟩ := (adapter config geo link).trace_eq_append_cons htr
  rw [hr] at hy
  obtain ⟨es₃, -, -, hye⟩ := (adapter config geo link).mem_trace_stepAt hy
  have hx : x ∈ (adapter config geo link).trace (AdapterNode.init config) events := by
    rw [htr]
    simp
  have hlatch := latch_final config geo link hext (hinv.post hx) hl es₃
  have hstepy := hstep y (by rw [htr, hr]; simp [hy])
  have hpre : y.pre.externalOdomFaultLatch = true := by
    rw [hye]
    exact hlatch
  by_contra hd
  rw [Bool.not_eq_false] at hd
  exact absurd ((hstepy.gated e he hd).latch.symm.trans (hstepy.latch hpre)) Bool.false_ne_true

/-! ### A loss while armed -/

/-- The staged navigation profile, with external odometry. -/
def stagedNav2Config : AdapterConfig where
  guard := { allowMotion := true, stateTimeoutSec := 1, commandTimeoutSec := 0.20,
             zeroPreparationSec := 0, maxVx := 0.30, allowedModes := [1] }
  motionProfile := .stagedNav2
  odomSource := .externalVerified
  hasFallback := false
  allowedStateMarkers := [100]
  externalOdomTimeoutSec := 1
  commissioningMaxDurationSec := 0
  commissioningMaxDistanceM := 0

/-- The pose of a robot at rest at the origin. -/
def restingOdometry (stamp : Stamp) : Odometry where
  frameId := "odom"
  childFrameId := "base_link"
  stamp := stamp
  position := ⟨.fin 0, .fin 0, .fin 0⟩
  orientation := ⟨.fin 1, .fin 0, .fin 0, .fin 0⟩
  linear := ⟨.fin 0, .fin 0, .fin 0⟩
  angular := ⟨.fin 0, .fin 0, .fin 0⟩
  poseCovariance := []
  twistCovariance := []

/-- The robot is armed and moves, and then no more states arrive. -/
def lossWhileArmed : List AdapterEvent :=
  [.sportModeState true (restingState ⟨1, 0⟩ 100) 1 1000000000 1,
    .externalOdometry (restingOdometry ⟨1, 10000000⟩) 1.01 1010000000 1.01,
    .velocityCommand 0 1.02,
    .armRequest true 1.03 1.03,
    .controlTimer 1.04,
    .velocityCommand ⟨.fin 0.1, .fin 0, .fin 0⟩ 1.05,
    .controlTimer 1.06,
    .diagnosticsTimer 2.20]

theorem odometryInterlock_lossWhileArmed : stagedNav2Config.admitted = true ∧
    stagedNav2Config.external = true ∧
    (((adapter stagedNav2Config axisGeometry promptDaemon).trace
      (AdapterNode.init stagedNav2Config) lossWhileArmed).map
        fun x => (x.output.any Effect.drives, x.post.externalOdomFaultLatch)) =
      [(false, false), (true, false), (false, false), (false, false), (false, false),
        (false, false), (true, false), (false, true)] ∧
    OdometryInterlock stagedNav2Config ((adapter stagedNav2Config axisGeometry
      promptDaemon).trace (AdapterNode.init stagedNav2Config) lossWhileArmed) :=
  ⟨by decide +kernel, rfl, by decide +kernel,
    odometryInterlock_run stagedNav2Config axisGeometry promptDaemon rfl lossWhileArmed⟩

end UnitreeGo2.Chassis
