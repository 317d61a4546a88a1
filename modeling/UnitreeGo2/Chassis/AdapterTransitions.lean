import UnitreeGo2.Chassis.AdapterCallbacks
import UnitreeGo2.Chassis.SafetyGuardTransitions

/-!
# What the parts of the adapter leave alone

Most of what a callback does is one of two things: it talks to the daemon, perhaps after
faulting the guard, or it gives up the external odometry.  Two relations between the node
before and after say what these leave alone; both are reflexive and transitive, so that the
callbacks are analysed part by part.
-/

namespace UnitreeGo2.Chassis

/-! ## The relations -/

/-- What the messages that were accepted have left in the node. -/
structure AcceptedInputs where
  policy : OpaqueFirmwareStateMarkerPolicy
  primaryStampTracker : SourceStampTracker
  fallbackStampTracker : SourceStampTracker
  externalOdomStampTracker : SourceStampTracker
  lastMode : UInt8
  lastStateReceiptSec : ℚ
  lastStateMeasurementsValid : Bool

/-- What the interlock of the external odometry reads. -/
structure InterlockInputs where
  externalOdomFaultLatch : Bool
  lastStateValid : Bool
  lastStateReceiptSec : ℚ
  lastExternalOdomValid : Bool
  lastExternalOdomReceiptSec : ℚ

namespace AdapterNode

def acceptedInputs (n : AdapterNode) : AcceptedInputs where
  policy := n.policy
  primaryStampTracker := n.primaryStampTracker
  fallbackStampTracker := n.fallbackStampTracker
  externalOdomStampTracker := n.externalOdomStampTracker
  lastMode := n.lastMode
  lastStateReceiptSec := n.lastStateReceiptSec
  lastStateMeasurementsValid := n.lastStateMeasurementsValid

def interlockInputs (n : AdapterNode) : InterlockInputs where
  externalOdomFaultLatch := n.externalOdomFaultLatch
  lastStateValid := n.lastStateValid
  lastStateReceiptSec := n.lastStateReceiptSec
  lastExternalOdomValid := n.lastExternalOdomValid
  lastExternalOdomReceiptSec := n.lastExternalOdomReceiptSec

end AdapterNode

/-- A motion session is open in the guard. -/
def GuardState.SessionOpen (state : GuardState) : Prop := state = .preparing ∨ state = .armed

/-- The guard is as it was, or was faulted. -/
def GuardKept (config : AdapterConfig) (n n' : AdapterNode) : Prop :=
  n'.guard = n.guard ∨ ∃ reason, n'.guard = n.guard.forceFault config.guard reason

/-- The node has at most written commands to the daemon and faulted the guard. -/
structure Output (config : AdapterConfig) (P : CommandOp → Prop) (n n' : AdapterNode) : Prop where
  accepted : n'.acceptedInputs = n.acceptedInputs
  interlock : n'.interlockInputs = n.interlockInputs
  guard : GuardKept config n n'
  effects : ∀ e ∈ n'.effects, e ∈ n.effects ∨ ∃ op velocity, e = .packet op velocity ∧ P op

/-- The effects that the interlock guards: a move, and a canonical message. -/
def Effect.drives : Effect → Bool
  | .packet .move _ => true
  | .odometry _ => true
  | _ => false

/-- The node has at most stopped and given up the external odometry. -/
structure Contained (config : AdapterConfig) (n n' : AdapterNode) : Prop where
  accepted : n'.acceptedInputs = n.acceptedInputs
  guard : GuardKept config n n'
  latch : n.externalOdomFaultLatch = true → n'.externalOdomFaultLatch = true
  /-- In a motion profile an open session keeps its odometry receipt. -/
  receipt : config.allowMotion = true → n'.guard.state.SessionOpen →
    n'.lastExternalOdomReceiptSec = n.lastExternalOdomReceiptSec
  drives : ∀ e ∈ n'.effects, e.drives = true → e ∈ n.effects
  /-- A liveness loss in an open session latches. -/
  losses : ∀ state, .livenessLoss state ∈ n'.effects → .livenessLoss state ∈ n.effects ∨
    (state.SessionOpen → n.guard.state = state ∧
      (config.allowMotion = true → n'.externalOdomFaultLatch = true))

section Relations

variable {config : AdapterConfig} {P Q : CommandOp → Prop} {n n' n'' : AdapterNode}

lemma GuardKept.refl (n : AdapterNode) : GuardKept config n n := Or.inl rfl

lemma forceFault_forceFault (config : GuardConfig) (r r' : String) (g : SafetyGuard) :
    (g.forceFault config r).forceFault config r' = g.forceFault config r' := by
  unfold SafetyGuard.forceFault
  split <;> rfl

lemma GuardKept.trans (h : GuardKept config n n') (h' : GuardKept config n' n'') :
    GuardKept config n n'' := by
  rcases h' with h' | ⟨r', h'⟩
  · rcases h with h | ⟨r, h⟩
    · exact Or.inl (h'.trans h)
    · exact Or.inr ⟨r, h'.trans h⟩
  · rcases h with h | ⟨r, h⟩
    · exact Or.inr ⟨r', by rw [h', h]⟩
    · exact Or.inr ⟨r', by rw [h', h, forceFault_forceFault]⟩

lemma not_sessionOpen_forceFault (config : GuardConfig) (reason : String) (g : SafetyGuard) :
    ¬ (g.forceFault config reason).state.SessionOpen := by
  unfold SafetyGuard.forceFault GuardState.SessionOpen
  split <;> simp

/-- A session that is open now was open before. -/
lemma GuardKept.guard_eq (h : GuardKept config n n') (hs : n'.guard.state.SessionOpen) :
    n'.guard = n.guard := by
  rcases h with h | ⟨reason, h⟩
  · exact h
  · rw [h] at hs
    exact absurd hs (not_sessionOpen_forceFault _ _ _)

lemma Output.refl (n : AdapterNode) : Output config P n n where
  accepted := rfl
  interlock := rfl
  guard := GuardKept.refl n
  effects _ he := Or.inl he

lemma Output.trans (h : Output config P n n') (h' : Output config P n' n'') :
    Output config P n n'' where
  accepted := h'.accepted.trans h.accepted
  interlock := h'.interlock.trans h.interlock
  guard := h.guard.trans h'.guard
  effects e he := (h'.effects e he).elim (h.effects e) Or.inr

lemma Output.mono (h : Output config P n n') (hPQ : ∀ op, P op → Q op) :
    Output config Q n n' where
  accepted := h.accepted
  interlock := h.interlock
  guard := h.guard
  effects e he := (h.effects e he).imp_right fun ⟨op, velocity, heq, hop⟩ =>
    ⟨op, velocity, heq, hPQ op hop⟩

lemma Contained.refl (n : AdapterNode) : Contained config n n where
  accepted := rfl
  guard := GuardKept.refl n
  latch h := h
  receipt _ _ := rfl
  drives _ he _ := he
  losses _ he := Or.inl he

lemma Contained.trans (h : Contained config n n') (h' : Contained config n' n'') :
    Contained config n n'' where
  accepted := h'.accepted.trans h.accepted
  guard := h.guard.trans h'.guard
  latch hl := h'.latch (h.latch hl)
  receipt hm hs := by
    have hs' : n'.guard.state.SessionOpen := h'.guard.guard_eq hs ▸ hs
    rw [h'.receipt hm hs, h.receipt hm hs']
  drives e he hd := h.drives e (h'.drives e he hd) hd
  losses state he := by
    rcases h'.losses state he with he | hl
    · exact (h.losses state he).imp_right fun hl hs =>
        ⟨(hl hs).1, fun hm => h'.latch ((hl hs).2 hm)⟩
    · refine Or.inr fun hs => ⟨?_, (hl hs).2⟩
      have hs' : n'.guard.state.SessionOpen := (hl hs).1 ▸ hs
      rw [← h.guard.guard_eq hs']
      exact (hl hs).1

/-- Talking to the daemon about anything but a move. -/
lemma Output.contained (h : Output config (· ≠ .move) n n') : Contained config n n' where
  accepted := h.accepted
  guard := h.guard
  latch hl := (congrArg InterlockInputs.externalOdomFaultLatch h.interlock).trans hl
  receipt _ _ := congrArg InterlockInputs.lastExternalOdomReceiptSec h.interlock
  drives e he hd := by
    rcases h.effects e he with he | ⟨op, velocity, rfl, hop⟩
    · exact he
    · cases op with
      | move => exact absurd rfl hop
      | _ => cases hd
  losses state he := by
    rcases h.effects _ he with he | ⟨op, velocity, heq, -⟩
    · exact Or.inl he
    · cases heq

end Relations

/-! ## The link and the stops -/

namespace AdapterNode

variable (config : AdapterConfig) (geo : Geometry) (link : DaemonLink)

lemma connect_output (P : CommandOp → Prop) (n : AdapterNode) :
    Output config P n (n.connect link).2 := by
  unfold connect
  split
  · exact Output.refl n
  · exact ⟨rfl, rfl, GuardKept.refl n, fun _ he => Or.inl he⟩

lemma exchangeConnected_output (op : CommandOp) (velocity : Velocity ℚ) (n : AdapterNode) :
    Output config (· = op) n (n.exchangeConnected link op velocity).2 := by
  have hemit : ∀ e ∈ n.effects ++ [Effect.packet op velocity],
      e ∈ n.effects ∨ ∃ op' velocity', e = .packet op' velocity' ∧ op' = op := by
    intro e he
    rcases List.mem_append.mp he with he | he
    · exact Or.inl he
    · exact Or.inr ⟨op, velocity, List.mem_singleton.mp he, rfl⟩
  unfold exchangeConnected
  dsimp only
  split
  · exact ⟨rfl, rfl, GuardKept.refl n, fun _ he => Or.inl he⟩
  · exact ⟨rfl, rfl, GuardKept.refl n, hemit⟩
  · exact ⟨rfl, rfl, GuardKept.refl n, hemit⟩
  · exact ⟨rfl, rfl, GuardKept.refl n, hemit⟩

lemma exchange_output (op : CommandOp) (velocity : Velocity ℚ) (n : AdapterNode) :
    Output config (· = op) n (n.exchange link op velocity).2 := by
  have hc := connect_output config link (· = op) n
  unfold exchange
  dsimp only
  split
  · exact hc.trans (exchangeConnected_output config link op velocity _)
  · exact hc

/-- An exchange whose operation is not a move. -/
lemma exchange_contained {op : CommandOp} (hop : op ≠ .move) (velocity : Velocity ℚ)
    (n : AdapterNode) : Output config (· ≠ .move) n (n.exchange link op velocity).2 :=
  (exchange_output config link op velocity n).mono fun _ h => h.symm ▸ hop

lemma disarmExchanges_output (restoreClassicWalk : Bool) (n : AdapterNode) :
    Output config (· ≠ .move) n (n.disarmExchanges link restoreClassicWalk).2 := by
  unfold disarmExchanges
  dsimp only
  have hif : ∀ (b : Bool) (op : CommandOp), op ≠ .move → ∀ m : AdapterNode,
      Output config (· ≠ .move) m (if b = true then m.exchange link op 0 else (true, m)).2 := by
    intro b op hop m
    split
    · exact exchange_contained config link hop 0 m
    · exact Output.refl m
  have hdisarm := exchange_contained config link (show CommandOp.disarm ≠ .move by decide) 0
    (if n.daemonArmed = true then n.exchange link .stop 0 else (true, n)).2
  exact ((hif _ .stop (by decide) n).trans hdisarm).trans
    (hif _ .restoreClassicWalk (by decide) _)

lemma bestEffortDaemonDisarm_output (restoreClassicWalk : Bool) (n : AdapterNode) :
    Output config (· ≠ .move) n (bestEffortDaemonDisarm config link restoreClassicWalk n).2 := by
  have hc := connect_output config link (· ≠ .move) n
  unfold bestEffortDaemonDisarm
  split
  · exact ⟨rfl, rfl, GuardKept.refl n, fun _ he => Or.inl he⟩
  · dsimp only
    split
    · exact ⟨hc.accepted, hc.interlock, hc.guard, hc.effects⟩
    · have hd := hc.trans (disarmExchanges_output config link restoreClassicWalk _)
      exact ⟨hd.accepted, hd.interlock, hd.guard, hd.effects⟩

@[simp] lemma guard_connect (n : AdapterNode) : (n.connect link).2.guard = n.guard := by
  unfold connect
  split <;> rfl

@[simp] lemma guard_exchange (op : CommandOp) (velocity : Velocity ℚ) (n : AdapterNode) :
    (n.exchange link op velocity).2.guard = n.guard := by
  rw [← guard_connect link n]
  unfold exchange exchangeConnected
  dsimp only
  split
  · split <;> rfl
  · rfl

@[simp] lemma guard_disarmExchanges (restoreClassicWalk : Bool) (n : AdapterNode) :
    (n.disarmExchanges link restoreClassicWalk).2.guard = n.guard := by
  have hif : ∀ (b : Bool) (op : CommandOp) (m : AdapterNode),
      (if b = true then m.exchange link op 0 else (true, m)).2.guard = m.guard := by
    intro b op m
    split
    · exact guard_exchange link op 0 m
    · rfl
  exact (hif _ .restoreClassicWalk _).trans ((guard_exchange link .disarm 0 _).trans
    (hif _ .stop n))

/-- The daemon is disarmed without the guard. -/
lemma guard_bestEffortDaemonDisarm (restoreClassicWalk : Bool) (n : AdapterNode) :
    (bestEffortDaemonDisarm config link restoreClassicWalk n).2.guard = n.guard := by
  unfold bestEffortDaemonDisarm
  split
  · rfl
  · dsimp only
    split
    · exact guard_connect link n
    · exact (guard_disarmExchanges link restoreClassicWalk _).trans (guard_connect link n)

lemma forceFault_output (P : CommandOp → Prop) (reason : String) (n : AdapterNode) :
    Output config P n (forceFault config reason n) :=
  ⟨rfl, rfl, Or.inr ⟨reason, rfl⟩, fun _ he => Or.inl he⟩

lemma failClosedCommissioningStop_output (reason : String) (n : AdapterNode) :
    Output config (· ≠ .move) n (n.failClosedCommissioningStop config link reason) := by
  have hf : Output config (· ≠ .move) n
      (forceFault config reason { n with commissioningMotionActive := false }) :=
    ⟨rfl, rfl, Or.inr ⟨reason, rfl⟩, fun _ he => Or.inl he⟩
  exact hf.trans (bestEffortDaemonDisarm_output config link false _)

/-- A fail-closed stop leaves no session open. -/
lemma not_sessionOpen_failClosedCommissioningStop (reason : String) (n : AdapterNode) :
    ¬ (n.failClosedCommissioningStop config link reason).guard.state.SessionOpen := by
  intro hs
  have hg := (bestEffortDaemonDisarm_output config link false
    (forceFault config reason { n with commissioningMotionActive := false })).guard.guard_eq hs
  rw [failClosedCommissioningStop, hg] at hs
  exact not_sessionOpen_forceFault _ _ _ hs

lemma failClosedIfOpen_output (reason : String) (n : AdapterNode) :
    Output config (· ≠ .move) n (n.failClosedIfOpen config link reason) := by
  unfold failClosedIfOpen
  split
  · exact failClosedCommissioningStop_output config link reason n
  · exact Output.refl n

/-! ## The external odometry -/

lemma rejectExternalOdometry_contained (reason : String) (latchProcess : Bool)
    (n : AdapterNode) : Contained config n (n.rejectExternalOdometry config link reason
      latchProcess) := by
  have hreject : Contained config n { n with
      lastExternalOdomValid := false
      externalOdomFaultLatch := n.externalOdomFaultLatch || latchProcess } := {
    accepted := rfl
    guard := GuardKept.refl n
    latch := fun h => by simp [h]
    receipt := fun _ _ => rfl
    drives := fun _ he _ => he
    losses := fun _ he => Or.inl he }
  exact hreject.trans (failClosedIfOpen_output config link _ _).contained

/-- A rejection that latches leaves the latch set. -/
lemma latch_rejectExternalOdometry (reason : String) (n : AdapterNode) :
    (n.rejectExternalOdometry config link reason true).externalOdomFaultLatch = true := by
  refine (failClosedIfOpen_output config link _ _).contained.latch ?_
  simp

lemma sessionOpen_commissioning {n : AdapterNode} (h : n.guard.state.SessionOpen) :
    n.commissioningSessionOpen = true := by
  rcases h with h | h <;> simp [commissioningSessionOpen, h]

/-- **A liveness loss in an open motion session latches.** -/
lemma latch_handleExternalOdometryLivenessLoss (reason : String) {n : AdapterNode}
    (hm : config.allowMotion = true) (hs : n.guard.state.SessionOpen) :
    (n.handleExternalOdometryLivenessLoss config link reason).externalOdomFaultLatch = true := by
  have hopen : (n.emit (.livenessLoss n.guard.state)).commissioningSessionOpen = true :=
    sessionOpen_commissioning hs
  unfold handleExternalOdometryLivenessLoss
  simp only [hm, hopen, Bool.and_self, if_true]
  exact latch_rejectExternalOdometry config link _ _

lemma handleExternalOdometryLivenessLoss_contained (reason : String) (n : AdapterNode) :
    Contained config n (n.handleExternalOdometryLivenessLoss config link reason) := by
  have hemit : ∀ n', Contained config (n.emit (.livenessLoss n.guard.state)) n' →
      (config.allowMotion = true → n.guard.state.SessionOpen →
        n'.externalOdomFaultLatch = true) → Contained config n n' := by
    intro n' h hlatch
    refine ⟨h.accepted, h.guard, h.latch, h.receipt, fun e he hd => ?_, fun state he => ?_⟩
    · rcases List.mem_append.mp (h.drives e he hd) with he | he
      · exact he
      · rw [List.mem_singleton.mp he] at hd
        cases hd
    · rcases h.losses state he with he | hl
      · rcases List.mem_append.mp he with he | he
        · exact Or.inl he
        · obtain rfl : state = n.guard.state := by simpa using he
          exact Or.inr fun hs => ⟨rfl, fun hm => hlatch hm hs⟩
      · exact Or.inr hl
  refine hemit _ ?_ (latch_handleExternalOdometryLivenessLoss config link reason)
  unfold handleExternalOdometryLivenessLoss
  dsimp only
  split
  · exact rejectExternalOdometry_contained config link _ _ _
  · rename_i hclosed
    have hr := rejectExternalOdometry_contained config link
      (reason ++ "; waiting for fresh state and external odometry") false
      (n.emit (.livenessLoss n.guard.state))
    refine ⟨hr.accepted, hr.guard, hr.latch, fun hm hs => ?_, hr.drives, hr.losses⟩
    -- the receipt is cleared only where no session is open
    have hs' : n.guard.state.SessionOpen := hr.guard.guard_eq hs ▸ hs
    have hopen : (n.emit (.livenessLoss n.guard.state)).commissioningSessionOpen = true :=
      sessionOpen_commissioning hs'
    exact absurd (by rw [hm, hopen]; rfl) hclosed

lemma checkExternalOdometryInterlock_contained (nowSec : ℚ) (n : AdapterNode) :
    Contained config n (n.checkExternalOdometryInterlock config link nowSec) := by
  unfold checkExternalOdometryInterlock
  split
  · exact Contained.refl n
  · split
    · exact rejectExternalOdometry_contained config link _ _ n
    · split
      · exact handleExternalOdometryLivenessLoss_contained config link _ n
      · split
        · exact handleExternalOdometryLivenessLoss_contained config link _ n
        · exact Contained.refl n

/-- In an open motion session the interlock either latches, or finds everything fresh. -/
lemma checkExternalOdometryInterlock_cases (nowSec : ℚ) {n : AdapterNode}
    (he : config.external = true) (hm : config.allowMotion = true)
    (hs : n.guard.state.SessionOpen) (hr : 0 < n.lastExternalOdomReceiptSec) :
    (n.checkExternalOdometryInterlock config link nowSec).externalOdomFaultLatch = true ∨
      n.canonicalOutputEligible config nowSec = true := by
  unfold checkExternalOdometryInterlock
  split
  · rename_i h
    rcases h with h | h | h
    · simp [he] at h
    · exact Or.inl h
    · exact absurd hr (not_lt.mpr h)
  · rename_i h
    have hl : n.externalOdomFaultLatch = false := by
      cases hl : n.externalOdomFaultLatch with
      | true => exact absurd (Or.inr (Or.inl hl)) h
      | false => rfl
    split
    · exact Or.inl (latch_rejectExternalOdometry config link _ n)
    · split
      · exact Or.inl (latch_handleExternalOdometryLivenessLoss config link _ hm hs)
      · split
        · exact Or.inl (latch_handleExternalOdometryLivenessLoss config link _ hm hs)
        · rename_i hstate hodom
          refine Or.inr ?_
          simp_all [canonicalOutputEligible]

/-- A message is published only when the interlock permits it. -/
lemma publishCanonicalOdometry_cases (stamp : Stamp) (nowSec : ℚ) (n : AdapterNode) :
    Contained config n (n.publishCanonicalOdometry config link stamp nowSec) ∨
      n.publishCanonicalOdometry config link stamp nowSec = n.emit (.odometry stamp) ∧
        n.externalOdometryFresh config nowSec = true := by
  unfold publishCanonicalOdometry
  split
  · exact Or.inl (rejectExternalOdometry_contained config link _ _ n)
  · split
    · exact Or.inl (handleExternalOdometryLivenessLoss_contained config link _ n)
    · rename_i h
      refine Or.inr ⟨rfl, ?_⟩
      cases hext : config.external with
      | false => simp [externalOdometryFresh, hext]
      | true => simpa [hext] using h

/-! ## The commissioning envelope -/

lemma commissioningEnvelopeExceeded_output (P : CommandOp → Prop) (nowSec : ℚ)
    (n : AdapterNode) : Output config P n (n.commissioningEnvelopeExceeded config nowSec).2 := by
  unfold commissioningEnvelopeExceeded
  split
  · exact Output.refl n
  · split
    · exact Output.refl n
    · dsimp only
      split
      · exact ⟨rfl, rfl, GuardKept.refl n, fun _ he => Or.inl he⟩
      · split <;> exact ⟨rfl, rfl, GuardKept.refl n, fun _ he => Or.inl he⟩

lemma stopIfExceeded_output (nowSec : ℚ) (n : AdapterNode) :
    Output config (· ≠ .move) n (n.stopIfExceeded config link nowSec) := by
  have hc := commissioningEnvelopeExceeded_output config (· ≠ .move) nowSec n
  unfold stopIfExceeded
  dsimp only
  split
  · exact hc.trans (failClosedCommissioningStop_output config link _ _)
  · exact hc

lemma updateCommissioningDistance_output (x y nowSec : ℚ) (n : AdapterNode) :
    Output config (· ≠ .move) n (n.updateCommissioningDistance config geo link x y nowSec) := by
  unfold updateCommissioningDistance
  split
  · exact Output.refl n
  · refine Output.trans ?_ (stopIfExceeded_output config link nowSec _)
    exact ⟨rfl, rfl, GuardKept.refl n, fun _ he => Or.inl he⟩

lemma beginCommissioningMotion_output (nowSec : ℚ) (n : AdapterNode) :
    Output config (· ≠ .move) n (n.beginCommissioningMotion config link nowSec) := by
  unfold beginCommissioningMotion
  split
  · exact Output.refl n
  · split
    · exact failClosedCommissioningStop_output config link _ n
    · exact ⟨rfl, rfl, GuardKept.refl n, fun _ he => Or.inl he⟩

/-! ## Publication -/

end AdapterNode

/-- A message with a stamp is withheld, or published at a time at which the interlock
permits it. -/
inductive Published (config : AdapterConfig) (stamp : Stamp) (nowSec : ℚ) (n n' : AdapterNode) :
    Prop where
  | withheld (h : Contained config n n')
  | published (m : AdapterNode) (hm : Contained config n m)
      (hfresh : m.externalOdometryFresh config nowSec = true)
      (hinterlock : n'.interlockInputs = m.interlockInputs)
      (h : Contained config (m.emit (.odometry stamp)) n')

namespace AdapterNode

variable (config : AdapterConfig) (geo : Geometry) (link : DaemonLink)

lemma publishCanonicalOdometry_published (stamp : Stamp) (nowSec : ℚ) {n m : AdapterNode}
    (h : Output config (· ≠ .move) n m) :
    Published config stamp nowSec n (m.publishCanonicalOdometry config link stamp nowSec) := by
  rcases publishCanonicalOdometry_cases config link stamp nowSec m with hc | ⟨heq, hfresh⟩
  · exact .withheld (h.contained.trans hc)
  · exact .published m h.contained hfresh (by rw [heq]; rfl) (by rw [heq]; exact Contained.refl _)

lemma emit_imu_contained (stamp : Stamp) (n : AdapterNode) :
    Contained config n (n.emit (.imu stamp)) where
  accepted := rfl
  guard := GuardKept.refl n
  latch h := h
  receipt _ _ := rfl
  drives e he hd := by
    rcases List.mem_append.mp he with he | he
    · exact he
    · rw [List.mem_singleton.mp he] at hd
      cases hd
  losses state he := by
    rcases List.mem_append.mp he with he | he
    · exact Or.inl he
    · cases List.mem_singleton.mp he

/-! ## Robot states -/

lemma rejectSportModeState_contained (reason : String) (n : AdapterNode) :
    Contained config n (n.rejectSportModeState config link reason) := by
  have hinvalid : Contained config n { n with lastStateValid := false } := {
    accepted := rfl
    guard := GuardKept.refl n
    latch := fun h => h
    receipt := fun _ _ => rfl
    drives := fun _ he _ => he
    losses := fun _ he => Or.inl he }
  unfold rejectSportModeState
  refine Contained.trans ?_ (failClosedIfOpen_output config link reason _).contained
  split
  · exact hinvalid.trans (rejectExternalOdometry_contained config link reason true _)
  · exact hinvalid

lemma ignoreSportModeState_contained (receiptSec : ℚ) (n : AdapterNode) :
    Contained config n (n.ignoreSportModeState config link receiptSec) := by
  unfold ignoreSportModeState
  split
  · exact handleExternalOdometryLivenessLoss_contained config link _ n
  · exact Contained.refl n

lemma quarantineSportModeState_contained (n : AdapterNode) :
    Contained config n (n.quarantineSportModeState config link) := by
  unfold quarantineSportModeState
  refine Contained.trans ?_ (failClosedIfOpen_output config link _ _).contained
  split
  · exact Contained.refl n
  · split
    · exact handleExternalOdometryLivenessLoss_contained config link _ n
    · exact rejectExternalOdometry_contained config link _ true n

/-- The node after the tracker accepted a state and the guard and the policy saw it. -/
def acceptedState (isPrimary : Bool) (tracker : SourceStampTracker) (message : SportModeState)
    (receiptSec : ℚ) (valid : Bool) (n : AdapterNode) : AdapterNode :=
  ((n.setStampTracker isPrimary tracker).recordSportModeState config isPrimary message
    receiptSec).updateState config valid message receiptSec

/-- What a robot state does: it is refused, or accepted and then perhaps published. -/
inductive SportStep (isPrimary : Bool) (message : SportModeState) (sourceNs : ℕ)
    (receiptSec publishSec : ℚ) (n : AdapterNode) : AdapterNode → Prop where
  | refused {n' : AdapterNode} (h : Contained config n n') :
      SportStep isPrimary message sourceNs receiptSec publishSec n n'
  | accepted {n' : AdapterNode} {tracker : SourceStampTracker} {valid : Bool}
      (htracker : (n.stampTracker isPrimary).accept sourceNs config.allowMotion = (true, tracker))
      (h : Contained config (n.acceptedState config isPrimary tracker message receiptSec valid)
        n') : SportStep isPrimary message sourceNs receiptSec publishSec n n'
  | published {n' : AdapterNode} {tracker : SourceStampTracker} {valid : Bool}
      (htracker : (n.stampTracker isPrimary).accept sourceNs config.allowMotion = (true, tracker))
      (hsource : config.external = false) (hvalid : message.stamp.encodingValid = true)
      (h : Published config message.stamp publishSec
        (n.acceptedState config isPrimary tracker message receiptSec valid) n') :
      SportStep isPrimary message sourceNs receiptSec publishSec n n'

lemma recordPosition_output (P : CommandOp → Prop) (position : Vector3) (receiptSec : ℚ)
    (n : AdapterNode) : Output config P n (n.recordPosition position receiptSec) :=
  ⟨rfl, rfl, GuardKept.refl n, fun _ he => Or.inl he⟩

lemma publishSportModeState_cases (message : SportModeState) (receiptSec publishSec : ℚ)
    (n : AdapterNode) :
    let n' := n.publishSportModeState config geo link message receiptSec publishSec
    Contained config n n' ∨
      config.external = false ∧ Published config message.stamp publishSec n n' := by
  unfold publishSportModeState
  dsimp only
  split
  · exact Or.inl (emit_imu_contained config message.stamp n)
  · rename_i hsource
    rw [Bool.not_eq_true] at hsource
    refine Or.inr ⟨hsource, ?_⟩
    have hp := publishCanonicalOdometry_published config link message.stamp publishSec
      ((recordPosition_output config (· ≠ .move) message.position receiptSec n).trans
        (updateCommissioningDistance_output config geo link
          (n.recordPosition message.position receiptSec).previousX
          (n.recordPosition message.position receiptSec).previousY receiptSec _))
    cases hp with
    | withheld h => exact .withheld (h.trans (emit_imu_contained config message.stamp _))
    | published m hm hfresh hinterlock h =>
      exact .published m hm hfresh hinterlock
        (h.trans (emit_imu_contained config message.stamp _))

lemma accept_eq_of_fst {r : Bool × SourceStampTracker} (h : r.1 = true) : r = (true, r.2) :=
  Prod.ext h rfl

lemma encodingValid_of_fresh {stamp : Stamp} {referenceNs : ℤ}
    (h : stampFreshness config stamp referenceNs = .fresh) : stamp.encodingValid = true := by
  unfold stampFreshness at h
  split at h
  · assumption
  · cases h

lemma progressSportModeState_step (isPrimary : Bool) {message : SportModeState}
    (hvalid : message.stamp.encodingValid = true) (sourceNs : ℕ) (receiptSec publishSec : ℚ)
    (n : AdapterNode) :
    SportStep config isPrimary message sourceNs receiptSec publishSec n
      (n.progressSportModeState config geo link isPrimary message sourceNs receiptSec
        publishSec) := by
  unfold progressSportModeState
  dsimp only
  split
  · rename_i haccept
    have htracker := accept_eq_of_fst haccept
    unfold acceptSportModeState
    dsimp only
    split
    · rcases publishSportModeState_cases config geo link message receiptSec publishSec _ with
        h | ⟨hsource, h⟩
      · exact .accepted htracker h
      · exact .published htracker hsource hvalid h
    · exact .accepted htracker (quarantineSportModeState_contained config link _)
  · split
    · exact .refused (ignoreSportModeState_contained config link receiptSec n)
    · exact .refused (rejectSportModeState_contained config link _ n)

theorem onSportModeState_step (isPrimary : Bool) (message : SportModeState) (receiptSec : ℚ)
    (referenceNs : ℤ) (publishSec : ℚ) (n : AdapterNode) :
    SportStep config isPrimary message message.stamp.sourceNs receiptSec publishSec n
      (n.onSportModeState config geo link isPrimary message receiptSec referenceNs
        publishSec) := by
  unfold onSportModeState
  split
  · exact .refused (Contained.refl n)
  cases hstamp : stampFreshness config message.stamp referenceNs with
  | fresh =>
    exact progressSportModeState_step config geo link isPrimary
      (encodingValid_of_fresh config hstamp) _ receiptSec _ n
  | tooOld =>
    dsimp only
    split
    · exact .refused (ignoreSportModeState_contained config link receiptSec n)
    · exact .refused (rejectSportModeState_contained config link _ n)
  | malformed => exact .refused (rejectSportModeState_contained config link _ n)
  | zero => exact .refused (rejectSportModeState_contained config link _ n)
  | referenceClockInvalid => exact .refused (rejectSportModeState_contained config link _ n)
  | tooFarInFuture => exact .refused (rejectSportModeState_contained config link _ n)

/-! ## External odometry -/

lemma ignoreExternalOdometry_contained (receiptSec : ℚ) (n : AdapterNode) :
    Contained config n (n.ignoreExternalOdometry config link receiptSec) := by
  unfold ignoreExternalOdometry
  split
  · exact Contained.refl n
  · exact handleExternalOdometryLivenessLoss_contained config link _ n

/-- What a message of the external odometry does: it is refused, or accepted and then perhaps
published. -/
inductive ExternalStep (message : Odometry) (sourceNs : ℕ) (receiptSec publishSec : ℚ)
    (n : AdapterNode) : AdapterNode → Prop where
  | refused {n' : AdapterNode} (h : Contained config n n') :
      ExternalStep message sourceNs receiptSec publishSec n n'
  | accepted {n' : AdapterNode} {tracker : SourceStampTracker}
      (hsource : config.external = true) (hvalid : message.stamp.encodingValid = true)
      (hclock : n.receiptClockRegressed receiptSec = false)
      (htracker : n.externalOdomStampTracker.accept sourceNs true = (true, tracker))
      (h : Published config message.stamp publishSec
        (({ n with externalOdomStampTracker := tracker } : AdapterNode).recordExternalOdometry geo
          message receiptSec) n') :
      ExternalStep message sourceNs receiptSec publishSec n n'

lemma progressExternalOdometry_step {message : Odometry} (sourceNs : ℕ)
    (receiptSec publishSec : ℚ) {n : AdapterNode} (hsource : config.external = true)
    (hvalid : message.stamp.encodingValid = true)
    (hclock : n.receiptClockRegressed receiptSec = false) :
    ExternalStep config geo message sourceNs receiptSec publishSec n
      (n.progressExternalOdometry config geo link message sourceNs receiptSec publishSec) := by
  unfold progressExternalOdometry
  dsimp only
  split
  · rename_i haccept
    exact .accepted hsource hvalid hclock (accept_eq_of_fst haccept)
      (publishCanonicalOdometry_published config link message.stamp publishSec
        (updateCommissioningDistance_output config geo link _ _ receiptSec _))
  · split
    · exact .refused (ignoreExternalOdometry_contained config link receiptSec n)
    · exact .refused (rejectExternalOdometry_contained config link _ true n)

theorem onExternalOdometry_step (message : Odometry) (receiptSec : ℚ) (referenceNs : ℤ)
    (publishSec : ℚ) (n : AdapterNode) :
    ExternalStep config geo message message.stamp.sourceNs receiptSec publishSec n
      (n.onExternalOdometry config geo link message receiptSec referenceNs publishSec) := by
  have hreject : ∀ reason latchProcess,
      ExternalStep config geo message message.stamp.sourceNs receiptSec publishSec n
        (n.rejectExternalOdometry config link reason latchProcess) :=
    fun reason latchProcess =>
      .refused (rejectExternalOdometry_contained config link reason latchProcess n)
  have hloss : ∀ reason,
      ExternalStep config geo message message.stamp.sourceNs receiptSec publishSec n
        (n.handleExternalOdometryLivenessLoss config link reason) :=
    fun reason => .refused (handleExternalOdometryLivenessLoss_contained config link reason n)
  unfold onExternalOdometry
  split
  · exact .refused (Contained.refl n)
  rename_i hclosed
  have hsource : config.external = true := by
    cases h : config.external with
    | true => rfl
    | false => exact absurd (Or.inl (by rw [h]; rfl)) hclosed
  split
  · exact hreject _ true
  rename_i hclock
  rw [Bool.not_eq_true] at hclock
  split
  · exact hreject _ true
  cases hstamp : stampFreshness config message.stamp referenceNs with
  | fresh =>
    dsimp only
    split
    · exact hreject _ true
    split
    · exact hreject _ true
    unfold continueExternalOdometry
    split
    · split
      · exact hloss _
      · exact hreject _ false
    split
    · exact hloss _
    · exact progressExternalOdometry_step config geo link _ receiptSec publishSec hsource
        (encodingValid_of_fresh config hstamp) hclock
  | tooOld => exact .refused (ignoreExternalOdometry_contained config link receiptSec n)
  | malformed => exact hreject _ true
  | zero => exact hreject _ true
  | referenceClockInvalid => exact hreject _ true
  | tooFarInFuture => exact hreject _ true

/-! ## The guard -/

end AdapterNode

/-- At most the guard has changed, by itself. -/
structure Consulted (n n' : AdapterNode) : Prop where
  accepted : n'.acceptedInputs = n.acceptedInputs
  interlock : n'.interlockInputs = n.interlockInputs
  effects : ∀ e ∈ n'.effects, e ∈ n.effects ∨ ∃ success message, e = .response success message

lemma Consulted.drives {n n' : AdapterNode} (h : Consulted n n') :
    ∀ e ∈ n'.effects, e.drives = true → e ∈ n.effects := by
  intro e he hd
  rcases h.effects e he with he | ⟨success, message, rfl⟩
  · exact he
  · cases hd

lemma Consulted.losses {n n' : AdapterNode} (h : Consulted n n') {state : GuardState}
    (he : .livenessLoss state ∈ n'.effects) : .livenessLoss state ∈ n.effects := by
  rcases h.effects _ he with he | ⟨success, message, heq⟩
  · exact he
  · cases heq

namespace AdapterNode

variable (config : AdapterConfig) (geo : Geometry) (link : DaemonLink)

lemma respond_consulted (success : Bool) (message : String) {n n' : AdapterNode}
    (haccepted : n'.acceptedInputs = n.acceptedInputs)
    (hinterlock : n'.interlockInputs = n.interlockInputs) (heffects : n'.effects = n.effects) :
    Consulted n (n'.respond success message) where
  accepted := haccepted
  interlock := hinterlock
  effects e he := by
    rcases List.mem_append.mp he with he | he
    · exact Or.inl (heffects ▸ he)
    · exact Or.inr ⟨success, message, List.mem_singleton.mp he⟩

lemma respond_contained (success : Bool) (message : String) (n : AdapterNode) :
    Contained config n (n.respond success message) := by
  have h : Consulted n (n.respond success message) := respond_consulted _ _ rfl rfl rfl
  exact ⟨h.accepted, GuardKept.refl n, fun hl => hl, fun _ _ => rfl, h.drives,
    fun _ he => Or.inl (h.losses he)⟩

/-- An arm request leaves the guard alone, or reaches it while the odometry is fresh. -/
theorem onArm_cases (checkSec requestSec : ℚ) (n : AdapterNode) :
    Consulted n (n.onArm config checkSec requestSec) ∧
      ((n.onArm config checkSec requestSec).guard = n.guard ∨
        (n.onArm config checkSec requestSec).guard =
            (n.guard.requestArm config.guard requestSec).2 ∧
          n.externalOdometryFresh config checkSec = true) := by
  unfold onArm
  split
  · exact ⟨respond_consulted _ _ rfl rfl rfl, Or.inl rfl⟩
  split
  · exact ⟨respond_consulted _ _ rfl rfl rfl, Or.inl rfl⟩
  split
  · exact ⟨respond_consulted _ _ rfl rfl rfl, Or.inl rfl⟩
  rename_i hfresh
  rw [Bool.not_eq_true', Bool.not_eq_false] at hfresh
  dsimp only
  split
  · exact ⟨respond_consulted _ _ rfl rfl rfl, Or.inr ⟨rfl, hfresh⟩⟩
  · exact ⟨respond_consulted _ _ rfl rfl rfl, Or.inr ⟨rfl, hfresh⟩⟩

lemma onVelocityCommand_cases (command : Velocity ExtRat) (nowSec : ℚ) (n : AdapterNode) :
    Contained config n (n.onVelocityCommand config link command nowSec) ∨
      n.onVelocityCommand config link command nowSec =
        { n with guard := n.guard.updateCommand config.guard nowSec command } := by
  unfold onVelocityCommand
  split
  · exact Or.inl (failClosedCommissioningStop_output config link _ n).contained
  · exact Or.inr rfl

/-! ### Disarm requests -/

/-- What a disarm request does to the guard and the policy. -/
inductive DisarmStep (requestSec : ℚ) (n : AdapterNode) : AdapterNode → Prop where
  /-- A latched marker change may not be acknowledged. -/
  | declined (hlatched : n.policy.changeLatched = true) : DisarmStep requestSec n n
  /-- No marker change is latched. -/
  | disarmed (hclear : n.policy.changeLatched = false) :
      DisarmStep requestSec n
        { n with guard := (n.guard.requestDisarm config.guard requestSec).2 }
  /-- The guard keeps its fault, and the marker change stays latched. -/
  | kept (hlatched : n.policy.changeLatched = true)
      (hvalid : n.lastStateMeasurementsValid = true)
      (hallowed : n.policy.canAcknowledgeCurrent.1 = true)
      (hstate : ((n.guard.updateRobotState n.lastStateReceiptSec n.lastMode
        n.lastStateMeasurementsValid).requestDisarm config.guard requestSec).2.state ≠ .disarmed ∨
        ((n.guard.updateRobotState n.lastStateReceiptSec n.lastMode
          n.lastStateMeasurementsValid).requestDisarm config.guard requestSec).1.1 = false) :
      DisarmStep requestSec n
        { n with
          guard := ((n.guard.updateRobotState n.lastStateReceiptSec n.lastMode
            n.lastStateMeasurementsValid).requestDisarm config.guard requestSec).2 }
  /-- Both are cleared. -/
  | cleared (hlatched : n.policy.changeLatched = true)
      (hvalid : n.lastStateMeasurementsValid = true)
      (hallowed : n.policy.canAcknowledgeCurrent.1 = true)
      (hstate : ((n.guard.updateRobotState n.lastStateReceiptSec n.lastMode
        n.lastStateMeasurementsValid).requestDisarm config.guard requestSec).2.state = .disarmed) :
      DisarmStep requestSec n
        { n with
          guard := ((n.guard.updateRobotState n.lastStateReceiptSec n.lastMode
            n.lastStateMeasurementsValid).requestDisarm config.guard requestSec).2
          policy := n.policy.acknowledgeCurrent.2 }

lemma markerCanBeAcknowledged_eq_true {n : AdapterNode}
    (h : n.markerCanBeAcknowledged.1 = true) :
    n.lastStateMeasurementsValid = true ∧ n.policy.canAcknowledgeCurrent.1 = true := by
  unfold markerCanBeAcknowledged at h
  split at h
  · cases h
  · rename_i hvalid
    rw [Bool.not_eq_true', Bool.not_eq_false] at hvalid
    exact ⟨hvalid, h⟩

lemma acknowledgeCurrent_of_can {p : OpaqueFirmwareStateMarkerPolicy}
    (h : p.canAcknowledgeCurrent.1 = true) : p.acknowledgeCurrent.1.1 = true := by
  rcases acknowledgeCurrent_cases p with ⟨hno, -⟩ | ⟨hyes, -⟩
  · rw [OpaqueFirmwareStateMarkerPolicy.acknowledgeCurrent, if_neg (by simp [h])] at hno
    cases hno
  · exact hyes

theorem disarmGuard_step (requestSec : ℚ) (n : AdapterNode) :
    DisarmStep config requestSec n (n.disarmGuard config requestSec).2 := by
  unfold disarmGuard
  split
  · rename_i hclear
    rw [Bool.not_eq_true'] at hclear
    exact .disarmed hclear
  rename_i hlatched
  rw [Bool.not_eq_true', Bool.not_eq_false] at hlatched
  split
  · exact .declined hlatched
  rename_i hcan
  rw [Bool.not_eq_true', Bool.not_eq_false] at hcan
  obtain ⟨hvalid, hallowed⟩ := markerCanBeAcknowledged_eq_true hcan
  dsimp only
  split
  · rename_i hdisarmed
    rw [Bool.and_eq_true, decide_eq_true_eq] at hdisarmed
    have hack := acknowledgeCurrent_of_can hallowed
    unfold acknowledgeMarker
    dsimp only
    rw [if_pos hack]
    exact .cleared hlatched hvalid hallowed hdisarmed.2
  · rename_i hdisarmed
    rw [Bool.and_eq_true, decide_eq_true_eq, not_and_or, Bool.not_eq_true] at hdisarmed
    exact .kept hlatched hvalid hallowed hdisarmed.symm

/-- After the requests a disarm stops the daemon and answers. -/
theorem onDisarm_step (requestSec : ℚ) (n : AdapterNode) :
    ∃ m, DisarmStep config requestSec n m ∧
      Contained config m (n.onDisarm config link requestSec) ∧
      (n.onDisarm config link requestSec).guard = m.guard := by
  refine ⟨_, disarmGuard_step config requestSec n, ?_, ?_⟩
  · unfold onDisarm
    dsimp only
    have hstopped : Output config (· ≠ .move) (n.disarmGuard config requestSec).2
        { (n.disarmGuard config requestSec).2 with commissioningMotionActive := false } :=
      ⟨rfl, rfl, GuardKept.refl _, fun _ he => Or.inl he⟩
    exact (hstopped.trans (bestEffortDaemonDisarm_output config link _ _)).contained.trans
      (respond_contained config _ _ _)
  · unfold onDisarm
    dsimp only
    exact guard_bestEffortDaemonDisarm config link _ _

/-! ### The control timer -/

lemma armDaemon_output (n : AdapterNode) :
    Output config (· ≠ .move) n (n.armDaemon config link) := by
  have hc := connect_output config link (· ≠ .move) n
  unfold armDaemon
  dsimp only
  split
  · exact hc.trans (failClosedCommissioningStop_output config link _ _)
  · have he := hc.trans (exchange_contained config link (show CommandOp.arm ≠ .move by decide) 0
      (n.connect link).2)
    split
    · exact ⟨he.accepted, he.interlock, he.guard, he.effects⟩
    · exact he.trans (failClosedCommissioningStop_output config link _ _)

lemma sendCommand_output {P : CommandOp → Prop} (hP : ∀ op, op ≠ .move → P op) {op : CommandOp}
    (hop : P op) (velocity : Velocity ℚ) (n : AdapterNode) :
    Output config P n (n.sendCommand config link op velocity) := by
  have he : Output config P n (n.exchange link op velocity).2 :=
    (exchange_output config link op velocity n).mono fun _ h => h ▸ hop
  unfold sendCommand
  dsimp only
  split
  · exact he
  · exact he.trans ((failClosedCommissioningStop_output config link _ _).mono hP)

lemma sendMove_output (velocity : Velocity ℚ) (nowSec : ℚ) (n : AdapterNode) :
    Output config (fun _ => True) n (n.sendMove config link velocity nowSec) := by
  have hstop : ∀ reason m, Output config (fun _ => True) m
      (failClosedCommissioningStop config link reason m) := fun reason m =>
    (failClosedCommissioningStop_output config link reason m).mono fun _ _ => trivial
  have hb : Output config (fun _ => True) n (n.beginCommissioningMotion config link nowSec) :=
    (beginCommissioningMotion_output config link nowSec n).mono fun _ _ => trivial
  unfold sendMove
  split
  · exact hstop _ n
  dsimp only
  split
  · exact hb
  have he := hb.trans (commissioningEnvelopeExceeded_output config (fun _ => True) nowSec
    (n.beginCommissioningMotion config link nowSec))
  split
  · exact he.trans (hstop _ _)
  · refine he.trans (Output.trans ?_ (sendCommand_output config link (fun _ _ => trivial) trivial
      velocity _))
    exact ⟨rfl, rfl, GuardKept.refl _, fun _ he => Or.inl he⟩

/-- Only the decision of an armed guard leads to a move. -/
lemma followDecision_output (decision : GuardDecision) (nowSec : ℚ) (n : AdapterNode) :
    Output config (fun op => op = .move → decision.state = .armed) n
      (n.followDecision config link decision nowSec) := by
  have hmono : ∀ {m m'}, Output config (· ≠ .move) m m' →
      Output config (fun op => op = .move → decision.state = .armed) m m' :=
    fun h => h.mono fun _ hop hmove => absurd hmove hop
  unfold followDecision
  split
  · refine hmono (Output.trans ?_ (bestEffortDaemonDisarm_output config link false _))
    exact ⟨rfl, rfl, GuardKept.refl n, fun _ he => Or.inl he⟩
  split
  · exact Output.refl n
  rename_i harmed
  rw [not_not] at harmed
  split
  · exact hmono (armDaemon_output config link n)
  split
  · exact (sendMove_output config link decision.velocity nowSec n).mono fun _ _ _ => harmed
  split
  · refine hmono (Output.trans ?_ (sendCommand_output config link (fun _ h => h)
      (show CommandOp.stop ≠ .move by decide) 0 _))
    exact ⟨rfl, rfl, GuardKept.refl n, fun _ he => Or.inl he⟩
  · exact hmono (sendCommand_output config link (fun _ h => h)
      (show CommandOp.ping ≠ .move by decide) 0 n)

lemma externalOdometryFresh_congr {n n' : AdapterNode}
    (h : n'.interlockInputs = n.interlockInputs) (nowSec : ℚ) :
    n'.externalOdometryFresh config nowSec = n.externalOdometryFresh config nowSec := by
  have hl := congrArg InterlockInputs.externalOdomFaultLatch h
  have hv := congrArg InterlockInputs.lastStateValid h
  have hs := congrArg InterlockInputs.lastStateReceiptSec h
  have ho := congrArg InterlockInputs.lastExternalOdomValid h
  have hr := congrArg InterlockInputs.lastExternalOdomReceiptSec h
  dsimp only [interlockInputs] at hl hv hs ho hr
  simp only [externalOdometryFresh, canonicalOutputEligible, freshValidSportModeState,
    freshValidExternalOdometry, hl, hv, hs, ho, hr]

/-- **After the interlock the control timer contains the node, or ticks the guard, and then in
an open session everything is fresh.** -/
theorem onControlTimer_cases (nowSec : ℚ) (n : AdapterNode) :
    let checked := n.checkExternalOdometryInterlock config link nowSec
    Contained config checked (n.onControlTimer config link nowSec) ∨
      ∃ m, Contained config checked m ∧
        (m.guard.state.SessionOpen → m.externalOdometryFresh config nowSec = true) ∧
        Output config (fun op => op = .move →
            (m.guard.tick config.guard nowSec config.controlPeriodSec).1.state = .armed)
          { m with guard := (m.guard.tick config.guard nowSec config.controlPeriodSec).2 }
          (n.onControlTimer config link nowSec) := by
  unfold onControlTimer
  generalize n.checkExternalOdometryInterlock config link nowSec = checked
  dsimp only
  split
  · exact Or.inl (Contained.refl checked)
  split
  · exact Or.inl (failClosedCommissioningStop_output config link _ checked).contained
  rename_i hstale
  have he := commissioningEnvelopeExceeded_output config (· ≠ .move) nowSec checked
  split
  · exact Or.inl (he.trans (failClosedCommissioningStop_output config link _ _)).contained
  · refine Or.inr ⟨_, he.contained, fun hs => ?_, followDecision_output config link _ nowSec _⟩
    have hopen := sessionOpen_commissioning (he.guard.guard_eq hs ▸ hs)
    rw [externalOdometryFresh_congr config he.interlock]
    simpa [hopen] using hstale

end AdapterNode

end UnitreeGo2.Chassis
