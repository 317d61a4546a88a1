import UnitreeGo2.StagedNav2.Guard

/-!
# The transitions of the staged navigation guard

What one call on the guard can do to its phase, its goal and its arming.
-/

namespace UnitreeGo2.StagedNav2

open StagedNav2Guard

/-! ## The fields that a call on its way changes -/

/-- The attributes that decide about phases. -/
structure Control where
  phase : Phase
  sessionSpent : Bool
  goalId : String
  faultReason : String
  lockedMapLifecycle : Option (String × Int)
  acceptedGoalClaim : Option AcceptedGoalClaim
  goalClaimSeen : Bool
  unverifiedGoalId : String
  armRequestedAt : Option ℚ
  armServiceAccepted : Bool

def StagedNav2Guard.control (g : StagedNav2Guard) : Control where
  phase := g.phase
  sessionSpent := g.sessionSpent
  goalId := g.goalId
  faultReason := g.faultReason
  lockedMapLifecycle := g.lockedMapLifecycle
  acceptedGoalClaim := g.acceptedGoalClaim
  goalClaimSeen := g.goalClaimSeen
  unverifiedGoalId := g.unverifiedGoalId
  armRequestedAt := g.armRequestedAt
  armServiceAccepted := g.armServiceAccepted

@[simp] lemma setWitness_control (g : StagedNav2Guard) (w : Witness) (observed : Option ℚ) :
    (g.setWitness w observed).control = g.control := rfl

@[simp] lemma setWitness_phase (g : StagedNav2Guard) (w : Witness) (observed : Option ℚ) :
    (g.setWitness w observed).phase = g.phase := rfl

@[simp] lemma setWitness_lastOutput (g : StagedNav2Guard) (w : Witness) (observed : Option ℚ) :
    (g.setWitness w observed).lastOutput = g.lastOutput := rfl

/-- A decision that moves nothing. -/
def Decision.Still (d : Decision) : Prop := d.command = 0

/-! ## The outcomes of a call -/

/-- The outcomes that only a latch or a held output distinguishes. -/
inductive Settled (g : StagedNav2Guard) : Outcome → Prop where
  | raised {e : Raised} {g' : StagedNav2Guard} (hcontrol : g'.control = g.control)
      (houtput : g'.lastOutput = g.lastOutput) : Settled g (.error e, g')
  | held {d : Decision} {g' : StagedNav2Guard} (hstill : d.Still)
      (hcontrol : g'.control = g.control)
      (houtput : g'.lastOutput = g.lastOutput ∨ g'.lastOutput = 0) : Settled g (.ok d, g')
  | tripped {d : Decision} {g' : StagedNav2Guard} (hstill : d.Still)
      (hdisarm : d.requestDisarm = true) (hphase : g'.phase = .fault)
      (hreason : g.phase = .fault → g'.faultReason = g.faultReason)
      (hlocked : g'.lockedMapLifecycle = g.lockedMapLifecycle)
      (houtput : g'.lastOutput = 0) : Settled g (.ok d, g')

@[simp] lemma tripped_phase (reason : String) (g : StagedNav2Guard) :
    (g.tripped reason).phase = .fault := by
  unfold tripped
  split
  · rfl
  · rename_i h
    simpa using h

lemma tripped_lockedMapLifecycle (reason : String) (g : StagedNav2Guard) :
    (g.tripped reason).lockedMapLifecycle = g.lockedMapLifecycle := by
  unfold tripped
  split <;> rfl

/-- The attributes that a trip keeps, or looks at. -/
def StagedNav2Guard.latch (g : StagedNav2Guard) : Phase × String × Option (String × Int) :=
  (g.phase, g.faultReason, g.lockedMapLifecycle)

lemma latch_of_control {g g' : StagedNav2Guard} (h : g'.control = g.control) :
    g'.latch = g.latch :=
  congrArg (fun c => (c.phase, c.faultReason, c.lockedMapLifecycle)) h

/-- A trip settles every guard with the same latch. -/
lemma settled_trip {g g' : StagedNav2Guard} (hlatch : g'.latch = g.latch) (reason : String) :
    Settled g (g'.trip reason) := by
  simp only [latch, Prod.mk.injEq] at hlatch
  obtain ⟨hphase, hreason, hlocked⟩ := hlatch
  refine .tripped rfl rfl (tripped_phase reason g') (fun hfault => ?_)
    ((tripped_lockedMapLifecycle reason g').trans hlocked) rfl
  simp [tripped, hphase, hfault, hreason]

lemma settled_reject {g g' : StagedNav2Guard} (hcontrol : g'.control = g.control)
    (houtput : g'.lastOutput = g.lastOutput) (reason : String) :
    Settled g (g'.reject reason) := by
  unfold reject
  split
  · exact settled_trip (latch_of_control hcontrol) reason
  · exact .held rfl hcontrol (.inl houtput)

/-- A call rejects its time, or goes on with a time that is not negative. -/
lemma withTime_cases {g : StagedNav2Guard} {nowS : ExtRat}
    {method : ℚ → StagedNav2Guard → Outcome} {P : Outcome → Prop}
    (hraised : ∀ e, P (.error e, g)) (h : ∀ t, nowS = .fin t → 0 ≤ t → P (method t g)) :
    P (g.withTime nowS method) := by
  unfold withTime
  split
  · split
    · exact hraised _
    · rename_i t hnot
      exact h t rfl (not_lt.mp hnot)
  · exact hraised _

lemma settled_withTime {g : StagedNav2Guard} {nowS : ExtRat}
    {method : ℚ → StagedNav2Guard → Outcome} (h : ∀ t, Settled g (method t g)) :
    Settled g (g.withTime nowS method) :=
  withTime_cases (fun _ => .raised rfl rfl) fun t _ _ => h t

lemma settled_observeAt {g g' : StagedNav2Guard} (hcontrol : g'.control = g.control)
    (houtput : g'.lastOutput = g.lastOutput) (w : Witness) (sourceAgeS : Option ExtRat)
    (t : ℚ) : Settled g (g'.observeAt w sourceAgeS t) := by
  unfold observeAt
  split
  · exact .held rfl hcontrol (.inl houtput)
  split
  · exact .held rfl hcontrol (.inl houtput)
  · exact settled_reject (by exact hcontrol) (by exact houtput) _

lemma settled_observe {g g' : StagedNav2Guard} (hcontrol : g'.control = g.control)
    (houtput : g'.lastOutput = g.lastOutput) (name : String) (nowS : ExtRat)
    (sourceAgeS : Option ExtRat) : Settled g (g'.observe name nowS sourceAgeS) := by
  unfold observe
  split
  · exact .raised hcontrol houtput
  · unfold withTime
    split
    · split
      · exact .raised hcontrol houtput
      · exact settled_observeAt hcontrol houtput _ _ _
    · exact .raised hcontrol houtput

/-! ## Health observations only settle the guard -/

section Observations

variable (lib : Library) (config : GuardConfig) (g : StagedNav2Guard)

lemma settled_observeOdom (nowS xM yM : ExtRat) (sourceAgeS : Option ExtRat) :
    Settled g (g.observeOdom lib config nowS xM yM sourceAgeS) := by
  have hobserve := settled_observe (g := g) rfl rfl "odom" nowS sourceAgeS
  unfold observeOdom
  split
  · generalize g.observe "odom" nowS sourceAgeS = o at hobserve
    split
    · cases hobserve with
      | raised hcontrol houtput => exact .raised hcontrol houtput
    · cases hobserve with
      | tripped hstill hdisarm hphase hreason hlocked houtput =>
        simp only [hphase, if_true]
        exact .tripped hstill hdisarm hphase hreason hlocked houtput
      | held hstill hcontrol houtput =>
        split
        · exact .held hstill hcontrol houtput
        simp only
        split
        · unfold addDistance
          simp only
          split
          · exact settled_trip (by exact latch_of_control hcontrol) _
          · exact .held hstill hcontrol houtput
        · exact .held hstill hcontrol houtput
  · exact settled_trip (by rfl) _

lemma settled_observeState (nowS : ExtRat) (mode errorCode : PyValue)
    (sourceAgeS : Option ExtRat) :
    Settled g (g.observeState config nowS mode errorCode sourceAgeS) := by
  unfold observeState
  split
  · exact settled_reject (by rfl) (by rfl) _
  · exact settled_observe rfl rfl _ _ _

lemma settled_observeScan (nowS : ExtRat) (scan : LaserScan) (sourceAgeS : Option ExtRat) :
    Settled g (g.observeScan lib nowS scan sourceAgeS) := by
  unfold observeScan
  split
  · exact .held rfl rfl (.inl rfl)
  · exact settled_observe rfl rfl _ _ _

lemma settled_observeLocalization (nowS : ExtRat) (frameId : String) (xM yM yawRad : ExtRat)
    (sourceAgeS : Option ExtRat) :
    Settled g (g.observeLocalization lib config nowS frameId xM yM yawRad sourceAgeS) := by
  unfold observeLocalization
  split
  · exact .held rfl rfl (.inl rfl)
  · have hobserve : Settled g (observe "localization" nowS sourceAgeS { g with
        localizationXy := some (xM.toRat, yM.toRat)
        localizationYaw := some yawRad.toRat }) :=
      settled_observe (by rfl) (by rfl) "localization" nowS sourceAgeS
    simp only
    generalize observe "localization" nowS sourceAgeS _ = o at hobserve
    cases hobserve with
    | raised hcontrol houtput => exact .raised hcontrol houtput
    | tripped hstill hdisarm hphase hreason hlocked houtput =>
      simp only [hphase, reduceCtorEq, decide_false, Bool.false_and, Bool.false_eq_true, if_false]
      exact .tripped hstill hdisarm hphase hreason hlocked houtput
    | held hstill hcontrol houtput =>
      simp only
      split
      · exact settled_trip (latch_of_control hcontrol) _
      · exact .held hstill hcontrol houtput

lemma settled_observeOwnership (nowS : ExtRat) (controllers outputs chassis : List String)
    (canonical : Int) :
    Settled g (observeOwnership nowS controllers outputs chassis canonical g) := by
  refine settled_withTime fun t => ?_
  simp only
  split
  · exact settled_reject (by rfl) (by rfl) _
  · exact .held rfl rfl (.inl rfl)

lemma settled_observeMapLifecycle (nowS : ExtRat) (mapId mode : String)
    (generation : PyValue) :
    Settled g (observeMapLifecycle lib config nowS mapId mode generation g) := by
  refine settled_withTime fun t => ?_
  split
  · exact settled_reject (by rfl) (by rfl) _
  split
  · exact settled_reject (by rfl) (by rfl) _
  split
  · exact settled_trip (by rfl) _
  · exact .held rfl rfl (.inl rfl)

lemma settled_refreshGoalClaim (nowS : ExtRat) : Settled g (refreshGoalClaim nowS g) := by
  refine settled_withTime fun t => ?_
  split
  · exact .held rfl rfl (.inl rfl)
  · exact .held rfl rfl (.inl rfl)

end Observations

/-! ## Freshness -/

/-- A witness was observed recently enough. -/
def StagedNav2Guard.WitnessFresh (t : ℚ) (g : StagedNav2Guard) (w : Witness) : Prop :=
  ∃ observed, g.witnesses w = some observed ∧ 0 ≤ t - observed ∧ t - observed ≤ w.freshnessLimitS

lemma witnessReason_eq_none_iff {t : ℚ} {g : StagedNav2Guard} {w : Witness} :
    g.witnessReason t w = none ↔
      (w ≠ .goalStatus → w ≠ .goalClaim →
        (g.isActive = true → w ≠ .scan ∧ w ≠ .localization) → g.WitnessFresh t w) := by
  unfold witnessReason
  split
  · rename_i h
    simp only [true_iff]
    intro h₁ h₂
    rcases h with h | h
    · exact absurd h h₁
    · exact absurd h h₂
  rename_i hgoal
  rw [not_or] at hgoal
  split
  · rename_i h
    simp only [true_iff]
    intro _ _ hactive
    obtain ⟨hscan, hlocalization⟩ := hactive h.2
    rcases h.1 with h | h
    · exact absurd h hscan
    · exact absurd h hlocalization
  rename_i hdelegated
  have hactive : g.isActive = true → w ≠ .scan ∧ w ≠ .localization := by
    intro hactive
    exact not_or.mp fun h => hdelegated ⟨h, hactive⟩
  split
  · rename_i hmissing
    constructor
    · intro h
      cases h
    · intro h
      obtain ⟨observed, hobserved, -⟩ := h hgoal.1 hgoal.2 hactive
      cases hmissing.symm.trans hobserved
  · rename_i observed hobserved
    simp only [ite_eq_right_iff, reduceCtorEq, imp_false, not_or, not_lt]
    constructor
    · intro h _ _ _
      exact ⟨observed, hobserved, h⟩
    · intro h
      obtain ⟨observed', hobserved', hfresh⟩ := h hgoal.1 hgoal.2 hactive
      cases hobserved.symm.trans hobserved'
      exact hfresh

/-- No witness is stale exactly when all that are asked for are fresh and the command has one
owner. -/
theorem staleReason_eq_none_iff {t : ℚ} {g : StagedNav2Guard} :
    g.staleReason t = none ↔
      (∀ w, w ≠ .goalStatus → w ≠ .goalClaim →
        (g.isActive = true → w ≠ .scan ∧ w ≠ .localization) → g.WitnessFresh t w) ∧
        g.ownershipValid = true := by
  unfold staleReason
  constructor
  · intro h
    split at h
    · cases h
    rename_i hwitnesses
    rw [List.findSome?_eq_none_iff] at hwitnesses
    refine ⟨fun w => ?_, ?_⟩
    · exact witnessReason_eq_none_iff.mp (hwitnesses w (Witness.mem_all w))
    · by_contra howner
      simp [howner] at h
  · rintro ⟨hfresh, howner⟩
    have hwitnesses : Witness.all.findSome? (g.witnessReason t) = none := by
      rw [List.findSome?_eq_none_iff]
      intro w _
      exact witnessReason_eq_none_iff.mpr (hfresh w)
    simp [hwitnesses, howner]

/-! ## The transitions -/

section Transitions

variable (lib : Library) (config : GuardConfig)

/-- A report of the action server that ends the session: the bound goal is canceled or has
succeeded, or some goal is canceled while none is bound. -/
def Completes (g : StagedNav2Guard) (op : Operation) : Prop :=
  ∃ t statuses, op = .observeGoalStatuses (.fin t) statuses ∧ 0 ≤ t ∧
    (activeEntries lib statuses).length ≤ 1 ∧
    (g.goalId ≠ "" → ∃ current, currentStatuses lib statuses g.goalId = [current] ∧
      (current ∈ terminalCancelStatuses ∨ current ∈ terminalSuccessStatuses)) ∧
    (g.goalId = "" → ∃ entry ∈ normalized lib statuses, entry.2 ∈ terminalCancelStatuses)

/-- A report with an active goal. -/
def ReportsActive (op : Operation) (goalId : String) : Prop :=
  ∃ nowS statuses status, op = .observeGoalStatuses nowS statuses ∧
    (goalId, status) ∈ activeEntries lib statuses

/-- A claim that matches the permit. -/
def ClaimsGoal (op : Operation) (claim : AcceptedGoalClaim) : Prop :=
  ∃ nowS payload publisherNodes expected,
    op = .observeGoalClaim nowS payload publisherNodes ∧
    config.expectedGoal = some expected ∧ validateGoalClaim lib payload expected = .ok claim

/-- What holds when the guard asks the chassis to arm. -/
structure Requested (t : ℚ) (g : StagedNav2Guard) : Prop where
  fresh : ∀ w, w ≠ .goalStatus → w ≠ .goalClaim → g.WitnessFresh t w
  ownership : g.ownershipValid = true
  odom : g.odomXy ≠ none
  start : g.startPositionMatches lib config = true
  lifecycle : g.mapLifecycle ≠ none
  locked : g.lockedMapLifecycle = g.mapLifecycle
  disarmed : g.chassisGuardState = .disarmed ∧ g.daemonArmed = false

/-- The outcomes of a goal that is bound. -/
inductive Begun (t : ℚ) (goalId : String) (g : StagedNav2Guard) : Outcome → Prop where
  | settled {o : Outcome} (h : Settled g o) : Begun t goalId g o
  | waiting {d : Decision} {g' : StagedNav2Guard} (hphase : g.phase = .idle)
      (hgoal : goalId ≠ "") (hstill : d.Still)
      (hcontrol : g'.control = { g.control with goalId := goalId, unverifiedGoalId := "" })
      (houtput : g'.lastOutput = g.lastOutput) : Begun t goalId g (.ok d, g')
  | requested {d : Decision} {g' : StagedNav2Guard} (hphase : g.phase = .idle)
      (hgoal : goalId ≠ "") (hstill : d.Still) (harm : d.requestArm = true)
      (hrequested : Requested lib config t g')
      (hcontrol : g'.control = { g.control with
        phase := .pendingArm
        sessionSpent := true
        goalId := goalId
        unverifiedGoalId := ""
        lockedMapLifecycle := g'.mapLifecycle
        armRequestedAt := some t
        armServiceAccepted := false })
      (houtput : g'.lastOutput = 0) : Begun t goalId g (.ok d, g')

/-- The goal that a guard may bind: it is claimed, or bound already. -/
def MayBind (g : StagedNav2Guard) (goalId : String) : Prop :=
  goalId = g.goalId ∨ ∃ claim, g.acceptedGoalClaim = some claim ∧ claim.goalUuid = goalId

inductive Transition (g : StagedNav2Guard) (op : Operation) : Outcome → Prop where
  | settled {o : Outcome} (h : Settled g o) : Transition g op o
  | completed {d : Decision} {g' : StagedNav2Guard} (hcompletes : Completes lib g op)
      (hstill : d.Still) (hphase : g'.phase = .complete)
      (hlocked : g'.lockedMapLifecycle = g.lockedMapLifecycle) (houtput : g'.lastOutput = 0) :
      Transition g op (.ok d, g')
  /-- The first claim raises an exception that is not caught. -/
  | claimRaised {e : Raised} {g' : StagedNav2Guard} (hunseen : g.goalClaimSeen = false)
      (hcontrol : g'.control = { g.control with goalClaimSeen := true })
      (houtput : g'.lastOutput = g.lastOutput) : Transition g op (.error e, g')
  /-- The first claim is accepted, and may bind a goal that is already active. -/
  | claimed {t : ℚ} {claim : AcceptedGoalClaim} {g₁ : StagedNav2Guard} {o : Outcome}
      (htime : op.nowS? = some (.fin t)) (hclaims : ClaimsGoal lib config op claim)
      (hunseen : g.goalClaimSeen = false)
      (hcontrol : g₁.control = { g.control with
        goalClaimSeen := true, acceptedGoalClaim := some claim })
      (houtput : g₁.lastOutput = g.lastOutput)
      (hok : ∃ d g', o = (.ok d, g'))
      (hbegun : Settled g₁ o ∨
        claim.goalUuid = g.unverifiedGoalId ∧ Begun lib config t claim.goalUuid g₁ o) :
      Transition g op o
  /-- A goal is active before it is claimed. -/
  | unverified {goalId : String} {d : Decision} {g' : StagedNav2Guard}
      (hactive : ReportsActive lib op goalId) (hstill : d.Still)
      (hcontrol : g'.control = { g.control with unverifiedGoalId := goalId })
      (houtput : g'.lastOutput = g.lastOutput) : Transition g op (.ok d, g')
  | begun {t : ℚ} {goalId : String} {o : Outcome} (htime : op.nowS? = some (.fin t))
      (hsource : goalId = g.goalId ∨ ReportsActive lib op goalId)
      (hbind : MayBind g goalId) (hbegun : Begun lib config t goalId g o) : Transition g op o
  | confirmed {t : ℚ} {d : Decision} {g' : StagedNav2Guard}
      (hop : op = .confirmArm true (.fin t)) (hphase : g.phase = .pendingArm)
      (hstale : g.staleReason t = none) (hstart : g.startPositionMatches lib config = true)
      (hstill : d.Still)
      (hcontrol : g'.control = { g.control with armServiceAccepted := true })
      (houtput : g'.lastOutput = g.lastOutput) : Transition g op (.ok d, g')
  /-- The chassis is measured armed after the zero hold. -/
  | entered {t requestedAt : ℚ} {status : ChassisStatus} {d : Decision} {g' : StagedNav2Guard}
      (hop : op = .observeChassisStatus (.fin t) status)
      (hmeasured : chassisMeasured lib status = some (.armed, true))
      (hphase : g.phase = .pendingArm) (haccepted : g.armServiceAccepted = true)
      (hrequestedAt : g.armRequestedAt = some requestedAt)
      (hpreamble : config.limits.zeroPreambleS ≤ t - requestedAt)
      (hstart : g.startPositionMatches lib config = true) (hstill : d.Still)
      (hcontrol : g'.control = { g.control with phase := .armed })
      (houtput : g'.lastOutput = 0) : Transition g op (.ok d, g')
  | forwarded {t deltaS linearX linearY angularZ : ℚ} {previous : Velocity} {d : Decision}
      {g' : StagedNav2Guard}
      (hop : op = .command (.fin t) (.fin linearX) (.fin linearY) (.fin angularZ))
      (hphase : g.phase = .armed) (hstale : g.staleReason t = none)
      (hlinearX : 0 ≤ linearX ∧ linearX ≤ config.limits.maxLinearXMps)
      (hangularZ : |angularZ| ≤ config.limits.maxAngularZRps)
      (hprevious : previous = g.lastOutput ∨ previous = 0) (hdelta : 0 ≤ deltaS)
      (hcommand : d.command = slewOutput config linearX angularZ deltaS previous)
      (hcontrol : g'.control = g.control) (houtput : g'.lastOutput = d.command) :
      Transition g op (.ok d, g')

end Transitions

/-! ## The guard takes the transitions -/

section Steps

variable {lib : Library} {config : GuardConfig} {g : StagedNav2Guard}

lemma transition_withTime {op : Operation} {nowS : ExtRat}
    {method : ℚ → StagedNav2Guard → Outcome}
    (h : ∀ t, nowS = .fin t → 0 ≤ t → Transition lib config g op (method t g)) :
    Transition lib config g op (g.withTime nowS method) :=
  withTime_cases (fun _ => .settled (.raised rfl rfl)) h

lemma begun_startBoundGoalIfReady {t : ℚ} {goalId : String} {g₁ : StagedNav2Guard}
    (hphase : g.phase = .idle) (hgoal : goalId ≠ "")
    (hcontrol : g₁.control = { g.control with goalId := goalId, unverifiedGoalId := "" })
    (houtput : g₁.lastOutput = g.lastOutput) :
    Begun lib config t goalId g (startBoundGoalIfReady lib config t g₁) := by
  have hphase₁ : g₁.phase = g.phase := congrArg Control.phase hcontrol
  have hlatch : g₁.latch = g.latch :=
    congrArg (fun c => (c.phase, c.faultReason, c.lockedMapLifecycle)) hcontrol
  unfold startBoundGoalIfReady
  split
  · exact .settled (settled_trip hlatch _)
  split
  · exact .waiting hphase hgoal rfl hcontrol houtput
  rename_i hstale
  rw [staleReason_eq_none_iff] at hstale
  have hactive : ¬ g₁.isActive = true := by
    simp [isActive, hphase₁, hphase]
  split
  · exact .settled (settled_trip hlatch _)
  rename_i hodom
  split
  · exact .settled (settled_trip hlatch _)
  rename_i hstart
  split
  · exact .settled (settled_trip hlatch _)
  rename_i hlifecycle
  split
  · exact .settled (settled_trip hlatch _)
  rename_i hchassis
  rw [not_or, not_not, Bool.not_eq_true] at hchassis
  rw [Bool.not_eq_true', Bool.not_eq_false] at hstart
  refine .requested hphase hgoal rfl rfl ⟨?_, hstale.2, hodom, hstart, hlifecycle, rfl, hchassis⟩
    ?_ rfl
  · exact fun w h₁ h₂ => hstale.1 w h₁ h₂ fun h => absurd h hactive
  · show ({ g₁.control with
        phase := .pendingArm
        sessionSpent := true
        lockedMapLifecycle := g₁.mapLifecycle
        armRequestedAt := some t
        armServiceAccepted := false } : Control) = _
    rw [hcontrol]

/-- Observations before a transition do not matter. -/
lemma Settled.of_control {g₁ : StagedNav2Guard} {o : Outcome} (h : Settled g₁ o)
    (hcontrol : g₁.control = g.control) (houtput : g₁.lastOutput = g.lastOutput) :
    Settled g o := by
  cases h with
  | raised hcontrol' houtput' => exact .raised (hcontrol'.trans hcontrol) (houtput'.trans houtput)
  | held hstill hcontrol' houtput' =>
    exact .held hstill (hcontrol'.trans hcontrol) (houtput'.imp_left fun h => h.trans houtput)
  | tripped hstill hdisarm hphase hreason hlocked houtput' =>
    have hlatch := latch_of_control hcontrol
    simp only [latch, Prod.mk.injEq] at hlatch
    obtain ⟨hphase₁, hreason₁, hlocked₁⟩ := hlatch
    exact .tripped hstill hdisarm hphase
      (fun hfault => (hreason (hphase₁.trans hfault)).trans hreason₁) (hlocked.trans hlocked₁)
      houtput'

lemma Begun.of_control {t : ℚ} {goalId : String} {g₁ : StagedNav2Guard} {o : Outcome}
    (h : Begun lib config t goalId g₁ o) (hcontrol : g₁.control = g.control)
    (houtput : g₁.lastOutput = g.lastOutput) : Begun lib config t goalId g o := by
  have hphase₁ : g₁.phase = g.phase := congrArg Control.phase hcontrol
  cases h with
  | settled h => exact .settled (h.of_control hcontrol houtput)
  | waiting hphase hgoal hstill hcontrol' houtput' =>
    exact .waiting (hphase₁.symm.trans hphase) hgoal hstill (by rw [hcontrol', hcontrol])
      (houtput'.trans houtput)
  | requested hphase hgoal hstill harm hrequested hcontrol' houtput' =>
    exact .requested (hphase₁.symm.trans hphase) hgoal hstill harm hrequested
      (by rw [hcontrol', hcontrol]) houtput'

lemma MayBind.of_control {goalId : String} {g₁ : StagedNav2Guard} (h : MayBind g₁ goalId)
    (hcontrol : g₁.control = g.control) : MayBind g goalId := by
  have hgoal : g₁.goalId = g.goalId := congrArg Control.goalId hcontrol
  have hclaim : g₁.acceptedGoalClaim = g.acceptedGoalClaim :=
    congrArg Control.acceptedGoalClaim hcontrol
  rw [MayBind, hgoal, hclaim] at h
  exact h

variable (lib config g) in
lemma begun_beginGoal (t : ℚ) (goalId : String) :
    Begun lib config t goalId g (beginGoal lib config goalId t g) ∧
      (MayBind g goalId ∨ Settled g (beginGoal lib config goalId t g)) := by
  unfold beginGoal
  split
  · exact ⟨.settled (.held rfl rfl (.inl rfl)), .inr (.held rfl rfl (.inl rfl))⟩
  split
  · exact ⟨.settled (.held rfl rfl (.inl rfl)), .inr (.held rfl rfl (.inl rfl))⟩
  split
  · exact ⟨.settled (settled_trip rfl _), .inr (settled_trip rfl _)⟩
  rename_i hidle
  rw [not_or, not_not] at hidle
  split
  · exact ⟨.settled (settled_trip rfl _), .inr (settled_trip rfl _)⟩
  rename_i hgoal
  rw [not_or] at hgoal
  simp only
  split
  · exact ⟨.settled (settled_trip (by rfl) _), .inr (settled_trip (by rfl) _)⟩
  rename_i claim hclaim
  split
  · exact ⟨.settled (settled_trip (by rfl) _), .inr (settled_trip (by rfl) _)⟩
  rename_i huuid
  exact ⟨begun_startBoundGoalIfReady hidle.1 hgoal.1 rfl rfl,
    .inl (.inr ⟨claim, hclaim, (not_not.mp huuid).symm⟩)⟩

lemma transition_beginGoal {op : Operation} {t : ℚ} {goalId : String} {g₁ : StagedNav2Guard}
    (htime : op.nowS? = some (.fin t)) (hactive : ReportsActive lib op goalId)
    (hcontrol : g₁.control = g.control)
    (houtput : g₁.lastOutput = g.lastOutput) :
    Transition lib config g op (beginGoal lib config goalId t g₁) := by
  obtain ⟨hbegun, hbind | hsettled⟩ := begun_beginGoal lib config g₁ t goalId
  · exact .begun htime (.inr hactive) (hbind.of_control hcontrol)
      (hbegun.of_control hcontrol houtput)
  · exact .settled (hsettled.of_control hcontrol houtput)

/-- A goal that begins raises no exception. -/
lemma beginGoal_ok (t : ℚ) (goalId : String) (g : StagedNav2Guard) :
    ∃ d g', beginGoal lib config goalId t g = (.ok d, g') := by
  unfold beginGoal
  repeat' split
  all_goals try exact ⟨_, _, rfl⟩
  simp only
  repeat' split
  all_goals try exact ⟨_, _, rfl⟩
  unfold startBoundGoalIfReady
  repeat' split
  all_goals exact ⟨_, _, rfl⟩

/-- The outcomes of a goal claim. -/
inductive ClaimOutcome (lib : Library) (config : GuardConfig) (g : StagedNav2Guard)
    (op : Operation) : Outcome → Prop where
  | raised {e : Raised} {g' : StagedNav2Guard} (hcontrol : g'.control = g.control)
      (houtput : g'.lastOutput = g.lastOutput) : ClaimOutcome lib config g op (.error e, g')
  | firstRaised {e : Raised} {g' : StagedNav2Guard} (hunseen : g.goalClaimSeen = false)
      (hcontrol : g'.control = { g.control with goalClaimSeen := true })
      (houtput : g'.lastOutput = g.lastOutput) : ClaimOutcome lib config g op (.error e, g')
  | tripped {g' : StagedNav2Guard} (hlatch : g'.latch = g.latch) (reason : String) :
      ClaimOutcome lib config g op (g'.trip reason)
  | accepted {t : ℚ} {claim : AcceptedGoalClaim} {g₁ : StagedNav2Guard}
      (htime : op.nowS? = some (.fin t)) (hclaims : ClaimsGoal lib config op claim)
      (hunseen : g.goalClaimSeen = false)
      (hcontrol : g₁.control = { g.control with
        goalClaimSeen := true, acceptedGoalClaim := some claim })
      (houtput : g₁.lastOutput = g.lastOutput) :
      ClaimOutcome lib config g op (claimAccepted lib config t claim g₁)

variable (lib config g) in
lemma claimOutcome_observeGoalClaim (nowS : ExtRat) (payload : PyValue)
    (publisherNodes : List String) :
    ClaimOutcome lib config g (.observeGoalClaim nowS payload publisherNodes)
      (observeGoalClaim lib config nowS payload publisherNodes g) := by
  refine withTime_cases (fun _ => .raised rfl rfl) fun t hnow _ => ?_
  split
  · exact .tripped rfl _
  split
  · exact .tripped rfl _
  rename_i expected hexpected
  split
  · exact .tripped rfl _
  rename_i hseen
  rw [Bool.not_eq_true] at hseen
  simp only
  split
  · exact .firstRaised hseen rfl rfl
  · exact .tripped (by rfl) _
  rename_i claim hclaim
  refine .accepted (congrArg some hnow) ⟨_, _, _, expected, rfl, hexpected, hclaim⟩ hseen ?_ ?_
  · rfl
  · rfl

variable (lib config) in
/-- What follows an accepted claim. -/
lemma claimAccepted_cases (t : ℚ) (claim : AcceptedGoalClaim) (g₁ : StagedNav2Guard) :
    (∃ d g', claimAccepted lib config t claim g₁ = (.ok d, g')) ∧
      (Settled g₁ (claimAccepted lib config t claim g₁) ∨
        claim.goalUuid = g₁.unverifiedGoalId ∧
          Begun lib config t claim.goalUuid g₁ (claimAccepted lib config t claim g₁)) := by
  unfold claimAccepted
  split
  · exact ⟨⟨_, _, rfl⟩, .inl (.held rfl rfl (.inl rfl))⟩
  split
  · exact ⟨⟨_, _, rfl⟩, .inl (settled_trip rfl _)⟩
  · rename_i hmatch
    exact ⟨beginGoal_ok t claim.goalUuid g₁,
      .inr ⟨not_not.mp hmatch, (begun_beginGoal lib config g₁ t _).1⟩⟩

lemma transition_observeGoalClaim (nowS : ExtRat) (payload : PyValue)
    (publisherNodes : List String) :
    Transition lib config g (.observeGoalClaim nowS payload publisherNodes)
      (observeGoalClaim lib config nowS payload publisherNodes g) := by
  have hcases := claimOutcome_observeGoalClaim lib config g nowS payload publisherNodes
  generalize observeGoalClaim lib config nowS payload publisherNodes g = o at hcases
  cases hcases with
  | raised hcontrol houtput => exact .settled (.raised hcontrol houtput)
  | firstRaised hunseen hcontrol houtput => exact .claimRaised hunseen hcontrol houtput
  | tripped hlatch reason => exact .settled (settled_trip hlatch reason)
  | @accepted t claim g₁ htime hclaims hunseen hcontrol houtput =>
    obtain ⟨hok, hbegun⟩ := claimAccepted_cases lib config t claim g₁
    have hunverified : g₁.unverifiedGoalId = g.unverifiedGoalId :=
      congrArg Control.unverifiedGoalId hcontrol
    rw [hunverified] at hbegun
    exact .claimed htime hclaims hunseen hcontrol houtput hok hbegun

lemma transition_observeGoalStatuses (nowS : ExtRat) (statuses : List (String × String)) :
    Transition lib config g (.observeGoalStatuses nowS statuses)
      (observeGoalStatuses lib config nowS statuses g) := by
  refine transition_withTime fun t hnow ht => ?_
  simp only
  split
  · exact .settled (settled_trip (by rfl) _)
  rename_i hone
  rw [gt_iff_lt, not_lt] at hone
  split
  · rename_i hgoal
    have hgoal' : g.goalId ≠ "" := hgoal
    unfold observeBoundGoal
    split
    · rename_i current hcurrent
      have hcompletes : current ∈ terminalCancelStatuses ∨ current ∈ terminalSuccessStatuses →
          Completes lib g (.observeGoalStatuses nowS statuses) := fun h =>
        ⟨t, statuses, by rw [hnow], ht, hone, fun _ => ⟨current, hcurrent, h⟩,
          fun h => absurd h hgoal'⟩
      split
      · exact .settled (settled_trip (by rfl) _)
      split
      · rename_i hcancel
        exact .completed (hcompletes (.inl hcancel)) rfl rfl rfl rfl
      split
      · rename_i hsuccess
        exact .completed (hcompletes (.inr hsuccess)) rfl rfl rfl rfl
      split
      · exact .settled (settled_trip (by rfl) _)
      · exact .settled (.held rfl rfl (.inl rfl))
    · exact .settled (settled_trip (by rfl) _)
  · rename_i hgoal
    have hgoal' : g.goalId = "" := not_not.mp hgoal
    unfold observeUnboundGoal
    split
    · rename_i hcancel
      rw [List.any_eq_true] at hcancel
      obtain ⟨entry, hentry, hcancel⟩ := hcancel
      exact .completed ⟨t, statuses, by rw [hnow], ht, hone, fun h => absurd hgoal' h,
        fun _ => ⟨entry, hentry, of_decide_eq_true hcancel⟩⟩ rfl rfl rfl rfl
    split
    · exact .settled (.held rfl rfl (.inl rfl))
    rename_i goalId status rest hactive
    have hreports : ReportsActive lib (.observeGoalStatuses nowS statuses) goalId :=
      ⟨nowS, statuses, status, rfl, by rw [hactive]; simp⟩
    split
    · split
      · exact .settled (settled_trip (by rfl) _)
      simp only
      split
      · exact .unverified hreports rfl rfl rfl
      · exact .settled (.held rfl rfl (.inl rfl))
    · exact transition_beginGoal (congrArg some hnow) hreports rfl rfl

lemma transition_confirmArm (success : Bool) (nowS : ExtRat) :
    Transition lib config g (.confirmArm success nowS)
      (confirmArm lib config success nowS g) := by
  refine transition_withTime fun t hnow _ => ?_
  split
  · exact .settled (settled_trip rfl _)
  rename_i hphase
  split
  · exact .settled (settled_trip rfl _)
  rename_i hsuccess
  split
  · exact .settled (settled_trip rfl _)
  rename_i hstale
  split
  · exact .settled (settled_trip rfl _)
  rename_i hstart
  rw [Bool.not_eq_true', Bool.not_eq_false] at hstart hsuccess
  exact .confirmed (by rw [hsuccess, hnow]) (not_not.mp hphase) hstale hstart rfl rfl rfl

lemma transition_observeChassisStatus (nowS : ExtRat) (status : ChassisStatus) :
    Transition lib config g (.observeChassisStatus nowS status)
      (observeChassisStatus lib config nowS status g) := by
  refine transition_withTime fun t hnow _ => ?_
  split
  · exact .settled (settled_reject (by rfl) (by rfl) _)
  rename_i guardState daemonArmed hmeasured
  simp only
  split
  · exact .settled (settled_trip (by rfl) _)
  split
  · split
    · exact .settled (settled_trip (by rfl) _)
    · exact .settled (.held rfl rfl (.inl rfl))
  split
  · rename_i hphase
    split
    · rename_i hover
      split
      · exact .settled (settled_trip (by rfl) _)
      rename_i hstart
      rw [Bool.not_eq_true', Bool.not_eq_false] at hstart
      unfold zeroHoldOver at hover
      split at hover
      · rename_i requestedAt hrequestedAt
        simp only [Bool.and_eq_true, decide_eq_true_eq] at hover
        obtain ⟨⟨⟨haccepted, hpreamble⟩, rfl⟩, rfl⟩ := hover
        exact .entered (by rw [hnow]) hmeasured hphase haccepted hrequestedAt hpreamble hstart
          rfl rfl rfl
      · cases hover
    split
    · exact .settled (settled_trip (by rfl) _)
    · exact .settled (.held rfl rfl (.inl rfl))
  · exact .settled (.held rfl rfl (.inl rfl))

/-- The output of a command whose clocks are valid. -/
lemma transition_forward {op : Operation} {t linearX linearY angularZ : ℚ}
    {g₁ : StagedNav2Guard}
    (hop : op = .command (.fin t) (.fin linearX) (.fin linearY) (.fin angularZ))
    (hphase : g.phase = .armed) (hstale : g.staleReason t = none)
    (hlinearX : 0 ≤ linearX ∧ linearX ≤ config.limits.maxLinearXMps)
    (hangularZ : |angularZ| ≤ config.limits.maxAngularZRps)
    (hcontrol : g₁.control = g.control)
    (houtput : g₁.lastOutput = g.lastOutput ∨ g₁.lastOutput = 0) :
    Transition lib config g op (g₁.forward config t linearX angularZ) := by
  unfold forward
  split
  · exact .settled (settled_trip (latch_of_control hcontrol) _)
  split
  · exact .settled (settled_trip (latch_of_control hcontrol) _)
  rename_i hdelta
  exact .forwarded hop hphase hstale hlinearX hangularZ houtput (not_lt.mp hdelta) rfl hcontrol
    rfl

lemma transition_command (nowS linearXMps linearYMps angularZRps : ExtRat) :
    Transition lib config g (.command nowS linearXMps linearYMps angularZRps)
      (command config nowS linearXMps linearYMps angularZRps g) := by
  refine transition_withTime fun t hnow _ => ?_
  split
  · rename_i linearX linearY angularZ
    unfold commandFinite
    split
    · exact .settled (.held rfl rfl (.inl rfl))
    rename_i hphase
    rw [not_not] at hphase
    split
    · exact .settled (settled_trip rfl _)
    rename_i hstale
    split
    · exact .settled (settled_trip rfl _)
    rename_i hlinearX
    rw [not_or, not_lt, gt_iff_lt, not_lt] at hlinearX
    split
    · exact .settled (settled_trip rfl _)
    split
    · exact .settled (settled_trip rfl _)
    rename_i hangularZ
    rw [gt_iff_lt, not_lt] at hangularZ
    split
    · exact .settled (settled_trip rfl _)
    have hforward : ∀ g₁ : StagedNav2Guard, g₁.control = g.control →
        (g₁.lastOutput = g.lastOutput ∨ g₁.lastOutput = 0) →
        Transition lib config g (.command nowS (.fin linearX) (.fin linearY) (.fin angularZ))
          (g₁.forward config t linearX angularZ) := fun g₁ hcontrol houtput =>
      transition_forward (by rw [hnow]) hphase hstale hlinearX hangularZ hcontrol houtput
    unfold forwardAfterGap
    split
    · exact hforward g rfl (.inl rfl)
    split
    · exact .settled (settled_trip rfl _)
    split
    · exact hforward _ rfl (.inr rfl)
    · exact hforward g rfl (.inl rfl)
  · exact .settled (settled_trip rfl _)

lemma settled_tickPending (t : ℚ) : Settled g (g.tickPending config t) := by
  unfold tickPending
  split
  · exact settled_trip rfl _
  split
  · exact settled_trip rfl _
  split
  · exact settled_trip rfl _
  split
  · exact settled_trip rfl _
  · exact .held rfl rfl (.inl rfl)

lemma settled_tickArmed (t : ℚ) : Settled g (g.tickArmed config t) := by
  unfold tickArmed
  split
  · exact settled_trip rfl _
  split
  · exact settled_trip rfl _
  split
  · exact .held rfl rfl (.inr rfl)
  split
  · exact settled_trip rfl _
  split
  · exact .held rfl rfl (.inr rfl)
  · exact .held rfl rfl (.inl rfl)

lemma transition_tick (nowS : ExtRat) :
    Transition lib config g (.tick nowS) (tick lib config nowS g) := by
  refine transition_withTime fun t hnow _ => ?_
  split
  · exact .settled (.held rfl rfl (.inl rfl))
  · exact .settled (.held rfl rfl (.inl rfl))
  · rename_i hphase
    unfold tickIdle
    split
    · split
      · exact .settled (settled_trip (by rfl) _)
      · exact .settled (.held rfl rfl (.inl rfl))
    rename_i hunverified
    rw [not_not] at hunverified
    split
    · rename_i hgoal
      refine .begun (congrArg some hnow) (.inl rfl) (.inl rfl)
        (begun_startBoundGoalIfReady hphase hgoal ?_ rfl)
      rw [← hunverified]
      rfl
    · exact .settled (.held rfl rfl (.inl rfl))
  · exact .settled (settled_tickPending t)
  · exact .settled (settled_tickArmed t)
  · exact .settled (.held rfl rfl (.inl rfl))

/-- **Every call on the guard is a transition.** -/
theorem transition_of_perform (lib : Library) (config : GuardConfig) (op : Operation)
    (g : StagedNav2Guard) : Transition lib config g op (perform lib config op g) := by
  cases op with
  | observe name nowS sourceAgeS => exact .settled (settled_observe rfl rfl name nowS sourceAgeS)
  | observeOdom nowS xM yM sourceAgeS => exact .settled (settled_observeOdom ..)
  | observeState nowS mode errorCode sourceAgeS => exact .settled (settled_observeState ..)
  | observeScan nowS scan sourceAgeS => exact .settled (settled_observeScan ..)
  | observeLocalization nowS frameId xM yM yawRad sourceAgeS =>
    exact .settled (settled_observeLocalization ..)
  | observeOwnership nowS controllers outputs chassis canonical =>
    exact .settled (settled_observeOwnership ..)
  | observeMapLifecycle nowS mapId mode generation =>
    exact .settled (settled_observeMapLifecycle ..)
  | observeChassisStatus nowS status => exact transition_observeChassisStatus nowS status
  | observeGoalClaim nowS payload publisherNodes =>
    exact transition_observeGoalClaim nowS payload publisherNodes
  | refreshGoalClaim nowS => exact .settled (settled_refreshGoalClaim ..)
  | observeGoalStatuses nowS statuses => exact transition_observeGoalStatuses nowS statuses
  | confirmArm success nowS => exact transition_confirmArm success nowS
  | command nowS linearX linearY angularZ =>
    exact transition_command nowS linearX linearY angularZ
  | tick nowS => exact transition_tick nowS
  | disconnect reason => exact .settled (settled_trip rfl reason)
  | shutdown => exact .settled (settled_trip rfl _)

end Steps

end UnitreeGo2.StagedNav2
