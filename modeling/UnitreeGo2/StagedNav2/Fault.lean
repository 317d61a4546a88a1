import UnitreeGo2.StagedNav2.Session

/-!
# The fault latch of the staged navigation guard

A fault stops the session for good, except that a report of the action server may still end
the session of a faulted guard.  Without such a report the latch holds, whatever else
happens while the node stops and disarms.
-/

namespace UnitreeGo2.StagedNav2

open StagedNav2Guard

section Latch

variable {lib : Library} {config : GuardConfig} {g : StagedNav2Guard}

/-- A settled call keeps a fault and its first reason. -/
lemma Settled.keeps_fault {o : Outcome} (h : Settled g o) (hfault : g.phase = .fault) :
    o.2.phase = .fault ∧ o.2.faultReason = g.faultReason ∧ ∀ d, o.1 = .ok d → d.Still := by
  cases h with
  | raised hcontrol =>
    exact ⟨(congrArg Control.phase hcontrol).trans hfault, congrArg Control.faultReason hcontrol,
      fun d h => by cases h⟩
  | held hstill hcontrol =>
    refine ⟨(congrArg Control.phase hcontrol).trans hfault,
      congrArg Control.faultReason hcontrol, fun d h => ?_⟩
    cases h
    exact hstill
  | tripped hstill _ hphase hreason =>
    refine ⟨hphase, hreason hfault, fun d h => ?_⟩
    cases h
    exact hstill

lemma Begun.settled_of_fault {t : ℚ} {goalId : String} {o : Outcome}
    (h : Begun lib config t goalId g o) (hfault : g.phase = .fault) : Settled g o := by
  cases h with
  | settled h => exact h
  | waiting hphase => cases hfault.symm.trans hphase
  | requested hphase => cases hfault.symm.trans hphase

/-- A call that does not end the session keeps a fault and its first reason, and moves
nothing. -/
lemma Transition.keeps_fault {op : Operation} {o : Outcome}
    (h : Transition lib config g op o) (hfault : g.phase = .fault)
    (hcompletes : ¬ Completes lib g op) :
    o.2.phase = .fault ∧ o.2.faultReason = g.faultReason ∧ ∀ d, o.1 = .ok d → d.Still := by
  cases h with
  | settled h => exact h.keeps_fault hfault
  | completed h => exact absurd h hcompletes
  | claimRaised _ hcontrol =>
    exact ⟨(congrArg Control.phase hcontrol).trans hfault, congrArg Control.faultReason hcontrol,
      fun d h => by cases h⟩
  | @claimed t claim g₁ o _ _ _ hcontrol _ _ hbegun =>
    have hfault₁ : g₁.phase = .fault := (congrArg Control.phase hcontrol).trans hfault
    have hreason₁ : g₁.faultReason = g.faultReason := congrArg Control.faultReason hcontrol
    have hsettled : Settled g₁ o := by
      rcases hbegun with h | ⟨-, h⟩
      · exact h
      · exact h.settled_of_fault hfault₁
    rw [← hreason₁]
    exact hsettled.keeps_fault hfault₁
  | unverified _ hstill hcontrol =>
    refine ⟨(congrArg Control.phase hcontrol).trans hfault,
      congrArg Control.faultReason hcontrol, fun d h => ?_⟩
    cases h
    exact hstill
  | begun _ _ _ h => exact (h.settled_of_fault hfault).keeps_fault hfault
  | confirmed _ hphase => cases hfault.symm.trans hphase
  | entered _ _ hphase => cases hfault.symm.trans hphase
  | forwarded _ hphase => cases hfault.symm.trans hphase

/-- A tick of a faulted guard asks for a stop and for disarming. -/
lemma tick_fault (hfault : g.phase = .fault) {t : ExtRat} {d : Decision}
    (h : (tick lib config t g).1 = .ok d) : d.requestDisarm = true ∧ d.Still := by
  unfold tick withTime at h
  split at h
  · split at h
    · cases h
    · simp only [hfault, answer, Except.ok.injEq] at h
      rw [← h]
      exact ⟨rfl, rfl⟩
  · cases h

/-- A report that ends the session does so in every phase. -/
lemma phase_of_completes {op : Operation} (h : Completes lib g op) :
    (perform lib config op g).2.phase = .complete := by
  obtain ⟨t, statuses, rfl, ht, hone, hbound, hunbound⟩ := h
  have htime : ¬ t < 0 := not_lt.mpr ht
  have hone' : ¬ (activeEntries lib statuses).length > 1 := not_lt.mpr hone
  simp only [perform, observeGoalStatuses, withTime, htime, hone', if_false]
  by_cases hgoal : g.goalId = ""
  · obtain ⟨entry, hentry, hcancel⟩ := hunbound hgoal
    have hany : ((normalized lib statuses).any fun entry =>
        decide (entry.2 ∈ terminalCancelStatuses)) = true :=
      List.any_eq_true.mpr ⟨entry, hentry, decide_eq_true hcancel⟩
    simp only [setWitness, hgoal, ne_eq, not_true_eq_false, if_false, observeUnboundGoal, hany,
      if_true]
    rfl
  · obtain ⟨current, hcurrent, hterminal⟩ := hbound hgoal
    have hfailure : current ∉ terminalFailureStatuses := by
      simp only [terminalCancelStatuses, terminalSuccessStatuses, List.mem_cons,
        List.not_mem_nil, or_false] at hterminal
      rcases hterminal with (rfl | rfl) | rfl <;> decide
    simp only [setWitness, ne_eq, hgoal, not_false_eq_true, if_true, observeBoundGoal, hcurrent,
      hfailure, if_false]
    by_cases hcancel : current ∈ terminalCancelStatuses
    · simp only [hcancel, if_true]
      rfl
    · simp only [hcancel, if_false, hterminal.resolve_left hcancel, if_true]
      rfl

end Latch

/-! ## Sessions -/

abbrev SessionStep := Machine.Step Session SessionEvent SessionAnswer

/-- A step of a session that keeps the fault of an earlier state. -/
structure Latched (s : Session) (y : SessionStep) : Prop where
  phase : y.post.policy.phase = .fault
  reason : y.post.policy.faultReason = s.policy.faultReason
  still : ∀ d, y.output = .answered (.ok d) → d.Still
  disarms : ∀ t d, y.event = .operation (.tick t) → y.output = .answered (.ok d) →
    d.requestDisarm = true
  fails : ∀ result, y.output = .result result → result.status = .fail

/-- After the step that faults the guard, every later step keeps the fault. -/
def FaultAbsorbing (tr : List SessionStep) : Prop :=
  ∀ l x r, tr = l ++ x :: r → x.pre.policy.phase ≠ .fault → x.post.policy.phase = .fault →
    ∀ y ∈ r, Latched x.post y

/-- A step that reports the end of the session to the guard. -/
def CompletesAt (lib : Library) (y : SessionStep) : Prop :=
  ∃ op, y.event = .operation op ∧ Completes lib y.pre.policy op

section Sessions

variable {lib : Library} {config : GuardConfig}

lemma status_of_fault {s : Session} (h : s.policy.phase = .fault) (actionError : Option String)
    (measurementComplete : Bool) (validationError : Option String) :
    (s.writeTerminalResult actionError measurementComplete validationError).status = .fail := by
  simp [Session.writeTerminalResult, Session.normalSuccess, h]

/-- One step of the latch. -/
lemma latched_of_step {s : Session} {event : SessionEvent} (hfault : s.policy.phase = .fault)
    (h : ¬ CompletesAt lib ((session lib config).stepAt s event)) :
    Latched s ((session lib config).stepAt s event) := by
  by_cases hop : ∃ op, event = .operation op
  · obtain ⟨op, rfl⟩ := hop
    obtain ⟨hphase, hreason, hstill⟩ := (transition_of_perform lib config op s.policy).keeps_fault
      hfault fun hcompletes => h ⟨op, rfl, hcompletes⟩
    refine ⟨hphase, hreason, fun d hd => ?_, fun t d ht hd => ?_, fun result hresult => ?_⟩
    · exact hstill d (SessionAnswer.answered.inj hd)
    · cases ht
      exact (tick_fault hfault (SessionAnswer.answered.inj hd)).1
    · cases hresult
  · push Not at hop
    have hpolicy := session_policy lib config s event hop
    refine ⟨?_, congrArg StagedNav2Guard.faultReason hpolicy, fun d hd => ?_,
      fun t d ht => absurd ht (hop _), fun result hresult => ?_⟩
    · exact (congrArg StagedNav2Guard.phase hpolicy).trans hfault
    · cases event with
      | operation op => exact absurd rfl (hop op)
      | _ => cases hd
    · cases event with
      | writeTerminalResult actionError measurementComplete validationError =>
        cases hresult
        exact status_of_fault hfault ..
      | operation op => exact absurd rfl (hop op)
      | _ => cases hresult

/-- A faulted session without a report that ends it stays faulted for the first reason. -/
lemma latched_run {s : Session} (hfault : s.policy.phase = .fault) (events : List SessionEvent)
    (h : ∀ y ∈ (session lib config).trace s events,
      y.pre.policy.phase = .fault → ¬ CompletesAt lib y) :
    ∀ y ∈ (session lib config).trace s events, Latched s y := by
  induction events generalizing s with
  | nil =>
    intro y hy
    cases hy
  | cons event events ih =>
    have hstep : Latched s ((session lib config).stepAt s event) :=
      latched_of_step hfault (h _ (by simp [Machine.trace]) hfault)
    intro y hy
    rcases List.mem_cons.mp hy with rfl | hy
    · exact hstep
    · obtain ⟨hphase, hreason, hstill, hdisarms, hfails⟩ :=
        ih hstep.phase (fun z hz => h z (List.mem_cons_of_mem _ hz)) y hy
      exact ⟨hphase, hreason.trans hstep.reason, hstill, hdisarms, hfails⟩

/-- A session that is faulted at its end was faulted by one of its steps. -/
lemma fault_entered (config : GuardConfig) (events : List SessionEvent)
    (h : ((session lib config).final (Session.start config) events).policy.phase = .fault) :
    ∃ l x r, (session lib config).trace (Session.start config) events = l ++ x :: r ∧
      x.pre.policy.phase ≠ .fault ∧ x.post.policy.phase = .fault := by
  revert h
  refine (session lib config).history_induction (motive := fun tr s =>
    s.policy.phase = .fault → ∃ l x r, tr = l ++ x :: r ∧ x.pre.policy.phase ≠ .fault ∧
      x.post.policy.phase = .fault) ?_ ?_ events
  · intro h
    simp only [Session.start, fresh] at h
    split at h <;> cases h
  · intro tr s event ih h
    by_cases hpre : s.policy.phase = .fault
    · obtain ⟨l, x, r, rfl, hx⟩ := ih hpre
      exact ⟨l, x, r ++ [(session lib config).stepAt s event], by simp, hx⟩
    · exact ⟨tr, (session lib config).stepAt s event, [], rfl, hpre, h⟩

/-- **When a fault of the guard is absorbing.**  In a session the fault stays for its first
reason, no later tick fails to disarm, nothing moves and the result is a failure, exactly
when no report of the action server ends the session of a faulted guard. -/
theorem faultAbsorbing_iff (lib : Library) (config : GuardConfig) (events : List SessionEvent) :
    FaultAbsorbing ((session lib config).trace (Session.start config) events) ↔
      ∀ y ∈ (session lib config).trace (Session.start config) events,
        y.pre.policy.phase = .fault → ¬ CompletesAt lib y := by
  constructor
  · intro h y hy hfault hcompletes
    obtain ⟨l, r, htr⟩ := List.append_of_mem hy
    obtain ⟨before, after, -, hl, hye, -⟩ := (session lib config).trace_eq_append_cons htr
    have hpre : y.pre = (session lib config).final (Session.start config) before := by
      rw [hye]
      rfl
    rw [hpre] at hfault
    obtain ⟨l', x, m, hm, hxpre, hxpost⟩ := fault_entered config before hfault
    rw [htr, hl, hm] at h
    have hlatched := h l' x (m ++ y :: r) (by simp) hxpre hxpost y (by simp)
    obtain ⟨op, hevent, hcompletes⟩ := hcompletes
    have hpost : y.post.policy.phase = .complete := by
      rw [hye, hevent]
      exact phase_of_completes (hpre ▸ hcompletes)
    cases hlatched.phase.symm.trans hpost
  · intro h l x r htr _ hpost
    obtain ⟨before, after, -, -, -, hr⟩ := (session lib config).trace_eq_append_cons htr
    rw [hr]
    refine latched_run hpost after fun y hy => h y ?_
    rw [htr, hr]
    simp [hy]

end Sessions

/-! ## A session that passes after a fault -/

/-- A library for plain texts and for positions on an axis. -/
def plainLibrary : Library where
  loads _ := none
  parseFloat _ := none
  strip text := text
  upper text := text
  lower text := text
  hypot x y := .fin (|x| + |y|)

def missionPermit : ExpectedGoalClaim where
  sessionId := "session-0001"
  pairId := "pair-000001"
  source := "operator_reviewed_short_goal"
  targetId := "target"
  mapId := "map-000001"
  generation := 1
  xM := 1
  yM := 0
  yawRad := 0
  startXM := 0
  startYM := 0
  evidenceSha256 := "0000000000000000000000000000000000000000000000000000000000000000"

def missionConfig : GuardConfig where
  enabled := true
  expectedGoal := some missionPermit
  allowedModes := [0]

def missionUuid : String := "0123456789abcdef0123456789abcdef"

/-- The claim that the permit of the mission asks for. -/
def missionClaim : PyValue :=
  .dict [("schema", .str goalClaimSchema), ("session_id", .str "session-0001"),
    ("pair_id", .str "pair-000001"), ("source", .str "operator_reviewed_short_goal"),
    ("target_id", .str "target"), ("map_id", .str "map-000001"), ("generation", .int 1),
    ("pose", .dict [("x", .int 1), ("y", .int 0), ("yaw", .int 0)]),
    ("goal_evidence_sha256",
      .str "0000000000000000000000000000000000000000000000000000000000000000"),
    ("goal_uuid", .str missionUuid)]

def chassisReport (guardState : String) (daemonArmed : Bool) : ChassisStatus where
  guardState := guardState
  daemonArmed := .bool daemonArmed
  motionConfigured := .bool true
  motionProfile := StagedNav2Guard.motionProfile
  odomSource := "external_verified"

/-- The goal is claimed, the chassis arms, and the first command is forwarded. -/
def missionStart : List Operation :=
  [.observeState (.fin 0) (.int 0) (.int 0) none,
    .observeOdom (.fin 0) (.fin 0) (.fin 0) none,
    .observe "tf" (.fin 0) none,
    .observe "scan" (.fin 0) none,
    .observeLocalization (.fin 0) "map" (.fin 0) (.fin 0) (.fin 0) none,
    .observe "map" (.fin 0) none,
    .observeMapLifecycle (.fin 0) "map-000001" "localization" (.int 1),
    .observeOwnership (.fin 0) [expectedControllerNode] [guardNode] [expectedChassisNode] 0,
    .observeChassisStatus (.fin 0) (chassisReport "DISARMED" false),
    .observeGoalClaim (.fin 0) missionClaim [],
    .observeGoalStatuses (.fin 0) [(missionUuid, "executing")],
    .confirmArm true (.fin 0.1),
    .observeChassisStatus (.fin 0.6) (chassisReport "ARMED" true),
    .command (.fin 0.7) (.fin 0.1) (.fin 0) (.fin 0)]

/-- While the node stops, the goal of the faulted guard succeeds. -/
def missionStop : List SessionEvent :=
  List.replicate 5 .publishStopZero ++
    [.operation (.observeGoalStatuses (.fin 0.8) [(missionUuid, "succeeded")])] ++
    List.replicate 5 .publishStopZero ++
    [.requireCancel, .disarmRequested true, .disarmAnswered,
      .operation (.observeChassisStatus (.fin 1) (chassisReport "DISARMED" false)),
      .measureDisarmed, .observePostStop true]

/-- A fault that is followed by the success of the goal ends with a session that passes. -/
theorem not_faultAbsorbing_mission : ¬ ∀ lib config events,
    FaultAbsorbing ((session lib config).trace (Session.start config) events) := by
  intro h
  let before := missionStart.map SessionEvent.operation
  let fault := SessionEvent.operation (.disconnect "odom_measurement_payload_invalid")
  have hrun := h plainLibrary missionConfig
    (before ++ fault :: (missionStop ++ [.writeTerminalResult none true none]))
  let machine := session plainLibrary missionConfig
  let x := machine.stepAt (machine.final (Session.start missionConfig) before) fault
  have htr := machine.trace_append (Session.start missionConfig) before
    (fault :: (missionStop ++ [.writeTerminalResult none true none]))
  have hlatched := hrun _ x _ htr (by decide +kernel) (by decide +kernel)
    (machine.stepAt (machine.final x.post missionStop) (.writeTerminalResult none true none))
    (by
      rw [show machine.trace _ (missionStop ++ [.writeTerminalResult none true none]) = _ from
        machine.trace_concat ..]
      simp only [List.mem_append, List.mem_singleton]
      exact .inr rfl)
  have hfail := hlatched.fails _ rfl
  revert hfail
  decide +kernel

end UnitreeGo2.StagedNav2
