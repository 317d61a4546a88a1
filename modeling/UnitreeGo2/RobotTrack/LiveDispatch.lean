import UnitreeGo2.RobotTrack.MeasuredPairs

/-!
# What the node dispatches

Whatever the threads of the node do in between, a command on the selected topic is computed in
the dispatch that publishes it, from a plan and a measurement that are young enough then.
-/

open Machine

namespace UnitreeGo2.RobotTrack

open RobotTrackNode

variable {σ I ι : Type} {cfg : NodeConfig} {strip : String → String}
  {est : DistanceEstimator σ (RgbdFramePair I) DistanceEstimate ι} {n : RobotTrackNode σ I}
  {t now : ℚ} {tr b : List (NodeStep σ I ι)} {x : NodeStep σ I ι}

/-! ## What a dispatch publishes -/

/-- A plan with the bounded command is young enough at that time. -/
def FromPlan (cfg : NodeConfig) (tr : List (NodeStep σ I ι)) (now : ℚ)
    (command : VelocityCommand) : Prop :=
  ∃ arrival, Planned cfg tr arrival command ∧ now - arrival ≤ cfg.maxPlanAgeS

/-- What the distance control of a dispatch makes of the command of a plan, after the steps `b`
of the dispatch. -/
structure Follows (tr b : List (NodeStep σ I ι)) (now : ℚ) (command raw : VelocityCommand)
    (controller : FixedDistanceController) : Prop where
  /-- The controller was that of the runtime in the dispatch. -/
  held : ∃ y ∈ b, ∃ z ∈ b,
    z.pre.runtime.controllerAt y.pre.runtime.replaced.length = some controller
  yaw : raw.wz = command.wz
  disabled : controller.config.enabled = false → raw = command
  bounded : controller.config.enabled = true → ∃ vx : ℚ, raw.vx = .fin vx ∧
    -controller.config.maxReverseMps ≤ vx ∧ vx ≤ controller.config.maxForwardMps
  /-- The robot stands still unless the runtime is active and has a measurement to trust, of a
  pair of young frames. -/
  measured : controller.config.enabled = true → raw.vx ≠ 0 → ∃ y ∈ b,
    y.pre.runtime.active = true ∧ ∃ m pair distance, y.pre.runtime.measurement = some m ∧
      Measured tr m pair ∧
      FixedDistanceController.Usable controller.config m (some (.number (.fin now))) now distance ∧
      ∀ stream, now - (pair.frame stream).receivedMonotonic ≤
          controller.config.maxMeasurementAgeS ∧
        ∃ z ∈ tr, Brings stream (pair.frame stream) z

/-- What holds of the commands that a run of the node publishes. -/
structure DispatchesLive (cfg : NodeConfig) (tr : List (NodeStep σ I ι)) : Prop where
  /-- A raw command is zero, or comes from a plan within the dispatch that publishes it. -/
  planned : ∀ l x r now raw selection, tr = l ++ x :: r →
    x.output = .published now raw selection → cfg.live = true ∧
      ∃ a s b, l = a ++ s :: b ∧ s.event = (now, .timer) ∧
        (∀ z ∈ b, z.pre.executor.now = some now) ∧
        (raw = ZERO_COMMAND ∨ ∃ command, FromPlan cfg l now command ∧
          (cfg.distanceEnabled = false ∧ raw = command ∨
            cfg.distanceEnabled = true ∧ ∃ controller, Follows l b now command raw controller))
  turning : ∀ x ∈ tr, ∀ now raw selection, x.output = .published now raw selection →
    ∃ wz : ℚ, raw.wz = .fin wz ∧ |wz| ≤ cfg.maxWz
  /-- What is put out for the selected source has entered the mux not too long ago, and for the
  tracker at the very time of the dispatch. -/
  selected : ∀ l x r now raw selection, tr = l ++ x :: r →
    x.output = .published now raw selection → selection.selectedSource = cfg.selectedSource ∧
      (selection.command ≠ ZERO_TWIST → ∃ y ∈ l ++ [x], ∃ received,
        Enters cfg.selectedSource received selection.command y ∧ received ≤ now ∧
        now - received ≤ cfg.sourceMaxAgeS ∧
        (cfg.selectedSource = .robottrack → received = now))
  /-- Nothing is published once the node closes. -/
  closed : ∀ l y m x r now raw selection, tr = l ++ y :: (m ++ x :: r) →
    y.post.worker.closed = true → x.output ≠ .published now raw selection

/-! ## The distance control of a dispatch -/

/-- What a call of `apply` has read under its first lock. -/
def Reads (tr b : List (NodeStep σ I ι)) (index : ℕ) (active : Bool)
    (measurement : Option DistanceMeasurement) : Prop :=
  (∃ y ∈ b, index = y.pre.runtime.replaced.length ∧ active = y.pre.runtime.active ∧
    measurement = y.pre.runtime.measurement) ∧
  ∀ m, measurement = some m → ∃ pair, Measured tr m pair

/-- What a call of `apply` has computed from it. -/
def Controlled (tr b : List (NodeStep σ I ι)) (now : ℚ) (command raw : VelocityCommand) : Prop :=
  ∃ index active measurement, Reads tr b index active measurement ∧ ∃ z ∈ b, ∃ controller,
    z.pre.runtime.controllerAt index = some controller ∧
      raw = (FollowDistanceRuntime.applyTo controller active command measurement
        (some (.number (.fin now))) z.event.1).command

/-- What a dispatch knows at each of its places. -/
def DispatchKnows (cfg : NodeConfig) (tr b : List (NodeStep σ I ι)) : Callback I → Prop
  | .applying now command => cfg.distanceEnabled = true ∧ FromPlan cfg tr now command
  | .computing now command index active measurement =>
    cfg.distanceEnabled = true ∧ FromPlan cfg tr now command ∧ Reads tr b index active measurement
  | .recording now _ result =>
    cfg.distanceEnabled = true ∧
      ∃ command, FromPlan cfg tr now command ∧ Controlled tr b now command result.command
  | .rechecking now raw _ | .reexpiring now raw _ =>
    cfg.distanceEnabled = true ∧
      ∃ command, FromPlan cfg tr now command ∧ Controlled tr b now command raw
  | .publishing now raw _ => raw = ZERO_COMMAND ∨ ∃ command, FromPlan cfg tr now command ∧
      (cfg.distanceEnabled = false ∧ raw = command ∨
        cfg.distanceEnabled = true ∧ Controlled tr b now command raw)
  | _ => True

lemma FromPlan.concat {command : VelocityCommand} (h : FromPlan cfg tr now command) :
    FromPlan cfg (tr ++ [x]) now command := by
  obtain ⟨arrival, hplanned, hage⟩ := h
  exact ⟨arrival, hplanned.concat, hage⟩

lemma Reads.concat {index : ℕ} {active : Bool} {measurement : Option DistanceMeasurement}
    (h : Reads tr b index active measurement) (hx : ¬ Invalidates x) :
    Reads (tr ++ [x]) (b ++ [x]) index active measurement := by
  obtain ⟨⟨y, hy, hread⟩, hmeasured⟩ := h
  refine ⟨⟨y, List.mem_append_left _ hy, hread⟩, fun m hm => ?_⟩
  obtain ⟨pair, hpair⟩ := hmeasured m hm
  exact ⟨pair, hpair.concat hx⟩

lemma Controlled.concat {command raw : VelocityCommand} (h : Controlled tr b now command raw)
    (hx : ¬ Invalidates x) : Controlled (tr ++ [x]) (b ++ [x]) now command raw := by
  obtain ⟨index, active, measurement, hreads, z, hz, hcomputed⟩ := h
  exact ⟨index, active, measurement, hreads.concat hx, z, List.mem_append_left _ hz, hcomputed⟩

lemma DispatchKnows.concat {callback : Callback I} (h : DispatchKnows cfg tr b callback)
    (hx : ¬ Invalidates x) : DispatchKnows cfg (tr ++ [x]) (b ++ [x]) callback := by
  cases callback with
  | applying now command => exact ⟨h.1, h.2.concat⟩
  | computing now command index active measurement =>
    exact ⟨h.1, h.2.1.concat, h.2.2.concat hx⟩
  | recording now index result =>
    obtain ⟨henabled, command, hplan, hcontrolled⟩ := h
    exact ⟨henabled, command, hplan.concat, hcontrolled.concat hx⟩
  | rechecking now raw reason | reexpiring now raw reason =>
    obtain ⟨henabled, command, hplan, hcontrolled⟩ := h
    exact ⟨henabled, command, hplan.concat, hcontrolled.concat hx⟩
  | publishing now raw reason =>
    rcases h with hzero | ⟨command, hplan, hdisabled | ⟨henabled, hcontrolled⟩⟩
    · exact Or.inl hzero
    · exact Or.inr ⟨command, hplan.concat, Or.inl hdisabled⟩
    · exact Or.inr ⟨command, hplan.concat, Or.inr ⟨henabled, hcontrolled.concat hx⟩⟩
  | _ => trivial

/-- A plan that is dispatched is young enough. -/
lemma fromPlan_of_dispatch (h : PlanInv cfg tr n)
    (hactive : (n.plans.dispatch cfg.maxPlanAgeS now).reason = "active_plan") :
    FromPlan cfg tr now (n.plans.dispatch cfg.maxPlanAgeS now).command := by
  rw [PlanStore.dispatch] at hactive ⊢
  cases hplan : n.plans.plan with
  | none =>
    rw [hplan] at hactive
    have hreason : "no_plan" = "active_plan" := hactive
    exact absurd hreason (by decide)
  | some command =>
    rw [hplan] at hactive
    dsimp only at hactive ⊢
    split at hactive
    · have hreason : "stale_plan" = "active_plan" := hactive
      exact absurd hreason (by decide)
    · rename_i hage
      rw [if_neg hage]
      exact ⟨_, h.plan command hplan, (le_max_right 0 _).trans (not_lt.mp hage)⟩

/-- The executor goes on in a dispatch with what it knows then. -/
lemma dispatchKnows_proceed (h : DispatchKnows cfg tr b n.executor) (hplans : PlanInv cfg tr n)
    (hmeasured : ∀ m, n.runtime.measurement = some m → (∃ pair, Measured tr m pair) ∨
      ∃ status detail, n.executor = .clearing status detail)
    (hruntime : x.pre.runtime = n.runtime) (htime : x.event.1 = t) (hx : ¬ Invalidates x) :
    DispatchKnows cfg (tr ++ [x]) (b ++ [x]) (n.proceed cfg strip t).2.executor := by
  rw [proceed]
  cases hexec : n.executor with
  | reading now =>
    dsimp only [goTo]
    split_ifs with hreason hdisabled
    · exact Or.inl rfl
    · exact Or.inr ⟨_, (fromPlan_of_dispatch hplans (not_not.mp hreason)).concat,
        Or.inl ⟨hdisabled, rfl⟩⟩
    · exact ⟨Bool.not_eq_false _ ▸ hdisabled,
        (fromPlan_of_dispatch hplans (not_not.mp hreason)).concat⟩
  | applying now command =>
    rw [hexec] at h
    refine ⟨h.1, h.2.concat, ⟨x, by simp, ?_⟩, fun m hm => ?_⟩
    · rw [hruntime]
      exact ⟨rfl, rfl, rfl⟩
    · rcases hmeasured m hm with ⟨pair, hpair⟩ | ⟨status, detail, hclearing⟩
      · exact ⟨pair, hpair.concat hx⟩
      · cases hexec.symm.trans hclearing
  | computing now command index active measurement =>
    rw [hexec] at h
    obtain ⟨henabled, hplan, hreads⟩ := h
    dsimp only
    split
    · rw [hexec]
      exact ⟨henabled, hplan.concat, hreads.concat hx⟩
    · rename_i controller hcontroller
      refine ⟨henabled, command, hplan.concat, index, active, measurement, hreads.concat hx,
        x, by simp, controller, ?_, ?_⟩
      · rw [hruntime]
        exact hcontroller
      · rw [htime]
  | recording now index result =>
    rw [hexec] at h
    obtain ⟨henabled, command, hplan, hcontrolled⟩ := h
    dsimp only [goTo]
    split_ifs
    · exact ⟨henabled, command, hplan.concat, hcontrolled.concat hx⟩
    · exact Or.inr ⟨command, hplan.concat, Or.inr ⟨henabled, hcontrolled.concat hx⟩⟩
  | rechecking now raw reason =>
    rw [hexec] at h
    obtain ⟨henabled, command, hplan, hcontrolled⟩ := h
    dsimp only [goTo]
    split_ifs
    · exact ⟨henabled, command, hplan.concat, hcontrolled.concat hx⟩
    · exact Or.inr ⟨command, hplan.concat, Or.inr ⟨henabled, hcontrolled.concat hx⟩⟩
  | reexpiring now raw reason =>
    rw [hexec] at h
    obtain ⟨henabled, command, hplan, hcontrolled⟩ := h
    exact Or.inr ⟨command, hplan.concat, Or.inr ⟨henabled, hcontrolled.concat hx⟩⟩
  | publishing now command reason =>
    dsimp only
    rw [publish]
    split
    · trivial
    · split <;> trivial
  | clearingPlans =>
    dsimp only [goTo]
    split_ifs <;> trivial
  | idle | closed =>
    dsimp only
    rw [hexec]
    trivial
  | _ => trivial

/-- A dispatch that is under way, since its timer. -/
def Dispatching (cfg : NodeConfig) (tr : List (NodeStep σ I ι)) (n : RobotTrackNode σ I) : Prop :=
  ∀ now, n.executor.now = some now → ∃ a s b, tr = a ++ s :: b ∧ s.event = (now, .timer) ∧
    (∀ z ∈ b, z.pre.executor.now = some now) ∧ DispatchKnows cfg tr b n.executor

lemma not_invalidates_of_now (h : x.pre.executor.now = some now) : ¬ Invalidates x := by
  rintro ⟨status, detail, hpre, -⟩
  rw [hpre] at h
  cases h

lemma dispatching_step (h : Dispatching cfg tr n) (hplans : PlanInv cfg tr n)
    (hmeasured : ∀ m, n.runtime.measurement = some m → (∃ pair, Measured tr m pair) ∨
      ∃ status detail, n.executor = .clearing status detail) (event : ℚ × NodeEvent I ι) :
    Dispatching cfg (tr ++ [(robotTrackNode cfg strip est).stepAt n event])
      ((robotTrackNode cfg strip est).step n event).2 := by
  obtain ⟨t, event⟩ := event
  intro now hnow
  rcases step_executor cfg strip est n t event with
    hsame | ⟨-, ⟨rfl, heq⟩ | ⟨hidle, heq⟩⟩
  · rw [hsame] at hnow ⊢
    obtain ⟨a, s, b, htr, hs, hb, hknows⟩ := h now hnow
    refine ⟨a, s, b ++ [(robotTrackNode cfg strip est).stepAt n (t, event)], ?_, hs, ?_,
      hknows.concat (not_invalidates_of_now hnow)⟩
    · rw [htr]
      simp
    · intro z hz
      rcases List.mem_append.mp hz with hz | hz
      · exact hb z hz
      · rw [List.mem_singleton.mp hz]
        exact hnow
  · rw [heq] at hnow ⊢
    rcases proceed_now cfg strip t { n with clock := t } with
      hkept | hleft
    · have hpre : n.executor.now = some now := hkept.symm.trans hnow
      obtain ⟨a, s, b, htr, hs, hb, hknows⟩ := h now hpre
      refine ⟨a, s, b ++ [(robotTrackNode cfg strip est).stepAt n (t, .proceed)], ?_, hs, ?_, ?_⟩
      · rw [htr]
        simp
      · intro z hz
        rcases List.mem_append.mp hz with hz | hz
        · exact hb z hz
        · rw [List.mem_singleton.mp hz]
          exact hpre
      · exact dispatchKnows_proceed (n := { n with clock := t }) hknows
          ⟨hplans.plan, hplans.storing⟩ hmeasured rfl rfl (not_invalidates_of_now hpre)
    · cases hleft.symm.trans hnow
  · rw [heq] at hnow ⊢
    rcases callback_now cfg t (n := { n with clock := t }) hidle event with
      hnone | ⟨rfl, hexpiring⟩
    · cases hnone.symm.trans hnow
    · dsimp only at hnow ⊢
      rw [hexpiring] at hnow ⊢
      obtain rfl := Option.some.inj hnow
      exact ⟨tr, _, [], rfl, rfl, by simp, trivial⟩

/-! ## What is published -/

lemma apply_disabled {controller : FixedDistanceController}
    (h : controller.config.enabled = false) (command : VelocityCommand)
    (measurement : Option DistanceMeasurement) (nowMonotonic : Option FloatInput) (monotonic : ℚ) :
    (controller.apply command measurement nowMonotonic monotonic).command = command := by
  simp only [FixedDistanceController.apply, h, if_true]

/-- The clock that a call of `apply` may read does not matter to one that is given a time. -/
lemma usable_of_now {config : DistanceControlConfig} {m : DistanceMeasurement} {value : FloatInput}
    {t t' distance : ℚ} (h : FixedDistanceController.Usable config m (some value) t distance) :
    FixedDistanceController.Usable config m (some value) t' distance where
  distance_eq := h.distance_eq
  distance_pos := h.distance_pos
  confident := h.confident
  fresh := by
    obtain ⟨received, current, hreceived, ⟨hnone, -⟩ | hcurrent, hfresh⟩ := h.fresh
    · cases hnone
    · exact ⟨received, current, hreceived, Or.inr hcurrent, hfresh⟩

/-- The frames of a pair that a usable measurement was made of are young enough. -/
lemma frames_young {config : DistanceControlConfig} {m : DistanceMeasurement}
    {pair : RgbdFramePair I} {t distance : ℚ} (hmeasured : Measured tr m pair)
    (h : FixedDistanceController.Usable config m (some (.number (.fin now))) t distance)
    (stream : RgbdStream) :
    now - (pair.frame stream).receivedMonotonic ≤ config.maxMeasurementAgeS := by
  obtain ⟨-, y, -, epoch, estimate, -, -, distance', -, rfl⟩ := hmeasured
  obtain ⟨received, current, hreceived, ⟨hnone, -⟩ | hcurrent, -, hage⟩ := h.fresh
  · cases hnone
  cases hcurrent
  cases hreceived
  have hmin : pair.receivedMonotonic ≤ (pair.frame stream).receivedMonotonic := by
    cases stream with
    | rgb => exact min_le_left _ _
    | depth => exact min_le_right _ _
  linarith

/-- A velocity that the distance control gives follows the law. -/
lemma follows_of_controlled {command raw : VelocityCommand}
    (h : Controlled tr b now command raw)
    (hbrought : ∀ pair, Current tr pair → ∀ stream, ∃ z ∈ tr, Brings stream (pair.frame stream) z) :
    ∃ controller, Follows tr b now command raw controller := by
  obtain ⟨index, active, measurement, ⟨⟨y, hy, rfl, rfl, rfl⟩, hmeasured⟩, z, hz, controller,
    hcontroller, hraw⟩ := h
  rw [FollowDistanceRuntime.applyTo] at hraw
  refine ⟨controller, ⟨y, hy, z, hz, hcontroller⟩, ?_, ?_, ?_, ?_⟩
  · split at hraw
    · rw [hraw]
    · cases henabled : controller.config.enabled with
      | true =>
        rw [hraw]
        exact (FixedDistanceController.holdsDistance henabled).yaw _ _ _ _
      | false =>
        rw [hraw, apply_disabled henabled]
  · intro hdisabled
    rw [if_neg (by simp [hdisabled]), apply_disabled hdisabled] at hraw
    exact hraw
  · intro henabled
    split at hraw
    · refine ⟨0, by rw [hraw]; rfl, ?_, controller.config.maxForward_nonneg⟩
      linarith [controller.config.maxReverse_nonneg]
    · rw [hraw]
      exact (FixedDistanceController.holdsDistance henabled).bounded _ _ _ _
  · intro henabled hmoves
    split at hraw
    · exact absurd (by rw [hraw]) hmoves
    rename_i hactive
    have hrunning : y.pre.runtime.active = true := by
      by_contra hinactive
      exact hactive ⟨henabled, Bool.not_eq_true _ ▸ hinactive⟩
    by_contra hnone
    -- without such a measurement the controller stops
    have hstops := (FixedDistanceController.holdsDistance henabled).stops command
      y.pre.runtime.measurement (some (.number (.fin now))) z.event.1 ?_
    · exact hmoves (by rw [hraw]; exact hstops)
    intro m distance hm husable
    exfalso
    obtain ⟨pair, hpair⟩ := hmeasured m hm
    refine hnone ⟨y, hy, hrunning, m, pair, distance, hm, hpair, usable_of_now husable, ?_⟩
    intro stream
    exact ⟨frames_young hpair husable stream, hbrought pair hpair.1 stream⟩


/-- What a publication looks like. -/
lemma publishing_of_published {event : ℚ × NodeEvent I ι} {raw : VelocityCommand}
    {selection : MuxSelection}
    (h : ((robotTrackNode cfg strip est).step n event).1 = .published now raw selection) :
    cfg.live = true ∧ ∃ reason mux, n.executor = .publishing now raw reason ∧
      n.mux.update .robottrack (velocityTwist raw) now = .ok mux ∧ selection = mux.output now := by
  obtain ⟨t, event⟩ := event
  rcases step_segment cfg strip est n t event with heq | ⟨-, hsegment⟩
  · rw [heq] at h
    cases h
  generalize (robotTrackNode cfg strip est).step n (t, event) = s at hsegment h
  cases hsegment with
  | proceed =>
    rw [proceed] at h
    cases hexec : n.executor with
    | publishing now' command reason =>
      rw [hexec] at h
      dsimp only at h
      rw [publish] at h
      split at h
      · cases h
      rename_i hlive
      split at h
      · cases h
      · rename_i mux hupdate
        cases h
        exact ⟨Bool.not_eq_false _ ▸ hlive, reason, mux, rfl, hupdate, rfl⟩
    | computing now command index active measurement =>
      rw [hexec] at h
      dsimp only at h
      split at h <;> cases h
    | _ =>
      rw [hexec] at h
      cases h
  | work input =>
    rw [work] at h
    split at h <;> cases h
  | _ => cases h

/-- A command of a plan turns within its bound. -/
lemma wz_of_clipped {raw command : VelocityCommand} {maxVx maxWz : ℚ} (hpos : 0 < maxWz)
    (h : raw.clipped maxVx maxWz = .ok command) :
    ∃ wz : ℚ, command.wz = .fin wz ∧ |wz| ≤ maxWz := by
  obtain ⟨vx, -, h⟩ := Except.bind_eq_ok_iff.mp h
  obtain ⟨wz, -, h⟩ := Except.bind_eq_ok_iff.mp h
  obtain rfl := Except.ok.inj h
  refine ⟨_, rfl, abs_le.mpr ⟨le_max_left _ _, max_le (by linarith) (min_le_left _ _)⟩⟩

/-- The worker does not open again. -/
lemma closed_step (h : n.worker.closed = true) (event : ℚ × NodeEvent I ι) :
    ((robotTrackNode cfg strip est).step n event).2.worker.closed = true := by
  rw [step_worker]
  cases workerEvent cfg n event with
  | none => exact h
  | some e =>
    rw [Option.elim_some]
    cases e with
    | start =>
      show n.worker.start.closed = true
      rw [RgbdDistanceWorker.start]
      split
      · split <;> exact h
      · exact h
    | submit pair =>
      show (n.worker.submit pair).2.closed = true
      rw [RgbdDistanceWorker.submit]
      split <;> exact h
    | invalidate =>
      show n.worker.invalidate.2.closed = true
      rw [RgbdDistanceWorker.invalidate]
      split <;> exact h
    | requestStop => exact h
    | close => rfl
    | work input => exact (work_closed n.worker input).trans h

section Runs

variable {estimator : σ} {runtime : FollowDistanceRuntime} {clock : ℚ}

lemma planInv_run (events : List (ℚ × NodeEvent I ι)) :
    PlanInv cfg ((robotTrackNode cfg strip est).trace (.new cfg estimator runtime clock) events)
      ((robotTrackNode cfg strip est).final (.new cfg estimator runtime clock) events) :=
  (robotTrackNode cfg strip est).history_induction (motive := PlanInv cfg)
    ⟨fun _ h => (by cases h), fun _ _ h => (by cases h)⟩ (fun _ _ event h => planInv_step h event)
    events

lemma nodeMuxInv_run (events : List (ℚ × NodeEvent I ι)) :
    NodeMuxInv cfg ((robotTrackNode cfg strip est).trace (.new cfg estimator runtime clock) events)
      ((robotTrackNode cfg strip est).final (.new cfg estimator runtime clock) events) := by
  refine (robotTrackNode cfg strip est).history_induction (motive := NodeMuxInv cfg) ?_
    (fun _ _ event h => nodeMuxInv_step h event) events
  exact ⟨rfl, rfl, fun _ _ h => (by cases h), fun _ _ h => (by cases h),
    fun _ _ _ h => (by cases h), fun _ h => (by cases h)⟩

lemma dispatching_run (cfg : NodeConfig) (strip : String → String)
    (est : DistanceEstimator σ (RgbdFramePair I) DistanceEstimate ι) (estimator : σ)
    (runtime : FollowDistanceRuntime) (clock : ℚ) (events : List (ℚ × NodeEvent I ι)) :
    Dispatching cfg ((robotTrackNode cfg strip est).trace (.new cfg estimator runtime clock) events)
      ((robotTrackNode cfg strip est).final (.new cfg estimator runtime clock) events) := by
  induction events using List.reverseRecOn with
  | nil =>
    intro now h
    cases h
  | append_singleton events event ih =>
    rw [trace_concat, final_concat]
    exact dispatching_step ih (planInv_run events) (measured_run events) event

lemma closed_run (cfg : NodeConfig) (strip : String → String)
    (est : DistanceEstimator σ (RgbdFramePair I) DistanceEstimate ι)
    (events : List (ℚ × NodeEvent I ι)) (h : n.worker.closed = true) :
    ((robotTrackNode cfg strip est).final n events).worker.closed = true :=
  (robotTrackNode cfg strip est).history_induction
    (motive := fun _ n => n.worker.closed = true) h (fun _ _ event h => closed_step h event) events

/-- What the mux puts out at the end of a dispatch. -/
lemma selected_of_update {mux : CommandSourceMux} {raw : VelocityCommand}
    (h : NodeMuxInv cfg tr n) (hnow : n.executor.now = some now)
    (hupdate : n.mux.update .robottrack (velocityTwist raw) now = .ok mux)
    (hx : ∃ selection, x.output = .published now raw selection) :
    (mux.output now).selectedSource = cfg.selectedSource ∧
      ((mux.output now).command ≠ ZERO_TWIST → ∃ y ∈ tr ++ [x], ∃ received,
        Enters cfg.selectedSource received (mux.output now).command y ∧ received ≤ now ∧
        now - received ≤ cfg.sourceMaxAgeS ∧
        (cfg.selectedSource = .robottrack → received = now)) := by
  have hbefore : ∀ entry, n.mux.latest cfg.selectedSource = some entry →
      ∃ y ∈ tr ++ [x], Enters cfg.selectedSource entry.received entry.command y := by
    intro entry hentry
    obtain ⟨y, hy, henters⟩ := h.entered _ entry hentry
    exact ⟨y, List.mem_append_left _ hy, henters⟩
  rw [CommandSourceMux.output_selectedSource]
  rcases update_cases hupdate with ⟨⟨previous, hprevious, hle⟩, rfl⟩ | ⟨-, rfl⟩
  · refine ⟨h.selected, fun hcommand => ?_⟩
    obtain ⟨entry, hentry, heq, hage⟩ := CommandSourceMux.output_command hcommand
    rw [h.selected] at hentry
    rw [h.maxAge] at hage
    obtain ⟨y, hy, henters⟩ := hbefore entry hentry
    rw [heq]
    refine ⟨y, hy, entry.received, henters, h.before now _ entry hnow hentry, hage,
      fun hsource => ?_⟩
    -- the mux has dropped the command for one that is as new
    rw [hsource] at hentry
    obtain rfl := Option.some.inj (hprevious.symm.trans hentry)
    exact le_antisymm (h.before now _ _ hnow hentry) hle
  · rw [CommandSourceMux.store_selectedSource]
    refine ⟨h.selected, fun hcommand => ?_⟩
    obtain ⟨entry, hentry, heq, hage⟩ := CommandSourceMux.output_command hcommand
    rw [CommandSourceMux.store_selectedSource, h.selected, CommandSourceMux.store_latest] at hentry
    rw [CommandSourceMux.store_maxAgeS, h.maxAge] at hage
    rw [heq]
    split at hentry
    · rename_i hsource
      obtain rfl := Option.some.inj hentry
      obtain ⟨selection, houtput⟩ := hx
      refine ⟨x, by simp, now, ?_, le_rfl, hage, fun _ => rfl⟩
      rw [hsource]
      exact Or.inr ⟨raw, selection, houtput, rfl⟩
    · rename_i hsource
      obtain ⟨y, hy, henters⟩ := hbefore entry hentry
      exact ⟨y, hy, entry.received, henters, h.before now _ entry hnow hentry, hage,
        fun h => absurd h hsource⟩

end Runs

end UnitreeGo2.RobotTrack
