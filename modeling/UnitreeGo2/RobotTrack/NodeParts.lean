import UnitreeGo2.RobotTrack.RobotTrackNode

/-!
# The parts of the RobotTrack node

The distance worker and the frame pairer move in the node as they do alone, so what holds of
their runs holds of them in the node.
-/

namespace UnitreeGo2.RobotTrack

variable {σ I ι : Type}

abbrev NodeStep (σ I ι : Type) :=
  Machine.Step (RobotTrackNode σ I) (ℚ × NodeEvent I ι) (NodeOutput I)

namespace RobotTrackNode

/-- What an event makes the distance worker do. -/
def workerEvent (cfg : NodeConfig) (n : RobotTrackNode σ I) (event : ℚ × NodeEvent I ι) :
    Option (WorkerEvent (RgbdFramePair I) ι) :=
  if event.1 < n.clock then none
  else
    match event.2, n.executor with
    | .work input, _ => some (.work input)
    | .proceed, .constructing => if cfg.distanceEnabled then some .start else none
    | .proceed, .submitting pair => some (.submit pair)
    | .proceed, .invalidating _ _ => some .invalidate
    | .proceed, .stoppingWorker => if cfg.distanceEnabled then some .requestStop else none
    | .proceed, .publishing now command _ =>
      if cfg.live then
        match n.mux.update .robottrack (velocityTwist command) now with
        | .error _ => some .close
        | .ok _ => none
      else none
    | .close, .idle => some .close
    | _, _ => none

/-- What an event makes the pairer do. -/
def pairerEvent (cfg : NodeConfig) (n : RobotTrackNode σ I) (event : ℚ × NodeEvent I ι) :
    Option (PairerEvent I) :=
  if event.1 < n.clock then none
  else
    match event.2, n.executor with
    | .image (some (image, source)), .idle =>
      if cfg.distanceEnabled then some (.offer .rgb image source event.1) else none
    | .depth (.ok (image, source)), .idle =>
      if cfg.distanceEnabled then some (.offer .depth image source event.1) else none
    | .proceed, .clearingPlans => some .clear
    | _, _ => none

variable (cfg : NodeConfig) (strip : String → String) {now : ℚ} {n : RobotTrackNode σ I}

lemma clearMeasurement_eq (status detail source : String) :
    ∃ r m, n.clearMeasurement strip status detail source =
      { n with runtime := r, measurementReceived := m } ∧ r.measurement = none :=
  ⟨_, _, rfl, rfl⟩

/-- An expiry changes the measurement only, which it forgets. -/
lemma expire_eq (now : ℚ) : ∃ r m, n.expire cfg strip now =
    { n with runtime := r, measurementReceived := m } ∧
      (r.measurement = n.runtime.measurement ∨ r.measurement = none) := by
  rw [expire]
  split
  · exact ⟨_, _, rfl, Or.inl rfl⟩
  · split
    · exact ⟨_, _, rfl, Or.inl rfl⟩
    · exact ⟨_, _, rfl, Or.inr rfl⟩

/-- The measurement that a pair and its estimate make. -/
def Measures (pair : RgbdFramePair I) (estimate : DistanceEstimate) (m : DistanceMeasurement) :
    Prop :=
  estimate.valid = true ∧ ∃ distance, estimate.distanceM = some distance ∧
    m = ⟨distance, estimate.confidence, .number (.fin pair.receivedMonotonic)⟩

lemma commit_eq (pair : RgbdFramePair I) (estimate : DistanceEstimate) (now : ℚ) :
    ∃ r m, n.commit cfg strip pair estimate now =
      { n with runtime := r, measurementReceived := m } ∧
        ∀ measurement, r.measurement = some measurement → Measures pair estimate measurement := by
  rw [commit]
  split
  · exact ⟨_, _, rfl, fun _ h => by cases h⟩
  · split
    · rename_i hvalid hdistance
      refine ⟨_, _, rfl, fun measurement h => ⟨hvalid, _, hdistance, ?_⟩⟩
      exact (Option.some.inj h).symm
    · exact ⟨_, _, rfl, fun _ h => by cases h⟩

variable (est : DistanceEstimator σ (RgbdFramePair I) DistanceEstimate ι)

/-- A segment of the worker changes the worker and the measurement only. -/
lemma work_eq (input : ι) (now : ℚ) (n : RobotTrackNode σ I) : ∃ r m,
    (n.work cfg strip est input now).2 = { n with
      worker := (n.worker.work est input).2
      runtime := r
      measurementReceived := m } ∧
    ((r.measurement = n.runtime.measurement ∨ r.measurement = none) ∧
        (∀ epoch pair estimate,
          (n.work cfg strip est input now).1 ≠ .committed epoch pair estimate) ∨
      ∃ epoch pair estimate, (n.worker.work est input).1 = .committed epoch pair estimate ∧
        (n.work cfg strip est input now).1 = .committed epoch pair estimate ∧
        ∀ measurement, r.measurement = some measurement →
          Measures pair estimate measurement) := by
  rw [work]
  split
  · rename_i epoch pair estimate hout
    obtain ⟨r, m, heq, hmeasures⟩ := commit_eq cfg strip
      (n := { n with worker := (n.worker.work est input).2 }) pair estimate now
    exact ⟨r, m, heq, Or.inr ⟨epoch, pair, estimate, hout, rfl, hmeasures⟩⟩
  · exact ⟨_, _, rfl, Or.inl ⟨Or.inr rfl, by simp⟩⟩
  · exact ⟨_, _, rfl, Or.inl ⟨Or.inl rfl, by simp⟩⟩
  · exact ⟨_, _, rfl, Or.inl ⟨Or.inl rfl, by simp⟩⟩

/-- The worker of the node moves as its events say. -/
lemma step_worker (n : RobotTrackNode σ I) (event : ℚ × NodeEvent I ι) :
    ((robotTrackNode cfg strip est).step n event).2.worker =
      (workerEvent cfg n event).elim n.worker fun e =>
        ((distanceWorker est).step n.worker e).2 := by
  obtain ⟨t, event⟩ := event
  simp only [robotTrackNode, workerEvent]
  split
  · rfl
  cases event with
  | work input =>
    obtain ⟨r, m, heq, -⟩ := work_eq cfg strip est input t { n with clock := t }
    simp only [act, heq]
    rfl
  | proceed =>
    cases n.executor with
    | constructing =>
      simp only [act, proceed, goTo]
      split <;> rfl
    | submitting pair | invalidating status detail =>
      simp only [act, proceed, goTo]
      rfl
    | clearing status detail =>
      simp only [act, proceed, goTo]
      split <;> rfl
    | expiring now =>
      obtain ⟨r, m, heq, -⟩ := expire_eq cfg strip
        (n := { n with executor := .expiring now, clock := t }) now
      simp only [act, proceed, goTo, heq]
      rfl
    | reexpiring now command reason =>
      obtain ⟨r, m, heq, -⟩ := expire_eq cfg strip
        (n := { n with executor := .reexpiring now command reason, clock := t }) now
      simp only [act, proceed, goTo, heq]
      rfl
    | computing now command index active measurement =>
      simp only [act, proceed, goTo]
      split <;> rfl
    | publishing now command reason =>
      simp only [act, proceed, publish]
      cases hlive : cfg.live with
      | false => rfl
      | true =>
        simp only [Bool.true_eq_false, if_false, if_true]
        cases n.mux.update .robottrack (velocityTwist command) now <;> rfl
    | stoppingWorker =>
      simp only [act, proceed, goTo]
      split <;> rfl
    | _ =>
      simp only [act, proceed, goTo]
      rfl
  | plan command =>
    simp only [act, arrive]
    split <;> rfl
  | store =>
    simp only [act, storePlan]
    split <;> rfl
  | runtime call => rfl
  | close =>
    simp only [act]
    cases n.executor <;> rfl
  | image frame =>
    simp only [act]
    cases n.executor with
    | idle =>
      cases frame with
      | none => rfl
      | some frame =>
        obtain ⟨image, source⟩ := frame
        simp only [callback]
        split <;> rfl
    | _ => rfl
  | depth frame =>
    simp only [act]
    cases n.executor with
    | idle =>
      cases frame with
      | error error =>
        simp only [callback]
        split <;> rfl
      | ok frame =>
        obtain ⟨image, source⟩ := frame
        simp only [callback]
        split <;> rfl
    | _ => rfl
  | navigationCommand message | robottrackCommand message =>
    simp only [act]
    cases n.executor with
    | idle =>
      simp only [callback, receive]
      split
      · split <;> rfl
      · rfl
    | _ => rfl
  | timer =>
    simp only [act]
    cases n.executor <;> rfl

/-- The distance worker, as a part of the node. -/
def workerPart (cfg : NodeConfig) (strip : String → String)
    (est : DistanceEstimator σ (RgbdFramePair I) DistanceEstimate ι) :
    (robotTrackNode cfg strip est).Component (distanceWorker est) where
  state n := n.worker
  event := workerEvent cfg
  still n event h := by rw [step_worker, h, Option.elim_none]
  acts n event e h := by rw [step_worker, h, Option.elim_some]

/-- The pairer of the node moves as its events say. -/
lemma step_pairer (n : RobotTrackNode σ I) (event : ℚ × NodeEvent I ι) :
    ((robotTrackNode cfg strip est).step n event).2.pairer =
      (pairerEvent cfg n event).elim n.pairer fun e =>
        ((rgbdPairer I cfg.pairerBounds).step n.pairer e).2 := by
  obtain ⟨t, event⟩ := event
  simp only [robotTrackNode, pairerEvent]
  split
  · rfl
  cases event with
  | work input =>
    obtain ⟨r, m, heq, -⟩ := work_eq cfg strip est input t { n with clock := t }
    simp only [act, heq]
    rfl
  | proceed =>
    cases n.executor with
    | expiring now =>
      obtain ⟨r, m, heq, -⟩ := expire_eq cfg strip
        (n := { n with executor := .expiring now, clock := t }) now
      simp only [act, proceed, goTo, heq]
      rfl
    | reexpiring now command reason =>
      obtain ⟨r, m, heq, -⟩ := expire_eq cfg strip
        (n := { n with executor := .reexpiring now command reason, clock := t }) now
      simp only [act, proceed, goTo, heq]
      rfl
    | clearing status detail =>
      simp only [act, proceed, goTo]
      split <;> rfl
    | computing now command index active measurement =>
      simp only [act, proceed, goTo]
      split <;> rfl
    | publishing now command reason =>
      simp only [act, proceed, publish]
      split
      · rfl
      · cases n.mux.update .robottrack (velocityTwist command) now <;> rfl
    | _ =>
      simp only [act, proceed, goTo]
      rfl
  | plan command =>
    simp only [act, arrive]
    split <;> rfl
  | store =>
    simp only [act, storePlan]
    split <;> rfl
  | runtime call => rfl
  | close | timer =>
    simp only [act]
    cases n.executor <;> rfl
  | image frame =>
    cases frame with
    | none =>
      simp only [act]
      cases n.executor <;> rfl
    | some frame =>
      obtain ⟨image, source⟩ := frame
      simp only [act]
      cases n.executor with
      | idle =>
        simp only [callback]
        split <;> rfl
      | _ => rfl
  | depth frame =>
    cases frame with
    | error error =>
      simp only [act]
      cases n.executor with
      | idle =>
        simp only [callback]
        split <;> rfl
      | _ => rfl
    | ok frame =>
      obtain ⟨image, source⟩ := frame
      simp only [act]
      cases n.executor with
      | idle =>
        simp only [callback]
        split <;> rfl
      | _ => rfl
  | navigationCommand message | robottrackCommand message =>
    simp only [act]
    cases n.executor with
    | idle =>
      simp only [callback, receive]
      split
      · split <;> rfl
      · rfl
    | _ => rfl

/-- The pairer, as a part of the node. -/
def pairerPart (cfg : NodeConfig) (strip : String → String)
    (est : DistanceEstimator σ (RgbdFramePair I) DistanceEstimate ι) :
    (robotTrackNode cfg strip est).Component (rgbdPairer I cfg.pairerBounds) where
  state n := n.pairer
  event := pairerEvent cfg
  still n event h := by rw [step_pairer, h, Option.elim_none]
  acts n event e h := by rw [step_pairer, h, Option.elim_some]

/-! ## What the executor leaves alone -/

/-- The executor has taken no part in the inference thread, and has stored neither a plan nor
a measurement. -/
structure Frame (n n' : RobotTrackNode σ I) : Prop where
  inference : n'.inference = n.inference
  clock : n'.clock = n.clock
  plans : n'.plans = n.plans ∨ n'.plans.plan = none
  measurement : n'.runtime.measurement = n.runtime.measurement ∨ n'.runtime.measurement = none

lemma Frame.of_eq {n n' : RobotTrackNode σ I} (hinference : n'.inference = n.inference)
    (hclock : n'.clock = n.clock) (hplans : n'.plans = n.plans)
    (hruntime : n'.runtime = n.runtime) : Frame n n' :=
  ⟨hinference, hclock, Or.inl hplans, Or.inl (by rw [hruntime])⟩

lemma receive_frame (name : Source) (message : TwistCommand) (received : ℚ)
    (n : RobotTrackNode σ I) : Frame n (n.receive name message received) := by
  rw [receive]
  split <;> exact Frame.of_eq rfl rfl rfl rfl

lemma callback_frame (now : ℚ) (n : RobotTrackNode σ I) (event : NodeEvent I ι) :
    Frame n (n.callback cfg now event) := by
  cases event with
  | image frame =>
    cases frame with
    | none => exact Frame.of_eq rfl rfl rfl rfl
    | some frame =>
      obtain ⟨image, source⟩ := frame
      rw [callback]
      split <;> exact Frame.of_eq rfl rfl rfl rfl
  | depth frame =>
    cases frame with
    | error error =>
      rw [callback]
      split <;> exact Frame.of_eq rfl rfl rfl rfl
    | ok frame =>
      obtain ⟨image, source⟩ := frame
      rw [callback]
      split <;> exact Frame.of_eq rfl rfl rfl rfl
  | navigationCommand message | robottrackCommand message =>
    rw [callback]
    split
    · exact receive_frame _ _ _ _
    · exact Frame.of_eq rfl rfl rfl rfl
  | _ => exact Frame.of_eq rfl rfl rfl rfl

lemma publish_frame (now : ℚ) (command : VelocityCommand) (reason : String)
    (n : RobotTrackNode σ I) : Frame n (n.publish cfg now command reason).2 := by
  rw [publish]
  split
  · exact Frame.of_eq rfl rfl rfl rfl
  · split <;> exact Frame.of_eq rfl rfl rfl rfl

lemma recordResult_measurement (r : FollowDistanceRuntime) (index : ℕ)
    (result : DistanceControlResult) :
    (r.recordResult index result).measurement = r.measurement := by
  rw [FollowDistanceRuntime.recordResult]
  split <;> rfl

lemma proceed_frame (monotonic : ℚ) (n : RobotTrackNode σ I) :
    Frame n (n.proceed cfg strip monotonic).2 := by
  rw [proceed]
  cases n.executor with
  | clearing status detail =>
    dsimp only
    split
    · exact Frame.of_eq rfl rfl rfl rfl
    · exact ⟨rfl, rfl, Or.inl rfl, Or.inr rfl⟩
  | expiring now | reexpiring now =>
    obtain ⟨r, m, heq, hmeasurement⟩ := expire_eq cfg strip (n := n) now
    dsimp only
    rw [heq]
    exact ⟨rfl, rfl, Or.inl rfl, hmeasurement⟩
  | computing now command index active measurement =>
    dsimp only
    split <;> exact Frame.of_eq rfl rfl rfl rfl
  | recording now index result =>
    exact ⟨rfl, rfl, Or.inl rfl, Or.inl (recordResult_measurement _ _ _)⟩
  | publishing now command reason => exact publish_frame cfg now command reason n
  | clearingPlans => exact ⟨rfl, rfl, Or.inr rfl, Or.inl rfl⟩
  | resettingRuntime => exact ⟨rfl, rfl, Or.inl rfl, Or.inr rfl⟩
  | deactivating => exact ⟨rfl, rfl, Or.inl rfl, Or.inl rfl⟩
  | _ => exact Frame.of_eq rfl rfl rfl rfl

end RobotTrackNode

end UnitreeGo2.RobotTrack
