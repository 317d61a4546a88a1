import UnitreeGo2.RobotTrack.NodeRuns

/-!
# What the node has measured

A measurement that the runtime holds was made from a pair of frames that both cameras have
brought, and no target was given up since.
-/

open Machine

namespace UnitreeGo2.RobotTrack

open RobotTrackNode

variable {σ I ι : Type} {cfg : NodeConfig} {strip : String → String}
  {est : DistanceEstimator σ (RgbdFramePair I) DistanceEstimate ι} {n : RobotTrackNode σ I}
  {t now : ℚ} {tr : List (NodeStep σ I ι)} {x : NodeStep σ I ι}

/-! ## Pairs of frames -/

/-- Only the executor itself moves in its callbacks. -/
lemma Segment.executor_cases {event : NodeEvent I ι} {s : NodeOutput I × RobotTrackNode σ I}
    (h : Segment cfg strip est n t event s) :
    (event = .proceed ∧ s = n.proceed cfg strip t) ∨
      (n.executor = .idle ∧ s = (.silent, n.callback cfg t event)) ∨
      s.2.executor = n.executor := by
  cases h with
  | proceed => exact Or.inl ⟨rfl, rfl⟩
  | callback event hidle => exact Or.inr (Or.inl ⟨hidle, rfl⟩)
  | plan command =>
    refine Or.inr (Or.inr ?_)
    rw [arrive]
    split <;> rfl
  | store =>
    refine Or.inr (Or.inr ?_)
    rw [storePlan]
    split <;> rfl
  | work input =>
    obtain ⟨r, m, heq, -⟩ := work_eq cfg strip est input t n
    refine Or.inr (Or.inr ?_)
    rw [heq]
  | runtime call | missed event => exact Or.inr (Or.inr rfl)

/-- A step of the executor comes from a callback or goes on in one. -/
lemma step_executor (cfg : NodeConfig) (strip : String → String)
    (est : DistanceEstimator σ (RgbdFramePair I) DistanceEstimate ι) (n : RobotTrackNode σ I)
    (t : ℚ) (event : NodeEvent I ι) :
    ((robotTrackNode cfg strip est).step n (t, event)).2.executor = n.executor ∨
      n.clock ≤ t ∧ (event = .proceed ∧ (robotTrackNode cfg strip est).step n (t, event) =
          ({ n with clock := t } : RobotTrackNode σ I).proceed cfg strip t ∨
        n.executor = .idle ∧ (robotTrackNode cfg strip est).step n (t, event) =
          (.silent, ({ n with clock := t } : RobotTrackNode σ I).callback cfg t event)) := by
  rcases step_segment cfg strip est n t event with
    heq | ⟨htime, hsegment⟩
  · exact Or.inl (by rw [heq])
  rcases hsegment.executor_cases with hproceed | hcallback | hsame
  · exact Or.inr ⟨htime, Or.inl hproceed⟩
  · exact Or.inr ⟨htime, Or.inr hcallback⟩
  · exact Or.inl hsame

lemma not_submitting_proceed {pair : RgbdFramePair I} :
    (n.proceed cfg strip t).2.executor ≠ .submitting pair := by
  rw [proceed]
  intro h
  cases hexec : n.executor with
  | publishing now command reason =>
    rw [hexec] at h
    dsimp only at h
    rw [publish] at h
    split at h
    · cases h
    · split at h <;> cases h
  | computing now command index active measurement =>
    rw [hexec] at h
    dsimp only at h
    split at h
    · cases hexec.symm.trans h
    · cases h
  | reading now | recording now command index | rechecking now command reason =>
    rw [hexec] at h
    dsimp only [goTo] at h
    split_ifs at h
  | clearingPlans =>
    rw [hexec] at h
    dsimp only [goTo] at h
    split_ifs at h
  | idle | closed =>
    rw [hexec] at h
    cases hexec.symm.trans h
  | _ =>
    rw [hexec] at h
    cases h

lemma Current.concat {pair : RgbdFramePair I} (h : Current tr pair) (hx : ¬ Invalidates x) :
    Current (tr ++ [x]) pair := by
  obtain ⟨l, y, r, rfl, hpairs, hkeeps⟩ := h
  refine ⟨l, y, r ++ [x], by simp, hpairs, fun z hz => ?_⟩
  rcases List.mem_append.mp hz with hz | hz
  · exact hkeeps z hz
  · rw [List.mem_singleton.mp hz]
    exact hx

/-- A pair that is to be submitted is current. -/
lemma current_step (h : ∀ pair, n.executor = .submitting pair → Current tr pair)
    (event : ℚ × NodeEvent I ι) (pair : RgbdFramePair I)
    (hpair : ((robotTrackNode cfg strip est).step n event).2.executor = .submitting pair) :
    Current (tr ++ [(robotTrackNode cfg strip est).stepAt n event]) pair := by
  obtain ⟨t, event⟩ := event
  rcases step_executor cfg strip est n t event with
    hsame | ⟨-, ⟨-, heq⟩ | ⟨hidle, -⟩⟩
  · have hsubmitting := hsame.symm.trans hpair
    refine (h pair hsubmitting).concat ?_
    rintro ⟨status, detail, hpre, -⟩
    cases hsubmitting.symm.trans hpre
  · rw [heq] at hpair
    exact absurd hpair not_submitting_proceed
  · exact ⟨tr, _, [], rfl, ⟨hidle, hpair⟩, by simp⟩

lemma current_run {s : RobotTrackNode σ I} (hs : ∀ pair, s.executor ≠ .submitting pair)
    (events : List (ℚ × NodeEvent I ι)) (pair : RgbdFramePair I)
    (hpair : ((robotTrackNode cfg strip est).final s events).executor = .submitting pair) :
    Current ((robotTrackNode cfg strip est).trace s events) pair := by
  revert pair
  exact (robotTrackNode cfg strip est).history_induction
    (motive := fun tr n => ∀ pair, n.executor = .submitting pair → Current tr pair)
    (fun pair h => absurd h (hs pair)) (fun _ _ event h => current_step h event) events

/-- A pair comes out of the pairer. -/
lemma emits_of_pairs {event : ℚ × NodeEvent I ι} {pair : RgbdFramePair I}
    (h : Pairs pair ((robotTrackNode cfg strip est).stepAt n event)) :
    ∃ e, pairerEvent cfg n event = some e ∧
      Emits pair ((rgbdPairer I cfg.pairerBounds).stepAt n.pairer e) := by
  obtain ⟨t, event⟩ := event
  have hidle : n.executor = .idle := h.1
  have hpost : ((robotTrackNode cfg strip est).step n (t, event)).2.executor = .submitting pair :=
    h.2
  have hdecision : ∀ decision : RgbdPairDecision I, handleDecision decision = .submitting pair →
      decision.pair = some pair := by
    intro decision hsubmitting
    rw [handleDecision] at hsubmitting
    split at hsubmitting
    · rename_i found hfound
      cases hsubmitting
      exact hfound
    · split_ifs at hsubmitting
  have hnot : ∀ {m : RobotTrackNode σ I}, m.executor = n.executor →
      m.executor ≠ .submitting pair := by
    intro m hsame hsubmitting
    rw [hsame, hidle] at hsubmitting
    cases hsubmitting
  rcases step_executor cfg strip est n t event with
    hsame | ⟨htime, ⟨-, heq⟩ | ⟨-, heq⟩⟩
  · exact absurd hpost (hnot hsame)
  · rw [heq] at hpost
    exact absurd hpost not_submitting_proceed
  rw [heq] at hpost
  have hnow : ¬ t < n.clock := not_lt.mpr htime
  cases event with
  | image frame =>
    cases frame with
    | none => exact absurd hpost (hnot rfl)
    | some frame =>
      obtain ⟨image, source⟩ := frame
      dsimp only at hpost
      rw [callback] at hpost
      split at hpost
      · rename_i henabled
        refine ⟨.offer .rgb image source t, ?_, _, rfl, hdecision _ hpost⟩
        rw [pairerEvent, if_neg hnow, hidle]
        exact if_pos henabled
      · exact absurd hpost (hnot rfl)
  | depth frame =>
    cases frame with
    | error error =>
      dsimp only at hpost
      rw [callback] at hpost
      split at hpost
      · cases hpost
      · exact absurd hpost (hnot rfl)
    | ok frame =>
      obtain ⟨image, source⟩ := frame
      dsimp only at hpost
      rw [callback] at hpost
      split at hpost
      · rename_i henabled
        refine ⟨.offer .depth image source t, ?_, _, rfl, hdecision _ hpost⟩
        rw [pairerEvent, if_neg hnow, hidle]
        exact if_pos henabled
      · exact absurd hpost (hnot rfl)
  | navigationCommand message | robottrackCommand message =>
    dsimp only at hpost
    rw [callback] at hpost
    split at hpost
    · rw [receive] at hpost
      split at hpost <;> exact absurd hpost (hnot rfl)
    · exact absurd hpost (hnot rfl)
  | timer | close => cases hpost
  | _ => exact absurd hpost (hnot rfl)

/-- A frame that is offered to the pairer is brought. -/
lemma brings_of_offers {stream : RgbdStream} {frame : TimedRgbdFrame I}
    (h : pairerEvent cfg x.pre x.event = some
      (.offer stream frame.image frame.sourceTimestampS frame.receivedMonotonic)) :
    Brings stream frame x := by
  obtain ⟨pre, ⟨t, event⟩, output, post⟩ := x
  rw [pairerEvent] at h
  split at h
  · cases h
  dsimp only at h
  split at h
  · split at h <;> cases h
    rfl
  · split at h <;> cases h
    rfl
  · cases h
  · cases h

/-- Both frames of a pair have been brought. -/
lemma brought_of_pairs {estimator : σ} {runtime : FollowDistanceRuntime} {clock : ℚ}
    {events : List (ℚ × NodeEvent I ι)} {l r : List (NodeStep σ I ι)} {pair : RgbdFramePair I}
    (htr : (robotTrackNode cfg strip est).trace (.new cfg estimator runtime clock) events =
      l ++ x :: r) (hpairs : Pairs pair x) (stream : RgbdStream) :
    ∃ y ∈ l ++ [x], Brings stream (pair.frame stream) y := by
  obtain ⟨es₁, es₂, -, -, hx, -⟩ := (robotTrackNode cfg strip est).trace_eq_append_cons htr
  rw [hx] at hpairs
  obtain ⟨e, he, hemits⟩ := emits_of_pairs hpairs
  have hevent : (pairerPart cfg strip est).event x.pre x.event = some e := by
    rw [hx]
    exact he
  -- the pairer runs inside the node
  obtain ⟨es', hhistory, -⟩ := (pairerPart cfg strip est).run (.new cfg estimator runtime clock)
    events
  rw [htr, Component.history_append, Component.history_cons _ hevent] at hhistory
  have honce := pairsOnce cfg.pairerBounds es'
  have hemits' : Emits pair ((rgbdPairer I cfg.pairerBounds).stepAt
      ((pairerPart cfg strip est).state x.pre) e) := by
    rw [hx]
    exact hemits
  obtain ⟨a, z, b, hsplit, hoffers, -⟩ := honce.latest _ _ _ pair hhistory.symm hemits' stream
  have hmem : z ∈ (pairerPart cfg strip est).history (l ++ [x]) := by
    rw [Component.history_append, Component.history_cons _ hevent]
    show z ∈ _ ++ [_]
    rw [hsplit]
    simp
  obtain ⟨a', y, b', hl, hy, -⟩ := (pairerPart cfg strip est).exists_of_mem_history hmem
  rw [hoffers.1] at hy
  exact ⟨y, by rw [hl]; simp, brings_of_offers hy⟩

/-! ## Measurements -/

/-- The epochs of a worker do not go back. -/
lemma worker_epoch_le {P R : Type} {est : DistanceEstimator σ P R ι}
    {w : RgbdDistanceWorker σ P R} {es : List (WorkerEvent P ι)} {l m r : List (WorkerStep σ P R ι)}
    {y z : WorkerStep σ P R ι}
    (htr : (distanceWorker est).trace w es = l ++ y :: (m ++ z :: r)) :
    y.pre.epoch ≤ z.pre.epoch := by
  obtain ⟨es₁, es₂, -, -, hy, hrest⟩ := (distanceWorker est).trace_eq_append_cons htr
  obtain ⟨es₃, es₄, -, -, hz, -⟩ := (distanceWorker est).trace_eq_append_cons hrest.symm
  have hstep : y.pre.epoch ≤ y.post.epoch := by
    rw [hy]
    exact (step_control est _ _).2
  have hrun : y.post.epoch ≤ z.pre.epoch := by
    rw [hz]
    exact (final_control est y.post es₃).2
  exact hstep.trans hrun

lemma workerEvent_of_invalidates {event : ℚ × NodeEvent I ι}
    (h : Invalidates ((robotTrackNode cfg strip est).stepAt n event)) :
    workerEvent cfg n event = some .invalidate := by
  obtain ⟨t, event⟩ := event
  obtain ⟨status, detail, hexec, hpost⟩ := h
  have hpre : n.executor = .invalidating status detail := hexec
  rcases step_executor cfg strip est n t event with
    hsame | ⟨htime, ⟨rfl, -⟩ | ⟨hidle, -⟩⟩
  · cases (hsame.trans hpre).symm.trans hpost
  · rw [workerEvent, if_neg (not_lt.mpr htime), hpre]
  · cases hidle.symm.trans hpre

lemma submitting_of_workerEvent {event : ℚ × NodeEvent I ι} {pair : RgbdFramePair I}
    (h : workerEvent cfg n event = some (.submit pair)) : n.executor = .submitting pair := by
  obtain ⟨t, event⟩ := event
  rw [workerEvent] at h
  split at h
  · cases h
  dsimp only at h
  split at h
  case h_3 hexec =>
    cases h
    assumption
  case h_6 =>
    split at h
    · split at h <;> cases h
    · cases h
  all_goals first | cases h | (split at h <;> cases h)

/-- What a commit looks like. -/
lemma work_of_committed {event : ℚ × NodeEvent I ι} {epoch : ℕ} {pair : RgbdFramePair I}
    {estimate : DistanceEstimate}
    (h : ((robotTrackNode cfg strip est).step n event).1 = .committed epoch pair estimate) :
    ∃ input, workerEvent cfg n event = some (.work input) ∧
      (n.worker.work est input).1 = .committed epoch pair estimate := by
  obtain ⟨t, event⟩ := event
  rcases step_segment cfg strip est n t event with
    heq | ⟨htime, hsegment⟩
  · rw [heq] at h
    cases h
  generalize (robotTrackNode cfg strip est).step n (t, event) = s at hsegment h
  cases hsegment with
  | proceed =>
    exfalso
    rw [proceed] at h
    cases hexec : n.executor with
    | publishing now command reason =>
      rw [hexec] at h
      dsimp only at h
      rw [publish] at h
      split at h
      · cases h
      · split at h <;> cases h
    | computing now command index active measurement =>
      rw [hexec] at h
      dsimp only at h
      split at h <;> cases h
    | _ =>
      rw [hexec] at h
      cases h
  | work input =>
    refine ⟨input, ?_, ?_⟩
    · rw [workerEvent, if_neg (not_lt.mpr htime)]
    · rw [work] at h
      split at h
      · rename_i hout
        cases h
        exact hout
      all_goals cases h
  | _ => cases h

/-- **A committed pair is current.**  Nothing was invalidated between the callback that got the
pair and the commit of what was measured in it. -/
lemma current_of_committed {estimator : σ} {runtime : FollowDistanceRuntime} {clock : ℚ}
    {events : List (ℚ × NodeEvent I ι)} {l r : List (NodeStep σ I ι)} {epoch : ℕ}
    {pair : RgbdFramePair I} {estimate : DistanceEstimate}
    (htr : (robotTrackNode cfg strip est).trace (.new cfg estimator runtime clock) events =
      l ++ x :: r) (houtput : x.output = .committed epoch pair estimate) : Current l pair := by
  have hstepAt : ∀ {a y b}, (robotTrackNode cfg strip est).trace (.new cfg estimator runtime clock)
      events = a ++ y :: b → y = (robotTrackNode cfg strip est).stepAt y.pre y.event := by
    intro a y b hy
    obtain ⟨es₁, es₂, -, -, hstep, -⟩ := (robotTrackNode cfg strip est).trace_eq_append_cons hy
    rw [hstep]
    rfl
  have hout : ((robotTrackNode cfg strip est).step x.pre x.event).1 =
      .committed epoch pair estimate := by
    rw [hstepAt htr] at houtput
    exact houtput
  obtain ⟨input, hwork, hcommitted⟩ := work_of_committed hout
  obtain ⟨es', hhistory, -⟩ := (workerPart cfg strip est).run (.new cfg estimator runtime clock)
    events
  have hisolated := epochsIsolated_run est estimator es'
  have hx := hhistory
  rw [htr, Component.history_append, Component.history_cons _ hwork] at hx
  obtain ⟨-, ⟨z, hz, hsubmit, hzepoch, -⟩, -⟩ :=
    hisolated.current _ _ _ epoch pair estimate hx.symm hcommitted
  obtain ⟨l', x', r', rfl, hx', hze⟩ := (workerPart cfg strip est).exists_of_mem_history hz
  rw [hsubmit] at hx' hze
  have hsubmitting := submitting_of_workerEvent hx'
  rw [List.append_assoc, List.cons_append] at htr
  obtain ⟨es₁, es₂, -, hl', hxe, -⟩ := (robotTrackNode cfg strip est).trace_eq_append_cons htr
  have hcurrent : Current l' pair := by
    rw [hl']
    refine current_run (fun pair h => by cases h) es₁ pair ?_
    rw [hxe] at hsubmitting
    exact hsubmitting
  obtain ⟨a, y, b, hsplit, hpairs, hkeeps⟩ := hcurrent
  refine ⟨a, y, b ++ x' :: r', by simp [hsplit], hpairs, ?_⟩
  intro w hw hinvalidates
  rcases List.mem_append.mp hw with hw | hw
  · exact hkeeps w hw hinvalidates
  rcases List.mem_cons.mp hw with rfl | hw
  · obtain ⟨status, detail, hpre, -⟩ := hinvalidates
    cases hsubmitting.symm.trans hpre
  -- an invalidation after the submission ends the epoch of the pair
  obtain ⟨c, d, rfl⟩ := List.append_of_mem hw
  rw [List.append_assoc, List.cons_append] at htr
  have hw' : (robotTrackNode cfg strip est).trace (.new cfg estimator runtime clock) events =
      (l' ++ x' :: c) ++ w :: (d ++ x :: r) := by
    rw [htr]
    simp
  rw [hstepAt hw'] at hinvalidates
  have hwinv := workerEvent_of_invalidates hinvalidates
  have hw'' := hhistory
  rw [htr, Component.history_append, Component.history_cons _ hx', Component.history_append,
    Component.history_cons _ hwinv, Component.history_append,
    Component.history_cons _ hwork] at hw''
  have hgroup := hw''.symm
  rw [← List.cons_append, ← List.append_assoc] at hgroup
  have hlt := hisolated.invalidated _ _ _ _ _ epoch pair estimate hgroup rfl hcommitted
  have hle := worker_epoch_le hw''.symm
  rw [← hze] at hle
  rw [hzepoch] at hle
  exact absurd hlt (not_lt.mpr hle)

lemma Measured.concat {m : DistanceMeasurement} {pair : RgbdFramePair I} (h : Measured tr m pair)
    (hx : ¬ Invalidates x) : Measured (tr ++ [x]) m pair := by
  obtain ⟨hcurrent, y, hy, hcommitted⟩ := h
  exact ⟨hcurrent.concat hx, y, List.mem_append_left _ hy, hcommitted⟩

/-- A call of the provider brings no measurement. -/
lemma run_measurement (call : RuntimeCall) (r : FollowDistanceRuntime) :
    (call.run r).measurement = r.measurement ∨ (call.run r).measurement = none := by
  have hchange : ∀ target detail,
      (r.changeTarget target detail).2.measurement = r.measurement := by
    intro target detail
    rw [FollowDistanceRuntime.changeTarget]
    split
    · rfl
    · split <;> rfl
  cases call with
  | configure config minTargetM maxTargetM =>
    rw [RuntimeCall.run, FollowDistanceRuntime.configure]
    split
    · exact Or.inl rfl
    · exact Or.inr rfl
  | setActive active detail => exact Or.inl rfl
  | setTargetDistance distanceM =>
    rw [RuntimeCall.run, FollowDistanceRuntime.setTargetDistance]
    split
    · exact Or.inl rfl
    · split
      · exact Or.inl rfl
      · exact Or.inl (hchange _ _)
  | adjustTargetDistance deltaM =>
    rw [RuntimeCall.run, FollowDistanceRuntime.adjustTargetDistance]
    split
    · exact Or.inl rfl
    · split
      · exact Or.inl rfl
      · exact Or.inl (hchange _ _)

/-- A step keeps the measurement, forgets it, or commits it. -/
lemma step_measurement (cfg : NodeConfig) (strip : String → String)
    (est : DistanceEstimator σ (RgbdFramePair I) DistanceEstimate ι) (n : RobotTrackNode σ I)
    (event : ℚ × NodeEvent I ι) :
    ((robotTrackNode cfg strip est).step n event).2.runtime.measurement = n.runtime.measurement ∨
      ((robotTrackNode cfg strip est).step n event).2.runtime.measurement = none ∨
      ∃ epoch pair estimate, ((robotTrackNode cfg strip est).step n event).1 =
          .committed epoch pair estimate ∧
        ∀ m, ((robotTrackNode cfg strip est).step n event).2.runtime.measurement = some m →
          Measures pair estimate m := by
  obtain ⟨t, event⟩ := event
  rcases step_segment cfg strip est n t event with heq | ⟨-, hsegment⟩
  · exact Or.inl (by rw [heq])
  generalize (robotTrackNode cfg strip est).step n (t, event) = s at hsegment ⊢
  cases hsegment with
  | proceed =>
    rcases (proceed_frame cfg strip t { n with clock := t }).measurement with heq | hnone
    · exact Or.inl heq
    · exact Or.inr (Or.inl hnone)
  | plan command =>
    rw [arrive]
    split <;> exact Or.inl rfl
  | store =>
    rw [storePlan]
    split <;> exact Or.inl rfl
  | work input =>
    obtain ⟨r, m, heq, ⟨hkept | hnone, -⟩ | ⟨epoch, pair, estimate, -, hcommitted, hmeasures⟩⟩ :=
      work_eq cfg strip est input t { n with clock := t }
    · rw [heq]
      exact Or.inl hkept
    · rw [heq]
      exact Or.inr (Or.inl hnone)
    · rw [heq]
      exact Or.inr (Or.inr ⟨epoch, pair, estimate, hcommitted, hmeasures⟩)
  | runtime call =>
    rcases run_measurement call n.runtime with heq | hnone
    · exact Or.inl heq
    · exact Or.inr (Or.inl hnone)
  | callback event =>
    rcases (callback_frame cfg t { n with clock := t } event).measurement with heq | hnone
    · exact Or.inl heq
    · exact Or.inr (Or.inl hnone)
  | missed event => exact Or.inl rfl

/-- A callback that clears the measurement does so, as the node is not closed. -/
lemma step_clearing (cfg : NodeConfig) (strip : String → String)
    (est : DistanceEstimator σ (RgbdFramePair I) DistanceEstimate ι) {status detail : String}
    (hexec : n.executor = .clearing status detail)
    (hclosed : n.worker.closed = n.executor.closing) (event : ℚ × NodeEvent I ι) :
    ((robotTrackNode cfg strip est).step n event).2.executor = .clearing status detail ∨
      ((robotTrackNode cfg strip est).step n event).2.runtime.measurement = none := by
  obtain ⟨t, event⟩ := event
  rcases step_executor cfg strip est n t event with
    hsame | ⟨-, ⟨-, heq⟩ | ⟨hidle, -⟩⟩
  · exact Or.inl (hsame.trans hexec)
  · have hopen : n.worker.closed = false := by rw [hclosed, hexec]; rfl
    refine Or.inr ?_
    rw [heq, proceed]
    rw [show ({ n with clock := t } : RobotTrackNode σ I).executor = _ from hexec]
    dsimp only [goTo]
    rw [if_neg (by rw [hopen]; decide)]
    rfl
  · cases hidle.symm.trans hexec

section Runs

variable {estimator : σ} {runtime : FollowDistanceRuntime} {clock : ℚ}

lemma closing_run (cfg : NodeConfig) (strip : String → String)
    (est : DistanceEstimator σ (RgbdFramePair I) DistanceEstimate ι) (estimator : σ)
    (runtime : FollowDistanceRuntime) (clock : ℚ) (events : List (ℚ × NodeEvent I ι)) :
    ((robotTrackNode cfg strip est).final (.new cfg estimator runtime clock)
        events).worker.closed =
      ((robotTrackNode cfg strip est).final (.new cfg estimator runtime clock)
        events).executor.closing :=
  (robotTrackNode cfg strip est).history_induction
    (motive := fun _ n => n.worker.closed = n.executor.closing) rfl
    (fun _ _ event h => closing_step h event) events

/-- What the runtime holds was measured from a current pair, unless it is being cleared. -/
lemma measured_run (events : List (ℚ × NodeEvent I ι)) (m : DistanceMeasurement)
    (hm : ((robotTrackNode cfg strip est).final (.new cfg estimator runtime clock)
      events).runtime.measurement = some m) :
    (∃ pair, Measured ((robotTrackNode cfg strip est).trace (.new cfg estimator runtime clock)
        events) m pair) ∨
      ∃ status detail, ((robotTrackNode cfg strip est).final (.new cfg estimator runtime clock)
        events).executor = .clearing status detail := by
  induction events using List.reverseRecOn generalizing m with
  | nil => cases hm
  | append_singleton events event ih =>
    have hclosed := closing_run cfg strip est estimator runtime clock events
    have htr := (robotTrackNode cfg strip est).trace_concat (.new cfg estimator runtime clock)
      events event
    rw [final_concat] at hm ⊢
    rw [htr]
    generalize (robotTrackNode cfg strip est).final (.new cfg estimator runtime clock) events = n
      at ih htr hm hclosed ⊢
    rcases step_measurement cfg strip est n event with
      hkept | hnone | ⟨epoch, pair, estimate, hcommitted, hmeasures⟩
    · rcases ih m (hkept.symm.trans hm) with ⟨pair, hmeasured⟩ | ⟨status, detail, hexec⟩
      · by_cases hinvalidates : Invalidates ((robotTrackNode cfg strip est).stepAt n event)
        · obtain ⟨status, detail, -, hpost⟩ := hinvalidates
          exact Or.inr ⟨status, detail, hpost⟩
        · exact Or.inl ⟨pair, hmeasured.concat hinvalidates⟩
      · rcases step_clearing cfg strip est hexec hclosed event with
          hsame | hnone
        · exact Or.inr ⟨status, detail, hsame⟩
        · rw [hnone] at hm
          cases hm
    · rw [hnone] at hm
      cases hm
    · refine Or.inl ⟨pair, ?_, (robotTrackNode cfg strip est).stepAt n event, by simp, epoch,
        estimate, hcommitted, hmeasures m hm⟩
      have hcurrent := current_of_committed (r := []) htr hcommitted
      refine hcurrent.concat ?_
      intro hinvalidates
      obtain ⟨input, hwork, -⟩ := work_of_committed hcommitted
      cases hwork.symm.trans (workerEvent_of_invalidates hinvalidates)

end Runs

end UnitreeGo2.RobotTrack
