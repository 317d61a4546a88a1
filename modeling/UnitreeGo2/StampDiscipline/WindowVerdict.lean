import UnitreeGo2.StampDiscipline.Session

/-!
# The verdict of an incomplete window

Every health evaluation leaves its verdict in the audit.  A verdict that a common window is
incomplete leads into a recovery pause wherever the evaluation happens, but for one place: the
discipline faults where it drops a discontinuous sample of a non-core stream.
-/

namespace UnitreeGo2.StampDiscipline

/-! ## Quiet operations -/

namespace Discipline

variable {d : Settings} {s : Discipline} {t : ℤ}

lemma recordGapWaiver_verdicts (stream : String) (leftNs rightNs : ℤ) :
    (s.recordGapWaiver d stream leftNs rightNs).audit.verdicts = s.audit.verdicts := by
  rw [recordGapWaiver]
  dsimp only
  split <;> rfl

lemma seedReceiptRecovery_verdicts (stream : String) :
    (s.seedReceiptRecovery d stream).audit.verdicts = s.audit.verdicts := by
  rw [seedReceiptRecovery]
  split
  · rfl
  · split
    · rfl
    · exact recordGapWaiver_verdicts stream _ _

lemma foldl_seedReceiptRecovery_verdicts (names : List String) :
    (names.foldl (seedReceiptRecovery d) s).audit.verdicts = s.audit.verdicts := by
  induction names generalizing s with
  | nil => rfl
  | cons stream names ih => exact ih.trans (seedReceiptRecovery_verdicts stream)

lemma startReceiptRecovery_verdicts :
    (s.startReceiptRecovery d).audit.verdicts = s.audit.verdicts := by
  rw [startReceiptRecovery, foldl_seedReceiptRecovery_verdicts]

lemma startReceiptRecovery_active : (s.startReceiptRecovery d).receiptRecoveryActive = true :=
  (startReceiptRecovery_notes (d := d) (s := s)).active_eq

lemma recordLockedReceiptRecoverySample_verdicts (stream : String) (receiptNs : ℤ) :
    (s.recordLockedReceiptRecoverySample d stream receiptNs).audit.verdicts =
      s.audit.verdicts := by
  rw [recordLockedReceiptRecoverySample]
  dsimp only
  split
  · rfl
  · split
    · exact recordGapWaiver_verdicts stream _ _
    · rfl

lemma enterLockedReceiptRecovery_verdicts (reason : Reason) (diagnostics : List (String × ℤ)) :
    (s.enterLockedReceiptRecovery d reason diagnostics).2.audit.verdicts = s.audit.verdicts := by
  rcases enterLockedReceiptRecovery_cases (d := d) (s := s) reason diagnostics with
    ⟨-, -, h⟩ | ⟨-, -, -, -, h⟩
  · rw [h]
    rfl
  · rw [h]
    split
    · rfl
    · exact startReceiptRecovery_verdicts

/-! ## Verdicts that are heeded -/

/-- The discipline has evaluated no health, or it is in a pause where the latest verdict speaks of
an incomplete window. -/
def Heeds (s s' : Discipline) : Prop :=
  s'.audit.verdicts = s.audit.verdicts ∨
    ∀ reason, s'.audit.verdicts.head? = some (some reason) → reason.isWindowIncomplete = true →
      s'.state = .locked ∧ s'.receiptRecoveryActive = true

lemma Heeds.quiet {s s' : Discipline} (h : s'.audit.verdicts = s.audit.verdicts) : Heeds s s' :=
  .inl h

/-- After a quiet operation. -/
lemma Heeds.of_verdicts {s s' s'' : Discipline} (hquiet : s'.audit.verdicts = s.audit.verdicts)
    (h : Heeds s' s'') : Heeds s s'' := by
  rcases h with h | h
  · exact .inl (h.trans hquiet)
  · exact .inr h

/-- After an evaluation that says nothing against the window. -/
lemma Heeds.after_none {s s' s'' : Discipline} (hnone : s'.audit.verdicts.head? = some none)
    (h : Heeds s' s'') : Heeds s s'' := by
  rcases h with h | h
  · refine .inr fun reason hreason => ?_
    rw [h, hnone] at hreason
    cases hreason
  · exact .inr h

/-- A scheduled check is quiet, or its reason is the verdict of an evaluation. -/
lemma scheduledStatisticsHealth_verdicts :
    (s.scheduledStatisticsHealth d t).2.audit.verdicts = s.audit.verdicts ∨
      (s.scheduledStatisticsHealth d t).2.audit.verdicts.head? =
        some (s.scheduledStatisticsHealth d t).1 := by
  rcases scheduledStatisticsHealth_cases (d := d) (s := s) t with h | ⟨hreason, -, h⟩
  · exact .inl (by rw [h])
  · right
    rw [h, hreason]
    rfl

lemma isWindowIncomplete_recoverable {reason : Reason}
    (h : reason.isWindowIncomplete = true) : reason.recoverable = true := by
  cases reason <;> first | rfl | cases h

/-- What follows from a verdict heeds it. -/
lemma healthOutcome_heeds {s s' : Discipline} (hstate : s'.state = .locked)
    (hallow : d.allowLockedReceiptRecovery = true) {reason : Reason}
    (hverdict : s'.audit.verdicts = s.audit.verdicts ∨
      s'.audit.verdicts.head? = some (some reason)) :
    Heeds s (s'.healthOutcome d reason).2 := by
  rw [healthOutcome]
  split
  · rename_i hincomplete
    have hrecoverable := isWindowIncomplete_recoverable hincomplete
    refine .inr fun _ _ _ => ?_
    rw [enterLockedReceiptRecovery, if_neg (by simp [hallow, hstate, hrecoverable])]
    dsimp only
    split
    · rename_i hactive
      exact ⟨hstate, hactive⟩
    · exact ⟨startReceiptRecovery_state.trans hstate, startReceiptRecovery_active⟩
  · rename_i hother
    rcases hverdict with hquiet | hverdict
    · exact .quiet hquiet
    · refine .inr fun reason' hreason' hincomplete => absurd hincomplete ?_
      obtain rfl := Option.some.inj (Option.some.inj (hverdict.symm.trans hreason'))
      exact hother

lemma scheduledStatisticsHealth_heeds (hstate : s.state = .locked)
    (hactive : s.receiptRecoveryActive = true) :
    Heeds s (s.scheduledStatisticsHealth d t).2 :=
  .inr fun _ _ _ => ⟨scheduledStatisticsHealth_state.trans hstate,
    scheduledStatisticsHealth_active.trans hactive⟩

/-- The end of a call: the liveness, then the scheduled check and what follows from it. -/
lemma pollHealth_heeds (hstate : s.state = .locked)
    (hallow : d.allowLockedReceiptRecovery = true) : Heeds s (s.pollHealth d t).2 := by
  rw [pollHealth]
  split
  · exact .quiet (enterLockedReceiptRecovery_verdicts _ _)
  have hverdicts := scheduledStatisticsHealth_verdicts (d := d) (s := s) (t := t)
  have hlocked := scheduledStatisticsHealth_state (d := d) (s := s) (t := t)
  split
  · rename_i reason s' heq
    rw [heq] at hverdicts hlocked
    exact healthOutcome_heeds (hlocked.trans hstate) hallow hverdicts
  · rename_i s' heq
    rw [heq] at hverdicts
    rcases hverdicts with hquiet | hnone
    · exact .quiet hquiet
    · exact Heeds.after_none hnone (.quiet rfl)

lemma observeHealth_heeds {x : Observation} (hstate : s.state = .locked)
    (hallow : d.allowLockedReceiptRecovery = true) (correctedStampNs : ℤ) :
    Heeds s (s.observeHealth d x correctedStampNs).2 := by
  rw [observeHealth]
  split
  · exact .quiet (enterLockedReceiptRecovery_verdicts _ _)
  have hverdicts := scheduledStatisticsHealth_verdicts (d := d) (s := s)
    (t := x.receiptMonotonicNs)
  have hlocked := scheduledStatisticsHealth_state (d := d) (s := s)
    (t := x.receiptMonotonicNs)
  split
  · rename_i reason s' heq
    rw [heq] at hverdicts hlocked
    exact healthOutcome_heeds (hlocked.trans hstate) hallow hverdicts
  · rename_i s' heq
    rw [heq] at hverdicts
    rcases hverdicts with hquiet | hnone
    · exact .quiet hquiet
    · exact Heeds.after_none hnone (.quiet rfl)

/-- A recovery check heeds its verdict, and where it ends the pause it has none. -/
lemma lockedReceiptRecoveryHealth_heeds (hstate : s.state = .locked)
    (hactive : s.receiptRecoveryActive = true) :
    Heeds s (s.lockedReceiptRecoveryHealth d t).2 ∧
      ((s.lockedReceiptRecoveryHealth d t).1 = none →
        (s.lockedReceiptRecoveryHealth d t).2.audit.verdicts = s.audit.verdicts ∨
          (s.lockedReceiptRecoveryHealth d t).2.audit.verdicts.head? = some none) := by
  have hverdicts := scheduledStatisticsHealth_verdicts (d := d) (s := s) (t := t)
  have hheeds := scheduledStatisticsHealth_heeds (d := d) (t := t) hstate hactive
  rw [lockedReceiptRecoveryHealth]
  split
  · exact ⟨.quiet rfl, fun _ => .inl rfl⟩
  dsimp only
  split_ifs with hpending henabled hevaluated
  · exact ⟨.quiet rfl, fun _ => .inl rfl⟩
  · exact ⟨.quiet rfl, fun _ => .inl rfl⟩
  · exact ⟨hheeds, fun h => by cases h⟩
  split
  · rename_i hnone
    rw [hnone] at hverdicts
    refine ⟨?_, fun _ => hverdicts⟩
    rcases hverdicts with hquiet | hhead
    · exact .quiet hquiet
    · exact Heeds.after_none hhead (.quiet rfl)
  · rename_i reason hreason
    rw [hreason] at hverdicts
    split_ifs with hincomplete
    · exact ⟨hheeds, fun h => by cases h⟩
    · refine ⟨?_, fun h => by cases h⟩
      rcases hverdicts with hquiet | hhead
      · exact .quiet hquiet
      · refine .inr fun reason' hreason' hincomplete' => absurd hincomplete' ?_
        obtain rfl := Option.some.inj (Option.some.inj (hhead.symm.trans hreason'))
        exact hincomplete

lemma poll_heeds (hstate : s.state = .locked) (hallow : d.allowLockedReceiptRecovery = true) :
    Heeds s (s.poll d t).2 := by
  rw [poll, if_neg (by rw [hstate]; decide), if_neg (not_not.mpr hstate)]
  split_ifs with htime hactive
  · exact .quiet rfl
  · have hheeds := (lockedReceiptRecoveryHealth_heeds (d := d) (t := t) hstate
      hactive).1
    split
    · rename_i heq
      rw [heq] at hheeds
      exact hheeds
    · rename_i heq
      rw [heq] at hheeds
      exact hheeds
  · exact pollHealth_heeds hstate hallow

/-! ## Observations -/

variable {x : Observation}

lemma observeRetained_heeds (hstate : s.state = .locked)
    (hallow : d.allowLockedReceiptRecovery = true) (correctedStampNs : ℤ) :
    Heeds s (s.observeRetained d x correctedStampNs).2 := by
  rw [observeRetained]
  split
  · rename_i hactive
    dsimp only
    have hnotes := recordLockedReceiptRecoverySample_notes (d := d) (s := s) x.stream
      x.receiptMonotonicNs
    have hstate' := hnotes.state_eq.trans hstate
    have hquiet := recordLockedReceiptRecoverySample_verdicts (d := d) (s := s) x.stream
      x.receiptMonotonicNs
    obtain ⟨hheeds, hnone⟩ := lockedReceiptRecoveryHealth_heeds (d := d)
      (t := x.receiptMonotonicNs) hstate' (hnotes.active_eq.trans hactive)
    split
    · rename_i result s' heq
      rw [heq] at hheeds
      exact hheeds.of_verdicts hquiet
    · rename_i s' heq
      have hlocked := lockedReceiptRecoveryHealth_none (d := d) (by rw [heq])
      rw [heq] at hlocked hnone
      have hrest := observeHealth_heeds (d := d) (x := x) (hlocked.trans hstate') hallow
        correctedStampNs
      refine Heeds.of_verdicts hquiet ?_
      rcases hnone rfl with hsame | hhead
      · exact hrest.of_verdicts hsame
      · exact Heeds.after_none hhead hrest
  · exact observeHealth_heeds hstate hallow _

lemma observeLocked_heeds (hstate : s.state = .locked)
    (hallow : d.allowLockedReceiptRecovery = true) : Heeds s (s.observeLocked d x).2 := by
  rw [observeLocked]
  split
  · exact .quiet rfl
  · exact .quiet rfl
  split
  · exact .quiet rfl
  split
  · exact .quiet rfl
  dsimp only
  split
  · exact .quiet rfl
  split
  · exact .quiet rfl
  split
  · split
    · exact .quiet (enterLockedReceiptRecovery_verdicts _ _)
    · exact .quiet rfl
  · exact (observeRetained_heeds (s := (s.retain x).cacheAge _ _ _) hstate hallow
      _).of_verdicts rfl

lemma observeContinuing_heeds (hstate : s.state = .locked)
    (hallow : d.allowLockedReceiptRecovery = true) : Heeds s (s.observeContinuing d x).2 := by
  rw [observeContinuing, if_pos hstate]
  exact observeLocked_heeds hstate hallow

/-- The observation is discontinuous where no pause tolerates that. -/
def Discontinuous (d : Settings) (s : Discipline) (x : Observation) : Prop :=
  s.receiptRecoveryActive = false ∧ ∃ continuity, s.observedContinuity x.stream = some continuity ∧
    continuity.1 < x.sourceStampNs ∧ continuity.2 < x.receiptMonotonicNs ∧
    (deltaError d x continuity).limitNs < (deltaError d x continuity).errorNs

lemma observeDiscontinuity_paused (hstate : s.state = .locked)
    (hallow : d.allowLockedReceiptRecovery = true) (hactive : s.receiptRecoveryActive = true)
    (delta : DeltaError) : Heeds s (s.observeDiscontinuity d x delta).2 := by
  rw [observeDiscontinuity, if_neg (by simp [hstate]), if_neg (by simp [hstate]),
    if_pos ⟨hstate, hactive, hallow⟩]
  exact .quiet rfl

/-- Outside a pause, a discontinuity is judged only where the discipline faults on the verdict. -/
lemma observeDiscontinuity_unpaused (hstate : s.state = .locked)
    (hactive : s.receiptRecoveryActive = false) (delta : DeltaError) :
    (s.observeDiscontinuity d x delta).2.audit.verdicts = s.audit.verdicts ∨
      (s.observeDiscontinuity d x delta).2.audit.verdicts.head? = some none ∨
      (s.observeDiscontinuity d x delta).2.state = .faulted := by
  rw [observeDiscontinuity, if_neg (by simp [hstate]), if_neg (by simp [hstate]),
    if_neg (by simp [hactive])]
  split_ifs with hcore hnoncore
  · left
    dsimp only
    split <;> exact enterLockedReceiptRecovery_verdicts _ _
  · split
    · exact .inr (.inr rfl)
    · rename_i s' heq
      rw [lockedNoncoreDropHealth] at heq
      split at heq
      · cases heq
      · cases heq
      split at heq
      · cases heq
      split at heq
      · cases heq
      have hverdicts := scheduledStatisticsHealth_verdicts (d := d) (s := s)
        (t := x.receiptMonotonicNs)
      rw [heq] at hverdicts
      rcases hverdicts with hquiet | hhead
      · exact .inl hquiet
      · exact .inr (.inl hhead)
  · exact .inl rfl

lemma observeStream_heeds (hstate : s.state = .locked)
    (hallow : d.allowLockedReceiptRecovery = true) (h : ¬ Discontinuous d s x) :
    Heeds s (s.observeStream d x).2 := by
  rw [observeStream]
  split
  · exact observeContinuing_heeds hstate hallow
  rename_i continuity hcontinuity
  split_ifs with hregression hduplicate hgood
  · exact .quiet rfl
  · exact .quiet rfl
  · exact .quiet rfl
  dsimp only
  split_ifs with hadvancing hlimit
  · exact .quiet rfl
  · cases hactive : s.receiptRecoveryActive with
    | true => exact observeDiscontinuity_paused hstate hallow hactive _
    | false =>
      refine absurd ⟨hactive, continuity, hcontinuity, ?_, ?_, hlimit⟩ h
      · omega
      · rw [deltaError] at hadvancing
        dsimp only at hadvancing
        omega
  · exact observeContinuing_heeds hstate hallow

lemma startReceiptRecovery_not_discontinuous : ¬ Discontinuous d (s.startReceiptRecovery d) x := by
  rintro ⟨hactive, -⟩
  rw [startReceiptRecovery_active] at hactive
  cases hactive

lemma observePeers_heeds (hstate : s.state = .locked)
    (hallow : d.allowLockedReceiptRecovery = true) (h : ¬ Discontinuous d s x) :
    Heeds s (s.observePeers d x).2 := by
  rcases observePeers_eq (d := d) (x := x) hstate with heq | heq
  · rw [heq]
    exact observeStream_heeds hstate hallow h
  · rw [heq]
    exact (observeStream_heeds (startReceiptRecovery_state.trans hstate) hallow
      startReceiptRecovery_not_discontinuous).of_verdicts startReceiptRecovery_verdicts

/-- An observation that is not discontinuous heeds the verdict it brings. -/
lemma observe_heeds (hstate : s.state = .locked) (hallow : d.allowLockedReceiptRecovery = true)
    (h : ¬ Discontinuous d s x) : Heeds s (s.observe d x).2 := by
  rw [observe, if_neg (by rw [hstate]; decide)]
  split
  · exact .quiet rfl
  rw [observeTimed]
  dsimp only
  rw [if_neg (by simp [hstate])]
  exact (observePeers_heeds (s := { s with lastClockBaseNs := some x.clockBaseNs }) hstate hallow
    h).of_verdicts rfl

/-- A discontinuous observation comes to the branches for discontinuities. -/
lemma observeStream_discontinuous {continuity : ℤ × ℤ}
    (hcontinuity : s.observedContinuity x.stream = some continuity)
    (hsource : continuity.1 < x.sourceStampNs) (hreceipt : continuity.2 < x.receiptMonotonicNs)
    (hlimit : (deltaError d x continuity).limitNs < (deltaError d x continuity).errorNs) :
    s.observeStream d x = s.observeDiscontinuity d x (deltaError d x continuity) := by
  rw [observeStream, hcontinuity]
  dsimp only
  rw [if_neg (by omega), if_neg (by omega), if_neg, if_pos hlimit]
  rw [deltaError]
  dsimp only
  omega

lemma observePeers_discontinuous (hstate : s.state = .locked)
    (hallow : d.allowLockedReceiptRecovery = true) (h : Discontinuous d s x) :
    (s.observePeers d x).2.audit.verdicts = s.audit.verdicts ∨
      (s.observePeers d x).2.audit.verdicts.head? = some none ∨
      (s.observePeers d x).2.state = .faulted := by
  obtain ⟨hactive, continuity, hcontinuity, hsource, hreceipt, hlimit⟩ := h
  rcases observePeers_eq (d := d) (x := x) hstate with heq | heq
  · rw [heq, observeStream_discontinuous hcontinuity hsource hreceipt hlimit]
    exact observeDiscontinuity_unpaused hstate hactive _
  · have hcontinuity' := (congrFun (startReceiptRecovery_continuity (d := d)) x.stream).trans
      hcontinuity
    rw [heq, observeStream_discontinuous hcontinuity' hsource hreceipt hlimit]
    have hstate' := (startReceiptRecovery_state (d := d)).trans hstate
    rw [observeDiscontinuity, if_neg (by simp [hstate']), if_neg (by simp [hstate']),
      if_pos ⟨hstate', startReceiptRecovery_active, hallow⟩]
    exact .inl startReceiptRecovery_verdicts

/-- A discontinuous observation brings no verdict against the window, or the discipline faults. -/
lemma observe_discontinuous (hstate : s.state = .locked)
    (hallow : d.allowLockedReceiptRecovery = true) (h : Discontinuous d s x) :
    (s.observe d x).2.audit.verdicts = s.audit.verdicts ∨
      (s.observe d x).2.audit.verdicts.head? = some none ∨ (s.observe d x).2.state = .faulted := by
  rw [observe, if_neg (by rw [hstate]; decide)]
  split
  · exact .inr (.inr rfl)
  rw [observeTimed]
  dsimp only
  rw [if_neg (by simp [hstate])]
  exact observePeers_discontinuous (s := { s with lastClockBaseNs := some x.clockBaseNs }) hstate
    hallow h

end Discipline

/-! ## Calls -/

/-- A call evaluates the health of the discipline, with the verdict that the common window of a
stream is incomplete. -/
def JudgesIncomplete (s s' : Discipline) (stream : String) : Prop :=
  ∃ earlier, s'.audit.verdicts =
    some (.lockedAffineCommonWindowIncomplete stream) :: (earlier ++ s.audit.verdicts)

namespace JudgesIncomplete

variable {s s' : Discipline} {stream : String}

lemma head (h : JudgesIncomplete s s' stream) :
    s'.audit.verdicts.head? = some (some (.lockedAffineCommonWindowIncomplete stream)) := by
  obtain ⟨earlier, h⟩ := h
  rw [h]
  rfl

lemma ne (h : JudgesIncomplete s s' stream) : s'.audit.verdicts ≠ s.audit.verdicts := by
  obtain ⟨earlier, h⟩ := h
  intro hsame
  have := congrArg List.length (h.symm.trans hsame)
  simp only [List.length_cons, List.length_append] at this
  omega

lemma recovers (h : JudgesIncomplete s s' stream) (hheeds : Discipline.Heeds s s') :
    s'.state = .locked ∧ s'.receiptRecoveryActive = true := by
  rcases hheeds with hquiet | hheeds
  · exact absurd hquiet h.ne
  · exact hheeds _ h.head rfl

end JudgesIncomplete

/-- **When the verdict of an incomplete window leads into a pause.**  With recovery enabled, let a
call of a locked discipline evaluate the health, with the verdict that a common window is
incomplete.  The discipline is in a recovery pause afterwards, and not faulted, exactly if the
call is not the observation of a discontinuous sample outside a pause. -/
theorem windowIncomplete_recovers_iff {d : Settings} (hallow : d.allowLockedReceiptRecovery = true)
    {s : Session} (hlocked : s.discipline.state = .locked) (c : Call) {stream : String}
    (h : JudgesIncomplete s.discipline ((Session.machine d).step s c).2.discipline stream) :
    (((Session.machine d).step s c).2.discipline.state = .locked ∧
      ((Session.machine d).step s c).2.discipline.receiptRecoveryActive = true) ↔
        ∀ x, c = .observe x → ¬ s.discipline.Discontinuous d x := by
  constructor
  · rintro ⟨hstate, -⟩ x rfl hdiscontinuous
    rcases Discipline.observe_discontinuous hlocked hallow hdiscontinuous with
      hquiet | hnone | hfaulted
    · exact h.ne hquiet
    · cases hnone.symm.trans h.head
    · cases hfaulted.symm.trans hstate
  · intro hcontinuous
    have hsettled : s.discipline.state ≠ .qualifying := by
      rw [hlocked]
      decide
    refine h.recovers ?_
    cases c with
    | observe x => exact Discipline.observe_heeds hlocked hallow (hcontinuous x rfl)
    | poll t => exact Discipline.poll_heeds hlocked hallow
    | capture t => exact .quiet (by rw [Session.step_capture])
    | evaluate index => exact .quiet (by rw [Session.step_evaluate])
    | lockAffine request evaluation =>
      rw [Session.step_lockAffine, Discipline.lockAffine_settled hsettled]
      exact .quiet rfl
    | lockAffineFromApprovedDrift driftPpm verified t =>
      rw [Session.step_lockAffineFromApprovedDrift,
        Discipline.lockAffineFromApprovedDrift_settled hsettled]
      exact .quiet rfl

/-- A poll after two samples of each stream. -/
theorem windowIncomplete_recovers_poll :
    ((Session.machine (Demo.settings 2000000000)).step
      (Demo.after 2000000000 Demo.lockingCalls) (.poll 3000000000)).2.discipline.state = .locked ∧
    ((Session.machine (Demo.settings 2000000000)).step (Demo.after 2000000000 Demo.lockingCalls)
      (.poll 3000000000)).2.discipline.receiptRecoveryActive = true := by
  have hlocked : (Demo.after 2000000000 Demo.lockingCalls).discipline.state = .locked := by
    decide +kernel
  have hjudges : JudgesIncomplete (Demo.after 2000000000 Demo.lockingCalls).discipline
      ((Session.machine (Demo.settings 2000000000)).step
        (Demo.after 2000000000 Demo.lockingCalls) (.poll 3000000000)).2.discipline "imu" := by
    refine ⟨[], ?_⟩
    decide +kernel
  exact (windowIncomplete_recovers_iff rfl hlocked (.poll 3000000000) hjudges).mpr
    fun x h => nomatch h

/-- A sample of the cloud that comes a second late, in a locked session. -/
def lateCloud : Call := .observe (Demo.sample "mid360_cloud" 2000000001 3000000000)

/-- The discipline faults on the verdict that the cloud's observation brings. -/
theorem lateCloud_faults :
    ∃ s₀, (Demo.settings 2000000000).create none = .ok s₀ ∧
      let s := (Session.machine (Demo.settings 2000000000)).final (Session.opened s₀)
        Demo.lockingCalls
      let s' := ((Session.machine (Demo.settings 2000000000)).step s lateCloud).2
      s.discipline.state = .locked ∧
        JudgesIncomplete s.discipline s'.discipline "imu" ∧ s'.discipline.state = .faulted ∧
        s'.discipline.faultReason = some (.lockedAffineCommonWindowIncomplete "imu") := by
  refine ⟨_, Demo.create_settings, ?_, ⟨[], ?_⟩, ?_, ?_⟩ <;> decide +kernel

end UnitreeGo2.StampDiscipline
