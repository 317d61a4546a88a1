import UnitreeGo2.StampDiscipline.Session

/-!
# How an observation is handled

A health check leaves the samples and the continuity of all streams.  An observation is refused,
counted as a duplicate, discarded or retained, or it restarts the qualification.
-/

namespace UnitreeGo2.StampDiscipline

/-! ## Admitted observations -/

/-- The corrected age of an observation is within the bounds of its stream. -/
def AffineClockModel.admits (d : Settings) (model : AffineClockModel) (x : Observation) : Bool :=
  match model.correctedStampNs x.sourceStampNs with
  | .error _ => false
  | .ok correctedStampNs =>
    -d.config.maxCorrectedFutureNs ≤ x.receiptRealtimeNs - correctedStampNs ∧
      d.config.minimumLockedCorrectedAgeNs.all (· ≤ x.receiptRealtimeNs - correctedStampNs) ∧
      x.receiptRealtimeNs - correctedStampNs ≤ (d.config.policy x.stream).maxCorrectedAgeNs

namespace Discipline

/-- An observation within its bounds: no duplicate, no discontinuity, and of an admitted age. -/
def admits (d : Settings) (s : Discipline) (x : Observation) : Bool :=
  s.lockedAffineModel.any (·.admits d x) &&
    (s.observedContinuity x.stream).all fun continuity =>
      continuity.1 < x.sourceStampNs ∧ continuity.2 < x.receiptMonotonicNs ∧
        (deltaError d x continuity).errorNs ≤ (deltaError d x continuity).limitNs

/-! ## Health checks -/

/-- The samples and the continuity of all streams are the same. -/
def SameHistory (s s' : Discipline) : Prop :=
  s'.streams = s.streams ∧ s'.observedContinuity = s.observedContinuity

variable {d : Settings} {s : Discipline} {t : ℤ} {x : Observation}

lemma SameHistory.trans {s s' s'' : Discipline} (h : SameHistory s s')
    (h' : SameHistory s' s'') : SameHistory s s'' :=
  ⟨h'.1.trans h.1, h'.2.trans h.2⟩

lemma SameButNotes.history {s s' : Discipline} (h : SameButNotes s s') : SameHistory s s' := by
  obtain ⟨_, _, _, _, rfl⟩ := h
  exact ⟨rfl, rfl⟩

lemma startReceiptRecovery_history : SameHistory s (s.startReceiptRecovery d) :=
  (startReceiptRecovery_notes (d := d) (s := s)).history

lemma scheduledStatisticsHealth_history :
    SameHistory s (s.scheduledStatisticsHealth d t).2 := by
  rcases scheduledStatisticsHealth_cases (d := d) (s := s) t with h | ⟨-, -, h⟩ <;>
  · rw [h]
    exact ⟨rfl, rfl⟩

lemma enterLockedReceiptRecovery_history (reason : Reason) (diagnostics : List (String × ℤ)) :
    SameHistory s (s.enterLockedReceiptRecovery d reason diagnostics).2 := by
  rcases enterLockedReceiptRecovery_cases (d := d) (s := s) reason diagnostics with
    ⟨-, -, h⟩ | ⟨-, -, -, -, h⟩
  · rw [h]
    exact ⟨rfl, rfl⟩
  · rw [h]
    split
    · exact ⟨rfl, rfl⟩
    · exact startReceiptRecovery_history

lemma healthOutcome_history (reason : Reason) : SameHistory s (s.healthOutcome d reason).2 := by
  rw [healthOutcome]
  split
  · exact enterLockedReceiptRecovery_history _ _
  · exact ⟨rfl, rfl⟩

lemma lockedReceiptRecoveryHealth_history :
    SameHistory s (s.lockedReceiptRecoveryHealth d t).2 := by
  have hhistory := scheduledStatisticsHealth_history (d := d) (s := s) (t := t)
  rw [lockedReceiptRecoveryHealth]
  split
  · exact ⟨rfl, rfl⟩
  dsimp only
  split_ifs
  · exact ⟨rfl, rfl⟩
  · exact ⟨rfl, rfl⟩
  · exact hhistory
  split
  · exact hhistory
  · split_ifs <;> exact hhistory

lemma pollHealth_history : SameHistory s (s.pollHealth d t).2 := by
  have hhistory := scheduledStatisticsHealth_history (d := d) (s := s) (t := t)
  rw [pollHealth]
  split
  · exact enterLockedReceiptRecovery_history _ _
  split
  · rename_i heq
    rw [heq] at hhistory
    exact hhistory.trans (healthOutcome_history _)
  · rename_i heq
    rw [heq] at hhistory
    exact hhistory

/-- A poll leaves the history. -/
lemma poll_history : SameHistory s (s.poll d t).2 := by
  have hhistory := lockedReceiptRecoveryHealth_history (d := d) (s := s) (t := t)
  rw [poll]
  split_ifs
  · exact ⟨rfl, rfl⟩
  · exact ⟨rfl, rfl⟩
  · exact ⟨rfl, rfl⟩
  · split
    · rename_i heq
      rw [heq] at hhistory
      exact hhistory
    · rename_i heq
      rw [heq] at hhistory
      exact hhistory
  · exact pollHealth_history

lemma observeHealth_history (correctedStampNs : ℤ) :
    SameHistory s (s.observeHealth d x correctedStampNs).2 := by
  have hhistory := scheduledStatisticsHealth_history (d := d) (s := s)
    (t := x.receiptMonotonicNs)
  rw [observeHealth]
  split
  · exact enterLockedReceiptRecovery_history _ _
  split
  · rename_i heq
    rw [heq] at hhistory
    exact hhistory.trans (healthOutcome_history _)
  · rename_i heq
    rw [heq] at hhistory
    exact hhistory

lemma observeRetained_history (correctedStampNs : ℤ) :
    SameHistory s (s.observeRetained d x correctedStampNs).2 := by
  rw [observeRetained]
  split
  · dsimp only
    have hnotes := (recordLockedReceiptRecoverySample_notes (d := d) (s := s) x.stream
      x.receiptMonotonicNs).history
    have hhistory := lockedReceiptRecoveryHealth_history (d := d)
      (s := s.recordLockedReceiptRecoverySample d x.stream x.receiptMonotonicNs)
      (t := x.receiptMonotonicNs)
    split
    · rename_i heq
      rw [heq] at hhistory
      exact hnotes.trans hhistory
    · rename_i heq
      rw [heq] at hhistory
      exact (hnotes.trans hhistory).trans (observeHealth_history _)
  · exact observeHealth_history _

lemma lockedNoncoreDropHealth_history (stream : String) :
    SameHistory s (s.lockedNoncoreDropHealth d stream t).2 := by
  rw [lockedNoncoreDropHealth]
  split
  · exact ⟨rfl, rfl⟩
  · exact ⟨rfl, rfl⟩
  split
  · exact ⟨rfl, rfl⟩
  split
  · exact ⟨rfl, rfl⟩
  · exact scheduledStatisticsHealth_history

/-! ## Observations -/

/-- A sample that is too old while a stream is stale: the pause that follows, or that goes on,
takes no note of it. -/
def Overlooks (d : Settings) (s : Discipline) (x : Observation) : Prop :=
  s.state = .locked ∧ d.allowLockedReceiptRecovery = true ∧
    s.livenessHealth d x.receiptMonotonicNs ≠ none ∧
    ∃ model correctedStampNs, s.lockedAffineModel = some model ∧
      model.correctedStampNs x.sourceStampNs = .ok correctedStampNs ∧
      (d.config.policy x.stream).maxCorrectedAgeNs < x.receiptRealtimeNs - correctedStampNs

/-- What becomes of an observation that does not restart the qualification. -/
inductive Handling (d : Settings) (s : Discipline) (x : Observation) (s' : Discipline) : Prop
  | refused (history : SameHistory s s') (fault : s'.state = .faulted)
  | overlooked (history : SameHistory s s') (overlooks : Overlooks d s x)
  | duplicate (streams : s'.streams = s.streams ∨ s'.streams = (s.countDuplicate x.stream).streams)
    (continuity : s'.observedContinuity = s.observedContinuity)
    (same : ∃ receiptNs, s.observedContinuity x.stream = some (x.sourceStampNs, receiptNs))
  | discarded (continues : Continues s x) (history : SameHistory (s.discard x) s')
  | retained (admitted : s.state = .locked → s.admits d x = true) (continues : Continues s x)
    (history : SameHistory (s.retain x) s')

/-- A handling does not depend on the clock, nor on whether there is a pause. -/
lemma Handling.of_pause {s' : Discipline} {active : Bool} {count : ℕ} {counts : String → ℕ}
    {preGap : String → Option ℤ} {waivers : String → Option ReceiptGap} {audit : AuditTrail}
    {clockBaseNs : Option ℤ}
    (h : Handling d { s with
      lastClockBaseNs := clockBaseNs
      receiptRecoveryActive := active
      receiptRecoveryCount := count
      receiptRecoverySampleCounts := counts
      receiptRecoveryPreGapReceiptNs := preGap
      receiptRecoveryGapWaivers := waivers
      audit := audit } x s') : Handling d s x s' := by
  cases h with
  | refused history fault => exact .refused history fault
  | overlooked history overlooks => exact .overlooked history overlooks
  | duplicate streams continuity same => exact .duplicate streams continuity same
  | discarded continues history => exact .discarded continues history
  | retained admitted continues history => exact .retained admitted continues history

lemma observeLocked_handling (hstate : s.state = .locked) (hcontinues : Continues s x)
    (hlimit : ∀ continuity, s.observedContinuity x.stream = some continuity →
      (deltaError d x continuity).errorNs ≤ (deltaError d x continuity).limitNs) :
    Handling d s x (s.observeLocked d x).2 := by
  rw [observeLocked]
  split
  · exact .refused ⟨rfl, rfl⟩ rfl
  · exact .refused ⟨rfl, rfl⟩ rfl
  rename_i model windows hmodel hwindows
  split
  · exact .refused ⟨rfl, rfl⟩ rfl
  split
  · exact .refused ⟨rfl, rfl⟩ rfl
  rename_i correctedStampNs hcorrected
  dsimp only
  split
  · exact .refused ⟨rfl, rfl⟩ rfl
  rename_i hfuture
  split
  · exact .refused ⟨rfl, rfl⟩ rfl
  rename_i hminimum
  split
  · rename_i hmaximum
    split
    · rename_i reason hstale
      rcases enterLockedReceiptRecovery_cases (d := d) (s := s) reason [] with
        ⟨hfaulted, -, -⟩ | ⟨-, hallow, -, -, -⟩
      · exact .refused (enterLockedReceiptRecovery_history _ _) hfaulted
      · refine .overlooked (enterLockedReceiptRecovery_history _ _) ⟨hstate, hallow, ?_, model,
          correctedStampNs, hmodel, hcorrected, hmaximum⟩
        rw [hstale]
        exact Option.some_ne_none reason
    · exact .discarded hcontinues ⟨rfl, rfl⟩
  · rename_i hmaximum
    have hhistory := observeRetained_history (d := d) (x := x)
      (s := (s.retain x).cacheAge windows x.stream (x.receiptRealtimeNs - correctedStampNs))
      correctedStampNs
    refine .retained (fun _ => ?_) hcontinues ⟨hhistory.1, hhistory.2⟩
    rw [admits, Bool.and_eq_true]
    constructor
    · rw [hmodel, Option.any_some, AffineClockModel.admits, hcorrected]
      refine decide_eq_true ⟨not_lt.mp hfuture, ?_, not_lt.mp hmaximum⟩
      cases hfloor : d.config.minimumLockedCorrectedAgeNs with
      | none => rfl
      | some minimum =>
        rw [hfloor] at hminimum
        simpa using hminimum
    · cases hcontinuity : s.observedContinuity x.stream with
      | none => rfl
      | some continuity =>
        obtain ⟨hsource, hreceipt⟩ := hcontinues continuity hcontinuity
        exact decide_eq_true ⟨hsource, hreceipt, hlimit continuity hcontinuity⟩

lemma observeContinuing_handling (hcontinues : Continues s x)
    (hlimit : ∀ continuity, s.observedContinuity x.stream = some continuity →
      (deltaError d x continuity).errorNs ≤ (deltaError d x continuity).limitNs) :
    Handling d s x (s.observeContinuing d x).2 := by
  rw [observeContinuing]
  split
  · rename_i hlocked
    exact observeLocked_handling hlocked hcontinues hlimit
  · rename_i hunlocked
    refine .retained (fun hlocked => absurd hlocked hunlocked) hcontinues ?_
    dsimp only
    split <;> exact ⟨rfl, rfl⟩

/-- The qualification starts again, with the observation as its first sample. -/
def Restarts (d : Settings) (s : Discipline) (x : Observation)
    (outcome : CorrectionResult × Discipline) : Prop :=
  s.state = .qualifying ∧ outcome.1.reason = .affineQualificationRestarted x.stream ∧
    outcome.2.streams = (s.restartQualification d x []).2.streams ∧
    outcome.2.observedContinuity = (s.restartQualification d x []).2.observedContinuity

lemma observeDiscontinuity_handling (hcontinues : Continues s x) (delta : DeltaError) :
    Restarts d s x (s.observeDiscontinuity d x delta) ∨
      Handling d s x (s.observeDiscontinuity d x delta).2 := by
  rw [observeDiscontinuity]
  split_ifs with hrestart hqualifying hpaused hcore hnoncore
  · exact .inl ⟨hrestart.1, rfl, rfl, rfl⟩
  · exact .inr (.discarded hcontinues ⟨rfl, rfl⟩)
  · exact .inr (.discarded hcontinues ⟨rfl, rfl⟩)
  · right
    dsimp only
    have hhistory := enterLockedReceiptRecovery_history (d := d) (s := s)
      (.recoveryDeltaDropped x.stream) delta.diagnostics
    rcases enterLockedReceiptRecovery_cases (d := d) (s := s) (.recoveryDeltaDropped x.stream)
      delta.diagnostics with ⟨hfaulted, hresult, -⟩ | ⟨-, -, -, hresult, -⟩
    · rw [if_neg (not_not.mpr hresult)]
      exact .refused hhistory hfaulted
    · rw [if_pos (by rw [hresult]; decide)]
      refine .discarded hcontinues ⟨hhistory.1, ?_⟩
      rw [discard, discard, hhistory.2]
  · right
    have hhistory := lockedNoncoreDropHealth_history (d := d) (s := s)
      (t := x.receiptMonotonicNs) x.stream
    split
    · rename_i heq
      rw [heq] at hhistory
      exact .refused hhistory rfl
    · rename_i heq
      rw [heq] at hhistory
      refine .discarded hcontinues ⟨hhistory.1, ?_⟩
      dsimp only [discard]
      rw [hhistory.2]
  · exact .inr (.refused ⟨rfl, rfl⟩ rfl)

lemma observeStream_handling :
    Restarts d s x (s.observeStream d x) ∨ Handling d s x (s.observeStream d x).2 := by
  rw [observeStream]
  split
  · rename_i hnone
    refine .inr (observeContinuing_handling ?_ ?_) <;>
    · intro continuity hsome
      cases hnone.symm.trans hsome
  rename_i continuity hcontinuity
  split_ifs with hregression hduplicate hgood
  · exact .inr (.refused ⟨rfl, rfl⟩ rfl)
  · refine .inr (.duplicate (.inr rfl) rfl ⟨continuity.2, ?_⟩)
    rw [hcontinuity, hduplicate]
  · refine .inr (.duplicate (.inl rfl) rfl ⟨continuity.2, ?_⟩)
    rw [hcontinuity, hduplicate]
  dsimp only
  split_ifs with hadvancing hlimit
  · exact .inr (.refused ⟨rfl, rfl⟩ rfl)
  all_goals
    have hcontinues : Continues s x := by
      intro continuity' hsome
      obtain rfl := Option.some.inj (hcontinuity.symm.trans hsome)
      rw [deltaError] at hadvancing
      dsimp only at hadvancing
      omega
  · exact observeDiscontinuity_handling hcontinues _
  · refine .inr (observeContinuing_handling hcontinues ?_)
    intro continuity' hsome
    obtain rfl := Option.some.inj (hcontinuity.symm.trans hsome)
    exact not_lt.mp hlimit

lemma observePeers_handling :
    Restarts d s x (s.observePeers d x) ∨ Handling d s x (s.observePeers d x).2 := by
  by_cases hlocked : s.state = .locked
  · rcases observePeers_eq (d := d) (x := x) hlocked with heq | heq
    · rw [heq]
      exact observeStream_handling
    · rw [heq]
      obtain ⟨_, _, _, _, hnotes⟩ := startReceiptRecovery_notes (d := d) (s := s)
      have hpaused := (startReceiptRecovery_state (d := d)).trans hlocked
      rcases observeStream_handling (d := d) (x := x)
        (s := s.startReceiptRecovery d) with ⟨hqualifying, -⟩ | hhandling
      · cases hpaused.symm.trans hqualifying
      · right
        rw [hnotes] at hhandling ⊢
        exact Handling.of_pause (s := s) hhandling
  · rw [observePeers, if_neg fun h => hlocked h.1]
    exact observeStream_handling

/-- **What becomes of an observation.**  It restarts the qualification, or it is handled in one of
the other ways. -/
theorem observe_handling :
    Restarts d s x (s.observe d x) ∨ Handling d s x (s.observe d x).2 := by
  rw [observe]
  split
  · rename_i hfaulted
    exact .inr (.refused ⟨rfl, rfl⟩ hfaulted)
  split
  · exact .inr (.refused ⟨rfl, rfl⟩ rfl)
  rw [observeTimed]
  dsimp only
  split
  · rename_i hrestart
    exact .inl ⟨hrestart.1, rfl, rfl, rfl⟩
  · rcases observePeers_handling (d := d) (x := x)
      (s := { s with lastClockBaseNs := some x.clockBaseNs }) with hrestart | hhandling
    · exact .inl hrestart
    · exact .inr (Handling.of_pause (s := s) hhandling)

end Discipline

end UnitreeGo2.StampDiscipline
