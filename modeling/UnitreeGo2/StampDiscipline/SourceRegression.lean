import UnitreeGo2.StampDiscipline.Frames

/-!
# Source regressions

A source stamp behind one that its stream has shown before faults the discipline, until a restart
of the qualification forgets what the streams have shown.
-/

namespace UnitreeGo2.StampDiscipline

namespace Discipline

variable {d : Settings} {s : Discipline} {t : ℤ} {x : Observation}

/-- The discipline is faulted, or the continuity of a stream is at a source stamp or behind it. -/
def Remembers (stream : String) (sourceNs : ℤ) (s : Discipline) : Prop :=
  s.state = .faulted ∨
    ∃ continuity, s.observedContinuity stream = some continuity ∧ sourceNs ≤ continuity.1

lemma observe_faulted (h : s.state = .faulted) : (s.observe d x).2 = s := by
  rw [observe, if_pos h]

lemma Remembers.update {stream : String} {sourceNs : ℤ} {s s' : Discipline}
    (h : ∃ continuity, s.observedContinuity stream = some continuity ∧ sourceNs ≤ continuity.1)
    (hcontinues : Continues s x) (hcontinuity : s'.observedContinuity =
      Function.update s.observedContinuity x.stream (some x.continuity)) :
    Remembers stream sourceNs s' := by
  obtain ⟨continuity, hsome, hle⟩ := h
  by_cases hself : stream = x.stream
  · subst hself
    refine .inr ⟨x.continuity, by rw [hcontinuity, Function.update_self], ?_⟩
    exact hle.trans (hcontinues continuity hsome).1.le
  · exact .inr ⟨continuity, by rw [hcontinuity, Function.update_of_ne hself, hsome], hle⟩

/-- An observation that does not restart the qualification forgets nothing. -/
lemma Remembers.observe {stream : String} {sourceNs : ℤ} (h : Remembers stream sourceNs s)
    (hrestart : ¬ Restarts d s x (s.observe d x)) :
    Remembers stream sourceNs (s.observe d x).2 := by
  rcases h with hfaulted | hknown
  · rw [observe_faulted hfaulted]
    exact .inl hfaulted
  cases observe_handling.resolve_left hrestart with
  | refused history fault => exact .inl fault
  | overlooked history overlooks =>
    right
    rw [history.2]
    exact hknown
  | duplicate streams continuity same =>
    right
    rw [continuity]
    exact hknown
  | discarded continues history => exact Remembers.update hknown continues history.2
  | retained admitted continues history => exact Remembers.update hknown continues history.2

lemma remembers_continuity {s s' : Discipline} (h : s'.observedContinuity =
    Function.update s.observedContinuity x.stream (some x.continuity)) :
    Remembers x.stream x.sourceStampNs s' :=
  .inr ⟨x.continuity, by rw [h, Function.update_self], le_rfl⟩

/-- An observation that is not overlooked is remembered. -/
lemma remembers_observe (hoverlooks : ¬ Overlooks d s x) :
    Remembers x.stream x.sourceStampNs (s.observe d x).2 := by
  rcases observe_handling (d := d) (s := s) (x := x) with ⟨-, -, -, hcontinuity⟩ | hhandling
  · refine .inr ⟨x.continuity, ?_, le_rfl⟩
    rw [hcontinuity]
    simp only [restartQualification, retain, Function.update_self]
  cases hhandling with
  | refused history fault => exact .inl fault
  | overlooked history overlooks => exact absurd overlooks hoverlooks
  | duplicate streams continuity same =>
    obtain ⟨receiptNs, hsome⟩ := same
    exact .inr ⟨_, continuity ▸ hsome, le_rfl⟩
  | discarded continues history =>
    exact remembers_continuity history.2
  | retained admitted continues history =>
    exact remembers_continuity history.2

lemma observeStream_regression {continuity : ℤ × ℤ}
    (hcontinuity : s.observedContinuity x.stream = some continuity)
    (hregression : x.sourceStampNs < continuity.1) :
    s.observeStream d x = s.fault (.sourceTimestampRegression x.stream) [] := by
  rw [observeStream, hcontinuity]
  exact if_pos hregression

lemma observePeers_regression {continuity : ℤ × ℤ}
    (hcontinuity : s.observedContinuity x.stream = some continuity)
    (hregression : x.sourceStampNs < continuity.1) :
    (s.observePeers d x).2.state = .faulted ∧ (s.observePeers d x).1.accepted = false := by
  by_cases hlocked : s.state = .locked
  · rcases observePeers_eq (d := d) (x := x) hlocked with heq | heq
    · rw [heq, observeStream_regression hcontinuity hregression]
      exact ⟨rfl, rfl⟩
    · have hsame := (startReceiptRecovery_history (d := d) (s := s)).2
      rw [heq, observeStream_regression ((congrFun hsame x.stream).trans hcontinuity) hregression]
      exact ⟨rfl, rfl⟩
  · rw [observePeers, if_neg fun h => hlocked h.1,
      observeStream_regression hcontinuity hregression]
    exact ⟨rfl, rfl⟩

/-- A source stamp behind the continuity restarts the qualification, or it is a fault. -/
lemma observe_regression {continuity : ℤ × ℤ} (hstate : s.state ≠ .faulted)
    (hcontinuity : s.observedContinuity x.stream = some continuity)
    (hregression : x.sourceStampNs < continuity.1) :
    Restarts d s x (s.observe d x) ∨
      (s.observe d x).2.state = .faulted ∧ (s.observe d x).1.accepted = false := by
  rw [observe, if_neg hstate]
  split
  · exact .inr ⟨rfl, rfl⟩
  rw [observeTimed]
  dsimp only
  split
  · rename_i hrestart
    exact .inl ⟨hrestart.1, rfl, rfl, rfl⟩
  · exact .inr (observePeers_regression (s := { s with lastClockBaseNs := some x.clockBaseNs })
      hcontinuity hregression)

end Discipline

/-! ## Runs -/

namespace Session

variable {d : Settings}

/-- The step restarts the qualification. -/
def RestartsQualification (w : Step) : Prop :=
  ∃ result stream, w.output = .result result ∧
    result.reason = .affineQualificationRestarted stream

/-- What is not an observation leaves the continuity of the streams. -/
lemma step_continuity {s : Session} {c : Call} (hc : ∀ x, c ≠ .observe x) :
    ((machine d).step s c).2.discipline.observedContinuity = s.discipline.observedContinuity := by
  cases c with
  | observe x => exact absurd rfl (hc x)
  | poll t => exact Discipline.poll_history.2
  | capture t => rw [step_capture]
  | evaluate index => rw [step_evaluate]
  | lockAffine request evaluation =>
    rw [step_lockAffine]
    rcases Discipline.lockAffine_cases (d := d) (s := s.discipline) request
      (evaluation.bind (s.evaluations[·]?)) with h | h | ⟨model, windows, -, -, -, h⟩ <;> rw [h]
    · rfl
    · rfl
  | lockAffineFromApprovedDrift driftPpm verified t =>
    rw [step_lockAffineFromApprovedDrift]
    rcases Discipline.lockAffineFromApprovedDrift_cases (d := d) (s := s.discipline)
      (t := t) driftPpm verified with h | ⟨model, windows, -, -, -, -, h⟩ <;> rw [h]
    · rfl

/-- A call that brings a faulted discipline leaves it faulted. -/
lemma step_faulted {s : Session} (h : s.discipline.state = .faulted) (c : Call) :
    ((machine d).step s c).2.discipline.state = .faulted := by
  obtain ⟨t, -, hupdates | ⟨hqualifying, -⟩⟩ := step_cases (d := d) s c
  · refine keep_updates (P := fun s => s.state = .faulted) ?_ h hupdates
    intro s s' hfaulted hupdate
    rcases hupdate.state_eq with hsame | hfaulted'
    · exact hsame.trans hfaulted
    · exact hfaulted'
  · cases h.symm.trans hqualifying

/-- A step that does not restart the qualification forgets nothing. -/
lemma remembers_step {stream : String} {sourceNs : ℤ} {s : Session}
    (h : Discipline.Remembers stream sourceNs s.discipline) {c : Call}
    (hrestart : ¬ RestartsQualification ((machine d).stepAt s c)) :
    Discipline.Remembers stream sourceNs ((machine d).step s c).2.discipline := by
  by_cases hc : ∀ x, c ≠ .observe x
  · rcases h with hfaulted | hknown
    · exact .inl (step_faulted hfaulted c)
    · right
      rw [step_continuity hc]
      exact hknown
  · push Not at hc
    obtain ⟨x, rfl⟩ := hc
    exact h.observe fun hrestarts => hrestart ⟨_, _, rfl, hrestarts.2.1⟩

/-- A run forgets nothing in which no step restarts the qualification. -/
lemma remembers_final {stream : String} {sourceNs : ℤ} {s : Session}
    (h : Discipline.Remembers stream sourceNs s.discipline) {calls : List Call}
    (hrestart : ∀ w ∈ (machine d).trace s calls, ¬ RestartsQualification w) :
    Discipline.Remembers stream sourceNs ((machine d).final s calls).discipline := by
  induction calls generalizing s with
  | nil => exact h
  | cons c calls ih =>
    refine ih (remembers_step h (hrestart _ List.mem_cons_self)) fun w hw => ?_
    exact hrestart w (List.mem_cons_of_mem _ hw)

/-- A source stamp behind an earlier one of its stream faults the discipline and is not accepted.
Between the two observations and around them may lie whatever the last argument allows. -/
def LatchesRegression (tr : List Step) (allowed : Step → List Step → Step → Prop) : Prop :=
  ∀ l y m z r, tr = l ++ y :: (m ++ z :: r) → allowed y m z →
    ∀ x x', y.event = .observe x → z.event = .observe x' → x'.stream = x.stream →
      x'.sourceStampNs < x.sourceStampNs → z.pre.discipline.state ≠ .faulted →
        z.post.discipline.state = .faulted ∧ ¬ Accepts z

/-- Since the earlier observation, which has not been overlooked, the qualification has not been
restarted. -/
def NotForgotten (d : Settings) (y : Step) (m : List Step) (z : Step) : Prop :=
  (∀ x, y.event = .observe x → ¬ Discipline.Overlooks d y.pre.discipline x) ∧
    ∀ w ∈ m ++ [z], ¬ RestartsQualification w

/-- **Source regressions latch.**  In every run, a source stamp that is behind one that its stream
has shown since the last restart of the qualification faults the discipline. -/
theorem regression_latches (s₀ : Session) (calls : List Call) :
    LatchesRegression ((machine d).trace s₀ calls) (NotForgotten d) := by
  intro l y m z r htrace ⟨hoverlooks, hrestart⟩ x x' hy hz hstream hregression hstate
  obtain ⟨es₁, es₂, -, -, hyAt, hrest⟩ := (machine d).trace_eq_append_cons htrace
  obtain ⟨fs₁, fs₂, -, rfl, hzAt, -⟩ := (machine d).trace_eq_append_cons hrest.symm
  have hknown : Discipline.Remembers x.stream x.sourceStampNs y.post.discipline := by
    have hnot := hoverlooks x hy
    rw [hy] at hyAt
    rw [hyAt] at hnot ⊢
    exact Discipline.remembers_observe hnot
  have hpre := remembers_final hknown fun w hw => hrestart w (List.mem_append_left _ hw)
  rw [hz] at hzAt
  rw [hzAt] at hstate ⊢
  rcases hpre with hfaulted | ⟨continuity, hcontinuity, hle⟩
  · exact absurd hfaulted hstate
  rcases Discipline.observe_regression hstate (hstream ▸ hcontinuity) (hregression.trans_le hle)
    with hrestarts | ⟨hfault, hrefused⟩
  · have hnot := hrestart z (by simp)
    rw [hzAt] at hnot
    exact absurd ⟨_, _, rfl, hrestarts.2.1⟩ hnot
  · refine ⟨hfault, ?_⟩
    rintro ⟨_, result, -, houtput, haccepted⟩
    have hsame := congrArg CorrectionResult.accepted (Answer.result.inj houtput)
    cases hrefused.symm.trans (hsame.trans haccepted)

lemma LatchesRegression.faults {l m : List Step} {y z : Step} {x x' : Observation}
    (h : LatchesRegression (l ++ y :: (m ++ [z])) fun _ _ _ => True)
    (hy : y.event = .observe x) (hz : z.event = .observe x') (hstream : x'.stream = x.stream)
    (hregression : x'.sourceStampNs < x.sourceStampNs)
    (hstate : z.pre.discipline.state ≠ .faulted) : z.post.discipline.state = .faulted :=
  (h l y m z [] rfl trivial x x' hy hz hstream hregression hstate).1

end Session

/-! ## A delivery pause -/

namespace Demo

open Session

/-- Three streams whose qualification starts again after a delivery pause. -/
def restartSettings : Settings :=
  { settings 2000000000 with
    config := { (settings 2000000000).config with
      affineRestartQualificationOnCoreDeltaDiscontinuity := true } }

/-- The IMU is observed again after four seconds, with a stamp behind its first one. -/
def regressingCalls : List Call :=
  [.observe (sample "imu" 1000000000 1000000000), .observe (sample "odom" 1000000000 1000000000),
    .observe (sample "mid360_cloud" 1000000000 1000000000),
    .observe (sample "imu" 500000000 5000000000)]

end Demo

/-- A regression that comes with a delivery pause restarts the qualification. -/
theorem delivery_pause_forgets :
    ∃ s₀, Demo.restartSettings.create none = .ok s₀ ∧
      ¬ Session.LatchesRegression ((Session.machine Demo.restartSettings).trace
        (Session.opened s₀) Demo.regressingCalls) fun _ _ _ => True := by
  refine ⟨Demo.restartSettings.initial none, ?_, fun h => ?_⟩
  · exact Settings.create_eq (by decide +kernel) (by decide +kernel)
  · have hfaulted := h.faults (l := []) (m := [_, _]) rfl rfl rfl (by decide) (by decide +kernel)
    revert hfaulted
    decide +kernel

end UnitreeGo2.StampDiscipline
