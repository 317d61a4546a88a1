import UnitreeGo2.StampDiscipline.AgeCache
import UnitreeGo2.StampDiscipline.Frames
import Mathlib.Data.List.Dedup

/-!
# The evidence that ends a recovery pause

A pause counts the samples that each stream retains.  What a call of a locked discipline retains
is an observation within all its bounds; so the counts of a pause stand for fresh samples, as long
as no stream is counted for a sample from before the pause.
-/

namespace UnitreeGo2.StampDiscipline

namespace Discipline

variable {d : Settings} {s : Discipline} {t : ℤ} {x : Observation}

/-! ## What a locked discipline retains -/

lemma retain_advancing (stream : String) :
    ((s.retain x).streams stream).advancing =
      (s.streams stream).advancing + if stream = x.stream then 1 else 0 := by
  by_cases hself : stream = x.stream
  · subst hself
    simp only [retain, Function.update_self, if_true]
  · simp only [retain, Function.update_of_ne hself, if_neg hself, Nat.add_zero]

lemma countDuplicate_advancing (name stream : String) :
    ((s.countDuplicate name).streams stream).advancing = (s.streams stream).advancing := by
  rw [countDuplicate]
  by_cases hself : stream = name
  · subst hself
    simp only [Function.update_self]
  · simp only [Function.update_of_ne hself]

/-- **What a locked discipline retains.**  An observation adds one to the counter of its stream if
it is within its bounds, and leaves all counters otherwise. -/
theorem observe_counted (hstate : s.state = .locked) :
    (∀ stream, ((s.observe d x).2.streams stream).advancing = (s.streams stream).advancing) ∨
      s.admits d x = true ∧ ∀ stream, ((s.observe d x).2.streams stream).advancing =
        (s.streams stream).advancing + if stream = x.stream then 1 else 0 := by
  rcases observe_handling (d := d) (s := s) (x := x) with ⟨hqualifying, -⟩ | hhandling
  · cases hstate.symm.trans hqualifying
  · cases hhandling with
    | refused history fault => exact .inl fun stream => by rw [history.1]
    | overlooked history overlooks => exact .inl fun stream => by rw [history.1]
    | duplicate streams continuity same =>
      refine .inl fun stream => ?_
      rcases streams with hsame | hcounted
      · rw [hsame]
      · rw [hcounted, countDuplicate_advancing]
    | discarded continues history => exact .inl fun stream => by rw [history.1]; rfl
    | retained admitted continues history =>
      refine .inr ⟨admitted hstate, fun stream => ?_⟩
      rw [history.1, retain_advancing]

/-! ## Results -/

/-- No result of a health check is an accepted observation. -/
lemma enterLockedReceiptRecovery_refuses (reason : Reason) (diagnostics : List (String × ℤ)) :
    (s.enterLockedReceiptRecovery d reason diagnostics).1.accepted = false := by
  rw [enterLockedReceiptRecovery]
  split
  · rfl
  · dsimp only
    split <;> rfl

lemma healthOutcome_refuses (reason : Reason) :
    (s.healthOutcome d reason).1.accepted = false := by
  rw [healthOutcome]
  split
  · exact enterLockedReceiptRecovery_refuses _ _
  · rfl

lemma lockedReceiptRecoveryHealth_refuses {r : CorrectionResult}
    (h : (s.lockedReceiptRecoveryHealth d t).1 = some r) : r.accepted = false := by
  rw [lockedReceiptRecoveryHealth] at h
  split at h
  · cases h
    rfl
  dsimp only at h
  split_ifs at h
  · cases h
    rfl
  · cases h
    rfl
  split at h
  · cases h
  · split_ifs at h
    all_goals
      cases h
      rfl

/-- The check that ends a pause ends it. -/
lemma lockedReceiptRecoveryHealth_ends (h : (s.lockedReceiptRecoveryHealth d t).1 = none) :
    (s.lockedReceiptRecoveryHealth d t).2.receiptRecoveryActive = false := by
  rw [lockedReceiptRecoveryHealth] at h ⊢
  split at h
  · cases h
  rename_i hlive
  dsimp only at h ⊢
  split_ifs at h ⊢
  · rfl
  split at h
  · rfl
  · split_ifs at h

lemma observeHealth_accepts (hactive : s.receiptRecoveryActive = false) {correctedStampNs : ℤ}
    (h : (s.observeHealth d x correctedStampNs).1.accepted = true) :
    (s.observeHealth d x correctedStampNs).2.receiptRecoveryActive = false := by
  have hsame := scheduledStatisticsHealth_active (d := d) (s := s)
    (t := x.receiptMonotonicNs)
  rw [observeHealth] at h ⊢
  split at h
  · rw [enterLockedReceiptRecovery_refuses] at h
    cases h
  split at h
  · rw [healthOutcome_refuses] at h
    cases h
  · rename_i s' heq
    rw [heq] at hsame
    exact hsame.trans hactive

lemma observeRetained_accepts {correctedStampNs : ℤ}
    (h : (s.observeRetained d x correctedStampNs).1.accepted = true) :
    (s.observeRetained d x correctedStampNs).2.receiptRecoveryActive = false := by
  rw [observeRetained] at h ⊢
  split
  · rename_i hactive
    rw [if_pos hactive] at h
    dsimp only at h ⊢
    have hrefuses {result : CorrectionResult} := lockedReceiptRecoveryHealth_refuses (d := d)
      (s := s.recordLockedReceiptRecoverySample d x.stream x.receiptMonotonicNs)
      (t := x.receiptMonotonicNs) (r := result)
    have hends := lockedReceiptRecoveryHealth_ends (d := d)
      (s := s.recordLockedReceiptRecoverySample d x.stream x.receiptMonotonicNs)
      (t := x.receiptMonotonicNs)
    split at h
    · rename_i result s' heq
      rw [heq] at hrefuses
      rw [hrefuses rfl] at h
      cases h
    · rename_i s' heq
      rw [heq] at hends
      exact observeHealth_accepts (hends rfl) h
  · rename_i hactive
    rw [if_neg hactive] at h
    exact observeHealth_accepts (Bool.eq_false_iff.mpr hactive) h

lemma observeLocked_accepts (h : (s.observeLocked d x).1.accepted = true) :
    (s.observeLocked d x).2.receiptRecoveryActive = false := by
  rw [observeLocked] at h ⊢
  split at h
  · cases h
  · cases h
  split at h
  · cases h
  rename_i haligned
  rw [if_neg haligned]
  split at h
  · cases h
  dsimp only at h ⊢
  split at h
  · cases h
  rename_i hfuture
  rw [if_neg hfuture]
  split at h
  · cases h
  rename_i hminimum
  rw [if_neg hminimum]
  split at h
  · split at h
    · rw [enterLockedReceiptRecovery_refuses] at h
      cases h
    · cases h
  · rename_i hmaximum
    rw [if_neg hmaximum]
    exact observeRetained_accepts h

lemma observeDiscontinuity_refuses (delta : DeltaError) :
    (s.observeDiscontinuity d x delta).1.accepted = false := by
  rw [observeDiscontinuity]
  split_ifs
  · rfl
  · rfl
  · rfl
  · exact enterLockedReceiptRecovery_refuses _ _
  · split <;> rfl
  · rfl

lemma observeStream_accepts (h : (s.observeStream d x).1.accepted = true) :
    (s.observeStream d x).2.receiptRecoveryActive = false := by
  have hcontinuing (h : (s.observeContinuing d x).1.accepted = true) :
      (s.observeContinuing d x).2.receiptRecoveryActive = false := by
    rw [observeContinuing] at h ⊢
    split at h
    · rename_i hlocked
      rw [if_pos hlocked]
      exact observeLocked_accepts h
    · cases h
  rw [observeStream] at h ⊢
  split at h
  · exact hcontinuing h
  split at h
  · cases h
  rename_i hregression
  rw [if_neg hregression]
  split at h
  · cases h
  rename_i hduplicate
  rw [if_neg hduplicate]
  dsimp only at h ⊢
  split at h
  · cases h
  rename_i hadvancing
  rw [if_neg hadvancing]
  split at h
  · rw [observeDiscontinuity_refuses] at h
    cases h
  · rename_i hlimit
    rw [if_neg hlimit]
    exact hcontinuing h

/-- An observation is accepted outside a pause only. -/
lemma observe_accepts (h : (s.observe d x).1.accepted = true) :
    (s.observe d x).2.receiptRecoveryActive = false := by
  rw [observe] at h ⊢
  split at h
  · cases h
  rename_i hstate
  rw [if_neg hstate]
  split at h
  · cases h
  rw [observeTimed] at h ⊢
  dsimp only at h ⊢
  split at h
  · cases h
  rename_i hrestart
  rw [if_neg hrestart]
  rw [observePeers] at h ⊢
  split at h
  · rename_i hpeers
    rw [if_pos hpeers]
    split at h
    · exact observeStream_accepts h
    · exact observeStream_accepts h
  · rename_i hpeers
    rw [if_neg hpeers]
    exact observeStream_accepts h

/-! ## The counts of a pause -/

/-- The last two retained samples of a stream are further apart than its receipt timeout. -/
def StalePair (d : Settings) (s : Discipline) (stream : String) : Prop :=
  ∃ gap, (receiptGaps (s.streams stream).samples).getLast? = some gap ∧
    (d.config.policy stream).staleReceiptTimeoutNs < gap.gapNs

instance (stream : String) : Decidable (StalePair d s stream) :=
  decidable_of_iff ((receiptGaps (s.streams stream).samples).getLast?.any fun gap =>
    (d.config.policy stream).staleReceiptTimeoutNs < gap.gapNs) (by
      simp [StalePair, Option.any_eq_true])

lemma recordGapWaiver_counts (stream : String) (leftNs rightNs : ℤ) :
    (s.recordGapWaiver d stream leftNs rightNs).receiptRecoverySampleCounts =
      s.receiptRecoverySampleCounts := by
  rw [recordGapWaiver]
  dsimp only
  split <;> rfl

lemma seedReceiptRecovery_counts (stream : String) :
    (s.seedReceiptRecovery d stream).receiptRecoverySampleCounts =
        s.receiptRecoverySampleCounts ∨
      StalePair d s stream ∧ (s.seedReceiptRecovery d stream).receiptRecoverySampleCounts =
        Function.update s.receiptRecoverySampleCounts stream 1 := by
  rw [seedReceiptRecovery]
  split
  · exact .inl rfl
  · rename_i gap hgap
    split
    · exact .inl rfl
    · rename_i hstale
      refine .inr ⟨⟨gap, hgap, not_le.mp hstale⟩, ?_⟩
      dsimp only
      rw [recordGapWaiver_counts]

lemma foldl_seedReceiptRecovery_counts (names : List String) {stream : String}
    (h : s.receiptRecoverySampleCounts stream = 0 ∨
      s.receiptRecoverySampleCounts stream = 1 ∧ StalePair d s stream) :
    (names.foldl (seedReceiptRecovery d) s).receiptRecoverySampleCounts stream = 0 ∨
      (names.foldl (seedReceiptRecovery d) s).receiptRecoverySampleCounts stream = 1 ∧
        StalePair d s stream := by
  induction names generalizing s with
  | nil => exact h
  | cons name names ih =>
    have hpair (stream : String) : StalePair d (s.seedReceiptRecovery d name) stream ↔
        StalePair d s stream := by
      rw [StalePair, StalePair, (seedReceiptRecovery_notes (d := d) name).history.1]
    rw [List.foldl_cons, ← hpair]
    refine ih ?_
    rw [hpair]
    rcases seedReceiptRecovery_counts (d := d) (s := s) name with hsame | ⟨hstale, hseeded⟩
    · rwa [hsame]
    · rw [hseeded]
      by_cases hself : stream = name
      · subst hself
        rw [Function.update_self]
        exact .inr ⟨rfl, hstale⟩
      · rwa [Function.update_of_ne hself]

/-- A pause begins with nothing counted, but for the streams with a stale pair. -/
lemma startReceiptRecovery_counts (stream : String) :
    (s.startReceiptRecovery d).receiptRecoverySampleCounts stream = 0 ∨
      (s.startReceiptRecovery d).receiptRecoverySampleCounts stream = 1 ∧
        StalePair d s stream :=
  foldl_seedReceiptRecovery_counts d.config.names (.inl rfl)

lemma recordLockedReceiptRecoverySample_counts_le (name : String) (receiptNs : ℤ)
    (stream : String) :
    (s.recordLockedReceiptRecoverySample d name receiptNs).receiptRecoverySampleCounts stream ≤
      s.receiptRecoverySampleCounts stream + if stream = name then 1 else 0 := by
  have hupdate : Function.update s.receiptRecoverySampleCounts name
      (s.receiptRecoverySampleCounts name + 1) stream ≤
        s.receiptRecoverySampleCounts stream + if stream = name then 1 else 0 := by
    by_cases hself : stream = name
    · subst hself
      simp
    · simp [hself]
  rw [recordLockedReceiptRecoverySample]
  dsimp only
  split
  · omega
  · split
    · dsimp only
      rw [recordGapWaiver_counts]
      exact hupdate
    · exact hupdate

lemma two_le_counts (h : s.pendingStreams d = []) {stream : String}
    (hstream : stream ∈ d.config.names) : 2 ≤ s.receiptRecoverySampleCounts stream := by
  by_contra hless
  have hmem : stream ∈ s.pendingStreams d := by
    rw [pendingStreams, sortedSet, List.mem_insertionSort, List.mem_dedup, List.mem_filter]
    refine ⟨hstream, decide_eq_true ?_⟩
    rw [LOCKED_RECEIPT_RECOVERY_REQUIRED_SAMPLES]
    omega
  rw [h] at hmem
  cases hmem

/-! ## Evidence -/

/-- Since the counters of the samples stood at a baseline, the present pause has counted no more
than has been retained; or every stream has retained two samples. -/
structure Evidence (d : Settings) (baseline : String → ℕ) (s : Discipline) : Prop where
  state : s.state ≠ .qualifying
  counted : s.receiptRecoveryActive = true ∧ (∀ stream ∈ d.config.names,
      s.receiptRecoverySampleCounts stream + baseline stream ≤ (s.streams stream).advancing) ∨
    ∀ stream ∈ d.config.names, 2 + baseline stream ≤ (s.streams stream).advancing

variable {baseline : String → ℕ}

lemma Evidence.congr {s' : Discipline} (h : Evidence d baseline s)
    (hstate : s'.state = s.state ∨ s'.state = .faulted)
    (hactive : s'.receiptRecoveryActive = s.receiptRecoveryActive)
    (hcounts : s'.receiptRecoverySampleCounts = s.receiptRecoverySampleCounts)
    (hadvancing : ∀ stream, (s.streams stream).advancing ≤ (s'.streams stream).advancing) :
    Evidence d baseline s' := by
  constructor
  · rcases hstate with hsame | hfaulted
    · exact hsame ▸ h.state
    · rw [hfaulted]
      decide
  · rw [hactive, hcounts]
    rcases h.counted with ⟨hpaused, hcounted⟩ | hfresh
    · exact .inl ⟨hpaused, fun stream hstream =>
        (hcounted stream hstream).trans (hadvancing stream)⟩
    · exact .inr fun stream hstream => (hfresh stream hstream).trans (hadvancing stream)

lemma advancing_le_retain (stream : String) :
    (s.streams stream).advancing ≤ ((s.retain x).streams stream).advancing := by
  rw [retain_advancing]
  exact Nat.le_add_right _ _

/-- Every update keeps the evidence. -/
lemma Evidence.update {s' : Discipline} (h : Evidence d baseline s)
    (hupdate : Update d t s s') : Evidence d baseline s' := by
  cases hupdate with
  | clock baseNs => exact h.congr (.inl rfl) rfl rfl fun _ => le_rfl
  | fault reason hcache => exact h.congr (.inr rfl) rfl rfl fun _ => le_rfl
  | restart x htime hstream hstate => exact absurd hstate h.state
  | duplicate x hgood =>
    refine h.congr (.inl rfl) rfl rfl fun stream => ?_
    rw [countDuplicate_advancing]
  | discard x htime hcontinues => exact h.congr (.inl rfl) rfl rfl fun _ => le_rfl
  | retain x htime hstream hstate hcontinues =>
    rw [observeContinuing, if_neg hstate]
    dsimp only
    split <;> exact h.congr (.inl rfl) rfl rfl advancing_le_retain
  | retainLocked x model windows correctedStampNs htime hstream hcontinues hcorrectable =>
    have hnotes := recordLockedReceiptRecoverySample_notes (d := d)
      (s := (s.retain x).cacheAge windows x.stream (x.receiptRealtimeNs - correctedStampNs))
      x.stream x.receiptMonotonicNs
    have hadvancing (stream : String) :
        ((s.retainLocked d x windows correctedStampNs).streams stream).advancing =
          (s.streams stream).advancing + if stream = x.stream then 1 else 0 := by
      rw [retainLocked, hnotes.history.1]
      exact retain_advancing stream
    refine ⟨fun hstate => h.state (hnotes.state_eq.symm.trans hstate), ?_⟩
    rcases h.counted with ⟨hpaused, hcounted⟩ | hfresh
    · refine .inl ⟨hnotes.active_eq.trans hpaused, fun stream hstream => ?_⟩
      have hold := hcounted stream hstream
      have hle : (s.retainLocked d x windows
          correctedStampNs).receiptRecoverySampleCounts stream ≤
            s.receiptRecoverySampleCounts stream + if stream = x.stream then 1 else 0 :=
        recordLockedReceiptRecoverySample_counts_le x.stream x.receiptMonotonicNs stream
      rw [hadvancing stream]
      omega
    · refine .inr fun stream hstream => ?_
      have := hfresh stream hstream
      rw [hadvancing stream]
      omega
  | pause hstate hallow hactive =>
    refine ⟨fun hqualifying => ?_, .inr fun stream hstream => ?_⟩
    · rw [startReceiptRecovery_state, hstate] at hqualifying
      cases hqualifying
    · rw [startReceiptRecovery_history.1]
      rcases h.counted with ⟨hpaused, -⟩ | hfresh
      · cases hactive.symm.trans hpaused
      · exact hfresh stream hstream
  | evaluate hstate =>
    rcases scheduledStatisticsHealth_cases (d := d) (s := s) t with heq | ⟨-, -, heq⟩
    · rwa [heq]
    · rw [heq]
      exact h.congr (.inl rfl) rfl rfl fun _ => le_rfl
  | resume hstate hactive hfresh =>
    refine ⟨h.state, .inr fun stream hstream => ?_⟩
    rcases h.counted with ⟨-, hcounted⟩ | hfresh'
    · have hold := hcounted stream hstream
      have htwo := two_le_counts hfresh hstream
      exact (Nat.add_le_add_right htwo _).trans hold
    · exact hfresh' stream hstream

/-! ## Entries -/

/-- On the way of a call into a pause: no pause has begun since the state before the call, or one
has, with the evidence since. -/
def Entering (d : Settings) (before s : Discipline) : Prop :=
  s.receiptRecoveryCount = before.receiptRecoveryCount ∧
      (s.state = .locked → before.state = .locked ∧ ∀ stream,
        (s.streams stream).samples = (before.streams stream).samples ∧
          (s.streams stream).advancing = (before.streams stream).advancing ∨
        (before.streams stream).advancing < (s.streams stream).advancing) ∨
    before.state = .locked ∧ Evidence d (fun stream => (before.streams stream).advancing) s

/-- What is known of the samples on the way into a pause, every update keeps. -/
lemma Entering.update {before s' : Discipline}
    (hpairs : ∀ stream ∈ d.config.names, ¬ StalePair d before stream)
    (h : Entering d before s) (hupdate : Update d t s s') : Entering d before s' := by
  rcases h with ⟨hcount, hlocked⟩ | ⟨hbefore, hevidence⟩
  · rcases hupdate.pause_or with ⟨hstate, hactive, rfl⟩ | hsame
    · obtain ⟨hbefore, hsamples⟩ := hlocked hstate
      refine .inr ⟨hbefore, ?_, .inl ⟨(startReceiptRecovery_notes (d := d)).active_eq, ?_⟩⟩
      · rw [startReceiptRecovery_state, hstate]
        decide
      intro stream hstream
      rw [startReceiptRecovery_history.1]
      rcases startReceiptRecovery_counts (d := d) (s := s) stream with hzero | ⟨hone, hstale⟩
      · rcases hsamples stream with ⟨-, hsame⟩ | hmore <;> omega
      · rcases hsamples stream with ⟨hsame, -⟩ | hmore
        · -- the stale pair would be one from before the call
          refine absurd ?_ (hpairs stream hstream)
          rwa [StalePair, hsame] at hstale
        · omega
    · refine .inl ⟨hsame.trans hcount, fun hstate' => ?_⟩
      have hstate : s.state = .locked := by
        rcases hupdate.state_eq with heq | heq
        · exact heq.symm.trans hstate'
        · cases heq.symm.trans hstate'
      obtain ⟨hbefore, hsamples⟩ := hlocked hstate
      refine ⟨hbefore, fun stream => ?_⟩
      cases hupdate.retention with
      | same start streams =>
        rw [(streams stream).1, (streams stream).2]
        exact hsamples stream
      | restart state start fresh => cases hstate.symm.trans state
      | retain x time streams start =>
        rw [streams]
        by_cases hself : stream = x.stream
        · right
          rw [retain_advancing, if_pos hself]
          rcases hsamples stream with ⟨-, hsame⟩ | hmore <;> omega
        · simpa only [retain, Function.update_of_ne hself] using hsamples stream
  · exact .inr ⟨hbefore, hevidence.update hupdate⟩

end Discipline

/-! ## Runs -/

namespace Session

variable {d : Settings}

/-- The step begins a recovery pause. -/
def Enters (x : Step) : Prop :=
  x.pre.discipline.receiptRecoveryCount < x.post.discipline.receiptRecoveryCount

instance (x : Step) : Decidable (Enters x) := inferInstanceAs (Decidable (_ < _))

/-- The step retains an observation of a stream that is within its bounds and that has been
received at a time or after it. -/
def freshSample (d : Settings) (fromNs : ℤ) (stream : String) (step : Step) : Bool :=
  match step.event with
  | .observe x =>
    x.stream = stream ∧ fromNs ≤ x.receiptMonotonicNs ∧ step.pre.discipline.admits d x ∧
      (step.pre.discipline.streams stream).advancing <
        (step.post.discipline.streams stream).advancing
  | _ => false

/-- After a step that begins a pause, no observation is accepted until every required stream has
two samples that have been received since. -/
def FreshBeforeAccepting (d : Settings) (tr : List Step) : Prop :=
  ∀ l x r, tr = l ++ x :: r → Enters x → ∀ nowNs, x.event.timeNs = some nowNs →
    ∀ m y r', x :: r = m ++ y :: r' → Accepts y → ∀ stream ∈ d.config.names,
      2 ≤ (m ++ [y]).countP (freshSample d nowNs stream)

lemma FreshBeforeAccepting.two_le {l m : List Step} {x y : Step} {t : ℤ} {stream : String}
    (h : FreshBeforeAccepting d (l ++ x :: (m ++ [y]))) (henters : Enters x)
    (htime : x.event.timeNs = some t) (haccepts : Accepts y)
    (hstream : stream ∈ d.config.names) :
    2 ≤ ((x :: m) ++ [y]).countP (freshSample d t stream) :=
  h l x (m ++ [y]) rfl henters t htime (x :: m) y [] rfl haccepts stream hstream

/-- Every step keeps the evidence. -/
lemma evidence_step {baseline : String → ℕ} {s : Session}
    (h : Discipline.Evidence d baseline s.discipline) (c : Call) :
    Discipline.Evidence d baseline ((machine d).step s c).2.discipline := by
  obtain ⟨t, -, hupdates | ⟨hstate, -⟩⟩ := step_cases (d := d) s c
  · exact keep_updates (fun _ _ hevidence hupdate => hevidence.update hupdate) h hupdates
  · exact absurd hstate h.state

lemma evidence_final {baseline : String → ℕ} {s : Session}
    (h : Discipline.Evidence d baseline s.discipline) (calls : List Call) :
    Discipline.Evidence d baseline ((machine d).final s calls).discipline := by
  induction calls generalizing s with
  | nil => exact h
  | cons c calls ih => exact ih (evidence_step h c)

/-- A step that begins a pause begins it with the evidence since. -/
lemma enters_evidence {s : Session} {c : Call}
    (hpairs : ∀ stream ∈ d.config.names, ¬ Discipline.StalePair d s.discipline stream)
    (h : Enters ((machine d).stepAt s c)) :
    s.discipline.state = .locked ∧ Discipline.Evidence d
      (fun stream => (s.discipline.streams stream).advancing)
      ((machine d).step s c).2.discipline := by
  have hcount : s.discipline.receiptRecoveryCount <
      ((machine d).step s c).2.discipline.receiptRecoveryCount := h
  obtain ⟨t, -, hupdates | ⟨-, model, windows, hlocked⟩⟩ := step_cases (d := d) s c
  · have hentering := keep_updates (P := Discipline.Entering d s.discipline)
      (fun _ _ hentering hupdate => hentering.update hpairs hupdate)
      (.inl ⟨rfl, fun hstate => ⟨hstate, fun _ => .inl ⟨rfl, rfl⟩⟩⟩) hupdates
    rcases hentering with ⟨hsame, -⟩ | hevidence
    · omega
    · exact hevidence
  · rw [hlocked, Discipline.withLock] at hcount
    exact absurd hcount (lt_irrefl _)

/-- The counter of a stream grows by a fresh sample only. -/
lemma advancing_step {s : Session} (hstate : s.discipline.state ≠ .qualifying) {c : Call}
    (fromNs : ℤ) (htime : ∀ t, c.timeNs = some t → fromNs ≤ t) (stream : String) :
    (((machine d).step s c).2.discipline.streams stream).advancing ≤
      (s.discipline.streams stream).advancing +
        if freshSample d fromNs stream ((machine d).stepAt s c) then 1 else 0 := by
  cases c with
  | observe x =>
    cases hcase : s.discipline.state with
    | qualifying => exact absurd hcase hstate
    | faulted =>
      have hsame : (s.discipline.observe d x).2 = s.discipline := by
        rw [Discipline.observe, if_pos hcase]
      dsimp only [machine, step]
      rw [hsame]
      exact Nat.le_add_right _ _
    | locked =>
      rcases Discipline.observe_counted (d := d) (x := x) hcase with hsame | ⟨hadmits, hcounted⟩
      · exact (hsame stream).trans_le (Nat.le_add_right _ _)
      · refine (hcounted stream).trans_le (Nat.add_le_add_left ?_ _)
        by_cases hself : stream = x.stream
        · have hfresh : freshSample d fromNs stream ((machine d).stepAt s (.observe x)) = true := by
            refine decide_eq_true ⟨hself.symm, htime _ rfl, hadmits, ?_⟩
            refine (Nat.lt_succ_self _).trans_eq ((hcounted stream).trans ?_).symm
            rw [if_pos hself]
            rfl
          rw [if_pos hself, if_pos hfresh]
        · rw [if_neg hself]
          exact Nat.zero_le _
  | poll t =>
    refine Nat.le_trans ?_ (Nat.le_add_right _ _)
    dsimp only [machine, step]
    rw [Discipline.poll_history.1]
  | capture t =>
    rw [step_capture]
    exact Nat.le_add_right _ _
  | evaluate index =>
    rw [step_evaluate]
    exact Nat.le_add_right _ _
  | lockAffine request evaluation =>
    rw [step_lockAffine, Discipline.lockAffine_settled hstate]
    exact Nat.le_add_right _ _
  | lockAffineFromApprovedDrift driftPpm verified t =>
    rw [step_lockAffineFromApprovedDrift, Discipline.lockAffineFromApprovedDrift_settled hstate]
    exact Nat.le_add_right _ _

/-- A session that has left the qualification does not return to it. -/
lemma settled_step {s : Session} (hstate : s.discipline.state ≠ .qualifying) (c : Call) :
    ((machine d).step s c).2.discipline.state ≠ .qualifying := by
  obtain ⟨t, -, hupdates | ⟨hqualifying, -⟩⟩ := step_cases (d := d) s c
  · refine keep_updates (P := fun s => s.state ≠ .qualifying) ?_ hstate hupdates
    intro s s' hsettled hupdate hqualifying
    rcases hupdate.state_eq with hsame | hfaulted
    · exact hsettled (hsame.symm.trans hqualifying)
    · cases hfaulted.symm.trans hqualifying
  · exact absurd hqualifying hstate

/-- Over a run, the counter of a stream grows by no more than the fresh samples. -/
lemma advancing_final {s : Session} (hstate : s.discipline.state ≠ .qualifying)
    (calls : List Call) (fromNs : ℤ)
    (htimes : ∀ t ∈ calls.filterMap Call.timeNs, fromNs ≤ t) (stream : String) :
    (((machine d).final s calls).discipline.streams stream).advancing ≤
      (s.discipline.streams stream).advancing +
        ((machine d).trace s calls).countP (freshSample d fromNs stream) := by
  induction calls generalizing s with
  | nil => exact Nat.le_add_right _ _
  | cons c calls ih =>
    rw [List.filterMap_cons] at htimes
    have hstep := advancing_step (d := d) (c := c) hstate fromNs ?_ stream
    · have hrest := ih (settled_step (d := d) hstate c) ?_
      · rw [Machine.trace, List.countP_cons]
        rw [Machine.final]
        omega
      · intro t hmem
        refine htimes t ?_
        cases hc : c.timeNs with
        | none => exact hmem
        | some callNs => exact List.mem_cons_of_mem _ hmem
    · intro t hc
      refine htimes t ?_
      rw [hc]
      exact List.mem_cons_self

/-- **Fresh evidence ends a pause.**  Let the clock of a session not go back, and let every pause
begin where no required stream has a stale pair of samples.  Then, after a pause has begun, no
observation is accepted until every required stream has retained two samples since, each of them
within its bounds. -/
theorem fresh_before_accepting {d : Settings} (s₀ : Session) {calls : List Call}
    (hcalls : Chronological calls)
    (hpairs : ∀ x ∈ (machine d).trace s₀ calls, Enters x →
      ∀ stream ∈ d.config.names, ¬ Discipline.StalePair d x.pre.discipline stream) :
    FreshBeforeAccepting d ((machine d).trace s₀ calls) := by
  intro l x r htrace henters t htime m y r' hsplit haccepts stream hstream
  obtain ⟨es₁, es₂, rfl, rfl, hx, rfl⟩ := (machine d).trace_eq_append_cons htrace
  have hmem : x ∈ (machine d).trace s₀ (es₁ ++ x.event :: es₂) := by
    rw [htrace]
    simp
  have hnever := hpairs x hmem henters
  -- the steps up to the accepted observation are a run from the state before the pause
  have hrun : (machine d).trace x.pre (x.event :: es₂) = m ++ y :: r' := by
    rw [← hsplit, Machine.trace, hx]
    rfl
  obtain ⟨fs, gs, hevents, rfl, hy, -⟩ := (machine d).trace_eq_append_cons hrun
  rw [hx] at henters hnever
  obtain ⟨hlocked, hevidence⟩ := enters_evidence hnever henters
  obtain ⟨hs, hfs, rfl⟩ : ∃ hs, fs ++ [y.event] = x.event :: hs ∧ es₂ = hs ++ gs := by
    cases fs with
    | nil =>
      obtain ⟨hhead, rfl⟩ := List.cons.inj hevents
      exact ⟨[], by rw [hhead]; rfl, rfl⟩
    | cons f fs =>
      obtain ⟨hhead, rfl⟩ := List.cons.inj hevents
      exact ⟨fs ++ [y.event], by rw [hhead]; rfl, by simp⟩
  have hsteps : (machine d).trace x.pre fs ++ [y] = (machine d).trace x.pre (x.event :: hs) := by
    rw [← hfs, Machine.trace_concat, ← hy]
  have hpost : y.post = (machine d).final x.pre (x.event :: hs) := by
    rw [← hfs, Machine.final_concat]
    exact congrArg Machine.Step.post hy
  have hdone : Discipline.Evidence d (fun stream => (x.pre.discipline.streams stream).advancing)
      y.post.discipline := by
    rw [hpost]
    rw [hx]
    exact evidence_final hevidence hs
  have hresumed : y.post.discipline.receiptRecoveryActive = false := by
    obtain ⟨z, result, hevent, houtput, haccepted⟩ := haccepts
    rw [hevent] at hy
    rw [hy] at houtput ⊢
    obtain rfl := Answer.result.inj houtput
    exact Discipline.observe_accepts haccepted
  have hfresh : 2 + (x.pre.discipline.streams stream).advancing ≤
      (y.post.discipline.streams stream).advancing := by
    rcases hdone.counted with ⟨hactive, -⟩ | hfresh
    · cases hresumed.symm.trans hactive
    · exact hfresh stream hstream
  have hsettled : x.pre.discipline.state ≠ .qualifying := by
    rw [hx]
    intro hqualifying
    cases hlocked.symm.trans hqualifying
  have hgrowth := advancing_final (d := d) hsettled (x.event :: hs) t ?_
    stream
  · rw [hsteps]
    rw [hpost] at hfresh
    omega
  · -- the calls since the pause began come no earlier than it
    rw [Chronological, List.filterMap_append] at hcalls
    obtain ⟨-, hrest, -⟩ := List.pairwise_append.mp hcalls
    rw [← List.cons_append, List.filterMap_append] at hrest
    obtain ⟨hsince, -, -⟩ := List.pairwise_append.mp hrest
    rw [List.filterMap_cons, htime] at hsince ⊢
    intro laterNs hmem
    rcases List.mem_cons.mp hmem with rfl | hmem
    · exact le_rfl
    · exact (List.pairwise_cons.mp hsince).1 laterNs hmem

end Session

/-! ## Outages of three streams -/

namespace Demo

open Session

/-- Three streams whose statistics are not evaluated while locked. -/
def liveSettings : Settings :=
  { settings 2000000000 with
    config := { (settings 2000000000).config with lockedStatisticsEnabled := false } }

lemma create_liveSettings : liveSettings.create none = .ok (liveSettings.initial none) :=
  Settings.create_eq (by decide +kernel) (by decide +kernel)

/-- A stream is observed, without a delay. -/
def observeAt (stream : String) (receiptNs : ℤ) : Call :=
  .observe (sample stream receiptNs receiptNs)

/-- Within a first pause, the samples of the IMU are further apart than its timeout. -/
def firstPause : List Call :=
  observeAll 5000000000 ++ [observeAt "odom" 6500000000, observeAt "mid360_cloud" 6500000000,
    observeAt "odom" 7400000000, observeAt "mid360_cloud" 7400000000, observeAt "imu" 7500000000]

/-- A second pause that a poll begins, and its end. -/
def secondPause : List Call :=
  [observeAt "imu" 9460000000, observeAt "odom" 9470000000, observeAt "mid360_cloud" 9480000000,
    observeAt "odom" 9490000000]

end Demo

namespace Session

/-- An outage of three seconds, after which every stream is observed twice. -/
theorem fresh_before_accepting_outage :
    FreshBeforeAccepting Demo.liveSettings ((machine Demo.liveSettings).trace
      (opened (Demo.liveSettings.initial none))
      (Demo.lockingCalls ++ Demo.observeAll 5000000000 ++ Demo.observeAll 5100000000)) :=
  fresh_before_accepting _ (by decide +kernel) (by decide +kernel)

/-- The second pause counts the last sample of the first one, and the IMU has a single sample when
an observation is accepted. -/
theorem seeded_pause_accepts_early :
    ∃ s₀, Demo.liveSettings.create none = .ok s₀ ∧
      Demo.liveSettings.allowLockedReceiptRecovery = true ∧
      ∃ calls, Chronological calls ∧
        ¬ FreshBeforeAccepting Demo.liveSettings
          ((machine Demo.liveSettings).trace (opened s₀) calls) := by
  refine ⟨_, Demo.create_liveSettings, rfl,
    (Demo.lockingCalls ++ Demo.firstPause) ++ .poll 9450000000 ::
      (Demo.secondPause ++ [Demo.observeAt "mid360_cloud" 9500000000]), by decide +kernel,
    fun h => ?_⟩
  rw [Machine.trace_append, Machine.trace, Machine.trace_concat] at h
  have htwo := h.two_le (by decide +kernel) rfl (accepts_observe (by decide +kernel))
    (show "imu" ∈ Demo.liveSettings.config.names by decide)
  revert htwo
  decide +kernel

end Session

end UnitreeGo2.StampDiscipline
