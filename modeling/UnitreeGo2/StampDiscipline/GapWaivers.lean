import UnitreeGo2.StampDiscipline.RecoveryEvidence

/-!
# Waivers of receipt gaps

A recovery pause records the outages of its streams.  The waiver of a gap is held until the gap has
rolled out of the common window, unless another gap is recorded meanwhile; so a window that is
broken by its audited gaps only is judged complete.
-/

namespace UnitreeGo2.StampDiscipline

namespace Discipline

variable {d : Settings} {s : Discipline} {t : ℤ} {x : Observation}

/-! ## The start of the common window -/

/-- Least elements of pointwise ordered lists. -/
lemma min?_map_le {f g : String → ℤ} {names : List String} (h : ∀ name ∈ names, f name ≤ g name) :
    (names.map f).min?.getD 0 ≤ (names.map g).min?.getD 0 := by
  cases hleast : (names.map g).min? with
  | none =>
    rw [List.min?_eq_none_iff, List.map_eq_nil_iff] at hleast
    rw [hleast]
    rfl
  | some least =>
    obtain ⟨name, hname, rfl⟩ := List.mem_map.mp (List.min?_mem hleast)
    cases hleast' : (names.map f).min? with
    | none =>
      rw [List.min?_eq_none_iff, List.map_eq_nil_iff] at hleast'
      rw [hleast'] at hname
      cases hname
    | some least' =>
      have hle := (List.le_min?_iff hleast').mp le_rfl (f name) (List.mem_map_of_mem hname)
      exact hle.trans (h name hname)

/-- The window starts no earlier when no stream ends earlier. -/
lemma window_start_le {s s' : Discipline}
    (hstart : s'.affineQualificationStartMonotonicNs = s.affineQualificationStartMonotonicNs)
    (hlatest : ∀ stream ∈ d.coreStreams, s.latestReceiptNs stream ≤ s'.latestReceiptNs stream) :
    (s.lockedAffineDriftWindow d).startNs ≤ (s'.lockedAffineDriftWindow d).startNs := by
  have hend := min?_map_le hlatest
  simp only [lockedAffineDriftWindow, hstart]
  cases s.affineQualificationStartMonotonicNs with
  | none => exact max_le_max hend (by simpa using hend)
  | some startNs => exact max_le_max le_rfl (by simpa using hend)

/-! ## Gaps that have rolled out -/

/-- Every stream has samples, and the common window starts behind the gap. -/
structure RolledOut (d : Settings) (s : Discipline) (gap : ReceiptGap) : Prop where
  present : ∀ stream ∈ d.config.names, (s.streams stream).samples ≠ []
  behind : gap.rightNs < (s.lockedAffineDriftWindow d).startNs

/-- No retained sample has been received after the continuity of its stream. -/
def Ordered (s : Discipline) : Prop :=
  ∀ stream, ∀ sample ∈ (s.streams stream).samples, ∃ continuity,
    s.observedContinuity stream = some continuity ∧ sample.receiptMonotonicNs ≤ continuity.2

lemma RolledOut.congr {s' : Discipline} {gap : ReceiptGap} (h : RolledOut d s gap)
    (hstreams : ∀ stream, (s'.streams stream).samples = (s.streams stream).samples)
    (hstart : s'.affineQualificationStartMonotonicNs = s.affineQualificationStartMonotonicNs) :
    RolledOut d s' gap := by
  refine ⟨fun stream hstream => (hstreams stream).symm ▸ h.present stream hstream, ?_⟩
  refine h.behind.trans_le (window_start_le hstart fun stream _ => ?_)
  rw [latestReceiptNs, latestReceiptNs, hstreams]

lemma RolledOut.same {s' : Discipline} {gap : ReceiptGap} (h : RolledOut d s gap)
    (hstreams : s'.streams = s.streams)
    (hstart : s'.affineQualificationStartMonotonicNs = s.affineQualificationStartMonotonicNs) :
    RolledOut d s' gap :=
  h.congr (fun stream => by rw [hstreams]) hstart

/-- A gap that has rolled out stays out while samples are retained. -/
lemma RolledOut.retain {s' : Discipline} {gap : ReceiptGap}
    (hcore : ∀ stream ∈ d.coreStreams, stream ∈ d.config.names)
    (hbounded : Bounded s) (hordered : Ordered s) (hcontinues : Continues s x)
    (h : RolledOut d s gap)
    (hstreams : s'.streams = (s.retain x).streams)
    (hstart : s'.affineQualificationStartMonotonicNs = s.affineQualificationStartMonotonicNs) :
    RolledOut d s' gap := by
  -- the deque is not empty, so its limit lets the new sample in at its end
  have happend (hpresent : (s.streams x.stream).samples ≠ []) :
      ∃ older, appendBounded (s.streams x.stream).retainedLimit (s.streams x.stream).samples
        x.sample = older ++ [x.sample] := by
    have hlength := List.length_pos_iff.mpr hpresent
    have hlimit := hbounded x.stream
    refine ⟨(s.streams x.stream).samples.drop
      ((s.streams x.stream).samples.length + 1 - (s.streams x.stream).retainedLimit), ?_⟩
    rw [appendBounded, List.drop_append_of_le_length (by omega)]
  constructor
  · intro stream hstream
    have hpresent := h.present stream hstream
    rw [hstreams]
    by_cases hself : stream = x.stream
    · subst hself
      obtain ⟨older, holder⟩ := happend hpresent
      simp [Discipline.retain, holder]
    · simpa only [Discipline.retain, Function.update_of_ne hself] using hpresent
  · refine h.behind.trans_le (window_start_le hstart fun stream hstream => ?_)
    have hpresent := h.present stream (hcore stream hstream)
    rw [latestReceiptNs, latestReceiptNs, hstreams]
    by_cases hself : stream = x.stream
    · subst hself
      obtain ⟨older, holder⟩ := happend hpresent
      have hlast := List.getLast?_eq_some_getLast hpresent
      obtain ⟨continuity, hcontinuity, hle⟩ := hordered x.stream _
        (List.mem_of_getLast? hlast)
      have hreceipt := (hcontinues continuity hcontinuity).2
      simp only [Discipline.retain, Function.update_self, holder, hlast,
        List.getLast?_append, List.getLast?_singleton, Option.some_or, Option.map_some,
        Option.getD_some]
      exact hle.trans hreceipt.le
    · simp only [Discipline.retain, Function.update_of_ne hself, le_refl]

/-! ## Waivers that are held -/

/-- The gaps that the present pause and the completed ones have recorded. -/
def recordedGaps (s : Discipline) : List (String × ReceiptGap) :=
  s.audit.pending ++ s.audit.audited

/-- As long as no gap has been recorded over the waiver of another one, the waiver of every
recorded gap is held until the gap has rolled out. -/
def WaiversHeld (d : Settings) (s : Discipline) : Prop :=
  s.audit.overlapped = false → ∀ recorded ∈ s.recordedGaps,
    s.receiptRecoveryGapWaivers recorded.1 = some recorded.2 ∨ RolledOut d s recorded.2

lemma WaiversHeld.congr {s' : Discipline} (h : WaiversHeld d s)
    (haudit : s'.audit.overlapped = s.audit.overlapped) (hgaps : s'.recordedGaps = s.recordedGaps)
    (hwaivers : s'.receiptRecoveryGapWaivers = s.receiptRecoveryGapWaivers)
    (hout : ∀ gap, RolledOut d s gap → RolledOut d s' gap) : WaiversHeld d s' := by
  intro hoverlapped recorded hmem
  rw [hwaivers]
  exact (h (haudit ▸ hoverlapped) recorded (hgaps ▸ hmem)).imp_right (hout recorded.2)

/-- A recorded gap gets the waiver of its stream, or it is recorded over another one. -/
lemma WaiversHeld.recordGapWaiver (h : WaiversHeld d s) (stream : String) (leftNs rightNs : ℤ) :
    WaiversHeld d (s.recordGapWaiver d stream leftNs rightNs) := by
  rw [Discipline.recordGapWaiver]
  dsimp only
  split
  · exact h
  intro hoverlapped recorded hmem
  obtain ⟨hbefore, hheld⟩ := Bool.or_eq_false_iff.mp hoverlapped
  dsimp only
  cases hwaiver : s.receiptRecoveryGapWaivers stream with
  | none =>
    rw [Option.all_none, if_pos rfl]
    rcases List.mem_cons.mp hmem with rfl | hmem
    · exact .inl (Function.update_self ..)
    · refine (h hbefore recorded hmem).imp (fun hkept => ?_) (·.same rfl rfl)
      have hother : recorded.1 ≠ stream := by
        rintro rfl
        cases hwaiver.symm.trans hkept
      rwa [Function.update_of_ne hother]
  | some held =>
    rw [hwaiver, Option.any_some, decide_eq_false_iff_not, not_not] at hheld
    rw [Option.all_some, hheld, if_neg (by simp)]
    rcases List.mem_cons.mp hmem with rfl | hmem
    · exact .inl (hheld ▸ hwaiver)
    · exact (h hbefore recorded hmem).imp_right (·.same rfl rfl)

lemma WaiversHeld.seed (h : WaiversHeld d s) (stream : String) :
    WaiversHeld d (s.seedReceiptRecovery d stream) := by
  rw [seedReceiptRecovery]
  split
  · exact h
  · split
    · exact h
    · exact (h.recordGapWaiver stream _ _).congr rfl rfl rfl
        fun _ hrolled => hrolled.same rfl rfl

lemma WaiversHeld.start (h : WaiversHeld d s) : WaiversHeld d (s.startReceiptRecovery d) := by
  have hfold (names : List String) {s : Discipline} (h : WaiversHeld d s) :
      WaiversHeld d (names.foldl (seedReceiptRecovery d) s) := by
    induction names generalizing s with
    | nil => exact h
    | cons stream names ih => exact ih (h.seed stream)
  refine hfold d.config.names (h.congr rfl rfl rfl ?_)
  exact fun _ hrolled => hrolled.same rfl rfl

lemma WaiversHeld.recordSample (h : WaiversHeld d s) (stream : String) (receiptNs : ℤ) :
    WaiversHeld d (s.recordLockedReceiptRecoverySample d stream receiptNs) := by
  rw [recordLockedReceiptRecoverySample]
  dsimp only
  split
  · exact h
  · split
    · exact (h.recordGapWaiver stream _ _).congr rfl rfl rfl
        fun _ hrolled => hrolled.same rfl rfl
    · exact h.congr rfl rfl rfl fun _ hrolled => hrolled.same rfl rfl

/-- A review drops the waivers of gaps that have rolled out, and no other one. -/
lemma reviewWindows_waivers (window : DriftWindow) (streams : List String)
    (waivers : String → Option ReceiptGap) (stream : String) :
    (s.reviewWindows d window streams waivers).2 stream = waivers stream ∨
      ∃ gap, waivers stream = some gap ∧ gap.rightNs < window.startNs := by
  induction streams generalizing waivers with
  | nil => exact .inl rfl
  | cons name names ih =>
    have hupdate : Function.update waivers name (unexpired window (waivers name)) stream =
        waivers stream ∨ ∃ gap, waivers stream = some gap ∧ gap.rightNs < window.startNs := by
      by_cases hself : stream = name
      · subst hself
        rw [Function.update_self]
        cases hwaiver : waivers stream with
        | none => exact .inl rfl
        | some gap =>
          by_cases hrolled : gap.rightNs < window.startNs
          · exact .inr ⟨gap, rfl, hrolled⟩
          · exact .inl (by simp [unexpired, Option.filter, not_lt.mp hrolled])
      · exact .inl (Function.update_of_ne hself ..)
    rw [reviewWindows]
    split
    · rcases ih (Function.update waivers name (unexpired window (waivers name))) with
        hsame | ⟨gap, hgap, hrolled⟩
      · rcases hupdate with hkept | hdropped
        · exact .inl (hsame.trans hkept)
        · exact .inr hdropped
      · rcases hupdate with hkept | hdropped
        · exact .inr ⟨gap, hkept.symm.trans hgap, hrolled⟩
        · exact .inr hdropped
    · exact hupdate

lemma presenceHealth_none (h : s.presenceHealth d = none) :
    ∀ stream ∈ d.config.names, (s.streams stream).samples ≠ [] := by
  intro stream hstream
  obtain ⟨policy, hpolicy, rfl⟩ := List.mem_map.mp hstream
  have hnone := List.findSome?_eq_none_iff.mp h policy hpolicy
  split_ifs at hnone with hempty
  simpa using hempty

/-- A health evaluation keeps the waivers of the gaps in the window. -/
lemma WaiversHeld.evaluate (h : WaiversHeld d s) (t : ℤ) :
    WaiversHeld d (s.scheduledStatisticsHealth d t).2 := by
  rcases scheduledStatisticsHealth_cases (d := d) (s := s) t with heq | ⟨-, -, heq⟩
  · rwa [heq]
  rw [heq]
  intro hoverlapped recorded hmem
  rcases h hoverlapped recorded hmem with hkept | hrolled
  · have hwaivers : (s.statisticalHealth d).2 recorded.1 =
        s.receiptRecoveryGapWaivers recorded.1 ∨ RolledOut d s recorded.2 := by
      rw [statisticalHealth]
      split
      · exact .inl rfl
      split
      · exact .inl rfl
      · rename_i hpresent
        rcases reviewWindows_waivers (d := d) (s := s) (s.lockedAffineDriftWindow d)
          d.coreStreams s.receiptRecoveryGapWaivers recorded.1 with hsame | ⟨gap, hgap, hbehind⟩
        · exact .inl hsame
        · obtain rfl := Option.some.inj (hkept.symm.trans hgap)
          exact .inr ⟨presenceHealth_none hpresent, hbehind⟩
    rcases hwaivers with hsame | hrolled
    · exact .inl (hsame.trans hkept)
    · exact .inr (hrolled.same rfl rfl)
  · exact .inr (hrolled.same rfl rfl)

/-! ## Updates -/

lemma Ordered.observed (h : Ordered s) (hcontinues : Continues s x) {stream : String}
    {sample : Sample} (hsample : sample ∈ (s.streams stream).samples) :
    ∃ continuity, Function.update s.observedContinuity x.stream (some x.continuity) stream =
      some continuity ∧ sample.receiptMonotonicNs ≤ continuity.2 := by
  obtain ⟨continuity, hcontinuity, hle⟩ := h stream sample hsample
  by_cases hself : stream = x.stream
  · subst hself
    refine ⟨x.continuity, Function.update_self .., hle.trans ?_⟩
    exact (hcontinues continuity hcontinuity).2.le
  · exact ⟨continuity, by rwa [Function.update_of_ne hself], hle⟩

lemma Ordered.retain (h : Ordered s) (hcontinues : Continues s x) : Ordered (s.retain x) := by
  intro stream sample hsample
  by_cases hself : stream = x.stream
  · subst hself
    simp only [Discipline.retain, Function.update_self] at hsample
    rcases mem_of_mem_appendBounded hsample with hold | rfl
    · exact h.observed hcontinues hold
    · exact ⟨x.continuity, Function.update_self .., le_rfl⟩
  · simp only [Discipline.retain, Function.update_of_ne hself] at hsample
    exact h.observed hcontinues hsample

/-- What every update keeps of the samples and of the waivers. -/
structure WaiversKept (d : Settings) (s : Discipline) : Prop where
  bounded : Bounded s
  ordered : Ordered s
  clean : s.state = .qualifying → s.recordedGaps = []
  held : WaiversHeld d s

/-- Before the lock, no gap has been recorded. -/
lemma WaiversKept.held_of_clean {s' : Discipline} (h : WaiversKept d s)
    (hstate : s.state = .qualifying) (hgaps : s'.recordedGaps = s.recordedGaps) :
    WaiversHeld d s' := by
  intro _ recorded hmem
  rw [hgaps, h.clean hstate] at hmem
  cases hmem

lemma Ordered.of_history {s' : Discipline} (h : Ordered s) (hhistory : SameHistory s s') :
    Ordered s' := by
  rw [Ordered, hhistory.1, hhistory.2]
  exact h

lemma WaiversHeld.retain (hcore : ∀ stream ∈ d.coreStreams, stream ∈ d.config.names)
    {s' : Discipline} (h : WaiversKept d s) (hcontinues : Continues s x)
    (haudit : s'.audit = s.audit)
    (hwaivers : s'.receiptRecoveryGapWaivers = s.receiptRecoveryGapWaivers)
    (hstreams : s'.streams = (s.retain x).streams)
    (hstart : s'.affineQualificationStartMonotonicNs = s.affineQualificationStartMonotonicNs) :
    WaiversHeld d s' := by
  refine h.held.congr (by rw [haudit]) (by rw [recordedGaps, haudit]; rfl) hwaivers ?_
  exact fun gap hrolled => hrolled.retain hcore h.bounded h.ordered hcontinues hstreams hstart

/-- Every update keeps the samples in order and the waivers held. -/
lemma WaiversKept.update (hcore : ∀ stream ∈ d.coreStreams, stream ∈ d.config.names)
    {s' : Discipline} (h : WaiversKept d s) (hupdate : Update d t s s') :
    WaiversKept d s' := by
  have hbounded := h.bounded.update hupdate
  cases hupdate with
  | clock baseNs =>
    exact ⟨hbounded, h.ordered, h.clean, h.held.congr rfl rfl rfl fun _ h => h.same rfl rfl⟩
  | fault reason hcache =>
    refine ⟨hbounded, h.ordered, fun hstate => ?_,
      h.held.congr rfl rfl rfl fun _ h => h.same rfl rfl⟩
    cases hstate
  | restart x htime hstream hstate =>
    refine ⟨hbounded, ?_, fun _ => h.clean hstate, h.held_of_clean hstate rfl⟩
    refine Ordered.retain (fun _ _ hsample => ?_) fun _ hcontinuity => ?_
    · cases hsample
    · cases hcontinuity
  | duplicate x hgood =>
    have hsamples (stream : String) : ((s.countDuplicate x.stream).streams stream).samples =
        (s.streams stream).samples := by
      simp only [countDuplicate]
      by_cases hself : stream = x.stream
      · subst hself
        rw [Function.update_self]
      · rw [Function.update_of_ne hself]
    refine ⟨hbounded, fun stream sample hsample => ?_, h.clean,
      h.held.congr rfl rfl rfl fun _ h => h.congr hsamples rfl⟩
    exact h.ordered stream sample (hsamples stream ▸ hsample)
  | discard x htime hcontinues =>
    exact ⟨hbounded, fun _ _ hsample => h.ordered.observed hcontinues hsample, h.clean,
      h.held.congr rfl rfl rfl fun _ h => h.same rfl rfl⟩
  | retain x htime hstream hstate hcontinues =>
    have hordered := h.ordered.retain hcontinues
    rw [observeContinuing, if_neg hstate] at hbounded ⊢
    dsimp only at hbounded ⊢
    split at hbounded
    · rename_i hfirst
      rw [if_pos hfirst]
      exact ⟨hbounded, hordered, h.clean, h.held_of_clean hfirst.1 rfl⟩
    · rename_i hfirst
      rw [if_neg hfirst]
      exact ⟨hbounded, hordered, h.clean, WaiversHeld.retain hcore h hcontinues rfl rfl rfl rfl⟩
  | retainLocked x model windows correctedStampNs htime hstream hcontinues hcorrectable =>
    have hnotes := recordLockedReceiptRecoverySample_notes (d := d)
      (s := (s.retain x).cacheAge windows x.stream (x.receiptRealtimeNs - correctedStampNs))
      x.stream x.receiptMonotonicNs
    refine ⟨hbounded, ?_, fun hstate => ?_, WaiversHeld.recordSample
      (s := (s.retain x).cacheAge windows x.stream (x.receiptRealtimeNs - correctedStampNs))
      (WaiversHeld.retain hcore h hcontinues rfl rfl rfl rfl) _ _⟩
    · exact Ordered.of_history (s := (s.retain x).cacheAge windows x.stream
        (x.receiptRealtimeNs - correctedStampNs)) (h.ordered.retain hcontinues) hnotes.history
    · cases hcorrectable.locked.symm.trans (hnotes.state_eq.symm.trans hstate)
  | pause hstate hallow hactive =>
    refine ⟨hbounded, h.ordered.of_history startReceiptRecovery_history, fun hqualifying => ?_,
      h.held.start⟩
    cases hstate.symm.trans (startReceiptRecovery_state.symm.trans hqualifying)
  | evaluate hstate =>
    refine ⟨hbounded, h.ordered.of_history scheduledStatisticsHealth_history,
      fun hqualifying => ?_, h.held.evaluate t⟩
    cases hstate.symm.trans (scheduledStatisticsHealth_state.symm.trans hqualifying)
  | resume hstate hactive hfresh =>
    exact ⟨hbounded, h.ordered, fun hqualifying => absurd (hstate.symm.trans hqualifying)
      (by decide), h.held.congr rfl rfl rfl fun _ h => h.same rfl rfl⟩

end Discipline

/-! ## Windows -/

open Discipline

/-- The constructor admits core streams that are required streams only. -/
lemma core_subset_names {d : Settings} {start : Option ℤ}
    (h : Check.all (d.checks start) = .ok ()) :
    ∀ stream ∈ d.coreStreams, stream ∈ d.config.names := by
  intro stream hstream
  by_contra hunknown
  have hcheck := Check.all_holds h (.noneOf
    (sortedDifference d.coreStreams d.config.names) "unknown affine core streams: ")
    (by simp [Settings.checks])
  rw [Check.noneOf, List.isEmpty_iff] at hcheck
  have hmem : stream ∈ sortedDifference d.coreStreams d.config.names := by
    rw [sortedDifference, sortedSet, List.mem_insertionSort, List.mem_dedup, List.mem_filter]
    exact ⟨hstream, decide_eq_true hunknown⟩
  rw [hcheck] at hmem
  cases hmem

/-- The waivers are held after every run. -/
lemma waiversKept_final {d : Settings} {start : Option ℤ} {s₀ : Discipline}
    (hcreate : d.create start = .ok s₀) (calls : List Call) :
    WaiversKept d ((Session.machine d).final (Session.opened s₀) calls).discipline := by
  obtain ⟨_, -, hchecked⟩ := Except.bind_eq_ok_iff.mp hcreate
  obtain ⟨_, hchecks, hcreated⟩ := Except.bind_eq_ok_iff.mp hchecked
  cases hcreated
  have hcore := core_subset_names hchecks
  refine Session.invariant_final ?_ (fun _ _ _ h hupdate => h.update hcore hupdate) ?_ calls
  · refine ⟨fun _ => Nat.zero_le _, fun _ _ hsample => ?_, fun _ => rfl, fun _ _ hmem => ?_⟩
    · cases hsample
    · cases hmem
  · rintro t s s' h ⟨hstate, model, windows, rfl⟩
    refine ⟨h.bounded, h.ordered, fun hqualifying => ?_, h.held_of_clean hstate rfl⟩
    cases hqualifying

/-- The common window of a stream is broken by audited gaps only: it has its samples, its envelope
points and a fresh end, its long gaps have been audited, and so has the one that its start cuts. -/
structure AuditedGapsOnly (d : Settings) (s : Discipline) (stream : String) : Prop where
  samples : 4 ≤ (s.windowDetails d (s.lockedAffineDriftWindow d) stream).windowSamples
  points : requiredEnvelopePoints d (s.lockedAffineDriftWindow d) ≤
    (s.windowDetails d (s.lockedAffineDriftWindow d) stream).envelopePoints
  first : ∃ offsetNs, (s.windowDetails d (s.lockedAffineDriftWindow d)
      stream).firstReceiptOffsetNs = some offsetNs ∧
    (offsetNs ≤ (d.config.policy stream).staleReceiptTimeoutNs ∨
      ∃ gap, (stream, gap) ∈ s.audit.audited ∧
        gap.leftNs < (s.lockedAffineDriftWindow d).startNs ∧
        (s.lockedAffineDriftWindow d).startNs ≤ gap.rightNs ∧
        (s.lockedAffineDriftWindow d).startNs + offsetNs = gap.rightNs)
  last : (s.windowDetails d (s.lockedAffineDriftWindow d) stream).lastReceiptOffsetNs.any
    (· ≤ (d.config.policy stream).staleReceiptTimeoutNs) = true
  gaps : ∀ gap ∈ receiptGaps ((s.lockedAffineDriftWindow d).samples (s.streams stream).samples),
    (d.config.policy stream).staleReceiptTimeoutNs < gap.gapNs → (stream, gap) ∈ s.audit.audited

/-- Every window of a core stream that is broken by audited gaps only is judged complete. -/
def GapsWaived (d : Settings) (s : Discipline) : Prop :=
  ∀ stream ∈ d.coreStreams, AuditedGapsOnly d s stream →
    s.windowComplete d (s.lockedAffineDriftWindow d) stream
      (unexpired (s.lockedAffineDriftWindow d) (s.receiptRecoveryGapWaivers stream)) = true

lemma receiptGaps_ne_nil {samples : List Sample} (h : 2 ≤ samples.length) :
    receiptGaps samples ≠ [] := by
  rcases samples with - | ⟨left, - | ⟨right, rest⟩⟩
  · simp at h
  · simp at h
  · exact List.cons_ne_nil _ _

/-- The right side of a gap between samples has been received by one of them. -/
lemma mem_receiptGaps {samples : List Sample} {gap : ReceiptGap} (h : gap ∈ receiptGaps samples) :
    ∃ sample ∈ samples, sample.receiptMonotonicNs = gap.rightNs := by
  induction samples with
  | nil => cases h
  | cons left rest ih =>
    cases rest with
    | nil => cases h
    | cons right rest =>
      rcases List.mem_cons.mp h with rfl | h
      · exact ⟨right, by simp, rfl⟩
      · obtain ⟨sample, hsample, hright⟩ := ih h
        exact ⟨sample, List.mem_cons_of_mem _ hsample, hright⟩

lemma exists_longestGap {gaps : List ReceiptGap} (h : gaps ≠ []) :
    ∃ gap ∈ gaps, longestGap gaps = some gap := by
  induction gaps with
  | nil => exact absurd rfl h
  | cons gap gaps ih =>
    rw [longestGap]
    cases hlater : longestGap gaps with
    | none => exact ⟨gap, List.mem_cons_self, rfl⟩
    | some later =>
      dsimp only
      split
      · exact ⟨gap, List.mem_cons_self, rfl⟩
      · obtain ⟨last, hmem, hlast⟩ := ih (by rintro rfl; cases hlater)
        obtain rfl := Option.some.inj (hlater.symm.trans hlast)
        exact ⟨later, List.mem_cons_of_mem _ hmem, rfl⟩

lemma gapsWaived_of_kept {d : Settings} {s : Discipline} (h : WaiversKept d s)
    (hoverlapped : s.audit.overlapped = false) : GapsWaived d s := by
  intro stream hstream haudited
  have hwaiver {gap : ReceiptGap} (hgap : (stream, gap) ∈ s.audit.audited)
      (hinside : (s.lockedAffineDriftWindow d).startNs ≤ gap.rightNs) :
      unexpired (s.lockedAffineDriftWindow d) (s.receiptRecoveryGapWaivers stream) =
        some gap := by
    rcases h.held hoverlapped _ (List.mem_append_right _ hgap) with hheld | hrolled
    · rw [hheld]
      simp [unexpired, Option.filter, hinside]
    · exact absurd hrolled.behind (not_lt.mpr hinside)
  rw [windowComplete, WindowDetails.complete]
  simp only [decide_eq_true_eq]
  refine ⟨haudited.samples, haudited.points, ?_, haudited.last, ?_⟩
  · obtain ⟨offsetNs, hoffset, hcovered⟩ := haudited.first
    rw [hoffset, Option.any_some, decide_eq_true_eq]
    rcases hcovered with hsmall | ⟨gap, hgap, hleft, hright, hend⟩
    · exact .inl hsmall
    · right
      rw [hwaiver hgap hright, Option.any_some, Option.any_some]
      simp only [decide_eq_true_eq]
      exact ⟨hleft, hright, hend⟩
  · have hnonempty := receiptGaps_ne_nil
      ((show 2 ≤ 4 by omega).trans haudited.samples : 2 ≤ ((s.lockedAffineDriftWindow d).samples
        (s.streams stream).samples).length)
    obtain ⟨gap, hmem, hgap⟩ := exists_longestGap hnonempty
    change (longestGap _).any _ = true
    rw [hgap, Option.any_some, decide_eq_true_eq]
    rcases le_or_gt gap.gapNs (d.config.policy stream).staleReceiptTimeoutNs with hsmall | hlong
    · exact .inl hsmall
    · obtain ⟨sample, hsample, hright⟩ := mem_receiptGaps hmem
      have hinside := (of_decide_eq_true (List.mem_filter.mp hsample).2).1
      exact .inr (hwaiver (haudited.gaps gap hmem hlong) (hright ▸ hinside))

namespace Demo

/-- Three streams with a receipt timeout of five seconds, which is also the width of a bin. -/
def gapSettings : Settings :=
  { settings 5000000000 with
    config := { (settings 5000000000).config with driftBinNs := 5000000000 } }

lemma create_gapSettings : gapSettings.create none = .ok (gapSettings.initial none) :=
  Settings.create_eq (by decide +kernel) (by decide +kernel)

/-- The streams are observed after so many half seconds. -/
def observeEach (streams : List String) (halfSeconds : List ℤ) : List Call :=
  halfSeconds.flatMap fun n => streams.map fun stream =>
    .observe (sample stream (n * 500000000) (n * 500000000))

/-- A lock, and an outage of six seconds that a recovery pause has audited. -/
def outageCalls : List Call :=
  lockingCalls ++
    observeEach ["imu", "odom", "mid360_cloud"] [14, 24, 34, 36, 48, 50]

/-- After it, an outage of half a second less; then the cloud is lost until the first outage is a
minute ago. -/
def outagesCalls : List Call :=
  outageCalls ++ observeEach ["imu", "odom", "mid360_cloud"] [61, 63] ++
    observeEach ["imu", "odom"] [72, 82, 92, 102, 112, 122, 132, 142, 152, 162, 170] ++
      observeEach ["mid360_cloud"] [170, 171]

/-- The discipline after calls. -/
def afterOutages (calls : List Call) : Discipline :=
  ((Session.machine gapSettings).final (Session.opened (gapSettings.initial none))
    calls).discipline

end Demo

/-- A window of a core stream without a waiver, which begins at a sample and is broken by audited
gaps only. -/
def Unwaived (d : Settings) (s : Discipline) (stream : String) : Prop :=
  let window := s.lockedAffineDriftWindow d
  let details := s.windowDetails d window stream
  stream ∈ d.coreStreams ∧ 4 ≤ details.windowSamples ∧
    requiredEnvelopePoints d window ≤ details.envelopePoints ∧
    details.firstReceiptOffsetNs = some 0 ∧ details.lastReceiptOffsetNs = some 0 ∧
    (∀ gap ∈ receiptGaps (window.samples (s.streams stream).samples),
      (d.config.policy stream).staleReceiptTimeoutNs < gap.gapNs →
        (stream, gap) ∈ s.audit.audited) ∧
    s.windowComplete d window stream
      (unexpired window (s.receiptRecoveryGapWaivers stream)) = false

instance (d : Settings) (s : Discipline) (stream : String) : Decidable (Unwaived d s stream) :=
  inferInstanceAs (Decidable (_ ∧ _ ∧ _ ∧ _ ∧ _ ∧ _ ∧ _))

lemma Unwaived.not_gapsWaived {d : Settings} {s : Discipline} {stream : String}
    (h : Unwaived d s stream) (htimeout : 0 ≤ (d.config.policy stream).staleReceiptTimeoutNs) :
    ¬ GapsWaived d s := by
  obtain ⟨hstream, hsamples, hpoints, hfirst, hlast, hgaps, hincomplete⟩ := h
  intro hwaived
  have hcomplete := hwaived stream hstream
    ⟨hsamples, hpoints, ⟨0, hfirst, .inl htimeout⟩, by simpa [hlast] using htimeout, hgaps⟩
  rw [hincomplete] at hcomplete
  cases hcomplete

end UnitreeGo2.StampDiscipline
