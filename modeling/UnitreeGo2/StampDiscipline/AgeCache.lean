import UnitreeGo2.Lib.PyValue
import UnitreeGo2.StampDiscipline.Session
import Mathlib.Data.List.Forall2
import Mathlib.Data.List.MinMax

/-!
# The cache of corrected ages

While the discipline is locked, the cache holds one corrected age for each retained sample, in
the order of the samples.  A lock with a cached evaluation relies on a snapshot: an invariant of
chronological runs tells a snapshot that is still current from one that a restart has superseded.
-/

namespace UnitreeGo2.StampDiscipline

open TimeSync (Raised)

/-! ## Cached ages -/

/-- One age for each sample: its own, less the correction of the model at its source. -/
def CachedAges (model : AffineClockModel) : List Sample → List ℤ → Prop :=
  List.Forall₂ fun sample age =>
    ∃ offsetNs, model.offsetAtSourceNs sample.sourceNs = .ok offsetNs ∧
      age = sample.ageNs - offsetNs

/-- The cache of a locked discipline is in order. -/
def CacheInOrder (d : Settings) (s : Discipline) : Prop :=
  ∃ model windows, s.lockedAffineModel = some model ∧ s.lockedCorrectedAges = some windows ∧
    ∀ stream ∈ d.config.names, (windows stream).limit = (s.streams stream).retainedLimit ∧
      CachedAges model (s.streams stream).samples (windows stream).ages

lemma CacheInOrder.aligned {d : Settings} {s : Discipline} (h : CacheInOrder d s) :
    CacheAligned d s := by
  obtain ⟨model, windows, hmodel, hwindows, hages⟩ := h
  refine ⟨model, windows, hmodel, hwindows, fun stream hstream => ?_⟩
  obtain ⟨hlimit, hcached⟩ := hages stream hstream
  simp [StreamState.alignedWith, hlimit, hcached.length_eq]

/-- The order of a cache depends on the streams, the model and the cache only. -/
lemma CacheInOrder.congr {d : Settings} {s s' : Discipline} (h : CacheInOrder d s)
    (hmodel : s'.lockedAffineModel = s.lockedAffineModel)
    (hages : s'.lockedCorrectedAges = s.lockedCorrectedAges)
    (hstreams : ∀ stream, (s'.streams stream).retainedLimit = (s.streams stream).retainedLimit ∧
      (s'.streams stream).samples = (s.streams stream).samples) : CacheInOrder d s' := by
  obtain ⟨model, windows, hsome, hwindows, horder⟩ := h
  refine ⟨model, windows, hmodel.trans hsome, hages.trans hwindows, fun stream hstream => ?_⟩
  rw [(hstreams stream).1, (hstreams stream).2]
  exact horder stream hstream

lemma cachedAges_of_correctedAges {model : AffineClockModel} {samples : List Sample}
    {ages : List ℤ} (h : model.correctedAges samples = .ok ages) :
    CachedAges model samples ages := by
  refine (Except.forall₂_of_mapM h).imp fun sample age hage => ?_
  obtain ⟨offsetNs, hoffset, hage⟩ := Except.bind_eq_ok_iff.mp hage
  cases hage
  exact ⟨offsetNs, hoffset, rfl⟩

/-- Both deques evict at the same end. -/
lemma CachedAges.append {model : AffineClockModel} {samples : List Sample} {ages : List ℤ}
    {sample : Sample} {ageNs : ℤ} (h : CachedAges model samples ages) (offsetNs : ℤ) (limit : ℕ)
    (hoffset : model.offsetAtSourceNs sample.sourceNs = .ok offsetNs)
    (hage : ageNs = sample.ageNs - offsetNs) :
    CachedAges model (appendBounded limit samples sample) (appendBounded limit ages ageNs) := by
  rw [appendBounded, appendBounded, ← h.length_eq]
  refine List.forall₂_drop _ (List.rel_append h ?_)
  exact .cons ⟨offsetNs, hoffset, hage⟩ .nil

lemma length_appendBounded_le {α : Type*} (limit : ℕ) (values : List α) (value : α) :
    (appendBounded limit values value).length ≤ limit := by
  simp only [appendBounded, List.length_drop, List.length_append, List.length_singleton]
  omega

lemma mem_of_mem_appendBounded {α : Type*} {limit : ℕ} {values : List α} {value x : α}
    (h : x ∈ appendBounded limit values value) : x ∈ values ∨ x = value := by
  have hmem := List.mem_of_mem_drop h
  rwa [List.mem_append, List.mem_singleton] at hmem

/-! ## Updates -/

/-- No deque of samples is over its limit. -/
def Bounded (s : Discipline) : Prop :=
  ∀ stream, (s.streams stream).samples.length ≤ (s.streams stream).retainedLimit

namespace Bounded

variable {d : Settings} {s : Discipline}

lemma retain (h : Bounded s) (x : Observation) : Bounded (s.retain x) := by
  intro stream
  by_cases hstream : stream = x.stream
  · subst hstream
    simp only [Discipline.retain, Function.update_self]
    exact length_appendBounded_le _ _ _
  · simp only [Discipline.retain, Function.update_of_ne hstream]
    exact h stream

lemma restart (s : Discipline) (x : Observation) (diagnostics : List (String × ℤ)) :
    Bounded (s.restartQualification d x diagnostics).2 :=
  Bounded.retain (fun _ => Nat.zero_le _) x

lemma of_notes {s' : Discipline} (h : Bounded s) (hnotes : Discipline.SameButNotes s s') :
    Bounded s' := by
  obtain ⟨_, _, _, _, rfl⟩ := hnotes
  exact h

/-- Every update keeps the deques bounded. -/
lemma update {t : ℤ} {s' : Discipline} (h : Bounded s) (hupdate : Update d t s s') :
    Bounded s' := by
  cases hupdate with
  | clock baseNs => exact h
  | fault reason hcache => exact h
  | restart x htime hstream hstate => exact restart s x []
  | duplicate x hgood =>
    intro stream
    simp only [Discipline.countDuplicate]
    by_cases hself : stream = x.stream
    · subst hself
      simpa only [Function.update_self] using h x.stream
    · simpa only [Function.update_of_ne hself] using h stream
  | discard x htime hcontinues => exact h
  | retain x htime hstream hstate hcontinues =>
    rw [Discipline.observeContinuing, if_neg hstate]
    dsimp only
    split <;> exact h.retain x
  | retainLocked x model windows correctedStampNs htime hstream hcontinues hcorrectable =>
    exact Bounded.of_notes (s := (s.retain x).cacheAge windows x.stream
      (x.receiptRealtimeNs - correctedStampNs)) (h.retain x)
      (Discipline.recordLockedReceiptRecoverySample_notes _ _)
  | pause hstate hallow hactive =>
    exact Bounded.of_notes (s := { s with
      receiptRecoveryActive := true
      receiptRecoveryCount := s.receiptRecoveryCount + 1 }) h
      Discipline.startReceiptRecovery_notes
  | evaluate hstate =>
    rcases Discipline.scheduledStatisticsHealth_cases (d := d) (s := s) t with
      heq | ⟨-, -, heq⟩
    · rwa [heq]
    · rw [heq]
      exact h
  | resume hstate hactive hfresh => exact h

end Bounded

/-- What every update keeps: no deque is over its limit, the cache of a locked discipline is in
order, and no fault speaks of the cache. -/
structure CacheKept (d : Settings) (s : Discipline) : Prop where
  bounded : Bounded s
  cached : s.state = .locked → CacheInOrder d s
  sound : ∀ reason, s.faultReason = some reason → reason.isCacheFault = false

namespace CacheKept

variable {d : Settings} {s : Discipline}

/-- The notes of a pause, the clocks and the duplicates are none of the cache's business. -/
lemma congr {s' : Discipline} (h : CacheKept d s) (hstate : s'.state = s.state)
    (hfault : s'.faultReason = s.faultReason)
    (hmodel : s'.lockedAffineModel = s.lockedAffineModel)
    (hages : s'.lockedCorrectedAges = s.lockedCorrectedAges)
    (hstreams : ∀ stream, (s'.streams stream).retainedLimit = (s.streams stream).retainedLimit ∧
      (s'.streams stream).samples = (s.streams stream).samples) : CacheKept d s' where
  bounded stream := by
    rw [(hstreams stream).1, (hstreams stream).2]
    exact h.bounded stream
  cached hlocked := (h.cached (hstate ▸ hlocked)).congr hmodel hages hstreams
  sound reason hreason := h.sound reason (hfault ▸ hreason)

lemma of_notes {s' : Discipline} (h : CacheKept d s) (hnotes : Discipline.SameButNotes s s') :
    CacheKept d s' := by
  obtain ⟨_, _, _, _, rfl⟩ := hnotes
  exact h.congr rfl rfl rfl rfl fun _ => ⟨rfl, rfl⟩

/-- An observation and its age join the deques of their stream. -/
lemma retainLocked {x : Observation} {model : AffineClockModel} {windows : String → AgeWindow}
    {correctedStampNs : ℤ} (h : CacheKept d s)
    (hx : Correctable d s x model windows correctedStampNs) :
    CacheKept d (s.retainLocked d x windows correctedStampNs) := by
  refine of_notes ?_ (Discipline.recordLockedReceiptRecoverySample_notes _ _)
  refine ⟨h.bounded.retain x, fun _ => ?_, h.sound⟩
  obtain ⟨model', windows', hmodel, hwindows, horder⟩ := h.cached hx.locked
  obtain rfl := Option.some.inj (hx.modelLocked.symm.trans hmodel)
  obtain rfl := Option.some.inj (hx.agesCached.symm.trans hwindows)
  refine ⟨model, _, hmodel, rfl, fun stream hstream => ?_⟩
  obtain ⟨hlimit, hages⟩ := horder stream hstream
  by_cases hself : stream = x.stream
  · subst hself
    simp only [Discipline.cacheAge, Discipline.retain, Function.update_self]
    refine ⟨hlimit, ?_⟩
    rw [hlimit]
    refine hages.append (correctedStampNs - x.sourceStampNs) _ ?_ ?_
    · rw [AffineClockModel.offsetAtSourceNs, Observation.sample, hx.corrected]
      rfl
    · simp only [Observation.sample, Observation.ageNs]
      omega
  · simp only [Discipline.cacheAge, Discipline.retain, Function.update_of_ne hself]
    exact ⟨hlimit, hages⟩

/-- Every update keeps the cache in order. -/
theorem update {t : ℤ} {s' : Discipline} (h : CacheKept d s) (hupdate : Update d t s s') :
    CacheKept d s' := by
  cases hupdate with
  | clock baseNs => exact h.congr rfl rfl rfl rfl fun _ => ⟨rfl, rfl⟩
  | fault reason hcache =>
    refine ⟨h.bounded, fun hlocked => (nomatch hlocked), fun reason' hreason => ?_⟩
    obtain rfl := Option.some.inj hreason
    by_contra hfault
    obtain ⟨hlocked, hdisorder⟩ := hcache (Bool.not_eq_false _ ▸ hfault)
    exact hdisorder (h.cached hlocked).aligned
  | restart x htime hstream hstate =>
    refine ⟨Bounded.restart s x [], fun hlocked => ?_, h.sound⟩
    exact absurd (hstate.symm.trans hlocked) (by decide)
  | duplicate x hgood =>
    refine h.congr rfl rfl rfl rfl fun stream => ?_
    simp only [Discipline.countDuplicate]
    by_cases hself : stream = x.stream
    · subst hself
      simp only [Function.update_self, and_self]
    · simp only [Function.update_of_ne hself, and_self]
  | discard x htime hcontinues => exact h.congr rfl rfl rfl rfl fun _ => ⟨rfl, rfl⟩
  | retain x htime hstream hstate hcontinues =>
    rw [Discipline.observeContinuing, if_neg hstate]
    dsimp only
    split
    · exact ⟨h.bounded.retain x, fun hlocked => absurd hlocked hstate, h.sound⟩
    · exact ⟨h.bounded.retain x, fun hlocked => absurd hlocked hstate, h.sound⟩
  | retainLocked x model windows correctedStampNs htime hstream hcontinues hcorrectable =>
    exact h.retainLocked hcorrectable
  | pause hstate hallow hactive =>
    refine of_notes ?_ Discipline.startReceiptRecovery_notes
    exact h.congr rfl rfl rfl rfl fun _ => ⟨rfl, rfl⟩
  | evaluate hstate =>
    rcases Discipline.scheduledStatisticsHealth_cases (d := d) (s := s) t with
      heq | ⟨-, -, heq⟩
    · rwa [heq]
    · rw [heq]
      exact h.congr rfl rfl rfl rfl fun _ => ⟨rfl, rfl⟩
  | resume hstate hactive hfresh => exact h.congr rfl rfl rfl rfl fun _ => ⟨rfl, rfl⟩

end CacheKept

/-! ## Locks -/

lemma entry_cons_self {α : Type} [Inhabited α] (key : String) (value : α)
    (pairs : List (String × α)) : entry ((key, value) :: pairs) key = value := by
  simp [entry]

lemma entry_cons_of_ne {α : Type} [Inhabited α] {key name : String} (value : α)
    (pairs : List (String × α)) (h : name ≠ key) :
    entry ((key, value) :: pairs) name = entry pairs name := by
  rw [entry, entry, List.lookup_cons, beq_false_of_ne h]

/-- A dictionary has an entry for each of its keys. -/
lemma entry_of_forall₂ {α β : Type} [Inhabited α] {P : String → α → Prop}
    {k : β → String} {items : List β} {pairs : List (String × α)}
    (h : List.Forall₂ (fun item pair => pair.1 = k item ∧ P (k item) pair.2) items pairs)
    {name : String} (hname : name ∈ items.map k) : P name (entry pairs name) := by
  induction h with
  | nil => cases hname
  | @cons item pair items pairs hpair _ ih =>
    obtain ⟨first, value⟩ := pair
    obtain ⟨rfl, hvalue⟩ := hpair
    by_cases hself : name = k item
    · rw [hself, entry_cons_self]
      exact hvalue
    · rw [entry_cons_of_ne value pairs hself]
      exact ih ((List.mem_cons.mp hname).resolve_left hself)

/-- The loop of a lock, over the values that it gets for each stream. -/
lemma entry_of_mapM {values : String → Except Raised (List ℤ)} (limit : String → ℕ)
    {names : List String} {pairs : List (String × List ℤ)}
    (h : (names.mapM fun name => do
      let values ← values name
      return (name, values.drop (values.length - limit name))) = .ok pairs) {name : String}
    (hname : name ∈ names) :
    ∃ ages, values name = .ok ages ∧
      entry pairs name = ages.drop (ages.length - limit name) := by
  refine entry_of_forall₂ (k := id) (P := fun name value => ∃ ages, values name = .ok ages ∧
    value = ages.drop (ages.length - limit name)) ?_ (by rwa [List.map_id])
  refine (Except.forall₂_of_mapM h).imp fun name pair hpair => ?_
  obtain ⟨ages, hages, hpair⟩ := Except.bind_eq_ok_iff.mp hpair
  cases hpair
  exact ⟨rfl, ages, hages, rfl⟩

/-- The ages that a lock takes from an evaluation, or computes, are those of the samples. -/
lemma lockedAgeWindows_cached {d : Settings} {s : Discipline} {model : AffineClockModel}
    {cached : Option (List (String × List ℤ))} {windows : String → AgeWindow}
    (hbounded : Bounded s)
    (hcached : ∀ pairs, cached = some pairs → ∀ stream ∈ d.config.names,
      CachedAges model (s.streams stream).samples (entry pairs stream))
    (h : s.lockedAgeWindows d model cached = .ok windows) {stream : String}
    (hstream : stream ∈ d.config.names) :
    (windows stream).limit = (s.streams stream).retainedLimit ∧
      CachedAges model (s.streams stream).samples (windows stream).ages := by
  obtain ⟨pairs, hpairs, h⟩ := Except.bind_eq_ok_iff.mp h
  cases h
  refine ⟨rfl, ?_⟩
  have hfits {ages : List ℤ} (hages : CachedAges model (s.streams stream).samples ages) :
      ages.drop (ages.length - (s.streams stream).retainedLimit) = ages := by
    rw [← hages.length_eq, Nat.sub_eq_zero_of_le (hbounded stream), List.drop_zero]
  cases cached with
  | none =>
    obtain ⟨ages, hages, hentry⟩ := entry_of_mapM (fun name => (s.streams name).retainedLimit)
      hpairs hstream
    have hages := cachedAges_of_correctedAges hages
    dsimp only
    rwa [hentry, hfits hages]
  | some cachedPairs =>
    obtain ⟨ages, hages, hentry⟩ := entry_of_mapM (fun name => (s.streams name).retainedLimit)
      hpairs hstream
    cases hages
    have hages := hcached cachedPairs rfl stream hstream
    dsimp only
    rwa [hentry, hfits hages]

/-- A lock leaves the cache in order. -/
lemma CacheKept.withLock {d : Settings} {s : Discipline} (h : CacheKept d s)
    {model : AffineClockModel} {cached : Option (List (String × List ℤ))}
    {windows : String → AgeWindow} (t : ℤ)
    (hcached : ∀ pairs, cached = some pairs → ∀ stream ∈ d.config.names,
      CachedAges model (s.streams stream).samples (entry pairs stream))
    (hwindows : s.lockedAgeWindows d model cached = .ok windows) :
    CacheKept d (s.withLock model windows t) where
  bounded := h.bounded
  cached _ := ⟨model, windows, rfl, rfl,
    fun _ hstream => lockedAgeWindows_cached h.bounded hcached hwindows hstream⟩
  sound := h.sound

/-! ## Evaluations -/

/-- The loop over the streams gives each stream that it reaches the ages of its samples. -/
lemma candidateAges_spec {d : Settings} {snapshot : QualificationSnapshot}
    {candidate : AffineClockModel} {policies : List StreamPolicy} {ages : CandidateAges}
    (h : candidateAges d snapshot candidate policies = .ok ages) :
    ages.baselines.length ≤ policies.length ∧
      (ages.baselines.length = policies.length →
        List.Forall₂ (fun policy pair => pair.1 = policy.name ∧
          CachedAges candidate (snapshot.stream policy.name).samples pair.2) policies
          ages.cachedWindows) := by
  induction policies generalizing ages with
  | nil =>
    cases h
    exact ⟨le_rfl, fun _ => .nil⟩
  | cons policy policies ih =>
    rw [candidateAges] at h
    obtain ⟨values, hvalues, h⟩ := Except.bind_eq_ok_iff.mp h
    dsimp only at h
    split at h
    · cases h
      exact ⟨Nat.zero_le _, fun hlength => nomatch hlength⟩
    · obtain ⟨others, hothers, h⟩ := Except.bind_eq_ok_iff.mp h
      cases h
      obtain ⟨hle, hall⟩ := ih hothers
      refine ⟨Nat.succ_le_succ hle, fun hlength => ?_⟩
      exact .cons ⟨rfl, cachedAges_of_correctedAges hvalues⟩ (hall (Nat.succ_inj.mp hlength))

/-- An evaluation with a model has cached the ages of the samples of its snapshot. -/
lemma evaluate_cached {d : Settings} {snapshot : QualificationSnapshot} {windowNs : ℤ}
    {evaluation : QualificationEvaluation} (h : snapshot.evaluate d windowNs = .ok evaluation) :
    evaluation.snapshot = snapshot ∧ ∀ model, evaluation.model = some model →
      ∀ stream ∈ d.config.names, CachedAges model (snapshot.stream stream).samples
        (entry evaluation.correctedAgeWindows stream) := by
  rw [QualificationSnapshot.evaluate] at h
  split at h
  all_goals
    obtain ⟨candidate, -, h⟩ := Except.bind_eq_ok_iff.mp h
    dsimp only at h
    cases candidate with
    | none =>
      cases h
      exact ⟨rfl, fun _ hmodel => nomatch hmodel⟩
    | some candidate =>
      obtain ⟨ages, hages, h⟩ := Except.bind_eq_ok_iff.mp h
      cases h
      refine ⟨rfl, fun model hmodel stream hstream => ?_⟩
      dsimp only at hmodel ⊢
      split_ifs at hmodel with hqualified
      rw [if_pos hqualified]
      obtain rfl := Option.some.inj hmodel
      exact entry_of_forall₂ (P := fun name ages =>
        CachedAges candidate (snapshot.stream name).samples ages)
        ((candidateAges_spec hages).2 hqualified) hstream

/-! ## Snapshots -/

/-- What an update does to the retained samples. -/
inductive Retention (nowNs : ℤ) (s s' : Discipline) : Prop
  | same (start : s'.affineQualificationStartMonotonicNs = s.affineQualificationStartMonotonicNs)
    (streams : ∀ stream, (s'.streams stream).samples = (s.streams stream).samples ∧
      (s'.streams stream).advancing = (s.streams stream).advancing)
  | restart (state : s.state = .qualifying) (start : s'.affineQualificationStartMonotonicNs = none)
    (fresh : ∀ stream, ∀ sample ∈ (s'.streams stream).samples, sample.receiptMonotonicNs = nowNs)
  | retain (x : Observation) (time : x.receiptMonotonicNs = nowNs)
    (streams : s'.streams = (s.retain x).streams)
    (start : s'.affineQualificationStartMonotonicNs = s.affineQualificationStartMonotonicNs ∨
      s.affineQualificationStartMonotonicNs = none ∧
        ∀ startNs, s'.affineQualificationStartMonotonicNs = some startNs →
          ∃ stream, ∃ sample ∈ (s'.streams stream).samples, sample.receiptMonotonicNs = startNs)

lemma Retention.of_notes {t : ℤ} {s s' s'' : Discipline} (h : Retention t s s')
    (hnotes : Discipline.SameButNotes s' s'') : Retention t s s'' := by
  obtain ⟨_, _, _, _, rfl⟩ := hnotes
  cases h with
  | same start streams => exact .same start streams
  | restart state start fresh => exact .restart state start fresh
  | retain x time streams start => exact .retain x time streams start

/-- The receipt of a first sample is that of a sample. -/
lemma mem_firstReceipts {s : Discipline} {names : List String} {startNs : ℤ}
    (h : ((names.map fun stream =>
      (s.streams stream).samples.head?.map Sample.receiptMonotonicNs).filterMap id).max? =
        some startNs) :
    ∃ stream, ∃ sample ∈ (s.streams stream).samples, sample.receiptMonotonicNs = startNs := by
  have hmem := List.max?_mem h
  rw [List.filterMap_map, List.mem_filterMap] at hmem
  obtain ⟨stream, -, hfirst⟩ := hmem
  obtain ⟨sample, hhead, hreceipt⟩ := Option.map_eq_some_iff.mp hfirst
  exact ⟨stream, sample, List.mem_of_head? hhead, hreceipt⟩

lemma observeContinuing_retention {d : Settings} {s : Discipline} {x : Observation}
    (hstate : s.state ≠ .locked) :
    Retention x.receiptMonotonicNs s (s.observeContinuing d x).2 := by
  rw [Discipline.observeContinuing, if_neg hstate]
  dsimp only
  split
  · rename_i hfirst
    exact .retain x rfl rfl (.inr ⟨hfirst.2.1, fun startNs h => mem_firstReceipts h⟩)
  · exact .retain x rfl rfl (.inl rfl)

lemma Update.retention {d : Settings} {t : ℤ} {s s' : Discipline} (h : Update d t s s') :
    Retention t s s' := by
  cases h with
  | clock baseNs => exact .same rfl fun _ => ⟨rfl, rfl⟩
  | fault reason hcache => exact .same rfl fun _ => ⟨rfl, rfl⟩
  | restart x htime hstream hstate =>
    refine .restart hstate rfl fun stream sample hsample => ?_
    simp only [Discipline.restartQualification, Discipline.retain] at hsample
    by_cases hself : stream = x.stream
    · subst hself
      rw [Function.update_self] at hsample
      rcases mem_of_mem_appendBounded hsample with hnone | rfl
      · cases hnone
      · exact htime
    · rw [Function.update_of_ne hself] at hsample
      cases hsample
  | duplicate x hgood =>
    refine .same rfl fun stream => ?_
    simp only [Discipline.countDuplicate]
    by_cases hself : stream = x.stream
    · subst hself
      simp only [Function.update_self, and_self]
    · simp only [Function.update_of_ne hself, and_self]
  | discard x htime hcontinues => exact .same rfl fun _ => ⟨rfl, rfl⟩
  | retain x htime hstream hstate hcontinues => exact htime ▸ observeContinuing_retention hstate
  | retainLocked x model windows correctedStampNs htime hstream hcontinues hcorrectable =>
    refine Retention.of_notes ?_ (Discipline.recordLockedReceiptRecoverySample_notes _ _)
    exact .retain x htime rfl (.inl rfl)
  | pause hstate hallow hactive =>
    refine Retention.of_notes ?_ Discipline.startReceiptRecovery_notes
    exact .same rfl fun _ => ⟨rfl, rfl⟩
  | evaluate hstate =>
    rcases Discipline.scheduledStatisticsHealth_cases (d := d) (s := s) t with
      heq | ⟨-, -, heq⟩ <;>
    · rw [heq]
      exact .same rfl fun _ => ⟨rfl, rfl⟩
  | resume hstate hactive hfresh => exact .same rfl fun _ => ⟨rfl, rfl⟩

/-- The qualification that the snapshot was taken of still goes on. -/
structure Current (d : Settings) (s : Discipline) (snapshot : QualificationSnapshot) : Prop where
  start : s.affineQualificationStartMonotonicNs = some snapshot.qualificationStartMonotonicNs
  advancing : ∀ stream ∈ d.config.names,
    (snapshot.stream stream).advancing ≤ (s.streams stream).advancing
  samples : ∀ stream ∈ d.config.names,
    (s.streams stream).advancing = (snapshot.stream stream).advancing →
      (s.streams stream).samples = (snapshot.stream stream).samples

/-- The qualification has been restarted behind the start of the snapshot. -/
structure Superseded (s : Discipline) (snapshot : QualificationSnapshot) : Prop where
  start : ∀ startNs, s.affineQualificationStartMonotonicNs = some startNs →
    snapshot.qualificationStartMonotonicNs < startNs
  samples : ∀ stream, ∀ sample ∈ (s.streams stream).samples,
    snapshot.qualificationStartMonotonicNs < sample.receiptMonotonicNs

/-- What holds of a snapshot ever after. -/
structure Tracks (d : Settings) (nowNs : ℤ) (s : Discipline) (snapshot : QualificationSnapshot) :
    Prop where
  later : snapshot.qualificationStartMonotonicNs < nowNs
  current_or : Current d s snapshot ∨ Superseded s snapshot

namespace Tracks

variable {d : Settings} {t : ℤ} {s s' : Discipline} {snapshot : QualificationSnapshot}

lemma congr (h : Tracks d t s snapshot)
    (hstart : s'.affineQualificationStartMonotonicNs = s.affineQualificationStartMonotonicNs)
    (hstreams : ∀ stream, (s'.streams stream).samples = (s.streams stream).samples ∧
      (s'.streams stream).advancing = (s.streams stream).advancing) :
    Tracks d t s' snapshot := by
  refine ⟨h.later, ?_⟩
  rcases h.current_or with hcurrent | hsuperseded
  · refine .inl ⟨hstart.trans hcurrent.start, fun stream hstream => ?_, fun stream hstream => ?_⟩
    · rw [(hstreams stream).2]
      exact hcurrent.advancing stream hstream
    · rw [(hstreams stream).1, (hstreams stream).2]
      exact hcurrent.samples stream hstream
  · refine .inr ⟨fun startNs h => hsuperseded.start startNs (hstart ▸ h), fun stream => ?_⟩
    rw [(hstreams stream).1]
    exact hsuperseded.samples stream

lemma retain (h : Tracks d t s snapshot) {x : Observation}
    (htime : x.receiptMonotonicNs = t) (hstreams : s'.streams = (s.retain x).streams)
    (hstart : s'.affineQualificationStartMonotonicNs = s.affineQualificationStartMonotonicNs ∨
      s.affineQualificationStartMonotonicNs = none ∧
        ∀ startNs, s'.affineQualificationStartMonotonicNs = some startNs →
          ∃ stream, ∃ sample ∈ (s'.streams stream).samples,
            sample.receiptMonotonicNs = startNs) :
    Tracks d t s' snapshot := by
  refine ⟨h.later, ?_⟩
  rcases h.current_or with hcurrent | hsuperseded
  · refine .inl ⟨?_, fun stream hstream => ?_, fun stream hstream => ?_⟩
    · rcases hstart with hsame | ⟨hnone, -⟩
      · exact hsame.trans hcurrent.start
      · exact absurd (hnone.symm.trans hcurrent.start) (by simp)
    all_goals
      have hle := hcurrent.advancing stream hstream
      by_cases hself : stream = x.stream
    · rw [hstreams, hself]
      simp only [Discipline.retain, Function.update_self]
      rw [← hself]
      omega
    · rw [hstreams]
      simpa only [Discipline.retain, Function.update_of_ne hself] using hle
    · -- the stream has advanced since
      rw [hstreams, hself]
      simp only [Discipline.retain, Function.update_self]
      rw [← hself]
      intro heq
      omega
    · rw [hstreams]
      simpa only [Discipline.retain, Function.update_of_ne hself] using
        hcurrent.samples stream hstream
  · have hsamples : ∀ stream, ∀ sample ∈ (s'.streams stream).samples,
        snapshot.qualificationStartMonotonicNs < sample.receiptMonotonicNs := by
      intro stream sample hsample
      rw [hstreams] at hsample
      by_cases hself : stream = x.stream
      · subst hself
        simp only [Discipline.retain, Function.update_self] at hsample
        rcases mem_of_mem_appendBounded hsample with hold | rfl
        · exact hsuperseded.samples _ sample hold
        · exact h.later.trans_eq htime.symm
      · simp only [Discipline.retain, Function.update_of_ne hself] at hsample
        exact hsuperseded.samples stream sample hsample
    refine .inr ⟨fun startNs hsome => ?_, hsamples⟩
    rcases hstart with hsame | ⟨-, hfirst⟩
    · exact hsuperseded.start startNs (hsame ▸ hsome)
    · obtain ⟨stream, sample, hsample, rfl⟩ := hfirst startNs hsome
      exact hsamples stream sample hsample

/-- Every update keeps track of the snapshots. -/
lemma update (h : Tracks d t s snapshot) (hupdate : Update d t s s') :
    Tracks d t s' snapshot := by
  cases hupdate.retention with
  | same start streams => exact h.congr start streams
  | restart state start fresh =>
    refine ⟨h.later, .inr ⟨fun startNs hsome => ?_, fun stream sample hsample => ?_⟩⟩
    · rw [start] at hsome
      cases hsome
    · rw [fresh stream sample hsample]
      exact h.later
  | retain x time streams start => exact h.retain time streams start

end Tracks

/-- A configuration that the constructor admits has a positive qualification window. -/
lemma qualificationWindow_pos {d : Settings} {start : Option ℤ} {s₀ : Discipline}
    (h : d.create start = .ok s₀) {windowNs : ℤ}
    (hwindow : d.config.affineQualificationWindowNs = some windowNs) : 0 < windowNs := by
  obtain ⟨_, hvalid, -⟩ := Except.bind_eq_ok_iff.mp h
  have hcheck := Check.all_holds hvalid ⟨d.config.affineQualificationWindowNs.all
    fun window => 10 * NANOSECONDS_PER_SECOND ≤ window ∧ window % d.config.driftBinNs = 0,
      "affine qualification window must be an integer multiple " ++
        "of the drift bin and at least 10 seconds"⟩ (by simp [DisciplineConfig.checks])
  rw [hwindow] at hcheck
  have := (of_decide_eq_true hcheck).1
  rw [NANOSECONDS_PER_SECOND] at this
  omega

lemma stream_of_mem {d : Settings} {s : Discipline} {snapshot : QualificationSnapshot}
    (h : snapshot.streams = d.config.names.map fun name => (s.streams name).snapshot name)
    {stream : String} (hstream : stream ∈ d.config.names) :
    snapshot.stream stream = (s.streams stream).snapshot stream := by
  rw [QualificationSnapshot.stream, h]
  generalize d.config.names = names at hstream
  induction names with
  | nil => cases hstream
  | cons name names ih =>
    rw [List.map_cons, List.find?_cons]
    by_cases hself : name = stream
    · subst hself
      simp [StreamState.snapshot]
    · have hne : decide (((s.streams name).snapshot name).name = stream) = false :=
        decide_eq_false hself
      rw [hne]
      exact ih ((List.mem_cons.mp hstream).resolve_left (Ne.symm hself))

lemma stream_name (snapshot : QualificationSnapshot) (stream : String) :
    (snapshot.stream stream).name = stream := by
  rw [QualificationSnapshot.stream]
  cases hfind : snapshot.streams.find? (·.name = stream) with
  | none => rfl
  | some found => simpa using List.find?_some hfind

/-- A snapshot is current when it is taken. -/
lemma tracks_capture {d : Settings} {start : Option ℤ} {s₀ s : Discipline}
    (hcreate : d.create start = .ok s₀) {t : ℤ} {snapshot : QualificationSnapshot}
    (h : s.captureAffineQualificationSnapshot d t = .ok snapshot) :
    Tracks d t s snapshot := by
  rw [Discipline.captureAffineQualificationSnapshot] at h
  split at h
  · cases h
  split at h
  · rename_i startNs deadlineNs hstart hdeadline
    split at h
    · cases h
    rename_i htime
    cases h
    have hstreams {stream : String} (hstream : stream ∈ d.config.names) :=
      @stream_of_mem d s ⟨startNs, deadlineNs, t, _⟩ rfl _ hstream
    refine ⟨?_, .inl ⟨hstart, fun stream hstream => ?_, fun stream hstream _ => ?_⟩⟩
    · rw [Discipline.affineQualificationDeadlineMonotonicNs, hstart] at hdeadline
      cases hwindow : d.config.affineQualificationWindowNs with
      | none =>
        rw [hwindow] at hdeadline
        cases hdeadline
      | some windowNs =>
        rw [hwindow] at hdeadline
        have hpos := qualificationWindow_pos hcreate hwindow
        have heq := Option.some.inj hdeadline
        dsimp only
        omega
    · rw [hstreams hstream]
      exact le_rfl
    · rw [hstreams hstream]
      rfl
  · cases h

/-- The checks of a lock tell that the live samples are still those of the snapshot. -/
lemma samples_of_usable {d : Settings} {s : Discipline} {t laterNs : ℤ}
    {evaluation : QualificationEvaluation} (htracks : Tracks d laterNs s evaluation.snapshot)
    (h : s.requireUsableEvaluation d t evaluation = .ok ()) {stream : String}
    (hstream : stream ∈ d.config.names) :
    (s.streams stream).samples = (evaluation.snapshot.stream stream).samples := by
  obtain ⟨_, hcurrent, h⟩ := Except.bind_eq_ok_iff.mp h
  have hstart : s.affineQualificationStartMonotonicNs =
      some evaluation.snapshot.qualificationStartMonotonicNs := by
    simp only [Discipline.requireCurrentAffineSnapshot] at hcurrent
    split at hcurrent
    · cases hcurrent
    · rename_i hmatches
      push Not at hmatches
      exact hmatches.1.symm
  have hunchanged : s.unchangedSince (evaluation.snapshot.stream stream) = true := by
    dsimp only at h
    split at h
    · obtain ⟨_, hraised, -⟩ := Except.bind_eq_ok_iff.mp h
      cases hraised
    split at h
    · obtain ⟨_, hraised, -⟩ := Except.bind_eq_ok_iff.mp h
      cases hraised
    rename_i hall
    simp only [Bool.not_eq_true', Bool.not_eq_false] at hall
    exact List.all_eq_true.mp hall stream hstream
  rcases htracks.current_or with hcurrent | hsuperseded
  · refine hcurrent.samples stream hstream ?_
    rw [Discipline.unchangedSince, stream_name, decide_eq_true_eq] at hunchanged
    exact hunchanged.2.2.2.1
  · exact absurd (hsuperseded.start _ hstart) (lt_irrefl _)

/-! ## Sessions -/

/-- What holds of a session whose clock does not go back. -/
structure SessionKept (d : Settings) (nowNs : ℤ) (s : Session) : Prop where
  cache : CacheKept d s.discipline
  snapshots : ∀ snapshot ∈ s.snapshots, Tracks d nowNs s.discipline snapshot
  evaluations : ∀ evaluation ∈ s.evaluations, evaluation.snapshot ∈ s.snapshots ∧
    ∃ windowNs, evaluation.snapshot.evaluate d windowNs = .ok evaluation

namespace SessionKept

open Session

variable {d : Settings} {t : ℤ} {s : Session}

lemma opened {start : Option ℤ} {s₀ : Discipline} (h : d.create start = .ok s₀) (t : ℤ) :
    SessionKept d t (opened s₀) := by
  obtain ⟨_, -, hchecked⟩ := Except.bind_eq_ok_iff.mp h
  obtain ⟨_, -, hcreated⟩ := Except.bind_eq_ok_iff.mp hchecked
  cases hcreated
  refine ⟨⟨fun _ => Nat.zero_le _, ?_, ?_⟩, ?_, ?_⟩
  · intro hlocked
    cases hlocked
  · intro reason hreason
    cases hreason
  · intro snapshot hmem
    cases hmem
  · intro evaluation hmem
    cases hmem

lemma later {laterNs : ℤ} (h : SessionKept d t s) (hle : t ≤ laterNs) :
    SessionKept d laterNs s where
  cache := h.cache
  snapshots snapshot hmem :=
    ⟨(h.snapshots snapshot hmem).later.trans_le hle, (h.snapshots snapshot hmem).current_or⟩
  evaluations := h.evaluations

/-- Updates of the discipline, with the caller's snapshots and evaluations as they are. -/
lemma updates {s' : Session} (h : SessionKept d t s)
    (hupdates : Updates d t s.discipline s'.discipline) (hsnapshots : s'.snapshots = s.snapshots)
    (hevaluations : s'.evaluations = s.evaluations) : SessionKept d t s' where
  cache := keep_updates (fun _ _ hkept hupdate => hkept.update hupdate) h.cache hupdates
  snapshots snapshot hmem := keep_updates
    (P := fun discipline => Tracks d t discipline snapshot)
    (fun _ _ htracks hupdate => htracks.update hupdate)
    (h.snapshots snapshot (hsnapshots ▸ hmem)) hupdates
  evaluations := by
    rw [hevaluations, hsnapshots]
    exact h.evaluations

lemma withLock (h : SessionKept d t s) {model : AffineClockModel}
    {cached : Option (List (String × List ℤ))} {windows : String → AgeWindow}
    (hcached : ∀ pairs, cached = some pairs → ∀ stream ∈ d.config.names,
      CachedAges model (s.discipline.streams stream).samples (entry pairs stream))
    (hwindows : s.discipline.lockedAgeWindows d model cached = .ok windows) :
    SessionKept d t { s with discipline := s.discipline.withLock model windows t } where
  cache := h.cache.withLock t hcached hwindows
  snapshots snapshot hmem := (h.snapshots snapshot hmem).congr rfl fun _ => ⟨rfl, rfl⟩
  evaluations := h.evaluations

/-- The ages that an evaluation has cached are those of the samples that it is used for. -/
lemma cachedAges (h : SessionKept d t s) {evaluation : QualificationEvaluation}
    (hmem : evaluation ∈ s.evaluations) {model : AffineClockModel} {laterNs : ℤ}
    (hverdict : s.discipline.lockVerdict d laterNs (some evaluation) = .ok ([], some model)) :
    ∀ stream ∈ d.config.names, CachedAges model (s.discipline.streams stream).samples
      (entry evaluation.correctedAgeWindows stream) := by
  obtain ⟨hsnapshot, windowNs, hevaluation⟩ := h.evaluations evaluation hmem
  obtain ⟨_, husable, hverdict⟩ := Except.bind_eq_ok_iff.mp hverdict
  have hmodel : evaluation.model = some model := congrArg Prod.snd (Except.ok.inj hverdict)
  intro stream hstream
  rw [samples_of_usable (h.snapshots _ hsnapshot) husable hstream]
  exact (evaluate_cached hevaluation).2 model hmodel stream hstream

lemma lockAffine (h : SessionKept d t s) (request : Discipline.LockRequest)
    (htime : request.nowMonotonicNs = t) (evaluation : Option ℕ) :
    SessionKept d t ((machine d).step s (.lockAffine request evaluation)).2 := by
  rcases Discipline.lockAffine_cases (d := d) (s := s.discipline) request
    (evaluation.bind (s.evaluations[·]?)) with hsame | hfault | ⟨model, windows, -, hverdict,
      hwindows, hlock⟩
  · refine h.updates ?_ rfl rfl
    rw [step_lockAffine, hsame]
  · refine h.updates ?_ rfl rfl
    rw [step_lockAffine, hfault]
    exact Discipline.plainFault_updates [] rfl
  · have hpost : ((machine d).step s (.lockAffine request evaluation)).2 =
        { s with discipline := s.discipline.withLock model windows t } := by
      dsimp only [machine, Session.step]
      rw [hlock, htime]
    rw [hpost]
    refine h.withLock ?_ hwindows
    intro pairs hpairs
    obtain ⟨cachedEvaluation, hsome, rfl⟩ := Option.map_eq_some_iff.mp hpairs
    obtain ⟨index, -, hindex⟩ := Option.bind_eq_some_iff.mp hsome
    rw [hsome] at hverdict
    exact h.cachedAges (List.mem_of_getElem? hindex) hverdict

lemma lockAffineFromApprovedDrift (h : SessionKept d t s) (driftPpm : ℚ) (verified : Bool) :
    SessionKept d t
      ((machine d).step s (.lockAffineFromApprovedDrift driftPpm verified t)).2 := by
  rcases Discipline.lockAffineFromApprovedDrift_cases (d := d) (s := s.discipline)
    (t := t) driftPpm verified with hsame | ⟨model, windows, -, -, -, hwindows, hlock⟩
  · refine h.updates ?_ rfl rfl
    rw [step_lockAffineFromApprovedDrift, hsame]
  · have hpost : ((machine d).step s (.lockAffineFromApprovedDrift driftPpm verified t)).2 =
        { s with discipline := s.discipline.withLock model windows t } := by
      dsimp only [machine, Session.step]
      rw [hlock]
    rw [hpost]
    refine h.withLock ?_ hwindows
    intro _ hpairs
    cases hpairs

lemma capture {start : Option ℤ} {s₀ : Discipline} (hcreate : d.create start = .ok s₀)
    (h : SessionKept d t s) : SessionKept d t ((machine d).step s (.capture t)).2 := by
  dsimp only [machine, Session.step]
  split
  · exact h
  rename_i snapshot hsnapshot
  refine ⟨h.cache, fun earlier hmem => ?_, fun evaluation hmem => ?_⟩
  · rcases List.mem_append.mp hmem with hmem | hmem
    · exact h.snapshots earlier hmem
    · rw [List.mem_singleton.mp hmem]
      exact tracks_capture hcreate hsnapshot
  · exact ⟨List.mem_append_left _ (h.evaluations evaluation hmem).1,
      (h.evaluations evaluation hmem).2⟩

lemma evaluate (h : SessionKept d t s) (index : ℕ) :
    SessionKept d t ((machine d).step s (.evaluate index)).2 := by
  dsimp only [machine, Session.step]
  split
  · exact h
  rename_i snapshot hsnapshot
  rw [Session.evaluate]
  split
  · exact h
  rename_i evaluation hevaluation
  refine ⟨h.cache, h.snapshots, fun earlier hmem => ?_⟩
  rcases List.mem_append.mp hmem with hmem | hmem
  · exact h.evaluations earlier hmem
  · rw [List.mem_singleton.mp hmem]
    obtain ⟨_, -, hevaluation⟩ := Except.bind_eq_ok_iff.mp hevaluation
    split at hevaluation
    · cases hevaluation
    · rename_i windowNs _
      obtain ⟨hsame, -⟩ := evaluate_cached hevaluation
      rw [hsame]
      exact ⟨List.mem_of_getElem? hsnapshot, windowNs, hevaluation⟩

/-- Every call at the time of the session keeps it. -/
theorem step {start : Option ℤ} {s₀ : Discipline} (hcreate : d.create start = .ok s₀)
    (h : SessionKept d t s) {c : Call} (htime : c.timeNs = some t) :
    SessionKept d t ((machine d).step s c).2 := by
  cases c with
  | observe x =>
    obtain rfl := Option.some.inj htime
    exact h.updates Discipline.observe_updates rfl rfl
  | poll pollNs =>
    obtain rfl := Option.some.inj htime
    exact h.updates Discipline.poll_updates rfl rfl
  | capture captureNs =>
    obtain rfl := Option.some.inj htime
    exact h.capture hcreate
  | evaluate index => cases htime
  | lockAffine request evaluation => exact h.lockAffine request (Option.some.inj htime) evaluation
  | lockAffineFromApprovedDrift driftPpm verified lockNs =>
    obtain rfl := Option.some.inj htime
    exact h.lockAffineFromApprovedDrift driftPpm verified

/-- A session whose clock does not go back keeps what it begins with. -/
theorem final {start : Option ℤ} {s₀ : Discipline} (hcreate : d.create start = .ok s₀)
    {calls : List Call} (hcalls : Chronological calls) :
    ∃ t, SessionKept d t ((machine d).final (Session.opened s₀) calls) := by
  obtain ⟨t, hnow⟩ : ∃ t, ∀ timeNs ∈ calls.filterMap Call.timeNs, timeNs ≤ t :=
    ⟨_, fun timeNs hmem => List.le_max_of_le' 0 hmem le_rfl⟩
  refine ⟨t, chronological_induction (P := SessionKept d) (opened hcreate)
    (fun _ _ _ hle h => h.later hle) (fun _ _ _ htime h => h.step hcreate htime) ?_ hcalls hnow⟩
  intro t s c htime h
  cases c with
  | evaluate index => exact h.evaluate index
  | observe x => cases htime
  | poll pollNs => cases htime
  | capture captureNs => cases htime
  | lockAffine request evaluation => cases htime
  | lockAffineFromApprovedDrift driftPpm verified lockNs => cases htime

end SessionKept

/-- **The cache of corrected ages stays aligned.**  In every locked state that a session whose clock
does not go back can reach, every stream has one cached age for each retained sample, in their
order, each corrected by the frozen model at the source of its sample; and no session faults
because of the cache. -/
theorem lockedAges_aligned {d : Settings} {start : Option ℤ} {s₀ : Discipline}
    (hcreate : d.create start = .ok s₀) {calls : List Call}
    (hcalls : Session.Chronological calls) :
    let s := ((Session.machine d).final (Session.opened s₀) calls).discipline
    (s.state = .locked → CacheInOrder d s) ∧
      ∀ reason, s.faultReason = some reason → reason.isCacheFault = false := by
  obtain ⟨t, hkept⟩ := SessionKept.final hcreate hcalls
  exact ⟨hkept.cache.cached, hkept.cache.sound⟩

/-- A session of three streams, locked and observed again. -/
theorem lockedAges_aligned_demo :
    (Demo.after 2000000000 (Demo.lockingCalls ++ Demo.observeAll 2500000000)).discipline.state =
        .locked ∧
      CacheInOrder (Demo.settings 2000000000)
        (Demo.after 2000000000 (Demo.lockingCalls ++ Demo.observeAll 2500000000)).discipline := by
  have hlocked : (Demo.after 2000000000
      (Demo.lockingCalls ++ Demo.observeAll 2500000000)).discipline.state = .locked := by
    decide +kernel
  have hcalls : Session.Chronological (Demo.lockingCalls ++ Demo.observeAll 2500000000) := by
    decide +kernel
  exact ⟨hlocked, (lockedAges_aligned Demo.create_settings hcalls).1 hlocked⟩

end UnitreeGo2.StampDiscipline
