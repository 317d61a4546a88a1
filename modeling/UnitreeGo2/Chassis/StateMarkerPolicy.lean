import Mathlib.Tactic.Linarith
import UnitreeGo2.Lib.ExtendedRat
import UnitreeGo2.Lib.Machine
import UnitreeGo2.Lib.TrailingRun

/-!
# Opaque firmware state markers

The firmware reports a marker of no documented meaning with every state.  The policy binds
the first marker that it accepts and refuses any later change, unless both markers are
listed and transitions are enabled.  A refused change is latched until it is acknowledged;
the passive profile instead waits until a listed marker has been stable for long enough.
-/

namespace UnitreeGo2.Chassis

def kDefaultStateTimeoutSec : ℚ := 0.20

def kPassiveStateMarkerRecoveryStableSec : ℚ := 0.50

def kPassiveStateMarkerRecoveryMinimumSamples : ℕ := 5

/-- Zero is accepted without being listed. -/
def canonicalStateOutputEligible (measurementsValid : Bool) (errorCode : UInt32)
    (allowedStateMarkers : List UInt32) : Bool :=
  measurementsValid && (errorCode == 0 || allowedStateMarkers.contains errorCode)

/-- The constructor arguments of the policy. -/
structure MarkerPolicyConfig where
  allowedStateMarkers : List UInt32 := []
  allowAllowlistedTransitions : Bool := false
  allowPassiveRecovery : Bool := false

structure OpaqueFirmwareStateMarkerPolicy where
  hasCurrentMarker : Bool := false
  currentMarkerAllowed : Bool := false
  hasBoundMarker : Bool := false
  changeLatched : Bool := false
  passiveRecoveryPending : Bool := false
  hasPassiveRecoveryCandidate : Bool := false
  currentMarker : UInt32 := 0
  boundMarker : UInt32 := 0
  passiveRecoveryCandidate : UInt32 := 0
  passiveRecoverySamples : ℕ := 0
  passiveRecoveryStartSec : ℚ := 0
  passiveRecoveryLastSec : ℚ := 0
  deriving DecidableEq

namespace OpaqueFirmwareStateMarkerPolicy

def resetPassiveRecoveryCandidate (p : OpaqueFirmwareStateMarkerPolicy) :
    OpaqueFirmwareStateMarkerPolicy :=
  { p with
    hasPassiveRecoveryCandidate := false
    passiveRecoveryCandidate := 0
    passiveRecoverySamples := 0
    passiveRecoveryStartSec := 0
    passiveRecoveryLastSec := 0 }

def beginPassiveRecovery (p : OpaqueFirmwareStateMarkerPolicy) :
    OpaqueFirmwareStateMarkerPolicy :=
  resetPassiveRecoveryCandidate { p with passiveRecoveryPending := true }

def startPassiveRecoveryCandidate (marker : UInt32) (observationSec : ℚ)
    (p : OpaqueFirmwareStateMarkerPolicy) : OpaqueFirmwareStateMarkerPolicy :=
  { p with
    hasPassiveRecoveryCandidate := true
    passiveRecoveryCandidate := marker
    passiveRecoverySamples := 1
    passiveRecoveryStartSec := observationSec
    passiveRecoveryLastSec := observationSec }

variable (config : MarkerPolicyConfig)

/-- The end of `ObservePassiveRecovery`: the candidate was seen once more. -/
def extendPassiveRecoveryCandidate (marker : UInt32) (observationSec : ℚ)
    (p : OpaqueFirmwareStateMarkerPolicy) : Bool × OpaqueFirmwareStateMarkerPolicy :=
  let p := { p with
    passiveRecoverySamples := p.passiveRecoverySamples + 1
    passiveRecoveryLastSec := observationSec }
  if p.passiveRecoverySamples < kPassiveStateMarkerRecoveryMinimumSamples ∨
      ¬ p.passiveRecoveryLastSec - p.passiveRecoveryStartSec ≥
        kPassiveStateMarkerRecoveryStableSec then
    (false, p)
  else
    (true, resetPassiveRecoveryCandidate { p with
      boundMarker := marker
      hasBoundMarker := true
      passiveRecoveryPending := false })

def observePassiveRecovery (marker : UInt32) (observationSec : ExtRat)
    (p : OpaqueFirmwareStateMarkerPolicy) : Bool × OpaqueFirmwareStateMarkerPolicy :=
  match observationSec with
  | .fin t =>
    if !config.allowedStateMarkers.contains marker ∨ t ≤ 0 then
      (false, p.resetPassiveRecoveryCandidate)
    else if !p.hasPassiveRecoveryCandidate ∨ p.passiveRecoveryCandidate ≠ marker ∨
        (p.hasPassiveRecoveryCandidate ∧ t < p.passiveRecoveryLastSec) ∨
        (p.hasPassiveRecoveryCandidate ∧
          t - p.passiveRecoveryLastSec > kDefaultStateTimeoutSec) then
      (false, p.startPassiveRecoveryCandidate marker t)
    else p.extendPassiveRecoveryCandidate marker t
  | _ => (false, p.resetPassiveRecoveryCandidate)

/-- `Observe`, with the value that it returns. -/
def observe (marker : UInt32) (observationSec : ExtRat) (p : OpaqueFirmwareStateMarkerPolicy) :
    Bool × OpaqueFirmwareStateMarkerPolicy :=
  let p := { p with
    currentMarker := marker
    hasCurrentMarker := true
    currentMarkerAllowed :=
      canonicalStateOutputEligible true marker config.allowedStateMarkers }
  if p.changeLatched then (false, p)
  else if p.passiveRecoveryPending then p.observePassiveRecovery config marker observationSec
  else if p.hasBoundMarker ∧ marker ≠ p.boundMarker then
    if !(p.currentMarkerAllowed && config.allowAllowlistedTransitions &&
        config.allowedStateMarkers.contains p.boundMarker &&
        config.allowedStateMarkers.contains marker) then
      if config.allowPassiveRecovery then (false, p.beginPassiveRecovery)
      else (false, { p with changeLatched := true })
    else (true, { p with boundMarker := marker })
  else if !p.currentMarkerAllowed then
    if config.allowPassiveRecovery then (false, p.beginPassiveRecovery)
    else (false, p)
  else if !p.hasBoundMarker then (true, { p with boundMarker := marker, hasBoundMarker := true })
  else (true, p)

/-- `CanAcknowledgeCurrent`, with the text of its message if it sets one. -/
def canAcknowledgeCurrent (p : OpaqueFirmwareStateMarkerPolicy) : Bool × Option String :=
  if !p.hasCurrentMarker then
    (false, some "no firmware state marker has been observed")
  else if !p.currentMarkerAllowed then
    (false, some "current firmware state marker is not explicitly allowed")
  else (true, none)

/-- `AcknowledgeCurrent`, with the text of its message. -/
def acknowledgeCurrent (p : OpaqueFirmwareStateMarkerPolicy) :
    (Bool × Option String) × OpaqueFirmwareStateMarkerPolicy :=
  if !p.canAcknowledgeCurrent.1 then (p.canAcknowledgeCurrent, p)
  else
    ((true, some
      "current opaque firmware state marker acknowledged by explicit disarm"),
      resetPassiveRecoveryCandidate { p with
        boundMarker := p.currentMarker
        hasBoundMarker := true
        changeLatched := false
        passiveRecoveryPending := false })

end OpaqueFirmwareStateMarkerPolicy

/-! ## The policy as a machine -/

inductive MarkerEvent where
  | observe (marker : UInt32) (observationSec : ExtRat)
  | acknowledgeCurrent
  deriving DecidableEq

/-- The machine of a policy, with the values that its calls return. -/
def markerPolicy (config : MarkerPolicyConfig) :
    Machine OpaqueFirmwareStateMarkerPolicy MarkerEvent Bool where
  step p event :=
    match event with
    | .observe marker observationSec => p.observe config marker observationSec
    | .acknowledgeCurrent => (p.acknowledgeCurrent.1.1, p.acknowledgeCurrent.2)

abbrev MarkerStep := Machine.Step OpaqueFirmwareStateMarkerPolicy MarkerEvent Bool

/-! ## A stable witness -/

/-- An observed marker and its time. -/
abbrev Observation := UInt32 × ExtRat

/-- A listed marker at a positive time. -/
def Witnesses (config : MarkerPolicyConfig) (o : Observation) : Prop :=
  o.1 ∈ config.allowedStateMarkers ∧ ∃ t, o.2 = .fin t ∧ 0 < t

/-- The time does not go back, and no state is missed. -/
def InTime (a b : Observation) : Prop :=
  a.2.toRat ≤ b.2.toRat ∧ b.2.toRat - a.2.toRat ≤ kDefaultStateTimeoutSec

/-- The same marker was observed again in time. -/
def Follows (a b : Observation) : Prop := a.1 = b.1 ∧ InTime a b

/-- The observations are enough for a recovery. -/
structure StableWitness (config : MarkerPolicyConfig) (w : List Observation) : Prop where
  samples : kPassiveStateMarkerRecoveryMinimumSamples ≤ w.length
  marker : ∃ marker ∈ config.allowedStateMarkers, ∀ o ∈ w, o.1 = marker
  positive : ∀ o ∈ w, ∃ t, o.2 = .fin t ∧ 0 < t
  inTime : w.IsChain InTime
  span : ∀ a b, w.head? = some a → w.getLast? = some b →
    kPassiveStateMarkerRecoveryStableSec ≤ b.2.toRat - a.2.toRat

section StableWitness

variable {config : MarkerPolicyConfig} {os w r : List Observation} {a b : Observation}

lemma StableWitness.isRun (h : StableWitness config w) : IsRun (Witnesses config) Follows w where
  ne_nil := by
    rintro rfl
    exact absurd h.samples (by decide)
  valid o ho := by
    obtain ⟨marker, hmarker, hall⟩ := h.marker
    exact ⟨(hall o ho).symm ▸ hmarker, h.positive o ho⟩
  linked := by
    obtain ⟨marker, -, hall⟩ := h.marker
    exact h.inTime.imp_of_mem_imp fun a b ha hb hab => ⟨(hall a ha).trans (hall b hb).symm, hab⟩

lemma pairwise_of_isRun (h : IsRun (Witnesses config) Follows r) :
    r.Pairwise fun a b => a.1 = b.1 ∧ a.2.toRat ≤ b.2.toRat := by
  have : Trans (fun a b : Observation => a.1 = b.1 ∧ a.2.toRat ≤ b.2.toRat)
      (fun a b : Observation => a.1 = b.1 ∧ a.2.toRat ≤ b.2.toRat)
      (fun a b : Observation => a.1 = b.1 ∧ a.2.toRat ≤ b.2.toRat) :=
    ⟨fun h h' => ⟨h.1.trans h'.1, h.2.trans h'.2⟩⟩
  exact List.isChain_iff_pairwise.mp (h.linked.imp fun _ _ h => ⟨h.1, h.2.1⟩)

/-- A run is stable when it is long enough and spans enough time. -/
lemma stableWitness_of_isRun (h : IsRun (Witnesses config) Follows r)
    (hsamples : kPassiveStateMarkerRecoveryMinimumSamples ≤ r.length)
    (hspan : ∀ a b, r.head? = some a → r.getLast? = some b →
      kPassiveStateMarkerRecoveryStableSec ≤ b.2.toRat - a.2.toRat) : StableWitness config r where
  samples := hsamples
  marker := by
    obtain ⟨o, r, rfl⟩ := List.exists_cons_of_ne_nil h.ne_nil
    refine ⟨o.1, (h.valid o (by simp)).1, fun o' ho' => ?_⟩
    rcases List.mem_cons.mp ho' with rfl | ho'
    · rfl
    · exact ((List.pairwise_cons.mp (pairwise_of_isRun h)).1 o' ho').1.symm
  positive o ho := (h.valid o ho).2
  inTime := h.linked.imp fun _ _ h => h.2
  span := hspan

/-- The longest run decides whether there is a stable witness. -/
lemma exists_stableWitness_iff (h : TrailingRun (Witnesses config) Follows os r)
    (ha : r.head? = some a) (hb : r.getLast? = some b) :
    (∃ w, w <:+ os ∧ StableWitness config w) ↔
      kPassiveStateMarkerRecoveryMinimumSamples ≤ r.length ∧
        kPassiveStateMarkerRecoveryStableSec ≤ b.2.toRat - a.2.toRat := by
  constructor
  · rintro ⟨w, hw, hstable⟩
    obtain ⟨q, rfl⟩ := h.longest w hw hstable.isRun
    obtain ⟨a', w, rfl⟩ := List.exists_cons_of_ne_nil hstable.isRun.ne_nil
    have hspan := hstable.span a' b rfl (by simpa using hb)
    have hsamples := hstable.samples
    refine ⟨by rw [List.length_append]; omega, ?_⟩
    have hle : a.2.toRat ≤ a'.2.toRat := by
      cases q with
      | nil =>
        obtain rfl : a' = a := by simpa using ha
        exact le_refl _
      | cons z q =>
        obtain rfl : z = a := by simpa using ha
        exact ((List.pairwise_cons.mp (pairwise_of_isRun h.run)).1 a' (by simp)).2
    linarith
  · rintro ⟨hsamples, hspan⟩
    refine ⟨r, h.suffix, stableWitness_of_isRun h.run hsamples fun a' b' ha' hb' => ?_⟩
    obtain rfl : a = a' := Option.some.inj (ha.symm.trans ha')
    obtain rfl : b = b' := Option.some.inj (hb.symm.trans hb')
    exact hspan

lemma not_exists_stableWitness (h : NoTrailingRun (Witnesses config) Follows os) :
    ¬ ∃ w, w <:+ os ∧ StableWitness config w := by
  rintro ⟨w, hw, hstable⟩
  exact h w hw hstable.isRun

/-- One observation is never a stable witness. -/
lemma not_exists_stableWitness_singleton
    (h : TrailingRun (Witnesses config) Follows os [a]) :
    ¬ ∃ w, w <:+ os ∧ StableWitness config w := by
  rw [exists_stableWitness_iff h rfl rfl]
  rintro ⟨hsamples, -⟩
  simp [kPassiveStateMarkerRecoveryMinimumSamples] at hsamples

end StableWitness

/-! ## The recovery candidate -/

/-- The last observation of the candidate. -/
def OpaqueFirmwareStateMarkerPolicy.lastWitness (p : OpaqueFirmwareStateMarkerPolicy) :
    Observation :=
  (p.passiveRecoveryCandidate, .fin p.passiveRecoveryLastSec)

/-- The candidate of a pending recovery describes the longest run of the observations since
it became pending. -/
inductive Candidate (config : MarkerPolicyConfig) (p : OpaqueFirmwareStateMarkerPolicy)
    (os : List Observation) : Prop where
  | none (hnone : p.hasPassiveRecoveryCandidate = false)
      (hrun : NoTrailingRun (Witnesses config) Follows os)
  | some {first : Observation} {r : List Observation}
      (hsome : p.hasPassiveRecoveryCandidate = true)
      (hrun : TrailingRun (Witnesses config) Follows os (r ++ [p.lastWitness]))
      (hsamples : p.passiveRecoverySamples = r.length + 1)
      (hfirst : (r ++ [p.lastWitness]).head? = .some first)
      (hstart : first.2 = .fin p.passiveRecoveryStartSec)

section Candidate

open OpaqueFirmwareStateMarkerPolicy

variable {config : MarkerPolicyConfig} {p : OpaqueFirmwareStateMarkerPolicy}
  {os : List Observation} {marker : UInt32} {t : ℚ}

lemma candidate_start {x : Observation}
    (hrun : TrailingRun (Witnesses config) Follows (os ++ [x]) [x]) (hx : x = (marker, .fin t)) :
    Candidate config (p.startPassiveRecoveryCandidate marker t) (os ++ [x]) := by
  subst hx
  exact .some (r := []) rfl hrun rfl rfl rfl

/-- What an observation of a pending recovery does. -/
structure Recovering (config : MarkerPolicyConfig) (p : OpaqueFirmwareStateMarkerPolicy)
    (os : List Observation) (o : Bool × OpaqueFirmwareStateMarkerPolicy) : Prop where
  completes : o.1 = true ↔ ∃ w, w <:+ os ∧ StableWitness config w
  pending : o.1 = false → o.2.passiveRecoveryPending = p.passiveRecoveryPending
  candidate : o.1 = false → Candidate config o.2 os
  latched : o.2.changeLatched = p.changeLatched

lemma recovering_reset {x : Observation} (hx : ¬ Witnesses config x) :
    Recovering config p (os ++ [x]) (false, p.resetPassiveRecoveryCandidate) where
  completes := by
    have hno : NoTrailingRun (Witnesses config) Follows (os ++ [x]) := noTrailingRun_concat hx
    simpa using not_exists_stableWitness hno
  pending _ := rfl
  candidate _ := .none rfl (noTrailingRun_concat hx)
  latched := rfl

lemma recovering_start
    (hrun : TrailingRun (Witnesses config) Follows (os ++ [(marker, .fin t)])
      [(marker, .fin t)]) :
    Recovering config p (os ++ [(marker, .fin t)])
      (false, p.startPassiveRecoveryCandidate marker t) where
  completes := by
    simpa using not_exists_stableWitness_singleton hrun
  pending _ := rfl
  candidate _ := candidate_start hrun rfl
  latched := rfl

lemma recovering_extend {first : Observation} {r : List Observation}
    (hsome : p.hasPassiveRecoveryCandidate = true)
    (hrun : TrailingRun (Witnesses config) Follows (os ++ [(p.passiveRecoveryCandidate, .fin t)])
      (r ++ [(p.passiveRecoveryCandidate, .fin t)]))
    (hsamples : p.passiveRecoverySamples = r.length)
    (hfirst : (r ++ [((p.passiveRecoveryCandidate, .fin t) : Observation)]).head? = some first)
    (hstart : first.2 = .fin p.passiveRecoveryStartSec) :
    Recovering config p (os ++ [(p.passiveRecoveryCandidate, .fin t)])
      (p.extendPassiveRecoveryCandidate p.passiveRecoveryCandidate t) := by
  have hstable := exists_stableWitness_iff hrun hfirst (List.getLast?_concat)
  rw [hstart, List.length_append, List.length_singleton, ← hsamples] at hstable
  simp only [ExtRat.toRat_fin] at hstable
  unfold extendPassiveRecoveryCandidate
  simp only
  split
  · rename_i h
    refine ⟨?_, fun _ => rfl, fun _ => ?_, rfl⟩
    · rw [hstable]
      simp only [Bool.false_eq_true, false_iff, not_and]
      intro hmany
      rcases h with h | h
      · omega
      · exact h
    · exact .some hsome hrun (congrArg (· + 1) hsamples) hfirst hstart
  · rename_i h
    rw [not_or, not_lt, not_not] at h
    refine ⟨?_, (fun h => by cases h), (fun h => by cases h), rfl⟩
    rw [hstable]
    simpa using h

/-- **One observation of a pending recovery.** -/
lemma recovering_observePassiveRecovery (hp : Candidate config p os) (x : Observation) :
    Recovering config p (os ++ [x]) (p.observePassiveRecovery config x.1 x.2) := by
  obtain ⟨marker, sec⟩ := x
  unfold observePassiveRecovery
  simp only
  split
  · rename_i t
    split
    · rename_i h
      refine recovering_reset fun hx => ?_
      obtain ⟨hmarker, t', ht', hpos⟩ := hx
      obtain rfl : t = t' := by simpa using ht'
      rcases h with h | h
      · simp [hmarker] at h
      · exact absurd hpos (not_lt.mpr h)
    rename_i hvalid
    rw [not_or, Bool.not_eq_true', Bool.not_eq_false, List.contains_iff_mem, not_le] at hvalid
    have hx : Witnesses config (marker, .fin t) := ⟨hvalid.1, t, rfl, hvalid.2⟩
    cases hp with
    | none hnone hrun =>
      rw [if_pos (.inl (by simp [hnone]))]
      exact recovering_start (hrun.start hx)
    | @some first r hsome hrun hsamples hfirst hstart =>
      split
      · rename_i h
        refine recovering_start (hrun.restart hx fun hfollows => ?_)
        obtain ⟨hsame, hle, hgap⟩ := hfollows
        simp only [ExtRat.toRat_fin] at hsame hle hgap
        rcases h with h | h | h | h
        · simp [hsome] at h
        · exact h hsame
        · exact absurd h.2 (not_lt.mpr hle)
        · exact absurd h.2 (not_lt.mpr hgap)
      · rename_i h
        simp only [hsome, Bool.not_true, Bool.false_eq_true, false_or, true_and, not_or, not_not,
          not_lt, gt_iff_lt] at h
        obtain ⟨rfl, hle, hgap⟩ := h
        refine recovering_extend hsome (hrun.extend hx ⟨rfl, hle, hgap⟩) ?_ ?_ hstart
        · rw [hsamples, List.length_append, List.length_singleton]
        · rw [List.head?_append, hfirst]
          rfl
  · rename_i hnotFinite
    refine recovering_reset fun hx => ?_
    obtain ⟨-, t, ht, -⟩ := hx
    exact hnotFinite t ht

end Candidate

/-! ## What one call does -/

section Calls

open OpaqueFirmwareStateMarkerPolicy

variable {config : MarkerPolicyConfig} {p : OpaqueFirmwareStateMarkerPolicy} {marker : UInt32}
  {sec : ExtRat}

/-- What an observation leaves of a policy before it decides. -/
def OpaqueFirmwareStateMarkerPolicy.witness (config : MarkerPolicyConfig) (marker : UInt32)
    (p : OpaqueFirmwareStateMarkerPolicy) : OpaqueFirmwareStateMarkerPolicy :=
  { p with
    currentMarker := marker
    hasCurrentMarker := true
    currentMarkerAllowed := canonicalStateOutputEligible true marker config.allowedStateMarkers }

/-- The outcomes of an observation. -/
inductive Observed (config : MarkerPolicyConfig) (p : OpaqueFirmwareStateMarkerPolicy)
    (marker : UInt32) (sec : ExtRat) : Bool × OpaqueFirmwareStateMarkerPolicy → Prop where
  | latched (hlatched : p.changeLatched = true) :
      Observed config p marker sec (false, p.witness config marker)
  | recovering (hclear : p.changeLatched = false) (hpending : p.passiveRecoveryPending = true) :
      Observed config p marker sec
        ((p.witness config marker).observePassiveRecovery config marker sec)
  /-- A listed marker replaces another. -/
  | transition (hclear : p.changeLatched = false) (hidle : p.passiveRecoveryPending = false)
      (htransitions : config.allowAllowlistedTransitions = true)
      (hallowed : (p.witness config marker).currentMarkerAllowed = true) :
      Observed config p marker sec
        (true, { p.witness config marker with boundMarker := marker })
  | paused (hclear : p.changeLatched = false) (hidle : p.passiveRecoveryPending = false)
      (hpassive : config.allowPassiveRecovery = true) :
      Observed config p marker sec (false, (p.witness config marker).beginPassiveRecovery)
  | changed (hclear : p.changeLatched = false) (hidle : p.passiveRecoveryPending = false)
      (hpassive : config.allowPassiveRecovery = false) (hbound : p.hasBoundMarker = true)
      (hmarker : marker ≠ p.boundMarker) :
      Observed config p marker sec
        (false, { p.witness config marker with changeLatched := true })
  | refused (hclear : p.changeLatched = false) (hidle : p.passiveRecoveryPending = false)
      (hallowed : (p.witness config marker).currentMarkerAllowed = false) :
      Observed config p marker sec (false, p.witness config marker)
  | bound (hclear : p.changeLatched = false) (hidle : p.passiveRecoveryPending = false)
      (hallowed : (p.witness config marker).currentMarkerAllowed = true)
      (hunbound : p.hasBoundMarker = false) :
      Observed config p marker sec
        (true, { p.witness config marker with boundMarker := marker, hasBoundMarker := true })
  | same (hclear : p.changeLatched = false) (hidle : p.passiveRecoveryPending = false)
      (hallowed : (p.witness config marker).currentMarkerAllowed = true)
      (hbound : p.hasBoundMarker = true) (hmarker : p.boundMarker = marker) :
      Observed config p marker sec (true, p.witness config marker)

variable (config p marker sec) in
lemma observed_observe : Observed config p marker sec (p.observe config marker sec) := by
  have hwitness : { p with
      currentMarker := marker
      hasCurrentMarker := true
      currentMarkerAllowed :=
        canonicalStateOutputEligible true marker config.allowedStateMarkers } =
      p.witness config marker := rfl
  unfold observe
  simp only [hwitness]
  split
  · rename_i hlatched
    exact .latched hlatched
  rename_i hclear
  rw [Bool.not_eq_true] at hclear
  split
  · rename_i hpending
    exact .recovering hclear hpending
  rename_i hidle
  rw [Bool.not_eq_true] at hidle
  split
  · rename_i hchange
    split
    · split
      · rename_i hpassive
        exact .paused hclear hidle hpassive
      · rename_i hpassive
        exact .changed hclear hidle (Bool.not_eq_true _ ▸ hpassive) hchange.1 hchange.2
    · rename_i hlisted
      rw [Bool.not_eq_true, Bool.not_eq_false'] at hlisted
      simp only [Bool.and_eq_true] at hlisted
      exact .transition hclear hidle hlisted.1.1.2 hlisted.1.1.1
  rename_i hsame
  split
  · rename_i hallowed
    rw [Bool.not_eq_true'] at hallowed
    split
    · rename_i hpassive
      exact .paused hclear hidle hpassive
    · exact .refused hclear hidle hallowed
  rename_i hallowed
  rw [Bool.not_eq_true', Bool.not_eq_false] at hallowed
  split
  · rename_i hunbound
    rw [Bool.not_eq_true'] at hunbound
    exact .bound hclear hidle hallowed hunbound
  · rename_i hbound
    rw [Bool.not_eq_true', Bool.not_eq_false] at hbound
    refine .same hclear hidle hallowed hbound ?_
    by_contra hne
    exact hsame ⟨hbound, fun h => hne h.symm⟩

/-- An observation that finds a change latched is refused, and keeps the latch. -/
lemma Observed.keeps_latch {o : Bool × OpaqueFirmwareStateMarkerPolicy}
    (h : Observed config p marker sec o) (hlatched : p.changeLatched = true) :
    o.1 = false ∧ o.2.changeLatched = true := by
  cases h with
  | latched => exact ⟨rfl, hlatched⟩
  | recovering hclear => cases hclear.symm.trans hlatched
  | transition hclear => cases hclear.symm.trans hlatched
  | paused hclear => cases hclear.symm.trans hlatched
  | changed hclear => cases hclear.symm.trans hlatched
  | refused hclear => cases hclear.symm.trans hlatched
  | bound hclear => cases hclear.symm.trans hlatched
  | same hclear => cases hclear.symm.trans hlatched

/-- The policy is bound to a marker. -/
def BoundTo (marker : UInt32) (p : OpaqueFirmwareStateMarkerPolicy) : Prop :=
  p.hasBoundMarker = true ∧ p.boundMarker = marker

/-- A recovery binds its marker when it completes, and nothing before. -/
lemma boundTo_observePassiveRecovery (bound : UInt32) :
    ((p.observePassiveRecovery config marker sec).1 = true →
      BoundTo marker (p.observePassiveRecovery config marker sec).2) ∧
    ((p.observePassiveRecovery config marker sec).1 = false → BoundTo bound p →
      BoundTo bound (p.observePassiveRecovery config marker sec).2) := by
  unfold observePassiveRecovery
  split
  · split
    · exact ⟨fun h => Bool.noConfusion h, fun _ hp => hp⟩
    split
    · exact ⟨fun h => Bool.noConfusion h, fun _ hp => hp⟩
    unfold extendPassiveRecoveryCandidate
    simp only
    split
    · exact ⟨fun h => Bool.noConfusion h, fun _ hp => hp⟩
    · exact ⟨fun _ => ⟨rfl, rfl⟩, fun h => Bool.noConfusion h⟩
  · exact ⟨fun h => Bool.noConfusion h, fun _ hp => hp⟩

/-- With transitions disabled, a marker that is accepted is bound. -/
lemma Observed.boundTo {o : Bool × OpaqueFirmwareStateMarkerPolicy}
    (h : Observed config p marker sec o) (htransitions : config.allowAllowlistedTransitions = false)
    (ho : o.1 = true) : BoundTo marker o.2 := by
  cases h with
  | latched => cases ho
  | recovering => exact (boundTo_observePassiveRecovery 0).1 ho
  | transition _ _ h => cases htransitions.symm.trans h
  | paused => cases ho
  | changed => cases ho
  | refused => cases ho
  | bound => exact ⟨rfl, rfl⟩
  | same _ _ _ hbound hmarker => exact ⟨hbound, hmarker⟩

/-- With transitions disabled, a bound marker stays bound until a recovery completes, and no
other is accepted. -/
lemma Observed.keeps_bound {bound : UInt32} {o : Bool × OpaqueFirmwareStateMarkerPolicy}
    (h : Observed config p marker sec o) (htransitions : config.allowAllowlistedTransitions = false)
    (hp : BoundTo bound p) (hno : ¬ (p.passiveRecoveryPending = true ∧ o.1 = true)) :
    BoundTo bound o.2 ∧ (o.1 = true → marker = bound) := by
  cases h with
  | latched => exact ⟨hp, fun h => Bool.noConfusion h⟩
  | recovering _ hpending =>
    have ho := Bool.eq_false_of_not_eq_true fun h => hno ⟨hpending, h⟩
    exact ⟨(boundTo_observePassiveRecovery bound).2 ho hp,
      fun h => absurd (ho.symm.trans h) Bool.false_ne_true⟩
  | transition _ _ h => cases htransitions.symm.trans h
  | paused => exact ⟨hp, fun h => Bool.noConfusion h⟩
  | changed => exact ⟨hp, fun h => Bool.noConfusion h⟩
  | refused => exact ⟨hp, fun h => Bool.noConfusion h⟩
  | bound _ _ _ hunbound => cases hunbound.symm.trans hp.1
  | same _ _ _ _ hmarker => exact ⟨hp, fun _ => hmarker.symm.trans hp.2⟩

/-- An observation after which a recovery is pending that was not begins it without a
candidate. -/
lemma Observed.begins {o : Bool × OpaqueFirmwareStateMarkerPolicy}
    (h : Observed config p marker sec o) (hidle : p.passiveRecoveryPending = false)
    (hpending : o.2.passiveRecoveryPending = true) :
    o.2.changeLatched = false ∧ Candidate config o.2 [] := by
  cases h with
  | recovering _ h => cases hidle.symm.trans h
  | paused hclear => exact ⟨hclear, .none rfl noTrailingRun_nil⟩
  | latched => cases hidle.symm.trans hpending
  | transition => cases hidle.symm.trans hpending
  | changed => cases hidle.symm.trans hpending
  | refused => cases hidle.symm.trans hpending
  | bound => cases hidle.symm.trans hpending
  | same => cases hidle.symm.trans hpending

/-- Without passive recovery no recovery becomes pending. -/
lemma Observed.stays_idle {o : Bool × OpaqueFirmwareStateMarkerPolicy}
    (h : Observed config p marker sec o) (hpassive : config.allowPassiveRecovery = false)
    (hidle : p.passiveRecoveryPending = false) : o.2.passiveRecoveryPending = false := by
  cases h with
  | recovering _ hpending => cases hidle.symm.trans hpending
  | paused _ _ h => cases hpassive.symm.trans h
  | latched => exact hidle
  | transition => exact hidle
  | changed => exact hidle
  | refused => exact hidle
  | bound => exact hidle
  | same => exact hidle

/-- What a call before a decision notes does not matter for a candidate. -/
lemma Candidate.witness {os : List Observation} (h : Candidate config p os) :
    Candidate config (p.witness config marker) os := by
  cases h with
  | none hnone hrun => exact .none hnone hrun
  | some hsome hrun hsamples hfirst hstart => exact .some hsome hrun hsamples hfirst hstart

/-- **One call while a recovery is pending.** -/
lemma Observed.recovers {os : List Observation} {o : Bool × OpaqueFirmwareStateMarkerPolicy}
    (h : Observed config p marker sec o) (hpending : p.passiveRecoveryPending = true)
    (hclear : p.changeLatched = false) (hcandidate : Candidate config p os) :
    Recovering config p (os ++ [(marker, sec)]) o := by
  cases h with
  | recovering =>
    have hwitness : Candidate config (p.witness config marker) os := hcandidate.witness
    obtain ⟨hcompletes, hpending', hcandidate', hlatched⟩ :=
      recovering_observePassiveRecovery hwitness (marker, sec)
    exact ⟨hcompletes, hpending', hcandidate', hlatched⟩
  | latched hlatched => cases hclear.symm.trans hlatched
  | transition _ hidle => cases hidle.symm.trans hpending
  | paused _ hidle => cases hidle.symm.trans hpending
  | changed _ hidle => cases hidle.symm.trans hpending
  | refused _ hidle => cases hidle.symm.trans hpending
  | bound _ hidle => cases hidle.symm.trans hpending
  | same _ hidle => cases hidle.symm.trans hpending

/-- An acknowledgement changes nothing, or clears both the latch and a pending recovery. -/
lemma acknowledgeCurrent_cases (p : OpaqueFirmwareStateMarkerPolicy) :
    (p.acknowledgeCurrent.1.1 = false ∧ p.acknowledgeCurrent.2 = p) ∨
      (p.acknowledgeCurrent.1.1 = true ∧ p.canAcknowledgeCurrent.1 = true ∧
        p.acknowledgeCurrent.2.passiveRecoveryPending = false ∧
        p.acknowledgeCurrent.2.changeLatched = false) := by
  unfold acknowledgeCurrent
  split
  · rename_i h
    rw [Bool.not_eq_true'] at h
    exact .inl ⟨h, rfl⟩
  · rename_i h
    rw [Bool.not_eq_true', Bool.not_eq_false] at h
    exact .inr ⟨rfl, h, rfl, rfl⟩

end Calls

/-! ## The markers of a run -/

/-- The observation of a call, if it is one. -/
def MarkerEvent.observation? : MarkerEvent → Option Observation
  | .observe marker sec => some (marker, sec)
  | .acknowledgeCurrent => none

/-- The observations of a history. -/
def observations (tr : List MarkerStep) : List Observation :=
  tr.filterMap fun z => z.event.observation?

def Observes (z : MarkerStep) : Prop := ∃ marker sec, z.event = .observe marker sec

/-- `Observe` returned true for a marker. -/
def AcceptsMarker (z : MarkerStep) (marker : UInt32) : Prop :=
  (∃ sec, z.event = .observe marker sec) ∧ z.output = true

/-- `AcknowledgeCurrent` returned true. -/
def AcknowledgesMarker (z : MarkerStep) : Prop :=
  z.event = .acknowledgeCurrent ∧ z.output = true

def BeginsRecovery (z : MarkerStep) : Prop :=
  z.pre.passiveRecoveryPending = false ∧ z.post.passiveRecoveryPending = true

def CompletesRecovery (z : MarkerStep) : Prop :=
  Observes z ∧ z.pre.passiveRecoveryPending = true ∧ z.output = true

/-- While a recovery is pending, exactly the observations complete it that end with a stable
witness since it began. -/
def RecoveryWitnessed (config : MarkerPolicyConfig) (tr : List MarkerStep) : Prop :=
  ∀ l x m y r, tr = l ++ x :: (m ++ y :: r) → BeginsRecovery x →
    (∀ z ∈ m, Observes z ∧ z.output = false) → Observes y →
      (y.output = true ↔ ∃ w, w <:+ observations (m ++ [y]) ∧ StableWitness config w)

/-- Once a change is latched, nothing is accepted before an acknowledgement. -/
def ChangeLatches (tr : List MarkerStep) : Prop :=
  ∀ l x m y r, tr = l ++ x :: (m ++ y :: r) → x.post.changeLatched = true →
    (∀ z ∈ m, Observes z) → Observes y → y.output = false

/-- Between two acknowledgements one marker is accepted. -/
def OneMarker (tr : List MarkerStep) : Prop :=
  ∀ l x m y r marker marker', tr = l ++ x :: (m ++ y :: r) → AcceptsMarker x marker →
    AcceptsMarker y marker' → (∀ z ∈ m, ¬ AcknowledgesMarker z) → marker' = marker

/-- Between two acknowledgements one marker is accepted, until a recovery completes. -/
def OneMarkerUntilRecovery (tr : List MarkerStep) : Prop :=
  ∀ l x m y r marker marker', tr = l ++ x :: (m ++ y :: r) → AcceptsMarker x marker →
    AcceptsMarker y marker' → (∀ z ∈ m, ¬ AcknowledgesMarker z) →
    (∀ z ∈ m ++ [y], ¬ CompletesRecovery z) → marker' = marker

section Runs

variable (config : MarkerPolicyConfig) (events : List MarkerEvent)

/-- A recovery begins without a candidate. -/
lemma begins_of_stepAt {p : OpaqueFirmwareStateMarkerPolicy} {event : MarkerEvent}
    (h : BeginsRecovery ((markerPolicy config).stepAt p event)) :
    ((markerPolicy config).stepAt p event).post.changeLatched = false ∧
      Candidate config ((markerPolicy config).stepAt p event).post [] := by
  obtain ⟨hidle, hpending⟩ := h
  cases event with
  | observe marker sec => exact (observed_observe config p marker sec).begins hidle hpending
  | acknowledgeCurrent =>
    exfalso
    have hpending' : p.acknowledgeCurrent.2.passiveRecoveryPending = true := hpending
    rcases acknowledgeCurrent_cases p with ⟨-, hsame⟩ | ⟨-, -, hcleared, -⟩
    · rw [hsame] at hpending'
      cases hidle.symm.trans hpending'
    · cases hcleared.symm.trans hpending'

/-- While nothing is accepted, a pending recovery stays pending and follows the observations. -/
lemma candidate_run {p : OpaqueFirmwareStateMarkerPolicy}
    (hpending : p.passiveRecoveryPending = true) (hclear : p.changeLatched = false)
    (hcandidate : Candidate config p []) :
    (∀ z ∈ (markerPolicy config).trace p events, Observes z ∧ z.output = false) →
      ((markerPolicy config).final p events).passiveRecoveryPending = true ∧
        ((markerPolicy config).final p events).changeLatched = false ∧
        Candidate config ((markerPolicy config).final p events)
          (observations ((markerPolicy config).trace p events)) := by
  refine (markerPolicy config).history_induction (motive := fun tr q =>
    (∀ z ∈ tr, Observes z ∧ z.output = false) → q.passiveRecoveryPending = true ∧
      q.changeLatched = false ∧ Candidate config q (observations tr))
    (fun _ => ⟨hpending, hclear, hcandidate⟩) ?_ events
  intro tr q event ih hall
  obtain ⟨hq, hqclear, hqcandidate⟩ := ih fun z hz => hall z (by simp [hz])
  obtain ⟨⟨marker, sec, hevent⟩, hfalse⟩ := hall ((markerPolicy config).stepAt q event) (by simp)
  obtain rfl : event = .observe marker sec := hevent
  obtain ⟨-, hpending', hcandidate', hlatched'⟩ :=
    (observed_observe config q marker sec).recovers hq hqclear hqcandidate
  refine ⟨(hpending' hfalse).trans hq, hlatched'.trans hqclear, ?_⟩
  have hobservations : observations (tr ++ [(markerPolicy config).stepAt q (.observe marker sec)]) =
      observations tr ++ [(marker, sec)] := by
    simp [observations, MarkerEvent.observation?]
  rw [hobservations]
  exact hcandidate' hfalse

lemma recoveryWitnessed_run : RecoveryWitnessed config ((markerPolicy config).trace {} events) := by
  intro l x m y r htr hbegins hm hy
  obtain ⟨before, rest, -, -, hx, hrest⟩ := (markerPolicy config).trace_eq_append_cons htr
  obtain ⟨between, after, -, rfl, hye, -⟩ :=
    (markerPolicy config).trace_eq_append_cons hrest.symm
  have hpending : x.post.passiveRecoveryPending = true := hbegins.2
  rw [hx] at hbegins
  obtain ⟨hclear, hcandidate⟩ := begins_of_stepAt config hbegins
  rw [← hx] at hclear hcandidate
  obtain ⟨hq, hqclear, hqcandidate⟩ :=
    candidate_run config between hpending hclear hcandidate hm
  obtain ⟨marker, sec, hevent⟩ := hy
  have hrecovers := (observed_observe config _ marker sec).recovers hq hqclear hqcandidate
  have hoperations : observations ((markerPolicy config).trace x.post between ++ [y]) =
      observations ((markerPolicy config).trace x.post between) ++ [(marker, sec)] := by
    simp [observations, MarkerEvent.observation?, hevent]
  rw [hoperations, ← hrecovers.completes, hye, hevent]
  rfl

lemma changeLatches_run : ChangeLatches ((markerPolicy config).trace {} events) := by
  intro l x m y r htr hlatched hm hy
  obtain ⟨before, rest, -, -, -, hrest⟩ := (markerPolicy config).trace_eq_append_cons htr
  obtain ⟨between, after, -, rfl, hye, -⟩ :=
    (markerPolicy config).trace_eq_append_cons hrest.symm
  have hfinal : (∀ z ∈ (markerPolicy config).trace x.post between, Observes z) →
      ((markerPolicy config).final x.post between).changeLatched = true := by
    refine (markerPolicy config).history_induction (motive := fun tr q =>
      (∀ z ∈ tr, Observes z) → q.changeLatched = true) (fun _ => hlatched) ?_ between
    intro tr q event ih hall
    obtain ⟨marker, sec, hevent⟩ := hall ((markerPolicy config).stepAt q event) (by simp)
    obtain rfl : event = .observe marker sec := hevent
    exact ((observed_observe config q marker sec).keeps_latch
      (ih fun z hz => hall z (by simp [hz]))).2
  obtain ⟨marker, sec, hevent⟩ := hy
  rw [hye, hevent]
  exact ((observed_observe config _ marker sec).keeps_latch (hfinal hm)).1

/-- With transitions disabled, a bound marker stays bound until it is acknowledged or a
recovery completes. -/
lemma boundTo_run (htransitions : config.allowAllowlistedTransitions = false) {bound : UInt32}
    {p : OpaqueFirmwareStateMarkerPolicy} (hp : BoundTo bound p) :
    (∀ z ∈ (markerPolicy config).trace p events, ¬ AcknowledgesMarker z ∧ ¬ CompletesRecovery z) →
      BoundTo bound ((markerPolicy config).final p events) := by
  refine (markerPolicy config).history_induction (motive := fun tr q =>
    (∀ z ∈ tr, ¬ AcknowledgesMarker z ∧ ¬ CompletesRecovery z) → BoundTo bound q)
    (fun _ => hp) ?_ events
  intro tr q event ih hall
  have hq := ih fun z hz => hall z (by simp [hz])
  obtain ⟨hack, hcomplete⟩ := hall ((markerPolicy config).stepAt q event) (by simp)
  cases event with
  | observe marker sec =>
    refine ((observed_observe config q marker sec).keeps_bound htransitions hq ?_).1
    exact fun h => hcomplete ⟨⟨marker, sec, rfl⟩, h⟩
  | acknowledgeCurrent =>
    show BoundTo bound q.acknowledgeCurrent.2
    rcases acknowledgeCurrent_cases q with ⟨-, hsame⟩ | ⟨htrue, -⟩
    · rw [hsame]
      exact hq
    · exact absurd ⟨rfl, htrue⟩ hack

lemma oneMarkerUntilRecovery_run (htransitions : config.allowAllowlistedTransitions = false) :
    OneMarkerUntilRecovery ((markerPolicy config).trace {} events) := by
  intro l x m y r marker marker' htr hx hy hack hcomplete
  obtain ⟨before, rest, -, -, hxe, hrest⟩ := (markerPolicy config).trace_eq_append_cons htr
  obtain ⟨between, after, -, rfl, hye, -⟩ :=
    (markerPolicy config).trace_eq_append_cons hrest.symm
  have hbound : BoundTo marker x.post := by
    obtain ⟨⟨sec, hevent⟩, hout⟩ := hx
    rw [hxe, hevent] at hout ⊢
    exact (observed_observe config _ marker sec).boundTo htransitions hout
  have hfinal := boundTo_run config between htransitions hbound fun z hz =>
    ⟨hack z hz, hcomplete z (by simp [hz])⟩
  have hy' := hcomplete y (by simp)
  obtain ⟨⟨sec, hevent⟩, hout⟩ := hy
  rw [hye, hevent] at hy' hout
  refine ((observed_observe config _ marker' sec).keeps_bound htransitions hfinal ?_).2 hout
  exact fun h => hy' ⟨⟨marker', sec, rfl⟩, h⟩

lemma idle_invariant (hpassive : config.allowPassiveRecovery = false) :
    (markerPolicy config).Invariant {} fun p => p.passiveRecoveryPending = false where
  init := rfl
  step p event hidle := by
    cases event with
    | observe marker sec => exact (observed_observe config p marker sec).stays_idle hpassive hidle
    | acknowledgeCurrent =>
      show p.acknowledgeCurrent.2.passiveRecoveryPending = false
      rcases acknowledgeCurrent_cases p with ⟨-, hsame⟩ | ⟨-, -, hcleared, -⟩
      · rw [hsame]
        exact hidle
      · exact hcleared

/-- Without passive recovery no recovery completes. -/
lemma oneMarker_run (htransitions : config.allowAllowlistedTransitions = false)
    (hpassive : config.allowPassiveRecovery = false) :
    OneMarker ((markerPolicy config).trace {} events) := by
  intro l x m y r marker marker' htr hx hy hack
  refine oneMarkerUntilRecovery_run config events htransitions l x m y r marker marker' htr hx hy
    hack fun z hz hcomplete => ?_
  have hmem : z ∈ (markerPolicy config).trace {} events := by
    rw [htr]
    rcases List.mem_append.mp hz with hz | hz
    · simp [hz]
    · simp [List.mem_singleton.mp hz]
  cases ((idle_invariant config hpassive).pre hmem).symm.trans hcomplete.2.1

end Runs

/-- What the policy promises about the markers of a run. -/
structure MarkersWitnessed (config : MarkerPolicyConfig) (tr : List MarkerStep) : Prop where
  recovery : RecoveryWitnessed config tr
  latched : ChangeLatches tr
  bound : config.allowAllowlistedTransitions = false → OneMarkerUntilRecovery tr
  boundForGood : config.allowAllowlistedTransitions = false →
    config.allowPassiveRecovery = false → OneMarker tr

/-- **The markers of every run are witnessed.** -/
theorem markersWitnessed_run (config : MarkerPolicyConfig) (events : List MarkerEvent) :
    MarkersWitnessed config ((markerPolicy config).trace {} events) where
  recovery := recoveryWitnessed_run config events
  latched := changeLatches_run config events
  bound := oneMarkerUntilRecovery_run config events
  boundForGood := oneMarker_run config events

/-- A passive policy without transitions. -/
def passiveConfig : MarkerPolicyConfig where
  allowedStateMarkers := [100, 2010]
  allowPassiveRecovery := true

/-- The marker changes from 100 to 2010, and is then stable. -/
def recoveryEvents : List MarkerEvent :=
  [.observe 100 (.fin 1), .observe 2010 (.fin 1.1), .observe 2010 (.fin 1.2),
    .observe 2010 (.fin 1.4), .observe 2010 (.fin 1.6), .observe 2010 (.fin 1.7),
    .observe 2010 (.fin 1.8)]

/-- A recovery that completes accepts another marker without an acknowledgement, even though
transitions are disabled. -/
theorem not_oneMarker_recoveryEvents :
    passiveConfig.allowAllowlistedTransitions = false ∧
      ¬ OneMarker ((markerPolicy passiveConfig).trace {} recoveryEvents) := by
  refine ⟨rfl, fun h => ?_⟩
  let M := markerPolicy passiveConfig
  let first := M.stepAt {} (.observe 100 (.fin 1))
  let between : List MarkerEvent :=
    [.observe 2010 (.fin 1.1), .observe 2010 (.fin 1.2), .observe 2010 (.fin 1.4),
      .observe 2010 (.fin 1.6), .observe 2010 (.fin 1.7)]
  let last := M.stepAt (M.final first.post between) (.observe 2010 (.fin 1.8))
  have hsame : (2010 : UInt32) = 100 :=
    h [] first (M.trace first.post between) last [] 100 2010 rfl ⟨⟨_, rfl⟩, by decide +kernel⟩
      ⟨⟨_, rfl⟩, by decide +kernel⟩ (fun z hz hack => by
        have hobserve : ∀ e ∈ between, e ≠ .acknowledgeCurrent := by decide +kernel
        have hmem : z.event ∈ (M.trace first.post between).map Machine.Step.event :=
          List.mem_map_of_mem hz
        rw [M.map_event_trace] at hmem
        exact hobserve _ hmem hack.1)
  exact absurd hsame (by decide)

end UnitreeGo2.Chassis
