import UnitreeGo2.Chassis.MarkerAgreement

/-!
# The stamps of the canonical odometry

Each of the three input streams has a tracker of its own, which keeps the stamps that it lets
through in order.  The stamps of the one published topic are in order when one stream alone
feeds it; a switch between the primary and the fallback states may go back.
-/

namespace UnitreeGo2.Chassis

/-! ## Published stamps -/

/-- The time of a stamp in nanoseconds. -/
def Stamp.timeNs (s : Stamp) : ℤ := s.sec * 1000000000 + s.nanosec

def Effect.publishedStamp? : Effect → Option Stamp
  | .odometry stamp => some stamp
  | _ => none

/-- The times of the header stamps that a run publishes, in their order. -/
def publishedTimes (tr : List AdapterStep) : List ℤ :=
  tr.flatMap fun x => (x.output.filterMap Effect.publishedStamp?).map Stamp.timeNs

/-- The input streams of the node. -/
inductive OdometryStream where
  | primary
  | fallback
  | external
  deriving DecidableEq, Repr

def AdapterEvent.stream? : AdapterEvent → Option OdometryStream
  | .sportModeState true _ _ _ _ => some .primary
  | .sportModeState false _ _ _ _ => some .fallback
  | .externalOdometry _ _ _ _ => some .external
  | _ => none

/-- The steps of a stream. -/
def ofStream (stream : OdometryStream) (tr : List AdapterStep) : List AdapterStep :=
  tr.filter fun x => x.event.stream? = some stream

/-- One stream alone feeds the canonical odometry. -/
def AdapterConfig.SingleStream (config : AdapterConfig) : Prop :=
  config.external = true ∨ config.hasFallback = false

/-- The published stamps of a run are in order, stream by stream, and as a whole when there is
one stream. -/
structure OdometryStampsOrdered (config : AdapterConfig) (tr : List AdapterStep) : Prop where
  streams : ∀ stream, (publishedTimes (ofStream stream tr)).Pairwise (· ≤ ·)
  merged : config.SingleStream → (publishedTimes tr).Pairwise (· ≤ ·)
  /-- A motion profile has one stream. -/
  motion : config.admitted = true → config.allowMotion = true →
    (publishedTimes tr).Pairwise (· ≤ ·)

/-! ## The trackers -/

def AdapterNode.tracker (stream : OdometryStream) (n : AdapterNode) : SourceStampTracker :=
  match stream with
  | .primary => n.primaryStampTracker
  | .fallback => n.fallbackStampTracker
  | .external => n.externalOdomStampTracker

/-- A tracker accepts a stamp that is not behind it, and remembers it. -/
lemma accept_eq_true {sourceNs : ℕ} {strict : Bool} {t t' : SourceStampTracker}
    (h : t.accept sourceNs strict = (true, t')) :
    t.lastSourceStampNs ≤ sourceNs ∧ t' = ⟨sourceNs⟩ := by
  unfold SourceStampTracker.accept at h
  split at h
  · cases h
  split at h
  · split at h
    · cases h
    · rename_i hbehind
      refine ⟨?_, (Prod.ext_iff.mp h).2.symm⟩
      rw [not_and_or, not_not, not_le] at hbehind
      rcases hbehind with hzero | hlt
      · exact hzero ▸ Nat.zero_le _
      · exact hlt.le
  · split at h
    · cases h
    · rename_i hbehind
      refine ⟨?_, (Prod.ext_iff.mp h).2.symm⟩
      rw [not_and_or, not_not, not_lt] at hbehind
      rcases hbehind with hzero | hle
      · exact hzero ▸ Nat.zero_le _
      · exact hle

/-- What a part of a callback for a stream does to the trackers and to the published stamps. -/
structure StampCall (config : AdapterConfig) (stream? : Option OdometryStream)
    (n n' : AdapterNode) : Prop where
  mono : ∀ stream,
    (n.tracker stream).lastSourceStampNs ≤ (n'.tracker stream).lastSourceStampNs
  /-- A new message carries the stamp that the tracker of its stream now remembers. -/
  published : ∀ stamp, .odometry stamp ∈ n'.effects → .odometry stamp ∈ n.effects ∨
    stamp.encodingValid = true ∧ ∃ stream, stream? = some stream ∧
      (n'.tracker stream).lastSourceStampNs = stamp.sourceNs ∧
      (stream = .external ↔ config.external = true)

section Calls

variable {config : AdapterConfig} {stream? : Option OdometryStream} {n n' m : AdapterNode}

lemma tracker_eq (h : n'.acceptedInputs = n.acceptedInputs) (stream : OdometryStream) :
    n'.tracker stream = n.tracker stream := by
  cases stream with
  | primary => exact congrArg AcceptedInputs.primaryStampTracker h
  | fallback => exact congrArg AcceptedInputs.fallbackStampTracker h
  | external => exact congrArg AcceptedInputs.externalOdomStampTracker h

/-- A call that publishes nothing and keeps the trackers. -/
lemma StampCall.of_eq (haccepted : n'.acceptedInputs = n.acceptedInputs)
    (heffects : ∀ stamp, .odometry stamp ∈ n'.effects → .odometry stamp ∈ n.effects) :
    StampCall config stream? n n' where
  mono stream := by rw [tracker_eq haccepted]
  published stamp he := Or.inl (heffects stamp he)

lemma Contained.stampCall (h : Contained config n n') : StampCall config stream? n n' :=
  .of_eq h.accepted fun _ he => h.drives _ he rfl

/-- A message is published under the stamp that its tracker has just accepted. -/
lemma Published.stampCall {stream : OdometryStream} {stamp : Stamp} {nowSec : ℚ}
    (h : Published config stamp nowSec m n') (hvalid : stamp.encodingValid = true)
    (hstream : stream = .external ↔ config.external = true)
    (htracker : (m.tracker stream).lastSourceStampNs = stamp.sourceNs)
    (hmono : ∀ stream,
      (n.tracker stream).lastSourceStampNs ≤ (m.tracker stream).lastSourceStampNs)
    (heffects : m.effects = n.effects) : StampCall config (some stream) n n' := by
  cases h with
  | withheld h =>
    refine ⟨fun stream => by rw [tracker_eq h.accepted]; exact hmono stream, fun stamp' he => ?_⟩
    exact Or.inl (heffects ▸ h.drives _ he rfl)
  | published k hk _ _ h =>
    have haccepted : n'.acceptedInputs = m.acceptedInputs := h.accepted.trans hk.accepted
    refine ⟨fun stream => by rw [tracker_eq haccepted]; exact hmono stream, fun stamp' he => ?_⟩
    rcases List.mem_append.mp (h.drives _ he rfl) with he | he
    · exact Or.inl (heffects ▸ hk.drives _ he rfl)
    · obtain rfl : stamp' = stamp := by simpa using he
      exact Or.inr ⟨hvalid, stream, rfl, by rw [tracker_eq haccepted]; exact htracker, hstream⟩

/-- The stream of a robot state. -/
def stateStream (isPrimary : Bool) : OdometryStream := if isPrimary then .primary else .fallback

/-- An accepted state moves the tracker of its stream alone. -/
lemma acceptedState_tracker (isPrimary : Bool) (tracker : SourceStampTracker)
    (message : SportModeState) (receiptSec : ℚ) (valid : Bool) :
    let accepted := n.acceptedState config isPrimary tracker message receiptSec valid
    accepted.tracker (stateStream isPrimary) = tracker ∧
      (∀ stream, stream ≠ stateStream isPrimary → accepted.tracker stream = n.tracker stream) ∧
      accepted.effects = n.effects := by
  have hset : (n.setStampTracker isPrimary tracker).tracker (stateStream isPrimary) = tracker ∧
      (∀ stream, stream ≠ stateStream isPrimary →
        (n.setStampTracker isPrimary tracker).tracker stream = n.tracker stream) ∧
      (n.setStampTracker isPrimary tracker).effects = n.effects := by
    cases isPrimary with
    | true => exact ⟨rfl, fun stream h => by cases stream <;> first | rfl | exact absurd rfl h, rfl⟩
    | false =>
      exact ⟨rfl, fun stream h => by cases stream <;> first | rfl | exact absurd rfl h, rfl⟩
  have hupdate : ∀ k : AdapterNode, (∀ stream,
      (k.updateState config valid message receiptSec).tracker stream = k.tracker stream) ∧
      (k.updateState config valid message receiptSec).effects = k.effects := by
    intro k
    unfold AdapterNode.updateState
    dsimp only
    split
    · exact ⟨fun stream => by cases stream <;> rfl, rfl⟩
    · exact ⟨fun stream => by cases stream <;> rfl, rfl⟩
  have hrecord : ∀ (k : AdapterNode) (stream : OdometryStream),
      (k.recordSportModeState config isPrimary message receiptSec).tracker stream =
        k.tracker stream := fun k stream => by cases stream <;> rfl
  obtain ⟨htrackers, heffects⟩ := hupdate
    ((n.setStampTracker isPrimary tracker).recordSportModeState config isPrimary message receiptSec)
  refine ⟨?_, fun stream h => ?_, heffects.trans hset.2.2⟩
  · exact ((htrackers _).trans (hrecord _ _)).trans hset.1
  · exact ((htrackers _).trans (hrecord _ _)).trans (hset.2.1 stream h)

lemma AdapterNode.SportStep.stampCall {isPrimary : Bool} {message : SportModeState} {sourceNs : ℕ}
    {receiptSec publishSec : ℚ}
    (h : n.SportStep config isPrimary message sourceNs receiptSec publishSec n')
    (hns : message.stamp.sourceNs = sourceNs) :
    StampCall config (some (stateStream isPrimary)) n n' := by
  have htracked : ∀ {tracker : SourceStampTracker} (valid : Bool),
      (n.stampTracker isPrimary).accept sourceNs config.allowMotion = (true, tracker) →
      ∀ stream, (n.tracker stream).lastSourceStampNs ≤
        ((n.acceptedState config isPrimary tracker message receiptSec valid).tracker
          stream).lastSourceStampNs := by
    intro tracker valid haccept stream
    obtain ⟨hle, rfl⟩ := accept_eq_true haccept
    obtain ⟨hsame, hother, -⟩ :=
      acceptedState_tracker (n := n) isPrimary ⟨sourceNs⟩ message receiptSec valid
    by_cases hs : stream = stateStream isPrimary
    · subst hs
      rw [hsame]
      cases isPrimary <;> exact hle
    · rw [hother stream hs]
  cases h with
  | refused h => exact h.stampCall
  | @accepted tracker valid haccept h =>
    obtain ⟨-, -, heffects⟩ :=
      acceptedState_tracker (n := n) isPrimary tracker message receiptSec valid
    refine ⟨fun stream => ?_, fun stamp he => Or.inl (heffects ▸ h.drives _ he rfl)⟩
    rw [tracker_eq h.accepted]
    exact htracked valid haccept stream
  | @published tracker valid haccept hsource hvalid h =>
    obtain ⟨hsame, -, heffects⟩ :=
      acceptedState_tracker (n := n) isPrimary tracker message receiptSec valid
    refine h.stampCall hvalid ⟨fun hs => ?_, fun hs => ?_⟩ ?_ (htracked valid haccept) heffects
    · cases isPrimary <;> cases hs
    · exact absurd (hsource.symm.trans hs) Bool.false_ne_true
    · rw [hsame, (accept_eq_true haccept).2, hns]

lemma AdapterNode.ExternalStep.stampCall {geo : Geometry} {message : Odometry} {sourceNs : ℕ}
    {receiptSec publishSec : ℚ}
    (h : n.ExternalStep config geo message sourceNs receiptSec publishSec n')
    (hns : message.stamp.sourceNs = sourceNs) :
    StampCall config (some .external) n n' := by
  cases h with
  | refused h => exact h.stampCall
  | accepted hext hvalid _ haccept h =>
    obtain ⟨hle, htracker⟩ := accept_eq_true haccept
    have hexternal : OdometryStream.external = .external ↔ config.external = true :=
      ⟨fun _ => hext, fun _ => rfl⟩
    refine h.stampCall hvalid hexternal ?_ (fun stream => ?_) rfl
    · rw [hns, htracker]
      rfl
    · cases stream with
      | external => exact hle.trans_eq (congrArg SourceStampTracker.lastSourceStampNs htracker).symm
      | _ => exact le_refl _

/-- The stream of a callback. -/
theorem stampCall_callback (geo : Geometry) (link : DaemonLink) (event : AdapterEvent) :
    StampCall config event.stream? n (n.callback config geo link event) := by
  cases event with
  | sportModeState isPrimary message receiptSec referenceNs publishSec =>
    have h := (AdapterNode.onSportModeState_step config geo link isPrimary message receiptSec
      referenceNs publishSec n).stampCall rfl
    cases isPrimary <;> exact h
  | externalOdometry message receiptSec referenceNs publishSec =>
    exact (AdapterNode.onExternalOdometry_step config geo link message receiptSec referenceNs
      publishSec n).stampCall rfl
  | velocityCommand command nowSec =>
    rcases AdapterNode.onVelocityCommand_cases config link command nowSec n with h | h
    · exact h.stampCall
    · rw [AdapterNode.callback, h]
      exact .of_eq rfl fun _ he => he
  | armRequest arm checkSec requestSec =>
    cases arm with
    | false =>
      obtain ⟨m, hd, hc, -⟩ := AdapterNode.onDisarm_step config link requestSec n
      have hm : (∀ stream, m.tracker stream = n.tracker stream) ∧ m.effects = n.effects := by
        cases hd <;> exact ⟨fun stream => by cases stream <;> rfl, rfl⟩
      refine ⟨fun stream => ?_, fun stamp he => Or.inl (hm.2 ▸ hc.drives _ he rfl)⟩
      exact ((congrArg _ (tracker_eq hc.accepted stream)).trans (congrArg _ (hm.1 stream))).ge
    | true =>
      have h := (AdapterNode.onArm_cases config checkSec requestSec n).1
      exact .of_eq h.accepted fun _ he => h.drives _ he rfl
  | controlTimer nowSec =>
    have hc := AdapterNode.checkExternalOdometryInterlock_contained config link nowSec n
    rcases AdapterNode.onControlTimer_cases config link nowSec n with h | ⟨m, hm, -, h⟩
    · exact (hc.trans h).stampCall
    · refine .of_eq (h.accepted.trans (hc.trans hm).accepted) fun stamp he => ?_
      rcases h.effects _ he with he | ⟨op, velocity, heq, -⟩
      · exact (hc.trans hm).drives _ he rfl
      · cases heq
  | diagnosticsTimer nowSec =>
    exact (AdapterNode.checkExternalOdometryInterlock_contained config link nowSec n).stampCall

end Calls

/-! ## Runs -/

section Runs

variable (config : AdapterConfig) (geo : Geometry) (link : DaemonLink)

lemma timeNs_eq {s : Stamp} (h : s.encodingValid = true) : s.timeNs = s.sourceNs := by
  have hsec : 0 ≤ s.sec := by
    rw [Stamp.encodingValid, Bool.and_eq_true, decide_eq_true_eq] at h
    exact h.1
  rw [Stamp.timeNs, Stamp.sourceNs]
  push_cast
  rw [Int.toNat_of_nonneg hsec]

/-- What a step publishes, its tracker has accepted last. -/
lemma published_stepAt (n : AdapterNode) (event : AdapterEvent) :
    let x := (adapter config geo link).stepAt n event
    (∀ stream,
      (n.tracker stream).lastSourceStampNs ≤ (x.post.tracker stream).lastSourceStampNs) ∧
    ∀ stamp, .odometry stamp ∈ x.output → ∃ stream, event.stream? = some stream ∧
      stamp.timeNs = ((x.post.tracker stream).lastSourceStampNs : ℤ) ∧
      (stream = .external ↔ config.external = true) ∧
      config.subscribes event = true := by
  cases hs : config.subscribes event with
  | false =>
    simp only [Machine.stepAt, adapter, hs, Bool.false_eq_true, if_false]
    exact ⟨fun stream => by cases stream <;> exact le_refl _, fun stamp he =>
      absurd he List.not_mem_nil⟩
  | true =>
    have hcall : StampCall config event.stream? { n with effects := [] }
        (({ n with effects := [] } : AdapterNode).callback config geo link event) :=
      stampCall_callback geo link event
    simp only [Machine.stepAt, adapter, hs, if_true]
    refine ⟨fun stream => ?_, fun stamp he => ?_⟩
    · refine (hcall.mono stream).trans' ?_
      cases stream <;> exact le_refl _
    · obtain ⟨hvalid, stream, hstream, htracker, hext⟩ :=
        (hcall.published stamp he).resolve_left List.not_mem_nil
      exact ⟨stream, hstream, by rw [timeNs_eq hvalid, htracker], hext, trivial⟩

lemma mem_publishedTimes {tr : List AdapterStep} {t : ℤ} (h : t ∈ publishedTimes tr) :
    ∃ x ∈ tr, ∃ stamp, .odometry stamp ∈ x.output ∧ stamp.timeNs = t := by
  simp only [publishedTimes, List.mem_flatMap, List.mem_map, List.mem_filterMap] at h
  obtain ⟨x, hx, stamp, ⟨e, he, hstamp⟩, ht⟩ := h
  cases e with
  | odometry s =>
    obtain rfl : s = stamp := by simpa [Effect.publishedStamp?] using hstamp
    exact ⟨x, hx, s, he, ht⟩
  | _ => cases hstamp

lemma publishedTimes_append (l r : List AdapterStep) :
    publishedTimes (l ++ r) = publishedTimes l ++ publishedTimes r := List.flatMap_append

/-- The steps of a run that publish only for one stream publish in order. -/
theorem publishedTimes_pairwise (stream : OdometryStream) (p : AdapterStep → Bool)
    (events : List AdapterEvent)
    (hp : ∀ x ∈ (adapter config geo link).trace (AdapterNode.init config) events, p x = true →
      ∀ stamp, .odometry stamp ∈ x.output → x.event.stream? = some stream) :
    (publishedTimes (((adapter config geo link).trace (AdapterNode.init config) events).filter
      p)).Pairwise (· ≤ ·) := by
  have h := (adapter config geo link).history_induction (s := AdapterNode.init config)
    (motive := fun tr n => (∀ x ∈ tr, p x = true → ∀ stamp, .odometry stamp ∈ x.output →
        x.event.stream? = some stream) →
      (publishedTimes (tr.filter p)).Pairwise (· ≤ ·) ∧
        ∀ t ∈ publishedTimes (tr.filter p), t ≤ ((n.tracker stream).lastSourceStampNs : ℤ))
    (fun _ => ⟨List.Pairwise.nil, fun t ht => absurd ht List.not_mem_nil⟩) ?_ events
  · exact (h hp).1
  intro tr n event ih hp
  obtain ⟨hmono, hstep⟩ := published_stepAt config geo link n event
  obtain ⟨hpairwise, hbound⟩ := ih fun x hx => hp x (by simp [hx])
  have hx := hp ((adapter config geo link).stepAt n event) (by simp)
  -- what the new step publishes is what the tracker remembers after it
  have hnew : ∀ t ∈ publishedTimes ([(adapter config geo link).stepAt n event].filter p),
      t = ((((adapter config geo link).stepAt n event).post.tracker stream).lastSourceStampNs :
        ℤ) := by
    intro t ht
    obtain ⟨y, hy, stamp, hstamp, rfl⟩ := mem_publishedTimes ht
    obtain ⟨hy, hpy⟩ := List.mem_filter.mp hy
    obtain rfl := List.mem_singleton.mp hy
    obtain ⟨stream', hstream', htime, -⟩ := hstep stamp hstamp
    obtain rfl : stream' = stream :=
      Option.some.inj (hstream'.symm.trans (hx hpy stamp hstamp))
    exact htime
  have hle : ∀ t ∈ publishedTimes (tr.filter p), t ≤
      ((((adapter config geo link).stepAt n event).post.tracker stream).lastSourceStampNs : ℤ) :=
    fun t ht => (hbound t ht).trans (Int.ofNat_le.mpr (hmono stream))
  rw [List.filter_append, publishedTimes_append]
  refine ⟨List.pairwise_append.mpr ⟨hpairwise, ?_, fun a ha b hb => ?_⟩, fun t ht => ?_⟩
  · refine List.pairwise_of_forall_mem_list fun a ha b hb => ?_
    rw [hnew a ha, hnew b hb]
  · rw [hnew b hb]
    exact hle a ha
  · rcases List.mem_append.mp ht with ht | ht
    · exact hle t ht
    · exact (hnew t ht).le

/-- Every motion profile has one stream. -/
lemma singleStream_of_allowMotion {config : AdapterConfig} (h : config.admitted = true)
    (hm : config.allowMotion = true) : config.SingleStream := by
  refine Or.inr ?_
  simp only [AdapterConfig.admitted, Bool.and_eq_true, hm, Bool.not_true, Bool.false_or,
    Bool.not_eq_true'] at h
  tauto

/-- **The published stamps are in order stream by stream, and as a whole when there is one
stream.** -/
theorem odometryStampsOrdered_run (events : List AdapterEvent) :
    OdometryStampsOrdered config
      ((adapter config geo link).trace (AdapterNode.init config) events) := by
  suffices hmerged : config.SingleStream → (publishedTimes ((adapter config geo link).trace
      (AdapterNode.init config) events)).Pairwise (· ≤ ·) from
    ⟨fun stream => publishedTimes_pairwise config geo link stream _ events
      fun x _ hx _ _ => of_decide_eq_true hx, hmerged,
      fun h hm => hmerged (singleStream_of_allowMotion h hm)⟩
  intro hsingle
  -- the one stream that publishes
  let stream : OdometryStream := if config.external then .external else .primary
  have h := publishedTimes_pairwise config geo link stream (fun _ => true) events ?_
  · rwa [List.filter_true] at h
  intro x hx _ stamp he
  obtain ⟨es₁, -, -, hxe⟩ := (adapter config geo link).mem_trace_stepAt hx
  rw [hxe] at he
  obtain ⟨stream', hstream', -, hext, hsubscribes⟩ :=
    (published_stepAt config geo link _ x.event).2 stamp he
  rw [hstream']
  cases stream' with
  | external => simp [stream, hext.mp rfl]
  | primary =>
    cases hexternal : config.external with
    | true => exact absurd (hext.mpr hexternal) (by decide)
    | false => simp [stream, hexternal]
  | fallback =>
    rcases hsingle with hexternal | hno
    · exact absurd (hext.mpr hexternal) (by decide)
    · -- a fallback state arrives only where a fallback is subscribed
      cases hevent : x.event with
      | sportModeState isPrimary message receiptSec referenceNs publishSec =>
        rw [hevent] at hstream' hsubscribes
        cases isPrimary with
        | true => cases hstream'
        | false => exact absurd (hno.symm.trans hsubscribes) Bool.false_ne_true
      | _ => rw [hevent] at hstream'; cases hstream'

end Runs

/-! ### A switch back to the primary states -/

/-- A fallback state is ahead of the clock, and then the primary states begin. -/
def primaryReturns : List AdapterEvent :=
  [.sportModeState false (restingState ⟨1, 40000000⟩ 0) 1 1000000000 1,
    .sportModeState true (restingState ⟨1, 0⟩ 0) 1.02 1020000000 1.02]

theorem not_publishedTimes_primaryReturns :
    ¬ ∀ (config : AdapterConfig) (geo : Geometry) (link : DaemonLink)
        (events : List AdapterEvent), config.admitted = true →
      (publishedTimes ((adapter config geo link).trace (AdapterNode.init config)
        events)).Pairwise (· ≤ ·) := by
  intro h
  have hordered := h {} axisGeometry promptDaemon primaryReturns (by decide +kernel)
  have hpublished : publishedTimes ((adapter {} axisGeometry promptDaemon).trace
      (AdapterNode.init {}) primaryReturns) = [1040000000, 1000000000] := by decide +kernel
  rw [hpublished] at hordered
  exact absurd hordered (by decide)

end UnitreeGo2.Chassis
