import UnitreeGo2.MotionStateRelay.Transitions

/-!
# The evidence behind the motion-state relay

The polls, the heartbeats and the samples of a history stand behind what a relay without a
fault has frozen, counted and remembered.
-/

namespace UnitreeGo2.MotionStateRelay

variable {α : Type}

/-! ## What a history shows -/

/-- The reads of the heartbeat pipe that an event makes. -/
def RelayEvent.reads : RelayEvent α → List ReadResult
  | .poll reads _ _ => reads
  | .message reads _ _ _ _ _ => reads

/-- The bytes that have arrived over the heartbeat pipe. -/
def receivedBytes (tr : List (RelayStep α)) : List UInt8 :=
  tr.flatMap fun x => received x.event.reads

/-- A poll finds exactly one publisher, with the expected identity and quality of service. -/
def NamesPublisher (gid : PublisherGid) (nowNs : ℤ) (x : RelayStep α) : Prop :=
  x.post.faulted = false ∧ ∃ reads e, x.event = .poll reads nowNs (some [e]) ∧
    e.identityExact = true ∧ e.qosExact = true ∧ e.gid = gid

/-- A poll verifies the graph, and the relay remembers when. -/
def VerifiesGraph (gid : PublisherGid) (nowNs : ℤ) (x : RelayStep α) : Prop :=
  NamesPublisher gid nowNs x ∧ x.post.lastGraphVerifiedSteadyNs = some nowNs

/-- A sample arrives under an identity of the expected middleware. -/
def CarriesGid (config : RelayConfig) (gid : PublisherGid) (x : RelayStep α) : Prop :=
  x.post.faulted = false ∧ ∃ reads message info nowSteadyNs nowSystemNs written,
    x.event = .message reads message info nowSteadyNs nowSystemNs written ∧
      info.publisherGid = gid ∧
      info.implementationIdentifier = some config.rmwImplementationIdentifier

/-- So many steps of a history satisfy `P`. -/
def Witnessed (P : RelayStep α → Prop) (n : ℕ) (tr : List (RelayStep α)) : Prop :=
  ∃ xs : List (RelayStep α), xs.Sublist tr ∧ xs.length = n ∧ ∀ x ∈ xs, P x

/-- The age of a stamp is inside the freshness window. -/
def InFreshnessWindow (nowSystemNs stampNs : ℤ) : Prop :=
  stampNs - kMaximumCorrectedFutureNs ≤ nowSystemNs ∧
    nowSystemNs ≤ stampNs + kMaximumCorrectedAgeNs

/-- The stamp of the sample that a step accepts. -/
def acceptedStamp? (x : RelayStep α) : Option ℤ :=
  match x.event with
  | .message _ message _ _ _ _ =>
    if x.post.validSamples = x.pre.validSamples + 1 then correctedStampNs message else none
  | .poll _ _ _ => none

/-- The stamps of the accepted samples of a history, in their order. -/
def acceptedStamps (tr : List (RelayStep α)) : List ℤ := tr.filterMap acceptedStamp?

/-- A step whose sample has a valid and fresh stamp. -/
def FreshSample (x : RelayStep α) (stampNs : ℤ) : Prop :=
  ∃ reads message info nowSteadyNs nowSystemNs written,
    x.event = .message reads message info nowSteadyNs nowSystemNs written ∧
      correctedStampNs message = some stampNs ∧ InFreshnessWindow nowSystemNs stampNs

/-- A step that announces that the relay is ready. -/
def Announces (x : RelayStep α) : Prop :=
  ∃ graphGid messageGid validSamples publisherCount stableGraphPolls stableMessageSamples,
    .event (.ready graphGid messageGid validSamples publisherCount stableGraphPolls
      stableMessageSamples) ∈ x.output

/-- A step that publishes a sample of the given writer. -/
def PublishesUnder (gid : PublisherGid) (x : RelayStep α) : Prop :=
  ∃ reads message info nowSteadyNs nowSystemNs written,
    x.event = .message reads message info nowSteadyNs nowSystemNs written ∧
      info.publisherGid = gid ∧ .published message ∈ x.output

lemma inFreshnessWindow_iff {nowSystemNs stampNs : ℤ} :
    evaluateCorrectedStampFreshness nowSystemNs stampNs = .fresh ↔
      InFreshnessWindow nowSystemNs stampNs := by
  unfold evaluateCorrectedStampFreshness InFreshnessWindow kMaximumCorrectedFutureNs
    kMaximumCorrectedAgeNs
  split
  · simp only [reduceCtorEq, false_iff, not_and]
    omega
  split
  · simp only [reduceCtorEq, false_iff, not_and]
    omega
  · simp only [true_iff]
    omega

/-! ## Evidence -/

section Evidence

variable {P : RelayStep α → Prop} {n : ℕ} {tr : List (RelayStep α)} {x : RelayStep α}

lemma witnessed_zero (P : RelayStep α → Prop) (tr : List (RelayStep α)) : Witnessed P 0 tr :=
  ⟨[], List.nil_sublist _, rfl, by simp⟩

lemma Witnessed.append (h : Witnessed P n tr) (tr' : List (RelayStep α)) :
    Witnessed P n (tr ++ tr') := by
  obtain ⟨xs, hxs, hn, hP⟩ := h
  exact ⟨xs, hxs.trans (List.sublist_append_left _ _), hn, hP⟩

lemma Witnessed.concat (h : Witnessed P n tr) (hx : P x) : Witnessed P (n + 1) (tr ++ [x]) := by
  obtain ⟨xs, hxs, hn, hP⟩ := h
  refine ⟨xs ++ [x], hxs.append (List.Sublist.refl _), by simp [hn], fun y hy => ?_⟩
  rcases List.mem_append.mp hy with hy | hy
  · exact hP y hy
  · rw [List.mem_singleton.mp hy]
    exact hx

lemma Witnessed.mono {k : ℕ} (h : Witnessed P n tr) (hk : k ≤ n) : Witnessed P k tr := by
  obtain ⟨xs, hxs, rfl, hP⟩ := h
  exact ⟨xs.take k, (List.take_sublist _ _).trans hxs, by simp [hk],
    fun y hy => hP y (List.mem_of_mem_take hy)⟩

/-- What the guard holds of an identity: its candidate, its frozen value, and a count. -/
abbrev GuardPart := Option PublisherGid × Option PublisherGid × ℕ

/-- The polls behind what the guard holds of the graph. -/
structure GraphEvidence (part : GuardPart) (tr : List (RelayStep α)) : Prop where
  candidate : ∀ gid, part.1 = some gid →
    Witnessed (fun y => ∃ nowNs, NamesPublisher gid nowNs y) part.2.2 tr
  frozen : ∀ gid, part.2.1 = some gid →
    part.1 = some gid ∧ part.2.2 = kRequiredStableGraphPolls

/-- The samples behind what the guard holds of the messages, and the polls before them. -/
structure WriterEvidence (config : RelayConfig) (graph part : GuardPart)
    (tr : List (RelayStep α)) : Prop where
  candidate : ∀ gid, part.1 = some gid → ∃ graphGid l₁ l₂, graph.2.1 = some graphGid ∧
    tr = l₁ ++ l₂ ∧
    Witnessed (fun y => ∃ nowNs, NamesPublisher graphGid nowNs y) kRequiredStableGraphPolls l₁ ∧
    Witnessed (CarriesGid config gid) part.2.2 l₂
  frozen : ∀ gid, part.2.1 = some gid →
    part.1 = some gid ∧ kRequiredStableMessageSamples ≤ part.2.2

variable {config : RelayConfig} {graph graph' part part' : GuardPart}

lemma GraphEvidence.append (h : GraphEvidence part tr) (tr' : List (RelayStep α)) :
    GraphEvidence part (tr ++ tr') :=
  ⟨fun gid hgid => (h.candidate gid hgid).append tr', h.frozen⟩

lemma WriterEvidence.append (h : WriterEvidence config graph part tr)
    (tr' : List (RelayStep α)) : WriterEvidence config graph part (tr ++ tr') := by
  refine ⟨fun gid hgid => ?_, h.frozen⟩
  obtain ⟨graphGid, l₁, l₂, hgraph, rfl, hpolls, hsamples⟩ := h.candidate gid hgid
  exact ⟨graphGid, l₁, l₂ ++ tr', hgraph, by rw [List.append_assoc], hpolls, hsamples.append tr'⟩

/-- One more poll that finds the publisher. -/
lemma GraphEvidence.concat {g g' : PublisherGidGuard} {gid : PublisherGid}
    (h : GraphEvidence g.graphPart tr) (hverified : GraphVerified gid g g')
    (hx : ∃ nowNs, NamesPublisher gid nowNs x) : GraphEvidence g'.graphPart (tr ++ [x]) := by
  cases hverified with
  | known hfrozen hgraph =>
    rw [hgraph]
    exact h.append [x]
  | first hfrozen hgraph =>
    rw [hgraph]
    refine ⟨fun gid' hgid => ?_, fun gid' hgid => by cases hgid⟩
    cases hgid
    exact (witnessed_zero _ tr).concat hx
  | counted hfrozen hcandidate hgraph =>
    rw [hgraph]
    refine ⟨fun gid' hgid => ?_, fun gid' hgid => by cases hgid⟩
    cases hgid
    exact (h.candidate gid hcandidate).concat hx
  | frozen hcandidate hstable hgraph =>
    rw [hgraph]
    refine ⟨fun gid' hgid => ?_, fun gid' hgid => ⟨hgid, hstable⟩⟩
    cases hgid
    exact (h.candidate gid hcandidate).concat hx

/-- A poll does not change which publisher is frozen. -/
lemma GraphVerified.frozenGraphGid_eq {g g' : PublisherGidGuard} {gid graphGid : PublisherGid}
    (h : GraphVerified gid g g') (hevidence : GraphEvidence g.graphPart tr)
    (hfrozen : g.frozenGraphGid = some graphGid) : g'.frozenGraphGid = some graphGid := by
  cases h with
  | known _ hgraph => exact (congrArg (fun part : GuardPart => part.2.1) hgraph).trans hfrozen
  | first hnone _ =>
    rw [hnone] at hfrozen
    cases hfrozen
  | counted hnone _ _ =>
    rw [hnone] at hfrozen
    cases hfrozen
  | frozen _ hstable _ =>
    have hpolls : g.stableGraphPolls = kRequiredStableGraphPolls :=
      (hevidence.frozen graphGid hfrozen).2
    omega

/-- One more sample of the writer. -/
lemma WriterEvidence.concat {g g' : PublisherGidGuard} {gid graphGid : PublisherGid}
    {accepted : Bool} (h : WriterEvidence config g.graphPart g.messagePart tr)
    (hgraph : GraphEvidence g.graphPart tr) (hfrozen : g.frozenGraphGid = some graphGid)
    (hverified : MessageVerified gid g g' accepted) (hpart : g'.graphPart = g.graphPart)
    (hx : CarriesGid config gid x) :
    WriterEvidence config g'.graphPart g'.messagePart (tr ++ [x]) := by
  rw [hpart]
  -- the candidate gets one more sample, under the graph that is frozen already
  have hcounted : g.messageCandidateGid = some gid → ∃ graphGid l₁ l₂,
      g.graphPart.2.1 = some graphGid ∧ tr ++ [x] = l₁ ++ l₂ ∧
      Witnessed (fun y => ∃ nowNs, NamesPublisher graphGid nowNs y) kRequiredStableGraphPolls l₁ ∧
      Witnessed (CarriesGid config gid) (g.stableMessageSamples + 1) l₂ := by
    intro hcandidate
    obtain ⟨graphGid, l₁, l₂, hbound, rfl, hpolls, hsamples⟩ := h.candidate gid hcandidate
    exact ⟨graphGid, l₁, l₂ ++ [x], hbound, by rw [List.append_assoc], hpolls,
      hsamples.concat hx⟩
  cases hverified with
  | known _ hmessage =>
    rw [hmessage]
    exact h.append [x]
  | first _ hmessage =>
    rw [hmessage]
    refine ⟨fun gid' hgid => ?_, fun gid' hgid => by cases hgid⟩
    cases hgid
    obtain ⟨hcandidate, hpolls⟩ := hgraph.frozen graphGid hfrozen
    have hwitnessed := hgraph.candidate graphGid hcandidate
    rw [hpolls] at hwitnessed
    exact ⟨graphGid, tr, [x], hfrozen, rfl, hwitnessed, (witnessed_zero _ []).concat hx⟩
  | counted _ hcandidate hmessage =>
    rw [hmessage]
    refine ⟨fun gid' hgid => ?_, fun gid' hgid => by cases hgid⟩
    cases hgid
    exact hcounted hcandidate
  | frozen hcandidate hstable hmessage =>
    rw [hmessage]
    refine ⟨fun gid' hgid => ?_, fun gid' hgid => ⟨hgid, hstable⟩⟩
    cases hgid
    exact hcounted hcandidate

end Evidence

/-! ## What a relay without a fault has recorded -/

/-- The evidence behind the identity guard. -/
structure GuardRecorded (config : RelayConfig) (tr : List (RelayStep α)) (r : Relay α) : Prop where
  sound : r.gidGuard.fault = none
  graph : GraphEvidence r.gidGuard.graphPart tr
  writer : WriterEvidence config r.gidGuard.graphPart r.gidGuard.messagePart tr
  verified : ∀ nowNs, r.lastGraphVerifiedSteadyNs = some nowNs →
    ∃ gid, r.gidGuard.frozenGraphGid = some gid ∧ ∃ y ∈ tr, VerifiesGraph gid nowNs y
  published : ∀ y ∈ tr, ∀ gid, PublishesUnder gid y → r.gidGuard.frozenMessageGid = some gid

/-- The evidence behind what the relay remembers of its samples. -/
structure SamplesRecorded (tr : List (RelayStep α)) (r : Relay α) : Prop where
  advancing : (acceptedStamps tr).Pairwise (· < ·)
  count : (acceptedStamps tr).length = r.validSamples
  last : (acceptedStamps tr).getLast? = r.lastCorrectedStampNs
  fresh : ∀ y ∈ tr, ∀ stampNs, acceptedStamp? y = some stampNs → FreshSample y stampNs
  ready : r.readyEmitted = true →
    kMinimumReadySamples ≤ r.validSamples ∧ ∃ y ∈ tr, Announces y

/-- What a relay without a fault shows of its history. -/
structure Recorded (config : RelayConfig) (tr : List (RelayStep α)) (r : Relay α) : Prop where
  heartbeat : ∃ stamps, HeartbeatRead (receivedBytes tr) stamps r
  incomplete : newline ∉ r.heartbeatBuffer
  guard : GuardRecorded config tr r
  samples : SamplesRecorded tr r
  /-- Only samples of the frozen writer are accepted. -/
  bound : r.validSamples ≠ 0 → r.gidGuard.messageBound = true
  quiet : ∀ y ∈ tr, y.post.faulted = false ∧ ∀ effect ∈ y.output, ¬ effect.IsReport

section Step

variable {config : RelayConfig} {tr : List (RelayStep α)} {x : RelayStep α} {r r' : Relay α}

lemma acceptedStamp?_of_tally (h : x.post.tally = x.pre.tally) : acceptedStamp? x = none := by
  have hcount : x.post.validSamples = x.pre.validSamples :=
    congrArg (fun t : Option ℤ × Option ℤ × ℕ × Bool => t.2.2.1) h
  unfold acceptedStamp?
  split
  · rw [if_neg (by omega)]
  · rfl

/-- A step after which the guard is the one before it, and that publishes nothing. -/
lemma GuardRecorded.same (h : GuardRecorded config tr r) (hguard : r'.gidGuard = r.gidGuard)
    (hverified : r'.lastGraphVerifiedSteadyNs = r.lastGraphVerifiedSteadyNs)
    (hsilent : ∀ m, .published m ∉ x.output) : GuardRecorded config (tr ++ [x]) r' where
  sound := by
    rw [hguard]
    exact h.sound
  graph := by
    rw [hguard]
    exact h.graph.append [x]
  writer := by
    rw [hguard]
    exact h.writer.append [x]
  verified nowNs hnow := by
    rw [hverified] at hnow
    obtain ⟨gid, hgid, y, hy, hverifies⟩ := h.verified nowNs hnow
    rw [hguard]
    exact ⟨gid, hgid, y, List.mem_append_left _ hy, hverifies⟩
  published y hy gid hpublishes := by
    rw [hguard]
    rcases List.mem_append.mp hy with hy | hy
    · exact h.published y hy gid hpublishes
    · obtain ⟨_, m, _, _, _, _, -, -, hm⟩ := hpublishes
      rw [List.mem_singleton.mp hy] at hm
      exact absurd hm (hsilent m)

/-- A poll that finds the publisher. -/
lemma GuardRecorded.polled {gid : PublisherGid} {nowNs : ℤ} (h : GuardRecorded config tr r)
    (hsound : r'.gidGuard.fault = none) (hgraph : GraphVerified gid r.gidGuard r'.gidGuard)
    (hmessage : r'.gidGuard.messagePart = r.gidGuard.messagePart)
    (hverified : r'.lastGraphVerifiedSteadyNs =
      if r'.gidGuard.graphBound then some nowNs else r.lastGraphVerifiedSteadyNs)
    (hx : NamesPublisher gid nowNs x) (hpost : x.post = r')
    (hsilent : ∀ m, .published m ∉ x.output) : GuardRecorded config (tr ++ [x]) r' where
  sound := hsound
  graph := h.graph.concat hgraph ⟨nowNs, hx⟩
  writer := by
    rw [hmessage]
    refine ⟨fun m hm => ?_, h.writer.frozen⟩
    obtain ⟨graphGid, l₁, l₂, hfrozen, hl, hpolls, hsamples⟩ :=
      (h.writer.append [x]).candidate m hm
    exact ⟨graphGid, l₁, l₂, hgraph.frozenGraphGid_eq h.graph hfrozen, hl, hpolls, hsamples⟩
  verified now hnow := by
    rw [hverified] at hnow
    split at hnow
    · rename_i hbound
      cases hnow
      obtain ⟨graphGid, hfrozen⟩ := Option.isSome_iff_exists.mp hbound
      have hsame : graphGid = gid := by
        cases hgraph with
        | known hknown hpart =>
          have := (congrArg (fun part : GuardPart => part.2.1) hpart).trans hknown
          exact Option.some.inj (hfrozen.symm.trans this)
        | first _ hpart =>
          have := congrArg (fun part : GuardPart => part.2.1) hpart
          cases hfrozen.symm.trans this
        | counted _ _ hpart =>
          have := congrArg (fun part : GuardPart => part.2.1) hpart
          cases hfrozen.symm.trans this
        | frozen _ _ hpart =>
          have := congrArg (fun part : GuardPart => part.2.1) hpart
          exact Option.some.inj (hfrozen.symm.trans this)
      subst hsame
      refine ⟨graphGid, hfrozen, x, by simp, hx, ?_⟩
      rw [hpost, hverified, if_pos hbound]
    · rename_i hbound
      obtain ⟨graphGid, hfrozen, -⟩ := h.verified now hnow
      have hsome : r'.gidGuard.graphBound = true := by
        rw [PublisherGidGuard.graphBound, hgraph.frozenGraphGid_eq h.graph hfrozen]
        rfl
      exact absurd hsome hbound
  published y hy gid' hpublishes := by
    have hfrozen : r'.gidGuard.frozenMessageGid = r.gidGuard.frozenMessageGid :=
      congrArg (fun part : GuardPart => part.2.1) hmessage
    rw [hfrozen]
    rcases List.mem_append.mp hy with hy | hy
    · exact h.published y hy gid' hpublishes
    · obtain ⟨_, m, _, _, _, _, -, -, hm⟩ := hpublishes
      rw [List.mem_singleton.mp hy] at hm
      exact absurd hm (hsilent m)

/-- A writer that is accepted is the frozen one. -/
lemma MessageVerified.frozen_of_accepted {gid : PublisherGid} {g g' : PublisherGidGuard}
    (h : MessageVerified gid g g' true) : g'.frozenMessageGid = some gid := by
  cases h with
  | known hfrozen hmessage =>
    exact (congrArg (fun part : GuardPart => part.2.1) hmessage).trans hfrozen
  | frozen _ _ hmessage => exact congrArg (fun part : GuardPart => part.2.1) hmessage

/-- A sample does not change which writer is frozen. -/
lemma MessageVerified.frozenMessageGid_eq {gid m : PublisherGid} {g g' : PublisherGidGuard}
    {accepted : Bool} (h : MessageVerified gid g g' accepted)
    (hevidence : WriterEvidence config g.graphPart g.messagePart tr)
    (hfrozen : g.frozenMessageGid = some m) : g'.frozenMessageGid = some m := by
  cases h with
  | known _ hmessage =>
    exact (congrArg (fun part : GuardPart => part.2.1) hmessage).trans hfrozen
  | first hnone _ =>
    rw [hnone] at hfrozen
    cases hfrozen
  | counted hnone _ _ =>
    rw [hnone] at hfrozen
    cases hfrozen
  | frozen hcandidate _ hmessage =>
    have hsame : g.messageCandidateGid = some m := (hevidence.frozen m hfrozen).1
    rw [hcandidate] at hsame
    cases hsame
    exact congrArg (fun part : GuardPart => part.2.1) hmessage

/-- A sample whose writer the guard verifies; only an accepted one is published. -/
lemma GuardRecorded.identified {info : MessageInfo} {nowSteadyNs : ℤ} {accepted : Bool}
    {d : Relay α} {g : PublisherGidGuard} (h : GuardRecorded config tr r)
    (hchecked : MessageChecked config info nowSteadyNs d g accepted)
    (hd : d.gidGuard = r.gidGuard) (hg : r'.gidGuard = g)
    (hverified : r'.lastGraphVerifiedSteadyNs = r.lastGraphVerifiedSteadyNs)
    (hx : CarriesGid config info.publisherGid x)
    (hpublishes : ∀ gid, PublishesUnder gid x → gid = info.publisherGid ∧ accepted = true) :
    GuardRecorded config (tr ++ [x]) r' where
  sound := by
    rw [hg]
    exact hchecked.guard
  graph := by
    rw [hg, hchecked.graph, hd]
    exact h.graph.append [x]
  writer := by
    rw [hg]
    obtain ⟨graphGid, hfrozen⟩ := Option.isSome_iff_exists.mp hchecked.bound
    rw [hd] at hfrozen
    exact h.writer.concat h.graph hfrozen (hd ▸ hchecked.writer) (hd ▸ hchecked.graph) hx
  verified nowNs hnow := by
    rw [hverified] at hnow
    obtain ⟨gid, hgid, y, hy, hverifies⟩ := h.verified nowNs hnow
    have hfrozen : r'.gidGuard.frozenGraphGid = r.gidGuard.frozenGraphGid := by
      rw [hg, ← hd]
      exact congrArg (fun part : GuardPart => part.2.1) hchecked.graph
    exact ⟨gid, hfrozen.trans hgid, y, List.mem_append_left _ hy, hverifies⟩
  published y hy gid hgid := by
    rw [hg]
    rcases List.mem_append.mp hy with hy | hy
    · have hwriter : MessageVerified info.publisherGid r.gidGuard g accepted :=
        hd ▸ hchecked.writer
      exact hwriter.frozenMessageGid_eq h.writer (h.published y hy gid hgid)
    · rw [List.mem_singleton.mp hy] at hgid
      obtain ⟨rfl, rfl⟩ := hpublishes gid hgid
      exact hchecked.writer.frozen_of_accepted

/-- A step that accepts nothing. -/
lemma SamplesRecorded.same (h : SamplesRecorded tr r) (htally : r'.tally = r.tally)
    (hx : acceptedStamp? x = none) : SamplesRecorded (tr ++ [x]) r' := by
  have hstamps : acceptedStamps (tr ++ [x]) = acceptedStamps tr := by
    rw [acceptedStamps, List.filterMap_append]
    simp [hx, acceptedStamps]
  simp only [Relay.tally, Prod.mk.injEq] at htally
  obtain ⟨-, hlast, hcount, hready⟩ := htally
  refine ⟨hstamps ▸ h.advancing, ?_, ?_, fun y hy stampNs hstamp => ?_, fun hr' => ?_⟩
  · rw [hstamps, hcount]
    exact h.count
  · rw [hstamps, hlast]
    exact h.last
  · rcases List.mem_append.mp hy with hy | hy
    · exact h.fresh y hy stampNs hstamp
    · rw [List.mem_singleton.mp hy, hx] at hstamp
      cases hstamp
  · rw [hready] at hr'
    obtain ⟨hsamples, y, hy, hannounces⟩ := h.ready hr'
    rw [hcount]
    exact ⟨hsamples, y, List.mem_append_left _ hy, hannounces⟩

/-- A step that accepts a sample, and may announce the relay. -/
lemma SamplesRecorded.accepted {stampNs : ℤ} (h : SamplesRecorded tr r)
    (hx : acceptedStamp? x = some stampNs) (hfresh : FreshSample x stampNs)
    (hadvances : ∀ last, r.lastCorrectedStampNs = some last → last < stampNs)
    (hcount : r'.validSamples = r.validSamples + 1)
    (hlast : r'.lastCorrectedStampNs = some stampNs)
    (hready : r'.readyEmitted = true →
      r.readyEmitted = true ∨ kMinimumReadySamples ≤ r.validSamples + 1 ∧ Announces x) :
    SamplesRecorded (tr ++ [x]) r' := by
  have hstamps : acceptedStamps (tr ++ [x]) = acceptedStamps tr ++ [stampNs] := by
    rw [acceptedStamps, List.filterMap_append]
    simp [hx, acceptedStamps]
  refine ⟨?_, ?_, ?_, fun y hy stamp hstamp => ?_, fun hr' => ?_⟩
  · rw [hstamps]
    exact pairwise_concat_of_last h.advancing fun last hl => hadvances last (h.last ▸ hl)
  · rw [hstamps, hcount, List.length_append, h.count]
    rfl
  · rw [hstamps, hlast]
    simp
  · rcases List.mem_append.mp hy with hy | hy
    · exact h.fresh y hy stamp hstamp
    · rw [List.mem_singleton.mp hy] at hstamp ⊢
      rw [hx] at hstamp
      cases hstamp
      exact hfresh
  · rw [hcount]
    rcases hready hr' with hr | ⟨hsamples, hannounces⟩
    · obtain ⟨hsamples, y, hy, hannounces⟩ := h.ready hr
      exact ⟨Nat.le_succ_of_le hsamples, y, List.mem_append_left _ hy, hannounces⟩
    · exact ⟨hsamples, x, by simp, hannounces⟩

end Step

end UnitreeGo2.MotionStateRelay
