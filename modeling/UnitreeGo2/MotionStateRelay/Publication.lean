import UnitreeGo2.MotionStateRelay.Evidence

/-!
# What the motion-state relay publishes

Every published sample is traced back to the polls, the heartbeats and the samples before it.
A relay without a fault records that evidence; a relay with a fault does nothing any more.
-/

namespace UnitreeGo2.MotionStateRelay

variable {α : Type}

/-! ## What is published and reported -/

/-- What stands behind a message that is published after a history. -/
structure RelayPublication (config : RelayConfig) (graphGid : PublisherGid)
    (l : List (RelayStep α)) (x : RelayStep α) (message : StateMessage α) (info : MessageInfo)
    (nowSteadyNs nowSystemNs : ℤ) : Prop where
  ready : ∃ y ∈ l, Announces y
  samples : kMinimumReadySamples ≤ (acceptedStamps l).length
  advancing : (acceptedStamps l).Pairwise (· < ·)
  fresh : ∀ y ∈ l, ∀ stampNs, acceptedStamp? y = some stampNs → FreshSample y stampNs
  /-- The first samples of the writer came after the first polls of the graph. -/
  writer : ∃ l₁ l₂, l = l₁ ++ l₂ ∧
    Witnessed (fun y => ∃ nowNs, NamesPublisher graphGid nowNs y) kRequiredStableGraphPolls l₁ ∧
    Witnessed (CarriesGid config info.publisherGid) kRequiredStableMessageSamples l₂
  frozen : x.pre.gidGuard.frozenMessageGid = some info.publisherGid
  implementation : info.implementationIdentifier = some config.rmwImplementationIdentifier
  oneWriter : ∀ y ∈ l, ∀ gid, PublishesUnder gid y → gid = info.publisherGid
  graph : ∃ y ∈ l, ∃ verifiedNs, VerifiesGraph graphGid verifiedNs y ∧
    verifiedNs ≤ nowSteadyNs ∧ nowSteadyNs - verifiedNs ≤ kGraphFreshNs
  /-- The newest heartbeat is that of the bytes so far, whatever their chunks. -/
  heartbeat : ∃ stamps rest senderNs, HeartbeatStream (receivedBytes (l ++ [x])) stamps rest ∧
    stamps.getLast? = some senderNs ∧ senderNs ≤ nowSteadyNs ∧
    nowSteadyNs - senderNs ≤ kHeartbeatTimeoutNs
  stamp : ∃ stampNs, correctedStampNs message = some stampNs ∧
    (∀ earlier ∈ acceptedStamps l, earlier < stampNs) ∧ InFreshnessWindow nowSystemNs stampNs

/-- What a run of the relay publishes and reports. -/
structure RelayRun (config : RelayConfig) (tr : List (RelayStep α)) : Prop where
  published : ∀ l x r, tr = l ++ x :: r → ∀ message, .published message ∈ x.output →
    ∃ reads info nowSteadyNs nowSystemNs written graphGid,
      x.event = .message reads message info nowSteadyNs nowSystemNs written ∧
        RelayPublication config graphGid l x message info nowSteadyNs nowSystemNs
  /-- The first fault is reported, as the identity guard latched it where it is one of the
  guard. -/
  reported : ∀ x ∈ tr, x.pre.faulted = false → x.post.faulted = true →
    ∃ effect : RelayEffect α, effect.IsReport ∧ x.output = [effect] ∧
      ∀ fault, x.post.gidGuard.fault = some fault → effect = .event (.fault fault)
  /-- Before a report there is no fault, and after it nothing happens. -/
  first : ∀ l x r, tr = l ++ x :: r → ∀ effect ∈ x.output, effect.IsReport →
    (∀ y ∈ l, y.post.faulted = false) ∧ x.post.faulted = true ∧
      ∀ y ∈ r, y.output = [] ∧ y.post.faulted = true
  silent : ∀ l x r, tr = l ++ x :: r → x.post.faulted = true →
    ∀ y ∈ r, y.output = [] ∧ y.post.faulted = true
  /-- A sample that is dropped as too old refreshes nothing. -/
  dropped : ∀ x ∈ tr, ∀ reads message info nowSteadyNs nowSystemNs written stampNs,
    x.event = .message reads message info nowSteadyNs nowSystemNs written →
    correctedStampNs message = some stampNs →
    evaluateCorrectedStampFreshness nowSystemNs stampNs = .tooOld →
      x.post.tally = x.pre.tally ∧ ∀ m, .published m ∉ x.output

/-! ## One step -/

/-- What a callback does to a relay that has drained the pipe. -/
def EventStep (config : RelayConfig) (event : RelayEvent α) (d r' : Relay α) : Prop :=
  match event with
  | .poll _ nowNs endpoints => PollStep nowNs endpoints d r'
  | .message _ message info nowSteadyNs nowSystemNs _ =>
    MessageStep config message info nowSteadyNs nowSystemNs d r'

section Step

variable {config : RelayConfig} {tr : List (RelayStep α)} {r r' d : Relay α}
  {event : RelayEvent α}

lemma callback_of_faulted (config : RelayConfig) (event : RelayEvent α) (hf : r.faulted = true) :
    r.callback config event = r := by
  cases event with
  | poll reads nowNs endpoints =>
    show r.pollGraphAndSupervisor config reads nowNs endpoints = r
    unfold Relay.pollGraphAndSupervisor
    rw [if_pos hf]
  | message reads message info nowSteadyNs nowSystemNs written =>
    show r.observeMessage config reads message info nowSteadyNs nowSystemNs written = r
    unfold Relay.observeMessage
    rw [if_pos hf]

/-- A callback that drains the pipe without a fault goes on to its own checks. -/
lemma callback_cases (config : RelayConfig) (event : RelayEvent α) {bytes : List UInt8}
    {stamps : List ℤ} (hf : r.faulted = false) (hg : r.gidGuard.fault = none)
    (hread : HeartbeatRead bytes stamps r) (hrest : newline ∉ r.heartbeatBuffer) :
    Failed r (r.callback config event) ∨ ∃ d, Drained (bytes ++ received event.reads) r d ∧
      EventStep config event d (r.callback config event) := by
  rcases drainHeartbeat_cases event.reads r hf hg hread hrest with hfailed | hdrained
  · left
    cases event with
    | poll reads nowNs endpoints =>
      show Failed r (r.pollGraphAndSupervisor config reads nowNs endpoints)
      unfold Relay.pollGraphAndSupervisor
      have hfaulted : (r.drainHeartbeat reads).faulted = true := hfailed.faulted
      rw [if_neg (by simp [hf])]
      dsimp only
      rw [if_pos hfaulted]
      exact hfailed
    | message reads message info nowSteadyNs nowSystemNs written =>
      show Failed r (r.observeMessage config reads message info nowSteadyNs nowSystemNs written)
      unfold Relay.observeMessage
      have hfaulted : (r.drainHeartbeat reads).faulted = true := hfailed.faulted
      rw [if_neg (by simp [hf])]
      dsimp only
      rw [if_pos hfaulted]
      exact hfailed
  · right
    refine ⟨_, hdrained, ?_⟩
    obtain ⟨buffer, guard, heq⟩ := hdrained.frame
    have hdf : (r.drainHeartbeat event.reads).faulted = false := by
      rw [heq]
      exact hf
    have hdg : (r.drainHeartbeat event.reads).gidGuard.fault = none := by
      rw [heq]
      exact hg
    cases event with
    | poll reads nowNs endpoints =>
      exact pollGraphAndSupervisor_cases reads endpoints hf rfl hdf hdg
    | message reads message info nowSteadyNs nowSystemNs written =>
      exact observeMessage_step reads written hf rfl hdf hdg

/-- A drained pipe has been read up to the bytes of this step. -/
lemma Drained.receivedBytes {output : List (RelayEffect α)} {s : Relay α}
    (hd : Drained (receivedBytes tr ++ received event.reads) s d)
    (hguard : r'.heartbeatGuard = d.heartbeatGuard)
    (hbuffer : r'.heartbeatBuffer = d.heartbeatBuffer) :
    (∃ stamps, HeartbeatRead (receivedBytes (tr ++ [⟨r, event, output, r'⟩])) stamps r') ∧
      newline ∉ r'.heartbeatBuffer := by
  obtain ⟨-, ⟨stamps, ⟨hrecords, hordered, hlast, hsound⟩⟩, hrest⟩ := hd
  have hbytes : MotionStateRelay.receivedBytes (tr ++ [⟨r, event, output, r'⟩]) =
      MotionStateRelay.receivedBytes tr ++ received event.reads := by
    simp [MotionStateRelay.receivedBytes]
  refine ⟨⟨stamps, ?_, hordered, ?_, ?_⟩, ?_⟩
  · rw [hbytes, hbuffer]
    exact hrecords
  · rw [hguard]
    exact hlast
  · rw [hguard]
    exact hsound
  · rw [hbuffer]
    exact hrest

/-- What is recorded after a callback without a fault. -/
lemma Recorded.concat (h : Recorded config tr r)
    (hd : Drained (receivedBytes tr ++ received event.reads) { r with effects := [] } d)
    (hheartbeat : r'.heartbeatGuard = d.heartbeatGuard ∧ r'.heartbeatBuffer = d.heartbeatBuffer)
    (hf : r'.faulted = false) (hquiet : ∀ effect ∈ r'.effects, ¬ effect.IsReport)
    (hguard : GuardRecorded config (tr ++ [⟨r, event, r'.effects, r'⟩]) r')
    (hsamples : SamplesRecorded (tr ++ [⟨r, event, r'.effects, r'⟩]) r')
    (hbound : r'.validSamples ≠ 0 → r'.gidGuard.messageBound = true) :
    Recorded config (tr ++ [⟨r, event, r'.effects, r'⟩]) r' := by
  obtain ⟨hread, hrest⟩ := hd.receivedBytes hheartbeat.1 hheartbeat.2
  refine ⟨hread, hrest, hguard, hsamples, hbound, fun y hy => ?_⟩
  rcases List.mem_append.mp hy with hy | hy
  · exact h.quiet y hy
  · rw [List.mem_singleton.mp hy]
    exact ⟨hf, hquiet⟩

lemma Recorded.poll {reads : List ReadResult} {nowNs : ℤ} {endpoints : Option (List Endpoint)}
    (h : Recorded config tr r) (hf : r.faulted = false)
    (hd : Drained (receivedBytes tr ++ received reads) { r with effects := [] } d)
    (he : PollStep nowNs endpoints d r') : r'.faulted = true ∨
      Recorded config (tr ++ [⟨r, .poll reads nowNs endpoints, r'.effects, r'⟩]) r' := by
  have hdrained := hd
  obtain ⟨⟨buffer, guard, rfl⟩, -, -⟩ := hd
  cases he with
  | failed hfailed => exact Or.inl hfailed.faulted
  | waiting heq =>
    subst heq
    refine Or.inr (h.concat hdrained ⟨rfl, rfl⟩ hf (fun effect he => by cases he) ?_ ?_ h.bound)
    · exact h.guard.same rfl rfl fun m hm => by cases hm
    · exact h.samples.same rfl (acceptedStamp?_of_tally rfl)
  | verified e g hendpoints hexact hsound hgraph hmessage heq =>
    subst heq
    refine Or.inr (h.concat hdrained ⟨rfl, rfl⟩ hf (fun effect he => by cases he) ?_ ?_ ?_)
    · exact h.guard.polled hsound hgraph hmessage rfl
        ⟨hf, reads, e, by rw [hendpoints], hexact.1, hexact.2, rfl⟩ rfl fun m hm => by cases hm
    · exact h.samples.same rfl (acceptedStamp?_of_tally rfl)
    · intro hcount
      have hfrozen : g.frozenMessageGid = r.gidGuard.frozenMessageGid :=
        congrArg (fun part : GuardPart => part.2.1) hmessage
      show g.frozenMessageGid.isSome = true
      rw [hfrozen]
      exact h.bound hcount

/-- A sample that is accepted, with what it sets off. -/
lemma Recorded.accept {reads : List ReadResult} {message : StateMessage α} {info : MessageInfo}
    {nowSteadyNs nowSystemNs stampNs : ℤ} {written : Bool} {g : PublisherGidGuard}
    (h : Recorded config tr r) (hf : r.faulted = false)
    (hd : Drained (receivedBytes tr ++ received reads) { r with effects := [] } d)
    (hchecked : MessageChecked config info nowSteadyNs d g true)
    (hvalid : SampleValid { d with lastObservedGid := some info.publisherGid, gidGuard := g }
      message nowSteadyNs nowSystemNs stampNs)
    (he : AcceptStep message (Relay.counted stampNs nowSteadyNs
      { d with lastObservedGid := some info.publisherGid, gidGuard := g }) r') :
    r'.faulted = true ∨ Recorded config (tr ++ [⟨r, .message reads message info nowSteadyNs
      nowSystemNs written, r'.effects, r'⟩]) r' := by
  have hdrained := hd
  obtain ⟨⟨buffer, guard, rfl⟩, -, -⟩ := hd
  have hcarries : ∀ {output : List (RelayEffect α)} {post : Relay α}, post.faulted = false →
      CarriesGid config info.publisherGid
        ⟨r, .message reads message info nowSteadyNs nowSystemNs written, output, post⟩ :=
    fun hpost => ⟨hpost, reads, message, info, nowSteadyNs, nowSystemNs, written, rfl, rfl,
      hchecked.implementation⟩
  have hunder : ∀ {output : List (RelayEffect α)} {post : Relay α} (gid : PublisherGid),
      PublishesUnder gid
        ⟨r, .message reads message info nowSteadyNs nowSystemNs written, output, post⟩ →
      gid = info.publisherGid ∧ true = true := by
    rintro output post gid ⟨_, _, _, _, _, _, hevent, hgid, -⟩
    cases hevent
    exact ⟨hgid.symm, rfl⟩
  have hfresh : ∀ {output : List (RelayEffect α)} {post : Relay α}, FreshSample
      ⟨r, .message reads message info nowSteadyNs nowSystemNs written, output, post⟩ stampNs :=
    ⟨reads, message, info, nowSteadyNs, nowSystemNs, written, rfl, hvalid.stamp,
      inFreshnessWindow_iff.mp hvalid.fresh⟩
  have haccepted : ∀ {output : List (RelayEffect α)} {post : Relay α},
      post.validSamples = r.validSamples + 1 → acceptedStamp?
        ⟨r, .message reads message info nowSteadyNs nowSystemNs written, output, post⟩ =
          some stampNs := by
    intro output post hcount
    show (if post.validSamples = r.validSamples + 1 then correctedStampNs message else none) = _
    rw [if_pos hcount]
    exact hvalid.stamp
  have hbound : g.messageBound = true := by
    rw [PublisherGidGuard.messageBound, hchecked.writer.frozen_of_accepted]
    rfl
  cases he with
  | failed hfailed => exact Or.inl hfailed.faulted
  | published hready heq =>
    subst heq
    refine Or.inr (h.concat hdrained ⟨rfl, rfl⟩ hf ?_ ?_ ?_ fun _ => hbound)
    · intro effect he
      rw [List.mem_singleton.mp he]
      exact id
    · exact h.guard.identified hchecked rfl rfl rfl (hcarries hf) hunder
    · exact h.samples.accepted (haccepted rfl) hfresh hvalid.advances rfl rfl Or.inl
  | counted hready heq =>
    subst heq
    refine Or.inr (h.concat hdrained ⟨rfl, rfl⟩ hf (fun effect he => by cases he) ?_ ?_
      fun _ => hbound)
    · exact h.guard.identified hchecked rfl rfl rfl (hcarries hf) hunder
    · exact h.samples.accepted (haccepted rfl) hfresh hvalid.advances rfl rfl Or.inl
  | announced hsamples graphGid messageGid _ _ heq =>
    subst heq
    refine Or.inr (h.concat hdrained ⟨rfl, rfl⟩ hf ?_ ?_ ?_ fun _ => hbound)
    · intro effect he
      rw [List.mem_singleton.mp he]
      exact id
    · exact h.guard.identified hchecked rfl rfl rfl (hcarries hf) hunder
    · refine h.samples.accepted (haccepted rfl) hfresh hvalid.advances rfl rfl fun _ => ?_
      exact Or.inr ⟨hsamples, _, _, _, _, _, _, List.mem_singleton.mpr rfl⟩

/-- A sample that is not accepted is evidence of its writer alone. -/
lemma Recorded.identified {reads : List ReadResult} {message : StateMessage α}
    {info : MessageInfo} {nowSteadyNs nowSystemNs : ℤ} {written accepted : Bool}
    {g : PublisherGidGuard} (h : Recorded config tr r) (hf : r.faulted = false)
    (hd : Drained (receivedBytes tr ++ received reads) { r with effects := [] } d)
    (hchecked : MessageChecked config info nowSteadyNs d g accepted)
    (heq : r' = { d with lastObservedGid := some info.publisherGid, gidGuard := g }) :
    Recorded config (tr ++ [⟨r, .message reads message info nowSteadyNs nowSystemNs written,
      r'.effects, r'⟩]) r' := by
  have hdrained := hd
  obtain ⟨⟨buffer, guard, rfl⟩, -, -⟩ := hd
  subst heq
  refine h.concat hdrained ⟨rfl, rfl⟩ hf (fun effect he => by cases he) ?_ ?_ ?_
  · refine h.guard.identified hchecked rfl rfl rfl
      ⟨hf, reads, message, info, nowSteadyNs, nowSystemNs, written, rfl, rfl,
        hchecked.implementation⟩ ?_
    rintro gid ⟨_, _, _, _, _, _, -, -, hm⟩
    cases hm
  · exact h.samples.same rfl (acceptedStamp?_of_tally rfl)
  · intro hcount
    obtain ⟨m, hfrozen⟩ := Option.isSome_iff_exists.mp (h.bound hcount)
    rw [PublisherGidGuard.messageBound, hchecked.writer.frozenMessageGid_eq h.guard.writer hfrozen]
    rfl

lemma Recorded.message {reads : List ReadResult} {message : StateMessage α} {info : MessageInfo}
    {nowSteadyNs nowSystemNs : ℤ} {written : Bool} (h : Recorded config tr r)
    (hf : r.faulted = false)
    (hd : Drained (receivedBytes tr ++ received reads) { r with effects := [] } d)
    (he : MessageStep config message info nowSteadyNs nowSystemNs d r') :
    r'.faulted = true ∨ Recorded config (tr ++ [⟨r, .message reads message info nowSteadyNs
      nowSystemNs written, r'.effects, r'⟩]) r' := by
  cases he with
  | failed hfailed => exact Or.inl hfailed.faulted
  | waiting heq =>
    have hdrained := hd
    obtain ⟨⟨buffer, guard, rfl⟩, -, -⟩ := hd
    subst heq
    refine Or.inr (h.concat hdrained ⟨rfl, rfl⟩ hf (fun effect he => by cases he) ?_ ?_ h.bound)
    · exact h.guard.same rfl rfl fun m hm => by cases hm
    · exact h.samples.same rfl (acceptedStamp?_of_tally rfl)
  | sampled g hchecked heq => exact Or.inr (h.identified hf hd hchecked heq)
  | judged g hchecked he =>
    cases he with
    | failed hfailed => exact Or.inl hfailed.faulted
    | dropped heq => exact Or.inr (h.identified hf hd hchecked heq)
    | accepted stampNs hvalid he => exact h.accept hf hd hchecked hvalid he

/-- A relay goes on to record what happens, unless a callback faults. -/
lemma Recorded.step (h : Recorded config tr r) (hf : r.faulted = false)
    (hd : Drained (receivedBytes tr ++ received event.reads) { r with effects := [] } d)
    (he : EventStep config event d r') :
    r'.faulted = true ∨ Recorded config (tr ++ [⟨r, event, r'.effects, r'⟩]) r' := by
  cases event with
  | poll reads nowNs endpoints => exact h.poll hf hd he
  | message reads message info nowSteadyNs nowSystemNs written => exact h.message hf hd he

end Step

/-! ## Publication -/

section Publication

variable {config : RelayConfig} {l : List (RelayStep α)} {r r' d : Relay α}
  {event : RelayEvent α} {message : StateMessage α}

lemma Failed.not_published (h : Failed d r') (hd : d.effects = []) :
    .published message ∉ r'.effects := by
  obtain ⟨e, hreport, heffects, -⟩ := h.report
  rw [heffects, hd, List.nil_append, List.mem_singleton]
  rintro rfl
  exact hreport

/-- A callback that publishes has checked its message and its writer. -/
lemma EventStep.published (h : EventStep config event d r') (hd : d.effects = [])
    (hm : .published message ∈ r'.effects) :
    ∃ reads info nowSteadyNs nowSystemNs written g stampNs,
      event = .message reads message info nowSteadyNs nowSystemNs written ∧
        MessageChecked config info nowSteadyNs d g true ∧
        SampleValid { d with lastObservedGid := some info.publisherGid, gidGuard := g }
          message nowSteadyNs nowSystemNs stampNs ∧ d.readyEmitted = true := by
  -- without a publication the effects are empty, or one report
  have hkept : r'.effects ≠ d.effects := by
    intro heq
    rw [heq, hd] at hm
    cases hm
  cases event with
  | poll reads nowNs endpoints =>
    cases h with
    | failed hfailed => exact absurd hm (hfailed.not_published hd)
    | waiting heq => exact absurd (congrArg Relay.effects heq) hkept
    | verified e g _ _ _ _ _ heq => exact absurd (congrArg Relay.effects heq) hkept
  | message reads m info nowSteadyNs nowSystemNs written =>
    cases h with
    | failed hfailed => exact absurd hm (hfailed.not_published hd)
    | waiting heq => exact absurd (congrArg Relay.effects heq) hkept
    | sampled g _ heq => exact absurd (congrArg Relay.effects heq) hkept
    | judged g hchecked h =>
      cases h with
      | failed hfailed => exact absurd hm (hfailed.not_published hd)
      | dropped heq => exact absurd (congrArg Relay.effects heq) hkept
      | accepted stampNs hvalid h =>
        cases h with
        | failed hfailed => exact absurd hm (hfailed.not_published hd)
        | counted _ heq => exact absurd (congrArg Relay.effects heq) hkept
        | announced _ _ _ _ _ heq =>
          have heffects : r'.effects = d.effects ++ [_] := congrArg Relay.effects heq
          rw [heffects, hd, List.nil_append] at hm
          cases List.mem_singleton.mp hm
        | published hready heq =>
          have heffects : r'.effects = d.effects ++ [_] := congrArg Relay.effects heq
          rw [heffects, hd, List.nil_append] at hm
          cases List.mem_singleton.mp hm
          exact ⟨reads, info, nowSteadyNs, nowSystemNs, written, g, stampNs, rfl, hchecked,
            hvalid, hready⟩

lemma graphStale_eq_false {nowNs : ℤ} (h : d.graphStale nowNs = false) :
    ∃ verifiedNs, d.lastGraphVerifiedSteadyNs = some verifiedNs ∧ verifiedNs ≤ nowNs ∧
      nowNs - verifiedNs ≤ kGraphFreshNs := by
  unfold Relay.graphStale at h
  cases hverified : d.lastGraphVerifiedSteadyNs with
  | none =>
    rw [hverified] at h
    cases h
  | some verifiedNs =>
    rw [hverified] at h
    refine ⟨verifiedNs, rfl, ?_⟩
    simpa using h

lemma heartbeatFresh_eq_true {nowNs : ℤ} (h : d.heartbeatFresh nowNs = true) :
    ∃ senderNs, d.heartbeatGuard.lastSenderNs = some senderNs ∧ senderNs ≤ nowNs ∧
      nowNs - senderNs ≤ kHeartbeatTimeoutNs := by
  unfold Relay.heartbeatFresh HeartbeatTimestampGuard.fresh at h
  cases hsender : d.heartbeatGuard.lastSenderNs with
  | none =>
    rw [hsender] at h
    simp at h
  | some senderNs =>
    rw [hsender] at h
    refine ⟨senderNs, rfl, ?_⟩
    simp only [Bool.and_eq_true, Option.any_some, decide_eq_true_eq] at h
    exact h.2

/-- **Behind a published message stand the evidence of its writer and fresh verifications.** -/
theorem Recorded.publication (h : Recorded config l r)
    (hd : Drained (receivedBytes l ++ received event.reads) { r with effects := [] } d)
    (he : EventStep config event d r') (hm : .published message ∈ r'.effects) :
    ∃ reads info nowSteadyNs nowSystemNs written graphGid,
      event = .message reads message info nowSteadyNs nowSystemNs written ∧
        RelayPublication config graphGid l ⟨r, event, r'.effects, r'⟩ message info nowSteadyNs
          nowSystemNs := by
  have hdrained := hd
  obtain ⟨⟨buffer, guard, rfl⟩, -, -⟩ := hd
  obtain ⟨reads, info, nowSteadyNs, nowSystemNs, written, g, stampNs, rfl, hchecked, hvalid,
    hready⟩ := he.published rfl hm
  obtain ⟨verifiedNs, hverified, hgraphFresh⟩ := graphStale_eq_false hchecked.verified
  obtain ⟨graphGid, hgraphGid, y, hy, hverifies⟩ := h.guard.verified verifiedNs hverified
  obtain ⟨hsamples, hannounces⟩ := h.samples.ready hready
  have hfrozen : r.gidGuard.frozenMessageGid = some info.publisherGid := by
    have hcount : r.validSamples ≠ 0 := fun hzero => by
      rw [hzero] at hsamples
      exact absurd hsamples (by decide)
    obtain ⟨m, hm⟩ := Option.isSome_iff_exists.mp (h.bound hcount)
    have hkept := hchecked.writer.frozenMessageGid_eq h.guard.writer hm
    rw [hchecked.writer.frozen_of_accepted] at hkept
    rw [hm, hkept]
  refine ⟨reads, info, nowSteadyNs, nowSystemNs, written, graphGid, rfl, ?_⟩
  exact {
    ready := hannounces
    samples := h.samples.count ▸ hsamples
    advancing := h.samples.advancing
    fresh := h.samples.fresh
    writer := by
      obtain ⟨hcandidate, hstable⟩ := h.guard.writer.frozen _ hfrozen
      obtain ⟨graphGid', l₁, l₂, hgraph, hl, hpolls, hwriter⟩ :=
        h.guard.writer.candidate _ hcandidate
      obtain rfl : graphGid' = graphGid := Option.some.inj (hgraph.symm.trans hgraphGid)
      exact ⟨l₁, l₂, hl, hpolls, hwriter.mono hstable⟩
    frozen := hfrozen
    implementation := hchecked.implementation
    oneWriter := fun z hz gid hgid => by
      have hsame := h.guard.published z hz gid hgid
      rw [hfrozen] at hsame
      exact (Option.some.inj hsame).symm
    graph := ⟨y, hy, verifiedNs, hverifies, hgraphFresh⟩
    heartbeat := by
      obtain ⟨senderNs, hsender, hfresh⟩ := heartbeatFresh_eq_true hchecked.heartbeat
      obtain ⟨-, ⟨stamps, hread⟩, hrest⟩ := hdrained
      have hbytes : receivedBytes (l ++ [⟨r, .message reads message info nowSteadyNs nowSystemNs
          written, r'.effects, r'⟩]) = receivedBytes l ++ received reads := by
        simp [receivedBytes, RelayEvent.reads]
      rw [hbytes]
      exact ⟨stamps, buffer, senderNs, ⟨hread.records, hread.ordered, hrest⟩,
        hread.last.symm.trans hsender, hfresh⟩
    stamp := by
      refine ⟨stampNs, hvalid.stamp, fun earlier hearlier => ?_,
        inFreshnessWindow_iff.mp hvalid.fresh⟩
      have hpairwise := pairwise_concat_of_last h.samples.advancing fun last hlast =>
        hvalid.advances last (h.samples.last ▸ hlast)
      exact (List.pairwise_append.mp hpairwise).2.2 earlier hearlier stampNs (by simp)
  }

end Publication

/-! ## Runs -/

section Run

variable {config : RelayConfig} {r r' d : Relay α} {event : RelayEvent α}

/-- A callback that faults has reported its fault. -/
lemma EventStep.failed (h : EventStep config event d r') (hd : d.faulted = false)
    (hf : r'.faulted = true) : ∃ s, Failed s r' ∧ s.effects = d.effects := by
  have hkept : r'.faulted ≠ d.faulted := by
    rw [hf, hd]
    decide
  cases event with
  | poll reads nowNs endpoints =>
    cases h with
    | failed hfailed => exact ⟨d, hfailed, rfl⟩
    | waiting heq => exact absurd (congrArg Relay.faulted heq) hkept
    | verified e g _ _ _ _ _ heq => exact absurd (congrArg Relay.faulted heq) hkept
  | message reads m info nowSteadyNs nowSystemNs written =>
    cases h with
    | failed hfailed => exact ⟨d, hfailed, rfl⟩
    | waiting heq => exact absurd (congrArg Relay.faulted heq) hkept
    | sampled g _ heq => exact absurd (congrArg Relay.faulted heq) hkept
    | judged g hchecked h =>
      cases h with
      | failed hfailed => exact ⟨_, hfailed, rfl⟩
      | dropped heq => exact absurd (congrArg Relay.faulted heq) hkept
      | accepted stampNs hvalid h =>
        cases h with
        | failed hfailed => exact ⟨_, hfailed, rfl⟩
        | counted _ heq => exact absurd (congrArg Relay.faulted heq) hkept
        | announced _ _ _ _ _ heq => exact absurd (congrArg Relay.faulted heq) hkept
        | published _ heq => exact absurd (congrArg Relay.faulted heq) hkept

/-- A sample that is too old leaves what the relay remembers of its samples. -/
lemma MessageStep.dropped {message : StateMessage α} {info : MessageInfo}
    {nowSteadyNs nowSystemNs stampNs : ℤ}
    (h : MessageStep config message info nowSteadyNs nowSystemNs d r')
    (hstamp : correctedStampNs message = some stampNs)
    (hold : evaluateCorrectedStampFreshness nowSystemNs stampNs = .tooOld) :
    r'.tally = d.tally := by
  cases h with
  | failed hfailed => exact hfailed.tally
  | waiting heq =>
    rw [heq]
    rfl
  | sampled g _ heq =>
    rw [heq]
    rfl
  | judged g hchecked h =>
    cases h with
    | failed hfailed => exact hfailed.tally
    | dropped heq =>
      rw [heq]
      rfl
    | accepted stampNs' hvalid _ =>
      obtain rfl : stampNs = stampNs' := Option.some.inj (hstamp.symm.trans hvalid.stamp)
      rw [hvalid.fresh] at hold
      cases hold

/-- A callback of a relay without a fault, seen from the relay before it. -/
lemma Recorded.callback {tr : List (RelayStep α)} (h : Recorded config tr r)
    (hf : r.faulted = false) (event : RelayEvent α) :
    Failed { r with effects := [] } ({ r with effects := [] }.callback config event : Relay α) ∨
      ∃ d, Drained (receivedBytes tr ++ received event.reads) { r with effects := [] } d ∧
        EventStep config event d ({ r with effects := [] }.callback config event) := by
  obtain ⟨stamps, hrecords, hordered, hlast, hsound⟩ := h.heartbeat
  exact callback_cases config event hf h.guard.sound ⟨hrecords, hordered, hlast, hsound⟩
    h.incomplete

/-- A relay records its history until it faults. -/
lemma recorded_run (config : RelayConfig) (es : List (RelayEvent α)) :
    ((relay config).final {} es).faulted = false →
      Recorded config ((relay config).trace {} es) ((relay config).final {} es) := by
  refine (relay config).history_induction
    (motive := fun tr r => r.faulted = false → Recorded config tr r) (fun _ => ?_) ?_ es
  · refine ⟨⟨[], ⟨[], rfl, rfl⟩, List.Pairwise.nil, rfl, rfl⟩, by simp, ?_, ?_, ?_, by simp⟩
    · refine ⟨rfl, ⟨?_, ?_⟩, ⟨?_, ?_⟩, ?_, by simp⟩
      all_goals
        intro _ h
        cases h
    · exact ⟨List.Pairwise.nil, rfl, rfl, by simp, fun h => by cases h⟩
    · exact fun h => absurd rfl h
  · intro tr r event ih hf'
    have hf : r.faulted = false := by
      by_contra hfaulted
      rw [Bool.not_eq_false] at hfaulted
      have hkept := congrArg Relay.faulted
        (callback_of_faulted (r := { r with effects := [] }) config event hfaulted)
      exact absurd (hf'.symm.trans (hkept.trans hfaulted)) (by decide)
    rcases (ih hf).callback hf event with hfailed | ⟨d, hd, he⟩
    · exact absurd (hf'.symm.trans hfailed.faulted) (by decide)
    · rcases (ih hf).step hf hd he with hfaulted | hrecorded
      · exact absurd (hf'.symm.trans hfaulted) (by decide)
      · exact hrecorded

/-- A relay with a fault does nothing any more. -/
lemma silent_of_faulted (config : RelayConfig) (es : List (RelayEvent α)) :
    ∀ r : Relay α, r.faulted = true →
      ∀ y ∈ (relay config).trace r es, y.output = [] ∧ y.post.faulted = true := by
  induction es with
  | nil =>
    intro r _ y hy
    cases hy
  | cons event es ih =>
    intro r hf y hy
    have hkept := callback_of_faulted (r := { r with effects := [] }) config event hf
    rcases List.mem_cons.mp hy with rfl | hy
    · exact ⟨congrArg Relay.effects hkept, (congrArg Relay.faulted hkept).trans hf⟩
    · exact ih _ ((congrArg Relay.faulted hkept).trans hf) y hy

/-- A step of a run starts with the record of the steps before it, or with a fault. -/
lemma step_cases {es : List (RelayEvent α)} {l r : List (RelayStep α)} {x : RelayStep α}
    (h : (relay config).trace {} es = l ++ x :: r) :
    x.pre.faulted = true ∧ x.output = [] ∧ x.post = { x.pre with effects := [] } ∨
      x.pre.faulted = false ∧ Recorded config l x.pre ∧ x.output = x.post.effects ∧
        (Failed { x.pre with effects := [] } x.post ∨
          ∃ d, Drained (receivedBytes l ++ received x.event.reads)
            { x.pre with effects := [] } d ∧ EventStep config x.event d x.post) := by
  obtain ⟨es₁, es₂, -, hl, hx, -⟩ := (relay config).trace_eq_append_cons h
  rw [hx, hl]
  generalize x.event = event
  cases hf : ((relay (α := α) config).final {} es₁).faulted with
  | true =>
    have hkept := callback_of_faulted
      (r := { (relay (α := α) config).final {} es₁ with effects := [] }) config event hf
    exact Or.inl ⟨hf, congrArg Relay.effects hkept, hkept⟩
  | false =>
    have hrecorded := recorded_run config es₁ hf
    exact Or.inr ⟨hf, hrecorded, rfl, hrecorded.callback hf event⟩

variable {es : List (RelayEvent α)} {l tl : List (RelayStep α)} {x : RelayStep α}

lemma silent_after (h : (relay config).trace {} es = l ++ x :: tl) (hf : x.post.faulted = true) :
    ∀ y ∈ tl, y.output = [] ∧ y.post.faulted = true := by
  obtain ⟨es₁, es₂, -, -, -, hr⟩ := (relay config).trace_eq_append_cons h
  rw [hr]
  exact silent_of_faulted config es₂ x.post hf

/-- The step in which the relay faults reports that fault alone. -/
lemma reported_step (h : (relay config).trace {} es = l ++ x :: tl) (hf : x.pre.faulted = false)
    (hf' : x.post.faulted = true) :
    ∃ effect : RelayEffect α, effect.IsReport ∧ x.output = [effect] ∧
      ∀ fault, x.post.gidGuard.fault = some fault → effect = .event (.fault fault) := by
  have hfailed : ∃ s, Failed s x.post ∧ s.effects = [] ∧ x.output = x.post.effects := by
    rcases step_cases h with ⟨hfaulted, -⟩ | ⟨-, -, houtput, hfailed | ⟨d, hd, he⟩⟩
    · exact absurd (hf.symm.trans hfaulted) (by decide)
    · exact ⟨_, hfailed, rfl, houtput⟩
    · obtain ⟨buffer, guard, heq⟩ := hd.frame
      obtain ⟨s, hfailed, hs⟩ := he.failed ((congrArg Relay.faulted heq).trans hf) hf'
      exact ⟨s, hfailed, hs.trans (congrArg Relay.effects heq), houtput⟩
  obtain ⟨s, hfailed, hs, houtput⟩ := hfailed
  obtain ⟨effect, hreport, heffects, hguard⟩ := hfailed.report
  refine ⟨effect, hreport, ?_, hguard⟩
  rw [houtput, heffects, hs, List.nil_append]

/-- A step that reports is the first one that faults. -/
lemma first_step (h : (relay config).trace {} es = l ++ x :: tl) {effect : RelayEffect α}
    (heffect : effect ∈ x.output) (hreport : effect.IsReport) :
    (∀ y ∈ l, y.post.faulted = false) ∧ x.post.faulted = true := by
  rcases step_cases h with ⟨-, houtput, -⟩ | ⟨hf, hrecorded, houtput, hcases⟩
  · rw [houtput] at heffect
    cases heffect
  refine ⟨fun y hy => (hrecorded.quiet y hy).1, ?_⟩
  rcases hcases with hfailed | ⟨d, hd, he⟩
  · exact hfailed.faulted
  · rcases hrecorded.step hf hd he with hf' | hrecorded'
    · exact hf'
    · -- a step without a fault reports nothing
      rw [houtput] at heffect
      have hquiet := (hrecorded'.quiet _ (List.mem_append_right l (List.mem_singleton_self _))).2
      exact absurd hreport (hquiet effect heffect)

/-- A step whose sample is too old publishes nothing, and keeps the last accepted sample. -/
lemma dropped_step (h : (relay config).trace {} es = l ++ x :: tl) {reads : List ReadResult}
    {message : StateMessage α} {info : MessageInfo} {nowSteadyNs nowSystemNs stampNs : ℤ}
    {written : Bool}
    (hevent : x.event = .message reads message info nowSteadyNs nowSystemNs written)
    (hstamp : correctedStampNs message = some stampNs)
    (hold : evaluateCorrectedStampFreshness nowSystemNs stampNs = .tooOld) :
    x.post.tally = x.pre.tally ∧ ∀ m, .published m ∉ x.output := by
  rcases step_cases h with ⟨-, houtput, hpost⟩ | ⟨-, -, houtput, hfailed | ⟨d, hd, he⟩⟩
  · rw [hpost, houtput]
    exact ⟨rfl, fun m hm => by cases hm⟩
  · rw [houtput]
    exact ⟨hfailed.tally, fun m => hfailed.not_published rfl⟩
  · obtain ⟨buffer, guard, heq⟩ := hd.frame
    rw [houtput]
    refine ⟨?_, fun m hm => ?_⟩
    · rw [hevent] at he
      rw [MessageStep.dropped he hstamp hold, heq]
      rfl
    · obtain ⟨_, _, _, _, _, _, stampNs', hevent', -, hvalid, -⟩ :=
        he.published (congrArg Relay.effects heq) hm
      rw [hevent] at hevent'
      cases hevent'
      obtain rfl : stampNs = stampNs' := Option.some.inj (hstamp.symm.trans hvalid.stamp)
      rw [hvalid.fresh] at hold
      cases hold

/-- **Every message that the relay publishes is a fresh and advancing sample of the one
supervised writer; the first fault is reported, and ends the run.** -/
theorem relayRun_run (config : RelayConfig) (es : List (RelayEvent α)) :
    RelayRun config ((relay config).trace {} es) where
  published := by
    intro l x r h message hm
    rcases step_cases h with ⟨-, houtput, -⟩ | ⟨-, hrecorded, houtput, hfailed | ⟨d, hd, he⟩⟩
    · rw [houtput] at hm
      cases hm
    · rw [houtput] at hm
      exact absurd hm (hfailed.not_published rfl)
    · obtain ⟨pre, event, output, post⟩ := x
      obtain rfl : output = post.effects := houtput
      exact hrecorded.publication hd he hm
  reported := by
    intro x hx hf hf'
    obtain ⟨l, r, h⟩ := List.append_of_mem hx
    exact reported_step h hf hf'
  first := by
    intro l x r h effect heffect hreport
    obtain ⟨hbefore, hf⟩ := first_step h heffect hreport
    exact ⟨hbefore, hf, silent_after h hf⟩
  silent l x r h hf := silent_after h hf
  dropped := by
    intro x hx reads message info nowSteadyNs nowSystemNs written stampNs hevent hstamp hold
    obtain ⟨l, r, h⟩ := List.append_of_mem hx
    exact dropped_step h hevent hstamp hold

end Run

end UnitreeGo2.MotionStateRelay
