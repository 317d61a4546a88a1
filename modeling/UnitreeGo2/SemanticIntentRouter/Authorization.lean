import UnitreeGo2.SemanticIntentRouter.Results
import UnitreeGo2.SemanticNavigation.LandmarkResolution

/-!
# What a decision has behind it

Every call of the router is advertised, and its arguments come from the command and the history.
Each branch of the decision is traced back to what the router has read off the history.
-/

namespace UnitreeGo2.SemanticIntentRouter

open SemanticNavigation (Landmark LandmarkStore)

section

variable {lib : Library} {store : LandmarkStore} {leaf : Leaf} {run : ActiveRun}

def Decision.Calls (decision : Decision) (cap : String) : Prop :=
  ∃ call ∈ decision.rtdl.children, call.cap = cap

/-! ## What is decided -/

lemma semanticLeaves_eq_ok {messages : List Message} {leaves : List Leaf}
    (h : semanticLeaves lib messages = .ok leaves) : leaves = semanticResults lib messages := by
  rw [semanticLeaves] at h
  split at h
  · exact (Except.ok.inj h).symm
  · cases h

variable (lib) in
/-- What the router has read off a history. -/
structure Reads (messages : List Message) (view : View) : Prop where
  caps : view.caps = advertisedCapabilities messages
  turn : view.turn = currentTurn lib messages
  priorActive : view.priorActive = priorActive lib messages
  currentLeaves : view.currentLeaves = turnResults lib messages
  run : view.run = advanceActive lib (SemanticIntentRouter.priorActive lib messages)
    (turnResults lib messages)

lemma reads_of_viewOf {messages : List Message} {view : View}
    (h : viewOf lib messages = .ok view) : Reads lib messages view := by
  rw [viewOf] at h
  obtain ⟨priorLeaves, hprior, h⟩ := Except.bind_eq_ok_iff.mp h
  obtain ⟨currentLeaves, hcurrent, h⟩ := Except.bind_eq_ok_iff.mp h
  obtain rfl := Except.ok.inj h
  obtain rfl := semanticLeaves_eq_ok hprior
  obtain rfl := semanticLeaves_eq_ok hcurrent
  exact ⟨rfl, rfl, rfl, rfl, rfl⟩

variable {decision : Decision} {view : View} {messages : List Message}

lemma decideLive_cases (h : decideLive lib store messages = .ok decision) :
    ∃ view, Reads lib messages view ∧
      (view.priorActive = none ∧ view.active = none ∧
          (∃ intent,
            parseFollowDistanceIntent lib.toUnicode view.turn.command.toList = .ok (some intent) ∧
              followDistanceDecision lib view.turn view.caps intent = .ok decision) ∨
        decideNavigation lib store view = .ok decision) := by
  rw [decideLive] at h
  obtain ⟨view, hview, h⟩ := Except.bind_eq_ok_iff.mp h
  refine ⟨view, reads_of_viewOf hview, ?_⟩
  obtain ⟨intent, hparsed, h⟩ := Except.bind_eq_ok_iff.mp h
  cases intent with
  | none => exact .inr h
  | some intent =>
    dsimp only at h
    by_cases hidle : view.priorActive.isNone && view.active.isNone
    · rw [if_pos hidle] at h
      rw [Bool.and_eq_true, Option.isNone_iff_eq_none, Option.isNone_iff_eq_none] at hidle
      refine .inl ⟨hidle.1, hidle.2, intent, ?_, h⟩
      cases hintent : parseFollowDistanceIntent lib.toUnicode view.turn.command.toList with
      | ok found =>
        rw [hintent] at hparsed
        rw [Except.ok.inj hparsed]
      | error raised =>
        rw [hintent] at hparsed
        cases hparsed
    · rw [if_neg hidle] at h
      exact .inr h

/-- A command that is no follow distance is answered from the feedback first. -/
lemma decideNavigation_cases (h : decideNavigation lib store view = .ok decision) :
    (∃ landmark, judgeFeedback lib view landmark = some decision) ∨
      (∃ landmark, judgeFeedback lib view landmark = none) ∧
        (decision = decideStop view ∨ (∃ text, decision = decideUnmatched view text) ∨
          ∃ landmark, namedLandmark lib store view.turn.command true = .ok (.ok landmark) ∧
            decision = decideTarget lib view landmark.name) := by
  rw [decideNavigation] at h
  split at h
  · obtain rfl := Except.ok.inj h
    cases hjudged : judgeFeedback lib view none with
    | some decision => exact .inl ⟨none, hjudged⟩
    | none => exact .inr ⟨⟨none, hjudged⟩, .inl rfl⟩
  · obtain ⟨landmark, hnamed, h⟩ := Except.bind_eq_ok_iff.mp h
    cases landmark with
    | ok landmark =>
      obtain rfl := Except.ok.inj h
      cases hjudged : judgeFeedback lib view (some landmark) with
      | some decision => exact .inl ⟨some landmark, hjudged⟩
      | none => exact .inr ⟨⟨some landmark, hjudged⟩, .inr (.inr ⟨landmark, hnamed, rfl⟩)⟩
    | error text =>
      obtain rfl := Except.ok.inj h
      cases hjudged : judgeFeedback lib view none with
      | some decision => exact .inl ⟨none, hjudged⟩
      | none => exact .inr ⟨⟨none, hjudged⟩, .inr (.inl ⟨text, rfl⟩)⟩

variable (lib) in
/-- The latest result is a navigation that was rejected. -/
structure Rejected (view : View) : Prop where
  latest : ∃ leaf ∈ view.latest, leaf.contract lib = NAV_CONTRACT ∧
    navigationCompletionState lib (leaf.output lib) = none ∧
      isTrue (PyValue.get (leaf.output lib) "accepted") = false

variable (lib) in
/-- A decision that starts nothing: the task goes on, perhaps with a call for a run that is known,
or a rejected navigation ends it. -/
inductive Cautious (view : View) : Decision → Prop
  | cancels (run : ActiveRun) (content : String)
      (known : view.active = some run ∨ view.priorActive = some run)
      (advertised : CANCEL_CAPABILITY ∈ view.caps) : Cautious view (cancel run content)
  | holds (content target : String) : Cautious view (hold content target)
  | rejects (content target : String) (rejected : Rejected lib view) :
      Cautious view (terminalDecision content target false)

lemma Cautious.cancelOr {candidate : Option ActiveRun} {content : String} {otherwise : Decision}
    (hcandidate : ∀ run ∈ candidate, view.active = some run ∨ view.priorActive = some run)
    (h : Cautious lib view otherwise) :
    Cautious lib view (view.cancelOr candidate content otherwise) := by
  cases candidate with
  | none => exact h
  | some run =>
    by_cases hcap : CANCEL_CAPABILITY ∈ view.caps
    · simp only [View.cancelOr, if_pos hcap]
      exact .cancels run content (hcandidate run rfl) hcap
    · simp only [View.cancelOr, if_neg hcap]
      exact h

lemma isTrue_of_isFalse {value : PyValue} (h : isFalse value = true) : isTrue value = false := by
  cases value with
  | bool b =>
    cases b with
    | false => rfl
    | true => cases h
  | _ => rfl

lemma judgeFeedback_cautious {landmark : Option Landmark}
    (h : judgeFeedback lib view landmark = some decision) :
    Cautious lib view decision := by
  have hprior : ∀ run ∈ view.priorActive, view.active = some run ∨ view.priorActive = some run :=
    fun _ hrun => .inr hrun
  have hcandidate : ∀ run ∈ view.candidate,
      view.active = some run ∨ view.priorActive = some run := by
    intro run hrun
    rw [View.candidate] at hrun
    cases hactive : view.active with
    | none =>
      rw [hactive] at hrun
      exact .inr hrun
    | some active =>
      rw [hactive] at hrun
      exact .inl hrun
  rw [judgeFeedback] at h
  dsimp only at h
  split at h
  · obtain rfl := Option.some.inj h
    exact .cancelOr hcandidate (.holds _ _)
  cases hlatest : view.latest with
  | none =>
    rw [hlatest] at h
    cases h
  | some latest =>
    rw [hlatest] at h
    by_cases hnav : latest.contract lib = NAV_CONTRACT
    · simp only [if_pos hnav] at h
      split at h
      · obtain rfl := Option.some.inj h
        exact .cancelOr hcandidate (.holds _ _)
      split at h
      · cases h
      rename_i hcompletion
      split at h
      · obtain rfl := Option.some.inj h
        exact .holds _ _
      split at h
      · rename_i hrefused
        obtain rfl := Option.some.inj h
        refine .cancelOr hprior (.rejects _ _ ⟨latest, hlatest, hnav, ?_, ?_⟩)
        · simpa using hcompletion
        · exact isTrue_of_isFalse hrefused
      split at h
      · obtain rfl := Option.some.inj h
        exact .holds _ _
      · cases h
    · simp only [if_neg hnav] at h
      split at h
      · obtain rfl := Option.some.inj h
        exact .cancelOr hcandidate (.holds _ _)
      split at h
      · split at h
        · cases h
        · obtain rfl := Option.some.inj h
          exact .cancelOr hcandidate (.holds _ _)
      split at h
      · split at h
        · cases h
        · obtain rfl := Option.some.inj h
          exact .cancelOr hcandidate (.holds _ _)
      · cases h

/-- A feedback that is no reason to stop: a latest result of a navigation confirms a run, or
reports the state of a run that it does not name. -/
lemma confirms_of_judgeFeedback {landmark : Option Landmark} {leaf : Leaf}
    (h : judgeFeedback lib view landmark = none) (hlatest : view.latest = some leaf)
    (hcontract : leaf.contract lib = NAV_CONTRACT) (hterminal : view.terminal = none) :
    (∃ runId, Confirms lib leaf runId) ∨ Nameless lib leaf := by
  rw [judgeFeedback] at h
  dsimp only at h
  split at h
  · cases h
  rw [hlatest] at h
  simp only [if_pos hcontract] at h
  split at h
  · cases h
  rename_i hjudged
  have hsucceeded : leaf.succeeded = true := by
    by_contra hfailed
    rw [Bool.not_eq_true] at hfailed
    exact hjudged ⟨by rw [hfailed]; rfl, by simp [hterminal]⟩
  by_cases hstate : (navigationCompletionState lib (leaf.output lib)).isSome = true
  · by_cases hnamed : runIdFromOutput lib (leaf.output lib) = ""
    · exact .inr ⟨hcontract, hsucceeded, hstate, hnamed⟩
    · exact .inl ⟨_, hcontract, rfl, hnamed, .inl hstate⟩
  · rw [if_neg hstate] at h
    split at h
    · cases h
    rename_i hnameless
    split at h
    · cases h
    split at h
    · cases h
    rename_i haccepted
    rw [Bool.not_eq_true', Bool.not_eq_false] at haccepted
    refine .inl ⟨_, hcontract, rfl, fun hnamed => hnameless ⟨haccepted, hnamed⟩, ?_⟩
    exact .inr ⟨hsucceeded, haccepted⟩

variable (lib store) in
/-- A call that the router may make: the capability is advertised, and its arguments are the name
of the landmark that the command names, a run that may be moving, or the intent of the command. -/
inductive Authorized (view : View) : Call → Prop
  | navigates (landmark : Landmark) (description : String)
      (named : namedLandmark lib store view.turn.command true = .ok (.ok landmark))
      (advertised : NAV_CAPABILITY ∈ view.caps) :
      Authorized view ⟨NAV_CAPABILITY, [("name", .str landmark.name)], description⟩
  | tracks (cap : String) (run : ActiveRun) (description : String)
      (known : view.active = some run ∨ view.priorActive = some run)
      (tracking : cap ∈ [STATUS_CAPABILITY, CANCEL_CAPABILITY]) (advertised : cap ∈ view.caps) :
      Authorized view ⟨cap, [("run_id", .str run.runId)], description⟩
  | follows (intent : FollowDistanceIntent) (description : String)
      (parsed :
        parseFollowDistanceIntent lib.toUnicode view.turn.command.toList = .ok (some intent))
      (advertised : FOLLOW_DISTANCE_CAPABILITY ∈ view.caps) :
      Authorized view ⟨FOLLOW_DISTANCE_CAPABILITY,
        [("operation", .str (operationName intent.operation)), ("meters", .float intent.meters)],
        description⟩

variable (lib store) in
/-- What a decision has behind it. -/
structure Backed (view : View) (decision : Decision) : Prop where
  navigates : decision.Calls NAV_CAPABILITY → view.active = none ∧
    (∀ run ∈ view.terminal, ∃ prior ∈ view.priorActive, run.runId = prior.runId) ∧
      ∀ leaf ∈ view.latest, leaf.contract lib = NAV_CONTRACT → view.terminal = none →
        (∃ runId, Confirms lib leaf runId) ∨ Nameless lib leaf
  single : decision.rtdl.children.length ≤ 1
  calls : ∀ call ∈ decision.rtdl.children, Authorized lib store view call
  follows : decision.Calls FOLLOW_DISTANCE_CAPABILITY →
    view.active = none ∧ view.turn.feedbackMessages = []
  done : ∀ update ∈ decision.taskUpdate, update.status = .done →
    view.active = none ∨ Rejected lib view

lemma active_of_terminal (h : view.terminal = some run) : view.active = none := by
  rw [View.terminal, Option.filter_eq_some_iff] at h
  rw [View.active, unended, h.1]
  simpa using h.2

/-- A decision without a call. -/
lemma Backed.of_silent (hchildren : decision.rtdl.children = [])
    (hdone : ∀ update ∈ decision.taskUpdate, update.status = .done →
      view.active = none ∨ Rejected lib view) : Backed lib store view decision := by
  have hnever (cap : String) : ¬ decision.Calls cap := by
    rintro ⟨call, hcall, -⟩
    rw [hchildren] at hcall
    cases hcall
  refine ⟨fun h => absurd h (hnever _), ?_, ?_, fun h => absurd h (hnever _), hdone⟩
  · rw [hchildren]
    exact Nat.zero_le _
  · intro call hcall
    rw [hchildren] at hcall
    cases hcall

/-- A decision that tracks or cancels a run that is known. -/
lemma Backed.of_tracking {cap description : String}
    (hchildren : decision.rtdl.children = [⟨cap, [("run_id", .str run.runId)], description⟩])
    (hknown : view.active = some run ∨ view.priorActive = some run)
    (hcap : cap ∈ [STATUS_CAPABILITY, CANCEL_CAPABILITY]) (hadvertised : cap ∈ view.caps)
    (hdone : ∀ update ∈ decision.taskUpdate, update.status ≠ .done) :
    Backed lib store view decision := by
  have hnever {other : String} (hother : other ∉ [STATUS_CAPABILITY, CANCEL_CAPABILITY]) :
      ¬ decision.Calls other := by
    rintro ⟨call, hcall, rfl⟩
    rw [hchildren] at hcall
    obtain rfl := List.mem_singleton.mp hcall
    exact hother hcap
  refine ⟨fun h => absurd h (hnever (by decide)), ?_, ?_,
    fun h => absurd h (hnever (by decide)), ?_⟩
  · rw [hchildren]
    exact le_rfl
  · intro call hcall
    rw [hchildren] at hcall
    obtain rfl := List.mem_singleton.mp hcall
    exact .tracks cap run description hknown hcap hadvertised
  · intro update hupdate hstatus
    exact absurd hstatus (hdone update hupdate)

lemma Backed.poll (h : view.active = some run) (hmonitors : ¬ ¬ view.Monitors)
    (content : String) : Backed lib store view (poll run content) := by
  refine .of_tracking rfl (.inl h) List.mem_cons_self
    (not_not.mp hmonitors _ List.mem_cons_self) ?_
  intro update hupdate hstatus
  obtain rfl := Option.some.inj hupdate
  cases hstatus

lemma Backed.cancel (h : view.active = some run ∨ view.priorActive = some run)
    (hadvertised : CANCEL_CAPABILITY ∈ view.caps) (content : String) :
    Backed lib store view (cancel run content) := by
  refine .of_tracking rfl h (List.mem_cons_of_mem _ List.mem_cons_self) hadvertised ?_
  intro update hupdate hstatus
  obtain rfl := Option.some.inj hupdate
  cases hstatus

lemma Backed.cancelActive (h : view.active = some run) (hmonitors : ¬ ¬ view.Monitors)
    (content : String) : Backed lib store view (SemanticIntentRouter.cancel run content) :=
  .cancel (.inl h) (not_not.mp hmonitors _ (List.mem_cons_of_mem _ List.mem_cons_self)) content

lemma Backed.hold (content target : String) : Backed lib store view (hold content target) := by
  refine .of_silent rfl ?_
  intro update hupdate hstatus
  obtain rfl := Option.some.inj hupdate
  cases hstatus

lemma Backed.terminalState (h : view.terminal = some run) (content : String) :
    Backed lib store view (terminalState content run) :=
  .of_silent rfl fun _ _ _ => .inl (active_of_terminal h)

lemma Cautious.backed (h : Cautious lib view decision) :
    Backed lib store view decision := by
  cases h with
  | cancels run content known advertised => exact .cancel known advertised content
  | holds content target => exact .hold content target
  | rejects content target rejected => exact .of_silent rfl fun _ _ _ => .inr rejected

lemma decideStop_backed : Backed lib store view (decideStop view) := by
  cases hterminal : view.terminal with
  | some run =>
    simp only [decideStop, hterminal]
    exact .terminalState hterminal _
  | none =>
    cases hactive : view.active with
    | none =>
      simp only [decideStop, hterminal, hactive]
      exact .of_silent rfl fun _ _ _ => .inl hactive
    | some run =>
      simp only [decideStop, hterminal, hactive]
      by_cases hmonitors : ¬ view.Monitors
      · rw [if_pos hmonitors]
        exact .hold _ _
      rw [if_neg hmonitors]
      split
      · exact .poll hactive hmonitors _
      · exact .cancelActive hactive hmonitors _

lemma decideUnmatched_backed (text : String) :
    Backed lib store view (decideUnmatched view text) := by
  cases hactive : view.active with
  | some run =>
    simp only [decideUnmatched, hactive]
    by_cases hmonitors : ¬ view.Monitors
    · rw [if_pos hmonitors]
      exact .hold _ _
    · rw [if_neg hmonitors]
      exact .poll hactive hmonitors _
  | none =>
    cases hterminal : view.terminal with
    | some run =>
      simp only [decideUnmatched, hterminal, hactive]
      exact .terminalState hterminal _
    | none =>
      simp only [decideUnmatched, hterminal, hactive]
      exact .of_silent rfl fun _ _ _ => .inl hactive

lemma follow_ne_nav : FOLLOW_DISTANCE_CAPABILITY ≠ NAV_CAPABILITY := by decide

/-- A goal is started when no run is active, after the feedback was judged. -/
lemma startNavigation_backed {landmark : Landmark}
    (hnamed : namedLandmark lib store view.turn.command true = .ok (.ok landmark))
    (hnavigates : ¬ ¬ view.Navigates) (hactive : view.active = none)
    (hterminal : ∀ run ∈ view.terminal, ∃ prior ∈ view.priorActive, run.runId = prior.runId)
    (hlatest : ∀ leaf ∈ view.latest, leaf.contract lib = NAV_CONTRACT → view.terminal = none →
      (∃ runId, Confirms lib leaf runId) ∨ Nameless lib leaf) :
    Backed lib store view (startNavigation landmark.name) := by
  refine ⟨fun _ => ⟨hactive, hterminal, hlatest⟩, le_rfl, ?_, ?_, ?_⟩
  · intro call hcall
    obtain rfl := List.mem_singleton.mp hcall
    exact .navigates landmark _ hnamed (not_not.mp hnavigates _ List.mem_cons_self)
  · rintro ⟨call, hcall, hcap⟩
    obtain rfl := List.mem_singleton.mp hcall
    exact absurd hcap follow_ne_nav.symm
  · intro update hupdate hstatus
    obtain rfl := Option.some.inj hupdate
    cases hstatus

lemma decideTarget_backed {landmark : Landmark}
    (hnamed : namedLandmark lib store view.turn.command true = .ok (.ok landmark))
    (hlatest : ∀ leaf ∈ view.latest, leaf.contract lib = NAV_CONTRACT → view.terminal = none →
      (∃ runId, Confirms lib leaf runId) ∨ Nameless lib leaf) :
    Backed lib store view (decideTarget lib view landmark.name) := by
  cases hterminal : view.terminal with
  | some run =>
    simp only [decideTarget, hterminal]
    split
    · rename_i hswitch
      by_cases hnavigates : ¬ view.Navigates
      · rw [if_pos hnavigates]
        exact .hold _ _
      rw [if_neg hnavigates]
      refine startNavigation_backed hnamed hnavigates (active_of_terminal hterminal) ?_ hlatest
      intro run' hrun'
      obtain rfl := Option.some.inj (hterminal.symm.trans hrun')
      obtain ⟨prior, hprior, hsame⟩ := (Option.any_eq_true _ _).mp hswitch
      exact ⟨prior, hprior, (of_decide_eq_true hsame).1⟩
    · exact .terminalState hterminal _
  | none =>
    cases hactive : view.active with
    | some run =>
      simp only [decideTarget, hterminal, hactive]
      by_cases hmonitors : ¬ view.Monitors
      · rw [if_pos hmonitors]
        exact .hold _ _
      rw [if_neg hmonitors]
      split
      · split
        · exact .poll hactive hmonitors _
        · exact .cancelActive hactive hmonitors _
      · exact .poll hactive hmonitors _
    | none =>
      simp only [decideTarget, hterminal, hactive]
      by_cases hnavigates : ¬ view.Navigates
      · rw [if_pos hnavigates]
        exact .of_silent rfl fun _ _ _ => .inl hactive
      rw [if_neg hnavigates]
      refine startNavigation_backed hnamed hnavigates hactive ?_ hlatest
      intro run hrun
      rw [hterminal] at hrun
      cases hrun

lemma followDistanceDecision_backed {intent : FollowDistanceIntent}
    (hparsed :
      parseFollowDistanceIntent lib.toUnicode view.turn.command.toList = .ok (some intent))
    (h : followDistanceDecision lib view.turn view.caps intent = .ok decision)
    (hactive : view.active = none) : Backed lib store view decision := by
  rw [followDistanceDecision] at h
  split at h
  · obtain ⟨content, -, h⟩ := Except.bind_eq_ok_iff.mp h
    obtain rfl := Except.ok.inj h
    exact .of_silent rfl fun _ _ _ => .inl hactive
  · split at h
    · obtain rfl := Except.ok.inj h
      exact .of_silent rfl fun _ _ _ => .inl hactive
    split at h
    · obtain rfl := Except.ok.inj h
      exact .of_silent rfl fun _ _ _ => .inl hactive
    · rename_i hfeedback hadvertised
      obtain rfl := Except.ok.inj h
      refine ⟨?_, le_rfl, ?_, ?_, ?_⟩
      · rintro ⟨call, hcall, hcap⟩
        obtain rfl := List.mem_singleton.mp hcall
        exact absurd hcap follow_ne_nav
      · intro call hcall
        obtain rfl := List.mem_singleton.mp hcall
        exact .follows intent _ hparsed (not_not.mp hadvertised)
      · exact fun _ => ⟨hactive, by simpa using hfeedback⟩
      · intro update hupdate hstatus
        obtain rfl := Option.some.inj hupdate
        cases hstatus

/-- The decision on a history has something behind it. -/
lemma decideLive_backed (h : decideLive lib store messages = .ok decision) :
    ∃ view, Reads lib messages view ∧ Backed lib store view decision := by
  obtain ⟨view, hreads, ⟨-, hactive, intent, hparsed, hfollow⟩ | hnavigation⟩ := decideLive_cases h
  · exact ⟨view, hreads, followDistanceDecision_backed hparsed hfollow hactive⟩
  refine ⟨view, hreads, ?_⟩
  rcases decideNavigation_cases hnavigation with
    ⟨landmark, hjudged⟩ | ⟨⟨landmark, hjudged⟩, hdecided⟩
  · exact (judgeFeedback_cautious hjudged).backed
  rcases hdecided with rfl | ⟨text, rfl⟩ | ⟨landmark, hnamed, rfl⟩
  · exact decideStop_backed
  · exact decideUnmatched_backed text
  · exact decideTarget_backed hnamed fun leaf hleaf hcontract hterminal =>
      confirms_of_judgeFeedback hjudged hleaf hcontract hterminal

/-! ## Authorized calls -/

variable (lib)

/-- A store that was loaded from a file. -/
structure LoadedStore where
  raw : PyValue
  store : LandmarkStore
  loaded : LandmarkStore.fromMapping lib.toLandmarkLibrary raw = .ok store

/-- The calls of a router.  A preview makes none.  A navigation goes to the one verified landmark
that the last command mentions, and other navigation calls are for a run that was active when the
command came or is active since. -/
structure OnlyAuthorized (store : LandmarkStore) (mode : ExecutionMode) (messages : List Message)
    (decision : Decision) : Prop where
  live : decision.rtdl.children ≠ [] → mode = .live
  single : decision.rtdl.children.length ≤ 1
  advertised : ∀ call ∈ decision.rtdl.children, call.cap ∈ advertisedCapabilities messages
  calls : ∀ call ∈ decision.rtdl.children,
    call.cap = NAV_CAPABILITY ∧
        (∃ landmark, call.args = [("name", .str landmark.name)] ∧
          SemanticNavigation.Resolves lib.toLandmarkLibrary store
            ⟨(currentTurn lib messages).command, store.mapId, store.mapGeneration, true⟩ landmark) ∨
      call.cap ∈ [STATUS_CAPABILITY, CANCEL_CAPABILITY] ∧
        (∃ run, call.args = [("run_id", .str run.runId)] ∧
          (unended (turnRun lib messages) = some run ∨ priorActive lib messages = some run)) ∨
      call.cap = FOLLOW_DISTANCE_CAPABILITY ∧
        ∃ intent, call.args = [("operation", .str (operationName intent.operation)),
            ("meters", .float intent.meters)] ∧
          parseFollowDistanceIntent lib.toUnicode (currentTurn lib messages).command.toList =
            .ok (some intent)

def AuthorizedCalls (store : LandmarkStore) (mode : ExecutionMode) (messages : List Message) :
    Prop :=
  ∀ decision, decide lib store mode messages = .ok decision →
    OnlyAuthorized lib store mode messages decision

variable {lib}

lemma previewNavigation_silent {command : String}
    (h : previewNavigation lib store command = .ok decision) : decision.rtdl.children = [] := by
  rw [previewNavigation] at h
  dsimp only at h
  split at h
  · obtain rfl := Except.ok.inj h
    rfl
  split at h
  · obtain rfl := Except.ok.inj h
    rfl
  obtain ⟨found, -, h⟩ := Except.bind_eq_ok_iff.mp h
  cases found with
  | error text =>
    obtain rfl := Except.ok.inj h
    rfl
  | ok landmark =>
    obtain rfl := Except.ok.inj h
    rfl

lemma preview_silent (h : preview lib store messages = .ok decision) :
    decision.rtdl.children = [] := by
  rw [preview] at h
  obtain ⟨intent, -, h⟩ := Except.bind_eq_ok_iff.mp h
  cases intent with
  | some intent =>
    obtain rfl := Except.ok.inj h
    rfl
  | none => exact previewNavigation_silent h

/-- A landmark that a command names is the one verified landmark that it mentions. -/
lemma resolves_of_namedLandmark (hstore : SemanticNavigation.Sound lib.toLandmarkLibrary store)
    {command : String} {landmark : Landmark}
    (h : namedLandmark lib store command true = .ok (.ok landmark)) :
    SemanticNavigation.Resolves lib.toLandmarkLibrary store
      ⟨command, store.mapId, store.mapGeneration, true⟩ landmark := by
  rw [namedLandmark] at h
  split at h
  · rename_i found hfound
    obtain rfl := Except.ok.inj (Except.ok.inj h)
    exact hstore.resolves_iff.mp hfound
  · cases h
  · cases h

variable (lib)

/-- **Whatever the history, the router makes advertised calls only, with arguments that the command
and the history give.** -/
theorem decide_authorized (loaded : LoadedStore lib) (mode : ExecutionMode)
    (messages : List Message) : AuthorizedCalls lib loaded.store mode messages := by
  intro decision hdecided
  cases mode with
  | preview =>
    have hchildren := preview_silent hdecided
    have hnever (call : Call) : call ∉ decision.rtdl.children := by
      rw [hchildren]
      exact List.not_mem_nil
    exact ⟨fun hne => absurd hchildren hne, by rw [hchildren]; exact Nat.zero_le _,
      fun call hcall => absurd hcall (hnever call), fun call hcall => absurd hcall (hnever call)⟩
  | live =>
    obtain ⟨view, hreads, hbacked⟩ := decideLive_backed hdecided
    have hactive : view.active = unended (turnRun lib messages) := by
      rw [View.active, hreads.run, turnRun]
    have hstore := SemanticNavigation.sound_of_fromMapping loaded.loaded
    refine ⟨fun _ => rfl, hbacked.single, ?_, ?_⟩
    · intro call hcall
      rw [← hreads.caps]
      cases hbacked.calls call hcall with
      | navigates _ _ _ advertised => exact advertised
      | tracks _ _ _ _ _ advertised => exact advertised
      | follows _ _ _ advertised => exact advertised
    · intro call hcall
      rw [← hreads.turn, ← hactive, ← hreads.priorActive]
      cases hbacked.calls call hcall with
      | navigates landmark _ named =>
        exact .inl ⟨rfl, landmark, rfl, resolves_of_namedLandmark hstore named⟩
      | tracks cap run _ known tracking => exact .inr (.inl ⟨tracking, run, rfl, known⟩)
      | follows intent _ parsed => exact .inr (.inr ⟨rfl, intent, rfl, parsed⟩)

end

end UnitreeGo2.SemanticIntentRouter
