import UnitreeGo2.SemanticIntentRouter.Authorization

/-!
# The closed loop of router and executor

In a closed loop every result of semantic navigation answers a call of the router.  Then a new
goal, a new follow distance and a task reported as done all come only after every confirmed run
was reported to have ended, and a command gets at most one new confirmed run.

Results that confirm no run are not counted: a failed or rejected dispatch does not keep the
router from another one.
-/

namespace UnitreeGo2.SemanticIntentRouter

open SemanticNavigation (LandmarkStore)

section Loop

variable (lib : Library) (store : LandmarkStore)

/-! ## What is promised -/

/-- The contract that the results of a capability name. -/
def contractOf (cap : String) : String :=
  if cap = NAV_CAPABILITY then NAV_CONTRACT
  else if cap = STATUS_CAPABILITY then STATUS_CONTRACT
  else if cap = CANCEL_CAPABILITY then CANCEL_CONTRACT
  else FOLLOW_DISTANCE_CONTRACT

/-- A history in which every result of semantic navigation answers the call that was decided on
just before.  A message may list a result more than once, as one around another is. -/
inductive ClosedLoop : List Message → Prop
  | start : ClosedLoop []
  | said {messages : List Message} {message : Message} (closed : ClosedLoop messages)
      (silent : semanticResults lib [message] = []) : ClosedLoop (messages ++ [message])
  | answered {messages : List Message} {message : Message} {decision : Decision} {call : Call}
      {leaf : Leaf} (closed : ClosedLoop messages)
      (decided : decideLive lib store messages = .ok decision)
      (called : call ∈ decision.rtdl.children)
      (results : ∀ result ∈ semanticResults lib [message], result = leaf)
      (contract : (PyValue.get leaf "contract_id").eqStr (contractOf call.cap) = true) :
      ClosedLoop (messages ++ [message])

structure ClosedHistory where
  messages : List Message
  closed : ClosedLoop lib store messages

/-- Every run that was confirmed was reported to have ended, not before. -/
def AllEnded (leaves : List Leaf) : Prop :=
  ∀ before leaf after runId, leaves = before ++ leaf :: after → Confirms lib leaf runId →
    ∃ result ∈ leaf :: after, Ends lib result runId

/-- The decision starts something new, or reports a task as done. -/
def Decision.Commits (decision : Decision) : Prop :=
  decision.Calls NAV_CAPABILITY ∨ decision.Calls FOLLOW_DISTANCE_CAPABILITY ∨
    ∃ update ∈ decision.taskUpdate, update.status = .done

/-- Nothing is started or reported as done before all confirmed runs have ended. -/
def Serialized (messages : List Message) : Prop :=
  ∀ decision, decideLive lib store messages = .ok decision → decision.Commits →
    AllEnded lib (semanticResults lib messages)

/-- A run that was not there when the command came was confirmed. -/
def NewRun (messages : List Message) (runId : String) : Prop :=
  (∃ leaf ∈ turnResults lib messages, Confirms lib leaf runId) ∧
    ∀ prior ∈ priorActive lib messages, runId ≠ prior.runId

/-- A command gets one new run at most, and no goal is started once it has it.  A second goal is
started only when the run that the command replaces has ended, or after a result that reports the
state of a run without its name. -/
structure OneGoal (messages : List Message) : Prop where
  unique : ∀ runId runId', NewRun lib messages runId → NewRun lib messages runId' → runId = runId'
  last : ∀ decision, decideLive lib store messages = .ok decision →
    decision.Calls NAV_CAPABILITY → ∀ runId, ¬ NewRun lib messages runId
  again : ∀ decision, decideLive lib store messages = .ok decision →
    decision.Calls NAV_CAPABILITY →
    turnResults lib messages = [] ∨
      (∃ leaf ∈ (turnResults lib messages).getLast?, Nameless lib leaf) ∨
      ∃ prior ∈ priorActive lib messages, ∃ leaf ∈ turnResults lib messages,
        Ends lib leaf prior.runId
  adjusted : ∀ decision, decideLive lib store messages = .ok decision →
    decision.Calls FOLLOW_DISTANCE_CAPABILITY → (currentTurn lib messages).feedbackMessages = []

/-! ## The invariant of the loop -/

/-- The result is of a navigation and confirms no run. -/
def Unconfirmed (leaf : Leaf) : Prop :=
  leaf.contract lib = NAV_CONTRACT ∧ ∀ runId, ¬ Confirms lib leaf runId

/-- A confirmed run has ended or is the latest one.  The turn knows the latest run, unless no run
was active before it and it has confirmed none.  No run is active when a navigation has confirmed
none.  A new run is the latest one of its turn. -/
structure LoopInv (messages : List Message) : Prop where
  ended : ∀ before leaf after runId, semanticResults lib messages = before ++ leaf :: after →
    Confirms lib leaf runId →
      (∃ result ∈ leaf :: after, Ends lib result runId) ∨
        ∃ run ∈ unended (latestRun lib messages), run.runId = runId
  known : priorActive lib messages = none →
    turnRun lib messages = none ∧ (∀ leaf ∈ turnResults lib messages, Unconfirmed lib leaf) ∨
      ∃ run, turnRun lib messages = some run ∧ latestRun lib messages = some run
  judged : ∀ leaf ∈ (turnResults lib messages).getLast?, Unconfirmed lib leaf →
    unended (turnRun lib messages) = none
  goal : ∀ leaf ∈ turnResults lib messages, ∀ runId, Confirms lib leaf runId →
    (∀ prior ∈ priorActive lib messages, runId ≠ prior.runId) →
      ∃ run ∈ turnRun lib messages, run.runId = runId

variable {lib} {store} {leaf : Leaf} {runId : String} {decision : Decision}
  {messages : List Message}

/-- No run is active in a history when none is in its turn. -/
lemma LoopInv.idle (h : LoopInv lib messages) (hidle : unended (turnRun lib messages) = none) :
    unended (latestRun lib messages) = none := by
  cases hprior : priorActive lib messages with
  | some prior =>
    -- the turn goes on from the latest run
    have hstart := (unended_eq_some hprior).1
    rw [latestRun_eq, hstart, ← hprior]
    exact hidle
  | none =>
    rcases h.known hprior with ⟨-, hunconfirmed⟩ | ⟨run, hturn, hlatest⟩
    · rw [latestRun_eq, advanceActive_of_unconfirmed hunconfirmed]
      exact hprior
    · rw [hlatest, ← hturn]
      exact hidle

/-- What a turn that has just begun knows. -/
lemma LoopInv.of_begun (hturn : turnResults lib messages = [])
    (hended : ∀ before leaf after runId, semanticResults lib messages = before ++ leaf :: after →
      Confirms lib leaf runId →
        (∃ result ∈ leaf :: after, Ends lib result runId) ∨
          ∃ run ∈ unended (latestRun lib messages), run.runId = runId) :
    LoopInv lib messages := by
  refine ⟨hended, fun hprior => .inl ⟨?_, ?_⟩, ?_, ?_⟩
  · rw [turnRun, hturn, hprior]
    rfl
  · rw [hturn]
    exact fun _ h => absurd h List.not_mem_nil
  · rw [hturn]
    exact fun _ h => by cases h
  · rw [hturn]
    exact fun _ h => absurd h List.not_mem_nil

/-- A message without results keeps the invariant. -/
lemma LoopInv.said (h : LoopInv lib messages) {message : Message}
    (hsilent : semanticResults lib [message] = []) : LoopInv lib (messages ++ [message]) := by
  have hsame : semanticResults lib (messages ++ [message]) = semanticResults lib messages := by
    rw [semanticResults_append, hsilent, List.append_nil]
  have hlatest : latestRun lib (messages ++ [message]) = latestRun lib messages := by
    rw [latestRun, hsame, latestRun]
  rcases turn_append lib messages message with ⟨hturn, -⟩ | ⟨hturn, hprior⟩
  · refine .of_begun hturn ?_
    rw [hsame, hlatest]
    exact h.ended
  · rw [hsilent, List.append_nil] at hturn
    refine ⟨?_, ?_, ?_, ?_⟩
    · rw [hsame, hlatest]
      exact h.ended
    · rw [turnRun, hprior, hturn, hlatest]
      exact h.known
    · rw [turnRun, hprior, hturn]
      exact h.judged
    · rw [turnRun, hprior, hturn]
      exact h.goal

/-! ## Answers -/

variable (lib) in
/-- What an answer follows: a navigation is started when no run of the turn is active, and other
calls are made for a run that is known. -/
structure Answer (messages : List Message) (leaf : Leaf) : Prop where
  navigates : leaf.contract lib = NAV_CONTRACT → unended (turnRun lib messages) = none ∧
    ∀ run ∈ turnRun lib messages, ∃ prior ∈ priorActive lib messages, run.runId = prior.runId
  tracks : leaf.contract lib ≠ NAV_CONTRACT →
    unended (turnRun lib messages) ≠ none ∨ priorActive lib messages ≠ none

lemma status_ne_nav : contractOf STATUS_CAPABILITY ≠ NAV_CONTRACT := by decide

lemma cancel_ne_nav : contractOf CANCEL_CAPABILITY ≠ NAV_CONTRACT := by decide

lemma follow_not_semantic : contractOf FOLLOW_DISTANCE_CAPABILITY ∉
    [NAV_CONTRACT, STATUS_CONTRACT, CANCEL_CONTRACT] := by decide

/-- The result of a call is of the contract of its capability. -/
lemma answer_of_decided (hdecided : decideLive lib store messages = .ok decision) {call : Call}
    (hcalled : call ∈ decision.rtdl.children) (hsemantic : isSemantic leaf = true)
    (hcontract : (PyValue.get leaf "contract_id").eqStr (contractOf call.cap) = true) :
    Answer lib messages leaf := by
  obtain ⟨view, hreads, hbacked⟩ := decideLive_backed hdecided
  have hactive : view.active = unended (turnRun lib messages) := by
    rw [View.active, hreads.run, turnRun]
  have hnamed := contract_of_eqStr lib hcontract
  cases hbacked.calls call hcalled with
  | navigates =>
    obtain ⟨hidle, hsame, -⟩ := hbacked.navigates ⟨_, hcalled, rfl⟩
    rw [hactive] at hidle
    refine ⟨fun _ => ⟨hidle, fun run hrun => ?_⟩, fun hother => absurd hnamed hother⟩
    have hterminal : view.terminal = some run := by
      rw [hrun] at hidle
      rw [View.terminal, hreads.run, ← turnRun, hrun]
      simpa using terminal_of_unended_eq_none hidle
    rw [← hreads.priorActive]
    exact hsame run hterminal
  | tracks cap run description known tracking =>
    rw [hactive, hreads.priorActive] at known
    have hother : leaf.contract lib ≠ NAV_CONTRACT := by
      rw [List.mem_cons, List.mem_singleton] at tracking
      rw [hnamed]
      rcases tracking with rfl | rfl
      · exact status_ne_nav
      · exact cancel_ne_nav
    refine ⟨fun hsame => absurd hsame hother, fun _ => ?_⟩
    rcases known with hturn | hprior
    · exact .inl (by rw [hturn]; simp)
    · exact .inr (by rw [hprior]; simp)
  | follows =>
    -- a follow distance has no result of semantic navigation
    rw [isSemantic, List.any_eq_true] at hsemantic
    obtain ⟨contract, hmem, hsame⟩ := hsemantic
    have hfollow := hnamed.symm.trans (contract_of_eqStr lib hsame)
    rw [← hfollow] at hmem
    exact absurd hmem follow_not_semantic

/-- What an answer makes of confirmed runs. -/
lemma LoopInv.answered_ended (h : LoopInv lib messages) {results : List Leaf}
    (hsame : ∀ result ∈ results, result = leaf) (hne : results ≠ [])
    (hanswer : Answer lib messages leaf) {before after : List Leaf} {result : Leaf}
    (hsplit : semanticResults lib messages ++ results = before ++ result :: after)
    (hconfirms : Confirms lib result runId) :
    (∃ end' ∈ result :: after, Ends lib end' runId) ∨
      ∃ run ∈ unended (advance lib (latestRun lib messages) leaf), run.runId = runId := by
  have hnew (hresult : result = leaf) :
      (∃ end' ∈ result :: after, Ends lib end' runId) ∨
        ∃ run ∈ unended (advance lib (latestRun lib messages) leaf), run.runId = runId := by
    obtain rfl := hresult
    obtain ⟨run, hid, hends, hadvance⟩ := advance_of_confirms hconfirms
    by_cases hterminal : run.Terminal
    · exact .inl ⟨result, List.mem_cons_self, hends hterminal⟩
    · refine .inr ⟨run, ?_, hid⟩
      rw [hadvance, unended_some hterminal]
      rfl
  rcases List.append_eq_append_iff.mp hsplit with ⟨middle, -, hresults⟩ | ⟨middle, hold, hrest⟩
  · exact hnew (hsame result (by rw [hresults]; simp))
  cases middle with
  | nil => exact hnew (hsame result (by rw [← List.nil_append results, ← hrest]; simp))
  | cons first rest =>
    obtain ⟨rfl, rfl⟩ := List.cons.inj hrest
    rcases h.ended before result rest runId hold hconfirms with ⟨x, hx, hends⟩ | ⟨run, hrun, rfl⟩
    · exact .inl ⟨x, List.mem_append_left results hx, hends⟩
    obtain ⟨hlatest, hactive⟩ := unended_eq_some hrun
    have hother : leaf.contract lib ≠ NAV_CONTRACT := by
      intro hnav
      rw [h.idle (hanswer.navigates hnav).1] at hrun
      cases hrun
    obtain ⟨run', hadvance, hid, hends⟩ := advance_some (fun _ h => hother h.contract) run
    rw [hlatest, hadvance]
    by_cases hterminal : run'.Terminal
    · rcases hends hterminal with hended | hends
      · exact absurd hended hactive
      · obtain ⟨x, hx⟩ := List.exists_mem_of_ne_nil results hne
        refine .inl ⟨leaf, ?_, hends⟩
        rw [← hsame x hx]
        exact List.mem_cons_of_mem _ (List.mem_append_right _ hx)
    · exact .inr ⟨run', by rw [unended_some hterminal]; rfl, hid⟩

/-- An answer keeps the invariant. -/
lemma LoopInv.answered (h : LoopInv lib messages) {message : Message}
    (hsame : ∀ result ∈ semanticResults lib [message], result = leaf)
    (hne : semanticResults lib [message] ≠ []) (hanswer : Answer lib messages leaf) :
    LoopInv lib (messages ++ [message]) := by
  have hlatest : latestRun lib (messages ++ [message]) =
      advance lib (latestRun lib messages) leaf := by
    rw [latestRun, semanticResults_append, advanceActive, List.foldl_append, ← advanceActive,
      ← advanceActive, advanceActive_of_forall_eq hsame hne]
    rfl
  have hended : ∀ before result after runId,
      semanticResults lib (messages ++ [message]) = before ++ result :: after →
        Confirms lib result runId →
          (∃ end' ∈ result :: after, Ends lib end' runId) ∨
            ∃ run ∈ unended (latestRun lib (messages ++ [message])), run.runId = runId := by
    intro before result after runId hsplit hconfirms
    rw [semanticResults_append] at hsplit
    rw [hlatest]
    exact h.answered_ended hsame hne hanswer hsplit hconfirms
  rcases turn_append lib messages message with ⟨hturn, -⟩ | ⟨hturn, hprior⟩
  · exact .of_begun hturn hended
  have hrun : turnRun lib (messages ++ [message]) = advance lib (turnRun lib messages) leaf := by
    rw [turnRun, hprior, hturn, advanceActive, List.foldl_append, ← advanceActive,
      ← advanceActive, advanceActive_of_forall_eq hsame hne]
    rfl
  have hadded {x : Leaf} (hx : x ∈ turnResults lib (messages ++ [message])) :
      x ∈ turnResults lib messages ∨ x = leaf := by
    rw [hturn, List.mem_append] at hx
    exact hx.imp_right (hsame x)
  refine ⟨hended, ?_, ?_, ?_⟩
  · rw [hprior, hrun, hlatest]
    intro hnone
    rcases h.known hnone with ⟨hidle, hunconfirmed⟩ | ⟨run, hturnRun, hlatestRun⟩
    · -- only a navigation can have been answered
      have hnav : leaf.contract lib = NAV_CONTRACT := by
        by_contra hother
        rcases hanswer.tracks hother with hactive | hactive
        · rw [hidle] at hactive
          exact hactive rfl
        · exact hactive hnone
      by_cases hconfirms : ∃ runId, Confirms lib leaf runId
      · obtain ⟨runId, hconfirms⟩ := hconfirms
        obtain ⟨run, -, -, hadvance⟩ := advance_of_confirms hconfirms
        exact .inr ⟨run, hadvance _, hadvance _⟩
      · push Not at hconfirms
        refine .inl ⟨?_, fun x hx => ?_⟩
        · rw [advance_of_unconfirmed hnav hconfirms]
          exact hidle
        · rcases hadded hx with hold | rfl
          · exact hunconfirmed x hold
          · exact ⟨hnav, hconfirms⟩
    · right
      rw [hturnRun, hlatestRun]
      by_cases hconfirms : ∃ runId, Confirms lib leaf runId
      · obtain ⟨runId, hconfirms⟩ := hconfirms
        obtain ⟨run', -, -, hadvance⟩ := advance_of_confirms hconfirms
        exact ⟨run', hadvance _, hadvance _⟩
      · push Not at hconfirms
        obtain ⟨run', hadvance, -, -⟩ := advance_some hconfirms run
        exact ⟨run', hadvance, hadvance⟩
  · intro x hx hunconfirmed
    rw [hturn, List.getLast?_append_of_ne_nil _ hne] at hx
    obtain rfl := hsame x (List.mem_of_getLast? hx)
    rw [hrun, advance_of_unconfirmed hunconfirmed.1 hunconfirmed.2]
    exact (hanswer.navigates hunconfirmed.1).1
  · rw [hprior, hrun]
    intro x hx runId hconfirms hnew
    by_cases hleaf : Confirms lib leaf runId
    · obtain ⟨run, hid, -, hadvance⟩ := advance_of_confirms hleaf
      exact ⟨run, hadvance _, hid⟩
    have hold : x ∈ turnResults lib messages := by
      rcases hadded hx with hold | rfl
      · exact hold
      · exact absurd hconfirms hleaf
    obtain ⟨run, hturnRun, rfl⟩ := h.goal x hold runId hconfirms hnew
    by_cases hnav : leaf.contract lib = NAV_CONTRACT
    · -- the run that was active before is no new one
      obtain ⟨prior, hprior, hid⟩ := (hanswer.navigates hnav).2 run hturnRun
      exact absurd hid (hnew prior hprior)
    · obtain ⟨run', hadvance, hid, -⟩ := advance_some (fun _ h => hnav h.contract) run
      rw [Option.mem_def.mp hturnRun]
      exact ⟨run', hadvance, hid⟩

/-- The invariant holds in every closed loop. -/
lemma loopInv {messages : List Message} (h : ClosedLoop lib store messages) :
    LoopInv lib messages := by
  induction h with
  | start => exact .of_begun rfl (by simp)
  | said _ silent ih => exact ih.said silent
  | @answered _ message _ _ _ _ decided called results contract ih =>
    by_cases hne : semanticResults lib [message] = []
    · exact ih.said hne
    · obtain ⟨result, hresult⟩ := List.exists_mem_of_ne_nil _ hne
      obtain rfl := results result hresult
      exact ih.answered results hne
        (answer_of_decided decided called (List.mem_filter.mp hresult).2 contract)

/-! ## Main results -/

variable (lib store)

end Loop

end UnitreeGo2.SemanticIntentRouter
