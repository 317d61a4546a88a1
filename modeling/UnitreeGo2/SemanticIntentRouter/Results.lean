import UnitreeGo2.SemanticIntentRouter.Decision

/-!
# What the results of a history say

A result may confirm a run, or report that one has ended.  The reduction of the results keeps the
run that was confirmed last, with what was reported of it.
-/

namespace UnitreeGo2.SemanticIntentRouter

section

variable (lib : Library)

/-! ## Runs of a history -/

/-- The result confirms that a run was started. -/
structure Confirms (leaf : Leaf) (runId : String) : Prop where
  contract : leaf.contract lib = NAV_CONTRACT
  names : runIdFromOutput lib (leaf.output lib) = runId
  named : runId ≠ ""
  confirmed : (navigationCompletionState lib (leaf.output lib)).isSome ∨
    leaf.succeeded ∧ isTrue (PyValue.get (leaf.output lib) "accepted")

/-- The state that the result of a status call reports. -/
def reportedState (leaf : Leaf) : Option RunState :=
  if leaf.succeeded ∧ isTrue (PyValue.get (leaf.output lib) "known") then
    RunState.ofName? (stateFromOutput lib (leaf.output lib))
  else none

/-- The result reports that a run has ended.  A status that names no run is about the one that was
polled. -/
def Ends (leaf : Leaf) (runId : String) : Prop :=
  leaf.contract lib = NAV_CONTRACT ∧ runIdFromOutput lib (leaf.output lib) = runId ∧
      (∃ state ∈ navigationCompletionState lib (leaf.output lib), state.Terminal) ∨
    leaf.contract lib = STATUS_CONTRACT ∧
      runIdFromOutput lib (leaf.output lib) ∈ ["", runId] ∧
      (∃ state ∈ reportedState lib leaf, state.Terminal)

/-- The result reports the state of a run that it does not name. -/
structure Nameless (leaf : Leaf) : Prop where
  contract : leaf.contract lib = NAV_CONTRACT
  succeeded : leaf.succeeded = true
  state : (navigationCompletionState lib (leaf.output lib)).isSome
  nameless : runIdFromOutput lib (leaf.output lib) = ""

/-- The run that was not known to have ended when the command came. -/
def priorActive (messages : List Message) : Option ActiveRun :=
  unended (advanceActive lib none (semanticResults lib (currentTurn lib messages).priorMessages))

/-- The results of the turn. -/
def turnResults (messages : List Message) : List Leaf :=
  semanticResults lib (currentTurn lib messages).feedbackMessages

/-- The latest run of a history. -/
def latestRun (messages : List Message) : Option ActiveRun :=
  advanceActive lib none (semanticResults lib messages)

/-- The latest run of a turn. -/
def turnRun (messages : List Message) : Option ActiveRun :=
  advanceActive lib (priorActive lib messages) (turnResults lib messages)

/-! ## Turns -/

variable {lib}

lemma lastCommand_append (messages : List Message) (message : Message) :
    lastCommand lib (messages ++ [message]) =
      if isCommand message then some (messages.length, lib.strip (messageText message))
      else lastCommand lib messages := by
  rw [lastCommand, List.zipIdx_append, List.foldl_append, ← lastCommand]
  simp

/-- The last command is one of the messages. -/
lemma lt_of_lastCommand {messages : List Message} {boundary : ℕ} {command : String}
    (h : lastCommand lib messages = some (boundary, command)) : boundary < messages.length := by
  induction messages using List.reverseRecOn with
  | nil => cases h
  | append_singleton messages message ih =>
    rw [lastCommand_append] at h
    rw [List.length_append, List.length_singleton]
    split at h
    · obtain ⟨rfl, -⟩ := Prod.mk.inj (Option.some.inj h)
      omega
    · have := ih h
      omega

lemma currentTurn_command {messages : List Message} {message : Message}
    (h : isCommand message = true) :
    currentTurn lib (messages ++ [message]) =
      ⟨lib.strip (messageText message), messages.length, messages, []⟩ := by
  rw [currentTurn, lastCommand_append, if_pos h]
  simp

variable (lib) in
lemma currentTurn_append (messages : List Message) {message : Message}
    (h : isCommand message = false) :
    (currentTurn lib (messages ++ [message])).priorMessages =
        (currentTurn lib messages).priorMessages ++
          (if lastCommand lib messages = none then [message] else []) ∧
      (currentTurn lib (messages ++ [message])).feedbackMessages =
        (currentTurn lib messages).feedbackMessages ++
          (if lastCommand lib messages = none then [] else [message].filter isFeedback) := by
  have hsame : lastCommand lib (messages ++ [message]) = lastCommand lib messages := by
    rw [lastCommand_append, h]
    simp
  cases hlast : lastCommand lib messages with
  | none => simp [currentTurn, hsame, hlast]
  | some found =>
    obtain ⟨boundary, command⟩ := found
    have hlt := lt_of_lastCommand hlast
    simp only [currentTurn, hsame, hlast]
    rw [List.take_append_of_le_length (by omega), List.drop_append_of_le_length (by omega),
      List.filter_append]
    simp

@[simp] lemma leafResults_nil : leafResults lib [] = [] := rfl

lemma semanticResults_append (messages messages' : List Message) :
    semanticResults lib (messages ++ messages') =
      semanticResults lib messages ++ semanticResults lib messages' := by
  rw [semanticResults, leafResults, List.flatMap_append, List.filter_append]
  rfl

@[simp] lemma semanticResults_nil : semanticResults lib [] = [] := rfl

/-- A message that is no feedback has no results. -/
lemma semanticResults_of_not_feedback {message : Message} (h : isFeedback message = false) :
    semanticResults lib [message] = [] := by
  simp [semanticResults, leafResults, messageResults, h]

lemma isFeedback_of_not_command {message : Message} (h : isCommand message = true) :
    isFeedback message = false := by
  rw [isCommand, Bool.and_eq_true] at h
  simpa using h.2

/-- The results of a history are those before its last command and those of its turn. -/
lemma semanticResults_turn (messages : List Message) :
    semanticResults lib messages =
      semanticResults lib (currentTurn lib messages).priorMessages ++ turnResults lib messages := by
  induction messages using List.reverseRecOn with
  | nil => rfl
  | append_singleton messages message ih =>
    rw [semanticResults_append, turnResults]
    by_cases hcommand : isCommand message = true
    · rw [currentTurn_command hcommand,
        semanticResults_of_not_feedback (isFeedback_of_not_command hcommand)]
      simp
    · rw [Bool.not_eq_true] at hcommand
      obtain ⟨hprior, hfeedback⟩ := currentTurn_append lib messages hcommand
      rw [hprior, hfeedback, semanticResults_append, semanticResults_append, ih, turnResults]
      by_cases hlast : lastCommand lib messages = none
      · have hnone : (currentTurn lib messages).feedbackMessages = [] := by
          rw [currentTurn, hlast]
        simp [hlast, hnone]
      · cases hmessage : isFeedback message with
        | true => simp [hlast, hmessage]
        | false => simp [hlast, hmessage, semanticResults_of_not_feedback hmessage]

/-! ## The reduction of results -/

variable {leaf : Leaf} {runId : String} {run : ActiveRun}

/-- A run that a result confirms becomes the latest one. -/
lemma advance_of_confirms (h : Confirms lib leaf runId) :
    ∃ run, run.runId = runId ∧ (run.Terminal → Ends lib leaf runId) ∧
      ∀ active, advance lib active leaf = some run := by
  obtain ⟨hcontract, rfl, hnamed, hconfirmed⟩ := h
  simp only [advance, if_pos hcontract, if_neg hnamed]
  cases hstate : navigationCompletionState lib (leaf.output lib) with
  | some state =>
    refine ⟨_, rfl, fun hterminal => ?_, fun _ => rfl⟩
    exact .inl ⟨hcontract, rfl, state, hstate, hterminal⟩
  | none =>
    have haccepted : leaf.succeeded ∧ isTrue (PyValue.get (leaf.output lib) "accepted") := by
      rcases hconfirmed with hsome | haccepted
      · rw [hstate] at hsome
        cases hsome
      · exact haccepted
    simp only [if_pos haccepted]
    refine ⟨_, rfl, fun hterminal => ?_, fun _ => rfl⟩
    -- a run that was only accepted is running
    have hrunning : ¬ RunState.running.Terminal := by decide
    exact absurd hterminal hrunning

/-- A result of a navigation that confirms no run changes nothing. -/
lemma advance_of_unconfirmed (hcontract : leaf.contract lib = NAV_CONTRACT)
    (h : ∀ runId, ¬ Confirms lib leaf runId) (active : Option ActiveRun) :
    advance lib active leaf = active := by
  simp only [advance, if_pos hcontract]
  by_cases hnamed : runIdFromOutput lib (leaf.output lib) = ""
  · rw [if_pos hnamed]
  · rw [if_neg hnamed]
    cases hstate : navigationCompletionState lib (leaf.output lib) with
    | some state => exact absurd ⟨hcontract, rfl, hnamed, .inl (by rw [hstate]; rfl)⟩ (h _)
    | none =>
      refine if_neg fun haccepted => ?_
      exact h _ ⟨hcontract, rfl, hnamed, .inr haccepted⟩

variable (lib) in
lemma advance_of_unreported (hcontract : leaf.contract lib ≠ NAV_CONTRACT)
    (h : leaf.contract lib = STATUS_CONTRACT → reportedState lib leaf = none)
    (active : Option ActiveRun) : advance lib active leaf = active := by
  simp only [advance, if_neg hcontract]
  by_cases hstatus : leaf.contract lib = STATUS_CONTRACT
  · have hnone := h hstatus
    rw [reportedState] at hnone
    rw [if_pos hstatus]
    cases hsucceeded : leaf.succeeded with
    | false => rfl
    | true =>
      cases hknown : isTrue (PyValue.get (leaf.output lib) "known") with
      | false => cases RunState.ofName? (stateFromOutput lib (leaf.output lib)) <;> rfl
      | true =>
        rw [if_pos ⟨hsucceeded, hknown⟩] at hnone
        rw [hnone]
        rfl
  · rw [if_neg hstatus]

lemma advance_of_reported {state : RunState} (hcontract : leaf.contract lib = STATUS_CONTRACT)
    (h : reportedState lib leaf = some state) (active : Option ActiveRun) :
    advance lib active leaf =
      active.elim
        (if runIdFromOutput lib (leaf.output lib) ≠ "" then
          some ⟨runIdFromOutput lib (leaf.output lib), targetFromOutput lib (leaf.output lib),
            state⟩
        else none)
        (fun run =>
          if runIdFromOutput lib (leaf.output lib) ≠ "" ∧
              runIdFromOutput lib (leaf.output lib) ≠ run.runId then some run
          else
            some ⟨run.runId, if targetFromOutput lib (leaf.output lib) ≠ "" then
              targetFromOutput lib (leaf.output lib) else run.target, state⟩) := by
  have hnav : leaf.contract lib ≠ NAV_CONTRACT := by
    rw [hcontract]
    decide
  rw [reportedState] at h
  split at h
  · rename_i hreported
    simp only [advance, if_neg hnav, if_pos hcontract, hreported.1, hreported.2, h]
    cases active <;> rfl
  · cases h

/-- A result that confirms no run leaves the latest run, or reports another state of it. -/
lemma advance_some (h : ∀ runId, ¬ Confirms lib leaf runId) (run : ActiveRun) :
    ∃ run', advance lib (some run) leaf = some run' ∧ run'.runId = run.runId ∧
      (run'.Terminal → run.Terminal ∨ Ends lib leaf run.runId) := by
  by_cases hnav : leaf.contract lib = NAV_CONTRACT
  · exact ⟨run, advance_of_unconfirmed hnav h _, rfl, .inl⟩
  by_cases hstatus : leaf.contract lib = STATUS_CONTRACT
  · cases hstate : reportedState lib leaf with
    | none => exact ⟨run, advance_of_unreported lib hnav (fun _ => hstate) _, rfl, .inl⟩
    | some state =>
      rw [advance_of_reported hstatus hstate, Option.elim_some]
      by_cases hother : runIdFromOutput lib (leaf.output lib) ≠ "" ∧
          runIdFromOutput lib (leaf.output lib) ≠ run.runId
      · exact ⟨run, if_pos hother, rfl, .inl⟩
      · refine ⟨_, if_neg hother, rfl, fun hterminal => .inr (.inr ⟨hstatus, ?_, ?_⟩)⟩
        · simp only [List.mem_cons, List.not_mem_nil, or_false]
          tauto
        · exact ⟨state, hstate, hterminal⟩
  · exact ⟨run, advance_of_unreported lib hnav (fun h => absurd h hstatus) _, rfl, .inl⟩

variable (lib) in
/-- A run that is known is not forgotten. -/
lemma advanceActive_some (leaves : List Leaf) (run : ActiveRun) :
    ∃ run', advanceActive lib (some run) leaves = some run' := by
  induction leaves generalizing run with
  | nil => exact ⟨run, rfl⟩
  | cons leaf leaves ih =>
    rw [advanceActive, List.foldl_cons]
    by_cases hconfirms : ∃ runId, Confirms lib leaf runId
    · obtain ⟨runId, hconfirms⟩ := hconfirms
      obtain ⟨run', -, -, hadvance⟩ := advance_of_confirms hconfirms
      rw [hadvance]
      exact ih run'
    · push Not at hconfirms
      obtain ⟨run', hadvance, -, -⟩ := advance_some hconfirms run
      rw [hadvance]
      exact ih run'

/-- A run that is known to have ended was so before, or the result says so. -/
lemma ends_of_advance {active : Option ActiveRun} (h : advance lib active leaf = some run)
    (hterminal : run.Terminal) :
    (∃ before ∈ active, before.runId = run.runId ∧ before.Terminal) ∨ Ends lib leaf run.runId := by
  by_cases hconfirms : ∃ runId, Confirms lib leaf runId
  · obtain ⟨runId, hconfirms⟩ := hconfirms
    obtain ⟨run', rfl, hends, heq⟩ := advance_of_confirms hconfirms
    obtain rfl := Option.some.inj (h.symm.trans (heq active))
    exact .inr (hends hterminal)
  push Not at hconfirms
  cases active with
  | some before =>
    obtain ⟨run', heq, hid, hends⟩ := advance_some hconfirms before
    obtain rfl := Option.some.inj (h.symm.trans heq)
    rcases hends hterminal with hbefore | hends
    · exact .inl ⟨before, rfl, hid.symm, hbefore⟩
    · exact .inr (by rw [hid]; exact hends)
  | none =>
    by_cases hnav : leaf.contract lib = NAV_CONTRACT
    · rw [advance_of_unconfirmed hnav hconfirms] at h
      cases h
    by_cases hstatus : leaf.contract lib = STATUS_CONTRACT
    · cases hstate : reportedState lib leaf with
      | none =>
        rw [advance_of_unreported lib hnav fun _ => hstate] at h
        cases h
      | some state =>
        rw [advance_of_reported hstatus hstate, Option.elim_none] at h
        split at h
        · obtain rfl := Option.some.inj h
          exact .inr (.inr ⟨hstatus, by simp, state, hstate, hterminal⟩)
        · cases h
    · rw [advance_of_unreported lib hnav fun h => absurd h hstatus] at h
      cases h

/-- The run that the results leave as ended was so before, or one of them says so. -/
lemma ends_of_advanceActive {active : Option ActiveRun} {leaves : List Leaf}
    (h : advanceActive lib active leaves = some run) (hterminal : run.Terminal) :
    (∃ before ∈ active, before.runId = run.runId ∧ before.Terminal) ∨
      ∃ leaf ∈ leaves, Ends lib leaf run.runId := by
  induction leaves using List.reverseRecOn generalizing run with
  | nil => exact .inl ⟨run, h, rfl, hterminal⟩
  | append_singleton leaves leaf ih =>
    rw [advanceActive, List.foldl_append] at h
    rcases ends_of_advance h hterminal with ⟨before, hbefore, hid, hended⟩ | hends
    · rw [← hid]
      rcases ih hbefore hended with hstart | ⟨result, hresult, hends⟩
      · exact .inl hstart
      · exact .inr ⟨result, by simp [hresult], hends⟩
    · exact .inr ⟨leaf, by simp, hends⟩

/-- Results of navigations that confirm no run change nothing. -/
lemma advanceActive_of_unconfirmed {leaves : List Leaf}
    (h : ∀ leaf ∈ leaves, leaf.contract lib = NAV_CONTRACT ∧ ∀ runId, ¬ Confirms lib leaf runId)
    (active : Option ActiveRun) : advanceActive lib active leaves = active := by
  induction leaves generalizing active with
  | nil => rfl
  | cons leaf leaves ih =>
    obtain ⟨hcontract, hunconfirmed⟩ := h leaf List.mem_cons_self
    rw [advanceActive, List.foldl_cons, advance_of_unconfirmed hcontract hunconfirmed]
    exact ih (fun leaf hleaf => h leaf (List.mem_cons_of_mem _ hleaf)) active

/-- A result that is listed again changes nothing more. -/
lemma advance_advance (active : Option ActiveRun) (leaf : Leaf) :
    advance lib (advance lib active leaf) leaf = advance lib active leaf := by
  by_cases hconfirms : ∃ runId, Confirms lib leaf runId
  · obtain ⟨runId, hconfirms⟩ := hconfirms
    obtain ⟨run, -, -, heq⟩ := advance_of_confirms hconfirms
    rw [heq, heq]
  push Not at hconfirms
  by_cases hnav : leaf.contract lib = NAV_CONTRACT
  · rw [advance_of_unconfirmed hnav hconfirms, advance_of_unconfirmed hnav hconfirms]
  by_cases hstatus : leaf.contract lib = STATUS_CONTRACT
  · cases hstate : reportedState lib leaf with
    | none =>
      have hsame := advance_of_unreported lib hnav fun _ => hstate
      rw [hsame, hsame]
    | some state =>
      rw [advance_of_reported hstatus hstate, advance_of_reported hstatus hstate]
      cases active with
      | none => by_cases hnamed : runIdFromOutput lib (leaf.output lib) = "" <;> simp [hnamed]
      | some run =>
        by_cases hother : runIdFromOutput lib (leaf.output lib) ≠ "" ∧
          runIdFromOutput lib (leaf.output lib) ≠ run.runId
        · simp [hother]
        · simp only [Option.elim_some, if_neg hother]
          by_cases htarget : targetFromOutput lib (leaf.output lib) = "" <;> simp [htarget]
  · have hsame := advance_of_unreported lib hnav fun h => absurd h hstatus
    rw [hsame, hsame]

/-- A message that lists one result, however often, is reduced as that result. -/
lemma advanceActive_of_forall_eq {results : List Leaf} (h : ∀ result ∈ results, result = leaf)
    (hne : results ≠ []) (active : Option ActiveRun) :
    advanceActive lib active results = advance lib active leaf := by
  induction results generalizing active with
  | nil => exact absurd rfl hne
  | cons result results ih =>
    obtain rfl := h result List.mem_cons_self
    rw [advanceActive, List.foldl_cons]
    by_cases hrest : results = []
    · rw [hrest]
      rfl
    · have hfold := ih (fun x hx => h x (List.mem_cons_of_mem _ hx)) hrest
        (advance lib active result)
      rw [advanceActive] at hfold
      rw [hfold, advance_advance]

/-! ## Runs that may be moving -/

lemma unended_eq_some {active : Option ActiveRun} (h : unended active = some run) :
    active = some run ∧ ¬ run.Terminal := by
  rw [unended, Option.filter_eq_some_iff] at h
  exact ⟨h.1, of_decide_eq_true h.2⟩

lemma unended_some (h : ¬ run.Terminal) : unended (some run) = some run := by
  simp [unended, h]

lemma terminal_of_unended_eq_none (h : unended (some run) = none) : run.Terminal := by
  by_contra hactive
  rw [unended_some hactive] at h
  cases h

/-- The results of a history are those before its turn and those of its turn. -/
lemma latestRun_eq (messages : List Message) :
    latestRun lib messages =
      advanceActive lib
        (advanceActive lib none
          (semanticResults lib (currentTurn lib messages).priorMessages))
        (turnResults lib messages) := by
  rw [latestRun, semanticResults_turn, advanceActive, List.foldl_append]
  rfl

variable (lib) in
/-- A message begins a turn, or adds its results to the turn. -/
lemma turn_append (messages : List Message) (message : Message) :
    turnResults lib (messages ++ [message]) = [] ∧
        priorActive lib (messages ++ [message]) =
          unended (latestRun lib (messages ++ [message])) ∨
      turnResults lib (messages ++ [message]) =
          turnResults lib messages ++ semanticResults lib [message] ∧
        priorActive lib (messages ++ [message]) = priorActive lib messages := by
  cases hcommand : isCommand message with
  | true =>
    left
    rw [turnResults, priorActive, currentTurn_command hcommand, latestRun, semanticResults_append,
      semanticResults_of_not_feedback (isFeedback_of_not_command hcommand), List.append_nil]
    exact ⟨rfl, rfl⟩
  | false =>
    obtain ⟨hprior, hfeedback⟩ := currentTurn_append lib messages hcommand
    by_cases hlast : lastCommand lib messages = none
    · left
      have hturn : turnResults lib (messages ++ [message]) = [] := by
        rw [turnResults, hfeedback, currentTurn, hlast]
        simp
      refine ⟨hturn, ?_⟩
      rw [latestRun, semanticResults_turn, hturn, List.append_nil]
      rfl
    · right
      rw [turnResults, priorActive, hprior, hfeedback, if_neg hlast, if_neg hlast, List.append_nil,
        semanticResults_append]
      refine ⟨?_, rfl⟩
      cases hmessage : isFeedback message with
      | true => simp [turnResults, hmessage]
      | false => simp [turnResults, hmessage, semanticResults_of_not_feedback hmessage]

variable (lib) in
lemma contract_of_eqStr {contract : String}
    (h : (PyValue.get leaf "contract_id").eqStr contract = true) :
    leaf.contract lib = contract := by
  rw [PyValue.get] at h
  rw [Leaf.contract, SemanticNavigation.getOr]
  cases hlookup : leaf.lookup "contract_id" with
  | none =>
    rw [hlookup] at h
    cases h
  | some value =>
    rw [hlookup, Option.getD_some] at h
    cases value with
    | str text => exact of_decide_eq_true h
    | _ => cases h

end

end UnitreeGo2.SemanticIntentRouter
