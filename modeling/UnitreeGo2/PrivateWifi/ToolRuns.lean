import UnitreeGo2.PrivateWifi.RollbackRuns
import UnitreeGo2.PrivateWifi.CheckRuns

/-!
# What a run of the private Wi-Fi tool leaves behind

The tool looks before it changes anything, then arms the rollback, and from there on every way
out leads through one rollback.  What the rollback has reached is in the log when the tool exits,
and only a rollback that restored everything lets the exit code tell of anything but an error.
-/

namespace UnitreeGo2.PrivateWifi

open Script (ask get modify raise tryCatch ensure loop Adds)

variable {α β : Type} {s s' : Workflow} {state : ConnectionState} {lib : Library}

/-! ## Before the rollback is armed -/

/-- The profiles of the state were read as the active ones, and the target is another one. -/
def Read (lib : Library) (state : ConnectionState) (l : List LogStep) : Prop :=
  (∃ y ∈ l, ActiveIs lib WIFI_INTERFACE state.campusUuid y) ∧
  (∃ y ∈ l, ActiveIs lib WIRED_INTERFACE state.wiredUuid y) ∧
  state.targetUuid ≠ state.campusUuid

/-- What is known when `preflight` ends. -/
def Preflown (lib : Library) (s : Workflow) (exit : Exit Raised ConnectionState) (s' : Workflow)
    (seg : List LogStep) : Prop :=
  Watches s seg ∧ (Same s s' ∧ (∀ value, exit ≠ .returned value) ∨
    ∃ state, exit = .returned state ∧ Same { s with state := some state } s' ∧
      Read lib state seg)

/-- A last part of `preflight`, after the log so far. -/
def Flies (lib : Library) (s₀ : Workflow) (x : Action ConnectionState) (l : List LogStep) : Prop :=
  ∀ s, Same s₀ s → Watches s₀ l → Does x (fun exit s' seg => Preflown lib s₀ exit s' (l ++ seg)) s

variable {s₀ : Workflow} {l : List LogStep}

lemma Flies.raise {error : Raised} : Flies lib s₀ (raise error) l := by
  intro s hs hl
  refine Adds.raise ?_
  rw [List.append_nil]
  exact ⟨hl, Or.inl ⟨hs, fun _ h => by cases h⟩⟩

lemma Flies.ite {c : Prop} [Decidable c] {x x' : Action ConnectionState}
    (hx : c → Flies lib s₀ x l) (hx' : ¬ c → Flies lib s₀ x' l) :
    Flies lib s₀ (if c then x else x') l := by
  split_ifs with h
  · exact hx h
  · exact hx' h

lemma watches_of_leaves {seg : List LogStep}
    (h : ∀ y ∈ seg, Same s y.pre ∧ Within (fun argv => ¬ ChangesLinks argv) y.call) :
    Watches s seg := by
  intro y hy
  refine ⟨(h y hy).1, ?_⟩
  rintro ⟨argv, timeout, interactive, hcall, hchanges⟩
  exact (h y hy).2 argv timeout interactive hcall hchanges

lemma Flies.skip {x : Action α} {f : α → Action ConnectionState} (hx : Inspects x)
    (hf : ∀ value l', l ⊆ l' → Flies lib s₀ (f value) l') : Flies lib s₀ (x >>= f) l := by
  intro s hs hl
  have hmore : ∀ seg, (∀ y ∈ seg, Same s y.pre ∧
      Within (fun argv => ¬ ChangesLinks argv) y.call) → Watches s₀ (l ++ seg) :=
    fun seg hseg => hl.append ((watches_of_leaves hseg).same hs)
  refine Adds.bind (hx s) ?_ ?_ ?_
  · rintro value s' seg ⟨hsame, hseg⟩
    refine (hf value _ (List.subset_append_left _ _) s' (hs.trans hsame) (hmore seg hseg)).mono ?_
    intro exit s'' seg' h
    rwa [List.append_assoc] at h
  · rintro error s' seg ⟨hsame, hseg⟩
    exact ⟨hmore seg hseg, Or.inl ⟨hs.trans hsame, fun _ h => by cases h⟩⟩
  · rintro s' seg ⟨hsame, hseg⟩
    exact ⟨hmore seg hseg, Or.inl ⟨hs.trans hsame, fun _ h => by cases h⟩⟩

lemma Flies.active {interface operation : String} {f : String → Action ConnectionState}
    (hf : ∀ uuid l', l ⊆ l' → (∃ y ∈ l', ActiveIs lib interface uuid y) →
      Flies lib s₀ (f uuid) l') :
    Flies lib s₀ (activeUuid lib interface operation >>= f) l := by
  intro s hs hl
  refine Does.query (asks_activeUuid lib interface operation) (ordinary_uuid lib operation)
    (not_changes_activeUuidArgv interface) ?_ ?_
  · intro exit s' seg hsame hseg hfails
    refine ⟨hl.append (hseg.same hs), Or.inl ⟨hs.trans hsame, ?_⟩⟩
    rintro value rfl
    rcases hfails with hstop | ⟨error, -, herror⟩
    · exact not_stopped_returned hstop
    · cases herror
  · intro uuid s' y hsame hy hcall huuid
    have hread : ActiveIs lib interface uuid y := activeIs_of_judge lib hcall huuid
    have hwatch : Watches s₀ (l ++ [y]) := hl.append (watches_singleton (hs.trans hy)
      (not_changes_of_call hcall (not_changes_activeUuidArgv interface)))
    refine (hf uuid (l ++ [y]) (List.subset_append_left _ _)
      ⟨y, List.mem_append_right _ (List.mem_singleton_self y), hread⟩ s' (hs.trans hsame)
      hwatch).mono ?_
    intro exit s'' seg h
    rwa [List.append_assoc] at h

lemma flies_state (hread : Read lib state l) :
    Flies lib s₀ (do
      modify fun w => { w with state := some state }
      return state) l := by
  intro s hs hl
  refine Adds.modify_bind (Adds.pure ?_)
  rw [List.append_nil]
  refine ⟨hl, Or.inr ⟨state, rfl, ?_, hread⟩⟩
  exact ⟨hs.deferDepth, rfl, hs.rollbackArmed, hs.rollbackStarted⟩

lemma preflown_preflight (environ : String → Option String) :
    Does (preflight lib environ) (Preflown lib s) s := by
  have hflies : Flies lib s (preflight lib environ) [] := by
    refine Flies.skip (Leaves.check _) fun _ l₀ _ => ?_
    refine Flies.skip inspects_validateInterfaces fun _ l₁ _ => ?_
    refine Flies.active fun campusUuid l₂ _ hcampus => ?_
    refine Flies.skip (inspects_nmValue lib _ _ _) fun campusType l₃ h₃ => ?_
    refine Flies.skip (inspects_nmValue lib _ _ _) fun campusSsid l₄ h₄ => ?_
    refine Flies.ite (fun _ => Flies.raise) fun _ => ?_
    refine Flies.skip (inspects_program _ _) fun campusDefault l₅ h₅ => ?_
    refine Flies.ite (fun _ => Flies.raise) fun _ => ?_
    refine Flies.active fun wiredUuid l₆ h₆ hwired => ?_
    refine Flies.skip (inspects_findTargetUuid lib) fun targetUuid l₇ h₇ => ?_
    refine Flies.ite (fun _ => Flies.raise) fun hother => ?_
    refine Flies.skip (inspects_validateTargetProfile lib _) fun _ l₈ h₈ => ?_
    refine Flies.skip (inspects_validateWiredProfile lib _) fun _ l₉ h₉ => ?_
    refine Flies.skip (inspects_allIpv4Addresses lib) fun records l₁₀ h₁₀ => ?_
    refine Flies.skip (Leaves.check _) fun _ l₁₁ h₁₁ => ?_
    refine Flies.ite (fun _ => Flies.raise) fun _ => ?_
    refine flies_state ⟨?_, ?_, hother⟩
    · obtain ⟨y, hy, hactive⟩ := hcampus
      exact ⟨y, h₁₁ (h₁₀ (h₉ (h₈ (h₇ (h₆ (h₅ (h₄ (h₃ hy)))))))), hactive⟩
    · obtain ⟨y, hy, hactive⟩ := hwired
      exact ⟨y, h₁₁ (h₁₀ (h₉ (h₈ (h₇ hy)))), hactive⟩
  exact hflies s (Same.refl s) watches_nil

/-! ## While the private network is up -/

lemma leaves_deactivate (uuid operation : String) :
    Leaves (fun argv => ¬ IsWiredUp argv) (deactivate uuid operation) :=
  (asks_deactivate uuid operation).leaves (not_isWiredUp_down uuid)

lemma leaves_activateWifi (uuid operation : String) :
    Leaves (fun argv => ¬ IsWiredUp argv) (activate uuid WIFI_INTERFACE operation) :=
  (asks_activate uuid WIFI_INTERFACE operation).leaves (not_isWiredUp_wifi false uuid)

lemma leaves_activateTargetInteractive (uuid : String) :
    Leaves (fun argv => ¬ IsWiredUp argv) (activateTargetInteractive uuid) :=
  ((asks_runCommand _ _ _ true).leaves (not_isWiredUp_wifi true uuid)).bind
    fun _ => Leaves.pure _

lemma Inspects.leaves {x : Action α} (h : Inspects x) :
    Leaves (fun argv => ¬ IsWiredUp argv) x := by
  refine Leaves.mono h fun argv hquiet => ?_
  rintro ⟨ask, uuid, rfl⟩
  exact hquiet ⟨uuid, Or.inr ⟨ask, WIRED_INTERFACE, rfl⟩⟩

lemma inspects_hold (deadline : ℚ) : Inspects (hold lib deadline) := by
  refine Leaves.loop (fun _ => ?_) ()
  refine inspects_path (fun _ _ _ h => by cases h) rfl fun now => Leaves.ite ?_ (Leaves.pure _)
  refine inspects_path (fun _ _ _ h => by cases h) rfl fun later => ?_
  refine inspects_path (fun _ _ _ h => by cases h) rfl fun _ => ?_
  refine Leaves.signals.bind fun _ => ?_
  exact (inspects_validatePrivateState lib).bind fun _ => Leaves.pure _

lemma leaves_validation (holdSeconds : ℕ) (interactiveTarget : Bool) (state : ConnectionState) :
    Leaves (fun argv => ¬ IsWiredUp argv)
      (validation lib holdSeconds interactiveTarget state) := by
  have hheld : Inspects (do
      validatePrivateRuntime lib
      let now ← ask .monotonic
      hold lib (now.time + holdSeconds)) :=
    (inspects_validatePrivateRuntime lib).bind fun _ =>
      inspects_path (fun _ _ _ h => by cases h) rfl fun now => inspects_hold _
  refine (leaves_deactivate _ _).bind fun _ => Leaves.ite ?_ ?_
  · exact (leaves_activateTargetInteractive _).bind fun _ => hheld.leaves
  · exact (leaves_activateWifi _ _).bind fun _ => hheld.leaves

/-! ## The rollback -/

lemma does_deferred {x : Action α} {P : Exit Raised α → Workflow → List LogStep → Prop}
    (hx : Does x P { s with deferDepth := s.deferDepth + 1 })
    (hraised : ∀ error s' seg, ¬ P (.raised error) s' seg) :
    Does (deferred x) (fun exit s' seg => ∃ s'', P exit s'' seg ∧
      (exit = .running ∧ s' = s'' ∨ s' = { s'' with deferDepth := s''.deferDepth - 1 })) s := by
  refine Adds.modify_bind ?_
  refine Adds.bind (P := P) ?_ ?_ ?_ ?_
  · exact Adds.tryCatch hx (fun _ _ _ h => h)
      (fun error s' seg h => absurd h (hraised error s' seg)) fun _ _ h => h
  · intro value s' seg h
    refine Adds.modify_bind (Adds.pure ?_)
    rw [List.append_nil]
    exact ⟨s', h, Or.inr rfl⟩
  · exact fun error s' seg h => absurd h (hraised error s' seg)
  · exact fun s' seg h => ⟨s', h, Or.inl ⟨rfl, rfl⟩⟩

/-- The rollback is under way: every call so far was made while signals were deferred. -/
structure RollingBack (lib : Library) (state : ConnectionState) (w : Workflow)
    (seg : List LogStep) : Prop where
  current : w.state = some state
  started : w.rollbackStarted = true
  pre : ∀ y ∈ seg, y.pre.rollbackArmed = true ∧ y.pre.rollbackStarted = true ∧
    y.pre.deferDepth = 1
  gated : Gated lib seg

/-- The rollback is over, with that result. -/
structure Finished (lib : Library) (state : ConnectionState) (result : Bool × Bool)
    (w : Workflow) (seg : List LogStep) : Prop extends RollingBack lib state w seg where
  armed : w.rollbackArmed = false
  deferDepth : w.deferDepth = 0
  rolledBack : RolledBack lib state result seg

/-- The tool has armed the rollback, and has not begun it. -/
structure Armed (state : ConnectionState) (w : Workflow) : Prop where
  state : w.state = some state
  armed : w.rollbackArmed = true
  started : w.rollbackStarted = false
  deferDepth : w.deferDepth = 0

lemma Armed.same (h : Armed state s) (hs : Same s s') : Armed state s' :=
  ⟨hs.state.trans h.state, hs.rollbackArmed.trans h.armed, hs.rollbackStarted.trans h.started,
    hs.deferDepth.trans h.deferDepth⟩

/-- How a rollback ends that is over. -/
def exitOfRollback (result : Bool × Bool) : Exit Raised Unit :=
  if result.1 then .returned () else .raised (.switchError (incomplete result.2))

lemma does_rollback (h : Armed state s) :
    Does (rollback lib) (fun exit s' seg => exit = .running ∧ RollingBack lib state s' seg ∨
      ∃ result, exit = exitOfRollback result ∧ Finished lib state result s' seg) s := by
  refine Adds.get_bind ?_
  rw [h.state]
  dsimp only
  rw [if_neg (by rw [h.armed, h.started]; decide)]
  refine Adds.modify_bind ?_
  let s₀ : Workflow := { s with rollbackStarted := true, deferDepth := s.deferDepth + 1 }
  have hrolls : Rolls lib s₀ (restore lib state) (RolledBack lib state) [] :=
    rolls_restore (Nat.succ_ne_zero _) h.state
  have hpre : ∀ seg, Rolled lib s₀ seg → ∀ y ∈ seg, y.pre.rollbackArmed = true ∧
      y.pre.rollbackStarted = true ∧ y.pre.deferDepth = 1 := by
    intro seg hseg y hy
    have hsame := hseg.same y hy
    refine ⟨hsame.rollbackArmed.trans h.armed, hsame.rollbackStarted, ?_⟩
    rw [hsame.deferDepth]
    show s.deferDepth + 1 = 1
    rw [h.deferDepth]
  refine Adds.bind (does_deferred (hrolls s₀ (Same.refl s₀) rolled_nil) ?_) ?_ ?_ ?_
  · rintro error s' seg ⟨-, -, hrunning | ⟨value, hvalue, -⟩⟩
    · cases hrunning
    · cases hvalue
  · rintro result s' seg ⟨s'', ⟨hsame, hrolled, hexit⟩, hs'⟩
    rcases hexit with hrunning | ⟨result', hresult, hback⟩
    · cases hrunning
    cases hresult
    rcases hs' with ⟨hrunning, -⟩ | rfl
    · cases hrunning
    refine Adds.modify_bind ?_
    have hfinished : Finished lib state result
        { s'' with deferDepth := s''.deferDepth - 1, rollbackArmed := false } seg := by
      refine ⟨⟨hsame.state.trans h.state, hsame.rollbackStarted, hpre seg hrolled,
        hrolled.gated⟩, rfl, ?_, hback⟩
      show s''.deferDepth - 1 = 0
      rw [hsame.deferDepth]
      show s.deferDepth + 1 - 1 = 0
      rw [h.deferDepth]
    split_ifs with hrestored
    · refine Adds.pure (Or.inr ⟨result, ?_, ?_⟩)
      · rw [exitOfRollback, if_pos hrestored]
      · rwa [List.append_nil]
    · refine Adds.raise (Or.inr ⟨result, ?_, ?_⟩)
      · rw [exitOfRollback, if_neg hrestored]
      · rwa [List.append_nil]
  · rintro error s' seg ⟨s'', ⟨-, -, hrunning | ⟨value, hvalue, -⟩⟩, -⟩
    · cases hrunning
    · cases hvalue
  · rintro s' seg ⟨s'', ⟨hsame, hrolled, -⟩, hs'⟩
    refine Or.inl ⟨rfl, ?_, ?_, hpre seg hrolled, hrolled.gated⟩
    · rcases hs' with ⟨-, rfl⟩ | rfl
      · exact hsame.state.trans h.state
      · exact hsame.state.trans h.state
    · rcases hs' with ⟨-, rfl⟩ | rfl
      · exact hsame.rollbackStarted
      · exact hsame.rollbackStarted

/-- The end of `execute`: an incomplete rollback is an error of the tool. -/
def Concluded (lib : Library) (state : ConnectionState) (exit : Exit Raised Unit) (w : Workflow)
    (seg : List LogStep) : Prop :=
  RollingBack lib state w seg ∧ (exit = .running ∨ ∃ result, Finished lib state result w seg ∧
    (result.1 = false → ∃ text, exit = .raised (.switchError text)))

lemma does_conclude (h : Armed state s) (primaryError : Option Raised) :
    Does (conclude lib primaryError) (Concluded lib state) s := by
  let P (exit : Exit Raised Unit) (s' : Workflow) (seg : List LogStep) : Prop :=
    exit = .running ∧ RollingBack lib state s' seg ∨
      ∃ result, Finished lib state result s' seg ∧ (result.1 = true ∧ exit = .returned () ∨
        result.1 = false ∧ ∃ text, exit = .raised (.switchError text))
  refine Adds.bind (P := P) ?_ ?_ ?_ ?_
  · refine Adds.tryCatch (does_rollback h) ?_ ?_ ?_
    · rintro value s' seg (⟨hrunning, -⟩ | ⟨result, hresult, hfinished⟩)
      · cases hrunning
      · rw [exitOfRollback] at hresult
        split_ifs at hresult with hrestored
        exact Or.inr ⟨result, hfinished, Or.inl ⟨hrestored, rfl⟩⟩
    · rintro error s' seg (⟨hrunning, -⟩ | ⟨result, hresult, hfinished⟩)
      · cases hrunning
      · rw [exitOfRollback] at hresult
        split_ifs at hresult with hrestored
        cases hresult
        cases primaryError with
        | none =>
          refine Adds.raise (Or.inr ⟨result, ?_, Or.inr ⟨eq_false_of_ne_true hrestored, _, rfl⟩⟩)
          rwa [List.append_nil]
        | some error =>
          refine Adds.raise (Or.inr ⟨result, ?_, Or.inr ⟨eq_false_of_ne_true hrestored, _, rfl⟩⟩)
          rwa [List.append_nil]
    · rintro s' seg (hrunning | ⟨result, hresult, -⟩)
      · exact Or.inl hrunning
      · rw [exitOfRollback] at hresult
        split_ifs at hresult
  · rintro value s' seg (⟨hrunning, -⟩ | ⟨result, hfinished, ⟨hrestored, -⟩ | ⟨-, text, htext⟩⟩)
    · cases hrunning
    · have hcomplete : result.1 ≠ false := ne_of_eq_of_ne hrestored (by decide)
      cases primaryError with
      | some error =>
        refine Adds.raise ?_
        rw [List.append_nil]
        exact ⟨hfinished.toRollingBack, Or.inr ⟨result, hfinished, fun h => absurd h hcomplete⟩⟩
      | none =>
        refine (does_raiseIfPending s').mono ?_
        rintro exit s'' seg' ⟨hsame, rfl, -⟩
        rw [List.append_nil]
        have hlast : Finished lib state result s'' seg :=
          ⟨⟨hsame.state.trans hfinished.current, hsame.rollbackStarted.trans hfinished.started,
            hfinished.pre, hfinished.gated⟩, hsame.rollbackArmed.trans hfinished.armed,
            hsame.deferDepth.trans hfinished.deferDepth, hfinished.rolledBack⟩
        exact ⟨hlast.toRollingBack, Or.inr ⟨result, hlast, fun h => absurd h hcomplete⟩⟩
    · cases htext
  · rintro error s' seg (⟨hrunning, -⟩ | ⟨result, hfinished, ⟨-, hreturned⟩ | ⟨-, text, htext⟩⟩)
    · cases hrunning
    · cases hreturned
    · cases htext
      exact ⟨hfinished.toRollingBack, Or.inr ⟨result, hfinished, fun _ => ⟨text, rfl⟩⟩⟩
  · rintro s' seg (⟨-, hrolling⟩ | ⟨result, hfinished, -⟩)
    · exact ⟨hrolling, Or.inl rfl⟩
    · exact ⟨hfinished.toRollingBack, Or.inl rfl⟩

lemma does_rollback_idle (h : s.rollbackArmed = false) :
    Does (rollback lib) (fun exit s' seg => exit = .returned () ∧ s' = s ∧ seg = []) s := by
  refine Adds.get_bind ?_
  cases s.state with
  | none => exact Adds.pure ⟨rfl, rfl, rfl⟩
  | some state =>
    dsimp only
    rw [if_pos (Or.inl h)]
    exact Adds.pure ⟨rfl, rfl, rfl⟩

/-! ## A whole run -/

/-- The steps of an armed tool before its rollback. -/
def Meddles (seg : List LogStep) : Prop :=
  ∀ y ∈ seg, y.pre.rollbackArmed = true ∧ y.pre.rollbackStarted = false ∧ ¬ WiredUp y

/-- An armed tool leaves the private network through its rollback only. -/
lemma does_armed (h : Armed state s) (holdSeconds : ℕ) (interactiveTarget : Bool) :
    Does (do
      let primaryError ← tryCatch (do
          validation lib holdSeconds interactiveTarget state
          return none) fun error => return some error
      conclude lib primaryError)
      (fun exit s' seg => ∃ body rb, seg = body ++ rb ∧ Meddles body ∧
        (exit = .running ∧ rb = [] ∧ Armed state s' ∨ Concluded lib state exit s' rb)) s := by
  let P (exit : Exit Raised (Option Raised)) (s' : Workflow) (seg : List LogStep) : Prop :=
    (∀ error, exit ≠ .raised error) ∧ Armed state s' ∧ Meddles seg
  have hmeddles : ∀ seg, (∀ y ∈ seg, Same s y.pre ∧
      Within (fun argv => ¬ IsWiredUp argv) y.call) → Meddles seg := by
    intro seg hseg y hy
    obtain ⟨hsame, hwithin⟩ := hseg y hy
    refine ⟨hsame.rollbackArmed.trans h.armed, hsame.rollbackStarted.trans h.started, ?_⟩
    rintro ⟨argv, timeout, interactive, hcall, hup⟩
    exact hwithin argv timeout interactive hcall hup
  have hbody : Does (tryCatch (do
      validation lib holdSeconds interactiveTarget state
      return none) fun error => return some error) P s := by
    have hleaves : Leaves (fun argv => ¬ IsWiredUp argv) (do
        validation lib holdSeconds interactiveTarget state
        return (none : Option Raised)) :=
      (leaves_validation holdSeconds interactiveTarget state).bind fun _ => Leaves.pure _
    refine Adds.tryCatch (hleaves s) ?_ ?_ ?_
    · rintro value s' seg ⟨hsame, hseg⟩
      exact ⟨(fun _ h => by cases h), h.same hsame, hmeddles seg hseg⟩
    · rintro error s' seg ⟨hsame, hseg⟩
      refine Adds.pure ?_
      rw [List.append_nil]
      exact ⟨(fun _ h => by cases h), h.same hsame, hmeddles seg hseg⟩
    · rintro s' seg ⟨hsame, hseg⟩
      exact ⟨(fun _ h => by cases h), h.same hsame, hmeddles seg hseg⟩
  refine Adds.bind hbody ?_ ?_ ?_
  · rintro primaryError s' seg ⟨-, harmed, hseg⟩
    refine (does_conclude harmed primaryError).mono fun exit s'' rb hconcluded => ?_
    exact ⟨seg, rb, rfl, hseg, Or.inr hconcluded⟩
  · rintro error s' seg ⟨hnone, -⟩
    exact absurd rfl (hnone error)
  · rintro s' seg ⟨-, harmed, hseg⟩
    exact ⟨seg, [], (List.append_nil seg).symm, hseg, Or.inl ⟨rfl, rfl, harmed⟩⟩

/-- The tool has changed nothing, and has not armed the rollback. -/
structure Unarmed (w : Workflow) (log : List LogStep) : Prop where
  watched : Watches {} log
  armed : w.rollbackArmed = false
  started : w.rollbackStarted = false
  deferDepth : w.deferDepth = 0

/-- What a run has done that has armed the rollback, up to the exit or so far. -/
structure Launched (lib : Library) (state : ConnectionState) (body rb log : List LogStep) :
    Prop where
  splits : ∃ checks, log = checks ++ body ++ rb ∧ Watches {} checks ∧ Read lib state checks
  meddles : Meddles body

/-- How a run of `execute` ends. -/
def Executed (lib : Library) (exit : Exit Raised Unit) (w : Workflow) (log : List LogStep) :
    Prop :=
  (∀ value, exit ≠ .returned value) ∧ Unarmed w log ∨
    ∃ state body rb, Launched lib state body rb log ∧
      (exit = .running ∧ rb = [] ∧ Armed state w ∨ Concluded lib state exit w rb)

lemma unarmed_of_same {seg : List LogStep} (hs : Same {} s) (hseg : Watches {} seg) :
    Unarmed s seg :=
  ⟨hseg, hs.rollbackArmed, hs.rollbackStarted, hs.deferDepth⟩

/-- What follows the question for a terminal. -/
lemma executed_checked {seg : List LogStep} (hs : Same {} s) (hseg : Watches {} seg)
    (environ : String → Option String) (holdSeconds : ℕ) (interactiveTarget : Bool) :
    Does (do
      let _ ← preflight lib environ
      let state ← requireState
      modify fun w => { w with rollbackArmed := true }
      let primaryError ← tryCatch (do
          validation lib holdSeconds interactiveTarget state
          return none) fun error => return some error
      conclude lib primaryError)
      (fun exit s' seg' => Executed lib exit s' (seg ++ seg')) s := by
  refine Adds.bind (preflown_preflight environ) ?_ ?_ ?_
  · rintro value s' checks ⟨hwatch, ⟨-, hnone⟩ | ⟨state, -, hsame, hread⟩⟩
    · exact absurd rfl (hnone value)
    refine Does.requireState hsame.state (Adds.modify_bind ?_)
    have harmed : Armed state { s' with rollbackArmed := true } :=
      ⟨hsame.state, rfl, hsame.rollbackStarted.trans hs.rollbackStarted,
        hsame.deferDepth.trans hs.deferDepth⟩
    refine (does_armed harmed holdSeconds interactiveTarget).mono ?_
    rintro exit s'' seg' ⟨body, rb, rfl, hbody, hend⟩
    refine Or.inr ⟨state, body, rb, ⟨⟨seg ++ checks, ?_, ?_, ?_⟩, hbody⟩, hend⟩
    · simp only [List.append_assoc]
    · exact hseg.append (hwatch.same hs)
    · obtain ⟨⟨y₁, hy₁, hcampus⟩, ⟨y₂, hy₂, hwired⟩, hother⟩ := hread
      exact ⟨⟨y₁, List.mem_append_right _ hy₁, hcampus⟩,
        ⟨y₂, List.mem_append_right _ hy₂, hwired⟩, hother⟩
  · rintro error s' checks ⟨hwatch, ⟨hsame, -⟩ | ⟨state, hexit, -⟩⟩
    · exact Or.inl ⟨(fun _ h => by cases h),
        unarmed_of_same (hs.trans hsame) (hseg.append (hwatch.same hs))⟩
    · cases hexit
  · rintro s' checks ⟨hwatch, ⟨hsame, -⟩ | ⟨state, hexit, -⟩⟩
    · exact Or.inl ⟨(fun _ h => by cases h),
        unarmed_of_same (hs.trans hsame) (hseg.append (hwatch.same hs))⟩
    · cases hexit

lemma executed_execute (environ : String → Option String) (holdSeconds : ℕ)
    (interactiveTarget : Bool) :
    Does (execute lib environ holdSeconds interactiveTarget) (Executed lib) {} := by
  have hchecked : ∀ terminal s seg, Same {} s → Watches {} seg →
      Does (if terminal = false then raise (.switchError
          "interactive activation requires visible terminal stdin/stdout/stderr")
        else do
          let _ ← preflight lib environ
          let state ← requireState
          modify fun w => { w with rollbackArmed := true }
          let primaryError ← tryCatch (do
              validation lib holdSeconds interactiveTarget state
              return none) fun error => return some error
          conclude lib primaryError)
        (fun exit s' seg' => Executed lib exit s' (seg ++ seg')) s := by
    intro terminal s seg hs hseg
    split_ifs
    · refine Adds.raise ?_
      rw [List.append_nil]
      exact Or.inl ⟨(fun _ h => by cases h), unarmed_of_same hs hseg⟩
    · exact executed_checked hs hseg environ holdSeconds interactiveTarget
  have hasked : Inspects (do
      let answer ← ask .isatty
      return answer.holds) :=
    inspects_path (fun _ _ _ h => by cases h) rfl fun answer => Leaves.pure _
  cases interactiveTarget with
  | false => exact hchecked true {} [] (Same.refl _) watches_nil
  | true =>
    refine Adds.bind (hasked {}) ?_ ?_ ?_
    · rintro terminal s seg ⟨hsame, hseg⟩
      exact hchecked terminal s seg hsame (watches_of_leaves hseg)
    · rintro error s seg ⟨hsame, hseg⟩
      exact Or.inl ⟨(fun _ h => by cases h), unarmed_of_same hsame (watches_of_leaves hseg)⟩
    · rintro s seg ⟨hsame, hseg⟩
      exact Or.inl ⟨(fun _ h => by cases h), unarmed_of_same hsame (watches_of_leaves hseg)⟩

/-- How a run of the tool ends; an incomplete rollback shows as the exit that is said. -/
def Ran (lib : Library) (mode : Mode) (incompleteExit : Exit Raised ℕ → Prop)
    (exit : Exit Raised ℕ) (w : Workflow) (log : List LogStep) : Prop :=
  Unarmed w log ∧ (exit = .returned 0 → mode = .preflight) ∨
    ∃ state body rb, Launched lib state body rb log ∧
      (exit = .running ∧ rb = [] ∧ Armed state w ∨ RollingBack lib state w rb ∧
        (exit = .running ∨ ∃ result, Finished lib state result w rb ∧
          (result.1 = false → incompleteExit exit)))

lemma Ran.armed {mode : Mode} {P : Exit Raised ℕ → Prop} {exit : Exit Raised ℕ} {w : Workflow}
    {log : List LogStep} (h : Ran lib mode P exit w log) (hexit : exit ≠ .running) :
    w.rollbackArmed = false := by
  rcases h with ⟨hunarmed, -⟩ | ⟨state, body, rb, -, ⟨hrunning, -⟩ | ⟨-, hrunning | hfinished⟩⟩
  · exact hunarmed.armed
  · exact absurd hrunning hexit
  · exact absurd hrunning hexit
  · obtain ⟨result, hfinished, -⟩ := hfinished
    exact hfinished.armed

/-- What becomes of a run whose exit is another one. -/
lemma Ran.exit {mode : Mode} {P P' : Exit Raised ℕ → Prop} {exit exit' : Exit Raised ℕ}
    {w : Workflow} {log : List LogStep} (h : Ran lib mode P exit w log)
    (hexit : exit ≠ .running) (hzero : exit' ≠ .returned 0) (hP : P exit → P' exit') :
    Ran lib mode P' exit' w log := by
  rcases h with ⟨hunarmed, -⟩ | ⟨state, body, rb, hlaunched, ⟨hrunning, -⟩ | ⟨hrolling, hend⟩⟩
  · exact Or.inl ⟨hunarmed, fun h => absurd h hzero⟩
  · exact absurd hrunning hexit
  · rcases hend with hrunning | ⟨result, hfinished, hincomplete⟩
    · exact absurd hrunning hexit
    · exact Or.inr ⟨state, body, rb, hlaunched, Or.inr ⟨hrolling, Or.inr
        ⟨result, hfinished, fun h => hP (hincomplete h)⟩⟩⟩

/-- How the part of `main` ends that an error ends early. -/
def BodyRan (lib : Library) (mode : Mode) (exit : Exit Raised ℕ) (w : Workflow)
    (log : List LogStep) : Prop :=
  (∀ code, exit = .returned code → code = 0) ∧
    Ran lib mode (fun exit => ∃ text, exit = .raised (.switchError text)) exit w log

lemma bodyRan_preflight (environ : String → Option String) :
    Does (do
      let _ ← preflight lib environ
      raiseIfPending
      return 0) (BodyRan lib .preflight) {} := by
  refine Adds.bind (preflown_preflight environ) ?_ ?_ ?_
  · rintro state s checks ⟨hwatch, hend⟩
    have hunarmed : ∀ s', Same s s' → Unarmed s' checks := by
      intro s' hs'
      rcases hend with ⟨hsame, -⟩ | ⟨state, -, hsame, -⟩
      · exact unarmed_of_same (hsame.trans hs') hwatch
      · exact ⟨hwatch, hs'.rollbackArmed.trans hsame.rollbackArmed,
          hs'.rollbackStarted.trans hsame.rollbackStarted,
          hs'.deferDepth.trans hsame.deferDepth⟩
    refine Adds.bind (does_raiseIfPending s) ?_ ?_ ?_
    · rintro value s' seg ⟨hsame, rfl, -⟩
      refine Adds.pure ?_
      rw [List.append_nil, List.append_nil]
      exact ⟨fun code h => by cases h; rfl, Or.inl ⟨hunarmed s' hsame, fun _ => rfl⟩⟩
    · rintro error s' seg ⟨hsame, rfl, -⟩
      rw [List.append_nil]
      exact ⟨(fun code h => by cases h), Or.inl ⟨hunarmed s' hsame, fun h => by cases h⟩⟩
    · rintro s' seg ⟨hsame, rfl, -⟩
      rw [List.append_nil]
      exact ⟨(fun code h => by cases h), Or.inl ⟨hunarmed s' hsame, fun h => by cases h⟩⟩
  · rintro error s checks ⟨hwatch, ⟨hsame, -⟩ | ⟨state, hexit, -⟩⟩
    · exact ⟨(fun code h => by cases h),
        Or.inl ⟨unarmed_of_same hsame hwatch, fun h => by cases h⟩⟩
    · cases hexit
  · rintro s checks ⟨hwatch, ⟨hsame, -⟩ | ⟨state, hexit, -⟩⟩
    · exact ⟨(fun code h => by cases h),
        Or.inl ⟨unarmed_of_same hsame hwatch, fun h => by cases h⟩⟩
    · cases hexit

lemma bodyRan_execute (environ : String → Option String) (holdSeconds : ℕ)
    (interactiveTarget : Bool) :
    Does (do
      execute lib environ holdSeconds interactiveTarget
      return 0) (BodyRan lib (.execute interactiveTarget)) {} := by
  refine Adds.bind (executed_execute environ holdSeconds interactiveTarget) ?_ ?_ ?_
  · rintro value s log (⟨hnone, -⟩ | ⟨state, body, rb, hlaunched, ⟨hrunning, -⟩ |
      ⟨hrolling, hrunning | ⟨result, hfinished, hincomplete⟩⟩⟩)
    · exact absurd rfl (hnone value)
    · cases hrunning
    · cases hrunning
    · refine Adds.pure ⟨fun code h => by cases h; rfl, ?_⟩
      rw [List.append_nil]
      refine Or.inr ⟨state, body, rb, hlaunched, Or.inr ⟨hrolling, Or.inr ⟨result, hfinished, ?_⟩⟩⟩
      intro h
      obtain ⟨text, htext⟩ := hincomplete h
      cases htext
  · rintro error s log (⟨-, hunarmed⟩ | ⟨state, body, rb, hlaunched, ⟨hrunning, -⟩ |
      ⟨hrolling, hrunning | ⟨result, hfinished, hincomplete⟩⟩⟩)
    · exact ⟨(fun code h => by cases h), Or.inl ⟨hunarmed, fun h => by cases h⟩⟩
    · cases hrunning
    · cases hrunning
    · refine ⟨(fun code h => by cases h), Or.inr ⟨state, body, rb, hlaunched,
        Or.inr ⟨hrolling, Or.inr ⟨result, hfinished, fun h => ?_⟩⟩⟩⟩
      obtain ⟨text, htext⟩ := hincomplete h
      cases htext
      exact ⟨text, rfl⟩
  · rintro s log (⟨-, hunarmed⟩ | ⟨state, body, rb, hlaunched, ⟨-, hnothing, harmed⟩ |
      ⟨hrolling, -⟩⟩)
    · exact ⟨(fun code h => by cases h), Or.inl ⟨hunarmed, fun h => by cases h⟩⟩
    · exact ⟨(fun code h => by cases h),
        Or.inr ⟨state, body, rb, hlaunched, Or.inl ⟨rfl, hnothing, harmed⟩⟩⟩
    · exact ⟨(fun code h => by cases h),
        Or.inr ⟨state, body, rb, hlaunched, Or.inr ⟨hrolling, Or.inl rfl⟩⟩⟩

lemma ran_main (environ : String → Option String) (mode : Mode) (holdSeconds : ℕ) :
    Does (main lib environ mode holdSeconds) (fun exit w log => exit ≠ .returned 70 ∧
      Ran lib mode (fun exit => exit = .returned 1) exit w log) {} := by
  refine Adds.tryCatch (P := BodyRan lib mode) ?_ ?_ ?_ ?_
  · cases mode with
    | preflight => exact bodyRan_preflight environ
    | execute interactiveTarget => exact bodyRan_execute environ holdSeconds interactiveTarget
  · rintro code s log ⟨hcode, hran⟩
    rw [hcode code rfl] at hran ⊢
    refine ⟨(fun h => by cases h), ?_⟩
    rcases hran with hunarmed | ⟨state, body, rb, hlaunched, hrunning | ⟨hrolling, hend⟩⟩
    · exact Or.inl hunarmed
    · exact Or.inr ⟨state, body, rb, hlaunched, Or.inl hrunning⟩
    · refine Or.inr ⟨state, body, rb, hlaunched, Or.inr ⟨hrolling, hend.imp_right ?_⟩⟩
      rintro ⟨result, hfinished, hincomplete⟩
      refine ⟨result, hfinished, fun h => ?_⟩
      obtain ⟨text, htext⟩ := hincomplete h
      cases htext
  · rintro error s log ⟨-, hran⟩
    have hnot : (Exit.raised error : Exit Raised ℕ) ≠ .running := fun h => by cases h
    cases error with
    | switchError text =>
      refine Adds.pure ⟨(fun h => by cases h), ?_⟩
      rw [List.append_nil]
      exact hran.exit hnot (fun h => by cases h) fun _ => rfl
    | commandTimedOut text =>
      refine Adds.pure ⟨(fun h => by cases h), ?_⟩
      rw [List.append_nil]
      exact hran.exit hnot (fun h => by cases h) fun _ => rfl
    | exception typeName =>
      refine Adds.raise ⟨(fun h => by cases h), ?_⟩
      rw [List.append_nil]
      refine hran.exit hnot (fun h => by cases h) ?_
      rintro ⟨text, htext⟩
      cases htext
    | switchInterrupted signum =>
      -- the rollback is over, or there is nothing to roll back
      have hrollback : Does (do
          rollback lib
          return 128 + signum)
          (fun exit s' seg => exit = .returned (128 + signum) ∧ s' = s ∧ seg = []) s := by
        refine Adds.bind (does_rollback_idle (hran.armed hnot)) ?_ ?_ ?_
        · rintro value s' seg ⟨-, rfl, rfl⟩
          exact Adds.pure ⟨rfl, rfl, rfl⟩
        · rintro error s' seg ⟨hexit, -⟩
          cases hexit
        · rintro s' seg ⟨hexit, -⟩
          cases hexit
      refine Adds.tryCatch hrollback ?_ ?_ ?_
      · rintro code s' seg ⟨hcode, rfl, rfl⟩
        cases hcode
        rw [List.append_nil]
        refine ⟨fun h => ?_, hran.exit hnot (fun h => ?_) ?_⟩
        · injection h with h
          omega
        · injection h with h
          omega
        · rintro ⟨text, htext⟩
          cases htext
      · rintro error s' seg ⟨hexit, -⟩
        cases hexit
      · rintro s' seg ⟨hexit, -⟩
        cases hexit
  · rintro s log ⟨-, hran⟩
    refine ⟨(fun h => by cases h), ?_⟩
    rcases hran with hunarmed | ⟨state, body, rb, hlaunched, hrunning | ⟨hrolling, hend⟩⟩
    · exact Or.inl hunarmed
    · exact Or.inr ⟨state, body, rb, hlaunched, Or.inl hrunning⟩
    · exact Or.inr ⟨state, body, rb, hlaunched, Or.inr ⟨hrolling, Or.inl rfl⟩⟩

/-- The state holds the profiles that were active before the rollback was armed. -/
def Original (lib : Library) (state : ConnectionState) (log : List LogStep) : Prop :=
  (∃ y ∈ log, y.pre.rollbackArmed = false ∧ ActiveIs lib WIFI_INTERFACE state.campusUuid y) ∧
  (∃ y ∈ log, y.pre.rollbackArmed = false ∧ ActiveIs lib WIRED_INTERFACE state.wiredUuid y) ∧
  state.targetUuid ≠ state.campusUuid

/-- What every run of the tool promises, by its exit, its last state and its log. -/
structure Promises (lib : Library) (mode : Mode) (exit : Exit Raised ℕ) (w : Workflow)
    (log : List LogStep) : Prop where
  /-- A link is changed only after the rollback is armed. -/
  armed : ∀ y ∈ log, Changes y → y.pre.rollbackArmed = true
  /-- A request for the wired interface comes right after stable samples in which no interface
  had the address of the host. -/
  gated : Gated lib log
  /-- There is at most one rollback, at the end, which no signal cuts short. -/
  once : ∃ body rb, log = body ++ rb ∧ (∀ y ∈ body, y.pre.rollbackStarted = false) ∧
    (∀ y ∈ rb, y.pre.rollbackStarted = true ∧ y.pre.deferDepth = 1) ∧ ∀ y ∈ body, ¬ WiredUp y
  /-- A run that has ended without a rollback has changed nothing.  Otherwise its rollback is
  over, and an incomplete one is exit code 1. -/
  ended : exit ≠ .running → w.rollbackArmed = false ∧ w.deferDepth = 0 ∧
    (w.rollbackStarted = false ∧ (∀ y ∈ log, ¬ Changes y) ∨ w.rollbackStarted = true ∧
      ∃ state result, w.state = some state ∧ Original lib state log ∧
        RolledBack lib state result log ∧ (result.1 = false → exit = .returned 1))
  /-- To have changed nothing is no success, except for the checks alone. -/
  success : exit = .returned 0 → w.rollbackStarted = true ∨ mode = .preflight
  /-- The rollback of the handler of `SwitchInterrupted` has nothing to do. -/
  interrupted : exit ≠ .returned 70

lemma RolledBack.after {result : Bool × Bool} {seg : List LogStep}
    (h : RolledBack lib state result seg) (l : List LogStep) :
    RolledBack lib state result (l ++ seg) := by
  refine ⟨fun hr => (h.1 hr).after l, fun hr hs => (h.2.1 hr hs).after l, fun hr hs => ?_⟩
  obtain ⟨l₀, y, rfl, hdown⟩ := h.2.2 hr hs
  exact ⟨l ++ l₀, y, (List.append_assoc _ _ _).symm, hdown⟩

lemma Launched.promises {body rb log : List LogStep} {mode : Mode} {exit : Exit Raised ℕ}
    {w : Workflow} (h : Launched lib state body rb log)
    (hrb : ∀ y ∈ rb, y.pre.rollbackArmed = true ∧ y.pre.rollbackStarted = true ∧
      y.pre.deferDepth = 1) (hgated : Gated lib rb)
    (hend : exit ≠ .running → ∃ result, Finished lib state result w rb ∧
      (result.1 = false → exit = .returned 1)) (h70 : exit ≠ .returned 70) :
    Promises lib mode exit w log := by
  obtain ⟨⟨checks, rfl, hchecks, ⟨y₁, hy₁, hcampus⟩, ⟨y₂, hy₂, hwired⟩, hother⟩, hbody⟩ := h
  have hquiet : ∀ y ∈ checks ++ body, ¬ WiredUp y := by
    intro y hy
    rcases List.mem_append.mp hy with hy | hy
    · exact fun hup => (hchecks y hy).2 hup.changes
    · exact (hbody y hy).2.2
  have hbefore : ∀ y ∈ checks ++ body, y.pre.rollbackStarted = false := by
    intro y hy
    rcases List.mem_append.mp hy with hy | hy
    · exact (hchecks y hy).1.rollbackStarted
    · exact (hbody y hy).2.1
  refine ⟨?_, ?_, ⟨checks ++ body, rb, rfl, hbefore, fun y hy => (hrb y hy).2, hquiet⟩, ?_, ?_, h70⟩
  · intro y hy hchanges
    rcases List.mem_append.mp hy with hy | hy
    · rcases List.mem_append.mp hy with hy | hy
      · exact absurd hchanges (hchecks y hy).2
      · exact (hbody y hy).1
    · exact (hrb y hy).1
  · have hfirst : Gated lib (checks ++ body) := by
      have h := Gated.append_quiet (gated_nil : Gated lib []) hquiet
      rwa [List.nil_append] at h
    exact hfirst.append_gated hgated
  · intro hexit
    obtain ⟨result, hfinished, hincomplete⟩ := hend hexit
    refine ⟨hfinished.armed, hfinished.deferDepth, Or.inr ⟨hfinished.started, state, result,
      hfinished.current, ⟨?_, ?_, hother⟩, hfinished.rolledBack.after _, hincomplete⟩⟩
    · exact ⟨y₁, List.mem_append_left _ (List.mem_append_left _ hy₁),
        (hchecks y₁ hy₁).1.rollbackArmed, hcampus⟩
    · exact ⟨y₂, List.mem_append_left _ (List.mem_append_left _ hy₂),
        (hchecks y₂ hy₂).1.rollbackArmed, hwired⟩
  · rintro rfl
    obtain ⟨result, hfinished, -⟩ := hend fun h => by cases h
    exact Or.inl hfinished.started

/-- **Every way out of the private Wi-Fi tool leads through one rollback**: whatever becomes of
its commands, however the links change and whenever a signal is latched. -/
theorem main_promises (lib : Library) (environ : String → Option String) (mode : Mode)
    (holdSeconds : ℕ) (answers : List Answer) :
    Promises lib mode (main lib environ mode holdSeconds {} answers).exit
      (main lib environ mode holdSeconds {} answers).state
      (acts (main lib environ mode holdSeconds {} answers).log) := by
  obtain ⟨h70, ⟨hunarmed, hzero⟩ | ⟨state, body, rb, hlaunched, ⟨hrunning, rfl, harmed⟩ |
    ⟨hrolling, hend⟩⟩⟩ := ran_main environ mode holdSeconds answers
  · refine ⟨fun y hy hchanges => absurd hchanges (hunarmed.watched y hy).2, ?_, ⟨_, [],
      (List.append_nil _).symm, fun y hy => (hunarmed.watched y hy).1.rollbackStarted,
      (fun y hy => by cases hy), fun y hy hup => (hunarmed.watched y hy).2 hup.changes⟩, ?_,
      fun h => Or.inr (hzero h), h70⟩
    · have h := Gated.append_quiet (gated_nil : Gated lib []) fun y hy hup =>
        (hunarmed.watched y hy).2 (WiredUp.changes hup)
      rwa [List.nil_append] at h
    · exact fun _ => ⟨hunarmed.armed, hunarmed.deferDepth, Or.inl ⟨hunarmed.started,
        fun y hy => (hunarmed.watched y hy).2⟩⟩
  · exact hlaunched.promises (fun y hy => by cases hy) gated_nil
      (fun h => absurd hrunning h) h70
  · exact hlaunched.promises hrolling.pre hrolling.gated (fun h => hend.resolve_left h) h70

end UnitreeGo2.PrivateWifi
