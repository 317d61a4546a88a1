import UnitreeGo2.PrivateWifi.SampleRuns

/-!
# What a rollback does

While signals are deferred, every part of the rollback returns or waits.  A request for the wired
profile follows samples in which no interface had the address of the host, and the rollback ends
in stable samples or with a request to take the wired profile down.
-/

namespace UnitreeGo2.PrivateWifi

open Script (ask get modify raise tryCatch ensure loop Adds)

variable {α β : Type} {s s' : Workflow} {state : ConnectionState} (lib : Library)

/-! ## Requests for the wired profile -/

def IsWiredUp (argv : List String) : Prop :=
  ∃ ask uuid, argv = activateArgv ask uuid WIRED_INTERFACE

/-- The call requests that a profile is activated on the wired interface. -/
def WiredUp (y : LogStep) : Prop :=
  ∃ argv timeout interactive, y.call = .run argv timeout interactive ∧ IsWiredUp argv

/-- The call requests that the wired profile is taken down. -/
def WiredDown (state : ConnectionState) (y : LogStep) : Prop :=
  y.call = .run (deactivateArgv state.wiredUuid) (ACTIVATION_TIMEOUT_S + 3) false

lemma WiredUp.changes {y : LogStep} (h : WiredUp y) : Changes y := by
  obtain ⟨argv, timeout, interactive, hcall, ask, uuid, rfl⟩ := h
  exact ⟨_, timeout, interactive, hcall, uuid, Or.inr ⟨ask, _, rfl⟩⟩

lemma not_isWiredUp_wifi (ask : Bool) (uuid : String) :
    ¬ IsWiredUp (activateArgv ask uuid WIFI_INTERFACE) := by
  rintro ⟨ask', uuid', h⟩
  cases ask <;> cases ask' <;>
    simp [activateArgv, WIFI_INTERFACE, WIRED_INTERFACE] at h

lemma not_isWiredUp_down (uuid : String) : ¬ IsWiredUp (deactivateArgv uuid) := by
  rintro ⟨ask, uuid', h⟩
  have hlength := congrArg List.length h
  cases ask <;> simp [activateArgv, deactivateArgv] at hlength

/-- Every request for the wired profile comes right after samples without an owner of the address
of the host. -/
def Gated (l : List LogStep) : Prop :=
  ∀ l₁ y l₂, l = l₁ ++ y :: l₂ → WiredUp y → Stable (OwnerFree lib) STABLE_OBSERVATIONS l₁

variable {lib}

lemma gated_nil : Gated lib [] := fun l₁ y l₂ h => by simp at h

lemma Gated.append {l l' : List LogStep} (h : Gated lib l)
    (h' : ∀ l₁ y l₂, l' = l₁ ++ y :: l₂ → WiredUp y →
      Stable (OwnerFree lib) STABLE_OBSERVATIONS (l ++ l₁)) : Gated lib (l ++ l') := by
  intro l₁ y l₂ hsplit hup
  rcases List.append_eq_append_iff.mp hsplit with ⟨m, rfl, hm⟩ | ⟨m, rfl, hm⟩
  · exact h' m y l₂ hm hup
  · cases m with
    | nil =>
      have hnow := h' [] y l₂ hm.symm hup
      rwa [List.append_nil, List.append_nil] at hnow
    | cons z m =>
      cases hm
      exact h l₁ y m rfl hup

lemma Gated.append_quiet {l l' : List LogStep} (h : Gated lib l) (h' : ∀ y ∈ l', ¬ WiredUp y) :
    Gated lib (l ++ l') := by
  refine h.append fun l₁ y l₂ hsplit hup => absurd hup (h' y ?_)
  rw [hsplit]
  exact List.mem_append_right _ List.mem_cons_self

lemma Gated.append_gated {l l' : List LogStep} (h : Gated lib l) (h' : Gated lib l') :
    Gated lib (l ++ l') :=
  h.append fun l₁ y l₂ hsplit hup => (h' l₁ y l₂ hsplit hup).after l

/-! ## Parts of the rollback -/

/-- What the rollback has done so far. -/
structure Rolled (lib : Library) (s₀ : Workflow) (l : List LogStep) : Prop where
  same : ∀ y ∈ l, Same s₀ y.pre
  gated : Gated lib l

lemma rolled_nil {s₀ : Workflow} : Rolled lib s₀ [] := ⟨(fun y h => by cases h), gated_nil⟩

/-- A part of the rollback, after the log so far: it waits, or returns with the result and the log
as said. -/
def Rolls (lib : Library) (s₀ : Workflow) (x : Action α) (R : α → List LogStep → Prop)
    (l : List LogStep) : Prop :=
  ∀ s, Same s₀ s → Rolled lib s₀ l → Does x (fun exit s' seg => Same s₀ s' ∧
    Rolled lib s₀ (l ++ seg) ∧
    (exit = .running ∨ ∃ value, exit = .returned value ∧ R value (l ++ seg))) s

variable {s₀ : Workflow} {l : List LogStep} {R : α → List LogStep → Prop}

lemma Rolls.pure {value : α} (h : R value l) : Rolls lib s₀ (pure value) R l := by
  intro s hs hl
  refine Adds.pure ?_
  rw [List.append_nil]
  exact ⟨hs, hl, Or.inr ⟨value, rfl, h⟩⟩

lemma Rolls.bind {x : Action α} {f : α → Action β} {R' : β → List LogStep → Prop}
    (hx : Rolls lib s₀ x R l) (hf : ∀ value l', R value l' → Rolls lib s₀ (f value) R' l') :
    Rolls lib s₀ (x >>= f) R' l := by
  intro s hs hl
  refine Adds.bind (hx s hs hl) ?_ ?_ ?_
  · rintro value s' seg ⟨hs', hl', hrunning | ⟨value', hvalue, hR⟩⟩
    · cases hrunning
    · cases hvalue
      refine (hf value _ hR s' hs' hl').mono fun exit s'' seg' h => ?_
      rwa [List.append_assoc] at h
  · rintro error s' seg ⟨-, -, hrunning | ⟨value, hvalue, -⟩⟩
    · cases hrunning
    · cases hvalue
  · rintro s' seg ⟨hs', hl', -⟩
    exact ⟨hs', hl', Or.inl rfl⟩

lemma Rolls.mono {x : Action α} {R' : α → List LogStep → Prop} (h : Rolls lib s₀ x R l)
    (hR : ∀ value l', R value l' → R' value l') : Rolls lib s₀ x R' l := by
  intro s hs hl
  refine (h s hs hl).mono ?_
  rintro exit s' seg ⟨hs', hl', hexit⟩
  refine ⟨hs', hl', hexit.imp_right ?_⟩
  rintro ⟨value, hvalue, hend⟩
  exact ⟨value, hvalue, hR value _ hend⟩

lemma Stopped.waits {exit : Exit Raised α} (h : Stopped s exit) (hdepth : s.deferDepth ≠ 0) :
    exit = .running :=
  h.resolve_right fun hsignal => hdepth hsignal.1

/-- A command at its best effort: it is made, and whatever becomes of it is no error. -/
lemma rolls_command {argv : List String} {timeout : ℚ} {judge : CommandResult → Except Raised Unit}
    {x : Action Unit} (hx : Asks argv timeout false judge x) (hjudge : Ordinary judge)
    (hdepth : s₀.deferDepth ≠ 0)
    (hgate : IsWiredUp argv → Stable (OwnerFree lib) STABLE_OBSERVATIONS l) :
    Rolls lib s₀ (bestEffort x)
      (fun _ l' => ∃ y, l' = l ++ [y] ∧ y.call = .run argv timeout false) l := by
  intro s hs hl
  have hend : ∀ exit : Exit Raised Unit, ∀ s' seg, Asked argv timeout false judge s exit s' seg →
      Same s₀ s' ∧ Rolled lib s₀ (l ++ seg) ∧ (exit = .running ∨
        (∃ y, l ++ seg = l ++ [y] ∧ y.call = .run argv timeout false) ∧
          ((∃ value, exit = .returned value) ∨
            ∃ error : Raised, error.isException = true ∧ exit = .raised error)) := by
    rintro exit s' seg ⟨hsame, ⟨rfl, hstop⟩ | ⟨y, rfl, hy, hcall, hexit⟩⟩
    · rw [List.append_nil]
      exact ⟨hs.trans hsame, hl, Or.inl (hstop.waits (hs.deferDepth ▸ hdepth))⟩
    · refine ⟨hs.trans hsame, ⟨?_, ?_⟩, ?_⟩
      · intro z hz
        rcases List.mem_append.mp hz with hz | hz
        · exact hl.same z hz
        · rw [List.mem_singleton.mp hz]
          exact hs.trans hy
      · refine hl.gated.append fun l₁ z l₂ hsplit hup => ?_
        -- the command itself is the only one
        obtain ⟨rfl, hz, -⟩ : l₁ = [] ∧ z = y ∧ l₂ = [] := by
          cases l₁ with
          | nil =>
            cases hsplit
            exact ⟨rfl, rfl, rfl⟩
          | cons w l₁ => simp at hsplit
        subst hz
        rw [List.append_nil]
        obtain ⟨argv', timeout', interactive', hcall', hwired⟩ := hup
        cases hcall.symm.trans hcall'
        exact hgate hwired
      · rcases hexit with hstop | hexit
        · exact Or.inl (hstop.waits (hs.deferDepth ▸ hdepth))
        · refine Or.inr ⟨⟨y, rfl, hcall⟩, ?_⟩
          cases hresult : judge y.answer.result with
          | error error =>
            rw [hresult] at hexit
            exact Or.inr ⟨error, hjudge _ _ hresult, hexit⟩
          | ok value =>
            rw [hresult] at hexit
            exact Or.inl ⟨value, hexit⟩
  refine Adds.tryCatch (hx s) ?_ ?_ ?_
  · intro value s' seg hasked
    obtain ⟨hs', hl', hrunning | ⟨hmade, -⟩⟩ := hend _ s' seg hasked
    · cases hrunning
    · exact ⟨hs', hl', Or.inr ⟨value, rfl, hmade⟩⟩
  · intro error s' seg hasked
    obtain ⟨hs', hl', hrunning | ⟨hmade, ⟨value, hvalue⟩ | ⟨error', hordinary, herror⟩⟩⟩ :=
      hend _ s' seg hasked
    · cases hrunning
    · cases hvalue
    · cases herror
      rw [if_pos hordinary]
      refine Adds.pure ?_
      rw [List.append_nil]
      exact ⟨hs', hl', Or.inr ⟨(), rfl, hmade⟩⟩
  · intro s' seg hasked
    obtain ⟨hs', hl', -⟩ := hend _ s' seg hasked
    exact ⟨hs', hl', Or.inl rfl⟩

lemma rolls_wait {sample : Action Bool} {P : List LogStep → Prop} (hdepth : s₀.deferDepth ≠ 0)
    (hsample : ∀ s, Same s₀ s → Does sample (Sampled s P) s) :
    Rolls lib s₀ (waitForStable sample)
      (fun value l' => value = true → Stable P STABLE_OBSERVATIONS l') l := by
  intro s hs hl
  refine (settled_waitForStable fun s' hs' => hsample s' (hs.trans hs')).mono ?_
  rintro exit s' seg ⟨hsame, hseg, hP, hexit⟩
  refine ⟨hs.trans hsame, ⟨?_, ?_⟩, ?_⟩
  · intro y hy
    rcases List.mem_append.mp hy with hy | hy
    · exact hl.same y hy
    · exact hs.trans (hseg y hy).1
  · exact hl.gated.append_quiet fun y hy hup => (hseg y hy).2 hup.changes
  · rcases hexit with ⟨value, rfl⟩ | hstop
    · refine Or.inr ⟨value, rfl, fun htrue => ?_⟩
      rw [htrue] at hP
      exact (hP rfl).after l
    · exact Or.inl (hstop.waits (hs.deferDepth ▸ hdepth))

/-! ## The rollback -/

lemma asks_activate (uuid interface operation : String) :
    Asks (activateArgv false uuid interface) (ACTIVATION_TIMEOUT_S + 3) false
      (fun result => answered operation result >>= fun _ => .ok ())
      (activate uuid interface operation) :=
  (asks_runCommand _ operation _ false).bind _ fun _ _ => Adds.pure ⟨rfl, rfl, rfl⟩

lemma asks_deactivate (uuid operation : String) :
    Asks (deactivateArgv uuid) (ACTIVATION_TIMEOUT_S + 3) false
      (fun result => answered operation result >>= fun _ => .ok ())
      (deactivate uuid operation) :=
  (asks_runCommand _ operation _ false).bind _ fun _ _ => Adds.pure ⟨rfl, rfl, rfl⟩

lemma ordinary_unit (operation : String) :
    Ordinary (fun result => answered operation result >>= fun _ => .ok ()) :=
  (ordinary_answered operation).bind fun _ _ h => by cases h

/-- How the deferred part of a rollback has ended: whether everything was restored, or else the
wired profile. -/
def RolledBack (lib : Library) (state : ConnectionState) (result : Bool × Bool)
    (l : List LogStep) : Prop :=
  (result.1 = true → Stable (FullyRestored lib state) STABLE_OBSERVATIONS l) ∧
  (result.1 = false → result.2 = true → Stable (WiredUnique lib state) STABLE_OBSERVATIONS l) ∧
  (result.1 = false → result.2 = false → ∃ l₀ y, l = l₀ ++ [y] ∧ WiredDown state y)

section Parts

variable (hdepth : s₀.deferDepth ≠ 0)
include hdepth

lemma rolls_activateWifi (uuid operation : String) :
    Rolls lib s₀ (bestEffort (activate uuid WIFI_INTERFACE operation)) (fun _ _ => True) l :=
  (rolls_command (asks_activate uuid WIFI_INTERFACE operation) (ordinary_unit operation) hdepth
    fun hup => absurd hup (not_isWiredUp_wifi false uuid)).mono fun _ _ _ => trivial

lemma rolls_deactivate (uuid operation : String) :
    Rolls lib s₀ (bestEffort (deactivate uuid operation)) (fun _ l' => ∃ y, l' = l ++ [y] ∧
      y.call = .run (deactivateArgv uuid) (ACTIVATION_TIMEOUT_S + 3) false) l :=
  rolls_command (asks_deactivate uuid operation) (ordinary_unit operation) hdepth
    fun hup => absurd hup (not_isWiredUp_down uuid)

lemma rolls_activateWired (uuid operation : String)
    (hfree : Stable (OwnerFree lib) STABLE_OBSERVATIONS l) :
    Rolls lib s₀ (bestEffort (activate uuid WIRED_INTERFACE operation)) (fun _ _ => True) l :=
  (rolls_command (asks_activate uuid WIRED_INTERFACE operation) (ordinary_unit operation) hdepth
    fun _ => hfree).mono fun _ _ _ => trivial

/-- The campus network is requested, the private one is left, and the campus network is requested
again. -/
lemma rolls_campus {rest : Action β} {R : β → List LogStep → Prop}
    (state : ConnectionState) (first second third : String) (h : ∀ l, Rolls lib s₀ rest R l) :
    Rolls lib s₀ (do
      bestEffort (activate state.campusUuid WIFI_INTERFACE first)
      bestEffort (deactivate state.targetUuid second)
      bestEffort (activate state.campusUuid WIFI_INTERFACE third)
      rest) R l :=
  (rolls_activateWifi hdepth _ _).bind fun _ _ _ => (rolls_deactivate hdepth _ _).bind
    fun _ _ _ => (rolls_activateWifi hdepth _ _).bind fun _ l' _ => h l'

variable (hstate : s₀.state = some state)
include hstate

lemma rolls_attempt : Rolls lib s₀ (attempt lib state)
    (fun restored l' => restored = true → Stable (FullyRestored lib state) STABLE_OBSERVATIONS l')
    l := by
  refine rolls_campus hdepth state _ _ _ fun l => ?_
  refine (rolls_wait hdepth fun s hs =>
    sampled_campusWithoutHost lib (hs.state.trans hstate)).bind fun free l₁ hfree => ?_
  split_ifs with howned
  · exact Rolls.pure fun h => by cases h
  · rw [Bool.not_eq_false] at howned
    refine (rolls_activateWired hdepth _ _ (hfree howned)).bind fun _ l₂ _ => ?_
    refine (rolls_wait hdepth fun s hs =>
      sampled_fullyRestored lib (hs.state.trans hstate)).bind fun restored l₃ hrestored => ?_
    split_ifs with hall
    · exact Rolls.pure fun _ => hrestored hall
    · exact (rolls_deactivate hdepth _ _).bind fun _ l₄ _ => Rolls.pure fun h => by cases h

lemma rolls_attempts (left : ℕ) : Rolls lib s₀ (attempts lib state left)
    (fun restored l' => restored = true → Stable (FullyRestored lib state) STABLE_OBSERVATIONS l')
    l := by
  induction left generalizing l with
  | zero => exact Rolls.pure fun h => by cases h
  | succ left ih =>
    refine (rolls_attempt hdepth hstate).bind fun restored l' hrestored => ?_
    split_ifs with hall
    · exact Rolls.pure fun _ => hrestored hall
    · exact ih

/-- After attempts in vain the wired profile is back in stable samples, or it is taken down by the
last command. -/
lemma rolls_fallback : Rolls lib s₀ (fallback lib state) (fun safe l' =>
    (safe = true → Stable (WiredUnique lib state) STABLE_OBSERVATIONS l') ∧
    (safe = false → ∃ l₀ y, l' = l₀ ++ [y] ∧ WiredDown state y)) l := by
  refine rolls_campus hdepth state _ _ _ fun l => ?_
  refine (rolls_wait hdepth fun s _ => sampled_noHostOwner lib).bind fun free l₁ hfree => ?_
  have hend : ∀ safe l₂, (safe = true → Stable (WiredUnique lib state) STABLE_OBSERVATIONS l₂) →
      Rolls lib s₀ (if safe = true then pure true else do
        bestEffort (deactivate state.wiredUuid "remove unverified wired address")
        return false) (fun safe l' =>
          (safe = true → Stable (WiredUnique lib state) STABLE_OBSERVATIONS l') ∧
          (safe = false → ∃ l₀ y, l' = l₀ ++ [y] ∧ WiredDown state y)) l₂ := by
    intro safe l₂ hsafe
    split_ifs with hunique
    · exact Rolls.pure ⟨fun _ => hsafe hunique, (fun h => by cases h)⟩
    · refine (rolls_deactivate hdepth _ _).bind fun _ l₃ hdown =>
        Rolls.pure ⟨(fun h => by cases h), ?_⟩
      obtain ⟨y, hl₃, hcall⟩ := hdown
      exact fun _ => ⟨l₂, y, hl₃, hcall⟩
  cases free with
  | false => exact hend false l₁ fun h => by cases h
  | true =>
    refine Rolls.bind ((rolls_activateWired hdepth _ _ (hfree rfl)).bind fun _ l₂ _ => ?_) hend
    exact rolls_wait hdepth fun s hs => sampled_wiredUnique lib (hs.state.trans hstate)

lemma rolls_restore : Rolls lib s₀ (restore lib state) (RolledBack lib state) l := by
  refine (rolls_attempts hdepth hstate ROLLBACK_ATTEMPTS).bind fun restored l₁ hrestored => ?_
  split_ifs with hall
  · exact Rolls.pure ⟨fun _ => hrestored hall, (fun h => by cases h), fun h => by cases h⟩
  · refine (rolls_fallback hdepth hstate).bind fun safe l₂ hsafe => Rolls.pure ?_
    exact ⟨(fun h => by cases h), fun _ => hsafe.1, fun _ => hsafe.2⟩

end Parts

end UnitreeGo2.PrivateWifi
