import UnitreeGo2.Lib.Script

/-!
# What a script adds to a log

A part of a script adds the same to every log, so that what it adds can be described on its own.
Calls that only look at the surroundings may be left out of the description.
-/

namespace Script

variable {σ κ ι ε α β : Type}

/-- Every run of the script from `s` ends as `Q` says, of its exit, its state and those of its
calls that are visible. -/
def Adds (visible : κ → Bool) (x : Script σ κ ι ε α)
    (Q : Exit ε α → σ → List (Step σ κ ι) → Prop) (s : σ) : Prop :=
  ∀ answers, Q (x s answers).exit (x s answers).state
    ((x s answers).log.filter fun y => visible y.call)

variable {visible : κ → Bool} {x : Script σ κ ι ε α} {s : σ}
  {P Q : Exit ε α → σ → List (Step σ κ ι) → Prop}

lemma Adds.mono (h : Adds visible x P s) (hQ : ∀ exit s' seg, P exit s' seg → Q exit s' seg) :
    Adds visible x Q s :=
  fun answers => hQ _ _ _ (h answers)

lemma Adds.and (hP : Adds visible x P s) (hQ : Adds visible x Q s) :
    Adds visible x (fun exit s' seg => P exit s' seg ∧ Q exit s' seg) s :=
  fun answers => ⟨hP answers, hQ answers⟩

lemma Adds.pure {value : α} (h : Q (.returned value) s []) : Adds visible (pure value) Q s :=
  fun _ => h

lemma Adds.raise {error : ε} (h : Q (.raised error) s []) : Adds visible (raise error) Q s :=
  fun _ => h

lemma Adds.get {Q : Exit ε σ → σ → List (Step σ κ ι) → Prop} (h : Q (.returned s) s []) :
    Adds visible get Q s :=
  fun _ => h

lemma Adds.modify {Q : Exit ε Unit → σ → List (Step σ κ ι) → Prop} {f : σ → σ}
    (h : Q (.returned ()) (f s) []) : Adds visible (modify f) Q s :=
  fun _ => h

/-- The second part adds to what the first part has added. -/
lemma Adds.bind {f : α → Script σ κ ι ε β} {Q : Exit ε β → σ → List (Step σ κ ι) → Prop}
    (h : Adds visible x P s)
    (hreturned : ∀ value s' seg, P (.returned value) s' seg →
      Adds visible (f value) (fun exit s'' seg' => Q exit s'' (seg ++ seg')) s')
    (hraised : ∀ error s' seg, P (.raised error) s' seg → Q (.raised error) s' seg)
    (hrunning : ∀ s' seg, P .running s' seg → Q .running s' seg) :
    Adds visible (x >>= f) Q s := by
  intro answers
  have hx := h answers
  show Q ((x s answers).andThen f).exit ((x s answers).andThen f).state
    (((x s answers).andThen f).log.filter _)
  revert hx
  generalize x s answers = r
  obtain ⟨exit, s', log, rest⟩ := r
  intro hx
  cases exit with
  | returned value =>
    show Q (f value s' rest).exit (f value s' rest).state
      ((log ++ (f value s' rest).log).filter _)
    rw [List.filter_append]
    exact hreturned value s' _ hx rest
  | raised error => exact hraised error s' _ hx
  | running => exact hrunning s' _ hx

lemma Adds.get_bind {f : σ → Script σ κ ι ε β} {Q : Exit ε β → σ → List (Step σ κ ι) → Prop}
    (h : Adds visible (f s) Q s) : Adds visible (Script.get >>= f) Q s :=
  fun answers => h answers

lemma Adds.modify_bind {g : σ → σ} {f : Unit → Script σ κ ι ε β}
    {Q : Exit ε β → σ → List (Step σ κ ι) → Prop} (h : Adds visible (f ()) Q (g s)) :
    Adds visible (Script.modify g >>= f) Q s :=
  fun answers => h answers

lemma Adds.ask_bind {call : κ} {f : ι → Script σ κ ι ε β}
    {Q : Exit ε β → σ → List (Step σ κ ι) → Prop} (hvisible : visible call = true)
    (hwait : Q .running s [])
    (h : ∀ answer, Adds visible (f answer) (fun exit s' seg =>
      Q exit s' (⟨s, call, answer⟩ :: seg)) s) : Adds visible (Script.ask call >>= f) Q s := by
  intro answers
  cases answers with
  | nil => exact hwait
  | cons answer rest =>
    have hlog : (⟨s, call, answer⟩ :: (f answer s rest).log).filter (fun y => visible y.call) =
        ⟨s, call, answer⟩ :: (f answer s rest).log.filter fun y => visible y.call :=
      List.filter_cons_of_pos hvisible
    show Q (f answer s rest).exit (f answer s rest).state
      ((⟨s, call, answer⟩ :: (f answer s rest).log).filter _)
    rw [hlog]
    exact h answer rest

/-- A call that is left out of the description. -/
lemma Adds.look_bind {call : κ} {f : ι → Script σ κ ι ε β}
    {Q : Exit ε β → σ → List (Step σ κ ι) → Prop} (hvisible : visible call = false)
    (hwait : Q .running s []) (h : ∀ answer, Adds visible (f answer) Q s) :
    Adds visible (Script.ask call >>= f) Q s := by
  intro answers
  cases answers with
  | nil => exact hwait
  | cons answer rest =>
    have hlog : (⟨s, call, answer⟩ :: (f answer s rest).log).filter (fun y => visible y.call) =
        (f answer s rest).log.filter fun y => visible y.call :=
      List.filter_cons_of_neg (by simp [hvisible])
    show Q (f answer s rest).exit (f answer s rest).state
      ((⟨s, call, answer⟩ :: (f answer s rest).log).filter _)
    rw [hlog]
    exact h answer rest

lemma Adds.tryCatch {handler : ε → Script σ κ ι ε α} (h : Adds visible x P s)
    (hreturned : ∀ value s' seg, P (.returned value) s' seg → Q (.returned value) s' seg)
    (hraised : ∀ error s' seg, P (.raised error) s' seg →
      Adds visible (handler error) (fun exit s'' seg' => Q exit s'' (seg ++ seg')) s')
    (hrunning : ∀ s' seg, P .running s' seg → Q .running s' seg) :
    Adds visible (tryCatch x handler) Q s := by
  intro answers
  have hx := h answers
  show Q ((x s answers).orElse handler).exit ((x s answers).orElse handler).state
    (((x s answers).orElse handler).log.filter _)
  revert hx
  generalize x s answers = r
  obtain ⟨exit, s', log, rest⟩ := r
  intro hx
  cases exit with
  | returned value => exact hreturned value s' _ hx
  | raised error =>
    show Q (handler error s' rest).exit (handler error s' rest).state
      ((log ++ (handler error s' rest).log).filter _)
    rw [List.filter_append]
    exact hraised error s' _ hx rest
  | running => exact hrunning s' _ hx

/-- A loop, by what has been added when a round begins. -/
lemma Adds.loop {body : α → Script σ κ ι ε (α ⊕ β)}
    {Q : Exit ε β → σ → List (Step σ κ ι) → Prop} (I : α → σ → List (Step σ κ ι) → Prop)
    (hbody : ∀ value s seg, I value s seg → Adds visible (body value) (fun exit s' seg' =>
      (∀ next, exit = .returned (.inl next) → I next s' (seg ++ seg')) ∧
      (∀ result, exit = .returned (.inr result) → Q (.returned result) s' (seg ++ seg')) ∧
      (∀ error, exit = .raised error → Q (.raised error) s' (seg ++ seg')) ∧
      (exit = .running → Q .running s' (seg ++ seg'))) s)
    (hwait : ∀ value s seg, I value s seg → Q .running s seg) {start : α} (h : I start s []) :
    Adds visible (loop body start) Q s := by
  have hrounds : ∀ n value s seg, I value s seg → Adds visible (rounds body n value)
      (fun exit s' seg' => Q exit s' (seg ++ seg')) s := by
    intro n
    induction n with
    | zero =>
      intro value s seg hI answers
      show Q .running s (seg ++ [])
      rw [List.append_nil]
      exact hwait value s seg hI
    | succ n ih =>
      intro value s seg hI
      refine Adds.bind (hbody value s seg hI) ?_ (fun error s' seg' hround => hround.2.2.1 _ rfl)
        fun s' seg' hround => hround.2.2.2 rfl
      intro step s' seg' hround
      cases step with
      | inl next =>
        refine (ih next s' _ (hround.1 next rfl)).mono fun exit s'' seg'' hQ => ?_
        rwa [List.append_assoc] at hQ
      | inr result =>
        refine Adds.pure ?_
        rw [List.append_nil]
        exact hround.2.1 result rfl
  intro answers
  exact hrounds (answers.length + 1) start s [] h answers

end Script
