import Mathlib.Tactic.Lemma
import Mathlib.Tactic.Common

/-!
# Scripts that talk with their surroundings

A script makes calls and goes on with the answers, until it returns or raises.  It runs against
a list of answers, so that every behaviour of the surroundings is a list, and a run whose
answers are used up is still going on.  The log of a run holds each call with the state before
it and with its answer.  The rules of this file reduce what holds of the ends and the logs of
all runs of a script to what holds of its calls.
-/

/-- How far a run has come. -/
inductive Exit (ε α : Type) where
  | returned (value : α)
  | raised (error : ε)
  /-- It waits for an answer. -/
  | running
  deriving DecidableEq

namespace Script

/-- A call, with the state before it and its answer. -/
structure Step (σ κ ι : Type) where
  pre : σ
  call : κ
  answer : ι

structure Outcome (σ κ ι ε α : Type) where
  exit : Exit ε α
  state : σ
  log : List (Step σ κ ι)
  /-- The answers that are left. -/
  rest : List ι

end Script

/-- A script over states `σ` that makes calls `κ`, gets answers `ι` and raises `ε`. -/
def Script (σ κ ι ε α : Type) : Type := σ → List ι → Script.Outcome σ κ ι ε α

namespace Script

variable {σ κ ι ε α β : Type}

/-- The rest of a script, after a run of its first part. -/
def Outcome.andThen (r : Outcome σ κ ι ε α) (f : α → Script σ κ ι ε β) : Outcome σ κ ι ε β :=
  match r.exit with
  | .returned value =>
    { f value r.state r.rest with log := r.log ++ (f value r.state r.rest).log }
  | .raised error => ⟨.raised error, r.state, r.log, r.rest⟩
  | .running => ⟨.running, r.state, r.log, r.rest⟩

instance : Monad (Script σ κ ι ε) where
  pure value := fun s answers => ⟨.returned value, s, [], answers⟩
  bind x f := fun s answers => (x s answers).andThen f

def raise (error : ε) : Script σ κ ι ε α := fun s answers => ⟨.raised error, s, [], answers⟩

def get : Script σ κ ι ε σ := fun s answers => ⟨.returned s, s, [], answers⟩

def modify (f : σ → σ) : Script σ κ ι ε Unit := fun s answers => ⟨.returned (), f s, [], answers⟩

/-- A call, which is answered unless the run stops there. -/
def ask (call : κ) : Script σ κ ι ε ι := fun s answers =>
  match answers with
  | [] => ⟨.running, s, [], []⟩
  | answer :: rest => ⟨.returned answer, s, [⟨s, call, answer⟩], rest⟩

/-- What a run goes on with if it has raised. -/
def Outcome.orElse (r : Outcome σ κ ι ε α) (handler : ε → Script σ κ ι ε α) :
    Outcome σ κ ι ε α :=
  match r.exit with
  | .raised error =>
    { handler error r.state r.rest with log := r.log ++ (handler error r.state r.rest).log }
  | _ => r

def tryCatch (x : Script σ κ ι ε α) (handler : ε → Script σ κ ι ε α) : Script σ κ ι ε α :=
  fun s answers => (x s answers).orElse handler

/-- A `finally` block. -/
def ensure (x : Script σ κ ι ε α) (final : Script σ κ ι ε Unit) : Script σ κ ι ε α := do
  let value ← tryCatch x fun error => do
    final
    raise error
  final
  return value

/-- At most so many rounds of a loop. -/
def rounds (body : α → Script σ κ ι ε (α ⊕ β)) : ℕ → α → Script σ κ ι ε β
  | 0, _ => fun s answers => ⟨.running, s, [], answers⟩
  | n + 1, value => do
    match ← body value with
    | .inl next => rounds body n next
    | .inr result => return result

/-- A loop that makes a call in each round and leaves with a result. -/
def loop (body : α → Script σ κ ι ε (α ⊕ β)) (start : α) : Script σ κ ι ε β :=
  fun s answers => rounds body (answers.length + 1) start s answers

/-! ## What holds of all runs -/

/-- What a history and the next step of a run may satisfy. -/
abbrev Condition (σ κ ι : Type) := List (Step σ κ ι) → Step σ κ ι → Prop

/-- What holds when a run has come so far, of the state and the log. -/
abbrev Post (σ κ ι ε α : Type) := Exit ε α → σ → List (Step σ κ ι) → Prop

/-- Every run of the script from `s`, after the steps `l`, ends as `Q` says, provided that its
steps meet the condition. -/
def Ends (C : Condition σ κ ι) (x : Script σ κ ι ε α) (Q : Post σ κ ι ε α) (s : σ)
    (l : List (Step σ κ ι)) : Prop :=
  ∀ answers, (∀ l₁ y l₂, (x s answers).log = l₁ ++ y :: l₂ → C (l ++ l₁) y) →
    Q (x s answers).exit (x s answers).state (l ++ (x s answers).log)

variable {C : Condition σ κ ι} {x : Script σ κ ι ε α} {Q Q' : Post σ κ ι ε α} {s : σ}
  {l : List (Step σ κ ι)}

/-- The conclusion about a whole run. -/
theorem Ends.run (h : Ends C x Q s []) (answers : List ι)
    (hC : ∀ l y r, (x s answers).log = l ++ y :: r → C l y) :
    Q (x s answers).exit (x s answers).state (x s answers).log :=
  h answers hC

lemma Ends.mono (h : Ends C x Q s l) (hQ : ∀ exit s l, Q exit s l → Q' exit s l) :
    Ends C x Q' s l :=
  fun answers hC => hQ _ _ _ (h answers hC)

lemma Ends.pure {value : α} (h : Q (.returned value) s l) : Ends C (pure value) Q s l := by
  intro answers _
  show Q (.returned value) s (l ++ [])
  rwa [List.append_nil]

lemma Ends.raise {error : ε} (h : Q (.raised error) s l) : Ends C (raise error) Q s l := by
  intro answers _
  show Q (.raised error) s (l ++ [])
  rwa [List.append_nil]

lemma Ends.get {Q : Post σ κ ι ε σ} (h : Q (.returned s) s l) : Ends C get Q s l := by
  intro answers _
  show Q (.returned s) s (l ++ [])
  rwa [List.append_nil]

lemma Ends.modify {Q : Post σ κ ι ε Unit} {f : σ → σ} (h : Q (.returned ()) (f s) l) :
    Ends C (modify f) Q s l := by
  intro answers _
  show Q (.returned ()) (f s) (l ++ [])
  rwa [List.append_nil]

/-- A call, answered in any way that meets the condition. -/
lemma Ends.ask {Q : Post σ κ ι ε ι} {call : κ} (hwait : Q .running s l)
    (h : ∀ answer, C l ⟨s, call, answer⟩ → Q (.returned answer) s (l ++ [⟨s, call, answer⟩])) :
    Ends C (ask call) Q s l := by
  intro answers hC
  cases answers with
  | nil =>
    show Q .running s (l ++ [])
    rwa [List.append_nil]
  | cons answer rest =>
    refine h answer ?_
    simpa using hC [] ⟨s, call, answer⟩ [] rfl

/-- The state that a first part leaves is where the second part starts. -/
def Post.andThen (C : Condition σ κ ι) (f : α → Script σ κ ι ε β) (Q : Post σ κ ι ε β) :
    Post σ κ ι ε α
  | .returned value, s, l => Ends C (f value) Q s l
  | .raised error, s, l => Q (.raised error) s l
  | .running, s, l => Q .running s l

lemma Ends.bind {f : α → Script σ κ ι ε β} {Q : Post σ κ ι ε β}
    (h : Ends C x (Post.andThen C f Q) s l) : Ends C (x >>= f) Q s l := by
  intro answers hC
  have hx := h answers
  show Q ((x s answers).andThen f).exit ((x s answers).andThen f).state
    (l ++ ((x s answers).andThen f).log)
  replace hC : ∀ l₁ y l₂, ((x s answers).andThen f).log = l₁ ++ y :: l₂ → C (l ++ l₁) y := hC
  revert hx hC
  generalize x s answers = r
  obtain ⟨exit, s', log, rest⟩ := r
  intro hx hC
  cases exit with
  | returned value =>
    have hfirst : Ends C (f value) Q s' (l ++ log) := hx fun l₁ y l₂ hlog =>
      hC l₁ y (l₂ ++ (f value s' rest).log) (by
        show log ++ (f value s' rest).log = _
        rw [show log = l₁ ++ y :: l₂ from hlog, List.append_assoc, List.cons_append])
    have hrest := hfirst rest fun l₁ y l₂ hlog => by
      rw [List.append_assoc]
      refine hC (log ++ l₁) y l₂ ?_
      show log ++ (f value s' rest).log = _
      rw [hlog, List.append_assoc]
    show Q (f value s' rest).exit (f value s' rest).state (l ++ (log ++ (f value s' rest).log))
    rwa [← List.append_assoc]
  | raised error => exact hx hC
  | running => exact hx hC

/-- Where a part raises, its handler starts. -/
def Post.orElse (C : Condition σ κ ι) (handler : ε → Script σ κ ι ε α) (Q : Post σ κ ι ε α) :
    Post σ κ ι ε α
  | .raised error, s, l => Ends C (handler error) Q s l
  | .returned value, s, l => Q (.returned value) s l
  | .running, s, l => Q .running s l

lemma Ends.tryCatch {handler : ε → Script σ κ ι ε α}
    (h : Ends C x (Post.orElse C handler Q) s l) : Ends C (tryCatch x handler) Q s l := by
  intro answers hC
  have hx := h answers
  show Q ((x s answers).orElse handler).exit ((x s answers).orElse handler).state
    (l ++ ((x s answers).orElse handler).log)
  replace hC : ∀ l₁ y l₂, ((x s answers).orElse handler).log = l₁ ++ y :: l₂ →
    C (l ++ l₁) y := hC
  revert hx hC
  generalize x s answers = r
  obtain ⟨exit, s', log, rest⟩ := r
  intro hx hC
  cases exit with
  | raised error =>
    have hfirst : Ends C (handler error) Q s' (l ++ log) := hx fun l₁ y l₂ hlog =>
      hC l₁ y (l₂ ++ (handler error s' rest).log) (by
        show log ++ (handler error s' rest).log = _
        rw [show log = l₁ ++ y :: l₂ from hlog, List.append_assoc, List.cons_append])
    have hrest := hfirst rest fun l₁ y l₂ hlog => by
      rw [List.append_assoc]
      refine hC (log ++ l₁) y l₂ ?_
      show log ++ (handler error s' rest).log = _
      rw [hlog, List.append_assoc]
    show Q (handler error s' rest).exit (handler error s' rest).state
      (l ++ (log ++ (handler error s' rest).log))
    rwa [← List.append_assoc]
  | returned value => exact hx hC
  | running => exact hx hC

/-- What holds at the start of each round of a loop, and once a round has left it. -/
def Post.again (I : α → σ → List (Step σ κ ι) → Prop) (Q : Post σ κ ι ε β) :
    Post σ κ ι ε (α ⊕ β)
  | .returned (.inl next), s, l => I next s l
  | .returned (.inr result), s, l => Q (.returned result) s l
  | .raised error, s, l => Q (.raised error) s l
  | .running, s, l => Q .running s l

lemma Ends.rounds {body : α → Script σ κ ι ε (α ⊕ β)} {Q : Post σ κ ι ε β}
    (I : α → σ → List (Step σ κ ι) → Prop)
    (hbody : ∀ value s l, I value s l → Ends C (body value) (Post.again I Q) s l)
    (hwait : ∀ value s l, I value s l → Q .running s l) (n : ℕ) {value : α}
    (h : I value s l) : Ends C (rounds body n value) Q s l := by
  induction n generalizing value s l with
  | zero =>
    intro answers _
    show Q .running s (l ++ [])
    rw [List.append_nil]
    exact hwait value s l h
  | succ n ih =>
    refine Ends.bind ((hbody value s l h).mono ?_)
    intro exit s' l' hround
    cases exit with
    | returned step =>
      cases step with
      | inl next => exact ih hround
      | inr result => exact Ends.pure hround
    | raised error => exact hround
    | running => exact hround

/-- A loop keeps its invariant. -/
theorem Ends.loop {body : α → Script σ κ ι ε (α ⊕ β)} {Q : Post σ κ ι ε β}
    (I : α → σ → List (Step σ κ ι) → Prop)
    (hbody : ∀ value s l, I value s l → Ends C (body value) (Post.again I Q) s l)
    (hwait : ∀ value s l, I value s l → Q .running s l) {start : α} (h : I start s l) :
    Ends C (loop body start) Q s l :=
  fun answers hC => Ends.rounds I hbody hwait (answers.length + 1) h answers hC

/-- A `finally` block runs after a return and after an exception. -/
lemma Ends.ensure {final : Script σ κ ι ε Unit}
    (h : Ends C x (fun exit s l => match exit with
      | .returned value => Ends C final (fun exit s l => match exit with
        | .returned _ => Q (.returned value) s l
        | .raised error => Q (.raised error) s l
        | .running => Q .running s l) s l
      | .raised error => Ends C final (fun exit s l => match exit with
        | .returned _ => Q (.raised error) s l
        | .raised error' => Q (.raised error') s l
        | .running => Q .running s l) s l
      | .running => Q .running s l) s l) : Ends C (ensure x final) Q s l := by
  refine Ends.bind (Ends.tryCatch (h.mono ?_))
  intro exit s' l' hx
  cases exit with
  | returned value =>
    refine Ends.bind (hx.mono ?_)
    intro exit s'' l'' hfinal
    cases exit with
    | returned _ => exact Ends.pure hfinal
    | raised error => exact hfinal
    | running => exact hfinal
  | raised error =>
    refine Ends.bind (hx.mono ?_)
    intro exit s'' l'' hfinal
    cases exit with
    | returned _ => exact Ends.raise hfinal
    | raised error' => exact hfinal
    | running => exact hfinal
  | running => exact hx

/-! ## Parts of a run -/

/-- A part of a run that keeps `I`, raises what `E` allows and returns as `P` says. -/
def Within (I : List (Step σ κ ι) → Prop) (E : ε → Prop)
    (P : α → σ → List (Step σ κ ι) → Prop) : Post σ κ ι ε α
  | .returned value, s, l => I l ∧ P value s l
  | .raised error, _, l => I l ∧ E error
  | .running, _, l => I l

section Within

variable {I : List (Step σ κ ι) → Prop} {E : ε → Prop} {P : α → σ → List (Step σ κ ι) → Prop}
  {R : β → σ → List (Step σ κ ι) → Prop}

lemma Ends.within (h : Ends C x (Within I E P) s l)
    (hreturned : ∀ value s l, I l → P value s l → Q (.returned value) s l)
    (hraised : ∀ error s l, I l → E error → Q (.raised error) s l)
    (hrunning : ∀ s l, I l → Q .running s l) : Ends C x Q s l := by
  refine h.mono ?_
  intro exit s' l' hend
  cases exit with
  | returned value => exact hreturned value s' l' hend.1 hend.2
  | raised error => exact hraised error s' l' hend.1 hend.2
  | running => exact hrunning s' l' hend

/-- Two parts of one kind. -/
lemma Ends.andThen {f : α → Script σ κ ι ε β} (hx : Ends C x (Within I E P) s l)
    (hf : ∀ value s l, I l → P value s l → Ends C (f value) (Within I E R) s l) :
    Ends C (x >>= f) (Within I E R) s l :=
  Ends.bind (hx.within hf (fun _ _ _ hI hE => ⟨hI, hE⟩) fun _ _ hI => hI)

/-- A loop of such parts, with an invariant of its own. -/
lemma Ends.loop_within {body : α → Script σ κ ι ε (α ⊕ β)}
    (J : α → σ → List (Step σ κ ι) → Prop)
    (hbody : ∀ value s l, I l → J value s l → Ends C (body value)
      (Within I E fun result s l => result.elim (J · s l) (R · s l)) s l)
    {start : α} (hI : I l) (hJ : J start s l) :
    Ends C (Script.loop body start) (Within I E R) s l := by
  refine Ends.loop (fun value s l => I l ∧ J value s l) ?_ (fun _ _ _ h => h.1) ⟨hI, hJ⟩
  rintro value s l ⟨hI, hJ⟩
  refine (hbody value s l hI hJ).within ?_ (fun _ _ _ hI hE => ⟨hI, hE⟩) fun _ _ hI => hI
  intro result s' l' hI' hresult
  cases result with
  | inl next => exact ⟨hI', hresult⟩
  | inr result => exact ⟨hI', hresult⟩

end Within

end Script
