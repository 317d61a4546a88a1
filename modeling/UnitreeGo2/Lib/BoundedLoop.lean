import Mathlib.Order.Basic

/-!
# Loops whose rounds may fault

A loop runs its body in rounds: a round goes on in another state, leaves the loop with a result,
or faults.  A run that neither faults nor runs out of rounds has a result, and a measure that
every round lowers says how many rounds are enough.
-/

universe u v

/-- What a round of a loop comes to, unless it faults. -/
inductive Round (σ : Type u) (α : Type v) where
  | next (state : σ)
  | leave (result : α)

variable {σ : Type u} {α : Type v}

/-- A round that goes on in a state with `P`, or leaves with a result with `Q`. -/
def Round.Meets (P : σ → Prop) (Q : α → Prop) : Round σ α → Prop
  | .next s => P s
  | .leave a => Q a

namespace Loop

/-- The result of a loop, if it leaves within so many rounds without a fault. -/
def run (body : σ → Option (Round σ α)) : ℕ → σ → Option α
  | 0, _ => none
  | rounds + 1, s =>
    match body s with
    | none => none
    | some (.next s') => run body rounds s'
    | some (.leave a) => some a

variable {body : σ → Option (Round σ α)} {rounds : ℕ} {s s' : σ} {a : α}

lemma run_next (hpos : 0 < rounds) (h : body s = some (.next s')) :
    run body rounds s = run body (rounds - 1) s' := by
  obtain ⟨rounds, rfl⟩ := Nat.exists_eq_succ_of_ne_zero (Nat.ne_of_gt hpos)
  simp only [run, h, Nat.succ_eq_add_one, Nat.add_sub_cancel]

lemma run_leave (hpos : 0 < rounds) (h : body s = some (.leave a)) :
    run body rounds s = some a := by
  obtain ⟨rounds, rfl⟩ := Nat.exists_eq_succ_of_ne_zero (Nat.ne_of_gt hpos)
  simp only [run, h]

/-- **The loop rule for total correctness**: rounds that keep an invariant and lower a measure
lead to a result. -/
theorem run_total {I : σ → Prop} {Q : α → Prop} (measure : σ → ℕ)
    (h : ∀ s, I s → ∃ round, body s = some round ∧
      round.Meets (fun s' => I s' ∧ measure s' < measure s) Q) :
    ∀ {rounds : ℕ} {s : σ}, I s → measure s < rounds → ∃ a, run body rounds s = some a ∧ Q a := by
  intro rounds
  induction rounds with
  | zero => exact fun _ hlt => absurd hlt (Nat.not_lt_zero _)
  | succ rounds ih =>
    intro s hs hlt
    obtain ⟨round, hbody, hmeets⟩ := h s hs
    cases round with
    | next s' =>
      obtain ⟨a, ha, hQ⟩ := ih hmeets.1 (Nat.lt_of_lt_of_le hmeets.2 (Nat.le_of_lt_succ hlt))
      exact ⟨a, (run_next rounds.succ_pos hbody).trans ha, hQ⟩
    | leave a => exact ⟨a, run_leave rounds.succ_pos hbody, hmeets⟩

/-- A loop whose rounds never fault and lower a measure comes to a result. -/
theorem run_terminates (measure : σ → ℕ)
    (h : ∀ s, ∃ round, body s = some round ∧
      round.Meets (fun s' => measure s' < measure s) fun _ => True)
    (hrounds : measure s < rounds) : ∃ a, run body rounds s = some a := by
  have hround : ∀ s, True → ∃ round, body s = some round ∧
      round.Meets (fun s' => True ∧ measure s' < measure s) (fun _ => True) := by
    intro s _
    obtain ⟨round, hbody, hmeets⟩ := h s
    cases round with
    | next s' => exact ⟨_, hbody, trivial, hmeets⟩
    | leave a => exact ⟨_, hbody, trivial⟩
  obtain ⟨a, ha, -⟩ := run_total measure hround trivial hrounds
  exact ⟨a, ha⟩

end Loop
