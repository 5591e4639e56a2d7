import Mathlib.Data.List.Induction

/-!
# Runs of a labelled step relation

A run records the labels of its steps in order. An invariant relates the history
so far to the state reached; if it holds at the start and each step extends it, it
holds of every run, and so at every moment of one.
-/

namespace Interaction

variable {P L : Type}

/-- The runs from a state: the labels of the steps taken and the state reached. The last step
stands at the end, which is where histories grow. -/
inductive Run (step : P → L → P → Prop) (start : P) : List L → P → Prop where
  | nil : Run step start [] start
  | snoc {history : List L} {before after : P} {label : L}
      (earlier : Run step start history before) (taken : step before label after) :
      Run step start (history ++ [label]) after

namespace Run

variable {step : P → L → P → Prop} {start : P}

/-- The induction rule for invariants of histories. The condition may speak of all that has
happened, and not only of where it led. -/
theorem invariant (holds : List L → P → Prop) (initially : holds [] start)
    (preserved : ∀ history before label after, holds history before →
      step before label after → holds (history ++ [label]) after)
    {history : List L} {reached : P} (run : Run step start history reached) :
    holds history reached := by
  induction run with
  | nil => exact initially
  | snoc earlier taken inductionHypothesis =>
    exact preserved _ _ _ _ inductionHypothesis taken

/-- The induction rule for invariants of states alone. It is the one most results about
reachable states are derived with. -/
theorem state_invariant (holds : P → Prop) (initially : holds start)
    (preserved : ∀ before label after, holds before → step before label after → holds after)
    {history : List L} {reached : P} (run : Run step start history reached) : holds reached :=
  run.invariant (fun _ => holds) initially
    (fun _ before label after => preserved before label after)

/-- A run of a relation is one of every weaker relation. Premises on steps are therefore dropped
in this direction only. -/
theorem weaken {step' : P → L → P → Prop}
    (weaker : ∀ before label after, step before label after → step' before label after)
    {history : List L} {reached : P} (run : Run step start history reached) :
    Run step' start history reached := by
  induction run with
  | nil => exact .nil
  | snoc earlier taken inductionHypothesis =>
    exact inductionHypothesis.snoc (weaker _ _ _ taken)

/-- Runs are observed alike when each step from a state of the invariant is matched by one that
is observed alike. -/
theorem observed {L' O : Type} {step' : P → L' → P → Prop} {seen : L → O} {seen' : L' → O}
    (holds : P → Prop) (initially : holds start)
    (matched : ∀ before label after, holds before → step before label after →
      holds after ∧ ∃ label', step' before label' after ∧ seen' label' = seen label)
    {history : List L} {reached : P} (run : Run step start history reached) :
    ∃ history', Run step' start history' reached ∧ history'.map seen' = history.map seen := by
  have both : holds reached ∧
      ∃ history', Run step' start history' reached ∧ history'.map seen' = history.map seen := by
    induction run with
    | nil => exact ⟨initially, [], .nil, rfl⟩
    | snoc earlier taken inductionHypothesis =>
      obtain ⟨held, history', run, same⟩ := inductionHypothesis
      obtain ⟨later, label', taken', alike⟩ := matched _ _ _ held taken
      exact ⟨later, history' ++ [label'], run.snoc taken', by simp [same, alike]⟩
  exact both.2

/-- A run of no steps. -/
@[simp] theorem nil_iff {reached : P} : Run step start [] reached ↔ reached = start := by
  constructor
  · generalize taken : ([] : List L) = history
    intro run
    cases run with
    | nil => rfl
    | snoc earlier last => exact absurd taken (by simp)
  · rintro rfl
    exact .nil

/-- The last step of a run. Proofs that go backwards through a run start here. -/
theorem snoc_iff {history : List L} {label : L} {reached : P} :
    Run step start (history ++ [label]) reached ↔
      ∃ before, Run step start history before ∧ step before label reached := by
  constructor
  · generalize taken : history ++ [label] = whole
    intro run
    cases run with
    | nil => exact absurd taken (by simp)
    | snoc earlier last =>
      obtain ⟨rfl, same⟩ := List.append_inj' taken rfl
      obtain rfl := List.singleton_inj.mp same
      exact ⟨_, earlier, last⟩
  · rintro ⟨before, earlier, last⟩
    exact earlier.snoc last

/-- A run of one step. -/
theorem singleton_iff {label : L} {reached : P} :
    Run step start [label] reached ↔ step start label reached := by
  rw [← List.nil_append [label], snoc_iff]
  simp

/-- A run in two parts, by induction on the second. The state in between is what the two parts
share. -/
theorem append_iff {earlier later : List L} {reached : P} :
    Run step start (earlier ++ later) reached ↔
      ∃ middle, Run step start earlier middle ∧ Run step middle later reached := by
  induction later using List.reverseRecOn generalizing reached with
  | nil => simp
  | append_singleton later label inductionHypothesis =>
    simp only [← List.append_assoc, snoc_iff, inductionHypothesis]
    constructor
    · rintro ⟨before, ⟨middle, first, second⟩, last⟩
      exact ⟨middle, first, before, second, last⟩
    · rintro ⟨middle, first, before, second, last⟩
      exact ⟨before, ⟨middle, first, second⟩, last⟩

/-- The first step of a run. -/
theorem cons {label : L} {later : List L} {middle reached : P} (taken : step start label middle)
    (run : Run step middle later reached) : Run step start (label :: later) reached :=
  append_iff.mpr ⟨middle, singleton_iff.mpr taken, run⟩

end Run

end Interaction
