import OpenVnc.Interaction.Compositions

/-!
# Ledgers

A ledger has one entry for each item that is obtained from the environment and one for each
item given back. Its balance is what is still out, and it has none when an item is given back
that is not out. A program balances when, started with a memory that holds what is out, it
never spoils the ledger and ends with a memory that holds what is out then. The rules are
those of an invariant; a program that makes no entry needs only to keep what is held.
-/

namespace Interaction

/-- An entry of a ledger. What an item is, and when one is obtained, is for the user of the
ledger to say. -/
inductive Entry (B : Type) where
  | obtained (item : B)
  | released (item : B)
deriving DecidableEq, Repr

section Balance

variable {B : Type} [DecidableEq B]

/-- What is out after the entries. The items out form a list in which the order is of no
account. Giving back what is not out spoils the ledger. -/
def balance : List B → List (Entry B) → Option (List B)
  | out, [] => some out
  | out, .obtained item :: entries => balance (item :: out) entries
  | out, .released item :: entries =>
      if item ∈ out then balance (out.erase item) entries else none

/-- The entries of two parts of a ledger. If the first part spoils the ledger, the whole does.
-/
theorem balance_append (out : List B) (earlier later : List (Entry B)) :
    balance out (earlier ++ later) =
      (balance out earlier).bind (fun middle => balance middle later) := by
  induction earlier generalizing out with
  | nil => rfl
  | cons entry entries inductionHypothesis =>
    cases entry with
    | obtained item => exact inductionHypothesis (item :: out)
    | released item =>
      simp only [List.cons_append, balance]
      split
      · exact inductionHypothesis (out.erase item)
      · rfl

/-- An item obtained and another given back in its place. The item may be the same. -/
theorem balance_replace (old new : B) :
    balance [old] [.obtained new, .released old] = some [new] := by
  by_cases same : new = old
  · subst same
    simp [balance]
  · simp [balance, same]

end Balance

variable {S E F Req : Type} {Ans : Req → Type} {α β B : Type} [DecidableEq B]

/-- The postcondition of a program that balances, started with `out`. When it stops without a
result only the soundness of the ledger is left to say. -/
def Accounted (entries : Event S Req Ans → List (Entry B)) (held : S → List B)
    (holds : S → Prop) (out : List B) :
    List (Event S Req Ans) → Outcome E F α → S → Prop :=
  fun events outcome final =>
    match outcome with
    | .returned _ => balance out (events.flatMap entries) = some (held final) ∧ holds final
    | .failed _ => balance out (events.flatMap entries) = some (held final) ∧ holds final
    | .faulted _ => (balance out (events.flatMap entries)).isSome
    | .waiting => (balance out (events.flatMap entries)).isSome

/-- Started where the invariant holds and the memory holds what is out, the program ends so.
What is held can then be computed from the memory alone, between any two programs of the kind.
-/
def Balances (may : (request : Req) → Ans request → Prop)
    (entries : Event S Req Ans → List (Entry B)) (held : S → List B) (holds : S → Prop)
    (program : Program S E F Req Ans α) : Prop :=
  ∀ memory, holds memory → program.wp may (Accounted entries held holds (held memory)) memory

section Accounted

variable {entries : Event S Req Ans → List (Entry B)} {held : S → List B} {holds : S → Prop}
  {out middle : List B} {earlier later : List (Event S Req Ans)} {final : S}

/-- A balanced part after another. What the first part leaves out is what the second one starts
with. -/
theorem Accounted.prepend {outcome : Outcome E F α}
    (begun : balance out (earlier.flatMap entries) = some middle)
    (rest : Accounted entries held holds middle later outcome final) :
    Accounted entries held holds out (earlier ++ later) outcome final := by
  have joined : balance out ((earlier ++ later).flatMap entries) =
      balance middle (later.flatMap entries) := by
    rw [List.flatMap_append, balance_append, begun]
    rfl
  cases outcome with
  | returned | failed =>
    unfold Accounted
    rw [joined]
    exact rest
  | faulted | waiting =>
    unfold Accounted
    rw [joined]
    exact rest

end Accounted

namespace Balances

open Program

variable {may : (request : Req) → Ans request → Prop}
  {entries : Event S Req Ans → List (Entry B)} {held : S → List B} {holds : S → Prop}

/-- A program that makes no entry and keeps a part of the memory from which both what is
held and the invariant can be told. -/
theorem of_keeps {V : Type} {view : S → V} {admitted : Event S Req Ans → Prop}
    {tolerated : V → F → Prop} {program : Program S E F Req Ans α}
    (kept : Keeps may view admitted tolerated program)
    (silent : ∀ event, admitted event → entries event = [])
    (told : ∀ left right, view left = view right → held left = held right ∧
      (holds left ↔ holds right)) :
    Balances may entries held holds program := by
  intro memory held
  apply wp_mono (kept memory)
  rintro events outcome final ⟨same, within, -⟩
  have none : events.flatMap entries = [] := by
    rw [List.flatMap_eq_nil_iff]
    exact fun event member => silent event (within event member).2
  obtain ⟨sameHeld, sameHolds⟩ := told final memory same
  unfold Accounted
  rw [none]
  cases outcome with
  | returned | failed => exact ⟨congrArg some sameHeld.symm, sameHolds.mpr held⟩
  | faulted | waiting => rfl

/-- Returning makes no entry and changes nothing that is held. -/
theorem done (value : α) :
    Balances may entries held holds (Program.done value : Program S E F Req Ans α) :=
  fun _ holding => ⟨rfl, holding⟩

/-- Nor does ending with an error. -/
theorem fail (error : E) :
    Balances may entries held holds (Program.fail error : Program S E F Req Ans α) :=
  fun _ holding => ⟨rfl, holding⟩

/-- A program that waits for ever has made no entry. -/
theorem stalled :
    Balances may entries held holds (Program.stalled : Program S E F Req Ans α) :=
  fun _ _ => rfl

/-- Sequencing from a given memory, after a first part that has been accounted for. The first
part need not balance from every memory. -/
theorem wp_sequence {first : Program S E F Req Ans α} {following : α → Program S E F Req Ans β}
    {out : List B} {memory : S}
    (begins : first.wp may (Accounted entries held holds out) memory)
    (continues : ∀ value, Balances may entries held holds (following value)) :
    (Program.sequence first following).wp may (Accounted entries held holds out) memory := by
  apply wp_after begins
  · rintro events value middle ⟨begun, holding⟩
    apply wp_mono (continues value middle holding)
    intro later outcome final rest
    exact rest.prepend begun
  · exact fun _ _ _ ended => ended
  · exact fun _ _ _ ended => ended
  · exact fun _ _ ended => ended

/-- Two parts that balance do so one after the other: the entries of the second continue those of
the first. -/
theorem sequence {first : Program S E F Req Ans α} {following : α → Program S E F Req Ans β}
    (begins : Balances may entries held holds first)
    (continues : ∀ value, Balances may entries held holds (following value)) :
    Balances may entries held holds (Program.sequence first following) :=
  fun memory holding => wp_sequence (begins memory holding) continues

/-- After loading, the continuation of every memory has to balance. It may use what the memory
holds. -/
theorem load {following : S → Program S E F Req Ans α}
    (continues : ∀ memory, holds memory →
      (following memory).wp may (Accounted entries held holds (held memory)) memory) :
    Balances may entries held holds (Program.sequence Program.load following) :=
  fun memory holding => continues memory holding

/-- Observing an error as a value makes no entry, and an error leaves the ledger balanced as well.
-/
theorem attempt {program : Program S E F Req Ans α}
    (balances : Balances may entries held holds program) :
    Balances may entries held holds (Program.attempt program) := by
  intro memory holding
  rw [wp_attempt]
  apply wp_mono (balances memory holding)
  intro events outcome final accounted
  cases outcome with
  | returned | failed | faulted | waiting => exact accounted

/-- Every way of putting programs together keeps the balance. What programs are composed of is
therefore all that has to be looked at. -/
theorem compositional {commits : F → Prop} :
    Compositional commits (fun _ (program : Program S E F Req Ans _) =>
      Balances may entries held holds program) where
  done := done
  fail := fail
  fault _ _ _ _ := rfl
  stalled := stalled
  sequence := sequence
  load continues := load (fun memory holding => continues memory memory holding)
  attempt := attempt

end Balances

end Interaction
