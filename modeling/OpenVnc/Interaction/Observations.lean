import OpenVnc.Interaction.Executions

/-!
# What an observer sees of an execution

An observer sees some of the events, each as an observation. `Proceeds` is the triple
for an observer: a program that returns has shown observations that fit its value and
its final memory, and one that stops on the way, with an error or, for want of an answer,
without one, has shown no more than `stopped` allows for that error. Sequencing appends
observations, so that a proof follows the program and accumulates what has been seen.
-/

namespace Interaction

open Program

variable {S E F Req O : Type} {Ans : Req → Type} {α β : Type}

/-- Every execution from `memory` that returns ends in `passed`, every one that stops
earlier satisfies `stopped`, and only tolerated faults occur. -/
def Proceeds (may : (request : Req) → Ans request → Prop) (observe : Event S Req Ans → Option O)
    (tolerated : F → Prop) (stopped : Option E → List O → Prop) (program : Program S E F Req Ans α)
    (memory : S) (passed : α → List O → S → Prop) : Prop :=
  program.wp may (fun events outcome final =>
    match outcome with
    | .returned value => passed value (events.filterMap observe) final
    | .failed error => stopped (some error) (events.filterMap observe)
    | .faulted fault => tolerated fault
    | .waiting => stopped none (events.filterMap observe)) memory

namespace Proceeds

variable {may : (request : Req) → Ans request → Prop} {observe : Event S Req Ans → Option O}
  {tolerated : F → Prop} {stopped : Option E → List O → Prop} {memory : S}

/-- Returning shows nothing to the observer, so what has to pass must hold with nothing seen. -/
theorem done {value : α} {passed : α → List O → S → Prop} (holds : passed value [] memory) :
    Proceeds may observe tolerated stopped
      (Program.done value : Program S E F Req Ans α) memory passed := holds

/-- Failing shows nothing; the program has to be allowed to stop there with its error. -/
theorem fail {error : E} {passed : α → List O → S → Prop} (allowed : stopped (some error) []) :
    Proceeds may observe tolerated stopped
      (Program.fail error : Program S E F Req Ans α) memory passed := allowed

/-- An update shows nothing. What has to pass must hold in the changed memory. -/
theorem update {change : S → S} {passed : Unit → List O → S → Prop}
    (holds : passed () [] (change memory)) :
    Proceeds may observe tolerated stopped
      (Program.update change : Program S E F Req Ans Unit) memory passed := holds

/-- A weaker specification. It may allow more stops and promise less of the return. -/
theorem weaken {program : Program S E F Req Ans α} {passed passed' : α → List O → S → Prop}
    {stopped' : Option E → List O → Prop}
    (proceeds : Proceeds may observe tolerated stopped program memory passed)
    (allows : ∀ reason seen, stopped reason seen → stopped' reason seen)
    (follows : ∀ value seen final, passed value seen final → passed' value seen final) :
    Proceeds may observe tolerated stopped' program memory passed' := by
  apply wp_mono proceeds
  intro events outcome final ended
  cases outcome with
  | returned value => exact follows value _ final ended
  | failed error => exact allows _ _ ended
  | faulted fault => exact ended
  | waiting => exact allows _ _ ended

/-- More faults may be tolerated. The rest of the specification is not touched. -/
theorem tolerating {program : Program S E F Req Ans α} {passed : α → List O → S → Prop}
    {tolerated' : F → Prop}
    (proceeds : Proceeds may observe tolerated stopped program memory passed)
    (accepts : ∀ fault, tolerated fault → tolerated' fault) :
    Proceeds may observe tolerated' stopped program memory passed := by
  apply wp_mono proceeds
  intro events outcome final ended
  cases outcome with
  | faulted fault => exact accepts fault ended
  | returned | failed | waiting => exact ended

/-- A weaker specification of the return alone. -/
theorem returning {program : Program S E F Req Ans α} {passed passed' : α → List O → S → Prop}
    (proceeds : Proceeds may observe tolerated stopped program memory passed)
    (follows : ∀ value seen final, passed value seen final → passed' value seen final) :
    Proceeds may observe tolerated stopped program memory passed' :=
  proceeds.weaken (fun _ _ allowed => allowed) follows

/-- What the first part has shown comes before what the second one shows. -/
theorem sequence {first : Program S E F Req Ans α} {following : α → Program S E F Req Ans β}
    {middle : α → List O → S → Prop} {passed : β → List O → S → Prop}
    (begins : Proceeds may observe tolerated stopped first memory middle)
    (continues : ∀ value seen final, middle value seen final →
      Proceeds may observe tolerated (fun reason later => stopped reason (seen ++ later))
        (following value) final
        (fun result later => passed result (seen ++ later))) :
    Proceeds may observe tolerated stopped (Program.sequence first following) memory passed := by
  refine wp_after begins (fun events value final ended => ?_) (fun _ _ _ ended => ended)
    (fun _ _ _ ended => ended) (fun _ _ ended => ended)
  apply wp_mono (continues value _ final ended)
  intro later outcome last after
  cases outcome <;> simpa [List.filterMap_append] using after

/-- An update before a program shows nothing: the program may be considered from the changed
memory. -/
theorem update_then {change : S → S} {following : Unit → Program S E F Req Ans α}
    {passed : α → List O → S → Prop}
    (continues : Proceeds may observe tolerated stopped (following ()) (change memory) passed) :
    Proceeds may observe tolerated stopped (Program.sequence (Program.update change) following)
      memory passed := continues

/-- After loading, only the continuation of the memory that is there matters. -/
theorem load {following : S → Program S E F Req Ans α} {passed : α → List O → S → Prop}
    (continues : Proceeds may observe tolerated stopped (following memory) memory passed) :
    Proceeds may observe tolerated stopped (Program.sequence Program.load following) memory
      passed := continues

/-- A choice proceeds as each branch does, under the assumption that led to it. -/
theorem ite {condition : Prop} [Decidable condition] {yes no : Program S E F Req Ans α}
    {passed : α → List O → S → Prop}
    (left : condition → Proceeds may observe tolerated stopped yes memory passed)
    (right : ¬ condition → Proceeds may observe tolerated stopped no memory passed) :
    Proceeds may observe tolerated stopped (if condition then yes else no) memory passed := by
  split
  · exact left ‹_›
  · exact right ‹_›

/-- A part that runs under a condition. Without it what has to pass must hold with nothing seen.
-/
theorem onlyIf {condition : Prop} [Decidable condition] {body : Program S E F Req Ans Unit}
    {passed : Unit → List O → S → Prop}
    (left : condition → Proceeds may observe tolerated stopped body memory passed)
    (right : ¬ condition → passed () [] memory) :
    Proceeds may observe tolerated stopped (Program.onlyIf condition body) memory passed :=
  ite left (fun fails => done (right fails))

/-- A guard that is passed only when its condition does not hold. When it fails, nothing has
been shown yet. -/
theorem failIf {condition : Prop} [Decidable condition] {error : E}
    {following : Unit → Program S E F Req Ans α} {passed : α → List O → S → Prop}
    (allowed : condition → stopped (some error) [])
    (continues : ¬ condition →
      Proceeds may observe tolerated stopped (following ()) memory passed) :
    Proceeds may observe tolerated stopped
      (Program.sequence (Program.failIf condition error) following) memory passed := by
  unfold Program.failIf
  split
  · next holds => exact allowed holds
  · next passes => exact continues passes

/-- A guard after which the behaviour is undefined unless its condition fails. -/
theorem faultIf {condition : Prop} [Decidable condition] {reason : F}
    {following : Unit → Program S E F Req Ans α} {passed : α → List O → S → Prop}
    (accepted : condition → tolerated reason)
    (continues : ¬ condition →
      Proceeds may observe tolerated stopped (following ()) memory passed) :
    Proceeds may observe tolerated stopped
      (Program.sequence (Program.faultIf condition reason) following) memory passed := by
  unfold Program.faultIf
  split
  · next holds => exact accepted holds
  · next passes => exact continues passes

/-- A request that the observer does not see. Waiting for its answer is a stop of its own. -/
theorem ask {request : Req} {following : Ans request → Program S E F Req Ans α}
    {passed : α → List O → S → Prop} (unseen : ∀ answer, observe ⟨memory, request, answer⟩ = none)
    (allowed : stopped none [])
    (continues : ∀ answer, may request answer →
      Proceeds may observe tolerated stopped (following answer) memory passed) :
    Proceeds may observe tolerated stopped
      (Program.sequence (Program.ask request) following) memory passed := by
  refine ⟨allowed, fun answer admitted => ?_⟩
  apply wp_mono (continues answer admitted)
  intro later outcome final ended
  cases outcome <;> simpa [unseen answer] using ended

/-- A program of which the observer sees nothing keeps what it keeps. It can then be put in
front of anything that is observed. -/
theorem of_keeps {V : Type} {view : S → V} {accepted : V → F → Prop}
    {program : Program S E F Req Ans α}
    (keeps : Keeps may view (fun event => observe event = none) accepted program)
    (tolerable : ∀ fault, accepted (view memory) fault → tolerated fault)
    (allowed : ∀ reason, stopped reason []) :
    Proceeds may observe tolerated stopped program memory
      (fun _ seen final => seen = [] ∧ view final = view memory) := by
  apply wp_mono (keeps memory)
  rintro events outcome final ⟨same, within, faults⟩
  have unseen : events.filterMap observe = [] :=
    List.filterMap_eq_nil_iff.mpr (fun event member => (within event member).2)
  cases outcome with
  | returned value => exact ⟨unseen, same⟩
  | failed error => exact unseen.symm ▸ allowed _
  | faulted fault => exact tolerable fault (faults fault rfl)
  | waiting => exact unseen.symm ▸ allowed _

end Proceeds

end Interaction
