import OpenVnc.Interaction.Executions

/-!
# Running a program against a handler

A handler is one particular environment: it answers each request from a world of
its own, or leaves it unanswered. Running a program against a handler is a
function, so that it can be evaluated. Every run is an execution, which carries
the statements about all environments over to each handler; and two handlers
whose worlds correspond run every program alike.
-/

namespace Interaction

/-- An environment with a world `W`. An unanswered request leaves the program
waiting. -/
abbrev Handler (Req : Type) (Ans : Req → Type) (W : Type) :=
  (request : Req) → W → Option (Ans request) × W

variable {S E F Req W W' : Type} {Ans : Req → Type} {α β : Type}

/-- The handler answers within the limits. A question it leaves open is no answer, and is within
all limits. -/
def Handler.Within (may : (request : Req) → Ans request → Prop) (handler : Handler Req Ans W) :
    Prop :=
  ∀ request world answer later, handler request world = (some answer, later) →
    may request answer

namespace Program

/-- The outcome, the memory and the handler's world when the program stops. Where the handler
leaves a request open, the program waits. -/
def run (handler : Handler Req Ans W) : Program S E F Req Ans α → S → W →
    Outcome E F α × S × W
  | done value, memory, world => (.returned value, memory, world)
  | failing error, memory, world => (.failed error, memory, world)
  | faulting fault, memory, world => (.faulted fault, memory, world)
  | stalled, memory, world => (.waiting, memory, world)
  | loading next, memory, world => run handler (next memory) memory world
  | storing written next, _, world => run handler next written world
  | asking request next, memory, world =>
      match handler request world with
      | (none, later) => (.waiting, memory, later)
      | (some answer, later) => run handler (next answer) memory later

/-- Continue a stopped run with a second program when it returned a value. An error, a fault or
a wait is passed on as it is. -/
def proceed (handler : Handler Req Ans W) (following : α → Program S E F Req Ans β) :
    Outcome E F α × S × W → Outcome E F β × S × W
  | (.returned value, memory, world) => run handler (following value) memory world
  | (.failed error, memory, world) => (.failed error, memory, world)
  | (.faulted fault, memory, world) => (.faulted fault, memory, world)
  | (.waiting, memory, world) => (.waiting, memory, world)

variable (handler : Handler Req Ans W)

/-- A request is put to the handler in its world. Without an answer the run stops there; with one
it goes on. -/
theorem run_asking (request : Req) (next : Ans request → Program S E F Req Ans α) (memory : S)
    (world : W) : (asking request next).run handler memory world =
      match handler request world with
      | (none, later) => (.waiting, memory, later)
      | (some answer, later) => (next answer).run handler memory later := by
  simp only [run]

/-- The run of two parts is the run of the first, followed by that of the second if the first
returns. -/
theorem run_sequence (first : Program S E F Req Ans α)
    (following : α → Program S E F Req Ans β) (memory : S) (world : W) :
    (sequence first following).run handler memory world =
      proceed handler following (first.run handler memory world) := by
  induction first generalizing memory world with
  | done | failing | faulting | stalled => rfl
  | loading next inductionHypothesis => exact inductionHypothesis memory memory world
  | storing written next inductionHypothesis => exact inductionHypothesis written world
  | asking request next inductionHypothesis =>
    change (asking request (fun answer => sequence (next answer) following)).run handler memory
      world = _
    rw [run_asking, run_asking]
    rcases handler request world with ⟨_ | answer, later⟩
    · rfl
    · exact inductionHypothesis answer memory later

/-- Use the value of a first part that is known to return. The rest of the run starts where the
first part has left the memory and the handler's world. -/
theorem run_sequence_returned {first : Program S E F Req Ans α}
    {following : α → Program S E F Req Ans β} {memory memory' : S} {world world' : W} {value : α}
    (returned : first.run handler memory world = (.returned value, memory', world')) :
    (sequence first following).run handler memory world =
      (following value).run handler memory' world' := by
  rw [run_sequence, returned]
  rfl

/-- Observing an error as a value changes how the run ends, and nothing else. -/
theorem run_attempt (program : Program S E F Req Ans α) (memory : S) (world : W) :
    (attempt program).run handler memory world =
      match program.run handler memory world with
      | (.returned value, final, later) => (.returned (.ok value), final, later)
      | (.failed error, final, later) => (.returned (.error error), final, later)
      | (.faulted fault, final, later) => (.faulted fault, final, later)
      | (.waiting, final, later) => (.waiting, final, later) := by
  induction program generalizing memory world with
  | done | failing | faulting | stalled => rfl
  | loading next inductionHypothesis => exact inductionHypothesis memory memory world
  | storing written next inductionHypothesis => exact inductionHypothesis written world
  | asking request next inductionHypothesis =>
    change (asking request (fun answer => attempt (next answer))).run handler memory world = _
    rw [run_asking, run_asking]
    rcases handler request world with ⟨_ | answer, later⟩
    · rfl
    · exact inductionHypothesis answer memory later

section Basic

variable (memory : S) (world : W)

/-- A finished program returns at once, and does not turn to the handler. The same is true of a
program that fails or faults. -/
@[simp] theorem run_done (value : α) :
    (done value : Program S E F Req Ans α).run handler memory world =
      (.returned value, memory, world) := rfl

/-- Loading hands over the memory as it is. -/
@[simp] theorem run_load_then (following : S → Program S E F Req Ans α) :
    (sequence load following).run handler memory world =
      (following memory).run handler memory world := rfl

/-- An update is done before what follows it is run. -/
@[simp] theorem run_update_then (change : S → S) (following : Unit → Program S E F Req Ans α) :
    (sequence (update change) following).run handler memory world =
      (following ()).run handler (change memory) world := rfl

/-- A check ends the run with its error when its condition holds, and is passed otherwise. -/
@[simp] theorem run_failIf_then (condition : Prop) [Decidable condition] (error : E)
    (following : Unit → Program S E F Req Ans α) :
    (sequence (failIf condition error) following).run handler memory world =
      if condition then (.failed error, memory, world)
      else (following ()).run handler memory world := by
  unfold failIf
  split
  · rfl
  · rfl

/-- A check on which the behaviour is undefined ends the run with its fault when its condition
holds, and is passed otherwise. -/
@[simp] theorem run_faultIf_then (condition : Prop) [Decidable condition] (reason : F)
    (following : Unit → Program S E F Req Ans α) :
    (sequence (faultIf condition reason) following).run handler memory world =
      if condition then (.faulted reason, memory, world)
      else (following ()).run handler memory world := by
  unfold faultIf
  split
  · rfl
  · rfl

/-- An answered request continues with its answer. The world moves on as the handler said. -/
theorem run_ask_then {request : Req} {following : Ans request → Program S E F Req Ans α}
    {answer : Ans request} {later : W} (answered : handler request world = (some answer, later)) :
    (sequence (ask request) following).run handler memory world =
      (following answer).run handler memory later := by
  change (asking request following).run handler memory world = _
  rw [run_asking, answered]

end Basic

/-- The events of a run. They are computed along with the run and not from it, since a run only
keeps where it came to. -/
def trace : Program S E F Req Ans α → S → W → List (Event S Req Ans)
  | done _, _, _ | failing _, _, _ | faulting _, _, _ | stalled, _, _ => []
  | loading next, memory, world => trace (next memory) memory world
  | storing written next, _, world => trace next written world
  | asking request next, memory, world =>
      match handler request world with
      | (none, _) => []
      | (some answer, later) => ⟨memory, request, answer⟩ :: trace (next answer) memory later

/-- The events of a request are its own, if it is answered, and those of what follows the answer.
-/
theorem trace_asking (request : Req) (next : Ans request → Program S E F Req Ans α) (memory : S)
    (world : W) : (asking request next).trace handler memory world =
      match handler request world with
      | (none, _) => []
      | (some answer, later) =>
          ⟨memory, request, answer⟩ :: (next answer).trace handler memory later := by
  simp only [trace]

/-- The events of a sequence are those of its parts. When the first part does not return, they
are the first part's alone. -/
theorem trace_sequence (first : Program S E F Req Ans α)
    (following : α → Program S E F Req Ans β) (memory : S) (world : W) :
    (sequence first following).trace handler memory world =
      first.trace handler memory world ++
        match first.run handler memory world with
        | (.returned value, middle, later) => (following value).trace handler middle later
        | _ => [] := by
  induction first generalizing memory world with
  | done | failing | faulting | stalled => rfl
  | loading next inductionHypothesis => exact inductionHypothesis memory memory world
  | storing written next inductionHypothesis => exact inductionHypothesis written world
  | asking request next inductionHypothesis =>
    change (asking request (fun answer => sequence (next answer) following)).trace handler memory
      world = _
    rw [trace_asking, trace_asking, run_asking]
    rcases handler request world with ⟨_ | answer, later⟩
    · rfl
    · exact congrArg _ (inductionHypothesis answer memory later)

/-- Observing a result changes no event. -/
theorem trace_attempt (program : Program S E F Req Ans α) (memory : S) (world : W) :
    (attempt program).trace handler memory world = program.trace handler memory world := by
  induction program generalizing memory world with
  | done | failing | faulting | stalled => rfl
  | loading next inductionHypothesis => exact inductionHypothesis memory memory world
  | storing written next inductionHypothesis => exact inductionHypothesis written world
  | asking request next inductionHypothesis =>
    change (asking request (fun answer => attempt (next answer))).trace handler memory world = _
    rw [trace_asking, trace_asking]
    rcases handler request world with ⟨_ | answer, later⟩
    · rfl
    · exact congrArg _ (inductionHypothesis answer memory later)

/-- Continuations that do the same may be exchanged. The runs and the events are the same then.
-/
theorem sequence_congr (first : Program S E F Req Ans α)
    {following other : α → Program S E F Req Ans β}
    (same : ∀ value memory world,
      (following value).run handler memory world = (other value).run handler memory world ∧
        (following value).trace handler memory world = (other value).trace handler memory world)
    (memory : S) (world : W) :
    (sequence first following).run handler memory world =
        (sequence first other).run handler memory world ∧
      (sequence first following).trace handler memory world =
        (sequence first other).trace handler memory world := by
  rw [run_sequence, run_sequence, trace_sequence, trace_sequence]
  rcases first.run handler memory world with ⟨outcome, middle, later⟩
  cases outcome with
  | returned value =>
    obtain ⟨ran, traced⟩ := same value middle later
    exact ⟨ran, congrArg _ traced⟩
  | failed | faulted | waiting => exact ⟨rfl, rfl⟩

/-- A run is an execution: what holds of every environment holds of the handler,
as far as the handler answers within the limits. -/
theorem run_execution (may : (request : Req) → Ans request → Prop)
    (within : handler.Within may)
    (program : Program S E F Req Ans α) (memory : S) (world : W) :
    Execution may program memory (program.trace handler memory world)
      (program.run handler memory world).1 (program.run handler memory world).2.1 := by
  induction program generalizing memory world with
  | done value => exact .done value memory
  | failing error => exact .failing error memory
  | faulting fault => exact .faulting fault memory
  | stalled => exact .stalled memory
  | loading next inductionHypothesis => exact .loading (inductionHypothesis memory memory world)
  | storing written next inductionHypothesis =>
    exact .storing (inductionHypothesis written world)
  | asking request next inductionHypothesis =>
    cases answered : handler request world with
    | mk reply later =>
      cases reply with
      | none =>
        rw [run_asking, trace_asking, answered]
        exact .unanswered memory
      | some answer =>
        rw [run_asking, trace_asking, answered]
        exact .answered answer (within request world answer later answered)
          (inductionHypothesis answer memory later)

end Program

end Interaction
