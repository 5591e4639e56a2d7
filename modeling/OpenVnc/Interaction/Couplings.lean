import OpenVnc.Interaction.Handlers

/-!
# One program from two memories

Two runs of a program against the same handler, from memories that agree in part only. The
runs are coupled when they exchange the same requests and answers and come to the same
outcome in the same world. What the memories agree on is a standing relation, which holds
wherever the runs stop, and a further relation, which the program may strengthen and which
is promised only when it returns.
-/

namespace Interaction

variable {S E F Req W : Type} {Ans : Req → Type} {α β : Type}

/-- The requests of a list of events with their answers, without the memories. Two runs from
different memories can agree on these, though not on their events. -/
def exchanges (events : List (Event S Req Ans)) : List ((request : Req) × Ans request) :=
  events.map (fun event => ⟨event.request, event.answer⟩)

/-- Exchanges are read off two lists of events one after the other. -/
@[simp] theorem exchanges_append (events later : List (Event S Req Ans)) :
    exchanges (events ++ later) = exchanges events ++ exchanges later :=
  List.map_append

/-- Two stopped runs came to the same, in memories that are still related. After a value the
second relation holds in addition. -/
structure Coupled (standing : S → S → Prop) (after : α → S → S → Prop)
    (left right : Outcome E F α × S × W) : Prop where
  outcome : left.1 = right.1
  world : left.2.2 = right.2.2
  standing : standing left.2.1 right.2.1
  after : ∀ value, left.1 = .returned value → after value left.2.1 right.2.1

namespace Coupled

variable {standing : S → S → Prop} {after : α → S → S → Prop} {left right : S}

/-- Both runs returned the value. -/
theorem returned (value : α) (world : W) (stands : standing left right)
    (holds : after value left right) :
    Coupled standing after ((.returned value : Outcome E F α), left, world)
      (.returned value, right, world) := by
  constructor
  case outcome => rfl
  case world => rfl
  case standing => exact stands
  case after =>
    intro value' same
    cases same
    exact holds

/-- Neither run returned. -/
theorem stopped {outcome : Outcome E F α} (world : W) (stands : standing left right)
    (stops : ∀ value, outcome ≠ .returned value) :
    Coupled standing after (outcome, left, world) (outcome, right, world) := by
  constructor
  case outcome => rfl
  case world => rfl
  case standing => exact stands
  case after =>
    intro value same
    exact absurd same (stops value)

end Coupled

/-- From related memories every handler within the limits couples the two runs. The programs are
one and the same, and so is the handler. Only the memories differ. -/
def Couples (may : (request : Req) → Ans request → Prop) (standing before : S → S → Prop)
    (after : α → S → S → Prop) (program : Program S E F Req Ans α) : Prop :=
  ∀ ⦃W : Type⦄ (handler : Handler Req Ans W), handler.Within may →
    ∀ left right (world : W), standing left right → before left right →
      Coupled standing after (program.run handler left world)
          (program.run handler right world) ∧
        exchanges (program.trace handler left world) =
          exchanges (program.trace handler right world)

namespace Couples

open Program

variable {may : (request : Req) → Ans request → Prop} {standing before before' : S → S → Prop}
  {after after' : α → S → S → Prop}

/-- A coupling may start from more and promise less, as long as the memories stay related. -/
theorem weaken {program : Program S E F Req Ans α}
    (coupled : Couples may standing before' after' program)
    (stronger : ∀ left right, standing left right → before left right → before' left right)
    (weaker : ∀ value left right, standing left right → after' value left right →
      after value left right) :
    Couples may standing before after program := by
  intro W handler within left right world stands starts
  obtain ⟨stopped, same⟩ :=
    coupled handler within left right world stands (stronger left right stands starts)
  constructor
  · constructor
    case outcome => exact stopped.outcome
    case world => exact stopped.world
    case standing => exact stopped.standing
    case after =>
      intro value returned
      exact weaker value _ _ stopped.standing (stopped.after value returned)
  · exact same

/-- A value is the same from both memories. What has to hold of them afterwards must follow from
what holds already, as nothing changes. -/
theorem done (value : α) (holds : ∀ left right, standing left right → before left right →
    after value left right) :
    Couples may standing before after (.done value : Program S E F Req Ans α) := by
  intro W handler within left right world stands starts
  constructor
  · exact Coupled.returned value world stands (holds left right stands starts)
  · rfl

/-- An error is the same from both memories, and nothing has to hold afterwards. The standing
relation is all that is left. -/
theorem fail (error : E) :
    Couples may standing before after (Program.fail error : Program S E F Req Ans α) := by
  intro W handler within left right world stands starts
  constructor
  · exact Coupled.stopped world stands nofun
  · rfl

/-- So is a fault. -/
theorem fault (reason : F) :
    Couples may standing before after (Program.fault reason : Program S E F Req Ans α) := by
  intro W handler within left right world stands starts
  constructor
  · exact Coupled.stopped world stands nofun
  · rfl

/-- An update is applied to both memories. Both relations have to survive it. -/
theorem update {change : S → S} {after : Unit → S → S → Prop}
    (stays : ∀ left right, standing left right → before left right →
      standing (change left) (change right))
    (holds : ∀ left right, standing left right → before left right →
      after () (change left) (change right)) :
    Couples may standing before after
      (Program.update change : Program S E F Req Ans Unit) := by
  intro W handler within left right world stands starts
  constructor
  · exact Coupled.returned () world (stays left right stands starts)
      (holds left right stands starts)
  · rfl

/-- Both runs get the answer that the handler gives. The coupling therefore speaks of
deterministic environments. -/
theorem ask (request : Req) :
    Couples may standing before
      (fun answer left right => may request answer ∧ before left right)
      (Program.ask request : Program S E F Req Ans (Ans request)) := by
  intro W handler within left right world stands starts
  cases answered : handler request world with
  | mk reply later =>
    simp only [Program.ask, run, trace, answered]
    cases reply with
    | none =>
      constructor
      · exact Coupled.stopped later stands (by simp)
      · rfl
    | some answer =>
      constructor
      · exact Coupled.returned answer later stands
          ⟨within request world answer later answered, starts⟩
      · rfl

/-- The answer may be one that says nothing more of the memories. -/
theorem asked (request : Req) :
    Couples may standing before (fun _ => before)
      (Program.ask request : Program S E F Req Ans (Ans request)) :=
  (ask request).weaken (fun _ _ _ starts => starts) (fun _ _ _ _ holds => holds.2)

/-- The rest of a sequence is run from the memories that the first part left. The first part has
to end in the same way from both memories, which the coupling says. -/
theorem sequence {first : Program S E F Req Ans α} {following : α → Program S E F Req Ans β}
    {middle : α → S → S → Prop} {after : β → S → S → Prop}
    (begins : Couples may standing before middle first)
    (continues : ∀ value, Couples may standing (middle value) after (following value)) :
    Couples may standing before after (Program.sequence first following) := by
  intro W handler within left right world stands starts
  obtain ⟨stopped, same⟩ := begins handler within left right world stands starts
  rw [run_sequence, run_sequence, trace_sequence, trace_sequence, exchanges_append,
    exchanges_append, same]
  revert stopped
  rcases first.run handler left world with ⟨outcome, left, later⟩
  rcases first.run handler right world with ⟨outcome', right, later'⟩
  rintro ⟨sameOutcome, sameWorld, stands, holds⟩
  dsimp only at sameOutcome sameWorld stands holds
  subst sameOutcome sameWorld
  cases outcome with
  | returned value =>
    obtain ⟨ended, sameRest⟩ :=
      continues value handler within left right later stands (holds value rfl)
    exact ⟨ended, congrArg _ sameRest⟩
  | failed | faulted | waiting =>
    constructor
    · exact Coupled.stopped later stands nofun
    · rfl

/-- What is computed from the memory must be the same from both. The continuations may then be
compared as one program. -/
theorem load {following : S → Program S E F Req Ans α}
    (same : ∀ left right, standing left right → before left right →
      following left = following right)
    (continues : ∀ left right, standing left right → before left right →
      Couples may standing before after (following left)) :
    Couples may standing before after (Program.sequence Program.load following) := by
  intro W handler within left right world stands starts
  rw [run_load_then, run_load_then]
  change _ ∧ exchanges ((following left).trace handler left world) =
    exchanges ((following right).trace handler right world)
  rw [← same left right stands starts]
  exact continues left right stands starts handler within left right world stands starts

/-- An error that is observed leaves the standing relation only. Nothing more is known after an
error, as nothing was promised about it. -/
theorem attempt {program : Program S E F Req Ans α}
    (coupled : Couples may standing before after program) :
    Couples may standing before
      (fun result left right => ∀ value, result = .ok value → after value left right)
      (Program.attempt program) := by
  intro W handler within left right world stands starts
  obtain ⟨stopped, same⟩ := coupled handler within left right world stands starts
  rw [run_attempt, run_attempt, trace_attempt, trace_attempt]
  constructor
  · revert stopped
    rcases program.run handler left world with ⟨outcome, left, later⟩
    rcases program.run handler right world with ⟨outcome', right, later'⟩
    rintro ⟨sameOutcome, sameWorld, stands, holds⟩
    dsimp only at sameOutcome sameWorld stands holds
    subst sameOutcome sameWorld
    cases outcome <;> dsimp only
    case returned value =>
      apply Coupled.returned (Except.ok value) later stands
      intro value' ok
      cases ok
      exact holds value rfl
    case failed error =>
      apply Coupled.returned (Except.error error) later stands
      intro value impossible
      cases impossible
    case faulted => exact Coupled.stopped later stands nofun
    case waiting => exact Coupled.stopped later stands nofun
  · exact same

section Branches

variable (condition : Prop) [Decidable condition]

/-- The two runs take the same branch of a choice on a condition that does not depend on the
memory. -/
theorem ite {first second : Program S E F Req Ans α}
    (holds : condition → Couples may standing before after first)
    (fails : ¬ condition → Couples may standing before after second) :
    Couples may standing before after (if condition then first else second) := by
  by_cases decided : condition
  · rw [if_pos decided]
    exact holds decided
  · rw [if_neg decided]
    exact fails decided

/-- They pass a check together, or end with its error together. -/
theorem failIf (error : E) :
    Couples may standing before (fun _ => before)
      (Program.failIf condition error : Program S E F Req Ans Unit) := by
  apply ite condition
  · intro _
    exact fail error
  · intro _
    exact done () (fun _ _ _ starts => starts)

/-- Behind a guard its condition is known to fail. -/
theorem faultIf (reason : F) :
    Couples may standing before (fun _ left right => ¬ condition ∧ before left right)
      (Program.faultIf condition reason : Program S E F Req Ans Unit) := by
  apply ite condition
  · intro _
    exact fault reason
  · intro passed
    exact done () (fun _ _ _ starts => ⟨passed, starts⟩)

/-- A part that runs under a condition runs from both memories or from neither. -/
theorem onlyIf {body : Program S E F Req Ans Unit}
    (runs : Couples may standing before (fun _ => before) body) :
    Couples may standing before (fun _ => before) (Program.onlyIf condition body) := by
  apply ite condition
  · intro _
    exact runs
  · intro _
    exact done () (fun _ _ _ starts => starts)

end Branches

/-- So does a body that runs on a value, if there is one. -/
theorem onSome (value : Option β) {body : β → Program S E F Req Ans Unit}
    (runs : ∀ value, Couples may standing before (fun _ => before) (body value)) :
    Couples may standing before (fun _ => before) (Program.onSome value body) := by
  cases value with
  | none => exact done () (fun _ _ _ starts => starts)
  | some value => exact runs value

end Couples

end Interaction
