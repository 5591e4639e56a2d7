import OpenVnc.Interaction.Compositions

/-!
# Shadows

A shadow is a state that is kept beside a program and takes a step with each answered
request. It has no step for a request that should not have been asked then. A program is
shadowed when every event of every execution has its step, whatever the environment answers;
the statement about a part of it says as well where it leaves the shadow and the memory.
A link between the two that every part keeps is an invariant of the whole.
-/

namespace Interaction

variable {S E F Req M : Type} {Ans : Req → Type} {α β : Type}

/-- The steps of a shadow with states `M`. Where there is no step, the event is one that must
not happen in this state. -/
abbrev Shadow (S Req : Type) (Ans : Req → Type) (M : Type) := M → Event S Req Ans → Option M

namespace Shadow

/-- A shadow that does not look at the memory. Ledgers of resources are such shadows: an answer
alone says what has been opened or closed. -/
def blind (step : M → (request : Req) → Ans request → Option M) : Shadow S Req Ans M :=
  fun state event => step state event.request event.answer

variable (shadow : Shadow S Req Ans M)

/-- The state after the events, when each of them has a step. It is undefined when one of them
has none. -/
def after : M → List (Event S Req Ans) → Option M
  | state, [] => some state
  | state, event :: events => (shadow state event).bind (fun next => after next events)

/-- Events are taken one list after the other: the shadow is moved by the later ones from where
the earlier ones have left it. -/
theorem after_append (state : M) (earlier later : List (Event S Req Ans)) :
    shadow.after state (earlier ++ later) =
      (shadow.after state earlier).bind (fun middle => shadow.after middle later) := by
  induction earlier generalizing state with
  | nil => rfl
  | cons event events inductionHypothesis =>
    simp only [List.cons_append, after, inductionHypothesis, Option.bind_assoc]

/-- A single event is one step of the shadow. -/
@[simp] theorem after_singleton (state : M) (event : Event S Req Ans) :
    shadow.after state [event] = shadow state event := by
  simp [after]

/-- Events that do not move the shadow. Each of them still has a step, the one that stays. -/
theorem after_unmoved {state : M} {events : List (Event S Req Ans)}
    (unmoved : ∀ event ∈ events, shadow state event = some state) :
    shadow.after state events = some state := by
  induction events with
  | nil => rfl
  | cons event events inductionHypothesis =>
    rw [after, unmoved event List.mem_cons_self]
    exact inductionHypothesis (fun later member => unmoved later (List.mem_cons_of_mem _ member))

/-- Every event of a shadowed execution has a step from the state before it. This is how a
shadow says something about the order of events. -/
theorem after_step {state reached : M} {earlier later : List (Event S Req Ans)}
    {event : Event S Req Ans}
    (shadowed : shadow.after state (earlier ++ event :: later) = some reached) :
    ∃ before next, shadow.after state earlier = some before ∧ shadow before event = some next := by
  rw [after_append] at shadowed
  obtain ⟨before, begun, rest⟩ := Option.bind_eq_some_iff.mp shadowed
  obtain ⟨next, taken, -⟩ := Option.bind_eq_some_iff.mp rest
  exact ⟨before, next, begun, taken⟩

end Shadow

/-- Every event has its step. What returned has passed and what failed has settled, with the
shadow and the memory where they are then; only tolerated faults occur. -/
def InStep (shadow : Shadow S Req Ans M) (tolerated : F → Prop) (state : M)
    (passed : α → M → S → Prop) (settled : E → M → S → Prop) (events : List (Event S Req Ans))
    (outcome : Outcome E F α) (final : S) : Prop :=
  ∃ reached, shadow.after state events = some reached ∧
    match outcome with
    | .returned value => passed value reached final
    | .failed error => settled error reached final
    | .faulted fault => tolerated fault
    | .waiting => True

/-- Every execution of the program is in step. What is promised of the shadow's state at the end
depends on how the program ends. -/
def Shadows (may : (request : Req) → Ans request → Prop) (shadow : Shadow S Req Ans M)
    (tolerated : F → Prop) (state : M) (program : Program S E F Req Ans α) (memory : S)
    (passed : α → M → S → Prop) (settled : E → M → S → Prop) : Prop :=
  program.wp may (InStep shadow tolerated state passed settled) memory

namespace Shadows

open Program

variable {may : (request : Req) → Ans request → Prop} {shadow : Shadow S Req Ans M}
  {tolerated : F → Prop} {state : M} {memory : S} {passed : α → M → S → Prop}
  {settled : E → M → S → Prop}

/-- A program that returns leaves the shadow and the memory as they are, so what has to pass must
hold there. -/
theorem done {value : α} (holds : passed value state memory) :
    Shadows may shadow tolerated state (Program.done value : Program S E F Req Ans α) memory
      passed settled := ⟨state, rfl, holds⟩

/-- A program that fails leaves them as they are, too. -/
theorem fail {error : E} (holds : settled error state memory) :
    Shadows may shadow tolerated state (Program.fail error : Program S E F Req Ans α) memory
      passed settled := ⟨state, rfl, holds⟩

/-- Of the shadow of a program that faults nothing is asked; the fault has to be a tolerated one.
-/
theorem fault {reason : F} (accepted : tolerated reason) :
    Shadows may shadow tolerated state (Program.fault reason : Program S E F Req Ans α) memory
      passed settled := ⟨state, rfl, accepted⟩

/-- A program that waits for ever makes no event that the shadow would have to follow. -/
theorem stalled :
    Shadows may shadow tolerated state (Program.stalled : Program S E F Req Ans α) memory
      passed settled := ⟨state, rfl, trivial⟩

/-- An update is no event. It leaves the shadow where it is, and what has to pass must hold in the
changed memory. -/
theorem update {change : S → S} {passed : Unit → M → S → Prop}
    (holds : passed () state (change memory)) :
    Shadows may shadow tolerated state (Program.update change : Program S E F Req Ans Unit) memory
      passed settled := ⟨state, rfl, holds⟩

/-- A request that has its step, whatever the answer. The state after it is handed on together
with the answer. -/
theorem ask {request : Req} {passed : Ans request → M → S → Prop}
    (steps : ∀ answer, may request answer → ∃ next,
      shadow state ⟨memory, request, answer⟩ = some next ∧ passed answer next memory) :
    Shadows may shadow tolerated state
      (Program.ask request : Program S E F Req Ans (Ans request)) memory passed settled := by
  refine ⟨⟨state, rfl, trivial⟩, fun answer allowed => ?_⟩
  obtain ⟨next, taken, holds⟩ := steps answer allowed
  exact ⟨next, (shadow.after_singleton state _).trans taken, holds⟩

/-- A weaker specification. -/
theorem weaken {program : Program S E F Req Ans α} {passed' : α → M → S → Prop}
    {settled' : E → M → S → Prop}
    (shadows : Shadows may shadow tolerated state program memory passed settled)
    (passes : ∀ value state final, passed value state final → passed' value state final)
    (settles : ∀ error state final, settled error state final → settled' error state final) :
    Shadows may shadow tolerated state program memory passed' settled' := by
  apply wp_mono shadows
  rintro events outcome final ⟨reached, stepped, ended⟩
  refine ⟨reached, stepped, ?_⟩
  cases outcome with
  | returned value => exact passes value reached final ended
  | failed error => exact settles error reached final ended
  | faulted fault => exact ended
  | waiting => trivial

/-- The second part is shadowed from where the first one leaves off. An error of either part
leaves the shadow in a settled state. -/
theorem sequence {first : Program S E F Req Ans α} {following : α → Program S E F Req Ans β}
    {middle : α → M → S → Prop} {passed : β → M → S → Prop}
    (begins : Shadows may shadow tolerated state first memory middle settled)
    (continues : ∀ value reached final, middle value reached final →
      Shadows may shadow tolerated reached (following value) final passed settled) :
    Shadows may shadow tolerated state (Program.sequence first following) memory passed
      settled := by
  refine wp_after begins ?_ (fun _ _ _ ended => ended) (fun _ _ _ ended => ended)
    (fun _ _ ended => ended)
  rintro events value final ⟨reached, stepped, holds⟩
  apply wp_mono (continues value reached final holds)
  rintro later outcome last ⟨final', steppedLater, ended⟩
  refine ⟨final', ?_, ended⟩
  rw [shadow.after_append, stepped]
  exact steppedLater

/-- Sequencing through a condition that is given. -/
theorem through {first : Program S E F Req Ans α} {following : α → Program S E F Req Ans β}
    {passed : β → M → S → Prop} (middle : α → M → S → Prop)
    (begins : Shadows may shadow tolerated state first memory middle settled)
    (continues : ∀ value reached final, middle value reached final →
      Shadows may shadow tolerated reached (following value) final passed settled) :
    Shadows may shadow tolerated state (Program.sequence first following) memory passed
      settled := begins.sequence continues

/-- After loading, only the continuation of the memory that is there matters. -/
theorem load {following : S → Program S E F Req Ans α}
    (continues : Shadows may shadow tolerated state (following memory) memory passed settled) :
    Shadows may shadow tolerated state (Program.sequence Program.load following) memory passed
      settled := continues

/-- An error that is observed is a value. Both kinds of result pass on the state of the shadow.
-/
theorem attempt {program : Program S E F Req Ans α} {passed : Except E α → M → S → Prop}
    {settled' : E → M → S → Prop}
    (shadows : Shadows may shadow tolerated state program memory
      (fun value => passed (.ok value)) (fun error => passed (.error error))) :
    Shadows may shadow tolerated state (Program.attempt program) memory passed settled' := by
  unfold Shadows
  rw [wp_attempt]
  apply wp_mono shadows
  rintro events outcome final ⟨reached, stepped, ended⟩
  cases outcome with
  | returned | failed | faulted | waiting => exact ⟨reached, stepped, ended⟩

/-- A request, and what follows each answer. -/
theorem asking {request : Req} {following : Ans request → Program S E F Req Ans α}
    (steps : ∀ answer, may request answer → ∃ next,
      shadow state ⟨memory, request, answer⟩ = some next ∧
        Shadows may shadow tolerated next (following answer) memory passed settled) :
    Shadows may shadow tolerated state (Program.sequence (Program.ask request) following) memory
      passed settled :=
  through (fun answer reached final =>
      Shadows may shadow tolerated reached (following answer) final passed settled)
    (ask steps) (fun _ _ _ continues => continues)

/-- An attempt, and what follows each of its two ends. The error is followed from a state that
the first specification describes. -/
theorem attempting {program : Program S E F Req Ans α}
    {following : Except E α → Program S E F Req Ans β} {passed : β → M → S → Prop}
    {ended : α → M → S → Prop} {stopped : E → M → S → Prop}
    (shadows : Shadows may shadow tolerated state program memory ended stopped)
    (returned : ∀ value reached final, ended value reached final →
      Shadows may shadow tolerated reached (following (.ok value)) final passed settled)
    (failed : ∀ error reached final, stopped error reached final →
      Shadows may shadow tolerated reached (following (.error error)) final passed settled) :
    Shadows may shadow tolerated state (Program.sequence (Program.attempt program) following)
      memory passed settled :=
  through (fun result reached final =>
      Shadows may shadow tolerated reached (following result) final passed settled)
    (shadows.weaken returned failed).attempt (fun _ _ _ continues => continues)

section Guards

variable {condition : Prop} [Decidable condition]

/-- A choice is shadowed when each branch is, under the assumption that led to it. -/
theorem ite {yes no : Program S E F Req Ans α}
    (left : condition → Shadows may shadow tolerated state yes memory passed settled)
    (right : ¬ condition → Shadows may shadow tolerated state no memory passed settled) :
    Shadows may shadow tolerated state (if condition then yes else no) memory passed settled := by
  split
  · exact left ‹_›
  · exact right ‹_›

/-- A check that ends the program with an error when its condition holds. Behind it the condition
is known to fail. -/
theorem failIf {error : E} {passed : Unit → M → S → Prop}
    (fails : condition → settled error state memory)
    (continues : ¬ condition → passed () state memory) :
    Shadows may shadow tolerated state
      (Program.failIf condition error : Program S E F Req Ans Unit) memory passed settled :=
  ite (fun holds => fail (fails holds)) (fun refuted => done (continues refuted))

/-- A check on which the behaviour is undefined when its condition holds, which has to be
tolerated. Behind it the condition is known to fail. -/
theorem faultIf {reason : F} {passed : Unit → M → S → Prop}
    (faults : condition → tolerated reason)
    (continues : ¬ condition → passed () state memory) :
    Shadows may shadow tolerated state
      (Program.faultIf condition reason : Program S E F Req Ans Unit) memory passed settled :=
  ite (fun holds => fault (faults holds)) (fun refuted => done (continues refuted))

/-- A part that runs under a condition. Without it what has to pass must hold already. -/
theorem onlyIf {body : Program S E F Req Ans Unit} {passed : Unit → M → S → Prop}
    (runs : condition → Shadows may shadow tolerated state body memory passed settled)
    (skips : ¬ condition → passed () state memory) :
    Shadows may shadow tolerated state (Program.onlyIf condition body) memory passed settled :=
  ite runs (fun refuted => done (skips refuted))

end Guards

end Shadows

/-- Started with the shadow and the memory linked, the program is in step and leaves them
linked, with a value or with an error. -/
def Shadowed (may : (request : Req) → Ans request → Prop) (shadow : Shadow S Req Ans M)
    (linked : M → S → Prop) (tolerated : F → Prop) (program : Program S E F Req Ans α) : Prop :=
  ∀ state memory, linked state memory →
    Shadows may shadow tolerated state program memory (fun _ => linked) (fun _ => linked)

namespace Shadowed

open Program

variable {may : (request : Req) → Ans request → Prop} {shadow : Shadow S Req Ans M}
  {linked : M → S → Prop} {tolerated : F → Prop}

/-- Returning keeps the shadow and the memory linked. -/
theorem done (value : α) : Shadowed may shadow linked tolerated
    (Program.done value : Program S E F Req Ans α) := fun _ _ links => Shadows.done links

/-- So does ending with an error. -/
theorem fail (error : E) : Shadowed may shadow linked tolerated
    (Program.fail error : Program S E F Req Ans α) := fun _ _ links => Shadows.fail links

/-- A program that waits for ever never comes to an end at which they would have to be linked. -/
theorem stalled : Shadowed may shadow linked tolerated
    (Program.stalled : Program S E F Req Ans α) := fun _ _ _ => Shadows.stalled

/-- An update of the memory alone has to keep the link with the shadow. -/
theorem update {change : S → S} (kept : ∀ state memory, linked state memory →
      linked state (change memory)) :
    Shadowed may shadow linked tolerated (Program.update change : Program S E F Req Ans Unit) :=
  fun state memory links => Shadows.update (kept state memory links)

/-- Two parts that keep the shadow linked keep it linked one after the other. -/
theorem sequence {first : Program S E F Req Ans α} {following : α → Program S E F Req Ans β}
    (begins : Shadowed may shadow linked tolerated first)
    (continues : ∀ value, Shadowed may shadow linked tolerated (following value)) :
    Shadowed may shadow linked tolerated (Program.sequence first following) :=
  fun state memory links => (begins state memory links).sequence
    (fun value reached final linkedThen => continues value reached final linkedThen)

/-- After loading, the continuation of every memory has to keep the link. -/
theorem load {following : S → Program S E F Req Ans α}
    (continues : ∀ memory, Shadowed may shadow linked tolerated (following memory)) :
    Shadowed may shadow linked tolerated (Program.sequence Program.load following) :=
  fun state memory links => Shadows.load (continues memory state memory links)

/-- Observing an error as a value keeps the link, since an error keeps it as well. -/
theorem attempt {program : Program S E F Req Ans α}
    (shadowed : Shadowed may shadow linked tolerated program) :
    Shadowed may shadow linked tolerated (Program.attempt program) :=
  fun state memory links => (shadowed state memory links).attempt

section Guards

variable {condition : Prop} [Decidable condition]

/-- A choice keeps the link when both branches do. -/
theorem ite {yes no : Program S E F Req Ans α}
    (left : condition → Shadowed may shadow linked tolerated yes)
    (right : ¬ condition → Shadowed may shadow linked tolerated no) :
    Shadowed may shadow linked tolerated (if condition then yes else no) := by
  split
  · exact left ‹_›
  · exact right ‹_›

/-- A check that ends the program with an error keeps the link. -/
theorem failIf (error : E) : Shadowed may shadow linked tolerated
    (Program.failIf condition error : Program S E F Req Ans Unit) :=
  ite (fun _ => fail error) (fun _ => done ())

/-- A part that runs under a condition keeps the link when it does. -/
theorem onlyIf {body : Program S E F Req Ans Unit}
    (runs : condition → Shadowed may shadow linked tolerated body) :
    Shadowed may shadow linked tolerated (Program.onlyIf condition body) :=
  ite runs (fun _ => done ())

end Guards

/-- So does a body that runs on a value, if there is one. -/
theorem onSome {value : Option β} {body : β → Program S E F Req Ans Unit}
    (runs : ∀ present, value = some present → Shadowed may shadow linked tolerated (body present)) :
    Shadowed may shadow linked tolerated (Program.onSome value body) := by
  cases value with
  | none => exact done ()
  | some present => exact runs present rfl

/-- Every way of putting programs together keeps the shadow in step. -/
theorem compositional {commits : F → Prop} (accepts : ∀ reason, commits reason → tolerated reason) :
    Compositional commits (fun _ (program : Program S E F Req Ans _) =>
      Shadowed may shadow linked tolerated program) where
  done := done
  fail := fail
  fault reason committed _ _ _ := Shadows.fault (accepts reason committed)
  stalled := stalled
  sequence := sequence
  load := load
  attempt := attempt

end Shadowed

end Interaction
