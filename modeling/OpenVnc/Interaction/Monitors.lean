import OpenVnc.Interaction.Handlers

/-!
# Monitors

A monitor reads the events of an execution one after the other and may raise an alarm. It
sees what the environment answers and in which memory, not what the program makes of it. A
program is foretold by a monitor when it asks no odd request unless there has been an alarm.
The statement about a part of a program says as well where it leaves a monitor that has not
raised one.
-/

namespace Interaction

variable {S E F Req M : Type} {Ans : Req → Type} {α β : Type}

/-- A monitor with states `M`. It follows the events of a program without taking part in them,
and may raise an alarm at one. -/
structure Monitor (S Req : Type) (Ans : Req → Type) (M : Type) where
  next : M → Event S Req Ans → M
  alarm : M → Event S Req Ans → Prop

namespace Monitor

variable (monitor : Monitor S Req Ans M)

/-- There is an alarm at one of the events. The state is the one in which the event finds the
monitor. -/
def Alarmed : M → List (Event S Req Ans) → Prop
  | _, [] => False
  | state, event :: events => monitor.alarm state event ∨ Alarmed (monitor.next state event) events

/-- Whether there is an alarm can be decided by going through the events, if it can be decided of
each event. -/
instance decidableAlarmed [∀ state event, Decidable (monitor.alarm state event)] :
    ∀ state events, Decidable (monitor.Alarmed state events)
  | _, [] => inferInstanceAs (Decidable False)
  | state, event :: events =>
      have := decidableAlarmed (monitor.next state event) events
      inferInstanceAs (Decidable (_ ∨ _))

/-- The state after the events. An alarm does not stop the monitor. -/
def reading (state : M) (events : List (Event S Req Ans)) : M := events.foldl monitor.next state

/-- A monitor reads two lists of events one after the other. -/
theorem reading_append (state : M) (earlier later : List (Event S Req Ans)) :
    monitor.reading state (earlier ++ later) =
      monitor.reading (monitor.reading state earlier) later :=
  List.foldl_append

/-- There is an alarm in two lists of events when there is one in the first, or one in the second
read from where the first has left the monitor. -/
theorem alarmed_append (state : M) (earlier later : List (Event S Req Ans)) :
    monitor.Alarmed state (earlier ++ later) ↔
      monitor.Alarmed state earlier ∨ monitor.Alarmed (monitor.reading state earlier) later := by
  induction earlier generalizing state with
  | nil => simp [Alarmed, reading]
  | cons event earlier inductionHypothesis =>
    rw [List.cons_append, Alarmed, Alarmed, inductionHypothesis, or_assoc]
    rfl

/-- A monitor that nothing alarms. Such a monitor only keeps a record. -/
theorem not_alarmed (never : ∀ state event, ¬ monitor.alarm state event) (state : M)
    (events : List (Event S Req Ans)) : ¬ monitor.Alarmed state events := by
  induction events generalizing state with
  | nil => exact id
  | cons event events inductionHypothesis =>
    rintro (alarmed | later)
    · exact never state event alarmed
    · exact inductionHypothesis _ later

/-- Events that do not move a monitor leave it where it is. They may still alarm it. -/
theorem reading_unmoved {state : M} {events : List (Event S Req Ans)}
    (unmoved : ∀ event ∈ events, monitor.next state event = state) :
    monitor.reading state events = state := by
  induction events with
  | nil => rfl
  | cons event events inductionHypothesis =>
    rw [reading, List.foldl_cons, unmoved event List.mem_cons_self]
    exact inductionHypothesis (fun later member => unmoved later (List.mem_cons_of_mem _ member))

/-- Events that leave a part of every state alone. -/
theorem reading_keeps {W : Type} {look : M → W} {events : List (Event S Req Ans)}
    (kept : ∀ event ∈ events, ∀ state, look (monitor.next state event) = look state) (state : M) :
    look (monitor.reading state events) = look state := by
  induction events generalizing state with
  | nil => rfl
  | cons event events inductionHypothesis =>
    have later := inductionHypothesis
      (fun other member => kept other (List.mem_cons_of_mem _ member)) (monitor.next state event)
    exact later.trans (kept event List.mem_cons_self state)

end Monitor

/-- Odd requests come after an alarm only. Without an alarm what returned has passed, with the
monitor and the memory where they are then. -/
def Forewarned (monitor : Monitor S Req Ans M) (odd : Req → Prop) (state : M)
    (passed : α → M → S → Prop) (events : List (Event S Req Ans)) (outcome : Outcome E F α)
    (final : S) : Prop :=
  monitor.Alarmed state events ∨
    (∀ event ∈ events, ¬ odd event.request) ∧
      ∀ value, outcome = .returned value → passed value (monitor.reading state events) final

/-- Without a value nothing has to pass. The forewarning is about the events, which are the
same. -/
theorem Forewarned.stopped {monitor : Monitor S Req Ans M} {odd : Req → Prop} {state : M}
    {passed : α → M → S → Prop} {passed' : β → M → S → Prop} {events : List (Event S Req Ans)}
    {outcome : Outcome E F α} {outcome' : Outcome E F β} {final : S}
    (warned : Forewarned monitor odd state passed events outcome final)
    (stops : ∀ value, outcome' ≠ .returned value) :
    Forewarned monitor odd state passed' events outcome' final := by
  rcases warned with alarmed | ⟨plain, -⟩
  · exact .inl alarmed
  · exact .inr ⟨plain, fun value returned => absurd returned (stops value)⟩

/-- Every execution of the program is forewarned. What passes after a return may speak of the
monitor's state as well as of the memory. -/
def Foretold (may : (request : Req) → Ans request → Prop) (monitor : Monitor S Req Ans M)
    (odd : Req → Prop) (state : M) (program : Program S E F Req Ans α) (memory : S)
    (passed : α → M → S → Prop) : Prop :=
  program.wp may (Forewarned monitor odd state passed) memory

namespace Foretold

open Program

variable {may : (request : Req) → Ans request → Prop} {monitor : Monitor S Req Ans M}
  {odd : Req → Prop} {state : M} {memory : S}

/-- Returning makes no event, so what has to pass must hold in the monitor's state and the memory
as they are. -/
theorem done {value : α} {passed : α → M → S → Prop} (holds : passed value state memory) :
    Foretold may monitor odd state (Program.done value : Program S E F Req Ans α) memory
      passed := by
  apply Or.inr
  constructor
  · nofun
  · intro value' returned
    cases returned
    exact holds

/-- A program that fails has asked for nothing odd, and has no value that would have to pass. -/
theorem fail {error : E} {passed : α → M → S → Prop} :
    Foretold may monitor odd state (Program.fail error : Program S E F Req Ans α) memory passed :=
  Or.inr ⟨nofun, nofun⟩

/-- Nor has a program that faults. -/
theorem fault {reason : F} {passed : α → M → S → Prop} :
    Foretold may monitor odd state (Program.fault reason : Program S E F Req Ans α) memory
      passed :=
  Or.inr ⟨nofun, nofun⟩

/-- Nor has a program that waits for ever. -/
theorem stalled {passed : α → M → S → Prop} :
    Foretold may monitor odd state (Program.stalled : Program S E F Req Ans α) memory passed :=
  Or.inr ⟨nofun, nofun⟩

/-- An update is no event. What has to pass must hold in the changed memory. The monitor is
where it was. -/
theorem update {change : S → S} {passed : Unit → M → S → Prop}
    (holds : passed () state (change memory)) :
    Foretold may monitor odd state (Program.update change : Program S E F Req Ans Unit) memory
      passed := by
  apply Or.inr
  constructor
  · nofun
  · intro value returned
    exact holds

/-- After loading, only the continuation of the memory that is there matters. -/
theorem load {following : S → Program S E F Req Ans α} {passed : α → M → S → Prop}
    (continues : Foretold may monitor odd state (following memory) memory passed) :
    Foretold may monitor odd state (Program.sequence Program.load following) memory passed :=
  continues

/-- A weaker specification of the return. The forewarning stays as it is. -/
theorem returning {program : Program S E F Req Ans α} {passed passed' : α → M → S → Prop}
    (foretold : Foretold may monitor odd state program memory passed)
    (follows : ∀ value state final, passed value state final → passed' value state final) :
    Foretold may monitor odd state program memory passed' := by
  apply wp_mono foretold
  rintro events outcome final (alarmed | ⟨plain, holds⟩)
  · exact .inl alarmed
  · exact .inr ⟨plain, fun value returned => follows value _ final (holds value returned)⟩

/-- The second part is read from where the first one leaves the monitor. Where the first part
raised the alarm, nothing has to be known of the second. -/
theorem sequence {first : Program S E F Req Ans α} {following : α → Program S E F Req Ans β}
    {middle : α → M → S → Prop} {passed : β → M → S → Prop}
    (begins : Foretold may monitor odd state first memory middle)
    (continues : ∀ value state final, middle value state final →
      Foretold may monitor odd state (following value) final passed) :
    Foretold may monitor odd state (Program.sequence first following) memory passed := by
  apply wp_after begins
  case returned =>
    rintro events value final (alarmed | ⟨plain, holds⟩)
    · apply wp_always
      intro later outcome last
      exact .inl ((monitor.alarmed_append state events later).mpr (.inl alarmed))
    · apply wp_mono (continues value _ final (holds value rfl))
      rintro later outcome last (alarmed | ⟨plainLater, passes⟩)
      · exact .inl ((monitor.alarmed_append state events later).mpr (.inr alarmed))
      · apply Or.inr
        constructor
        · exact List.forall_mem_append.mpr ⟨plain, plainLater⟩
        · rw [monitor.reading_append]
          exact passes
  case failed => exact fun events error final warned => warned.stopped nofun
  case faulted => exact fun events fault final warned => warned.stopped nofun
  case waiting => exact fun events final warned => warned.stopped nofun

/-- A program that fails in the end, whatever came before. -/
theorem failing {first : Program S E F Req Ans α} {error : E} {passed : β → M → S → Prop}
    (begins : Foretold may monitor odd state first memory (fun _ _ _ => True)) :
    Foretold may monitor odd state (Program.sequence first (fun _ => Program.fail error)) memory
      passed := by
  apply begins.sequence
  intro _ _ _ _
  exact fail

/-- A request that is not odd. An answer that raises the alarm need not be considered. The
monitor has moved on by this event. -/
theorem ask {request : Req} (plain : ¬ odd request) :
    Foretold may monitor odd state
      (Program.ask request : Program S E F Req Ans (Ans request)) memory
      (fun answer state' final => may request answer ∧
        ¬ monitor.alarm state ⟨memory, request, answer⟩ ∧
        state' = monitor.next state ⟨memory, request, answer⟩ ∧ final = memory) := by
  constructor
  · exact .inr ⟨nofun, nofun⟩
  · intro answer allowed
    by_cases alarmed : monitor.alarm state ⟨memory, request, answer⟩
    · exact .inl (.inl alarmed)
    · apply Or.inr
      constructor
      · intro event member
        rw [List.mem_singleton.mp member]
        exact plain
      · intro value returned
        cases returned
        exact ⟨allowed, alarmed, rfl, rfl⟩

/-- After an error that is observed nothing is known of the monitor. The value is known to have
passed only if there is one. -/
theorem attempt {program : Program S E F Req Ans α} {passed : α → M → S → Prop}
    (foretold : Foretold may monitor odd state program memory passed) :
    Foretold may monitor odd state (Program.attempt program) memory
      (fun result state final => ∀ value, result = .ok value → passed value state final) := by
  unfold Foretold
  rw [wp_attempt]
  apply wp_mono foretold
  intro events outcome final warned
  cases outcome with
  | returned value =>
    rcases warned with alarmed | ⟨plain, holds⟩
    · exact .inl alarmed
    · apply Or.inr
      constructor
      · exact plain
      · intro result returned value' ok
        cases returned
        cases ok
        exact holds value rfl
  | failed error =>
    rcases warned with alarmed | ⟨plain, -⟩
    · exact .inl alarmed
    · apply Or.inr
      constructor
      · exact plain
      · intro result returned value ok
        cases returned
        cases ok
  | faulted | waiting => exact warned.stopped nofun

/-- A program of which no event is odd or moves the part of the monitor that is looked at. The
other parts of the monitor's state may move. -/
theorem keeping {V W : Type} {view : S → V} {look : M → W} {program : Program S E F Req Ans α}
    {tolerated : V → F → Prop}
    (keeps : Keeps may view (fun event =>
      ¬ odd event.request ∧ ∀ state, look (monitor.next state event) = look state) tolerated
        program) :
    Foretold may monitor odd state program memory (fun _ state' final =>
      look state' = look state ∧ view final = view memory) := by
  apply wp_mono (keeps memory)
  rintro events outcome final ⟨same, within, -⟩
  apply Or.inr
  constructor
  · exact fun event member => (within event member).2.1
  · intro value returned
    exact ⟨monitor.reading_keeps (fun event member => (within event member).2.2) state, same⟩

/-- A program whose events neither move the monitor nor are odd. -/
theorem unmoved {program : Program S E F Req Ans α} {tolerated : Unit → F → Prop}
    (keeps : Keeps may (fun _ => ()) (fun event =>
      ¬ odd event.request ∧ ∀ state, monitor.next state event = state) tolerated program) :
    Foretold may monitor odd state program memory (fun _ state' _ => state' = state) :=
  (keeping keeps).returning (fun _ _ _ held => held.1)

section Guards

variable {condition : Prop} [Decidable condition] {passed : α → M → S → Prop}

/-- A choice is foretold when each branch is, under the assumption that led to it. -/
theorem ite {yes no : Program S E F Req Ans α}
    (left : condition → Foretold may monitor odd state yes memory passed)
    (right : ¬ condition → Foretold may monitor odd state no memory passed) :
    Foretold may monitor odd state (if condition then yes else no) memory passed := by
  by_cases decided : condition
  · rw [if_pos decided]
    exact left decided
  · rw [if_neg decided]
    exact right decided

/-- Behind a check that may end the program with an error, its condition is known to fail. -/
theorem failIf {error : E} {following : Unit → Program S E F Req Ans α}
    (continues : ¬ condition → Foretold may monitor odd state (following ()) memory passed) :
    Foretold may monitor odd state
      (Program.sequence (Program.failIf condition error) following) memory passed := by
  by_cases decided : condition
  · rw [Program.failIf, if_pos decided]
    exact fail
  · rw [Program.failIf, if_neg decided]
    exact continues decided

/-- Behind a check on which the behaviour may be undefined, too. -/
theorem faultIf {reason : F} {following : Unit → Program S E F Req Ans α}
    (continues : ¬ condition → Foretold may monitor odd state (following ()) memory passed) :
    Foretold may monitor odd state
      (Program.sequence (Program.faultIf condition reason) following) memory passed := by
  by_cases decided : condition
  · rw [Program.faultIf, if_pos decided]
    exact fault
  · rw [Program.faultIf, if_neg decided]
    exact continues decided

end Guards

/-- A part that runs under a condition. Without it what has to pass must hold already. -/
theorem onlyIf {condition : Prop} [Decidable condition] {body : Program S E F Req Ans Unit}
    {passed : Unit → M → S → Prop}
    (left : condition → Foretold may monitor odd state body memory passed)
    (right : ¬ condition → passed () state memory) :
    Foretold may monitor odd state (Program.onlyIf condition body) memory passed :=
  ite left (fun fails => done (right fails))

end Foretold

end Interaction
