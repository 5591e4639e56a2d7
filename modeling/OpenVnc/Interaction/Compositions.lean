import OpenVnc.Interaction.Executions

/-!
# Programs composed of parts

How a program is put together from parts with a meaning of their own, by sequencing, observed
errors and choices that depend on the memory. A property that every way of putting programs
together keeps holds of what is composed of parts that have it, so that a program is taken apart
once, however many properties it is to have.
-/

namespace Interaction

open Program

variable {S E F Req : Type} {Ans : Req → Type}

/-- Programs that are composed of parts and commit only the given faults themselves, besides those
of the parts. -/
inductive Composed (part : (α : Type) → Program S E F Req Ans α → Prop) (commits : F → Prop) :
    {α : Type} → Program S E F Req Ans α → Prop where
  | part {α : Type} {program : Program S E F Req Ans α} (given : part α program) :
      Composed part commits program
  | done {α : Type} (value : α) : Composed part commits (Program.done value)
  | fail {α : Type} (error : E) :
      Composed part commits (Program.fail error : Program S E F Req Ans α)
  | fault {α : Type} {reason : F} (committed : commits reason) :
      Composed part commits (Program.fault reason : Program S E F Req Ans α)
  | stalled {α : Type} : Composed part commits (Program.stalled : Program S E F Req Ans α)
  | sequence {α β : Type} {first : Program S E F Req Ans α}
      {following : α → Program S E F Req Ans β} (begins : Composed part commits first)
      (continues : ∀ value, Composed part commits (following value)) :
      Composed part commits (Program.sequence first following)
  | load {α : Type} {following : S → Program S E F Req Ans α}
      (continues : ∀ memory, Composed part commits (following memory)) :
      Composed part commits (Program.sequence Program.load following)
  | attempt {α : Type} {program : Program S E F Req Ans α} (tried : Composed part commits program) :
      Composed part commits (Program.attempt program)

/-- A property that every way of putting programs together keeps. There is one field for each
constructor of `Composed`, so that a property is shown once for the ways of composing and once
for each kind of part. -/
structure Compositional (commits : F → Prop)
    (holds : (α : Type) → Program S E F Req Ans α → Prop) : Prop where
  done : ∀ {α : Type} (value : α), holds α (Program.done value)
  fail : ∀ {α : Type} (error : E), holds α (Program.fail error)
  fault : ∀ {α : Type} (reason : F), commits reason → holds α (Program.fault reason)
  stalled : ∀ {α : Type}, holds α Program.stalled
  sequence : ∀ {α β : Type} {first : Program S E F Req Ans α}
    {following : α → Program S E F Req Ans β}, holds α first →
      (∀ value, holds β (following value)) → holds β (Program.sequence first following)
  load : ∀ {α : Type} {following : S → Program S E F Req Ans α},
    (∀ memory, holds α (following memory)) → holds α (Program.sequence Program.load following)
  attempt : ∀ {α : Type} {program : Program S E F Req Ans α}, holds α program →
    holds (Except E α) (Program.attempt program)

namespace Composed

variable {part : (α : Type) → Program S E F Req Ans α → Prop} {commits : F → Prop} {α β : Type}

/-- What is composed of parts has every compositional property of the parts. This is the one
induction over how programs are put together. -/
theorem lifted {holds : (α : Type) → Program S E F Req Ans α → Prop}
    (compositional : Compositional commits holds)
    (parts : ∀ {α : Type} {program : Program S E F Req Ans α}, part α program → holds α program)
    {program : Program S E F Req Ans α} (composed : Composed part commits program) :
    holds α program := by
  induction composed with
  | part given => exact parts given
  | done value => exact compositional.done value
  | fail error => exact compositional.fail error
  | fault committed => exact compositional.fault _ committed
  | stalled => exact compositional.stalled
  | sequence begins continues first following => exact compositional.sequence first following
  | load continues inductionHypothesis => exact compositional.load inductionHypothesis
  | attempt tried inductionHypothesis => exact compositional.attempt inductionHypothesis

/-- Being composed of parts is such a property. A program whose parts are composed of smaller
ones is composed of the smaller ones. -/
theorem compositional {more : F → Prop} (widens : ∀ reason, commits reason → more reason) :
    Compositional commits (fun _ program => Composed part more program) where
  done := done
  fail := fail
  fault reason committed := fault (widens reason committed)
  stalled := stalled
  sequence := sequence
  load := load
  attempt := attempt

/-- Parts may be taken apart further. The finer parts may need further faults. -/
theorem refined {finer : (α : Type) → Program S E F Req Ans α → Prop} {more : F → Prop}
    (widens : ∀ reason, commits reason → more reason)
    (parts : ∀ {α : Type} {program : Program S E F Req Ans α}, part α program →
      Composed finer more program)
    {program : Program S E F Req Ans α} (composed : Composed part commits program) :
    Composed finer more program :=
  composed.lifted (compositional widens) parts

section Guards

variable {condition : Prop} [Decidable condition]

/-- Each branch may use which way the choice went. -/
theorem ite {yes no : Program S E F Req Ans α} (left : condition → Composed part commits yes)
    (right : ¬ condition → Composed part commits no) :
    Composed part commits (if condition then yes else no) := by
  split
  · exact left ‹_›
  · exact right ‹_›

/-- A check that may end the program with an error is composed of nothing. It neither runs a
part nor leaves a value to depend on. -/
theorem failIf (error : E) :
    Composed part commits (Program.failIf condition error : Program S E F Req Ans Unit) :=
  ite (fun _ => fail error) (fun _ => done ())

/-- What follows a check that did not fail may use that its condition is false. -/
theorem guarded {error : E} {following : Unit → Program S E F Req Ans α}
    (continues : ¬ condition → Composed part commits (following ())) :
    Composed part commits (Program.sequence (Program.failIf condition error) following) := by
  unfold Program.failIf
  split
  · exact fail error
  · exact continues ‹_›

/-- So is a check on which the behaviour may be undefined, if the program may commit its fault. -/
theorem faultIf {reason : F} (committed : commits reason) :
    Composed part commits (Program.faultIf condition reason : Program S E F Req Ans Unit) :=
  ite (fun _ => fault committed) (fun _ => done ())

/-- A part that runs under a condition is a part as it is. -/
theorem onlyIf {body : Program S E F Req Ans Unit} (runs : Composed part commits body) :
    Composed part commits (Program.onlyIf condition body) :=
  ite (fun _ => runs) (fun _ => done ())

end Guards

/-- A body that is run on a value, if there is one. Without a value the program is a finished
one. -/
theorem onSome {value : Option β} {body : β → Program S E F Req Ans Unit}
    (runs : ∀ present, Composed part commits (body present)) :
    Composed part commits (Program.onSome value body) := by
  cases value with
  | none => exact done ()
  | some present => exact runs present

end Composed

/-! ## Compositional properties -/

variable {may : (request : Req) → Ans request → Prop} {commits : F → Prop}

/-- Keeping a part of the memory, with requests within bounds. The faults a composition may
commit on its own have to be tolerated. -/
theorem Keeps.compositional {V : Type} {view : S → V} {admitted : Event S Req Ans → Prop}
    {tolerated : V → F → Prop} (accepts : ∀ seen reason, commits reason → tolerated seen reason) :
    Compositional commits (fun _ (program : Program S E F Req Ans _) =>
      Keeps may view admitted tolerated program) where
  done := Keeps.done
  fail := Keeps.fail
  fault reason committed memory := by
    refine ⟨rfl, by simp, fun fault faulted => ?_⟩
    obtain rfl : reason = fault := by simpa using faulted
    exact accepts _ _ committed
  stalled _ := ⟨rfl, by simp, nofun⟩
  sequence := Keeps.sequence
  load := Keeps.load
  attempt := Keeps.attempt

/-- Keeping an invariant. The same holds of the faults. -/
theorem Maintains.compositional {holds : S → Prop} {tolerated : F → Prop}
    (accepts : ∀ reason, commits reason → tolerated reason) :
    Compositional commits (fun _ (program : Program S E F Req Ans _) =>
      Maintains may tolerated holds program) where
  done := Maintains.done
  fail := Maintains.fail
  fault reason committed := Maintains.fault (accepts reason committed)
  stalled := Maintains.stalled
  sequence := Maintains.sequence
  load continues := Maintains.load (fun memory held => continues memory memory held)
  attempt := Maintains.attempt

end Interaction
