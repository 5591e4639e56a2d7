import OpenVnc.Interaction.Imitations

/-!
# Programs that clean up after themselves

A program can have obligations beside what it computes, such as giving back what it holds
before it ends with an error. `settle` runs a program and goes on from its error or from its
value. When the requests that serve the obligations only are answered by nothing, what is left
is the program without them, in which an error that is passed on need not be observed.
-/

namespace Interaction

variable {S E F Req Req' : Type} {Ans : Req → Type} {Ans' : Req' → Type} {α β : Type}

namespace Program

/-- Run a program and go on from its error or from its value. Unlike a sequence it runs
something in either case, such as the release of what the program had. -/
def settle (program : Program S E F Req Ans α) (failed : E → Program S E F Req Ans β)
    (returned : α → Program S E F Req Ans β) : Program S E F Req Ans β :=
  sequence (attempt program) (fun result =>
    match result with
    | .error error => failed error
    | .ok value => returned value)

/-- An error that is passed on as it is need not be observed. It is the same as the sequence in
this case. -/
theorem settle_failing (program : Program S E F Req Ans α)
    (returned : α → Program S E F Req Ans β) :
    settle program failing returned = sequence program returned := by
  unfold settle
  induction program with
  | done | failing | faulting | stalled => rfl
  | loading next inductionHypothesis => exact congrArg loading (funext inductionHypothesis)
  | storing written next inductionHypothesis => exact congrArg (storing written) inductionHypothesis
  | asking request next inductionHypothesis =>
    exact congrArg (asking request) (funext inductionHypothesis)

end Program

open Program

/-- What is left of a program when its requests are answered by `erase` is the other one. A
request that only serves an obligation is answered by a program that asks for nothing. -/
def Erases (erase : (request : Req) → Program S E F Req' Ans' (Ans request))
    (program : Program S E F Req Ans α) (left : Program S E F Req' Ans' α) : Prop :=
  translate erase program = left

namespace Erases

variable {erase : (request : Req) → Program S E F Req' Ans' (Ans request)}

/-- A value that is returned is left as it is. -/
theorem done (value : α) : Erases erase (Program.done value) (Program.done value) := rfl

/-- So is an error that is returned. -/
theorem fail (error : E) :
    Erases erase (Program.fail error : Program S E F Req Ans α) (Program.fail error) := rfl

/-- A program that waits for ever goes on waiting. -/
theorem stalled : Erases erase (Program.stalled : Program S E F Req Ans α) Program.stalled := rfl

/-- An update is no request, so it stays. -/
theorem update (change : S → S) :
    Erases erase (Program.update change) (Program.update change) := rfl

/-- Of a request there is left what it is erased to. It may be another request, or nothing. -/
theorem ask (request : Req) : Erases erase (Program.ask request) (erase request) :=
  sequence_done (erase request)

/-- Loading stays, and each continuation is erased. -/
theorem load {following : S → Program S E F Req Ans α} {left : S → Program S E F Req' Ans' α}
    (continues : ∀ memory, Erases erase (following memory) (left memory)) :
    Erases erase (Program.sequence Program.load following) (Program.sequence Program.load left) :=
  congrArg loading (funext continues)

/-- Two parts are erased one after the other. What is erased of one part does not depend on the
other. -/
theorem sequence {first : Program S E F Req Ans α} {left : Program S E F Req' Ans' α}
    {following : α → Program S E F Req Ans β} {then' : α → Program S E F Req' Ans' β}
    (begins : Erases erase first left)
    (continues : ∀ value, Erases erase (following value) (then' value)) :
    Erases erase (Program.sequence first following) (Program.sequence left then') := by
  unfold Erases
  rw [translate_sequence, begins, funext continues]

/-- An obligation that is met last is not seen. It may still need the memory at that moment, but
it leaves it as it is. -/
theorem before {first : Program S E F Req Ans Unit} {left : Program S E F Req' Ans' Unit}
    {last : Program S E F Req Ans Unit} (begins : Erases erase first left)
    (vanishes : Erases erase last (Program.done ())) :
    Erases erase (Program.sequence first (fun _ => last)) left := by
  unfold Erases
  rw [translate_sequence, begins, vanishes]
  exact sequence_done left

/-- An obligation that is met first is not seen. What follows is then erased by itself. -/
theorem after {first : Program S E F Req Ans Unit} {following : Program S E F Req Ans α}
    {left : Program S E F Req' Ans' α} (vanishes : Erases erase first (Program.done ()))
    (continues : Erases erase following left) :
    Erases erase (Program.sequence first (fun _ => following)) left := by
  unfold Erases
  rw [translate_sequence, vanishes]
  exact continues

section Guards

variable {condition : Prop} [Decidable condition]

/-- Each branch of a choice is erased on its own; the choice stays. The condition is about
values and not about requests. -/
theorem ite {yes no : Program S E F Req Ans α} {yes' no' : Program S E F Req' Ans' α}
    (left : Erases erase yes yes') (right : Erases erase no no') :
    Erases erase (if condition then yes else no) (if condition then yes' else no') := by
  split
  · exact left
  · exact right

/-- A check that ends the program with an error stays. -/
theorem failIf (error : E) :
    Erases erase (Program.failIf condition error : Program S E F Req Ans Unit)
      (Program.failIf condition error) := ite (fail error) (done ())

/-- So does a check on which the behaviour is undefined. -/
theorem faultIf (reason : F) :
    Erases erase (Program.faultIf condition reason : Program S E F Req Ans Unit)
      (Program.faultIf condition reason) := ite rfl (done ())

/-- A part that runs under a condition is erased where it stands. -/
theorem onlyIf {body : Program S E F Req Ans Unit} {left : Program S E F Req' Ans' Unit}
    (runs : Erases erase body left) :
    Erases erase (Program.onlyIf condition body) (Program.onlyIf condition left) :=
  ite runs (done ())

/-- An obligation that is met only under a condition is not seen either. -/
theorem onlyIf_done {body : Program S E F Req Ans Unit}
    (vanishes : Erases erase body (Program.done ())) :
    Erases erase (Program.onlyIf condition body) (Program.done ()) := by
  unfold Program.onlyIf
  split
  · exact vanishes
  · exact done ()

/-- What is done before ending with an error is not seen when it serves an obligation only. -/
theorem failIf_then {yes no : Program S E F Req Ans α} {left : Program S E F Req' Ans' α}
    {error : E} (ends : Erases erase yes (Program.fail error)) (continues : Erases erase no left) :
    Erases erase (if condition then yes else no)
      (Program.sequence (Program.failIf condition error) (fun _ => left)) := by
  unfold Program.failIf
  split
  · exact ends
  · exact continues

end Guards

/-- So is a body that runs on a value, if there is one. -/
theorem onSome {value : Option β} {body : β → Program S E F Req Ans Unit}
    {left : β → Program S E F Req' Ans' Unit} (runs : ∀ present, Erases erase (body present)
      (left present)) :
    Erases erase (Program.onSome value body) (Program.onSome value left) := by
  cases value with
  | none => exact done ()
  | some present => exact runs present

section Observing

variable (unfailing : ∀ request, Unfailing (erase request))
include unfailing

/-- Observing an error as a value stays. Erasing introduces no errors that would be observed with
it. -/
theorem attempt {program : Program S E F Req Ans α} {left : Program S E F Req' Ans' α}
    (tried : Erases erase program left) :
    Erases erase (Program.attempt program) (Program.attempt left) := by
  unfold Erases
  rw [translate_attempt unfailing, tried]

/-- When an error is passed on after the obligations are met, only the value is looked at. The
two ends meet the same obligations, each in its own place. -/
theorem settle {program : Program S E F Req Ans α} {left : Program S E F Req' Ans' α}
    {failed : E → Program S E F Req Ans β} {returned : α → Program S E F Req Ans β}
    {following : α → Program S E F Req' Ans' β} (tried : Erases erase program left)
    (ends : ∀ error, Erases erase (failed error) (Program.fail error))
    (continues : ∀ value, Erases erase (returned value) (following value)) :
    Erases erase (Program.settle program failed returned) (Program.sequence left following) := by
  rw [← settle_failing]
  apply sequence (tried.attempt unfailing)
  intro result
  cases result with
  | error error => exact ends error
  | ok value => exact continues value

end Observing

/-- Embedded requests that are answered as they were asked leave the program they come from. The
two levels agree where nothing is managed. -/
theorem embedded {embed : (request : Req') → Program S E F Req Ans (Ans' request)}
    (restores : ∀ request, Erases erase (embed request) (Program.ask request))
    (program : Program S E F Req' Ans' α) : Erases erase (translate embed program) program := by
  induction program with
  | done | failing | faulting | stalled => rfl
  | loading next inductionHypothesis => exact congrArg loading (funext inductionHypothesis)
  | storing written next inductionHypothesis => exact congrArg (storing written) inductionHypothesis
  | asking request next inductionHypothesis =>
    exact (restores request).sequence inductionHypothesis

end Erases

/-- A program that is run and gone on from, with its two ends shadowed. Each end starts where the
specification of the program leaves the shadow for it. -/
theorem Shadows.settle {M : Type} {may : (request : Req) → Ans request → Prop}
    {shadow : Shadow S Req Ans M} {tolerated : F → Prop} {state : M} {memory : S}
    {program : Program S E F Req Ans α} {failed : E → Program S E F Req Ans β}
    {returned : α → Program S E F Req Ans β} {passed : β → M → S → Prop}
    {settled : E → M → S → Prop} {ended : α → M → S → Prop} {stopped : E → M → S → Prop}
    (shadows : Shadows may shadow tolerated state program memory ended stopped)
    (fails : ∀ error reached final, stopped error reached final →
      Shadows may shadow tolerated reached (failed error) final passed settled)
    (returns : ∀ value reached final, ended value reached final →
      Shadows may shadow tolerated reached (returned value) final passed settled) :
    Shadows may shadow tolerated state (Program.settle program failed returned) memory passed
      settled :=
  Shadows.attempting shadows returns fails

end Interaction
