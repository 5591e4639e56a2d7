import OpenVnc.Interaction.Simulations

/-!
# Programs that come to an end

A prompt program never stalls, so against a handler that answers every request it comes
to an end. An answer may refuse its request; a prompt program then asks for nothing more
and ends with the error of the refusal. A handler that leaves some requests unanswered
can be completed by refusing them: what ended before ends the same, and what was left
waiting ends with the error.
-/

namespace Interaction

variable {S E F Req W : Type} {Ans : Req → Type} {α β : Type}

open Program

/-- The program may still change the memory, and ends with the error. It asks for nothing more,
so that the environment has no say in it. -/
def GivesUp (error : E) : Program S E F Req Ans α → Prop
  | failing reason => reason = error
  | loading next => ∀ memory, GivesUp error (next memory)
  | storing _ next => GivesUp error next
  | _ => False

/-- The program never stalls, and gives up when a request is refused. What counts as a refusal,
and the error for it, is left to the user. -/
def Prompt (refusal : (request : Req) → Ans request → Option E) :
    Program S E F Req Ans α → Prop
  | stalled => False
  | loading next => ∀ memory, Prompt refusal (next memory)
  | storing _ next => Prompt refusal next
  | asking request next => ∀ answer,
      match refusal request answer with
      | none => Prompt refusal (next answer)
      | some error => GivesUp error (next answer)
  | _ => True

/-- A program that gives up never comes to what would follow it. The rest of the sequence can
therefore be any program. -/
theorem GivesUp.sequence {error : E} {first : Program S E F Req Ans α}
    {following : α → Program S E F Req Ans β} (gives : GivesUp error first) :
    GivesUp error (Program.sequence first following) := by
  induction first with
  | failing => exact gives
  | loading next inductionHypothesis =>
    exact fun memory => inductionHypothesis memory (gives memory)
  | storing written next inductionHypothesis => exact inductionHypothesis gives
  | _ => exact gives.elim

namespace Prompt

variable {refusal : (request : Req) → Ans request → Option E}

/-- A program that returns a value does so at once. -/
theorem done (value : α) : Prompt refusal (Program.done value : Program S E F Req Ans α) :=
  trivial

/-- A program that fails does so at once. -/
theorem fail (error : E) : Prompt refusal (Program.fail error : Program S E F Req Ans α) := trivial

/-- A program that faults does so at once. -/
theorem fault (reason : F) : Prompt refusal (Program.fault reason : Program S E F Req Ans α) :=
  trivial

/-- Loading takes no answer that could be a refusal. -/
theorem load : Prompt refusal (Program.load : Program S E F Req Ans S) := fun _ => trivial

/-- Nor does an update of the memory. -/
theorem update (change : S → S) :
    Prompt refusal (Program.update change : Program S E F Req Ans Unit) := fun _ => trivial

/-- A request that is never refused. -/
theorem ask {request : Req} (unrefused : ∀ answer, refusal request answer = none) :
    Prompt refusal (Program.ask request : Program S E F Req Ans (Ans request)) := by
  intro answer
  rw [unrefused answer]
  exact done answer

/-- A request after which a refusal is passed on. The program has to give up with the error of
this refusal. -/
theorem ask_then {request : Req} {following : Ans request → Program S E F Req Ans α}
    (accepted : ∀ answer, refusal request answer = none → Prompt refusal (following answer))
    (refused : ∀ answer error, refusal request answer = some error →
      GivesUp error (following answer)) :
    Prompt refusal (Program.sequence (Program.ask request) following) := by
  intro answer
  cases reply : refusal request answer with
  | none => exact accepted answer reply
  | some error => exact refused answer error reply

/-- Two prompt parts are prompt one after the other: when the first gives up, the second is not
reached. -/
theorem sequence {first : Program S E F Req Ans α} {following : α → Program S E F Req Ans β}
    (begins : Prompt refusal first) (continues : ∀ value, Prompt refusal (following value)) :
    Prompt refusal (Program.sequence first following) := by
  induction first with
  | done value => exact continues value
  | failing | faulting => trivial
  | stalled => exact begins.elim
  | loading next inductionHypothesis =>
    exact fun memory => inductionHypothesis memory (begins memory)
  | storing written next inductionHypothesis => exact inductionHypothesis begins
  | asking request next inductionHypothesis =>
    intro answer
    have asked := begins answer
    revert asked
    cases refusal request answer with
    | none => exact inductionHypothesis answer
    | some error => exact GivesUp.sequence

/-- A choice is prompt when both branches are. -/
theorem ite {condition : Prop} [Decidable condition] {yes no : Program S E F Req Ans α}
    (left : Prompt refusal yes) (right : Prompt refusal no) :
    Prompt refusal (if condition then yes else no) := by
  split
  · exact left
  · exact right

/-- A check that may end the program with an error is prompt. -/
theorem failIf (condition : Prop) [Decidable condition] (error : E) :
    Prompt refusal (Program.failIf condition error : Program S E F Req Ans Unit) :=
  ite (fail error) (done ())

/-- So is a check on which the behaviour may be undefined. -/
theorem faultIf (condition : Prop) [Decidable condition] (reason : F) :
    Prompt refusal (Program.faultIf condition reason : Program S E F Req Ans Unit) :=
  ite (fault reason) (done ())

/-- A part that runs under a condition is prompt when it is. -/
theorem onlyIf {condition : Prop} [Decidable condition] {body : Program S E F Req Ans Unit}
    (prompt : Prompt refusal body) : Prompt refusal (Program.onlyIf condition body) :=
  ite prompt (done ())

end Prompt

namespace Program

variable {refusal : (request : Req) → Ans request → Option E} {handler : Handler Req Ans W}

/-- A program that gives up ends with the error and leaves the world as it is. This is by
induction on the program, which has no request in it. -/
theorem run_givesUp {error : E} {program : Program S E F Req Ans α}
    (gives : GivesUp error program) (memory : S) (world : W) :
    ∃ final, program.run handler memory world = (.failed error, final, world) := by
  induction program generalizing memory with
  | failing reason =>
    obtain rfl : reason = error := gives
    exact ⟨memory, rfl⟩
  | loading next inductionHypothesis => exact inductionHypothesis memory (gives memory) memory
  | storing written next inductionHypothesis => exact inductionHypothesis gives written
  | _ => exact gives.elim

/-- Against a handler that answers everything, a prompt program comes to an end. A stalled
program would be the other possibility, and promptness excludes it. -/
theorem run_prompt {program : Program S E F Req Ans α} (prompt : Prompt refusal program)
    (answers : ∀ request world, ∃ answer later, handler request world = (some answer, later))
    (memory : S) (world : W) : (program.run handler memory world).1 ≠ .waiting := by
  induction program generalizing memory world with
  | done | failing | faulting =>
    intro waits
    cases waits
  | stalled => exact prompt.elim
  | loading next inductionHypothesis =>
    exact inductionHypothesis memory (prompt memory) memory world
  | storing written next inductionHypothesis => exact inductionHypothesis prompt written world
  | asking request next inductionHypothesis =>
    obtain ⟨answer, later, answered⟩ := answers request world
    have asked := prompt answer
    simp only [run, answered]
    revert asked
    cases refusal request answer with
    | none => exact fun asked => inductionHypothesis answer asked memory later
    | some error =>
      intro gives
      obtain ⟨final, ended⟩ := @run_givesUp _ _ _ _ _ _ _ handler _ _ gives memory later
      rw [ended]
      simp

/-- A prompt program that is left waiting by one handler ends with the error against
another that refuses what the first one does not answer. -/
theorem run_refused {error : E} {completed : Handler Req Ans W} {settle : W → W}
    (more : Extends Eq handler completed)
    (refuses : ∀ request world later, handler request world = (none, later) →
      ∃ answer, completed request world = (some answer, settle later) ∧
        refusal request answer = some error)
    {program : Program S E F Req Ans α} (prompt : Prompt refusal program) {memory middle : S}
    {world later : W} (waits : program.run handler memory world = (.waiting, middle, later)) :
    ∃ final, program.run completed memory world = (.failed error, final, settle later) := by
  induction program generalizing memory world with
  | done | failing | faulting => cases waits
  | stalled => exact prompt.elim
  | loading next inductionHypothesis => exact inductionHypothesis memory (prompt memory) waits
  | storing written next inductionHypothesis => exact inductionHypothesis prompt waits
  | asking request next inductionHypothesis =>
    have asked := prompt
    simp only [run] at waits ⊢
    cases answered : handler request world with
    | mk reply between =>
      cases reply with
      | none =>
        rw [answered] at waits
        cases waits
        obtain ⟨answer, completes, refused⟩ := refuses request world later answered
        have gives := asked answer
        rw [refused] at gives
        rw [completes]
        exact run_givesUp gives _ (settle later)
      | some answer =>
        simp only [answered] at waits
        obtain ⟨same, completes, rfl⟩ := more request world world answer between rfl answered
        simp only [completes]
        have continued := asked answer
        revert continued
        cases refusal request answer with
        | none => exact fun prompt => inductionHypothesis answer prompt waits
        | some reason =>
          -- A program that gives up asks nothing, so it is not left waiting.
          intro gives
          obtain ⟨final, ended⟩ := @run_givesUp _ _ _ _ _ _ _ handler _ _ gives memory between
          rw [ended] at waits
          cases waits

end Program

end Interaction
