import Mathlib.Init

/-!
# Sequential programs that ask their environment

A program computes over a private memory and asks its environment for everything
else: it is a tree whose inner nodes read or write the memory or issue a request,
with one subtree for each possible answer. A leaf returns a value, fails with an
error, commits a fault or stalls. The tree fixes no environment. What an
environment may answer is a parameter of the executions defined over it.

An error is an ordinary result and leaves the memory as it is; a fault stands for
behaviour the language leaves undefined, after which nothing is said.
-/

namespace Interaction

/-- What an execution has come to. `waiting` is an execution that is still
running: its last request has not been answered, or a bounded loop ran out. -/
inductive Outcome (E F α : Type) where
  | returned (value : α)
  | failed (error : E)
  | faulted (fault : F)
  | waiting
deriving DecidableEq, Repr

/-- Programs over memory `S`, with errors `E`, faults `F`, requests `Req` and the
answers `Ans request` each request can get. -/
inductive Program (S E F Req : Type) (Ans : Req → Type) (α : Type) where
  | done (value : α)
  | failing (error : E)
  | faulting (fault : F)
  | stalled
  | loading (next : S → Program S E F Req Ans α)
  | storing (memory : S) (next : Program S E F Req Ans α)
  | asking (request : Req) (next : Ans request → Program S E F Req Ans α)

namespace Program

variable {S E F Req : Type} {Ans : Req → Type} {α β γ : Type}

/-- Run the second program on the value of the first. Errors, faults and stalls of
the first end the whole. -/
def sequence : Program S E F Req Ans α → (α → Program S E F Req Ans β) →
    Program S E F Req Ans β
  | done value, following => following value
  | failing error, _ => failing error
  | faulting fault, _ => faulting fault
  | stalled, _ => stalled
  | loading next, following => loading (fun memory => sequence (next memory) following)
  | storing memory next, following => storing memory (sequence next following)
  | asking request next, following =>
      asking request (fun answer => sequence (next answer) following)

/-- Programs are sequenced by running what follows on the value that was returned. -/
instance : Monad (Program S E F Req Ans) where
  pure := done
  bind := sequence

/-- Read the whole memory. It is the only way in which what a program does can depend on the
memory. -/
def load : Program S E F Req Ans S := loading done

/-- Apply a pure update to the memory. Neither the environment nor a result is concerned, so no
event records it. -/
def update (change : S → S) : Program S E F Req Ans Unit :=
  loading (fun memory => storing (change memory) (done ()))

/-- Issue a request and return its answer. What the answer may be is left to the environment. -/
def ask (request : Req) : Program S E F Req Ans (Ans request) := asking request done

/-- End with an error. What was written in front of it has been done all the same. -/
def fail (error : E) : Program S E F Req Ans α := failing error

/-- End with a fault. A fault stands for behaviour that the source language leaves undefined, so
that nothing is said of what follows it. -/
def fault (reason : F) : Program S E F Req Ans α := faulting reason

/-- End with an error when the condition holds. This is the form of the source's early returns.
-/
def failIf (condition : Prop) [Decidable condition] (error : E) :
    Program S E F Req Ans Unit :=
  if condition then failing error else done ()

/-- End with a fault when the condition holds. The condition is what a caller has to rule out,
such as an index past the end of a buffer. -/
def faultIf (condition : Prop) [Decidable condition] (reason : F) :
    Program S E F Req Ans Unit :=
  if condition then faulting reason else done ()

/-- Run the program only when the condition holds. -/
def onlyIf (condition : Prop) [Decidable condition] (body : Program S E F Req Ans Unit) :
    Program S E F Req Ans Unit :=
  if condition then body else done ()

/-- Run the program on the value, when there is one. -/
def onSome (value : Option β) (body : β → Program S E F Req Ans Unit) :
    Program S E F Req Ans Unit :=
  match value with
  | none => done ()
  | some value => body value

/-- Observe a program's result instead of ending with its error. The memory keeps
what the program wrote before it failed. -/
def attempt : Program S E F Req Ans α → Program S E F Req Ans (Except E α)
  | done value => done (.ok value)
  | failing error => done (.error error)
  | faulting fault => faulting fault
  | stalled => stalled
  | loading next => loading (fun memory => attempt (next memory))
  | storing memory next => storing memory (attempt next)
  | asking request next => asking request (fun answer => attempt (next answer))

/-- The value that `return` gives is that of a finished program. -/
@[simp] theorem pure_eq (value : α) : (pure value : Program S E F Req Ans α) = done value := rfl

/-- Steps that are written one after the other are a sequence. -/
@[simp] theorem bind_eq (first : Program S E F Req Ans α)
    (following : α → Program S E F Req Ans β) : first >>= following = sequence first following :=
  rfl

/-- A program's value is returned unchanged. This and associativity make sequencing a monad. -/
theorem sequence_done (program : Program S E F Req Ans α) : sequence program done = program := by
  induction program with
  | done | failing | faulting | stalled => rfl
  | loading next inductionHypothesis => exact congrArg loading (funext inductionHypothesis)
  | storing memory next inductionHypothesis => exact congrArg (storing memory) inductionHypothesis
  | asking request next inductionHypothesis =>
    exact congrArg (asking request) (funext inductionHypothesis)

/-- Sequencing is associative: only the order of the parts matters. Proofs use it to look at the
first of several steps without taking the others apart. -/
theorem sequence_assoc (first : Program S E F Req Ans α)
    (second : α → Program S E F Req Ans β) (third : β → Program S E F Req Ans γ) :
    sequence (sequence first second) third =
      sequence first (fun value => sequence (second value) third) := by
  induction first with
  | done | failing | faulting | stalled => rfl
  | loading next inductionHypothesis => exact congrArg loading (funext inductionHypothesis)
  | storing memory next inductionHypothesis => exact congrArg (storing memory) inductionHypothesis
  | asking request next inductionHypothesis =>
    exact congrArg (asking request) (funext inductionHypothesis)

/-- Sequencing has the laws of a monad, which is why programs may be regrouped. -/
instance : LawfulMonad (Program S E F Req Ans) :=
  LawfulMonad.mk' _ sequence_done (fun _ _ => rfl) sequence_assoc

end Program

end Interaction
