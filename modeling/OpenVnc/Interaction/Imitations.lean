import OpenVnc.Interaction.Compositions
import OpenVnc.Interaction.Translations

/-!
# Programs that imitate each other

Two programs over the same memory, with requests of their own. One imitates the other when
every execution of it that ends has a counterpart of the other with the same end, the same
final memory and the same sights, where each side says what is seen of its events. Imitation
passes from the parts of programs to the programs composed of them, so that a translation has
to be compared with the original part by part only.
-/

namespace Interaction

variable {S E F Req Req' B : Type} {Ans : Req → Type} {Ans' : Req' → Type} {α β : Type}

namespace Program

/-- A program none of whose paths ends in an error. It may fault or wait for ever. -/
def Unfailing : Program S E F Req Ans α → Prop
  | failing _ => False
  | loading next => ∀ memory, Unfailing (next memory)
  | storing _ next => Unfailing next
  | asking _ next => ∀ answer, Unfailing (next answer)
  | _ => True

/-- Two parts that end in no error end in none one after the other. -/
theorem Unfailing.sequence {first : Program S E F Req Ans α}
    {following : α → Program S E F Req Ans β} (begins : Unfailing first)
    (continues : ∀ value, Unfailing (following value)) :
    Unfailing (Program.sequence first following) := by
  induction first with
  | done value => exact continues value
  | failing => exact begins.elim
  | faulting | stalled => trivial
  | loading next inductionHypothesis | asking request next inductionHypothesis =>
    exact fun index => inductionHypothesis index (begins index)
  | storing written next inductionHypothesis => exact inductionHypothesis begins

/-- A program whose errors are observed as values ends in none. They are values of the program,
then. -/
theorem unfailing_attempt (program : Program S E F Req Ans α) : Unfailing (attempt program) := by
  induction program with
  | done | failing | faulting | stalled => trivial
  | loading next inductionHypothesis | asking request next inductionHypothesis =>
    exact inductionHypothesis
  | storing written next inductionHypothesis => exact inductionHypothesis

/-- There is nothing to observe of the errors of a program that has none. The observation may
begin later. -/
theorem Unfailing.attempt_sequence {first : Program S E F Req Ans α} (unfailing : Unfailing first)
    (following : α → Program S E F Req Ans β) :
    attempt (Program.sequence first following) =
      Program.sequence first (fun value => attempt (following value)) := by
  induction first with
  | failing => exact unfailing.elim
  | done | faulting | stalled => rfl
  | loading next inductionHypothesis =>
    exact congrArg loading (funext fun memory => inductionHypothesis memory (unfailing memory))
  | storing written next inductionHypothesis =>
    exact congrArg (storing written) (inductionHypothesis unfailing)
  | asking request next inductionHypothesis =>
    exact congrArg (asking request)
      (funext fun answer => inductionHypothesis answer (unfailing answer))

variable {implement : (request : Req) → Program S E F Req' Ans' (Ans request)}

/-- Requests are answered part by part: the translation of a sequence is the sequence of the
translations. -/
theorem translate_sequence (first : Program S E F Req Ans α)
    (following : α → Program S E F Req Ans β) :
    translate implement (sequence first following) =
      sequence (translate implement first)
        (fun value => translate implement (following value)) := by
  induction first with
  | done | failing | faulting | stalled => rfl
  | loading next inductionHypothesis => exact congrArg loading (funext inductionHypothesis)
  | storing written next inductionHypothesis => exact congrArg (storing written) inductionHypothesis
  | asking request next inductionHypothesis =>
    exact (congrArg (sequence (implement request)) (funext inductionHypothesis)).trans
      (sequence_assoc _ _ _).symm

/-- Errors are observed in the translation as in the original, if answering has none of its
own. -/
theorem translate_attempt (unfailing : ∀ request, Unfailing (implement request))
    (program : Program S E F Req Ans α) :
    translate implement (attempt program) = attempt (translate implement program) := by
  induction program with
  | done | failing | faulting | stalled => rfl
  | loading next inductionHypothesis => exact congrArg loading (funext inductionHypothesis)
  | storing written next inductionHypothesis => exact congrArg (storing written) inductionHypothesis
  | asking request next inductionHypothesis =>
    exact (congrArg (sequence (implement request)) (funext inductionHypothesis)).trans
      ((unfailing request).attempt_sequence _).symm

end Program

open Program

/-- What both programs are run under: what their environments may answer, what holds of the
memory before and after, and what is seen of an event on each side. -/
structure Comparison (S : Type) {Req Req' : Type} (Ans : Req → Type) (Ans' : Req' → Type)
    (B : Type) where
  may : (request : Req) → Ans request → Prop
  may' : (request : Req') → Ans' request → Prop
  held : S → Prop
  seen : Event S Req Ans → List B
  seen' : Event S Req' Ans' → List B

/-- The comparison the other way round. What imitates and what is imitated change places, so
that one proof of a rule serves both directions. -/
def Comparison.swap (comparison : Comparison S Ans Ans' B) : Comparison S Ans' Ans B where
  may := comparison.may'
  may' := comparison.may
  held := comparison.held
  seen := comparison.seen'
  seen' := comparison.seen

/-- Every execution of the second program that ends is, from what is seen of it, one of the
first. -/
def Imitates (comparison : Comparison S Ans Ans' B) (above : Program S E F Req Ans α)
    (below : Program S E F Req' Ans' α) : Prop :=
  ∀ memory, comparison.held memory → below.wp comparison.may' (fun events outcome final =>
    outcome ≠ .waiting → (∃ events', Execution comparison.may above memory events' outcome final ∧
      events'.flatMap comparison.seen = events.flatMap comparison.seen') ∧
      ((∀ fault, outcome ≠ .faulted fault) → comparison.held final)) memory

namespace Imitates

variable {comparison : Comparison S Ans Ans' B}

/-- A value is imitated by the same value, and nothing is seen of either. -/
theorem done (value : α) : Imitates comparison
    (Program.done value : Program S E F Req Ans α) (Program.done value) :=
  fun memory held _ => ⟨⟨[], .done value memory, rfl⟩, fun _ => held⟩

/-- An error is imitated by the same error. -/
theorem fail (error : E) : Imitates comparison
    (Program.fail error : Program S E F Req Ans α) (Program.fail error) :=
  fun memory held _ => ⟨⟨[], .failing error memory, rfl⟩, fun _ => held⟩

/-- So is a fault; of the memory after it nothing has to hold. -/
theorem fault (reason : F) : Imitates comparison
    (Program.fault reason : Program S E F Req Ans α) (Program.fault reason) :=
  fun memory held _ => ⟨⟨[], .faulting reason memory, rfl⟩, fun _ => held⟩

/-- A program that waits for ever never ends, so there is nothing to imitate. -/
theorem stalled : Imitates comparison
    (Program.stalled : Program S E F Req Ans α) Program.stalled :=
  fun _ _ ended => absurd rfl ended

/-- The parts of the two programs follow each other in step. The observations of the second
parts come after those of the first ones. -/
theorem sequence {first : Program S E F Req Ans α} {first' : Program S E F Req' Ans' α}
    {following : α → Program S E F Req Ans β} {following' : α → Program S E F Req' Ans' β}
    (begins : Imitates comparison first first')
    (continues : ∀ value, Imitates comparison (following value) (following' value)) :
    Imitates comparison (Program.sequence first following)
      (Program.sequence first' following') := by
  intro memory held
  have whole : first.wp comparison.may (continuing comparison.may
      (Execution comparison.may (Program.sequence first following) memory) following) memory :=
    (wp_sequence _ _ _ _).mp (wp_executes _ memory)
  refine wp_after (begins memory held) ?_ ?_ ?_ ?_
  · intro events value middle begun
    obtain ⟨⟨events', executed, same⟩, holds⟩ := begun (by simp)
    have rest := (wp_iff _ _ _).mp whole _ _ _ executed
    apply wp_mono (continues value middle (holds (by simp)))
    intro later outcome final ends ended
    obtain ⟨⟨later', executedLater, sameLater⟩, holdsLater⟩ := ends ended
    refine ⟨⟨events' ++ later', (wp_iff _ _ _).mp rest _ _ _ executedLater, ?_⟩, holdsLater⟩
    rw [List.flatMap_append, List.flatMap_append, same, sameLater]
  · intro events error final ends ended
    obtain ⟨⟨events', executed, same⟩, holds⟩ := ends (by simp)
    exact ⟨⟨events', (wp_iff _ _ _).mp whole _ _ _ executed, same⟩, fun _ => holds (by simp)⟩
  · intro events fault final ends ended
    obtain ⟨⟨events', executed, same⟩, -⟩ := ends (by simp)
    exact ⟨⟨events', (wp_iff _ _ _).mp whole _ _ _ executed, same⟩,
      fun faultless => absurd rfl (faultless fault)⟩
  · exact fun events final _ ended => absurd rfl ended

/-- After loading, the continuations of each memory have to imitate each other. The memories of
the two programs are the same at each moment. -/
theorem load {following : S → Program S E F Req Ans α} {following' : S → Program S E F Req' Ans' α}
    (continues : ∀ memory, Imitates comparison (following memory) (following' memory)) :
    Imitates comparison (Program.sequence Program.load following)
      (Program.sequence Program.load following') := by
  intro memory held
  apply wp_mono (continues memory memory held)
  intro events outcome final ends ended
  obtain ⟨⟨events', executed, same⟩, holds⟩ := ends ended
  exact ⟨⟨events', .loading executed, same⟩, holds⟩

/-- Observing an error as a value is imitated by observing it. Both ends of the first program
have their counterparts. -/
theorem attempt {program : Program S E F Req Ans α} {program' : Program S E F Req' Ans' α}
    (imitates : Imitates comparison program program') :
    Imitates comparison (Program.attempt program) (Program.attempt program') := by
  intro memory held
  have whole : (Program.attempt program).wp comparison.may
      (Execution comparison.may (Program.attempt program) memory) memory := wp_executes _ memory
  rw [wp_attempt] at whole
  rw [wp_attempt]
  apply wp_mono (imitates memory held)
  intro events outcome final ends
  cases outcome with
  | returned | failed =>
    intro _
    obtain ⟨⟨events', executed, same⟩, holds⟩ := ends (by simp)
    exact ⟨⟨events', (wp_iff _ _ _).mp whole _ _ _ executed, same⟩, fun _ => holds (by simp)⟩
  | faulted fault =>
    intro _
    obtain ⟨⟨events', executed, same⟩, -⟩ := ends (by simp)
    exact ⟨⟨events', (wp_iff _ _ _).mp whole _ _ _ executed, same⟩,
      fun faultless => absurd rfl (faultless fault)⟩
  | waiting => exact fun ended => absurd rfl ended

end Imitates

/-- A program and its translation imitate each other as soon as the parts and theirs do. The
programs for the requests must not fail, as an error of theirs would be one of the translation.
-/
theorem imitates_compositional {comparison : Comparison S Ans Ans' B}
    {implement : (request : Req) → Program S E F Req' Ans' (Ans request)} {commits : F → Prop}
    (unfailing : ∀ request, Unfailing (implement request)) :
    Compositional commits (fun _ (program : Program S E F Req Ans _) =>
      Imitates comparison program (translate implement program) ∧
        Imitates comparison.swap (translate implement program) program) where
  done value := ⟨.done value, .done value⟩
  fail error := ⟨.fail error, .fail error⟩
  fault reason _ := ⟨.fault reason, .fault reason⟩
  stalled := ⟨.stalled, .stalled⟩
  sequence first following := by
    rw [translate_sequence]
    exact ⟨first.1.sequence (fun value => (following value).1),
      first.2.sequence (fun value => (following value).2)⟩
  load following := by
    rw [translate_sequence]
    exact ⟨.load (fun memory => (following memory).1), .load (fun memory => (following memory).2)⟩
  attempt tried := by
    rw [translate_attempt unfailing]
    exact ⟨tried.1.attempt, tried.2.attempt⟩

end Interaction
