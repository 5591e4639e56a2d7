import OpenVnc.Interaction.Handlers

/-!
# Two runs of one program

Two handlers are alike when they give equal answers in related worlds and stay related.
A program then runs the same against both: its outcome and its memory are equal and the
worlds it leaves are related. The same holds of a sequence of programs. When the second
handler only answers whatever the first one answers, this holds of every run that comes to
an end.
-/

namespace Interaction

variable {S E F Req W W' α : Type} {Ans : Req → Type}

/-- The handlers answer alike in related worlds. They give the same answers, and the worlds they
leave are related again. -/
def Alike (related : W → W' → Prop) (first : Handler Req Ans W) (second : Handler Req Ans W') :
    Prop :=
  ∀ request world world', related world world' →
    (first request world).1 = (second request world').1 ∧
      related (first request world).2 (second request world').2

/-- Whatever the first handler answers, the second answers as well, in related worlds. The
second may answer requests that the first leaves open. -/
def Extends (related : W → W' → Prop) (first : Handler Req Ans W) (second : Handler Req Ans W') :
    Prop :=
  ∀ request world world' answer later, related world world' →
    first request world = (some answer, later) →
      ∃ later', second request world' = (some answer, later') ∧ related later later'

/-- The handlers differ on odd requests only, and the second one answers each of these. A
request that is not odd is answered by both in the same way, with the same world after it. -/
structure DifferOn (odd : Req → Prop) (first second : Handler Req Ans W) : Prop where
  same : ∀ request world, ¬ odd request → first request world = second request world
  answered : ∀ request world, odd request →
    ∃ answer later, second request world = (some answer, later)

namespace Program

variable {related : W → W' → Prop} {first : Handler Req Ans W} {second : Handler Req Ans W'}

/-- A program cannot tell alike handlers apart, by induction on the program. The outcome and
the memory agree, and the worlds stay related. -/
theorem run_alike (alike : Alike related first second) (program : Program S E F Req Ans α)
    (memory : S) {world : W} {world' : W'} (start : related world world') :
    (program.run first memory world).1 = (program.run second memory world').1 ∧
      (program.run first memory world).2.1 = (program.run second memory world').2.1 ∧
      related (program.run first memory world).2.2 (program.run second memory world').2.2 := by
  induction program generalizing memory world world' with
  | done | failing | faulting | stalled => exact ⟨rfl, rfl, start⟩
  | loading next inductionHypothesis => exact inductionHypothesis memory memory start
  | storing written next inductionHypothesis => exact inductionHypothesis written start
  | asking request next inductionHypothesis =>
    obtain ⟨same, later⟩ := alike request world world' start
    simp only [run]
    revert same later
    rcases first request world with ⟨answer, world⟩
    rcases second request world' with ⟨answer', world'⟩
    rintro rfl later
    cases answer with
    | none => exact ⟨rfl, rfl, later⟩
    | some answer => exact inductionHypothesis answer memory later

/-- A run that comes to an end is the same against a handler that answers more. Running with
more answers can only lengthen a run that waits. -/
theorem run_extends (more : Extends related first second) (program : Program S E F Req Ans α)
    (memory : S) {world : W} {world' : W'} (start : related world world')
    (ended : (program.run first memory world).1 ≠ .waiting) :
    ∃ later', program.run second memory world' =
        ((program.run first memory world).1, (program.run first memory world).2.1, later') ∧
      related (program.run first memory world).2.2 later' := by
  induction program generalizing memory world world' with
  | done | failing | faulting | stalled => exact ⟨world', rfl, start⟩
  | loading next inductionHypothesis => exact inductionHypothesis memory memory start ended
  | storing written next inductionHypothesis => exact inductionHypothesis written start ended
  | asking request next inductionHypothesis =>
    simp only [run] at ended ⊢
    cases answered : first request world with
    | mk reply later =>
      cases reply with
      | none =>
        rw [answered] at ended
        exact absurd rfl ended
      | some answer =>
        obtain ⟨later', same, stays⟩ := more request world world' answer later start answered
        rw [answered] at ended
        rw [same]
        exact inductionHypothesis answer memory stays ended

/-- A program cannot tell handlers apart that differ on requests it does not ask. Whether odd
requests are asked is seen in the events of the second run. -/
theorem run_differOn {odd : Req → Prop} {first second : Handler Req Ans W}
    (differ : DifferOn odd first second) (program : Program S E F Req Ans α) (memory : S)
    (world : W)
    (plain : ∀ event ∈ program.trace second memory world, ¬ odd event.request) :
    program.run first memory world = program.run second memory world ∧
      program.trace first memory world = program.trace second memory world := by
  induction program generalizing memory world with
  | done | failing | faulting | stalled => exact ⟨rfl, rfl⟩
  | loading next inductionHypothesis => exact inductionHypothesis memory memory world plain
  | storing written next inductionHypothesis => exact inductionHypothesis written world plain
  | asking request next inductionHypothesis =>
    have even : ¬ odd request := by
      intro asked
      obtain ⟨answer, later, answered⟩ := differ.answered request world asked
      simp only [trace, answered] at plain
      exact plain _ List.mem_cons_self asked
    simp only [run, trace, differ.same request world even] at plain ⊢
    revert plain
    rcases second request world with ⟨_ | answer, later⟩
    · intro _
      exact ⟨rfl, rfl⟩
    · intro plain
      obtain ⟨sameRun, sameTrace⟩ := inductionHypothesis answer memory later
        (fun event member => plain event (List.mem_cons_of_mem _ member))
      exact ⟨sameRun, congrArg _ sameTrace⟩

/-- Run programs one after another, each on the memory and the world the last one left.
The outcomes are listed; the sequence ends with one that is neither a value nor an error. -/
def runAll (handler : Handler Req Ans W) :
    List (Program S E F Req Ans α) → S → W → List (Outcome E F α) × S × W
  | [], memory, world => ([], memory, world)
  | program :: programs, memory, world =>
      match program.run handler memory world with
      | (.returned value, memory, world) =>
          let (outcomes, final) := runAll handler programs memory world
          (.returned value :: outcomes, final)
      | (.failed error, memory, world) =>
          let (outcomes, final) := runAll handler programs memory world
          (.failed error :: outcomes, final)
      | (outcome, memory, world) => ([outcome], memory, world)

/-- A sequence of programs cannot tell alike handlers apart either. The worlds are related from
each program to the next. -/
theorem runAll_alike (alike : Alike related first second)
    (programs : List (Program S E F Req Ans α)) (memory : S) {world : W} {world' : W'}
    (start : related world world') :
    (runAll first programs memory world).1 = (runAll second programs memory world').1 ∧
      (runAll first programs memory world).2.1 = (runAll second programs memory world').2.1 ∧
      related (runAll first programs memory world).2.2
        (runAll second programs memory world').2.2 := by
  induction programs generalizing memory world world' with
  | nil => exact ⟨rfl, rfl, start⟩
  | cons program programs inductionHypothesis =>
    obtain ⟨sameOutcome, sameMemory, later⟩ := run_alike alike program memory start
    simp only [runAll]
    revert sameOutcome sameMemory later
    rcases program.run first memory world with ⟨outcome, final, world⟩
    rcases program.run second memory world' with ⟨outcome', final', world'⟩
    rintro rfl rfl later
    cases outcome with
    | returned | failed =>
      obtain ⟨outcomes, memories, worlds⟩ := inductionHypothesis final later
      exact ⟨congrArg _ outcomes, memories, worlds⟩
    | faulted | waiting => exact ⟨rfl, rfl, later⟩

/-- The events of each program of a sequence that is run. -/
def traceAll (handler : Handler Req Ans W) :
    List (Program S E F Req Ans α) → S → W → List (List (Event S Req Ans))
  | [], _, _ => []
  | program :: programs, memory, world =>
      program.trace handler memory world ::
        match program.run handler memory world with
        | (.returned _, memory, world) | (.failed _, memory, world) =>
            traceAll handler programs memory world
        | _ => []

/-- Handlers that differ on odd requests are alike to a sequence of programs none of which
asks one. -/
theorem runAll_differOn {odd : Req → Prop} {first second : Handler Req Ans W}
    (differ : DifferOn odd first second) (programs : List (Program S E F Req Ans α)) (memory : S)
    (world : W)
    (plain : ∀ events ∈ traceAll second programs memory world,
      ∀ event ∈ events, ¬ odd event.request) :
    runAll first programs memory world = runAll second programs memory world ∧
      traceAll first programs memory world = traceAll second programs memory world := by
  induction programs generalizing memory world with
  | nil => exact ⟨rfl, rfl⟩
  | cons program programs inductionHypothesis =>
    obtain ⟨sameRun, sameTrace⟩ := run_differOn differ program memory world
      (plain _ List.mem_cons_self)
    have rest := fun events member => plain events (List.mem_cons_of_mem _ member)
    simp only [runAll, traceAll, sameRun, sameTrace]
    revert rest
    rcases program.run second memory world with ⟨outcome, final, later⟩
    cases outcome with
    | returned | failed =>
      intro rest
      obtain ⟨sameRuns, sameTraces⟩ := inductionHypothesis final later rest
      dsimp only
      rw [sameRuns, sameTraces]
      exact ⟨rfl, rfl⟩
    | faulted | waiting =>
      intro _
      exact ⟨rfl, rfl⟩

end Program

end Interaction
