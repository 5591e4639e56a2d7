import OpenVnc.Interaction.Shadows

/-!
# Programs that answer requests

A request of a program can be answered by a program in its turn: over the requests of a lower
layer, or over those of the same layer together with others that the environment knows nothing
of. `translate` puts such programs in the place of the requests. An execution of the
translation is one of the original program in which every answer has been worked out by its
program, so that what holds of all executions of the original holds of the translation.
-/

namespace Interaction

variable {S T E E' F Req Req' : Type} {Ans : Req → Type} {Ans' : Req' → Type} {α β : Type}

namespace Program

/-- Answer each request by a program. Such a program runs one level below. It shares the memory
and the errors of the program it serves. -/
def translate (implement : (request : Req) → Program S E F Req' Ans' (Ans request)) :
    Program S E F Req Ans α → Program S E F Req' Ans' α
  | done value => done value
  | failing error => failing error
  | faulting fault => faulting fault
  | stalled => stalled
  | loading next => loading (fun memory => translate implement (next memory))
  | storing memory next => storing memory (translate implement next)
  | asking request next =>
      sequence (implement request) (fun answer => translate implement (next answer))

/-- Run a program on a memory of its own, which is handed over with the result. It has no
faults, and the memory of the other program is not touched meanwhile. -/
def isolate : Program T E Empty Req Ans α → T → Program S E' F Req Ans (Except E α × T)
  | done value, memory => done (.ok value, memory)
  | failing error, memory => done (.error error, memory)
  | stalled, _ => stalled
  | loading next, memory => isolate (next memory) memory
  | storing written next, _ => isolate next written
  | asking request next, memory => asking request (fun answer => isolate (next answer) memory)

/-- On every path within `may` each request is ready to be asked. What makes a request ready may
depend on the memory at that moment. -/
def Poses (may : (request : Req) → Ans request → Prop) (ready : S → Req → Prop) :
    Program S E F Req Ans α → S → Prop
  | loading next, memory => Poses may ready (next memory) memory
  | storing written next, _ => Poses may ready next written
  | asking request next, memory =>
      ready memory request ∧ ∀ answer, may request answer → Poses may ready (next answer) memory
  | _, _ => True

/-- Every request is ready when nothing is asked of it. -/
theorem poses_always (may : (request : Req) → Ans request → Prop)
    (program : Program S E F Req Ans α) (memory : S) :
    Poses may (fun _ _ => True) program memory := by
  induction program generalizing memory with
  | done | failing | faulting | stalled => trivial
  | loading next inductionHypothesis => exact inductionHypothesis memory memory
  | storing written next inductionHypothesis => exact inductionHypothesis written
  | asking request next inductionHypothesis =>
    exact ⟨trivial, fun answer _ => inductionHypothesis answer memory⟩

/-- Fewer answers, fewer paths. Readiness for more answers is the stronger statement. -/
theorem Poses.weaken {may may' : (request : Req) → Ans request → Prop} {ready : S → Req → Prop}
    (weaker : ∀ request answer, may request answer → may' request answer)
    {program : Program S E F Req Ans α} {memory : S} (poses : Poses may' ready program memory) :
    Poses may ready program memory := by
  induction program generalizing memory with
  | done | failing | faulting | stalled => trivial
  | loading next inductionHypothesis => exact inductionHypothesis memory poses
  | storing written next inductionHypothesis => exact inductionHypothesis poses
  | asking request next inductionHypothesis =>
    exact ⟨poses.1, fun answer allowed =>
      inductionHypothesis answer (poses.2 answer (weaker request answer allowed))⟩

/-- A program can be executed up to its first request. So nothing that is said of all executions
is empty. -/
theorem exists_execution (may : (request : Req) → Ans request → Prop)
    (program : Program S E F Req Ans α) (memory : S) :
    ∃ events outcome final, Execution may program memory events outcome final := by
  induction program generalizing memory with
  | done value => exact ⟨_, _, _, .done value memory⟩
  | failing error => exact ⟨_, _, _, .failing error memory⟩
  | faulting fault => exact ⟨_, _, _, .faulting fault memory⟩
  | stalled => exact ⟨_, _, _, .stalled memory⟩
  | loading next inductionHypothesis =>
    obtain ⟨events, outcome, final, executed⟩ := inductionHypothesis memory memory
    exact ⟨events, outcome, final, .loading executed⟩
  | storing written next inductionHypothesis =>
    obtain ⟨events, outcome, final, executed⟩ := inductionHypothesis written
    exact ⟨events, outcome, final, .storing executed⟩
  | asking request next => exact ⟨_, _, _, .unanswered memory⟩

/-- Requests that can be answered are ready when they are ready in every event. This turns a
statement about executions into one about paths. -/
theorem poses_of_wp {may : (request : Req) → Ans request → Prop} {ready : S → Req → Prop}
    (answerable : ∀ request, ∃ answer, may request answer) {program : Program S E F Req Ans α}
    {memory : S}
    (holds : program.wp may (fun events _ _ => ∀ event ∈ events, ready event.memory event.request)
      memory) : Poses may ready program memory := by
  induction program generalizing memory with
  | done | failing | faulting | stalled => trivial
  | loading next inductionHypothesis => exact inductionHypothesis memory holds
  | storing written next inductionHypothesis => exact inductionHypothesis holds
  | asking request next inductionHypothesis =>
    obtain ⟨-, answered⟩ := holds
    constructor
    · obtain ⟨answer, allowed⟩ := answerable request
      obtain ⟨events, outcome, final, executed⟩ := exists_execution may (next answer) memory
      have ready := (wp_iff _ _ _).mp (answered answer allowed) events outcome final executed
      exact ready _ List.mem_cons_self
    · intro answer allowed
      apply inductionHypothesis answer
      apply wp_mono (answered answer allowed)
      intro events outcome final ready event member
      exact ready event (List.mem_cons_of_mem _ member)

end Program

open Program

/-- The events below are those above worked out one after another, as `carries` has it. Those
of an answer that has not been given yet may follow when the whole is unfinished. -/
inductive Expands (carries : (memory : S) → (request : Req) → Option (Ans request) →
      List (Event S Req' Ans') → Prop) (unfinished : Prop) :
    List (Event S Req Ans) → List (Event S Req' Ans') → Prop where
  | nil : Expands carries unfinished [] []
  | unanswered {memory : S} {request : Req} {begun : List (Event S Req' Ans')}
      (waits : unfinished) (carried : carries memory request none begun) :
      Expands carries unfinished [] begun
  | cons {memory : S} {request : Req} {answer : Ans request}
      {worked below : List (Event S Req' Ans')} {above : List (Event S Req Ans)}
      (carried : carries memory request (some answer) worked)
      (rest : Expands carries unfinished above below) :
      Expands carries unfinished (⟨memory, request, answer⟩ :: above) (worked ++ below)

/-- A translation asks what the programs for the requests ask. The program for a request is run
in the memory of the moment. -/
theorem translate_asks {may' : (request : Req') → Ans' request → Prop}
    {implement : (request : Req) → Program S E F Req' Ans' (Ans request)} {admitted : Req' → Prop}
    (asks : ∀ request memory, (implement request).wp may'
      (fun events _ _ => ∀ event ∈ events, admitted event.request) memory)
    (program : Program S E F Req Ans α) (memory : S) :
    (translate implement program).wp may'
      (fun events _ _ => ∀ event ∈ events, admitted event.request) memory := by
  induction program generalizing memory with
  | done | failing | faulting | stalled => exact nofun
  | loading next inductionHypothesis => exact inductionHypothesis memory memory
  | storing written next inductionHypothesis => exact inductionHypothesis written
  | asking request next inductionHypothesis =>
    refine wp_after (asks request memory) ?_ (fun _ _ _ within => within)
      (fun _ _ _ within => within) (fun _ _ within => within)
    intro events answer final within
    apply wp_mono (inductionHypothesis answer final)
    intro later outcome last withinLater event member
    exact (List.mem_append.mp member).elim (within event) (withinLater event)

/-- What is seen of the events above is seen of those below, when it is seen of the events of
each answer that has been worked out. -/
theorem Expands.flatMap {B : Type} {seen : Event S Req Ans → List B}
    {seen' : Event S Req' Ans' → List B}
    {carries : (memory : S) → (request : Req) → Option (Ans request) →
      List (Event S Req' Ans') → Prop} {unfinished : Prop} (finished : ¬ unfinished)
    (same : ∀ memory request answer worked, carries memory request (some answer) worked →
      worked.flatMap seen' = seen ⟨memory, request, answer⟩)
    {above : List (Event S Req Ans)} {below : List (Event S Req' Ans')}
    (expands : Expands carries unfinished above below) :
    below.flatMap seen' = above.flatMap seen := by
  induction expands with
  | nil => rfl
  | unanswered waits => exact absurd waits finished
  | cons carried rest inductionHypothesis =>
    rw [List.flatMap_append, List.flatMap_cons, same _ _ _ _ carried, inductionHypothesis]

/-- A request that is answered, and what follows it. The event records the memory as it was. -/
theorem Execution.asked {may : (request : Req) → Ans request → Prop} {request : Req}
    {following : Ans request → Program S E F Req Ans α} {memory final : S}
    {events : List (Event S Req Ans)} {outcome : Outcome E F α} (answer : Ans request)
    (allowed : may request answer)
    (rest : Execution may (following answer) memory events outcome final) :
    Execution may (Program.sequence (ask request) following) memory
      (⟨memory, request, answer⟩ :: events) outcome final :=
  .answered answer allowed rest

/-- The executions of two parts follow each other. The memory that the first part left is where
the second begins. -/
theorem Execution.sequence {may : (request : Req) → Ans request → Prop}
    {first : Program S E F Req Ans α} {following : α → Program S E F Req Ans β}
    {memory middle final : S} {earlier later : List (Event S Req Ans)} {value : α}
    {outcome : Outcome E F β} (begins : Execution may first memory earlier (.returned value) middle)
    (rest : Execution may (following value) middle later outcome final) :
    Execution may (Program.sequence first following) memory (earlier ++ later) outcome final := by
  generalize ended : Outcome.returned value = reached at begins
  induction begins with
  | done value memory =>
    obtain rfl := Outcome.returned.inj ended
    exact rest
  | failing | faulting | stalled | unanswered => exact absurd ended (by simp)
  | loading begins inductionHypothesis => exact .loading (inductionHypothesis rest ended)
  | storing begins inductionHypothesis => exact .storing (inductionHypothesis rest ended)
  | answered answer allowed begins inductionHypothesis =>
    exact .answered answer allowed (inductionHypothesis rest ended)

/-- A value that is returned is observed as one. The memory and the events are those of the
execution. -/
theorem Execution.attempt {may : (request : Req) → Ans request → Prop}
    {program : Program S E F Req Ans α} {memory final : S} {events : List (Event S Req Ans)}
    {value : α} (executed : Execution may program memory events (.returned value) final) :
    Execution may (Program.attempt program) memory events (.returned (.ok value)) final := by
  have observed : (Program.attempt program).wp may
      (Execution may (Program.attempt program) memory) memory := wp_executes _ memory
  rw [wp_attempt] at observed
  exact (wp_iff _ _ _).mp observed _ _ _ executed

section Simulation

variable {may : (request : Req) → Ans request → Prop}
  {may' : (request : Req') → Ans' request → Prop} {ready : S → Req → Prop}
  {carries : (memory : S) → (request : Req) → Option (Ans request) →
    List (Event S Req' Ans') → Prop}
  {implement : (request : Req) → Program S E F Req' Ans' (Ans request)}

/-- The end of a program that works an answer out: it leaves the memory alone and has the
answer, which the request can get, or it is not done yet. -/
def WorksOut (may : (request : Req) → Ans request → Prop)
    (carries : (memory : S) → (request : Req) → Option (Ans request) →
      List (Event S Req' Ans') → Prop) (memory : S) (request : Req)
    (events : List (Event S Req' Ans')) (outcome : Outcome E F (Ans request)) (final : S) : Prop :=
  match outcome with
  | .returned answer => final = memory ∧ may request answer ∧
      carries memory request (some answer) events
  | .waiting => final = memory ∧ carries memory request none events
  | _ => False

/-- What holds of every execution of a program holds of its translation, by induction on the
program. -/
theorem wp_translate
    (works : ∀ memory request, ready memory request →
      (implement request).wp may' (WorksOut may carries memory request) memory)
    {program : Program S E F Req Ans α} {memory : S} (poses : Poses may ready program memory)
    {post : List (Event S Req Ans) → Outcome E F α → S → Prop}
    (holds : program.wp may post memory) :
    (translate implement program).wp may' (fun below outcome final =>
      ∃ above, post above outcome final ∧ Expands carries (outcome = .waiting) above below)
      memory := by
  induction program generalizing memory post with
  | done | failing | faulting | stalled => exact ⟨[], holds, .nil⟩
  | loading next inductionHypothesis => exact inductionHypothesis memory poses holds
  | storing written next inductionHypothesis => exact inductionHypothesis poses holds
  | asking request next inductionHypothesis =>
    obtain ⟨asked, continues⟩ := poses
    refine wp_after (works memory request asked) ?_ (fun _ _ _ ended => ended.elim)
      (fun _ _ _ ended => ended.elim) ?_
    · rintro worked answer final ⟨rfl, allowed, carried⟩
      apply wp_mono
        (inductionHypothesis answer (continues answer allowed) (holds.2 answer allowed))
      rintro below outcome final ⟨above, held, expands⟩
      exact ⟨_, held, .cons carried expands⟩
    · rintro begun final ⟨rfl, carried⟩
      exact ⟨[], holds.1, .unanswered rfl carried⟩

/-- Every execution of a translation is an execution of the program. The events above are read
off the events below by what each program for a request carries out. -/
theorem translate_executes
    (works : ∀ memory request, ready memory request →
      (implement request).wp may' (WorksOut may carries memory request) memory)
    {program : Program S E F Req Ans α} {memory final : S} {below : List (Event S Req' Ans')}
    {outcome : Outcome E F α} (poses : Poses may ready program memory)
    (executed : Execution may' (translate implement program) memory below outcome final) :
    ∃ above, Execution may program memory above outcome final ∧
      Expands carries (outcome = .waiting) above below :=
  (wp_iff _ _ _).mp (wp_translate works poses (wp_executes program memory)) _ _ _ executed

/-- Every finished execution of a program is one of its translation, when the programs for the
requests can work out every answer. -/
theorem translate_realises
    (realises : ∀ memory request answer, ready memory request → may request answer →
      ∃ calls, Execution may' (implement request) memory calls (.returned answer) memory ∧
        carries memory request (some answer) calls)
    {program : Program S E F Req Ans α} {memory final : S} {above : List (Event S Req Ans)}
    {outcome : Outcome E F α} (poses : Poses may ready program memory)
    (executed : Execution may program memory above outcome final) (ended : outcome ≠ .waiting) :
    ∃ below, Execution may' (translate implement program) memory below outcome final ∧
      Expands carries (outcome = .waiting) above below := by
  induction executed with
  | done value memory => exact ⟨[], .done value memory, .nil⟩
  | failing error memory => exact ⟨[], .failing error memory, .nil⟩
  | faulting fault memory => exact ⟨[], .faulting fault memory, .nil⟩
  | stalled | unanswered => exact absurd rfl ended
  | loading rest inductionHypothesis =>
    obtain ⟨below, executed, expands⟩ := inductionHypothesis poses ended
    exact ⟨below, .loading executed, expands⟩
  | storing rest inductionHypothesis =>
    obtain ⟨below, executed, expands⟩ := inductionHypothesis poses ended
    exact ⟨below, .storing executed, expands⟩
  | answered answer allowed rest inductionHypothesis =>
    obtain ⟨asked, continues⟩ := poses
    obtain ⟨below, executed, expands⟩ := inductionHypothesis (continues answer allowed) ended
    obtain ⟨calls, worked, carried⟩ := realises _ _ answer asked allowed
    exact ⟨calls ++ below, worked.sequence executed, .cons carried expands⟩

end Simulation

/-- A program on a memory of its own has the executions of the program. The events show the
memory that it runs beside. -/
theorem wp_isolate {may : (request : Req) → Ans request → Prop}
    (program : Program T E Empty Req Ans α) (own : T) (memory : S)
    (post : List (Event S Req Ans) → Outcome E' F (Except E α × T) → S → Prop) :
    (isolate program own : Program S E' F Req Ans (Except E α × T)).wp may post memory ↔
      program.wp may (fun events outcome final =>
        let beside := events.map (fun event => ⟨memory, event.request, event.answer⟩)
        match outcome with
        | .returned value => post beside (.returned (.ok value, final)) memory
        | .failed error => post beside (.returned (.error error, final)) memory
        | .waiting => post beside .waiting memory) own := by
  induction program generalizing own post with
  | done | failing | stalled => exact Iff.rfl
  | faulting fault => exact fault.elim
  | loading next inductionHypothesis => exact inductionHypothesis own own post
  | storing written next inductionHypothesis => exact inductionHypothesis written post
  | asking request next inductionHypothesis =>
    exact and_congr Iff.rfl (forall_congr' (fun answer => imp_congr Iff.rfl
      (inductionHypothesis answer own _)))

/-- What is handed over of an outcome, with the memory. A wait remains a wait. -/
def Outcome.handed (final : T) : Outcome E Empty α → Outcome E' F (Except E α × T)
  | returned value => .returned (.ok value, final)
  | failed error => .returned (.error error, final)
  | faulted fault => fault.elim
  | waiting => .waiting

/-- An execution of a program is one of the program on a memory of its own. Its errors become
values, and the other memory stays as it was. -/
theorem Execution.isolate {may : (request : Req) → Ans request → Prop}
    {program : Program T E Empty Req Ans α} {own final : T} {events : List (Event T Req Ans)}
    {outcome : Outcome E Empty α} (executed : Execution may program own events outcome final)
    (memory : S) :
    Execution may (Program.isolate program own : Program S E' F Req Ans (Except E α × T)) memory
      (events.map (fun event => ⟨memory, event.request, event.answer⟩)) (outcome.handed final)
      memory := by
  induction executed with
  | done | failing => exact .done _ memory
  | faulting fault => exact fault.elim
  | stalled => exact .stalled memory
  | unanswered => exact .unanswered memory
  | loading rest inductionHypothesis | storing rest inductionHypothesis =>
    exact inductionHypothesis
  | answered answer allowed rest inductionHypothesis =>
    exact .answered answer allowed inductionHypothesis

/-- A program on a memory of its own is shadowed as the program is. The shadow does not look at
the memory, so it cannot tell where the program keeps its own. -/
theorem Shadows.isolate {M : Type} {may : (request : Req) → Ans request → Prop}
    {step : M → (request : Req) → Ans request → Option M} {tolerated : F → Prop} {state : M}
    {program : Program T E Empty Req Ans α} {own : T} {passed : α → M → T → Prop}
    {settled : E → M → T → Prop} {settled' : E' → M → S → Prop} (memory : S)
    (shadows : Shadows may (.blind step) (fun _ => True) state program own passed settled) :
    Shadows may (.blind step) tolerated state
      (Program.isolate program own : Program S E' F Req Ans (Except E α × T)) memory
      (fun result reached final => final = memory ∧
        match result with
        | (.ok value, left) => passed value reached left
        | (.error error, left) => settled error reached left) settled' := by
  -- The shadow does not see whose memory the events show.
  have blind (events : List (Event T Req Ans)) (state : M) :
      (Shadow.blind step).after state
          (events.map (fun event => (⟨memory, event.request, event.answer⟩ : Event S Req Ans))) =
        (Shadow.blind step).after state events := by
    induction events generalizing state with
    | nil => rfl
    | cons event events inductionHypothesis =>
      simp only [List.map_cons, Shadow.after, inductionHypothesis, Shadow.blind]
  unfold Shadows
  rw [wp_isolate]
  apply wp_mono shadows
  rintro events outcome final ⟨reached, stepped, ended⟩
  rw [← blind] at stepped
  cases outcome with
  | returned | failed => exact ⟨reached, stepped, rfl, ended⟩
  | faulted fault => exact fault.elim
  | waiting => exact ⟨reached, stepped, trivial⟩

/-- What a program shadowed above asks for is shadowed below, when the program for each request
steps the shadow below as the answer steps the one above. A request needs that only in a state
in which every answer it can get has its step. -/
theorem Shadows.translate {M : Type} {may : (request : Req) → Ans request → Prop}
    {may' : (request : Req') → Ans' request → Prop}
    {implement : (request : Req) → Program S E F Req' Ans' (Ans request)}
    {above : Shadow S Req Ans M} {below : Shadow S Req' Ans' M} {tolerated : F → Prop}
    (works : ∀ state memory request,
      (∀ answer, may request answer → (above state ⟨memory, request, answer⟩).isSome) →
        Shadows may' below tolerated state (implement request) memory
          (fun answer reached final => final = memory ∧ may request answer ∧
            above state ⟨memory, request, answer⟩ = some reached) (fun _ _ _ => False))
    {state : M} {program : Program S E F Req Ans α} {memory : S} {passed : α → M → S → Prop}
    {settled : E → M → S → Prop}
    (shadows : Shadows may above tolerated state program memory passed settled) :
    Shadows may' below tolerated state (translate implement program) memory passed settled := by
  induction program generalizing state memory with
  | done | failing | faulting | stalled =>
    obtain ⟨reached, stepped, ended⟩ := shadows
    exact ⟨reached, stepped, ended⟩
  | loading next inductionHypothesis => exact inductionHypothesis memory shadows
  | storing written next inductionHypothesis => exact inductionHypothesis shadows
  | asking request next inductionHypothesis =>
    obtain ⟨-, answered⟩ := shadows
    -- Whatever the answer, the continuation has an execution, so the answer has its step.
    have stepping (answer : Ans request) (allowed : may request answer) :
        (above state ⟨memory, request, answer⟩).isSome := by
      obtain ⟨events, outcome, final, executed⟩ := exists_execution may (next answer) memory
      obtain ⟨reached, stepped, -⟩ := (wp_iff _ _ _).mp (answered answer allowed) _ _ _ executed
      obtain ⟨middle, taken, -⟩ := Option.bind_eq_some_iff.mp stepped
      rw [taken]
      rfl
    refine Shadows.through (fun answer reached final => final = memory ∧
      may request answer ∧ above state ⟨memory, request, answer⟩ = some reached) ?_ ?_
    · exact (works state memory request stepping).weaken (fun _ _ _ held => held)
        (fun _ _ _ impossible => impossible.elim)
    · rintro answer reached final ⟨rfl, allowed, taken⟩
      apply inductionHypothesis answer
      apply wp_mono (answered answer allowed)
      rintro events outcome final ⟨last, stepped, ended⟩
      refine ⟨last, ?_, ended⟩
      rw [Shadow.after, taken] at stepped
      exact stepped

end Interaction
