import OpenVnc.Interaction.Program

/-!
# Executions under every environment, and weakest preconditions

An execution is one path through a program's tree: the requests asked, each with
the memory at that moment and the answer given, then the outcome and the final
memory. The environment is any behaviour whatever within `may`, which says for
each request the answers it can get; an environment may also never answer. A
statement about all executions is a statement about every environment, whatever
it remembers and however it decides.

`wp` computes the condition under which all executions satisfy a postcondition
by recursion on the program, so that a proof follows the program's own shape. `Keeps`,
`Maintains` and `Establishes` are three kinds of postcondition with rules of their own.
-/

namespace Interaction

/-- One answered request, with the memory when it was asked. The memory is kept so that an
invariant can speak of the moment at which something was asked, not only of the ends. -/
structure Event (S Req : Type) (Ans : Req → Type) where
  memory : S
  request : Req
  answer : Ans request

variable {S E F Req : Type} {Ans : Req → Type} {α β : Type}

/-- An execution of a program from a memory: its events in order, its outcome and
the memory it leaves. -/
inductive Execution (may : (request : Req) → Ans request → Prop) :
    Program S E F Req Ans α → S → List (Event S Req Ans) → Outcome E F α → S → Prop where
  | done (value : α) (memory : S) :
      Execution may (.done value) memory [] (.returned value) memory
  | failing (error : E) (memory : S) :
      Execution may (.failing error) memory [] (.failed error) memory
  | faulting (fault : F) (memory : S) :
      Execution may (.faulting fault) memory [] (.faulted fault) memory
  | stalled (memory : S) : Execution may .stalled memory [] .waiting memory
  | loading {next memory events outcome final}
      (rest : Execution may (next memory) memory events outcome final) :
      Execution may (.loading next) memory events outcome final
  | storing {written next memory events outcome final}
      (rest : Execution may next written events outcome final) :
      Execution may (.storing written next) memory events outcome final
  | unanswered {request next} (memory : S) :
      Execution may (.asking request next) memory [] .waiting memory
  | answered {request next memory events outcome final} (answer : Ans request)
      (allowed : may request answer)
      (rest : Execution may (next answer) memory events outcome final) :
      Execution may (.asking request next) memory
        (⟨memory, request, answer⟩ :: events) outcome final

/-- Every answer of an execution is one that the environment may give. What is assumed of the
environment can be read off the events afterwards. -/
theorem Execution.within {may : (request : Req) → Ans request → Prop}
    {program : Program S E F Req Ans α} {memory final : S} {events : List (Event S Req Ans)}
    {outcome : Outcome E F α} (execution : Execution may program memory events outcome final) :
    ∀ event ∈ events, may event.request event.answer := by
  induction execution with
  | done | failing | faulting | stalled | unanswered => exact nofun
  | loading rest inductionHypothesis | storing rest inductionHypothesis =>
    exact inductionHypothesis
  | answered answer allowed rest inductionHypothesis =>
    intro event member
    rcases List.mem_cons.mp member with rfl | later
    · exact allowed
    · exact inductionHypothesis event later

/-- An execution against one environment is one against every less restricted environment. Facts
about a restricted environment are therefore the stronger premises, and executions the weaker
ones. -/
theorem Execution.weaken {may may' : (request : Req) → Ans request → Prop}
    (weaker : ∀ request answer, may request answer → may' request answer)
    {program : Program S E F Req Ans α} {memory final : S} {events : List (Event S Req Ans)}
    {outcome : Outcome E F α} (execution : Execution may program memory events outcome final) :
    Execution may' program memory events outcome final := by
  induction execution with
  | done => exact .done _ _
  | failing => exact .failing _ _
  | faulting => exact .faulting _ _
  | stalled => exact .stalled _
  | unanswered => exact .unanswered _
  | loading rest inductionHypothesis => exact .loading inductionHypothesis
  | storing rest inductionHypothesis => exact .storing inductionHypothesis
  | answered answer allowed rest inductionHypothesis =>
    exact .answered answer (weaker _ _ allowed) inductionHypothesis

namespace Program

variable (may : (request : Req) → Ans request → Prop)

/-- The weakest condition on the initial memory under which every execution ends
in the postcondition. -/
def wp : Program S E F Req Ans α →
    (List (Event S Req Ans) → Outcome E F α → S → Prop) → S → Prop
  | done value, post, memory => post [] (.returned value) memory
  | failing error, post, memory => post [] (.failed error) memory
  | faulting fault, post, memory => post [] (.faulted fault) memory
  | stalled, post, memory => post [] .waiting memory
  | loading next, post, memory => wp (next memory) post memory
  | storing written next, post, _ => wp next post written
  | asking request next, post, memory =>
      post [] .waiting memory ∧ ∀ answer, may request answer →
        wp (next answer) (fun events => post (⟨memory, request, answer⟩ :: events)) memory

variable {may}

/-- The weakest precondition is exactly the statement about all executions. The rules below
compute the first, and the second is what a reader wants to know. -/
theorem wp_iff (program : Program S E F Req Ans α)
    (post : List (Event S Req Ans) → Outcome E F α → S → Prop) (memory : S) :
    program.wp may post memory ↔ ∀ events outcome final,
      Execution may program memory events outcome final → post events outcome final := by
  constructor
  · intro holds events outcome final execution
    induction execution generalizing post with
    | done | failing | faulting | stalled => exact holds
    | loading rest inductionHypothesis => exact inductionHypothesis post holds
    | storing rest inductionHypothesis => exact inductionHypothesis post holds
    | unanswered => exact holds.1
    | answered answer allowed rest inductionHypothesis =>
      exact inductionHypothesis _ (holds.2 answer allowed)
  · intro all
    induction program generalizing post memory with
    | done value => exact all _ _ _ (.done value memory)
    | failing error => exact all _ _ _ (.failing error memory)
    | faulting fault => exact all _ _ _ (.faulting fault memory)
    | stalled => exact all _ _ _ (.stalled memory)
    | loading next inductionHypothesis =>
      exact inductionHypothesis memory post memory (fun events outcome final execution =>
        all events outcome final (.loading execution))
    | storing written next inductionHypothesis =>
      exact inductionHypothesis post written (fun events outcome final execution =>
        all events outcome final (.storing execution))
    | asking request next inductionHypothesis =>
      refine ⟨all _ _ _ (.unanswered memory), ?_⟩
      intro answer allowed
      exact inductionHypothesis answer _ memory (fun events outcome final execution =>
        all _ outcome final (.answered answer allowed execution))

/-- Every execution is one of the program's executions. The postcondition that says no more than
this is the strongest one. -/
theorem wp_executes (program : Program S E F Req Ans α) (memory : S) :
    program.wp may (Execution may program memory) memory :=
  (wp_iff program _ memory).mpr (fun _ _ _ execution => execution)

/-- A postcondition that always holds. It serves where a case of a larger argument has become
irrelevant. -/
theorem wp_always {program : Program S E F Req Ans α}
    {post : List (Event S Req Ans) → Outcome E F α → S → Prop} {memory : S}
    (always : ∀ events outcome final, post events outcome final) : program.wp may post memory :=
  (wp_iff program post memory).mpr (fun events outcome final _ => always events outcome final)

/-- A stronger postcondition has a stronger precondition. Most specifications are derived from
one that says more than the caller needs. -/
theorem wp_mono {program : Program S E F Req Ans α}
    {post post' : List (Event S Req Ans) → Outcome E F α → S → Prop} {memory : S}
    (holds : program.wp may post memory)
    (weaker : ∀ events outcome final, post events outcome final → post' events outcome final) :
    program.wp may post' memory := by
  rw [wp_iff] at holds ⊢
  exact fun events outcome final execution =>
    weaker events outcome final (holds events outcome final execution)

/-- Two postconditions hold together. They may have been proved by different arguments about the
same program. -/
theorem wp_and {program : Program S E F Req Ans α}
    {left right : List (Event S Req Ans) → Outcome E F α → S → Prop} {memory : S}
    (first : program.wp may left memory) (second : program.wp may right memory) :
    program.wp may (fun events outcome final =>
      left events outcome final ∧ right events outcome final) memory := by
  rw [wp_iff] at first second ⊢
  exact fun events outcome final execution =>
    ⟨first events outcome final execution, second events outcome final execution⟩

/-- What holds of every environment holds of a more restricted one. This is the direction in
which an environment's guarantee is used. -/
theorem wp_restrict {may' : (request : Req) → Ans request → Prop}
    (within : ∀ request answer, may' request answer → may request answer)
    {program : Program S E F Req Ans α}
    {post : List (Event S Req Ans) → Outcome E F α → S → Prop} {memory : S}
    (holds : program.wp may post memory) : program.wp may' post memory :=
  (wp_iff program post memory).mpr (fun events outcome final executed =>
    (wp_iff program post memory).mp holds events outcome final (executed.weaken within))

variable (may) in
/-- What a postcondition on a whole asks of its first part: the rest is run on a
returned value, and any other outcome is the outcome of the whole. -/
def continuing (post : List (Event S Req Ans) → Outcome E F β → S → Prop)
    (following : α → Program S E F Req Ans β)
    (events : List (Event S Req Ans)) (outcome : Outcome E F α) (final : S) : Prop :=
  match outcome with
  | .returned value => (following value).wp may (fun later => post (events ++ later)) final
  | .failed error => post events (.failed error) final
  | .faulted fault => post events (.faulted fault) final
  | .waiting => post events .waiting final

section Continuing

variable (post : List (Event S Req Ans) → Outcome E F β → S → Prop)
  (following : α → Program S E F Req Ans β) (events : List (Event S Req Ans)) (final : S)

/-- After a return, what follows is run with the value, and its events come after those of the
first part. -/
@[simp] theorem continuing_returned (value : α) :
    continuing may post following events (.returned value) final ↔
      (following value).wp may (fun later => post (events ++ later)) final := Iff.rfl

/-- After an error, nothing follows: the postcondition is asked of the first part's own outcome.
-/
@[simp] theorem continuing_failed (error : E) :
    continuing may post following events (.failed error) final ↔
      post events (.failed error) final := Iff.rfl

/-- Nor does anything follow a fault of the first part, or change what it is. -/
@[simp] theorem continuing_faulted (reason : F) :
    continuing may post following events (.faulted reason) final ↔
      post events (.faulted reason) final := Iff.rfl

/-- Nor does anything follow a request of the first part that has not been answered. -/
@[simp] theorem continuing_waiting :
    continuing may post following events .waiting final ↔ post events .waiting final :=
  Iff.rfl

end Continuing

/-- The rule of sequencing. The second part is started in the memory that the first one left,
and its events come after. -/
@[simp] theorem wp_sequence (first : Program S E F Req Ans α)
    (following : α → Program S E F Req Ans β)
    (post : List (Event S Req Ans) → Outcome E F β → S → Prop) (memory : S) :
    (sequence first following).wp may post memory ↔
      first.wp may (continuing may post following) memory := by
  induction first generalizing post memory with
  | done | failing | faulting | stalled => exact Iff.rfl
  | loading next inductionHypothesis => exact inductionHypothesis memory post memory
  | storing written next inductionHypothesis => exact inductionHypothesis post written
  | asking request next inductionHypothesis =>
    refine and_congr Iff.rfl (forall_congr' fun answer => forall_congr' fun allowed => ?_)
    apply (inductionHypothesis answer _ memory).trans
    -- The event of the request comes first, whichever part the execution ends in.
    have same : continuing may (fun events => post (⟨memory, request, answer⟩ :: events))
        following = fun events => continuing may post following
          (⟨memory, request, answer⟩ :: events) := by
      funext events outcome final
      cases outcome <;> rfl
    rw [same]

/-- The rule for observing a result. A fault and a wait pass through, since there is no result
to observe in them. -/
@[simp] theorem wp_attempt (program : Program S E F Req Ans α)
    (post : List (Event S Req Ans) → Outcome E F (Except E α) → S → Prop) (memory : S) :
    (attempt program).wp may post memory ↔
      program.wp may (fun events outcome final =>
        match outcome with
        | .returned value => post events (.returned (.ok value)) final
        | .failed error => post events (.returned (.error error)) final
        | .faulted fault => post events (.faulted fault) final
        | .waiting => post events .waiting final) memory := by
  induction program generalizing post memory with
  | done | failing | faulting | stalled => exact Iff.rfl
  | loading next inductionHypothesis => exact inductionHypothesis memory post memory
  | storing written next inductionHypothesis => exact inductionHypothesis post written
  | asking request next inductionHypothesis =>
    exact and_congr Iff.rfl (forall_congr' fun answer => forall_congr' fun allowed =>
      inductionHypothesis answer _ memory)

/-! ## Rules for the basic programs -/

section Rules

variable (post : List (Event S Req Ans) → Outcome E F α → S → Prop) (memory : S)

/-- A finished program has asked for nothing and returns its value in the memory as it is. -/
@[simp] theorem wp_done (value : α) :
    (done value : Program S E F Req Ans α).wp may post memory ↔
      post [] (.returned value) memory := Iff.rfl

/-- A program that fails has asked for nothing and fails with its error in the memory as it is. -/
@[simp] theorem wp_fail (error : E) :
    (fail error : Program S E F Req Ans α).wp may post memory ↔
      post [] (.failed error) memory := Iff.rfl

/-- A program that faults does so before it asks for anything; the memory is the one it was
started in. -/
@[simp] theorem wp_fault (reason : F) :
    (fault reason : Program S E F Req Ans α).wp may post memory ↔
      post [] (.faulted reason) memory := Iff.rfl

/-- A program that is stalled waits for ever, and has asked for nothing. -/
@[simp] theorem wp_stalled :
    (stalled : Program S E F Req Ans α).wp may post memory ↔ post [] .waiting memory := Iff.rfl

/-- Loading returns the memory itself. -/
@[simp] theorem wp_load (post : List (Event S Req Ans) → Outcome E F S → S → Prop) :
    (load : Program S E F Req Ans S).wp may post memory ↔ post [] (.returned memory) memory :=
  Iff.rfl

/-- An update asks for nothing and returns in the changed memory. -/
@[simp] theorem wp_update (change : S → S)
    (post : List (Event S Req Ans) → Outcome E F Unit → S → Prop) :
    (update change : Program S E F Req Ans Unit).wp may post memory ↔
      post [] (.returned ()) (change memory) := Iff.rfl

/-- A request waits until it is answered. Every answer that the environment may give is one event,
and is what is returned. -/
@[simp] theorem wp_ask (request : Req)
    (post : List (Event S Req Ans) → Outcome E F (Ans request) → S → Prop) :
    (ask request : Program S E F Req Ans (Ans request)).wp may post memory ↔
      post [] .waiting memory ∧ ∀ answer, may request answer →
        post [⟨memory, request, answer⟩] (.returned answer) memory := Iff.rfl

/-- The rule for a choice. Each branch is entered with the knowledge of the condition. -/
theorem wp_ite (condition : Prop) [Decidable condition] (yes no : Program S E F Req Ans α) :
    (if condition then yes else no).wp may post memory ↔
      (condition → yes.wp may post memory) ∧ (¬ condition → no.wp may post memory) := by
  split
  · next holds => simp [holds]
  · next fails => simp [fails]

/-- The rule for a check that ends the program with an error when its condition holds. -/
@[simp] theorem wp_failIf (condition : Prop) [Decidable condition] (error : E)
    (post : List (Event S Req Ans) → Outcome E F Unit → S → Prop) :
    (failIf condition error : Program S E F Req Ans Unit).wp may post memory ↔
      (condition → post [] (.failed error) memory) ∧
        (¬ condition → post [] (.returned ()) memory) :=
  wp_ite post memory condition (failing error) (done ())

/-- The rule for a check on which the behaviour is undefined when its condition holds. -/
@[simp] theorem wp_faultIf (condition : Prop) [Decidable condition] (reason : F)
    (post : List (Event S Req Ans) → Outcome E F Unit → S → Prop) :
    (faultIf condition reason : Program S E F Req Ans Unit).wp may post memory ↔
      (condition → post [] (.faulted reason) memory) ∧
        (¬ condition → post [] (.returned ()) memory) :=
  wp_ite post memory condition (faulting reason) (done ())

/-- The rule for a part that runs under a condition only; without it nothing happens. -/
@[simp] theorem wp_onlyIf (condition : Prop) [Decidable condition]
    (body : Program S E F Req Ans Unit)
    (post : List (Event S Req Ans) → Outcome E F Unit → S → Prop) :
    (onlyIf condition body).wp may post memory ↔
      (condition → body.wp may post memory) ∧
        (¬ condition → post [] (.returned ()) memory) :=
  wp_ite post memory condition body (done ())

/-- Use a specification of the first part, one case for each of its outcomes. An error, a fault
and a wait of the first part end the whole with its own events. -/
theorem wp_after {first : Program S E F Req Ans β} {following : β → Program S E F Req Ans α}
    {middle : List (Event S Req Ans) → Outcome E F β → S → Prop}
    {post : List (Event S Req Ans) → Outcome E F α → S → Prop} {memory : S}
    (specified : first.wp may middle memory)
    (returned : ∀ events value final, middle events (.returned value) final →
      (following value).wp may (fun later => post (events ++ later)) final)
    (failed : ∀ events error final, middle events (.failed error) final →
      post events (.failed error) final)
    (faulted : ∀ events fault final, middle events (.faulted fault) final →
      post events (.faulted fault) final)
    (waiting : ∀ events final, middle events .waiting final → post events .waiting final) :
    (sequence first following).wp may post memory := by
  rw [wp_sequence]
  apply wp_mono specified
  intro events outcome final holds
  cases outcome with
  | returned value => exact returned events value final holds
  | failed error => exact failed events error final holds
  | faulted fault => exact faulted events fault final holds
  | waiting => exact waiting events final holds

/-- Use a specification of a part whose result is observed: an error continues as well. A fault
and a wait still end the whole. -/
theorem wp_after_attempt {first : Program S E F Req Ans β}
    {following : Except E β → Program S E F Req Ans α}
    {middle : List (Event S Req Ans) → Outcome E F β → S → Prop}
    {post : List (Event S Req Ans) → Outcome E F α → S → Prop} {memory : S}
    (specified : first.wp may middle memory)
    (returned : ∀ events value final, middle events (.returned value) final →
      (following (.ok value)).wp may (fun later => post (events ++ later)) final)
    (failed : ∀ events error final, middle events (.failed error) final →
      (following (.error error)).wp may (fun later => post (events ++ later)) final)
    (faulted : ∀ events fault final, middle events (.faulted fault) final →
      post events (.faulted fault) final)
    (waiting : ∀ events final, middle events .waiting final → post events .waiting final) :
    (sequence (attempt first) following).wp may post memory := by
  rw [wp_sequence, wp_attempt]
  apply wp_mono specified
  intro events outcome final holds
  cases outcome with
  | returned value => exact returned events value final holds
  | failed error => exact failed events error final holds
  | faulted fault => exact faulted events fault final holds
  | waiting => exact waiting events final holds

end Rules

end Program

/-! ## Parts of the memory that no step changes -/

/-- Whatever the environment answers, the part `view` of the memory is the same at
every request and at the end, every answered request is within `admitted`, and a
fault is one that `tolerated` accepts for that view. Results play no part, so the
rules need no case analysis. -/
def Keeps {V : Type} (may : (request : Req) → Ans request → Prop) (view : S → V)
    (admitted : Event S Req Ans → Prop) (tolerated : V → F → Prop)
    (program : Program S E F Req Ans α) : Prop :=
  ∀ memory, program.wp may (fun events outcome final => view final = view memory ∧
    (∀ event ∈ events, view event.memory = view memory ∧ admitted event) ∧
    ∀ fault, outcome = .faulted fault → tolerated (view memory) fault) memory

namespace Keeps

open Program

variable {V : Type} {may : (request : Req) → Ans request → Prop} {view : S → V}
  {admitted : Event S Req Ans → Prop} {tolerated : V → F → Prop}

/-- A value that is returned keeps every view of the memory. It asks for nothing either, so that
there is no event to be looked at. -/
theorem done (value : α) :
    Keeps may view admitted tolerated (Program.done value : Program S E F Req Ans α) :=
  fun _ => ⟨rfl, by simp, nofun⟩

/-- So does an error that is returned. -/
theorem fail (error : E) :
    Keeps may view admitted tolerated (Program.fail error : Program S E F Req Ans α) :=
  fun _ => ⟨rfl, by simp, nofun⟩

/-- An update keeps a view that does not see the change. It makes no event. -/
theorem update {change : S → S} (unchanged : ∀ memory, view (change memory) = view memory) :
    Keeps may view admitted tolerated (Program.update change : Program S E F Req Ans Unit) :=
  fun memory => ⟨unchanged memory, by simp, nofun⟩

/-- A request keeps every view. It has to be admitted in every memory and with every answer that
the environment may give. -/
theorem ask {request : Req}
    (within : ∀ memory answer, may request answer → admitted ⟨memory, request, answer⟩) :
    Keeps may view admitted tolerated
      (Program.ask request : Program S E F Req Ans (Ans request)) := by
  intro memory
  refine ⟨⟨rfl, by simp, nofun⟩, fun answer allowed => ⟨rfl, ?_, nofun⟩⟩
  simpa using within memory answer allowed

/-- Two parts that keep a view keep it one after the other: the second part starts from a memory
with the same view. -/
theorem sequence {first : Program S E F Req Ans α} {following : α → Program S E F Req Ans β}
    (begins : Keeps may view admitted tolerated first)
    (continues : ∀ value, Keeps may view admitted tolerated (following value)) :
    Keeps may view admitted tolerated (Program.sequence first following) := by
  intro memory
  refine wp_after (begins memory) ?_ (fun _ _ _ held => ⟨held.1, held.2.1, nofun⟩) ?_
    (fun _ _ held => ⟨held.1, held.2.1, nofun⟩)
  · rintro events value middle ⟨before, within, -⟩
    apply wp_mono (continues value middle)
    rintro later outcome final ⟨same, after, accepted⟩
    refine ⟨same.trans before, ?_, fun fault faulted => before ▸ accepted fault faulted⟩
    intro event member
    rcases List.mem_append.mp member with earlier | last
    · exact within event earlier
    · exact ⟨(after event last).1.trans before, (after event last).2⟩
  · rintro events fault final ⟨same, within, accepted⟩
    refine ⟨same, within, fun reason faulted => ?_⟩
    obtain rfl : fault = reason := by simpa using faulted
    exact accepted fault rfl

/-- What is kept by the continuation of every memory is kept after loading. Loading itself makes
no event. -/
theorem load {following : S → Program S E F Req Ans α}
    (continues : ∀ memory, Keeps may view admitted tolerated (following memory)) :
    Keeps may view admitted tolerated (Program.sequence Program.load following) :=
  fun memory => continues memory memory

/-- A choice keeps what both branches keep. Each branch may use which way the choice went. -/
theorem ite {condition : Prop} [Decidable condition] {yes no : Program S E F Req Ans α}
    (left : condition → Keeps may view admitted tolerated yes)
    (right : ¬ condition → Keeps may view admitted tolerated no) :
    Keeps may view admitted tolerated (if condition then yes else no) := by
  split
  · exact left ‹_›
  · exact right ‹_›

/-- A check that may end the program with an error keeps every view. -/
theorem failIf (condition : Prop) [Decidable condition] (error : E) :
    Keeps may view admitted tolerated
      (Program.failIf condition error : Program S E F Req Ans Unit) :=
  ite (fun _ => fail error) (fun _ => done ())

/-- A check on which the behaviour may be undefined keeps every view, when its fault is tolerated.
-/
theorem faultIf (condition : Prop) [Decidable condition] {reason : F}
    (accepted : ∀ seen, tolerated seen reason) :
    Keeps may view admitted tolerated
      (Program.faultIf condition reason : Program S E F Req Ans Unit) := by
  refine ite (fun _ memory => ⟨rfl, by simp, fun fault faulted => ?_⟩) (fun _ => done ())
  obtain rfl : reason = fault := by simpa using faulted
  exact accepted (view memory)

/-- A part that runs under a condition keeps what it keeps when it runs. -/
theorem onlyIf {condition : Prop} [Decidable condition] {body : Program S E F Req Ans Unit}
    (kept : condition → Keeps may view admitted tolerated body) :
    Keeps may view admitted tolerated (Program.onlyIf condition body) :=
  ite kept (fun _ => done ())

/-- Observing an error as a value changes neither the events nor the memory. Faults are the
same, too. -/
theorem attempt {program : Program S E F Req Ans α}
    (kept : Keeps may view admitted tolerated program) :
    Keeps may view admitted tolerated (Program.attempt program) := by
  intro memory
  rw [wp_attempt]
  apply wp_mono (kept memory)
  intro events outcome final held
  cases outcome with
  | faulted fault =>
    refine ⟨held.1, held.2.1, fun reason faulted => ?_⟩
    obtain rfl : fault = reason := by simpa using faulted
    exact held.2.2 fault rfl
  | _ => exact ⟨held.1, held.2.1, nofun⟩

end Keeps

/-! ## Invariants that hold whenever a program ends -/

/-- The postcondition of an invariant: it holds when the program has returned or
failed, only tolerated faults occur, and nothing is said while it is running. -/
def Settled (tolerated : F → Prop) (holds : S → Prop) :
    List (Event S Req Ans) → Outcome E F α → S → Prop :=
  fun _ outcome final =>
    match outcome with
    | .returned _ => holds final
    | .failed _ => holds final
    | .faulted reason => tolerated reason
    | .waiting => True

/-- A weaker invariant is settled as well. Faults are tolerated as before. -/
theorem Settled.weaken {tolerated : F → Prop} {holds weaker : S → Prop}
    {events : List (Event S Req Ans)} {outcome : Outcome E F α} {final : S}
    (settled : Settled tolerated holds events outcome final)
    (follows : ∀ memory, holds memory → weaker memory) :
    Settled tolerated weaker events outcome final := by
  cases outcome with
  | returned => exact follows final settled
  | failed => exact follows final settled
  | faulted => exact settled
  | waiting => trivial

/-- Started where the invariant holds, the program ends where it holds. Events are not
restricted, and what holds on the way is not said. -/
def Maintains (may : (request : Req) → Ans request → Prop) (tolerated : F → Prop)
    (holds : S → Prop) (program : Program S E F Req Ans α) : Prop :=
  ∀ memory, holds memory → program.wp may (Settled tolerated holds) memory

namespace Maintains

open Program

variable {may : (request : Req) → Ans request → Prop} {tolerated : F → Prop} {holds : S → Prop}

/-- A condition that holds still holds when nothing is done. -/
theorem done (value : α) :
    Maintains may tolerated holds (Program.done value : Program S E F Req Ans α) :=
  fun _ held => held

/-- It holds as well when the program ends with an error before it does anything. -/
theorem fail (error : E) :
    Maintains may tolerated holds (Program.fail error : Program S E F Req Ans α) :=
  fun _ held => held

/-- Of a program that waits for ever nothing is asked. -/
theorem stalled :
    Maintains may tolerated holds (Program.stalled : Program S E F Req Ans α) :=
  fun _ _ => trivial

/-- A fault has to be a tolerated one; of the memory it leaves nothing is asked. -/
theorem fault {reason : F} (accepted : tolerated reason) :
    Maintains may tolerated holds (Program.fault reason : Program S E F Req Ans α) :=
  fun _ _ => accepted

/-- An update maintains a condition that the change preserves. -/
theorem update {change : S → S} (kept : ∀ memory, holds memory → holds (change memory)) :
    Maintains may tolerated holds (Program.update change : Program S E F Req Ans Unit) :=
  fun memory held => kept memory held

/-- Where every fault is tolerated, a condition without content is kept. -/
theorem trivially (program : Program S E F Req Ans α) :
    Maintains may (fun _ => True) (fun _ => True) program := by
  intro memory _
  apply wp_always
  intro events outcome final
  cases outcome <;> trivial

/-- A request changes nothing in the memory, so it maintains every condition. -/
theorem ask (request : Req) :
    Maintains may tolerated holds (Program.ask request : Program S E F Req Ans (Ans request)) :=
  fun _ held => ⟨trivial, fun _ _ => held⟩

/-- Sequencing from a given memory, through a stronger condition in the middle. The first part
may promise more than the whole does, and what follows may rely on that. -/
theorem wp_through {stronger : S → Prop} {first : Program S E F Req Ans α}
    {following : α → Program S E F Req Ans β} {memory : S}
    (begins : first.wp may (Settled tolerated stronger) memory)
    (weaker : ∀ memory, stronger memory → holds memory)
    (continues : ∀ value memory, stronger memory →
      (following value).wp may (Settled tolerated holds) memory) :
    (Program.sequence first following).wp may (Settled tolerated holds) memory :=
  wp_after begins (fun _ value final held => continues value final held)
    (fun _ _ final held => weaker final held) (fun _ _ _ held => held) (fun _ _ held => held)

/-- Sequencing from a given memory, when only the continuation is an invariant's. -/
theorem wp_sequence {first : Program S E F Req Ans α} {following : α → Program S E F Req Ans β}
    {memory : S} (begins : first.wp may (Settled tolerated holds) memory)
    (continues : ∀ value, Maintains may tolerated holds (following value)) :
    (Program.sequence first following).wp may (Settled tolerated holds) memory :=
  wp_through begins (fun _ held => held) continues

/-- Two parts that maintain a condition maintain it one after the other. A rule for every
construct follows, so that a traversal of a program is one of its text. -/
theorem sequence {first : Program S E F Req Ans α} {following : α → Program S E F Req Ans β}
    (begins : Maintains may tolerated holds first)
    (continues : ∀ value, Maintains may tolerated holds (following value)) :
    Maintains may tolerated holds (Program.sequence first following) :=
  fun memory held => wp_sequence (begins memory held) continues

/-- After loading, the continuation has to maintain the condition for the memory that was loaded,
in which it holds. -/
theorem load {following : S → Program S E F Req Ans α}
    (continues : ∀ memory, holds memory →
      (following memory).wp may (Settled tolerated holds) memory) :
    Maintains may tolerated holds (Program.sequence Program.load following) :=
  fun memory held => continues memory held

/-- A choice maintains what both branches maintain. Each branch may use which way the choice went.
-/
theorem ite {condition : Prop} [Decidable condition] {yes no : Program S E F Req Ans α}
    (left : condition → Maintains may tolerated holds yes)
    (right : ¬ condition → Maintains may tolerated holds no) :
    Maintains may tolerated holds (if condition then yes else no) := by
  split
  · exact left ‹_›
  · exact right ‹_›

/-- A check that may end the program with an error maintains every condition. -/
theorem failIf (condition : Prop) [Decidable condition] (error : E) :
    Maintains may tolerated holds
      (Program.failIf condition error : Program S E F Req Ans Unit) :=
  ite (fun _ => fail error) (fun _ => done ())

/-- A check on which the behaviour may be undefined maintains every condition, when its fault is
tolerated wherever its condition holds. -/
theorem faultIf {condition : Prop} [Decidable condition] {reason : F}
    (accepted : condition → tolerated reason) :
    Maintains may tolerated holds
      (Program.faultIf condition reason : Program S E F Req Ans Unit) :=
  ite (fun holds => fault (accepted holds)) (fun _ => done ())

/-- A part that runs under a condition maintains what it maintains when it runs. -/
theorem onlyIf {condition : Prop} [Decidable condition] {body : Program S E F Req Ans Unit}
    (kept : condition → Maintains may tolerated holds body) :
    Maintains may tolerated holds (Program.onlyIf condition body) :=
  ite kept (fun _ => done ())

/-- Observing an error as a value maintains what the observed program does. -/
theorem attempt {program : Program S E F Req Ans α}
    (kept : Maintains may tolerated holds program) :
    Maintains may tolerated holds (Program.attempt program) := by
  intro memory held
  rw [wp_attempt]
  apply wp_mono (kept memory held)
  intro events outcome final settled
  cases outcome <;> exact settled

/-- A condition on a part that is kept. The condition may be any that the view decides. -/
theorem of_keeps {V : Type} {view : S → V} {admitted : Event S Req Ans → Prop}
    {accepted : V → F → Prop} {program : Program S E F Req Ans α}
    (keeps : Keeps may view admitted accepted program)
    (seen : ∀ memory final, view final = view memory → holds memory → holds final)
    (tolerable : ∀ seen fault, accepted seen fault → tolerated fault) :
    Maintains may tolerated holds program := by
  intro memory held
  apply wp_mono (keeps memory)
  rintro events outcome final ⟨same, -, faults⟩
  cases outcome with
  | returned => exact seen memory final same held
  | failed => exact seen memory final same held
  | faulted fault => exact tolerable _ fault (faults fault rfl)
  | waiting => trivial

end Maintains

/-! ## Conditions that a return establishes -/

/-- The postcondition of a program that makes a condition true when it returns. Unlike an
invariant, it need not hold before, nor when the program fails. -/
def Established (tolerated : F → Prop) (holds : S → Prop) :
    List (Event S Req Ans) → Outcome E F α → S → Prop :=
  fun _ outcome final =>
    match outcome with
    | .returned _ => holds final
    | .failed _ => True
    | .faulted reason => tolerated reason
    | .waiting => True

section Postconditions

variable {tolerated : F → Prop} {holds weaker : S → Prop} {events : List (Event S Req Ans)}
  {outcome : Outcome E F α} {final : S}

/-- What holds however a program ends holds when it returns. -/
theorem Settled.established (settled : Settled tolerated holds events outcome final) :
    Established tolerated holds events outcome final := by
  cases outcome with
  | returned | faulted => exact settled
  | failed | waiting => trivial

/-- A weaker condition is established as well. -/
theorem Established.weaken (established : Established tolerated holds events outcome final)
    (follows : ∀ memory, holds memory → weaker memory) :
    Established tolerated weaker events outcome final := by
  cases outcome with
  | returned => exact follows final established
  | faulted => exact established
  | failed | waiting => trivial

end Postconditions

/-- Whatever it starts from, the condition holds when the program returns. -/
def Establishes (may : (request : Req) → Ans request → Prop) (tolerated : F → Prop)
    (holds : S → Prop) (program : Program S E F Req Ans α) : Prop :=
  ∀ memory, program.wp may (Established tolerated holds) memory

namespace Establishes

open Program

variable {may : (request : Req) → Ans request → Prop} {tolerated : F → Prop} {holds : S → Prop}

/-- It is enough that the last part establishes the condition. -/
theorem after {first : Program S E F Req Ans α} {following : α → Program S E F Req Ans β}
    (harmless : Maintains may tolerated (fun _ => True) first)
    (last : ∀ value, Establishes may tolerated holds (following value)) :
    Establishes may tolerated holds (Program.sequence first following) := by
  intro memory
  exact wp_after (harmless memory trivial) (fun _ value final _ => last value final)
    (fun _ _ _ _ => trivial) (fun _ _ _ accepted => accepted) (fun _ _ _ => trivial)

/-- What a first part establishes, an invariant's continuation keeps. -/
theorem maintained {first : Program S E F Req Ans α} {following : α → Program S E F Req Ans β}
    (begins : Establishes may tolerated holds first)
    (continues : ∀ value, Maintains may tolerated holds (following value)) :
    Establishes may tolerated holds (Program.sequence first following) := by
  intro memory
  refine wp_after (begins memory) (fun _ value final held => ?_)
    (fun _ _ _ _ => trivial) (fun _ _ _ accepted => accepted) (fun _ _ _ => trivial)
  exact wp_mono (continues value final held) (fun _ _ _ settled => settled.established)

end Establishes

end Interaction
