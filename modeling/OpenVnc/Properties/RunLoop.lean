import OpenVnc.Calls
import OpenVnc.Endings

/-!
# The message loop and single messages

`ovnc_client_run` has its own copy of what `ovnc_client_process_message` does with a
message that could not be processed. Against every environment it does the same as a loop
that calls the other function while the client is connected, request by request. On a
stream that comes to an end both loops return: every message takes at least a byte, and a
bound above the number of the bytes is enough. They return without an error exactly when
the application disconnected in a callback.
-/

namespace OpenVnc

open Interaction Interaction.Program

/-- A loop that calls `ovnc_client_process_message` while the client is connected and ends
with the first error, for at most `bound` iterations. -/
def processLoop (word : WordSize) : Nat → Routine Unit
  | 0 => stalled
  | bound + 1 => do
    let memory ← load
    if clientIsConnected memory.client then do
      clientProcessMessage word
      processLoop word bound
    else return ()

/-! ## The two loops -/

section Loops

variable {W : Type} (handler : Handler Request Answer W)

/-- The guard of a connected client asks nothing and changes nothing. -/
theorem requireConnected_passes {α : Type} {following : Unit → Routine α} {memory : Memory}
    (connected : memory.client.state = .connected) (world : W) :
    (sequence requireConnected following).run handler memory world =
        (following ()).run handler memory world ∧
      (sequence requireConnected following).trace handler memory world =
        (following ()).trace handler memory world := by
  have passes : failIf (memory.client.state ≠ .connected) Error.invalidArg =
      (Program.done () : Routine Unit) := if_neg (fun idle => idle connected)
  constructor
  · change (sequence (failIf (memory.client.state ≠ .connected) _) following).run _ _ _ = _
    rw [passes]
    rfl
  · change (sequence (failIf (memory.client.state ≠ .connected) _) following).trace _ _ _ = _
    rw [passes]
    rfl

/-- What follows a failure is never reached. -/
theorem tearDown_sequence (error : Error) (following : Unit → Routine Unit) :
    sequence (tearDown error) following = tearDown error := by
  rw [tearDown, bind_eq, sequence_assoc]
  simp only [bind_eq, sequence_assoc]
  rfl

/-- One iteration of `ovnc_client_run`, with the rest of the loop after it. -/
def iteration (word : WordSize) (rest : Routine Unit) : Routine Unit := do
  let received ← attempt (recvServerMessage word)
  match received with
  | .ok () => rest
  | .error error => tearDown error

/-- A call of `ovnc_client_process_message` with the rest of a loop after it does the same:
the guard passes, and after a failure there is no rest. -/
theorem clientProcessMessage_iteration (word : WordSize) (rest : Routine Unit) :
    sequence (clientProcessMessage word) (fun _ => rest) =
      sequence requireConnected (fun _ => iteration word rest) := by
  rw [clientProcessMessage, bind_eq, sequence_assoc]
  congr 1
  funext passed
  rw [bind_eq, sequence_assoc, iteration, bind_eq]
  congr 1
  funext received
  cases received with
  | ok value => rfl
  | error error => exact tearDown_sequence error _

variable {memory : Memory} (world : W)

/-- While the client is connected, the loop of calls makes one more iteration, with the same
trace. -/
theorem processLoop_connected (word : WordSize) (bound : Nat)
    (connected : memory.client.state = .connected) :
    (processLoop word (bound + 1)).run handler memory world =
        (iteration word (processLoop word bound)).run handler memory world ∧
      (processLoop word (bound + 1)).trace handler memory world =
        (iteration word (processLoop word bound)).trace handler memory world := by
  have called : clientIsConnected memory.client = true := decide_eq_true connected
  obtain ⟨ran, traced⟩ := @requireConnected_passes _ handler _
    (fun _ => iteration word (processLoop word bound)) memory connected world
  rw [← clientProcessMessage_iteration] at ran traced
  constructor
  · rw [← ran, processLoop, bind_eq, run_load_then, if_pos called]
    rfl
  · rw [← traced, processLoop]
    change (if clientIsConnected memory.client then _ else _ : Routine Unit).trace _ _ _ = _
    rw [if_pos called]
    rfl

/-- While the client is connected, the loop of `ovnc_client_run` makes one more iteration as well.
-/
theorem runLoop_connected (word : WordSize) (bound : Nat)
    (connected : memory.client.state = .connected) :
    (runLoop word (bound + 1)).run handler memory world =
        (iteration word (runLoop word bound)).run handler memory world ∧
      (runLoop word (bound + 1)).trace handler memory world =
        (iteration word (runLoop word bound)).trace handler memory world := by
  constructor
  · rw [runLoop, bind_eq, run_load_then, if_pos connected]
    rfl
  · rw [runLoop]
    change (if memory.client.state = .connected then _ else _ : Routine Unit).trace _ _ _ = _
    rw [if_pos connected]
    rfl

/-- Both loops end when the client is not connected. -/
theorem loops_idle (word : WordSize) (bound : Nat) (idle : memory.client.state ≠ .connected) :
    (runLoop word (bound + 1)).run handler memory world =
        (processLoop word (bound + 1)).run handler memory world ∧
      (runLoop word (bound + 1)).trace handler memory world =
        (processLoop word (bound + 1)).trace handler memory world := by
  have uncalled : clientIsConnected memory.client = false := decide_eq_false idle
  constructor
  · rw [runLoop, processLoop]
    change (if memory.client.state = .connected then _ else _ : Routine Unit).run _ _ _ =
      (if clientIsConnected memory.client = true then _ else _ : Routine Unit).run _ _ _
    rw [if_neg idle, uncalled]
    rfl
  · rw [runLoop, processLoop]
    change (if memory.client.state = .connected then _ else _ : Routine Unit).trace _ _ _ =
      (if clientIsConnected memory.client = true then _ else _ : Routine Unit).trace _ _ _
    rw [if_neg idle, uncalled]
    rfl

/-- Iterations do the same when what follows them does. -/
theorem iteration_congr (word : WordSize) {rest other : Routine Unit}
    (same : ∀ memory world, rest.run handler memory world = other.run handler memory world ∧
      rest.trace handler memory world = other.trace handler memory world) :
    (iteration word rest).run handler memory world =
        (iteration word other).run handler memory world ∧
      (iteration word rest).trace handler memory world =
        (iteration word other).trace handler memory world := by
  apply sequence_congr
  intro received memory world
  cases received with
  | ok value => exact same memory world
  | error error => exact ⟨rfl, rfl⟩

/-- The loops come to the same, by induction on the bound. -/
theorem runLoop_processLoop (word : WordSize) (bound : Nat) (memory : Memory) (world : W) :
    (runLoop word bound).run handler memory world =
        (processLoop word bound).run handler memory world ∧
      (runLoop word bound).trace handler memory world =
        (processLoop word bound).trace handler memory world := by
  induction bound generalizing memory world with
  | zero => exact ⟨rfl, rfl⟩
  | succ bound inductionHypothesis =>
    by_cases connected : memory.client.state = .connected
    · obtain ⟨ran, traced⟩ := runLoop_connected handler world word bound connected
      obtain ⟨processed, observed⟩ := processLoop_connected handler world word bound connected
      obtain ⟨same, alike⟩ := iteration_congr handler world word inductionHypothesis
      exact ⟨ran.trans (same.trans processed.symm), traced.trans (alike.trans observed.symm)⟩
    · exact loops_idle handler world word bound connected

end Loops

/-! ## Streams that come to an end -/

/-- An environment whose stream comes to an end, and that answers every request. A receive
gets its bytes as long as there are enough of them, and fails after that. The application
disconnects only in a callback that reports a whole message. -/
structure FiniteStream {W : Type} (handler : Handler Request Answer W) (unread : W → List UInt8) :
    Prop where
  received : ∀ len world, len ≤ (unread world).length → ∃ later,
    handler (.recv len) world = (some (RecvAnswer.complete ((unread world).take len)), later) ∧
      unread later = (unread world).drop len
  ended : ∀ len world, (unread world).length < len → ∃ error later,
    handler (.recv len) world = (some (RecvAnswer.stopped (unread world) error), later) ∧
      (error = .io ∨ error = .connectionClosed) ∧ unread later = []
  others : ∀ request world, (∀ len, request ≠ .recv len) → ∃ answer later,
    handler request world = (some answer, later) ∧ Allowed request answer ∧
      unread later = unread world
  considerate : ∀ call world later,
    handler (.callback call) world = (some true, later) → call.ofMessage = true

/-- What such an environment answers. -/
def Considerate : (request : Request) → Answer request → Prop
  | .callback call, disconnects => disconnects = true → call.ofMessage = true
  | request, answer => Allowed request answer

/-- Considerate answers are allowed ones. -/
theorem Considerate.allowed {request : Request} {answer : Answer request}
    (considerate : Considerate request answer) : Allowed request answer := by
  cases request with
  | callback => trivial
  | _ => exact considerate

namespace FiniteStream

variable {W : Type} {handler : Handler Request Answer W} {unread : W → List UInt8}

/-- Every request is answered, and no byte comes back. -/
theorem answers (finite : FiniteStream handler unread) (request : Request) (world : W) :
    ∃ answer later, handler request world = (some answer, later) ∧ Considerate request answer ∧
      (unread later).length ≤ (unread world).length := by
  have other (unreceived : ∀ len, request ≠ .recv len)
      (considerate : ∀ answer later, handler request world = (some answer, later) →
        Allowed request answer → Considerate request answer) :
      ∃ answer later, handler request world = (some answer, later) ∧
        Considerate request answer ∧ (unread later).length ≤ (unread world).length := by
    obtain ⟨answer, later, answered, allowed, left⟩ := finite.others request world unreceived
    exact ⟨answer, later, answered, considerate answer later answered allowed,
      Nat.le_of_eq (congrArg _ left)⟩
  cases request with
  | recv len =>
    by_cases enough : len ≤ (unread world).length
    · obtain ⟨later, answered, left⟩ := finite.received len world enough
      refine ⟨_, later, answered, List.length_take_of_le enough, ?_⟩
      rw [left, List.length_drop]
      omega
    · have short : (unread world).length < len := by omega
      obtain ⟨error, later, answered, ends, left⟩ := finite.ended len world short
      refine ⟨_, later, answered, ⟨short, ends⟩, ?_⟩
      rw [left]
      exact Nat.zero_le _
  | callback call =>
    apply other (fun _ => nofun)
    rintro answer later answered - rfl
    exact finite.considerate call world later answered
  | _ => exact other (fun _ => nofun) (fun _ _ _ allowed => allowed)

/-- A run reads the stream forwards. -/
theorem run_reads (finite : FiniteStream handler unread) {α : Type} {routine : Routine α}
    {memory final : Memory} {world later : W} {outcome : Outcome Error Fault α}
    (ran : routine.run handler memory world = (outcome, final, later)) :
    (unread later).length ≤ (unread world).length := by
  induction routine generalizing memory world with
  | done | failing | faulting | stalled =>
    cases ran
    exact Nat.le_refl _
  | loading next inductionHypothesis => exact inductionHypothesis memory ran
  | storing written next inductionHypothesis => exact inductionHypothesis ran
  | asking request next inductionHypothesis =>
    obtain ⟨answer, between, answered, -, left⟩ := finite.answers request world
    simp only [run, answered] at ran
    exact Nat.le_trans (inductionHypothesis answer ran) left

/-- A receive that returns has taken its bytes. -/
theorem transportRecv_reads (finite : FiniteStream handler unread) {len : Nat} {memory : Memory}
    {world later : W} {bytes : List UInt8} {final : Memory}
    (returned : (transportRecv len).run handler memory world = (.returned bytes, final, later)) :
    (unread later).length + len = (unread world).length := by
  rw [transportRecv, bind_eq, derefTransport, bind_eq, sequence_assoc, run_load_then] at returned
  cases attached : memory.client.transport with
  | none =>
    rw [attached] at returned
    cases returned
  | some transport =>
    rw [attached] at returned
    change (asking (Request.recv len) _).run handler memory world = _ at returned
    by_cases enough : len ≤ (unread world).length
    · obtain ⟨between, answered, left⟩ := finite.received len world enough
      simp only [run, answered] at returned
      cases returned
      rw [left, List.length_drop]
      omega
    · obtain ⟨error, between, answered, -⟩ := finite.ended len world (by omega)
      simp only [run, answered] at returned
      cases returned

/-- A message that was decoded took at least its first byte. -/
theorem recvServerMessage_reads (finite : FiniteStream handler unread) (word : WordSize)
    {memory final : Memory} {world later : W}
    (returned : (recvServerMessage word).run handler memory world =
      (.returned (), final, later)) :
    (unread later).length < (unread world).length := by
  rw [recvServerMessage, bind_eq, run_sequence] at returned
  revert returned
  cases typed : (transportRecv 1).run handler memory world with
  | mk outcome rest =>
    obtain ⟨middle, between⟩ := rest
    cases outcome with
    | returned msgType =>
      intro returned
      have first := finite.transportRecv_reads typed
      have others := finite.run_reads returned
      omega
    | failed | faulted | waiting => exact nofun

/-- The loop returns when its bound exceeds the number of the bytes to come, by induction
on the bound. -/
theorem runLoop_ends (finite : FiniteStream handler unread) (word : WordSize) (bound : Nat)
    (memory : Memory) (world : W) (enough : (unread world).length < bound) :
    ((runLoop word bound).run handler memory world).1 ≠ .waiting := by
  have answers (request : Request) (world : W) :
      ∃ answer later, handler request world = (some answer, later) := by
    obtain ⟨answer, later, answered, -⟩ := finite.answers request world
    exact ⟨answer, later, answered⟩
  induction bound generalizing memory world with
  | zero => omega
  | succ bound inductionHypothesis =>
    by_cases connected : memory.client.state = .connected
    · rw [(runLoop_connected handler world word bound connected).1, iteration, bind_eq,
        run_sequence, run_attempt]
      have finishes := run_prompt (recvServerMessage_yields word) answers memory world
      cases ran : (recvServerMessage word).run handler memory world with
      | mk outcome rest =>
        obtain ⟨middle, later⟩ := rest
        rw [ran] at finishes
        cases outcome with
        | returned value =>
          have fewer := finite.recvServerMessage_reads word ran
          exact inductionHypothesis middle later (by omega)
        | failed error => exact run_prompt (tearDown_yields error) answers middle later
        | faulted fault => exact nofun
        | waiting => exact absurd rfl finishes
    · have uncalled : clientIsConnected memory.client = false := decide_eq_false connected
      rw [(loops_idle handler world word bound connected).1, processLoop, bind_eq, run_load_then,
        uncalled]
      exact nofun

end FiniteStream

/-! ## Returning without an error -/

/-- Tearing down does not return, and the application does not disconnect in the callback
that reports the end of the connection. -/
theorem tearDown_considerate (error : Error) (memory : Memory) :
    (tearDown error : Routine Unit).wp Considerate (fun events outcome _ =>
      (∀ event ∈ events, hangsUp event = false) ∧ outcome ≠ .returned ()) memory := by
  have ends := wp_restrict (fun _ _ => Considerate.allowed) (tearDown_ends error memory)
  apply wp_mono (wp_and ends (wp_executes _ memory))
  rintro events outcome final ⟨⟨asked, ended⟩, executed⟩
  constructor
  · rintro ⟨seen, request, answer⟩ member
    have within := executed.within _ member
    rcases asked _ member with ⟨sock, closing⟩ | ⟨reason, reporting⟩
    · subst closing
      rfl
    · subst reporting
      cases answer with
      | false => rfl
      | true => cases within rfl
  · rcases ended with rfl | ⟨rfl, -⟩
    · exact nofun
    · exact nofun

/-- How the loop of `ovnc_client_run` ends: it returns only when the application has
disconnected, and then it does not end in any other way. -/
theorem runLoop_considerate (word : WordSize) (bound : Nat) {memory : Memory}
    {transport : Transport} (attached : memory.client.transport = some transport)
    (connected : memory.client.state = .connected) :
    (runLoop word bound).wp Considerate (fun events outcome _ =>
      ((∃ event ∈ events, hangsUp event = true) → outcome = .waiting ∨
        outcome = .faulted .nullTransport ∨ outcome = .returned ()) ∧
      (outcome = .returned () → ∃ event ∈ events, hangsUp event = true)) memory := by
  induction bound generalizing memory with
  | zero => exact ⟨fun _ => .inl rfl, by simp⟩
  | succ bound inductionHypothesis =>
    have silent {events : List Step} (quiet : Quiet memory events) :
        ¬ ∃ event ∈ events, hangsUp event = true := by
      rintro ⟨event, member, hung⟩
      exact absurd ((quiet event member).2.2.symm.trans hung) (by decide)
    simp only [runLoop, bind_eq, wp_sequence, wp_load, continuing_returned, connected, if_true]
    rw [← wp_sequence]
    refine wp_after_attempt (wp_restrict (fun _ _ => Considerate.allowed)
      (recvServerMessage_followed word attached connected)) ?_ ?_ ?_
      (fun _ _ _ => ⟨fun _ => .inl rfl, by simp⟩)
    · intro events value middle followed
      rcases followed.ended with ⟨quiet, settled⟩ | ⟨hung, stopped⟩
      · refine wp_mono (inductionHypothesis
          ((congrArg (fun seen => seen.1.transport) settled).trans attached)
          ((congrArg (fun seen => seen.1.state) settled).trans connected)) ?_
        rintro later outcome final ⟨ends, parted⟩
        constructor
        · rintro ⟨event, (member : event ∈ events ++ later), hung⟩
          rcases List.mem_append.mp member with before | after
          · exact absurd ⟨event, before, hung⟩ (silent quiet)
          · exact ends ⟨event, after, hung⟩
        · intro returned
          obtain ⟨event, member, hung⟩ := parted returned
          exact ⟨event, List.mem_append_right events member, hung⟩
      · -- The application hung up: the loop ends when it tests the state.
        obtain ⟨-, settled⟩ := (stopped.resolve_left (by simp)).resolve_left (by simp)
        have idle : middle.client.state ≠ .connected := by
          rw [show middle.client.state = memory.hungUp.client.state from
            congrArg (fun seen => seen.1.state) settled]
          simp [Memory.hungUp, connected]
        cases bound with
        | zero => exact ⟨fun _ => .inl rfl, by simp⟩
        | succ bound =>
          simp only [runLoop, bind_eq, wp_sequence, wp_load, continuing_returned, idle, if_false]
          simpa using hung
    · intro events error middle followed
      have quiet : Quiet memory events := by
        rcases followed.ended with ⟨quiet, -⟩ | ⟨-, waiting | faulted | ⟨returned, -⟩⟩
        · exact quiet
        · cases waiting
        · cases faulted
        · cases returned
      apply wp_mono (tearDown_considerate error middle)
      rintro later outcome final ⟨kept, unreturned⟩
      refine ⟨?_, fun returned => absurd returned unreturned⟩
      rintro ⟨event, (member : event ∈ events ++ later), hung⟩
      rcases List.mem_append.mp member with before | after
      · exact absurd ⟨event, before, hung⟩ (silent quiet)
      · exact absurd ((kept event after).symm.trans hung) (by decide)
    · rintro events fault middle followed
      refine ⟨fun hung => ?_, by simp⟩
      rcases followed.ended with ⟨quiet, -⟩ | ⟨-, stopped⟩
      · exact absurd hung (silent quiet)
      · exact stopped.imp_right (.imp_right And.left)

/-- The application disconnects in no callback that reports a rectangle, so that the
transport stays usable. -/
theorem considerate_not_premature {event : Step}
    (within : Considerate event.request event.answer) : premature event = false := by
  obtain ⟨memory, request, answer⟩ := event
  cases request with
  | callback call =>
    cases answer with
    | false => simp [premature]
    | true =>
      have message := within rfl
      revert message
      cases call <;> simp [premature, Callback.ofRect, Callback.ofMessage]
  | _ => rfl

/-- Against every environment, the two loops come to the same end, in the same memory and
world, through the same requests and callbacks, however many iterations they may make. On
a stream that comes to an end, with an application that does not disconnect before a
message has been decoded, they do come to an end. The transport is not used through a
null pointer, and the end is a return without an error exactly when a callback
disconnected. -/
theorem clientRun_iterates {W : Type} {handler : Handler Request Answer W}
    {unread : W → List UInt8} (finite : FiniteStream handler unread) (word : WordSize)
    {memory : Memory} {transport : Transport}
    (attached : memory.client.transport = some transport)
    (connected : memory.client.state = .connected) (world : W) :
    (∀ bound, (clientRun word bound).run handler memory world =
        (processLoop word bound).run handler memory world ∧
      (clientRun word bound).trace handler memory world =
        (processLoop word bound).trace handler memory world) ∧
    ∀ bound, (unread world).length < bound →
      ((clientRun word bound).run handler memory world).1 ≠ .waiting ∧
      ((clientRun word bound).run handler memory world).1 ≠ .faulted .nullTransport ∧
      (((clientRun word bound).run handler memory world).1 = .returned () ↔
        ∃ event ∈ (clientRun word bound).trace handler memory world, hangsUp event = true) := by
  have passes (bound : Nat) : (clientRun word bound).run handler memory world =
        (runLoop word bound).run handler memory world ∧
      (clientRun word bound).trace handler memory world =
        (runLoop word bound).trace handler memory world :=
    requireConnected_passes handler connected world
  refine ⟨fun bound => ?_, fun bound enough => ?_⟩
  · obtain ⟨ran, traced⟩ := passes bound
    obtain ⟨same, alike⟩ := runLoop_processLoop handler word bound memory world
    exact ⟨ran.trans same, traced.trans alike⟩
  · rw [(passes bound).1, (passes bound).2]
    have ends := finite.runLoop_ends word bound memory world enough
    have within (request : Request) (world : W) (answer : Answer request) (later : W)
        (answered : handler request world = (some answer, later)) :
        Considerate request answer := by
      obtain ⟨other, _, same, considerate, -⟩ := finite.answers request world
      rw [answered] at same
      cases same
      exact considerate
    have executed := run_execution handler Considerate within (runLoop word bound) memory world
    obtain ⟨hung, parted⟩ :=
      (wp_iff _ _ _).mp (runLoop_considerate word bound attached connected) _ _ _ executed
    have served := (wp_iff _ _ _).mp (wp_restrict (fun _ _ => Considerate.allowed)
      (runLoop_served word bound attached connected)) _ _ _ executed
    have usable : ((runLoop word bound).run handler memory world).1 ≠ .faulted .nullTransport := by
      intro faulted
      obtain ⟨event, member, early⟩ := (served.safe ends).mp faulted
      rw [considerate_not_premature (executed.within event member)] at early
      cases early
    exact ⟨ends, usable, parted, fun parting =>
      ((hung parting).resolve_left ends).resolve_left usable⟩

/-- A host whose stream ends, and an application that disconnects when the bell rings. -/
def partingHost : Handler Request Answer Feed
  | .callback .bell, feed => (some true, { feed with fired := feed.fired ++ [.bell] })
  | request, feed => plainHost.ending .connectionClosed request feed

/-- The example's host does not add to its stream. -/
theorem partingHost_finite : FiniteStream partingHost Feed.unread where
  received len feed enough := ⟨_, if_pos enough, rfl⟩
  ended len feed short := ⟨.connectionClosed, _, if_neg (by omega), .inr rfl, rfl⟩
  others request feed unreceived := by
    cases request with
    | recv len => exact absurd rfl (unreceived len)
    | callback call =>
      cases call with
      | _ => exact ⟨_, _, rfl, trivial, rfl⟩
    | socketConnect => exact ⟨_, _, rfl, plainHost.valid, rfl⟩
    | _ => exact ⟨_, _, rfl, trivial, rfl⟩
  considerate call feed later answered := by
    cases call with
    | bell => rfl
    | _ => cases answered

/-- A connected client that listens to the bell. -/
def bellMemory : Memory :=
  ⟨{ plainClient { bell := true } with state := .connected, transport := some ⟨3⟩ }, 1, 0⟩

/-- The bell rings and the application disconnects; the second bell is not read. -/
theorem clientRun_iterates_bell :
    ((clientRun .bits64 3).run partingHost bellMemory { unread := [2, 2] }).1 = .returned () ∧
    ((clientRun .bits64 3).run partingHost bellMemory { unread := [2, 2] }).2.2.unread = [2] ∧
    (clientRun .bits64 3).run partingHost bellMemory { unread := [2, 2] } =
      (processLoop .bits64 3).run partingHost bellMemory { unread := [2, 2] } := by
  obtain ⟨same, ends⟩ := @clientRun_iterates _ _ _ partingHost_finite .bits64 bellMemory _ rfl rfl
    { unread := [2, 2] }
  refine ⟨(ends 3 (by decide)).2.2.mpr ?_, by decide, (same 3).1⟩
  exact ⟨⟨bellMemory, .callback .bell, true⟩, List.mem_cons_of_mem _ List.mem_cons_self, rfl⟩

end OpenVnc
