import OpenVnc.Reentry
import OpenVnc.Calls

/-!
# Callbacks that send and disconnect

An application may send messages and disconnect in its callbacks, in any order and any number.
What the library does besides, the clients and the count are then as they would be if the
application had at most disconnected: no run of a process can be told from one in which no
callback sends anything, but for what the callbacks send themselves.
-/

namespace OpenVnc

open Interaction Interaction.Program

variable {word : WordSize} {outside : (request : Request) → Answer request → Prop}
  {memory : Memory} {α : Type}

/-! ## Routines without callbacks -/

/-- Nothing of the routine is a callback. -/
abbrev Silent (may : (request : Request) → Answer request → Prop) (routine : Routine α) : Prop :=
  Keeps may (fun _ => ()) (fun event => event.request.isCallback = false) (fun _ _ => True) routine

/-- A connected client has its transport when the routine ends. -/
abbrev KeepsAttached (may : (request : Request) → Answer request → Prop)
    (routine : Routine α) : Prop :=
  Maintains may (fun _ => True) (fun memory => memory.client.Attached) routine

/-- A routine without callbacks, which leaves a connected client its transport. -/
def Quiescent (routine : Routine α) : Prop :=
  ∀ may, Silent may routine ∧ KeepsAttached may routine

/-- Whether a client is attached is a matter of its standing. -/
theorem attached_of_standing {before after : Memory} (same : after.standing = before.standing)
    (attached : before.client.Attached) : after.client.Attached := by
  have state : after.client.state = before.client.state := congrArg Standing.state same
  have transport : after.client.transport = before.client.transport :=
    congrArg Standing.transport same
  unfold Client.Attached
  rw [state, transport]
  exact attached

/-- A routine that makes no call of a callback and leaves the standing of its client is quiescent,
since whether the client is attached depends on its standing only. -/
theorem quiescent_of_keeps {routine : Routine α}
    (keeps : ∀ may, Keeps may Memory.standing (fun event => event.request.isCallback = false)
      (fun _ _ => True) routine) : Quiescent routine := by
  intro may
  refine ⟨fun memory => wp_mono (keeps may memory) ?_,
    Maintains.of_keeps (keeps may) (fun _ _ same => attached_of_standing same)
      (fun _ _ _ => trivial)⟩
  rintro events outcome final ⟨-, within, -⟩
  exact ⟨rfl, fun event member => ⟨rfl, (within event member).2⟩, fun _ _ => trivial⟩

/-- Hanging up keeps the client attached, as a client that has hung up is not connected any more.
-/
theorem hungUp_attached (attached : memory.client.Attached) : memory.hungUp.client.Attached := by
  unfold Memory.hungUp
  split
  · exact fun connected => absurd connected (by simp)
  · exact attached

/-- `ovnc_client_disconnect` closes the transport and calls nothing back. -/
theorem clientDisconnect_quiescent : Quiescent clientDisconnect := by
  refine fun may => ⟨clientDisconnect_keeps (fun _ _ _ => rfl) (fun _ => rfl),
    fun memory attached => ?_⟩
  apply wp_mono (clientDisconnect_hangsUp memory)
  rintro events outcome final ⟨-, ⟨rfl, -⟩ | ⟨rfl, rfl⟩⟩
  · trivial
  · exact hungUp_attached attached

/-! ## Connecting -/

section Connecting

variable {may : (request : Request) → Answer request → Prop}

/-- `ovnc_client_connect` calls nothing back either: neither the handshake nor what undoes a
failed one does. -/
theorem clientConnect_silent (word : WordSize) : Silent may (clientConnect word) := by
  have dereferences : Silent may derefTransport := derefTransport_keeps (fun _ _ => trivial)
  have abandons (error : Error) : Silent may (abandonConnect error : Routine Unit) := by
    refine Keeps.sequence (Keeps.load (fun memory => ?_))
      (fun _ => Keeps.sequence (Keeps.update (fun _ => rfl)) (fun _ => Keeps.fail error))
    cases memory.client.transport with
    | none => exact Keeps.done ()
    | some transport =>
      refine (Keeps.onlyIf (fun _ => ?_)).sequence (fun _ => Keeps.update (fun _ => rfl))
      exact (Keeps.ask (fun _ _ _ => rfl)).sequence (fun _ => Keeps.done ())
  have shakes : Silent may (handshake word) := by
    apply Overlooks.handshake _ word
    · exact initFramebuffer_keeps (fun _ _ => rfl) (fun _ _ _ => rfl) (fun _ _ _ => rfl) word
    · constructor
      case missing => exact fun _ _ => trivial
      case overrun => exact fun _ _ => trivial
      all_goals intros; rfl
  refine Keeps.load (fun memory => (Keeps.failIf _ _).sequence (fun _ =>
    Keeps.sequence (Keeps.update (fun _ => rfl)) (fun _ => ?_)))
  refine Keeps.sequence (Keeps.attempt ?_) (fun created => ?_)
  · exact (Keeps.ask (fun _ _ _ => rfl)).sequence (fun _ =>
      (Keeps.failIf _ _).sequence (fun _ => Keeps.update (fun _ => rfl)))
  cases created with
  | error error => exact Keeps.sequence (Keeps.update (fun _ => rfl)) (fun _ => Keeps.fail error)
  | ok =>
    refine Keeps.sequence (Keeps.attempt (dereferences.sequence (fun _ =>
      Keeps.load (fun memory => Keeps.sequence (Keeps.ask (fun _ _ _ => rfl))
        (fun answer => ?_))))) (fun connected => ?_)
    · cases answer with
      | ok sock => exact Keeps.update (fun _ => rfl)
      | error error => exact Keeps.fail error
    cases connected with
    | error error => exact abandons error
    | ok =>
      refine shakes.attempt.sequence (fun shaken => ?_)
      cases shaken with
      | error error => exact abandons error
      | ok => exact Keeps.update (fun _ => rfl)

/-- A routine that leaves a client unconnected as it is. -/
abbrev LeavesUnconnected (may : (request : Request) → Answer request → Prop)
    (routine : Routine α) : Prop :=
  Maintains may (fun _ => True) (fun memory => memory.client.state ≠ .connected) routine

/-- What `ovnc_client_connect` does after a failure leaves the client unconnected. -/
theorem abandonConnect_leaves (error : Error) :
    LeavesUnconnected may (abandonConnect error : Routine Unit) := by
  refine Maintains.sequence (Maintains.load (fun memory idle => ?_))
    (fun _ => Maintains.sequence (Maintains.update (fun memory idle => ?_))
      (fun _ => Maintains.fail error))
  · cases memory.client.transport with
    | none => exact idle
    | some transport =>
      refine Maintains.wp_sequence (Maintains.onlyIf (fun _ => ?_) memory idle) (fun _ => ?_)
      · exact (Maintains.ask _).sequence (fun _ => Maintains.done ())
      · exact Maintains.update (fun _ idle => idle)
  · split <;> exact idle

/-- A client is connected with the transport that it has been given. -/
theorem clientConnect_attached (word : WordSize) : KeepsAttached may (clientConnect word) := by
  have unconnected (memory : Memory) (idle : memory.client.state ≠ .connected) :
      memory.client.Attached := fun connected => absurd connected idle
  have abandoned (error : Error) (memory : Memory) (idle : memory.client.state ≠ .connected) :
      (abandonConnect error : Routine Unit).wp may
        (Settled (fun _ => True) (fun memory => memory.client.Attached)) memory :=
    wp_mono (abandonConnect_leaves error memory idle)
      (fun _ _ _ settled => settled.weaken unconnected)
  -- The handshake leaves the transport that dialling has left.
  have shaken (memory : Memory) (idle : memory.client.state ≠ .connected)
      (attached : memory.client.transport ≠ none) : (connectHandshake word).wp may
        (Settled (fun _ => True) (fun memory => memory.client.Attached)) memory := by
    have standing : (handshake word).wp may (Settled (fun _ => True) (fun final =>
        final.client.state ≠ .connected ∧ final.client.transport ≠ none)) memory := by
      refine Maintains.of_keeps (handshake_shakes word) (fun before after same held => ?_)
        (fun _ _ _ => trivial) memory ⟨idle, attached⟩
      rw [show after.client.state = before.client.state from congrArg Standing.state same,
        show after.client.transport = before.client.transport from
          congrArg Standing.transport same]
      exact held
    refine wp_after_attempt standing (fun _ _ final held _ => held.2)
      (fun _ error final held => abandoned error final held.1) (fun _ _ _ _ => trivial)
      (fun _ _ _ => trivial)
  refine Maintains.load (fun memory held => ?_)
  rw [bind_eq, Program.wp_sequence, wp_failIf]
  refine ⟨fun _ => held, fun created => ?_⟩
  have idle : memory.client.state ≠ .connected := by
    rw [Decidable.not_not.mp created]
    decide
  have counts : LeavesUnconnected may platformInit := Maintains.update (fun _ idle => idle)
  refine Maintains.wp_through (counts memory idle) unconnected (fun _ memory idle => ?_)
  have creates : LeavesUnconnected may (attempt transportCreate) :=
    Maintains.attempt ((Maintains.ask _).sequence (fun _ => (Maintains.failIf _ _).sequence
      (fun _ => Maintains.update (fun _ held => held))))
  refine Maintains.wp_through (creates memory idle) unconnected ?_
  rintro (error | ⟨⟩) memory idle
  · exact Maintains.wp_through (Maintains.update (fun memory idle => by split <;> exact idle)
      memory idle) unconnected (fun _ memory idle => unconnected memory idle)
  have dials : transportConnect.wp may (fun _ outcome final =>
      final.client.state ≠ .connected ∧
        (outcome = .returned () → final.client.transport ≠ none)) memory := by
    unfold transportConnect
    simp only [bind_eq, Program.wp_sequence, wp_derefTransport, wp_load, wp_ask,
      continuing_returned, continuing_faulted, continuing_waiting]
    refine ⟨fun _ => ⟨idle, by simp⟩, fun transport _ => ⟨⟨idle, by simp⟩, fun answer _ => ?_⟩⟩
    cases answer with
    | ok sock => exact ⟨idle, by simp⟩
    | error error => exact ⟨idle, by simp⟩
  exact wp_after_attempt dials (fun _ _ final held => shaken final held.1 (held.2 rfl))
    (fun _ error final held => abandoned error final held.1) (fun _ _ _ _ => trivial)
    (fun _ _ _ => trivial)

/-- `ovnc_client_connect` as a whole: no callbacks, and a client that ends up connected has got
its transport. -/
theorem clientConnect_quiescent (word : WordSize) : Quiescent (clientConnect word) :=
  fun _ => ⟨clientConnect_silent word, clientConnect_attached word⟩

end Connecting

/-! ## Parts without callbacks -/

/-- What a request that is no callback sees of its answer is the answer. -/
theorem reentrant_outside (word : WordSize) {request : Request}
    (outer : request.isCallback = false) :
    reentrant word request = ask (ReentrantRequest.outside request) := by
  cases request <;> first | rfl | cases outer

/-- No request of a routine without callbacks is one, whatever is answered. -/
theorem Quiescent.poses {routine : Routine α} (quiescent : Quiescent routine) :
    Poses (CallsBack outside) (fun _ request => request.isCallback = false) routine memory := by
  have answerable (request : Request) : ∃ _ : Answer request, True := by
    cases request with
    | recv => exact ⟨.complete [], trivial⟩
    | send => exact ⟨.complete, trivial⟩
    | malloc | callocTransport | callback => exact ⟨true, trivial⟩
    | calloc => exact ⟨none, trivial⟩
    | free | socketClose => exact ⟨(), trivial⟩
    | socketConnect => exact ⟨.error .io, trivial⟩
    | allocFramebuffer asked => exact ⟨(none, asked), trivial⟩
  apply Poses.weaken (fun _ _ _ => trivial)
  apply poses_of_wp answerable
  apply wp_mono ((quiescent (fun _ _ => True)).1 memory)
  rintro events outcome final ⟨-, within, -⟩ event member
  exact (within event member).2

/-- A routine without callbacks is not changed by what happens in them. -/
theorem Quiescent.imitates {routine : Routine α} (quiescent : Quiescent routine) :
    Imitates (withAndWithout word outside) routine (reenter word routine) ∧
      Imitates (withAndWithout word outside).swap (reenter word routine) routine := by
  -- An answer is worked out by asking for it.
  let carries (memory : Memory) (request : Request) (answer : Option (Answer request))
      (events : List ReentrantStep) : Prop := ∀ given, answer = some given →
    events.flatMap reentrantSights = requestSights ⟨memory, request, given⟩
  have settled {memory final : Memory} {events : List Step} {outcome : Outcome Error Fault α}
      (executed : Execution (CallsBack outside) routine memory events outcome final)
      (attached : memory.client.Attached) (ended : outcome ≠ .waiting)
      (faultless : ∀ fault, outcome ≠ .faulted fault) : final.client.Attached := by
    have kept := (wp_iff _ _ _).mp ((quiescent _).2 memory attached) _ _ _ executed
    cases outcome with
    | returned | failed => exact kept
    | faulted fault => exact absurd rfl (faultless fault)
    | waiting => exact absurd rfl ended
  constructor
  · intro memory attached
    have works (memory : Memory) (request : Request) (outer : request.isCallback = false) :
        (reentrant word request).wp (Reenters word outside)
          (WorksOut (CallsBack outside) carries memory request) memory := by
      rw [reentrant_outside word outer]
      refine ⟨⟨rfl, nofun⟩, fun answer allowed => ⟨rfl, allowed, ?_⟩⟩
      rintro _ ⟨⟩
      exact List.flatMap_singleton ..
    apply wp_mono (wp_translate works quiescent.poses (wp_executes routine memory))
    rintro below outcome final ⟨above, executed, expands⟩ ended
    exact ⟨⟨above, executed,
      (expands.flatMap ended (fun _ _ _ _ carried => carried _ rfl)).symm⟩,
      settled executed attached ended⟩
  · intro memory attached
    have realises (memory : Memory) (request : Request) (answer : Answer request)
        (outer : request.isCallback = false) (allowed : CallsBack outside request answer) :
        ∃ calls, Execution (Reenters word outside) (reentrant word request) memory calls
          (.returned answer) memory ∧ carries memory request (some answer) calls := by
      rw [reentrant_outside word outer]
      refine ⟨[⟨memory, .outside request, answer⟩], ?_, ?_⟩
      · change Execution _ (asking (ReentrantRequest.outside request) done) _ _ _ _
        exact .answered _ allowed (.done _ memory)
      rintro _ ⟨⟩
      exact List.flatMap_singleton ..
    apply wp_mono (wp_executes routine memory)
    rintro above outcome final executed ended
    obtain ⟨below, translated, expands⟩ :=
      translate_realises realises quiescent.poses executed ended
    exact ⟨⟨below, translated, expands.flatMap ended (fun _ _ _ _ carried => carried _ rfl)⟩,
      settled executed attached ended⟩

/-! ## Nested calls -/

section Nested

/-- The calls that transmit leave the client as it is, and run to their end. -/
theorem perform_unobtrusive (bound : Nat) {call : ApiCall} (transmits : call.Transmits word)
    (sends : call ≠ .disconnect) (attached : memory.client.Attached)
    {may : (request : Request) → Answer request → Prop} :
    (perform word bound call).wp may (Settled (fun _ => False) (fun final => final = memory))
      memory := by
  by_cases connected : memory.client.state = .connected
  case neg =>
    apply perform_unconnected word bound _ connected (fun _ => rfl) (fun _ => rfl)
    rintro rfl
    exact transmits
  let Stays {α : Type} (routine : Routine α) : Prop :=
    Maintains may (fun _ => False) (fun final => final = memory) routine
  have guarded : Stays requireConnected :=
    Maintains.load (fun _ held => Maintains.failIf _ _ _ held)
  have sent (data : List UInt8) : Stays (transportSend data) := by
    rintro _ rfl
    rw [wp_transportSend]
    exact ⟨fun detached => absurd detached (attached connected),
      fun _ _ => ⟨trivial, fun _ => rfl, fun _ _ _ => rfl⟩⟩
  have whole : Stays (perform word bound call) := by
    cases call with
    | connect | processMessage | run | setPixelFormat => exact transmits.elim
    | disconnect => exact absurd rfl sends
    | requestUpdate rect incremental =>
      exact guarded.sequence (fun _ => Maintains.load (fun _ held => sent _ _ held))
    | sendKeyEvent | sendPointerEvent => exact guarded.sequence (fun _ => sent _)
    | sendCutText text length =>
      apply guarded.sequence
      intro _
      cases text with
      | none => exact Maintains.fail _
      | some text =>
        refine (sent _).sequence (fun _ => Maintains.onlyIf (fun _ => ?_))
        exact (Maintains.faultIf (fun short => absurd short (Nat.not_lt.mpr (transmits text rfl)))
          ).sequence (fun _ => sent _)
    | setEncodings encodings =>
      cases encodings with
      | none => exact Maintains.fail _
      | some encodings =>
        refine guarded.sequence (fun _ => (Maintains.ask _).sequence (fun _ => ?_))
        refine (Maintains.failIf _ _).sequence (fun _ => ?_)
        have exact_ := transmits encodings rfl
        exact (Maintains.faultIf (fun short => absurd exact_ (Nat.ne_of_lt short))).sequence
          (fun _ => sent _)
  exact whole memory rfl

variable (outside) in
/-- Disconnecting can leave this memory. -/
def Disconnects (memory final : Memory) : Prop :=
  ∃ closes, Execution (CallsBack outside) clientDisconnect memory closes (.returned ()) final ∧
    closes.flatMap requestSights = []

/-- Nothing is seen of the end of a connection. -/
theorem closes_unseen {events : List Step}
    (closes : ∀ event ∈ events, event.memory = memory ∧ ∃ sock, event.request = .socketClose sock) :
    events.flatMap requestSights = [] := by
  refine List.flatMap_eq_nil_iff.mpr (fun event member => ?_)
  obtain ⟨-, sock, closing⟩ := closes event member
  obtain ⟨memory, request, answer⟩ := event
  obtain rfl : request = .socketClose sock := closing
  rfl

/-- Disconnecting leaves the client hung up, and nothing is seen of it. -/
theorem disconnects_of_execution {closes : List Step} {final : Memory}
    (executed : Execution (CallsBack outside) clientDisconnect memory closes (.returned ()) final) :
    final = memory.hungUp ∧ Disconnects outside memory final := by
  obtain ⟨within, ⟨waiting, -⟩ | ⟨-, same⟩⟩ :=
    (wp_iff _ _ _).mp (clientDisconnect_hangsUp memory) _ _ _ executed
  · exact absurd waiting (by simp)
  exact ⟨same, closes, executed, closes_unseen within⟩

/-- Disconnecting has one effect, however its closes are answered. -/
theorem Disconnects.hungUp {final : Memory} (disconnects : Disconnects outside memory final) :
    final = memory.hungUp := by
  obtain ⟨closes, executed, -⟩ := disconnects
  exact (disconnects_of_execution executed).1

/-- A client disconnects once. -/
theorem Disconnects.again {middle final : Memory} (first : Disconnects outside memory middle)
    (second : Disconnects outside middle final) : final = middle := by
  rw [second.hungUp, first.hungUp, hungUp_hungUp]

/-- Asking is how a nested request is answered. -/
theorem nested_works (request : Request) :
    (ask (ReentrantRequest.nested request) : ReentrantRoutine (Answer request)).wp
      (Reenters word outside) (WorksOut (CallsBack outside)
        (fun _ _ _ events => events.flatMap reentrantSights = []) memory request) memory :=
  ⟨⟨rfl, rfl⟩, fun _ allowed => ⟨rfl, allowed, rfl⟩⟩

/-- A nested call has a result, and disconnects the client or changes nothing. Nothing is seen
of it. -/
theorem nestedCall_ends (bound : Nat) {call : ApiCall} (transmits : call.Transmits word)
    (attached : memory.client.Attached) :
    (attempt (nestedCall word bound call)).wp (Reenters word outside) (fun events outcome final =>
      outcome ≠ .waiting → (∃ result, outcome = .returned result) ∧
        (final = memory ∨ Disconnects outside memory final) ∧
          events.flatMap reentrantSights = []) memory := by
  have ends : (perform word bound call).wp (CallsBack outside) (fun _ outcome final =>
      outcome ≠ .waiting → (∀ fault, outcome ≠ .faulted fault) ∧
        (final = memory ∨ Disconnects outside memory final)) memory := by
    by_cases disconnects : call = .disconnect
    · subst disconnects
      apply wp_mono (wp_and (clientDisconnect_hangsUp memory) (wp_executes clientDisconnect memory))
      rintro events outcome final ⟨⟨-, ⟨rfl, -⟩ | ⟨rfl, -⟩⟩, executed⟩ ended
      · exact absurd rfl ended
      · exact ⟨by simp, .inr (disconnects_of_execution executed).2⟩
    · apply wp_mono (perform_unobtrusive bound transmits disconnects attached)
      intro events outcome final settled ended
      cases outcome with
      | returned | failed => exact ⟨by simp, .inl settled⟩
      | faulted => exact settled.elim
      | waiting => exact absurd rfl ended
  rw [wp_attempt]
  apply wp_mono (wp_translate (fun _ request _ => nested_works request) (poses_always _ _ _) ends)
  rintro below outcome final ⟨above, ended, expands⟩
  have unseen (ended : outcome ≠ .waiting) : below.flatMap reentrantSights = [] := by
    have nothing : below.flatMap reentrantSights = above.flatMap (fun _ => []) :=
      expands.flatMap ended (fun _ _ _ _ nothing => nothing)
    rw [nothing]
    simp
  cases outcome with
  | returned | failed =>
    exact fun _ => ⟨⟨_, rfl⟩, (ended (by simp)).2, unseen (by simp)⟩
  | faulted fault => exact absurd rfl ((ended (by simp)).1 fault)
  | waiting => exact fun ended => absurd rfl ended

/-- So has all that is done in a callback. -/
theorem react_ends {reaction : Reaction} (transmits : reaction.Transmits word)
    (attached : memory.client.Attached) :
    (react word reaction).wp (Reenters word outside) (fun events outcome final =>
      outcome ≠ .waiting → outcome = .returned () ∧
        (final = memory ∨ Disconnects outside memory final) ∧
          events.flatMap reentrantSights = []) memory := by
  induction reaction generalizing memory with
  | leave => exact fun _ => ⟨rfl, .inl rfl, rfl⟩
  | makes call bound next inductionHypothesis =>
    obtain ⟨first, rest⟩ := transmits
    refine wp_after (nestedCall_ends bound first attached) ?_ ?_ ?_
      (fun _ _ _ ended => absurd rfl ended)
    · intro events result middle ended
      obtain ⟨-, changed, unseen⟩ := ended (by simp)
      have stillAttached : middle.client.Attached := by
        rcases changed with rfl | disconnected
        · exact attached
        · exact disconnected.hungUp ▸ hungUp_attached attached
      apply wp_mono (inductionHypothesis result (rest result) stillAttached)
      intro later outcome final ends ended
      obtain ⟨returned, changedLater, unseenLater⟩ := ends ended
      refine ⟨returned, ?_, by rw [List.flatMap_append, unseen, unseenLater]; rfl⟩
      rcases changed with rfl | disconnected
      · exact changedLater
      · rcases changedLater with rfl | again
        · exact .inr disconnected
        · exact .inr (disconnected.again again ▸ disconnected)
    · intro events error final ended
      obtain ⟨⟨result, returned⟩, -⟩ := ended (by simp)
      exact absurd returned (by simp)
    · intro events fault final ended
      obtain ⟨⟨result, returned⟩, -⟩ := ended (by simp)
      exact absurd returned (by simp)

/-- A callback that disconnects and nothing else. -/
def disconnectOnly : Reaction := .makes .disconnect 0 (fun _ => .leave)

/-- A callback can disconnect the client by a call of its own. -/
theorem Disconnects.react {final : Memory} (disconnects : Disconnects outside memory final) :
    ∃ events, Execution (Reenters word outside) (react word disconnectOnly) memory events
      (.returned ()) final ∧ events.flatMap reentrantSights = [] := by
  obtain ⟨closes, executed, -⟩ := disconnects
  have realises (memory : Memory) (request : Request) (answer : Answer request) (_ : True)
      (allowed : CallsBack outside request answer) :
      ∃ calls, Execution (Reenters word outside)
        (ask (ReentrantRequest.nested request) : ReentrantRoutine (Answer request)) memory calls
        (.returned answer) memory ∧ calls.flatMap reentrantSights = [] := by
    refine ⟨[⟨memory, .nested request, answer⟩], ?_, rfl⟩
    change Execution _ (asking (ReentrantRequest.nested request) done) _ _ _ _
    exact .answered _ allowed (.done _ memory)
  obtain ⟨below, nested, expands⟩ : ∃ below,
      Execution (Reenters word outside) (nestedCall word 0 .disconnect) memory below
        (.returned ()) final ∧ Expands (fun _ _ _ calls => calls.flatMap reentrantSights = [])
          ((.returned () : Outcome Error Fault Unit) = .waiting) closes below :=
    translate_realises realises (poses_always _ _ _) executed (by simp)
  refine ⟨below ++ [], nested.attempt.sequence (.done () final), ?_⟩
  have nothing : below.flatMap reentrantSights = closes.flatMap (fun _ => []) :=
    expands.flatMap (by simp) (fun _ _ _ _ nothing => nothing)
  rw [List.append_nil, nothing]
  simp

end Nested

/-! ## Callbacks -/

/-- The callback that `fire` calls, and what it may be told to have done. -/
def called (call : Callback) : Routine Unit := do
  let disconnects : Bool ← ask (Request.callback call)
  onlyIf disconnects clientDisconnect

/-- The callback that is called, and the calls that it makes. -/
def calledBack (word : WordSize) (call : Callback) : ReentrantRoutine Unit := do
  let reaction : Reaction ← ask (ReentrantRequest.enter call)
  react word reaction

/-- What is left to do when the calls have been made is nothing. -/
theorem reenter_called (word : WordSize) (call : Callback) :
    reenter word (called call) = calledBack word call := by
  change sequence (sequence (ask (ReentrantRequest.enter call)) (fun reaction =>
    sequence (react word reaction) (fun _ => done false))) (fun disconnects => reenter word
      (onlyIf (disconnects = true) clientDisconnect)) = _
  rw [sequence_assoc]
  refine congrArg (sequence _) (funext fun reaction => ?_)
  rw [sequence_assoc]
  exact sequence_done _

section Called

variable {call : Callback} {final : Memory}

/-- What a callback does with calls of its own it can be told to have done. -/
theorem called_imitates (word : WordSize) (call : Callback) :
    Imitates (withAndWithout word outside) (called call) (calledBack word call) := by
  intro memory attached
  unfold calledBack
  rw [bind_eq, wp_sequence, wp_ask]
  refine ⟨fun ended => absurd rfl ended, fun reaction transmits => ?_⟩
  apply wp_mono (react_ends transmits attached)
  rintro later outcome final ends ended
  obtain ⟨rfl, changed, unseen⟩ := ends ended
  let entered : ReentrantStep := ⟨memory, .enter call, reaction⟩
  have sights : ([entered] ++ later).flatMap reentrantSights = [.entered call] :=
    congrArg (List.cons _) unseen
  rcases changed with rfl | disconnects
  · have stays : Execution (CallsBack outside) (called call) final
        [⟨final, .callback call, false⟩] (.returned ()) final :=
      .answered _ trivial (.done () final)
    exact ⟨⟨_, stays, sights.symm⟩, fun _ => attached⟩
  · obtain ⟨closes, executed, nothing⟩ := id disconnects
    have leaves : Execution (CallsBack outside) (called call) memory
        (⟨memory, .callback call, true⟩ :: closes) (.returned ()) final :=
      .answered _ trivial executed
    refine ⟨⟨_, leaves, ?_⟩, fun _ => disconnects.hungUp ▸ hungUp_attached attached⟩
    exact (congrArg (List.cons _) nothing).trans sights.symm

/-- What a callback can be told to have done it can do. -/
theorem calledBack_imitates (word : WordSize) (call : Callback) :
    Imitates (withAndWithout word outside).swap (calledBack word call) (called call) := by
  intro memory attached
  have enters {reaction : Reaction} (transmits : reaction.Transmits word)
      {events : List ReentrantStep} {final : Memory}
      (reacted : Execution (Reenters word outside) (react word reaction) memory events
        (.returned ()) final) : Execution (Reenters word outside) (calledBack word call) memory
          (⟨memory, .enter call, reaction⟩ :: events) (.returned ()) final :=
    .answered _ transmits reacted
  unfold called
  rw [bind_eq, wp_sequence, wp_ask]
  refine ⟨fun ended => absurd rfl ended, fun disconnects _ => ?_⟩
  cases disconnects with
  | false =>
    have transmits : Reaction.leave.Transmits word := trivial
    exact fun _ => ⟨⟨_, enters transmits (.done () memory), rfl⟩, fun _ => attached⟩
  | true =>
    apply wp_mono (wp_and (clientDisconnect_hangsUp memory) (wp_executes clientDisconnect memory))
    rintro closes outcome final ⟨⟨-, ⟨rfl, -⟩ | ⟨rfl, -⟩⟩, executed⟩ ended
    · exact absurd rfl ended
    obtain ⟨same, disconnects⟩ := disconnects_of_execution executed
    obtain ⟨events, reacted, nothing⟩ := disconnects.react
    have transmits : disconnectOnly.Transmits word := ⟨trivial, fun _ => trivial⟩
    refine ⟨⟨_, enters transmits reacted, ?_⟩, fun _ => same ▸ hungUp_attached attached⟩
    obtain ⟨within, -⟩ := (wp_iff _ _ _).mp (clientDisconnect_hangsUp memory) _ _ _ executed
    exact (congrArg (List.cons _) nothing).trans
      (congrArg (List.cons _) (closes_unseen within).symm)

end Called

/-- A callback is called if it is set. -/
theorem fire_imitates (word : WordSize) (call : Callback) :
    Imitates (withAndWithout word outside) (fire call) (reenter word (fire call)) ∧
      Imitates (withAndWithout word outside).swap (reenter word (fire call)) (fire call) := by
  have both (memory : Memory) : Imitates (withAndWithout word outside)
        (onlyIf (memory.client.callbacks.has call) (called call))
        (reenter word (onlyIf (memory.client.callbacks.has call) (called call))) ∧
      Imitates (withAndWithout word outside).swap
        (reenter word (onlyIf (memory.client.callbacks.has call) (called call)))
        (onlyIf (memory.client.callbacks.has call) (called call)) := by
    unfold onlyIf
    split
    · rw [reenter_called]
      exact ⟨called_imitates word call, calledBack_imitates word call⟩
    · exact ⟨Imitates.done (), Imitates.done ()⟩
  exact ⟨Imitates.load (fun memory => (both memory).1),
    Imitates.load (fun memory => (both memory).2)⟩

/-! ## Every call -/

/-- A primitive is a callback or calls none. -/
theorem Primitive.imitates {routine : Routine α} (primitive : Primitive α routine) :
    Imitates (withAndWithout word outside) routine (reenter word routine) ∧
      Imitates (withAndWithout word outside).swap (reenter word routine) routine := by
  cases primitive with
  | fire call => exact fire_imitates word call
  | disconnect => exact clientDisconnect_quiescent.imitates
  | recv len =>
    exact (quiescent_of_keeps (fun _ => transportRecv_keeps (fun _ _ => rfl)
      (fun _ _ => trivial))).imitates
  | recvPixels offset len =>
    exact (quiescent_of_keeps (fun _ => transportRecvPixels_keeps (fun _ _ => rfl)
      (fun _ _ => rfl) (fun _ _ => trivial) (fun _ => trivial))).imitates
  | recvName len =>
    have overlooks : Overlooks Memory.standing (fun event => event.request.isCallback = false)
        (fun _ _ => True) := by
      constructor
      case missing => exact fun _ _ => trivial
      case overrun => exact fun _ _ => trivial
      all_goals intros; rfl
    exact (quiescent_of_keeps (fun _ => overlooks.transportRecvName len)).imitates
  | send data =>
    exact (quiescent_of_keeps (fun _ => transportSend_keeps (fun _ _ => rfl)
      (fun _ _ => trivial))).imitates
  | store request stored =>
    refine (quiescent_of_keeps (fun _ => Keeps.ask (fun _ _ _ => ?_))).imitates
    cases request <;> first | rfl | cases stored
  | change unseen => exact (quiescent_of_keeps (fun _ => Keeps.update unseen)).imitates

/-- Answering a request has no errors of its own: those of nested calls are the application's. -/
theorem reentrant_unfailing (word : WordSize) (request : Request) :
    Unfailing (reentrant word request) := by
  have reacts (reaction : Reaction) : Unfailing (react word reaction) := by
    induction reaction with
    | leave => trivial
    | makes call bound next inductionHypothesis =>
      exact (unfailing_attempt _).sequence inductionHypothesis
  cases request with
  | callback call =>
    exact fun reaction => (reacts reaction).sequence (fun _ => trivial)
  | _ => exact fun _ => trivial

/-- What is composed of primitives imitates its version with nested calls, and the other way
round. -/
theorem built_imitates (word : WordSize) {routine : Routine α} (built : Built routine) :
    Imitates (withAndWithout word outside) routine (reenter word routine) ∧
      Imitates (withAndWithout word outside).swap (reenter word routine) routine :=
  built.lifted (imitates_compositional (reentrant_unfailing word)) Primitive.imitates

/-- The routine of a call and the same routine with reactions in its callbacks imitate each other:
each exchange of the one is matched by an exchange of the other that looks the same. -/
theorem perform_imitates (word : WordSize) (bound : Nat) (call : ApiCall) :
    Imitates (withAndWithout word outside) (perform word bound call)
        (reenter word (perform word bound call)) ∧
      Imitates (withAndWithout word outside).swap (reenter word (perform word bound call))
        (perform word bound call) := by
  by_cases connecting : call = .connect
  · subst connecting
    exact (clientConnect_quiescent word).imitates
  · exact built_imitates word (perform_built word bound connecting)

/-- The same for `ovnc_client_destroy`, whose routine is not among those of the calls. -/
theorem clientDestroy_imitates (word : WordSize) :
    Imitates (withAndWithout word outside) clientDestroy (reenter word clientDestroy) ∧
      Imitates (withAndWithout word outside).swap (reenter word clientDestroy) clientDestroy :=
  built_imitates word clientDestroy_built

/-! ## Processes -/

/-- What an imitation says of an execution that has ended. -/
theorem imitates_matched {Req Req' B : Type} {Ans : Req → Type} {Ans' : Req' → Type}
    {comparison : Comparison Memory Ans Ans' B} {above : Program Memory Error Fault Req Ans Unit}
    {below : Program Memory Error Fault Req' Ans' Unit} (imitates : Imitates comparison above below)
    (result : Except Error Unit) {events : List (Event Memory Req' Ans')} {final : Memory}
    (held : comparison.held memory)
    (executed : Execution comparison.may' below memory events (Outcome.finished result) final) :
    comparison.held final ∧ ∃ events',
      Execution comparison.may above memory events' (Outcome.finished result) final ∧
        events'.flatMap comparison.seen = events.flatMap comparison.seen' := by
  have ended : Outcome.finished result ≠ .waiting ∧
      ∀ fault, Outcome.finished result ≠ .faulted fault := by
    rcases result with error | ⟨⟨⟩⟩ <;> simp [Outcome.finished]
  obtain ⟨matched, holds⟩ := (wp_iff _ _ _).mp (imitates memory held) _ _ _ executed ended.1
  exact ⟨holds ended.2, matched⟩

/-- Every run of the library is one of the library whose callbacks call it again, namely one where
nobody reacts. -/
theorem library_simulates_reentrant (word : WordSize)
    (outside : (request : Request) → Answer request → Prop) :
    (Level.library word (CallsBack outside)).Simulates (reentrantLevel word outside)
      requestSights reentrantSights Client.Attached where
  fresh _ _ _ connected := absurd connected (by simp [freshClient])
  performs attached performed := by
    obtain ⟨bound, executed⟩ := performed
    obtain ⟨kept, events', above, same⟩ :=
      imitates_matched (perform_imitates word bound _).1 _ attached executed
    exact ⟨kept, events', ⟨bound, above⟩, same⟩
  destroys attached performed :=
    (imitates_matched (clientDestroy_imitates word).1 (.ok ()) attached performed).2

/-- Every run with reactions looks like a run without them, where the disconnects that the
reactions ask for are the answers of the callbacks. -/
theorem reentrant_simulates_library (word : WordSize)
    (outside : (request : Request) → Answer request → Prop) :
    (reentrantLevel word outside).Simulates (Level.library word (CallsBack outside))
      reentrantSights requestSights Client.Attached where
  fresh _ _ _ connected := absurd connected (by simp [freshClient])
  performs attached performed := by
    obtain ⟨bound, executed⟩ := performed
    obtain ⟨kept, events', below, same⟩ :=
      imitates_matched (perform_imitates word bound _).2 _ attached executed
    exact ⟨kept, events', ⟨bound, below⟩, same⟩
  destroys attached performed :=
    (imitates_matched (clientDestroy_imitates word).2 (.ok ()) attached performed).2

/-- What can be seen of a process whose callbacks send and disconnect as they like, and the
clients and the count it comes to, are those of a process whose callbacks at most disconnect. -/
theorem reentrantReaches_iff (word : WordSize)
    (outside : (request : Request) → Answer request → Prop) (process : Process)
    (trace : List (Observation Sight)) :
    (∃ history, (reentrantLevel word outside).Reaches history process ∧
        history.map (Level.Action.observation reentrantSights) = trace) ↔
      ∃ history, (Level.library word (CallsBack outside)).Reaches history process ∧
        history.map (Level.Action.observation requestSights) = trace := by
  constructor
  · rintro ⟨history, reached, rfl⟩
    exact (library_simulates_reentrant word outside).reaches reached
  · rintro ⟨history, reached, rfl⟩
    exact (reentrant_simulates_library word outside).reaches reached

end OpenVnc
