import OpenVnc.Properties.Lifecycle
import OpenVnc.SendCalls

/-!
# Sending after a failed send

An error while a message is received disconnects the client. An error while one is sent
does not: the call reports it and leaves the client connected, and the next call that
sends goes on after however many bytes of the earlier message have gone out. What the
peer is sent is a beginning of complete messages as long as no message is sent on a
connected client after one that failed when partly written, and no list of encodings is
set that is longer than its count can tell.
-/

namespace OpenVnc

open Interaction Interaction.Program Codec

/-! ## One call -/

/-- What a call on a client that has been connected puts on the wire can be continued to
complete messages at any moment, and is complete when the call has returned. A call that
does not send, or is made without a connection, puts nothing on the wire. The messages
are those whose counts fit their fields. -/
structure Outgoing (call : ApiCall) (client : Client) (events : List Step)
    (outcome : Outcome Error Fault Unit) : Prop where
  unbroken : Unbroken WireMessage.encode (outgoing events)
  complete : outcome = .returned () → Complete WireMessage.encode (outgoing events)
  silent : call.sends = false ∨ client.state ≠ .connected → outgoing events = []

/-- A call that has sent nothing has sent a beginning of what it should. -/
theorem Outgoing.of_silent {call : ApiCall} {client : Client} {events : List Step}
    {outcome : Outcome Error Fault Unit} (silent : outgoing events = []) :
    Outgoing call client events outcome := by
  constructor
  case unbroken => exact silent ▸ Complete.nil.unbroken
  case complete => exact fun _ => silent ▸ .nil
  case silent => exact fun _ => silent

/-- What a call has sent, whatever becomes of it: the messages of its kind as far as the network
took them, and all of them when it returns. -/
theorem perform_outgoing {word : WordSize} {bound : Nat} {call : ApiCall} {memory final : Memory}
    {events : List Step} {outcome : Outcome Error Fault Unit} (linked : memory.client.Linked)
    (used : memory.client.state ≠ .created) (readable : call.Readable)
    (countable : call.Countable)
    (performed : Execution Allowed (perform word bound call) memory events outcome final)
    (defined : ∀ fault, outcome ≠ .faulted fault) :
    Outgoing call memory.client events outcome := by
  by_cases connects : call = .connect
  · subst connects
    obtain ⟨rfl, -⟩ := (wp_iff _ _ _).mp (clientConnect_refused word used) _ _ _ performed
    exact .of_silent rfl
  by_cases connected : memory.client.state = .connected
  · cases sends : call.sends with
    | false =>
      obtain ⟨transport, attached⟩ := Option.isSome_iff_exists.mp (linked.mpr connected)
      have ended : Performed call memory events outcome final :=
        (wp_iff _ _ _).mp (perform_connected word bound connects attached connected) _ _ _ performed
      exact .of_silent (outgoing_unsent (ended.unsent sends))
    | true =>
      have silent :
          call.sends = false ∨ memory.client.state ≠ .connected → outgoing events = [] := by
        rintro (unsent | idle)
        · exact absurd (unsent.symm.trans sends) (by decide)
        · exact absurd connected idle
      have proceeds :=
        (wp_iff _ _ _).mp (perform_transfers word bound sends readable memory) _ _ _ performed
      have encodable : ∀ sender, call.sender memory.client.framebuffer = some sender →
          sender.message.Encodable := fun sender picked => countable.encodable picked
      cases outcome with
      | returned value =>
        have whole : Complete WireMessage.encode (outgoing events) :=
          WholeSender.complete encodable proceeds
        exact ⟨whole.unbroken, fun _ => whole, silent⟩
      | failed error => exact ⟨WithinSender.unbroken encodable proceeds, nofun, silent⟩
      | faulted fault => exact absurd rfl (defined fault)
      | waiting => exact ⟨WithinSender.unbroken encodable proceeds, nofun, silent⟩
  · have nothing : (perform word bound call).wp Allowed (fun events _ _ => events = []) memory :=
      perform_unconnected word bound connects connected (fun _ => rfl) (fun _ => rfl)
    obtain rfl := (wp_iff _ _ _).mp nothing _ _ _ performed
    exact .of_silent rfl

/-! ## Runs -/

namespace Process

/-- What a step sends over the connection of a client. -/
def Action.sentBy (handle : Nat) : Action → List UInt8
  | created => []
  | called other _ events _ | destroyed other events =>
      if other = handle then outgoing events else []

/-- The bytes the peer of a client is sent in a sequence of steps. -/
def streamOf (handle : Nat) (steps : List Action) : List UInt8 :=
  steps.flatMap (Action.sentBy handle)

/-- The step is a call on the client that failed with its message partly written. -/
def Action.Tears (handle : Nat) (action : Action) : Prop :=
  ∃ call events error, action = .called handle call events (.error error) ∧
    ¬ Complete WireMessage.encode (outgoing events)

/-- Every text passed in a call on the client is as long as the call says. -/
def Action.Readable (handle : Nat) (action : Action) : Prop :=
  ∀ call events result, action = .called handle call events result → call.Readable

/-- Every list of encodings set in a call on the client is one its message can count. -/
def Action.Countable (handle : Nat) (action : Action) : Prop :=
  ∀ call events result, action = .called handle call events result → call.Countable

/-- A process, and whether a call on the client of interest has failed with its message
partly written. -/
structure Watched where
  process : Process
  torn : Prop

/-- After such a failure a call that sends may not be made while the client is
connected. -/
def Watched.Cautious (watched : Watched) (handle : Nat) (call : ApiCall) : Prop :=
  watched.torn → ∀ client, watched.process.client? handle = some client →
    client.state = .connected → call.sends = false

/-- A step of a process in which all calls on the client are cautious. -/
structure CautiousStep (word : WordSize) (handle : Nat) (before : Watched) (action : Action)
    (after : Watched) : Prop where
  taken : Transition word Allowed before.process action after.process
  readable : action.Readable handle
  countable : action.Countable handle
  cautious : ∀ call events result, action = .called handle call events result →
    before.Cautious handle call
  torn : after.torn ↔ before.torn ∨ action.Tears handle

/-- A cautious call, which is noted if it tears. -/
theorem CautiousStep.of_called {word : WordSize} {handle : Nat} {before : Watched}
    {call : ApiCall} {events : List Step} {result : Except Error Unit} {after : Process}
    (taken : Transition word Allowed before.process (.called handle call events result) after)
    (readable : call.Readable) (countable : call.Countable)
    (cautious : before.Cautious handle call) :
    CautiousStep word handle before (.called handle call events result)
      ⟨after, before.torn ∨ Action.Tears handle (.called handle call events result)⟩ := by
  constructor
  case taken => exact taken
  case readable =>
    rintro _ _ _ called
    cases called
    exact readable
  case countable =>
    rintro _ _ _ called
    cases called
    exact countable
  case cautious =>
    rintro _ _ _ called
    cases called
    exact cautious
  case torn => exact Iff.rfl

/-- The invariant. The stream is complete, or its last message was not written to the end
and the failure has been noted; and the client is one that has been connected. -/
structure Continuable (handle : Nat) (steps : List Action) (watched : Watched) : Prop where
  sound : watched.process.Sound
  present : handle < watched.process.clients.length
  used : ∀ client, watched.process.client? handle = some client → client.state ≠ .created
  stream : Complete WireMessage.encode (streamOf handle steps) ∨
    watched.torn ∧ Unbroken WireMessage.encode (streamOf handle steps)

/-- What has been sent after a further step is what had been sent before, and what the step has
sent. -/
theorem streamOf_snoc (handle : Nat) (steps : List Action) (action : Action) :
    streamOf handle (steps ++ [action]) = streamOf handle steps ++ action.sentBy handle := by
  simp [streamOf]

/-- A stream that can be continued is unbroken. -/
theorem Continuable.unbroken {handle : Nat} {steps : List Action} {watched : Watched}
    (continuable : Continuable handle steps watched) :
    Unbroken WireMessage.encode (streamOf handle steps) :=
  continuable.stream.elim Complete.unbroken (fun broken => broken.2)

/-- What a cautious call may add to the stream at any moment. -/
theorem Continuable.append {handle : Nat} {steps : List Action} {watched : Watched}
    {client : Client} {call : ApiCall} {events : List Step} {outcome : Outcome Error Fault Unit}
    (continuable : Continuable handle steps watched)
    (live : watched.process.client? handle = some client) (cautious : watched.Cautious handle call)
    (added : Outgoing call client events outcome) :
    Unbroken WireMessage.encode (streamOf handle steps ++ outgoing events) ∧
      (Complete WireMessage.encode (streamOf handle steps) ∨ outgoing events = []) := by
  rcases continuable.stream with complete | ⟨torn, unbroken⟩
  · exact ⟨complete.append_unbroken added.unbroken, .inl complete⟩
  · have silent : outgoing events = [] := by
      apply added.silent
      by_cases connected : client.state = .connected
      · exact .inl (cautious torn client live connected)
      · exact .inr connected
    rw [silent, List.append_nil]
    exact ⟨unbroken, .inr rfl⟩

/-- A client that has been connected keeps its handle and is never created again. -/
theorem Continuable.keeps_used {word : WordSize} {handle : Nat} {steps : List Action}
    {watched : Watched} {action : Action} {after : Process}
    (continuable : Continuable handle steps watched)
    (taken : StepSound word watched.process action after) :
    handle < after.clients.length ∧
      ∀ client, after.client? handle = some client → client.state ≠ .created := by
  obtain ⟨grows, moved⟩ := taken.evolves
  refine ⟨Nat.lt_of_lt_of_le continuable.present grows, fun client live created => ?_⟩
  obtain ⟨earlier, lived, moves⟩ := moved handle continuable.present client live
  rw [created] at moves
  exact continuable.used earlier lived moves.of_created

/-- What an action may add to the stream: nothing, complete messages after complete ones,
or the beginning of a message in a call that tears. -/
def Adds (handle : Nat) (steps : List Action) (action : Action) : Prop :=
  action.sentBy handle = [] ∨
    Complete WireMessage.encode (streamOf handle (steps ++ [action])) ∨
    action.Tears handle ∧ Unbroken WireMessage.encode (streamOf handle (steps ++ [action]))

/-- A cautious call on the client itself. -/
theorem Continuable.adds_called {word : WordSize} {handle bound : Nat} {steps : List Action}
    {watched : Watched} {client : Client} {call : ApiCall} {events : List Step}
    {result : Except Error Unit} {final : Memory} (continuable : Continuable handle steps watched)
    (live : watched.process.client? handle = some client) (readable : call.Readable)
    (countable : call.Countable) (cautious : watched.Cautious handle call)
    (performed : Execution Allowed (perform word bound call) (watched.process.memoryOf client)
      events
      (Outcome.finished result) final) :
    Adds handle steps (.called handle call events result) := by
  have defined : ∀ fault, Outcome.finished result ≠ .faulted fault := by
    intro fault
    rcases result with error | ⟨⟨⟩⟩ <;> exact nofun
  have added := perform_outgoing (continuable.sound.linked handle client live)
    (continuable.used client live) readable countable performed defined
  have same : (Action.called handle call events result).sentBy handle = outgoing events :=
    if_pos rfl
  unfold Adds
  rw [streamOf_snoc, same]
  obtain ⟨unbroken, complete | silent⟩ := continuable.append live cautious added
  · by_cases whole : Complete WireMessage.encode (outgoing events)
    · exact .inr (.inl (complete.append whole))
    · rcases result with error | ⟨⟨⟩⟩
      · exact .inr (.inr ⟨⟨call, events, error, rfl, whole⟩, unbroken⟩)
      · exact absurd (added.complete rfl) whole
  · exact .inl silent

/-- Any step in which the calls on the client are cautious. -/
theorem Continuable.adds {word : WordSize} {handle : Nat} {steps : List Action}
    {before after : Watched} {action : Action} (continuable : Continuable handle steps before)
    (stepped : CautiousStep word handle before action after) : Adds handle steps action := by
  obtain ⟨taken, readable, countable, cautious, -⟩ := stepped
  have elsewhere {other : Nat} {call : ApiCall} {events : List Step} {result : Except Error Unit}
      (another : other ≠ handle) : Adds handle steps (.called other call events result) :=
    .inl (if_neg another)
  generalize after.process = process' at taken
  cases taken with
  | create => exact .inl rfl
  | @returned other client call bound events final live performed =>
    by_cases same : other = handle
    · subst same
      exact continuable.adds_called live (readable _ _ _ rfl) (countable _ _ _ rfl)
        (cautious _ _ _ rfl) performed
    · exact elsewhere same
  | @failed other client call bound events final error live performed =>
    by_cases same : other = handle
    · subst same
      exact continuable.adds_called live (readable _ _ _ rfl) (countable _ _ _ rfl)
        (cautious _ _ _ rfl) performed
    · exact elsewhere same
  | destroy live performed =>
    have ended := (wp_iff _ _ _).mp (clientDestroy_ends _) _ _ _ performed
    refine .inl ?_
    simp [Action.sentBy, outgoing_unsent ended.unsent]

/-- One step. -/
theorem Continuable.step {word : WordSize} {handle : Nat} {steps : List Action}
    {before after : Watched} {action : Action} (continuable : Continuable handle steps before)
    (stepped : CautiousStep word handle before action after) :
    Continuable handle (steps ++ [action]) after := by
  obtain ⟨sound, moved⟩ := continuable.sound.step stepped.taken
  obtain ⟨present, used⟩ := continuable.keeps_used moved
  refine ⟨sound, present, used, ?_⟩
  rcases continuable.adds stepped with silent | complete | ⟨tears, unbroken⟩
  · rw [streamOf_snoc, silent, List.append_nil]
    exact continuable.stream.imp_right (fun broken => ⟨stepped.torn.mpr (.inl broken.1), broken.2⟩)
  · exact .inl complete
  · exact .inr ⟨stepped.torn.mpr (.inr tears), unbroken⟩

end Process

/-- After any cautious run from a connected client, and at every moment of a further
cautious call, the peer has been sent the beginning of complete messages. In a cautious
run the lists of encodings can be counted. -/
theorem cautious_unbroken {word : WordSize} {history : List Process.Action} {start : Process}
    (reached : Process.Reaches word Allowed history start) {handle : Nat} {client : Client}
    (live : start.client? handle = some client) (connected : client.state = .connected)
    {steps : List Process.Action} {watched : Process.Watched}
    (run : Run (Process.CautiousStep word handle) ⟨start, False⟩ steps watched) :
    Unbroken WireMessage.encode (Process.streamOf handle steps) ∧
      ∀ client call bound events outcome final, watched.process.client? handle = some client →
        ApiCall.Readable call → ApiCall.Countable call → watched.Cautious handle call →
        Execution Allowed (perform word bound call) (watched.process.memoryOf client) events outcome
          final → (∀ fault, outcome ≠ .faulted fault) →
        Unbroken WireMessage.encode (Process.streamOf handle steps ++ outgoing events) := by
  have initially : Process.Continuable handle [] ⟨start, False⟩ := by
    refine ⟨reached.sound, Process.client?_lt live, fun found same created => ?_, .inl .nil⟩
    obtain rfl := Option.some.inj (live.symm.trans same)
    exact absurd (created.symm.trans connected) (by decide)
  have continuable : Process.Continuable handle steps watched :=
    run.invariant _ initially (fun _ _ _ _ held stepped => held.step stepped)
  refine ⟨continuable.unbroken, ?_⟩
  intro client call bound events outcome final live readable countable cautious performed defined
  have added := perform_outgoing (continuable.sound.linked handle client live)
    (continuable.used client live) readable countable performed defined
  exact (continuable.append live cautious added).1

/-! ## A send that fails after three bytes -/

/-- A connection on which the first send fails after three bytes and the later ones
succeed. The world is whether a send has failed. -/
def faltering : Handler Request Answer Bool
  | .send data, false =>
      if 3 < data.length then (some (.stopped 3 .io), true) else (none, false)
  | .send _, true => (some .complete, true)
  | .socketClose _, failed => (some (), failed)
  | _, failed => (none, failed)

/-- The faltering network is one that the socket loops can present. -/
theorem faltering_allowed (request : Request) (failed : Bool) (answer : Answer request)
    (later : Bool) (answered : faltering request failed = (some answer, later)) :
    Allowed request answer := by
  cases request with
  | send data =>
    cases failed with
    | false =>
      simp only [faltering] at answered
      split at answered
      · next long =>
        obtain ⟨rfl, -⟩ := by simpa using answered
        exact ⟨long, by decide⟩
      · exact absurd answered (by simp)
    | true =>
      obtain ⟨rfl, -⟩ := by simpa [faltering] using answered
      trivial
  | socketClose => trivial
  | _ => exact absurd answered (by simp [faltering])

/-- A call on a client of which the connection falters. -/
def onFaltering (failed : Bool) (memory : Memory) (call : ApiCall) :
    List Step × Outcome Error Fault Unit × Memory :=
  ((perform .bits64 0 call).trace faltering memory failed,
    ((perform .bits64 0 call).run faltering memory failed).1,
    ((perform .bits64 0 call).run faltering memory failed).2.1)

/-- What is computed on this network is an execution of the call. -/
theorem onFaltering_execution (failed : Bool) (memory : Memory) (call : ApiCall) :
    Execution Allowed (perform .bits64 0 call) memory (onFaltering failed memory call).1
      (onFaltering failed memory call).2.1 (onFaltering failed memory call).2.2 :=
  run_execution faltering Allowed faltering_allowed _ _ _

/-- A key is pressed, and the message stops after three bytes. -/
def keyCut : List Step × Outcome Error Fault Unit × Memory :=
  onFaltering false (plainConnected {}).2.1 (.sendKeyEvent 0xff0d 1)

/-- The call of the key event reports the failure of its send. -/
theorem keyCut_failed : keyCut.2.1 = .failed .io := by decide

/-- Three of its eight bytes have gone out. -/
theorem keyCut_sent : outgoing keyCut.1 = [4, 1, 0] := by decide

/-- The pointer is moved next. -/
def pointerMoved : List Step × Outcome Error Fault Unit × Memory :=
  onFaltering true keyCut.2.2 (.sendPointerEvent 1 2 0)

/-- The call of the pointer event that follows returns. -/
theorem pointerMoved_returned : pointerMoved.2.1 = .returned () := by decide

/-- It has sent its whole message. -/
theorem pointerMoved_sent : outgoing pointerMoved.1 = [5, 0, 0, 1, 0, 2] := by decide

/-- The processes before and after the key event. -/
def beforeKey : Process :=
  ⟨[some (plainConnected {}).2.1.client], (plainConnected {}).2.1.platformInitCount⟩

/-- The process after the failed call: the client is still connected. -/
def afterKey : Process := ⟨[some keyCut.2.2.client], keyCut.2.2.platformInitCount⟩

/-- The failed call as a step of the process. -/
def cutStep : Process.Action :=
  .called 0 (.sendKeyEvent 0xff0d 1) keyCut.1 (.error .io)

/-- It is a step that the process can take. -/
theorem cutStep_taken : Process.Transition .bits64 Allowed beforeKey cutStep afterKey := by
  have performed := onFaltering_execution false (plainConnected {}).2.1 (.sendKeyEvent 0xff0d 1)
  have failed : (onFaltering false (plainConnected {}).2.1 (.sendKeyEvent 0xff0d 1)).2.1 =
      .failed .io := keyCut_failed
  rw [failed] at performed
  exact .failed (rfl : beforeKey.client? 0 = some (plainConnected {}).2.1.client) performed

/-- The bytes of the cut key event are followed by those of the pointer event, which
leaves a key event with padding that is not zero, whatever messages have gone before. -/
theorem keyCut_breaks {earlier : List UInt8} (complete : Complete WireMessage.encode earlier) :
    ¬ Unbroken WireMessage.encode (earlier ++ ([4, 1, 0] ++ [5, 0, 0, 1, 0, 2])) := by
  intro unbroken
  obtain ⟨_ | ⟨⟨message, encodable⟩, messages⟩, rest, stream⟩ :=
    Grammar.unbroken_after complete unbroken
  · simp at stream
  · cases message <;> simp [WireMessage.encode, ClientMessage.encode] at stream

/-- A key event that fails after three bytes, then a pointer event that succeeds: the
peer is sent what no sequence of messages begins with. -/
theorem send_after_failure_breaks :
    ¬ ∀ (history : List Process.Action) (start finish : Process) (handle : Nat) (client : Client)
      (steps : List Process.Action), Process.Reaches .bits64 Allowed history start →
      start.client? handle = some client → client.state = .connected →
      (∀ action ∈ steps, action.Readable handle) →
      Run (Process.Transition .bits64 Allowed) start steps finish →
      Unbroken WireMessage.encode (Process.streamOf handle steps) := by
  intro unbroken
  obtain ⟨history, reached⟩ :=
    plainConnected_reaches (fun _ _ provisioned => provisioned.1) plainConnected_returned.1
  have performed := onFaltering_execution true keyCut.2.2 (.sendPointerEvent 1 2 0)
  have returned : (onFaltering true keyCut.2.2 (.sendPointerEvent 1 2 0)).2.1 = .returned () :=
    pointerMoved_returned
  rw [returned] at performed
  have moved : Process.Transition .bits64 Allowed afterKey
      (.called 0 (.sendPointerEvent 1 2 0) pointerMoved.1 (.ok ())) _ :=
    .returned (rfl : afterKey.client? 0 = some keyCut.2.2.client) performed
  have stream := unbroken history beforeKey _ 0 _ _ reached rfl plainConnected_returned.2 ?_
    ((Run.nil.snoc cutStep_taken).snoc moved)
  · simp only [Process.streamOf, List.nil_append, List.cons_append, List.flatMap_cons,
      List.flatMap_nil, List.append_nil, Process.Action.sentBy, cutStep, if_true, keyCut_sent,
      pointerMoved_sent] at stream
    exact keyCut_breaks .nil stream
  · rintro action member call events result rfl
    simp only [List.nil_append, List.cons_append, List.mem_cons, cutStep,
      Process.Action.called.injEq, List.not_mem_nil, or_false] at member
    rcases member with ⟨-, rfl, -⟩ | ⟨-, rfl, -⟩ <;> trivial

/-- Disconnecting instead of sending on is cautious. -/
theorem cautious_unbroken_disconnecting : ∃ history steps watched,
    Process.Reaches .bits64 Allowed history beforeKey ∧
      Run (Process.CautiousStep .bits64 0) ⟨beforeKey, False⟩ steps watched ∧ watched.torn ∧
      Unbroken WireMessage.encode (Process.streamOf 0 steps) := by
  obtain ⟨history, reached⟩ :=
    plainConnected_reaches (fun _ _ provisioned => provisioned.1) plainConnected_returned.1
  have performed := onFaltering_execution true keyCut.2.2 .disconnect
  have returned : (onFaltering true keyCut.2.2 .disconnect).2.1 = .returned () := by decide
  rw [returned] at performed
  have disconnected : Process.Transition .bits64 Allowed afterKey
      (.called 0 .disconnect (onFaltering true keyCut.2.2 .disconnect).1 (.ok ())) _ :=
    .returned (rfl : afterKey.client? 0 = some keyCut.2.2.client) performed
  have tears : cutStep.Tears 0 := by
    refine ⟨_, _, _, rfl, ?_⟩
    rw [keyCut_sent]
    rintro ⟨_ | ⟨⟨message, encodable⟩, messages⟩, stream⟩
    · simp at stream
    · cases message <;> simp [WireMessage.encode, ClientMessage.encode] at stream
  have first : Process.CautiousStep .bits64 0 ⟨beforeKey, False⟩ cutStep
      ⟨afterKey, False ∨ cutStep.Tears 0⟩ :=
    .of_called cutStep_taken trivial trivial False.elim
  have run := (Run.nil.snoc first).snoc
    (.of_called disconnected trivial trivial (fun _ _ _ _ => rfl))
  exact ⟨history, _, _, reached, run, .inl (.inr tears),
    (cautious_unbroken reached rfl plainConnected_returned.2 run).1⟩

end OpenVnc
