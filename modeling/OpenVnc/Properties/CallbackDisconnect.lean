import OpenVnc.Properties.Lifecycle

/-!
# Disconnecting from inside a callback

`ovnc_client_run` tests the state of the client again after every message, so a
callback may disconnect it. The rectangle loop of `handle_fb_update` makes no such
test: when the callback of a rectangle disconnects and more rectangles of the message
are to come, the next one is read through the null transport. That is the only way in
which processing messages comes to use a null transport.
-/

namespace OpenVnc

open Interaction Interaction.Program

/-- A call that processes messages on any client of a reachable process, with any
behaviour of the server and of the callbacks, uses a null transport exactly when the
callback of a rectangle disconnected before the last rectangle of its message. -/
theorem receiving_nullTransport_iff {word : WordSize} {history : List Process.Action}
    {process : Process} (reached : Process.Reaches word Allowed history process) {handle : Nat}
    {client : Client} (live : process.client? handle = some client) {call : ApiCall}
    (receives : call.receives = true) {bound : Nat} {events : List Step}
    {outcome : Outcome Error Fault Unit} {final : Memory}
    (performed : Execution Allowed (perform word bound call) (process.memoryOf client) events
      outcome final) (finished : outcome ≠ .waiting) :
    outcome ≠ .faulted .nullTransport ↔ ∀ event ∈ events, premature event = false := by
  by_cases connected : client.state = .connected
  · have linked : client.Linked := reached.sound.linked handle client live
    obtain ⟨transport, attached⟩ := Option.isSome_iff_exists.mp (linked.mpr connected)
    have other : call ≠ .connect := by
      rintro rfl
      exact absurd receives (by decide)
    have ended : Performed call (process.memoryOf client) events outcome final :=
      (wp_iff _ _ _).mp (perform_connected word bound other attached connected) _ _ _ performed
    rw [Ne, ended.safe finished]
    simp
  · -- The call is refused: it asks for nothing.
    have refused : (perform word bound call).wp Allowed (fun events outcome _ =>
        events = [] ∧ outcome ≠ .faulted .nullTransport) (process.memoryOf client) := by
      apply perform_unconnected word bound _ connected
      · exact fun _ => ⟨rfl, nofun⟩
      · exact fun _ => ⟨rfl, nofun⟩
      · rintro rfl
        exact absurd receives (by decide)
    obtain ⟨rfl, safe⟩ := (wp_iff _ _ _).mp refused _ _ _ performed
    exact ⟨fun _ => by simp, fun _ => safe⟩

/-! ## Two rectangles and an impatient application -/

/-- A FramebufferUpdate that resizes the framebuffer twice. -/
def resizedTwice : List UInt8 :=
  [0, 0] ++ writeU16 2 ++ (writeU16 0 ++ writeU16 0 ++ writeU16 1 ++ writeU16 1 ++
    writeS32 encodingDesktopSize) ++ (writeU16 0 ++ writeU16 0 ++ writeU16 2 ++ writeU16 2 ++
    writeS32 encodingDesktopSize)

/-- The host with an application that disconnects in every callback. -/
def impatient : Handler Request Answer Feed
  | .callback call, feed => (some true, { feed with fired := feed.fired ++ [call] })
  | request, feed => plainHost.feed request feed

/-- The answers of the impatient host are allowed ones: a callback may disconnect. -/
theorem impatient_allowed (request : Request) (feed : Feed) (answer : Answer request)
    (later : Feed) (answered : impatient request feed = (some answer, later)) :
    Allowed request answer := by
  cases request with
  | callback => trivial
  | _ => exact (plainHost.feed_provisioned _ feed answer later answered).1

/-- The application of the example listens for new sizes only. -/
def resizeListener : ClientCallbacks := { desktopResize := true }

/-- Two new sizes arrive in one message, and the call goes through the null transport for the
second. -/
theorem impatient_faults :
    ((perform .bits64 0 .processMessage).run impatient (plainConnected resizeListener).2.1
      { unread := resizedTwice }).1 = .faulted .nullTransport := by decide

/-- The client of the example can be reached, and the call on it faults. -/
theorem impatient_execution : ∃ history process client events final,
    Process.Reaches .bits64 Allowed history process ∧ process.client? 0 = some client ∧
      Execution Allowed (perform .bits64 0 .processMessage) (process.memoryOf client) events
        (.faulted .nullTransport) final := by
  have returned : (plainConnected resizeListener).1 = .returned () := by decide
  obtain ⟨history, reached⟩ :=
    plainConnected_reaches (fun _ _ provisioned => provisioned.1) returned
  have execution := run_execution impatient Allowed impatient_allowed
    (perform .bits64 0 .processMessage) (plainConnected resizeListener).2.1
    { unread := resizedTwice }
  rw [impatient_faults] at execution
  exact ⟨history, _, _, _, _, reached, rfl, execution⟩

/-- The example meets the condition of the fault: a callback has disconnected the client before
the message was at its end. -/
theorem receiving_nullTransport_iff_impatient : ∃ process client events final,
    Execution Allowed (perform .bits64 0 .processMessage) (Process.memoryOf process client) events
        (.faulted .nullTransport) final ∧ ¬ ∀ event ∈ events, premature event = false := by
  obtain ⟨history, process, client, events, final, reached, live, faults⟩ := impatient_execution
  have early := (receiving_nullTransport_iff reached live rfl faults nofun).not
  exact ⟨process, client, events, final, faults, early.mp (by simp)⟩

/-- A reachable client, a message with two rectangles, and a callback that disconnects in
the first: the second rectangle is read through a null transport. -/
theorem disconnect_in_callback_unsafe :
    ¬ ∀ (history : List Process.Action) (process : Process) (handle : Nat) (client : Client)
      (call : ApiCall) (bound : Nat) (events : List Step) (outcome : Outcome Error Fault Unit)
      (final : Memory), Process.Reaches .bits64 Allowed history process →
      process.client? handle = some client → call.receives = true →
      Execution Allowed (perform .bits64 bound call) (process.memoryOf client) events outcome
        final → outcome ≠ .faulted .nullTransport := by
  intro safe
  obtain ⟨history, process, client, events, final, reached, live, faults⟩ := impatient_execution
  exact safe _ _ _ _ .processMessage 0 _ _ _ reached live rfl faults rfl

end OpenVnc
