import OpenVnc.HangUp

/-!
# What each call of the API does

One statement for each kind of call says how it can end: what becomes of the state,
the transport and the process-wide count, which errors are reported to the
`disconnected` callback, and when the null transport is used. The statements hold
whatever the server, the network and the allocator do, and whether or not the
application disconnects in its callbacks.
-/

namespace OpenVnc

open Interaction Interaction.Program

/-! ## Calls on a client that is not connected -/

section Unconnected

variable {may : (request : Request) → Answer request → Prop} {memory : Memory}

/-- The guard of a call returns on a connected client, and fails with the same error on any other.
It asks for nothing. -/
theorem wp_requireConnected (post : List Step → Outcome Error Fault Unit → Memory → Prop) :
    requireConnected.wp may post memory ↔
      (memory.client.state ≠ .connected → post [] (.failed .invalidArg) memory) ∧
        (memory.client.state = .connected → post [] (.returned ()) memory) := by
  unfold requireConnected
  simp only [bind_eq, wp_sequence, wp_load, continuing_returned, wp_failIf, List.append_nil,
    Decidable.not_not]

/-- A guarded routine on a client that is not connected is refused. It has asked for nothing by
then. -/
theorem requireConnected_refuses {following : Unit → Routine Unit}
    {post : List Step → Outcome Error Fault Unit → Memory → Prop}
    (idle : memory.client.state ≠ .connected) (refused : post [] (.failed .invalidArg) memory) :
    (requireConnected >>= following).wp may post memory := by
  rw [bind_eq, wp_sequence, wp_requireConnected]
  exact ⟨fun _ => refused, fun connected => absurd connected idle⟩

/-- Every call but `ovnc_client_connect` ends at once on a client that is not
connected, without a request and without a change. -/
theorem perform_unconnected (word : WordSize) (bound : Nat) {call : ApiCall}
    (other : call ≠ .connect) {post : List Step → Outcome Error Fault Unit → Memory → Prop}
    (idle : memory.client.state ≠ .connected)
    (nothing : call = .disconnect → post [] (.returned ()) memory)
    (refused : call ≠ .disconnect → post [] (.failed .invalidArg) memory) :
    (perform word bound call).wp may post memory := by
  cases call with
  | connect => exact absurd rfl other
  | disconnect =>
    unfold perform clientDisconnect
    simp only [bind_eq, wp_sequence, wp_load, continuing_returned, wp_onlyIf, List.append_nil]
    exact ⟨fun connected => absurd connected idle, fun _ => nothing rfl⟩
  | processMessage | run | requestUpdate | sendKeyEvent | sendPointerEvent | sendCutText =>
    exact requireConnected_refuses idle (refused (by simp))
  | setPixelFormat format =>
    cases format with
    | none => exact refused (by simp)
    | some format => exact requireConnected_refuses idle (refused (by simp))
  | setEncodings encodings =>
    cases encodings with
    | none => exact refused (by simp)
    | some encodings => exact requireConnected_refuses idle (refused (by simp))

end Unconnected

/-! ## Connecting -/

section Connecting

variable {may : (request : Request) → Answer request → Prop}

/-- Whether a request calls one of the application's callbacks. Allocating a framebuffer is not
counted among them. -/
def Request.isCallback : Request → Bool
  | .callback _ => true
  | _ => false

/-- Abandoning a connection attempt undoes what the attempt acquired. These are the transport,
the socket and the initialization of the platform. -/
theorem abandonConnect_ends (error : Error) {memory : Memory}
    (counted : 0 < memory.platformInitCount) :
    (abandonConnect error : Routine Unit).wp may (fun events outcome final =>
      Closes events ∧ (outcome = .waiting ∨ outcome = .failed error ∧
        final.standing = { memory.standing with
          transport := none, platformInitCount := memory.platformInitCount - 1 })) memory := by
  rw [abandonConnect, bind_eq, wp_sequence]
  apply wp_mono (transportDestroy_detaches memory)
  rintro events outcome final ⟨closes, ⟨rfl, -⟩ | ⟨rfl, rfl⟩⟩
  · exact ⟨fun event member => (closes event member).2, .inl rfl⟩
  · simp only [continuing_returned, bind_eq, wp_sequence, platformCleanup, wp_update, wp_fail,
      List.append_nil, counted, if_true]
    exact ⟨fun event member => (closes event member).2, .inr ⟨trivial, rfl⟩⟩

/-- The end of `ovnc_client_connect` on a fresh client: connected with a transport and
counted, or as before. -/
structure ConnectEnded (memory : Memory) (events : List Step) (outcome : Outcome Error Fault Unit)
    (final : Memory) : Prop where
  silent : ∀ event ∈ events, event.request.isCallback = false
  attached : outcome ≠ .faulted .nullTransport
  returned : outcome = .returned () → ∃ transport, final.standing = { memory.standing with
    state := .connected, transport := some transport
    platformInitCount := memory.platformInitCount + 1 }
  failed : ∀ error, outcome = .failed error → final.standing = memory.standing

/-- An attempt that is waited for, and that has called nobody, has ended as it should so far. -/
theorem ConnectEnded.of_waiting {memory final : Memory} {events : List Step}
    (silent : ∀ event ∈ events, event.request.isCallback = false) :
    ConnectEnded memory events .waiting final := ⟨silent, nofun, nofun, nofun⟩

/-- So has an attempt that failed, if it has called nobody and left the standing part as it was.
-/
theorem ConnectEnded.of_failed {memory final : Memory} {events : List Step} {error : Error}
    (silent : ∀ event ∈ events, event.request.isCallback = false)
    (same : final.standing = memory.standing) :
    ConnectEnded memory events (.failed error) final :=
  ⟨silent, nofun, nofun, fun _ _ => same⟩

/-- An abandoned attempt leaves the client as it was before the call. What the handshake has
recorded of the server stays, and so does the framebuffer. -/
theorem abandonConnect_connectEnded (error : Error) {memory middle : Memory} {earlier : List Step}
    {transport : Transport} (silent : ∀ event ∈ earlier, event.request.isCallback = false)
    (counted : 0 ≤ memory.platformInitCount) (detached : memory.client.transport = none)
    (opened : middle.standing = { memory.standing with
      transport := some transport, platformInitCount := memory.platformInitCount + 1 }) :
    (abandonConnect error : Routine Unit).wp may
      (fun later => ConnectEnded memory (earlier ++ later)) middle := by
  have count : middle.platformInitCount = memory.platformInitCount + 1 :=
    congrArg Standing.platformInitCount opened
  apply wp_mono (abandonConnect_ends error (by omega))
  rintro later outcome final ⟨closes, ended⟩
  have quiet : ∀ event ∈ earlier ++ later, event.request.isCallback = false := by
    intro event member
    rcases List.mem_append.mp member with before | after
    · exact silent event before
    · obtain ⟨sock, closing⟩ := closes event after
      rw [closing]
      rfl
  rcases ended with rfl | ⟨rfl, undone⟩
  · exact .of_waiting quiet
  · refine .of_failed quiet ?_
    rw [undone, opened, count, Int.add_sub_cancel, ← detached]
    rfl

/-- Events in which the server is dialled and nothing else happens. A failed attempt of it ends
the call. -/
def Dials (events : List Step) : Prop :=
  ∀ event ∈ events, ∃ host port timeoutMs, event.request = .socketConnect host port timeoutMs

/-- Dialling calls nobody back. -/
theorem Dials.silent {events : List Step} (dials : Dials events) :
    ∀ event ∈ events, event.request.isCallback = false := by
  intro event member
  obtain ⟨host, port, timeoutMs, dialled⟩ := dials event member
  rw [dialled]
  rfl

/-- Dialling changes the socket of the transport, or nothing. With an error the transport is
left with no socket. -/
theorem transportConnect_ends {memory : Memory} {transport : Transport}
    (attached : memory.client.transport = some transport) :
    transportConnect.wp may (fun events outcome final => Dials events ∧
      (outcome = .waiting ∨
        (∃ sock, outcome = .returned () ∧
          final.standing = { memory.standing with transport := some ⟨sock⟩ }) ∨
        ∃ error, outcome = .failed error ∧ final.standing = memory.standing)) memory := by
  unfold transportConnect
  simp only [bind_eq, wp_sequence, wp_derefTransport, continuing_faulted, continuing_returned,
    wp_load, wp_ask, continuing_waiting, List.nil_append]
  refine ⟨fun missing => absurd (attached.symm.trans missing) (by simp),
    fun _ _ => ⟨⟨by simp [Dials], .inl trivial⟩, fun answer _ => ?_⟩⟩
  cases answer with
  | ok sock => exact ⟨by simp [Dials], .inr (.inl ⟨sock, rfl, rfl⟩)⟩
  | error error => exact ⟨by simp [Dials], .inr (.inr ⟨error, rfl, rfl⟩)⟩

/-- The requests of a handshake are no callbacks. -/
theorem Request.not_callback_of_handshake {request : Request}
    (shakes : request.ofHandshake = true) : request.isCallback = false := by
  cases request <;> simp [ofHandshake, isCallback] at shakes ⊢

/-- The handshake of an attempt, after its dialling: when it returns, the client is connected with
the transport and the count that were there; when it fails, both are as they were before the
attempt. -/
theorem connectHandshake_ends (word : WordSize) {memory middle : Memory} {earlier : List Step}
    {transport : Transport} (silent : ∀ event ∈ earlier, event.request.isCallback = false)
    (counted : 0 ≤ memory.platformInitCount) (detached : memory.client.transport = none)
    (opened : middle.standing = { memory.standing with
      transport := some transport, platformInitCount := memory.platformInitCount + 1 }) :
    (connectHandshake word).wp may (fun later => ConnectEnded memory (earlier ++ later))
      middle := by
  have quiet {shaken : List Step} (within : ∀ event ∈ shaken,
      event.memory.standing = middle.standing ∧ event.request.ofHandshake = true) :
      ∀ event ∈ earlier ++ shaken, event.request.isCallback = false := fun event member =>
    (List.mem_append.mp member).elim (silent event)
      (fun after => Request.not_callback_of_handshake (within event after).2)
  refine wp_after_attempt (handshake_shakes word middle) ?_ ?_ ?_
    (fun _ _ held => .of_waiting (quiet held.2.1))
  · rintro shaken value final ⟨same, within, -⟩
    rw [wp_modifyClient, List.append_nil]
    refine ⟨quiet within, by simp, fun _ => ⟨transport, ?_⟩, by simp⟩
    have standing := same.trans opened
    simp only [Memory.standing, Standing.mk.injEq] at standing ⊢
    simp only [standing, and_self]
  · rintro shaken error final ⟨same, within, -⟩
    simp only [← List.append_assoc]
    exact abandonConnect_connectEnded error (quiet within) counted detached (same.trans opened)
  · rintro shaken fault final ⟨same, within, accepted⟩
    refine ⟨quiet within, fun faulted => ?_, by simp, by simp⟩
    have missing : middle.client.transport = none := accepted fault rfl (by simpa using faulted)
    exact absurd ((congrArg Standing.transport opened).symm.trans missing) (by simp)

/-- The dialling of an attempt, and what follows its end, under the same bookkeeping. What was
acquired before it is given back with it. -/
theorem connectTransport_ends (word : WordSize) {memory middle : Memory} {earlier : List Step}
    {transport : Transport} (silent : ∀ event ∈ earlier, event.request.isCallback = false)
    (counted : 0 ≤ memory.platformInitCount) (detached : memory.client.transport = none)
    (opened : middle.standing = { memory.standing with
      transport := some transport, platformInitCount := memory.platformInitCount + 1 }) :
    (connectTransport word).wp may (fun later => ConnectEnded memory (earlier ++ later))
      middle := by
  have quiet {dialled : List Step} (dials : Dials dialled) :
      ∀ event ∈ earlier ++ dialled, event.request.isCallback = false :=
    fun event member => (List.mem_append.mp member).elim (silent event) (dials.silent event)
  refine wp_after_attempt (transportConnect_ends (congrArg Standing.transport opened)) ?_ ?_ ?_
    (fun _ _ held => .of_waiting (quiet held.1))
  · rintro dialled value final ⟨within, waiting | ⟨sock, -, changed⟩ | ⟨error, failed, -⟩⟩
    · exact absurd waiting nofun
    · simp only [← List.append_assoc]
      exact connectHandshake_ends word (quiet within) counted detached
        (changed.trans (by rw [opened]))
    · exact absurd failed nofun
  · rintro dialled error final ⟨within, waiting | ⟨sock, returned, -⟩ | ⟨error, -, same⟩⟩
    · exact absurd waiting nofun
    · exact absurd returned nofun
    · simp only [← List.append_assoc]
      exact abandonConnect_connectEnded _ (quiet within) counted detached (same.trans opened)
  · rintro dialled fault final ⟨-, waiting | ⟨sock, returned, -⟩ | ⟨error, failed, -⟩⟩
    · exact absurd waiting nofun
    · exact absurd returned nofun
    · exact absurd failed nofun

/-- A client connects once. The state is looked at before anything else. -/
theorem clientConnect_refused (word : WordSize) {memory : Memory}
    (used : memory.client.state ≠ .created) :
    (clientConnect word).wp may (fun events outcome final =>
      events = [] ∧ outcome = .failed .invalidArg ∧ final = memory) memory := by
  unfold clientConnect
  simp only [bind_eq, wp_sequence, wp_load, continuing_returned, wp_failIf, continuing_failed]
  exact ⟨fun _ => ⟨rfl, trivial, trivial⟩, fun fresh => absurd fresh (by simpa using used)⟩

/-- A disconnected client is past every call. Every one of them is refused or has nothing to do.
-/
theorem perform_disconnected (word : WordSize) (bound : Nat) (call : ApiCall) {memory : Memory}
    (disconnected : memory.client.state = .disconnected) :
    (perform word bound call).wp may (fun _ _ final => final = memory) memory := by
  by_cases connecting : call = .connect
  · subst connecting
    apply wp_mono (clientConnect_refused word (by rw [disconnected]; decide))
    rintro events outcome final ⟨-, -, same⟩
    exact same
  · exact perform_unconnected word bound connecting (by rw [disconnected]; decide)
      (fun _ => rfl) (fun _ => rfl)

/-- `ovnc_client_connect` on a fresh client. Its two ends are a connected client and one that is
as it was before. -/
theorem clientConnect_ends (word : WordSize) {memory : Memory}
    (created : memory.client.state = .created) (detached : memory.client.transport = none)
    (counted : 0 ≤ memory.platformInitCount) :
    (clientConnect word).wp may (ConnectEnded memory) memory := by
  unfold clientConnect transportCreate
  simp only [bind_eq, wp_sequence, wp_load, continuing_returned, wp_failIf, wp_attempt, wp_ask,
    platformInit, wp_update, continuing_waiting, continuing_failed, wp_modifyClient,
    List.nil_append, List.append_nil]
  refine ⟨fun refused => absurd created refused, fun _ => ⟨.of_waiting (by simp), ?_⟩⟩
  rintro allocated -
  refine ⟨fun exhausted => ?_, fun obtained => ?_⟩
  · -- No transport: only the count is put back.
    have positive : memory.platformInitCount + 1 > 0 := by omega
    simp only [platformCleanup, wp_update, continuing_returned, wp_fail, positive, if_true,
      List.append_nil]
    refine .of_failed (by simp [Request.isCallback]) ?_
    simp only [Memory.standing, Int.add_sub_cancel]
  · exact connectTransport_ends word (by simp [Request.isCallback]) counted detached rfl

end Connecting

/-! ## Processing messages -/

/-- Whether a request sends. -/
def Request.isSend : Request → Bool
  | .send _ => true
  | _ => false

/-- Closing the connection sends nothing. -/
theorem Closes.unsent {events : List Step} (closes : Closes events) :
    ∀ event ∈ events, event.request.isSend = false := by
  intro event member
  obtain ⟨sock, closing⟩ := closes event member
  rw [closing]
  rfl

/-- The end of a call that processes messages on a connected client. A message that
could not be processed is reported once and the client is hung up; otherwise the
client is as it was, or the application hung it up. The null transport is used
exactly after a premature disconnection. -/
structure Served (memory : Memory) (events : List Step) (outcome : Outcome Error Fault Unit)
    (final : Memory) : Prop where
  safe : outcome ≠ .waiting →
    (outcome = .faulted .nullTransport ↔ ∃ event ∈ events, premature event = true)
  returned : outcome = .returned () → reasons events = [] ∧
    ((∀ event ∈ events, hangsUp event = false) ∧ final.standing = memory.standing ∨
      (∃ event ∈ events, hangsUp event = true) ∧ final.standing = memory.hungUp.standing)
  failed : ∀ error, outcome = .failed error →
    reasons events = (if memory.client.callbacks.disconnected then [error] else []) ∧
      final.standing = memory.hungUp.standing
  unsent : ∀ event ∈ events, event.request.isSend = false

/-- What a message asks for is not sent. Sending is left to the calls that send. -/
theorem AskedByMessage.unsent {request : Request} (asked : AskedByMessage request) :
    request.isSend = false := by
  rcases asked with decoding | ⟨sock, rfl⟩ | ⟨call, rfl, -⟩
  · cases request <;> simp [Request.ofDecoding, Request.isSend] at decoding ⊢
  · rfl
  · rfl

/-- Nor is what tearing down asks for. -/
theorem AskedByTearDown.unsent {request : Request} (asked : AskedByTearDown request) :
    request.isSend = false := by
  rcases asked with ⟨sock, rfl⟩ | ⟨reason, rfl⟩
  · rfl
  · rfl

/-- The decoding of a message reports no disconnection. That report is made by what tears the
connection down. -/
theorem reasons_of_message {events : List Step}
    (within : ∀ event ∈ events, AskedByMessage event.request) : reasons events = [] := by
  apply List.filterMap_eq_nil_iff.mpr
  intro event member
  rcases within event member with decoding | ⟨sock, closing⟩ | ⟨call, called, known⟩
  · generalize event.request = request at decoding
    cases request <;> simp [Request.ofDecoding] at decoding ⊢
  · rw [closing]
  · rw [called]
    cases call <;> simp [Callback.ofRect, Callback.ofMessage] at known ⊢

/-- The reported reasons of two lists of events are those of the first and then those of the
second. -/
theorem reasons_append (earlier later : List Step) :
    reasons (earlier ++ later) = reasons earlier ++ reasons later := List.filterMap_append

/-- A quiet message before a call that processes messages changes nothing about how
the call ends. -/
theorem Served.prepend {memory middle final : Memory} {earlier later : List Step}
    {outcome : Outcome Error Fault Unit} (served : Served middle later outcome final)
    (quiet : Quiet memory earlier) (same : middle.settled = memory.settled) :
    Served memory (earlier ++ later) outcome final where
  safe running := by
    rw [served.safe running]
    constructor
    · rintro ⟨event, member, early⟩
      exact ⟨event, List.mem_append_right _ member, early⟩
    · rintro ⟨event, member, early⟩
      rcases List.mem_append.mp member with before | after
      · exact absurd ⟨event, before, early⟩ quiet.not_premature
      · exact ⟨event, after, early⟩
  returned ended := by
    obtain ⟨told, ended⟩ := served.returned ended
    refine ⟨by rw [reasons_append,
        reasons_of_message (fun event member => (quiet event member).2.1),
      told, List.nil_append], ?_⟩
    rcases ended with ⟨still, kept⟩ | ⟨⟨event, member, hung⟩, kept⟩
    · refine .inl ⟨fun event member => ?_, kept.trans (congrArg Prod.fst same)⟩
      exact (List.mem_append.mp member).elim (fun before => (quiet event before).2.2) (still event)
    · exact .inr ⟨⟨event, List.mem_append_right _ member, hung⟩,
        kept.trans (congrArg Prod.fst (hungUp_settled same))⟩
  failed error ended := by
    obtain ⟨told, ended⟩ := served.failed error ended
    refine ⟨?_, ended.trans (congrArg Prod.fst (hungUp_settled same))⟩
    rw [reasons_append, reasons_of_message (fun event member => (quiet event member).2.1), told,
      List.nil_append, show middle.client.callbacks = memory.client.callbacks from
        congrArg (fun seen => seen.1.callbacks) same]
  unsent event member := by
    rcases List.mem_append.mp member with before | after
    · exact AskedByMessage.unsent (quiet event before).2.1
    · exact served.unsent event after

/-- A message that has been decoded, when the call returns with it. It may have been decoded up
to a callback that disconnected. -/
theorem Followed.served {memory final : Memory} {events : List Step}
    {outcome : Outcome Error Fault Unit} (followed : Followed memory events outcome final)
    (unfailed : ∀ error, outcome ≠ .failed error) : Served memory events outcome final where
  safe := followed.safe
  returned ended := by
    refine ⟨reasons_of_message (fun event member => (followed.within event member).2), ?_⟩
    rcases followed.ended with ⟨quiet, kept⟩ | ⟨hung, stopped⟩
    · exact .inl ⟨fun event member => (quiet event member).2.2, congrArg Prod.fst kept⟩
    · subst ended
      obtain ⟨-, kept⟩ := (stopped.resolve_left nofun).resolve_left nofun
      exact .inr ⟨hung, congrArg Prod.fst kept⟩
  failed error ended := absurd ended (unfailed error)
  unsent event member := AskedByMessage.unsent (followed.within event member).2

/-- A message that could not be decoded was quiet, and the client is torn down. So the report
comes after everything that was decoded. -/
theorem tearDown_served {memory middle : Memory} {events : List Step} {error : Error}
    (followed : Followed memory events (.failed error) middle) :
    (tearDown error : Routine Unit).wp Allowed
      (fun later => Served memory (events ++ later)) middle := by
  obtain ⟨quiet, settled⟩ : Quiet memory events ∧ middle.settled = memory.settled := by
    rcases followed.ended with quiet | ⟨-, waiting | faulted | ⟨returned, -⟩⟩
    · exact quiet
    · exact absurd waiting nofun
    · exact absurd faulted nofun
    · exact absurd returned nofun
  apply wp_mono (tearDown_ends error middle)
  rintro later outcome final ⟨asked, ended⟩
  refine Served.prepend ⟨fun running => ⟨fun faulted => ?_, ?_⟩, fun returned => ?_,
    fun reason failed => ?_, fun event member => (asked event member).unsent⟩ quiet settled
  · rcases ended with rfl | ⟨rfl, -⟩ <;> exact absurd faulted nofun
  · rintro ⟨event, member, early⟩
    exact absurd ((asked event member).not_premature.symm.trans early) (by decide)
  · rcases ended with rfl | ⟨rfl, -⟩ <;> exact absurd returned nofun
  · rcases ended with rfl | ⟨rfl, rfl, told⟩
    · exact absurd failed nofun
    · obtain rfl : error = reason := by simpa using failed
      exact ⟨told, rfl⟩

/-- `ovnc_client_process_message` on a connected client. The client may be disconnected by the
application or torn down by the library. -/
theorem clientProcessMessage_served (word : WordSize) {memory : Memory} {transport : Transport}
    (attached : memory.client.transport = some transport)
    (connected : memory.client.state = .connected) :
    (clientProcessMessage word).wp Allowed (Served memory) memory := by
  rw [clientProcessMessage, bind_eq, wp_sequence, wp_requireConnected]
  refine ⟨fun idle => absurd connected idle, fun _ => ?_⟩
  refine wp_after_attempt (recvServerMessage_followed word attached connected) ?_ ?_
    (fun _ _ _ followed => followed.served nofun) (fun _ _ followed => followed.served nofun)
  · intro events value final followed
    simpa using followed.served nofun
  · exact fun events error final followed => tearDown_served followed

/-- The loop of `ovnc_client_run`, by induction on the bound. A message after which
the client is still connected is quiet. -/
theorem runLoop_served (word : WordSize) (bound : Nat) {memory : Memory} {transport : Transport}
    (attached : memory.client.transport = some transport)
    (connected : memory.client.state = .connected) :
    (runLoop word bound).wp Allowed (Served memory) memory := by
  induction bound generalizing memory with
  | zero => exact ⟨fun running => absurd rfl running, by simp, (by simp), by simp⟩
  | succ bound inductionHypothesis =>
    simp only [runLoop, bind_eq, wp_sequence, wp_load, continuing_returned, connected, if_true]
    rw [← wp_sequence]
    refine wp_after_attempt (recvServerMessage_followed word attached connected) ?_ ?_
      (fun _ _ _ followed => followed.served (by simp))
      (fun _ _ followed => followed.served (by simp))
    · intro events value middle followed
      rcases followed.ended with ⟨quiet, settled⟩ | ⟨hung, stopped⟩
      · refine wp_mono (inductionHypothesis
          ((congrArg (fun seen => seen.1.transport) settled).trans attached)
          ((congrArg (fun seen => seen.1.state) settled).trans connected)) ?_
        exact fun later outcome final served => served.prepend quiet settled
      · -- The application hung up: the loop ends when it tests the state.
        obtain ⟨-, settled⟩ := (stopped.resolve_left (by simp)).resolve_left (by simp)
        have idle : middle.client.state ≠ .connected := by
          rw [show middle.client.state = memory.hungUp.client.state from
            congrArg (fun seen => seen.1.state) settled]
          simp [Memory.hungUp, connected]
        cases bound with
        | zero =>
          have unsent := (followed.served (by simp)).unsent
          exact ⟨fun running => absurd rfl running, by simp, (by simp), by simpa using unsent⟩
        | succ bound =>
          simp only [runLoop, bind_eq, wp_sequence, wp_load, continuing_returned, idle, if_false]
          simpa using followed.served (by simp)
    · exact fun events error final followed => tearDown_served followed

/-- `ovnc_client_run` on a connected client serves one message after another, until a callback has
disconnected or a message could not be processed. -/
theorem clientRun_served (word : WordSize) (bound : Nat) {memory : Memory} {transport : Transport}
    (attached : memory.client.transport = some transport)
    (connected : memory.client.state = .connected) :
    (clientRun word bound).wp Allowed (Served memory) memory := by
  rw [clientRun, bind_eq, wp_sequence, wp_requireConnected]
  exact ⟨fun idle => absurd connected idle, fun _ => runLoop_served word bound attached connected⟩

/-! ## Sending -/

section Sending

variable {may : (request : Request) → Answer request → Prop}

variable (may) in
/-- A routine that leaves the standing part alone and calls no callback but the
allocator. -/
abbrev Sends {α : Type} (routine : Routine α) : Prop :=
  Keeps may Memory.standing (fun event => event.request.isCallback = false) NullOnly routine

/-- A call that sends keeps every view, if adopting a pixel format does. The framebuffer is the
only part of the memory it can change. -/
theorem perform_transmits {V : Type} {view : Memory → V} {admitted : Step → Prop}
    {tolerated : V → Fault → Prop} (transmits : Transmits view admitted tolerated)
    (word : WordSize) (bound : Nat) {call : ApiCall} (sends : call.sends = true)
    (adopts : ∀ format, call = .setPixelFormat (some format) →
      Keeps may view admitted tolerated (adoptPixelFormat word format)) :
    Keeps may view admitted tolerated (perform word bound call) := by
  apply (perform_parts word bound sends).lifted (keeps_compositional transmits.overrun)
  intro _ _ part
  cases part with
  | transmit given => exact transmits.transmission given
  | adopt chosen usable => exact adopts _ chosen

/-- A call that sends leaves the standing part alone. The framebuffer may change. -/
theorem perform_sends (word : WordSize) (bound : Nat) {call : ApiCall} (sends : call.sends = true) :
    Sends may (perform word bound call) := by
  apply perform_transmits _ word bound sends
  · intro format _
    apply adoptPixelFormat_keeps (fun _ _ _ _ => rfl)
      (callAllocFramebuffer_keeps (fun _ _ _ => rfl) (fun _ _ => rfl))
    intro memory request answer decoding _
    cases request <;> first | rfl | cases decoding
  · constructor
    case missing => exact fun _ missing _ => missing
    case overrun => exact fun _ _ => nofun
    all_goals intros; rfl

end Sending

/-! ## Any call on a connected client -/

/-- The end of a call other than connect on a connected client. It collects what the other
results need of a call. -/
structure Performed (call : ApiCall) (memory : Memory) (events : List Step)
    (outcome : Outcome Error Fault Unit) (final : Memory) : Prop where
  safe : outcome ≠ .waiting →
    (outcome = .faulted .nullTransport ↔ ∃ event ∈ events, premature event = true)
  returned : outcome = .returned () → reasons events = [] ∧
    ((∀ event ∈ events, hangsUp event = false) ∧ call ≠ .disconnect ∧
        final.standing = memory.standing ∨
      (call = .disconnect ∨ ∃ event ∈ events, hangsUp event = true) ∧
        final.standing = memory.hungUp.standing)
  failed : ∀ error, outcome = .failed error →
    (call.receives = true →
      reasons events = (if memory.client.callbacks.disconnected then [error] else []) ∧
        final.standing = memory.hungUp.standing) ∧
    (call.receives = false → reasons events = [] ∧ final.standing = memory.standing)
  unsent : call.sends = false → ∀ event ∈ events, event.request.isSend = false

/-- A call that has served messages has performed what a call of its kind does. The other fields
of the end are empty for it. -/
theorem Served.performed {call : ApiCall} {memory final : Memory} {events : List Step}
    {outcome : Outcome Error Fault Unit} (served : Served memory events outcome final)
    (receives : call.receives = true) : Performed call memory events outcome final where
  safe := served.safe
  returned ended := by
    obtain ⟨told, stopped⟩ := served.returned ended
    refine ⟨told, stopped.imp (fun quiet => ⟨quiet.1, ?_, quiet.2⟩)
      (fun hung => ⟨.inr hung.1, hung.2⟩)⟩
    rintro rfl
    exact absurd receives (by decide)
  failed error ended := ⟨fun _ => served.failed error ended,
    fun other => absurd (other.symm.trans receives) (by decide)⟩
  unsent _ := served.unsent

/-- A step that is no callback is no disconnection and reports nothing. -/
theorem unseen_of_silent {events : List Step}
    (silent : ∀ event ∈ events, event.request.isCallback = false) :
    reasons events = [] ∧ ∀ event ∈ events, hangsUp event = false := by
  refine ⟨List.filterMap_eq_nil_iff.mpr (fun event member => ?_), fun event member => ?_⟩
  · have quiet := silent event member
    generalize event.request = request at quiet
    cases request <;> simp [Request.isCallback] at quiet ⊢
  · have quiet := silent event member
    obtain ⟨memory, request, answer⟩ := event
    cases request <;> simp [Request.isCallback, hangsUp] at quiet ⊢

/-- Every call but `ovnc_client_connect`, on a connected client. A client that is connected has
its transport. -/
theorem perform_connected (word : WordSize) (bound : Nat) {call : ApiCall}
    (other : call ≠ .connect) {memory : Memory} {transport : Transport}
    (attached : memory.client.transport = some transport)
    (connected : memory.client.state = .connected) :
    (perform word bound call).wp Allowed (Performed call memory) memory := by
  by_cases sends : call.sends = true
  · have unreceiving : call.receives = false := by cases call <;> first | rfl | cases sends
    have staying : call ≠ .disconnect := by rintro rfl; cases sends
    apply wp_mono (perform_sends word bound sends memory)
    rintro events outcome final ⟨same, within, accepted⟩
    obtain ⟨told, still⟩ := unseen_of_silent (fun event member => (within event member).2)
    refine ⟨fun _ => ⟨fun faulted => ?_, ?_⟩, fun _ => ⟨told, .inl ⟨still, staying, same⟩⟩,
      fun error _ => ⟨fun receives => ?_, fun _ => ⟨told, same⟩⟩,
      fun silent => absurd (silent.symm.trans sends) (by decide)⟩
    · exact absurd (attached.symm.trans (accepted _ faulted rfl)) (by simp)
    · rintro ⟨event, member, early⟩
      exact absurd ((still event member).symm.trans (hangsUp_of_premature early)) (by decide)
    · exact absurd (unreceiving.symm.trans receives) (by decide)
  cases call with
  | connect => exact absurd rfl other
  | disconnect =>
    apply wp_mono (clientDisconnect_hangsUp memory)
    rintro events outcome final ⟨closes, ended⟩
    have closing : Closes events := fun event member => (closes event member).2
    refine ⟨fun running => ⟨fun faulted => ?_, ?_⟩, fun returned => ⟨closing.unseen.1, ?_⟩,
      fun error failed => ?_, fun _ => closing.unsent⟩
    · rcases ended with ⟨rfl, -⟩ | ⟨rfl, -⟩ <;> exact absurd faulted nofun
    · rintro ⟨event, member, early⟩
      exact absurd ((closing.unseen.2 event member).symm.trans early) (by decide)
    · rcases ended with ⟨rfl, -⟩ | ⟨-, rfl⟩
      · exact absurd returned nofun
      · exact .inr ⟨.inl rfl, rfl⟩
    · rcases ended with ⟨rfl, -⟩ | ⟨rfl, -⟩ <;> exact absurd failed nofun
  | processMessage =>
    exact wp_mono (clientProcessMessage_served word attached connected)
      (fun _ _ _ served => served.performed rfl)
  | run =>
    exact wp_mono (clientRun_served word bound attached connected)
      (fun _ _ _ served => served.performed rfl)
  | requestUpdate | sendKeyEvent | sendPointerEvent | sendCutText | setPixelFormat | setEncodings =>
    exact absurd rfl sends

end OpenVnc
