import OpenVnc.Feed
import OpenVnc.HangUp

/-!
# The storage of the server's text

`handle_server_cut_text` allocates a block for the text and a terminating zero and then
receives as many bytes as the header announces. The size of the block is computed in 32
bits. For the largest length it wraps to zero and the text does not fit; for every other
length the text and its terminator lie inside the block.
-/

namespace OpenVnc

open Interaction Interaction.Program

/-- The callback that a request is, if it is one. -/
def Request.callback? : Request → Option Callback
  | .callback call => some call
  | _ => none

/-- The callbacks that have been called, in order. -/
def callbacksIn (events : List Step) : List Callback :=
  events.filterMap (fun event => event.request.callback?)

/-- The text of the given length has been received completely. An empty text needs no receive. -/
def TextReceived (length : Nat) (events : List Step) : Prop :=
  0 < length → ∃ memory payload, ⟨memory, .recv length, RecvAnswer.complete payload⟩ ∈ events

/-- What is promised of a text of the given length by the events after its header: no byte
is stored outside the block, the application is given the received bytes and a zero, and
nothing is received when there is no block. Once the text has been received completely, the
callback, if it is set, is called once; at most its answer is then waited for. -/
structure TextStored (set : Bool) (length : Nat) (events : List Step)
    (outcome : Outcome Error Fault Unit) : Prop where
  inside : outcome ≠ .faulted (.outOfBounds .serverText)
  delivered : ∀ event ∈ events, ∀ text count,
    event.request = .callback (.serverCutText text count) →
      ∃ payload, text = payload ++ [0] ∧ payload.length = length ∧ count.toNat = length ∧
        (0 < length → ∃ memory, ⟨memory, .recv length, RecvAnswer.complete payload⟩ ∈ events)
  notified : TextReceived length events → set = true ∧ outcome = .waiting ∨
    outcome = .returned () ∧
      if set then ∃ text count, callbacksIn events = [.serverCutText text count]
      else callbacksIn events = []
  refused : ∀ memory size, ⟨memory, .malloc size, false⟩ ∈ events →
    (∃ error, outcome = .failed error) ∧ ∀ event ∈ events, ∀ len, event.request ≠ .recv len

/-- `handle_server_cut_text` after its header. -/
def receiveServerText (length : UInt32) : Routine Unit :=
  if 0 < length then do
    let capacity := (length + 1).toNat
    let allocated : Bool ← ask (Request.malloc capacity)
    failIf (allocated = false) .nomem
    faultIf (capacity < length.toNat) (.outOfBounds .serverText)
    let text ← transportRecv length.toNat
    faultIf (capacity ≤ length.toNat) (.outOfBounds .serverText)
    fire (.serverCutText (text ++ [0]) length)
  else
    fire (.serverCutText [0] length)

/-- The routine is the header of seven bytes and what is done with the length in its last four. -/
theorem handleServerCutText_eq : handleServerCutText =
    transportRecv 7 >>= fun header => receiveServerText (readU32 (header.drop 3)) := rfl

section Storing

variable {memory : Memory} {transport : Transport} {length : UInt32}

/-- A callback is called once if it is set, whatever the application does in it. Nothing but
a callback that is set is waited for. -/
theorem fire_calls {may : (request : Request) → Answer request → Prop} (call : Callback) :
    (fire call).wp may (fun events outcome _ =>
      memory.client.callbacks.has call = true ∧ outcome = .waiting ∨ outcome = .returned () ∧
        callbacksIn events = if memory.client.callbacks.has call then [call] else []) memory := by
  unfold fire
  simp only [bind_eq, wp_sequence, wp_load, wp_onlyIf, wp_ask, continuing_returned,
    continuing_waiting, List.nil_append]
  refine ⟨fun set => ⟨.inl ⟨set, trivial⟩, fun disconnects _ => ⟨fun _ => ?_, fun _ => ?_⟩⟩,
    fun unset => .inr ⟨trivial, ?_⟩⟩
  -- The application disconnects, for which only the socket is closed.
  · apply wp_mono (clientDisconnect_hangsUp memory)
    rintro events outcome final ⟨closes, ⟨rfl, -⟩ | ⟨rfl, -⟩⟩
    · exact .inl ⟨set, rfl⟩
    · have silent : callbacksIn events = [] := by
        apply List.filterMap_eq_nil_iff.mpr
        intro event member
        obtain ⟨-, sock, closing⟩ := closes event member
        rw [closing]
        rfl
      refine .inr ⟨rfl, ?_⟩
      rw [if_pos set]
      exact congrArg (List.cons call) silent
  · refine .inr ⟨trivial, ?_⟩
    rw [if_pos set]
    rfl
  · rw [if_neg unset]
    rfl

/-- Without an allocation, only what a callback is given matters. -/
theorem fire_stores {earlier : List Step} {payload : List UInt8}
    (allocated : ∀ memory size, ⟨memory, .malloc size, false⟩ ∉ earlier)
    (uncalled : ∀ event ∈ earlier, ∀ call, event.request ≠ .callback call)
    (size : payload.length = length.toNat)
    (received : 0 < length.toNat → ∃ memory,
      ⟨memory, .recv length.toNat, RecvAnswer.complete payload⟩ ∈ earlier) :
    (fire (.serverCutText (payload ++ [0]) length)).wp Allowed (fun events outcome _ =>
      TextStored memory.client.callbacks.serverCutText length.toNat (earlier ++ events) outcome)
      memory := by
  have silent : callbacksIn earlier = [] := by
    apply List.filterMap_eq_nil_iff.mpr
    rintro ⟨seen, request, answer⟩ member
    cases request with
    | callback call => exact absurd rfl (uncalled _ member call)
    | _ => rfl
  apply wp_mono (wp_and (fire_ends _ memory) (fire_calls _))
  rintro events outcome final ⟨⟨asks, ended⟩, calls⟩
  constructor
  case inside =>
    rcases ended with ⟨rfl, -⟩ | ⟨rfl, -⟩
    · exact nofun
    · exact nofun
  case delivered =>
    intro event member text count called
    rcases List.mem_append.mp member with before | after
    · exact absurd called (uncalled event before _)
    · rcases (asks event after).2 with same | ⟨sock, closing⟩
      · rw [same] at called
        cases called
        refine ⟨payload, rfl, size, rfl, fun some => ?_⟩
        obtain ⟨seen, held⟩ := received some
        exact ⟨seen, List.mem_append_left _ held⟩
      · rw [closing] at called
        cases called
  case notified =>
    intro _
    have after : callbacksIn (earlier ++ events) = callbacksIn events := by
      rw [callbacksIn, List.filterMap_append]
      exact congrArg (· ++ callbacksIn events) silent
    rcases calls with waits | ⟨rfl, calls⟩
    · exact .inl waits
    · refine .inr ⟨rfl, ?_⟩
      rw [after, calls]
      cases set : memory.client.callbacks.serverCutText with
      | false => exact if_neg (by simp [ClientCallbacks.has, set])
      | true => exact ⟨_, _, if_pos set⟩
  case refused =>
    intro seen size member
    rcases List.mem_append.mp member with before | after
    · exact absurd before (allocated seen size)
    · rcases (asks _ after).2 with same | ⟨sock, closing⟩
      · cases same
      · cases closing

/-- Nothing has been promised of the application as long as the text has not been received. -/
theorem TextStored.unreceived {set : Bool} {events : List Step}
    {outcome : Outcome Error Fault Unit} {wanted : Nat} (some : 0 < wanted)
    (inside : outcome ≠ .faulted (.outOfBounds .serverText))
    (silent : ∀ event ∈ events, ∀ call, event.request ≠ .callback call)
    (incomplete : ∀ memory payload, ⟨memory, .recv wanted, RecvAnswer.complete payload⟩ ∉ events)
    (refused : ∀ memory size, ⟨memory, .malloc size, false⟩ ∈ events →
      (∃ error, outcome = .failed error) ∧ ∀ event ∈ events, ∀ len, event.request ≠ .recv len) :
    TextStored set wanted events outcome where
  inside := inside
  delivered event member _ _ called := absurd called (silent event member _)
  notified received := by
    obtain ⟨memory, payload, member⟩ := received some
    exact absurd member (incomplete memory payload)
  refused := refused

/-- One more than any length but the largest is computed exactly. -/
theorem capacity_exact (smaller : length ≠ 0xFFFFFFFF) :
    (length + 1).toNat = length.toNat + 1 := by
  have bound := length.toNat_lt
  have other : length.toNat ≠ 2 ^ 32 - 1 := fun same =>
    smaller (UInt32.toNat_inj.mp same)
  rw [UInt32.toNat_add]
  exact Nat.mod_eq_of_lt (by simp only [UInt32.toNat_one]; omega)

/-- A text of any length but the largest fits its block. -/
theorem receiveServerText_stores (attached : memory.client.transport = some transport)
    (smaller : length ≠ 0xFFFFFFFF) :
    (receiveServerText length).wp Allowed (fun events outcome _ =>
      TextStored memory.client.callbacks.serverCutText length.toNat events outcome) memory := by
  have capacity := capacity_exact smaller
  unfold receiveServerText
  split
  · next nonempty =>
    have some : 0 < length.toNat := UInt32.lt_iff_toNat_lt.mp nonempty
    refine ⟨.unreceived some (by simp) (by simp) (by simp) (by simp), fun allocated _ => ?_⟩
    cases allocated with
    | false =>
      exact .unreceived some (by simp) (by simp) (by simp) (fun _ _ _ => ⟨⟨_, rfl⟩, by simp⟩)
    | true =>
      have fits : ¬ (length + 1).toNat < length.toNat := by omega
      have terminated : ¬ (length + 1).toNat ≤ length.toNat := by omega
      simp only [failIf, faultIf, if_neg fits, if_neg terminated]
      change (sequence (transportRecv length.toNat) _).wp Allowed _ memory
      rw [wp_sequence, wp_transportRecv]
      refine ⟨fun missing => ?_, fun _ _ => ⟨?_, fun text size => ?_, fun received error _ => ?_⟩⟩
      · rw [attached] at missing
        cases missing
      · exact .unreceived some (by simp) (by simp) (by simp) (by simp)
      · exact @fire_stores memory length [⟨memory, .malloc (length + 1).toNat, true⟩,
          ⟨memory, .recv length.toNat, RecvAnswer.complete text⟩] text (by simp) (by simp) size
          (fun _ => ⟨memory, by simp⟩)
      · exact .unreceived some (by simp) (by simp) (by simp) (by simp)
  · next nothing =>
    have empty : length.toNat = 0 := by
      rw [UInt32.lt_iff_toNat_lt] at nothing
      exact Nat.eq_zero_of_not_pos nothing
    have stored := @fire_stores memory length [] [] (by simp) (by simp) empty.symm
      (fun some => absurd some (by omega))
    simpa using stored

/-- The largest length: a block of no size is allocated, and the text is stored past it. -/
theorem receiveServerText_overruns :
    ¬ (receiveServerText 0xFFFFFFFF).wp Allowed
      (fun events outcome _ => TextStored memory.client.callbacks.serverCutText
        (0xFFFFFFFF : UInt32).toNat events outcome) memory := by
  intro stored
  have overrun := stored.2 true trivial
  exact overrun.inside rfl

end Storing

/-- For every header and every payload, whatever the allocator and the network answer: the
text with its terminator lies inside the block and is handed over complete, or nothing is
received, if and only if the announced length is not the largest. -/
theorem handleServerCutText_stores_iff {memory : Memory} {transport : Transport}
    (attached : memory.client.transport = some transport) {header : List UInt8}
    (size : header.length = 7) :
    (∀ events outcome final, Execution Allowed handleServerCutText memory
      (⟨memory, .recv 7, RecvAnswer.complete header⟩ :: events) outcome final →
        TextStored memory.client.callbacks.serverCutText (readU32 (header.drop 3)).toNat events
          outcome) ↔
      readU32 (header.drop 3) ≠ 0xFFFFFFFF := by
  have first : (∀ events outcome final, Execution Allowed handleServerCutText memory
      (⟨memory, .recv 7, RecvAnswer.complete header⟩ :: events) outcome final →
        TextStored memory.client.callbacks.serverCutText (readU32 (header.drop 3)).toNat events
          outcome) ↔
      (receiveServerText (readU32 (header.drop 3))).wp Allowed (fun events outcome _ =>
        TextStored memory.client.callbacks.serverCutText (readU32 (header.drop 3)).toNat events
          outcome) memory := by
    constructor
    · intro stored
      have all := (wp_iff handleServerCutText (fun all outcome _ => ∀ events,
        all = ⟨memory, .recv 7, RecvAnswer.complete header⟩ :: events →
          TextStored memory.client.callbacks.serverCutText (readU32 (header.drop 3)).toNat events
            outcome) memory).mpr
        (fun all outcome final executed events same =>
          stored events outcome final (same ▸ executed))
      rw [handleServerCutText_eq, bind_eq, wp_sequence, wp_transportRecv] at all
      apply wp_mono ((all.2 transport attached).2.1 header size)
      exact fun events outcome final held => held events rfl
    · intro stored events outcome final executed
      have all : handleServerCutText.wp Allowed (fun all outcome _ => ∀ events,
          all = ⟨memory, .recv 7, RecvAnswer.complete header⟩ :: events →
            TextStored memory.client.callbacks.serverCutText (readU32 (header.drop 3)).toNat events
              outcome) memory := by
        rw [handleServerCutText_eq, bind_eq, wp_sequence, wp_transportRecv]
        refine ⟨fun _ _ => nofun,
          fun _ _ => ⟨fun _ => nofun, fun bytes _ => ?_, fun _ _ _ _ => nofun⟩⟩
        by_cases same : bytes = header
        · subst same
          apply wp_mono stored
          rintro later outcome final held events ⟨⟩
          exact held
        · apply wp_always
          rintro later outcome final events ⟨⟩
          exact absurd rfl same
      exact (wp_iff _ _ _).mp all _ _ _ executed events rfl
  rw [first]
  constructor
  · intro stored largest
    rw [largest] at stored
    exact receiveServerText_overruns stored
  · exact receiveServerText_stores attached

/-- A connected client. -/
def textMemory : Memory :=
  ⟨{ plainClient { serverCutText := true } with state := .connected, transport := some ⟨3⟩ }, 1, 0⟩

/-- A text of two bytes. -/
theorem handleServerCutText_stores_two : readU32 [0, 0, 0, 2] = 2 ∧ ∀ events outcome final,
    Execution Allowed handleServerCutText textMemory
      (⟨textMemory, .recv 7, RecvAnswer.complete [0, 0, 0, 0, 0, 0, 2]⟩ :: events) outcome final →
        TextStored true 2 events outcome := by
  constructor
  · decide
  · apply (@handleServerCutText_stores_iff textMemory _ rfl [0, 0, 0, 0, 0, 0, 2] rfl).mpr
    decide

/-- A header that announces the largest text: an allocator that gives a block of no size
leaves the text no room. -/
theorem handleServerCutText_overruns :
    ¬ ∀ events outcome final, Execution Allowed handleServerCutText textMemory
      (⟨textMemory, .recv 7, RecvAnswer.complete [0, 0, 0, 255, 255, 255, 255]⟩ :: events) outcome
        final → TextStored true 0xFFFFFFFF events outcome := by
  intro stored
  have executed := run_execution plainHost.feed Allowed (fun request feed answer later answered =>
    (plainHost.feed_provisioned request feed answer later answered).1) handleServerCutText
    textMemory { unread := [0, 0, 0, 255, 255, 255, 255] }
  exact (stored _ _ _ executed).inside (by decide)

end OpenVnc
