import OpenVnc.Frame

/-!
# Callbacks in which the application disconnects

A callback can disconnect the client while a message is being decoded. Each routine
below the rectangle loop calls at most one callback, and calls it last, so it ends
either with everything but the framebuffer as it was, or with the client hung up and
nothing left to do. The rectangle loop goes on: after a callback that hung up, the
next rectangle is read through a null transport.
-/

namespace OpenVnc

open Interaction Interaction.Program

/-- Whether an answered request is a callback in which the application disconnected. It is the
one thing an application does to the client in a callback. -/
def hangsUp (event : Step) : Bool :=
  match event with
  | ⟨_, .callback _, answer⟩ => answer
  | _ => false

/-- The memory after `ovnc_client_disconnect`. A client that is not connected is left as it is.
-/
def Memory.hungUp (memory : Memory) : Memory :=
  if memory.client.state = .connected then
    { memory with
      client := { memory.client with transport := none, state := .disconnected }
      platformInitCount :=
        if memory.platformInitCount > 0 then memory.platformInitCount - 1
        else memory.platformInitCount }
  else memory

/-- Hanging up looks at what is settled only. The framebuffer and the position in the loop do
not enter it. -/
theorem hungUp_settled {left right : Memory} (same : left.settled = right.settled) :
    left.hungUp.settled = right.hungUp.settled := by
  have state : left.client.state = right.client.state := congrArg (fun seen => seen.1.state) same
  have count : left.platformInitCount = right.platformInitCount :=
    congrArg (fun seen => seen.1.platformInitCount) same
  unfold Memory.hungUp
  rw [state, count]
  split
  · simp only [Memory.settled, Memory.standing, Prod.mk.injEq, Standing.mk.injEq] at same ⊢
    simp only [same, and_self]
  · exact same

/-- Hanging up leaves the framebuffer alone. -/
theorem hungUp_framebuffer (memory : Memory) :
    memory.hungUp.client.framebuffer = memory.client.framebuffer := by
  unfold Memory.hungUp
  split <;> rfl

/-- Hanging up leaves the position in the rectangle loop. -/
theorem hungUp_pendingRects (memory : Memory) :
    memory.hungUp.pendingRects = memory.pendingRects := by
  unfold Memory.hungUp
  split <;> rfl

/-- What the decoding of a rectangle leaves alone it leaves alone as well after a hang-up. It is
put to use in each decoder of a rectangle. -/
theorem hungUp_placed {left right : Memory} (same : left.placed = right.placed) :
    left.hungUp.placed = right.hungUp.placed := by
  apply Prod.ext (hungUp_settled (congrArg Prod.fst same))
  change left.hungUp.pendingRects = right.hungUp.pendingRects
  rw [hungUp_pendingRects, hungUp_pendingRects]
  exact congrArg Prod.snd same

/-- A client is hung up once. Two callbacks that disconnect have the effect of the first. -/
theorem hungUp_hungUp (memory : Memory) : memory.hungUp.hungUp = memory.hungUp := by
  unfold Memory.hungUp
  by_cases connected : memory.client.state = .connected <;> simp [connected]

section Disconnecting

variable {may : (request : Request) → Answer request → Prop}

/-- Destroying the transport leaves the pointer null. The socket is closed on the way, if there
is one. -/
theorem transportDestroy_detaches (memory : Memory) :
    transportDestroy.wp may (fun events outcome final =>
      (∀ event ∈ events, event.memory = memory ∧ ∃ sock, event.request = .socketClose sock) ∧
      (outcome = .waiting ∧ final = memory ∨ outcome = .returned () ∧
        final = { memory with client := { memory.client with transport := none } })) memory := by
  unfold transportDestroy
  simp only [bind_eq, pure_eq, wp_sequence, wp_load, continuing_returned]
  cases attached : memory.client.transport with
  | none =>
    refine ⟨by simp, .inr ⟨rfl, ?_⟩⟩
    rw [← attached]
  | some transport =>
    simp only [wp_sequence, wp_onlyIf, wp_ask, continuing_returned, continuing_waiting, wp_done,
      wp_modifyClient, List.append_nil, List.nil_append]
    refine ⟨fun _ => ⟨by simp, fun _ _ => ?_⟩, fun _ => by simp⟩
    exact ⟨by simp, by simp⟩

/-- Disconnecting asks for nothing but the close of the socket, and asks that before
it changes anything. -/
theorem clientDisconnect_hangsUp (memory : Memory) :
    clientDisconnect.wp may (fun events outcome final =>
      (∀ event ∈ events, event.memory = memory ∧ ∃ sock, event.request = .socketClose sock) ∧
      (outcome = .waiting ∧ final = memory ∨ outcome = .returned () ∧ final = memory.hungUp))
      memory := by
  unfold clientDisconnect
  simp only [bind_eq, wp_sequence, wp_load, continuing_returned, wp_onlyIf, List.nil_append]
  refine ⟨fun connected => ?_, fun idle => ⟨by simp, .inr ⟨trivial, by simp [Memory.hungUp, idle]⟩⟩⟩
  -- After the transport is gone, two updates remain.
  apply wp_mono (transportDestroy_detaches memory)
  rintro events outcome final ⟨within, ⟨rfl, rfl⟩ | ⟨rfl, rfl⟩⟩
  · exact ⟨within, .inl ⟨rfl, rfl⟩⟩
  · simp only [continuing_returned, wp_sequence, wp_modifyClient, platformCleanup, wp_update,
      List.append_nil]
    refine ⟨within, .inr ⟨trivial, ?_⟩⟩
    simp only [Memory.hungUp, connected, if_true]
    split <;> rfl

/-- A callback asks for itself, and for the close of the socket if the application
disconnects. It neither fails nor faults, and changes nothing but what disconnecting does. -/
theorem fire_ends (call : Callback) (memory : Memory) :
    (fire call).wp may (fun events outcome final =>
      (∀ event ∈ events, event.memory = memory ∧
        (event.request = .callback call ∨ ∃ sock, event.request = .socketClose sock)) ∧
      (outcome = .waiting ∧ final = memory ∨
        outcome = .returned () ∧ (final = memory ∨ final = memory.hungUp))) memory := by
  unfold fire
  simp only [bind_eq, wp_sequence, wp_load, wp_onlyIf, wp_ask, continuing_returned,
    continuing_waiting, List.nil_append]
  refine ⟨fun _ => ⟨by simp, fun disconnects _ => ⟨fun _ => ?_, fun _ => by simp⟩⟩,
    fun _ => by simp⟩
  -- The application disconnects.
  apply wp_mono (clientDisconnect_hangsUp memory)
  rintro events outcome final ⟨closes, ended⟩
  constructor
  · intro event member
    rcases List.mem_cons.mp member with rfl | later
    · exact ⟨rfl, .inl rfl⟩
    · exact ⟨(closes event later).1, .inr (closes event later).2⟩
  · rcases ended with ⟨rfl, rfl⟩ | ⟨rfl, rfl⟩
    · exact .inl ⟨rfl, rfl⟩
    · exact .inr ⟨rfl, .inr rfl⟩

section Keeping

variable {V : Type} {view : Memory → V} {admitted : Step → Prop} {tolerated : V → Fault → Prop}

/-- Disconnecting keeps every view that does not see it. The closes of sockets have to be
admitted. -/
theorem clientDisconnect_keeps
    (closed : ∀ memory sock answer, admitted ⟨memory, .socketClose sock, answer⟩)
    (unseen : ∀ memory : Memory, view memory.hungUp = view memory) :
    Keeps may view admitted tolerated clientDisconnect := by
  intro memory
  apply wp_mono (clientDisconnect_hangsUp memory)
  rintro events outcome final ⟨closes, ended⟩
  have within : ∀ event ∈ events, view event.memory = view memory ∧ admitted event := by
    intro event member
    obtain ⟨same, sock, closing⟩ := closes event member
    obtain ⟨seen, request, answer⟩ := event
    obtain rfl : request = .socketClose sock := closing
    exact ⟨congrArg view same, closed seen sock answer⟩
  rcases ended with ⟨rfl, rfl⟩ | ⟨rfl, rfl⟩
  · exact ⟨rfl, within, nofun⟩
  · exact ⟨unseen memory, within, nofun⟩

/-- So does a callback. The application has no other way to change the client. -/
theorem fire_keeps {call : Callback}
    (called : ∀ memory (answer : Bool), admitted ⟨memory, .callback call, answer⟩)
    (closed : ∀ memory sock answer, admitted ⟨memory, .socketClose sock, answer⟩)
    (unseen : ∀ memory : Memory, view memory.hungUp = view memory) :
    Keeps may view admitted tolerated (fire call) := by
  apply Keeps.load
  intro memory
  apply Keeps.onlyIf
  intro _
  apply (Keeps.ask (fun memory answer _ => called memory answer)).sequence
  intro _
  exact Keeps.onlyIf (fun _ => clientDisconnect_keeps closed unseen)

end Keeping

end Disconnecting

/-! ## Routines that end with at most one callback -/

/-- What decoding asks for: its own requests, the callbacks in `calls`, and the close
of the socket in which a callback that hangs up results. -/
def Asked (calls : Callback → Prop) (request : Request) : Prop :=
  request.ofDecoding = true ∨ (∃ sock, request = .socketClose sock) ∨
    ∃ call, request = .callback call ∧ calls call

/-- The events and the end of a routine whose only callback comes last. Whether the application
has disconnected in it decides how the client is left. -/
structure Reported {α : Type} (calls : Callback → Prop) (memory : Memory) (events : List Step)
    (outcome : Outcome Error Fault α) (final : Memory) : Prop where
  within : ∀ event ∈ events, event.memory.placed = memory.placed ∧ Asked calls event.request
  accepted : ∀ fault, outcome = .faulted fault → NullOnly memory.standing fault
  ended : (∀ event ∈ events, hangsUp event = false) ∧ final.placed = memory.placed ∨
    (∃ event ∈ events, hangsUp event = true) ∧
      (outcome = .waiting ∨ (∃ value, outcome = .returned value) ∧
        final.placed = memory.hungUp.placed)

/-- A routine that ends with at most one callback, whatever the application does. Before it the
routine only decodes. -/
def Reports {α : Type} (calls : Callback → Prop) (routine : Routine α) : Prop :=
  ∀ memory, routine.wp Allowed (Reported calls memory) memory

/-- Decoding requests are not callbacks. -/
theorem hangsUp_of_decoding {event : Step} (decoding : event.request.ofDecoding = true) :
    hangsUp event = false := by
  obtain ⟨memory, request, answer⟩ := event
  cases request <;> simp [hangsUp, Request.ofDecoding] at decoding ⊢

/-- A routine without a callback reports none. -/
theorem Reported.silent {α : Type} {calls : Callback → Prop} {memory : Memory}
    {events : List Step} {outcome : Outcome Error Fault α} {final : Memory}
    (decoded : final.placed = memory.placed ∧
      (∀ event ∈ events, event.memory.placed = memory.placed ∧
        event.request.ofDecoding = true) ∧
      ∀ fault, outcome = .faulted fault → NullOnly memory.standing fault) :
    Reported calls memory events outcome final where
  within event member := ⟨(decoded.2.1 event member).1, .inl (decoded.2.1 event member).2⟩
  accepted := decoded.2.2
  ended := .inl ⟨fun event member => hangsUp_of_decoding (decoded.2.1 event member).2, decoded.1⟩

/-- What a later part reports is reported from the start, when the part before it was
silent. -/
theorem Reported.prepend {α : Type} {calls : Callback → Prop} {memory middle : Memory}
    {earlier later : List Step} {outcome : Outcome Error Fault α} {final : Memory}
    (same : middle.placed = memory.placed)
    (silent : ∀ event ∈ earlier, event.memory.placed = memory.placed ∧
      event.request.ofDecoding = true)
    (reported : Reported calls middle later outcome final) :
    Reported calls memory (earlier ++ later) outcome final where
  within event member := by
    rcases List.mem_append.mp member with before | after
    · exact ⟨(silent event before).1, .inl (silent event before).2⟩
    · exact ⟨(reported.within event after).1.trans same, (reported.within event after).2⟩
  accepted fault faulted := by
    rw [← show middle.standing = memory.standing from
      congrArg (fun seen => seen.1.1) same]
    exact reported.accepted fault faulted
  ended := by
    rcases reported.ended with ⟨quiet, kept⟩ | ⟨⟨event, member, hung⟩, stopped⟩
    · refine .inl ⟨fun event member => ?_, kept.trans same⟩
      rcases List.mem_append.mp member with before | after
      · exact hangsUp_of_decoding (silent event before).2
      · exact quiet event after
    · refine .inr ⟨⟨event, List.mem_append_right _ member, hung⟩, ?_⟩
      rwa [hungUp_placed same] at stopped

namespace Reports

variable {α β : Type} {calls : Callback → Prop}

/-- What decodes without a callback reports nothing. Its memory is placed as before. -/
theorem silent {routine : Routine α} (decodes : Decodes Allowed routine) :
    Reports calls routine :=
  fun memory => wp_mono (decodes memory) (fun _ _ _ decoded => .silent decoded)

/-- Before the callback, a routine changes the framebuffer only. What follows has to report as
it should from each of its values. -/
theorem after {first : Routine α} {following : α → Routine β} (decodes : Decodes Allowed first)
    (reports : ∀ value, Reports calls (following value)) :
    Reports calls (first >>= following) := by
  intro memory
  refine wp_after (decodes memory) ?_ (fun _ _ _ held => .silent ⟨held.1, held.2.1, nofun⟩) ?_
    (fun _ _ held => .silent ⟨held.1, held.2.1, nofun⟩)
  · rintro events value middle ⟨same, held, -⟩
    exact wp_mono (reports value middle)
      (fun later outcome final reported => reported.prepend same held)
  · rintro events fault final ⟨same, held, accepted⟩
    refine .silent ⟨same, held, fun reason faulted => ?_⟩
    obtain rfl : fault = reason := by simpa using faulted
    exact accepted fault rfl

/-- After loading, the continuation of every memory has to report as it should. -/
theorem load {following : Memory → Routine α}
    (reports : ∀ memory, Reports calls (following memory)) :
    Reports calls (Program.load >>= following) :=
  fun memory => reports memory memory

/-- A choice reports as its branches do. -/
theorem ite {condition : Prop} [Decidable condition] {yes no : Routine α}
    (left : Reports calls yes) (right : Reports calls no) :
    Reports calls (if condition then yes else no) := by
  split
  · exact left
  · exact right

/-- The callback itself. It has no error of its own. -/
theorem fire {call : Callback} (admitted : calls call) : Reports calls (OpenVnc.fire call) := by
  intro memory
  have asked : Asked calls (.callback call) := .inr (.inr ⟨call, rfl, admitted⟩)
  unfold OpenVnc.fire
  simp only [bind_eq, Program.wp_sequence, wp_load, wp_onlyIf, wp_ask, continuing_returned,
    continuing_waiting, List.nil_append]
  refine ⟨fun _ => ⟨?_, fun disconnects _ => ⟨fun hung => ?_, fun stays => ?_⟩⟩, fun _ => ?_⟩
  · exact ⟨by simp, by simp, .inl ⟨by simp, rfl⟩⟩
  · -- The application disconnects: the close of the socket is the only further request.
    apply wp_mono (clientDisconnect_hangsUp memory)
    rintro later outcome final ⟨closes, ended⟩
    refine ⟨?_, ?_, .inr ⟨⟨_, List.mem_cons_self, hung⟩, ?_⟩⟩
    · intro event member
      rcases List.mem_cons.mp member with rfl | after
      · exact ⟨rfl, asked⟩
      · obtain ⟨same, sock, closing⟩ := closes event after
        exact ⟨by rw [same], .inr (.inl ⟨sock, closing⟩)⟩
    · rcases ended with ⟨rfl, -⟩ | ⟨rfl, -⟩ <;> simp
    · rcases ended with ⟨rfl, -⟩ | ⟨rfl, rfl⟩
      · exact .inl rfl
      · exact .inr ⟨⟨(), rfl⟩, rfl⟩
  · refine ⟨by simpa using asked, by simp, .inl ⟨?_, rfl⟩⟩
    simpa [hangsUp] using stays
  · exact ⟨by simp, by simp, .inl ⟨by simp, rfl⟩⟩

end Reports

/-! ## The decoders and handlers -/

/-- The callbacks that report a rectangle. They are called in the rectangle loop. -/
def Callback.ofRect : Callback → Bool
  | framebufferUpdate _ | cursorUpdate .. | desktopResize .. => true
  | _ => false

/-- The callbacks that report a whole message. After them nothing of the message is left. -/
def Callback.ofMessage : Callback → Bool
  | framebufferUpdateFinished | bell | serverCutText .. | colorMapUpdate .. => true
  | _ => false

/-- A routine that reports a rectangle, if anything. -/
abbrev ReportsRect {α : Type} (routine : Routine α) : Prop :=
  Reports (fun call => call.ofRect = true) routine

/-- A routine that reports a whole message, if anything. -/
abbrev ReportsMessage {α : Type} (routine : Routine α) : Prop :=
  Reports (fun call => call.ofMessage = true) routine

/-- `ovnc__decode_raw` reports its rectangle after the last row, and nothing before. -/
theorem decodeRaw_reports (word : WordSize) (rect : Rect) : ReportsRect (decodeRaw word rect) :=
  Reports.load (fun _ => Reports.after (decodeRawRows_decodes _ _ _ _ _ _ _)
    (fun _ => Reports.fire rfl))

/-- `decode_desktop_size` reports the new size after the record was changed, with either
allocator. -/
theorem decodeDesktopSize_reports (word : WordSize) (rect : Rect) :
    ReportsRect (decodeDesktopSize word rect) := by
  apply Reports.load
  intro memory
  apply Reports.ite
  · apply Reports.after (modifyClient_keeps (fun _ => rfl))
    intro _
    exact Reports.after callAllocFramebuffer_decodes (fun _ => Reports.fire rfl)
  · apply Reports.after (callocPixels_decodes _)
    intro newData
    cases newData with
    | none => exact Reports.silent (Keeps.fail _)
    | some block =>
      apply Reports.after (freePixels_decodes _)
      intro _
      exact Reports.after (modifyClient_keeps (fun _ => rfl)) (fun _ => Reports.fire rfl)

/-- `decode_cursor` reports the cursor after its bytes have been received. -/
theorem decodeCursor_reports (word : WordSize) (rect : Rect) :
    ReportsRect (decodeCursor word rect) := by
  apply Reports.load
  intro memory
  refine Reports.ite (Reports.fire rfl) ?_
  apply Reports.after (malloc_decodes _)
  intro allocated
  apply Reports.after (Keeps.failIf _ _)
  intro _
  exact Reports.after (transportRecv_decodes _) (fun _ => Reports.fire rfl)

/-- The dispatch on the encoding type reports at most one rectangle. -/
theorem decodeRect_reports (word : WordSize) (rect : Rect) (encodingType : EncodingType) :
    ReportsRect (decodeRect word rect encodingType) :=
  Reports.ite (decodeRaw_reports word rect) (Reports.ite (decodeDesktopSize_reports word rect)
    (Reports.ite (decodeCursor_reports word rect) (Reports.silent (Keeps.fail _))))

/-- A pass of the rectangle loop reports at most one rectangle. -/
theorem handleRect_reports (word : WordSize) : ReportsRect (handleRect word) :=
  Reports.after (transportRecv_decodes 12) (fun _ => decodeRect_reports word _ _)

/-- `handle_color_map_entries` reports its colours once they have been received. -/
theorem handleColorMapEntries_reports : ReportsMessage handleColorMapEntries := by
  apply Reports.after (transportRecv_decodes 5)
  intro header
  apply Reports.after (malloc_decodes _)
  intro allocated
  apply Reports.after (Keeps.failIf _ _)
  intro _
  apply Reports.after (transportRecv_decodes _)
  intro data
  apply Reports.load
  intro memory
  refine Reports.ite ?_ (Reports.silent (Keeps.done ()))
  refine Reports.after (malloc_decodes _) (fun red => Reports.after (malloc_decodes _)
    (fun green => Reports.after (malloc_decodes _) (fun blue => ?_)))
  exact Reports.after (Keeps.failIf _ _) (fun _ => Reports.fire rfl)

/-- `handle_server_cut_text` reports the text once it has been received. -/
theorem handleServerCutText_reports : ReportsMessage handleServerCutText := by
  apply Reports.after (transportRecv_decodes 7)
  intro header
  refine Reports.ite ?_ (Reports.fire rfl)
  apply Reports.after (malloc_decodes _)
  intro allocated
  apply Reports.after (Keeps.failIf _ _)
  intro _
  refine Reports.after (Keeps.faultIf _ (fun _ => nofun)) (fun _ => ?_)
  apply Reports.after (transportRecv_decodes _)
  intro text
  exact Reports.after (Keeps.faultIf _ (fun _ => nofun)) (fun _ => Reports.fire rfl)

/-! ## The rectangle loop -/

/-- Whether a callback hung up before the update in progress was complete: it reported
a rectangle, and further rectangles of the same message were still to come. -/
def premature (event : Step) : Bool :=
  match event with
  | ⟨memory, .callback call, disconnects⟩ =>
      call.ofRect && disconnects && decide (memory.pendingRects ≠ 0)
  | _ => false

/-- Whether a request is one that decoding can lead to. The callbacks among them are those of a
rectangle or of a message. -/
abbrev AskedByMessage : Request → Prop :=
  Asked (fun call => call.ofRect = true ∨ call.ofMessage = true)

/-- Events of decoding in which the application does not disconnect. The client is connected at
each of them if it was at the start. -/
def Quiet (memory : Memory) (events : List Step) : Prop :=
  ∀ event ∈ events, event.memory.settled = memory.settled ∧ AskedByMessage event.request ∧
    hangsUp event = false

/-- The events and the end of decoding a message. A fault of the null transport is
the consequence of a premature disconnection, and of nothing else. -/
structure Followed (memory : Memory) (events : List Step) (outcome : Outcome Error Fault Unit)
    (final : Memory) : Prop where
  within : ∀ event ∈ events, (event.memory.settled = memory.settled ∨
    event.memory.settled = memory.hungUp.settled) ∧ AskedByMessage event.request
  safe : outcome ≠ .waiting →
    (outcome = .faulted .nullTransport ↔ ∃ event ∈ events, premature event = true)
  ended : Quiet memory events ∧ final.settled = memory.settled ∨
    (∃ event ∈ events, hangsUp event = true) ∧ (outcome = .waiting ∨
      outcome = .faulted .nullTransport ∨
      outcome = .returned () ∧ final.settled = memory.hungUp.settled)

/-- A hang-up that comes too early is a hang-up. -/
theorem hangsUp_of_premature {event : Step} (early : premature event = true) :
    hangsUp event = true := by
  obtain ⟨memory, request, answer⟩ := event
  cases request <;> simp_all [premature, hangsUp]

/-- A rectangle's callback that hung up was premature exactly when more were to come. The number
of those to come is in the memory of the event. -/
theorem premature_iff {event : Step} (hung : hangsUp event = true)
    (asked : Asked (fun call => call.ofRect = true) event.request) :
    premature event = true ↔ event.memory.pendingRects ≠ 0 := by
  obtain ⟨memory, request, answer⟩ := event
  rcases asked with decoding | ⟨sock, rfl⟩ | ⟨call, rfl, rect⟩
  · rw [hangsUp_of_decoding decoding] at hung
    exact absurd hung (by decide)
  · exact absurd hung (by simp [hangsUp])
  · simp only [hangsUp] at hung
    simp [premature, rect, hung]

/-- The callback of a whole message is never premature. There is nothing left to read. -/
theorem not_premature {event : Step}
    (asked : Asked (fun call => call.ofMessage = true) event.request) :
    premature event = false := by
  obtain ⟨memory, request, answer⟩ := event
  rcases asked with decoding | ⟨sock, rfl⟩ | ⟨call, rfl, message⟩
  · cases request <;> simp [premature, Request.ofDecoding] at decoding ⊢
  · rfl
  · cases call <;> simp [premature, Callback.ofMessage, Callback.ofRect] at message ⊢

/-- Where nothing hangs up, nothing does so too early. -/
theorem Quiet.not_premature {memory : Memory} {events : List Step} (quiet : Quiet memory events) :
    ¬ ∃ event ∈ events, premature event = true := by
  rintro ⟨event, member, early⟩
  exact absurd ((quiet event member).2.2.symm.trans (hangsUp_of_premature early)) (by decide)

/-- What is asked for when some callbacks may be called is asked for when more of them may. -/
theorem Asked.weaken {calls weaker : Callback → Prop} {request : Request}
    (asked : Asked calls request) (follows : ∀ call, calls call → weaker call) :
    Asked weaker request := by
  rcases asked with decoding | closing | ⟨call, called, admitted⟩
  · exact .inl decoding
  · exact .inr (.inl closing)
  · exact .inr (.inr ⟨call, called, follows call admitted⟩)

/-- A report without a disconnection is quiet. -/
theorem Reported.quiet {α : Type} {calls : Callback → Prop} {memory final : Memory}
    {events : List Step} {outcome : Outcome Error Fault α}
    (reported : Reported calls memory events outcome final)
    (known : ∀ call, calls call → call.ofRect = true ∨ call.ofMessage = true)
    (still : ∀ event ∈ events, hangsUp event = false) : Quiet memory events :=
  fun event member => ⟨congrArg Prod.fst (reported.within event member).1,
    (reported.within event member).2.weaken known, still event member⟩

namespace Followed

variable {memory middle final : Memory} {earlier later events : List Step}
  {outcome : Outcome Error Fault Unit}

/-- A part that ends quietly, in whatever way but through a null transport. It is then as
connected as before. -/
theorem of_quiet (quiet : Quiet memory events) (same : final.settled = memory.settled)
    (attached : outcome ≠ .faulted .nullTransport) : Followed memory events outcome final where
  within event member := ⟨.inl (quiet event member).1, (quiet event member).2.1⟩
  safe _ := ⟨fun faulted => absurd faulted attached, fun early => absurd early quiet.not_premature⟩
  ended := .inl ⟨quiet, same⟩

/-- Quiet events change nothing about what follows. They leave the client connected. -/
theorem prepend (followed : Followed middle later outcome final) (quiet : Quiet memory earlier)
    (same : middle.settled = memory.settled) :
    Followed memory (earlier ++ later) outcome final where
  within event member := by
    rcases List.mem_append.mp member with before | after
    · exact ⟨.inl (quiet event before).1, (quiet event before).2.1⟩
    · rw [← same, ← hungUp_settled same]
      exact followed.within event after
  safe running := by
    rw [followed.safe running]
    constructor
    · rintro ⟨event, member, early⟩
      exact ⟨event, List.mem_append_right _ member, early⟩
    · rintro ⟨event, member, early⟩
      rcases List.mem_append.mp member with before | after
      · exact absurd ⟨event, before, early⟩ quiet.not_premature
      · exact ⟨event, after, early⟩
  ended := by
    rcases followed.ended with ⟨still, kept⟩ | ⟨⟨event, member, hung⟩, stopped⟩
    · refine .inl ⟨fun event member => ?_, kept.trans same⟩
      rcases List.mem_append.mp member with before | after
      · exact quiet event before
      · rw [← same]
        exact still event after
    · refine .inr ⟨⟨event, List.mem_append_right _ member, hung⟩, ?_⟩
      rwa [hungUp_settled same] at stopped

/-- Only what is settled at the start matters. -/
theorem of_settled (followed : Followed middle events outcome final)
    (same : middle.settled = memory.settled) : Followed memory events outcome final where
  within := by
    rw [← same, ← hungUp_settled same]
    exact followed.within
  safe := followed.safe
  ended := by
    unfold Quiet
    rw [← same, ← hungUp_settled same]
    exact followed.ended

end Followed

/-- What a routine with one callback reports, when a disconnection in that callback
is not premature or ends the routine. -/
theorem Reported.followed {calls : Callback → Prop} {memory final : Memory} {events : List Step}
    {outcome : Outcome Error Fault Unit} {transport : Transport}
    (reported : Reported calls memory events outcome final)
    (known : ∀ call, calls call → call.ofRect = true ∨ call.ofMessage = true)
    (attached : memory.client.transport = some transport)
    (timely : outcome = .returned () → ∀ event ∈ events, premature event = false) :
    Followed memory events outcome final where
  within event member := ⟨.inl (congrArg Prod.fst (reported.within event member).1),
    (reported.within event member).2.weaken known⟩
  safe running := by
    refine ⟨fun faulted => ?_, ?_⟩
    · have detached := reported.accepted _ faulted rfl
      exact absurd (attached.symm.trans detached) (by simp)
    · rintro ⟨event, member, early⟩
      rcases reported.ended with ⟨still, -⟩ | ⟨-, waiting | ⟨⟨⟨⟩, returned⟩, -⟩⟩
      · exact absurd ((still event member).symm.trans (hangsUp_of_premature early)) (by decide)
      · exact absurd waiting running
      · exact absurd ((timely returned event member).symm.trans early) (by decide)
  ended := by
    rcases reported.ended with ⟨still, kept⟩ | ⟨hung, stopped⟩
    · exact .inl ⟨reported.quiet known still, congrArg Prod.fst kept⟩
    · refine .inr ⟨hung, ?_⟩
      rcases stopped with waiting | ⟨⟨⟨⟩, returned⟩, kept⟩
      · exact .inl waiting
      · exact .inr (.inr ⟨returned, congrArg Prod.fst kept⟩)

/-- On a null transport the next pass of the loop is a fault. It reads the header of a rectangle
first. -/
theorem handleRects_detached (word : WordSize) (left : Nat) {memory : Memory}
    (detached : memory.client.transport = none)
    {post : List Step → Outcome Error Fault Unit → Memory → Prop}
    (faults : ∀ pending,
      post [] (.faulted .nullTransport) { memory with pendingRects := pending }) :
    (handleRects word (left + 1)).wp Allowed post memory := by
  simp only [handleRects, handleRect, bind_eq, wp_sequence, wp_update, continuing_returned,
    wp_transportRecv]
  refine ⟨fun _ => faults left, fun transport attached => ?_⟩
  exact absurd (attached.symm.trans detached) (by simp)

/-- The rest of the loop after a rectangle whose callback hung up. When nothing is
left the loop returns, otherwise the next pass is a fault. -/
theorem handleRects_after_hangUp (word : WordSize) {left : Nat} {memory middle : Memory}
    {events : List Step} (connected : memory.client.state = .connected)
    (position : memory.pendingRects = left)
    (reported : Reported (fun call => call.ofRect = true) memory events
      (.returned () : Outcome Error Fault Unit) middle)
    (hung : ∃ event ∈ events, hangsUp event = true)
    (kept : middle.placed = memory.hungUp.placed) :
    (handleRects word left).wp Allowed
      (fun later => Followed memory (events ++ later)) middle := by
  have settled : middle.settled = memory.hungUp.settled := congrArg Prod.fst kept
  have within : ∀ event ∈ events, (event.memory.settled = memory.settled ∨
      event.memory.settled = memory.hungUp.settled) ∧ AskedByMessage event.request :=
    fun event member => ⟨.inl (congrArg Prod.fst (reported.within event member).1),
      (reported.within event member).2.weaken (fun _ rect => .inl rect)⟩
  have early_iff : ∀ event ∈ events, hangsUp event = true →
      (premature event = true ↔ left ≠ 0) := by
    intro event member hung
    rw [premature_iff hung (reported.within event member).2, ← position,
      show event.memory.pendingRects = memory.pendingRects from
        congrArg Prod.snd (reported.within event member).1]
  cases left with
  | zero =>
    have ended : Followed memory events (.returned ()) middle := by
      refine ⟨within, fun _ => ⟨nofun, ?_⟩, .inr ⟨hung, .inr (.inr ⟨rfl, settled⟩)⟩⟩
      rintro ⟨event, member, early⟩
      exact absurd rfl ((early_iff event member (hangsUp_of_premature early)).mp early)
    simpa [handleRects] using ended
  | succ left =>
    have detached : middle.client.transport = none := by
      apply (congrArg (fun seen => seen.1.transport) settled).trans
      simp [Memory.settled, Memory.standing, Memory.hungUp, connected]
    apply handleRects_detached word left detached
    intro pending
    obtain ⟨event, member, hung⟩ := hung
    have early : premature event = true :=
      (early_iff event member hung).mpr (Nat.succ_ne_zero left)
    rw [List.append_nil]
    exact ⟨within, fun _ => ⟨fun _ => ⟨event, member, early⟩, fun _ => rfl⟩,
      .inr ⟨⟨event, member, hung⟩, .inr (.inl rfl)⟩⟩

/-- The rectangle loop, by induction on the rectangles that are left. A callback that
disconnects decides what the next pass finds. -/
theorem handleRects_followed (word : WordSize) (left : Nat) {memory : Memory}
    {transport : Transport} (attached : memory.client.transport = some transport)
    (connected : memory.client.state = .connected) :
    (handleRects word left).wp Allowed (Followed memory) memory := by
  induction left generalizing memory with
  | zero => exact .of_quiet (fun _ member => by simp at member) rfl nofun
  | succ left inductionHypothesis =>
    rw [handleRects, bind_eq, Program.wp_sequence, wp_update, continuing_returned, bind_eq]
    have ended {events : List Step} {outcome : Outcome Error Fault Unit} {final : Memory}
        (reported : Reported (fun call => call.ofRect = true) { memory with pendingRects := left }
          events outcome final) (unfinished : outcome ≠ .returned ()) :
        Followed memory events outcome final :=
      (reported.followed (fun _ rect => .inl rect) attached
        (fun returned => absurd returned unfinished)).of_settled rfl
    refine wp_after (handleRect_reports word { memory with pendingRects := left }) ?_
      (fun _ _ _ reported => ended reported nofun) (fun _ _ _ reported => ended reported nofun)
      (fun _ _ reported => ended reported nofun)
    intro events value middle reported
    rcases reported.ended with ⟨still, kept⟩ | ⟨hung, stopped⟩
    · -- No disconnection: the loop goes on from the same settled memory.
      have settled : middle.settled = memory.settled := congrArg Prod.fst kept
      have quiet : Quiet memory events := reported.quiet (fun _ rect => .inl rect) still
      refine wp_mono (inductionHypothesis ?_ ?_) (fun later outcome final followed =>
        show Followed memory (events ++ later) outcome final from followed.prepend quiet settled)
      · exact (congrArg (fun seen => seen.1.transport) settled).trans attached
      · exact (congrArg (fun seen => seen.1.state) settled).trans connected
    · obtain ⟨-, hungUp⟩ := stopped.resolve_left nofun
      exact wp_mono (@handleRects_after_hangUp word left { memory with pendingRects := left } middle
        events connected rfl reported hung hungUp)
        (fun later outcome final followed => followed.of_settled rfl)

/-! ## Whole messages -/

/-- A silent part, then one that is followed. The transport is still there when the first part
ends. -/
theorem followed_after {α : Type} {first : Routine α} {following : α → Routine Unit}
    {memory : Memory} {transport : Transport}
    (attached : memory.client.transport = some transport) (decodes : Decodes Allowed first)
    (continues : ∀ value middle, middle.settled = memory.settled →
      (following value).wp Allowed (Followed middle) middle) :
    (first >>= following).wp Allowed (Followed memory) memory := by
  have quiet {events : List Step} (silent : ∀ event ∈ events,
      event.memory.placed = memory.placed ∧ event.request.ofDecoding = true) :
      Quiet memory events := fun event member =>
    ⟨congrArg Prod.fst (silent event member).1, .inl (silent event member).2,
      hangsUp_of_decoding (silent event member).2⟩
  refine wp_after (decodes memory) ?_
    (fun _ _ _ held => .of_quiet (quiet held.2.1) (congrArg Prod.fst held.1) nofun) ?_
    (fun _ _ held => .of_quiet (quiet held.2.1) (congrArg Prod.fst held.1) nofun)
  · rintro events value middle ⟨same, silent, -⟩
    have settled : middle.settled = memory.settled := congrArg Prod.fst same
    exact wp_mono (continues value middle settled) (fun later outcome final followed =>
      show Followed memory (events ++ later) outcome final from
        followed.prepend (quiet silent) settled)
  · rintro events fault final ⟨same, silent, accepted⟩
    refine .of_quiet (quiet silent) (congrArg Prod.fst same) (fun faulted => ?_)
    have detached := accepted fault rfl (by simpa using faulted)
    exact absurd (attached.symm.trans detached) (by simp)

/-- After the rectangles, the callback for the whole message. A client that was hung up
in the last rectangle stays so. -/
theorem followed_then_fire {first : Routine Unit} {call : Callback} {memory : Memory}
    {transport : Transport} (attached : memory.client.transport = some transport)
    (begins : first.wp Allowed (Followed memory) memory) (message : call.ofMessage = true) :
    (first >>= fun _ => fire call).wp Allowed (Followed memory) memory := by
  refine wp_after begins ?_ (fun _ _ _ followed => followed) (fun _ _ _ followed => followed)
    (fun _ _ followed => followed)
  intro events value middle followed
  have reports : ReportsMessage (fire call) := Reports.fire message
  apply wp_mono (wp_and (reports middle) (fire_ends call middle))
  rintro later outcome final ⟨reported, -, finished⟩
  have unseen : ∀ event ∈ later, premature event = false :=
    fun event member => not_premature (reported.within event member).2
  rcases followed.ended with ⟨quiet, settled⟩ | ⟨⟨event, member, hung⟩, stopped⟩
  · have stillAttached : middle.client.transport = some transport :=
      (congrArg (fun seen => seen.1.transport) settled).trans attached
    exact (reported.followed (fun _ known => .inr known) stillAttached
      (fun _ => unseen)).prepend quiet settled
  · obtain ⟨-, settled⟩ := (stopped.resolve_left nofun).resolve_left nofun
    have hungAgain : middle.hungUp.settled = memory.hungUp.settled := by
      rw [hungUp_settled settled, hungUp_hungUp]
    refine ⟨fun event member => ?_, fun running => ⟨fun faulted => ?_, ?_⟩,
      .inr ⟨⟨event, List.mem_append_left _ member, hung⟩, ?_⟩⟩
    · rcases List.mem_append.mp member with before | after
      · exact followed.within event before
      · have same : event.memory.settled = middle.settled :=
          congrArg Prod.fst (reported.within event after).1
        exact ⟨.inr (same.trans settled), (reported.within event after).2.weaken
          (fun _ known => .inr known)⟩
    · rcases finished with ⟨rfl, -⟩ | ⟨rfl, -⟩ <;> exact absurd faulted nofun
    · rintro ⟨event, member, early⟩
      rcases List.mem_append.mp member with before | after
      · exact absurd ((followed.safe nofun).mpr ⟨event, before, early⟩) nofun
      · exact absurd ((unseen event after).symm.trans early) (by decide)
    · rcases finished with ⟨rfl, -⟩ | ⟨rfl, -⟩
      · exact .inl rfl
      · refine .inr (.inr ⟨rfl, ?_⟩)
        rcases reported.ended with ⟨-, kept⟩ | ⟨-, waiting | ⟨-, kept⟩⟩
        · exact (congrArg Prod.fst kept).trans settled
        · exact absurd waiting nofun
        · exact (congrArg Prod.fst kept).trans hungAgain

/-- A message of one callback. The callback comes last, so that nothing is read after it. -/
theorem reportsMessage_followed {routine : Routine Unit} (reports : ReportsMessage routine)
    {memory : Memory} {transport : Transport}
    (attached : memory.client.transport = some transport) :
    routine.wp Allowed (Followed memory) memory :=
  wp_mono (reports memory) (fun _ _ _ reported => reported.followed (fun _ known => .inr known)
    attached (fun _ event member => not_premature (reported.within event member).2))

/-- `ovnc__recv_server_message` on a connected client, whatever message arrives and
whatever the application does in its callbacks. -/
theorem recvServerMessage_followed (word : WordSize) {memory : Memory} {transport : Transport}
    (attached : memory.client.transport = some transport)
    (connected : memory.client.state = .connected) :
    (recvServerMessage word).wp Allowed (Followed memory) memory := by
  apply followed_after attached (transportRecv_decodes 1)
  intro msgType middle settled
  have stillAttached : middle.client.transport = some transport :=
    (congrArg (fun seen => seen.1.transport) settled).trans attached
  have stillConnected : middle.client.state = .connected :=
    (congrArg (fun seen => seen.1.state) settled).trans connected
  split
  · apply followed_after stillAttached (transportRecv_decodes 3)
    intro header memory same
    exact followed_then_fire ((congrArg (fun seen => seen.1.transport) same).trans stillAttached)
      (handleRects_followed word _
        ((congrArg (fun seen => seen.1.transport) same).trans stillAttached)
        ((congrArg (fun seen => seen.1.state) same).trans stillConnected)) rfl
  split
  · exact reportsMessage_followed handleColorMapEntries_reports stillAttached
  split
  · exact reportsMessage_followed (Reports.fire rfl) stillAttached
  split
  · exact reportsMessage_followed handleServerCutText_reports stillAttached
  · exact reportsMessage_followed (Reports.silent (Keeps.fail _)) stillAttached

/-! ## Tearing down -/

/-- The reasons reported to the application's `disconnected` callback. There is one reason in
each. -/
def reasons (events : List Step) : List Error :=
  events.filterMap (fun event =>
    match event.request with
    | .callback (.disconnected reason) => some reason
    | _ => none)

/-- Events in which sockets are closed and nothing else happens. The end of a connection is made
of these. -/
def Closes (events : List Step) : Prop :=
  ∀ event ∈ events, ∃ sock, event.request = .socketClose sock

/-- The close of a socket reports nothing and is no callback. -/
theorem Closes.unseen {events : List Step} (closes : Closes events) :
    reasons events = [] ∧ ∀ event ∈ events, premature event = false := by
  refine ⟨List.filterMap_eq_nil_iff.mpr (fun event member => ?_), fun event member => ?_⟩
  · obtain ⟨sock, closing⟩ := closes event member
    rw [closing]
  · obtain ⟨sock, closing⟩ := closes event member
    exact not_premature (.inr (.inl ⟨sock, closing⟩))

/-- A disconnection that is followed by an error closes at most the socket, and ends with that
error and the client hung up. -/
theorem clientDisconnect_fails (error : Error) (memory : Memory) :
    (clientDisconnect >>= fun _ => (fail error : Routine Unit)).wp Allowed
      (fun events outcome final => Closes events ∧
        (outcome = .waiting ∨ outcome = .failed error ∧ final = memory.hungUp)) memory := by
  rw [bind_eq, Program.wp_sequence]
  apply wp_mono (clientDisconnect_hangsUp memory)
  rintro events outcome final ⟨closes, ⟨rfl, -⟩ | ⟨rfl, rfl⟩⟩
  · exact ⟨fun event member => (closes event member).2, .inl rfl⟩
  · simp only [continuing_returned, wp_fail, List.append_nil]
    exact ⟨fun event member => (closes event member).2, .inr ⟨trivial, trivial⟩⟩

/-- What tearing down asks for: the report and the close of the socket. There are no others. -/
def AskedByTearDown (request : Request) : Prop :=
  (∃ sock, request = .socketClose sock) ∨ ∃ reason, request = .callback (.disconnected reason)

/-- What tearing down asks for hangs up too late to be premature: the report comes first, and the
close is the library's own. -/
theorem AskedByTearDown.not_premature {event : Step} (asked : AskedByTearDown event.request) :
    premature event = false := by
  obtain ⟨memory, request, answer⟩ := event
  rcases asked with ⟨sock, rfl⟩ | ⟨reason, rfl⟩
  · rfl
  · rfl

/-- What follows a message that could not be processed: the error is reported once, if
the application asked for it, the client is hung up, and the error is returned. -/
theorem tearDown_ends (error : Error) (memory : Memory) :
    (tearDown error : Routine Unit).wp Allowed (fun events outcome final =>
      (∀ event ∈ events, AskedByTearDown event.request) ∧
      (outcome = .waiting ∨ outcome = .failed error ∧ final = memory.hungUp ∧
        reasons events = if memory.client.callbacks.disconnected then [error] else []))
      memory := by
  have silent := clientDisconnect_fails error memory
  have told {later : List Step} {disconnects : Bool} (closes : Closes later) :
      (∀ event ∈ [⟨memory, .callback (.disconnected error), disconnects⟩] ++ later,
        AskedByTearDown event.request) ∧
      reasons ([⟨memory, .callback (.disconnected error), disconnects⟩] ++ later) = [error] := by
    refine ⟨fun event member => ?_, ?_⟩
    · rcases List.mem_append.mp member with called | after
      · rw [List.mem_singleton.mp called]
        exact .inr ⟨error, rfl⟩
      · exact .inl (closes event after)
    · rw [reasons, List.filterMap_append, ← reasons, ← reasons, closes.unseen.1]
      rfl
  rw [tearDown, bind_eq, Program.wp_sequence]
  unfold fire
  simp only [bind_eq, Program.wp_sequence, wp_load, wp_onlyIf, wp_ask, continuing_returned,
    continuing_waiting, List.nil_append]
  refine ⟨fun set => ⟨by simp, fun disconnects _ => ⟨fun hung => ?_, fun stays => ?_⟩⟩,
    fun unset => ?_⟩
  · -- The application disconnects first, and the second disconnection finds nothing to do.
    apply wp_mono (clientDisconnect_hangsUp memory)
    rintro events outcome final ⟨closes, ⟨rfl, -⟩ | ⟨rfl, rfl⟩⟩
    · exact ⟨(told (fun event member => (closes event member).2)).1, .inl rfl⟩
    · simp only [continuing_returned]
      apply wp_mono (clientDisconnect_fails error memory.hungUp)
      rintro later outcome final ⟨closesLater, ended⟩
      have report := @told (events ++ later) disconnects (fun event member =>
        (List.mem_append.mp member).elim (fun before => (closes event before).2)
          (closesLater event))
      rw [← List.append_assoc] at report
      refine ⟨report.1, ended.imp_right (fun failed => ⟨failed.1, ?_, ?_⟩)⟩
      · rw [failed.2, hungUp_hungUp]
      · rw [report.2]
        exact (if_pos set).symm
  · rw [← Program.wp_sequence]
    apply wp_mono silent
    rintro later outcome final ⟨closes, ended⟩
    refine ⟨(told closes).1, ended.imp_right (fun failed => ⟨failed.1, failed.2, ?_⟩)⟩
    exact (told closes).2.trans (if_pos set).symm
  · rw [← Program.wp_sequence]
    apply wp_mono silent
    rintro later outcome final ⟨closes, ended⟩
    refine ⟨fun event member => .inl (closes event member),
      ended.imp_right (fun failed => ⟨failed.1, failed.2, ?_⟩)⟩
    exact closes.unseen.1.trans (if_neg unset).symm

end OpenVnc
