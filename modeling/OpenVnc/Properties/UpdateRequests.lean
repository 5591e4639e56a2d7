import OpenVnc.AnnouncedMessages
import OpenVnc.Properties.Lifecycle
import OpenVnc.Properties.ServerName
import OpenVnc.Properties.SizeArithmetic
import OpenVnc.SendCalls
import OpenVnc.ServerMessages

/-!
# Requests for updates

A request for an update names a rectangle, by default the whole framebuffer, and says whether
only changes are wanted. The size of the whole framebuffer is the one that the server announced
last: in ServerInit, or in a DesktopSize rectangle for which there was storage. Whether only
changes are wanted passes through a conversion to eight bits.
-/

namespace OpenVnc

open Interaction Interaction.Program Codec

/-! ## What the server has announced -/

/-- The bytes received last within a call, and the size that the server has announced. -/
structure Watch where
  received : List UInt8
  size : Extent

/-- After storage for pixels has been obtained. Where the bytes received last are the header of
a DesktopSize rectangle, that rectangle has succeeded. -/
def Watch.stored (watch : Watch) : Watch :=
  if watch.received.length = 12 ∧ readS32 (watch.received.drop 8) = encodingDesktopSize then
    { watch with size := ⟨(readRect watch.received).width, (readRect watch.received).height⟩ }
  else watch

/-- The watch after an event: a receive leaves its bytes, and pixel storage that was obtained may
end a change of size. -/
def Watch.next (watch : Watch) : Step → Watch
  | ⟨_, .recv _, .complete bytes⟩ => { watch with received := bytes }
  | ⟨_, .calloc _, some _⟩ => watch.stored
  | ⟨_, .allocFramebuffer _, (none, _)⟩ => watch.stored
  | _ => watch

/-- The monitor of the announced size. Nothing alarms it. -/
def sizes : Monitor Memory Request Answer Watch := ⟨Watch.next, fun _ _ => False⟩

/-- The size that is announced after the events of a call on a connected client. -/
def resized (size : Extent) (events : List Step) : Extent := (sizes.reading ⟨[], size⟩ events).size

/-- The fixed part of ServerInit in the exchange of a handshake. What comes before it has one of
three forms, one for each version; ClientInit is sent last. -/
def serverInitHeader : List Transfer → Option (List UInt8)
  | .received _ :: .sent _ :: .received _ :: .sent _ :: .received header :: _ => some header
  | .received _ :: .sent _ :: .received _ :: .received _ :: .sent _ :: .sent _ ::
      .received header :: _ => some header
  | .received _ :: .sent _ :: .received _ :: .received _ :: .sent _ :: .received _ :: .sent _ ::
      .received header :: _ => some header
  | _ => none

/-- The size that is announced after a completed call. -/
def ApiCall.announces (size : Extent) (events : List Step) : ApiCall → Except Error Unit → Extent
  | connect, .ok () => ((serverInitHeader (transfers events)).map (fun header =>
      ⟨readU16 header, readU16 (header.drop 2)⟩)).getD size
  | connect, .error _ => size
  | _, _ => resized size events

/-- The size that is announced after a step, as far as the client with this handle goes. -/
def Process.Action.announces (handle : Nat) (size : Extent) : Process.Action → Extent
  | .called other call events result =>
    if other = handle then call.announces size events result else size
  | _ => size

/-- The size that the server of the client with this handle announced last. -/
def announcedSize (handle : Nat) (history : List Process.Action) : Extent :=
  history.foldl (Process.Action.announces handle) ⟨0, 0⟩

/-! ## Keeping track of the size -/

/-- The size of the framebuffer as the client records it. -/
def Memory.extent (memory : Memory) : Extent := memory.client.framebuffer.extent

/-- The triple of a routine for the monitor. The application's allocator sets the pixel pointer
only. -/
abbrev Watches {α : Type} (watch : Watch) (routine : Routine α) (memory : Memory)
    (passed : α → Watch → Memory → Prop) : Prop :=
  Foretold SetsData sizes (fun _ => False) watch routine memory passed

/-- When the routine returns, the framebuffer has the announced size if it had it before. -/
def Tracks {α : Type} (routine : Routine α) : Prop :=
  ∀ watch memory, memory.extent = watch.size →
    Watches watch routine memory (fun _ watch' final => final.extent = watch'.size)

/-- A routine in which no size is announced, and the framebuffer keeps its own. -/
abbrev Unsized {α : Type} (routine : Routine α) : Prop :=
  Keeps SetsData Memory.extent
    (fun event => ¬ False ∧ ∀ watch, (sizes.next watch event).size = watch.size)
    (fun _ _ => True) routine

section Tracking

variable {α β : Type} {word : WordSize}

/-- What leaves the size alone and obtains no pixel storage leaves the watched size where it is.
-/
theorem Unsized.watches {routine : Routine α} (unsized : Unsized routine) (watch : Watch)
    (memory : Memory) : Watches watch routine memory (fun _ watch' final =>
      watch'.size = watch.size ∧ final.extent = memory.extent) :=
  Foretold.keeping unsized

/-- So it keeps the recorded size equal to the watched one. -/
theorem Unsized.tracks {routine : Routine α} (unsized : Unsized routine) : Tracks routine := by
  intro watch memory tracked
  apply (unsized.watches watch memory).returning
  rintro _ watch' final ⟨size, extent⟩
  rw [extent, tracked, size]

namespace Tracks

/-- Two parts that track the size track it one after the other. -/
theorem sequence {first : Routine α} {following : α → Routine β} (begins : Tracks first)
    (continues : ∀ value, Tracks (following value)) : Tracks (sequence first following) := by
  intro watch memory tracked
  apply (begins watch memory tracked).sequence
  intro value watch' middle tracked'
  exact continues value watch' middle tracked'

/-- A choice tracks the size when both branches do. -/
theorem ite {condition : Prop} [Decidable condition] {yes no : Routine α}
    (left : condition → Tracks yes) (right : ¬ condition → Tracks no) :
    Tracks (if condition then yes else no) := by
  intro watch memory tracked
  apply Foretold.ite
  · exact fun holds => left holds watch memory tracked
  · exact fun fails => right fails watch memory tracked

/-- Of an error nothing has to be tracked. -/
theorem fail (error : Error) : Tracks (Program.fail error : Routine α) :=
  fun _ _ _ => Foretold.fail

/-- Where an error ends in another one, nothing is asked of it. -/
theorem attempt {routine : Routine α} {following : Except Error α → Routine β}
    (tracks : Tracks routine) (continues : ∀ value, Tracks (following (.ok value)))
    (fails : ∀ error watch memory, Watches watch (following (.error error)) memory
      (fun _ _ _ => False)) : Tracks (Program.sequence (Program.attempt routine) following) := by
  intro watch memory tracked
  apply (tracks watch memory tracked).attempt.sequence
  intro result watch' middle tracked'
  cases result with
  | ok value => exact continues value watch' middle (tracked' value rfl)
  | error error => exact (fails error watch' middle).returning (fun _ _ _ => False.elim)

end Tracks

/-! ### Server messages -/

/-- The requests of a server message announce no size, apart from those for storage. -/
theorem disregards_size : Disregards Memory.extent
    (fun event => ¬ False ∧ ∀ watch, (sizes.next watch event).size = watch.size)
    (fun _ _ => True) where
  received memory len answer := ⟨id, fun watch => by cases answer <;> rfl⟩
  allocated memory size answer := ⟨id, fun watch => rfl⟩
  called memory call answer := ⟨id, fun watch => rfl⟩
  closed memory sock answer := ⟨id, fun watch => rfl⟩
  stored memory offset bytes := rfl
  positioned memory left := rfl
  hung memory := by
    unfold Memory.extent
    rw [hungUp_framebuffer]
  missing _ _ := trivial
  overrun _ _ := trivial

/-- A receive is watched: its bytes are those received last. -/
theorem transportRecv_watches (len : Nat) (watch : Watch) (memory : Memory) :
    Watches watch (transportRecv len) memory (fun bytes watch' final =>
      bytes.length = len ∧ watch' = { watch with received := bytes } ∧ final = memory) := by
  apply derefTransport_foretells.sequence
  rintro _ _ _ ⟨rfl, rfl⟩
  apply (Foretold.ask id).sequence
  rintro answer _ _ ⟨allowed, -, rfl, rfl⟩
  cases answer with
  | complete bytes => exact .done ⟨allowed, rfl, rfl⟩
  | stopped received error => exact .fail

/-- An allocator that sets the pixel pointer only leaves the size alone. -/
theorem SetsData.extent {asked left : Framebuffer} {error : Option Error}
    (sets : SetsData (.allocFramebuffer asked) (error, left)) : left.extent = asked.extent := by
  have kept : left = { asked with data := left.data } := sets
  rw [kept]
  rfl

/-- The application's allocator leaves the recorded size, whatever it answers. -/
theorem callAllocFramebuffer_extent {admitted : Step → Prop} {tolerated : Extent → Fault → Prop}
    (within : ∀ memory asked (answer : Option Error × Framebuffer),
      admitted ⟨memory, .allocFramebuffer asked, answer⟩) :
    Keeps SetsData Memory.extent admitted tolerated callAllocFramebuffer := by
  intro memory
  rw [wp_callAllocFramebuffer]
  refine ⟨⟨rfl, by simp, nofun⟩, fun error left allowed => ?_⟩
  refine ⟨SetsData.extent allowed, ?_, ?_⟩
  · intro event member
    obtain rfl := List.mem_singleton.mp member
    exact ⟨rfl, within _ _ _⟩
  · cases error <;> nofun

section Storage

variable {watch : Watch} {memory : Memory}

/-- A change of the record leaves the watch where it is. -/
theorem modifyFramebuffer_watches {change : Framebuffer → Framebuffer} {size : Extent}
    (sized : (change memory.client.framebuffer).extent = size) :
    Watches watch (modifyFramebuffer change) memory (fun _ watch' final =>
      watch' = watch ∧ final.extent = size) := Foretold.update ⟨rfl, sized⟩

/-- When the application's allocator has stored a block, the watch has seen it, and the recorded
size is still the one that was asked for. -/
theorem callAllocFramebuffer_watches : Watches watch callAllocFramebuffer memory
    (fun _ watch' final => watch' = watch.stored ∧ final.extent = memory.extent) := by
  apply Foretold.load
  apply (Foretold.ask id).sequence
  rintro ⟨error, left⟩ _ _ ⟨allowed, -, rfl, rfl⟩
  rename_i memory
  have extent : left.extent = memory.extent := SetsData.extent allowed
  cases error with
  | none =>
    apply Foretold.sequence (modifyFramebuffer_watches extent)
    exact fun _ _ _ held => .done held
  | some error => exact Foretold.failing (Foretold.update trivial)

/-- The watch has seen the storage that the library has obtained. Without any it is where it was.
-/
theorem callocPixels_watches (size : Nat) : Watches watch (callocPixels size) memory
    (fun data watch' final => (data ≠ none → watch' = watch.stored) ∧ final = memory) := by
  apply (Foretold.ask id).sequence
  rintro data _ _ ⟨-, -, rfl, rfl⟩
  cases data with
  | none => exact .done ⟨fun obtained => absurd rfl obtained, rfl⟩
  | some block => exact .done ⟨fun _ => rfl, rfl⟩

/-- The watch does not see a release. -/
theorem freePixels_watches (data : Option Block) : Watches watch (freePixels data) memory
    (fun _ watch' final => watch' = watch ∧ final = memory) := by
  cases data with
  | none => exact .done ⟨rfl, rfl⟩
  | some block =>
    apply (Foretold.ask id).sequence
    rintro _ _ _ ⟨-, -, rfl, rfl⟩
    exact .done ⟨rfl, rfl⟩

end Storage

/-- The header of this DesktopSize rectangle has been received last. -/
def Watch.Resizes (watch : Watch) (rect : Rect) : Prop :=
  watch.received.length = 12 ∧ readS32 (watch.received.drop 8) = encodingDesktopSize ∧
    rect = readRect watch.received

/-- When storage has been obtained for a DesktopSize rectangle, the watched size is that of the
rectangle. -/
theorem Watch.Resizes.stored {watch : Watch} {rect : Rect} (resizes : watch.Resizes rect) :
    watch.stored.size = ⟨rect.width, rect.height⟩ := by
  obtain ⟨whole, encoding, rfl⟩ := resizes
  rw [Watch.stored, if_pos ⟨whole, encoding⟩]

/-- `decode_desktop_size` records the size of its rectangle when there is storage for it, as the
watch does, and otherwise neither changes. -/
theorem decodeDesktopSize_watches {watch : Watch} {rect : Rect} (resizes : watch.Resizes rect)
    (memory : Memory) :
    Watches watch (decodeDesktopSize word rect) memory (fun _ watch' final =>
      final.extent = watch'.size) := by
  have reported : Tracks (fire (.desktopResize rect.width rect.height)) :=
    Unsized.tracks (disregards_size.fire _)
  apply Foretold.load
  apply Foretold.ite
  · intro _
    apply Foretold.sequence (@modifyFramebuffer_watches _ _ _ ⟨rect.width, rect.height⟩ rfl)
    rintro _ _ middle ⟨rfl, extent⟩
    apply callAllocFramebuffer_watches.sequence
    rintro _ _ later ⟨rfl, same⟩
    apply reported
    rw [same, extent, resizes.stored]
  · intro _
    apply (callocPixels_watches _).sequence
    rintro data _ _ ⟨obtained, rfl⟩
    cases data with
    | none => exact .fail
    | some block =>
      obtain rfl := obtained nofun
      apply (freePixels_watches _).sequence
      rintro _ _ _ ⟨rfl, rfl⟩
      apply Foretold.sequence (@modifyFramebuffer_watches _ _ _ ⟨rect.width, rect.height⟩ rfl)
      rintro _ _ later ⟨rfl, extent⟩
      apply reported
      rw [extent, resizes.stored]

/-- One rectangle: the header, and with it what is announced. -/
theorem handleRect_tracks (word : WordSize) : Tracks (handleRect word) := by
  intro watch memory tracked
  apply (transportRecv_watches 12 watch memory).sequence
  rintro header _ _ ⟨whole, rfl, rfl⟩
  have unsized {routine : Routine Unit} (unsized : Unsized routine) :=
    unsized.tracks { watch with received := header } _ tracked
  apply Foretold.ite (fun _ => unsized (disregards_size.decodeRaw word _))
  intro _
  apply Foretold.ite
  · exact fun desktopSize => decodeDesktopSize_watches ⟨whole, desktopSize, rfl⟩ _
  intro _
  apply Foretold.ite
  · exact fun _ => unsized (disregards_size.receives (decodeCursor_reception word _))
  · exact fun _ => .fail

/-- The rectangle loop tracks the size, by induction on the rectangles that are left. -/
theorem handleRects_tracks (word : WordSize) (left : Nat) : Tracks (handleRects word left) := by
  induction left with
  | zero => exact fun _ _ tracked => .done tracked
  | succ left inductionHypothesis =>
    have positioned : Unsized (update (fun memory : Memory =>
      { memory with pendingRects := left })) := Keeps.update (fun _ => rfl)
    apply positioned.tracks.sequence
    intro _
    exact (handleRect_tracks word).sequence (fun _ => inductionHypothesis)

/-- `ovnc__recv_server_message` tracks the size, whatever message arrives. -/
theorem recvServerMessage_tracks (word : WordSize) : Tracks (recvServerMessage word) := by
  apply (Unsized.tracks (disregards_size.transportRecv 1)).sequence
  intro msgType
  apply Tracks.ite
  · intro _
    apply (Unsized.tracks (disregards_size.transportRecv 3)).sequence
    intro header
    apply (handleRects_tracks word _).sequence
    intro _
    exact Unsized.tracks (disregards_size.fire _)
  intro _
  apply Tracks.ite (fun _ => Unsized.tracks
    (disregards_size.receives (handleColorMapEntries_reception word)))
  intro _
  apply Tracks.ite (fun _ => Unsized.tracks (disregards_size.fire _))
  intro _
  apply Tracks.ite (fun _ => Unsized.tracks
    (disregards_size.receives (handleServerCutText_reception word)))
  exact fun _ => Tracks.fail _

/-! ### Calls -/

/-- After a message that could not be processed the call fails, so that nothing has to be tracked.
-/
theorem tearDown_watches (error : Error) (watch : Watch) (memory : Memory) :
    Watches watch (tearDown error) memory (fun (_ : Unit) _ _ => False) := by
  apply ((Unsized.watches (disregards_size.fire _) watch memory)).sequence
  intro _ watch' middle _
  apply Foretold.failing
  apply (Unsized.watches (clientDisconnect_keeps disregards_size.closed disregards_size.hung)
    watch' middle).returning
  exact fun _ _ _ _ => trivial

/-- The guard of a call changes no size. -/
theorem requireConnected_tracks : Tracks requireConnected :=
  Unsized.tracks (Keeps.load (fun _ => Keeps.failIf _ _))

/-- The loop of `ovnc_client_run` tracks the size, by induction on its bound. -/
theorem runLoop_tracks (word : WordSize) (bound : Nat) : Tracks (runLoop word bound) := by
  induction bound with
  | zero => exact fun _ _ _ => .stalled
  | succ bound inductionHypothesis =>
    intro watch memory tracked
    apply Foretold.load
    apply Foretold.ite
    · intro _
      exact (recvServerMessage_tracks word).attempt (fun _ => inductionHypothesis)
        tearDown_watches watch memory tracked
    · exact fun _ => .done tracked

/-- The calls that process messages. -/
theorem receiving_tracks (word : WordSize) (bound : Nat) :
    Tracks (clientProcessMessage word) ∧ Tracks (clientRun word bound) := by
  constructor
  · apply requireConnected_tracks.sequence
    intro _
    exact (recvServerMessage_tracks word).attempt (fun _ _ _ tracked => .done tracked)
      tearDown_watches
  · exact requireConnected_tracks.sequence (fun _ => runLoop_tracks word bound)

end Tracking

/-! ### Connecting -/

/-- The framebuffer has the size that the connection information tells. -/
def Memory.Fitted (memory : Memory) : Prop := memory.extent = memory.client.connInfo.extent

section Connecting

variable {word : WordSize}

/-- A handshake that returns has recorded the size that it was told: the messages it sends last
leave both alone. -/
theorem handshake_fitted :
    Establishes SetsData (fun _ => True) Memory.Fitted (handshake word) := by
  apply Establishes.after (Maintains.trivially _)
  intro _
  apply Establishes.after (Maintains.trivially _)
  intro _
  apply Establishes.after (Maintains.trivially _)
  intro _
  have fits : Establishes SetsData (fun _ => True) Memory.Fitted (initFramebuffer word) :=
    fun memory => wp_mono (initFramebuffer_setsUp memory)
      (fun _ _ _ setUp => setUp.weaken (fun _ sized => sized.extent))
  apply (doInitialization_establishes fits).maintained
  intro _
  have transmits : Transmits (fun memory : Memory => (memory.extent, memory.client.connInfo))
      (fun _ => True) (fun _ _ => True) :=
    ⟨fun _ _ _ => trivial, fun _ _ _ => trivial, fun _ _ => trivial, fun _ _ => trivial⟩
  apply Maintains.of_keeps (transmits.keeps (sendInitialMessages_transmission word)) _
    (fun _ _ => id)
  intro memory final same fitted
  obtain ⟨extent, info⟩ := Prod.mk.inj same
  rw [Memory.Fitted, extent, info]
  exact fitted

/-- What the handshake establishes holds of a client that has connected. -/
theorem clientConnect_establishes {may : (request : Request) → Answer request → Prop}
    {holds : Memory → Prop}
    (marked : ∀ memory : Memory, holds memory →
      holds { memory with client := { memory.client with state := .connected } })
    (shakes : Establishes may (fun _ => True) holds (handshake word)) :
    Establishes may (fun _ => True) holds (clientConnect word) := by
  have abandoned (error : Error) :
      Establishes may (fun _ => True) holds (abandonConnect error : Routine Unit) := by
    apply Establishes.after (Maintains.trivially _)
    intro _
    exact Establishes.after (Maintains.trivially _) (fun _ _ => trivial)
  apply Establishes.after (Maintains.trivially _)
  intro memory
  apply Establishes.after (Maintains.trivially _)
  intro _
  apply Establishes.after (Maintains.trivially _)
  intro _
  apply Establishes.after (Maintains.trivially _)
  intro created
  cases created with
  | error error => exact Establishes.after (Maintains.trivially _) (fun _ _ => trivial)
  | ok =>
    apply Establishes.after (Maintains.trivially _)
    intro connected
    cases connected with
    | error error => exact abandoned error
    | ok =>
      intro memory
      refine wp_after_attempt (shakes memory) (fun _ _ final held => marked final held)
        (fun _ error final _ => abandoned error final) (fun _ _ _ _ => trivial)
        (fun _ _ _ => trivial)

end Connecting

/-- A handshake that returns has received the size that it tells. -/
theorem Shaken.announced {standing : Standing} {exchange : List Transfer} {info : ConnectionInfo}
    (shaken : Shaken standing exchange info) : ∃ header, serverInitHeader exchange = some header ∧
      info.extent = ⟨readU16 header, readU16 (header.drop 2)⟩ := by
  obtain ⟨-, admitted, read⟩ := shaken
  cases read with
  | @read header chunks info fixed whole width height names =>
    refine ⟨header, ?_, ?_⟩
    · cases admitted <;> rfl
    · rw [ConnectionInfo.extent, width, height]

/-! ### Calls that receive nothing -/

/-- As long as nothing has been received, nothing is announced. -/
theorem Watch.next_unreceived {memory : Memory} {request : Request} (answer : Answer request)
    (other : ∀ len, request ≠ .recv len) (size : Extent) :
    sizes.next ⟨[], size⟩ ⟨memory, request, answer⟩ = ⟨[], size⟩ := by
  have unstored : Watch.stored ⟨[], size⟩ = ⟨[], size⟩ :=
    if_neg (fun header => absurd header.1 nofun)
  cases request with
  | recv len => exact absurd rfl (other len)
  | calloc =>
    cases answer with
    | none => rfl
    | some id => exact unstored
  | allocFramebuffer =>
    obtain ⟨error, left⟩ := answer
    cases error with
    | none => exact unstored
    | some error => rfl
  | _ => rfl

/-- A call that hangs up or sends: nothing is announced in it, and the framebuffer keeps its
size, however the call ends. -/
theorem perform_extent (word : WordSize) (bound : Nat) {call : ApiCall} (other : call ≠ .connect)
    (unreceiving : call.receives = false) :
    Keeps SetsData Memory.extent (fun event => ∀ size, sizes.next ⟨[], size⟩ event = ⟨[], size⟩)
      (fun _ _ => True) (perform word bound call) := by
  cases call with
  | connect => exact absurd rfl other
  | processMessage | run => exact absurd unreceiving (by decide)
  | disconnect => exact clientDisconnect_keeps (fun _ _ _ _ => rfl) disregards_size.hung
  | requestUpdate | sendKeyEvent | sendPointerEvent | sendCutText | setPixelFormat | setEncodings =>
    apply perform_transmits _ word bound rfl
    · intro format _
      apply adoptPixelFormat_keeps
      case unseen =>
        intro memory framebuffer width height
        simp only [Memory.extent, Framebuffer.extent, Memory.withFramebuffer, width, height]
      case allocates =>
        exact callAllocFramebuffer_extent (fun memory asked answer =>
          @Watch.next_unreceived memory (.allocFramebuffer asked) answer (fun _ => nofun))
      case within =>
        exact fun _ _ answer _ unreceived => Watch.next_unreceived answer unreceived
    · exact ⟨fun _ _ _ _ => rfl, fun _ _ _ _ => rfl, fun _ _ => trivial, fun _ _ => trivial⟩

/-! ### Any call -/

/-- Every call but `ovnc_client_connect` announces by its DesktopSize rectangles alone. -/
theorem ApiCall.announces_other {call : ApiCall} (other : call ≠ .connect) (size : Extent)
    (events : List Step) (result : Except Error Unit) :
    call.announces size events result = resized size events := by
  cases call with
  | connect => exact absurd rfl other
  | _ => rfl

/-- A client that has hung up after being connected is disconnected. -/
theorem hungUp_state {memory final : Memory} (connected : memory.client.state = .connected)
    (hung : final.standing = memory.hungUp.standing) : final.client.state = .disconnected := by
  have state : final.client.state = memory.hungUp.client.state := congrArg Standing.state hung
  rw [state, Memory.hungUp, if_pos connected]

/-- The calls that receive record what was announced to them. -/
theorem receiving_announces {word : WordSize} {bound : Nat} {call : ApiCall}
    {memory final : Memory} {events : List Step} {size : Extent} (receives : call.receives = true)
    (tracked : memory.extent = size)
    (performed : Execution SetsData (perform word bound call) memory events (.returned ()) final) :
    final.extent = resized size events := by
  have tracks : Tracks (perform word bound call) := by
    cases call with
    | processMessage => exact (receiving_tracks word bound).1
    | run => exact (receiving_tracks word bound).2
    | _ => cases receives
  rcases (wp_iff _ _ _).mp (tracks ⟨[], size⟩ memory tracked) _ _ _ performed with alarmed | held
  · exact absurd alarmed (sizes.not_alarmed (fun _ _ => id) _ _)
  · exact held.2 () rfl

/-- A client that is connected after a completed call has the size that was announced last. -/
theorem perform_announces {word : WordSize} {bound : Nat} {call : ApiCall}
    {memory final : Memory} {events : List Step} {result : Except Error Unit} {size : Extent}
    (linked : memory.client.Linked)
    (counted : (memory.client.share : Int) ≤ memory.platformInitCount)
    (tracked : memory.client.state = .connected → memory.extent = size)
    (performed : Execution SetsData (perform word bound call) memory events
      (Outcome.finished result) final) (connected : final.client.state = .connected) :
    final.extent = call.announces size events result := by
  have allowed := performed.weaken setsData_allowed
  by_cases connecting : call = .connect
  · subst connecting
    cases result with
    | error error =>
      obtain ⟨state, -⟩ := (perform_sound word bound .connect linked counted allowed).refused rfl
        error rfl
      have used : memory.client.state ≠ .created := by
        rw [← state, connected]
        decide
      obtain ⟨-, -, rfl⟩ := (wp_iff _ _ _).mp (clientConnect_refused word used) _ _ _ performed
      exact tracked connected
    | ok =>
      obtain ⟨shaken, -⟩ := (wp_iff _ _ _).mp (clientConnect_transfers word memory) _ _ _ allowed
      have fitted : final.Fitted := (wp_iff _ _ _).mp
        (clientConnect_establishes (fun _ held => held) handshake_fitted memory) _ _ _ performed
      obtain ⟨header, found, extent⟩ := shaken.announced
      rw [ApiCall.announces, show serverInitHeader (transfers events) = some header from found]
      exact fitted.trans extent
  · rw [ApiCall.announces_other connecting]
    by_cases was : memory.client.state = .connected
    · by_cases receives : call.receives = true
      · cases result with
        | error error =>
          obtain ⟨transport, attached⟩ := Option.isSome_iff_exists.mp (linked.mpr was)
          have ended : Performed call memory events (.failed error) final := (wp_iff _ _ _).mp
            (perform_connected word bound connecting attached was) _ _ _ allowed
          have state := hungUp_state was ((ended.failed error rfl).1 receives).2
          exact absurd (connected.symm.trans state) (by decide)
        | ok => exact receiving_announces receives (tracked was) performed
      · obtain ⟨extent, within, -⟩ := (wp_iff _ _ _).mp
          (perform_extent word bound connecting (by simpa using receives) memory) _ _ _ performed
        rw [extent, tracked was, resized,
          sizes.reading_unmoved (fun event member => (within event member).2 size)]
    · have idle : (perform word bound call).wp SetsData (fun _ _ final => final = memory) memory :=
        perform_unconnected word bound connecting was (fun _ => rfl) (fun _ => rfl)
      obtain rfl := (wp_iff _ _ _).mp idle _ _ _ performed
      exact absurd connected was

/-! ## Every reachable state -/

/-- An action on another client announces nothing to this one. -/
theorem Process.Action.announces_untouched {handle : Nat} {action : Process.Action}
    (untouched : ∀ call events result, action ≠ .called handle call events result)
    (size : Extent) : action.announces handle size = size := by
  cases action with
  | created | destroyed => rfl
  | called other call events result =>
    have different : other ≠ handle := by
      rintro rfl
      exact untouched call events result rfl
    exact if_neg different

/-- The framebuffer of a client that is connected has the size that was announced last. -/
theorem announced_extent {word : WordSize} {history : List Process.Action} {process : Process}
    (reached : Process.Reaches word SetsData history process) {handle : Nat} {client : Client}
    (live : process.client? handle = some client) (connected : client.state = .connected) :
    client.framebuffer.extent = announcedSize handle history := by
  refine (Run.invariant (fun history process => process.Sound ∧ ∀ handle client,
    process.client? handle = some client → client.state = .connected →
      client.framebuffer.extent = announcedSize handle history) ?_ ?_ reached).2 handle client live
      connected
  · refine ⟨Process.sound_initial, fun handle client live => ?_⟩
    simp [Process.initial, Process.client?] at live
  · rintro history before action after ⟨sound, held⟩ transition
    refine ⟨(sound.step (transition.weaken setsData_allowed)).1,
      fun handle client live connected => ?_⟩
    rw [announcedSize, List.foldl_append]
    rcases transition.survivor live with ⟨same, untouched⟩ | ⟨-, -, host, config, callbacks, rfl⟩ |
      ⟨earlier, bound, call, events, result, final, was, rfl, performed, rfl⟩
    · exact (held handle client same connected).trans
        (Process.Action.announces_untouched untouched _).symm
    · exact absurd connected (by simp [freshClient])
    · have counted : (earlier.share : Int) ≤ before.platformInitCount := by
        rw [sound.counted]
        exact Int.ofNat_le.mpr (Process.share_le was)
      have announced := perform_announces (sound.linked handle earlier was) counted
        (held handle earlier was) performed connected
      exact announced.trans (if_pos rfl).symm

/-! ## What a server decodes -/

/-- The server reads a request for this rectangle, with a byte that is not zero exactly when
only changes are wanted, and is back on a message boundary. -/
def UpdateRequested (asked : Rect) (incremental : Int32) (sent : List UInt8) : Prop :=
  ∃ byte, Reads Grammar.clientMessage sent
      (.fbUpdateRequest byte asked.x asked.y asked.width asked.height) ∧
    (byte ≠ 0 ↔ incremental ≠ 0)

/-- The whole of a screen. -/
def Extent.whole (size : Extent) : Rect := ⟨0, 0, size.width, size.height⟩

/-- The lowest byte is zero for the multiples of 256. -/
theorem narrowed_eq_zero (incremental : Int32) :
    incremental.toUInt32.toUInt8 = 0 ↔ (256 : Int) ∣ incremental.toInt := by
  have narrowed : incremental.toUInt32.toUInt8.toNat = incremental.toUInt32.toNat % 256 :=
    UInt32.toNat_toUInt8 _
  have signed : incremental.toInt = _ := BitVec.toInt_eq_toNat_cond incremental.toBitVec
  have same : incremental.toBitVec.toNat = incremental.toUInt32.toNat := rfl
  have zero : incremental.toUInt32.toUInt8 = 0 ↔ incremental.toUInt32.toUInt8.toNat = 0 :=
    UInt8.toNat_inj.symm
  rw [zero, narrowed, signed, same]
  split <;> omega

/-- `ovnc_client_request_update` sends one message: the type, the narrowed flag and the rectangle
it was given, or else the whole of the recorded size. -/
theorem requestUpdate_reads {rect : Option Rect} {incremental : Int32} {memory final : Memory}
    {events : List Step}
    (performed : Execution Allowed (clientRequestUpdate rect incremental) memory events
      (.returned ()) final) :
    let asked := rect.getD memory.extent.whole
    Reads Grammar.clientMessage (outgoing events) (.fbUpdateRequest incremental.toUInt32.toUInt8
      asked.x asked.y asked.width asked.height) := by
  obtain ⟨sender, picked, exchange⟩ : WholeSender _ (transfers events) := (wp_iff _ _ _).mp
    (@perform_transfers .bits64 0 (.requestUpdate rect incremental) rfl trivial memory) _ _ _
    performed
  obtain rfl := Option.some.inj picked
  rw [outgoing, exchange, flatMap_written_sent, Sender.buffers_flatten]
  exact Grammar.reads_clientMessage trivial

/-- Whether a request is understood depends on the byte that is sent alone. -/
theorem updateRequested_iff_narrowed {asked : Rect} {incremental : Int32} {sent : List UInt8}
    (reads : Reads Grammar.clientMessage sent (.fbUpdateRequest incremental.toUInt32.toUInt8
      asked.x asked.y asked.width asked.height)) :
    UpdateRequested asked incremental sent ↔
      incremental = 0 ∨ ¬ (256 : Int) ∣ incremental.toInt := by
  have narrowed := narrowed_eq_zero incremental
  constructor
  · rintro ⟨byte, decoded, meant⟩
    have same := (reads []).symm.trans (decoded [])
    obtain rfl : incremental.toUInt32.toUInt8 = byte := by simpa using same
    by_cases zero : incremental = 0
    · exact .inl zero
    · exact .inr (fun multiple => meant.mpr zero (narrowed.mpr multiple))
  · intro proper
    refine ⟨_, reads, ?_⟩
    constructor
    · rintro some rfl
      exact some rfl
    · intro nonzero zero
      exact proper.elim nonzero (fun proper => proper (narrowed.mp zero))

/-- In every reachable state the server reads the given rectangle, or the whole of what it
announced last. -/
theorem requestUpdate_announced {word : WordSize} {history : List Process.Action}
    {process : Process} (reached : Process.Reaches word SetsData history process) {handle : Nat}
    {client : Client} (live : process.client? handle = some client)
    (connected : client.state = .connected) {rect : Option Rect} {incremental : Int32}
    {events : List Step} {final : Memory}
    (performed : Execution SetsData (clientRequestUpdate rect incremental)
      (process.memoryOf client) events (.returned ()) final) :
    let asked := rect.getD (announcedSize handle history).whole
    Reads Grammar.clientMessage (outgoing events) (.fbUpdateRequest incremental.toUInt32.toUInt8
      asked.x asked.y asked.width asked.height) := by
  have extent : (process.memoryOf client).extent = announcedSize handle history :=
    announced_extent reached live connected
  rw [← extent]
  exact requestUpdate_reads (performed.weaken setsData_allowed)

/-- A request that returns is decoded as it was meant exactly when the argument is zero or no
multiple of 256. Its rectangle is the given one, or the whole of what was announced last. -/
theorem updateRequested_iff {word : WordSize} {history : List Process.Action} {process : Process}
    (reached : Process.Reaches word SetsData history process) {handle : Nat} {client : Client}
    (live : process.client? handle = some client) (connected : client.state = .connected)
    {rect : Option Rect} {incremental : Int32} {events : List Step} {final : Memory}
    (performed : Execution SetsData (clientRequestUpdate rect incremental)
      (process.memoryOf client) events (.returned ()) final) :
    UpdateRequested (rect.getD (announcedSize handle history).whole) incremental
      (outgoing events) ↔ incremental = 0 ∨ ¬ (256 : Int) ∣ incremental.toInt :=
  updateRequested_iff_narrowed (requestUpdate_announced reached live connected performed)

/-- What the example host answers is within the bounds that are assumed of an environment here. -/
theorem provisioned_setsData (request : Request) (answer : Answer request)
    (provisioned : Provisioned request answer) : SetsData request answer := by
  cases request with
  | allocFramebuffer asked =>
    obtain ⟨-, ⟨-, block, kept, -⟩, -⟩ := provisioned
    rw [SetsData, kept]
  | _ => exact provisioned.1

/-- A request for the whole screen can be made in a reachable state, and returns. -/
theorem requestUpdate_returns (incremental : Int32) : ∃ history process client events final,
    Process.Reaches .bits64 SetsData history process ∧ process.client? 0 = some client ∧
      client.state = .connected ∧ Execution SetsData (clientRequestUpdate none incremental)
        (process.memoryOf client) events (.returned ()) final := by
  obtain ⟨history, reached⟩ :=
    plainConnected_reaches provisioned_setsData plainConnected_returned.1
  have executed := run_execution plainHost.feed SetsData plainHost_setsData
    (clientRequestUpdate none incremental) ⟨(plainConnected {}).2.1.client,
      (plainConnected {}).2.1.platformInitCount, 0⟩ { unread := [] }
  exact ⟨history, _, _, _, _, reached, rfl, plainConnected_returned.2, executed⟩

/-- A client that has connected requests an update of the whole framebuffer. -/
theorem updateRequested_iff_whole : ∃ history events,
    UpdateRequested (announcedSize 0 history).whole 1 (outgoing events) := by
  obtain ⟨history, process, client, events, final, reached, live, connected, performed⟩ :=
    requestUpdate_returns 1
  exact ⟨history, events,
    (updateRequested_iff reached live connected performed).mpr (.inr (by decide))⟩

/-- Asked for changes with 256, the server is to send everything. -/
theorem requestUpdate_misread : ∃ history process client events final,
    Process.Reaches .bits64 SetsData history process ∧ process.client? 0 = some client ∧
      client.state = .connected ∧ Execution SetsData (clientRequestUpdate none 256)
        (process.memoryOf client) events (.returned ()) final ∧
      Reads Grammar.clientMessage (outgoing events) (.fbUpdateRequest 0 0 0
        (announcedSize 0 history).width (announcedSize 0 history).height) ∧
      ¬ UpdateRequested (announcedSize 0 history).whole 256 (outgoing events) := by
  obtain ⟨history, process, client, events, final, reached, live, connected, performed⟩ :=
    requestUpdate_returns 256
  have reads := requestUpdate_announced reached live connected performed
  refine ⟨history, process, client, events, final, reached, live, connected, performed, reads, ?_⟩
  intro understood
  exact absurd ((updateRequested_iff_narrowed reads).mp understood) (by decide)

end OpenVnc
