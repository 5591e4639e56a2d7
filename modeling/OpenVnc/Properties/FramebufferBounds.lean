import OpenVnc.Coherence
import OpenVnc.Calls
import OpenVnc.Feed

/-!
# The framebuffer record and the writes through it

Four places write the framebuffer record: the handshake, DesktopSize with either
allocator, and a change of pixel format. While a client is connected all of them
leave it coherent: a supported format, a size that is the exact product, and a
block at least that large. Every row of a Raw rectangle that passes the source's
bound check then lies inside the block, whatever the server sent.

The results are for a 64-bit `size_t` and an allocator that does not fail.
-/

namespace OpenVnc

open Interaction Interaction.Program

/-! ## Each routine keeps the record coherent -/

/-- The invariant of a routine's memory. It is the record's own property and does not depend on
the state of the client. -/
def CoherentMemory (memory : Memory) : Prop := memory.client.framebuffer.Coherent

/-- A fault other than a write outside the pixel storage. The other faults are those of other
buffers and of a null transport. -/
def InsidePixels (reason : Fault) : Prop := reason ≠ .outOfBounds .pixels

/-- The use of a null transport writes nothing to pixel storage. -/
theorem nullTransport_inside : InsidePixels .nullTransport := nofun

/-- A routine that keeps the record coherent and never receives outside its block. The
environment keeps what an application and a heap promise about storage. -/
abbrev KeepsCoherent {α : Type} (routine : Routine α) : Prop :=
  Maintains Provisioned InsidePixels CoherentMemory routine

/-- The same for a routine started from one memory. -/
abbrev SettlesCoherent {α : Type} (routine : Routine α) (memory : Memory) : Prop :=
  routine.wp Provisioned (Settled InsidePixels CoherentMemory) memory

/-- What a routine is composed of settles what it keeps: its own faults are about other buffers
than the pixel storage. -/
theorem maintains_compositional {holds : Memory → Prop} :
    Compositional Fault.OfBuffer (fun _ (routine : Routine _) =>
      Maintains Provisioned InsidePixels holds routine) := by
  apply Maintains.compositional
  rintro _ ⟨buffer, other, rfl⟩ overrun
  exact other (Fault.outOfBounds.inj overrun)

section Exchanging

variable {holds : Memory → Prop} {α : Type} {routine : Routine α}

/-- A receive into a buffer of the routine maintains every condition on the memory. The bytes it
received are the routine's. -/
theorem transportRecv_maintains (len : Nat) :
    Maintains Provisioned InsidePixels holds (transportRecv len) := by
  intro memory held
  rw [wp_transportRecv]
  refine ⟨fun _ => nullTransport_inside, fun transport _ => ⟨trivial, ?_, ?_⟩⟩
  · exact fun _ _ => held
  · exact fun _ _ _ => held

/-- Sending changes nothing in the memory. Nor does the block that a list of encodings is put
together in. -/
theorem transmission_maintains (operation : Transmission α routine) :
    Maintains Provisioned InsidePixels holds routine := by
  cases operation with
  | send data =>
    intro memory held
    rw [wp_transportSend]
    refine ⟨fun _ => nullTransport_inside, fun transport _ => ⟨trivial, ?_, ?_⟩⟩
    · exact fun _ => held
    · exact fun _ _ _ => held
  | malloc size => exact Maintains.ask _

/-- The operations of the handshake change the connection information, and receive nothing into
pixel storage. -/
theorem exchange_maintains
    (unseen : ∀ memory info, holds memory → holds (Memory.withConnInfo memory info))
    (operation : Exchange α routine) : Maintains Provisioned InsidePixels holds routine := by
  cases operation with
  | transmit given => exact transmission_maintains given
  | recv len => exact transportRecv_maintains len
  | recvName len =>
    intro memory held
    unfold transportRecvName
    simp only [bind_eq, Program.wp_sequence, wp_derefTransport, wp_faultIf, wp_ask,
      continuing_returned, continuing_faulted, continuing_waiting]
    refine ⟨fun _ => nullTransport_inside, fun transport _ => ⟨?_, fun _ => ?_⟩⟩
    · simp [Settled, InsidePixels]
    refine ⟨trivial, fun answer _ => ?_⟩
    cases answer with
    | complete bytes => exact unseen memory _ held
    | stopped received error => exact unseen memory _ held
  | record change => exact Maintains.update (fun memory held => unseen memory _ held)

end Exchanging

/-- A receive into the part of the block that the record accounts for stays inside
the block, and keeps the record coherent whether or not it completes. -/
theorem transportRecvPixels_coherent {offset len : Nat} {memory : Memory}
    (coherent : CoherentMemory memory)
    (inside : offset + len ≤ memory.client.framebuffer.dataSize) :
    SettlesCoherent (transportRecvPixels offset len) memory := by
  have room : offset + len ≤ memory.client.framebuffer.capacity :=
    Nat.le_trans inside coherent.stored
  rw [SettlesCoherent, wp_transportRecvPixels]
  refine ⟨fun _ => nullTransport_inside, fun transport _ => ⟨fun outside => by omega, fun _ => ?_⟩⟩
  refine ⟨trivial, fun bytes allowed => ?_, fun received error allowed => ?_⟩
  · have size : bytes.length = len := allowed.1
    exact coherent.store (by rw [size]; exact room)
  · have size : received.length < len := allowed.1.1
    exact coherent.store (by omega)

/-- The row loop of `ovnc__decode_raw`. The test before each receive compares the
exact end of the row with the size the record accounts for. -/
theorem decodeRawRows_coherent (rect : Rect) {bpp rowBytes fbStride : Nat} (small : bpp ≤ 4)
    (rowBound : rowBytes ≤ 2 ^ 18) (strideBound : fbStride ≤ 2 ^ 18) (y rows : Nat)
    (below : y + rows < 2 ^ 16) :
    KeepsCoherent (decodeRawRows .bits64 rect bpp rowBytes fbStride y rows) := by
  induction rows generalizing y with
  | zero => exact Maintains.done ()
  | succ rows inductionHypothesis =>
    obtain ⟨offsetExact, endExact⟩ :=
      row_exact (y := y) rect small rowBound strideBound (by omega)
    simp only [decodeRawRows, offsetExact, endExact]
    apply Maintains.load
    intro memory coherent
    rw [bind_eq, Program.wp_sequence, wp_failIf]
    refine ⟨fun _ => coherent, fun accepted => ?_⟩
    exact Maintains.wp_sequence (transportRecvPixels_coherent coherent (Nat.not_lt.mp accepted))
      (fun _ => inductionHypothesis (y + 1) (by omega))

/-- `ovnc__transport_destroy` leaves the record alone. The blocks it concerns are not those of
the pixels. -/
theorem transportDestroy_coherent : KeepsCoherent transportDestroy := by
  apply Maintains.load
  intro memory held
  cases memory.client.transport with
  | none => exact held
  | some transport =>
    refine Maintains.wp_sequence (Maintains.onlyIf (fun _ => ?_) memory held) (fun _ => ?_)
    · exact (Maintains.ask _).sequence (fun _ => Maintains.done ())
    · exact Maintains.update (fun _ held => held)

/-- `ovnc__platform_cleanup` changes the count only. -/
theorem platformCleanup_coherent : KeepsCoherent platformCleanup := by
  apply Maintains.update
  intro memory held
  split
  · exact held
  · exact held

/-- So `ovnc_client_disconnect` leaves the record coherent. -/
theorem clientDisconnect_coherent : KeepsCoherent clientDisconnect := by
  apply Maintains.load
  intro memory held
  refine Maintains.onlyIf (fun _ => ?_) memory held
  apply transportDestroy_coherent.sequence
  intro _
  exact Maintains.sequence (Maintains.update (fun _ held => held))
    (fun _ => platformCleanup_coherent)

/-- A callback leaves it coherent, also when the application disconnects in it. What the
application may change of the record it changes through its allocator only. -/
theorem fire_coherent (call : Callback) : KeepsCoherent (fire call) := by
  apply Maintains.load
  intro memory held
  refine Maintains.onlyIf (fun _ => ?_) memory held
  apply (Maintains.ask _).sequence
  intro disconnects
  exact Maintains.onlyIf (fun _ => clientDisconnect_coherent)

/-- `ovnc__decode_raw` for any rectangle. Each row's end has been compared with the recorded
size, and the record is coherent, so that the row is inside the block. -/
theorem decodeRaw_coherent (rect : Rect) : KeepsCoherent (decodeRaw .bits64 rect) := by
  apply Maintains.load
  intro memory coherent
  have small := coherent.supported.pixelBytes_le
  obtain ⟨rowExact, rowBound⟩ := extent_exact rect.width small
  obtain ⟨strideExact, strideBound⟩ := extent_exact memory.client.framebuffer.width small
  have height : rect.height.toNat < 2 ^ 16 := UInt16.toNat_lt rect.height
  simp only [ofInt_bytesPerPixel coherent.supported, rowExact, strideExact]
  exact Maintains.wp_sequence
    (decodeRawRows_coherent rect small rowBound strideBound 0 _ (by omega) memory coherent)
    (fun _ => fire_coherent _)

/-- The application's allocator makes a record coherent whose size field is already
the exact product. -/
theorem callAllocFramebuffer_coherent {memory : Memory}
    (supported : memory.client.framebuffer.format.Supported)
    (exactSize : memory.client.framebuffer.dataSize =
      memory.client.framebuffer.width.toNat * memory.client.framebuffer.height.toNat *
        memory.client.framebuffer.format.pixelBytes) :
    SettlesCoherent callAllocFramebuffer memory := by
  rw [SettlesCoherent, wp_callAllocFramebuffer]
  refine ⟨trivial, ?_⟩
  rintro error left ⟨_, ⟨rfl, block, rfl, room⟩, _⟩
  exact ⟨supported, exactSize, room⟩

/-- The library's own allocator gives a block of the requested size, and a record
with that size and block is coherent. -/
theorem callocPixels_coherent {β : Type} {size : Nat}
    {following : Option Block → Routine β} {memory : Memory}
    (continues : ∀ block : Block, block.bytes.length = size →
      SettlesCoherent (following (some block)) memory) :
    SettlesCoherent (callocPixels size >>= following) memory := by
  rw [SettlesCoherent, bind_eq, Program.wp_sequence, wp_callocPixels]
  refine ⟨trivial, ?_⟩
  rintro (_ | id) ⟨_, obtained, _⟩
  · exact absurd obtained (by simp [AllocationsSucceed])
  · exact continues _ (by simp)

/-- `decode_desktop_size` with either allocator. The new block has the size that is recorded
with it. -/
theorem decodeDesktopSize_coherent (rect : Rect) :
    KeepsCoherent (decodeDesktopSize .bits64 rect) := by
  apply Maintains.load
  intro memory coherent
  have size := product_exact rect.width rect.height coherent.supported.pixelBytes_le
  simp only [ofInt_bytesPerPixel coherent.supported, size]
  split
  · rw [bind_eq, Program.wp_sequence, wp_modifyFramebuffer]
    exact Maintains.wp_sequence (callAllocFramebuffer_coherent coherent.supported rfl)
      (fun _ => fire_coherent _)
  · apply callocPixels_coherent
    intro block room
    simp only [bind_eq, Program.wp_sequence]
    have resized : CoherentMemory (memory.withFramebuffer { memory.client.framebuffer with
        data := some block, width := rect.width, height := rect.height,
        dataSize := rect.width.toNat * rect.height.toNat *
          memory.client.framebuffer.format.pixelBytes }) :=
      ⟨coherent.supported, rfl, Nat.le_of_eq room.symm⟩
    have reported := fire_coherent (.desktopResize rect.width rect.height) _ resized
    exact wp_freePixels memory trivial (fun _ => reported) (fun _ _ => reported)

/-- The parts of a message that leave the size of the framebuffer alone. Only the rectangles
store pixels. -/
theorem reception_coherent {α : Type} {routine : Routine α}
    (part : Reception .bits64 α routine) : KeepsCoherent routine := by
  cases part with
  | recv len => exact transportRecv_maintains len
  | malloc size => exact Maintains.ask _
  | place left => exact Maintains.update (fun _ held => held)
  | raw rect => exact decodeRaw_coherent rect
  | fire call => exact fire_coherent call
  | disconnect => exact clientDisconnect_coherent

/-- The parts of a message: the record may be resized between any two rectangles. Each part
finds the record coherent and leaves it so. -/
theorem messagePart_coherent {α : Type} {routine : Routine α}
    (part : MessagePart .bits64 α routine) : KeepsCoherent routine := by
  cases part with
  | receive given => exact reception_coherent given
  | resize rect => exact decodeDesktopSize_coherent rect

/-! ## The calls of the API -/

/-- `ovnc_client_set_pixel_format` after its message: with an equal byte count the size and the
block stay, otherwise both are replaced. -/
theorem adoptPixelFormat_coherent {format : PixelFormat} (supported : format.Supported) :
    KeepsCoherent (adoptPixelFormat .bits64 format) := by
  apply Maintains.load
  intro memory coherent
  have size := product_exact memory.client.framebuffer.width memory.client.framebuffer.height
    supported.pixelBytes_le
  simp only [ofInt_bytesPerPixel supported, size]
  rw [bind_eq, Program.wp_sequence, wp_modifyFramebuffer, continuing_returned, wp_onlyIf]
  refine ⟨fun changed => ?_, fun same => ?_⟩
  · rw [bind_eq, Program.wp_sequence, wp_modifyFramebuffer, continuing_returned]
    split
    · exact callAllocFramebuffer_coherent supported rfl
    · apply callocPixels_coherent
      intro block room
      have replaced : CoherentMemory (memory.withFramebuffer { memory.client.framebuffer with
          format := format, data := some block,
          dataSize := memory.client.framebuffer.width.toNat *
            memory.client.framebuffer.height.toNat * format.pixelBytes }) :=
        ⟨supported, rfl, Nat.le_of_eq room.symm⟩
      simp only [bind_eq, Program.wp_sequence]
      exact wp_freePixels _ trivial (fun _ => replaced) (fun _ _ => replaced)
  · have equalCount : format.pixelBytes = memory.client.framebuffer.format.pixelBytes :=
      congrArg Int.toNat (Decidable.not_not.mp same)
    exact ⟨supported, coherent.exact_size.trans (by rw [← equalCount]; rfl), coherent.stored⟩

/-- The parts of a call that sends. A format that is adopted has passed the size check. The rest
of such a call does not touch the record. -/
theorem callPart_coherent {call : ApiCall} {α : Type} {routine : Routine α}
    (part : CallPart .bits64 call α routine) : KeepsCoherent routine := by
  cases part with
  | transmit given => exact transmission_maintains given
  | adopt chosen usable =>
    exact adoptPixelFormat_coherent ((PixelFormat.bytesPerPixel_nonneg_iff _).mp usable)

/-- Every call other than `ovnc_client_connect` keeps the record coherent. The parts that
a call is made of keep it. -/
theorem perform_coherent (bound : Nat) {call : ApiCall} (other : call ≠ .connect) :
    KeepsCoherent (perform .bits64 bound call) := by
  cases sends : call.sends with
  | false =>
    exact (perform_messages .bits64 bound other sends).lifted maintains_compositional
      messagePart_coherent
  | true =>
    exact (perform_parts .bits64 bound sends).lifted maintains_compositional callPart_coherent

/-! ## The handshake establishes the invariant -/

/-- A routine in which nothing is received into pixel storage. It may fail in any other way. -/
abbrev Harmless {α : Type} (routine : Routine α) : Prop :=
  Maintains Provisioned InsidePixels (fun _ => True) routine

/-- Whatever exchanges bytes with the server is one. -/
theorem exchange_harmless {α : Type} {routine : Routine α}
    (comprises : Comprises Exchange routine) : Harmless routine :=
  comprises.lifted maintains_compositional (exchange_maintains (fun _ _ => id))

/-- The framebuffer part of `do_initialization` makes the record coherent, whatever
it held before. -/
theorem initFramebuffer_establishes :
    Establishes Provisioned InsidePixels CoherentMemory (initFramebuffer .bits64) := by
  intro memory
  unfold initFramebuffer
  simp only [bind_eq, Program.wp_sequence, wp_load, wp_modifyFramebuffer, wp_failIf,
    continuing_returned, continuing_failed]
  refine ⟨fun _ => trivial, fun accepted => ?_⟩
  have supported := (PixelFormat.bytesPerPixel_nonneg_iff _).mp accepted
  have size := product_exact memory.client.connInfo.width memory.client.connInfo.height
    supported.pixelBytes_le
  rw [ofInt_bytesPerPixel supported, size]
  split
  · exact wp_mono (callAllocFramebuffer_coherent supported rfl)
      (fun _ _ _ settled => settled.established)
  · rw [Program.wp_sequence, wp_callocPixels]
    refine ⟨trivial, ?_⟩
    rintro (_ | id) ⟨_, obtained, _⟩
    · exact absurd obtained (by simp [AllocationsSucceed])
    · simp only [continuing_returned, Program.wp_sequence, wp_modifyFramebuffer, wp_failIf]
      exact ⟨fun _ => trivial,
        fun _ => ⟨supported, rfl, by simp [Framebuffer.capacity, Memory.withFramebuffer]⟩⟩

/-- The initial messages leave the record as it is. -/
theorem sendInitialMessages_coherent : KeepsCoherent (sendInitialMessages .bits64) :=
  (sendInitialMessages_transmission .bits64).lifted maintains_compositional
    transmission_maintains

/-- A handshake that returns leaves a coherent record. The record need not have been coherent
before. -/
theorem handshake_establishes :
    Establishes Provisioned InsidePixels CoherentMemory (handshake .bits64) := by
  apply Establishes.after (exchange_harmless negotiateVersion_exchange)
  intro _
  apply Establishes.after (exchange_harmless negotiateSecurity_exchange)
  intro _
  apply Establishes.after (exchange_harmless checkSecurityResult_exchange)
  intro _
  refine Establishes.maintained (fun memory => ?_) (fun _ => sendInitialMessages_coherent)
  refine Establishes.after (exchange_harmless (transportSend_exchange _)) (fun _ => ?_) memory
  apply Establishes.after (exchange_harmless (transportRecv_exchange 24))
  intro header
  apply Establishes.after (exchange_harmless (modifyConnInfo_exchange _))
  intro _
  exact Establishes.after (exchange_harmless (receiveName_exchange _))
    (fun _ => initFramebuffer_establishes)

/-! ## Every reachable process -/

/-- The invariant of a client that may not be connected yet. A fresh client's record is empty,
and an attempt that failed may have left anything in it. -/
def CoherentWhenConnected (memory : Memory) : Prop :=
  memory.client.state = .connected → CoherentMemory memory

/-- A routine after which the client is not connected, so that nothing is claimed. Its parts
need not be looked into. -/
abbrev StaysUnconnected {α : Type} (routine : Routine α) : Prop :=
  Maintains Provisioned InsidePixels (fun memory => memory.client.state ≠ .connected) routine

/-- `ovnc__transport_create` does not change the state. -/
theorem transportCreate_unconnected : StaysUnconnected transportCreate :=
  (Maintains.ask _).sequence (fun _ => (Maintains.failIf _ _).sequence (fun _ =>
    Maintains.update (fun _ held => held)))

/-- Nor does `ovnc__transport_connect`, whether or not it succeeds. -/
theorem transportConnect_unconnected : StaysUnconnected transportConnect := by
  intro memory idle
  unfold transportConnect
  simp only [bind_eq, Program.wp_sequence, wp_derefTransport, wp_load, wp_ask,
    continuing_returned, continuing_faulted, continuing_waiting]
  refine ⟨fun _ => nullTransport_inside, fun transport _ => ⟨trivial, fun answer _ => ?_⟩⟩
  cases answer with
  | ok sock => exact idle
  | error error => exact idle

/-- Nor does `ovnc__platform_init`. -/
theorem platformInit_unconnected : StaysUnconnected platformInit :=
  Maintains.update (fun _ idle => idle)

/-- Nor does `ovnc__platform_cleanup`. -/
theorem platformCleanup_unconnected : StaysUnconnected platformCleanup := by
  apply Maintains.update
  intro memory idle
  split
  · exact idle
  · exact idle

/-- An attempt that is abandoned leaves the client unconnected. What it had recorded does not
matter then. -/
theorem abandonConnect_unconnected (error : Error) : StaysUnconnected (abandonConnect error) := by
  refine Maintains.sequence (Maintains.load (fun memory idle => ?_)) (fun _ =>
    platformCleanup_unconnected.sequence (fun _ => Maintains.fail error))
  cases memory.client.transport with
  | none => exact idle
  | some transport =>
    refine Maintains.wp_sequence (Maintains.onlyIf (fun _ => ?_) memory idle) (fun _ => ?_)
    · exact (Maintains.ask _).sequence (fun _ => Maintains.done ())
    · exact Maintains.update (fun _ idle => idle)

/-- The handshake does not change the state, and its return makes the record
coherent. -/
theorem handshake_coherent {memory : Memory} (idle : memory.client.state ≠ .connected) :
    (attempt (handshake .bits64)).wp Provisioned
      (fun _ outcome final =>
        match outcome with
        | .returned (.ok ()) => final.client.state ≠ .connected ∧ CoherentMemory final
        | .returned (.error _) => final.client.state ≠ .connected
        | .failed _ => False
        | .faulted reason => InsidePixels reason
        | .waiting => True) memory := by
  rw [wp_attempt]
  apply wp_mono (wp_and (handshake_shakes .bits64 memory) (handshake_establishes memory))
  rintro events outcome final ⟨⟨same, _⟩, established⟩
  have stillIdle : final.client.state ≠ .connected := by
    rwa [show final.client.state = memory.client.state from congrArg Standing.state same]
  cases outcome with
  | returned value => exact ⟨stillIdle, established⟩
  | failed error => exact stillIdle
  | faulted reason => exact established
  | waiting => trivial

/-- `ovnc_client_connect`: a client that it leaves connected has been through a handshake that
returned, which has made the record coherent. -/
theorem clientConnect_coherent :
    Maintains Provisioned InsidePixels CoherentWhenConnected (clientConnect .bits64) := by
  apply Maintains.load
  intro memory held
  rw [bind_eq, Program.wp_sequence, wp_failIf]
  refine ⟨fun _ => held, fun created => ?_⟩
  have idle : memory.client.state ≠ .connected := by
    rw [Decidable.not_not.mp created]
    decide
  have nothing : ∀ memory : Memory, memory.client.state ≠ .connected →
      CoherentWhenConnected memory := fun _ idle connected => absurd connected idle
  apply Maintains.wp_through (platformInit_unconnected memory idle) nothing
  intro _ memory idle
  apply Maintains.wp_through (transportCreate_unconnected.attempt memory idle) nothing
  rintro (error | _) memory idle
  · exact Maintains.wp_through (platformCleanup_unconnected memory idle) nothing
      (fun _ memory idle => nothing memory idle)
  have abandoned : ∀ (error : Error) (memory : Memory), memory.client.state ≠ .connected →
      (abandonConnect error).wp Provisioned (Settled InsidePixels CoherentWhenConnected) memory :=
    fun error memory idle => wp_mono (abandonConnect_unconnected error memory idle)
      (fun _ _ _ settled => settled.weaken nothing)
  apply Maintains.wp_through (transportConnect_unconnected.attempt memory idle) nothing
  rintro (error | _) memory idle
  · exact abandoned error memory idle
  refine wp_after (handshake_coherent idle) ?_ (fun _ _ _ impossible => impossible.elim)
    (fun _ _ _ accepted => accepted) (fun _ _ _ => trivial)
  rintro events (error | _) final held
  · exact abandoned error final held
  · exact fun _ => held.2

/-- Every call keeps the invariant, `ovnc_client_connect` included. A call that connects
establishes the record, and the others keep it. -/
theorem perform_keeps (bound : Nat) (call : ApiCall) :
    Maintains Provisioned InsidePixels CoherentWhenConnected (perform .bits64 bound call) := by
  intro memory held
  by_cases other : call = .connect
  · subst other
    exact clientConnect_coherent memory held
  by_cases connected : memory.client.state = .connected
  · exact wp_mono (perform_coherent bound other memory (held connected))
      (fun _ _ _ settled => settled.weaken (fun _ coherent _ => coherent))
  · exact perform_unconnected .bits64 bound other connected (fun _ => held) (fun _ => held)

/-- In every reachable process the record of a connected client is coherent. No
execution of a call on it, whether or not it finishes, and no Raw rectangle, asks to
receive outside the block. -/
theorem framebuffer_bounds {history : List Process.Action} {process : Process}
    (reached : Process.Reaches .bits64 Provisioned history process) {handle : Nat}
    {client : Client} (live : process.client? handle = some client)
    (connected : client.state = .connected) :
    client.framebuffer.Coherent ∧
      (∀ bound call events outcome final,
        Execution Provisioned (perform .bits64 bound call) (process.memoryOf client) events
          outcome final → outcome ≠ .faulted (.outOfBounds .pixels)) ∧
      ∀ rect events outcome final,
        Execution Provisioned (decodeRaw .bits64 rect) (process.memoryOf client) events
          outcome final → outcome ≠ .faulted (.outOfBounds .pixels) := by
  have coherent : client.framebuffer.Coherent := by
    refine reached.every_client
      (fun client => client.state = .connected → client.framebuffer.Coherent)
      (fun _ _ _ impossible => nomatch impossible) ?_ live connected
    intro bound call memory events outcome final held execution ended
    have settled := (wp_iff _ _ _).mp (perform_keeps bound call memory held) _ _ _ execution
    rcases ended with rfl | ⟨error, rfl⟩
    · exact settled
    · exact settled
  refine ⟨coherent, fun bound call events outcome final execution faulted => ?_,
    fun rect events outcome final execution faulted => ?_⟩
  · have settled := (wp_iff _ _ _).mp
      (perform_keeps bound call (process.memoryOf client) (fun _ => coherent)) _ _ _ execution
    rw [faulted] at settled
    exact settled rfl
  · have settled := (wp_iff _ _ _).mp
      (decodeRaw_coherent rect (process.memoryOf client) coherent) _ _ _ execution
    rw [faulted] at settled
    exact settled rfl

/-- A client that has connected is in a process to which the bounds apply. -/
theorem framebuffer_bounds_reachable : ∃ history process client,
    Process.Reaches .bits64 Provisioned history process ∧
      process.client? 0 = some client ∧ client.framebuffer.Coherent := by
  obtain ⟨history, process, client, reached, live, connected⟩ :=
    connected_reachable (fun _ _ provisioned => provisioned)
  exact ⟨history, process, client, reached, live, (framebuffer_bounds reached live connected).1⟩

end OpenVnc
