import OpenVnc.Coherence
import OpenVnc.HangUp
import OpenVnc.ServerMessages
import OpenVnc.Properties.FormatFailures
import OpenVnc.Properties.ServerName

/-!
# Size arithmetic in either width of `size_t`

The library computes sizes and offsets in `size_t`, multiplying 16-bit extents and a pixel
size, and adding. Each result is the exact one up to multiples of 2^N. It is exact exactly
when the exact value is less than 2^N. With 64 bits it always is; with 32 bits the products
can be larger, and then the sizes that are recorded, the parts of a cursor and the bound
check of a row are wrong.
-/

namespace OpenVnc

open Interaction Interaction.Program

/-- Any network and any allocator of the library. The application's allocator sets the
pixel pointer of the record and no other field. -/
def SetsData : (request : Request) → Answer request → Prop
  | .allocFramebuffer asked, (_, left) => left = { asked with data := left.data }
  | request, answer => Allowed request answer

/-- An answer that sets data is an allowed one. -/
theorem setsData_allowed (request : Request) (answer : Answer request)
    (sets : SetsData request answer) : Allowed request answer := by
  cases request with
  | allocFramebuffer asked => trivial
  | _ => exact sets

/-- The exact number of bytes that the pixels of an extent take in a format. -/
def Extent.exactSize (extent : Extent) (format : PixelFormat) : Nat :=
  extent.width.toNat * extent.height.toNat * format.pixelBytes

/-- A framebuffer has been recorded for an announced extent and a format: the record has both
as they were announced, and its size is their exact size exactly when that is less than 2^N. -/
structure Framebuffer.Recorded (framebuffer : Framebuffer) (word : WordSize) (announced : Extent)
    (active : PixelFormat) : Prop where
  extent : framebuffer.extent = announced
  format : framebuffer.format = active
  exact_iff : framebuffer.dataSize = announced.exactSize active ↔
    announced.exactSize active < word.modulus

/-- The number of bytes of a cursor's mask: each row is padded to whole bytes. -/
def Rect.maskBytes (rect : Rect) : Nat := (rect.width.toNat + 7) / 8 * rect.height.toNat

/-- The end of a row of a Raw rectangle in the framebuffer's storage. -/
def Framebuffer.rowStop (framebuffer : Framebuffer) (rect : Rect) (row : Nat) : Nat :=
  (rect.y.toNat + row) * (framebuffer.width.toNat * framebuffer.format.pixelBytes) +
    rect.x.toNat * framebuffer.format.pixelBytes +
    rect.width.toNat * framebuffer.format.pixelBytes

/-- The requests to receive from the transport. -/
def Request.isRecv : Request → Bool
  | .recv _ => true
  | _ => false

/-- How many rows of a Raw rectangle an execution has let through the bound check: those
whose bytes have been asked for, and one that the storage turned out to have no room for. -/
def acceptedRows (events : List Step) (outcome : Outcome Error Fault Unit) : Nat :=
  events.countP (fun event => event.request.isRecv) +
    if outcome = .faulted (.outOfBounds .pixels) then 1 else 0

/-! ## Arithmetic -/

section Arithmetic

variable {word : WordSize}

/-- A value is kept exactly when it fits. -/
theorem wrap_eq_iff {value : Nat} : word.wrap value = value ↔ value < word.modulus := by
  constructor
  · intro kept
    rw [← kept]
    exact Nat.mod_lt _ (by cases word <;> decide)
  · exact WordSize.wrap_of_lt

/-- A comparison with a wrapped value is the exact comparison when the value fits. -/
theorem le_iff_of_wrap_le {value bound : Nat} (sized : bound < word.modulus)
    (accepted : word.wrap value ≤ bound) : value ≤ bound ↔ value < word.modulus := by
  constructor
  · intro fits
    exact Nat.lt_of_le_of_lt fits sized
  · intro fits
    rwa [WordSize.wrap_of_lt fits] at accepted

/-- The end of a row as the source computes it. -/
theorem row_wraps (word : WordSize) (down across rowBytes : Nat) :
    word.wrap (word.wrap (word.wrap down + word.wrap across) + rowBytes) =
      word.wrap (down + across + rowBytes) := by
  unfold WordSize.wrap
  rw [← Nat.add_mod, Nat.mod_add_mod]

/-- The mask of a cursor never wraps. -/
theorem mask_exact (word : WordSize) (rect : Rect) : word.wrap rect.maskBytes = rect.maskBytes := by
  have width : rect.width.toNat < 2 ^ 16 := UInt16.toNat_lt rect.width
  have height : rect.height.toNat < 2 ^ 16 := UInt16.toNat_lt rect.height
  have product : rect.maskBytes ≤ 2 ^ 14 * 2 ^ 16 :=
    Nat.mul_le_mul (by omega) (Nat.le_of_lt height)
  exact WordSize.wrap_of_lt (by cases word <;> simp only [WordSize.modulus] <;> omega)

end Arithmetic

/-! ## The size that is recorded -/

section Recorded

variable {word : WordSize} {announced : Extent} {active : PixelFormat}

/-- The record as it is left by the source: its size is the exact one up to multiples of 2^N. -/
structure Framebuffer.Sized (framebuffer : Framebuffer) (word : WordSize) (announced : Extent)
    (active : PixelFormat) : Prop where
  extent : framebuffer.extent = announced
  format : framebuffer.format = active
  size : framebuffer.dataSize = word.wrap (announced.exactSize active)

/-- A size up to multiples of 2^N is exact when the exact size is less than 2^N. -/
theorem Framebuffer.Sized.recorded {framebuffer : Framebuffer}
    (sized : framebuffer.Sized word announced active) :
    framebuffer.Recorded word announced active := by
  refine ⟨sized.extent, sized.format, ?_⟩
  rw [sized.size]
  exact wrap_eq_iff

/-- The application's allocator keeps the size and all that it was computed from. -/
theorem SetsData.sized {asked left : Framebuffer} {error : Option Error}
    (sets : SetsData (.allocFramebuffer asked) (error, left))
    (sized : asked.Sized word announced active) : left.Sized word announced active := by
  rw [show left = { asked with data := left.data } from sets]
  exact ⟨sized.extent, sized.format, sized.size⟩

/-- Whatever a host's allocator leaves in the data field, the record keeps the size announced, as
the callback gets no other field to write. -/
theorem callAllocFramebuffer_sized {memory : Memory}
    (sized : memory.client.framebuffer.Sized word announced active) :
    callAllocFramebuffer.wp SetsData (Settled (fun _ => True) (fun final =>
      final.client.framebuffer.Sized word announced active)) memory := by
  rw [wp_callAllocFramebuffer]
  refine ⟨trivial, fun error left allowed => ?_⟩
  have leftSized : left.Sized word announced active := SetsData.sized allowed sized
  cases error with
  | none => exact leftSized
  | some error => exact leftSized

/-- A callback leaves the framebuffer alone, whatever the application does in it. -/
theorem fire_maintains {may : (request : Request) → Answer request → Prop}
    {tolerated : Fault → Prop} {holds : Framebuffer → Prop} (call : Callback) :
    Maintains may tolerated (fun memory => holds memory.client.framebuffer) (fire call) := by
  intro memory held
  apply wp_mono (fire_ends call memory)
  rintro events outcome final ⟨-, ⟨rfl, -⟩ | ⟨rfl, rfl | rfl⟩⟩
  · trivial
  · exact held
  · change holds memory.hungUp.client.framebuffer
    rw [hungUp_framebuffer]
    exact held

/-- The extent that the connection information tells. -/
def ConnectionInfo.extent (info : ConnectionInfo) : Extent := ⟨info.width, info.height⟩

/-- The format in which the client has its framebuffer set up: the configured one, else the
server's. -/
def Memory.activeFormat (memory : Memory) : PixelFormat :=
  memory.client.pixelFormat.getD memory.client.connInfo.pixelFormat

/-- The framebuffer has been set up for what the connection information tells. -/
def Memory.SetUp (word : WordSize) (memory : Memory) : Prop :=
  memory.client.framebuffer.Sized word memory.client.connInfo.extent memory.activeFormat

/-- The framebuffer part of `do_initialization`. A format whose size is not supported ends
it before any size is recorded. -/
theorem initFramebuffer_setsUp :
    Establishes SetsData (fun _ => True) (Memory.SetUp word) (initFramebuffer word) := by
  intro memory
  unfold initFramebuffer
  simp only [bind_eq, Program.wp_sequence, wp_load, wp_modifyFramebuffer, wp_failIf,
    continuing_returned, continuing_failed]
  constructor
  · intro _
    trivial
  · intro accepted
    have supported := (PixelFormat.bytesPerPixel_nonneg_iff _).mp accepted
    rw [ofInt_bytesPerPixel supported, product_wraps]
    split
    · rw [wp_callAllocFramebuffer]
      refine ⟨trivial, fun error left allowed => ?_⟩
      cases error with
      | some error => trivial
      | none =>
        have leftSized : left.Sized word memory.client.connInfo.extent memory.activeFormat :=
          SetsData.sized allowed ⟨rfl, rfl, rfl⟩
        exact leftSized
    · rw [Program.wp_sequence, wp_callocPixels]
      constructor
      · trivial
      · intro id _
        simp only [continuing_returned, Program.wp_sequence, wp_modifyFramebuffer, wp_failIf]
        exact ⟨fun _ => trivial, fun _ => ⟨rfl, rfl, rfl⟩⟩

/-- What the set-up of the framebuffer establishes, `do_initialization` does, whatever comes
before. -/
theorem doInitialization_establishes {may : (request : Request) → Answer request → Prop}
    {holds : Memory → Prop}
    (establishes : Establishes may (fun _ => True) holds (initFramebuffer word)) :
    Establishes may (fun _ => True) holds (doInitialization word) := by
  apply Establishes.after (Maintains.trivially _)
  intro _
  apply Establishes.after (Maintains.trivially _)
  intro _
  apply Establishes.after (Maintains.trivially _)
  intro header
  apply Establishes.after (Maintains.trivially _)
  intro _
  exact Establishes.after (Maintains.trivially _) (fun _ => establishes)

/-- `do_initialization` records what ServerInit announces before it sets up the framebuffer, and
leaves the configured format. -/
theorem doInitialization_transfers (memory : Memory) :
    Transfers (fun _ => True) (fun _ _ => True) (doInitialization word) memory
      (fun _ exchange final => ∃ received, exchange = .sent [memory.client.shared] :: received ∧
        ServerInitRead received final.client.connInfo ∧ final.standing = memory.standing) := by
  have announces : Transfers (fun _ => True) (fun _ _ => True)
      (transportSend [memory.client.shared]) memory (fun _ exchange final =>
        exchange = [.sent [memory.client.shared]] ∧ final = memory ∧
          memory.client.transport ≠ none) := by
    rw [Transfers, Proceeds, wp_transportSend]
    refine ⟨fun _ => trivial, fun transport attached => ⟨trivial, fun _ => ?_, ?_⟩⟩
    · exact ⟨rfl, rfl, by simp [attached]⟩
    · exact fun _ _ _ => trivial
  apply Proceeds.load
  apply announces.sequence
  rintro ⟨⟩ exchange middle ⟨rfl, rfl, attached⟩
  refine (((receiveServerInit_transfers word attached).tolerating (fun _ _ => trivial)).weaken
    (fun _ _ _ => trivial) ?_)
  rintro ⟨⟩ received final ⟨read, same⟩
  exact ⟨received, rfl, read, same⟩

/-- `decode_desktop_size`, with either allocator. -/
theorem decodeDesktopSize_sized {memory : Memory} (rect : Rect)
    (supported : memory.client.framebuffer.format.Supported) :
    (decodeDesktopSize word rect).wp SetsData (Established (fun _ => True) (fun final =>
      final.client.framebuffer.Sized word ⟨rect.width, rect.height⟩
        memory.client.framebuffer.format)) memory := by
  have reported (middle : Memory) (sized : middle.client.framebuffer.Sized word
      ⟨rect.width, rect.height⟩ memory.client.framebuffer.format) :=
    @fire_maintains SetsData (fun _ => True) (fun framebuffer => framebuffer.Sized word
      ⟨rect.width, rect.height⟩ memory.client.framebuffer.format)
      (.desktopResize rect.width rect.height) middle sized
  unfold decodeDesktopSize
  rw [bind_eq, Program.wp_sequence, wp_load, continuing_returned]
  dsimp only
  rw [ofInt_bytesPerPixel supported, product_wraps]
  split
  · rw [bind_eq, Program.wp_sequence, wp_modifyFramebuffer]
    refine wp_mono (Maintains.wp_sequence (callAllocFramebuffer_sized ⟨rfl, rfl, rfl⟩)
      (fun _ memory sized => reported memory sized)) ?_
    exact fun _ _ _ settled => settled.established
  · rw [bind_eq, Program.wp_sequence, wp_callocPixels]
    constructor
    · trivial
    · rintro (_ | id) _
      · trivial
      · simp only [continuing_returned, bind_eq, Program.wp_sequence, Option.map_some]
        have resized := reported (memory.withFramebuffer { memory.client.framebuffer with
          data := some ⟨id, List.replicate (word.wrap (rect.width.toNat * rect.height.toNat *
            memory.client.framebuffer.format.pixelBytes)) 0⟩
          width := rect.width, height := rect.height, dataSize := word.wrap (rect.width.toNat *
            rect.height.toNat * memory.client.framebuffer.format.pixelBytes) }) ⟨rfl, rfl, rfl⟩
        have settles := wp_mono resized (fun _ _ _ settled => settled.established)
        exact wp_freePixels memory trivial (fun _ => settles) (fun _ _ => settles)

end Recorded

/-! ## The parts of a cursor -/

/-- The two parts of a reported cursor hold its pixels and its mask. A null pointer holds
nothing. -/
def CursorHolds (pixelBytes maskBytes : Nat) (pixels bitmask : Option (List UInt8)) : Prop :=
  (pixels.getD []).length = pixelBytes ∧ (bitmask.getD []).length = maskBytes

/-- A buffer of as many bytes as the wrapped sum of the parts, divided where the wrapped
pixels end, holds both parts exactly when the sum fits. -/
theorem cursorHolds_iff {word : WordSize} {pixelBytes maskBytes : Nat} {buf : List UInt8}
    (size : buf.length = word.wrap (word.wrap pixelBytes + maskBytes)) :
    CursorHolds pixelBytes maskBytes (some (buf.take (word.wrap pixelBytes)))
      (some (buf.drop (word.wrap pixelBytes))) ↔ pixelBytes + maskBytes < word.modulus := by
  have wrapped : word.wrap pixelBytes ≤ pixelBytes := Nat.mod_le ..
  simp only [CursorHolds, Option.getD_some, List.length_take, List.length_drop, size]
  constructor
  · rintro ⟨pixels, mask⟩
    have fits : word.wrap (word.wrap pixelBytes + maskBytes) < word.modulus :=
      Nat.mod_lt _ (by cases word <;> decide)
    omega
  · intro fits
    have kept : word.wrap pixelBytes = pixelBytes := WordSize.wrap_of_lt (by omega)
    rw [kept, WordSize.wrap_of_lt fits]
    omega

/-- Every cursor that `decode_cursor` reports. -/
theorem decodeCursor_holds (word : WordSize) {memory : Memory} (rect : Rect)
    (supported : memory.client.framebuffer.format.Supported) :
    (decodeCursor word rect).wp Allowed (fun events _ _ =>
      ∀ event ∈ events, ∀ hotspotX hotspotY width height pixels bitmask,
        event.request = .callback (.cursorUpdate hotspotX hotspotY width height pixels bitmask) →
          (CursorHolds (rect.width.toNat * rect.height.toNat *
              memory.client.framebuffer.format.pixelBytes) rect.maskBytes pixels bitmask ↔
            rect.width.toNat * rect.height.toNat * memory.client.framebuffer.format.pixelBytes +
              rect.maskBytes < word.modulus)) memory := by
  have mask : word.wrap ((rect.width.toNat + 7) / 8 * rect.height.toNat) = rect.maskBytes :=
    mask_exact word rect
  unfold decodeCursor
  rw [bind_eq, Program.wp_sequence, wp_load, continuing_returned]
  dsimp only
  rw [ofInt_bytesPerPixel supported, product_wraps, mask]
  split
  · next empty =>
    -- The cursor is reported as empty. It is, unless the sum has wrapped to zero.
    apply wp_mono (fire_ends _ memory)
    rintro events outcome final ⟨asks, -⟩ event member hotspotX hotspotY width height pixels
      bitmask called
    rcases (asks event member).2 with same | ⟨sock, closing⟩
    · rw [same] at called
      cases called
      have sum : word.wrap (rect.width.toNat * rect.height.toNat *
          memory.client.framebuffer.format.pixelBytes + rect.maskBytes) = 0 := by
        unfold WordSize.wrap at empty ⊢
        rwa [Nat.mod_add_mod] at empty
      simp only [CursorHolds, Option.getD_none, List.length_nil]
      constructor
      · rintro ⟨noPixels, noMask⟩
        rw [← noPixels, ← noMask]
        cases word <;> decide
      · intro fits
        rw [WordSize.wrap_of_lt fits] at sum
        omega
    · rw [closing] at called
      cases called
  · rw [bind_eq, Program.wp_sequence, wp_ask]
    constructor
    · simp
    · intro allocated _
      rw [continuing_returned, bind_eq, Program.wp_sequence, wp_failIf]
      constructor
      · intro _
        simp
      · intro _
        rw [continuing_returned, bind_eq, Program.wp_sequence, wp_transportRecv]
        refine ⟨by simp, fun transport _ => ⟨by simp, fun buf received => ?_, by simp⟩⟩
        rw [continuing_returned]
        apply wp_mono (fire_ends _ memory)
        rintro events outcome final ⟨asks, -⟩ event member hotspotX hotspotY width height pixels
          bitmask called
        simp only [List.cons_append, List.nil_append, List.mem_cons] at member
        rcases member with rfl | rfl | later
        · cases called
        · cases called
        · rcases (asks event later).2 with same | ⟨sock, closing⟩
          · rw [same] at called
            cases called
            apply cursorHolds_iff
            exact received
          · rw [closing] at called
            cases called

/-! ## The rows of a Raw rectangle -/

/-- Events after an accepted row. -/
theorem acceptedRows_cons (memory : Memory) (len : Nat) (answer : RecvAnswer) (events : List Step)
    (outcome : Outcome Error Fault Unit) :
    acceptedRows (⟨memory, .recv len, answer⟩ :: events) outcome =
      acceptedRows events outcome + 1 := by
  unfold acceptedRows
  rw [List.countP_cons_of_pos (by rfl)]
  omega

/-- The row loop from row `y` on, by induction on the rows: the wrapped end of every row that
is let through is within the size. -/
theorem decodeRawRows_accepts (word : WordSize) {may : (request : Request) → Answer request → Prop}
    (memory : Memory) (rect : Rect) (bpp rowBytes stride y rows : Nat) :
    (decodeRawRows word rect bpp rowBytes stride y rows).wp may (fun events outcome _ =>
      ∀ row < acceptedRows events outcome,
        word.wrap ((rect.y.toNat + (y + row)) * stride + rect.x.toNat * bpp + rowBytes) ≤
          memory.client.framebuffer.dataSize) memory := by
  induction rows generalizing memory y with
  | zero =>
    intro row before
    exact absurd before (Nat.not_lt_zero row)
  | succ rows inductionHypothesis =>
    have first (accepted : ¬ word.wrap (word.wrap (word.wrap ((rect.y.toNat + y) * stride) +
        word.wrap (rect.x.toNat * bpp)) + rowBytes) > memory.client.framebuffer.dataSize) :
        word.wrap ((rect.y.toNat + (y + 0)) * stride + rect.x.toNat * bpp + rowBytes) ≤
          memory.client.framebuffer.dataSize := by
      rw [row_wraps] at accepted
      exact Nat.not_lt.mp accepted
    simp only [decodeRawRows, bind_eq]
    rw [Program.wp_sequence, wp_load, continuing_returned, Program.wp_sequence, wp_failIf]
    constructor
    · intro _ row before
      exact absurd before (Nat.not_lt_zero row)
    · intro accepted
      rw [continuing_returned, Program.wp_sequence, wp_transportRecvPixels]
      refine ⟨fun _ row before => absurd before (Nat.not_lt_zero row),
        fun transport _ => ⟨fun _ row before => ?_, fun _ => ⟨fun row before => ?_, ?_, ?_⟩⟩⟩
      · obtain rfl : row = 0 := Nat.lt_one_iff.mp before
        exact first accepted
      · exact absurd before (Nat.not_lt_zero row)
      · intro bytes _
        rw [continuing_returned]
        apply wp_mono (inductionHypothesis (memory.stored _ bytes) (y + 1))
        intro events outcome final later row before
        simp only [List.nil_append, List.cons_append, acceptedRows_cons] at before
        cases row with
        | zero => exact first accepted
        | succ row =>
          rw [show y + (row + 1) = y + 1 + row by omega]
          exact later row (by omega)
      · intro received error _ row before
        obtain rfl : row = 0 := Nat.lt_one_iff.mp before
        exact first accepted

/-- `ovnc__decode_raw` asks for no bytes after the last row. -/
theorem decodeRaw_accepts (word : WordSize) {memory : Memory} (rect : Rect)
    (supported : memory.client.framebuffer.format.Supported) :
    (decodeRaw word rect).wp Allowed (fun events outcome _ =>
      ∀ row < acceptedRows events outcome,
        word.wrap (memory.client.framebuffer.rowStop rect row) ≤
          memory.client.framebuffer.dataSize) memory := by
  have small := supported.pixelBytes_le
  unfold decodeRaw
  rw [bind_eq, Program.wp_sequence, wp_load, continuing_returned]
  dsimp only
  rw [ofInt_bytesPerPixel supported, (extent_wraps word rect.width small).1,
    (extent_wraps word memory.client.framebuffer.width small).1]
  apply wp_after (decodeRawRows_accepts word memory rect _ _ _ 0 rect.height.toNat)
  · intro events value final accepted
    apply wp_mono (fire_ends _ final)
    rintro later outcome last ⟨asks, ended⟩ row before
    have silent : later.countP (fun event => event.request.isRecv) = 0 := by
      rw [List.countP_eq_zero]
      intro event member
      rcases (asks event member).2 with same | ⟨sock, closing⟩
      · simp [same, Request.isRecv]
      · simp [closing, Request.isRecv]
    have unfaulted : outcome ≠ .faulted (.outOfBounds .pixels) := by
      rcases ended with ⟨rfl, -⟩ | ⟨rfl, -⟩
      · exact nofun
      · exact nofun
    have counted : acceptedRows events (.returned value) =
        acceptedRows (events ++ later) outcome := by
      simp [acceptedRows, silent, unfaulted]
    have within := accepted row (by rwa [counted])
    rwa [Nat.zero_add] at within
  · intro events error final accepted row before
    have within := accepted row before
    rwa [Nat.zero_add] at within
  · intro events fault final accepted row before
    have within := accepted row before
    rwa [Nat.zero_add] at within
  · intro events final accepted row before
    have within := accepted row before
    rwa [Nat.zero_add] at within

/-! ## Exactness -/

/-- With 64 bits every size is less than 2^N, and so is the end of every row of a rectangle. -/
theorem sizes_fit_bits64 {framebuffer : Framebuffer} (supported : framebuffer.format.Supported)
    (rect : Rect) (extent : Extent) :
    extent.exactSize framebuffer.format < WordSize.bits64.modulus ∧
      rect.width.toNat * rect.height.toNat * framebuffer.format.pixelBytes + rect.maskBytes <
        WordSize.bits64.modulus ∧
      ∀ row < rect.height.toNat, framebuffer.rowStop rect row < WordSize.bits64.modulus := by
  have small := supported.pixelBytes_le
  have height : rect.height.toNat < 2 ^ 16 := UInt16.toNat_lt rect.height
  have area (width height : UInt16) :
      width.toNat * height.toNat * framebuffer.format.pixelBytes ≤ 2 ^ 16 * 2 ^ 16 * 4 := by
    have widthBound : width.toNat < 2 ^ 16 := UInt16.toNat_lt width
    have heightBound : height.toNat < 2 ^ 16 := UInt16.toNat_lt height
    exact Nat.mul_le_mul (Nat.mul_le_mul (by omega) (by omega)) small
  have recorded : extent.exactSize framebuffer.format ≤ 2 ^ 16 * 2 ^ 16 * 4 := area _ _
  have pixels := area rect.width rect.height
  have mask := wrap_eq_iff.mp (mask_exact .bits32 rect)
  simp only [WordSize.modulus] at mask ⊢
  refine ⟨by omega, by omega, fun row inside => ?_⟩
  obtain ⟨-, rowBound⟩ := extent_wraps .bits64 rect.width small
  obtain ⟨-, strideBound⟩ := extent_wraps .bits64 framebuffer.width small
  obtain ⟨-, stopExact⟩ := row_exact (y := row) rect small rowBound strideBound (by omega)
  exact wrap_eq_iff.mp stopExact

/-- In either width of `size_t`: the size that is recorded for the extent that ServerInit or a
DesktopSize rectangle announces, the parts of a cursor that is reported and the end of a row that
is accepted are exact exactly when they are less than 2^N. -/
theorem size_arithmetic_exact (word : WordSize) :
    (∀ memory events final,
      Execution SetsData (doInitialization word) memory events (.returned ()) final →
        ∃ header later, header.length = 24 ∧
          transfers events = .sent [memory.client.shared] :: .received header :: later ∧
          final.client.framebuffer.Recorded word ⟨readU16 header, readU16 (header.drop 2)⟩
            (memory.client.pixelFormat.getD (PixelFormat.fromWire (header.drop 4)))) ∧
    (∀ memory rect events final, memory.client.framebuffer.format.Supported →
      Execution SetsData (decodeDesktopSize word rect) memory events (.returned ()) final →
        final.client.framebuffer.Recorded word ⟨rect.width, rect.height⟩
          memory.client.framebuffer.format) ∧
    (∀ memory rect events outcome final, memory.client.framebuffer.format.Supported →
      Execution Allowed (decodeCursor word rect) memory events outcome final →
        ∀ event ∈ events, ∀ hotspotX hotspotY width height pixels bitmask,
          event.request = .callback (.cursorUpdate hotspotX hotspotY width height pixels bitmask) →
            (CursorHolds (rect.width.toNat * rect.height.toNat *
                memory.client.framebuffer.format.pixelBytes) rect.maskBytes pixels bitmask ↔
              rect.width.toNat * rect.height.toNat * memory.client.framebuffer.format.pixelBytes +
                rect.maskBytes < word.modulus)) ∧
    (∀ memory rect events outcome final, memory.client.framebuffer.format.Supported →
      memory.client.framebuffer.dataSize < word.modulus →
      Execution Allowed (decodeRaw word rect) memory events outcome final →
        ∀ row < acceptedRows events outcome,
          (memory.client.framebuffer.rowStop rect row ≤ memory.client.framebuffer.dataSize ↔
            memory.client.framebuffer.rowStop rect row < word.modulus)) := by
  refine ⟨?_, ?_, ?_, ?_⟩
  · intro memory events final execution
    have sized : final.SetUp word :=
      (wp_iff _ _ _).mp (doInitialization_establishes initFramebuffer_setsUp memory) _ _ _ execution
    obtain ⟨received, exchanged, read, same⟩ := (wp_iff _ _ _).mp
      (doInitialization_transfers memory) _ _ _ (execution.weaken setsData_allowed)
    cases read with
    | @read header chunks _ fixed whole width height format names =>
      have active : final.activeFormat =
          memory.client.pixelFormat.getD (PixelFormat.fromWire (header.drop 4)) := by
        rw [Memory.activeFormat, format, show final.client.pixelFormat = memory.client.pixelFormat
          from congrArg Standing.pixelFormat same]
      rw [Memory.SetUp, active, ConnectionInfo.extent, width, height] at sized
      exact ⟨header, chunks.map .received, fixed, exchanged, sized.recorded⟩
  · intro memory rect events final supported execution
    have sized : final.client.framebuffer.Sized word _ _ :=
      (wp_iff _ _ _).mp (decodeDesktopSize_sized rect supported) _ _ _ execution
    exact sized.recorded
  · intro memory rect events outcome final supported execution
    exact (wp_iff _ _ _).mp (decodeCursor_holds word rect supported) _ _ _ execution
  · intro memory rect events outcome final supported sized execution row before
    exact le_iff_of_wrap_le sized
      ((wp_iff _ _ _).mp (decodeRaw_accepts word rect supported) _ _ _ execution row before)

/-- The plain host's allocators set nothing but the pixel pointer. -/
theorem plainHost_setsData (request : Request) (feed : Feed) (answer : Answer request)
    (later : Feed) (answered : plainHost.feed request feed = (some answer, later)) :
    SetsData request answer := by
  cases request with
  | allocFramebuffer asked =>
    cases answered
    rfl
  | _ => exact (plainHost.feed_provisioned _ feed answer later answered).1

/-- A desktop of two by one pixels, with 32 bits. -/
theorem size_arithmetic_exact_small : ∃ events final,
    Execution SetsData (decodeDesktopSize .bits32 ⟨0, 0, 2, 1⟩) (pixelMemory .initDefault) events
      (.returned ()) final ∧
    final.client.framebuffer.dataSize = 2 * 1 * 4 := by
  have executed := run_execution plainHost.feed SetsData plainHost_setsData
    (decodeDesktopSize .bits32 ⟨0, 0, 2, 1⟩) (pixelMemory .initDefault) { unread := [] }
  exact ⟨_, _, executed, ((size_arithmetic_exact .bits32).2.1 _ ⟨0, 0, 2, 1⟩ _ _ (by decide)
    executed).exact_iff.mpr (by decide)⟩

/-- A desktop of 2^30 pixels of four bytes, with 32 bits: the recorded size is zero. -/
theorem decodeDesktopSize_wraps : ¬ ∀ events final,
    Execution SetsData (decodeDesktopSize .bits32 ⟨0, 0, 32768, 32768⟩) (pixelMemory .initDefault)
      events (.returned ()) final →
        final.client.framebuffer.dataSize = 32768 * 32768 * 4 := by
  intro exact_size
  have executed := run_execution plainHost.feed SetsData plainHost_setsData
    (decodeDesktopSize .bits32 ⟨0, 0, 32768, 32768⟩) (pixelMemory .initDefault) { unread := [] }
  have recorded := exact_size _ _ executed
  revert recorded
  decide

end OpenVnc
