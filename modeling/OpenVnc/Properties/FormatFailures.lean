import OpenVnc.Calls
import OpenVnc.Coherence
import OpenVnc.Feed

/-!
# Failures of a change of the pixel format

`ovnc_client_set_pixel_format` switches the format and the size of the framebuffer before
it asks for new storage. When the storage is refused the call fails with the new size and
the old block. The record is coherent after such a failure exactly when the old block has
room for the new size.
-/

namespace OpenVnc

open Interaction Interaction.Program

/-- Any environment in which the application's allocator leaves the record as it is when
it fails. -/
def Unreplaced : (request : Request) → Answer request → Prop
  | .allocFramebuffer asked, (error, left) => error ≠ none → left = asked
  | request, answer => Allowed request answer

/-- What is promised of a call that fails and leaves the client connected. -/
def CoherentAfterFailure (outcome : Outcome Error Fault Unit) (final : Memory) : Prop :=
  ∀ error, outcome = .failed error → final.client.state = .connected →
    final.client.framebuffer.Coherent

/-- The block of the record has room for the pixels of the same area in another format, and
their size can be computed. -/
def Framebuffer.RoomFor (framebuffer : Framebuffer) (word : WordSize) (format : PixelFormat) :
    Prop :=
  framebuffer.width.toNat * framebuffer.height.toNat * format.pixelBytes ≤ framebuffer.capacity ∧
    framebuffer.width.toNat * framebuffer.height.toNat * format.pixelBytes < word.modulus

section Adopting

variable {word : WordSize} {format : PixelFormat} {memory : Memory}

/-- The record that a change of format leaves when the storage is refused. -/
def Framebuffer.switched (framebuffer : Framebuffer) (word : WordSize) (format : PixelFormat) :
    Framebuffer :=
  { framebuffer with
    format := format
    dataSize := word.wrap
      (framebuffer.width.toNat * framebuffer.height.toNat * format.pixelBytes) }

/-- It is coherent exactly when the old block has room for the new size. -/
theorem Framebuffer.switched_coherent_iff {framebuffer : Framebuffer}
    (supported : format.Supported) :
    (framebuffer.switched word format).Coherent ↔ framebuffer.RoomFor word format := by
  constructor
  · rintro ⟨-, exact_size, stored⟩
    have small := Nat.mod_lt (framebuffer.width.toNat * framebuffer.height.toNat *
      format.pixelBytes) (show 0 < word.modulus by cases word <;> decide)
    simp only [switched, WordSize.wrap] at exact_size stored
    rw [exact_size] at small stored
    exact ⟨stored, small⟩
  · rintro ⟨stored, small⟩
    have exact_size := WordSize.wrap_of_lt small
    exact ⟨supported, exact_size, Nat.le_trans (Nat.le_of_eq exact_size) stored⟩

/-- After the message has been sent: a call that fails leaves a coherent record exactly when
no storage is asked for, or the old block would do. -/
theorem adoptPixelFormat_coherent_iff (supported : format.Supported)
    (connected : memory.client.state = .connected) :
    (adoptPixelFormat word format).wp Unreplaced (fun _ => CoherentAfterFailure) memory ↔
      format.bytesPerPixel = memory.client.framebuffer.format.bytesPerPixel ∨
        memory.client.framebuffer.RoomFor word format := by
  unfold adoptPixelFormat
  simp only [bind_eq, Program.wp_sequence, wp_load, continuing_returned, wp_modifyFramebuffer,
    wp_onlyIf, product_wraps, ofInt_bytesPerPixel supported]
  rw [← @Framebuffer.switched_coherent_iff word format _ supported]
  by_cases same : format.bytesPerPixel = memory.client.framebuffer.format.bytesPerPixel
  · simp only [same, ne_eq, not_true_eq_false, false_implies, not_false_eq_true, true_implies,
      true_and, true_or, iff_true]
    simp [CoherentAfterFailure]
  · simp only [ne_eq, same, not_false_eq_true, true_implies, not_true_eq_false, false_implies,
      and_true, false_or]
    let refused := memory.withFramebuffer (memory.client.framebuffer.switched word format)
    change (if memory.client.callbacks.allocFramebuffer = true then _ else _ : Routine Unit).wp
      Unreplaced _ refused ↔ refused.client.framebuffer.Coherent
    split
    · -- The application's allocator.
      rw [wp_callAllocFramebuffer]
      constructor
      · rintro ⟨-, holds⟩
        exact holds (some .nomem) refused.client.framebuffer (fun _ => rfl) .nomem rfl connected
      · intro coherent
        refine ⟨by simp [CoherentAfterFailure], fun error left allowed => ?_⟩
        cases error with
        | none => simp [CoherentAfterFailure]
        | some error =>
          rintro reason - -
          obtain rfl : left = refused.client.framebuffer := allowed (by simp)
          exact coherent
    · -- The library's own.
      rw [Program.wp_sequence, wp_callocPixels]
      constructor
      · rintro ⟨-, holds⟩
        exact holds none trivial .nomem rfl connected
      · intro coherent
        refine ⟨by simp [CoherentAfterFailure], fun id _ => ?_⟩
        cases id with
        | none => exact fun _ _ _ => coherent
        | some id =>
          change (sequence (freePixels _) _).wp _ _ _
          rw [Program.wp_sequence]
          apply wp_freePixels _ <;> simp [CoherentAfterFailure]

end Adopting

/-- For every environment, every connected client with a coherent record and every format:
the record is coherent after each failure that leaves the client connected if and only if
no storage has to be replaced (the format is refused, or has as many bytes per pixel) or the
old block has room for the new size. -/
theorem clientSetPixelFormat_coherent_iff (word : WordSize) (format : PixelFormat)
    {memory : Memory} {transport : Transport}
    (attached : memory.client.transport = some transport)
    (connected : memory.client.state = .connected)
    (coherent : memory.client.framebuffer.Coherent) :
    (∀ events outcome final, Execution Unreplaced (clientSetPixelFormat word (some format)) memory
        events outcome final → CoherentAfterFailure outcome final) ↔
      ¬ format.Supported ∨
        format.bytesPerPixel = memory.client.framebuffer.format.bytesPerPixel ∨
        memory.client.framebuffer.RoomFor word format := by
  rw [← wp_iff _ (fun _ => CoherentAfterFailure)]
  simp only [clientSetPixelFormat, bind_eq, Program.wp_sequence, wp_requireConnected, connected,
    ne_eq, not_true_eq_false, false_implies, true_implies, true_and, continuing_returned,
    wp_failIf, sendSetPixelFormat, format.bytesPerPixel_nonneg_iff]
  by_cases supported : format.Supported
  · have accepted : ¬ format.bytesPerPixel < 0 := (format.bytesPerPixel_nonneg_iff).mpr supported
    simp only [supported, accepted, false_implies, true_implies, true_and, not_true_eq_false,
      false_or]
    rw [wp_transportSend, ← adoptPixelFormat_coherent_iff supported connected]
    constructor
    · rintro ⟨-, sent⟩
      exact (sent transport attached).2.1 trivial
    · intro adopted
      refine ⟨fun missing => absurd (attached.symm.trans missing) (by simp), fun _ _ => ?_⟩
      -- A failing send leaves everything as it was.
      exact ⟨by simp [CoherentAfterFailure], fun _ => adopted, fun _ _ _ _ _ _ => coherent⟩
  · -- The format is refused before anything is done.
    have refused : format.bytesPerPixel < 0 := by
      by_contra nonnegative
      exact supported ((format.bytesPerPixel_nonneg_iff).mp nonnegative)
    simp only [supported, refused, true_implies, false_implies, and_true, not_false_eq_true,
      true_or, iff_true]
    exact fun _ _ _ => coherent

/-- A format of 8 bits per pixel. -/
def greyFormat : PixelFormat := { PixelFormat.initDefault with bitsPerPixel := 8, depth := 8 }

/-- A connected client with a picture of one pixel. -/
def pixelMemory (format : PixelFormat) : Memory :=
  ⟨{ plainClient {} with
      state := .connected
      transport := some ⟨3⟩
      framebuffer :=
        ⟨1, 1, format, some ⟨0, List.replicate format.pixelBytes 0⟩, format.pixelBytes⟩ }, 1, 0⟩

/-- A change to fewer bytes per pixel. -/
theorem clientSetPixelFormat_coherent_grey :
    (pixelMemory .initDefault).client.framebuffer.Coherent ∧ ∀ events outcome final,
      Execution Unreplaced (clientSetPixelFormat .bits64 (some greyFormat))
        (pixelMemory .initDefault) events outcome final → CoherentAfterFailure outcome final := by
  have coherent : (pixelMemory .initDefault).client.framebuffer.Coherent :=
    ⟨by decide, by decide, by decide⟩
  constructor
  · exact coherent
  · apply (@clientSetPixelFormat_coherent_iff .bits64 greyFormat (pixelMemory .initDefault) _ rfl
      rfl coherent).mpr
    exact .inr (.inr ⟨by decide, by decide⟩)

/-- A host whose memory for pixels is used up. -/
def starvedHost : Handler Request Answer Feed
  | .calloc _, feed => (some none, feed)
  | request, feed => plainHost.feed request feed

/-- A change to more bytes per pixel, refused by the allocator: the size grows and the block
does not. -/
theorem clientSetPixelFormat_incoherent : ¬ ∀ events outcome final,
    Execution Unreplaced (clientSetPixelFormat .bits64 (some .initDefault))
      (pixelMemory greyFormat) events outcome final → CoherentAfterFailure outcome final := by
  intro coherent
  have within (request : Request) (feed : Feed) (answer : Answer request) (later : Feed)
      (answered : starvedHost request feed = (some answer, later)) :
      Unreplaced request answer := by
    cases request with
    | calloc size => trivial
    | allocFramebuffer asked =>
      cases answered
      exact fun failed => absurd rfl failed
    | _ => exact (plainHost.feed_provisioned _ feed answer later answered).1
  have executed := run_execution starvedHost Unreplaced within
    (clientSetPixelFormat .bits64 (some .initDefault)) (pixelMemory greyFormat) { unread := [] }
  have stored := (coherent _ _ _ executed .nomem (by decide) (by decide)).stored
  revert stored
  decide

end OpenVnc
