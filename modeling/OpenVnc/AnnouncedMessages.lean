import OpenVnc.Announcements
import OpenVnc.HangUp

/-!
# The announcements before a message's allocations

A routine asks for a block of no byte only after an answer that announced it. Each lemma
says as well what the client waits for when the routine returns, so that the lemmas follow
the routines of the source in their order.
-/

namespace OpenVnc

open Interaction Interaction.Program

/-- The routine asks for an empty block only when it was announced. -/
abbrev Foretells {α : Type} (word : WordSize) (awaited : Awaited) (routine : Routine α)
    (memory : Memory) (passed : α → Awaited → Memory → Prop) : Prop :=
  Foretold Allowed (announcements word) Request.Empty awaited routine memory passed

section Steps

variable {word : WordSize} {awaited : Awaited} {memory : Memory}

/-- The look at the transport pointer moves no monitor. -/
theorem derefTransport_foretells {M : Type} {may : (request : Request) → Answer request → Prop}
    {monitor : Monitor Memory Request Answer M} {odd : Request → Prop} {state : M} :
    Foretold may monitor odd state derefTransport memory (fun _ state' final =>
      state' = state ∧ final = memory) := by
  apply Foretold.load
  cases memory.client.transport with
  | none => exact .fault
  | some transport => exact .done ⟨rfl, rfl⟩

/-- What comes is what was awaited. -/
theorem transportRecv_foretells (len : Nat) :
    Foretells word awaited (transportRecv len) memory (fun bytes awaited' final =>
      bytes.length = len ∧ ¬ awaited.Announces word memory.client bytes ∧
        awaited' = awaited.received word memory.client bytes ∧ final = memory) := by
  apply derefTransport_foretells.sequence
  rintro _ _ _ ⟨rfl, rfl⟩
  apply (Foretold.ask (by simp [Request.Empty])).sequence
  rintro answer _ _ ⟨allowed, quiet, rfl, rfl⟩
  cases answer with
  | complete bytes => exact .done ⟨allowed, quiet, rfl, rfl⟩
  | stopped received error => exact .fail

/-- A send is awaited or not: behind it nothing has announced an empty allocation. -/
theorem transportSend_foretells (data : List UInt8) :
    Foretells word awaited (transportSend data) memory (fun _ awaited' final =>
      ¬ awaited.AnnouncesSent word memory.client ∧ awaited' = awaited.sent ∧ final = memory) := by
  apply derefTransport_foretells.sequence
  rintro _ _ _ ⟨rfl, rfl⟩
  apply (Foretold.ask (by simp [Request.Empty])).sequence
  rintro answer _ _ ⟨-, quiet, rfl, rfl⟩
  cases answer with
  | complete => exact .done ⟨quiet, rfl, rfl⟩
  | stopped written error => exact .fail

/-- An allocation of a size that is not zero needs no announcement. -/
theorem malloc_foretells {size : Nat} (some : size ≠ 0) :
    Foretells word awaited (ask (Request.malloc size)) memory (fun _ awaited' final =>
      awaited' = awaited ∧ final = memory) := by
  apply (Foretold.ask (by simp [Request.Empty, some])).returning
  rintro answer _ _ ⟨-, -, rfl, rfl⟩
  exact ⟨rfl, rfl⟩

/-- A release receives nothing. -/
theorem freePixels_foretells (data : Option Block) :
    Foretells word awaited (freePixels data) memory (fun _ awaited' _ => awaited' = awaited) := by
  cases data with
  | none => exact .done rfl
  | some block =>
    apply (Foretold.ask (by simp [Request.Empty])).sequence
    rintro _ _ _ ⟨-, -, rfl, -⟩
    exact .done rfl

/-- Storage for the framebuffer, from the library's own allocator. -/
theorem callocPixels_foretells {size : Nat} (some : size ≠ 0) :
    Foretells word awaited (callocPixels size) memory (fun newData awaited' final =>
      (newData ≠ none → ¬ awaited.AnnouncesStored word memory.client ∧
        awaited' = awaited.stored) ∧ final = memory) := by
  apply (Foretold.ask (by simp [Request.Empty, some])).sequence
  rintro id _ _ ⟨-, quiet, rfl, rfl⟩
  cases id with
  | none => exact .done ⟨fun obtained => absurd rfl obtained, rfl⟩
  | some id => exact .done ⟨fun _ => ⟨quiet, rfl⟩, rfl⟩

/-- Storage for the framebuffer, from the application. -/
theorem callAllocFramebuffer_foretells :
    Foretells word awaited callAllocFramebuffer memory (fun _ awaited' final =>
      ¬ awaited.AnnouncesStored word memory.client ∧ awaited' = awaited.stored ∧
        ∃ left, final = memory.withFramebuffer left) := by
  apply (Foretold.ask (by simp [Request.Empty])).sequence
  rintro ⟨error, left⟩ _ asked ⟨-, quiet, rfl, rfl⟩
  apply Foretold.sequence
  case middle =>
    exact fun _ awaited' final => awaited' = awaited.next word
        ⟨asked, .allocFramebuffer asked.client.framebuffer, (error, left)⟩ ∧
      final = asked.withFramebuffer left
  case begins => exact .update ⟨rfl, rfl⟩
  rintro _ _ _ ⟨rfl, rfl⟩
  cases error with
  | none => exact .done ⟨quiet, rfl, left, rfl⟩
  | some error => exact .fail

/-- Disconnecting receives nothing and allocates nothing. -/
theorem clientDisconnect_foretells :
    Foretells word awaited clientDisconnect memory (fun _ awaited' _ => awaited' = awaited) := by
  apply Foretold.unmoved
  case tolerated => exact fun _ _ => True
  apply clientDisconnect_keeps
  · exact fun _ _ _ => ⟨by simp [Request.Empty], fun _ => rfl⟩
  · exact fun _ => rfl

/-- A callback receives nothing, also when the application disconnects in it. -/
theorem fire_foretells (call : Callback) :
    Foretells word awaited (fire call) memory (fun _ awaited' _ => awaited' = awaited) := by
  apply Foretold.unmoved
  case tolerated => exact fun _ _ => True
  apply fire_keeps
  · exact fun _ _ => ⟨by simp [Request.Empty], fun _ => rfl⟩
  · exact fun _ _ _ => ⟨by simp [Request.Empty], fun _ => rfl⟩
  · exact fun _ => rfl

end Steps

/-! ## Messages -/

section Messages

variable {word : WordSize} {memory : Memory}

/-- A row that is received into the framebuffer. -/
theorem transportRecvPixels_foretells (offset len rows following : Nat) :
    Foretells word (.row rows following) (transportRecvPixels offset len) memory
      (fun _ awaited' _ => awaited' = .rowsOf following rows) := by
  apply derefTransport_foretells.sequence
  rintro _ _ _ ⟨rfl, rfl⟩
  apply Foretold.faultIf
  intro _
  apply (Foretold.ask (by simp [Request.Empty])).sequence
  rintro answer _ _ ⟨-, -, rfl, rfl⟩
  cases answer with
  | complete bytes => exact .update rfl
  | stopped received error =>
    apply Foretold.failing
    exact .update trivial

/-- The row loop, by induction on the rows that are left. -/
theorem decodeRawRows_foretells (rect : Rect) (bpp rowBytes fbStride following y rows : Nat) :
    Foretells word (.rowsOf following rows)
      (decodeRawRows word rect bpp rowBytes fbStride y rows) memory
      (fun _ awaited' _ => awaited' = .rects following) := by
  induction rows generalizing y memory with
  | zero => exact .done rfl
  | succ rows inductionHypothesis =>
    apply Foretold.failIf
    intro _
    apply (transportRecvPixels_foretells _ _ rows following).sequence
    rintro _ _ final rfl
    exact inductionHypothesis (y + 1)

/-- `ovnc__decode_raw` receives its rows, and then the next rectangle is awaited. It allocates
nothing. -/
theorem decodeRaw_foretells (rect : Rect) (following : Nat) :
    Foretells word (.rowsOf following rect.height.toNat) (decodeRaw word rect) memory
      (fun _ awaited' _ => awaited' = .rects following) := by
  apply (decodeRawRows_foretells rect _ _ _ following 0 rect.height.toNat).sequence
  rintro _ _ final rfl
  exact fire_foretells _

/-- `decode_desktop_size` allocates for the size of its rectangle, which is not empty here. -/
theorem decodeDesktopSize_foretells (rect : Rect) (following : Nat)
    (stored : ¬ memory.client.StoresNothing word rect.width rect.height
      memory.client.framebuffer.format.bytesPerPixel) :
    Foretells word (.rects following) (decodeDesktopSize word rect) memory
      (fun _ awaited' _ => awaited' = .rects following) := by
  apply Foretold.ite
  · intro _
    apply Foretold.sequence
    case middle => exact fun _ awaited' _ => awaited' = .rects following
    case begins => exact .update rfl
    rintro _ _ resized rfl
    apply callAllocFramebuffer_foretells.sequence
    rintro _ _ final ⟨-, rfl, -⟩
    rw [Awaited.rects_stored]
    exact fire_foretells _
  · intro own
    have some : word.product rect.width.toNat rect.height.toNat
        (word.ofInt memory.client.framebuffer.format.bytesPerPixel) ≠ 0 :=
      fun none => stored ⟨by simpa using own, none⟩
    apply (callocPixels_foretells some).sequence
    rintro newData awaited _ ⟨obtained, rfl⟩
    cases newData with
    | none => exact .fail
    | some block =>
      obtain ⟨-, rfl⟩ := obtained nofun
      rw [Awaited.rects_stored]
      apply (freePixels_foretells _).sequence
      rintro _ _ freed rfl
      apply Foretold.sequence
      case middle => exact fun _ awaited' _ => awaited' = .rects following
      case begins => exact .update rfl
      rintro _ _ final rfl
      exact fire_foretells _

/-- An empty cursor is reported without a block. -/
theorem decodeCursor_foretells (rect : Rect) (following : Nat) :
    Foretells word (if cursorSize word memory.client rect = 0 then .rects following
        else .cursor following) (decodeCursor word rect) memory
      (fun _ awaited' _ => awaited' = .rects following) := by
  apply Foretold.ite
  · intro empty
    rw [if_pos (show cursorSize word memory.client rect = 0 from empty)]
    exact fire_foretells _
  · intro total
    rw [if_neg (show cursorSize word memory.client rect ≠ 0 from total)]
    apply (malloc_foretells total).sequence
    rintro allocated _ _ ⟨rfl, rfl⟩
    apply Foretold.failIf
    intro _
    apply (transportRecv_foretells _).sequence
    rintro buf _ final ⟨-, -, rfl, rfl⟩
    exact fire_foretells _

/-- A pass of the rectangle loop: the header tells what is awaited next. -/
theorem handleRect_foretells (following : Nat) :
    Foretells word (.rect following) (handleRect word) memory
      (fun _ awaited' _ => awaited' = .rects following) := by
  apply (transportRecv_foretells 12).sequence
  rintro header _ _ ⟨-, quiet, rfl, rfl⟩
  simp only [Awaited.received_rect, Awaited.payload]
  apply Foretold.ite
  · intro raw
    rw [if_pos raw]
    exact decodeRaw_foretells (readRect header) following
  · intro notRaw
    rw [if_neg notRaw]
    apply Foretold.ite
    · intro resized
      rw [if_pos resized]
      apply decodeDesktopSize_foretells (readRect header) following
      exact fun nothing => quiet ⟨resized, nothing⟩
    · intro notResized
      rw [if_neg notResized]
      apply Foretold.ite
      · intro _
        exact decodeCursor_foretells (readRect header) following
      · intro _
        exact .fail

/-- The rectangle loop, by induction on the rectangles that are left. -/
theorem handleRects_foretells (left : Nat) :
    Foretells word (.rects left) (handleRects word left) memory
      (fun _ awaited' _ => awaited' = .message) := by
  induction left generalizing memory with
  | zero => exact .done rfl
  | succ left inductionHypothesis =>
    apply Foretold.sequence
    case middle => exact fun _ awaited' _ => awaited' = .rect left
    case begins => exact .update rfl
    rintro _ _ counted rfl
    apply (handleRect_foretells left).sequence
    rintro _ _ final rfl
    exact inductionHypothesis

/-- `handle_fb_update` ends where the next message is awaited. -/
theorem handleFbUpdate_foretells :
    Foretells word .update (handleFbUpdate word) memory
      (fun _ awaited' _ => awaited' = .message) := by
  apply (transportRecv_foretells 3).sequence
  rintro header _ _ ⟨-, -, rfl, rfl⟩
  apply (handleRects_foretells _).sequence
  rintro _ _ final rfl
  exact fire_foretells _

/-- So does `handle_color_map_entries`, of which the header announces the arrays. -/
theorem handleColorMapEntries_foretells :
    Foretells word .colorHeader handleColorMapEntries memory
      (fun _ awaited' _ => awaited' = .message) := by
  apply (transportRecv_foretells 5).sequence
  rintro header _ _ ⟨-, quiet, rfl, rfl⟩
  have some : (readU16 (header.drop 3)).toNat ≠ 0 :=
    fun none => quiet (UInt16.toNat_inj.mp none)
  apply (malloc_foretells (by omega)).sequence
  rintro allocated _ _ ⟨rfl, rfl⟩
  apply Foretold.failIf
  intro _
  apply (transportRecv_foretells _).sequence
  rintro data _ _ ⟨-, -, rfl, rfl⟩
  apply Foretold.onlyIf
  · intro _
    apply (malloc_foretells (by omega)).sequence
    rintro red _ _ ⟨rfl, rfl⟩
    apply (malloc_foretells (by omega)).sequence
    rintro green _ _ ⟨rfl, rfl⟩
    apply (malloc_foretells (by omega)).sequence
    rintro blue _ _ ⟨rfl, rfl⟩
    apply Foretold.failIf
    intro _
    exact fire_foretells _
  · intro _
    rfl

/-- A block for the text, whose size is computed in 32 bits. -/
theorem handleServerCutText_foretells :
    Foretells word .textHeader handleServerCutText memory
      (fun _ awaited' _ => awaited' = .message) := by
  apply (transportRecv_foretells 7).sequence
  rintro header _ _ ⟨-, quiet, rfl, rfl⟩
  apply Foretold.ite
  · intro positive
    have long : readU32 (header.drop 3) ≠ 0 := by
      intro empty
      rw [empty] at positive
      exact absurd positive (by decide)
    have some : (readU32 (header.drop 3) + 1).toNat ≠ 0 := by
      intro none
      have wrapped : readU32 (header.drop 3) + 1 = 0 := UInt32.toNat_inj.mp none
      have largest : readU32 (header.drop 3) = 0xFFFFFFFF := by grind
      exact quiet largest
    rw [Awaited.received_textHeader, if_neg long]
    apply (malloc_foretells some).sequence
    rintro allocated _ _ ⟨rfl, rfl⟩
    apply Foretold.failIf
    intro _
    apply Foretold.faultIf
    intro _
    apply (transportRecv_foretells _).sequence
    rintro text _ _ ⟨-, -, rfl, rfl⟩
    apply Foretold.faultIf
    intro _
    exact fire_foretells _
  · intro empty
    have none : readU32 (header.drop 3) = 0 := by grind
    rw [Awaited.received_textHeader, if_pos none]
    exact fire_foretells _

/-- `ovnc__recv_server_message` allocates nothing of no size, unless the bytes received have
announced it. -/
theorem recvServerMessage_foretells :
    Foretells word .message (recvServerMessage word) memory
      (fun _ awaited' _ => awaited' = .message) := by
  apply (transportRecv_foretells 1).sequence
  rintro msgType _ _ ⟨-, -, rfl, rfl⟩
  simp only [Awaited.received_message]
  apply Foretold.ite
  · intro update
    rw [if_pos update]
    exact handleFbUpdate_foretells
  · intro notUpdate
    rw [if_neg notUpdate]
    apply Foretold.ite
    · intro colors
      rw [if_pos colors]
      exact handleColorMapEntries_foretells
    · intro notColors
      rw [if_neg notColors]
      apply Foretold.ite
      · intro bell
        rw [if_neg (by rw [bell]; decide)]
        exact fire_foretells _
      · intro _
        apply Foretold.ite
        · intro text
          rw [if_pos text]
          exact handleServerCutText_foretells
        · intro _
          exact .fail

end Messages

end OpenVnc
