import OpenVnc.HangUp
import OpenVnc.Client

/-!
# What processing messages leaves alone, callbacks included

A view that sees neither pixels nor the position in the rectangle loop nor the end of the
connection is kept by every handler of a server message, as far as a change of the desktop's
size keeps it, and by the calls that process messages.
-/

namespace OpenVnc

open Interaction Interaction.Program

variable {V : Type} {view : Memory → V} {admitted : Step → Prop} {tolerated : V → Fault → Prop}

/-- The view sees neither stored bytes nor the position in the loop nor the end of the
connection; the requests of decoding apart from those for pixel storage are admitted, and so
are the faults that decoding can commit. -/
structure Disregards (view : Memory → V) (admitted : Step → Prop)
    (tolerated : V → Fault → Prop) : Prop where
  received : ∀ memory len (answer : RecvAnswer), admitted ⟨memory, .recv len, answer⟩
  allocated : ∀ memory size (answer : Bool), admitted ⟨memory, .malloc size, answer⟩
  called : ∀ memory call (answer : Bool), admitted ⟨memory, .callback call, answer⟩
  closed : ∀ memory sock answer, admitted ⟨memory, .socketClose sock, answer⟩
  stored : ∀ memory offset bytes, view (Memory.stored memory offset bytes) = view memory
  positioned : ∀ memory left, view { memory with pendingRects := left } = view memory
  hung : ∀ memory : Memory, view memory.hungUp = view memory
  missing : ToleratesNull view tolerated
  overrun : ∀ seen buffer, tolerated seen (.outOfBounds buffer)

namespace Disregards

variable {may : (request : Request) → Answer request → Prop} {α : Type} {routine : Routine α}
  (disregards : Disregards view admitted tolerated)
include disregards

/-- `ovnc__transport_recv` is a receive, at most on a transport that is NULL. -/
theorem transportRecv (len : Nat) :
    Keeps may view admitted tolerated (OpenVnc.transportRecv len) :=
  transportRecv_keeps (fun memory => disregards.received memory len) disregards.missing

/-- A callback, and the closes of a disconnect that the application asks for in it. -/
theorem fire (call : Callback) : Keeps may view admitted tolerated (OpenVnc.fire call) :=
  fire_keeps (fun memory => disregards.called memory call) disregards.closed disregards.hung

/-- `ovnc__decode_raw`: pixels are received, then the rectangle is reported. -/
theorem decodeRaw (word : WordSize) (rect : Rect) :
    Keeps may view admitted tolerated (OpenVnc.decodeRaw word rect) := by
  apply (decodeRaw_reporting word rect).lifted (Keeps.compositional (fun _ _ => False.elim))
  rintro _ _ (⟨⟨offset, len⟩⟩ | call)
  · exact transportRecvPixels_keeps (fun memory => disregards.received memory len)
      (fun memory => disregards.stored memory _) disregards.missing
      (fun seen => disregards.overrun seen .pixels)
  · exact disregards.fire call

/-- A view that does not see the framebuffer at all is kept by a change of its size as well. -/
theorem decodeDesktopSize
    (unseen : ∀ memory framebuffer, view (Memory.withFramebuffer memory framebuffer) = view memory)
    (stores : ∀ memory request answer, Request.ofDecoding request = true →
      admitted ⟨memory, request, answer⟩) (word : WordSize) (rect : Rect) :
    Keeps may view admitted tolerated (OpenVnc.decodeDesktopSize word rect) := by
  have allocates : Allocates may view admitted tolerated AnyChange :=
    ⟨fun _ _ memory => unseen memory _,
      callAllocFramebuffer_keeps (fun _ _ _ => stores _ _ _ rfl) unseen,
      fun _ _ _ => stores _ _ _ rfl⟩
  apply (decodeDesktopSize_reporting word rect).lifted
    (Keeps.compositional (fun _ _ => False.elim))
  rintro _ _ (given | call)
  · exact allocates.replacement (fun _ _ _ => stores _ _ _ rfl) given
  · exact disregards.fire call

/-- One part of the handling of a message. -/
theorem reception {word : WordSize} (part : Reception word α routine) :
    Keeps may view admitted tolerated routine := by
  cases part with
  | recv len => exact disregards.transportRecv len
  | malloc size => exact Keeps.ask (fun memory answer _ => disregards.allocated memory size answer)
  | place left => exact Keeps.update (fun memory => disregards.positioned memory left)
  | raw rect => exact disregards.decodeRaw word rect
  | fire call => exact disregards.fire call
  | disconnect => exact clientDisconnect_keeps disregards.closed disregards.hung

/-- Whatever handles a message without a change of the size. -/
theorem receives {word : WordSize} (comprises : Comprises (Reception word) routine) :
    Keeps may view admitted tolerated routine :=
  comprises.lifted (keeps_compositional disregards.overrun) disregards.reception

/-- Whatever processes messages, if a change of the size is no exception. -/
theorem messages {word : WordSize}
    (resizes : ∀ rect, Keeps may view admitted tolerated (OpenVnc.decodeDesktopSize word rect))
    (comprises : Comprises (MessagePart word) routine) :
    Keeps may view admitted tolerated routine := by
  apply comprises.lifted (keeps_compositional disregards.overrun)
  rintro _ _ (given | rect)
  · exact disregards.reception given
  · exact resizes rect

end Disregards

end OpenVnc
