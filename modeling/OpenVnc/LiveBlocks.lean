import Mathlib.Logic.Function.Basic
import OpenVnc.Heap
import OpenVnc.Primitives

/-!
# The live blocks of a client

A shadow of the routines that manage their storage: which pointers have a live block, and how
large it is. It has no step for an allocation into a pointer whose block would be lost, for a
release of a block that is not there, for a transfer past the end of a block, or for a request
that uses the client record, the transport or an array that is not there any more. Between the
operations of a routine the live blocks are those that the client record refers to and the
local ones of the routine.
-/

namespace OpenVnc

open Interaction Interaction.Program

namespace Heap

/-- The live blocks, each with the number of bytes there is room for. A record is not
addressed by its bytes and counts as having none. -/
abbrev Blocks := Pointer → Option Nat

/-- The blocks behind the arrays that a callback is handed. -/
def behind : Callback → List Pointer
  | .cursorUpdate _ _ _ _ pixels _ => if pixels.isSome then [.cursorBuf] else []
  | .colorMapUpdate .. => [.red, .green, .blue]
  | .serverCutText _ length => if 0 < length then [.text] else []
  | _ => []

/-- The blocks that a request needs besides the client record. -/
def needed : Request → List Pointer
  | .recv _ | .send _ | .socketClose _ => [.transport]
  | .socketConnect .. => [.transport, .host]
  | .callback call => behind call
  | _ => []

namespace Blocks

variable (blocks : Blocks)

/-- The pointer has a live block. -/
def live (pointer : Pointer) : Bool := (blocks pointer).isSome

/-- What a request needs is there. -/
def serve (request : Request) : Bool :=
  blocks.live .client && (needed request).all blocks.live

/-- A transfer of this length over the transport stays within the pointer's block. -/
def contain (pointer : Pointer) (len : Nat) : Bool :=
  blocks.live .client && blocks.live .transport && (blocks pointer).any (fun size => len ≤ size)

/-- The blocks after an allocation, which must not lose one. -/
def obtain (pointer : Pointer) (size : Nat) (obtained : Bool) : Option Blocks :=
  if blocks.live pointer then none
  else some (if obtained then Function.update blocks pointer (some size) else blocks)

/-- The blocks after an operation, if it is in order. -/
def step : (operation : Operation) → Reply operation → Option Blocks
  | .asked request, _ => if blocks.serve request then some blocks else none
  | .object pointer, obtained => blocks.obtain pointer 0 obtained
  | .buffer pointer size, obtained => blocks.obtain pointer size obtained
  | .release pointer, _ =>
      if blocks.live pointer then some (Function.update blocks pointer none) else none
  | .recvInto pointer len, _ => if blocks.contain pointer len then some blocks else none
  | .sendFrom pointer data, _ => if blocks.contain pointer data.length then some blocks else none

end Blocks

/-- The blocks beside a routine. -/
def shadow {S : Type} : Shadow S Operation Reply Blocks := .blind Blocks.step

/-- The answers to the operations when those to the requests of the library are given. -/
def Answers (may : (request : Request) → Answer request → Prop) :
    (operation : Operation) → Reply operation → Prop
  | .asked request, answer => may request answer
  | .object _, obtained => may .callocTransport obtained
  | .buffer _ size, obtained => may (.malloc size) obtained
  | .release _, _ => True
  | .recvInto _ len, answer => may (.recv len) answer
  | .sendFrom _ data, answer => may (.send data) answer

/-- The blocks that a client record refers to, its own among them. -/
def owns (client : Client) : Pointer → Bool
  | .client | .host => true
  | .pixelFormat => client.pixelFormat.isSome
  | .encodings => client.encodings.isSome
  | .transport => client.transport.isSome
  | _ => false

/-- The live blocks are the client's and the local ones. -/
def Linked (locals : List Pointer) (blocks : Blocks) (memory : Memory) : Prop :=
  ∀ pointer, blocks.live pointer ↔ owns memory.client pointer ∨ pointer ∈ locals

section Links

variable {locals : List Pointer} {blocks : Blocks} {memory final : Memory} {pointer : Pointer}

/-- What the client refers to is part of its standing. -/
theorem owns_of_standing (same : final.standing = memory.standing) :
    owns final.client = owns memory.client := by
  have format : final.client.pixelFormat = memory.client.pixelFormat :=
    congrArg Standing.pixelFormat same
  have encodings : final.client.encodings = memory.client.encodings :=
    congrArg Standing.encodings same
  have transport : final.client.transport = memory.client.transport :=
    congrArg Standing.transport same
  funext pointer
  cases pointer <;> simp [owns, format, encodings, transport]

/-- The link with the blocks depends on the client record only through the pointers that it holds.
-/
theorem Linked.of_owns (linked : Linked locals blocks memory)
    (same : owns final.client = owns memory.client) : Linked locals blocks final := by
  intro pointer
  rw [same]
  exact linked pointer

/-- So whatever leaves the standing part alone leaves the link. -/
theorem Linked.of_standing (linked : Linked locals blocks memory)
    (same : final.standing = memory.standing) : Linked locals blocks final :=
  linked.of_owns (owns_of_standing same)

/-- The record of the client is live as long as there is a client. -/
theorem Linked.client (linked : Linked locals blocks memory) : blocks.live .client :=
  (linked .client).mpr (.inl rfl)

/-- So is the transport, as long as the client refers to one. -/
theorem Linked.transport (linked : Linked locals blocks memory)
    (attached : memory.client.transport ≠ none) : blocks.live .transport :=
  (linked .transport).mpr (.inl (Option.isSome_iff_ne_none.mpr attached))

/-- A block that the routine holds is live. -/
theorem Linked.local (linked : Linked locals blocks memory) (here : pointer ∈ locals) :
    blocks.live pointer := (linked pointer).mpr (.inr here)

/-- A block that neither the client nor the routine holds is not live, so it may be obtained. -/
theorem Linked.absent (linked : Linked locals blocks memory)
    (foreign : owns memory.client pointer = false) (new : pointer ∉ locals) :
    ¬ blocks.live pointer := by
  rw [linked pointer, foreign]
  simpa using new

/-- A block that was obtained for a variable is a local one. -/
theorem Linked.obtained (linked : Linked locals blocks memory) (size : Nat) :
    Linked (pointer :: locals) (Function.update blocks pointer (some size)) memory := by
  intro other
  by_cases same : other = pointer
  · simp [Blocks.live, same]
  · have unchanged := linked other
    simpa [Blocks.live, Function.update_of_ne same, same] using unchanged

/-- A local block that was released is gone. -/
theorem Linked.released (linked : Linked (pointer :: locals) blocks memory)
    (foreign : owns memory.client pointer = false) (once : pointer ∉ locals) :
    Linked locals (Function.update blocks pointer none) memory := by
  intro other
  by_cases same : other = pointer
  · simp [Blocks.live, same, foreign, once]
  · have unchanged := linked other
    simpa [Blocks.live, Function.update_of_ne same, same] using unchanged

end Links

section Rules

variable {may : (request : Request) → Answer request → Prop}

variable (may) in
/-- The routine keeps the blocks in order, from here to the two ends. -/
abbrev Tends {α : Type} (blocks : Blocks) (managed : Managed α) (memory : Memory)
    (passed : α → Blocks → Memory → Prop) (settled : Error → Blocks → Memory → Prop) : Prop :=
  Shadows (Answers may) shadow (fun _ => True) blocks managed memory passed settled

variable (may) in
/-- Started with these local blocks, the routine keeps the blocks in order and leaves the same
ones. -/
abbrev Tidy {α : Type} (locals : List Pointer) (managed : Managed α) : Prop :=
  Shadowed (Answers may) shadow (Linked locals) (fun _ => True) managed

variable {locals : List Pointer} {blocks : Blocks} {memory : Memory} {α : Type}
  {passed : α → Blocks → Memory → Prop} {settled : Error → Blocks → Memory → Prop}

/-- A request that is served. -/
theorem asking_tends {request : Request} {following : Answer request → Managed α}
    (served : blocks.serve request)
    (continues : ∀ answer, Tends may blocks (following answer) memory passed settled) :
    Tends may blocks (sequence (ask (Operation.asked request)) following) memory passed settled :=
  Shadows.asking (fun answer _ => ⟨blocks, if_pos served, continues answer⟩)

/-- An allocation for a pointer that has no block. -/
theorem buffer_tends {pointer : Pointer} {size : Nat} {following : Bool → Managed α}
    (absent : ¬ blocks.live pointer)
    (refused : Tends may blocks (following false) memory passed settled)
    (granted : Tends may (Function.update blocks pointer (some size)) (following true) memory
      passed settled) :
    Tends may blocks (sequence (ask (Operation.buffer pointer size)) following) memory passed
      settled := by
  refine Shadows.asking (fun obtained _ => ?_)
  cases obtained with
  | false => exact ⟨blocks, if_neg absent, refused⟩
  | true => exact ⟨_, if_neg absent, granted⟩

/-- The release of a block that is there. -/
theorem release_tends {pointer : Pointer} {passed : Unit → Blocks → Memory → Prop}
    (there : blocks.live pointer) (holds : passed () (Function.update blocks pointer none) memory) :
    Tends may blocks (release pointer) memory passed settled :=
  Shadows.ask (fun _ _ => ⟨_, if_pos there, holds⟩)

/-- A local block is released at the end. -/
theorem release_settles {pointer : Pointer} (linked : Linked (pointer :: locals) blocks memory)
    (foreign : owns memory.client pointer = false) (once : pointer ∉ locals) :
    Tends may blocks (release pointer) memory (fun _ => Linked locals) settled :=
  release_tends (linked.local List.mem_cons_self) (linked.released foreign once)

/-- A local block is released before the routine goes on. -/
theorem releasing_tends {pointer : Pointer} {following : Managed α}
    (linked : Linked (pointer :: locals) blocks memory)
    (foreign : owns memory.client pointer = false) (once : pointer ∉ locals)
    (continues : ∀ left, Linked locals left memory →
      Tends may left following memory passed settled) :
    Tends may blocks (sequence (release pointer) (fun _ => following)) memory passed settled :=
  Shadows.through (fun _ reached final => final = memory ∧ Linked locals reached memory)
    (release_tends (linked.local List.mem_cons_self) ⟨rfl, linked.released foreign once⟩)
    (by rintro ⟨⟩ reached final ⟨rfl, left⟩; exact continues reached left)

end Rules

/-! ## Routines that involve no block -/

/-- A routine of the library that calls back nobody and leaves the standing part alone. -/
structure Quiet {α : Type} (routine : Routine α) : Prop where
  built : Built routine
  keeps : ∀ may, Keeps may Memory.standing (fun event => event.request.isCallback = false)
    (fun _ _ => True) routine

/-- Neither the standing part nor the requests of an exchange of bytes are out of place. -/
theorem standing_overlooks : Overlooks Memory.standing
    (fun event => event.request.isCallback = false) (fun _ _ => True) := by
  constructor
  case missing => exact fun _ _ => trivial
  case overrun => exact fun _ _ => trivial
  all_goals intros; rfl

/-- What is composed of quiet parts is quiet. -/
theorem quiet_of_parts {α : Type} {routine : Routine α}
    {part : (α : Type) → Routine α → Prop} {commits : Fault → Prop}
    (parts : ∀ {α : Type} {routine : Routine α}, part α routine → Quiet routine)
    (composed : Composed part commits routine) : Quiet routine := by
  refine ⟨built_of_parts (fun given => (parts given).built) composed, fun may => ?_⟩
  exact composed.lifted (Keeps.compositional (fun _ _ _ => trivial))
    (fun given => (parts given).keeps may)

/-- What changes nothing standing is quiet. -/
theorem quiet_update {change : Memory → Memory}
    (unseen : ∀ memory, (change memory).standing = memory.standing) :
    Quiet (update change : Routine Unit) := ⟨.part (.change unseen), fun _ => Keeps.update unseen⟩

section Operations

variable {α : Type} {routine : Routine α}

/-- Exchanging bytes with the server is quiet. -/
theorem exchange_quiet (operation : Exchange α routine) : Quiet routine :=
  ⟨operation.built, fun _ => standing_overlooks.exchange operation⟩

/-- So is replacing the storage of the framebuffer record. -/
theorem replacement_quiet (operation : Replacement AnyChange α routine) : Quiet routine := by
  refine ⟨operation.built, fun may => ?_⟩
  have allocates : Allocates may Memory.standing (fun event => event.request.isCallback = false)
      (fun _ _ => True) AnyChange :=
    ⟨fun _ _ _ => rfl, callAllocFramebuffer_keeps (fun _ _ _ => rfl) (fun _ _ => rfl),
      fun _ _ _ => rfl⟩
  exact allocates.replacement (fun _ _ _ => rfl) operation

/-- So is receiving a row of pixels. -/
theorem rowOperation_quiet (operation : RowOperation α routine) : Quiet routine := by
  refine ⟨operation.built, fun may => ?_⟩
  cases operation with
  | recvPixels offset len =>
    exact transportRecvPixels_keeps (fun _ _ => rfl) (fun _ _ => rfl) (fun _ _ => trivial)
      (fun _ => trivial)

/-- So are the parts of the handshake. -/
theorem handshakePart_quiet {word : WordSize} (part : HandshakePart word α routine) :
    Quiet routine := by
  cases part with
  | exchange given => exact exchange_quiet given
  | setUp =>
    exact quiet_of_parts (fun given => replacement_quiet (.obtain given))
      (initFramebuffer_allocation word)

end Operations

/-- A receive involves none of the blocks but the transport, which the client refers to. -/
theorem transportRecv_quiet (len : Nat) : Quiet (transportRecv len) :=
  exchange_quiet (.recv len)

/-- Nor does a send. -/
theorem transportSend_quiet (data : List UInt8) : Quiet (transportSend data) :=
  exchange_quiet (.transmit (.send data))

/-- Recording the security type changes the connection information only. -/
theorem recordSecurity_quiet (securityType : SecurityType) :
    Quiet (recordSecurity securityType) := quiet_update (fun _ => rfl)

/-- Every call that sends is quiet. -/
theorem perform_quiet (word : WordSize) (bound : Nat) {call : ApiCall} (sends : call.sends = true) :
    Quiet (OpenVnc.perform word bound call) := by
  constructor
  · exact perform_built word bound (by rintro rfl; cases sends)
  · intro may
    apply perform_transmits standing_overlooks.transmits word bound sends
    intro format _
    apply adoptPixelFormat_keeps (fun _ _ _ _ => rfl)
      (callAllocFramebuffer_keeps (fun _ _ _ => rfl) (fun _ _ => rfl))
    intro memory request answer decoding _
    cases request <;> first | rfl | cases decoding

section Plain

variable {may : (request : Request) → Answer request → Prop} {locals : List Pointer}
  {blocks : Blocks} {memory : Memory}

/-- A request that is no callback needs blocks only that the client record refers to then. -/
def heeding : Shadow Memory Request Answer Unit :=
  fun _ event =>
    if event.request.isCallback ∨ (needed event.request).all (owns event.memory.client) then some ()
    else none

/-- Behind the null check of the transport the client refers to it, so it may be used. -/
theorem derefTransport_heeds {settled : Error → Unit → Memory → Prop} :
    Shadows may heeding (fun _ => True) () derefTransport memory
      (fun _ _ final => final = memory ∧ owns memory.client .transport) settled := by
  apply Shadows.load
  cases attached : memory.client.transport with
  | none => exact Shadows.fault trivial
  | some transport => exact Shadows.done ⟨rfl, by simp [owns, attached]⟩

/-- What needs the transport may be asked for once it was dereferenced. -/
theorem heeding_attached {request : Request} (answer : Answer request)
    (needs : needed request = [.transport]) (attached : owns memory.client .transport) :
    heeding () ⟨memory, request, answer⟩ = some () :=
  if_pos (.inr (by simp [needs, attached]))

/-- Disconnecting uses the transport before it is destroyed, and not after. -/
theorem clientDisconnect_heeds :
    Shadowed may heeding (fun _ _ => True) (fun _ => True) OpenVnc.clientDisconnect := by
  intro _ memory _
  apply Shadows.load
  refine Shadows.onlyIf (fun _ => ?_) (fun _ => trivial)
  refine Shadows.through (fun _ _ _ => True) (Shadows.load ?_) (fun _ _ _ _ =>
    Shadows.through (fun _ _ _ => True) (Shadows.update trivial)
      (fun _ _ _ _ => Shadows.update trivial))
  cases attached : memory.client.transport with
  | none => exact Shadows.done trivial
  | some transport =>
    refine Shadows.through (fun _ _ _ => True) (Shadows.onlyIf (fun _ => ?_) (fun _ => trivial))
      (fun _ _ _ _ => Shadows.update trivial)
    exact Shadows.asking (fun answer _ =>
      ⟨(), heeding_attached answer rfl (by simp [owns, attached]), Shadows.done trivial⟩)

/-- Each primitive needs no block but those that the client record refers to when it asks. -/
theorem primitive_heeds {α : Type} {routine : Routine α} (primitive : Primitive α routine) :
    Shadowed may heeding (fun _ _ => True) (fun _ => True) routine := by
  intro _ memory _
  cases primitive with
  | recv len =>
    refine derefTransport_heeds.sequence ?_
    rintro transport _ final ⟨rfl, attached⟩
    refine Shadows.asking (fun answer _ => ⟨(), heeding_attached answer rfl attached, ?_⟩)
    cases answer with
    | complete bytes => exact Shadows.done trivial
    | stopped received error => exact Shadows.fail trivial
  | recvPixels offset len =>
    refine derefTransport_heeds.sequence ?_
    rintro transport _ memory ⟨rfl, attached⟩
    apply Shadows.load
    refine Shadows.through (fun _ _ final => final = memory)
      (Shadows.faultIf (fun _ => trivial) (fun _ => rfl)) ?_
    rintro ⟨⟩ _ final rfl
    refine Shadows.asking (fun answer _ => ⟨(), heeding_attached answer rfl attached, ?_⟩)
    cases answer with
    | complete bytes => exact Shadows.update trivial
    | stopped received error =>
      exact Shadows.through (fun _ _ _ => True) (Shadows.update trivial)
        (fun _ _ _ _ => Shadows.fail trivial)
  | recvName len =>
    refine derefTransport_heeds.sequence ?_
    rintro transport _ memory ⟨rfl, attached⟩
    refine Shadows.through (fun _ _ final => final = memory)
      (Shadows.faultIf (fun _ => trivial) (fun _ => rfl)) ?_
    rintro ⟨⟩ _ final rfl
    refine Shadows.asking (fun answer _ => ⟨(), heeding_attached answer rfl attached, ?_⟩)
    cases answer with
    | complete bytes => exact Shadows.update trivial
    | stopped received error =>
      exact Shadows.through (fun _ _ _ => True) (Shadows.update trivial)
        (fun _ _ _ _ => Shadows.fail trivial)
  | send data =>
    refine derefTransport_heeds.sequence ?_
    rintro transport _ final ⟨rfl, attached⟩
    refine Shadows.asking (fun answer _ => ⟨(), heeding_attached answer rfl attached, ?_⟩)
    cases answer with
    | complete => exact Shadows.done trivial
    | stopped written error => exact Shadows.fail trivial
  | store request stored =>
    refine Shadows.ask (fun answer _ => ⟨(), ?_, trivial⟩)
    cases request <;> first | rfl | cases stored
  | change unseen => exact Shadows.update trivial
  | fire call =>
    apply Shadows.load
    refine Shadows.onlyIf (fun _ => ?_) (fun _ => trivial)
    refine Shadows.asking (fun answer _ => ⟨(), if_pos (.inl rfl), ?_⟩)
    exact Shadows.onlyIf (fun _ => clientDisconnect_heeds _ _ trivial) (fun _ => trivial)
  | disconnect => exact clientDisconnect_heeds _ _ trivial

/-- The blocks and the standing part are as they were. -/
abbrev Unmoved {β : Type} (blocks : Blocks) (memory : Memory) : β → Blocks → Memory → Prop :=
  fun _ reached final => reached = blocks ∧ final.standing = memory.standing

/-- The blocks beside a routine of the library, which obtains and releases none. -/
def attending : Shadow Memory Request Answer Blocks :=
  fun blocks event => if blocks.serve event.request then some blocks else none

/-- A quiet routine finds the blocks it needs, and leaves them. -/
theorem Quiet.attends {α : Type} {routine : Routine α} (quiet : Quiet routine)
    (linked : Linked locals blocks memory) :
    Shadows may attending (fun _ => True) blocks routine memory (Unmoved blocks memory)
      (Unmoved blocks memory) := by
  have heeds : Shadowed may heeding (fun _ _ => True) (fun _ => True) routine :=
    quiet.built.lifted (Shadowed.compositional (fun _ _ => trivial)) primitive_heeds
  apply wp_mono (wp_and (heeds () memory trivial) (quiet.keeps may memory))
  rintro events outcome final ⟨⟨_, heeded, -⟩, same, within, -⟩
  have unmoved (event : Step) (member : event ∈ events) :
      attending blocks event = some blocks := by
    obtain ⟨earlier, later, rfl⟩ := List.append_of_mem member
    obtain ⟨_, _, -, taken⟩ := heeding.after_step heeded
    obtain ⟨standing, silent⟩ := within event member
    rw [heeding, silent, owns_of_standing standing] at taken
    by_cases owned : (needed event.request).all (owns memory.client)
    · refine if_pos ?_
      rw [Blocks.serve, linked.client, Bool.true_and, List.all_eq_true]
      intro pointer needs
      exact (linked pointer).mpr (.inl (List.all_eq_true.mp owned pointer needs))
    · simp [owned] at taken
  refine ⟨blocks, attending.after_unmoved unmoved, ?_⟩
  cases outcome with
  | returned | failed => exact ⟨rfl, same⟩
  | faulted | waiting => trivial

/-- So does the same routine among those that manage their storage. -/
theorem plain_tends {α : Type} {routine : Routine α} (quiet : Quiet routine)
    (linked : Linked locals blocks memory) :
    Tends may blocks (plain routine) memory (Unmoved blocks memory) (Unmoved blocks memory) := by
  have attends : Shadows may attending (fun _ => True) blocks routine memory
      (Unmoved blocks memory) (Unmoved blocks memory) := quiet.attends linked
  refine attends.translate (fun blocks memory request steps => ?_)
  refine Shadows.ask (fun answer allowed => ?_)
  have served : blocks.serve request := by
    have taken := steps answer allowed
    by_contra unserved
    simp [attending, unserved] at taken
  exact ⟨blocks, if_pos served, rfl, allowed, if_pos served⟩

/-- A quiet routine keeps the blocks in order beside any local ones. -/
theorem plain_tidy {α : Type} {routine : Routine α} (quiet : Quiet routine) :
    Tidy may locals (plain routine) := by
  intro blocks memory linked
  refine (plain_tends quiet linked).weaken ?_ ?_
  · rintro value reached final ⟨rfl, same⟩
    exact linked.of_standing same
  · rintro error reached final ⟨rfl, same⟩
    exact linked.of_standing same

end Plain

end Heap

end OpenVnc
