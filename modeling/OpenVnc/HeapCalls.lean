import OpenVnc.Codec.Repetition
import OpenVnc.LiveBlocks

/-!
# What the calls do to the live blocks

Every call of the API, followed operation by operation: started with the blocks that the client
record refers to, it obtains, uses and releases blocks in order, and ends with the blocks that
the record refers to then, whether it returns or fails. What it obtained for itself is released
on every path, also when the application disconnects in a callback in the middle of it.
-/

namespace OpenVnc

open Interaction Interaction.Program

namespace Heap

variable {may : (request : Request) → Answer request → Prop} {locals : List Pointer}
  {blocks : Blocks} {memory : Memory} {α : Type}

/-! ## The transport -/

/-- A client whose transport was released has none. -/
theorem Linked.detached (linked : Linked locals blocks memory) (own : .transport ∉ locals) :
    Linked locals (Function.update blocks .transport none)
      { memory with client := { memory.client with transport := none } } := by
  intro other
  by_cases same : other = .transport
  · simp [Blocks.live, same, owns, own]
  · have unchanged := linked other
    cases other <;> simp_all [Blocks.live, owns]

/-- A client whose transport was obtained has one. -/
theorem Linked.attached (linked : Linked locals blocks memory) (transport : Transport) :
    Linked locals (Function.update blocks .transport (some 0))
      { memory with client := { memory.client with transport := some transport } } := by
  intro other
  by_cases same : other = .transport
  · simp [Blocks.live, same, owns]
  · have unchanged := linked other
    cases other <;> simp_all [Blocks.live, owns]

/-- The record of the transport is released last, and the client then refers to none. Blocks that
the routine holds besides stay. -/
theorem transportDestroy_tends (linked : Linked locals blocks memory) (own : .transport ∉ locals)
    {settled : Error → Blocks → Memory → Prop} :
    Tends may blocks transportDestroy memory (fun _ reached final => Linked locals reached final ∧
      final = { memory with client := { memory.client with transport := none } }) settled := by
  apply Shadows.load
  cases attached : memory.client.transport with
  | none =>
    refine Shadows.done ⟨linked, ?_⟩
    rw [← attached]
  | some transport =>
    have there : blocks.live .transport := linked.transport (by simp [attached])
    refine Shadows.through (fun _ reached final => reached = blocks ∧ final = memory)
      (Shadows.onlyIf (fun _ => ?_) (fun _ => ⟨rfl, rfl⟩)) ?_
    · refine asking_tends ?_ (fun _ => Shadows.done ⟨rfl, rfl⟩)
      simp [Blocks.serve, needed, linked.client, there]
    · rintro ⟨⟩ reached final ⟨rfl, rfl⟩
      refine Shadows.through (fun _ left final' => final' = final ∧
        left = Function.update reached .transport none) (release_tends there ⟨rfl, rfl⟩) ?_
      rintro ⟨⟩ left final' ⟨rfl, rfl⟩
      exact Shadows.update ⟨linked.detached own, rfl⟩

/-- `ovnc_client_disconnect`, after which a client with a transport is one that was not
connected. -/
theorem clientDisconnect_tends (linked : Linked locals blocks memory)
    (own : .transport ∉ locals) {settled : Error → Blocks → Memory → Prop} :
    Tends may blocks clientDisconnect memory (fun _ reached final => Linked locals reached final ∧
      (final.client.transport.isSome → memory.client.state ≠ .connected ∧ final = memory))
      settled := by
  apply Shadows.load
  refine Shadows.onlyIf (fun connected => ?_) (fun idle => ⟨linked, fun _ => ⟨idle, rfl⟩⟩)
  refine Shadows.sequence (transportDestroy_tends linked own) ?_
  rintro ⟨⟩ reached final ⟨left, rfl⟩
  refine Shadows.through (fun _ reached' final => Linked locals reached' final ∧
    final.client.transport = none) (Shadows.update ⟨left.of_owns rfl, rfl⟩) ?_
  rintro ⟨⟩ reached' final ⟨left, detached⟩
  refine Shadows.update ?_
  split
  · exact ⟨left.of_owns rfl, by simp [detached]⟩
  · exact ⟨left, by simp [detached]⟩

/-- `ovnc_client_disconnect` is tidy beside any blocks but that of the transport. -/
theorem clientDisconnect_tidy (own : .transport ∉ locals) : Tidy may locals clientDisconnect :=
  fun _ _ linked => (clientDisconnect_tends linked own).weaken (fun _ _ _ held => held.1)
    (fun _ _ _ held => held)

/-- A callback finds the arrays that it is handed, if they are local ones, and so does the
routine when the callback is over. -/
theorem fire_tends {call : Callback} {settled : Error → Blocks → Memory → Prop}
    (linked : Linked locals blocks memory) (handed : ∀ pointer ∈ behind call, pointer ∈ locals)
    (own : .transport ∉ locals) :
    Tends may blocks (fire call) memory (fun _ => Linked locals) settled := by
  apply Shadows.load
  refine Shadows.onlyIf (fun _ => ?_) (fun _ => linked)
  refine asking_tends ?_ (fun disconnects => Shadows.onlyIf (fun _ => ?_) (fun _ => linked))
  · rw [Blocks.serve, linked.client, Bool.true_and, List.all_eq_true]
    exact fun pointer member => linked.local (handed pointer member)
  · exact (clientDisconnect_tends linked own).weaken (fun _ _ _ held => held.1)
      (fun _ _ _ held => held)

/-- A callback without blocks among its arguments is tidy, also when the application disconnects
in it. -/
theorem fire_tidy {call : Callback} (handed : behind call = []) : Tidy may [] (fire call) :=
  fun _ _ linked => fire_tends linked (by simp [handed]) (by simp)

/-! ## Transfers into and out of a block -/

/-- A transfer over the transport within a block. -/
theorem contained (linked : Linked locals blocks memory) {pointer : Pointer} {size len : Nat}
    (sized : blocks pointer = some size) (within : len ≤ size)
    (attached : owns memory.client .transport) : blocks.contain pointer len := by
  have there : blocks.live .transport := (linked .transport).mpr (.inl attached)
  simp [Blocks.contain, linked.client, there, sized, within]

/-- Reading the memory involves no block. -/
theorem plain_load (following : Memory → Routine α) :
    plain (sequence load following) = sequence load (fun memory => plain (following memory)) := rfl

/-- Routines that manage no blocks are sequenced before or after they are placed among those that
do. -/
theorem plain_sequence {β : Type} (first : Routine β) (following : β → Routine α) :
    plain (sequence first following) =
      sequence (plain first) (fun value => plain (following value)) := translate_sequence _ _

/-- Dereferencing the transport leaves the blocks and the memory alone. Behind it the client
refers to a transport. -/
theorem derefTransport_tends {settled : Error → Blocks → Memory → Prop} :
    Tends may blocks (plain derefTransport) memory (fun _ reached final => reached = blocks ∧
      final = memory ∧ owns memory.client .transport) settled := by
  unfold derefTransport
  rw [bind_eq, plain_load]
  apply Shadows.load
  cases attached : memory.client.transport with
  | none => exact Shadows.fault trivial
  | some transport => exact Shadows.done ⟨rfl, rfl, by simp [owns, attached]⟩

/-- A receive that fits its block finds it there, and leaves all blocks where they are. -/
theorem recvInto_tends (linked : Linked locals blocks memory) {pointer : Pointer} {size len : Nat}
    (sized : blocks pointer = some size) (within : len ≤ size) :
    Tends may blocks (recvInto pointer len) memory (Unmoved blocks memory)
      (Unmoved blocks memory) := by
  refine Shadows.sequence derefTransport_tends ?_
  rintro transport reached final ⟨rfl, rfl, attached⟩
  refine Shadows.asking (fun answer _ =>
    ⟨reached, if_pos (contained linked sized within attached), ?_⟩)
  cases answer with
  | complete bytes => exact Shadows.done ⟨rfl, rfl⟩
  | stopped received error => exact Shadows.fail ⟨rfl, rfl⟩

/-- So does a send of no more than the block holds. -/
theorem sendFrom_tends (linked : Linked locals blocks memory) {pointer : Pointer} {size : Nat}
    {data : List UInt8} (sized : blocks pointer = some size) (within : data.length ≤ size) :
    Tends may blocks (sendFrom pointer data) memory (Unmoved blocks memory)
      (Unmoved blocks memory) := by
  refine Shadows.sequence derefTransport_tends ?_
  rintro transport reached final ⟨rfl, rfl, attached⟩
  refine Shadows.asking (fun answer _ =>
    ⟨reached, if_pos (contained linked sized within attached), ?_⟩)
  cases answer with
  | complete => exact Shadows.done ⟨rfl, rfl⟩
  | stopped written error => exact Shadows.fail ⟨rfl, rfl⟩

/-- A block that is received into is released when that fails. -/
theorem receiving_tends {pointer : Pointer} {size len : Nat}
    {following : List UInt8 → Managed Unit} (linked : Linked (pointer :: locals) blocks memory)
    (foreign : owns memory.client pointer = false) (once : pointer ∉ locals)
    (sized : blocks pointer = some size) (within : len ≤ size)
    (continues : ∀ bytes final, final.standing = memory.standing →
      Linked (pointer :: locals) blocks final →
      Tends may blocks (following bytes) final (fun _ => Linked locals) (fun _ => Linked locals)) :
    Tends may blocks (settle (recvInto pointer len)
        (fun error => sequence (release pointer) (fun _ => fail error)) following) memory
      (fun _ => Linked locals) (fun _ => Linked locals) := by
  refine Shadows.settle (recvInto_tends linked sized within) ?_ ?_
  · rintro error reached final ⟨rfl, same⟩
    refine releasing_tends (linked.of_standing same) ?_ once
      (fun left linked => Shadows.fail linked)
    rw [owns_of_standing same]
    exact foreign
  · rintro bytes reached final ⟨rfl, same⟩
    exact continues bytes final same (linked.of_standing same)

/-- A block is obtained for the routine, or it fails. -/
theorem obtaining_tends {pointer : Pointer} {size : Nat} {following : Managed Unit}
    (linked : Linked locals blocks memory) (foreign : owns memory.client pointer = false)
    (new : pointer ∉ locals)
    (continues : Linked (pointer :: locals) (Function.update blocks pointer (some size)) memory →
      Tends may (Function.update blocks pointer (some size)) following memory
        (fun _ => Linked locals) (fun _ => Linked locals)) :
    Tends may blocks (sequence (ask (Operation.buffer pointer size)) (fun allocated =>
        sequence (failIf (allocated = false) .nomem) (fun _ => following))) memory
      (fun _ => Linked locals) (fun _ => Linked locals) :=
  buffer_tends (linked.absent foreign new) (Shadows.fail linked) (continues (linked.obtained size))

/-- What is undefined ends the account, so that only the other case goes on. -/
theorem faultIf_tends {condition : Prop} [Decidable condition] {reason : Fault}
    {following : Managed α} {passed : α → Blocks → Memory → Prop}
    {settled : Error → Blocks → Memory → Prop}
    (continues : ¬ condition → Tends may blocks following memory passed settled) :
    Tends may blocks (sequence (faultIf condition reason) (fun _ => following)) memory passed
      settled := by
  unfold faultIf
  split
  · exact Shadows.fault trivial
  · exact continues ‹_›

/-! ## Messages from the server -/

/-- `ovnc__decode_raw` has no blocks of its own. -/
theorem decodeRaw_tidy (word : WordSize) (rect : Rect) : Tidy may [] (decodeRaw word rect) := by
  apply Shadowed.load
  intro memory
  apply (plain_tidy (quiet_of_parts rowOperation_quiet
    (decodeRawRows_operations word rect _ _ _ _ _))).sequence
  intro _
  exact fire_tidy rfl

/-- Nor has `decode_desktop_size`: pixel storage is not among the blocks. -/
theorem decodeDesktopSize_tidy (word : WordSize) (rect : Rect) :
    Tidy may [] (decodeDesktopSize word rect) := by
  have fires : Tidy may [] (fire (.desktopResize rect.width rect.height)) :=
    fire_tidy rfl
  have changes (change : Framebuffer → Framebuffer) :
      Tidy may [] (plain (modifyFramebuffer change)) := plain_tidy (quiet_update (fun _ => rfl))
  have replaces {α : Type} {routine : Routine α}
      (consists : Consists (Replacement AnyChange) routine) : Tidy may [] (plain routine) :=
    plain_tidy (quiet_of_parts replacement_quiet consists)
  apply Shadowed.load
  intro memory
  refine Shadowed.ite (fun _ => ?_) (fun _ => ?_)
  · apply (changes _).sequence
    intro _
    exact (plain_tidy (replacement_quiet (.obtain .allocate))).sequence (fun _ => fires)
  · apply (replaces (callocPixels_allocation _).replacement).sequence
    intro newData
    cases newData with
    | none => exact Shadowed.fail _
    | some block =>
      apply (replaces (freePixels_replacement _)).sequence
      intro _
      exact (changes _).sequence (fun _ => fires)

/-- `decode_cursor`: the buffer is live through the receive and the callback, and is released
after either. -/
theorem decodeCursor_tidy (word : WordSize) (rect : Rect) :
    Tidy may [] (decodeCursor word rect) := by
  apply Shadowed.load
  intro _
  refine Shadowed.ite (fun _ => fire_tidy rfl) (fun _ => ?_)
  intro blocks memory linked
  apply obtaining_tends linked rfl (by simp)
  intro linked
  apply receiving_tends linked rfl (by simp) (Function.update_self ..) (Nat.le_refl _)
  intro buf final _ linked
  exact (fire_tends linked (by simp [behind]) (by simp)).sequence
    (fun _ _ _ linked => release_settles linked rfl (by simp))

/-- A pass of the rectangle loop ends with the blocks it began with, whatever the encoding type.
-/
theorem handleRect_tidy (word : WordSize) : Tidy may [] (handleRect word) := by
  apply (plain_tidy (transportRecv_quiet 12)).sequence
  intro rectHeader
  refine Shadowed.ite (fun _ => decodeRaw_tidy word _) (fun _ => ?_)
  refine Shadowed.ite (fun _ => decodeDesktopSize_tidy word _) (fun _ => ?_)
  exact Shadowed.ite (fun _ => decodeCursor_tidy word _) (fun _ => Shadowed.fail _)

/-- So does the whole loop, by induction on the rectangles that are left. -/
theorem handleRects_tidy (word : WordSize) (left : Nat) : Tidy may [] (handleRects word left) := by
  induction left with
  | zero => exact Shadowed.done ()
  | succ left inductionHypothesis =>
    apply Shadowed.sequence (Shadowed.update (fun _ _ linked => linked.of_standing rfl))
    intro _
    exact (handleRect_tidy word).sequence (fun _ => inductionHypothesis)

/-- An allocation that may fail without ending the routine. -/
theorem trying_tends {pointer : Pointer} {size : Nat} {following : Bool → Managed Unit}
    {passed : Unit → Blocks → Memory → Prop} {settled : Error → Blocks → Memory → Prop}
    (linked : Linked locals blocks memory) (foreign : owns memory.client pointer = false)
    (new : pointer ∉ locals)
    (continues : ∀ obtained reached, Linked (held obtained pointer ++ locals) reached memory →
      Tends may reached (following obtained) memory passed settled) :
    Tends may blocks (sequence (ask (Operation.buffer pointer size)) following) memory passed
      settled :=
  buffer_tends (linked.absent foreign new) (continues false _ linked)
    (continues true _ (linked.obtained size))

/-- A block is released if it could be obtained. -/
theorem releasingIf_tends {pointer : Pointer} {obtained : Bool} {following : Managed α}
    {passed : α → Blocks → Memory → Prop} {settled : Error → Blocks → Memory → Prop}
    (linked : Linked (held obtained pointer ++ locals) blocks memory)
    (foreign : owns memory.client pointer = false) (once : pointer ∉ locals)
    (continues : ∀ left, Linked locals left memory →
      Tends may left following memory passed settled) :
    Tends may blocks (sequence (onlyIf obtained (release pointer)) (fun _ => following)) memory
      passed settled := by
  cases obtained with
  | false => exact continues blocks linked
  | true => exact releasing_tends linked foreign once continues

/-- Only which blocks are held counts, not in which order they were obtained. -/
theorem Linked.of_mem {locals' : List Pointer} (linked : Linked locals blocks memory)
    (same : ∀ pointer, pointer ∈ locals ↔ pointer ∈ locals') : Linked locals' blocks memory := by
  intro pointer
  rw [linked pointer, same pointer]

/-- Whatever could be obtained of the three arrays is released. -/
theorem deliverColors_tends {call : Callback} (handed : behind call = [.red, .green, .blue])
    {red green blue : Bool}
    (linked : Linked (held red .red ++ (held green .green ++ (held blue .blue ++ [.data]))) blocks
      memory) :
    Tends may blocks (deliverColors call red green blue) memory (fun _ => Linked [.data])
      (fun _ => Linked []) := by
  refine Shadows.ite (fun _ => ?_) (fun all => ?_)
  · apply releasingIf_tends linked rfl (by cases green <;> cases blue <;> decide)
    intro reached linked
    apply releasingIf_tends linked rfl (by cases blue <;> decide)
    intro reached linked
    apply releasingIf_tends linked rfl (by decide)
    intro reached linked
    exact releasing_tends linked rfl (by decide) (fun _ linked => Shadows.fail linked)
  · obtain ⟨rfl, rfl, rfl⟩ : red = true ∧ green = true ∧ blue = true := by simpa using all
    have fired : Tends may blocks (fire call) memory (fun _ => Linked [.red, .green, .blue, .data])
        (fun _ => Linked []) :=
      fire_tends linked (by simp [handed]) (by decide)
    refine fired.sequence ?_
    rintro ⟨⟩ reached final linked
    apply releasing_tends linked rfl (by decide)
    intro reached linked
    apply releasing_tends linked rfl (by decide)
    intro reached linked
    exact release_settles linked rfl (by decide)

/-- `handle_color_map_entries`: the buffer and the arrays that could be had are released on every
path. -/
theorem handleColorMapEntries_tidy : Tidy may [] handleColorMapEntries := by
  apply (plain_tidy (transportRecv_quiet 5)).sequence
  intro header blocks memory linked
  apply obtaining_tends linked rfl (by decide)
  intro linked
  apply receiving_tends linked rfl (by decide) (Function.update_self ..) (Nat.le_refl _)
  intro data final _ linked
  apply Shadows.load
  refine Shadows.sequence (Shadows.onlyIf (fun _ => ?_) (fun _ => linked))
    (fun _ _ _ linked => release_settles linked rfl (by decide))
  apply trying_tends linked rfl (by decide)
  intro red reached linked
  apply trying_tends linked rfl (by cases red <;> decide)
  intro green reached linked
  apply trying_tends linked rfl (by cases red <;> cases green <;> decide)
  intro blue reached linked
  apply deliverColors_tends rfl
  apply linked.of_mem
  intro pointer
  simp only [List.mem_append]
  tauto

/-- `handle_server_cut_text`: the text is live through the receive and the callback. -/
theorem handleServerCutText_tidy : Tidy may [] handleServerCutText := by
  apply (plain_tidy (transportRecv_quiet 7)).sequence
  intro header
  refine Shadowed.ite (fun positive => ?_) (fun empty => fire_tidy (if_neg empty))
  intro blocks memory linked
  apply obtaining_tends linked rfl (by decide)
  intro linked
  apply faultIf_tends
  intro fits
  apply receiving_tends linked rfl (by decide) (Function.update_self ..) (Nat.le_of_not_lt fits)
  intro text last _ linked
  apply faultIf_tends
  intro _
  exact (fire_tends linked (by simp [behind, positive]) (by decide)).sequence
    (fun _ _ _ linked => release_settles linked rfl (by decide))

/-- `ovnc__recv_server_message` ends with the blocks it began with, whatever message arrives. -/
theorem recvServerMessage_tidy (word : WordSize) : Tidy may [] (recvServerMessage word) := by
  apply (plain_tidy (transportRecv_quiet 1)).sequence
  intro msgType
  refine Shadowed.ite (fun _ => ?_) (fun _ => ?_)
  · apply (plain_tidy (transportRecv_quiet 3)).sequence
    intro header
    exact (handleRects_tidy word _).sequence (fun _ => fire_tidy rfl)
  refine Shadowed.ite (fun _ => handleColorMapEntries_tidy) (fun _ => ?_)
  refine Shadowed.ite (fun _ => fire_tidy rfl) (fun _ => ?_)
  exact Shadowed.ite (fun _ => handleServerCutText_tidy) (fun _ => Shadowed.fail _)

/-! ## The handshake -/

/-- `read_failure_reason` gives its buffer back whether or not the reason could be received. -/
theorem readFailureReason_tidy : Tidy may [] readFailureReason := by
  apply (plain_tidy (transportRecv_quiet 4)).attempt.sequence
  intro lenBuf
  cases lenBuf with
  | error error => exact Shadowed.done error
  | ok lenBuf =>
    refine Shadowed.sequence (Shadowed.onlyIf (fun _ => ?_)) (fun _ => Shadowed.done _)
    intro blocks memory linked
    refine buffer_tends (linked.absent rfl (by decide)) (Shadows.done linked) ?_
    refine Shadows.onlyIf (fun _ => ?_) (fun refused => absurd rfl refused)
    have obtained : Linked [.tmp] (Function.update blocks .tmp (some (readU32 lenBuf).toNat))
        memory := linked.obtained _
    refine Shadows.attempting (recvInto_tends obtained (Function.update_self ..)
      (Nat.le_refl _)) ?_ ?_
    · rintro bytes reached final ⟨rfl, same⟩
      exact release_settles (obtained.of_standing same) rfl (by decide)
    · rintro error reached final ⟨rfl, same⟩
      exact release_settles (obtained.of_standing same) rfl (by decide)

/-- `negotiate_security` gives the list of types back on every path. -/
theorem negotiateSecurity_tidy : Tidy may [] negotiateSecurity := by
  apply Shadowed.load
  intro memory
  refine Shadowed.ite (fun _ => ?_) (fun _ => ?_)
  · apply (plain_tidy (transportRecv_quiet 4)).sequence
    intro buf
    refine Shadowed.ite (fun _ => ?_) (fun _ => ?_)
    · exact readFailureReason_tidy.sequence (fun error => Shadowed.fail error)
    · exact (Shadowed.failIf _).sequence (fun _ => plain_tidy (recordSecurity_quiet _))
  · apply (plain_tidy (transportRecv_quiet 1)).sequence
    intro countBuf
    refine Shadowed.ite (fun _ => ?_) (fun _ => ?_)
    · exact readFailureReason_tidy.sequence (fun error => Shadowed.fail error)
    · intro blocks memory linked
      apply obtaining_tends linked rfl (by decide)
      intro linked
      apply receiving_tends linked rfl (by decide) (Function.update_self ..) (Nat.le_refl _)
      intro types final _ linked
      apply releasing_tends linked rfl (by decide)
      intro left linked
      refine ((Shadowed.failIf _).sequence (fun _ => ?_)) left final linked
      exact (plain_tidy (transportSend_quiet _)).sequence
        (fun _ => plain_tidy (recordSecurity_quiet _))

/-- `check_security_result` holds no block but that of the reason. -/
theorem checkSecurityResult_tidy : Tidy may [] checkSecurityResult := by
  apply Shadowed.load
  intro memory
  refine Shadowed.ite (fun _ => ?_) (fun _ => Shadowed.onlyIf (fun _ => ?_))
  · apply (plain_tidy (transportRecv_quiet 4)).sequence
    intro buf
    refine Shadowed.onlyIf (fun _ => ?_)
    exact readFailureReason_tidy.sequence (fun _ => Shadowed.fail _)
  · exact (plain_tidy (transportRecv_quiet 4)).sequence (fun buf => Shadowed.failIf _)

/-- The buffer of SetEncodings has the length that was computed for it. -/
theorem setEncodingsBuffer_length (encodings : List EncodingType) :
    (setEncodingsBuffer encodings).length = 4 + 4 * encodings.length := by
  have entries : (encodings.flatMap writeS32).length = encodings.length * 4 :=
    Codec.flatMap_length writeS32_length encodings
  simp only [setEncodingsBuffer, List.length_append, entries, writeU16_length, List.length_cons,
    List.length_nil]
  omega

/-- `ovnc__send_set_encodings` gives its buffer back whether or not it could be sent. -/
theorem sendSetEncodings_tidy (word : WordSize) (encodings : List EncodingType) :
    Tidy may [] (sendSetEncodings word encodings) := by
  intro blocks memory linked
  apply obtaining_tends linked rfl (by decide)
  intro linked
  apply faultIf_tends
  intro fits
  have within : (setEncodingsBuffer encodings).length ≤ word.wrap (4 + 4 * encodings.length) := by
    rw [setEncodingsBuffer_length]
    exact Nat.le_of_not_lt fits
  refine Shadows.settle (sendFrom_tends linked (Function.update_self ..) within) ?_ ?_
  · rintro error reached final ⟨rfl, same⟩
    exact releasing_tends (linked.of_standing same) rfl (by decide)
      (fun _ linked => Shadows.fail linked)
  · rintro ⟨⟩ reached final ⟨rfl, same⟩
    exact release_settles (linked.of_standing same) rfl (by decide)

/-- `send_initial_messages`, of which only the encodings need a buffer. -/
theorem sendInitialMessages_tidy (word : WordSize) : Tidy may [] (sendInitialMessages word) := by
  apply Shadowed.load
  intro memory
  apply Shadowed.sequence
  · exact Shadowed.onSome (fun format _ => plain_tidy (transportSend_quiet _))
  · intro _
    exact Shadowed.onSome (fun encodings _ =>
      Shadowed.onlyIf (fun _ => sendSetEncodings_tidy word encodings))

/-- `ovnc__handshake` ends with the blocks it began with, however it ends. -/
theorem handshake_tidy (word : WordSize) : Tidy may [] (handshake word) := by
  apply (plain_tidy (quiet_of_parts exchange_quiet negotiateVersion_exchange)).sequence
  intro _
  apply negotiateSecurity_tidy.sequence
  intro _
  apply checkSecurityResult_tidy.sequence
  intro _
  exact (plain_tidy (quiet_of_parts handshakePart_quiet (doInitialization_parts word))).sequence
    (fun _ => sendInitialMessages_tidy word)

/-! ## The client API -/

/-- An attempt that is abandoned gives its transport back. -/
theorem abandonConnect_tidy (error : Error) : Tidy may [] (abandonConnect error) := by
  intro blocks memory linked
  refine Shadows.sequence (transportDestroy_tends linked (by decide)) ?_
  rintro ⟨⟩ reached final ⟨linked, -⟩
  refine Shadows.through (fun _ => Linked []) (Shadows.update ?_)
    (fun _ _ _ linked => Shadows.fail linked)
  split
  · exact linked.of_owns rfl
  · exact linked

/-- The handshake of an attempt: when it fails, the transport is given back with its block. -/
theorem connectHandshake_tidy (word : WordSize) : Tidy may [] (connectHandshake word) := by
  apply (handshake_tidy word).attempt.sequence
  intro shaken
  cases shaken with
  | error error => exact abandonConnect_tidy error
  | ok value => exact Shadowed.update (fun _ _ linked => linked.of_owns rfl)

/-- Dialling reads the host name and the transport, and sets the socket of the latter. -/
theorem transportConnect_tidy : Tidy may [] (plain transportConnect) := by
  intro blocks memory linked
  unfold transportConnect
  rw [bind_eq, plain_sequence]
  refine Shadows.sequence derefTransport_tends ?_
  rintro transport reached final ⟨rfl, rfl, attached⟩
  rw [bind_eq, plain_load]
  apply Shadows.load
  have there : reached.live .transport := (linked .transport).mpr (.inl attached)
  have named : reached.live .host := (linked .host).mpr (.inl rfl)
  refine asking_tends ?_ (fun answer => ?_)
  · simp [Blocks.serve, needed, linked.client, there, named]
  · cases answer with
    | error error => exact Shadows.fail linked
    | ok sock =>
      refine Shadows.update (linked.of_owns ?_)
      funext pointer
      cases pointer with
      | transport => exact attached.symm
      | _ => rfl

/-- The dialling of an attempt, which reads the host name and the transport. -/
theorem connectTransport_tidy (word : WordSize) : Tidy may [] (connectTransport word) := by
  apply transportConnect_tidy.attempt.sequence
  intro connected
  cases connected with
  | error error => exact abandonConnect_tidy error
  | ok value => exact connectHandshake_tidy word

/-- The transport of a client that has none is obtained, or there still is none. -/
theorem transportCreate_tends (linked : Linked [] blocks memory)
    (detached : memory.client.transport = none) :
    Tends may blocks transportCreate memory (fun _ => Linked []) (fun _ => Linked []) := by
  have absent : ¬ blocks.live .transport := linked.absent (by simp [owns, detached]) (by decide)
  refine Shadows.asking (fun obtained _ => ?_)
  cases obtained with
  | false => exact ⟨blocks, if_neg absent, Shadows.fail linked⟩
  | true => exact ⟨_, if_neg absent, Shadows.update (linked.attached _)⟩

/-- `ovnc_client_connect` ends with exactly the blocks that the client then refers to: with that
of its transport when it returns, and without it when it fails. -/
theorem clientConnect_tends (word : WordSize) (linked : Linked [] blocks memory)
    (detached : memory.client.state = .created → memory.client.transport = none) :
    Tends may blocks (clientConnect word) memory (fun _ => Linked []) (fun _ => Linked []) := by
  apply Shadows.load
  refine Shadows.through (fun _ reached final => reached = blocks ∧ final = memory ∧
    memory.client.state = .created)
    (Shadows.failIf (fun _ => linked) (fun created => ⟨rfl, rfl, not_not.mp created⟩)) ?_
  rintro ⟨⟩ blocks memory ⟨rfl, rfl, created⟩
  refine Shadows.through (fun _ reached final => Linked [] reached final ∧
    final.client.transport = none) (Shadows.update ⟨linked.of_owns rfl, detached created⟩) ?_
  rintro ⟨⟩ reached final ⟨linked, detached⟩
  refine (transportCreate_tends linked detached).attempting
    (fun _ _ _ linked => connectTransport_tidy word _ _ linked) ?_
  intro error reached final linked
  refine Shadows.through (fun _ => Linked []) (Shadows.update ?_)
    (fun _ _ _ linked => Shadows.fail linked)
  split
  · exact linked.of_owns rfl
  · exact linked

/-- After a message that could not be processed the transport is gone, and so is its block. -/
theorem tearDown_tidy (error : Error) : Tidy may [] (tearDown error) :=
  (fire_tidy rfl).sequence (fun _ =>
    (clientDisconnect_tidy (by decide)).sequence (fun _ => Shadowed.fail error))

/-- The loop of `ovnc_client_run`, by induction on its bound. -/
theorem runLoop_tidy (word : WordSize) (bound : Nat) : Tidy may [] (runLoop word bound) := by
  induction bound with
  | zero => exact Shadowed.stalled
  | succ bound inductionHypothesis =>
    apply Shadowed.load
    intro memory
    refine Shadowed.ite (fun _ => ?_) (fun _ => Shadowed.done ())
    apply (recvServerMessage_tidy word).attempt.sequence
    intro received
    cases received with
    | error error => exact tearDown_tidy error
    | ok value => exact inductionHypothesis

/-- A call that sends without a block of its own. -/
theorem sender_tidy (word : WordSize) (bound : Nat) {call : ApiCall} (sends : call.sends = true)
    (plainly : perform word bound call = plain (OpenVnc.perform word bound call)) :
    Tidy may [] (perform word bound call) := by
  rw [plainly]
  exact plain_tidy (perform_quiet word bound sends)

/-- The guard of a call asks for nothing and changes nothing. -/
theorem requireConnected_quiet : Quiet requireConnected :=
  quiet_of_parts exchange_quiet (requireConnected_composed _)

/-- Every call keeps the blocks in order and leaves those that the client refers to. -/
theorem perform_tends (word : WordSize) (bound : Nat) (call : ApiCall)
    (linked : Linked [] blocks memory)
    (detached : memory.client.state = .created → memory.client.transport = none) :
    Tends may blocks (perform word bound call) memory (fun _ => Linked [])
      (fun _ => Linked []) := by
  cases call with
  | connect => exact clientConnect_tends word linked detached
  | disconnect => exact clientDisconnect_tidy (by decide) _ _ linked
  | processMessage =>
    refine (plain_tidy requireConnected_quiet).sequence (fun _ => ?_) _ _ linked
    apply (recvServerMessage_tidy word).attempt.sequence
    intro received
    cases received with
    | error error => exact tearDown_tidy error
    | ok value => exact Shadowed.done ()
  | run =>
    exact (plain_tidy requireConnected_quiet).sequence (fun _ => runLoop_tidy word bound) _ _ linked
  | requestUpdate | sendKeyEvent | sendPointerEvent | sendCutText | setPixelFormat =>
    exact sender_tidy word bound rfl rfl _ _ linked
  | setEncodings encodings =>
    cases encodings with
    | none => exact Shadows.fail linked
    | some encodings =>
      exact (plain_tidy requireConnected_quiet).sequence
        (fun _ => sendSetEncodings_tidy word encodings) _ _ linked

/-! ## The end of a client, and its beginning -/

/-- The live blocks are these. -/
def Remain (left : List Pointer) (blocks : Blocks) : Prop :=
  ∀ pointer, blocks.live pointer ↔ pointer ∈ left

section Remaining

variable {S E F : Type} {may' : (operation : Operation) → Reply operation → Prop}
  {tolerated : F → Prop} {place : S} {left : List Pointer} {pointer : Pointer}

/-- A block that has been obtained remains to be released along with the others. -/
theorem Remain.update (remain : Remain left blocks) (size : Nat) :
    Remain (pointer :: left) (Function.update blocks pointer (some size)) := by
  intro other
  by_cases same : other = pointer
  · simp [Blocks.live, same]
  · have unchanged := remain other
    simpa [Blocks.live, Function.update_of_ne same, same] using unchanged

/-- The first of the remaining blocks is released. -/
theorem release_remains {settled : E → Blocks → S → Prop} (remain : Remain (pointer :: left) blocks)
    (once : pointer ∉ left) :
    Shadows may' shadow tolerated blocks (release pointer : Program S E F Operation Reply Unit)
      place (fun _ reached final => final = place ∧ Remain left reached) settled := by
  refine Shadows.ask (fun _ _ => ⟨_, if_pos ((remain pointer).mpr List.mem_cons_self), rfl, ?_⟩)
  intro other
  by_cases same : other = pointer
  · simp [Blocks.live, same, once]
  · have unchanged := remain other
    simpa [Blocks.live, Function.update_of_ne same, same] using unchanged

/-- The release of a block that may not have been obtained: exactly those that were not held for
it remain. -/
theorem releaseIf_remains {settled : E → Blocks → S → Prop} {obtained : Bool}
    (remain : Remain (held obtained pointer ++ left) blocks) (once : pointer ∉ left) :
    Shadows may' shadow tolerated blocks
      (onlyIf obtained (release pointer) : Program S E F Operation Reply Unit) place
      (fun _ reached final => final = place ∧ Remain left reached) settled := by
  cases obtained with
  | false => exact Shadows.done ⟨rfl, remain⟩
  | true => exact release_remains remain once

end Remaining

/-- What a client without a transport refers to. -/
theorem linked_iff_remain (detached : memory.client.transport = none) :
    Linked [] blocks memory ↔
      Remain (held memory.client.encodings.isSome .encodings ++
        (held memory.client.pixelFormat.isSome .pixelFormat ++ [.host, .client])) blocks := by
  refine forall_congr' (fun pointer => ?_)
  cases encodings : memory.client.encodings <;> cases format : memory.client.pixelFormat <;>
    cases pointer <;> simp [owns, held, encodings, format, detached]

/-- `ovnc_client_destroy` leaves no block, if only a connected client has a transport. -/
theorem clientDestroy_tends (linked : Linked [] blocks memory)
    (attached : memory.client.transport.isSome → memory.client.state = .connected) :
    Tends may blocks clientDestroy memory (fun _ reached _ => Remain [] reached)
      (fun _ _ _ => False) := by
  refine Shadows.sequence (clientDisconnect_tends linked (by decide)) ?_
  rintro ⟨⟩ reached final ⟨linked, left⟩
  have detached : final.client.transport = none := by
    by_contra remains
    obtain ⟨idle, rfl⟩ := left (Option.isSome_iff_ne_none.mpr remains)
    exact idle (attached (Option.isSome_iff_ne_none.mpr remains))
  apply Shadows.load
  have remain := (linked_iff_remain detached).mp linked
  refine Shadows.through (fun _ reached' _ => reached' = reached)
    (Shadows.onlyIf (fun _ => ?_) (fun _ => rfl)) ?_
  · cases final.client.framebuffer.data with
    | none => exact Shadows.done rfl
    | some block =>
      refine asking_tends ?_ (fun _ => Shadows.done rfl)
      simp [Blocks.serve, needed, linked.client]
  rintro ⟨⟩ reached last rfl
  refine Shadows.sequence (releaseIf_remains remain ?_) ?_
  · cases final.client.pixelFormat <;> simp [held]
  rintro ⟨⟩ reached last ⟨-, remain⟩
  refine Shadows.sequence (releaseIf_remains remain (by decide)) ?_
  rintro ⟨⟩ reached last ⟨-, remain⟩
  refine Shadows.sequence (release_remains remain (by decide)) ?_
  rintro ⟨⟩ reached last ⟨-, remain⟩
  exact (release_remains remain (by decide)).weaken (fun _ _ _ held => held.2)
    (fun _ _ _ impossible => impossible)

/-- The live blocks are those that the client refers to, if there is one. -/
def Owned (slot : Option Client) (blocks : Blocks) : Prop :=
  ∀ pointer, blocks.live pointer ↔ ∃ client, slot = some client ∧ owns client pointer

/-- The blocks of a client that is there are those that its record refers to. -/
theorem owned_some {client : Client} (count : Int) (pending : Nat) :
    Owned (some client) blocks ↔ Linked [] blocks ⟨client, count, pending⟩ := by
  simp [Owned, Linked]

/-- Without a client nothing remains. -/
theorem owned_none : Owned none blocks ↔ Remain [] blocks := by
  simp [Owned, Remain]

section Creating

variable {may' : (operation : Operation) → Reply operation → Prop}

variable (may') in
/-- The ends of `ovnc_client_create`: the client is returned with its blocks, or none is left. -/
abbrev Creates (blocks : Blocks) (creation : Creation (Option Client)) : Prop :=
  Shadows may' shadow (fun _ => False) blocks creation () (fun made reached _ => Owned made reached)
    (fun _ _ _ => False)

/-- An abandoned creation releases what it has obtained, in whatever order, and leaves nothing. -/
theorem abandonCreate_creates {pointers : List Pointer} (distinct : pointers.Nodup)
    (remain : Remain pointers blocks) : Creates may' blocks (abandonCreate pointers) := by
  induction pointers generalizing blocks with
  | nil => exact Shadows.done (owned_none.mpr remain)
  | cons pointer pointers inductionHypothesis =>
    obtain ⟨once, distinct⟩ := List.nodup_cons.mp distinct
    refine Shadows.sequence (release_remains remain once) ?_
    rintro ⟨⟩ reached ⟨⟩ ⟨-, remain⟩
    exact inductionHypothesis distinct remain

/-- The configured encodings are the last thing that is copied. When there is no storage for them,
all that was obtained before is released. -/
theorem copyEncodings_creates (word : WordSize) {made : Client} (detached : made.transport = none)
    (remain : Remain (held made.pixelFormat.isSome .pixelFormat ++ [.host, .client]) blocks) :
    Creates may' blocks (copyEncodings word made) := by
  have owned (reached : Blocks) (all : Remain (held made.encodings.isSome .encodings ++
      (held made.pixelFormat.isSome .pixelFormat ++ [.host, .client])) reached) :
      Owned (some made) reached :=
    (owned_some 0 0).mpr ((linked_iff_remain detached).mpr all)
  unfold copyEncodings
  cases encodings : made.encodings with
  | none => exact Shadows.done (owned blocks (by rw [encodings]; exact remain))
  | some encodings =>
    have absent : ¬ blocks.live .encodings := by
      rw [remain]
      cases made.pixelFormat <;> simp [held]
    refine Shadows.asking (fun copied _ => ?_)
    cases copied with
    | false =>
      refine ⟨blocks, if_neg absent, abandonCreate_creates ?_ remain⟩
      cases made.pixelFormat <;> simp [held]
    | true =>
      exact ⟨_, if_neg absent, Shadows.done (owned _ (by rw [encodings]; exact remain.update _))⟩

/-- The configured pixel format is copied before them, with the same duty. -/
theorem copyPixelFormat_creates (word : WordSize) {made : Client} (detached : made.transport = none)
    (remain : Remain [.host, .client] blocks) :
    Creates may' blocks (copyPixelFormat word made) := by
  unfold copyPixelFormat
  cases format : made.pixelFormat with
  | none => exact copyEncodings_creates word detached (by rw [format]; exact remain)
  | some fmt =>
    have absent : ¬ blocks.live .pixelFormat := by
      rw [remain]
      decide
    refine Shadows.asking (fun copied _ => ?_)
    cases copied with
    | false => exact ⟨blocks, if_neg absent, abandonCreate_creates (by decide) remain⟩
    | true =>
      exact ⟨_, if_neg absent,
        copyEncodings_creates word detached (by rw [format]; exact remain.update _)⟩

/-- `ovnc_client_create` returns a client with its blocks, or leaves none. -/
theorem clientCreate_creates (word : WordSize) (config : ClientConfig)
    (callbacks : Option ClientCallbacks) (remain : Remain [] blocks) :
    Creates may' blocks (clientCreate word config callbacks) := by
  have absent (pointer : Pointer) : ¬ blocks.live pointer := by
    rw [remain]
    simp
  unfold clientCreate
  cases config.host with
  | none => exact Shadows.done (owned_none.mpr remain)
  | some name =>
    refine Shadows.asking (fun allocated _ => ?_)
    cases allocated with
    | false => exact ⟨blocks, if_neg (absent .client), Shadows.done (owned_none.mpr remain)⟩
    | true =>
      refine ⟨_, if_neg (absent .client), ?_⟩
      have created : Remain [.client] (Function.update blocks .client (some 0)) := remain.update 0
      have absent : ¬ Blocks.live (Function.update blocks .client (some 0)) .host := by
        rw [created]
        decide
      refine Shadows.asking (fun copied _ => ?_)
      cases copied with
      | false => exact ⟨_, if_neg absent, abandonCreate_creates (by decide) created⟩
      | true => exact ⟨_, if_neg absent, copyPixelFormat_creates word rfl (created.update _)⟩

end Creating

end Heap

end OpenVnc
