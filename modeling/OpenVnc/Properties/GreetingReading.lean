import OpenVnc.Properties.Greetings
import OpenVnc.Properties.HandshakeCompleteness
import OpenVnc.Endings

/-!
# The handshake on any stream

What `ovnc__handshake` makes of the bytes of a server, whatever they are. Each stage takes
its message off the stream or fails with the error of the refusal, after the replies that
belong to the messages before it.
-/

namespace OpenVnc

open Interaction Interaction.Program

section Stages

variable (host : Host) (error : Error) {memory : Memory} {transport : Transport}
  (input sent : List UInt8) (fired : List Callback) (clock : Nat)

/-! ## Receiving from a stream that ends -/

/-- A receive takes its bytes, or what is left and fails. -/
theorem run_transportRecv_ending (attached : memory.client.transport = some transport) (len : Nat) :
    (transportRecv len).run (host.ending error) memory ⟨input, sent, fired, clock⟩ =
      if len ≤ input.length then
        (.returned (input.take len), memory, ⟨input.drop len, sent, fired, clock⟩)
      else (.failed error, memory, ⟨[], sent, fired, clock⟩) := by
  rw [transportRecv, bind_eq, run_sequence_returned _ (run_derefTransport attached _), bind_eq]
  by_cases enough : len ≤ input.length
  · have answered : host.ending error (.recv len) ⟨input, sent, fired, clock⟩ =
        (some (.complete (input.take len)), ⟨input.drop len, sent, fired, clock⟩) := if_pos enough
    rw [run_ask_then _ _ _ answered, if_pos enough]
    rfl
  · have answered : host.ending error (.recv len) ⟨input, sent, fired, clock⟩ =
        (some (.stopped input error), ⟨[], sent, fired, clock⟩) := if_neg enough
    rw [run_ask_then _ _ _ answered, if_neg enough]
    rfl

/-- The same at the front of a routine. -/
theorem run_transportRecv_ending_then {α : Type}
    (attached : memory.client.transport = some transport) (len : Nat)
    (following : List UInt8 → Routine α) :
    (sequence (transportRecv len) following).run (host.ending error) memory
        ⟨input, sent, fired, clock⟩ =
      if len ≤ input.length then
        (following (input.take len)).run (host.ending error) memory
          ⟨input.drop len, sent, fired, clock⟩
      else (.failed error, memory, ⟨[], sent, fired, clock⟩) := by
  rw [run_sequence, run_transportRecv_ending host error input sent fired clock attached]
  split
  · rfl
  · rfl

/-- A receive whose end is observed. -/
theorem run_attempt_transportRecv {α : Type} (attached : memory.client.transport = some transport)
    (len : Nat) (following : Except Error (List UInt8) → Routine α) :
    (sequence (attempt (transportRecv len)) following).run (host.ending error) memory
        ⟨input, sent, fired, clock⟩ =
      if len ≤ input.length then
        (following (.ok (input.take len))).run (host.ending error) memory
          ⟨input.drop len, sent, fired, clock⟩
      else
        (following (.error error)).run (host.ending error) memory ⟨[], sent, fired, clock⟩ := by
  rw [run_sequence, run_attempt,
    run_transportRecv_ending host error input sent fired clock attached]
  by_cases enough : len ≤ input.length
  · rw [if_pos enough, if_pos enough]
    rfl
  · rw [if_neg enough, if_neg enough]
    rfl

/-- A first part that returns while bytes can still come does so on a stream that ends. -/
theorem run_ending_then {α β : Type} {first : Routine α} (following : α → Routine β)
    {value : α} {middle : Memory} {feed later : Feed}
    (returned : first.run host.feed memory feed = (.returned value, middle, later)) :
    (sequence first following).run (host.ending error) memory feed =
      (following value).run (host.ending error) middle later := by
  apply run_sequence_returned
  rw [run_ending_ended host error (by rw [returned]; simp), returned]

/-- A run that fails, having sent what is given. -/
def Fails {α : Type} (reason : Error) (sent : List UInt8) (fired : List Callback)
    (ran : Outcome Error Fault α × Memory × Feed) : Prop :=
  ∃ final left clock, ran = (.failed reason, final, ⟨left, sent, fired, clock⟩)

/-- A routine whose first part fails. -/
theorem Fails.sequence {α β : Type} {reason : Error} {first : Routine α} {feed : Feed}
    (fails : Fails reason sent fired (first.run (host.ending error) memory feed))
    (following : α → Routine β) :
    Fails reason sent fired
      ((Program.sequence first following).run (host.ending error) memory feed) := by
  obtain ⟨final, left, clock, ran⟩ := fails
  rw [run_sequence, ran]
  exact ⟨final, left, clock, rfl⟩

/-- The reason is read as far as it goes; only its length decides about the error. -/
theorem run_readFailureReason (attached : memory.client.transport = some transport) :
    ∃ left, readFailureReason.run (host.ending error) memory ⟨input, sent, fired, clock⟩ =
      (.returned (reasonError error input), memory, ⟨left, sent, fired, clock⟩) := by
  have obtained (size : Nat) (feed : Feed) :
      host.ending error (.malloc size) feed = (some true, feed) := rfl
  unfold readFailureReason reasonError
  rw [bind_eq, run_attempt_transportRecv host error input sent fired clock attached]
  by_cases short : input.length < 4
  · rw [if_neg (by omega), if_pos short]
    exact ⟨[], rfl⟩
  · rw [if_pos (by omega), if_neg short]
    simp only [bind_eq, onlyIf]
    by_cases something : 0 < readU32 (input.take 4)
    · rw [if_pos something, sequence_assoc, run_ask_then _ _ _ (obtained _ _), if_pos rfl,
        sequence_assoc,
        run_attempt_transportRecv host error (input.drop 4) sent fired clock attached]
      split
      · exact ⟨_, rfl⟩
      · exact ⟨_, rfl⟩
    · rw [if_neg something]
      exact ⟨_, rfl⟩

/-! ## The version -/

/-- On a greeting that is refused `negotiate_version` fails with the reason of the refusal, and
reports nothing. -/
theorem negotiateVersion_fails (attached : memory.client.transport = some transport)
    {reason : Error} (refuses : RefusesVersion error input reason) :
    Fails reason sent fired
      (negotiateVersion.run (host.ending error) memory ⟨input, sent, fired, clock⟩) := by
  have received {greeting : List UInt8} (size : greeting.length = 12) (rest : List UInt8) :
      host.ending error (.recv 12) ⟨greeting ++ rest, sent, fired, clock⟩ =
        (some (.complete greeting), ⟨rest, sent, fired, clock⟩) := by
    rw [Host.ending, if_pos (by rw [List.length_append]; omega), List.take_left' size,
      List.drop_left' size]
  cases refuses with
  | cut short =>
    rw [negotiateVersion, bind_eq,
      run_transportRecv_ending_then host error input sent fired clock attached,
      if_neg (by omega)]
    exact ⟨_, _, _, rfl⟩
  | @unframed greeting rest size unframed =>
    rw [run_negotiateVersion_unframed attached unframed (received size rest)]
    exact ⟨_, _, _, rfl⟩
  | @mismatched greeting rest size framed other =>
    rw [run_negotiateVersion_framed attached framed (received size rest), if_pos other]
    exact ⟨_, _, _, rfl⟩

/-- A version message is answered with the string of the version. -/
theorem run_negotiateVersion_spelled (attached : memory.client.transport = some transport)
    {version : RfbVersion} {spelled : List UInt8} (spells : SpellsVersion version spelled)
    (rest : List UInt8) :
    negotiateVersion.run host.feed memory ⟨spelled ++ rest, sent, fired, clock⟩ =
      (.returned (), memory.withConnInfo { memory.client.connInfo with rfbVersion := version },
        ⟨rest, sent ++ versionString version, fired, clock⟩) := by
  obtain ⟨size, framed, third, rfl⟩ := spells
  have received := host.feed_recv spelled rest sent fired clock
  rw [size] at received
  rw [run_negotiateVersion_framed attached framed received, if_neg (not_not.mpr third)]
  apply run_transportSend
  exact attached

/-! ## The security messages -/

/-- None is taken from the messages that offer it. -/
theorem run_negotiateSecurity_offered (attached : memory.client.transport = some transport)
    (known : memory.client.connInfo.rfbVersion ≠ .unset) {offer : List UInt8}
    (offers : OffersNone memory.client.connInfo.rfbVersion offer) (rest : List UInt8) :
    negotiateSecurity.run host.feed memory ⟨offer ++ rest, sent, fired, clock⟩ =
      (.returned (),
        memory.withConnInfo { memory.client.connInfo with securityType := .none },
        ⟨rest, sent ++ (selection memory.client.connInfo.rfbVersion).flatten, fired, clock⟩) := by
  revert known
  generalize chosen : memory.client.connInfo.rfbVersion = version at offers
  intro known
  cases offers with
  | decided =>
    rw [show (selection .v33).flatten = [] from rfl, List.append_nil]
    exact run_negotiateSecurity_v33 host attached chosen rest sent fired clock
  | listed later count contained =>
    rw [List.append_assoc, run_negotiateSecurity_listed host attached (chosen ▸ later) contained
      count rest sent fired clock]
    cases version with
    | unset => exact absurd rfl known
    | v33 => exact absurd rfl later
    | v37 | v38 => rfl

/-- On security types that are refused `negotiate_security` fails with the reason of the refusal.
-/
theorem negotiateSecurity_fails (attached : memory.client.transport = some transport)
    {version : RfbVersion} (chosen : memory.client.connInfo.rfbVersion = version)
    {reason : Error} (refuses : RefusesSecurity error version input reason) :
    Fails reason sent fired
      (negotiateSecurity.run (host.ending error) memory ⟨input, sent, fired, clock⟩) := by
  have obtained (size : Nat) (feed : Feed) :
      host.ending error (.malloc size) feed = (some true, feed) := rfl
  unfold negotiateSecurity
  rw [bind_eq, run_load_then, chosen]
  cases refuses with
  | undecided short =>
    rw [if_pos rfl, bind_eq,
      run_transportRecv_ending_then host error input sent fired clock attached, if_neg (by omega)]
    exact ⟨_, _, _, rfl⟩
  | @rejected rest =>
    have received := run_transportRecv host attached (writeU32_length 0) rest sent fired clock
    obtain ⟨left, ran⟩ := run_readFailureReason host error rest sent fired clock attached
    rw [if_pos rfl, bind_eq, run_ending_then host error _ received]
    dsimp only
    rw [if_pos (by decide), bind_eq, run_sequence_returned _ ran]
    exact ⟨_, _, _, rfl⟩
  | @decidedOther secType rest other =>
    have received := run_transportRecv host attached (writeU32_length secType) rest sent fired clock
    have value : readU32 (writeU32 secType) = secType := readU32_writeU32 secType []
    rw [if_pos rfl, bind_eq, run_ending_then host error _ received]
    dsimp only
    rw [value, if_neg other.1, bind_eq, run_failIf_then, if_pos other.2]
    exact ⟨_, _, _, rfl⟩
  | uncounted later =>
    rw [if_neg later, bind_eq, run_transportRecv_ending_then host error [] sent fired clock
      attached, if_neg (by decide)]
    exact ⟨_, _, _, rfl⟩
  | @empty _ rest later =>
    have received := run_transportRecv host attached (show [(0 : UInt8)].length = 1 from rfl)
      rest sent fired clock
    obtain ⟨left, ran⟩ := run_readFailureReason host error rest sent fired clock attached
    rw [if_neg later, bind_eq, run_ending_then host error _ received]
    dsimp only
    rw [if_pos (by decide), bind_eq, run_sequence_returned _ ran]
    exact ⟨_, _, _, rfl⟩
  | @unlisted _ count input later short =>
    have received := run_transportRecv host attached (show [count].length = 1 from rfl) input sent
      fired clock
    have some : count ≠ 0 := by
      rintro rfl
      exact absurd short (Nat.not_lt_zero _)
    rw [if_neg later, bind_eq, run_ending_then host error _ received]
    dsimp only
    rw [show byteAt [count] 0 = count from rfl, if_neg some, bind_eq,
      run_ask_then _ _ _ (obtained _ _), bind_eq, run_failIf_then, if_neg (by decide), bind_eq,
      run_transportRecv_ending_then host error input sent fired clock attached,
      if_neg (Nat.not_le.mpr short)]
    exact ⟨_, _, _, rfl⟩
  | @listedOthers _ count types rest later some listed missing =>
    have received := run_transportRecv host attached (show [count].length = 1 from rfl)
      (types ++ rest) sent fired clock
    have others := run_transportRecv host attached listed rest sent fired clock
    rw [if_neg later, bind_eq, run_ending_then host error _ received]
    dsimp only
    rw [show byteAt [count] 0 = count from rfl, if_neg some, bind_eq,
      run_ask_then _ _ _ (obtained _ _), bind_eq, run_failIf_then, if_neg (by decide), bind_eq,
      run_ending_then host error _ others, bind_eq, run_failIf_then,
      if_pos (by simpa using missing)]
    exact ⟨_, _, _, rfl⟩

/-- On a security result that is refused `check_security_result` fails with the reason of the
refusal. -/
theorem checkSecurityResult_fails (attached : memory.client.transport = some transport)
    {version : RfbVersion} (chosen : memory.client.connInfo.rfbVersion = version)
    {reason : Error} (refuses : RefusesResult error version input reason) :
    Fails reason sent fired
      (checkSecurityResult.run (host.ending error) memory ⟨input, sent, fired, clock⟩) := by
  unfold checkSecurityResult
  rw [bind_eq, run_load_then, chosen]
  cases refuses with
  | unknown short =>
    rw [if_pos rfl, bind_eq,
      run_transportRecv_ending_then host error input sent fired clock attached,
      if_neg (by omega)]
    exact ⟨_, _, _, rfl⟩
  | @failed result rest nonzero =>
    have received := run_transportRecv host attached (writeU32_length result) rest sent fired clock
    have value : readU32 (writeU32 result) = result := readU32_writeU32 result []
    obtain ⟨left, ran⟩ := run_readFailureReason host error rest sent fired clock attached
    rw [if_pos rfl, bind_eq, run_ending_then host error _ received, value, onlyIf,
      if_pos nonzero, bind_eq, run_sequence_returned _ ran]
    exact ⟨_, _, _, rfl⟩

/-! ## ServerInit -/

/-- The connection information with the fixed part of a ServerInit. -/
def ServerInit.stored (init : ServerInit) (info : ConnectionInfo) : ConnectionInfo :=
  { info with
    width := init.width
    height := init.height
    pixelFormat := init.format
    nameLength := UInt32.ofNat init.name.val.length }

/-- The connection information with what a ServerInit says. -/
def ServerInit.learned (init : ServerInit) (info : ConnectionInfo) : ConnectionInfo :=
  (init.stored info).named (init.name.val.take (serverNameMax - 1))
    (decide (serverNameMax - 1 < init.name.val.length))

/-- A format is read back whatever follows its fields. -/
theorem fromWire_fields (format : PixelFormat) (rest : List UInt8) :
    PixelFormat.fromWire (Grammar.formatFields format ++ rest) = format := by
  have red : readU16 ((Grammar.formatFields format ++ rest).drop 4) = format.redMax :=
    readU16_writeU16 _ _
  have green : readU16 ((Grammar.formatFields format ++ rest).drop 6) = format.greenMax :=
    readU16_writeU16 _ _
  have blue : readU16 ((Grammar.formatFields format ++ rest).drop 8) = format.blueMax :=
    readU16_writeU16 _ _
  unfold PixelFormat.fromWire
  rw [red, green, blue]
  rfl

/-- The fixed part of a ServerInit is stored field by field. -/
theorem run_recordServerInit_encoded (init : ServerInit) {padding : List UInt8}
    (padded : padding.length = 3) {handler : Handler Request Answer Feed} (feed : Feed) :
    (recordServerInit (writeU16 init.width ++ writeU16 init.height ++
        (Grammar.formatFields init.format ++ padding) ++
        writeU32 (UInt32.ofNat init.name.val.length))).run handler memory feed =
      (.returned (), memory.withConnInfo (init.stored memory.client.connInfo), feed) := by
  have width (rest : List UInt8) : readU16 (writeU16 init.width ++ rest) = init.width :=
    readU16_writeU16 _ _
  have height (rest : List UInt8) : readU16 ((writeU16 init.width ++
      (writeU16 init.height ++ rest)).drop 2) = init.height := readU16_writeU16 _ _
  have format (rest : List UInt8) : PixelFormat.fromWire ((writeU16 init.width ++
      (writeU16 init.height ++ (Grammar.formatFields init.format ++ rest))).drop 4) =
        init.format := fromWire_fields _ _
  have nameLength : readU32 ((writeU16 init.width ++ writeU16 init.height ++
      (Grammar.formatFields init.format ++ padding) ++
      writeU32 (UInt32.ofNat init.name.val.length)).drop 20) =
        UInt32.ofNat init.name.val.length := by
    rw [List.drop_left' (by simp [Grammar.formatFields, padded])]
    exact readU32_writeU32 _ []
  unfold recordServerInit
  rw [nameLength]
  simp only [List.append_assoc, width, height, format]
  rfl

/-- The fixed part is received at once; the name and the framebuffer are left to do. -/
theorem run_receiveServerInit_header (attached : memory.client.transport = some transport)
    (init : ServerInit) {padding : List UInt8} (padded : padding.length = 3) (others : List UInt8) :
    (receiveServerInit .bits64).run (host.ending error) memory
        ⟨writeU16 init.width ++ writeU16 init.height ++
          (Grammar.formatFields init.format ++ padding) ++
          writeU32 (UInt32.ofNat init.name.val.length) ++ others, sent, fired, clock⟩ =
      (sequence (receiveName init.name.val.length) (fun _ => initFramebuffer .bits64)).run
        (host.ending error) (memory.withConnInfo (init.stored memory.client.connInfo))
        ⟨others, sent, fired, clock⟩ := by
  obtain ⟨header, spelled⟩ : ∃ header, header = writeU16 init.width ++ writeU16 init.height ++
    (Grammar.formatFields init.format ++ padding) ++
    writeU32 (UInt32.ofNat init.name.val.length) := ⟨_, rfl⟩
  have before : (writeU16 init.width ++ writeU16 init.height ++
      (Grammar.formatFields init.format ++ padding)).length = 20 := by
    simp [Grammar.formatFields, padded]
  have size : header.length = 24 := by
    rw [spelled, List.length_append, before]
    rfl
  have nameLength : readU32 (header.drop 20) = UInt32.ofNat init.name.val.length := by
    rw [spelled, List.drop_left' before]
    exact readU32_writeU32 _ []
  have received := run_transportRecv host attached size others sent fired clock
  have recorded := @run_recordServerInit_encoded memory init padding padded (host.ending error)
    ⟨others, sent, fired, clock⟩
  rw [← spelled] at recorded ⊢
  rw [receiveServerInit, bind_eq, run_ending_then host error _ received, bind_eq,
    run_sequence_returned _ recorded, nameLength, UInt32.toNat_ofNat_of_lt' init.name.property]
  rfl

/-- A name that ends before its announced length cannot be discarded: the routine fails with the
error that the stream ended with. -/
theorem discardName_fails (attached : memory.client.transport = some transport) {skip : Nat}
    (short : input.length < skip) :
    Fails error sent fired
      ((discardName skip).run (host.ending error) memory ⟨input, sent, fired, clock⟩) := by
  induction skip using discardName.induct generalizing input with
  | case1 skip remaining inductionHypothesis =>
    rw [discardName, dif_pos remaining, bind_eq,
      run_transportRecv_ending_then host error input sent fired clock attached]
    split
    · apply inductionHypothesis
      rw [List.length_drop]
      omega
    · exact ⟨_, _, _, rfl⟩
  | case2 skip finished => omega

/-- A name of which bytes are missing, in the part that is kept or in the part that is not. -/
theorem receiveName_fails (attached : memory.client.transport = some transport) {nameLen : Nat}
    (short : input.length < nameLen) :
    Fails error sent fired
      ((receiveName nameLen).run (host.ending error) memory ⟨input, sent, fired, clock⟩) := by
  have unstored {len : Nat} (few : input.length < len) (room : len ≤ serverNameMax) :
      Fails error sent fired
        ((transportRecvName len).run (host.ending error) memory ⟨input, sent, fired, clock⟩) := by
    have stopped : host.ending error (.recv len) ⟨input, sent, fired, clock⟩ =
        (some (.stopped input error), ⟨[], sent, fired, clock⟩) := if_neg (Nat.not_le.mpr few)
    rw [transportRecvName, bind_eq, run_sequence_returned _ (run_derefTransport attached _),
      bind_eq, run_faultIf_then, if_neg (Nat.not_lt.mpr room), bind_eq,
      run_ask_then _ _ _ stopped]
    exact ⟨_, _, _, rfl⟩
  unfold receiveName
  rw [if_pos (by omega)]
  by_cases long : nameLen > serverNameMax - 1
  · rw [if_pos long, bind_eq]
    by_cases begun : serverNameMax - 1 ≤ input.length
    · obtain ⟨kept, others, rfl, size⟩ := exists_front begun
      have stored := run_transportRecvName host attached size (by decide) others sent fired clock
      rw [run_ending_then host error _ stored, bind_eq,
        run_ending_then host error _ (run_terminateName host (by decide) true _)]
      apply discardName_fails
      · exact attached
      · rw [List.length_append] at short
        omega
    · exact Fails.sequence host error sent fired (unstored (Nat.not_le.mp begun) (by decide)) _
  · have room : nameLen ≤ serverNameMax := by
      simp only [serverNameMax] at long ⊢
      omega
    rw [if_neg long, bind_eq]
    exact Fails.sequence host error sent fired (unstored short room) _

/-- A record of the computed size is coherent once it has a block that is large enough. -/
theorem Framebuffer.Coherent.of_block {framebuffer : Framebuffer} {block : Block}
    (supported : framebuffer.format.Supported)
    (asked : framebuffer.dataSize = WordSize.bits64.product framebuffer.width.toNat
      framebuffer.height.toNat (WordSize.bits64.ofInt framebuffer.format.bytesPerPixel))
    (enough : framebuffer.dataSize ≤ block.bytes.length) :
    { framebuffer with data := some block : Framebuffer }.Coherent where
  supported := supported
  exact_size := by
    rw [ofInt_bytesPerPixel supported, product_exact _ _ supported.pixelBytes_le] at asked
    exact asked
  stored := enough

/-- A framebuffer in a format the client can store is made, and is coherent. -/
theorem run_initFramebuffer_supported
    (supported : (memory.client.pixelFormat.getD memory.client.connInfo.pixelFormat).Supported) :
    ∃ framebuffer later,
      (initFramebuffer .bits64).run host.feed memory ⟨input, sent, fired, clock⟩ =
        (.returned (), memory.withFramebuffer framebuffer, ⟨input, sent, fired, later⟩) ∧
      framebuffer.extent = ⟨memory.client.connInfo.width, memory.client.connInfo.height⟩ ∧
      framebuffer.format = memory.client.pixelFormat.getD memory.client.connInfo.pixelFormat ∧
      framebuffer.Coherent := by
  have nonnegative := (PixelFormat.bytesPerPixel_nonneg_iff _).mpr supported
  unfold initFramebuffer
  rw [bind_eq, run_load_then]
  dsimp only
  rw [bind_eq, run_modifyFramebuffer_then, bind_eq, run_failIf_then, if_neg nonnegative, bind_eq,
    run_modifyFramebuffer_then]
  split
  · rw [run_callAllocFramebuffer]
    exact ⟨_, clock + 1, rfl, rfl, rfl, .of_block supported rfl (host.enough _ _)⟩
  · rw [bind_eq, run_sequence_returned _ (run_callocPixels host _ _), bind_eq,
      run_modifyFramebuffer_then]
    exact ⟨_, clock + 1, rfl, rfl, rfl,
      .of_block supported rfl (Nat.le_of_eq List.length_replicate.symm)⟩

/-- No framebuffer is made in any other format. -/
theorem run_initFramebuffer_unsupported (word : WordSize) (feed : Feed)
    (other : ¬ (memory.client.pixelFormat.getD memory.client.connInfo.pixelFormat).Supported) :
    ∃ final, (initFramebuffer word).run host.feed memory feed =
      (.failed .protocol, final, feed) := by
  have negative := Decidable.not_not.mp
    (mt (PixelFormat.bytesPerPixel_nonneg_iff _).mp other)
  unfold initFramebuffer
  rw [bind_eq, run_load_then]
  dsimp only
  rw [bind_eq, run_modifyFramebuffer_then, bind_eq, run_failIf_then, if_pos negative]
  exact ⟨_, rfl⟩

/-- A ServerInit that is cut short, or whose pixels cannot be stored. -/
theorem receiveServerInit_fails (attached : memory.client.transport = some transport)
    {reason : Error} (refuses : RefusesInit error memory.client.pixelFormat input reason) :
    Fails reason sent fired
      ((receiveServerInit .bits64).run (host.ending error) memory ⟨input, sent, fired, clock⟩) := by
  cases refuses with
  | @cut init input more encodes missing =>
    obtain ⟨bytes, split⟩ : ∃ bytes, bytes = input ++ more := ⟨_, rfl⟩
    rw [← split] at encodes
    obtain @⟨padding, padded⟩ := encodes
    have before : (writeU16 init.width ++ writeU16 init.height ++
        (Grammar.formatFields init.format ++ padding) ++
        writeU32 (UInt32.ofNat init.name.val.length)).length = 24 := by
      simp [Grammar.formatFields, padded]
    by_cases enough : 24 ≤ input.length
    · obtain ⟨header, others, rfl, size⟩ := exists_front enough
      rw [List.append_assoc header] at split
      obtain ⟨rfl, name⟩ := List.append_inj split (before.trans size.symm)
      have short : others.length < init.name.val.length := by
        rw [name, List.length_append]
        exact Nat.lt_add_of_pos_right (List.length_pos_iff.mpr missing)
      rw [run_receiveServerInit_header host error sent fired clock attached init padded]
      apply Fails.sequence
      apply receiveName_fails
      · exact attached
      · exact short
    · rw [receiveServerInit, bind_eq,
        run_transportRecv_ending_then host error input sent fired clock attached, if_neg enough]
      exact ⟨_, _, _, rfl⟩
  | @unsupported init bytes rest encodes other =>
    obtain @⟨padding, padded⟩ := encodes
    have named := @run_receiveName host (memory.withConnInfo (init.stored memory.client.connInfo))
      transport attached init.name.val rest sent fired clock
    obtain ⟨final, ran⟩ := @run_initFramebuffer_unsupported host
      (memory.withConnInfo (init.learned memory.client.connInfo)) .bits64
      ⟨rest, sent, fired, clock⟩ other
    have ended : (initFramebuffer .bits64).run (host.ending error)
        (memory.withConnInfo (init.learned memory.client.connInfo))
        ⟨rest, sent, fired, clock⟩ = _ :=
      (run_ending_ended host error (by rw [ran]; simp)).trans ran
    rw [List.append_assoc,
      run_receiveServerInit_header host error sent fired clock attached init padded,
      run_ending_then host error _ named]
    exact ⟨final, rest, clock, ended⟩

/-- A ServerInit is read to its end, and a framebuffer is made for it. -/
theorem receiveServerInit_takes (attached : memory.client.transport = some transport)
    {init : ServerInit} {bytes : List UInt8} (encodes : init.Encodes bytes)
    (supported : (memory.client.pixelFormat.getD init.format).Supported) (rest : List UInt8) :
    ∃ framebuffer later,
      (receiveServerInit .bits64).run (host.ending error) memory
          ⟨bytes ++ rest, sent, fired, clock⟩ =
        (.returned (), (memory.withConnInfo (init.learned memory.client.connInfo)).withFramebuffer
          framebuffer, ⟨rest, sent, fired, later⟩) ∧
      framebuffer.extent = ⟨init.width, init.height⟩ ∧
      framebuffer.format = memory.client.pixelFormat.getD init.format ∧
      framebuffer.Coherent := by
  obtain @⟨padding, padded⟩ := encodes
  have named := @run_receiveName host (memory.withConnInfo (init.stored memory.client.connInfo))
    transport attached init.name.val rest sent fired clock
  obtain ⟨framebuffer, later, ran, made⟩ := @run_initFramebuffer_supported host
    (memory.withConnInfo (init.learned memory.client.connInfo)) rest sent fired clock supported
  have ended : (initFramebuffer .bits64).run (host.ending error)
      (memory.withConnInfo (init.learned memory.client.connInfo)) ⟨rest, sent, fired, clock⟩ = _ :=
    (run_ending_ended host error (by rw [ran]; simp)).trans ran
  refine ⟨framebuffer, later, ?_, made⟩
  rw [List.append_assoc,
    run_receiveServerInit_header host error sent fired clock attached init padded,
    run_ending_then host error _ named]
  exact ended

/-! ## The handshake -/

/-- A version that is spelled is one of the three. -/
theorem SpellsVersion.known {version : RfbVersion} {spelled : List UInt8}
    (spells : SpellsVersion version spelled) : version ≠ .unset := by
  rw [← spells.chosen, chosenVersion]
  split_ifs <;> decide

/-- The stages before the SecurityResult take their messages. -/
theorem run_handshake_secured (word : WordSize)
    (attached : memory.client.transport = some transport) {version : RfbVersion}
    {spelled offer : List UInt8} (spells : SpellsVersion version spelled)
    (offers : OffersNone version offer) (rest : List UInt8) :
    (handshake word).run (host.ending error) memory
        ⟨spelled ++ (offer ++ rest), sent, fired, clock⟩ =
      (sequence checkSecurityResult (fun _ => sequence (doInitialization word)
        (fun _ => sendInitialMessages word))).run (host.ending error) (memory.negotiated version)
          ⟨rest, sent ++ (opening version).flatten, fired, clock⟩ := by
  have announced := run_negotiateVersion_spelled host sent fired clock attached spells
    (offer ++ rest)
  have selected := @run_negotiateSecurity_offered host (memory.withConnInfo
    { memory.client.connInfo with rfbVersion := version }) transport
    (sent ++ versionString version) fired clock attached spells.known offer offers rest
  rw [handshake, bind_eq, run_ending_then host error _ announced, bind_eq,
    run_ending_then host error _ selected, List.append_assoc]
  rfl

/-- So do those before the ServerInit, which is asked for. -/
theorem run_handshake_requested (word : WordSize)
    (attached : memory.client.transport = some transport) {version : RfbVersion}
    {spelled offer : List UInt8} (spells : SpellsVersion version spelled)
    (offers : OffersNone version offer) (rest : List UInt8) :
    (handshake word).run (host.ending error) memory
        ⟨spelled ++ (offer ++ (Offer.securityResult version ++ rest)), sent, fired, clock⟩ =
      (sequence (receiveServerInit word) (fun _ => sendInitialMessages word)).run
        (host.ending error) (memory.negotiated version)
          ⟨rest, sent ++ ((opening version).flatten ++ [memory.client.shared]), fired, clock⟩ := by
  have accepted : checkSecurityResult.run host.feed (memory.negotiated version)
      ⟨Offer.securityResult version ++ rest, sent ++ (opening version).flatten, fired, clock⟩ =
        (.returned (), memory.negotiated version,
          ⟨rest, sent ++ (opening version).flatten, fired, clock⟩) := by
    apply run_checkSecurityResult
    · exact attached
    · rfl
  have requested := @run_transportSend host (memory.negotiated version) transport attached
    [memory.client.shared] ⟨rest, sent ++ (opening version).flatten, fired, clock⟩
  rw [run_handshake_secured host error sent fired clock word attached spells offers,
    run_ending_then host error _ accepted, doInitialization, bind_eq, sequence_assoc,
    run_load_then, bind_eq, sequence_assoc, ← List.append_assoc]
  exact run_ending_then host error _ requested

/-- Bytes that begin with no greeting end the handshake with the error of the refusal, after
the replies to the messages before it. -/
theorem handshake_fails (attached : memory.client.transport = some transport)
    {replies : List UInt8} {reason : Error}
    (refuses : Refuses error memory.client.pixelFormat memory.client.shared input replies reason) :
    Fails reason (sent ++ replies) fired
      ((handshake .bits64).run (host.ending error) memory ⟨input, sent, fired, clock⟩) := by
  cases refuses with
  | version refuses =>
    rw [List.append_nil, handshake, bind_eq]
    apply Fails.sequence
    exact negotiateVersion_fails host error _ sent fired clock attached refuses
  | @security version spelled input reason spells refuses =>
    have announced := run_negotiateVersion_spelled host sent fired clock attached spells input
    rw [handshake, bind_eq, run_ending_then host error _ announced]
    apply Fails.sequence
    apply negotiateSecurity_fails
    · exact attached
    · rfl
    · exact refuses
  | result spells offers refuses =>
    rw [run_handshake_secured host error sent fired clock .bits64 attached spells offers]
    apply Fails.sequence
    apply checkSecurityResult_fails
    · exact attached
    · rfl
    · exact refuses
  | init spells offers refuses =>
    rw [run_handshake_requested host error sent fired clock .bits64 attached spells offers]
    apply Fails.sequence
    apply receiveServerInit_fails
    · exact attached
    · exact refuses

/-- What the client replies to a greeting. -/
def greetingReplies (client : Client) (version : RfbVersion) : List UInt8 :=
  (opening version).flatten ++ [client.shared] ++
    (initialMessages client).flatMap ClientMessage.encode

/-- The memory after a greeting. -/
def Memory.greeted (memory : Memory) (version : RfbVersion) (init : ServerInit)
    (framebuffer : Framebuffer) : Memory :=
  (memory.withConnInfo (init.learned { memory.client.connInfo with
    rfbVersion := version, securityType := .none })).withFramebuffer framebuffer

/-- A greeting is taken, and what follows it is left. -/
theorem handshake_takes (attached : memory.client.transport = some transport)
    (few : ∀ encodings, memory.client.encodings = some encodings → encodings.length ≤ 65535)
    {version : RfbVersion} {init : ServerInit} {rest : List UInt8}
    (accepts : Accepts memory.client.pixelFormat input version init rest) :
    ∃ framebuffer later,
      (handshake .bits64).run (host.ending error) memory ⟨input, sent, fired, clock⟩ =
        (.returned (), memory.greeted version init framebuffer,
          ⟨rest, sent ++ greetingReplies memory.client version, fired, later⟩) ∧
      framebuffer.extent = ⟨init.width, init.height⟩ ∧
      framebuffer.format = memory.client.pixelFormat.getD init.format ∧
      framebuffer.Coherent := by
  obtain ⟨⟨_, greets, rfl⟩, supported⟩ := accepts
  cases greets with
  | @greets spelled offer bytes spells offers encodes =>
    obtain ⟨framebuffer, later, received, made⟩ := @receiveServerInit_takes host error
      (memory.negotiated version) transport
      (sent ++ ((opening version).flatten ++ [memory.client.shared])) fired clock attached init
      bytes encodes supported rest
    have configured := @run_sendInitialMessages host (memory.greeted version init framebuffer)
      transport .bits64 attached few rest
      (sent ++ ((opening version).flatten ++ [memory.client.shared])) fired later
    have ended := (run_ending_ended host error (by rw [configured]; simp)).trans configured
    have replied : sent ++ greetingReplies memory.client version =
        sent ++ ((opening version).flatten ++ [memory.client.shared]) ++
          (initialMessages memory.client).flatMap ClientMessage.encode :=
      (List.append_assoc ..).symm
    refine ⟨framebuffer, later, ?_, made⟩
    rw [List.append_assoc, List.append_assoc, List.append_assoc,
      run_handshake_requested host error sent fired clock .bits64 attached spells offers,
      run_sequence_returned _ received, replied]
    exact ended

end Stages

end OpenVnc
