import OpenVnc.HandshakePeers
import OpenVnc.Properties.SecurityGate

/-!
# The handshake with a conforming server completes

Client and server alternate: each sends exactly what the other reads next. One schedule
of the two therefore runs through, and since their moves commute every schedule does. At
its end the two sides agree on everything they have negotiated.
-/

namespace OpenVnc

open Interaction Interaction.Program Codec

/-! ## The name -/

/-- The connection information with a name and its terminator in the array. -/
def ConnectionInfo.named (info : ConnectionInfo) (kept : List UInt8) (truncated : Bool) :
    ConnectionInfo :=
  { info with
    name := (info.name.store 0 kept).store kept.length [0], nameTruncated := truncated }

/-- Storing no bytes leaves the array as it is. -/
theorem NameArray.store_nil (name : NameArray) : name.store 0 [] = name := by
  unfold NameArray.store
  rw [dif_pos (show 0 + ([] : List UInt8).length ≤ serverNameMax from Nat.zero_le _)]
  congr 1

/-- The array starts with the name and its terminator. -/
theorem NameArray.store_terminated (name : NameArray) {kept : List UInt8}
    (short : kept.length < serverNameMax) :
    ((name.store 0 kept).store kept.length [0]).bytes =
      kept ++ 0 :: name.bytes.drop (kept.length + 1) := by
  have first : (name.store 0 kept).bytes = kept ++ name.bytes.drop kept.length := by
    rw [NameArray.store, dif_pos (by omega)]
    simp [overwrite]
  have second : ((name.store 0 kept).store kept.length [0]).bytes =
      overwrite (name.store 0 kept).bytes kept.length [0] := by
    have room : kept.length + [(0 : UInt8)].length ≤ serverNameMax := short
    rw [NameArray.store, dif_pos room]
  rw [second, first]
  simp [overwrite]

/-! ## The client's stages against a host -/

section Stages

variable (host : Host) {memory : Memory} {transport : Transport}

/-- Changing the connection info is an update of the memory, which what follows sees. -/
theorem run_modifyConnInfo_then {α : Type} {handler : Handler Request Answer Feed}
    (change : ConnectionInfo → ConnectionInfo) (following : Unit → Routine α) (feed : Feed) :
    (sequence (modifyConnInfo change) following).run handler memory feed =
      (following ()).run handler (memory.withConnInfo (change memory.client.connInfo)) feed := rfl

/-- The client answers each known version with the same one. -/
theorem run_negotiateVersion (attached : memory.client.transport = some transport)
    {version : RfbVersion} (known : version ≠ .unset) (rest sent : List UInt8)
    (fired : List Callback) (clock : Nat) :
    negotiateVersion.run host.feed memory ⟨versionString version ++ rest, sent, fired, clock⟩ =
      (.returned (),
        memory.withConnInfo { memory.client.connInfo with rfbVersion := version },
        ⟨rest, sent ++ versionString version, fired, clock⟩) := by
  have size : (versionString version).length = 12 := by cases version <;> rfl
  have chosen : (if threeDigits (versionString version) 8 ≥ 8 then RfbVersion.v38
      else if threeDigits (versionString version) 8 = 7 then .v37 else .v33) = version := by
    cases version with
    | unset => exact absurd rfl known
    | v33 | v37 | v38 => rfl
  unfold negotiateVersion
  rw [bind_eq, run_sequence_returned _ (run_transportRecv host attached size rest sent fired clock),
    bind_eq, run_failIf_then, if_neg (by cases version <;> decide), bind_eq, run_failIf_then,
    if_neg (by cases version <;> decide), bind_eq, run_modifyConnInfo_then,
    chosen]
  apply run_transportSend
  exact attached

/-- In version 3.3 the server's choice of None is accepted. -/
theorem run_negotiateSecurity_v33 (attached : memory.client.transport = some transport)
    (version : memory.client.connInfo.rfbVersion = .v33) (rest sent : List UInt8)
    (fired : List Callback) (clock : Nat) :
    negotiateSecurity.run host.feed memory ⟨writeU32 1 ++ rest, sent, fired, clock⟩ =
      (.returned (),
        memory.withConnInfo { memory.client.connInfo with securityType := .none },
        ⟨rest, sent, fired, clock⟩) := by
  unfold negotiateSecurity
  rw [bind_eq, run_load_then, if_pos version, bind_eq,
    run_sequence_returned _
      (run_transportRecv host attached (writeU32_length 1) rest sent fired clock)]
  rfl

/-- After that None is selected from the server's list, wherever it is. -/
theorem run_negotiateSecurity_listed (attached : memory.client.transport = some transport)
    (version : memory.client.connInfo.rfbVersion ≠ .v33) {types : List UInt8}
    (offersNone : 1 ∈ types) (count : types.length ≤ 255) (rest sent : List UInt8)
    (fired : List Callback) (clock : Nat) :
    negotiateSecurity.run host.feed memory
        ⟨[UInt8.ofNat types.length] ++ (types ++ rest), sent, fired, clock⟩ =
      (.returned (),
        memory.withConnInfo { memory.client.connInfo with securityType := .none },
        ⟨rest, sent ++ [1], fired, clock⟩) := by
  have some : 0 < types.length := List.length_pos_of_mem offersNone
  have size : (byteAt [UInt8.ofNat types.length] 0).toNat = types.length :=
    UInt8.toNat_ofNat_of_lt' (show types.length < 2 ^ 8 by omega)
  have listed : byteAt [UInt8.ofNat types.length] 0 ≠ 0 := by
    intro zero
    rw [zero] at size
    exact absurd size (Nat.ne_of_lt some)
  unfold negotiateSecurity
  rw [bind_eq, run_load_then, if_neg version, bind_eq,
    run_sequence_returned _ (run_transportRecv host attached (List.length_singleton) (types ++ rest)
      sent fired clock)]
  dsimp only
  rw [if_neg listed, bind_eq, run_malloc_then, bind_eq, run_failIf_then, if_neg (by decide),
    bind_eq,
    run_sequence_returned _ (run_transportRecv host attached size.symm rest sent fired clock),
    bind_eq, run_failIf_then, if_neg (by simpa using offersNone), bind_eq,
    run_sequence_returned _ (run_transportSend host attached _ _)]
  rfl

/-- The three versions together. -/
theorem run_negotiateSecurity (attached : memory.client.transport = some transport) (offer : Offer)
    (known : memory.client.connInfo.rfbVersion ≠ .unset) (rest sent : List UInt8)
    (fired : List Callback) (clock : Nat) :
    negotiateSecurity.run host.feed memory
        ⟨offer.securityTypes memory.client.connInfo.rfbVersion ++ rest, sent, fired, clock⟩ =
      (.returned (),
        memory.withConnInfo { memory.client.connInfo with securityType := .none },
        ⟨rest, sent ++ (selection memory.client.connInfo.rfbVersion).flatten, fired, clock⟩) := by
  have listed (later : memory.client.connInfo.rfbVersion ≠ .v33) :=
    run_negotiateSecurity_listed host attached later offer.offersNone offer.count rest sent fired
      clock
  cases version : memory.client.connInfo.rfbVersion with
  | unset => exact absurd version known
  | v33 =>
    rw [show (selection .v33).flatten = [] from rfl, List.append_nil]
    exact run_negotiateSecurity_v33 host attached version rest sent fired clock
  | v37 | v38 =>
    have chosen := listed (by simp [version])
    rw [← List.append_assoc] at chosen
    exact chosen

/-- SecurityResult is read in version 3.8, and not at all for None in the others. -/
theorem run_checkSecurityResult (attached : memory.client.transport = some transport)
    (none : memory.client.connInfo.securityType = .none) (rest sent : List UInt8)
    (fired : List Callback) (clock : Nat) :
    checkSecurityResult.run host.feed memory
        ⟨Offer.securityResult memory.client.connInfo.rfbVersion ++ rest, sent, fired, clock⟩ =
      (.returned (), memory, ⟨rest, sent, fired, clock⟩) := by
  unfold checkSecurityResult
  rw [bind_eq, run_load_then]
  by_cases version : memory.client.connInfo.rfbVersion = .v38
  · have zero : Offer.securityResult memory.client.connInfo.rfbVersion = writeU32 0 := by
      rw [version]
      rfl
    rw [if_pos version, zero, bind_eq,
      run_sequence_returned _
        (run_transportRecv host attached (writeU32_length 0) rest sent fired clock)]
    rfl
  · have silent : Offer.securityResult memory.client.connInfo.rfbVersion = [] := by
      cases chosen : memory.client.connInfo.rfbVersion with
      | v38 => exact absurd chosen version
      | _ => rfl
    rw [if_neg version, silent, none]
    rfl

/-- The loop skips exactly the bytes it is given. -/
theorem run_discardName (attached : memory.client.transport = some transport) {skip : Nat}
    {bytes : List UInt8} (size : bytes.length = skip) (rest sent : List UInt8)
    (fired : List Callback) (clock : Nat) :
    (discardName skip).run host.feed memory ⟨bytes ++ rest, sent, fired, clock⟩ =
      (.returned (), memory, ⟨rest, sent, fired, clock⟩) := by
  induction skip using discardName.induct generalizing bytes with
  | case1 skip remaining inductionHypothesis =>
    have chunk : (bytes.take (min skip 256)).length = min skip 256 := by
      rw [List.length_take]
      omega
    have others : (bytes.drop (min skip 256)).length = skip - min skip 256 := by
      rw [List.length_drop, size]
    have read := run_transportRecv host attached chunk (bytes.drop (min skip 256) ++ rest) sent
      fired clock
    rw [← List.append_assoc, List.take_append_drop] at read
    rw [discardName, dif_pos remaining, bind_eq, run_sequence_returned _ read]
    exact inductionHypothesis others
  | case2 skip finished =>
    obtain rfl : bytes = [] := List.eq_nil_of_length_eq_zero (by omega)
    rw [discardName, dif_neg finished]
    rfl

/-- A receive into the name array stores its bytes at the start. -/
theorem run_transportRecvName (attached : memory.client.transport = some transport)
    {bytes : List UInt8} {len : Nat} (size : bytes.length = len) (room : len ≤ serverNameMax)
    (rest sent : List UInt8) (fired : List Callback) (clock : Nat) :
    (transportRecvName len).run host.feed memory ⟨bytes ++ rest, sent, fired, clock⟩ =
      (.returned (),
        memory.withConnInfo { memory.client.connInfo with
          name := memory.client.connInfo.name.store 0 bytes },
        ⟨rest, sent, fired, clock⟩) := by
  subst size
  unfold transportRecvName
  rw [bind_eq, run_sequence_returned _ (run_derefTransport attached _), bind_eq,
    run_faultIf_then, if_neg (Nat.not_lt.mpr room), bind_eq,
    run_ask_then _ _ _ (host.feed_recv bytes rest sent fired clock)]
  rfl

/-- Terminating the name writes its zero and the flag into the connection info, and takes nothing
from the feed. -/
theorem run_terminateName {index : Nat} (room : index < serverNameMax) (truncated : Bool)
    (feed : Feed) :
    (terminateName index truncated).run host.feed memory feed =
      (.returned (),
        memory.withConnInfo { memory.client.connInfo with
          name := memory.client.connInfo.name.store index [0], nameTruncated := truncated },
        feed) := by
  unfold terminateName
  rw [bind_eq, run_faultIf_then, if_neg (Nat.not_le.mpr room)]
  rfl

/-- The whole name is read, and the beginning that fits is kept. -/
theorem run_receiveName (attached : memory.client.transport = some transport)
    (name rest sent : List UInt8) (fired : List Callback) (clock : Nat) :
    (receiveName name.length).run host.feed memory ⟨name ++ rest, sent, fired, clock⟩ =
      (.returned (),
        memory.withConnInfo (memory.client.connInfo.named (name.take (serverNameMax - 1))
          (decide (serverNameMax - 1 < name.length))),
        ⟨rest, sent, fired, clock⟩) := by
  unfold receiveName
  by_cases some : name.length > 0
  · rw [if_pos some]
    by_cases long : name.length > serverNameMax - 1
    · have kept : (name.take (serverNameMax - 1)).length = serverNameMax - 1 :=
        List.length_take_of_le (Nat.le_of_lt long)
      have skipped : (name.drop (serverNameMax - 1)).length = name.length - (serverNameMax - 1) :=
        List.length_drop
      have read := run_transportRecvName host attached kept (by decide)
        (name.drop (serverNameMax - 1) ++ rest) sent fired clock
      rw [← List.append_assoc, List.take_append_drop] at read
      rw [if_pos long, bind_eq, run_sequence_returned _ read, bind_eq,
        run_sequence_returned _ (run_terminateName host (by decide) true _)]
      rw [decide_eq_true long, ConnectionInfo.named, kept]
      apply run_discardName
      · exact attached
      · exact skipped
    · have short : name.take (serverNameMax - 1) = name :=
        List.take_of_length_le (Nat.not_lt.mp long)
      have room : name.length < serverNameMax := by
        simp only [serverNameMax] at long ⊢
        omega
      rw [if_neg long, bind_eq, run_sequence_returned _ (run_transportRecvName host attached rfl
        (Nat.le_of_lt room) rest sent fired clock), run_terminateName host room, short,
        decide_eq_false long]
      rfl
  · obtain rfl : name = [] := List.eq_nil_of_length_eq_zero (by omega)
    rw [if_neg some, run_terminateName host (by decide)]
    simp only [ConnectionInfo.named, List.take_nil, List.length_nil, NameArray.store_nil]
    rfl

/-- The client's framebuffer gets the size of the server's, and the configured format or
else the server's. -/
theorem run_initFramebuffer (word : WordSize)
    (supported : (memory.client.pixelFormat.getD memory.client.connInfo.pixelFormat).Supported)
    (unread sent : List UInt8) (fired : List Callback) (clock : Nat) :
    ∃ framebuffer later,
      (initFramebuffer word).run host.feed memory ⟨unread, sent, fired, clock⟩ =
        (.returned (), memory.withFramebuffer framebuffer, ⟨unread, sent, fired, later⟩) ∧
      framebuffer.width = memory.client.connInfo.width ∧
      framebuffer.height = memory.client.connInfo.height ∧
      framebuffer.format = memory.client.pixelFormat.getD memory.client.connInfo.pixelFormat := by
  have nonnegative := (PixelFormat.bytesPerPixel_nonneg_iff _).mpr supported
  unfold initFramebuffer
  rw [bind_eq, run_load_then]
  dsimp only
  rw [bind_eq, run_modifyFramebuffer_then, bind_eq, run_failIf_then, if_neg nonnegative, bind_eq,
    run_modifyFramebuffer_then]
  split
  · rw [run_callAllocFramebuffer]
    exact ⟨_, clock + 1, rfl, rfl, rfl, rfl⟩
  · rw [bind_eq, run_sequence_returned _ (run_callocPixels host _ _), bind_eq,
      run_modifyFramebuffer_then]
    exact ⟨_, clock + 1, rfl, rfl, rfl, rfl⟩

/-- The connection information with the fixed part of the server's ServerInit. -/
def ConnectionInfo.initialized (info : ConnectionInfo) (offer : Offer) : ConnectionInfo :=
  { info with
    width := offer.width
    height := offer.height
    pixelFormat := offer.format
    nameLength := UInt32.ofNat offer.name.length }

/-- Recording ServerInit copies the announced values into the connection info. -/
theorem run_recordServerInit (offer : Offer) (feed : Feed) :
    (recordServerInit offer.serverInitHeader).run host.feed memory feed =
      (.returned (), memory.withConnInfo (memory.client.connInfo.initialized offer), feed) := by
  have width : readU16 offer.serverInitHeader = offer.width := readU16_writeU16 _ _
  have height : readU16 (offer.serverInitHeader.drop 2) = offer.height := readU16_writeU16 _ _
  have format : PixelFormat.fromWire (offer.serverInitHeader.drop 4) = offer.format :=
    PixelFormat.fromWire_toWire _ _
  have nameLength : readU32 (offer.serverInitHeader.drop 20) = UInt32.ofNat offer.name.length :=
    readU32_writeU32 _ []
  unfold recordServerInit
  rw [width, height, format, nameLength]
  rfl

/-- ServerInit is read to its end, whatever the length of the name. -/
theorem run_receiveServerInit (word : WordSize)
    (attached : memory.client.transport = some transport) (offer : Offer)
    (supported : ∀ format, memory.client.pixelFormat = some format → format.Supported)
    (rest sent : List UInt8) (fired : List Callback) (clock : Nat) :
    ∃ framebuffer later,
      (receiveServerInit word).run host.feed memory
          ⟨offer.serverInit ++ rest, sent, fired, clock⟩ =
        (.returned (),
          (memory.withConnInfo ((memory.client.connInfo.initialized offer).named
            (offer.name.take (serverNameMax - 1))
            (decide (serverNameMax - 1 < offer.name.length)))).withFramebuffer framebuffer,
          ⟨rest, sent, fired, later⟩) ∧
      framebuffer.width = offer.width ∧ framebuffer.height = offer.height ∧
      framebuffer.format = memory.client.pixelFormat.getD offer.format := by
  have size : (readU32 (offer.serverInitHeader.drop 20)).toNat = offer.name.length := by
    rw [show readU32 (offer.serverInitHeader.drop 20) = UInt32.ofNat offer.name.length from
      readU32_writeU32 _ []]
    exact UInt32.toNat_ofNat_of_lt' offer.nameFits
  have active : (memory.client.pixelFormat.getD offer.format).Supported := by
    cases configured : memory.client.pixelFormat with
    | none => exact offer.supported
    | some format => exact supported format configured
  have header : offer.serverInitHeader.length = 24 := rfl
  have stillAttached : (memory.withConnInfo
      (memory.client.connInfo.initialized offer)).client.transport = some transport := attached
  unfold receiveServerInit Offer.serverInit
  rw [bind_eq, List.append_assoc,
    run_sequence_returned _
      (run_transportRecv host attached header (offer.name ++ rest) sent fired clock),
    bind_eq, run_sequence_returned _ (run_recordServerInit host offer _), bind_eq, size,
    run_sequence_returned _ (run_receiveName host stillAttached offer.name rest sent fired clock)]
  exact run_initFramebuffer host word active rest sent fired clock

/-- The size of the buffer for a list that fits its count field does not wrap. -/
theorem setEncodings_fits (word : WordSize) {encodings : List EncodingType}
    (few : encodings.length ≤ 65535) : 4 + 4 * encodings.length < word.modulus := by
  cases word <;> simp only [WordSize.modulus] <;> omega

/-- A list that fits its buffer is sent. -/
theorem run_sendSetEncodings (word : WordSize) (attached : memory.client.transport = some transport)
    {encodings : List EncodingType} (fits : 4 + 4 * encodings.length < word.modulus) (feed : Feed) :
    (sendSetEncodings word encodings).run host.feed memory feed =
      (.returned (), memory,
        { feed with sent := feed.sent ++ (ClientMessage.setEncodings encodings).encode }) := by
  unfold sendSetEncodings
  rw [WordSize.wrap_of_lt fits]
  dsimp only
  rw [bind_eq, run_malloc_then, bind_eq, run_failIf_then, if_neg (by decide), bind_eq,
    run_faultIf_then, if_neg (Nat.lt_irrefl _)]
  exact run_transportSend host attached _ feed

/-- The messages after the handshake proper. -/
theorem run_sendInitialMessages (word : WordSize)
    (attached : memory.client.transport = some transport)
    (few : ∀ encodings, memory.client.encodings = some encodings → encodings.length ≤ 65535)
    (unread sent : List UInt8) (fired : List Callback) (clock : Nat) :
    (sendInitialMessages word).run host.feed memory ⟨unread, sent, fired, clock⟩ =
      (.returned (), memory,
        ⟨unread, sent ++ (initialMessages memory.client).flatMap ClientMessage.encode, fired,
          clock⟩) := by
  have formats (sent : List UInt8) :
      (onSome memory.client.pixelFormat sendSetPixelFormat).run host.feed memory
          ⟨unread, sent, fired, clock⟩ =
        (.returned (), memory, ⟨unread, sent ++ (memory.client.pixelFormat.map
          ClientMessage.setPixelFormat).toList.flatMap ClientMessage.encode, fired, clock⟩) := by
    cases memory.client.pixelFormat with
    | none => simp [onSome]
    | some format =>
      rw [onSome, Option.map_some, Option.toList_some, List.flatMap_singleton]
      exact run_transportSend host attached _ _
  have lists (sent : List UInt8) :
      (onSome memory.client.encodings (fun encodings =>
          onlyIf (encodings.length > 0) (sendSetEncodings word encodings))).run host.feed memory
          ⟨unread, sent, fired, clock⟩ =
        (.returned (), memory, ⟨unread, sent ++ ((memory.client.encodings.filter
          (fun encodings => encodings ≠ [])).map ClientMessage.setEncodings).toList.flatMap
            ClientMessage.encode, fired, clock⟩) := by
    cases configured : memory.client.encodings with
    | none => simp [onSome]
    | some encodings =>
      by_cases empty : encodings = []
      · simp [onSome, onlyIf, empty]
      · have counted : encodings.length > 0 := List.length_pos_iff.mpr empty
        have kept : (some encodings).filter (fun encodings => encodings ≠ []) = some encodings :=
          Option.filter_some_pos (by simpa using empty)
        rw [kept, onSome, onlyIf, if_pos counted, Option.map_some, Option.toList_some,
          List.flatMap_singleton]
        apply run_sendSetEncodings host word attached
        exact setEncodings_fits word (few encodings configured)
  unfold sendInitialMessages initialMessages
  rw [bind_eq, run_load_then, bind_eq, run_sequence_returned _ (formats sent), lists,
    List.flatMap_append, List.append_assoc]

/-! ### Turns of the client -/

/-- From the security types to ClientInit. -/
def requestInit : Routine Unit := do
  checkSecurityResult
  let memory ← load
  transportSend [memory.client.shared]

/-- From ServerInit to the end. -/
def completeInit (word : WordSize) : Routine Unit := do
  receiveServerInit word
  sendInitialMessages word

/-- The handshake, divided where the client waits for the server. -/
theorem handshake_turns (word : WordSize) : handshake word =
    sequence negotiateVersion (fun _ => sequence negotiateSecurity (fun _ =>
      sequence requestInit (fun _ => sequence (completeInit word) done))) := by
  rw [sequence_done]
  unfold handshake doInitialization requestInit completeInit
  simp only [← bind_eq, bind_assoc]

/-- Against a server without authentication the ClientInit goes out after the result that 3.8
sends, and nothing is left unread. -/
theorem run_requestInit (attached : memory.client.transport = some transport)
    (none : memory.client.connInfo.securityType = .none) (sent : List UInt8)
    (fired : List Callback) (clock : Nat) :
    requestInit.run host.feed memory
        ⟨Offer.securityResult memory.client.connInfo.rfbVersion, sent, fired, clock⟩ =
      (.returned (), memory, ⟨[], sent ++ [memory.client.shared], fired, clock⟩) := by
  have checked := run_checkSecurityResult host attached none [] sent fired clock
  rw [List.append_nil] at checked
  unfold requestInit
  rw [bind_eq, run_sequence_returned _ checked, bind_eq, run_load_then]
  exact run_transportSend host attached _ _

/-- After ClientInit the server's framebuffer and name are taken over. -/
theorem run_completeInit (word : WordSize) (attached : memory.client.transport = some transport)
    (offer : Offer)
    (supported : ∀ format, memory.client.pixelFormat = some format → format.Supported)
    (few : ∀ encodings, memory.client.encodings = some encodings → encodings.length ≤ 65535)
    (rest sent : List UInt8) (fired : List Callback) (clock : Nat) :
    ∃ framebuffer later,
      (completeInit word).run host.feed memory ⟨offer.serverInit ++ rest, sent, fired, clock⟩ =
        (.returned (),
          (memory.withConnInfo ((memory.client.connInfo.initialized offer).named
            (offer.name.take (serverNameMax - 1))
            (decide (serverNameMax - 1 < offer.name.length)))).withFramebuffer framebuffer,
          ⟨rest, sent ++ (initialMessages memory.client).flatMap ClientMessage.encode, fired,
            later⟩) ∧
      framebuffer.width = offer.width ∧ framebuffer.height = offer.height ∧
      framebuffer.format = memory.client.pixelFormat.getD offer.format := by
  obtain ⟨framebuffer, later, received, adopted⟩ :=
    run_receiveServerInit host word attached offer supported rest sent fired clock
  refine ⟨framebuffer, later, ?_, adopted⟩
  unfold completeInit
  rw [bind_eq, run_sequence_returned _ received]
  apply run_sendInitialMessages
  · exact attached
  · exact few

end Stages

/-! ## The server's stages -/

section Server

variable (offer : Offer)

/-- The server before the first byte. -/
def Offer.server : HandshakeServer := { format := offer.format }

/-- The server once the security type is settled. -/
def Offer.secured : HandshakeServer :=
  { phase := .clientInit, version := offer.version, security := .none, format := offer.format }

/-- The server after ClientInit. -/
def Offer.serving (shared : UInt8) : HandshakeServer :=
  { offer.secured with phase := .messages, shared := some shared }

/-- The server opens with its version and waits for the client's. -/
theorem server_greets : (HandshakeServer.party offer).Advances offer.server []
    { offer.server with phase := .version } [] (versionString offer.version) := by
  have reads : Reads (HandshakeServer.serve offer offer.server) []
      ({ offer.server with phase := .version }, versionString offer.version) := Reads.pure _
  exact reads.advances

/-- The server goes on with its own version when that comes back. -/
theorem choose_own (server : HandshakeServer) :
    server.choose offer (versionString offer.version) =
      if offer.version = .v33 then
        ({ server with phase := .clientInit, version := .v33, security := .none },
          offer.securityTypes .v33)
      else
        ({ server with phase := .selection, version := offer.version },
          offer.securityTypes offer.version) := by
  have known := offer.known
  unfold HandshakeServer.choose Offer.versions
  cases version : offer.version with
  | unset => exact absurd version known
  | v33 | v37 | v38 => rfl

/-- In the later versions the server reads the selection next. -/
theorem server_secures : ∃ chosen,
    (HandshakeServer.party offer).Advances { offer.server with phase := .version }
      (versionString offer.version) chosen [] (offer.securityTypes offer.version) ∧
    (HandshakeServer.party offer).Advances chosen (selection offer.version).flatten offer.secured []
      (Offer.securityResult offer.version) := by
  have size : (versionString offer.version).length = 12 := by cases offer.version <;> rfl
  have reads : Reads (HandshakeServer.serve offer { offer.server with phase := .version })
      (versionString offer.version)
      (HandshakeServer.choose { offer.server with phase := .version } offer
        (versionString offer.version)) :=
    (size ▸ Reads.take (versionString offer.version)).bind_pure _
  rw [choose_own] at reads
  by_cases version : offer.version = .v33
  · have secured : offer.secured = { offer.server with
        phase := .clientInit, version := .v33, security := .none } := by
      rw [Offer.secured, version]
      rfl
    rw [if_pos version, ← secured, ← version] at reads
    refine ⟨offer.secured, reads.advances, ?_⟩
    rw [version]
    exact .refl _ _
  · rw [if_neg version] at reads
    refine ⟨_, reads.advances, ?_⟩
    have selects : Reads (HandshakeServer.serve offer { offer.server with
        phase := .selection, version := offer.version }) [1]
        (offer.secured, Offer.securityResult offer.version) :=
      (Grammar.reads_u8 1).bind_pure _
    have selected : (selection offer.version).flatten = [1] := by
      have known := offer.known
      cases chosen : offer.version with
      | unset => exact absurd chosen known
      | v33 => exact absurd chosen version
      | v37 | v38 => rfl
    rw [selected]
    exact selects.advances

/-- On ClientInit the server sends ServerInit, with the messages of its own choice behind it, and
serves the client from then on. -/
theorem server_initializes (shared : UInt8) :
    (HandshakeServer.party offer).Advances offer.secured [shared] (offer.serving shared) []
      (offer.serverInit ++ offer.following) := by
  have reads : Reads (HandshakeServer.serve offer offer.secured) [shared]
      (offer.serving shared, offer.serverInit ++ offer.following) :=
    (Grammar.reads_u8 shared).bind_pure (fun shared : UInt8 =>
      (offer.serving shared, offer.serverInit ++ offer.following))
  exact reads.advances

/-- The server handles the client's messages as they arrive. -/
theorem server_handles {server : HandshakeServer} (ready : server.phase = .messages)
    (messages : List ClientMessage) (encodable : ∀ message ∈ messages, message.Encodable) :
    (HandshakeServer.party offer).Advances server (messages.flatMap ClientMessage.encode)
      (messages.foldl HandshakeServer.handle server) [] [] := by
  refine advances_all (fun server => server.phase = .messages) ?_ messages ?_ ready
  · intro server message ready
    cases message <;> exact ready
  · intro server ready message member
    have reads : Reads (HandshakeServer.serve offer server) message.encode
        (server.handle message, []) := by
      unfold HandshakeServer.serve
      rw [ready]
      exact (Grammar.reads_clientMessage (encodable message member)).bind_pure _
    exact reads

end Server

/-! ## Completeness -/

/-- The client record and the server after a handshake: both have the version, the security
type, the shared flag, the size, the format of the pixels to come, the encodings and the
name. The record keeps as much of the name as fits and says when that is not all. -/
structure HandshakeAgreed (offer : Offer) (client : Client) (server : HandshakeServer) : Prop where
  version : client.connInfo.rfbVersion = offer.version ∧ server.version = offer.version
  security : client.connInfo.securityType = .none ∧ server.security = .none
  shared : server.shared = some client.shared
  size : client.connInfo.width = offer.width ∧ client.connInfo.height = offer.height
  screen : client.framebuffer.width = offer.width ∧ client.framebuffer.height = offer.height
  native : client.connInfo.pixelFormat = offer.format
  format : client.framebuffer.format = client.pixelFormat.getD offer.format ∧
    server.format = client.framebuffer.format
  encodings : server.encodings = client.encodings.getD []
  nameLength : client.connInfo.nameLength.toNat = offer.name.length
  name : ∃ rest, client.connInfo.name.bytes = offer.name.take (serverNameMax - 1) ++ 0 :: rest
  truncated : client.connInfo.nameTruncated = decide (serverNameMax - 1 < offer.name.length)

/-- A completed handshake: the client has returned, it has read what the server sent up to
the end of ServerInit, the server has handled all that the client sent, and they agree. -/
structure HandshakeCompleted (offer : Offer) (client : Client)
    (net : Network ClientSide HandshakeServer UInt8) : Prop where
  returned : net.left.routine = .done ()
  unread : net.toLeft = offer.following
  handled : net.toRight = []
  serving : net.right.phase = .messages
  serverSent : net.fromRight = versionString offer.version ++ offer.securityTypes offer.version ++
    Offer.securityResult offer.version ++ offer.serverInit ++ offer.following
  clientSent : net.fromLeft = (opening offer.version).flatten ++ [client.shared] ++
    (initialMessages client).flatMap ClientMessage.encode
  configured : ∃ info framebuffer,
    net.left.memory.client = { client with connInfo := info, framebuffer := framebuffer }
  agreed : HandshakeAgreed offer net.left.memory.client net.right

section Completeness

variable (host : Host) (word : WordSize) (offer : Offer) {memory : Memory} {transport : Transport}

/-- A client about to shake hands with a server. -/
def handshakeStart (memory : Memory) : Network ClientSide HandshakeServer UInt8 where
  left := { routine := handshake word, memory := memory }
  right := offer.server

/-- The initial messages can be read back. -/
theorem initialMessages_encodable {client : Client}
    (few : ∀ encodings, client.encodings = some encodings → encodings.length ≤ 65535) :
    ∀ message ∈ initialMessages client, message.Encodable := by
  intro message member
  rcases List.mem_append.mp member with chosen | chosen
  · obtain ⟨format, -, rfl⟩ := Option.map_eq_some_iff.mp (Option.mem_toList.mp chosen)
    trivial
  · obtain ⟨encodings, kept, rfl⟩ := Option.map_eq_some_iff.mp (Option.mem_toList.mp chosen)
    have bound := few encodings (Option.filter_eq_some_iff.mp kept).1
    exact Nat.lt_succ_of_le bound

/-- What the initial messages change at the server. -/
theorem handle_initialMessages (client : Client) (server : HandshakeServer)
    (fresh : server.encodings = []) :
    (initialMessages client).foldl HandshakeServer.handle server =
      { server with
        format := client.pixelFormat.getD server.format
        encodings := client.encodings.getD [] } := by
  obtain ⟨phase, version, security, shared, format, encodings⟩ := server
  obtain rfl : encodings = [] := fresh
  unfold initialMessages
  cases client.pixelFormat <;> cases client.encodings with
  | none => rfl
  | some encodings => cases encodings <;> rfl

/-- The memory once version and security type are settled. -/
def Memory.negotiated (memory : Memory) (version : RfbVersion) : Memory :=
  memory.withConnInfo { memory.client.connInfo with rfbVersion := version, securityType := .none }

/-- The first three turns lead to ClientInit, and no turn leaves bytes behind. -/
theorem handshake_negotiates (attached : memory.client.transport = some transport) :
    ∃ count, Network.Steps (ClientSide.party host) (HandshakeServer.party offer) count
      (handshakeStart word offer memory)
      { left := ⟨sequence (completeInit word) done, memory.negotiated offer.version, [], 0⟩
        right := offer.secured
        toRight := [memory.client.shared]
        fromLeft := (opening offer.version).flatten ++ [memory.client.shared]
        fromRight := versionString offer.version ++ offer.securityTypes offer.version ++
          Offer.securityResult offer.version } := by
  have announced := run_negotiateVersion host attached offer.known [] [] [] 0
  rw [List.append_nil] at announced
  have selected := @run_negotiateSecurity host (memory.withConnInfo
    { memory.client.connInfo with rfbVersion := offer.version }) transport attached offer
    offer.known [] [] [] 0
  rw [List.append_nil] at selected
  have requested := @run_requestInit host (memory.negotiated offer.version) transport attached rfl
    [] [] 0
  obtain ⟨chosen, versions, selections⟩ := server_secures offer
  obtain ⟨first, greeted⟩ := (server_greets offer).turn
    (ClientSide.advances_of_run host (fun _ => sequence negotiateSecurity (fun _ =>
      sequence requestInit (fun _ => sequence (completeInit word) done))) announced) [] []
  obtain ⟨second, secured⟩ := versions.turn (ClientSide.advances_of_run host (fun _ =>
    sequence requestInit (fun _ => sequence (completeInit word) done)) selected)
    (versionString offer.version) (versionString offer.version)
  obtain ⟨third, settled⟩ := selections.turn (ClientSide.advances_of_run host (fun _ =>
    sequence (completeInit word) done) requested) (opening offer.version).flatten
    (versionString offer.version ++ offer.securityTypes offer.version)
  refine ⟨first + (second + third), ?_⟩
  rw [handshakeStart, handshake_turns]
  exact greeted.trans (secured.trans settled)

/-- The last turn, after which the server handles the initial messages. -/
theorem handshake_alternates (attached : memory.client.transport = some transport)
    (supported : ∀ format, memory.client.pixelFormat = some format → format.Supported)
    (few : ∀ encodings, memory.client.encodings = some encodings → encodings.length ≤ 65535) :
    ∃ total final, HandshakeCompleted offer memory.client final ∧
      Network.Steps (ClientSide.party host) (HandshakeServer.party offer) total
        (handshakeStart word offer memory) final := by
  obtain ⟨earlier, negotiated⟩ := @handshake_negotiates host word offer memory transport attached
  obtain ⟨framebuffer, later, completed, width, height, format⟩ := @run_completeInit host
    (memory.negotiated offer.version) transport word attached offer supported few offer.following
    [] [] 0
  obtain ⟨fourth, initialized⟩ := (server_initializes offer memory.client.shared).turn
    (ClientSide.advances_of_run host done completed)
    ((opening offer.version).flatten ++ [memory.client.shared])
    (versionString offer.version ++ offer.securityTypes offer.version ++
      Offer.securityResult offer.version)
  have handled := @server_handles offer (offer.serving memory.client.shared) rfl _
    (initialMessages_encodable few)
  obtain ⟨fifth, final⟩ := handled.right _ _ _ _
  refine ⟨earlier + (fourth + fifth), _, ?_, negotiated.trans (initialized.trans final)⟩
  have learned := handle_initialMessages memory.client (offer.serving memory.client.shared) rfl
  refine ⟨rfl, List.append_nil _, rfl, congrArg HandshakeServer.phase learned, ?_, rfl,
    ⟨_, framebuffer, rfl⟩, ?_⟩
  · simp only [List.append_nil, List.append_assoc]
  · dsimp only
    rw [learned]
    constructor
    case version => exact ⟨rfl, rfl⟩
    case security => exact ⟨rfl, rfl⟩
    case shared => rfl
    case size => exact ⟨rfl, rfl⟩
    case screen => exact ⟨width, height⟩
    case native => rfl
    case format => exact ⟨format, format.symm⟩
    case encodings => rfl
    case nameLength => exact UInt32.toNat_ofNat_of_lt' offer.nameFits
    case name => exact ⟨_, NameArray.store_terminated _
        (Nat.lt_of_le_of_lt (List.length_take_le _ _) (by decide))⟩
    case truncated => rfl

/-- Neither side moves after a completed handshake. -/
theorem HandshakeCompleted.ended {client : Client} {net : Network ClientSide HandshakeServer UInt8}
    (completed : HandshakeCompleted offer client net) :
    Network.Ended (ClientSide.party host) (HandshakeServer.party offer) net := by
  intro next step
  cases step with
  | left moves =>
    change ClientSide.move host net.left net.toLeft = _ at moves
    rw [ClientSide.move, completed.returned] at moves
    cases moves
  | right moves =>
    change (HandshakeServer.serve offer net.right net.toRight).map _ = _ at moves
    rw [HandshakeServer.serve, completed.serving, completed.handled] at moves
    cases moves

/-- Against every conforming server the handshake completes, in every order of moves:
there is one final state, every schedule gets there, and until then one of the two sides
can move. -/
theorem handshake_completes (attached : memory.client.transport ≠ none)
    (supported : ∀ format, memory.client.pixelFormat = some format → format.Supported)
    (few : ∀ encodings, memory.client.encodings = some encodings → encodings.length ≤ 65535) :
    ∃ total final, HandshakeCompleted offer memory.client final ∧
      Network.Settles (ClientSide.party host) (HandshakeServer.party offer)
        (handshakeStart word offer memory) total final ∧
      ∀ taken net, Network.Steps (ClientSide.party host) (HandshakeServer.party offer) taken
        (handshakeStart word offer memory) net →
        net = final ∨
          ∃ next, Network.Step (ClientSide.party host) (HandshakeServer.party offer) net next := by
  obtain ⟨transport, attached⟩ := Option.ne_none_iff_exists'.mp attached
  obtain ⟨total, final, completed, steps⟩ :=
    handshake_alternates host word offer attached supported few
  have settles := steps.settles (completed.ended host offer)
  exact ⟨total, final, completed, settles, fun taken net reached => settles.progress reached⟩

end Completeness

/-- A server of version 3.8 that prefers another security type, with a name that is too
long to be kept, and that rings the bell at once. -/
def bellOffer : Offer where
  version := .v38
  types := [2, 1]
  width := 1920
  height := 1080
  format := .initDefault
  name := List.replicate 300 65
  following := [2]
  known := by decide
  offersNone := by decide
  count := by decide
  supported := PixelFormat.initDefault_supported
  nameFits := by
    rw [List.length_replicate]
    decide

/-- A client that asks for 16 bits per pixel and for two encodings. -/
def configuredClient : Client :=
  { plainClient {} with
    transport := some ⟨3⟩
    pixelFormat := some { PixelFormat.initDefault with bitsPerPixel := 16, depth := 16 }
    encodings := some [encodingRaw, encodingDesktopSize] }

/-- The handshake of a client with a pixel format, encodings and the shared flag configured
completes, and the network settles in the state that says so. -/
theorem handshake_completes_configured :
    ∃ total final, HandshakeCompleted bellOffer configuredClient final ∧
      Network.Settles (ClientSide.party plainHost) (HandshakeServer.party bellOffer)
        (handshakeStart .bits64 bellOffer ⟨configuredClient, 1, 0⟩) total final ∧
      ∀ taken net, Network.Steps (ClientSide.party plainHost) (HandshakeServer.party bellOffer)
        taken (handshakeStart .bits64 bellOffer ⟨configuredClient, 1, 0⟩) net →
        net = final ∨ ∃ next, Network.Step (ClientSide.party plainHost)
          (HandshakeServer.party bellOffer) net next := by
  apply @handshake_completes plainHost .bits64 bellOffer ⟨configuredClient, 1, 0⟩ (by decide)
  · rintro format chosen
    obtain rfl := Option.some.inj chosen
    decide
  · rintro encodings chosen
    obtain rfl := Option.some.inj chosen
    decide

end OpenVnc
