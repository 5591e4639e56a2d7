import OpenVnc.Properties.HandshakeCompleteness
import OpenVnc.Receiving
import OpenVnc.Sending

/-!
# The server's name

ServerInit ends with a name of any 32-bit length. What exceeds the array is read and dropped in
chunks, so that a connection attempt that returns has received exactly the name before it goes
on. The connection information tells the beginning of the name and its length, and no later
call changes it.
-/

namespace OpenVnc

open Interaction Interaction.Program

/-! ## What is kept of a name -/

/-- The connection information tells of the name: its length, whether it was cut, and as much
of it as the array holds together with a zero byte. -/
structure ConnectionInfo.Names (info : ConnectionInfo) (name : List UInt8) : Prop where
  nameLength : info.nameLength.toNat = name.length
  truncated : info.nameTruncated = true ↔ 255 < name.length
  kept : info.name.bytes.take (min name.length 255) = name.take 255
  terminated : info.name.bytes[min name.length 255]? = some 0

/-- A name and its terminator in the array. -/
theorem ConnectionInfo.named_names {info : ConnectionInfo} {name : List UInt8}
    (counted : info.nameLength.toNat = name.length) :
    (info.named (name.take (serverNameMax - 1)) (decide (serverNameMax - 1 < name.length))).Names
      name := by
  have size : (name.take (serverNameMax - 1)).length = min name.length 255 := by
    rw [List.length_take, Nat.min_comm]
    rfl
  have stored : (info.named (name.take (serverNameMax - 1))
      (decide (serverNameMax - 1 < name.length))).name.bytes =
      name.take (serverNameMax - 1) ++ 0 :: info.name.bytes.drop (min name.length 255 + 1) := by
    have fits : (name.take (serverNameMax - 1)).length < serverNameMax := by
      rw [size]
      simp only [serverNameMax]
      omega
    rw [← size]
    exact NameArray.store_terminated _ fits
  constructor
  case nameLength => exact counted
  case truncated => exact decide_eq_true_iff
  case kept => rw [stored, List.take_left' size]; rfl
  case terminated => rw [stored, List.getElem?_append_right (Nat.le_of_eq size), size]; simp

/-! ## Receiving ServerInit -/

/-- An exchange in which nothing is handed over to be sent. -/
abbrev Unsent (exchange : List Transfer) : Prop := exchange.filterMap Transfer.attempt = []

/-- Receiving sends nothing. -/
theorem unsent_received (chunks : List (List UInt8)) : Unsent (chunks.map .received) := by
  rw [Unsent, List.filterMap_map]
  exact List.filterMap_eq_nil_iff.mpr (fun _ _ => rfl)

section Receiving

variable {memory : Memory}

/-- The loop that skips receives exactly what it is to skip. -/
theorem discardName_transfers (attached : memory.client.transport ≠ none) (skip : Nat) :
    Negotiates Unsent (discardName skip) memory (fun _ exchange final =>
      ∃ chunks : List (List UInt8), exchange = chunks.map .received ∧
        chunks.flatten.length = skip ∧ final = memory) := by
  induction skip using discardName.induct with
  | case1 skip remaining inductionHypothesis =>
    rw [discardName, dif_pos remaining]
    apply Proceeds.sequence (transportRecv_transfers attached rfl (fun _ _ => rfl))
    rintro chunk exchange middle ⟨size, rfl, rfl⟩
    refine inductionHypothesis.weaken (fun _ _ unsent => unsent) ?_
    rintro ⟨⟩ later final ⟨chunks, rfl, skipped, rfl⟩
    refine ⟨chunk :: chunks, rfl, ?_, rfl⟩
    rw [List.flatten_cons, List.length_append, size, skipped]
    omega
  | case2 skip finished =>
    rw [discardName, dif_neg finished]
    exact Proceeds.done ⟨[], rfl, by simp at finished; simp [finished], rfl⟩

/-- A receive into the name array stores its bytes at the start. -/
theorem transportRecvName_transfers (attached : memory.client.transport ≠ none) {len : Nat}
    (room : len ≤ serverNameMax) :
    Negotiates Unsent (transportRecvName len) memory (fun _ exchange final =>
      ∃ bytes : List UInt8, exchange = [.received bytes] ∧ bytes.length = len ∧
        final = memory.withConnInfo { memory.client.connInfo with
          name := memory.client.connInfo.name.store 0 bytes }) := by
  unfold transportRecvName Negotiates Transfers Proceeds
  simp only [bind_eq, wp_sequence, wp_derefTransport, continuing_returned, wp_faultIf, wp_ask]
  refine ⟨fun missing => absurd missing attached, fun _ _ => ⟨fun overrun => ?_, fun _ => ?_⟩⟩
  · exact absurd room (Nat.not_le.mpr overrun)
  · refine ⟨rfl, fun answer allowed => ?_⟩
    cases answer with
    | complete bytes => exact ⟨bytes, rfl, allowed, rfl⟩
    | stopped received error => exact rfl

/-- Terminating the name stores its zero inside the array and transfers nothing. -/
theorem terminateName_transfers {index : Nat} (room : index < serverNameMax) (truncated : Bool) :
    Negotiates Unsent (terminateName index truncated) memory (fun _ exchange final =>
      exchange = [] ∧ final = memory.withConnInfo { memory.client.connInfo with
        name := memory.client.connInfo.name.store index [0], nameTruncated := truncated }) :=
  Proceeds.faultIf (fun overrun => absurd room (Nat.not_lt.mpr overrun))
    (fun _ => Proceeds.update ⟨rfl, rfl⟩)

/-- The whole name is received, and the beginning that fits is kept. -/
theorem receiveName_transfers (attached : memory.client.transport ≠ none) (nameLen : Nat) :
    Negotiates Unsent (receiveName nameLen) memory (fun _ exchange final =>
      ∃ chunks : List (List UInt8), exchange = chunks.map .received ∧
        chunks.flatten.length = nameLen ∧
        final = memory.withConnInfo (memory.client.connInfo.named
          (chunks.flatten.take (serverNameMax - 1)) (decide (serverNameMax - 1 < nameLen)))) := by
  unfold receiveName
  apply Proceeds.ite
  · intro some
    apply Proceeds.ite
    · intro long
      apply Proceeds.sequence (transportRecvName_transfers attached (by decide))
      rintro ⟨⟩ exchange middle ⟨kept, rfl, size, rfl⟩
      apply Proceeds.sequence (terminateName_transfers (by decide) true)
      rintro ⟨⟩ exchange middle ⟨rfl, rfl⟩
      refine (discardName_transfers (by exact attached) _).weaken (fun _ _ unsent => unsent) ?_
      rintro ⟨⟩ exchange final ⟨chunks, rfl, skipped, rfl⟩
      have first : (kept :: chunks).flatten.take (serverNameMax - 1) = kept :=
        List.take_left' size
      refine ⟨kept :: chunks, rfl, ?_, ?_⟩
      · rw [List.flatten_cons, List.length_append, size, skipped]
        omega
      · rw [first, ConnectionInfo.named, size, decide_eq_true long]
        rfl
    · intro short
      have room : nameLen < serverNameMax := by
        simp only [serverNameMax] at short ⊢
        omega
      apply Proceeds.sequence (transportRecvName_transfers attached (Nat.le_of_lt room))
      rintro ⟨⟩ exchange middle ⟨kept, rfl, size, rfl⟩
      refine (terminateName_transfers room false).weaken (fun _ _ unsent => unsent) ?_
      rintro ⟨⟩ exchange final ⟨rfl, rfl⟩
      have whole : [kept].flatten.take (serverNameMax - 1) = kept := by
        rw [List.flatten_singleton]
        exact List.take_of_length_le (size ▸ Nat.not_lt.mp short)
      refine ⟨[kept], rfl, by rw [List.flatten_singleton, size], ?_⟩
      rw [whole, ConnectionInfo.named, size, decide_eq_false short]
      rfl
  · intro empty
    apply (terminateName_transfers (by decide) false).returning
    rintro ⟨⟩ exchange final ⟨rfl, rfl⟩
    refine ⟨[], rfl, by simp at empty; simp [empty], ?_⟩
    rw [List.flatten_nil, List.take_nil, ConnectionInfo.named, NameArray.store_nil,
      decide_eq_false (by simp only [serverNameMax]; omega)]
    rfl

/-- What the client has received of a ServerInit: the fixed part, then the whole name, from
which the connection information is filled. -/
inductive ServerInitRead : List Transfer → ConnectionInfo → Prop where
  | read {header : List UInt8} {chunks : List (List UInt8)} {info : ConnectionInfo}
      (fixed : header.length = 24)
      (whole : chunks.flatten.length = (readU32 (header.drop 20)).toNat)
      (width : info.width = readU16 header) (height : info.height = readU16 (header.drop 2))
      (format : info.pixelFormat = PixelFormat.fromWire (header.drop 4))
      (names : info.Names chunks.flatten) :
      ServerInitRead (.received header :: chunks.map .received) info

/-- Reading ServerInit only receives. -/
theorem ServerInitRead.unsent {exchange : List Transfer} {info : ConnectionInfo}
    (read : ServerInitRead exchange info) : Unsent exchange := by
  cases read
  exact unsent_received _

/-- ServerInit is received whole before the framebuffer is set up, for which nothing is. -/
theorem receiveServerInit_transfers (word : WordSize) (attached : memory.client.transport ≠ none) :
    Negotiates Unsent (receiveServerInit word) memory (fun _ exchange final =>
      ServerInitRead exchange final.client.connInfo ∧ final.standing = memory.standing) := by
  apply Proceeds.sequence (transportRecv_transfers attached rfl (fun _ _ => rfl))
  rintro header exchange middle ⟨fixed, rfl, rfl⟩
  apply Proceeds.update_then
  refine Proceeds.sequence ((receiveName_transfers (by exact attached) _).weaken
    (fun _ _ unsent => unsent) (fun _ _ _ => id)) ?_
  rintro ⟨⟩ exchange named ⟨chunks, rfl, whole, rfl⟩
  have silent : Keeps Allowed Memory.settled (fun event => transfer event = none)
      (fun _ _ => False) (initFramebuffer word) :=
    initFramebuffer_keeps (fun _ _ => rfl) (fun _ _ _ => rfl) (fun _ _ _ => rfl) word
  refine (Proceeds.of_keeps silent (fun _ faulted => faulted) (fun _ => ?_)).returning ?_
  · rw [List.append_nil]
    exact unsent_received chunks
  · rintro ⟨⟩ exchange final ⟨rfl, same⟩
    refine ⟨?_, congrArg Prod.fst same⟩
    rw [List.append_nil, show final.client.connInfo = _ from congrArg Prod.snd same]
    exact .read fixed whole rfl rfl rfl (whole ▸ ConnectionInfo.named_names whole.symm)

end Receiving

/-! ## The messages after it -/

/-- The buffer of a configured format. -/
def Standing.formatBuffers (standing : Standing) : List (List UInt8) :=
  (standing.pixelFormat.map (fun fmt => [0] ++ [0, 0, 0] ++ fmt.toWire)).toList

/-- The buffer of configured encodings. -/
def Standing.encodingBuffers (standing : Standing) : List (List UInt8) :=
  ((standing.encodings.filter (fun encodings => encodings.length > 0)).map
    setEncodingsBuffer).toList

/-- The size of the buffer for configured encodings does not wrap. -/
def Standing.EncodingsFit (standing : Standing) (word : WordSize) : Prop :=
  ∀ encodings, standing.encodings = some encodings → 4 + 4 * encodings.length < word.modulus

/-- The one fault of a handshake. -/
def MessageOverrun (standing : Standing) (word : WordSize) (fault : Fault) : Prop :=
  fault = .outOfBounds .message ∧ ¬ standing.EncodingsFit word

section Initial

variable {memory : Memory}

/-- A pixel format that is configured goes out as SetPixelFormat, and without one nothing is sent.
-/
theorem sendInitialFormat_transfers {tolerated : Fault → Prop}
    (attached : memory.client.transport ≠ none) :
    Transfers tolerated
      (fun _ exchange => exchange.filterMap Transfer.attempt <+: memory.standing.formatBuffers)
      (onSome memory.client.pixelFormat sendSetPixelFormat) memory (fun _ exchange final =>
        exchange = memory.standing.formatBuffers.map .sent ∧ final = memory) := by
  rw [Standing.formatBuffers, show memory.standing.pixelFormat = memory.client.pixelFormat from rfl]
  cases memory.client.pixelFormat with
  | none => exact Proceeds.done ⟨rfl, rfl⟩
  | some format =>
    refine (transportSend_transfers (fun missing => absurd missing attached) List.nil_prefix
      (fun _ _ _ => List.prefix_rfl)).returning ?_
    rintro ⟨⟩ exchange final ⟨rfl, rfl⟩
    exact ⟨rfl, rfl⟩

/-- Encodings that are configured go out as SetEncodings, and an empty list or none is not sent.
-/
theorem sendInitialEncodings_transfers (word : WordSize)
    (attached : memory.client.transport ≠ none) :
    Transfers (MessageOverrun memory.standing word)
      (fun _ exchange => exchange.filterMap Transfer.attempt <+: memory.standing.encodingBuffers)
      (onSome memory.client.encodings (fun encodings =>
        onlyIf (encodings.length > 0) (sendSetEncodings word encodings))) memory
      (fun _ exchange final =>
        exchange = memory.standing.encodingBuffers.map .sent ∧ final = memory) := by
  have overruns (encodings : List EncodingType)
      (configured : memory.client.encodings = some encodings)
      (small : word.wrap (4 + 4 * encodings.length) < 4 + 4 * encodings.length) :
      MessageOverrun memory.standing word (.outOfBounds .message) := by
    refine ⟨rfl, fun fits => ?_⟩
    rw [WordSize.wrap_of_lt (fits encodings configured)] at small
    exact absurd small (Nat.lt_irrefl _)
  rw [Standing.encodingBuffers, show memory.standing.encodings = memory.client.encodings from rfl]
  cases configured : memory.client.encodings with
  | none => exact Proceeds.done ⟨rfl, rfl⟩
  | some encodings =>
    apply Proceeds.onlyIf
    · intro listed
      rw [show (some encodings).filter (fun encodings => encodings.length > 0) = some encodings by
        simpa using listed]
      refine (sendSetEncodings_transfers word encodings (fun missing => absurd missing attached)
        (overruns encodings configured)).weaken ?_ (fun _ _ _ => id)
      rintro reason exchange (rfl | interrupted)
      · exact List.nil_prefix
      · exact interrupted.attempts
    · intro unlisted
      rw [show (some encodings).filter (fun encodings => encodings.length > 0) = none by
        simpa using unlisted]
      exact ⟨rfl, rfl⟩

/-- The initial messages are the configured format and the configured encodings, in this order.
Where sending stops, the buffers handed over so far are a beginning of them. -/
theorem sendInitialMessages_transfers (word : WordSize)
    (attached : memory.client.transport ≠ none) :
    Transfers (MessageOverrun memory.standing word)
      (fun _ exchange => exchange.filterMap Transfer.attempt <+:
        memory.standing.formatBuffers ++ memory.standing.encodingBuffers)
      (sendInitialMessages word) memory (fun _ exchange final =>
        exchange = (memory.standing.formatBuffers ++ memory.standing.encodingBuffers).map .sent ∧
          final = memory) := by
  apply Proceeds.load
  refine Proceeds.sequence ((sendInitialFormat_transfers attached).weaken
    (fun _ _ begun => begun.trans (List.prefix_append _ _)) (fun _ _ _ => id)) ?_
  rintro ⟨⟩ exchange middle ⟨rfl, rfl⟩
  refine (sendInitialEncodings_transfers word attached).weaken (fun _ later begun => ?_) ?_
  · rw [List.filterMap_append, attempts_sent]
    exact (List.prefix_append_right_inj _).mpr begun
  · rintro ⟨⟩ later final ⟨rfl, rfl⟩
    exact ⟨List.map_append.symm, rfl⟩

end Initial

/-! ## A whole connection attempt -/

/-- What a handshake that returns has exchanged: an admitted exchange, ClientInit, ServerInit,
and the configured messages. -/
inductive Shaken (standing : Standing) : List Transfer → ConnectionInfo → Prop where
  | shaken {version : RfbVersion} {gate received : List Transfer} {info : ConnectionInfo}
      (known : version ≠ .unset) (admitted : Admitted version gate)
      (read : ServerInitRead received info) :
      Shaken standing (gate ++ .sent [standing.shared] :: (received ++
        (standing.formatBuffers ++ standing.encodingBuffers).map .sent)) info

/-- What a handshake that stops has handed over is a beginning of what it would have. -/
def ShakenPartly (standing : Standing) (exchange : List Transfer) : Prop :=
  ∃ version, version ≠ .unset ∧ exchange.filterMap Transfer.attempt <+:
    opening version ++ [standing.shared] :: (standing.formatBuffers ++ standing.encodingBuffers)

/-- Nothing more than what a handshake sends at first. -/
theorem Opens.shakenPartly {exchange : List Transfer} (opens : Opens exchange)
    (standing : Standing) : ShakenPartly standing exchange := by
  obtain ⟨version, known, begun⟩ := opens
  exact ⟨version, known, begun.trans (List.prefix_append _ _)⟩

/-- `ovnc__handshake` on an open connection. -/
theorem handshake_transfers (word : WordSize) {memory : Memory}
    (attached : memory.client.transport ≠ none) :
    Transfers (MessageOverrun memory.standing word) (fun _ => ShakenPartly memory.standing)
      (handshake word) memory (fun _ exchange final =>
        Shaken memory.standing exchange final.client.connInfo ∧
          final.standing = memory.standing) := by
  have stillAttached {middle : Memory} (same : middle.standing = memory.standing) :
      middle.client.transport ≠ none := by
    rw [show middle.client.transport = memory.client.transport from
      congrArg Standing.transport same]
    exact attached
  rw [handshake_eq]
  refine Proceeds.sequence (((securityHandshake_negotiates attached).tolerating
    (fun _ => False.elim)).weaken (fun _ _ opens => opens.shakenPartly _) (fun _ _ _ => id)) ?_
  rintro ⟨⟩ gate opened ⟨⟨version, known, admitted⟩, same⟩
  have shared : opened.client.shared = memory.standing.shared := congrArg Standing.shared same
  -- From here on the opening has been sent.
  have within {later : List Transfer} (begun : later.filterMap Transfer.attempt <+:
      [memory.standing.shared] ::
        (memory.standing.formatBuffers ++ memory.standing.encodingBuffers)) :
      ShakenPartly memory.standing (gate ++ later) := by
    refine ⟨version, known, ?_⟩
    rw [List.filterMap_append, admitted.attempts]
    exact (List.prefix_append_right_inj _).mpr begun
  apply Proceeds.load
  refine Proceeds.sequence ((transportSend_transfers (fun missing => absurd missing
    (stillAttached same)) (within List.nil_prefix) (fun _ _ _ => within ?_))) ?_
  · rw [shared]
    exact List.cons_prefix_cons.mpr ⟨rfl, List.nil_prefix⟩
  rintro ⟨⟩ exchange announced ⟨rfl, rfl⟩
  rw [shared]
  have begins {later : List Transfer} (begun : later.filterMap Transfer.attempt <+:
      memory.standing.formatBuffers ++ memory.standing.encodingBuffers) :
      ShakenPartly memory.standing (gate ++ ([.sent [memory.standing.shared]] ++ later)) :=
    within (List.cons_prefix_cons.mpr ⟨rfl, begun⟩)
  refine Proceeds.sequence (((receiveServerInit_transfers word (stillAttached same)).tolerating
    (fun _ => False.elim)).weaken (fun _ later unsent => begins ?_) (fun _ _ _ => id)) ?_
  · rw [unsent]
    exact List.nil_prefix
  rintro ⟨⟩ received initialized ⟨read, same'⟩
  have standing := same'.trans same
  have sends := sendInitialMessages_transfers word (stillAttached standing)
  rw [standing] at sends
  refine sends.weaken (fun _ later begun => begins ?_) ?_
  · rw [List.filterMap_append, read.unsent]
    exact begun
  · rintro ⟨⟩ sent final ⟨rfl, rfl⟩
    exact ⟨.shaken known admitted read, standing⟩

/-- How a handshake ends. -/
def ShakenEnd (standing : Standing) (word : WordSize) (exchange : List Transfer) :
    Outcome Error Fault Unit → Memory → Prop
  | .returned (), final => Shaken standing exchange final.client.connInfo
  | .failed _, _ | .waiting, _ => ShakenPartly standing exchange
  | .faulted fault, _ => MessageOverrun standing word fault

/-- A connection attempt that returns has shaken hands, and tells of the server's name. It
overruns at most the buffer of a message, and has otherwise begun to shake hands. -/
theorem clientConnect_transfers (word : WordSize) (memory : Memory) :
    Transfers (MessageOverrun memory.standing word) (fun _ => ShakenPartly memory.standing)
      (clientConnect word) memory (fun _ exchange final =>
        Shaken memory.standing exchange final.client.connInfo ∧
          final.client.state = .connected) := by
  have shakes (middle : Memory) (dialled : memory.Dialled middle) :
      Transfers (MessageOverrun memory.standing word) (fun _ => ShakenPartly memory.standing)
        (handshake word) middle (fun _ exchange final =>
          Shaken memory.standing exchange final.client.connInfo) := by
    have shaken := handshake_transfers word dialled.attached
    obtain ⟨sock, count, same⟩ := dialled
    rw [same] at shaken
    refine shaken.returning (fun _ exchange final held => ?_)
    obtain ⟨known, admitted, read⟩ := held.1
    exact .shaken known admitted read
  apply wp_mono (@clientConnect_exchanges (ShakenEnd memory.standing word) word memory
    (fun middle dialled => wp_mono (shakes middle dialled) (fun events outcome final ended => by
      cases outcome <;> exact ended)))
  rintro events outcome final (⟨unseen, ended⟩ | ⟨ended, middle, shaken, attempted⟩)
  · have begun : ShakenPartly memory.standing (transfers events) := by
      rw [unseen]
      exact ⟨.v33, by decide, List.nil_prefix⟩
    rcases ended with rfl | ⟨error, rfl⟩ <;> exact begun
  · cases attempted with
    | returned => exact ⟨shaken, rfl⟩
    | failed => exact shaken
    | abandoning => exact shaken
    | faulted => exact shaken
    | waiting => exact shaken

/-! ## What later calls leave alone -/

/-- What `ovnc_client_get_connection_info` looks at. -/
def Memory.told (memory : Memory) : ConnectionInfo × Bool :=
  (memory.client.connInfo, decide (memory.client.state = .created))

/-- Hanging up changes neither the connection info nor whether the client has ever connected. -/
theorem hungUp_told (memory : Memory) : memory.hungUp.told = memory.told := by
  unfold Memory.hungUp Memory.told
  split
  · next connected => simp [connected]
  · rfl

/-- Every call but `ovnc_client_connect`, on any client. -/
theorem perform_told (word : WordSize) (bound : Nat) {call : ApiCall} (other : call ≠ .connect) :
    Keeps Allowed Memory.told (fun _ => True) (fun _ _ => True) (perform word bound call) := by
  have disregards : Disregards Memory.told (fun _ => True) (fun _ _ => True) := by
    constructor
    case hung => exact hungUp_told
    case missing => exact fun _ _ => trivial
    all_goals intros; trivial
  have resizes (rect : Rect) : Keeps Allowed Memory.told (fun _ => True) (fun _ _ => True)
      (decodeDesktopSize word rect) :=
    disregards.decodeDesktopSize (fun _ _ => rfl) (fun _ _ _ _ => trivial) word rect
  cases sends : call.sends with
  | false => exact disregards.messages resizes (perform_messages word bound other sends)
  | true =>
    apply perform_transmits _ word bound sends
    · exact fun format _ => adoptPixelFormat_keeps (fun _ _ _ _ => rfl)
        (callAllocFramebuffer_keeps (fun _ _ _ => trivial) (fun _ _ => rfl))
        (fun _ _ _ _ _ => trivial) word format
    · exact ⟨fun _ _ _ => trivial, fun _ _ _ => trivial, fun _ _ => trivial, fun _ _ => trivial⟩

/-- What a client that has once connected tells, it tells for good. -/
theorem connInfo_stays {word : WordSize} {process process' : Process} {handle : Nat}
    {history : List Process.Action} {client client' : Client}
    (live : process.client? handle = some client) (used : client.state ≠ .created)
    (ran : Run (Process.Transition word Allowed) process history process')
    (survives : process'.client? handle = some client') :
    clientGetConnectionInfo client' = .ok client.connInfo := by
  have kept (bound : Nat) (call : ApiCall) (memory : Memory) (events : List Step)
      (outcome : Outcome Error Fault Unit) (final : Memory)
      (held : memory.client.state ≠ .created ∧ memory.client.connInfo = client.connInfo)
      (performed : Execution Allowed (perform word bound call) memory events outcome final) :
      final.client.state ≠ .created ∧ final.client.connInfo = client.connInfo := by
    by_cases connecting : call = .connect
    · subst connecting
      obtain ⟨-, -, rfl⟩ := (wp_iff _ _ _).mp (clientConnect_refused word held.1) _ _ _ performed
      exact held
    · obtain ⟨told, -⟩ := (wp_iff _ _ _).mp (perform_told word bound connecting memory) _ _ _
        performed
      obtain ⟨info, state⟩ := Prod.mk.inj told
      exact ⟨fun created => held.1 (by simpa [created] using state), info.trans held.2⟩
  obtain ⟨state, info⟩ := Process.later_client
    (fun later => later.state ≠ .created ∧ later.connInfo = client.connInfo)
    (fun bound call memory events outcome final held performed _ =>
      kept bound call memory events outcome final held performed) ran live ⟨used, rfl⟩ survives
  rw [clientGetConnectionInfo, if_neg state, info]

/-- A connection attempt that returns has received ServerInit with the whole name, and nothing
after it; the client tells of that name in every later state, whatever is called on any client
and whatever the servers send. No attempt stores outside the name array. -/
theorem serverName_told (word : WordSize) {process process' : Process} {handle : Nat}
    {events : List Step}
    (connected : Process.Transition word Allowed process (.called handle .connect events (.ok ()))
      process') :
    (∃ client info, process.client? handle = some client ∧
      Shaken (process.memoryOf client).standing (transfers events) info ∧
      ∀ history later, Run (Process.Transition word Allowed) process' history later →
        ∀ client', later.client? handle = some client' →
          clientGetConnectionInfo client' = .ok info) ∧
    ∀ memory events outcome final, Execution Allowed (clientConnect word) memory events outcome
      final → outcome ≠ .faulted (.outOfBounds .name) := by
  constructor
  · cases connected with
    | @returned _ client _ _ _ final live performed =>
      obtain ⟨shaken, state⟩ := (wp_iff _ _ _).mp
        (clientConnect_transfers word (process.memoryOf client)) _ _ _ performed
      have stored : Process.client? ⟨process.clients.set handle (some final.client),
          final.platformInitCount⟩ handle = some final.client := by
        rw [Process.client?_set _ _ process.platformInitCount,
          if_pos ⟨rfl, Process.client?_lt live⟩]
      refine ⟨client, final.client.connInfo, live, shaken, fun history later ran client' survives =>
        connInfo_stays stored ?_ ran survives⟩
      rw [state]
      decide
  · rintro memory events outcome final executed rfl
    have overrun : MessageOverrun memory.standing word (.outOfBounds .name) :=
      (wp_iff _ _ _).mp (clientConnect_transfers word memory) _ _ _ executed
    exact absurd overrun.1 (by decide)

/-- A server of version 3.3 whose name has three letters. -/
def namedGreeting : List UInt8 :=
  versionString .v33 ++ writeU32 1 ++ (writeU16 2 ++ writeU16 1 ++ PixelFormat.initDefault.toWire ++
    writeU32 3) ++ [118, 110, 99]

/-- A server that calls itself `vnc` is told under this name, with the terminating zero and no
truncation. -/
theorem serverName_told_letters : ∃ events process' client info,
    Process.Transition .bits64 Allowed ⟨[some (plainClient {})], 0⟩
      (.called 0 .connect events (.ok ())) process' ∧
    process'.client? 0 = some client ∧ clientGetConnectionInfo client = .ok info ∧
    info.nameLength = 3 ∧ info.nameTruncated = false ∧ info.name.bytes.take 4 = [118, 110, 99, 0] ∧
    ∃ standing, Shaken standing (transfers events) info := by
  have executed := run_execution plainHost.feed Allowed plainHost_allowed (clientConnect .bits64)
    ⟨plainClient {}, 0, 0⟩ { unread := namedGreeting }
  have returned : ((clientConnect .bits64).run plainHost.feed ⟨plainClient {}, 0, 0⟩
      { unread := namedGreeting }).1 = .returned () := by decide
  rw [returned] at executed
  have transition : Process.Transition .bits64 Allowed ⟨[some (plainClient {})], 0⟩
      (.called 0 .connect _ (.ok ())) _ :=
    @Process.Transition.returned _ _ _ 0 _ .connect 0 _ _ rfl executed
  obtain ⟨⟨client, info, -, shaken, tells⟩, -⟩ := serverName_told .bits64 transition
  have told := tells [] _ .nil _ rfl
  refine ⟨_, _, _, info, transition, rfl, told, ?_⟩
  obtain rfl := Except.ok.inj told
  exact ⟨by decide, by decide, by decide, _, shaken⟩

end OpenVnc
