import OpenVnc.Calls
import OpenVnc.Feed
import OpenVnc.Interaction.Couplings
import OpenVnc.Interaction.Runs

/-!
# Connecting again after a failure

A failed `ovnc_client_connect` leaves the connection information and the framebuffer record
as far as the handshake had filled them in, and nothing else behind. The next attempt writes
each of their fields before it reads it, so it is coupled with the same attempt on a fresh
client: what the two records agree on grows with the handshake, field by field.
-/

namespace OpenVnc

open Interaction Interaction.Program

/-- The text of a name: the bytes before the first NUL. -/
def NameArray.text (name : NameArray) : List UInt8 := name.bytes.takeWhile (fun byte => byte ≠ 0)

/-- The connection informations are equal but for the name and its truncation flag. -/
structure ConnectionInfo.SameHeader (left right : ConnectionInfo) : Prop where
  rfbVersion : left.rfbVersion = right.rfbVersion
  securityType : left.securityType = right.securityType
  width : left.width = right.width
  height : left.height = right.height
  pixelFormat : left.pixelFormat = right.pixelFormat
  nameLength : left.nameLength = right.nameLength

/-- The connection informations are equal, the names up to their terminators. -/
structure ConnectionInfo.Alike (left right : ConnectionInfo) : Prop where
  header : left.SameHeader right
  name : left.name.text = right.name.text
  nameTruncated : left.nameTruncated = right.nameTruncated

/-- The clients are equal up to the connection information and the framebuffer, whose
storage is the library's. -/
inductive SameClient : Memory → Memory → Prop
  | intro (client : Client) (info : ConnectionInfo) (framebuffer : Framebuffer)
      (count count' : Int) (pending pending' : Nat)
      (plain : client.callbacks.allocFramebuffer = false) :
      SameClient ⟨client, count, pending⟩
        ⟨{ client with connInfo := info, framebuffer := framebuffer }, count', pending'⟩

/-- Coupled from two clients that are equal but for what a failed attempt leaves. -/
abbrev Repeats {α : Type} (before : Memory → Memory → Prop) (after : α → Memory → Memory → Prop)
    (routine : Routine α) : Prop :=
  Couples Allowed SameClient before after routine

/-- Whatever the two memories agree on, they still agree on afterwards. -/
abbrev RepeatsKeeping {α : Type} (agree : Memory → Memory → Prop) (routine : Routine α) : Prop :=
  Repeats agree (fun _ => agree) routine

section Steps

variable {agree : Memory → Memory → Prop}

/-- A change of the connection information runs the same from both memories, and makes of what
agrees before it what agrees after it. -/
theorem modifyConnInfo_repeats {change : ConnectionInfo → ConnectionInfo}
    (agree' : Memory → Memory → Prop)
    (holds : ∀ left right, agree left right →
      agree' (left.withConnInfo (change left.client.connInfo))
        (right.withConnInfo (change right.client.connInfo))) :
    Repeats agree (fun _ => agree') (modifyConnInfo change) := by
  apply Couples.update
  · rintro _ _ ⟨client, info, framebuffer, count, count', pending, pending', plain⟩ _
    exact .intro { client with connInfo := change client.connInfo } (change info) framebuffer
      count count' pending pending' plain
  · intro left right _ starts
    exact holds left right starts

/-- So does a change of the framebuffer record. -/
theorem modifyFramebuffer_repeats {change : Framebuffer → Framebuffer}
    (agree' : Memory → Memory → Prop)
    (holds : ∀ left right, agree left right →
      agree' { left with client := { left.client with
          framebuffer := change left.client.framebuffer } }
        { right with client := { right.client with
          framebuffer := change right.client.framebuffer } }) :
    Repeats agree (fun _ => agree') (modifyFramebuffer change) := by
  apply Couples.update
  · rintro _ _ ⟨client, info, framebuffer, count, count', pending, pending', plain⟩ _
    exact .intro { client with framebuffer := change client.framebuffer } info (change framebuffer)
      count count' pending pending' plain
  · intro left right _ starts
    exact holds left right starts

/-- Both memories have the same transport, so dereferencing it runs the same. -/
theorem derefTransport_repeats : RepeatsKeeping agree derefTransport := by
  apply Couples.load
  · rintro _ _ ⟨client, info, framebuffer, count, count', pending, pending', plain⟩ _
    rfl
  · intro left right _ _
    cases left.client.transport with
    | none => exact .fault Fault.nullTransport
    | some transport => exact .done transport (fun _ _ _ starts => starts)

/-- A receive runs the same from both memories and changes neither. -/
theorem transportRecv_repeats (len : Nat) : RepeatsKeeping agree (transportRecv len) := by
  apply derefTransport_repeats.sequence
  intro _
  apply (Couples.asked (Request.recv len)).sequence
  intro answer
  cases answer with
  | complete bytes => exact .done bytes (fun _ _ _ starts => starts)
  | stopped received error => exact .fail error

/-- So does a send. -/
theorem transportSend_repeats (data : List UInt8) :
    RepeatsKeeping agree (transportSend data) := by
  apply derefTransport_repeats.sequence
  intro _
  apply (Couples.asked (Request.send data)).sequence
  intro answer
  cases answer with
  | complete => exact .done () (fun _ _ _ starts => starts)
  | stopped written error => exact .fail error

/-- The library's allocator is asked for the same size from both. -/
theorem callocPixels_repeats (size : Nat) : RepeatsKeeping agree (callocPixels size) := by
  apply (Couples.asked _).sequence
  intro id
  exact .done _ (fun _ _ _ starts => starts)

/-- Reading the reason fails in both or in neither; nothing follows it but an error. -/
theorem readFailureReason_repeats :
    Repeats agree (fun _ _ _ => True) readFailureReason := by
  have ended : ∀ before len, Repeats before (fun _ _ _ => True) (attempt (transportRecv len)) :=
    fun before len => (transportRecv_repeats len).attempt.weaken (fun _ _ _ starts => starts)
      (fun _ _ _ _ _ => trivial)
  apply (ended agree 4).sequence
  intro lenBuf
  cases lenBuf with
  | error error => exact .done error (fun _ _ _ _ => trivial)
  | ok lenBuf =>
    apply Couples.sequence
    case begins =>
      apply Couples.onlyIf
      apply (Couples.asked _).sequence
      intro tmp
      apply Couples.onlyIf
      apply (ended _ _).sequence
      intro _
      exact .done () (fun _ _ _ _ => trivial)
    case continues =>
      intro _
      exact .done Error.connectionRefused (fun _ _ _ _ => trivial)

end Steps

/-! ## The handshake

The connection informations agree in one more field after each stage. -/

/-- The connection informations of the two memories are related. -/
def InfoAgree (relation : ConnectionInfo → ConnectionInfo → Prop) (left right : Memory) : Prop :=
  relation left.client.connInfo right.client.connInfo

/-- The same protocol version. -/
def SameVersion (left right : ConnectionInfo) : Prop := left.rfbVersion = right.rfbVersion

/-- The same protocol version and security type. -/
def SameSecurity (left right : ConnectionInfo) : Prop :=
  SameVersion left right ∧ left.securityType = right.securityType

/-- The same header, and the first bytes of the names. -/
def SamePrefix (len : Nat) (left right : ConnectionInfo) : Prop :=
  left.SameHeader right ∧ left.name.bytes.take len = right.name.bytes.take len

/-- Any version that the server sends is recorded in both. -/
theorem negotiateVersion_repeats :
    Repeats (fun _ _ => True) (fun _ => InfoAgree SameVersion) negotiateVersion := by
  apply (transportRecv_repeats 12).sequence
  intro buf
  apply (Couples.failIf _ _).sequence
  intro _
  apply (Couples.failIf _ _).sequence
  intro _
  apply Couples.sequence
  case begins =>
    apply modifyConnInfo_repeats (InfoAgree SameVersion)
    intro left right _
    rfl
  case continues =>
    intro _
    exact transportSend_repeats _

/-- The security type is recorded in both. -/
theorem recordSecurity_repeats (securityType : SecurityType) :
    Repeats (InfoAgree SameVersion) (fun _ => InfoAgree SameSecurity)
      (recordSecurity securityType) := by
  apply modifyConnInfo_repeats
  intro left right same
  exact ⟨same, rfl⟩

/-- `negotiate_security` looks at the version only, which is the same; afterwards the security
type is the same as well. -/
theorem negotiateSecurity_repeats :
    Repeats (InfoAgree SameVersion) (fun _ => InfoAgree SameSecurity) negotiateSecurity := by
  apply Couples.load
  · intro left right _ same
    dsimp only
    rw [show left.client.connInfo.rfbVersion = right.client.connInfo.rfbVersion from same]
  · intro left right _ _
    apply Couples.ite
    · intro _
      apply (transportRecv_repeats 4).sequence
      intro buf
      apply Couples.ite
      · intro _
        apply readFailureReason_repeats.sequence
        intro error
        exact .fail error
      · intro _
        apply (Couples.failIf _ _).sequence
        intro _
        exact recordSecurity_repeats .none
    · intro _
      apply (transportRecv_repeats 1).sequence
      intro countBuf
      apply Couples.ite
      · intro _
        apply readFailureReason_repeats.sequence
        intro error
        exact .fail error
      · intro _
        apply (Couples.asked _).sequence
        intro allocated
        apply (Couples.failIf _ _).sequence
        intro _
        apply (transportRecv_repeats _).sequence
        intro types
        apply (Couples.failIf _ _).sequence
        intro _
        apply (transportSend_repeats _).sequence
        intro _
        exact recordSecurity_repeats .none

/-- `check_security_result` looks at the version only. -/
theorem checkSecurityResult_repeats :
    RepeatsKeeping (InfoAgree SameSecurity) checkSecurityResult := by
  apply Couples.load
  · intro left right _ same
    rw [show left.client.connInfo.rfbVersion = right.client.connInfo.rfbVersion from same.1,
      show left.client.connInfo.securityType = right.client.connInfo.securityType from same.2]
  · intro left right _ _
    apply Couples.ite
    · intro _
      apply (transportRecv_repeats 4).sequence
      intro buf
      apply Couples.onlyIf
      apply readFailureReason_repeats.sequence
      intro _
      exact .fail Error.authFailed
    · intro _
      apply Couples.onlyIf
      apply (transportRecv_repeats 4).sequence
      intro buf
      exact .failIf _ _

/-- ServerInit sets every field but those of the name. -/
theorem recordServerInit_repeats (header : List UInt8) :
    Repeats (InfoAgree SameSecurity) (fun _ => InfoAgree ConnectionInfo.SameHeader)
      (recordServerInit header) := by
  apply modifyConnInfo_repeats
  rintro left right ⟨version, security⟩
  exact ⟨version, security, rfl, rfl, rfl, rfl⟩

/-- A name that was received is the same at the start of both arrays. -/
theorem transportRecvName_repeats (len : Nat) :
    Repeats (InfoAgree ConnectionInfo.SameHeader) (fun _ => InfoAgree (SamePrefix len))
      (transportRecvName len) := by
  apply derefTransport_repeats.sequence
  intro _
  apply (Couples.faultIf _ _).sequence
  intro _
  apply (Couples.ask (Request.recv len)).sequence
  intro answer
  cases answer with
  | complete bytes =>
    apply modifyConnInfo_repeats
    rintro left right ⟨size, inside, version, security, width, height, format, length⟩
    constructor
    · exact ⟨version, security, width, height, format, length⟩
    · have size : bytes.length = len := size
      have starts : ∀ name : NameArray, (name.store 0 bytes).bytes.take len = bytes := by
        intro name
        rw [NameArray.store, dif_pos (by omega)]
        simp [overwrite, ← size]
      exact (starts left.client.connInfo.name).trans (starts right.client.connInfo.name).symm
  | stopped received error =>
    apply Couples.sequence
    case middle => exact fun _ _ _ => True
    case begins => exact modifyConnInfo_repeats _ (fun _ _ _ => trivial)
    case continues =>
      intro _
      exact .fail error

/-- Behind the terminator nothing of an array belongs to its text. -/
theorem NameArray.text_terminated {left right : NameArray} {index : Nat}
    (inside : index < serverNameMax) (same : left.bytes.take index = right.bytes.take index) :
    (left.store index [0]).text = (right.store index [0]).text := by
  have cut : ∀ name : NameArray, (name.store index [0]).text =
      ((name.bytes.take index) ++ [0]).takeWhile (fun byte => byte ≠ 0) := by
    intro name
    have room : index + [(0 : UInt8)].length ≤ serverNameMax := inside
    rw [NameArray.text, NameArray.store, dif_pos room]
    simp only [overwrite, List.append_assoc, List.takeWhile_append]
    split <;> simp
  rw [cut left, cut right, same]

/-- The terminator makes the names the same up to it: what lies behind it may still be that of the
earlier attempt. -/
theorem terminateName_repeats (index : Nat) (truncated : Bool) :
    Repeats (InfoAgree (SamePrefix index)) (fun _ => InfoAgree ConnectionInfo.Alike)
      (terminateName index truncated) := by
  apply (Couples.faultIf _ _).sequence
  intro _
  apply modifyConnInfo_repeats
  rintro left right ⟨inside, ⟨version, security, width, height, format, length⟩, same⟩
  constructor
  case header => exact ⟨version, security, width, height, format, length⟩
  case name => exact NameArray.text_terminated (by omega) same
  case nameTruncated => rfl

/-- The loop that skips the rest of a name runs the same, by induction on what is left to skip. -/
theorem discardName_repeats {agree : Memory → Memory → Prop} (skip : Nat) :
    RepeatsKeeping agree (discardName skip) := by
  induction skip using discardName.induct with
  | case1 skip remaining inductionHypothesis =>
    rw [discardName, dif_pos remaining]
    apply (transportRecv_repeats _).sequence
    intro _
    exact inductionHypothesis
  | case2 skip finished =>
    rw [discardName, dif_neg finished]
    exact .done () (fun _ _ _ starts => starts)

/-- The name is received into the same place, so that its beginning and its end are the same
afterwards. -/
theorem receiveName_repeats (nameLen : Nat) :
    Repeats (InfoAgree ConnectionInfo.SameHeader) (fun _ => InfoAgree ConnectionInfo.Alike)
      (receiveName nameLen) := by
  apply Couples.ite
  · intro _
    apply Couples.ite
    · intro _
      apply (transportRecvName_repeats _).sequence
      intro _
      apply (terminateName_repeats _ _).sequence
      intro _
      exact discardName_repeats _
    · intro _
      apply (transportRecvName_repeats _).sequence
      intro _
      exact terminateName_repeats _ _
  · intro _
    apply (terminateName_repeats 0 false).weaken
    · intro left right _ header
      exact ⟨header, by simp⟩
    · exact fun _ _ _ _ alike => alike

/-! ## The framebuffer -/

/-- The connection informations agree, and the framebuffers in what is viewed of them. -/
def ScreenAgree {View : Type} (view : Framebuffer → View) (left right : Memory) : Prop :=
  InfoAgree ConnectionInfo.Alike left right ∧
    view left.client.framebuffer = view right.client.framebuffer

/-- Whatever a failed attempt left in the framebuffer record is written over. -/
theorem initFramebuffer_repeats (word : WordSize) :
    Repeats (InfoAgree ConnectionInfo.Alike) (fun _ => ScreenAgree id) (initFramebuffer word) := by
  apply Couples.load
  · rintro _ _ ⟨client, info, framebuffer, count, count', pending, pending', plain⟩ ⟨header, _, _⟩
    dsimp only at header ⊢
    rw [header.width, header.height, header.pixelFormat]
  · rintro _ _ ⟨client, info, framebuffer, count, count', pending, pending', plain⟩ _
    apply Couples.sequence
    case middle => exact fun _ => ScreenAgree (fun left => (left.width, left.height, left.format))
    case begins => exact modifyFramebuffer_repeats _ (fun _ _ alike => ⟨alike, rfl⟩)
    intro _
    apply (Couples.failIf _ _).sequence
    intro _
    apply Couples.sequence
    case middle =>
      exact fun _ => ScreenAgree (fun left =>
        (left.width, left.height, left.format, left.dataSize))
    case begins =>
      apply modifyFramebuffer_repeats
      rintro left right ⟨alike, same⟩
      simp only [Prod.mk.injEq] at same
      exact ⟨alike, by simp [same]⟩
    intro _
    dsimp only
    rw [plain]
    apply (callocPixels_repeats _).sequence
    intro newData
    apply Couples.sequence
    case begins =>
      apply modifyFramebuffer_repeats (ScreenAgree id)
      rintro left right ⟨alike, same⟩
      simp only [Prod.mk.injEq] at same
      exact ⟨alike, by simp [same]⟩
    intro _
    exact .failIf _ _

/-- ServerInit and the set-up of the framebuffer: what the earlier attempt has left in the record
is overwritten. -/
theorem receiveServerInit_repeats (word : WordSize) :
    Repeats (InfoAgree SameSecurity) (fun _ => ScreenAgree id) (receiveServerInit word) := by
  apply (transportRecv_repeats 24).sequence
  intro header
  apply (recordServerInit_repeats header).sequence
  intro _
  apply (receiveName_repeats _).sequence
  intro _
  exact initFramebuffer_repeats word

/-- `do_initialization` sends the same ClientInit in both. -/
theorem doInitialization_repeats (word : WordSize) :
    Repeats (InfoAgree SameSecurity) (fun _ => ScreenAgree id) (doInitialization word) := by
  apply Couples.load
  · rintro _ _ ⟨client, info, framebuffer, count, count', pending, pending', plain⟩ _
    rfl
  · intro left right _ _
    apply (transportSend_repeats _).sequence
    intro _
    exact receiveServerInit_repeats word

/-- The initial messages are those of the same configuration. -/
theorem sendInitialMessages_repeats {agree : Memory → Memory → Prop} (word : WordSize) :
    RepeatsKeeping agree (sendInitialMessages word) := by
  apply Couples.load
  · rintro _ _ ⟨client, info, framebuffer, count, count', pending, pending', plain⟩ _
    rfl
  · intro left right _ _
    apply Couples.sequence
    case begins =>
      apply Couples.onSome
      intro format
      exact transportSend_repeats _
    intro _
    apply Couples.onSome
    intro encodings
    apply Couples.onlyIf
    apply (Couples.asked _).sequence
    intro allocated
    apply (Couples.failIf _ _).sequence
    intro _
    apply (Couples.faultIf _ _).sequence
    intro _
    exact (transportSend_repeats _).weaken (fun _ _ _ starts => starts.2)
      (fun _ _ _ _ kept => kept)

/-- `ovnc__handshake` runs the same from any two memories of one configuration, and leaves the
same record. -/
theorem handshake_repeats (word : WordSize) :
    Repeats (fun _ _ => True) (fun _ => ScreenAgree id) (handshake word) := by
  apply negotiateVersion_repeats.sequence
  intro _
  apply negotiateSecurity_repeats.sequence
  intro _
  apply checkSecurityResult_repeats.sequence
  intro _
  apply (doInitialization_repeats word).sequence
  intro _
  exact sendInitialMessages_repeats word

/-! ## The call -/

section Call

variable {agree agree' : Memory → Memory → Prop}

/-- A change of a field that both clients have alike. -/
theorem modifyClient_repeats {change : Client → Client}
    (stays : ∀ left right, SameClient left right →
      SameClient { left with client := change left.client }
        { right with client := change right.client })
    (holds : ∀ left right, agree left right →
      agree' { left with client := change left.client }
        { right with client := change right.client }) :
    Repeats agree (fun _ => agree') (modifyClient change) := by
  apply Couples.update
  · intro left right stands _
    exact stays left right stands
  · intro left right _ starts
    exact holds left right starts

/-- The transport pointer is set to the same in both. -/
theorem modifyTransport_repeats (transport : Option Transport) :
    Repeats agree (fun _ _ _ => True)
      (modifyClient (fun client => { client with transport := transport })) := by
  apply modifyClient_repeats
  · rintro _ _ ⟨client, info, framebuffer, count, count', pending, pending', plain⟩
    exact .intro { client with transport := transport } info framebuffer count count'
      pending pending' plain
  · intro left right _
    trivial

/-- `ovnc__transport_create` runs the same. -/
theorem transportCreate_repeats : Repeats agree (fun _ _ _ => True) transportCreate := by
  apply (Couples.asked Request.callocTransport).sequence
  intro allocated
  apply (Couples.failIf _ _).sequence
  intro _
  exact modifyTransport_repeats _

/-- `ovnc__transport_connect` dials the same host. -/
theorem transportConnect_repeats : Repeats agree (fun _ _ _ => True) transportConnect := by
  apply derefTransport_repeats.sequence
  intro _
  apply Couples.load
  · rintro _ _ ⟨client, info, framebuffer, count, count', pending, pending', plain⟩ _
    rfl
  · intro left right _ _
    apply (Couples.asked _).sequence
    intro answer
    cases answer with
    | ok sock => exact modifyTransport_repeats _
    | error error => exact .fail error

/-- `ovnc__transport_destroy` closes the same socket. -/
theorem transportDestroy_repeats : Repeats agree (fun _ _ _ => True) transportDestroy := by
  apply Couples.load
  · rintro _ _ ⟨client, info, framebuffer, count, count', pending, pending', plain⟩ _
    rfl
  · intro left right _ _
    cases left.client.transport with
    | none => exact .done () (fun _ _ _ _ => trivial)
    | some transport =>
      apply Couples.sequence
      case begins =>
        apply Couples.onlyIf
        apply (Couples.asked _).sequence
        intro _
        exact .done () (fun _ _ _ starts => starts)
      intro _
      exact modifyTransport_repeats none

/-- `ovnc__platform_init` counts up from the same count. -/
theorem platformInit_repeats : Repeats agree (fun _ _ _ => True) platformInit := by
  apply Couples.update
  · rintro _ _ ⟨client, info, framebuffer, count, count', pending, pending', plain⟩ _
    exact .intro client info framebuffer (count + 1) (count' + 1) pending pending' plain
  · intro left right _ _
    trivial

/-- The count of the platform layer is the process's and may differ. -/
theorem platformCleanup_repeats : Repeats agree (fun _ _ _ => True) platformCleanup := by
  apply Couples.update
  · rintro _ _ ⟨client, info, framebuffer, count, count', pending, pending', plain⟩ _
    dsimp only
    split <;> split <;> exact .intro client info framebuffer _ _ pending pending' plain
  · intro left right _ _
    trivial

/-- An attempt is abandoned the same way, with the same error. -/
theorem abandonConnect_repeats {after : Unit → Memory → Memory → Prop} (error : Error) :
    Repeats agree after (abandonConnect error) := by
  apply transportDestroy_repeats.sequence
  intro _
  apply platformCleanup_repeats.sequence
  intro _
  exact .fail error

/-- The handshake of an attempt, and what follows its end. -/
theorem connectHandshake_repeats (word : WordSize) :
    Repeats (fun _ _ => True) (fun _ => ScreenAgree id) (connectHandshake word) := by
  apply (handshake_repeats word).attempt.sequence
  intro shaken
  cases shaken with
  | error error => exact abandonConnect_repeats error
  | ok =>
    apply modifyClient_repeats
    · rintro _ _ ⟨client, info, framebuffer, count, count', pending, pending', plain⟩
      exact .intro { client with state := .connected } info framebuffer count count'
        pending pending' plain
    · intro left right agree
      exact agree () rfl

/-- The dialling of an attempt, and what follows its end. -/
theorem connectTransport_repeats (word : WordSize) :
    Repeats (fun _ _ => True) (fun _ => ScreenAgree id) (connectTransport word) := by
  apply transportConnect_repeats.attempt.sequence
  intro connected
  cases connected with
  | error error => exact abandonConnect_repeats error
  | ok =>
    exact (connectHandshake_repeats word).weaken (fun _ _ _ _ => trivial)
      (fun _ _ _ _ agree => agree)

/-- Two clients that are equal but for what failed attempts left connect alike. -/
theorem clientConnect_repeats (word : WordSize) :
    Repeats (fun _ _ => True) (fun _ => ScreenAgree id) (clientConnect word) := by
  apply Couples.load
  · rintro _ _ ⟨client, info, framebuffer, count, count', pending, pending', plain⟩ _
    rfl
  · intro left right _ _
    apply (Couples.failIf _ _).sequence
    intro _
    apply platformInit_repeats.sequence
    intro _
    apply transportCreate_repeats.attempt.sequence
    intro created
    cases created with
    | error error =>
      apply platformCleanup_repeats.sequence
      intro _
      exact .fail error
    | ok =>
      exact (connectTransport_repeats word).weaken (fun _ _ _ _ => trivial)
        (fun _ _ _ _ agree => agree)

end Call

/-! ## Failed attempts -/

/-- A call of `ovnc_client_connect` that returned an error. -/
def FailedConnect (word : WordSize) (before : Memory) (error : Error) (after : Memory) : Prop :=
  ∃ events, Execution Allowed (clientConnect word) before events (.failed error) after

/-- A failed attempt leaves the rest of a client as it was before it connected. -/
theorem failedConnects_standing {word : WordSize} {fresh retried : Memory} {errors : List Error}
    (created : fresh.client.state = .created) (detached : fresh.client.transport = none)
    (counted : 0 ≤ fresh.platformInitCount)
    (failures : Run (FailedConnect word) fresh errors retried) :
    retried.standing = fresh.standing := by
  apply failures.state_invariant (fun memory => memory.standing = fresh.standing)
  · rfl
  · rintro before error after same ⟨events, execution⟩
    have state : before.client.state = .created :=
      (congrArg Standing.state same).trans created
    have transport : before.client.transport = none :=
      (congrArg Standing.transport same).trans detached
    have count : 0 ≤ before.platformInitCount := by
      rw [show before.platformInitCount = fresh.platformInitCount from
        congrArg Standing.platformInitCount same]
      exact counted
    have ended : ConnectEnded before events (.failed error) after :=
      (wp_iff _ _ _).mp (clientConnect_ends word state transport count) _ _ _ execution
    exact (ended.failed error rfl).trans same

/-- Memories that agree in their standing parts hold the same client. -/
theorem SameClient.of_standing {left : Memory} {client : Client} {count : Int} {pending : Nat}
    (same : left.standing = Memory.standing ⟨client, count, pending⟩)
    (plain : client.callbacks.allocFramebuffer = false) (count' : Int) (pending' : Nat) :
    SameClient left ⟨client, count', pending'⟩ := by
  rcases left with ⟨⟨_, _, _, _, _, _, _, _, _, _, _⟩, first, rects⟩
  rcases client with ⟨_, _, _, _, _, _, _, _, _, info, framebuffer⟩
  simp only [Memory.standing, Standing.mk.injEq] at same
  obtain ⟨rfl, rfl, rfl, rfl, rfl, rfl, rfl, rfl, rfl, rfl⟩ := same
  exact .intro _ info framebuffer first count' rects pending' plain

/-- What an attempt to connect came to: the outcome, the exchanges with the server and the
system, the memory and the world it left. -/
structure Attempt (W : Type) where
  outcome : Outcome Error Fault Unit
  exchanges : List ((request : Request) × Answer request)
  memory : Memory
  world : W

/-- The attempt of a client in a memory. -/
def Memory.connecting {W : Type} (word : WordSize) (handler : Handler Request Answer W)
    (world : W) (memory : Memory) : Attempt W :=
  let (outcome, final, later) := (clientConnect word).run handler memory world
  ⟨outcome, exchanges ((clientConnect word).trace handler memory world), final, later⟩

/-- After any number of failed attempts a client without an allocator of its own connects
like a fresh one. The process may have other clients by then, so the count of the platform
layer is left open. -/
theorem connect_retried {W : Type} (word : WordSize) (host : String) (config : ClientConfig)
    (callbacks : ClientCallbacks) (plain : callbacks.allocFramebuffer = false)
    (count pending count' pending' : Nat) {errors : List Error} {retried : Memory}
    (failures : Run (FailedConnect word) ⟨freshClient host config callbacks, count, pending⟩
      errors retried)
    (handler : Handler Request Answer W) (within : handler.Within Allowed) (world : W) :
    let again := retried.connecting word handler world
    let fresh := Memory.connecting word handler world
      ⟨freshClient host config callbacks, count', pending'⟩
    again.outcome = fresh.outcome ∧ again.exchanges = fresh.exchanges ∧
      again.world = fresh.world ∧
      (again.outcome = .returned () →
        again.memory.client.connInfo.Alike fresh.memory.client.connInfo ∧
          again.memory.client.framebuffer = fresh.memory.client.framebuffer) := by
  intro again fresh
  have standing := failedConnects_standing rfl rfl (Int.natCast_nonneg count) failures
  obtain ⟨coupled, same⟩ := clientConnect_repeats word handler within retried
    ⟨freshClient host config callbacks, count', pending'⟩ world
    (.of_standing standing plain count' pending') trivial
  constructor
  · exact coupled.outcome
  constructor
  · exact same
  constructor
  · exact coupled.world
  · intro returned
    exact coupled.after () returned

/-- A greeting with a pixel format that the client does not know, so that the attempt fails
when everything else of ServerInit has been stored. -/
def oddGreeting : List UInt8 :=
  versionString .v38 ++ [1, 1] ++ writeU32 0 ++ (writeU16 7 ++ writeU16 5 ++
    { PixelFormat.initDefault with bitsPerPixel := 24 }.toWire ++ writeU32 3 ++ [65, 66, 67])

/-- The attempt that this greeting gets. -/
def oddAttempt : Attempt Feed :=
  Memory.connecting .bits64 plainHost.feed { unread := oddGreeting } ⟨plainClient {}, 0, 0⟩

/-- An attempt that fails after ServerInit has left its traces in the record. The next one
connects as on a fresh client. -/
theorem connect_retried_odd : oddAttempt.outcome = .failed .protocol ∧
    oddAttempt.memory.client.connInfo ≠ zeroConnInfo ∧
    (let again := oddAttempt.memory.connecting .bits64 plainHost.feed { unread := plainGreeting }
    again.outcome = .returned () ∧
      again.memory.client.connInfo.Alike (plainConnected {}).2.1.client.connInfo ∧
        again.memory.client.framebuffer = (plainConnected {}).2.1.client.framebuffer) := by
  have refused : oddAttempt.outcome = .failed .protocol := by decide
  have failed : FailedConnect .bits64 ⟨plainClient {}, 0, 0⟩ .protocol oddAttempt.memory := by
    have executed := run_execution plainHost.feed Allowed plainHost_allowed (clientConnect .bits64)
      ⟨plainClient {}, 0, 0⟩ { unread := oddGreeting }
    change Execution _ _ _ _ oddAttempt.outcome oddAttempt.memory at executed
    rw [refused] at executed
    exact ⟨_, executed⟩
  obtain ⟨outcome, -, -, alike⟩ := connect_retried .bits64 "localhost"
    { host := some "localhost" } {} rfl 0 0 0 0 (Run.nil.snoc failed) plainHost.feed
    plainHost_allowed { unread := plainGreeting }
  have returned : (oddAttempt.memory.connecting .bits64 plainHost.feed
      { unread := plainGreeting }).outcome = .returned () :=
    outcome.trans plainConnected_returned.1
  constructor
  · exact refused
  constructor
  · decide
  constructor
  · exact returned
  · exact alike returned

end OpenVnc
