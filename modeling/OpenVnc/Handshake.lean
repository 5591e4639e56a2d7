import OpenVnc.SendMessages
import OpenVnc.Encoding

/-!
# The handshake

`ovnc_handshake.c`: version negotiation, the security handshake of the three
protocol versions, ClientInit and ServerInit, and the messages that follow them.
The steps communicate through the connection information of the client.
-/

namespace OpenVnc

open Interaction Interaction.Program

/-- The bytes of "RFB 003.003\n", "RFB 003.007\n" and "RFB 003.008\n". As in the
source, every other value gets the first of them. -/
def versionString : RfbVersion → List UInt8
  | .v38 => [82, 70, 66, 32, 48, 48, 51, 46, 48, 48, 56, 10]
  | .v37 => [82, 70, 66, 32, 48, 48, 51, 46, 48, 48, 55, 10]
  | _ => [82, 70, 66, 32, 48, 48, 51, 46, 48, 48, 51, 10]

/-- Three characters from `index` on, each taken as a digit whatever it is. So a character that
is no digit still counts, with its distance from the character zero. -/
def threeDigits (buf : List UInt8) (index : Nat) : Int :=
  ((byteAt buf index).toNat - 48 : Int) * 100 + ((byteAt buf (index + 1)).toNat - 48 : Int) * 10 +
    ((byteAt buf (index + 2)).toNat - 48 : Int)

/-- `negotiate_version`. The answer is the version that was chosen, whatever greeting it was
chosen for. -/
def negotiateVersion : Routine Unit := do
  let buf ← transportRecv 12
  failIf (buf.take 4 ≠ [82, 70, 66, 32] ∨ byteAt buf 7 ≠ 46 ∨ byteAt buf 11 ≠ 10) .protocol
  let major := threeDigits buf 4
  let minor := threeDigits buf 8
  failIf (major ≠ 3) .versionMismatch
  let version : RfbVersion := if minor ≥ 8 then .v38 else if minor = 7 then .v37 else .v33
  modifyConnInfo (fun info => { info with rfbVersion := version })
  transportSend (versionString version)

/-- `read_failure_reason`, which always returns an error. The reason itself is read
and dropped, and how that ends is ignored. -/
def readFailureReason : Routine Error := do
  let lenBuf ← attempt (transportRecv 4)
  match lenBuf with
  | .error error => return error
  | .ok lenBuf => do
    let reasonLen := readU32 lenBuf
    onlyIf (0 < reasonLen) (do
      let tmp : Bool ← ask (Request.malloc reasonLen.toNat)
      onlyIf tmp (do
        let _ ← attempt (transportRecv reasonLen.toNat)
        return ()))
    return .connectionRefused

/-- Record the security type in use. Only two values are ever recorded, those of a success. -/
def recordSecurity (securityType : SecurityType) : Routine Unit :=
  modifyConnInfo (fun info => { info with securityType := securityType })

/-- `negotiate_security`. A server that refuses to go on gives its reason here; the client looks
for None and for no other type. -/
def negotiateSecurity : Routine Unit := do
  let memory ← load
  if memory.client.connInfo.rfbVersion = .v33 then do
    -- 3.3: the server has chosen; only None is acceptable.
    let buf ← transportRecv 4
    let secType := readU32 buf
    if secType = 0 then do
      let error ← readFailureReason
      fail error
    else do
      failIf (secType ≠ 1) .authUnsupported
      recordSecurity .none
  else do
    -- 3.7 and 3.8: the server lists its types and the client picks one.
    let countBuf ← transportRecv 1
    let count := byteAt countBuf 0
    if count = 0 then do
      let error ← readFailureReason
      fail error
    else do
      let allocated : Bool ← ask (Request.malloc count.toNat)
      failIf (allocated = false) .nomem
      let types ← transportRecv count.toNat
      failIf (¬ types.contains 1) .authUnsupported
      transportSend [1]
      recordSecurity .none

/-- `check_security_result`. Version 3.8 always has a result, the earlier ones only after an
authentication, which the client does not offer. -/
def checkSecurityResult : Routine Unit := do
  let memory ← load
  if memory.client.connInfo.rfbVersion = .v38 then do
    let buf ← transportRecv 4
    onlyIf (readU32 buf ≠ 0) (do
      let _ ← readFailureReason
      fail .authFailed)
  else
    onlyIf (memory.client.connInfo.securityType = .vncAuth) (do
      let buf ← transportRecv 4
      failIf (readU32 buf ≠ 0) .authFailed)

/-- Store received bytes at the start of the name array. A write that would not fit is left out
of the type; the routines below fault before they make one. -/
def NameArray.store (name : NameArray) (offset : Nat) (written : List UInt8) : NameArray :=
  if inside : offset + written.length ≤ serverNameMax then
    ⟨overwrite name.bytes offset written,
      (overwrite_length (by rw [name.size]; exact inside)).trans name.size⟩
  else name

/-- `ovnc__transport_recv` into the name array. What had arrived when it failed
stays there. -/
def transportRecvName (len : Nat) : Routine Unit := do
  let _ ← derefTransport
  faultIf (serverNameMax < len) (.outOfBounds .name)
  let answer : RecvAnswer ← ask (Request.recv len)
  match answer with
  | .complete bytes => modifyConnInfo (fun info => { info with name := info.name.store 0 bytes })
  | .stopped received error => do
    modifyConnInfo (fun info => { info with name := info.name.store 0 received })
    fail error

/-- Terminate the name at `index` and record whether it was cut. The zero is a byte of the array
like any other, so the index is checked. -/
def terminateName (index : Nat) (truncated : Bool) : Routine Unit := do
  faultIf (serverNameMax ≤ index) (.outOfBounds .name)
  modifyConnInfo (fun info => { info with
    name := info.name.store index [0], nameTruncated := truncated })

/-- The loop that skips the part of the name that is not kept, in chunks of at most
256 bytes. -/
def discardName (skip : Nat) : Routine Unit :=
  if _remaining : 0 < skip then do
    let _ ← transportRecv (min skip 256)
    discardName (skip - min skip 256)
  else return ()
termination_by skip
decreasing_by omega

/-- The name part of `do_initialization`. A name that does not fit is cut, and what is not kept
has to be read nevertheless. -/
def receiveName (nameLen : Nat) : Routine Unit :=
  if nameLen > 0 then
    if nameLen > serverNameMax - 1 then do
      transportRecvName (serverNameMax - 1)
      terminateName (serverNameMax - 1) true
      discardName (nameLen - (serverNameMax - 1))
    else do
      transportRecvName nameLen
      terminateName nameLen false
  else terminateName 0 false

/-- The framebuffer part of `do_initialization`. A block the record already refers
to is not released. -/
def initFramebuffer (word : WordSize) : Routine Unit := do
  let memory ← load
  let info := memory.client.connInfo
  let activeFmt := memory.client.pixelFormat.getD info.pixelFormat
  modifyFramebuffer (fun framebuffer => { framebuffer with
    width := info.width, height := info.height, format := activeFmt })
  failIf (activeFmt.bytesPerPixel < 0) .protocol
  let dataSize := word.product info.width.toNat info.height.toNat
    (word.ofInt activeFmt.bytesPerPixel)
  modifyFramebuffer (fun framebuffer => { framebuffer with dataSize := dataSize })
  if memory.client.callbacks.allocFramebuffer then
    callAllocFramebuffer
  else do
    let newData ← callocPixels dataSize
    modifyFramebuffer (fun framebuffer => { framebuffer with data := newData })
    failIf (newData = none) .nomem

/-- The fixed part of ServerInit as `do_initialization` stores it. It is stored before anything
of it is checked. -/
def recordServerInit (header : List UInt8) : Routine Unit :=
  modifyConnInfo (fun info => { info with
    width := readU16 header
    height := readU16 (header.drop 2)
    pixelFormat := PixelFormat.fromWire (header.drop 4)
    nameLength := readU32 (header.drop 20) })

/-- `do_initialization` after ClientInit: ServerInit and the framebuffer. A format without a
byte count is refused, after its name has been read. -/
def receiveServerInit (word : WordSize) : Routine Unit := do
  let header ← transportRecv 24
  recordServerInit header
  receiveName (readU32 (header.drop 20)).toNat
  initFramebuffer word

/-- `do_initialization`. The shared flag is the only byte of ClientInit. -/
def doInitialization (word : WordSize) : Routine Unit := do
  let memory ← load
  transportSend [memory.client.shared]
  receiveServerInit word

/-- `send_initial_messages`. Without a configured format the server's own is in use, and an
empty list is not sent. -/
def sendInitialMessages (word : WordSize) : Routine Unit := do
  let memory ← load
  onSome memory.client.pixelFormat sendSetPixelFormat
  onSome memory.client.encodings (fun encodings =>
    onlyIf (encodings.length > 0) (sendSetEncodings word encodings))

/-- `ovnc__handshake`. The first part that fails ends it with its error. -/
def handshake (word : WordSize) : Routine Unit := do
  negotiateVersion
  negotiateSecurity
  checkSecurityResult
  doInitialization word
  sendInitialMessages word

end OpenVnc
