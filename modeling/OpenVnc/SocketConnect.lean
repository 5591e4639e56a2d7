import OpenVnc.Internal
import OpenVnc.Interaction.Program

/-!
# Opening a connection

`ovnc__socket_connect` looks the host up and tries the addresses it gets one after the other.
The system calls are requests; the memory is the variable of the caller for the socket.
-/

namespace OpenVnc

open Interaction Interaction.Program

/-- An entry of the list of `getaddrinfo`. -/
structure AddrInfo where
  family : Int32
  socktype : Int32
  protocol : Int32
  addr : List UInt8
deriving DecidableEq, Repr

/-- What a call of `connect` comes to: the connection is there, or it is being established
(`EINPROGRESS`), or the call has failed. -/
inductive ConnectResult where
  | connected
  | inProgress
  | failed
deriving DecidableEq, Repr

/-- The system calls of `ovnc__socket_connect`. -/
inductive SysCall where
  | getaddrinfo (host service : String) (hints : AddrInfo)
  | freeaddrinfo (res : List AddrInfo)
  | socket (rp : AddrInfo)
  | fcntlGetfl (sock : Socket)
  | fcntlSetfl (sock : Socket) (flags : Int32)
  | connect (sock : Socket) (rp : AddrInfo)
  | poll (sock : Socket) (timeout : Int32)
  | getsockopt (sock : Socket)
  | close (sock : Socket)
deriving DecidableEq

/-- The results of the system calls. A call of `getsockopt` that fails stores no error. -/
abbrev SysAnswer : SysCall → Type
  | .getaddrinfo .. => Except Int32 (List AddrInfo)
  | .freeaddrinfo _ => Unit
  | .socket _ => Socket
  | .fcntlGetfl _ => Int32
  | .fcntlSetfl .. => Int32
  | .connect .. => ConnectResult
  | .poll .. => Int32
  | .getsockopt _ => Option Int32
  | .close _ => Unit

/-- A computation over `*out` that makes system calls. It commits no fault. -/
abbrev SysRoutine := Program Socket Error Empty SysCall SysAnswer

/-- `O_NONBLOCK`. -/
def oNonblock : Int32 := 0x800

/-- The hints: any family (`AF_UNSPEC`), and `SOCK_STREAM`. -/
def addrHints : AddrInfo := ⟨0, 1, 0, []⟩

/-- `fcntl(sock, F_SETFL, flags)`, of which the result is not looked at, for valid flags. -/
def setFlags (valid : Prop) [Decidable valid] (sock : Socket) (flags : Int32) : SysRoutine Unit :=
  onlyIf valid (do
    let _ ← ask (SysCall.fcntlSetfl sock flags)
    return ())

/-- Close a socket that has not become a connection, and go on with an error. -/
def abandonSocket {α : Type} (sock : Socket) (err : Error) : SysRoutine (Except Error α) := do
  ask (SysCall.close sock)
  return .error err

/-- The branch of `ovnc__socket_connect` for a connection that is being established. -/
def awaitConnect (timeoutMs : UInt32) (sock : Socket) : SysRoutine (Except Error Unit) := do
  let pollRc : Int32 ← ask (SysCall.poll sock timeoutMs.toInt32)
  if pollRc ≤ 0 then abandonSocket sock (if pollRc = 0 then .timeout else .io)
  else do
    let soError : Option Int32 ← ask (SysCall.getsockopt sock)
    if soError.getD 0 ≠ 0 then abandonSocket sock .connectionRefused
    else return .ok ()

/-- The call of `connect` on a non-blocking socket, and the wait. -/
def connectNonblocking (timeoutMs : UInt32) (rp : AddrInfo) (sock : Socket) (err : Error) :
    SysRoutine (Except Error Unit) := do
  let rc : ConnectResult ← ask (SysCall.connect sock rp)
  match rc with
  | .inProgress => awaitConnect timeoutMs sock
  | .failed => abandonSocket sock err
  | .connected => return .ok ()

/-- The branch for a positive timeout. The socket is non-blocking until it is connected. -/
def connectTimed (timeoutMs : UInt32) (rp : AddrInfo) (sock : Socket) (err : Error) :
    SysRoutine (Except Error Socket) := do
  let flags : Int32 ← ask (SysCall.fcntlGetfl sock)
  setFlags (flags ≥ 0) sock (flags ||| oNonblock)
  let established ← connectNonblocking timeoutMs rp sock err
  match established with
  | .error err => return .error err
  | .ok () => do
    setFlags (flags ≥ 0) sock flags
    return .ok sock

/-- The branch without a timeout. -/
def connectBlocking (rp : AddrInfo) (sock : Socket) (err : Error) :
    SysRoutine (Except Error Socket) := do
  let rc : ConnectResult ← ask (SysCall.connect sock rp)
  if rc ≠ .connected then abandonSocket sock err
  else return .ok sock

/-- One pass of the loop, with the error so far: a connected socket, or the error to go on
with. -/
def tryAddress (timeoutMs : UInt32) (rp : AddrInfo) (err : Error) :
    SysRoutine (Except Error Socket) := do
  let sock : Socket ← ask (SysCall.socket rp)
  if sock < 0 then return .error err
  else if timeoutMs > 0 then connectTimed timeoutMs rp sock err
  else connectBlocking rp sock err

/-- The loop over the addresses; its value is that of `err` behind it. -/
def connectLoop (timeoutMs : UInt32) : List AddrInfo → Error → SysRoutine (Except Error Unit)
  | [], err => return .error err
  | rp :: rest, err => do
    let tried ← tryAddress timeoutMs rp err
    match tried with
    | .error err => connectLoop timeoutMs rest err
    | .ok sock => do
      update (fun _ => sock)
      return .ok ()

/-- `ovnc__socket_connect`. -/
def socketConnect (host : String) (port : UInt16) (timeoutMs : UInt32) : SysRoutine Unit := do
  update (fun _ => invalidSocket)
  let found : Except Int32 (List AddrInfo) ←
    ask (SysCall.getaddrinfo host (toString port.toNat) addrHints)
  match found with
  | .error _ => fail .connectionRefused
  | .ok res => do
    let err ← connectLoop timeoutMs res .connectionRefused
    ask (SysCall.freeaddrinfo res)
    match err with
    | .error err => fail err
    | .ok () => return ()

end OpenVnc
