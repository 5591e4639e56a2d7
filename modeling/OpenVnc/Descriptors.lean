import OpenVnc.SocketConnect
import OpenVnc.Interaction.Runs
import Mathlib.Logic.Function.Basic

/-!
# Socket descriptors

The sockets that `ovnc__socket_connect` has open, as the system keeps them while the call
runs, with the flags of each.
-/

namespace OpenVnc

open Interaction

/-- An answered system call of `ovnc__socket_connect`. -/
abbrev SysStep := Event Socket SysCall SysAnswer

/-- The status flags of a socket, as they were when it was opened and as they are. -/
structure Status where
  opened : Int32
  current : Int32
deriving DecidableEq, Repr

/-- The open sockets. -/
abbrev Descriptors := Socket → Option Status

namespace Descriptors

/-- No socket is open. -/
def empty : Descriptors := fun _ => none

/-- One socket is open. -/
def only (sock : Socket) (status : Status) : Descriptors :=
  Function.update empty sock (some status)

/-- What a system call does to the open sockets. A new socket may have any flags. The flags
that are read, if any are, are those of the socket; and a call that would put back the flags
it was opened with fails only on a socket that has them. -/
def Step (before : Descriptors) : SysStep → Descriptors → Prop
  | ⟨_, .socket _, sock⟩, after =>
      if sock < 0 then after = before
      else ∃ flags, after = Function.update before sock (some ⟨flags, flags⟩)
  | ⟨_, .fcntlGetfl sock, flags⟩, after =>
      after = before ∧ (0 ≤ flags → ∀ status ∈ before sock, status.current = flags)
  | ⟨_, .fcntlSetfl sock flags, rc⟩, after =>
      if rc < 0 then
        after = before ∧ ∀ status ∈ before sock, flags = status.opened → status.current = flags
      else after = Function.update before sock ((before sock).map ({ · with current := flags }))
  | ⟨_, .close sock, _⟩, after => after = Function.update before sock none
  | _, after => after = before

variable {memory sock : Socket} {status : Status} {after : Descriptors}

/-- The one socket that is open is known by its status. -/
@[simp] theorem only_self : only sock status sock = some status := Function.update_self ..

/-- A socket is opened. -/
theorem step_socket {rp : AddrInfo} (valid : ¬ sock < 0) :
    Step empty ⟨memory, .socket rp, sock⟩ after ↔ ∃ flags, after = only sock ⟨flags, flags⟩ := by
  simp only [Step, if_neg valid]
  rfl

/-- The flags of the open socket are read. -/
theorem step_fcntlGetfl {flags : Int32} :
    Step (only sock status) ⟨memory, .fcntlGetfl sock, flags⟩ after ↔
      after = only sock status ∧ (0 ≤ flags → status.current = flags) := by
  simp [Step]

/-- The flags of the open socket are written. -/
theorem step_fcntlSetfl {flags rc : Int32} :
    Step (only sock status) ⟨memory, .fcntlSetfl sock flags, rc⟩ after ↔
      if rc < 0 then after = only sock status ∧ (flags = status.opened → status.current = flags)
      else after = only sock { status with current := flags } := by
  have rewritten (current : Int32) :
      Function.update (only sock status) sock (some { status with current := current }) =
        only sock { status with current := current } := Function.update_idem ..
  simp [Step, rewritten]

/-- The open socket is closed. -/
theorem step_close :
    Step (only sock status) ⟨memory, .close sock, ()⟩ after ↔ after = empty := by
  have closed : Function.update (only sock status) sock none = empty :=
    (Function.update_idem ..).trans (Function.update_eq_self sock empty)
  simp only [Step, closed]

end Descriptors

end OpenVnc
