import OpenVnc.Process
import OpenVnc.Socket

/-!
# System calls and what they carry

A connection as two scripts of results of system calls, one for `recv` and one for
`send`. A call moves at most as many bytes as it is asked for, and what a result would
have moved beyond that is left for the next call. What a script carries is its bytes and
its ends in order; how they are divided into calls and where a call is interrupted is no
part of it.
-/

namespace OpenVnc

open Interaction Interaction.Program

/-- The results of the calls of one loop that wants so many bytes, and what is left of the
script. The loop ends with the bytes, at an error or at a count of zero. -/
def serve (wanted : Nat) : List SysResult → List SysResult × List SysResult
  | [] => ([], [])
  | result :: rest =>
      if wanted = 0 then ([], result :: rest)
      else
        match result with
        | .interrupted =>
            let (results, left) := serve wanted rest
            (.interrupted :: results, left)
        | .failed => ([.failed], rest)
        | .moved [] => ([.moved []], rest)
        | .moved bytes =>
            if bytes.length ≤ wanted then
              let (results, left) := serve (wanted - bytes.length) rest
              (.moved bytes :: results, left)
            else ([.moved (bytes.take wanted)], .moved (bytes.drop wanted) :: rest)

/-- The bytes a sending loop hands over: each call moves some from its pointer on. -/
def handedOver : List UInt8 → List SysResult → List UInt8
  | _, [] => []
  | data, .moved bytes :: rest =>
      data.take bytes.length ++ handedOver (data.drop bytes.length) rest
  | data, _ :: rest => handedOver data rest

/-- A byte, or an end of a stream. -/
inductive Signal where
  | byte (value : UInt8)
  | closed
  | failed
deriving DecidableEq, Repr

/-- What one result carries. An interrupted call carries nothing. -/
def SysResult.signals : SysResult → List Signal
  | .moved [] => [.closed]
  | .moved bytes => bytes.map .byte
  | .interrupted => []
  | .failed => [.failed]

/-- What a script carries. -/
def carried (script : List SysResult) : List Signal := script.flatMap SysResult.signals

/-- The scripts of a connection. In the script of `send` only the number of the bytes of
each result matters. -/
structure Wire where
  incoming : List SysResult
  outgoing : List SysResult
deriving DecidableEq

/-- The two connections carry the same. -/
def Wire.Alike (wire wire' : Wire) : Prop :=
  carried wire.incoming = carried wire'.incoming ∧ carried wire.outgoing = carried wire'.outgoing

/-- The system and the application: the connection in use and those to come, the bytes
sent on each connection so far with the latest first, the callbacks that ran, and the
world of everything else. -/
structure System (W : Type) where
  wire : Wire
  upcoming : List Wire
  streams : List (List UInt8)
  fired : List Callback
  world : W

namespace System

variable {W : Type}

/-- The bytes were sent on the connection in use. -/
def emit (system : System W) (bytes : List UInt8) : List (List UInt8) :=
  match system.streams with
  | [] => [bytes]
  | current :: earlier => (current ++ bytes) :: earlier

/-- The answers of the system. A transport operation runs its loop over the scripts;
everything else is left to a handler of its own, and a connection that it establishes is
the next one to come. -/
def answer (others : Handler Request Answer W) : Handler Request Answer (System W)
  | .recv len, system =>
      let (results, left) := serve len system.wire.incoming
      (socketRecvAll len results, { system with wire := { system.wire with incoming := left } })
  | .send data, system =>
      let (results, left) := serve data.length system.wire.outgoing
      (socketSendAll data results, { system with
        wire := { system.wire with outgoing := left }
        streams := system.emit (handedOver data results) })
  | .socketConnect host port timeoutMs, system =>
      match others (.socketConnect host port timeoutMs) system.world, system.upcoming with
      | (some (.ok _), later), [] => (none, { system with world := later })
      | (some (.ok sock), later), wire :: upcoming =>
          (some (.ok sock), { system with
            wire := wire, upcoming := upcoming, streams := [] :: system.streams, world := later })
      | (answer, later), _ => (answer, { system with world := later })
  | .callback call, system =>
      let (answer, later) := others (.callback call) system.world
      (answer, { system with fired := system.fired ++ [call], world := later })
  | request, system =>
      let (answer, later) := others request system.world
      (answer, { system with world := later })

/-- The two systems differ in how their connections are divided into calls only. -/
structure Alike (system system' : System W) : Prop where
  wire : system.wire.Alike system'.wire
  upcoming : List.Forall₂ Wire.Alike system.upcoming system'.upcoming
  streams : system.streams = system'.streams
  fired : system.fired = system'.fired
  world : system.world = system'.world

end System

end OpenVnc
