import OpenVnc.Transport
import OpenVnc.Interaction.Observations

/-!
# What passes over a connection

Every transfer of an execution, read off its events: what was received, what was handed
over to be sent, and how much of it the network took before a failure.
-/

namespace OpenVnc

open Interaction Interaction.Program

/-- An operation on the connection and how it ended. -/
inductive Transfer where
  | received (bytes : List UInt8)
  | recvStopped (received : List UInt8)
  | sent (data : List UInt8)
  | sendStopped (data : List UInt8) (written : Nat)
deriving DecidableEq, Repr

/-- The transfer an answered request amounts to, if any. -/
def transfer (event : Step) : Option Transfer :=
  match event with
  | ⟨_, .recv _, .complete bytes⟩ => some (.received bytes)
  | ⟨_, .recv _, .stopped received _⟩ => some (.recvStopped received)
  | ⟨_, .send data, .complete⟩ => some (.sent data)
  | ⟨_, .send data, .stopped written _⟩ => some (.sendStopped data written)
  | _ => none

/-- The transfers of a sequence of events, in order. -/
def transfers (events : List Step) : List Transfer := events.filterMap transfer

/-- What a transfer hands to the transport to send, sent or not. -/
@[simp]
def Transfer.attempt : Transfer → Option (List UInt8)
  | sent data | sendStopped data _ => some data
  | _ => none

/-- Every buffer handed to the transport, in order. -/
def attempts (events : List Step) : List (List UInt8) :=
  (transfers events).filterMap Transfer.attempt

/-- The transfers of two parts follow each other. -/
theorem transfers_append (earlier later : List Step) :
    transfers (earlier ++ later) = transfers earlier ++ transfers later := List.filterMap_append

/-- The bytes of a transfer that have gone out. -/
@[simp]
def Transfer.written : Transfer → List UInt8
  | sent data => data
  | sendStopped data written => data.take written
  | _ => []

/-- The bytes the peer is sent, in order. -/
def outgoing (events : List Step) : List UInt8 := (transfers events).flatMap Transfer.written

/-- The triple of a routine for its transfers. -/
abbrev Transfers {α : Type} (tolerated : Fault → Prop)
    (stopped : Option Error → List Transfer → Prop)
    (routine : Routine α) (memory : Memory) (passed : α → List Transfer → Memory → Prop) : Prop :=
  Proceeds Allowed transfer tolerated stopped routine memory passed

section Rules

variable {memory : Memory} {tolerated : Fault → Prop}
  {stopped : Option Error → List Transfer → Prop}

/-- `ovnc__transport_recv` moves the bytes it returns, or it is interrupted after fewer. -/
theorem transportRecv_transfers {len : Nat}
    (detached : memory.client.transport = none → tolerated .nullTransport)
    (silent : stopped none [])
    (interrupted : ∀ error received, stopped (some error) [.recvStopped received]) :
    Transfers tolerated stopped (transportRecv len) memory (fun bytes exchange final =>
      bytes.length = len ∧ exchange = [.received bytes] ∧ final = memory) := by
  refine (wp_transportRecv memory len _).mpr ⟨detached, fun _ _ => ⟨silent, ?_, ?_⟩⟩
  · exact fun bytes complete => ⟨complete, rfl, rfl⟩
  · exact fun received error _ => interrupted error received

/-- `ovnc__transport_send` writes the whole buffer, or it is interrupted after less. -/
theorem transportSend_transfers {data : List UInt8}
    (detached : memory.client.transport = none → tolerated .nullTransport)
    (silent : stopped none [])
    (interrupted : ∀ error written, written < data.length →
      stopped (some error) [.sendStopped data written]) :
    Transfers tolerated stopped (transportSend data) memory (fun _ exchange final =>
      exchange = [.sent data] ∧ final = memory) := by
  refine (wp_transportSend memory data _).mpr ⟨detached, fun _ _ => ⟨silent, ?_, ?_⟩⟩
  · exact fun _ => ⟨rfl, rfl⟩
  · exact fun written error allowed => interrupted error written allowed.1

end Rules

end OpenVnc
