import OpenVnc.SocketCalls

/-!
# The transport layer on POSIX sockets

A process on POSIX sockets runs as one that is only assumed of the transport layer what
`OnPosix` says, and the other way round: nothing is assumed that the sockets do not do, and
nothing is left out that they can do.
-/

namespace OpenVnc

open Interaction Interaction.Program

variable {outside : (request : Request) → Answer request → Prop}

/-- A call that has a result is not waiting for anything. -/
theorem finished_not_waiting (result : Except Error Unit) :
    Outcome.finished result ≠ .waiting := by
  rcases result with error | ⟨⟨⟩⟩ <;> simp [Outcome.finished]

section Executions

variable {routine : Routine Unit} {memory final : Memory} {outcome : Outcome Error Fault Unit}

/-- A routine that has ended on POSIX sockets has ended so above them. -/
theorem onPosix_executes {limit : Nat} {calls : List CallStep}
    (executed : Execution (Behaves outside) (onPosix limit routine) memory calls outcome final)
    (ended : outcome ≠ .waiting) :
    ∃ events, Execution (OnPosix outside) routine memory events outcome final ∧
      events.flatMap requestItems = calls.flatMap callItems := by
  obtain ⟨events, above, expands⟩ := translate_executes
    (fun memory request _ => posix_works limit memory request) (poses_always _ _ _) executed
  refine ⟨events, above, ?_⟩
  exact (expands.flatMap ended (fun _ _ _ _ seen => seen _ rfl)).symm

/-- A routine that has ended can end so on POSIX sockets. -/
theorem executes_onPosix {events : List Step}
    (executed : Execution (OnPosix outside) routine memory events outcome final)
    (ended : outcome ≠ .waiting) :
    ∃ calls, Execution (Behaves outside) (onPosix 2 routine) memory calls outcome final ∧
      calls.flatMap callItems = events.flatMap requestItems := by
  have realises (memory : Memory) (request : Request) (answer : Answer request) (_ : True)
      (given : OnPosix outside request answer) :
      ∃ calls, Execution (Behaves outside) (posix 2 request) memory calls (.returned answer)
        memory ∧ Seen memory request (some answer) calls := by
    obtain ⟨calls, worked⟩ := posix_realises 0 given
    exact ⟨calls, worked, ((wp_iff _ _ _).mp (posix_works 2 memory request) _ _ _ worked).2.2⟩
  obtain ⟨calls, below, expands⟩ := translate_realises realises (poses_always _ _ _) executed ended
  exact ⟨calls, below, expands.flatMap ended (fun _ _ _ _ seen => seen _ rfl)⟩

end Executions

/-- What the sockets do in a call the library may be assumed to see. -/
theorem library_simulates_posix (word : WordSize)
    (outside : (request : Request) → Answer request → Prop) :
    (Level.library word (OnPosix outside)).Simulates (posixLevel word outside) requestItems
      callItems (fun _ => True) where
  fresh _ _ _ := trivial
  performs _ performed := by
    obtain ⟨bound, limit, executed⟩ := performed
    obtain ⟨events, above, same⟩ := onPosix_executes executed (finished_not_waiting _)
    exact ⟨trivial, events, ⟨bound, above⟩, same⟩
  destroys _ performed := by
    obtain ⟨limit, executed⟩ := performed
    exact onPosix_executes executed (by simp)

/-- What may be assumed of a call the sockets can do. -/
theorem posix_simulates_library (word : WordSize)
    (outside : (request : Request) → Answer request → Prop) :
    (posixLevel word outside).Simulates (Level.library word (OnPosix outside)) callItems
      requestItems (fun _ => True) where
  fresh _ _ _ := trivial
  performs _ performed := by
    obtain ⟨bound, executed⟩ := performed
    obtain ⟨calls, below, same⟩ := executes_onPosix executed (finished_not_waiting _)
    exact ⟨trivial, calls, ⟨bound, 2, below⟩, same⟩
  destroys _ performed := by
    obtain ⟨calls, below, same⟩ := executes_onPosix performed (by simp)
    exact ⟨calls, ⟨2, below⟩, same⟩

/-- What can be seen of a process on POSIX sockets, and the clients and the count it comes to,
are those of a process above them. -/
theorem posixReaches_iff (word : WordSize)
    (outside : (request : Request) → Answer request → Prop) (process : Process)
    (trace : List (Observation Item)) :
    (∃ history, (posixLevel word outside).Reaches history process ∧
        history.map (Level.Action.observation callItems) = trace) ↔
      ∃ history, (Level.library word (OnPosix outside)).Reaches history process ∧
        history.map (Level.Action.observation requestItems) = trace := by
  constructor
  · rintro ⟨history, reached, rfl⟩
    exact (library_simulates_posix word outside).reaches reached
  · rintro ⟨history, reached, rfl⟩
    exact (posix_simulates_library word outside).reaches reached

end OpenVnc
