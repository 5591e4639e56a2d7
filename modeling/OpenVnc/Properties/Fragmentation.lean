import OpenVnc.Wire
import OpenVnc.Feed
import OpenVnc.Interaction.Simulations

/-!
# The division into system calls does not matter

A loop over system calls depends on what its script carries and on nothing else, and so
do the bytes it hands over and what it leaves. Two systems whose connections carry the
same therefore answer every request alike, and every sequence of calls of the API comes
to the same results, callbacks, bytes and state against both.
-/

namespace OpenVnc

open Interaction Interaction.Program

/-! ## The loops -/

/-- The bytes that were moved by these calls. -/
def movedBytes (results : List SysResult) : List UInt8 :=
  results.flatMap fun
    | .moved bytes => bytes
    | _ => []

/-- A loop with its bytes so far, how it ended if it did, and what is left to it. -/
structure Transferred where
  bytes : List UInt8
  ending : Option (Option Error)
  left : List Signal
deriving DecidableEq

/-- What a loop for `len` bytes comes to, by what its script carries alone. -/
def transferred (len : Nat) (done : List UInt8) : List Signal → Transferred
  | [] => ⟨done, if len ≤ done.length then some none else none, []⟩
  | signal :: rest =>
      if len ≤ done.length then ⟨done, some none, signal :: rest⟩
      else
        match signal with
        | .byte value => transferred len (done ++ [value]) rest
        | .closed => ⟨done, some (some .connectionClosed), rest⟩
        | .failed => ⟨done, some (some .io), rest⟩

/-- A loop that has all its bytes takes nothing more. -/
theorem transferred_finished {len : Nat} {done : List UInt8} (finished : len ≤ done.length)
    (signals : List Signal) : transferred len done signals = ⟨done, some none, signals⟩ := by
  cases signals <;> simp [transferred, finished]

/-- Bytes that the loop still wants are taken one by one. -/
theorem transferred_bytes {len : Nat} {done bytes : List UInt8}
    (wanted : done.length + bytes.length ≤ len) (signals : List Signal) :
    transferred len done (bytes.map .byte ++ signals) =
      transferred len (done ++ bytes) signals := by
  induction bytes generalizing done with
  | nil => rw [List.map_nil, List.nil_append, List.append_nil]
  | cons value bytes inductionHypothesis =>
    rw [List.length_cons] at wanted
    have unfinished : ¬ len ≤ done.length := by omega
    have rest : (done ++ [value]).length + bytes.length ≤ len := by
      rw [List.length_append, List.length_singleton]
      omega
    rw [List.map_cons, List.cons_append, transferred, if_neg unfinished,
      inductionHypothesis rest, List.append_assoc, List.singleton_append]

/-- Of more bytes than it wants the loop takes the first. -/
theorem transferred_beyond {len : Nat} {done bytes : List UInt8}
    (beyond : len ≤ done.length + bytes.length) (started : done.length ≤ len)
    (signals : List Signal) :
    transferred len done (bytes.map .byte ++ signals) =
      ⟨done ++ bytes.take (len - done.length), some none,
        (bytes.drop (len - done.length)).map .byte ++ signals⟩ := by
  have taken : (bytes.take (len - done.length)).length = len - done.length :=
    List.length_take_of_le (by omega)
  have whole : len ≤ (done ++ bytes.take (len - done.length)).length := by
    rw [List.length_append, taken]
    omega
  have split : bytes.map Signal.byte ++ signals = (bytes.take (len - done.length)).map .byte ++
      ((bytes.drop (len - done.length)).map .byte ++ signals) := by
    rw [← List.append_assoc, ← List.map_append, List.take_append_drop]
  rw [split, transferred_bytes (by omega), transferred_finished whole]

/-- A nonempty result carries its bytes. -/
theorem carried_moved {bytes : List UInt8} (some : bytes ≠ []) (rest : List SysResult) :
    carried (.moved bytes :: rest) = bytes.map .byte ++ carried rest := by
  cases bytes with
  | nil => exact absurd rfl some
  | cons => rfl

/-- A receive that is handed some bytes takes what it wants of them. What it has no use for stays
in the script. -/
theorem serve_moved {wanted : Nat} {bytes : List UInt8} (unfinished : wanted ≠ 0)
    (some : bytes ≠ []) (rest : List SysResult) :
    serve wanted (.moved bytes :: rest) =
      if bytes.length ≤ wanted then
        (.moved bytes :: (serve (wanted - bytes.length) rest).1,
          (serve (wanted - bytes.length) rest).2)
      else ([.moved (bytes.take wanted)], .moved (bytes.drop wanted) :: rest) := by
  rw [serve, if_neg unfinished]
  intro nothing
  exact absurd nothing some

/-- A loop that has not finished goes on with what a call has moved. -/
theorem socketLoop_moved {len : Nat} {done bytes : List UInt8} (unfinished : ¬ len ≤ done.length)
    (some : bytes ≠ []) (rest : List SysResult) :
    socketLoop len done (.moved bytes :: rest) = socketLoop len (done ++ bytes) rest := by
  rw [socketLoop, if_neg unfinished]
  intro nothing
  exact absurd nothing some

/-- The loop of the source, over the results that the system gives it, comes to what its
script carries, by induction on the script. -/
theorem serve_transferred (len : Nat) (done : List UInt8) (script : List SysResult) :
    socketLoop len done (serve (len - done.length) script).1 =
        (transferred len done (carried script)).ending.map
          (fun ending => ((transferred len done (carried script)).bytes, ending)) ∧
      done ++ movedBytes (serve (len - done.length) script).1 =
        (transferred len done (carried script)).bytes ∧
      carried (serve (len - done.length) script).2 =
        (transferred len done (carried script)).left := by
  induction script generalizing done with
  | nil =>
    by_cases finished : len ≤ done.length
    · simp [serve, socketLoop, transferred, carried, movedBytes, finished]
    · simp [serve, socketLoop, transferred, carried, movedBytes, finished]
  | cons result rest inductionHypothesis =>
    by_cases finished : len ≤ done.length
    · have nothing : len - done.length = 0 := by omega
      rw [transferred_finished finished, nothing]
      simp [serve, socketLoop, movedBytes, finished]
    · have something : len - done.length ≠ 0 := by omega
      cases result with
      | interrupted =>
        obtain ⟨answered, moved, left⟩ := inductionHypothesis done
        rw [serve, if_neg something]
        refine ⟨?_, moved, left⟩
        rw [socketLoop, if_neg finished]
        exact answered
      | failed =>
        rw [serve, if_neg something]
        simp [socketLoop, transferred, carried, SysResult.signals, movedBytes, finished]
      | moved received =>
        cases received with
        | nil =>
          rw [serve, if_neg something]
          simp [socketLoop, transferred, carried, SysResult.signals, movedBytes, finished]
        | cons byte others =>
          obtain ⟨bytes, some, shape⟩ : ∃ bytes, bytes ≠ [] ∧ byte :: others = bytes :=
            ⟨_, List.cons_ne_nil byte others, rfl⟩
          rw [shape, serve_moved something some, carried_moved some]
          by_cases fits : bytes.length ≤ len - done.length
          · rw [if_pos fits, transferred_bytes (by omega)]
            have wanted : len - (done ++ bytes).length = len - done.length - bytes.length := by
              rw [List.length_append]
              omega
            obtain ⟨answered, moved, left⟩ := inductionHypothesis (done ++ bytes)
            rw [wanted] at answered moved left
            refine ⟨(socketLoop_moved finished some _).trans answered, ?_, left⟩
            rw [← moved, List.append_assoc]
            rfl
          · -- The call takes what is wanted, and that finishes the loop.
            rw [if_neg fits, transferred_beyond (by omega) (by omega)]
            have front : bytes.take (len - done.length) ≠ [] :=
              List.ne_nil_of_length_pos (by rw [List.length_take]; omega)
            have back : bytes.drop (len - done.length) ≠ [] :=
              List.ne_nil_of_length_pos (by rw [List.length_drop]; omega)
            have whole : len ≤ (done ++ bytes.take (len - done.length)).length := by
              rw [List.length_append, List.length_take]
              omega
            refine ⟨?_, ?_, carried_moved back rest⟩
            · rw [socketLoop_moved finished front, socketLoop, if_pos whole]
              rfl
            · rw [movedBytes, List.flatMap_singleton]

/-- The calls of a sending loop hand over the beginning of its data, each byte once. -/
theorem handedOver_eq (data : List UInt8) (results : List SysResult) :
    handedOver data results = data.take (movedBytes results).length := by
  induction results generalizing data with
  | nil => rfl
  | cons result rest inductionHypothesis =>
    cases result with
    | interrupted | failed => exact inductionHypothesis data
    | moved bytes =>
      have size : (movedBytes (.moved bytes :: rest)).length =
          bytes.length + (movedBytes rest).length := List.length_append
      rw [handedOver, inductionHypothesis, size, List.take_add]

/-- What the two functions answer and leave, by what their script carries. -/
theorem serve_same {script script' : List SysResult} (same : carried script = carried script')
    (len : Nat) :
    socketLoop len [] (serve len script).1 = socketLoop len [] (serve len script').1 ∧
      movedBytes (serve len script).1 = movedBytes (serve len script').1 ∧
      carried (serve len script).2 = carried (serve len script').2 := by
  obtain ⟨answered, moved, left⟩ := serve_transferred len [] script
  obtain ⟨answered', moved', left'⟩ := serve_transferred len [] script'
  rw [List.length_nil, Nat.sub_zero] at answered answered' moved moved' left left'
  rw [answered, answered', left, left', same]
  rw [List.nil_append] at moved moved'
  exact ⟨rfl, moved.trans (same ▸ moved'.symm), rfl⟩

/-- The bytes of a loop that completes come before any end. -/
theorem transferred_complete {len : Nat} {done : List UInt8} (started : done.length ≤ len)
    {signals : List Signal} (ended : (transferred len done signals).ending = some none) :
    ∃ bytes rest, (transferred len done signals).bytes = done ++ bytes ∧
      (done ++ bytes).length = len ∧ signals = bytes.map .byte ++ rest := by
  induction signals generalizing done with
  | nil =>
    have finished : len ≤ done.length := by
      by_contra unfinished
      simp [transferred, unfinished] at ended
    exact ⟨[], [], (List.append_nil _).symm, by rw [List.append_nil]; omega, rfl⟩
  | cons signal rest inductionHypothesis =>
    by_cases finished : len ≤ done.length
    · rw [transferred_finished finished]
      exact ⟨[], _, (List.append_nil _).symm, by rw [List.append_nil]; omega, rfl⟩
    · cases signal with
      | closed | failed =>
        rw [transferred, if_neg finished] at ended
        cases ended
      | byte value =>
        rw [transferred, if_neg finished] at ended ⊢
        have step : (done ++ [value]).length ≤ len := by
          rw [List.length_append, List.length_singleton]
          omega
        obtain ⟨bytes, left, same, size, split⟩ := inductionHypothesis step ended
        rw [List.append_assoc] at same size
        exact ⟨value :: bytes, left, same, size, congrArg _ split⟩

/-- `ovnc__socket_recv_all` completes exactly when its bytes arrive before any end, and
with these bytes. -/
theorem socketRecvAll_complete_iff (len : Nat) (script : List SysResult) (bytes : List UInt8) :
    socketRecvAll len (serve len script).1 = some (.complete bytes) ↔
      bytes.length = len ∧ ∃ rest, carried script = bytes.map .byte ++ rest := by
  obtain ⟨answered, -, -⟩ := serve_transferred len [] script
  rw [List.length_nil, Nat.sub_zero] at answered
  rw [socketRecvAll, answered]
  constructor
  · intro completed
    cases ended : (transferred len [] (carried script)).ending with
    | none =>
      rw [ended] at completed
      cases completed
    | some ending =>
      cases ending with
      | some error =>
        rw [ended] at completed
        cases completed
      | none =>
        obtain ⟨taken, rest, same, size, split⟩ := transferred_complete (Nat.zero_le len) ended
        rw [ended, same] at completed
        cases completed
        exact ⟨size, rest, split⟩
  · rintro ⟨size, rest, split⟩
    have whole : len ≤ bytes.length := Nat.le_of_eq size.symm
    rw [split, transferred_bytes (by rw [List.length_nil]; omega), List.nil_append,
      transferred_finished whole]
    rfl

/-- `ovnc__socket_send_all` completes only when it has handed over all its data. -/
theorem socketSendAll_complete {data : List UInt8} {script : List SysResult}
    (completed : socketSendAll data (serve data.length script).1 = some .complete) :
    handedOver data (serve data.length script).1 = data := by
  obtain ⟨answered, moved, -⟩ := serve_transferred data.length [] script
  rw [List.length_nil, Nat.sub_zero] at answered moved
  rw [socketSendAll, answered] at completed
  cases ended : (transferred data.length [] (carried script)).ending with
  | none =>
    rw [ended] at completed
    cases completed
  | some ending =>
    cases ending with
    | some error =>
      rw [ended] at completed
      cases completed
    | none =>
      obtain ⟨taken, rest, same, size, -⟩ := transferred_complete (Nat.zero_le _) ended
      rw [List.nil_append] at moved
      rw [handedOver_eq, moved, same, size, List.take_length]

/-! ## The system -/

section TwoSystems

variable {W : Type} {system system' : System W}

/-- Systems that carry the same answer alike. -/
theorem System.answer_alike (others : Handler Request Answer W) :
    Interaction.Alike System.Alike (System.answer others) (System.answer others) := by
  rintro request ⟨wire, upcoming, streams, fired, world⟩ ⟨wire', upcoming', _, _, _⟩
    ⟨⟨incoming, outgoing⟩, coming, rfl, rfl, rfl⟩
  cases request with
  | recv len =>
    obtain ⟨answered, -, left⟩ := serve_same incoming len
    refine ⟨?_, ⟨left, outgoing⟩, coming, rfl, rfl, rfl⟩
    exact congrArg (Option.map _) answered
  | send data =>
    obtain ⟨answered, moved, left⟩ := serve_same outgoing data.length
    refine ⟨congrArg (Option.map _) answered, ⟨incoming, left⟩, coming, ?_, rfl, rfl⟩
    simp only [System.answer, System.emit, handedOver_eq, moved]
  | socketConnect host port timeoutMs =>
    simp only [System.answer]
    rcases others (.socketConnect host port timeoutMs) world with ⟨_ | (error | sock), later⟩
    · exact ⟨rfl, ⟨incoming, outgoing⟩, coming, rfl, rfl, rfl⟩
    · exact ⟨rfl, ⟨incoming, outgoing⟩, coming, rfl, rfl, rfl⟩
    · cases coming with
      | nil => exact ⟨rfl, ⟨incoming, outgoing⟩, .nil, rfl, rfl, rfl⟩
      | cons first others => exact ⟨rfl, first, others, rfl, rfl, rfl⟩
  | _ => exact ⟨rfl, ⟨incoming, outgoing⟩, coming, rfl, rfl, rfl⟩

end TwoSystems

/-! ## The API -/

/-- Whatever the client, its calls, and the application and the system apart from the
connections: two divisions of the same bytes and ends into system calls lead to the same
results, state, bytes and callbacks. A receive completes exactly with the bytes that come
before an end, a send only after it has handed over its data. -/
theorem fragmentation_independent :
    (∀ {W : Type} (others : Handler Request Answer W) (word : WordSize)
      (calls : List (ApiCall × Nat)) (destroyed : Bool) (memory : Memory)
      (system system' : System W), system.Alike system' →
      (runAll (System.answer others) (callRoutines word calls destroyed) memory system).1 =
          (runAll (System.answer others) (callRoutines word calls destroyed) memory system').1 ∧
        (runAll (System.answer others) (callRoutines word calls destroyed) memory system).2.1 =
          (runAll (System.answer others) (callRoutines word calls destroyed) memory system').2.1 ∧
        (runAll (System.answer others) (callRoutines word calls destroyed) memory
          system).2.2.Alike
          (runAll (System.answer others) (callRoutines word calls destroyed) memory
            system').2.2) ∧
    (∀ len script bytes, socketRecvAll len (serve len script).1 = some (.complete bytes) ↔
      bytes.length = len ∧ ∃ rest, carried script = bytes.map .byte ++ rest) ∧
    (∀ data script, socketSendAll data (serve data.length script).1 = some .complete →
      handedOver data (serve data.length script).1 = data) := by
  refine ⟨?_, socketRecvAll_complete_iff, fun data script => socketSendAll_complete⟩
  intro W others word calls destroyed memory system system' alike
  exact runAll_alike (System.answer_alike others) _ memory alike

/-- A system with one connection to come and `plainHost` for everything else. -/
def dialling (incoming outgoing : List SysResult) : System Feed where
  wire := ⟨[], []⟩
  upcoming := [⟨incoming, outgoing⟩]
  streams := []
  fired := []
  world := { unread := [] }

/-- The greeting in one piece, and a system that takes all it is given. -/
def atOnce : System Feed :=
  dialling [.moved plainGreeting, .moved []] [.moved (List.replicate 13 0)]

/-- The same in several pieces, with interruptions. -/
def inPieces : System Feed :=
  dialling [.interrupted, .moved (plainGreeting.take 5), .moved ((plainGreeting.drop 5).take 20),
      .interrupted, .interrupted, .moved (plainGreeting.drop 25), .moved []]
    [.moved [0, 0, 0], .interrupted, .moved (List.replicate 9 0), .moved [0]]

/-- The example's stream, once in a single piece and once in several with interruptions: the
connect succeeds in both, and the message after it finds the connection closed. -/
theorem fragmentation_independent_connect :
    (runAll (System.answer plainHost.feed) (callRoutines .bits64
        [(.connect, 0), (.processMessage, 0)] true) ⟨plainClient {}, 0, 0⟩ atOnce).1 =
      [.returned (), .failed .connectionClosed, .returned ()] ∧
    (runAll (System.answer plainHost.feed) (callRoutines .bits64
        [(.connect, 0), (.processMessage, 0)] true) ⟨plainClient {}, 0, 0⟩ atOnce).1 =
      (runAll (System.answer plainHost.feed) (callRoutines .bits64 [(.connect, 0),
        (.processMessage, 0)] true) ⟨plainClient {}, 0, 0⟩ inPieces).1 := by
  constructor
  · decide
  · refine (fragmentation_independent.1 plainHost.feed .bits64 _ true _ atOnce inPieces ?_).1
    refine ⟨⟨rfl, rfl⟩, ?_, rfl, rfl, rfl⟩
    exact .cons ⟨by decide, by decide⟩ .nil

end OpenVnc
