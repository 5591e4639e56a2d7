import OpenVnc.Transport

/-!
# The socket loops

`ovnc__socket_send_all` and `ovnc__socket_recv_all` call the system until all the bytes
have been moved. The results of the system calls are given one after another; the loop
goes on after a short count or an interruption and stops at an error or a count of zero.
What the loops can answer is exactly what the transport layer is assumed to answer.
-/

namespace OpenVnc

/-- What one call of `send` or `recv` comes to: some bytes were moved, none of them when
the peer has closed, or the call was interrupted (`EINTR`), or it failed. -/
inductive SysResult where
  | moved (bytes : List UInt8)
  | interrupted
  | failed
deriving DecidableEq, Repr

/-- The loop of both functions, for `len` bytes of which `done` have been moved. It has
no answer yet when the results run out. -/
def socketLoop (len : Nat) (done : List UInt8) (results : List SysResult) :
    Option (List UInt8 × Option Error) :=
  if len ≤ done.length then some (done, none)
  else
    match results with
    | [] => none
    | .interrupted :: rest => socketLoop len done rest
    | .failed :: _ => some (done, some .io)
    | .moved [] :: _ => some (done, some .connectionClosed)
    | .moved bytes :: rest => socketLoop len (done ++ bytes) rest

/-- `ovnc__socket_send_all`. -/
def socketSendAll (data : List UInt8) (results : List SysResult) : Option SendAnswer :=
  (socketLoop data.length [] results).map fun
    | (_, none) => .complete
    | (moved, some error) => .stopped moved.length error

/-- `ovnc__socket_recv_all`. -/
def socketRecvAll (len : Nat) (results : List SysResult) : Option RecvAnswer :=
  (socketLoop len [] results).map fun
    | (moved, none) => .complete moved
    | (moved, some error) => .stopped moved error

/-- No system call moves more bytes than it was asked for. -/
def Obeys (len : Nat) : Nat → List SysResult → Prop
  | _, [] => True
  | done, .moved bytes :: rest => done + bytes.length ≤ len ∧ Obeys len (done + bytes.length) rest
  | done, _ :: rest => Obeys len done rest

/-- Whether a loop for `len` bytes can end so. -/
def Ending (len : Nat) : List UInt8 × Option Error → Prop
  | (moved, none) => moved.length = len
  | (moved, some error) => moved.length < len ∧ (error = .io ∨ error = .connectionClosed)

/-- The loop, by induction on the results of the system. -/
theorem socketLoop_ending {len : Nat} {done : List UInt8} {results : List SysResult}
    (obeys : Obeys len done.length results) (within : done.length ≤ len)
    {answer : List UInt8 × Option Error} (ended : socketLoop len done results = some answer) :
    Ending len answer := by
  induction results generalizing done with
  | nil =>
    unfold socketLoop at ended
    split at ended
    · obtain rfl := Option.some.inj ended
      exact Nat.le_antisymm within ‹_›
    · exact absurd ended (by simp)
  | cons result rest inductionHypothesis =>
    unfold socketLoop at ended
    split at ended
    · obtain rfl := Option.some.inj ended
      exact Nat.le_antisymm within ‹_›
    · next unfinished =>
      match result with
      | .interrupted => exact inductionHypothesis obeys within ended
      | .failed =>
        obtain rfl := Option.some.inj ended
        exact ⟨Nat.not_le.mp unfinished, .inl rfl⟩
      | .moved [] =>
        obtain rfl := Option.some.inj ended
        exact ⟨Nat.not_le.mp unfinished, .inr rfl⟩
      | .moved (byte :: bytes) =>
        have size : (done ++ byte :: bytes).length = done.length + (byte :: bytes).length :=
          List.length_append
        exact inductionHypothesis (size ▸ obeys.2) (size ▸ obeys.1) ended

/-- Every ending occurs: the bytes in one call, and then the end. -/
theorem socketLoop_reaches {len : Nat} {answer : List UInt8 × Option Error}
    (ending : Ending len answer) :
    ∃ results, Obeys len 0 results ∧ socketLoop len [] results = some answer := by
  -- From any point the loop can end at once.
  have ends (done : List UInt8) (stopped : Option Error) (ending : Ending len (done, stopped)) :
      ∃ results, Obeys len done.length results ∧
        socketLoop len done results = some (done, stopped) := by
    cases stopped with
    | none =>
      have finished : len ≤ done.length := Nat.le_of_eq (Eq.symm ending)
      exact ⟨[], trivial, by simp [socketLoop, finished]⟩
    | some error =>
      have unfinished : ¬ len ≤ done.length := Nat.not_le.mpr ending.1
      have room : done.length ≤ len := Nat.le_of_lt ending.1
      rcases ending.2 with rfl | rfl
      · exact ⟨[.failed], trivial, by simp [socketLoop, unfinished]⟩
      · exact ⟨[.moved []], ⟨room, trivial⟩, by simp [socketLoop, unfinished]⟩
  obtain ⟨moved, stopped⟩ := answer
  obtain ⟨results, obeys, ended⟩ := ends moved stopped ending
  cases moved with
  | nil => exact ⟨results, obeys, ended⟩
  | cons byte bytes =>
    have within : (byte :: bytes).length ≤ len := by
      cases stopped with
      | none => exact Nat.le_of_eq ending
      | some error => exact Nat.le_of_lt ending.1
    have asked : ¬ len ≤ 0 := by simp at within; omega
    refine ⟨.moved (byte :: bytes) :: results, ⟨by simpa using within, by simpa using obeys⟩, ?_⟩
    rw [socketLoop, if_neg (by simpa using asked)]
    · exact ended
    · exact nofun

/-- The answers of the transport layer to a send are those of the loop. -/
theorem socketSendAll_allowed_iff (data : List UInt8) (answer : SendAnswer) :
    Allowed (.send data) answer ↔
      ∃ results, Obeys data.length 0 results ∧ socketSendAll data results = some answer := by
  constructor
  · intro allowed
    cases answer with
    | complete =>
      obtain ⟨results, obeys, ended⟩ := @socketLoop_reaches data.length (data, none) rfl
      exact ⟨results, obeys, by simp [socketSendAll, ended]⟩
    | stopped written error =>
      have size : (data.take written).length = written :=
        List.length_take_of_le (Nat.le_of_lt allowed.1)
      obtain ⟨results, obeys, ended⟩ := @socketLoop_reaches data.length
        (data.take written, some error) ⟨size.symm ▸ allowed.1, allowed.2⟩
      exact ⟨results, obeys, by simp [socketSendAll, ended, size]⟩
  · rintro ⟨results, obeys, ended⟩
    obtain ⟨⟨moved, stopped⟩, looped, answered⟩ := Option.map_eq_some_iff.mp ended
    have ending := socketLoop_ending obeys (Nat.zero_le _) looped
    cases stopped with
    | none =>
      subst answered
      trivial
    | some error =>
      subst answered
      exact ending

/-- The answers of the transport layer to a receive are those of the loop. -/
theorem socketRecvAll_allowed_iff (len : Nat) (answer : RecvAnswer) :
    Allowed (.recv len) answer ↔
      ∃ results, Obeys len 0 results ∧ socketRecvAll len results = some answer := by
  constructor
  · intro allowed
    cases answer with
    | complete bytes =>
      obtain ⟨results, obeys, ended⟩ := @socketLoop_reaches len (bytes, none) allowed
      exact ⟨results, obeys, by simp [socketRecvAll, ended]⟩
    | stopped received error =>
      obtain ⟨results, obeys, ended⟩ := @socketLoop_reaches len (received, some error) allowed
      exact ⟨results, obeys, by simp [socketRecvAll, ended]⟩
  · rintro ⟨results, obeys, ended⟩
    obtain ⟨⟨moved, stopped⟩, looped, answered⟩ := Option.map_eq_some_iff.mp ended
    have ending := socketLoop_ending obeys (Nat.zero_le _) looped
    cases stopped with
    | none =>
      subst answered
      exact ending
    | some error =>
      subst answered
      exact ending

end OpenVnc
