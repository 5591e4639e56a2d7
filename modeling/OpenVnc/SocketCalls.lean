import OpenVnc.Posix
import Mathlib.Data.Multiset.AddSub

/-!
# What the socket functions come to

A ledger of the open sockets takes a step with each system call, and has none for a call on a
socket that is not open. The functions of `ovnc_socket_posix.c` keep in step with it; what they
answer is what the transport layer can be answered, and no more.
-/

namespace OpenVnc

open Interaction Interaction.Program

/-! ## The open sockets -/

/-- The sockets that are open after a system call of `ovnc__socket_connect`, or none of it on a
socket that is not. -/
def sysLedger (opened : Multiset Socket) : (call : SysCall) → SysAnswer call →
    Option (Multiset Socket)
  | .socket _, sock => some (if sock < 0 then opened else sock ::ₘ opened)
  | .close sock, _ => if sock ∈ opened then some (opened.erase sock) else none
  | .fcntlGetfl sock, _ => if sock ∈ opened then some opened else none
  | .fcntlSetfl sock _, _ => if sock ∈ opened then some opened else none
  | .connect sock _, _ => if sock ∈ opened then some opened else none
  | .poll sock _, _ => if sock ∈ opened then some opened else none
  | .getsockopt sock, _ => if sock ∈ opened then some opened else none
  | _, _ => some opened

/-- The sockets that are open after a call. -/
def callLedger (opened : Multiset Socket) : (call : Call) → CallAnswer call →
    Option (Multiset Socket)
  | .move sock _, _ => if sock ∈ opened then some opened else none
  | .system call, answer => sysLedger opened call answer
  | .outside _, _ => some opened

/-- The sockets that are open after a request: the transport layer transfers over the client's
own, and closes what it connected. -/
def requestLedger (opened : Multiset Socket) (step : Step) : Option (Multiset Socket) :=
  match step with
  | ⟨memory, .recv _, _⟩ => if memory.client.sock ∈ opened then some opened else none
  | ⟨memory, .send _, _⟩ => if memory.client.sock ∈ opened then some opened else none
  | ⟨_, .socketConnect .., .ok sock⟩ => some (sock ::ₘ opened)
  | ⟨_, .socketClose sock, _⟩ =>
      if sock = invalidSocket then some opened
      else if sock ∈ opened then some (opened.erase sock) else none
  | _ => some opened

/-! ## Opening a connection -/

section Connecting

/-- The result of a part of `ovnc__socket_connect` that started with these sockets open. With an
error no other is. The variable of the caller is not written. -/
def AttemptEnded {α : Type} (timeoutMs : UInt32) (opened : Multiset Socket) (memory : Socket)
    (reaches : α → Multiset Socket → Prop) :
    Except Error α → Multiset Socket → Socket → Prop
  | .ok value, reached, final => final = memory ∧ reaches value reached
  | .error error, reached, final => final = memory ∧ reached = opened ∧ Dialable timeoutMs error

/-- The system calls of a part are on open sockets. -/
abbrev DialsOpen {α : Type} (before : Multiset Socket) (routine : SysRoutine α) (memory : Socket)
    (passed : α → Multiset Socket → Socket → Prop)
    (settled : Error → Multiset Socket → Socket → Prop) : Prop :=
  Shadows (fun _ _ => True) (.blind sysLedger) (fun _ => True) before routine memory passed settled

variable {timeoutMs : UInt32} {rp : AddrInfo} {sock memory : Socket} {err : Error}
  {opened : Multiset Socket}

/-- A system call that opens and closes nothing, and what follows it. -/
theorem dials_then {α : Type} {call : SysCall} {following : SysAnswer call → SysRoutine α}
    {passed : α → Multiset Socket → Socket → Prop}
    {settled : Error → Multiset Socket → Socket → Prop}
    (unmoved : ∀ answer, sysLedger opened call answer = some opened)
    (continues : ∀ answer, DialsOpen opened (following answer) memory passed settled) :
    DialsOpen opened (sequence (ask call) following) memory passed settled := by
  refine Shadows.through (fun _ reached final => reached = opened ∧ final = memory)
    (Shadows.ask (fun answer _ => ⟨opened, unmoved answer, rfl, rfl⟩)) ?_
  rintro answer reached final ⟨rfl, rfl⟩
  exact continues answer

/-- Giving a socket up closes it, so that the sockets open are those from before it was opened. -/
theorem abandonSocket_dials {α : Type} {reaches : α → Multiset Socket → Prop}
    (dialable : Dialable timeoutMs err) :
    DialsOpen (sock ::ₘ opened) (abandonSocket sock err) memory
      (AttemptEnded timeoutMs opened memory reaches) (fun _ _ _ => False) := by
  refine Shadows.through (fun _ reached final => reached = opened ∧ final = memory)
    (Shadows.ask (fun answer _ => ⟨opened, ?_, rfl, rfl⟩)) ?_
  · simp [Shadow.blind, sysLedger]
  · rintro answer reached final ⟨rfl, rfl⟩
    exact Shadows.done ⟨rfl, rfl, dialable⟩

/-- Setting the flags of a socket, or finding that they could not be read, opens and closes
nothing. -/
theorem setFlags_dials {α : Type} {following : Unit → SysRoutine α} {valid : Prop}
    [Decidable valid] {flags : Int32} {passed : α → Multiset Socket → Socket → Prop}
    {settled : Error → Multiset Socket → Socket → Prop}
    (continues : DialsOpen (sock ::ₘ opened) (following ()) memory passed settled) :
    DialsOpen (sock ::ₘ opened) (sequence (setFlags valid sock flags) following) memory passed
      settled := by
  unfold setFlags onlyIf
  split
  · exact dials_then (by simp [sysLedger]) (fun _ => continues)
  · exact continues

/-- `select` and `getsockopt` on the socket being connected leave it open when it turns out
connected; otherwise it is closed before the error. -/
theorem awaitConnect_dials (positive : 0 < timeoutMs) :
    DialsOpen (sock ::ₘ opened) (awaitConnect timeoutMs sock) memory
      (AttemptEnded timeoutMs opened memory (fun _ reached => reached = sock ::ₘ opened))
      (fun _ _ _ => False) := by
  apply dials_then (by simp [sysLedger])
  intro pollRc
  apply Shadows.ite
  · intro unready
    apply abandonSocket_dials
    by_cases expired : pollRc = 0 <;> simp [Dialable, expired, positive]
  · intro ready
    apply dials_then (by simp [sysLedger])
    intro soError
    exact Shadows.ite (fun _ => abandonSocket_dials (.inl rfl)) (fun _ => Shadows.done ⟨rfl, rfl⟩)

/-- The nonblocking connect ends with the socket open or with an error and the socket closed. -/
theorem connectNonblocking_dials (positive : 0 < timeoutMs) (dialable : Dialable timeoutMs err) :
    DialsOpen (sock ::ₘ opened) (connectNonblocking timeoutMs rp sock err) memory
      (AttemptEnded timeoutMs opened memory (fun _ reached => reached = sock ::ₘ opened))
      (fun _ _ _ => False) := by
  apply dials_then (by simp [sysLedger])
  intro rc
  cases rc with
  | connected => exact Shadows.done ⟨rfl, rfl⟩
  | inProgress => exact awaitConnect_dials positive
  | failed => exact abandonSocket_dials dialable

/-- The attempt with a timeout: the socket is returned open, with its flags written back, or
closed. -/
theorem connectTimed_dials (positive : 0 < timeoutMs) (dialable : Dialable timeoutMs err)
    (valid : ¬ sock < 0) :
    DialsOpen (sock ::ₘ opened) (connectTimed timeoutMs rp sock err) memory
      (AttemptEnded timeoutMs opened memory
        (fun value reached => 0 ≤ value ∧ reached = value ::ₘ opened)) (fun _ _ _ => False) := by
  apply dials_then (by simp [sysLedger])
  intro flags
  apply setFlags_dials
  refine Shadows.sequence (connectNonblocking_dials positive dialable) ?_
  rintro (error | ⟨⟩) reached final ended
  · exact Shadows.done ended
  · obtain ⟨rfl, rfl⟩ := ended
    exact setFlags_dials (Shadows.done ⟨rfl, Int.not_lt.mp valid, rfl⟩)

/-- The attempt without a timeout: the socket is returned open or closed, with an error in the
latter case. -/
theorem connectBlocking_dials (dialable : Dialable timeoutMs err) (valid : ¬ sock < 0) :
    DialsOpen (sock ::ₘ opened) (connectBlocking rp sock err) memory
      (AttemptEnded timeoutMs opened memory
        (fun value reached => 0 ≤ value ∧ reached = value ::ₘ opened)) (fun _ _ _ => False) := by
  apply dials_then (by simp [sysLedger])
  intro rc
  exact Shadows.ite (fun _ => abandonSocket_dials dialable)
    (fun _ => Shadows.done ⟨rfl, Int.not_lt.mp valid, rfl⟩)

/-- One pass of the loop. -/
theorem tryAddress_dials (dialable : Dialable timeoutMs err) :
    DialsOpen opened (tryAddress timeoutMs rp err) memory
      (AttemptEnded timeoutMs opened memory
        (fun value reached => 0 ≤ value ∧ reached = value ::ₘ opened)) (fun _ _ _ => False) := by
  refine Shadows.through (fun value reached final => final = memory ∧
    reached = if value < 0 then opened else value ::ₘ opened)
    (Shadows.ask (fun sock _ => ⟨_, rfl, rfl, rfl⟩)) ?_
  rintro sock reached final ⟨rfl, rfl⟩
  apply Shadows.ite
  · intro unopened
    rw [if_pos unopened]
    exact Shadows.done ⟨rfl, rfl, dialable⟩
  · intro valid
    rw [if_neg valid]
    exact Shadows.ite (fun positive => connectTimed_dials positive dialable valid)
      (fun _ => connectBlocking_dials dialable valid)

/-- The loop, by induction on the addresses. -/
theorem connectLoop_dials (res : List AddrInfo) (dialable : Dialable timeoutMs err) :
    DialsOpen opened (connectLoop timeoutMs res err) memory
      (fun result reached final => match result with
        | .ok () => 0 ≤ final ∧ reached = final ::ₘ opened
        | .error error => final = memory ∧ reached = opened ∧ Dialable timeoutMs error)
      (fun _ _ _ => False) := by
  induction res generalizing err with
  | nil => exact Shadows.done ⟨rfl, rfl, dialable⟩
  | cons rp rest inductionHypothesis =>
    refine Shadows.sequence (tryAddress_dials dialable) ?_
    rintro (error | sock) reached final ended
    · obtain ⟨rfl, rfl, dialable⟩ := ended
      exact inductionHypothesis dialable
    · obtain ⟨rfl, valid, rfl⟩ := ended
      exact Shadows.sequence (Shadows.update ⟨valid, rfl⟩) (fun _ _ _ held => Shadows.done held)

/-- `ovnc__socket_connect` leaves one more socket open, or none. -/
theorem socketConnect_dials (host : String) (port : UInt16) (timeoutMs : UInt32)
    (opened : Multiset Socket) (memory : Socket) :
    DialsOpen opened (socketConnect host port timeoutMs) memory
      (fun _ reached final => 0 ≤ final ∧ reached = final ::ₘ opened)
      (fun error reached _ => reached = opened ∧ Dialable timeoutMs error) := by
  refine Shadows.through (fun _ reached _ => reached = opened) (Shadows.update rfl) ?_
  rintro ⟨⟩ reached final rfl
  apply dials_then (fun _ => rfl)
  rintro (code | res)
  · exact Shadows.fail ⟨rfl, .inl rfl⟩
  · refine Shadows.sequence ((connectLoop_dials res (.inl rfl)).weaken (fun _ _ _ held => held)
      (fun _ _ _ impossible => impossible.elim)) ?_
    rintro result reached final ended
    apply dials_then (fun _ => rfl)
    intro freed
    cases result with
    | error error => exact Shadows.fail ended.2
    | ok value => exact Shadows.done ended

end Connecting

/-! ## Moving bytes -/

/-- The bytes that a system call has moved. -/
def SysResult.bytes : SysResult → List UInt8
  | moved bytes => bytes
  | _ => []

/-- What the calls of `recv` and `send` came to, in order. -/
def results (calls : List CallStep) : List SysResult :=
  calls.filterMap (fun call =>
    match call with
    | ⟨_, .move _ _, result⟩ => some result
    | _ => none)

section Moving

variable {outside : (request : Request) → Answer request → Prop} {memory : Memory}
  {sock : Socket} {remaining : List UInt8 → Move} {len : Nat} {holds : List UInt8 → Prop}

/-- Calls that move bytes over a socket from the memory. -/
def OverSocket (memory : Memory) (sock : Socket) (remaining : List UInt8 → Move)
    (calls : List CallStep) : Prop :=
  ∀ call ∈ calls, ∃ before result, call = ⟨memory, .move sock (remaining before), result⟩

/-- What the loop comes to after some bytes: the results of its calls decide it. -/
structure Moved (memory : Memory) (sock : Socket) (remaining : List UInt8 → Move) (len : Nat)
    (holds : List UInt8 → Prop) (moved : List UInt8) (calls : List CallStep)
    (outcome : Outcome Error Fault (List UInt8 × Option Error)) (final : Memory) : Prop where
  same : final = memory
  overSocket : OverSocket memory sock remaining calls
  obeys : Obeys len moved.length (results calls)
  looped : match outcome with
    | .returned answer => socketLoop len moved (results calls) = some answer ∧ holds answer.1 ∧
        answer.1 = moved ++ (results calls).flatMap SysResult.bytes
    | .waiting => socketLoop len moved (results calls) = none
    | _ => False

/-- A system call after which the loop goes on. -/
theorem Moved.cons {moved : List UInt8} {result : SysResult} {calls : List CallStep}
    {outcome : Outcome Error Fault (List UInt8 × Option Error)} {final : Memory}
    (goesOn : ∀ rest, socketLoop len moved (result :: rest) =
      socketLoop len (moved ++ result.bytes) rest)
    (obeys : ∀ rest, Obeys len (moved ++ result.bytes).length rest →
      Obeys len moved.length (result :: rest))
    (later : Moved memory sock remaining len holds (moved ++ result.bytes) calls outcome final) :
    Moved memory sock remaining len holds moved
      (⟨memory, .move sock (remaining moved), result⟩ :: calls) outcome final where
  same := later.same
  overSocket := by
    intro call member
    rcases List.mem_cons.mp member with rfl | after
    · exact ⟨moved, result, rfl⟩
    · exact later.overSocket call after
  obeys := obeys _ later.obeys
  looped := by
    have looped := later.looped
    cases outcome with
    | returned answer =>
      obtain ⟨ended, kept, bytes⟩ := looped
      refine ⟨(goesOn _).trans ended, kept, bytes.trans ?_⟩
      exact (List.append_assoc ..).trans rfl
    | waiting => exact (goesOn _).trans looped
    | failed | faulted => exact looped

/-- The loop, by induction on its system calls. -/
theorem moveAll_moves (fits : ∀ moved, holds moved → moved.length ≤ len)
    (kept : ∀ moved bytes, holds moved →
      Behaves outside (.move sock (remaining moved)) (.moved bytes) → holds (moved ++ bytes))
    (calls : Nat) {moved : List UInt8} (begun : holds moved) :
    (moveAll sock remaining len calls moved).wp (Behaves outside)
      (Moved memory sock remaining len holds moved) memory := by
  have finished {moved : List UInt8} (begun : holds moved) (full : len ≤ moved.length) :
      Moved memory sock remaining len holds moved [] (.returned (moved, none)) memory := by
    refine ⟨rfl, by simp [OverSocket], trivial, ?_⟩
    simp [socketLoop, results, full, begun]
  induction calls generalizing moved with
  | zero =>
    refine (wp_ite _ _ _ _ _).mpr ⟨finished begun, fun short => ?_⟩
    exact ⟨rfl, by simp [OverSocket], trivial, by simp [socketLoop, results, short]⟩
  | succ calls inductionHypothesis =>
    refine (wp_ite _ _ _ _ _).mpr ⟨finished begun, fun short => ?_⟩
    refine ⟨⟨rfl, by simp [OverSocket], trivial, by simp [socketLoop, results, short]⟩,
      fun result behaves => ?_⟩
    have last (stop : Error) (stopped : socketLoop len moved [result] = some (moved, some stop))
        (nothing : result.bytes = []) (obeys : Obeys len moved.length [result]) :
        Moved memory sock remaining len holds moved
          [⟨memory, .move sock (remaining moved), result⟩] (.returned (moved, some stop))
          memory := by
      refine ⟨rfl, fun call member => ?_, obeys, stopped, begun, ?_⟩
      · exact ⟨moved, result, List.mem_singleton.mp member⟩
      · simp [results, nothing]
    cases result with
    | interrupted =>
      refine wp_mono (inductionHypothesis begun) (fun later outcome final moves => ?_)
      refine Moved.cons (fun rest => ?_) (fun rest obeys => ?_) ?_
      · simp [SysResult.bytes, socketLoop, short]
      · simpa [SysResult.bytes, Obeys] using obeys
      · simpa [SysResult.bytes] using moves
    | failed => exact last .io (by simp [socketLoop, short]) rfl trivial
    | moved bytes =>
      cases bytes with
      | nil =>
        refine last .connectionClosed (by simp [socketLoop, short]) rfl ⟨?_, trivial⟩
        simpa using fits moved begun
      | cons byte bytes =>
        have further : holds (moved ++ byte :: bytes) := kept moved _ begun behaves
        refine wp_mono (inductionHypothesis further) (fun later outcome final moves => ?_)
        refine Moved.cons (fun rest => ?_) (fun rest obeys => ?_) moves
        · simp [SysResult.bytes, socketLoop, short]
        · have size := fits _ further
          rw [List.length_append] at size
          exact ⟨size, by simpa [SysResult.bytes] using obeys⟩

/-- Every end of the loop occurs, with two system calls: the bytes in one, and then the end. -/
theorem moveAll_reaches (limit : Nat) {answer : List UInt8 × Option Error}
    (ending : Ending len answer)
    (behaves : Behaves outside (.move sock (remaining [])) (.moved answer.1)) :
    ∃ calls, Execution (Behaves outside) (moveAll sock remaining len (limit + 2) []) memory calls
      (.returned answer) memory := by
  have ends (limit : Nat) {moved : List UInt8} {stopped : Option Error}
      (ending : Ending len (moved, stopped)) :
      ∃ calls, Execution (Behaves outside) (moveAll sock remaining len (limit + 1) moved) memory
        calls (.returned (moved, stopped)) memory := by
    cases stopped with
    | none =>
      rw [moveAll, if_pos (Nat.le_of_eq (Eq.symm ending))]
      exact ⟨[], .done _ memory⟩
    | some error =>
      rw [moveAll, if_neg (Nat.not_le.mpr ending.1)]
      rcases ending.2 with rfl | rfl
      · refine ⟨_, .answered SysResult.failed ?_ (.done _ memory)⟩
        cases remaining moved <;> trivial
      · refine ⟨_, .answered (SysResult.moved []) ?_ (.done _ memory)⟩
        cases remaining moved with
        | recv len => exact Nat.zero_le len
        | send data => exact List.nil_prefix
  obtain ⟨moved, stopped⟩ := answer
  cases moved with
  | nil => exact ends (limit + 1) ending
  | cons byte bytes =>
    have short : ¬ len ≤ ([] : List UInt8).length := by
      cases stopped with
      | none =>
        have full : (byte :: bytes).length = len := ending
        simp only [List.length_cons, List.length_nil] at full ⊢
        omega
      | some error =>
        have short := ending.1
        simp only [List.length_nil] at short ⊢
        omega
    obtain ⟨calls, executed⟩ := ends limit ending
    rw [moveAll, if_neg short]
    exact ⟨⟨memory, .move sock (remaining []), SysResult.moved (byte :: bytes)⟩ :: calls,
      Execution.asked _ behaves executed⟩

/-- What is seen of calls over a socket is their bytes. -/
theorem OverSocket.items {calls : List CallStep}
    (overSocket : OverSocket memory sock remaining calls) (mark : UInt8 → Item)
    (shown : ∀ before result, callItems ⟨memory, .move sock (remaining before), result⟩ =
      result.bytes.map mark) :
    calls.flatMap callItems = ((results calls).flatMap SysResult.bytes).map mark := by
  induction calls with
  | nil => rfl
  | cons call calls inductionHypothesis =>
    obtain ⟨before, result, rfl⟩ := overSocket call List.mem_cons_self
    have rest := inductionHypothesis (fun later member =>
      overSocket later (List.mem_cons_of_mem _ member))
    simp only [List.flatMap_cons, shown, rest, results, List.filterMap_cons, List.map_append]

/-- The calls are on the socket, which they leave open. -/
theorem OverSocket.unmoved {calls : List CallStep}
    (overSocket : OverSocket memory sock remaining calls) {opened : Multiset Socket}
    (attached : sock ∈ opened) :
    (Shadow.blind callLedger).after opened calls = some opened := by
  apply Shadow.after_unmoved
  intro call member
  obtain ⟨before, result, rfl⟩ := overSocket call member
  simp [Shadow.blind, callLedger, attached]

/-- What a transfer over a socket comes to: it is answered as the loop has it of the results of
its calls, which move the bytes that are seen above. -/
def TransfersOver (memory : Memory) (sock : Socket) (remaining : List UInt8 → Move)
    (request : Request) (looped : List SysResult → Option (Answer request))
    (calls : List CallStep) (outcome : Outcome Error Fault (Answer request)) (final : Memory) :
    Prop :=
  final = memory ∧ OverSocket memory sock remaining calls ∧
    match outcome with
    | .returned answer => looped (results calls) = some answer ∧ Allowed request answer ∧
        calls.flatMap callItems = requestItems ⟨memory, request, answer⟩
    | .waiting => looped (results calls) = none
    | _ => False

/-- `ovnc__socket_recv_all` over POSIX: the request's answer is what the loop makes of the results
of `recv`, and the bytes received are the ones seen above. -/
theorem posixRecvAll_transfers (calls : Nat) (sock : Socket) (len : Nat) (memory : Memory) :
    (posixRecvAll calls sock len).wp (Behaves outside)
      (TransfersOver memory sock (recvRest len) (.recv len)
        (socketRecvAll len)) memory := by
  have moves : (moveAll sock (recvRest len) len calls []).wp
      (Behaves outside) (Moved memory sock (recvRest len) len (fun moved => moved.length ≤ len) [])
      memory := by
    refine moveAll_moves (fun _ fits => fits) ?_ calls (Nat.zero_le len)
    intro moved bytes fits behaves
    have room : bytes.length ≤ len - moved.length := behaves
    rw [List.length_append]
    omega
  refine wp_after moves ?_ (fun _ _ _ ended => ended.looped.elim)
    (fun _ _ _ ended => ended.looped.elim) ?_
  · rintro events ⟨moved, stop⟩ final ⟨rfl, overSocket, obeys, looped, fits, bytes⟩
    have ending := socketLoop_ending obeys (Nat.zero_le len) looped
    have seen : events.flatMap callItems = moved.map .arrived :=
      (overSocket.items .arrived (fun before result => by cases result <;> rfl)).trans
        (congrArg _ bytes.symm)
    refine ⟨rfl, by simpa using overSocket, ?_⟩
    rw [List.append_nil]
    cases stop with
    | none => exact ⟨by simp [socketRecvAll, looped, RecvAnswer.ofLoop], ending, seen⟩
    | some error => exact ⟨by simp [socketRecvAll, looped, RecvAnswer.ofLoop], ending, seen⟩
  · rintro events final ⟨rfl, overSocket, obeys, looped⟩
    exact ⟨rfl, overSocket, by simp [socketRecvAll, looped]⟩

/-- `ovnc__socket_send_all` over POSIX: the request's answer is what the loop makes of the results
of `send`, and the bytes accepted are the ones seen above. -/
theorem posixSendAll_transfers (calls : Nat) (sock : Socket) (data : List UInt8)
    (memory : Memory) :
    (posixSendAll calls sock data).wp (Behaves outside)
      (TransfersOver memory sock (sendRest data) (.send data) (socketSendAll data)) memory := by
  have moves : (moveAll sock (sendRest data) data.length calls []).wp (Behaves outside)
      (Moved memory sock (sendRest data) data.length (fun moved => moved <+: data) []) memory := by
    refine moveAll_moves (fun _ taken => taken.length_le) ?_ calls List.nil_prefix
    rintro moved bytes ⟨rest, rfl⟩ behaves
    have taken : bytes <+: rest := by simpa [Behaves, sendRest] using behaves
    exact List.prefix_append_right_inj moved |>.mpr taken
  refine wp_after moves ?_ (fun _ _ _ ended => ended.looped.elim)
    (fun _ _ _ ended => ended.looped.elim) ?_
  · rintro events ⟨moved, stop⟩ final ⟨rfl, overSocket, obeys, looped, taken, bytes⟩
    have ending := socketLoop_ending obeys (Nat.zero_le _) looped
    have seen : events.flatMap callItems = moved.map .departed :=
      (overSocket.items .departed (fun before result => by cases result <;> rfl)).trans
        (congrArg _ bytes.symm)
    refine ⟨rfl, by simpa using overSocket, ?_⟩
    rw [List.append_nil]
    cases stop with
    | none =>
      have whole : moved = data := taken.eq_of_length ending
      exact ⟨by simp [socketSendAll, looped, SendAnswer.ofLoop], trivial,
        seen.trans (by rw [whole]; rfl)⟩
    | some error =>
      have part : moved = data.take moved.length := List.prefix_iff_eq_take.mp taken
      refine ⟨by simp [socketSendAll, looped, SendAnswer.ofLoop], ending, seen.trans ?_⟩
      change moved.map Item.departed = (data.take moved.length).map Item.departed
      rw [← part]
  · rintro events final ⟨rfl, overSocket, obeys, looped⟩
    exact ⟨rfl, overSocket, by simp [socketSendAll, looped]⟩

end Moving

/-! ## Answering the requests -/

section Answering

variable {outside : (request : Request) → Answer request → Prop} {memory : Memory}
  {tolerated : Fault → Prop} {opened : Multiset Socket}

/-- Whether a call is one of `ovnc__socket_connect`, or a close. -/
def Call.IsSystem (call : Call) : Prop := ∃ system, call = .system system

/-- Opening a connection makes system calls only, and leaves the memory alone. -/
theorem posixConnect_unseen (host : String) (port : UInt16) (timeoutMs : UInt32) :
    (posixConnect host port timeoutMs).wp (Behaves outside)
      (fun calls _ final => calls.flatMap callItems = [] ∧ final = memory) memory := by
  have below : (translate (fun call => ask (Call.system call))
      (socketConnect host port timeoutMs)).wp (Behaves outside) (fun calls _ _ =>
        ∀ call ∈ calls, call.request.IsSystem) invalidSocket := by
    apply translate_asks
    exact fun call memory => ⟨by simp, fun answer _ => by simp [Call.IsSystem]⟩
  have unseen (calls : List (Event Socket Call CallAnswer))
      (system : ∀ call ∈ calls, call.request.IsSystem) :
      (calls.map (fun call => (⟨memory, call.request, call.answer⟩ : CallStep))).flatMap
        callItems = [] := by
    simp only [List.flatMap_eq_nil_iff, List.mem_map]
    rintro _ ⟨⟨own, request, answer⟩, member, rfl⟩
    obtain ⟨call, rfl⟩ := system _ member
    rfl
  have isolated : (isolate (translate (fun call => ask (Call.system call))
      (socketConnect host port timeoutMs)) invalidSocket :
        PosixRoutine (Except Error Unit × Socket)).wp (Behaves outside)
      (fun calls _ final => calls.flatMap callItems = [] ∧ final = memory) memory := by
    refine (wp_isolate _ _ memory _).mpr (wp_mono below ?_)
    intro calls outcome final system
    cases outcome with
    | returned | failed | waiting => exact ⟨unseen calls system, rfl⟩
    | faulted fault => exact fault.elim
  refine wp_after isolated ?_ (fun _ _ _ silent => silent) (fun _ _ _ silent => silent)
    (fun _ _ silent => silent)
  rintro calls ⟨result, sock⟩ final silent
  change (calls ++ []).flatMap callItems = [] ∧ final = memory
  rw [List.append_nil]
  exact silent

/-- A function that answers a request steps the ledger as its answer steps the one above. -/
abbrev AnswersRequest (outside : (request : Request) → Answer request → Prop)
    (tolerated : Fault → Prop) (opened : Multiset Socket) (memory : Memory) (request : Request)
    (routine : PosixRoutine (Answer request)) : Prop :=
  Shadows (Behaves outside) (.blind callLedger) tolerated opened routine memory
    (fun answer reached final => final = memory ∧ OnPosix outside request answer ∧
      requestLedger opened ⟨memory, request, answer⟩ = some reached) (fun _ _ _ => False)

/-- A connection asked for is answered with a socket that is open and was not before, or with an
error and nothing open that was not. -/
theorem posixConnect_answers (host : String) (port : UInt16) (timeoutMs : UInt32) :
    AnswersRequest outside tolerated opened memory (.socketConnect host port timeoutMs)
      (posixConnect host port timeoutMs) := by
  have below : Shadows (Behaves outside) (.blind callLedger) (fun _ => True) opened
      (translate (fun call => ask (Call.system call)) (socketConnect host port timeoutMs))
      invalidSocket (fun _ reached final => 0 ≤ final ∧ reached = final ::ₘ opened)
      (fun error reached _ => reached = opened ∧ Dialable timeoutMs error) := by
    refine Shadows.translate ?_ (socketConnect_dials host port timeoutMs opened invalidSocket)
    intro state memory call stepping
    refine Shadows.ask (fun answer _ => ?_)
    obtain ⟨next, taken⟩ := Option.isSome_iff_exists.mp (stepping answer trivial)
    exact ⟨next, taken, rfl, trivial, taken⟩
  refine Shadows.sequence (below.isolate memory) ?_
  rintro ⟨error | value, sock⟩ reached final ⟨rfl, ended⟩
  · obtain ⟨rfl, dialable⟩ := ended
    exact Shadows.done ⟨rfl, dialable, rfl⟩
  · obtain ⟨valid, rfl⟩ := ended
    exact Shadows.done ⟨rfl, valid, rfl⟩

/-- A transfer over the client's own socket. -/
theorem transfers_answers {remaining : List UInt8 → Move} {request : Request}
    {looped : List SysResult → Option (Answer request)} {routine : PosixRoutine (Answer request)}
    (transfers : routine.wp (Behaves outside)
      (TransfersOver memory memory.client.sock remaining request looped) memory)
    (attached : memory.client.sock ∈ opened)
    (allowed : ∀ answer, Allowed request answer → OnPosix outside request answer)
    (unmoved : ∀ answer, requestLedger opened ⟨memory, request, answer⟩ = some opened) :
    AnswersRequest outside tolerated opened memory request routine := by
  apply wp_mono transfers
  rintro calls outcome final ⟨rfl, overSocket, ended⟩
  refine ⟨opened, overSocket.unmoved attached, ?_⟩
  cases outcome with
  | returned answer => exact ⟨rfl, allowed answer ended.2.1, unmoved answer⟩
  | failed | faulted => exact ended.elim
  | waiting => trivial

/-- A request that is handed on. -/
theorem outside_answers {request : Request}
    (same : ∀ answer, OnPosix outside request answer ↔ outside request answer)
    (unmoved : ∀ answer, requestLedger opened ⟨memory, request, answer⟩ = some opened) :
    AnswersRequest outside tolerated opened memory request (ask (Call.outside request)) :=
  Shadows.ask (fun answer given => ⟨opened, rfl, rfl, (same answer).mpr given, unmoved answer⟩)

/-- Every request is answered in step, where each of its answers has a step. -/
theorem posix_answers (limit : Nat) {request : Request}
    (stepping : ∀ answer, OnPosix outside request answer →
      (requestLedger opened ⟨memory, request, answer⟩).isSome) :
    AnswersRequest outside tolerated opened memory request (posix limit request) := by
  cases request with
  | recv len =>
    have attached : memory.client.sock ∈ opened := by
      by_contra closed
      have taken := stepping (.complete (List.replicate len 0)) List.length_replicate
      simp [requestLedger, closed] at taken
    exact transfers_answers (posixRecvAll_transfers limit _ len memory) attached
      (fun _ allowed => allowed) (fun _ => if_pos attached)
  | send data =>
    have attached : memory.client.sock ∈ opened := by
      by_contra closed
      have taken := stepping .complete trivial
      simp [requestLedger, closed] at taken
    exact transfers_answers (posixSendAll_transfers limit _ data memory) attached
      (fun _ allowed => allowed) (fun _ => if_pos attached)
  | socketConnect host port timeoutMs => exact posixConnect_answers host port timeoutMs
  | socketClose sock =>
    apply Shadows.onlyIf
    · intro valid
      have attached : sock ∈ opened := by
        by_contra closed
        have taken := stepping () trivial
        simp [requestLedger, valid, closed] at taken
      refine Shadows.ask (fun closed _ => ⟨opened.erase sock, if_pos attached, rfl, trivial, ?_⟩)
      simp [requestLedger, valid, attached]
    · intro invalid
      exact ⟨rfl, trivial, if_pos (not_not.mp invalid)⟩
  | malloc | calloc | free | callocTransport | callback | allocFramebuffer =>
    exact outside_answers (fun _ => Iff.rfl) (fun _ => rfl)

/-- What has been seen of a request is seen of the calls that answer it. -/
def Seen (memory : Memory) (request : Request) (answer : Option (Answer request))
    (calls : List CallStep) : Prop :=
  ∀ given, answer = some given → calls.flatMap callItems = requestItems ⟨memory, request, given⟩

/-- Every request is answered, within what can be answered on POSIX sockets. -/
theorem posix_works (limit : Nat) (memory : Memory) (request : Request) :
    (posix limit request).wp (Behaves outside) (WorksOut (OnPosix outside) Seen memory request)
      memory := by
  have loop {remaining : List UInt8 → Move} {request : Request}
      {looped : List SysResult → Option (Answer request)}
      {routine : PosixRoutine (Answer request)}
      (transfers : routine.wp (Behaves outside)
        (TransfersOver memory memory.client.sock remaining request looped) memory)
      (allowed : ∀ answer, Allowed request answer → OnPosix outside request answer) :
      routine.wp (Behaves outside) (WorksOut (OnPosix outside) Seen memory request) memory := by
    apply wp_mono transfers
    rintro calls outcome final ⟨rfl, overSocket, ended⟩
    cases outcome with
    | returned answer =>
      refine ⟨rfl, allowed answer ended.2.1, ?_⟩
      rintro _ ⟨⟩
      exact ended.2.2
    | failed | faulted => exact ended.elim
    | waiting => exact ⟨rfl, by simp [Seen]⟩
  cases request with
  | recv len => exact loop (posixRecvAll_transfers limit _ len memory) (fun _ allowed => allowed)
  | send data => exact loop (posixSendAll_transfers limit _ data memory) (fun _ allowed => allowed)
  | socketConnect host port timeoutMs =>
    have answers : AnswersRequest outside (fun _ => False) 0 memory
        (.socketConnect host port timeoutMs) (posixConnect host port timeoutMs) :=
      posixConnect_answers host port timeoutMs
    apply wp_mono (wp_and answers (posixConnect_unseen host port timeoutMs))
    rintro calls outcome final ⟨⟨reached, -, ended⟩, unseen, same⟩
    cases outcome with
    | returned answer => exact ⟨same, ended.2.1, fun _ _ => unseen⟩
    | failed => exact ended.elim
    | faulted => exact ended.elim
    | waiting => exact ⟨same, by simp [Seen]⟩
  | socketClose sock =>
    refine (wp_onlyIf _ _ _ _).mpr ⟨fun valid => ⟨⟨rfl, by simp [Seen]⟩, fun closed _ => ?_⟩,
      fun invalid => ?_⟩
    · exact ⟨rfl, trivial, fun _ _ => rfl⟩
    · exact ⟨rfl, trivial, fun _ _ => rfl⟩
  | malloc | calloc | free | callocTransport | callback | allocFramebuffer =>
    refine ⟨⟨rfl, by simp [Seen]⟩, fun answer given => ⟨rfl, given, ?_⟩⟩
    rintro _ ⟨⟩
    rfl

/-- The system finds one address, opens the socket, and answers the rest as told. -/
def oneAddress (sock : Socket) (rc : ConnectResult) (pollRc : Int32) :
    Handler SysCall SysAnswer Unit
  | .getaddrinfo .., world => (some (.ok [⟨0, 0, 0, []⟩]), world)
  | .freeaddrinfo _, world => (some (), world)
  | .socket _, world => (some sock, world)
  | .fcntlGetfl _, world => (some (-1), world)
  | .fcntlSetfl .., world => (some 0, world)
  | .connect .., world => (some rc, world)
  | .poll .., world => (some pollRc, world)
  | .getsockopt _, world => (some none, world)
  | .close _, world => (some (), world)

/-- The host is not found. -/
def unresolved : Handler SysCall SysAnswer Unit
  | .getaddrinfo .., world => (some (.error (-2)), world)
  | _, world => (none, world)

section Scripts

variable (host : String) (port : UInt16) (timeoutMs : UInt32)

/-- A connection is there at once. -/
theorem oneAddress_connects {sock : Socket} (valid : 0 ≤ sock) :
    (socketConnect host port timeoutMs).run (oneAddress sock .connected 0) invalidSocket () =
      (.returned (), sock, ()) := by
  have valid : ¬ sock < 0 := Int.not_lt.mpr valid
  by_cases timed : 0 < timeoutMs <;>
    simp [socketConnect, connectLoop, tryAddress, connectTimed, connectBlocking, setFlags,
      connectNonblocking, run_sequence, run_asking, ask, run, proceed, update, onlyIf, oneAddress,
      valid, timed]

/-- The wait for a connection is not answered in time, or fails. -/
theorem oneAddress_fails (timed : 0 < timeoutMs) {pollRc : Int32} (unready : pollRc ≤ 0) :
    (socketConnect host port timeoutMs).run (oneAddress 0 .inProgress pollRc) invalidSocket () =
      (.failed (if pollRc = 0 then .timeout else .io), invalidSocket, ()) := by
  simp [socketConnect, connectLoop, tryAddress, connectTimed, awaitConnect, abandonSocket, setFlags,
    connectNonblocking, run_sequence, run_asking, ask, fail, run, proceed, update, onlyIf,
    oneAddress, timed, unready]

end Scripts

/-- A system call is made as it is. -/
def Relayed (memory : Socket) (call : SysCall) (answer : Option (SysAnswer call))
    (calls : List (Event Socket Call CallAnswer)) : Prop :=
  ∀ given, answer = some given → calls = [⟨memory, .system call, given⟩]

/-- What `ovnc__socket_connect` can come to is an answer on POSIX sockets. -/
theorem posixConnect_realises {host : String} {port : UInt16} {timeoutMs : UInt32}
    {events : List (Event Socket SysCall SysAnswer)} {outcome : Outcome Error Empty Unit}
    {sock : Socket} {result : Except Error Unit}
    (executed : Execution (fun _ _ => True) (socketConnect host port timeoutMs) invalidSocket
      events outcome sock)
    (ended : outcome.handed sock = (.returned (result, sock) : Outcome Error Fault _)) :
    ∃ calls, Execution (Behaves outside) (posixConnect host port timeoutMs) memory calls
      (.returned (result.map (fun _ => sock))) memory := by
  have finished : outcome ≠ .waiting := by
    rintro rfl
    exact absurd ended (by simp [Outcome.handed])
  have realises (memory : Socket) (call : SysCall) (answer : SysAnswer call) (_ : True)
      (_ : True) : ∃ calls, Execution (Behaves outside)
        (ask (Call.system call) : Program Socket Error Empty Call CallAnswer (SysAnswer call))
        memory calls (.returned answer) memory ∧ Relayed memory call (some answer) calls := by
    refine ⟨[⟨memory, .system call, answer⟩], .answered _ trivial (.done answer memory), ?_⟩
    rintro _ ⟨⟩
    rfl
  obtain ⟨calls, below, -⟩ := translate_realises realises (poses_always _ _ _) executed finished
  have isolated : Execution (Behaves outside)
      (isolate (translate (fun call => ask (Call.system call)) (socketConnect host port timeoutMs))
        invalidSocket : PosixRoutine (Except Error Unit × Socket)) memory _
      (outcome.handed sock) memory := below.isolate memory
  rw [ended] at isolated
  exact ⟨_, isolated.sequence (.done _ memory)⟩

/-- A request that is handed on is answered as it is outside. -/
theorem outside_realises {request : Request} {answer : Answer request}
    (given : outside request answer) :
    ∃ calls, Execution (Behaves outside)
      (ask (Call.outside request) : PosixRoutine (Answer request)) memory calls (.returned answer)
      memory :=
  ⟨[⟨memory, .outside request, answer⟩], .answered _ given (.done _ memory)⟩

/-- Every answer occurs, if the loops have two system calls. -/
theorem posix_realises (limit : Nat) {request : Request} {answer : Answer request}
    (given : OnPosix outside request answer) :
    ∃ calls, Execution (Behaves outside) (posix (limit + 2) request) memory calls
      (.returned answer) memory := by
  cases request with
  | recv len =>
    have moves (ended : List UInt8 × Option Error) (ending : Ending len ended)
        (fits : ended.1.length ≤ len) :=
      @moveAll_reaches outside memory memory.client.sock (recvRest len) len limit ended ending fits
    cases answer with
    | complete bytes =>
      obtain ⟨calls, executed⟩ := moves (bytes, none) given (Nat.le_of_eq given)
      exact ⟨_, .loading (executed.sequence (.done _ memory))⟩
    | stopped received error =>
      obtain ⟨calls, executed⟩ := moves (received, some error) given (Nat.le_of_lt given.1)
      exact ⟨_, .loading (executed.sequence (.done _ memory))⟩
  | send data =>
    have moves (ended : List UInt8 × Option Error) (ending : Ending data.length ended)
        (taken : ended.1 <+: data) :=
      @moveAll_reaches outside memory memory.client.sock (sendRest data) data.length limit ended
        ending taken
    cases answer with
    | complete =>
      obtain ⟨calls, executed⟩ := moves (data, none) rfl (List.prefix_refl data)
      exact ⟨_, .loading (executed.sequence (.done _ memory))⟩
    | stopped written error =>
      have size : (data.take written).length = written :=
        List.length_take_of_le (Nat.le_of_lt given.1)
      obtain ⟨calls, executed⟩ := moves (data.take written, some error)
        ⟨size.symm ▸ given.1, given.2⟩ (List.take_prefix written data)
      have ended : Execution (Behaves outside) (posixSendAll (limit + 2) memory.client.sock data)
          memory _ (.returned (.stopped (data.take written).length error)) memory :=
        executed.sequence (.done _ memory)
      rw [size] at ended
      exact ⟨_, .loading ended⟩
  | socketConnect host port timeoutMs =>
    have runs (handler : Handler SysCall SysAnswer Unit) :=
      run_execution handler (fun _ _ => True) (fun _ _ _ _ _ => trivial)
        (socketConnect host port timeoutMs) invalidSocket ()
    cases answer with
    | ok sock =>
      have executed := runs (oneAddress sock .connected 0)
      rw [oneAddress_connects host port timeoutMs given] at executed
      exact posixConnect_realises executed rfl
    | error error =>
      rcases given with rfl | ⟨timed, rfl | rfl⟩
      · have executed := runs unresolved
        exact posixConnect_realises executed rfl
      · have executed := runs (oneAddress 0 .inProgress 0)
        rw [oneAddress_fails host port timeoutMs timed (Int32.le_refl 0)] at executed
        exact posixConnect_realises executed rfl
      · have executed := runs (oneAddress 0 .inProgress (-1))
        rw [oneAddress_fails host port timeoutMs timed (by decide)] at executed
        exact posixConnect_realises executed rfl
  | socketClose sock =>
    change ∃ calls, Execution (Behaves outside) (posixClose sock) memory calls _ memory
    unfold posixClose onlyIf
    split
    · exact ⟨[⟨memory, .system (.close sock), answer⟩], .answered _ trivial (.done _ memory)⟩
    · exact ⟨[], .done _ memory⟩
  | malloc | calloc | free | callocTransport | callback | allocFramebuffer =>
    exact outside_realises given

end Answering

end OpenVnc
