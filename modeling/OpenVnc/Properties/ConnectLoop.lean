import OpenVnc.Descriptors
import OpenVnc.Transport
import OpenVnc.Interaction.Ledgers
import OpenVnc.Interaction.Progress

/-!
# The sockets of the connect loop

The addresses are tried in order up to the first that connects. Its socket, as it was opened, is
all that the call leaves open, and a call that fails leaves nothing open. Any system call may
come to anything.
-/

namespace OpenVnc

open Interaction Interaction.Program

/-! ## What the system calls show -/

/-- Nothing is assumed of the system calls. -/
def anyAnswer : (call : SysCall) → SysAnswer call → Prop := fun _ _ => True

/-- The calls that change nothing that is kept of the sockets. -/
def SysCall.Inquires : SysCall → Prop
  | .connect .. | .poll .. | .getsockopt _ => True
  | _ => False

/-- The sockets obtained and given back. -/
def socketEntries : SysStep → List (Entry Socket)
  | ⟨_, .socket _, sock⟩ => if sock < 0 then [] else [.obtained sock]
  | ⟨_, .close sock, _⟩ => [.released sock]
  | _ => []

/-- The address that a socket is asked for. -/
def addressTried : SysStep → Option AddrInfo
  | ⟨_, .socket rp, _⟩ => some rp
  | _ => none

/-- The list that is freed. -/
def listFreed : SysStep → Option (List AddrInfo)
  | ⟨_, .freeaddrinfo res, _⟩ => some res
  | _ => none

/-- What can be seen of a connection while it is being established. -/
inductive Sign where
  | connected
  | pending
  | ready
  | clear
deriving DecidableEq, Repr

/-- The sign that a system call gives of a connection of the socket to the address. -/
def connectionSign (rp : AddrInfo) (sock : Socket) : SysStep → Option Sign
  | ⟨_, .connect sock' rp', .connected⟩ =>
      if sock' = sock ∧ rp' = rp then some .connected else none
  | ⟨_, .connect sock' rp', .inProgress⟩ =>
      if sock' = sock ∧ rp' = rp then some .pending else none
  | ⟨_, .poll sock' _, pollRc⟩ => if sock' = sock ∧ ¬ pollRc ≤ 0 then some .ready else none
  | ⟨_, .getsockopt sock', soError⟩ =>
      if sock' = sock ∧ soError.getD 0 = 0 then some .clear else none
  | _ => none

/-- The signs of a connection that is there: at once, or when the socket has become ready and
has no error pending. -/
def Affirmed (signs : List Sign) : Prop :=
  signs = [.connected] ∨ signs = [.pending, .ready, .clear]

/-- A pass of the loop connects a socket to the address. -/
structure Connects (rp : AddrInfo) (sock : Socket) (pass : List SysStep) : Prop where
  opened : ∃ memory rest, pass = ⟨memory, .socket rp, sock⟩ :: rest
  valid : 0 ≤ sock
  affirmed : Affirmed (pass.filterMap (connectionSign rp sock))

/-- The addresses are tried in order up to the first that connects. -/
inductive TriesInOrder : List AddrInfo → List SysStep → Option Socket → Prop where
  | exhausted : TriesInOrder [] [] none
  | refused {rp : AddrInfo} {rest : List AddrInfo} {pass later : List SysStep}
      {reached : Option Socket} (tried : pass.filterMap addressTried = [rp])
      (refused : ∀ sock, ¬ Connects rp sock pass) (others : TriesInOrder rest later reached) :
      TriesInOrder (rp :: rest) (pass ++ later) reached
  | connected {rp : AddrInfo} {rest : List AddrInfo} {pass : List SysStep} {sock : Socket}
      (tried : pass.filterMap addressTried = [rp]) (connects : Connects rp sock pass) :
      TriesInOrder (rp :: rest) pass (some sock)

/-- At most one socket is open, and that one has the flags that it was opened with. -/
def Descriptors.Left : Option Socket → Descriptors → Prop
  | none => fun table => table = empty
  | some sock => fun table => ∃ flags, table = only sock ⟨flags, flags⟩

/-- What the system calls leave open: nothing, or a socket. Every other socket that was opened
has been closed, and none twice. -/
structure Leaves (events : List SysStep) (reached : Option Socket) : Prop where
  balanced : balance [] (events.flatMap socketEntries) = some reached.toList
  described : ∀ table, Run Descriptors.Step Descriptors.empty events table →
    Descriptors.Left reached table

/-! ## One pass of the loop -/

/-- What a whole pass comes to. -/
structure Tried (rp : AddrInfo) (pass : List SysStep) (reached : Option Socket) : Prop where
  tried : pass.filterMap addressTried = [rp]
  unfreed : pass.filterMap listFreed = []
  connects : ∀ sock, Connects rp sock pass ↔ reached = some sock
  leaves : Leaves pass reached

/-- The socket that a pass has opened first. -/
theorem first_socket {rp : AddrInfo} {memory memory' sock sock' : Socket}
    {rest rest' : List SysStep}
    (same : (⟨memory, .socket rp, sock⟩ : SysStep) :: rest =
      ⟨memory', .socket rp, sock'⟩ :: rest') : sock = sock' := by
  injection same with head
  injection head with _ _ answers

/-- No socket can be opened. -/
theorem Tried.unopened {rp : AddrInfo} {memory sock : Socket} (unopened : sock < 0) :
    Tried rp [⟨memory, .socket rp, sock⟩] none where
  tried := rfl
  unfreed := rfl
  connects := by
    intro other
    refine iff_of_false ?_ nofun
    rintro ⟨⟨memory', rest, same⟩, valid, -⟩
    obtain rfl := first_socket same
    exact Int.not_lt.mpr valid unopened
  leaves := by
    refine ⟨by simp [socketEntries, unopened, balance], ?_⟩
    intro table run
    have taken := Run.singleton_iff.mp run
    simp only [Descriptors.Step, if_pos unopened] at taken
    exact taken

/-- A pass that has opened a socket, with the signs of a connection so far and what is known of
the flags of the socket. -/
structure Dialling (rp : AddrInfo) (sock : Socket) (known : Status → Prop) (signs : List Sign)
    (begun : List SysStep) : Prop where
  opened : ∃ memory rest, begun = ⟨memory, .socket rp, sock⟩ :: rest
  valid : 0 ≤ sock
  tried : begun.filterMap addressTried = [rp]
  unfreed : begun.filterMap listFreed = []
  shown : begun.filterMap (connectionSign rp sock) = signs
  balanced : balance [] (begun.flatMap socketEntries) = some [sock]
  described : ∀ table, Run Descriptors.Step Descriptors.empty begun table →
    ∃ status, table = Descriptors.only sock status ∧ known status

/-- A pass with a connection that is there. -/
def Dialled (rp : AddrInfo) (sock : Socket) (known : Status → Prop) (begun : List SysStep) :
    Prop :=
  ∃ signs, Affirmed signs ∧ Dialling rp sock known signs begun

/-- The flags are those that the socket was opened with. -/
def Status.Untouched (status : Status) : Prop := status.current = status.opened

/-- The flags that the socket was opened with are known, or have not been changed. -/
def Status.Restorable (flags : Int32) (status : Status) : Prop :=
  if 0 ≤ flags then status.opened = flags else status.Untouched

namespace Dialling

variable {rp : AddrInfo} {sock memory : Socket} {known known' : Status → Prop}
  {signs signs' : List Sign} {begun : List SysStep} {step : SysStep}

/-- A socket has been opened. -/
theorem start (valid : ¬ sock < 0) :
    Dialling rp sock Status.Untouched [] [⟨memory, .socket rp, sock⟩] where
  opened := ⟨memory, [], rfl⟩
  valid := Int.not_lt.mp valid
  tried := rfl
  unfreed := rfl
  shown := rfl
  balanced := by simp [socketEntries, valid, balance]
  described := by
    intro table run
    obtain ⟨flags, rfl⟩ := (Descriptors.step_socket valid).mp (Run.singleton_iff.mp run)
    exact ⟨⟨flags, flags⟩, rfl, rfl⟩

/-- A system call on the socket that neither opens nor closes one. -/
theorem snoc (dialling : Dialling rp sock known signs begun)
    (untried : addressTried step = none) (unfreed : listFreed step = none)
    (silent : socketEntries step = [])
    (shown : signs ++ (connectionSign rp sock step).toList = signs')
    (taken : ∀ status after, known status →
      Descriptors.Step (Descriptors.only sock status) step after →
      ∃ status', after = Descriptors.only sock status' ∧ known' status') :
    Dialling rp sock known' signs' (begun ++ [step]) where
  opened := by
    obtain ⟨memory, rest, rfl⟩ := dialling.opened
    exact ⟨memory, rest ++ [step], rfl⟩
  valid := dialling.valid
  tried := by simpa [untried] using dialling.tried
  unfreed := by simpa [unfreed] using dialling.unfreed
  shown := by
    rw [List.filterMap_append, dialling.shown, ← shown]
    cases sign : connectionSign rp sock step <;> simp [sign]
  balanced := by simpa [silent] using dialling.balanced
  described := by
    intro table run
    obtain ⟨before, earlier, last⟩ := Run.snoc_iff.mp run
    obtain ⟨status, rfl, holds⟩ := dialling.described before earlier
    exact taken status table holds last

/-- A system call that changes nothing. -/
theorem observe (dialling : Dialling rp sock known signs begun) {call : SysCall}
    {answer : SysAnswer call} (inquires : call.Inquires)
    (shown : signs ++ (connectionSign rp sock ⟨memory, call, answer⟩).toList = signs') :
    Dialling rp sock known signs' (begun ++ [⟨memory, call, answer⟩]) := by
  have unchanged (status : Status) (after : Descriptors) (holds : known status)
      (same : after = Descriptors.only sock status) :
      ∃ status', after = Descriptors.only sock status' ∧ known status' := ⟨status, same, holds⟩
  cases call with
  | connect | poll | getsockopt => exact dialling.snoc rfl rfl rfl shown unchanged
  | getaddrinfo | freeaddrinfo | socket | fcntlGetfl | fcntlSetfl | close =>
    exact absurd inquires id

/-- The flags of the socket have been read. -/
theorem read (dialling : Dialling rp sock Status.Untouched signs begun) (flags : Int32) :
    Dialling rp sock (fun status => status.Untouched ∧ status.Restorable flags) signs
      (begun ++ [⟨memory, .fcntlGetfl sock, flags⟩]) := by
  refine dialling.snoc rfl rfl rfl (List.append_nil signs) ?_
  intro status after untouched taken
  obtain ⟨rfl, reported⟩ := Descriptors.step_fcntlGetfl.mp taken
  refine ⟨status, rfl, untouched, ?_⟩
  unfold Status.Restorable
  split
  · next valid => exact untouched.symm.trans (reported valid)
  · exact untouched

/-- The flags of the socket have been written. -/
theorem write (dialling : Dialling rp sock known signs begun) {flags rc : Int32}
    (follows : ∀ status current, known status → (flags = status.opened → current = flags) →
      known' { status with current := current }) :
    Dialling rp sock known' signs (begun ++ [⟨memory, .fcntlSetfl sock flags, rc⟩]) := by
  refine dialling.snoc rfl rfl rfl (List.append_nil signs) ?_
  intro status after holds taken
  rw [Descriptors.step_fcntlSetfl] at taken
  split at taken
  · exact ⟨status, taken.1, follows status status.current holds taken.2⟩
  · exact ⟨_, taken, follows status flags holds (fun _ => rfl)⟩

/-- Less is known of the flags. -/
theorem weaken (dialling : Dialling rp sock known signs begun)
    (weaker : ∀ status, known status → known' status) :
    Dialling rp sock known' signs begun where
  opened := dialling.opened
  valid := dialling.valid
  tried := dialling.tried
  unfreed := dialling.unfreed
  shown := dialling.shown
  balanced := dialling.balanced
  described := by
    intro table run
    obtain ⟨status, same, holds⟩ := dialling.described table run
    exact ⟨status, same, weaker status holds⟩

/-- Whether the pass connects when no sign of a connection is to follow. -/
theorem connects_iff (dialling : Dialling rp sock known signs begun) {more : List SysStep}
    (silent : more.filterMap (connectionSign rp sock) = []) (other : Socket) :
    Connects rp other (begun ++ more) ↔ other = sock ∧ Affirmed signs := by
  have shown : (begun ++ more).filterMap (connectionSign rp sock) = signs := by
    rw [List.filterMap_append, dialling.shown, silent, List.append_nil]
  obtain ⟨memory, rest, begins⟩ := dialling.opened
  have opened : begun ++ more = ⟨memory, .socket rp, sock⟩ :: (rest ++ more) := by
    rw [begins, List.cons_append]
  constructor
  · rintro ⟨⟨memory', rest', same⟩, -, affirmed⟩
    obtain rfl := first_socket (opened.symm.trans same)
    exact ⟨rfl, shown ▸ affirmed⟩
  · rintro ⟨rfl, affirmed⟩
    exact ⟨⟨memory, _, opened⟩, dialling.valid, shown.symm ▸ affirmed⟩

/-- The pass ends with a connection. -/
theorem connected (dialling : Dialling rp sock Status.Untouched signs begun)
    (affirmed : Affirmed signs) : Tried rp begun (some sock) where
  tried := dialling.tried
  unfreed := dialling.unfreed
  connects := by
    intro other
    rw [← List.append_nil begun, dialling.connects_iff rfl]
    simp [affirmed, eq_comm]
  leaves := by
    refine ⟨dialling.balanced, ?_⟩
    intro table run
    obtain ⟨⟨opened, current⟩, rfl, untouched⟩ := dialling.described table run
    obtain rfl : current = opened := untouched
    exact ⟨current, rfl⟩

/-- The pass ends without one, and the socket is closed. -/
theorem abandoned (dialling : Dialling rp sock known signs begun)
    (failed : ¬ Affirmed signs) : Tried rp (begun ++ [⟨memory, .close sock, ()⟩]) none where
  tried := by
    rw [List.filterMap_append, dialling.tried]
    rfl
  unfreed := by
    rw [List.filterMap_append, dialling.unfreed]
    rfl
  connects := by
    intro other
    rw [dialling.connects_iff rfl]
    exact iff_of_false (fun connects => failed connects.2) nofun
  leaves := by
    constructor
    · rw [List.flatMap_append, balance_append, dialling.balanced]
      simp [socketEntries, balance]
    · intro table run
      obtain ⟨before, earlier, last⟩ := Run.snoc_iff.mp run
      obtain ⟨status, rfl, -⟩ := dialling.described before earlier
      exact Descriptors.step_close.mp last

end Dialling

/-- What a part of a pass comes to, after what has begun: the pass is over, with an error, or it
goes on with a value. The variable of the caller is not written. -/
def Passing {α : Type} (rp : AddrInfo) (memory : Socket) (begun : List SysStep)
    (going : α → List SysStep → Prop) :
    List SysStep → Outcome Error Empty (Except Error α) → Socket → Prop
  | events, .returned (.ok value), final => final = memory ∧ going value (begun ++ events)
  | events, .returned (.error _), final => final = memory ∧ Tried rp (begun ++ events) none
  | _, .failed _, _ => False
  | _, .faulted _, _ | _, .waiting, _ => True

namespace Passing

variable {α β : Type} {rp : AddrInfo} {memory : Socket} {begun earlier : List SysStep}
  {going : α → List SysStep → Prop}

/-- What a part comes to after more has begun. -/
theorem append (events : List SysStep) (outcome : Outcome Error Empty (Except Error α))
    (final : Socket) (passes : Passing rp memory (begun ++ earlier) going events outcome final) :
    Passing rp memory begun going (earlier ++ events) outcome final := by
  match outcome with
  | .returned (.ok value) => exact ⟨passes.1, List.append_assoc .. ▸ passes.2⟩
  | .returned (.error err) => exact ⟨passes.1, List.append_assoc .. ▸ passes.2⟩
  | .failed _ => exact passes
  | .faulted _ | .waiting => trivial

/-- A system call, and what follows it. -/
theorem ask_then {call : SysCall} {following : SysAnswer call → SysRoutine (Except Error α)}
    (continues : ∀ answer, (following answer).wp anyAnswer
      (Passing rp memory (begun ++ [⟨memory, call, answer⟩]) going) memory) :
    (sequence (ask call) following).wp anyAnswer (Passing rp memory begun going) memory :=
  ⟨trivial, fun answer _ => wp_mono (continues answer) append⟩

/-- A part of a pass, and what follows it, when an error is handed on. -/
theorem sequence {going' : β → List SysStep → Prop} {first : SysRoutine (Except Error β)}
    {following : Except Error β → SysRoutine (Except Error α)}
    (begins : first.wp anyAnswer (Passing rp memory begun going') memory)
    (givesUp : ∀ err, following (.error err) = done (.error err))
    (continues : ∀ value middle, going' value middle →
      (following (.ok value)).wp anyAnswer (Passing rp memory middle going) memory) :
    (Program.sequence first following).wp anyAnswer (Passing rp memory begun going) memory := by
  refine wp_after begins (fun events result final passed => ?_) (fun _ _ _ failed => failed)
    (fun _ _ _ _ => trivial) (fun _ _ _ => trivial)
  cases result with
  | error err =>
    rw [givesUp]
    exact ⟨passed.1, by simpa using passed.2⟩
  | ok value =>
    obtain ⟨rfl, reached⟩ := passed
    exact wp_mono (continues value _ reached) append

end Passing

section Pass

variable {rp : AddrInfo} {sock memory : Socket} {known : Status → Prop} {signs : List Sign}
  {begun : List SysStep} {timeoutMs : UInt32} {err : Error}

/-- A socket that is given up is closed, and the next address is tried. Its flags had been left as
they were found. -/
theorem abandonSocket_passes {α : Type} {going : α → List SysStep → Prop}
    (dialling : Dialling rp sock known signs begun) (failed : ¬ Affirmed signs) :
    (abandonSocket sock err).wp anyAnswer (Passing rp memory begun going) memory := by
  apply Passing.ask_then
  intro closed
  exact ⟨rfl, by simpa using dialling.abandoned failed⟩

/-- The flags are written, if they are valid, and what follows. -/
theorem setFlags_then {α : Type} {going : α → List SysStep → Prop}
    {following : Unit → SysRoutine (Except Error α)} {known' : Status → Prop} {valid : Prop}
    [Decidable valid] {flags : Int32} (dialling : Dialling rp sock known signs begun)
    (written : ∀ status current, valid → known status →
      (flags = status.opened → current = flags) → known' { status with current := current })
    (kept : ∀ status, ¬ valid → known status → known' status)
    (continues : ∀ middle, Dialling rp sock known' signs middle →
      (following ()).wp anyAnswer (Passing rp memory middle going) memory) :
    (sequence (setFlags valid sock flags) following).wp anyAnswer (Passing rp memory begun going)
      memory := by
  unfold setFlags onlyIf
  split
  · next holds =>
    apply Passing.ask_then
    intro rc
    exact continues _ (dialling.write (fun status current => written status current holds))
  · next fails => exact continues begun (dialling.weaken (fun status => kept status fails))

/-- The wait ends the pass, or with a socket that is ready and has no error pending. -/
theorem awaitConnect_passes (dialling : Dialling rp sock known [.pending] begun) :
    (awaitConnect timeoutMs sock).wp anyAnswer
      (Passing rp memory begun (fun _ => Dialled rp sock known)) memory := by
  apply Passing.ask_then
  intro pollRc
  by_cases unready : pollRc ≤ 0
  · rw [if_pos unready]
    have waited : Dialling rp sock known [.pending]
        (begun ++ [⟨memory, .poll sock timeoutMs.toInt32, pollRc⟩]) :=
      dialling.observe trivial (by simp [connectionSign, unready])
    exact abandonSocket_passes waited (by simp [Affirmed])
  · rw [if_neg unready]
    have waited : Dialling rp sock known [.pending, .ready]
        (begun ++ [⟨memory, .poll sock timeoutMs.toInt32, pollRc⟩]) :=
      dialling.observe trivial (by simp [connectionSign, unready])
    apply Passing.ask_then
    intro soError
    by_cases refused : soError.getD 0 ≠ 0
    · rw [if_pos refused]
      have asked : Dialling rp sock known [.pending, .ready]
          ((begun ++ [_]) ++ [⟨memory, .getsockopt sock, soError⟩]) :=
        waited.observe trivial (by simp [connectionSign, refused])
      exact abandonSocket_passes asked (by simp [Affirmed])
    · rw [if_neg refused]
      have asked : Dialling rp sock known [.pending, .ready, .clear]
          ((begun ++ [_]) ++ [⟨memory, .getsockopt sock, soError⟩]) :=
        waited.observe trivial (by simp [connectionSign, Decidable.not_not.mp refused])
      exact ⟨rfl, _, .inr rfl, by simpa using asked⟩

/-- `connect_nonblocking` restores the flags before it returns the socket, and otherwise gives it
up. -/
theorem connectNonblocking_passes (dialling : Dialling rp sock known [] begun) :
    (connectNonblocking timeoutMs rp sock err).wp anyAnswer
      (Passing rp memory begun (fun _ => Dialled rp sock known)) memory := by
  apply Passing.ask_then
  intro rc
  cases rc with
  | connected =>
    have asked : Dialling rp sock known [.connected]
        (begun ++ [⟨memory, .connect sock rp, .connected⟩]) :=
      dialling.observe trivial (by simp [connectionSign])
    exact ⟨rfl, _, .inl rfl, by simpa using asked⟩
  | inProgress =>
    have asked : Dialling rp sock known [.pending]
        (begun ++ [⟨memory, .connect sock rp, .inProgress⟩]) :=
      dialling.observe trivial (by simp [connectionSign])
    exact awaitConnect_passes asked
  | failed =>
    have asked : Dialling rp sock known []
        (begun ++ [⟨memory, .connect sock rp, .failed⟩]) :=
      dialling.observe trivial rfl
    exact abandonSocket_passes asked (by simp [Affirmed])

/-- The flags that were read before the socket was made non-blocking are put back. -/
theorem connectTimed_passes (dialling : Dialling rp sock Status.Untouched [] begun) :
    (connectTimed timeoutMs rp sock err).wp anyAnswer
      (Passing rp memory begun (fun reached pass => Tried rp pass (some reached))) memory := by
  apply Passing.ask_then
  intro flags
  have nonblocking (status : Status) (current : Int32) (valid : flags ≥ 0)
      (known : status.Untouched ∧ status.Restorable flags) :
      Status.Restorable flags { status with current := current } := by
    have opened := known.2
    unfold Status.Restorable at opened ⊢
    rw [if_pos valid] at opened ⊢
    exact opened
  have restored (status : Status) (current : Int32) (valid : flags ≥ 0)
      (known : status.Restorable flags) (follows : flags = status.opened → current = flags) :
      Status.Untouched { status with current := current } := by
    unfold Status.Restorable at known
    rw [if_pos valid] at known
    exact (follows known.symm).trans known.symm
  have unchanged (status : Status) (invalid : ¬ flags ≥ 0) (known : status.Restorable flags) :
      status.Untouched := by
    unfold Status.Restorable at known
    rwa [if_neg invalid] at known
  apply setFlags_then (dialling.read flags)
    (fun status current valid known _ => nonblocking status current valid known)
    (fun _ _ known => known.2)
  intro middle readied
  refine Passing.sequence (connectNonblocking_passes readied) (fun _ => rfl) ?_
  rintro ⟨⟩ reached ⟨signs, affirmed, dialled⟩
  apply setFlags_then dialled restored unchanged
  intro pass settled
  exact ⟨rfl, by simpa using settled.connected affirmed⟩

/-- Without a timeout the socket stays as it is; it is returned when `connect` succeeds. -/
theorem connectBlocking_passes (dialling : Dialling rp sock Status.Untouched [] begun) :
    (connectBlocking rp sock err).wp anyAnswer
      (Passing rp memory begun (fun reached pass => Tried rp pass (some reached))) memory := by
  apply Passing.ask_then
  intro rc
  by_cases failed : rc ≠ .connected
  · rw [if_pos failed]
    obtain ⟨signs, unaffirmed, asked⟩ : ∃ signs, ¬ Affirmed signs ∧
        Dialling rp sock Status.Untouched signs (begun ++ [⟨memory, .connect sock rp, rc⟩]) := by
      cases rc with
      | connected => exact absurd rfl failed
      | inProgress => exact ⟨[.pending], by simp [Affirmed],
          dialling.observe trivial (by simp [connectionSign])⟩
      | failed => exact ⟨[], by simp [Affirmed], dialling.observe trivial rfl⟩
    exact abandonSocket_passes asked unaffirmed
  · rw [if_neg failed]
    obtain rfl := Decidable.not_not.mp failed
    have asked : Dialling rp sock Status.Untouched [.connected]
        (begun ++ [⟨memory, .connect sock rp, .connected⟩]) :=
      dialling.observe trivial (by simp [connectionSign])
    exact ⟨rfl, by simpa using asked.connected (.inl rfl)⟩

/-- A pass of the loop, with either kind of timeout. -/
theorem tryAddress_passes :
    (tryAddress timeoutMs rp err).wp anyAnswer
      (Passing rp memory [] (fun reached pass => Tried rp pass (some reached))) memory := by
  apply Passing.ask_then
  intro sock
  by_cases unopened : sock < 0
  · rw [if_pos unopened]
    exact ⟨rfl, Tried.unopened unopened⟩
  · rw [if_neg unopened]
    split
    · exact connectTimed_passes (.start unopened)
    · exact connectBlocking_passes (.start unopened)

end Pass

/-! ## The loop -/

/-- A part of the system calls that leaves nothing open, and what follows it. -/
theorem Leaves.append {earlier later : List SysStep} {reached : Option Socket}
    (first : Leaves earlier none) (second : Leaves later reached) :
    Leaves (earlier ++ later) reached where
  balanced := by
    rw [List.flatMap_append, balance_append, first.balanced]
    exact second.balanced
  described := by
    intro table run
    obtain ⟨middle, before, after⟩ := Run.append_iff.mp run
    obtain rfl := first.described middle before
    exact second.described table after

/-- With no address there is nothing to try and nothing to leave behind. -/
theorem Leaves.nil : Leaves [] none := ⟨rfl, fun _ run => Run.nil_iff.mp run⟩

/-- A system call that neither opens nor closes a socket nor writes flags. -/
theorem Leaves.snoc {events : List SysStep} {step : SysStep} {reached : Option Socket}
    (leaves : Leaves events reached) (silent : socketEntries step = [])
    (unchanged : ∀ before after, Descriptors.Step before step after → after = before) :
    Leaves (events ++ [step]) reached where
  balanced := by simpa [silent] using leaves.balanced
  described := by
    intro table run
    obtain ⟨before, earlier, last⟩ := Run.snoc_iff.mp run
    obtain rfl := unchanged before table last
    exact leaves.described table earlier

/-- What the loop comes to. -/
structure Searched (res : List AddrInfo) (events : List SysStep) (reached : Option Socket) :
    Prop where
  inOrder : TriesInOrder res events reached
  unfreed : events.filterMap listFreed = []
  leaves : Leaves events reached

namespace Searched

variable {rp : AddrInfo} {rest : List AddrInfo} {pass later : List SysStep} {sock : Socket}
  {reached : Option Socket}

/-- With no address left, none has been reached. -/
theorem exhausted : Searched [] [] none where
  inOrder := .exhausted
  unfreed := rfl
  leaves := .nil

/-- An address that was refused is passed over, and the search goes on with the rest of the list.
-/
theorem refused (tried : Tried rp pass none) (searched : Searched rest later reached) :
    Searched (rp :: rest) (pass ++ later) reached where
  inOrder := .refused tried.tried (fun sock connects => nomatch (tried.connects sock).mp connects)
    searched.inOrder
  unfreed := by rw [List.filterMap_append, tried.unfreed, searched.unfreed, List.nil_append]
  leaves := tried.leaves.append searched.leaves

/-- The first address that accepts ends the search; the rest of the list is not tried. -/
theorem connected (tried : Tried rp pass (some sock)) : Searched (rp :: rest) pass (some sock) where
  inOrder := .connected tried.tried ((tried.connects sock).mpr rfl)
  unfreed := tried.unfreed
  leaves := tried.leaves

end Searched

/-- The postcondition of the loop: a socket has been stored, or nothing has. -/
def LoopEnded (res : List AddrInfo) (memory : Socket) :
    List SysStep → Outcome Error Empty (Except Error Unit) → Socket → Prop
  | events, .returned (.ok ()), final => Searched res events (some final)
  | events, .returned (.error _), final => final = memory ∧ Searched res events none
  | _, .failed _, _ => False
  | _, .faulted _, _ | _, .waiting, _ => True

/-- The loop, by induction on the addresses. -/
theorem connectLoop_searches (timeoutMs : UInt32) (res : List AddrInfo) (err : Error)
    (memory : Socket) :
    (connectLoop timeoutMs res err).wp anyAnswer (LoopEnded res memory) memory := by
  induction res generalizing err with
  | nil => exact ⟨rfl, .exhausted⟩
  | cons rp rest inductionHypothesis =>
    refine wp_after tryAddress_passes (fun pass result final passed => ?_)
      (fun _ _ _ failed => failed) (fun _ _ _ _ => trivial) (fun _ _ _ => trivial)
    cases result with
    | error err =>
      obtain ⟨rfl, tried⟩ := passed
      apply wp_mono (inductionHypothesis err)
      intro later outcome last ended
      match outcome with
      | .returned (.ok ()) => exact ended.refused tried
      | .returned (.error _) => exact ⟨ended.1, ended.2.refused tried⟩
      | .failed _ => exact ended
      | .faulted _ | .waiting => trivial
    | ok sock =>
      change Searched (rp :: rest) (pass ++ []) (some sock)
      rw [List.append_nil]
      exact .connected passed.2

/-! ## The call -/

/-- The address list is looked up, searched, and freed when no address is left to be tried. -/
def Resolves (host : String) (port : UInt16) (res : List AddrInfo) (events : List SysStep)
    (reached : Option Socket) : Prop :=
  ∃ memory calls memory', TriesInOrder res calls reached ∧
    events = ⟨memory, .getaddrinfo host (toString port.toNat) addrHints, .ok res⟩ ::
      (calls ++ [⟨memory', .freeaddrinfo res, ()⟩])

/-- What `ovnc__socket_connect` has come to. When it succeeds, the socket that it has stored is
that of the first address that connects, and the only one of the sockets it has opened that is
open. When it fails, none is. -/
def SocketConnectEnded (host : String) (port : UInt16) :
    List SysStep → Outcome Error Empty Unit → Socket → Prop
  | events, .returned (), after =>
      Leaves events (some after) ∧
      ∃ res, Resolves host port res events (some after) ∧ events.filterMap listFreed = [res]
  | events, .failed _, after =>
      after = invalidSocket ∧ Leaves events none ∧
      ((∃ memory code, events =
          [⟨memory, .getaddrinfo host (toString port.toNat) addrHints, .error code⟩]) ∨
        ∃ res, Resolves host port res events none ∧ events.filterMap listFreed = [res])
  | _, .faulted _, _ | _, .waiting, _ => True

/-- The list is freed, and the search has come to an end. -/
theorem Searched.resolves {host : String} {port : UInt16} {res : List AddrInfo}
    {calls : List SysStep} {memory memory' : Socket} {reached : Option Socket}
    (searched : Searched res calls reached) :
    let events : List SysStep :=
      ⟨memory, .getaddrinfo host (toString port.toNat) addrHints, .ok res⟩ ::
        (calls ++ [⟨memory', .freeaddrinfo res, ()⟩])
    Leaves events reached ∧ Resolves host port res events reached ∧
      events.filterMap listFreed = [res] := by
  have started : Leaves [⟨memory, .getaddrinfo host (toString port.toNat) addrHints, .ok res⟩]
      none := Leaves.nil.snoc rfl (fun _ _ same => same)
  have ended : Leaves (calls ++ [⟨memory', .freeaddrinfo res, ()⟩]) reached :=
    searched.leaves.snoc rfl (fun _ _ same => same)
  refine ⟨started.append ended, ⟨memory, calls, memory', searched.inOrder, rfl⟩, ?_⟩
  rw [List.filterMap_cons_none rfl, List.filterMap_append, searched.unfreed]
  rfl

/-- `ovnc__socket_connect` ends as it should, whatever the system answers. -/
theorem socketConnect_ends (host : String) (port : UInt16) (timeoutMs : UInt32)
    (before : Socket) :
    (socketConnect host port timeoutMs).wp anyAnswer (SocketConnectEnded host port) before := by
  refine ⟨trivial, fun found _ => ?_⟩
  cases found with
  | error code =>
    exact ⟨rfl, Leaves.nil.snoc rfl (fun _ _ same => same), .inl ⟨_, _, rfl⟩⟩
  | ok res =>
    change (sequence (connectLoop timeoutMs res .connectionRefused) _).wp _ _ invalidSocket
    refine wp_after (connectLoop_searches timeoutMs res .connectionRefused invalidSocket)
      (fun calls result final ended => ?_)
      (fun _ _ _ failed => False.elim failed) (fun _ _ _ _ => trivial) (fun _ _ _ => trivial)
    refine ⟨trivial, fun freed _ => ?_⟩
    cases result with
    | error err =>
      obtain ⟨rfl, searched⟩ := ended
      obtain ⟨leaves, resolves, listFreed⟩ := searched.resolves
      exact ⟨rfl, leaves, .inr ⟨res, resolves, listFreed⟩⟩
    | ok value =>
      obtain ⟨leaves, resolves, listFreed⟩ := Searched.resolves ended
      exact ⟨leaves, res, resolves, listFreed⟩

section Prompt

variable (timeoutMs : UInt32) (rp : AddrInfo) (sock : Socket) (err : Error)

/-- No answer is a refusal. -/
def unrefused : (call : SysCall) → SysAnswer call → Option Error := fun _ _ => none

/-- Setting the flags asks for at most one system call. -/
theorem setFlags_prompt (valid : Prop) [Decidable valid] (flags : Int32) :
    Prompt unrefused (setFlags valid sock flags) :=
  .onlyIf (.sequence (.ask (fun _ => rfl)) (fun _ => .done ()))

/-- Giving a socket up asks for its close, and then goes on. -/
theorem abandonSocket_prompt {α : Type} :
    Prompt unrefused (abandonSocket sock err : SysRoutine (Except Error α)) :=
  .sequence (.ask (fun _ => rfl)) (fun _ => .done _)

/-- The wait for a connection asks the system twice at most. -/
theorem awaitConnect_prompt : Prompt unrefused (awaitConnect timeoutMs sock) := by
  refine .sequence (.ask (fun _ => rfl)) (fun pollRc => .ite (abandonSocket_prompt _ _) ?_)
  exact .sequence (.ask (fun _ => rfl)) (fun soError => .ite (abandonSocket_prompt _ _) (.done _))

/-- An attempt with a timeout comes to an end. -/
theorem connectNonblocking_prompt :
    Prompt unrefused (connectNonblocking timeoutMs rp sock err) := by
  refine .sequence (.ask (fun _ => rfl)) (fun rc => ?_)
  cases rc with
  | connected => exact .done _
  | inProgress => exact awaitConnect_prompt timeoutMs sock
  | failed => exact abandonSocket_prompt sock err

/-- So does an attempt with or without one. -/
theorem connectTimed_prompt : Prompt unrefused (connectTimed timeoutMs rp sock err) := by
  refine .sequence (.ask (fun _ => rfl)) (fun flags => ?_)
  refine .sequence (setFlags_prompt sock _ _) (fun _ => ?_)
  refine .sequence (connectNonblocking_prompt timeoutMs rp sock err) (fun reached => ?_)
  cases reached with
  | error err => exact .done _
  | ok => exact .sequence (setFlags_prompt sock _ _) (fun _ => .done _)

/-- So does the attempt at an address for which there may be no socket. -/
theorem tryAddress_prompt : Prompt unrefused (tryAddress timeoutMs rp err) := by
  refine .sequence (.ask (fun _ => rfl)) (fun sock => .ite (.done _) (.ite ?_ ?_))
  · exact connectTimed_prompt timeoutMs rp sock err
  · exact .sequence (.ask (fun _ => rfl)) (fun rc => .ite (abandonSocket_prompt _ _) (.done _))

/-- The loop comes to an end, by induction on the addresses. -/
theorem connectLoop_prompt (res : List AddrInfo) :
    Prompt unrefused (connectLoop timeoutMs res err) := by
  induction res generalizing err with
  | nil => exact .done _
  | cons rp rest inductionHypothesis =>
    refine .sequence (tryAddress_prompt timeoutMs rp err) (fun tried => ?_)
    cases tried with
    | error err => exact inductionHypothesis err
    | ok sock => exact .sequence (.update _) (fun _ => .done _)

/-- `ovnc__socket_connect` never waits for anything but the system: it tries one address after the
other, and there are finitely many. -/
theorem socketConnect_prompt (host : String) (port : UInt16) :
    Prompt unrefused (socketConnect host port timeoutMs) := by
  refine .sequence (.update _) (fun _ => .sequence (.ask (fun _ => rfl)) (fun found => ?_))
  cases found with
  | error code => exact .fail _
  | ok res =>
    refine .sequence (connectLoop_prompt timeoutMs _ res) (fun ended => ?_)
    refine .sequence (.ask (fun _ => rfl)) (fun _ => ?_)
    cases ended with
    | error err => exact .fail err
    | ok => exact .done ()

end Prompt

/-- Addresses for `localhost`, of which only the second is answered. -/
def loopbackAnswers : Handler SysCall SysAnswer Unit
  | .getaddrinfo .., world => (some (.ok [⟨10, 1, 6, [0, 1]⟩, ⟨2, 1, 6, [127, 1]⟩]), world)
  | .freeaddrinfo _, world => (some (), world)
  | .socket _, world => (some 3, world)
  | .fcntlGetfl _, world => (some 2, world)
  | .fcntlSetfl .., world => (some 0, world)
  | .connect _ rp, world => (some (if rp.family = 2 then .inProgress else .failed), world)
  | .poll .., world => (some 1, world)
  | .getsockopt _, world => (some (some 0), world)
  | .close _, world => (some (), world)

/-- Whatever the system calls come to, `ovnc__socket_connect` returns, and it leaves open the
socket that it stores, and with an error none. -/
theorem socketConnect_leaves (host : String) (port : UInt16) (timeoutMs : UInt32)
    (before : Socket) :
    (∀ {W : Type} (handler : Handler SysCall SysAnswer W) (world : W),
      (∀ call world, ∃ answer later, handler call world = (some answer, later)) →
      ((socketConnect host port timeoutMs).run handler before world).1 ≠ .waiting) ∧
    ∀ events outcome after,
      Execution anyAnswer (socketConnect host port timeoutMs) before events outcome after →
      SocketConnectEnded host port events outcome after :=
  ⟨fun _ world answers => run_prompt (socketConnect_prompt timeoutMs host port) answers before
    world, (wp_iff _ _ _).mp (socketConnect_ends host port timeoutMs before)⟩

/-- An address is refused and the next one connects, its socket having the number of the first
one's. The answers are those of a system that keeps its descriptors. -/
theorem socketConnect_leaves_second : ∃ events,
    Run Descriptors.Step Descriptors.empty events (Descriptors.only 3 ⟨2, 2⟩) ∧
      SocketConnectEnded "localhost" 5900 events (.returned ()) 3 := by
  have executed := run_execution loopbackAnswers anyAnswer (fun _ _ _ _ _ => trivial)
    (socketConnect "localhost" 5900 1000) 0 ()
  have ended : SocketConnectEnded "localhost" 5900 _ (.returned ()) 3 :=
    (socketConnect_leaves "localhost" 5900 1000 0).2 _ _ _ executed
  have run : Run Descriptors.Step Descriptors.empty
      ((socketConnect "localhost" 5900 1000).trace loopbackAnswers 0 ())
      (Descriptors.only 3 ⟨2, 2⟩) := by
    refine .cons rfl ?_
    refine .cons ((Descriptors.step_socket (by decide)).mpr ⟨2, rfl⟩) ?_
    refine .cons (Descriptors.step_fcntlGetfl.mpr ⟨rfl, fun _ => rfl⟩) ?_
    refine .cons (Descriptors.step_fcntlSetfl.mpr rfl) ?_
    refine .cons rfl (.cons (Descriptors.step_close.mpr rfl) ?_)
    refine .cons ((Descriptors.step_socket (by decide)).mpr ⟨2, rfl⟩) ?_
    refine .cons (Descriptors.step_fcntlGetfl.mpr ⟨rfl, fun _ => rfl⟩) ?_
    refine .cons (Descriptors.step_fcntlSetfl.mpr rfl) ?_
    refine .cons rfl (.cons rfl (.cons rfl ?_))
    refine .cons (Descriptors.step_fcntlSetfl.mpr rfl) ?_
    exact .cons rfl .nil
  exact ⟨_, run, ended⟩

/-- A socket that was connected is one that the system has handed out. -/
theorem TriesInOrder.valid {res : List AddrInfo} {calls : List SysStep} {sock : Socket}
    (inOrder : TriesInOrder res calls (some sock)) : 0 ≤ sock := by
  generalize reached : some sock = stored at inOrder
  induction inOrder with
  | exhausted => exact absurd reached nofun
  | refused tried refused others inductionHypothesis => exact inductionHypothesis reached
  | connected tried connects =>
    obtain rfl := Option.some.inj reached
    exact connects.valid

/-- A socket that has been stored is an answer that is allowed to the transport layer. -/
theorem socketConnect_allowed {host : String} {port : UInt16} {timeoutMs : UInt32}
    {before after : Socket} {events : List SysStep}
    (executed : Execution anyAnswer (socketConnect host port timeoutMs) before events
      (.returned ()) after) :
    Allowed (.socketConnect host port timeoutMs) (.ok after) := by
  obtain ⟨-, res, ⟨memory, calls, memory', inOrder, -⟩, -⟩ :=
    (wp_iff _ _ _).mp (socketConnect_ends host port timeoutMs before) _ _ _ executed
  intro invalid
  have valid := inOrder.valid
  rw [invalid] at valid
  exact absurd valid (by decide)

end OpenVnc
