import OpenVnc.Feed
import OpenVnc.Interaction.Progress

/-!
# The end of the stream

The server's bytes can come to an end. `Host.closing` is the host whose stream ends: a
receive that asks for more than there is takes what is left and fails. A routine that
decodes a message passes the error of a failed receive on at once, so that what it does
against such a host is what it did while it waited for more. And bytes that come later
change nothing about a routine that has already come to an end.
-/

namespace OpenVnc

open Interaction Interaction.Program

/-- The error of an answer that is a failed receive. -/
def recvRefusal : (request : Request) → Answer request → Option Error
  | .recv _, .stopped _ error => some error
  | _, _ => none

/-- A routine that ends, and that passes the error of a failed receive on at once. -/
abbrev Yields {α : Type} (routine : Routine α) : Prop := Prompt recvRefusal routine

/-! ## The routines that decode a message -/

/-- Dereferencing the transport asks for nothing that could be refused. -/
theorem derefTransport_yields : Yields derefTransport := by
  apply Prompt.load.sequence
  intro memory
  cases memory.client.transport with
  | none => exact Prompt.fault _
  | some transport => exact Prompt.done transport

/-- A receive that is stopped ends the routine with the error of the receive. -/
theorem transportRecv_yields (len : Nat) : Yields (transportRecv len) := by
  apply derefTransport_yields.sequence
  intro transport
  apply Prompt.ask_then
  · rintro (bytes | ⟨received, error⟩) accepted
    · exact Prompt.done bytes
    · cases accepted
  · rintro (bytes | ⟨received, reason⟩) error refused
    · cases refused
    · exact Option.some.inj refused

/-- So does a receive into pixel storage, after the bytes that have arrived are stored. -/
theorem transportRecvPixels_yields (offset len : Nat) :
    Yields (transportRecvPixels offset len) := by
  apply derefTransport_yields.sequence
  intro transport
  apply Prompt.load.sequence
  intro memory
  apply (Prompt.faultIf _ _).sequence
  intro fits
  apply Prompt.ask_then
  · rintro (bytes | ⟨received, error⟩) accepted
    · exact Prompt.update _
    · cases accepted
  · rintro (bytes | ⟨received, reason⟩) error refused
    · cases refused
    · exact fun memory => Option.some.inj refused

/-- Disconnecting asks for the close of a socket, which is not refused. -/
theorem clientDisconnect_yields : Yields clientDisconnect := by
  apply Prompt.load.sequence
  intro memory
  apply Prompt.onlyIf
  apply Prompt.sequence
  · apply Prompt.load.sequence
    intro memory
    cases memory.client.transport with
    | none => exact Prompt.done ()
    | some transport =>
      apply Prompt.sequence
      · exact Prompt.onlyIf ((Prompt.ask (fun _ => rfl)).sequence (fun _ => Prompt.done ()))
      · exact fun _ => Prompt.update _
  · exact fun _ => (Prompt.update _).sequence (fun _ => Prompt.update _)

/-- Nor is a callback. -/
theorem fire_yields (call : Callback) : Yields (fire call) := by
  apply Prompt.load.sequence
  intro memory
  apply Prompt.onlyIf
  apply (Prompt.ask (fun _ => rfl)).sequence
  exact fun disconnects => Prompt.onlyIf clientDisconnect_yields

/-- Nor is storage for a buffer: where there is none, the library has an error of its own. -/
theorem malloc_yields (size : Nat) : Yields (ask (Request.malloc size)) := Prompt.ask (fun _ => rfl)

/-- `ovnc__decode_raw` stops at the first row that does not arrive. -/
theorem decodeRaw_yields (word : WordSize) (rect : Rect) : Yields (decodeRaw word rect) := by
  have rows (bpp rowBytes fbStride y rows : Nat) :
      Yields (decodeRawRows word rect bpp rowBytes fbStride y rows) := by
    induction rows generalizing y with
    | zero => exact Prompt.done ()
    | succ rows inductionHypothesis =>
      apply Prompt.load.sequence
      intro memory
      apply (Prompt.failIf _ _).sequence
      intro within
      exact (transportRecvPixels_yields _ _).sequence (fun _ => inductionHypothesis (y + 1))
  apply Prompt.load.sequence
  intro memory
  exact (rows _ _ _ _ _).sequence (fun _ => fire_yields _)

/-- The application's allocator is asked once. -/
theorem callAllocFramebuffer_yields : Yields callAllocFramebuffer := by
  apply Prompt.load.sequence
  intro memory
  apply (Prompt.ask (fun _ => rfl)).sequence
  rintro ⟨error, left⟩
  apply (Prompt.update _).sequence
  intro stored
  cases error with
  | none => exact Prompt.done ()
  | some error => exact Prompt.fail error

/-- `decode_desktop_size` receives nothing, so nothing stops it. -/
theorem decodeDesktopSize_yields (word : WordSize) (rect : Rect) :
    Yields (decodeDesktopSize word rect) := by
  apply Prompt.load.sequence
  intro memory
  apply Prompt.ite
  · apply (Prompt.update _).sequence
    intro stored
    exact callAllocFramebuffer_yields.sequence (fun _ => fire_yields _)
  · apply Prompt.sequence
    · exact (Prompt.ask (fun _ => rfl)).sequence (fun _ => Prompt.done _)
    · rintro (_ | block)
      · exact Prompt.fail _
      · apply Prompt.sequence
        · cases memory.client.framebuffer.data with
          | none => exact Prompt.done ()
          | some block => exact (Prompt.ask (fun _ => rfl)).sequence (fun _ => Prompt.done ())
        · exact fun _ => (Prompt.update _).sequence (fun _ => fire_yields _)

/-- `decode_cursor` stops when its bytes do not arrive. -/
theorem decodeCursor_yields (word : WordSize) (rect : Rect) : Yields (decodeCursor word rect) := by
  apply Prompt.load.sequence
  intro memory
  apply Prompt.ite (fire_yields _)
  apply (malloc_yields _).sequence
  intro allocated
  apply (Prompt.failIf _ _).sequence
  exact fun _ => (transportRecv_yields _).sequence (fun _ => fire_yields _)

/-- A pass of the rectangle loop stops in its header or in its rectangle. -/
theorem handleRect_yields (word : WordSize) : Yields (handleRect word) := by
  apply (transportRecv_yields _).sequence
  intro rectHeader
  apply Prompt.ite (decodeRaw_yields word _)
  apply Prompt.ite (decodeDesktopSize_yields word _)
  exact Prompt.ite (decodeCursor_yields word _) (Prompt.fail _)

/-- The rectangle loop stops at the first rectangle that stops, by induction on those that are
left. -/
theorem handleRects_yields (word : WordSize) (left : Nat) : Yields (handleRects word left) := by
  induction left with
  | zero => exact Prompt.done ()
  | succ left inductionHypothesis =>
    apply (Prompt.update _).sequence
    exact fun _ => (handleRect_yields word).sequence (fun _ => inductionHypothesis)

/-- `handle_color_map_entries` stops in its header or in its colours. -/
theorem handleColorMapEntries_yields : Yields handleColorMapEntries := by
  apply (transportRecv_yields _).sequence
  intro header
  apply (malloc_yields _).sequence
  intro allocated
  apply (Prompt.failIf _ _).sequence
  intro obtained
  apply (transportRecv_yields _).sequence
  intro data
  apply Prompt.load.sequence
  intro memory
  apply Prompt.onlyIf
  apply (malloc_yields _).sequence
  intro red
  apply (malloc_yields _).sequence
  intro green
  apply (malloc_yields _).sequence
  intro blue
  exact (Prompt.failIf _ _).sequence (fun _ => fire_yields _)

/-- `handle_server_cut_text` stops in its header or in its text. -/
theorem handleServerCutText_yields : Yields handleServerCutText := by
  apply (transportRecv_yields _).sequence
  intro header
  apply Prompt.ite
  · apply (malloc_yields _).sequence
    intro allocated
    apply (Prompt.failIf _ _).sequence
    intro obtained
    apply (Prompt.faultIf _ _).sequence
    intro fits
    apply (transportRecv_yields _).sequence
    intro text
    exact (Prompt.faultIf _ _).sequence (fun _ => fire_yields _)
  · exact fire_yields _

/-- `ovnc__recv_server_message` ends, and passes the error of a failed receive on. -/
theorem recvServerMessage_yields (word : WordSize) : Yields (recvServerMessage word) := by
  apply (transportRecv_yields _).sequence
  intro msgType
  apply Prompt.ite
  · apply (transportRecv_yields _).sequence
    intro header
    exact (handleRects_yields word _).sequence (fun _ => fire_yields _)
  apply Prompt.ite handleColorMapEntries_yields
  apply Prompt.ite (fire_yields _)
  exact Prompt.ite handleServerCutText_yields (Prompt.fail _)

/-- What follows a message that could not be processed receives nothing. -/
theorem tearDown_yields (error : Error) : Yields (tearDown error : Routine Unit) :=
  (fire_yields _).sequence (fun _ => clientDisconnect_yields.sequence (fun _ => Prompt.fail error))

/-! ## Streams that go on and streams that end -/

section Streams

variable (host : Host) {α : Type} {routine : Routine α} {memory : Memory}

/-- The host whose stream ends: a receive that asks for more than there is fails. -/
def Host.ending (error : Error) : Handler Request Answer Feed
  | .recv len, feed =>
      if len ≤ feed.unread.length then
        (some (RecvAnswer.complete (feed.unread.take len)),
          { feed with unread := feed.unread.drop len })
      else (some (RecvAnswer.stopped feed.unread error), { feed with unread := [] })
  | request, feed => host.feed request feed

/-- More bytes of the server. -/
def Feed.followedBy (feed : Feed) (more : List UInt8) : Feed :=
  { feed with unread := feed.unread ++ more }

/-- What the host answers, it also answers when its stream ends. -/
theorem Host.ending_extends (error : Error) :
    Extends Eq host.feed (host.ending error) := by
  rintro request feed _ answer later rfl answered
  refine ⟨later, ?_, rfl⟩
  cases request with
  | recv len =>
    simp only [Host.feed, ending] at answered ⊢
    split at answered
    · next enough => rw [if_pos enough, answered]
    · cases answered
  | _ => exact answered

/-- The host leaves only a receive unanswered, and refuses it when its stream ends. -/
theorem Host.ending_refuses (error : Error) (request : Request) (feed later : Feed)
    (unanswered : host.feed request feed = (none, later)) :
    ∃ answer, host.ending error request feed = (some answer, { later with unread := [] }) ∧
      recvRefusal request answer = some error := by
  cases request with
  | recv len =>
    simp only [Host.feed, ending] at unanswered ⊢
    split at unanswered
    · cases unanswered
    · next short =>
      cases unanswered
      rw [if_neg short]
      exact ⟨_, rfl, rfl⟩
  | _ => cases unanswered

/-- A stream ends in one of the two ways in which a receive can fail. -/
theorem Host.ending_allowed {error : Error} (ends : error = .io ∨ error = .connectionClosed)
    (request : Request) (feed : Feed) (answer : Answer request) (later : Feed)
    (answered : host.ending error request feed = (some answer, later)) :
    Allowed request answer := by
  cases given : host.feed request feed with
  | mk reply between =>
    cases reply with
    | some other =>
      obtain ⟨_, same, -⟩ := host.ending_extends error request feed feed other between rfl given
      rw [same] at answered
      cases answered
      exact (host.feed_provisioned request feed answer between given).1
    | none =>
      cases request with
      | recv len =>
        simp only [Host.feed, ending] at given answered
        split at given
        · cases given
        · next short =>
          rw [if_neg short] at answered
          cases answered
          exact ⟨by simpa using short, ends⟩
      | _ => cases given

/-- What the host answers, it also answers when more bytes are to come. -/
theorem Host.feed_extends (more : List UInt8) :
    Extends (fun feed feed' => feed' = feed.followedBy more) host.feed host.feed := by
  rintro request feed _ answer later rfl answered
  cases request with
  | recv len =>
    simp only [Host.feed, Feed.followedBy, List.length_append] at answered ⊢
    split at answered
    · next enough =>
      cases answered
      rw [if_pos (by omega), List.take_append_of_le_length enough,
        List.drop_append_of_le_length enough]
      exact ⟨_, rfl, rfl⟩
    · cases answered
  | _ =>
    cases answered
    exact ⟨_, rfl, rfl⟩

/-- A routine that waits for more bytes fails when the stream ends instead. -/
theorem run_ending_waiting (error : Error) (yields : Yields routine) {feed later : Feed}
    {middle : Memory} (waits : routine.run host.feed memory feed = (.waiting, middle, later)) :
    ∃ final, routine.run (host.ending error) memory feed =
      (.failed error, final, { later with unread := [] }) :=
  run_refused (host.ending_extends error) (host.ending_refuses error) yields waits

/-- A routine that comes to an end does so whether or not the stream ends. -/
theorem run_ending_ended (error : Error) {feed : Feed}
    (ended : (routine.run host.feed memory feed).1 ≠ .waiting) :
    routine.run (host.ending error) memory feed = routine.run host.feed memory feed := by
  obtain ⟨later, same, rfl⟩ := run_extends (host.ending_extends error) routine memory rfl ended
  exact same

/-- A routine that reads certain bytes and leaves all that follows them waits for the last
of these bytes. -/
theorem run_cut (feed : Feed) {input received rest : List UInt8} {later : Feed}
    {outcome : Outcome Error Fault α} {final : Memory}
    (reads : routine.run host.feed memory { feed with unread := input ++ rest } =
      (outcome, final, later)) (left : later.unread = rest)
    (front : received <+: input) (cut : received ≠ input) :
    ∃ middle waiting, routine.run host.feed memory { feed with unread := received } =
      (.waiting, middle, waiting) := by
  obtain ⟨missing, rfl⟩ := front
  have something : missing ≠ [] := by
    rintro rfl
    exact cut (List.append_nil received).symm
  by_cases waits : (routine.run host.feed memory { feed with unread := received }).1 = .waiting
  · rw [← waits]
    exact ⟨_, _, rfl⟩
  · -- Had it ended, it would have left the missing bytes as well.
    obtain ⟨longer, same, followed⟩ := run_extends (host.feed_extends (missing ++ rest)) routine
      memory (rfl : _ = Feed.followedBy { feed with unread := received } _) waits
    rw [Feed.followedBy, ← List.append_assoc, reads] at same
    cases same
    have sizes := congrArg (fun feed => feed.unread.length) followed
    simp only [Feed.followedBy, left, List.length_append] at sizes
    have := List.length_pos_iff.mpr something
    omega

end Streams

end OpenVnc
