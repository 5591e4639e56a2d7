import OpenVnc.SendCalls
import OpenVnc.Feed
import OpenVnc.Interaction.Interleavings

/-!
# Sending from several threads

Every `ovnc__transport_send` is one atomic append to the outgoing stream, and several
threads call the send operations of one connected client. Nothing keeps the appends of
one call together. All calls but one append once; `ovnc_client_send_cut_text` appends
the header and then the text, so that another thread's message may come in between.
-/

namespace OpenVnc

open Interaction Interaction.Program

/-- A call of a send operation on a connected client that has sent something, with no
failure of the transport. A call that sends nothing adds nothing to any schedule. -/
structure SendCall (word : WordSize) where
  call : ApiCall
  memory : Memory
  bound : Nat
  events : List Step
  result : Except Error Unit
  final : Memory
  sends : call.sends = true
  readable : call.Readable
  connected : memory.client.state = .connected
  performed : Execution Allowed (perform word bound call) memory events
    (Outcome.finished result) final
  unfailing : ∀ exchanged ∈ transfers events, ∃ data, exchanged = .sent data
  effective : transfers events ≠ []

namespace SendCall

variable {word : WordSize}

/-- The appends of the call, in order. -/
def appends (sent : SendCall word) : List (List UInt8) := attempts sent.events

/-- The whole message of one sender has gone out. -/
theorem whole (sent : SendCall word) :
    WholeSender (sent.call.sender sent.memory.client.framebuffer) (transfers sent.events) := by
  have proceeds := (wp_iff _ _ _).mp
    (perform_transfers word sent.bound sent.sends sent.readable sent.memory) _ _ _ sent.performed
  cases result : sent.result with
  | ok value =>
    rw [result] at proceeds
    exact proceeds
  | error error =>
    rw [result] at proceeds
    have within : WithinSender (sent.call.sender sent.memory.client.framebuffer) (some error)
        (transfers sent.events) := proceeds
    rcases within with nothing | ⟨sender, -, interrupted⟩ | whole
    · exact absurd nothing sent.effective
    · -- A call that fails on the way has had a send stopped.
      obtain ⟨next, written, member⟩ := interrupted.sendStopped
      obtain ⟨data, sent⟩ := sent.unfailing _ member
      exact absurd sent nofun
    · exact whole

/-- A call that sends has a sender: its message is built from its arguments and the framebuffer.
-/
theorem isSome_sender (sent : SendCall word) :
    (sent.call.sender sent.memory.client.framebuffer).isSome := by
  obtain ⟨sender, picked, -⟩ := sent.whole
  rw [picked]
  rfl

/-- The sender that the call has executed. -/
def sender (sent : SendCall word) : Sender :=
  (sent.call.sender sent.memory.client.framebuffer).get sent.isSome_sender

/-- The message that the call has sent. -/
def message (sent : SendCall word) : ClientMessage := sent.sender.message

/-- What a call appends is what its sender hands over. -/
theorem appends_eq (sent : SendCall word) : sent.appends = sent.sender.buffers := by
  obtain ⟨sender, picked, exchanged⟩ := sent.whole
  have same : sent.sender = sender := Option.get_of_eq_some _ picked
  rw [same, appends, attempts, exchanged, List.filterMap_map]
  exact List.filterMap_some

/-- The appends of a call make up its message. -/
theorem appends_flatten (sent : SendCall word) : sent.appends.flatten = sent.message.encode := by
  rw [sent.appends_eq, sent.sender.buffers_flatten, message]

/-- A call that sends makes at least one append. -/
theorem appends_ne_nil (sent : SendCall word) : sent.appends ≠ [] := by
  rw [sent.appends_eq]
  cases sent.sender <;> simp [Sender.buffers]

/-- The call sends a text that is not empty. -/
def SendsText (sent : SendCall word) : Prop :=
  ∃ text length, sent.call = .sendCutText (some text) length ∧ 0 < length

/-- Only a text takes more than one append. -/
theorem two_appends_iff (sent : SendCall word) : 2 ≤ sent.appends.length ↔ sent.SendsText := by
  have picked : sent.call.sender sent.memory.client.framebuffer = some sent.sender :=
    (Option.some_get sent.isSome_sender).symm
  rw [sent.appends_eq, SendsText]
  generalize sent.sender = sender at picked
  constructor
  · intro two
    cases sender with
    | clientCutText text length readable =>
      have positive : 0 < length := by
        by_contra empty
        simp [Sender.buffers, empty] at two
      exact ⟨text, length, ApiCall.sender_clientCutText picked, positive⟩
    | _ => exact absurd two (by simp [Sender.buffers])
  · rintro ⟨text, length, called, positive⟩
    rw [called, ApiCall.sender] at picked
    split at picked
    · obtain rfl := Option.some.inj picked
      simp [Sender.buffers, positive]
    · exact absurd picked (by simp)

end SendCall

/-! ## Schedules of several threads -/

section Threads

variable {word : WordSize} {I : Type} [Fintype I] [DecidableEq I]

/-- The bytes that a schedule of appends puts on the wire. -/
def streamed (schedule : List (I × List UInt8)) : List UInt8 :=
  schedule.flatMap (fun append => append.2)

/-- The messages of the threads have gone out one after another, each in one piece. -/
def SentWhole (threads : I → List (SendCall word)) (schedule : List (I × List UInt8)) : Prop :=
  ∃ order : List (I × SendCall word), Interleaves threads order ∧
    schedule = order.flatMap (fun entry => scheduled entry.1 entry.2.appends) ∧
    streamed schedule = order.flatMap (fun entry => entry.2.message.encode)

omit [Fintype I] in
/-- The bytes of an unsplit schedule are those of its messages in their order. -/
theorem sentWhole_iff_unsplit (threads : I → List (SendCall word))
    (schedule : List (I × List UInt8)) :
    SentWhole threads schedule ↔ Unsplit SendCall.appends threads schedule := by
  constructor
  · rintro ⟨order, orders, ordered, -⟩
    exact ⟨order, orders, ordered⟩
  · rintro ⟨order, orders, rfl⟩
    refine ⟨order, orders, rfl, ?_⟩
    unfold streamed
    rw [List.flatMap_assoc]
    apply List.flatMap_congr
    intro entry _
    rw [← entry.2.appends_flatten, scheduled, List.flatMap_map]
    rw [List.flatten_eq_flatMap]
    rfl

/-- Whatever the schedule of the appends, no message is split by another, exactly when no
thread sends a text that is not empty while another thread sends anything. -/
theorem sent_whole_iff (threads : I → List (SendCall word)) :
    (∀ schedule, Interleaves (fun i => (threads i).flatMap SendCall.appends) schedule →
      SentWhole threads schedule) ↔
      ∀ i j, i ≠ j → (∃ sent ∈ threads i, sent.SendsText) → threads j = [] := by
  simp only [sentWhole_iff_unsplit, ← SendCall.two_appends_iff]
  exact unsplit_iff SendCall.appends_ne_nil

end Threads

/-! ## A key in the middle of a text -/

/-- The events of a call on the connected client of the plain session. -/
def plainEvents (call : ApiCall) : List Step :=
  (perform .bits64 0 call).trace plainHost.feed (plainConnected {}).2.1 { unread := [] }

/-- A call on the connected client of the plain session. -/
def plainCall (call : ApiCall) (sends : call.sends = true) (readable : call.Readable)
    (returned : ((perform .bits64 0 call).run plainHost.feed (plainConnected {}).2.1
      { unread := [] }).1 = .returned ())
    (sent : List (List UInt8)) (exchanged : transfers (plainEvents call) = sent.map .sent)
    (some : sent ≠ []) : SendCall .bits64 where
  call := call
  memory := (plainConnected {}).2.1
  bound := 0
  events := plainEvents call
  result := .ok ()
  final :=
    ((perform .bits64 0 call).run plainHost.feed (plainConnected {}).2.1 { unread := [] }).2.1
  sends := sends
  readable := readable
  connected := plainConnected_returned.2
  performed := by
    have execution := run_execution plainHost.feed Allowed
      (fun request feed answer later answered =>
        (plainHost.feed_provisioned request feed answer later answered).1)
      (perform .bits64 0 call) (plainConnected {}).2.1 { unread := [] }
    rw [returned] at execution
    exact execution
  unfailing := by
    rw [exchanged]
    rintro transferred member
    obtain ⟨data, -, rfl⟩ := List.mem_map.mp member
    exact ⟨data, rfl⟩
  effective := by
    rw [exchanged]
    simpa using some

/-- A text of two characters. -/
def textCall : SendCall .bits64 :=
  plainCall (.sendCutText (some [104, 105]) 2) rfl (by decide : 2 ≤ 2) (by decide)
    [[6, 0, 0, 0, 0, 0, 0, 2], [104, 105]] (by decide) (by decide)

/-- A key that is pressed. -/
def keyCall : SendCall .bits64 :=
  plainCall (.sendKeyEvent 0xff0d 1) rfl trivial (by decide) [[4, 1, 0, 0, 0, 0, 255, 13]]
    (by decide) (by decide)

/-- The key event is appended between the header of the text and the text. -/
def splitSchedule : List (Fin 2 × List UInt8) :=
  [(0, [6, 0, 0, 0, 0, 0, 0, 2]), (1, [4, 1, 0, 0, 0, 0, 255, 13]), (0, [104, 105])]

/-- A call with a text makes two appends: the header and the text. -/
theorem textCall_appends : textCall.appends = [[6, 0, 0, 0, 0, 0, 0, 2], [104, 105]] := by decide

/-- A key event is a single append. -/
theorem keyCall_appends : keyCall.appends = [[4, 1, 0, 0, 0, 0, 255, 13]] := by decide

/-- The two threads of the example. -/
def typists : Fin 2 → List (SendCall .bits64)
  | 0 => [textCall]
  | 1 => [keyCall]

/-- Two threads, one with a text and one with a key: the stream of one schedule is that
of no order of the two messages. -/
theorem text_split_by_key :
    ¬ ∀ (threads : Fin 2 → List (SendCall .bits64)) (schedule : List (Fin 2 × List UInt8)),
      Interleaves (fun i => (threads i).flatMap SendCall.appends) schedule →
      ∃ order : List (Fin 2 × SendCall .bits64), Interleaves threads order ∧
        streamed schedule = order.flatMap (fun entry => entry.2.message.encode) := by
  intro whole
  have interleaves : Interleaves (fun i => (typists i).flatMap SendCall.appends) splitSchedule := by
    intro i
    rcases Fin.exists_fin_two.mp ⟨i, rfl⟩ with rfl | rfl
    · simp [typists, textCall_appends, splitSchedule, ofThread]
    · simp [typists, keyCall_appends, splitSchedule, ofThread]
  obtain ⟨order, orders, stream⟩ := whole typists splitSchedule interleaves
  simp only [← SendCall.appends_flatten] at stream
  rcases order with _ | ⟨⟨i, sent⟩, order⟩
  · simp [streamed, splitSchedule] at stream
  · have first := orders i
    rw [ofThread_cons_same] at first
    rcases Fin.exists_fin_two.mp ⟨i, rfl⟩ with rfl | rfl
    · obtain ⟨rfl, -⟩ := List.cons.inj first
      simp [streamed, splitSchedule, textCall_appends] at stream
    · obtain ⟨rfl, -⟩ := List.cons.inj first
      simp [streamed, splitSchedule, keyCall_appends] at stream

end OpenVnc
