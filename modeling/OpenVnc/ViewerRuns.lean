import OpenVnc.Properties.FormatAgreement
import OpenVnc.Properties.Reentrancy
import OpenVnc.Viewer

/-!
# What an iteration of the example client does

Callbacks that do nothing leave a run as it is, so an iteration of the example client decodes the
message in flight as a client without an application does. If the message is an update, the next
request has been sent when the iteration ends.
-/

namespace OpenVnc

open Interaction Interaction.Program

/-! ## Callbacks that do nothing -/

/-- A routine adds to the callbacks that have run. -/
theorem run_fired {α : Type} (host : Host) (routine : Routine α) (memory : Memory) (feed : Feed) :
    ∃ calls, (routine.run host.feed memory feed).2.2.fired = feed.fired ++ calls := by
  induction routine generalizing memory feed with
  | done | failing | faulting | stalled => exact ⟨[], (List.append_nil _).symm⟩
  | loading next inductionHypothesis => exact inductionHypothesis memory memory feed
  | storing written next inductionHypothesis => exact inductionHypothesis written feed
  | asking request next inductionHypothesis =>
    have answering : ∃ calls, (host.feed request feed).2.fired = feed.fired ++ calls := by
      cases request with
      | callback call => exact ⟨[call], rfl⟩
      | recv len =>
        refine ⟨[], ?_⟩
        simp only [Host.feed]
        split <;> exact (List.append_nil _).symm
      | _ => exact ⟨[], (List.append_nil _).symm⟩
    obtain ⟨first, fired⟩ := answering
    rw [run_asking]
    rcases answered : host.feed request feed with ⟨_ | answer, later⟩
    · rw [answered] at fired
      exact ⟨first, fired⟩
    · rw [answered] at fired
      obtain ⟨calls, rest⟩ := inductionHypothesis answer memory later
      exact ⟨first ++ calls, by rw [rest, fired, List.append_assoc]⟩

section Reacting

variable {α : Type} {host : Host} {app : Callback → Reaction} {memory : Memory} {feed : Feed}
  {word : WordSize}

/-- A run in which the application does nothing in the callbacks is as without one. -/
theorem run_reenter {routine : Routine α} {calls : List Callback}
    (fired : (routine.run host.feed memory feed).2.2.fired = feed.fired ++ calls)
    (leaves : ∀ call ∈ calls, app call = .leave) :
    (reenter word routine).run (host.reacting app) memory feed =
      routine.run host.feed memory feed := by
  induction routine generalizing memory feed calls with
  | done | failing | faulting | stalled => rfl
  | loading next inductionHypothesis => exact inductionHypothesis memory fired leaves
  | storing written next inductionHypothesis => exact inductionHypothesis fired leaves
  | asking request next inductionHypothesis =>
    change (sequence (reentrant word request) (fun answer => reenter word (next answer))).run
      (host.reacting app) memory feed = _
    have outside (asks : reentrant word request = ask (ReentrantRequest.outside request))
        (same : (host.feed request feed).2.fired = feed.fired) :
        (sequence (reentrant word request) (fun answer => reenter word (next answer))).run
          (host.reacting app) memory feed = (asking request next).run host.feed memory feed := by
      rw [run_asking] at fired ⊢
      rw [asks]
      rcases answered : host.feed request feed with ⟨_ | answer, later⟩
      · have reacted : host.reacting app (.outside request) feed = (none, later) := answered
        change (asking (ReentrantRequest.outside request) _).run _ _ _ = _
        rw [run_asking, reacted]
      · have reacted : host.reacting app (.outside request) feed = (some answer, later) := answered
        rw [answered] at fired same
        rw [run_ask_then _ _ _ reacted]
        exact inductionHypothesis answer (fired.trans (congrArg (· ++ calls) same.symm)) leaves
    cases request with
    | callback call =>
      obtain ⟨rest, later⟩ := run_fired host (next false) memory
        { feed with fired := feed.fired ++ [call] }
      have whole : feed.fired ++ calls = feed.fired ++ (call :: rest) := by
        rw [← fired, run_asking]
        exact later.trans (List.append_assoc _ _ _)
      obtain rfl : calls = call :: rest := List.append_cancel_left whole
      have entered : (reentrant word (.callback call)).run (host.reacting app) memory feed =
          (.returned false, memory, { feed with fired := feed.fired ++ [call] }) := by
        change ((react word (app call)).sequence _).run _ _ _ = _
        rw [leaves call List.mem_cons_self]
        rfl
      rw [run_sequence_returned _ entered]
      exact inductionHypothesis false later
        (fun other member => leaves other (List.mem_cons_of_mem _ member))
    | recv len =>
      refine outside rfl ?_
      simp only [Host.feed]
      split <;> rfl
    | _ => exact outside rfl rfl

/-- A first part in which the application does nothing. -/
theorem run_reenter_then {β : Type} {first : Routine β} {following : β → Routine α} {value : β}
    {memory' : Memory} {feed' : Feed} {calls : List Callback}
    (returned : first.run host.feed memory feed = (.returned value, memory', feed'))
    (fired : feed'.fired = feed.fired ++ calls) (leaves : ∀ call ∈ calls, app call = .leave) :
    (reenter word (sequence first following)).run (host.reacting app) memory feed =
      (reenter word (following value)).run (host.reacting app) memory' feed' := by
  have alike : (reenter word first).run (host.reacting app) memory feed =
      first.run host.feed memory feed := run_reenter (by rw [returned, fired]) leaves
  rw [reenter, translate_sequence]
  exact run_sequence_returned _ (alike.trans returned)

/-- A nested call runs as it would by itself. -/
theorem run_nestedCall (bound : Nat) (call : ApiCall) :
    (nestedCall word bound call).run (host.reacting app) memory feed =
      (perform word bound call).run host.feed memory feed := by
  unfold nestedCall
  induction perform word bound call generalizing memory feed with
  | done | failing | faulting | stalled => rfl
  | loading next inductionHypothesis => exact inductionHypothesis memory
  | storing written next inductionHypothesis => exact inductionHypothesis
  | asking request next inductionHypothesis =>
    change (sequence (ask (ReentrantRequest.nested request)) _).run _ _ _ = _
    rcases answered : host.feed request feed with ⟨_ | answer, later⟩
    · have reacted : host.reacting app (.nested request) feed = (none, later) := answered
      change (asking (ReentrantRequest.nested request) _).run _ _ _ = _
      rw [run_asking, run_asking, reacted, answered]
    · have reacted : host.reacting app (.nested request) feed = (some answer, later) := answered
      rw [run_ask_then _ _ _ reacted, run_asking, answered]
      exact inductionHypothesis answer

end Reacting

/-! ## An iteration -/

section Iteration

variable {host : Host} {memory : Memory} {transport : Transport}

/-- The next request is sent from inside the callback. -/
theorem run_reenter_finished (attached : memory.client.transport = some transport)
    (connected : memory.client.state = .connected)
    (answered : memory.client.callbacks.framebufferUpdateFinished = true) (feed : Feed) :
    (reenter .bits64 (fire .framebufferUpdateFinished)).run
        (host.reacting simpleClientReaction) memory feed =
      (perform .bits64 0 (.requestUpdate none 1)).run host.feed memory
        (feed.notified memory.client.callbacks .framebufferUpdateFinished) := by
  have set : memory.client.callbacks.has .framebufferUpdateFinished = true := answered
  have notified : feed.notified memory.client.callbacks .framebufferUpdateFinished =
      { feed with fired := feed.fired ++ [.framebufferUpdateFinished] } := by
    simp [Feed.notified, set]
  have fires : (reenter .bits64 (fire .framebufferUpdateFinished)).run
      (host.reacting simpleClientReaction) memory feed =
        (calledBack .bits64 .framebufferUpdateFinished).run
          (host.reacting simpleClientReaction) memory feed := by
    change (reenter .bits64 (onlyIf (memory.client.callbacks.has .framebufferUpdateFinished)
      (called .framebufferUpdateFinished))).run _ memory feed = _
    rw [onlyIf, if_pos set, reenter_called]
  obtain ⟨flag, x, y, width, height, requested⟩ := run_requestUpdate host attached connected none 1
    { feed with fired := feed.fired ++ [.framebufferUpdateFinished] }
  rw [fires, notified, requested]
  change ((attempt (nestedCall .bits64 0 (.requestUpdate none 1))).sequence _).run _ memory
    { feed with fired := feed.fired ++ [Callback.framebufferUpdateFinished] } = _
  rw [run_sequence, run_attempt, run_nestedCall, requested]
  rfl

/-- The callback of a rectangle is not the one that makes a call. -/
theorem RectUpdate.callback_leaves (update : RectUpdate) :
    simpleClientReaction update.callback = .leave := by
  cases update with
  | raw | desktopSize => rfl
  | cursor rect pixels bitmask =>
    by_cases empty : rect.width = 0 ∨ rect.height = 0
    · rw [callback, if_pos empty]
      rfl
    · rw [callback, if_neg empty]
      rfl

/-- An update without its type. What it leaves the next request is sent from. -/
theorem run_reenter_update (attached : memory.client.transport = some transport)
    (connected : memory.client.state = .connected)
    (answered : memory.client.callbacks.framebufferUpdateFinished = true)
    (coherent : memory.client.framebuffer.Coherent) (rects : Counted (2 ^ 16) RectUpdate)
    (wellFormed : RectUpdate.AllWellFormed memory.client.framebuffer.format.pixelBytes
      memory.client.framebuffer.extent rects.val)
    (rest sent : List UInt8) (fired : List Callback) (clock : Nat) :
    (reenter .bits64 (handleFbUpdate .bits64)).run (host.reacting simpleClientReaction) memory
        ⟨[0] ++ writeU16 (UInt16.ofNat rects.val.length) ++
          rects.val.flatMap RectUpdate.encode ++ rest, sent, fired, clock⟩ =
      proceed host.feed (fun _ => perform .bits64 0 (.requestUpdate none 1))
        ((handleFbUpdate .bits64).run host.feed memory
          ⟨[0] ++ writeU16 (UInt16.ofNat rects.val.length) ++
            rects.val.flatMap RectUpdate.encode ++ rest, sent, fired, clock⟩) := by
  obtain ⟨after, pending, later, handled, -⟩ :=
    run_handleRects host rest sent fired clock attached coherent rects.val wellFormed
  have received := run_transportRecv host attached
    (show ([0] ++ writeU16 (UInt16.ofNat rects.val.length)).length = 3 from rfl)
    (rects.val.flatMap RectUpdate.encode ++ rest) sent fired clock
  have count : (readU16 (([0] ++ writeU16 (UInt16.ofNat rects.val.length)).drop 1)).toNat =
      rects.val.length :=
    (congrArg UInt16.toNat (readU16_writeU16 _ [])).trans
      (UInt16.toNat_ofNat_of_lt' rects.property)
  have leaves : ∀ call ∈ (rects.val.map RectUpdate.callback).filter memory.client.callbacks.has,
      simpleClientReaction call = .leave := by
    intro call member
    obtain ⟨update, -, rfl⟩ := List.mem_map.mp (List.mem_filter.mp member).1
    exact update.callback_leaves
  rw [handleFbUpdate, bind_eq, List.append_assoc _ _ rest,
    run_reenter_then received (List.append_nil _).symm (by simp), run_sequence_returned _ received,
    count, bind_eq, run_reenter_then handled rfl leaves, run_sequence_returned _ handled, run_fire]
  exact @run_reenter_finished host (memory.showing after pending) transport attached connected
    answered _

/-- A message that is received without an error. -/
theorem run_reenter_processMessage {app : Callback → Reaction}
    (connected : memory.client.state = .connected) {memory' : Memory} {feed feed' : Feed}
    (received : (reenter .bits64 (recvServerMessage .bits64)).run (host.reacting app) memory feed =
      (.returned (), memory', feed')) :
    (reenter .bits64 (perform .bits64 0 .processMessage)).run (host.reacting app) memory feed =
      (.returned (), memory', feed') := by
  have checked : requireConnected.run host.feed memory feed = (.returned (), memory, feed) := by
    rw [requireConnected, bind_eq, run_load_then]
    simp [failIf, connected]
  refine (run_reenter_then checked (List.append_nil _).symm (by simp)).trans ?_
  rw [reenter, bind_eq, translate_sequence, translate_attempt (reentrant_unfailing _),
    run_sequence, run_attempt, ← reenter, received]
  rfl

/-- One iteration on a message in flight. The client processes the message as
`ovnc_client_process_message` does, and requests the next update if the message is one. -/
theorem run_iteration (attached : memory.client.transport = some transport)
    (connected : memory.client.state = .connected)
    (answered : memory.client.callbacks.framebufferUpdateFinished = true)
    (coherent : memory.client.framebuffer.Coherent) (message : ServerMessage)
    (wellFormed : RectUpdate.AllWellFormed memory.client.framebuffer.format.pixelBytes
      memory.client.framebuffer.extent message.rects)
    (rest sent : List UInt8) (fired : List Callback) (clock : Nat) :
    ∃ after pending notified later,
      (perform .bits64 0 .processMessage).run host.feed memory
          ⟨message.encode ++ rest, sent, fired, clock⟩ =
        (.returned (), memory.showing after pending, ⟨rest, sent, notified, later⟩) ∧
      RectUpdate.ShowAll memory.client.callbacks.allocFramebuffer message.rects
        memory.client.framebuffer after ∧
      (reenter .bits64 (perform .bits64 0 .processMessage)).run
          (host.reacting simpleClientReaction) memory
          ⟨message.encode ++ rest, sent, fired, clock⟩ =
        if Viewer.isUpdate message then
          (perform .bits64 0 (.requestUpdate none 1)).run host.feed (memory.showing after pending)
            ⟨rest, sent, notified, later⟩
        else (.returned (), memory.showing after pending, ⟨rest, sent, notified, later⟩) := by
  obtain ⟨after, pending, later, decoded, shown, -⟩ :=
    recvServerMessage_decoded host attached coherent message wellFormed rest sent fired clock
  have processed : (perform .bits64 0 .processMessage).run host.feed memory
      ⟨message.encode ++ rest, sent, fired, clock⟩ = (.returned (), memory.showing after pending,
        ⟨rest, sent, fired ++ message.callbacks.filter memory.client.callbacks.has, later⟩) := by
    apply (run_requireConnected_then host connected _).trans
    rw [bind_eq, run_sequence, run_attempt, decoded]
    rfl
  refine ⟨after, pending, _, later, processed, shown, ?_⟩
  cases message with
  | framebufferUpdate rects =>
    obtain ⟨flag, x, y, width, height, requested⟩ :=
      @run_requestUpdate host (memory.showing after pending) transport attached connected none 1
        ⟨rest, sent, fired ++ (ServerMessage.framebufferUpdate rects).callbacks.filter
          memory.client.callbacks.has, later⟩
    let body : List UInt8 := [0] ++ writeU16 (UInt16.ofNat rects.val.length) ++
      rects.val.flatMap RectUpdate.encode ++ rest
    have typed := run_transportRecv host attached (show [(0 : UInt8)].length = 1 from rfl) body
      sent fired clock
    have handled : (handleFbUpdate .bits64).run host.feed memory ⟨body, sent, fired, clock⟩ = _ :=
      (run_sequence_returned _ typed).symm.trans decoded
    have begins : (reenter .bits64 (recvServerMessage .bits64)).run
        (host.reacting simpleClientReaction) memory ⟨[0] ++ body, sent, fired, clock⟩ =
          (reenter .bits64 (handleFbUpdate .bits64)).run (host.reacting simpleClientReaction) memory
            ⟨body, sent, fired, clock⟩ :=
      run_reenter_then typed (List.append_nil _).symm (by simp)
    rw [show Viewer.isUpdate (.framebufferUpdate rects) = true from rfl, if_pos rfl, requested]
    apply run_reenter_processMessage connected
    refine begins.trans ?_
    rw [run_reenter_update attached connected answered coherent rects wellFormed, handled]
    exact requested
  | setColorMapEntries | bell | serverCutText =>
    refine (run_reenter (by rw [processed]) (fun call member => ?_)).trans processed
    obtain rfl := List.mem_singleton.mp (List.mem_filter.mp member).1
    rfl

end Iteration

end OpenVnc
