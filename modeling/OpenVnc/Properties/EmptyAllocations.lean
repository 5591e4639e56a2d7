import OpenVnc.AnnouncedCalls
import OpenVnc.Feed
import OpenVnc.ServerMessages
import OpenVnc.Interaction.Simulations

/-!
# Allocations of no byte

What `malloc(0)` and `calloc(1, 0)` return is left to the implementation. Two environments
here differ in nothing else: in one the pointer is null, in the other it is not. A client
cannot tell them apart until an empty block is announced: `handle_color_map_entries`,
`decode_desktop_size`, `do_initialization` and `ovnc_client_set_pixel_format` take the null
pointer for a lack of memory.
-/

namespace OpenVnc

open Interaction Interaction.Program

variable {W : Type}

/-- The environment, but that allocating no byte yields a null pointer. -/
def nullForEmpty (base : Handler Request Answer W) : Handler Request Answer W
  | .malloc 0, world => (some false, world)
  | .calloc 0, world => (some none, world)
  | request, world => base request world

/-- Allocating no byte yields a pointer. -/
structure PointsToEmpty (base : Handler Request Answer W) : Prop where
  malloc : ∀ world, ∃ later, base (.malloc 0) world = (some true, later)
  calloc : ∀ world, ∃ id later, base (.calloc 0) world = (some (some id), later)

/-- The two conventions differ on allocations of no byte only. -/
theorem nullForEmpty_differs {base : Handler Request Answer W} (points : PointsToEmpty base) :
    DifferOn Request.Empty (nullForEmpty base) base where
  same := by
    intro request world some
    cases request with
    | malloc size | calloc size =>
      cases size with
      | zero => exact absurd (by simp [Request.Empty]) some
      | succ size => rfl
    | _ => rfl
  answered := by
    rintro request world (rfl | rfl)
    · obtain ⟨later, answered⟩ := points.malloc world
      exact ⟨true, later, answered⟩
    · obtain ⟨id, later, answered⟩ := points.calloc world
      exact ⟨some id, later, answered⟩

/-- The call handed a result to its caller. -/
def Outcome.isFinished : Outcome Error Fault Unit → Bool
  | .returned _ | .failed _ => true
  | .faulted _ | .waiting => false

/-- No call of the sequence meets an announcement of an empty block. Each call is looked at in
the memory and the world that the calls before it left. -/
def Unannounced (word : WordSize) (handler : Handler Request Answer W) :
    List (ApiCall × Nat) → Memory → W → Prop
  | [], _, _ => True
  | (call, bound) :: calls, memory, world =>
      let (outcome, final, later) := (perform word bound call).run handler memory world
      ¬ call.Announced word memory ((perform word bound call).trace handler memory world) ∧
        (Outcome.isFinished outcome = true → Unannounced word handler calls final later)

/-- Whether no empty block is announced can be computed along the calls, as each is run once. -/
instance decidableUnannounced (word : WordSize) (handler : Handler Request Answer W) :
    (calls : List (ApiCall × Nat)) → (memory : Memory) → (world : W) →
      Decidable (Unannounced word handler calls memory world)
  | [], _, _ => inferInstanceAs (Decidable True)
  | (call, bound) :: calls, memory, world =>
      have := decidableUnannounced word handler calls
        ((perform word bound call).run handler memory world).2.1
        ((perform word bound call).run handler memory world).2.2
      inferInstanceAs (Decidable (_ ∧ (_ → Unannounced word handler calls _ _)))

/-- Destroying a client allocates nothing. -/
theorem clientDestroy_plain : Keeps Allowed (fun _ => ()) (fun event => ¬ event.request.Empty)
    (fun _ _ => True) clientDestroy := by
  apply Keeps.sequence
  · apply clientDisconnect_keeps
    · intro _ _ _
      simp [Request.Empty]
    · intro _
      rfl
  · intro _
    apply Keeps.load
    intro memory
    apply Keeps.onlyIf
    intro _
    cases memory.client.framebuffer.data with
    | none => exact Keeps.done ()
    | some block =>
      apply Keeps.sequence
      · apply Keeps.ask
        intro _ _ _
        simp [Request.Empty]
      · intro _
        exact Keeps.done ()

/-- Without an announcement no call of the sequence asks for an empty block. -/
theorem unannounced_plain {word : WordSize} {base : Handler Request Answer W}
    (within : base.Within Allowed)
    (calls : List (ApiCall × Nat)) (destroyed : Bool) {memory : Memory} {world : W}
    (quiet : Unannounced word base calls memory world) :
    ∀ events ∈ traceAll base (callRoutines word calls destroyed) memory world,
      ∀ event ∈ events, ¬ event.request.Empty := by
  induction calls generalizing memory world with
  | nil =>
    intro events member event asked
    cases destroyed with
    | false => cases member
    | true =>
      have destroying := run_execution base Allowed within clientDestroy memory world
      have kept := (wp_iff _ _ _).mp (clientDestroy_plain memory) _ _ _ destroying
      have last : events = clientDestroy.trace base memory world := by
        rcases List.mem_cons.mp member with same | later
        · exact same
        · revert later
          rcases clientDestroy.run base memory world with ⟨outcome, final, after⟩
          cases outcome <;> exact nofun
      exact (kept.2.1 event (last ▸ asked)).2
  | cons entry calls inductionHypothesis =>
    obtain ⟨call, bound⟩ := entry
    obtain ⟨unannounced, rest⟩ := quiet
    intro events member
    rcases List.mem_cons.mp member with rfl | later
    · exact perform_unannounced (run_execution base Allowed within _ memory world) unannounced
    · revert rest later
      rcases (perform word bound call).run base memory world with ⟨outcome, final, after⟩
      cases outcome with
      | returned | failed => exact fun rest later => inductionHypothesis (rest rfl) events later
      | faulted | waiting => exact fun _ later => nomatch later

/-- Whatever the client and the calls, and whatever the server, the application and the system
do: as long as no empty block is announced, the convention for empty blocks changes neither the
results nor what the calls ask of the application and the server, and it leaves the client and
the world the same. -/
theorem convention_irrelevant (word : WordSize) {base : Handler Request Answer W}
    (within : base.Within Allowed)
    (points : PointsToEmpty base) (calls : List (ApiCall × Nat)) (destroyed : Bool)
    (memory : Memory) (world : W) (quiet : Unannounced word base calls memory world) :
    runAll (nullForEmpty base) (callRoutines word calls destroyed) memory world =
        runAll base (callRoutines word calls destroyed) memory world ∧
      traceAll (nullForEmpty base) (callRoutines word calls destroyed) memory world =
        traceAll base (callRoutines word calls destroyed) memory world :=
  runAll_differOn (nullForEmpty_differs points) _ memory world
    (unannounced_plain within calls destroyed quiet)

/-- The plain host grants every block, also one of no bytes. -/
theorem plainHost_pointsToEmpty : PointsToEmpty plainHost.feed where
  malloc _ := ⟨_, rfl⟩
  calloc _ := ⟨_, _, rfl⟩

/-- A client connects and processes one message. -/
def connectAndProcess : List (ApiCall × Nat) := [(.connect, 0), (.processMessage, 0)]

/-- A server that sends a colour map after its greeting. -/
def mapFeed (colors : List Color) : Feed where
  unread := plainGreeting ++ [1] ++ [0] ++ writeU16 0 ++
    writeU16 (UInt16.ofNat colors.length) ++ colors.flatMap Color.encode

/-- In the example a colour map with one entry is received under the convention that an empty
block is NULL. -/
theorem convention_irrelevant_map :
    (runAll (nullForEmpty plainHost.feed) (callRoutines .bits64 connectAndProcess true)
      ⟨plainClient {}, 0, 0⟩ (mapFeed [⟨1, 2, 3⟩])).1 =
        [.returned (), .returned (), .returned ()] := by
  rw [(convention_irrelevant .bits64 plainHost_allowed plainHost_pointsToEmpty connectAndProcess
    true ⟨plainClient {}, 0, 0⟩ (mapFeed [⟨1, 2, 3⟩]) (by decide)).1]
  decide

/-- A map without colours is a lack of memory under one convention, and nothing to do under the
other. -/
theorem convention_matters :
    (runAll (nullForEmpty plainHost.feed) (callRoutines .bits64 connectAndProcess false)
        ⟨plainClient {}, 0, 0⟩ (mapFeed [])).1 = [.returned (), .failed .nomem] ∧
      (runAll (nullForEmpty plainHost.feed) (callRoutines .bits64 connectAndProcess false)
        ⟨plainClient {}, 0, 0⟩ (mapFeed [])).2.1.client.state = .disconnected ∧
      (runAll plainHost.feed (callRoutines .bits64 connectAndProcess false)
        ⟨plainClient {}, 0, 0⟩ (mapFeed [])).1 = [.returned (), .returned ()] ∧
      (runAll plainHost.feed (callRoutines .bits64 connectAndProcess false)
        ⟨plainClient {}, 0, 0⟩ (mapFeed [])).2.1.client.state = .connected := by
  decide

end OpenVnc
