import OpenVnc.Properties.FormatFailures

/-!
# Failures of a resize

`decode_desktop_size` can fail where it asks for storage. Without the application's allocator
the record is changed after that, with it before. A resize that fails leaves the record as it
was, for the callback that reports the failure and for all time after it, exactly when the
library allocates itself or the size does not change.
-/

namespace OpenVnc

open Interaction Interaction.Program

/-- No callback tells the application of a new size. -/
def Unresized (events : List Step) : Prop :=
  ∀ event ∈ events, ∀ width height, event.request ≠ .callback (.desktopResize width height)

/-- What is promised of a resize that fails: the record is the one before it, it is coherent
whenever the application can look at it, in the callback that reports the failure and whatever
is called on any client after that, and no callback tells of a new size. -/
structure RecordKept (word : WordSize) (before : Framebuffer) (events : List Step) (error : Error)
    (final : Memory) : Prop where
  unresized : Unresized events
  record : final.client.framebuffer = before
  reported : ∀ later outcome last, Execution Unreplaced (tearDown error) final later outcome last →
    (∀ event ∈ later, event.memory.client.framebuffer.Coherent) ∧
      last.client.framebuffer.Coherent
  afterwards : ∀ later last,
    Execution Unreplaced (tearDown error) final later (.failed error) last →
    ∀ process handle history process', Process.client? process handle = some last.client →
      Run (Process.Transition word Unreplaced) process history process' →
      ∀ client, Process.client? process' handle = some client → client.framebuffer.Coherent

section Resizing

variable {word : WordSize} {memory : Memory} {rect : Rect}

/-- The record with a new size. -/
def Framebuffer.resized (framebuffer : Framebuffer) (word : WordSize) (rect : Rect) :
    Framebuffer :=
  { framebuffer with
    width := rect.width
    height := rect.height
    dataSize := word.product rect.width.toNat rect.height.toNat
      (word.ofInt framebuffer.format.bytesPerPixel) }

/-- It is the old one exactly when the size is. -/
theorem Framebuffer.resized_eq_iff {framebuffer : Framebuffer}
    (coherent : framebuffer.Coherent) (fits : framebuffer.dataSize < word.modulus) :
    framebuffer.resized word rect = framebuffer ↔
      rect.width = framebuffer.width ∧ rect.height = framebuffer.height := by
  constructor
  · intro same
    exact ⟨congrArg Framebuffer.width same, congrArg Framebuffer.height same⟩
  · rintro ⟨width, height⟩
    have exact_size : word.product framebuffer.width.toNat framebuffer.height.toNat
        (word.ofInt framebuffer.format.bytesPerPixel) = framebuffer.dataSize := by
      rw [ofInt_bytesPerPixel coherent.supported, product_wraps, ← coherent.exact_size]
      exact WordSize.wrap_of_lt fits
    unfold resized
    rw [width, height, exact_size]

/-- What a resize that fails leaves behind: with the application's allocator the new size. -/
def Memory.refusing (memory : Memory) (word : WordSize) (rect : Rect) : Memory :=
  if memory.client.callbacks.allocFramebuffer then
    memory.withFramebuffer (memory.client.framebuffer.resized word rect)
  else memory

/-- Every resize that fails. The callback that tells of the new size comes last and cannot
fail, so it has not been reached. -/
theorem decodeDesktopSize_fails (word : WordSize) (rect : Rect) (memory : Memory) :
    (decodeDesktopSize word rect).wp Unreplaced (fun events outcome final =>
      ∀ error, outcome = .failed error → Unresized events ∧ final = memory.refusing word rect)
      memory := by
  have fired (memory' : Memory) (earlier : List Step) :
      (fire (.desktopResize rect.width rect.height)).wp Unreplaced (fun events outcome final =>
        ∀ error, outcome = .failed error →
          Unresized (earlier ++ events) ∧ final = memory.refusing word rect) memory' := by
    apply wp_mono (fire_ends _ memory')
    rintro events outcome final ⟨-, ended⟩ error rfl
    exact absurd ended (by simp)
  unfold decodeDesktopSize
  rw [bind_eq, Program.wp_sequence, wp_load, continuing_returned]
  dsimp only
  split
  · next own =>
    -- The application's allocator.
    rw [bind_eq, Program.wp_sequence, wp_modifyFramebuffer, continuing_returned, bind_eq,
      Program.wp_sequence, wp_callAllocFramebuffer]
    refine ⟨nofun, fun error left allowed => ?_⟩
    cases error with
    | none => exact fired _ _
    | some error =>
      rintro reason -
      refine ⟨fun event member width height => ?_, ?_⟩
      · rw [List.mem_singleton.mp member]
        exact nofun
      · obtain rfl := allowed nofun
        rw [Memory.refusing, if_pos own]
        rfl
  · next libraryOwn =>
    -- The library's own.
    rw [bind_eq, Program.wp_sequence, wp_callocPixels]
    refine ⟨nofun, fun id _ => ?_⟩
    cases id with
    | none =>
      rintro error -
      refine ⟨fun event member width height => ?_, ?_⟩
      · rw [List.mem_singleton.mp member]
        exact nofun
      · rw [Memory.refusing, if_neg libraryOwn]
    | some id =>
      simp only [continuing_returned, Option.map_some, bind_eq, Program.wp_sequence]
      apply wp_freePixels
      · exact nofun
      · exact fun _ => fired _ _
      · intro block _
        rw [continuing_returned, Program.wp_sequence, wp_modifyFramebuffer]
        exact fired _ [_, _]

/-- The application's allocator can always fail. -/
theorem decodeDesktopSize_can_fail (own : memory.client.callbacks.allocFramebuffer = true)
    {post : List Step → Outcome Error Fault Unit → Memory → Prop}
    (holds : (decodeDesktopSize word rect).wp Unreplaced post memory) :
    ∃ events, post events (.failed .nomem) (memory.refusing word rect) := by
  unfold decodeDesktopSize at holds
  rw [bind_eq, Program.wp_sequence, wp_load, continuing_returned, if_pos own, bind_eq,
    Program.wp_sequence, wp_modifyFramebuffer, continuing_returned, bind_eq, Program.wp_sequence,
    wp_callAllocFramebuffer] at holds
  rw [Memory.refusing, if_pos own]
  exact ⟨_, holds.2 (some .nomem) _ (fun _ => rfl)⟩

end Resizing

/-! ## After the failure -/

/-- Tearing down shows the application the record as it is, and leaves it so. -/
theorem tearDown_record {error : Error} {memory last : Memory} {events : List Step}
    {outcome : Outcome Error Fault Unit}
    (ended : Execution Unreplaced (tearDown error : Routine Unit) memory events outcome last) :
    (∀ event ∈ events, event.memory.client.framebuffer = memory.client.framebuffer) ∧
      last.client.framebuffer = memory.client.framebuffer := by
  have keeps : Keeps Unreplaced (fun memory => memory.client.framebuffer) (fun _ => True)
      (fun _ _ => True) (tearDown error : Routine Unit) := by
    apply (fire_keeps (fun _ _ => trivial) (fun _ _ _ => trivial) hungUp_framebuffer).sequence
    intro _
    apply (clientDisconnect_keeps (fun _ _ _ => trivial) hungUp_framebuffer).sequence
    intro _
    exact Keeps.fail error
  obtain ⟨same, seen, -⟩ := (wp_iff _ _ _).mp (keeps memory) _ _ _ ended
  exact ⟨fun event member => (seen event member).1, same⟩

/-- Tearing down a connected client disconnects it. -/
theorem tearDown_disconnects {error : Error} {memory last : Memory} {events : List Step}
    (connected : memory.client.state = .connected)
    (ended : Execution Unreplaced (tearDown error : Routine Unit) memory events (.failed error)
      last) : last.client.state = .disconnected := by
  have weaker (request : Request) (answer : Answer request) (held : Unreplaced request answer) :
      Allowed request answer := by
    cases request with
    | allocFramebuffer => trivial
    | _ => exact held
  have ends := (wp_iff _ _ _).mp (wp_restrict weaker (tearDown_ends error memory)) _ _ _ ended
  obtain ⟨-, rfl, -⟩ := ends.2.resolve_left nofun
  simp [Memory.hungUp, connected]

/-- The record of a disconnected client stays. -/
theorem disconnected_record_stays {word : WordSize} {process process' : Process} {handle : Nat}
    {history : List Process.Action} {client client' : Client}
    (live : process.client? handle = some client) (disconnected : client.state = .disconnected)
    (ran : Run (Process.Transition word Unreplaced) process history process')
    (survives : process'.client? handle = some client') :
    client'.framebuffer = client.framebuffer := by
  refine (Process.later_client
    (fun later => later.state = .disconnected ∧ later.framebuffer = client.framebuffer) ?_ ran live
    ⟨disconnected, rfl⟩ survives).2
  intro bound call memory events outcome final held performed _
  obtain rfl := (wp_iff _ _ _).mp (perform_disconnected word bound call held.1) _ _ _ performed
  exact held

/-- For every connected client with a coherent record whose size is a `size_t`, and every
rectangle: what is promised of a resize that fails is kept whenever one fails, if and only if
the library allocates itself or the size does not change. -/
theorem decodeDesktopSize_kept_iff (word : WordSize) (rect : Rect) {memory : Memory}
    (connected : memory.client.state = .connected)
    (coherent : memory.client.framebuffer.Coherent)
    (fits : memory.client.framebuffer.dataSize < word.modulus) :
    (∀ events error final, Execution Unreplaced (decodeDesktopSize word rect) memory events
        (.failed error) final →
        RecordKept word memory.client.framebuffer events error final) ↔
      memory.client.callbacks.allocFramebuffer = false ∨
        rect.width = memory.client.framebuffer.width ∧
          rect.height = memory.client.framebuffer.height := by
  rw [← @Framebuffer.resized_eq_iff _ rect _ coherent fits]
  constructor
  · intro kept
    by_cases own : memory.client.callbacks.allocFramebuffer = true
    · have failing := (wp_iff _ _ _).mpr (fun events outcome final executed =>
        show ∀ error, outcome = .failed error → final.client.framebuffer =
            memory.client.framebuffer from
          fun error failed => (kept events error final (failed ▸ executed)).record)
      obtain ⟨events, same⟩ := decodeDesktopSize_can_fail own failing
      have record := same .nomem rfl
      rw [Memory.refusing, if_pos own] at record
      exact .inr record
    · exact .inl (by simpa using own)
  · intro harmless events error final failed
    obtain ⟨unresized, left⟩ := (wp_iff _ _ _).mp
      (decodeDesktopSize_fails word rect memory) _ _ _ failed error rfl
    obtain rfl : final = memory := by
      rw [left, Memory.refusing]
      split
      · next own =>
        rw [harmless.resolve_left (by simp [own])]
        rfl
      · rfl
    constructor
    case unresized => exact unresized
    case record => rfl
    case reported =>
      intro later outcome last ended
      obtain ⟨seen, same⟩ := tearDown_record ended
      refine ⟨fun event member => ?_, ?_⟩
      · rw [seen event member]
        exact coherent
      · rw [same]
        exact coherent
    case afterwards =>
      intro later last ended process handle history process' live ran client survives
      rw [disconnected_record_stays live (tearDown_disconnects connected ended) ran survives,
        (tearDown_record ended).2]
      exact coherent

/-- A host on which storage for pixels is refused by either allocator. -/
def refusingHost : Handler Request Answer Feed
  | .allocFramebuffer asked, feed => (some (some .nomem, asked), feed)
  | request, feed => starvedHost request feed

/-- A host that refuses storage leaves the record that it was asked to fill. -/
theorem refusingHost_unreplaced : refusingHost.Within Unreplaced := by
  intro request feed answer later answered
  cases request with
  | allocFramebuffer asked =>
    cases answered
    exact fun _ => rfl
  | calloc size => trivial
  | _ => exact (plainHost.feed_provisioned _ feed answer later answered).1

/-- A connected client with a picture of one pixel and one of the two allocators. -/
def resizingMemory (own : Bool) : Memory :=
  ⟨{ (pixelMemory .initDefault).client with callbacks := { allocFramebuffer := own } }, 1, 0⟩

/-- The example's record is coherent, whichever allocator there is. -/
theorem resizingMemory_coherent (own : Bool) :
    (resizingMemory own).client.framebuffer.Coherent :=
  ⟨.inr (.inr rfl), rfl, Nat.le_refl 4⟩

/-- A resize to two pixels that is refused. -/
theorem resizing_refused (own : Bool) :
    ∃ events final, Execution Unreplaced (decodeDesktopSize .bits64 ⟨0, 0, 2, 1⟩)
      (resizingMemory own) events (.failed .nomem) final ∧
      final = (resizingMemory own).refusing .bits64 ⟨0, 0, 2, 1⟩ := by
  have executed := run_execution refusingHost Unreplaced refusingHost_unreplaced
    (decodeDesktopSize .bits64 ⟨0, 0, 2, 1⟩) (resizingMemory own) { unread := [] }
  cases own with
  | false => exact ⟨_, _, executed, rfl⟩
  | true => exact ⟨_, _, executed, rfl⟩

/-- When the library's own allocator refuses, the record is kept. -/
theorem decodeDesktopSize_kept_refused :
    ∃ events final, Execution Unreplaced (decodeDesktopSize .bits64 ⟨0, 0, 2, 1⟩)
      (resizingMemory false) events (.failed .nomem) final ∧
      RecordKept .bits64 (resizingMemory false).client.framebuffer events .nomem final := by
  obtain ⟨events, final, refused, -⟩ := resizing_refused false
  exact ⟨events, final, refused, (decodeDesktopSize_kept_iff .bits64 ⟨0, 0, 2, 1⟩ rfl
    (resizingMemory_coherent false) (by decide)).mpr (.inl rfl) _ _ _ refused⟩

/-- When the application's allocator refuses, the record tells of two pixels, and there is room
for one. -/
theorem decodeDesktopSize_unkept :
    (resizingMemory true).client.framebuffer.Coherent ∧
    ∃ events final, Execution Unreplaced (decodeDesktopSize .bits64 ⟨0, 0, 2, 1⟩)
      (resizingMemory true) events (.failed .nomem) final ∧
      final.client.framebuffer.capacity < final.client.framebuffer.dataSize ∧
      ¬ RecordKept .bits64 (resizingMemory true).client.framebuffer events .nomem final := by
  refine ⟨resizingMemory_coherent true, ?_⟩
  obtain ⟨events, final, refused, rfl⟩ := resizing_refused true
  refine ⟨events, _, refused, by decide, fun kept => absurd kept.record (by decide)⟩

end OpenVnc
