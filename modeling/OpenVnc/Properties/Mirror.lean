import OpenVnc.Properties.FlowControl

/-!
# The picture follows the screen

A server sends the pixels of its screen and notes which of them have changed since. What it has
not noted the picture of the example client shows as the screen does, once the messages in flight
have been processed; and from every state of a run the two can bring the whole picture up to date.
-/

namespace OpenVnc

open Interaction Interaction.Program Codec

/-- The picture shows the screen, but for the pixels of a region. -/
def Framebuffer.Mirrors (framebuffer : Framebuffer) (screen : Screen) (dirty : Region) : Prop :=
  ∀ x y byte, x < framebuffer.width.toNat → y < framebuffer.height.toNat →
    byte < framebuffer.format.pixelBytes → ¬ dirty x y →
      framebuffer.pixelByte x y byte = some (screen x y byte)

namespace RectUpdate

/-- Rectangles in sequence, the other way round. -/
theorem ShowAll.split {allocator : Bool} {before after : Framebuffer}
    {earlier later : List RectUpdate} (shown : ShowAll allocator (earlier ++ later) before after) :
    ∃ between, ShowAll allocator earlier before between ∧
      ShowAll allocator later between after := by
  induction earlier generalizing before with
  | nil => exact ⟨before, rfl, shown⟩
  | cons update updates inductionHypothesis =>
    obtain ⟨middle, first, others⟩ := shown
    obtain ⟨between, second, rest⟩ := inductionHypothesis others
    exact ⟨between, ⟨middle, first, second⟩, rest⟩

variable {allocator : Bool} {before after : Framebuffer} {screen : Screen} {dirty : Region}

/-- A rectangle with the pixels of the screen. -/
theorem Shows.mirrors {update : RectUpdate} (shown : Shows allocator before update after)
    (depicts : update.Depicts before.format.pixelBytes screen)
    (mirrors : before.Mirrors screen dirty) : after.Mirrors screen (update.remaining dirty) := by
  cases shown with
  | raw same drawn =>
    intro x y byte left above small clean
    rw [same] at left above small
    rw [drawn x y byte left above small]
    split
    · next inside => exact depicts x y byte inside small
    · next outside =>
      exact mirrors x y byte left above small (fun noted => clean ⟨noted, outside⟩)
  | desktopSize => exact fun x y byte _ _ _ clean => absurd trivial clean
  | cursor => exact mirrors

/-- Rectangles with the pixels of the screen. -/
theorem ShowAll.mirrors {updates : List RectUpdate}
    (shown : ShowAll allocator updates before after)
    (depicts : ∀ update ∈ updates, update.Depicts before.format.pixelBytes screen)
    (mirrors : before.Mirrors screen dirty) :
    after.Mirrors screen (remainingAll dirty updates) := by
  induction updates generalizing before dirty with
  | nil =>
    rw [show after = before from shown]
    exact mirrors
  | cons update updates inductionHypothesis =>
    obtain ⟨between, first, others⟩ := shown
    refine inductionHypothesis others (fun other member => ?_)
      (first.mirrors (depicts update List.mem_cons_self) mirrors)
    rw [first.extent.1]
    exact depicts other (List.mem_cons_of_mem _ member)

end RectUpdate

namespace Viewer

variable {host : Host} {viewer : Viewer}

/-- What is in flight brings the picture to the size of the screen and to its pixels, but for
those that the server has yet to send. -/
def Mirrored (viewer : Viewer) : Prop :=
  ∀ after, RectUpdate.ShowAll viewer.session.memory.client.callbacks.allocFramebuffer
      (viewer.session.inFlight.flatMap (fun delivery => delivery.message.rects))
      viewer.session.framebuffer after →
    after.extent = viewer.session.server.extent ∧ after.Mirrors viewer.screen viewer.dirty

/-- One step. -/
theorem Mirrored.step {after : Viewer} {action : Action} (mirrored : viewer.Mirrored)
    (controlled : viewer.Controlled) (stepped : Step host viewer action after) :
    after.Mirrored := by
  cases stepped with
  | @iterated result memory feed ran =>
    obtain ⟨-, ⟨delivery, deliveries, flying, shown⟩, callbacks, -⟩ := controlled.iteration ran
    intro final rest
    rw [Session.afterCall_first flying] at rest ⊢
    apply mirrored final
    rw [flying, List.flatMap_cons, ← callbacks]
    exact shown.append rest
  | handled arrived =>
    intro final shown
    obtain ⟨extent, mirrors⟩ := mirrored final shown
    exact ⟨extent.trans (ConformingServer.handle_extent _ _).symm, mirrors⟩
  | @sent message conforms depicts =>
    intro final shown
    change RectUpdate.ShowAll _ ((viewer.session.inFlight ++ _).flatMap _) _ final at shown
    rw [List.flatMap_append, List.flatMap_singleton] at shown
    obtain ⟨between, earlier, last⟩ := shown.split
    obtain ⟨extent, mirrors⟩ := mirrored between earlier
    constructor
    · rw [last.extent.2, extent]
      rfl
    · apply last.mirrors _ mirrors
      have format : between.format = viewer.session.framebuffer.format := earlier.extent.1
      rw [format, ← controlled.format]
      exact depicts
  | drawn screen dirty kept noted =>
    intro final shown
    obtain ⟨extent, mirrors⟩ := mirrored final shown
    refine ⟨extent, fun x y byte left above small clean => ?_⟩
    rw [mirrors x y byte left above small (fun before => clean (kept x y before))]
    exact congrArg some (by_contra fun differs => clean (noted x y byte (Ne.symm differs)))

/-- Nothing of the screen has been sent yet. -/
theorem Started.mirrored (started : viewer.Started host) : viewer.Mirrored := by
  intro final shown
  refine ⟨shown.extent.2.trans started.controlled.harmonious.extent, ?_⟩
  exact fun x y _ _ _ _ clean => absurd (started.unsent x y) clean

/-- The invariants of a run. -/
def Faithful (viewer : Viewer) : Prop := viewer.Controlled ∧ viewer.Mirrored

/-- A step keeps both invariants. The mirror needs the control of the state before it. -/
theorem Faithful.step {after : Viewer} {action : Action} (faithful : viewer.Faithful)
    (stepped : Step host viewer action after) : after.Faithful :=
  ⟨faithful.1.step stepped, faithful.2.step faithful.1 stepped⟩

/-- Both invariants hold in every state that a run from such a start comes to. -/
theorem Started.faithful {start : Viewer} (started : start.Started host) {actions : List Action}
    (run : Run (Step host) start actions viewer) : viewer.Faithful :=
  run.state_invariant Faithful ⟨started.controlled, started.mirrored⟩
    (fun _ _ _ held stepped => held.step stepped)

/-! ## Bringing the picture up to date -/

/-- The client and the server can come to such a state while the screen stays as it is. -/
def Leads (host : Host) (viewer : Viewer) (holds : Viewer → Prop) : Prop :=
  ∃ actions final, Run (Step host) viewer actions final ∧ .drawn ∉ actions ∧
    final.screen = viewer.screen ∧ holds final

/-- A state that is there is led to by no steps. -/
theorem Leads.here {holds : Viewer → Prop} (held : holds viewer) : Leads host viewer holds :=
  ⟨[], viewer, .nil, List.not_mem_nil, rfl, held⟩

/-- One step that does not draw, and the rest of the way. -/
theorem Leads.step {holds : Viewer → Prop} {action : Action} {after : Viewer}
    (stepped : Step host viewer action after) (still : action ≠ .drawn)
    (leads : Leads host after holds) : Leads host viewer holds := by
  obtain ⟨actions, final, run, undrawn, same, held⟩ := leads
  refine ⟨action :: actions, final, run.cons stepped, ?_, ?_, held⟩
  · rw [List.mem_cons, not_or]
    exact ⟨Ne.symm still, undrawn⟩
  · cases stepped with
    | drawn => exact absurd rfl still
    | _ => exact same

/-- Ways are taken one after the other. What the second starts from has the same screen. -/
theorem Leads.trans {holds later : Viewer → Prop} (leads : Leads host viewer holds)
    (continues : ∀ between, between.screen = viewer.screen → holds between →
      Leads host between later) : Leads host viewer later := by
  obtain ⟨actions, between, run, undrawn, same, held⟩ := leads
  obtain ⟨actions', final, run', undrawn', same', held'⟩ := continues between same held
  refine ⟨actions ++ actions', final, Run.append_iff.mpr ⟨between, run, run'⟩, ?_,
    same'.trans same, held'⟩
  rw [List.mem_append, not_or]
  exact ⟨undrawn, undrawn'⟩

/-- The client processes what is in flight. -/
theorem Faithful.lands (faithful : viewer.Faithful) :
    Leads host viewer (fun final => final.Faithful ∧ final.session.inFlight = []) := by
  generalize flying : viewer.session.inFlight = deliveries
  induction deliveries generalizing viewer with
  | nil => exact .here ⟨faithful, flying⟩
  | cons delivery deliveries inductionHypothesis =>
    obtain ⟨memory, feed, iterated⟩ := faithful.1.iterates host flying
    refine .step iterated (by simp) (inductionHypothesis (faithful.step iterated) ?_)
    rw [Session.afterCall_first flying]

/-- The server handles what is on its way to it, and has a request to answer then. -/
theorem Faithful.settles (faithful : viewer.Faithful) (landed : viewer.session.inFlight = []) :
    Leads host viewer (fun final => final.Faithful ∧ final.session.inFlight = [] ∧
      0 < final.session.server.requests) := by
  obtain ⟨queued, waiting, -⟩ := faithful.1.balanced
  induction queued generalizing viewer with
  | nil =>
    obtain ⟨queued, waiting', -, balance⟩ := faithful.1.balanced
    obtain rfl : [] = queued := Option.some.inj (waiting.parses.symm.trans waiting'.parses)
    rw [updatesInFlight, landed] at balance
    have one : 0 + viewer.session.server.requests + 0 = 1 := balance
    exact .here ⟨faithful, landed, by omega⟩
  | cons message queued inductionHypothesis =>
    have handled := handles host waiting
    have waiting' := fun other member => waiting.2 other (List.mem_cons_of_mem message member)
    refine .step handled (by simp) ?_
    exact inductionHypothesis (faithful.step handled) landed ⟨rfl, waiting'⟩

/-- The whole screen in one rectangle. -/
def wholeScreen (extent : Extent) (bpp : Nat) (screen : Screen) : RectUpdate :=
  .raw ⟨0, 0, extent.width, extent.height⟩
    ((List.range (extent.width.toNat * extent.height.toNat * bpp)).map (fun index =>
      screen (index / bpp % extent.width.toNat) (index / bpp / extent.width.toNat) (index % bpp)))

/-- Two digits of a number, the lower one to the base `base`. -/
theorem two_digits {low high base bound : Nat} (small : low < base) (within : high < bound) :
    high * base + low < base * bound ∧ (high * base + low) / base = high ∧
      (high * base + low) % base = low := by
  have positive : 0 < base := Nat.zero_lt_of_lt small
  refine ⟨?_, ?_, ?_⟩
  · calc high * base + low < high * base + base := Nat.add_lt_add_left small _
      _ = (high + 1) * base := (Nat.succ_mul high base).symm
      _ ≤ bound * base := Nat.mul_le_mul_right base within
      _ = base * bound := Nat.mul_comm bound base
  · rw [Nat.add_comm, Nat.add_mul_div_right _ _ positive, Nat.div_eq_of_lt small, Nat.zero_add]
  · rw [Nat.add_comm, Nat.add_mul_mod_self_right, Nat.mod_eq_of_lt small]

/-- The rectangle of the whole screen carries the pixels it is about. -/
theorem wholeScreen_depicts (extent : Extent) (bpp : Nat) (screen : Screen) :
    (wholeScreen extent bpp screen).Depicts bpp screen := by
  rintro x y byte ⟨-, left, -, above⟩ small
  have left : x < extent.width.toNat := (Nat.zero_add extent.width.toNat) ▸ left
  have above : y < extent.height.toNat := (Nat.zero_add extent.height.toNat) ▸ above
  obtain ⟨pixel, row, column⟩ := two_digits left above
  obtain ⟨inside, quotient, remainder⟩ := two_digits small pixel
  rw [Nat.mul_comm bpp] at inside
  change (List.map _ (List.range _))[(y * extent.width.toNat + x) * bpp + byte]? = _
  rw [List.getElem?_map, List.getElem?_range inside, Option.map_some, quotient, remainder, row,
    column]

/-- The server answers a request with the whole screen. -/
theorem Faithful.refreshes (faithful : viewer.Faithful) (landed : viewer.session.inFlight = [])
    (requested : 0 < viewer.session.server.requests) :
    Leads host viewer (fun final => final.Faithful ∧ final.session.inFlight = [] ∧
      ∀ x y, x < final.session.framebuffer.width.toNat →
        y < final.session.framebuffer.height.toNat → ¬ final.dirty x y) := by
  let update : RectUpdate := wholeScreen viewer.session.server.extent
    viewer.session.server.format.pixelBytes viewer.screen
  have conforms : viewer.session.server.MaySend (.framebufferUpdate ⟨[update], by simp⟩) := by
    refine ⟨⟨⟨?_, ?_, ?_⟩, trivial⟩, requested⟩
    · exact Nat.le_of_eq (Nat.zero_add _)
    · exact Nat.le_of_eq (Nat.zero_add _)
    · simp
  have sent : Step host viewer _ _ := .sent conforms (fun other member =>
    List.mem_singleton.mp member ▸ wholeScreen_depicts _ _ _)
  have flying := faithful.step sent
  obtain ⟨memory, feed, iterated⟩ := flying.1.iterates host
    (show viewer.session.inFlight ++ [_] = _ :: [] by rw [landed]; rfl)
  have shown := flying.step iterated
  rw [Session.afterCall_first (by rw [landed]; rfl)] at iterated shown
  refine .step sent (by simp) (.step iterated (by simp) (.here ⟨shown, rfl, ?_⟩))
  intro x y left above noted
  obtain ⟨extent, -⟩ := shown.2 _ rfl
  have width : memory.client.framebuffer.width = viewer.session.server.extent.width :=
    congrArg Extent.width extent
  have height : memory.client.framebuffer.height = viewer.session.server.extent.height :=
    congrArg Extent.height extent
  refine noted.2 ⟨Nat.zero_le x, ?_, Nat.zero_le y, ?_⟩
  · exact (Nat.zero_add _).symm ▸ width ▸ left
  · exact (Nat.zero_add _).symm ▸ height ▸ above

/-- What is in flight is processed, what is under way to the server is handled, and the request
that it then has is answered with the whole screen. -/
theorem Faithful.updates (faithful : viewer.Faithful) : Leads host viewer (fun final =>
    final.Faithful ∧ final.session.inFlight = [] ∧
      ∀ x y, x < final.session.framebuffer.width.toNat →
        y < final.session.framebuffer.height.toNat → ¬ final.dirty x y) := by
  apply faithful.lands.trans
  rintro empty - ⟨held, landed⟩
  apply (held.settles landed).trans
  rintro settled - ⟨heldStill, landedStill, requested⟩
  exact heldStill.refreshes landedStill requested

/-! ## Runs -/

/-- In every run from the first request: when what is in flight has been shown, the picture has
the size of the screen, and every pixel that the server has not noted as changed is the screen's.
With nothing in flight this is the picture as it is. -/
theorem picture_mirrors {start : Viewer} (started : start.Started host) {actions : List Action}
    (run : Run (Step host) start actions viewer) :
    viewer.Mirrored ∧ (viewer.session.inFlight = [] →
      viewer.session.framebuffer.extent = viewer.session.server.extent ∧
        viewer.session.framebuffer.Mirrors viewer.screen viewer.dirty) := by
  have mirrored : viewer.Mirrored := (started.faithful run).2
  refine ⟨mirrored, fun landed => mirrored _ ?_⟩
  rw [landed]
  rfl

/-- A run of the example in which the whole picture arrives: the framebuffer then shows the
screen, and no pixel of it is dirty. -/
theorem picture_mirrors_example : ∃ actions viewer,
    Run (Step plainHost) (exampleStarted (fun _ _ _ => 7)) actions viewer ∧
      viewer.session.framebuffer.Mirrors viewer.screen viewer.dirty ∧
        ∀ x y, x < viewer.session.framebuffer.width.toNat →
          y < viewer.session.framebuffer.height.toNat → ¬ viewer.dirty x y := by
  have started := exampleStarted_started (fun _ _ _ => 7)
  obtain ⟨actions, viewer, run, -, -, -, landed, clean⟩ :=
    (started.faithful .nil).updates
  exact ⟨actions, viewer, run, ((picture_mirrors started run).2 landed).2, clean⟩

/-- From every state of a run, while the screen stays as it is, the client and the server can
come to one in which the picture is the screen. -/
theorem picture_recovers {start : Viewer} (started : start.Started host) {actions : List Action}
    (run : Run (Step host) start actions viewer) :
    Leads host viewer (fun final => final.session.inFlight = [] ∧
      final.session.framebuffer.extent = final.session.server.extent ∧
        final.session.framebuffer.Mirrors viewer.screen (fun _ _ => False)) := by
  obtain ⟨actions, final, later, undrawn, same, held, landed, clean⟩ :=
    (started.faithful run).updates
  refine ⟨actions, final, later, undrawn, same, landed, ?_⟩
  obtain ⟨extent, mirrors⟩ := held.2 final.session.framebuffer (by rw [landed]; rfl)
  refine ⟨extent, fun x y byte left above small _ => ?_⟩
  rw [mirrors x y byte left above small (clean x y left above), same]

/-- From the example's start, the picture can be brought up to date. -/
theorem picture_recovers_example : Leads plainHost (exampleStarted (fun _ _ _ => 7)) (fun final =>
    final.session.inFlight = [] ∧
      final.session.framebuffer.extent = final.session.server.extent ∧
        final.session.framebuffer.Mirrors (fun _ _ _ => 7) (fun _ _ => False)) :=
  picture_recovers (exampleStarted_started (fun _ _ _ => 7)) .nil

end Viewer

end OpenVnc
