import OpenVnc.Interaction.Ledgers
import OpenVnc.Calls
import OpenVnc.Receiving

/-!
# The storage of the framebuffer

The library obtains pixel storage with `calloc` and releases it with `free`; both ask for
nothing else. A client without an allocator of its own owns at most one such block, the one
its framebuffer refers to. Every routine but two leaves blocks alone. A routine that replaces
the block releases the old one when it has the new one. `do_initialization` only overwrites
the pointer, so that connecting accounts for the blocks only if there is none to lose.
-/

namespace OpenVnc

open Interaction Interaction.Program

/-- The entries of an answered request in the ledger of pixel storage. -/
def storageEntries (event : Step) : List (Entry Nat) :=
  match event with
  | ⟨_, .calloc _, (answer : Option Nat)⟩ => answer.toList.map .obtained
  | ⟨_, .free block, _⟩ => [.released block]
  | _ => []

/-- The blocks a client refers to. -/
def Client.blocks (client : Client) : List Nat := (client.framebuffer.data.map Block.id).toList

/-- The requests that obtain or release pixel storage. -/
def Request.isStorage : Request → Bool
  | .calloc _ | .free _ => true
  | _ => false

/-- What tells whether a client owns its storage, and which. -/
def Memory.holding (memory : Memory) : Option Nat × Bool :=
  (memory.client.framebuffer.data.map Block.id, memory.client.callbacks.allocFramebuffer)

/-- The client has no allocator of its own. -/
def OwnsStorage (memory : Memory) : Prop := memory.client.callbacks.allocFramebuffer = false

/-- The postcondition of a routine that accounts for its blocks. -/
abbrev StorageAccounted {α : Type} (out : List Nat) :
    List Step → Outcome Error Fault α → Memory → Prop :=
  Accounted storageEntries (fun memory => memory.client.blocks) OwnsStorage out

/-- A routine that accounts for its blocks. -/
abbrev Balanced {α : Type} (routine : Routine α) : Prop :=
  Balances Allowed storageEntries (fun memory => memory.client.blocks) OwnsStorage routine

/-- A routine that leaves blocks alone. -/
abbrev Untouched {α : Type} (routine : Routine α) : Prop :=
  Keeps Allowed Memory.holding (fun event => event.request.isStorage = false) (fun _ _ => True)
    routine

/-- Requests other than those for storage make no entry. -/
theorem storageEntries_eq_nil {event : Step} (other : event.request.isStorage = false) :
    storageEntries event = [] := by
  obtain ⟨memory, request, answer⟩ := event
  cases request with
  | calloc | free => cases other
  | _ => rfl

/-- Memories with the same holding agree on the blocks of the client and on who owns them. -/
theorem holding_blocks {left right : Memory} (same : left.holding = right.holding) :
    left.client.blocks = right.client.blocks ∧ (OwnsStorage left ↔ OwnsStorage right) := by
  obtain ⟨block, allocator⟩ := Prod.mk.inj same
  unfold Client.blocks OwnsStorage
  rw [block, allocator]
  exact ⟨rfl, Iff.rfl⟩

/-- A routine that leaves blocks alone balances: it makes no entries and changes no block. -/
theorem Untouched.balanced {α : Type} {routine : Routine α} (untouched : Untouched routine) :
    Balanced routine :=
  Balances.of_keeps untouched (fun _ => storageEntries_eq_nil) (fun _ _ => holding_blocks)

/-! ## Routines that leave blocks alone -/

/-- Exchanging bytes with the server is no matter of pixel storage. -/
theorem holding_overlooks : Overlooks Memory.holding
    (fun event => event.request.isStorage = false) (fun _ _ => True) := by
  constructor
  case missing => exact fun _ _ => trivial
  case overrun => exact fun _ _ => trivial
  all_goals intros; rfl

/-- Reading the memory touches nothing. -/
theorem load_untouched : Untouched (load : Routine Memory) := fun _ => ⟨rfl, by simp, nofun⟩

/-- `ovnc__platform_cleanup` counts down and touches nothing of the client. -/
theorem platformCleanup_untouched : Untouched platformCleanup :=
  Keeps.update (fun memory => by split <;> rfl)

/-- Hanging up keeps the framebuffer and its block, as `ovnc_client_destroy` is the one to free
it. -/
theorem hungUp_holding (memory : Memory) : memory.hungUp.holding = memory.holding := by
  unfold Memory.hungUp
  split <;> rfl

/-- Nor is the handling of a message, as long as it does not change the size: pixels are stored
in the block that is there. -/
theorem holding_disregards : Disregards Memory.holding
    (fun event => event.request.isStorage = false) (fun _ _ => True) where
  received _ _ _ := rfl
  allocated _ _ _ := rfl
  called _ _ _ := rfl
  closed _ _ _ := rfl
  stored memory offset bytes := by
    apply Prod.ext
    · change (memory.client.framebuffer.stored offset bytes).data.map Block.id =
        memory.client.framebuffer.data.map Block.id
      unfold Framebuffer.stored
      rw [Option.map_map]
      rfl
    · rfl
  positioned _ _ := rfl
  hung := hungUp_holding
  missing _ _ := trivial
  overrun _ _ := trivial

/-- `ovnc_client_disconnect` closes sockets and touches no storage. -/
theorem clientDisconnect_untouched : Untouched clientDisconnect :=
  clientDisconnect_keeps holding_disregards.closed holding_disregards.hung

/-! ## Routines that replace the block -/

/-- The old block is released when there is a new one, and the record refers to that. -/
theorem replaceStorage_accounted (size : Nat) {change : Block → Framebuffer → Framebuffer}
    (stores : ∀ block framebuffer, (change block framebuffer).data = some block)
    {memory : Memory} (owns : OwnsStorage memory) {data : Option Block}
    (present : memory.client.framebuffer.data = data) {out : List Nat}
    (held : memory.client.blocks = out) :
    (callocPixels size >>= fun newData =>
      match newData with
      | none => fail .nomem
      | some block => freePixels data >>= fun _ =>
          modifyFramebuffer (change block)).wp Allowed (StorageAccounted out) memory := by
  subst present held
  rw [bind_eq, Program.wp_sequence, wp_callocPixels]
  constructor
  · rfl
  · rintro (_ | id) _
    · exact ⟨rfl, owns⟩
    · have renewed (events : List Step) (ledger : events.flatMap storageEntries =
          (memory.client.framebuffer.data.map Block.id).toList.map .released) :
          StorageAccounted memory.client.blocks (⟨memory, .calloc size, some id⟩ :: events)
            (.returned ()) (memory.withFramebuffer
              (change ⟨id, List.replicate size 0⟩ memory.client.framebuffer)) := by
        constructor
        · change balance memory.client.blocks (.obtained id :: events.flatMap storageEntries) =
            some ((change _ _).data.map Block.id).toList
          rw [ledger, stores]
          unfold Client.blocks
          cases memory.client.framebuffer.data with
          | none => rfl
          | some old => exact balance_replace old.id id
        · exact owns
      simp only [continuing_returned, Option.map_some, bind_eq]
      rw [Program.wp_sequence]
      apply wp_freePixels
      · rfl
      · intro null
        exact renewed [] (by rw [null]; rfl)
      · intro old present
        exact renewed [⟨memory, .free old.id, ()⟩] (by rw [present]; rfl)

/-- `decode_desktop_size` frees the old block and records the one it got, or keeps the old one
when it got none. -/
theorem decodeDesktopSize_balanced (word : WordSize) (rect : Rect) :
    Balanced (decodeDesktopSize word rect) := by
  apply Balances.load
  intro memory owns
  have own : memory.client.callbacks.allocFramebuffer = false := owns
  simp only [own, Bool.false_eq_true, if_false]
  -- The report comes after the replacement.
  have replaced := @replaceStorage_accounted
    (word.product rect.width.toNat rect.height.toNat
      (word.ofInt memory.client.framebuffer.format.bytesPerPixel))
    (fun block framebuffer => { framebuffer with
      data := some block, width := rect.width, height := rect.height
      dataSize := word.product rect.width.toNat rect.height.toNat
        (word.ofInt memory.client.framebuffer.format.bytesPerPixel) })
    (fun _ _ => rfl) memory owns _ rfl _ rfl
  have reported := Balances.wp_sequence replaced
    (fun _ => Untouched.balanced (holding_disregards.fire (.desktopResize rect.width rect.height)))
  rw [bind_eq, sequence_assoc] at reported
  refine Eq.mp (congrArg (fun following =>
    (sequence (callocPixels _) following).wp Allowed (StorageAccounted memory.client.blocks)
      memory) (funext (fun newData => ?_))) reported
  cases newData with
  | none => rfl
  | some block => exact sequence_assoc _ _ _

/-- The allocation of `ovnc_client_set_pixel_format` frees the old block before it asks for
another, and records what it got. -/
theorem adoptPixelFormat_balanced (word : WordSize) (format : PixelFormat) :
    Balanced (adoptPixelFormat word format) := by
  apply Balances.load
  intro memory owns
  have own : memory.client.callbacks.allocFramebuffer = false := owns
  simp only [own, Bool.false_eq_true, if_false]
  rw [bind_eq, Program.wp_sequence, wp_modifyFramebuffer, continuing_returned, wp_onlyIf]
  constructor
  · intro _
    rw [bind_eq, Program.wp_sequence, wp_modifyFramebuffer, continuing_returned]
    simp only [List.nil_append]
    apply replaceStorage_accounted
    case present => rfl
    case held => rfl
    case stores => exact fun _ _ => rfl
    case owns => exact owns
  · intro _
    exact ⟨rfl, owns⟩

/-! ## Connecting -/

/-- The client has no block before, or no block is asked for. -/
def Spared (memory : Memory) (events : List Step) : Prop :=
  memory.client.blocks = [] ∨ ∀ event ∈ events, ∀ size, event.request ≠ .calloc size

/-- Where a block was asked for, there was none before. -/
theorem Spared.empty {memory : Memory} {event : Step} {events : List Step} {size : Nat}
    (spared : Spared memory events) (asked : event ∈ events)
    (request : event.request = .calloc size) : memory.client.blocks = [] :=
  spared.resolve_right (fun unasked => unasked event asked size request)

/-- A routine that accounts for its blocks when it spares the client's. -/
def Cautious {α : Type} (routine : Routine α) : Prop :=
  ∀ memory, OwnsStorage memory → routine.wp Allowed (fun events outcome final =>
    Spared memory events → StorageAccounted memory.client.blocks events outcome final) memory

namespace Cautious

/-- A routine that balances needs no caution. -/
theorem balanced {α : Type} {routine : Routine α} (balances : Balanced routine) :
    Cautious routine := by
  intro memory owns
  apply wp_mono (balances memory owns)
  exact fun _ _ _ accounted _ => accounted

/-- What comes before leaves blocks alone. -/
theorem after {α β : Type} {first : Routine α} {following : α → Routine β}
    (untouched : Untouched first) (cautious : ∀ value, Cautious (following value)) :
    Cautious (sequence first following) := by
  intro memory owns
  have begun := untouched.balanced memory owns
  apply wp_after (wp_and (untouched memory) begun)
  · rintro events value middle ⟨⟨same, within, -⟩, begun, owned⟩
    have sameBlocks := (holding_blocks same).1
    apply wp_mono (cautious value middle owned)
    intro later outcome final rest spared
    apply Accounted.prepend begun
    apply rest
    rcases spared with empty | unasked
    · exact .inl (sameBlocks.trans empty)
    · exact .inr (fun event member => unasked event (List.mem_append_right _ member))
  · rintro events error final ⟨-, accounted⟩ -
    exact accounted
  · rintro events fault final ⟨-, accounted⟩ -
    exact accounted
  · rintro events final ⟨-, accounted⟩ -
    exact accounted

/-- What comes after accounts for its blocks. -/
theorem before {α β : Type} {first : Routine α} {following : α → Routine β}
    (cautious : Cautious first) (balances : ∀ value, Balanced (following value)) :
    Cautious (sequence first following) := by
  intro memory owns
  apply wp_after (cautious memory owns)
  · intro events value middle accounted
    by_cases spared : Spared memory events
    · obtain ⟨begun, owned⟩ := accounted spared
      apply wp_mono (balances value middle owned)
      intro later outcome final rest _
      exact Accounted.prepend begun rest
    · apply wp_always
      intro later outcome final sparedAll
      exact absurd (sparedAll.imp_right (fun unasked event member =>
        unasked event (List.mem_append_left _ member))) spared
  · exact fun _ _ _ accounted => accounted
  · exact fun _ _ _ accounted => accounted
  · exact fun _ _ accounted => accounted

/-- Catching the error of a cautious routine is cautious: the account is the same whether the
routine failed or not. -/
theorem attempt {α : Type} {routine : Routine α} (cautious : Cautious routine) :
    Cautious (Program.attempt routine) := by
  intro memory owns
  rw [wp_attempt]
  apply wp_mono (cautious memory owns)
  intro events outcome final accounted
  cases outcome with
  | returned | failed | faulted | waiting => exact accounted

end Cautious

/-- The framebuffer part of `do_initialization` overwrites the pointer. -/
theorem initFramebuffer_cautious (word : WordSize) : Cautious (initFramebuffer word) := by
  intro memory owns
  have own : memory.client.callbacks.allocFramebuffer = false := owns
  unfold initFramebuffer
  simp only [bind_eq, Program.wp_sequence, wp_load, wp_modifyFramebuffer, wp_failIf,
    continuing_returned, continuing_failed, own, Bool.false_eq_true, if_false]
  constructor
  · exact fun _ _ => ⟨rfl, owns⟩
  · intro _
    rw [wp_callocPixels]
    constructor
    · exact fun _ => rfl
    · rintro (_ | id) _
      · simp only [continuing_returned, Program.wp_sequence, wp_modifyFramebuffer, wp_failIf]
        constructor
        · intro _ spared
          have empty := spared.empty List.mem_cons_self rfl
          exact ⟨congrArg some empty, owns⟩
        · exact fun obtained => absurd rfl obtained
      · simp only [continuing_returned, Program.wp_sequence, wp_modifyFramebuffer, wp_failIf]
        constructor
        · simp
        · intro _ spared
          have empty := spared.empty List.mem_cons_self rfl
          constructor
          · change balance memory.client.blocks [.obtained id] = some [id]
            rw [empty]
            rfl
          · exact owns

/-- `ovnc__handshake`. Nothing but the framebuffer part concerns the blocks. -/
theorem handshake_cautious (word : WordSize) : Cautious (handshake word) := by
  apply Cautious.after (holding_overlooks.exchanges negotiateVersion_exchange)
  intro _
  apply Cautious.after (holding_overlooks.exchanges negotiateSecurity_exchange)
  intro _
  apply Cautious.after (holding_overlooks.exchanges checkSecurityResult_exchange)
  intro _
  refine Cautious.before ?_
    (fun _ => Untouched.balanced
      (holding_overlooks.transmits.keeps (sendInitialMessages_transmission word)))
  apply Cautious.after load_untouched
  intro memory
  apply Cautious.after (holding_overlooks.exchanges (transportSend_exchange _))
  intro _
  apply Cautious.after (holding_overlooks.exchanges (transportRecv_exchange _))
  intro header
  apply Cautious.after (holding_overlooks.exchanges (modifyConnInfo_exchange _))
  intro _
  exact Cautious.after (holding_overlooks.exchanges (receiveName_exchange _))
    (fun _ => initFramebuffer_cautious word)

/-- Abandoning a connection closes the transport and touches no storage. -/
theorem abandonConnect_untouched (error : Error) : Untouched (abandonConnect error) := by
  have destroyed : Untouched transportDestroy := by
    apply Keeps.load
    intro memory
    cases memory.client.transport with
    | none => exact Keeps.done ()
    | some transport =>
      refine (Keeps.onlyIf (fun _ => ?_)).sequence (fun _ => modifyClient_keeps (fun _ => rfl))
      exact (Keeps.ask (fun _ _ _ => rfl)).sequence (fun _ => Keeps.done ())
  exact destroyed.sequence (fun _ => platformCleanup_untouched.sequence (fun _ => Keeps.fail error))

/-- `ovnc_client_connect`. -/
theorem clientConnect_cautious (word : WordSize) : Cautious (clientConnect word) := by
  have initialized : Untouched platformInit := Keeps.update (fun _ => rfl)
  have created : Untouched transportCreate := by
    apply (Keeps.ask (fun _ _ _ => rfl)).sequence
    intro _
    exact (Keeps.failIf _ _).sequence (fun _ => modifyClient_keeps (fun _ => rfl))
  have opened : Untouched transportConnect := by
    apply (derefTransport_keeps (fun _ _ => trivial)).sequence
    intro _
    apply Keeps.load
    intro _
    apply (Keeps.ask (fun _ _ _ => rfl)).sequence
    intro answer
    cases answer with
    | ok sock => exact modifyClient_keeps (fun _ => rfl)
    | error error => exact Keeps.fail error
  apply Cautious.after load_untouched
  intro memory
  apply Cautious.after (Keeps.failIf _ _)
  intro _
  apply Cautious.after initialized
  intro _
  apply Cautious.after created.attempt
  intro made
  cases made with
  | error error =>
    exact Cautious.balanced (platformCleanup_untouched.balanced.sequence
      (fun _ => Balances.fail error))
  | ok =>
    apply Cautious.after opened.attempt
    intro connected
    cases connected with
    | error error => exact Cautious.balanced (abandonConnect_untouched error).balanced
    | ok =>
      apply Cautious.before (handshake_cautious word).attempt
      intro shaken
      cases shaken with
      | error error => exact (abandonConnect_untouched error).balanced
      | ok => exact Untouched.balanced (modifyClient_keeps (fun _ => rfl))

/-! ## Calls -/

/-- Every call but connect: its parts leave blocks alone or replace the client's. -/
theorem perform_balanced (word : WordSize) (bound : Nat) {call : ApiCall}
    (other : call ≠ .connect) : Balanced (perform word bound call) := by
  cases sends : call.sends with
  | false =>
    apply (perform_messages word bound other sends).lifted Balances.compositional
    rintro _ _ (given | rect)
    · exact Untouched.balanced (holding_disregards.reception given)
    · exact decodeDesktopSize_balanced word rect
  | true =>
    apply (perform_parts word bound sends).lifted Balances.compositional
    intro _ _ part
    cases part with
    | transmit given => exact Untouched.balanced (holding_overlooks.transmits.transmission given)
    | adopt => exact adoptPixelFormat_balanced word _

/-- Every call accounts for its blocks, and only connecting needs care. -/
theorem perform_accounted (word : WordSize) (bound : Nat) (call : ApiCall) {memory : Memory}
    (owns : OwnsStorage memory) :
    (perform word bound call).wp Allowed (fun events outcome final =>
      (call = .connect → Spared memory events) →
        StorageAccounted memory.client.blocks events outcome final) memory := by
  by_cases other : call = .connect
  · subst other
    apply wp_mono (clientConnect_cautious word memory owns)
    exact fun _ _ _ accounted spared => accounted (spared rfl)
  · apply wp_mono (perform_balanced word bound other memory owns)
    exact fun _ _ _ accounted _ => accounted

/-- Destroying the client releases its block. -/
theorem clientDestroy_settles {memory : Memory} (owns : OwnsStorage memory) :
    clientDestroy.wp Allowed (fun events outcome _ => outcome = .returned () →
      balance memory.client.blocks (events.flatMap storageEntries) = some []) memory := by
  apply wp_after (wp_and (clientDisconnect_untouched memory)
    (clientDisconnect_untouched.balanced memory owns))
  · rintro events value middle ⟨-, begun, owned⟩
    have own : middle.client.callbacks.allocFramebuffer = false := owned
    have joined (later : List Step) (out : List Nat)
        (released : balance middle.client.blocks (later.flatMap storageEntries) = some out) :
        balance memory.client.blocks ((events ++ later).flatMap storageEntries) = some out := by
      rw [List.flatMap_append, balance_append, begun]
      exact released
    rw [bind_eq, Program.wp_sequence, wp_load, continuing_returned, wp_onlyIf]
    constructor
    · intro _
      apply wp_freePixels
      · simp
      · intro null _
        apply joined
        unfold Client.blocks
        rw [null]
        rfl
      · intro block present _
        apply joined
        unfold Client.blocks
        rw [present]
        simp [storageEntries, balance]
    · intro other
      exact absurd own other
  · simp
  · simp
  · simp

end OpenVnc
