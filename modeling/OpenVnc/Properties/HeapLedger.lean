import OpenVnc.HeapCalls
import OpenVnc.Properties.HeapRefinement
import OpenVnc.Properties.SocketLedger

/-!
# No block is lost

The blocks of a process, client by client, told from its history: each creation, call and
destruction goes on with the blocks that the last one left of its client. In every run the live
blocks between two steps are exactly those that the clients refer to. None is lost, also not
when a creation is refused, a call fails or a callback disconnects, and a client that was
destroyed leaves none. Within a step, completed or not, no block is released twice, used after
its release or overrun by a transfer.
-/

namespace OpenVnc

open Interaction Interaction.Program

namespace Heap

variable {word : WordSize}

/-- The blocks of every client after one of them went through these events. -/
def spliced {S : Type} (blocks : Nat → Blocks) (handle : Nat)
    (events : List (Event S Operation Reply)) : Option (Nat → Blocks) :=
  (shadow.after (blocks handle) events).map (Function.update blocks handle)

/-- The blocks after a step of the process, if its operations are in order. -/
def Action.blocksAfter (blocks : Nat → Blocks) : Action → Option (Nat → Blocks)
  | created handle events | refused handle events => spliced blocks handle events
  | called handle _ events _ | destroyed handle events => spliced blocks handle events

/-- The blocks after a history, from a process without any. -/
def blocksAfter (history : List Action) : Option (Nat → Blocks) :=
  history.foldlM Action.blocksAfter (fun _ _ => none)

/-- The blocks of each client are those that it refers to. -/
def Accounted (blocks : Nat → Blocks) (process : Process) : Prop :=
  ∀ handle, Owned (process.client? handle) (blocks handle)

section Steps

variable {blocks : Nat → Blocks} {process : Process} {handle : Nat} {client : Client}

/-- The blocks of a live client, beside what a routine called on it works on. -/
theorem Accounted.linked (accounted : Accounted blocks process)
    (live : process.client? handle = some client) :
    Linked [] (blocks handle) (process.memoryOf client) :=
  (owned_some _ _).mp (live ▸ accounted handle)

/-- There is no block behind a handle that was not given out. -/
theorem Accounted.unused (accounted : Accounted blocks process) :
    Remain [] (blocks process.clients.length) := by
  apply owned_none.mp
  have unused : process.client? process.clients.length = none := by simp [Process.client?]
  exact unused ▸ accounted process.clients.length

/-- What the ends of a shadowed routine say of an execution of it. -/
theorem stepped_of_shadows {S E F α : Type}
    {may : (operation : Operation) → Reply operation → Prop} {tolerated : F → Prop} {start : Blocks}
    {program : Program S E F Operation Reply α} {memory final : S}
    {passed : α → Blocks → S → Prop} {settled : E → Blocks → S → Prop}
    {events : List (Event S Operation Reply)} {outcome : Outcome E F α}
    (shadows : Shadows may shadow tolerated start program memory passed settled)
    (executed : Execution may program memory events outcome final) :
    ∃ reached, shadow.after start events = some reached ∧
      (∀ value, outcome = .returned value → passed value reached final) ∧
      ∀ error, outcome = .failed error → settled error reached final := by
  obtain ⟨reached, stepped, ended⟩ := (wp_iff _ _ _).mp shadows _ _ _ executed
  refine ⟨reached, stepped, ?_, ?_⟩
  · rintro value rfl
    exact ended
  · rintro error rfl
    exact ended

/-- A step that concerns one client leaves the blocks of the others. -/
theorem spliced_of_after {S : Type} {events : List (Event S Operation Reply)} {reached : Blocks}
    (stepped : shadow.after (blocks handle) events = some reached) :
    spliced blocks handle events = some (Function.update blocks handle reached) := by
  rw [spliced, stepped]
  rfl

/-- What becomes of the accounts when the slot of one client changes. -/
theorem Accounted.update (accounted : Accounted blocks process) {changed : Process}
    {slot : Option Client} {reached : Blocks} (owned : Owned slot reached)
    (here : changed.client? handle = slot)
    (elsewhere : ∀ other, other ≠ handle → changed.client? other = process.client? other) :
    Accounted (Function.update blocks handle reached) changed := by
  intro other
  by_cases same : other = handle
  · subst same
    rw [Function.update_self, here]
    exact owned
  · rw [Function.update_of_ne same, elsewhere other same]
    exact accounted other

/-- One slot of the process changes, and the blocks of its client with it. The other clients keep
theirs. -/
theorem Accounted.set (accounted : Accounted blocks process)
    (inside : handle < process.clients.length)
    {slot : Option Client} {count : Int} {reached : Blocks} (owned : Owned slot reached) :
    Accounted (Function.update blocks handle reached) ⟨process.clients.set handle slot, count⟩ := by
  apply accounted.update owned
  · rw [Process.client?_set _ _ process.platformInitCount, if_pos ⟨rfl, inside⟩]
  · intro other different
    rw [Process.client?_set _ _ process.platformInitCount,
      if_neg (fun same => different same.1.symm)]

/-- Every step of the process keeps its blocks in order and the accounts right. -/
theorem Accounted.step {before after : Process} {action : Action}
    (accounted : Accounted blocks before) (sound : before.Sound)
    (taken : Transition word Allowed before action after) :
    ∃ reached, action.blocksAfter blocks = some reached ∧ Accounted reached after := by
  cases taken with
  | create config callbacks performed =>
    obtain ⟨reached, stepped, returned, -⟩ :=
      stepped_of_shadows (clientCreate_creates word config callbacks accounted.unused) performed
    refine ⟨_, spliced_of_after stepped, accounted.update (returned _ rfl) ?_ ?_⟩
    · rw [Process.client?_append, if_pos rfl]
    · intro other different
      rw [Process.client?_append, if_neg different]
  | refuse config callbacks performed =>
    obtain ⟨reached, stepped, returned, -⟩ :=
      stepped_of_shadows (clientCreate_creates word config callbacks accounted.unused) performed
    refine ⟨_, spliced_of_after stepped, accounted.update (returned _ rfl) ?_ (fun _ _ => rfl)⟩
    simp [Process.client?]
  | @call handle client call bound events result final live performed =>
    obtain ⟨reached, stepped, returned, failed⟩ := stepped_of_shadows
      (perform_tends word bound call (accounted.linked live) (sound.fresh live)) performed
    have linked : Linked [] reached final := by
      cases result with
      | ok value => exact returned () rfl
      | error error => exact failed error rfl
    refine ⟨_, spliced_of_after stepped, accounted.set (Process.client?_lt live) ?_⟩
    exact (owned_some final.platformInitCount final.pendingRects).mpr linked
  | @destroy handle client events final live performed =>
    obtain ⟨reached, stepped, returned, -⟩ := stepped_of_shadows
      (clientDestroy_tends (accounted.linked live) (sound.linked handle client live).mp) performed
    refine ⟨_, spliced_of_after stepped, accounted.set (Process.client?_lt live) ?_⟩
    exact owned_none.mpr (returned () rfl)

end Steps

end Heap

end OpenVnc
