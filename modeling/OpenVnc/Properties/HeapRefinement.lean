import OpenVnc.HeapProcess
import OpenVnc.Properties.SocketRefinement

/-!
# The library and the storage it manages

A process that manages its storage runs as one of the library does, and the other way round:
obtaining and releasing blocks changes nothing about what the library asks for and answers, and
every run of the library is one in which its storage is managed.
-/

namespace OpenVnc

open Interaction Interaction.Program

namespace Heap

variable {word : WordSize} {may : (request : Request) → Answer request → Prop}

/-! ## Routines -/

/-- What is left of an operation is what was asked for to answer it. -/
def Left (_ : Memory) (operation : Operation) (answer : Option (Reply operation))
    (events : List Step) : Prop :=
  ∀ given, answer = some given →
    events.flatMap exchanges = operationExchanges operation given

/-- Forgetting the storage gives each answer that the operation can get. -/
theorem forget_works (memory : Memory) (operation : Operation) :
    (forget operation).wp may (WorksOut (Answers may) Left memory operation) memory := by
  cases operation with
  | release pointer => exact ⟨rfl, trivial, by rintro _ ⟨⟩; rfl⟩
  | asked | object | buffer | recvInto | sendFrom =>
    exact ⟨⟨rfl, by simp [Left]⟩, fun answer allowed => ⟨rfl, allowed, by rintro _ ⟨⟩; rfl⟩⟩

/-- A request is answered in one step. -/
theorem asking_realises (request : Request) (answer : Answer request)
    (allowed : may request answer) (memory : Memory) :
    Execution may (ask request : Routine (Answer request)) memory [⟨memory, request, answer⟩]
      (.returned answer) memory := .answered answer allowed (.done answer memory)

section Executions

variable {managed : Managed Unit} {routine : Routine Unit} {memory final : Memory}
  {outcome : Outcome Error Fault Unit}

/-- A routine that has ended without its storage can end so with it. -/
theorem executes_managed {events : List Step} (forgets : Forgets managed routine)
    (executed : Execution may routine memory events outcome final) (ended : outcome ≠ .waiting) :
    ∃ events', Execution (Answers may) managed memory events' outcome final ∧
      events'.flatMap managedExchanges = events.flatMap exchanges := by
  subst forgets
  obtain ⟨events', above, expands⟩ := translate_executes
    (fun memory operation _ => forget_works memory operation) (poses_always _ _ _) executed
  exact ⟨events', above, (expands.flatMap ended (fun _ _ _ _ seen => seen _ rfl)).symm⟩

/-- A routine that has ended with its storage can end so without it. -/
theorem managed_executes {events : List ManagedStep} (forgets : Forgets managed routine)
    (executed : Execution (Answers may) managed memory events outcome final)
    (ended : outcome ≠ .waiting) :
    ∃ events', Execution may routine memory events' outcome final ∧
      events'.flatMap exchanges = events.flatMap managedExchanges := by
  subst forgets
  have realises (memory : Memory) (operation : Operation) (answer : Reply operation) (_ : True)
      (given : Answers may operation answer) :
      ∃ steps : List Step, Execution may (forget operation) memory steps (.returned answer)
        memory ∧ Left memory operation (some answer) steps := by
    cases operation with
    | release pointer => exact ⟨[], .done _ memory, by rintro _ ⟨⟩; rfl⟩
    | asked request => exact ⟨_, asking_realises request answer given memory, by rintro _ ⟨⟩; rfl⟩
    | object pointer =>
      exact ⟨_, asking_realises .callocTransport answer given memory, by rintro _ ⟨⟩; rfl⟩
    | buffer pointer size =>
      exact ⟨_, asking_realises (.malloc size) answer given memory, by rintro _ ⟨⟩; rfl⟩
    | recvInto pointer len =>
      exact ⟨_, asking_realises (.recv len) answer given memory, by rintro _ ⟨⟩; rfl⟩
    | sendFrom pointer data =>
      exact ⟨_, asking_realises (.send data) answer given memory, by rintro _ ⟨⟩; rfl⟩
  obtain ⟨below, executed, expands⟩ :=
    translate_realises realises (poses_always _ _ _) executed ended
  exact ⟨below, executed, expands.flatMap ended (fun _ _ _ _ seen => seen _ rfl)⟩

end Executions

/-! ## Creation -/

/-- A client that the creation returns is this one. -/
abbrev Yields (made : Client) (creation : Creation (Option Client)) : Prop :=
  creation.wp (fun _ _ => True)
    (fun _ outcome _ => ∀ client, outcome = .returned (some client) → client = made) ()

/-- Giving a creation up frees what it had and yields no client. -/
theorem abandonCreate_yields (made : Client) (pointers : List Pointer) :
    Yields made (abandonCreate pointers) := by
  induction pointers with
  | nil => exact fun client returned => absurd returned (by simp)
  | cons pointer pointers inductionHypothesis =>
    exact ⟨fun client returned => absurd returned (by simp), fun _ _ => inductionHypothesis⟩

/-- The copy of the encodings yields the client made, or nothing after a failed allocation. -/
theorem copyEncodings_yields (word : WordSize) (made : Client) :
    Yields made (copyEncodings word made) := by
  have itself : Yields made (done (some made)) :=
    fun client returned => (Option.some.inj (Outcome.returned.inj returned)).symm
  unfold copyEncodings
  cases made.encodings with
  | none => exact itself
  | some encodings =>
    refine ⟨fun client returned => absurd returned (by simp), fun copied _ => ?_⟩
    cases copied with
    | false => exact abandonCreate_yields made _
    | true => exact itself

/-- The copy of the pixel format yields the client made, or nothing after a failed allocation. -/
theorem copyPixelFormat_yields (word : WordSize) (made : Client) :
    Yields made (copyPixelFormat word made) := by
  unfold copyPixelFormat
  cases made.pixelFormat with
  | none => exact copyEncodings_yields word made
  | some format =>
    refine ⟨fun client returned => absurd returned (by simp), fun copied _ => ?_⟩
    cases copied with
    | false => exact abandonCreate_yields made _
    | true => exact copyEncodings_yields word made

/-- A creation with a host name yields the fresh client of this configuration and these callbacks,
or nothing. Without callbacks the client has none set. -/
theorem clientCreate_yields (word : WordSize) {config : ClientConfig} {name : String}
    (callbacks : Option ClientCallbacks) (named : config.host = some name) :
    Yields (freshClient name config (callbacks.getD {})) (clientCreate word config callbacks) := by
  unfold clientCreate
  rw [named]
  refine ⟨fun client returned => absurd returned (by simp), fun allocated _ => ?_⟩
  cases allocated with
  | false => exact fun client returned => absurd returned (by simp)
  | true =>
    refine ⟨fun client returned => absurd returned (by simp), fun copied _ => ?_⟩
    cases copied with
    | false => exact abandonCreate_yields _ _
    | true => exact copyPixelFormat_yields word _

/-- A client that `ovnc_client_create` returns is a fresh one. -/
theorem creation_fresh {word : WordSize} {config : ClientConfig}
    {callbacks : Option ClientCallbacks} {events : List CreationStep} {client : Client}
    (performed : Execution (fun _ _ => True) (clientCreate word config callbacks) () events
      (.returned (some client)) ()) :
    ∃ name, config.host = some name ∧ client = freshClient name config (callbacks.getD {}) := by
  cases named : config.host with
  | none =>
    unfold clientCreate at performed
    rw [named] at performed
    cases performed
  | some name =>
    have yields := clientCreate_yields word callbacks named
    exact ⟨name, rfl, (wp_iff _ _ _).mp yields _ _ _ performed client rfl⟩

section Granting

variable {pointer : Pointer} {following : Bool → Creation (Option Client)}
  {events : List CreationStep} {outcome : Outcome Empty Empty (Option Client)}
  (rest : Execution (fun _ _ => True) (following true) () events outcome ())
include rest

/-- One more object is granted, and the execution goes on. -/
theorem object_granted :
    Execution (fun _ _ => True) (sequence (ask (Operation.object pointer)) following) ()
      (⟨(), .object pointer, true⟩ :: events) outcome () := .asked _ trivial rest

/-- One more buffer is granted, of any size. -/
theorem buffer_granted {size : Nat} :
    Execution (fun _ _ => True) (sequence (ask (Operation.buffer pointer size)) following) ()
      (⟨(), .buffer pointer size, true⟩ :: events) outcome () := .asked _ trivial rest

end Granting

/-- The creation of a fresh client in which every allocation succeeds. -/
theorem creation_succeeds (word : WordSize) {config : ClientConfig} {name : String}
    (callbacks : Option ClientCallbacks) (named : config.host = some name) :
    ∃ events, Execution (fun _ _ => True) (clientCreate word config callbacks) () events
      (.returned (some (freshClient name config (callbacks.getD {})))) () := by
  have copied : ∃ events, Execution (fun _ _ => True)
      (copyEncodings word (freshClient name config (callbacks.getD {}))) () events
      (.returned (some (freshClient name config (callbacks.getD {})))) () := by
    unfold copyEncodings
    cases (freshClient name config (callbacks.getD {})).encodings with
    | none => exact ⟨_, .done _ ()⟩
    | some encodings => exact ⟨_, buffer_granted (.done _ ())⟩
  obtain ⟨copying, copied⟩ := copied
  have formatted : ∃ events, Execution (fun _ _ => True)
      (copyPixelFormat word (freshClient name config (callbacks.getD {}))) () events
      (.returned (some (freshClient name config (callbacks.getD {})))) () := by
    unfold copyPixelFormat
    cases (freshClient name config (callbacks.getD {})).pixelFormat with
    | none => exact ⟨_, copied⟩
    | some format => exact ⟨_, object_granted copied⟩
  obtain ⟨formatting, formatted⟩ := formatted
  unfold clientCreate
  rw [named]
  exact ⟨_, object_granted (buffer_granted formatted)⟩

/-- Whether `ovnc_client_create` can return a client does not depend on its storage. -/
theorem creation_iff (word : WordSize) (config : ClientConfig)
    (callbacks : Option ClientCallbacks) (client : Client) :
    (∃ events, Execution (fun _ _ => True) (clientCreate word config callbacks) () events
        (.returned (some client)) ()) ↔
      ∃ record host pixelFormat encodings,
        OpenVnc.clientCreate config callbacks record host pixelFormat encodings = some client := by
  constructor
  · rintro ⟨events, performed⟩
    obtain ⟨name, named, rfl⟩ := creation_fresh performed
    exact ⟨true, true, true, true, by simp [OpenVnc.clientCreate, named]⟩
  · rintro ⟨record, host, pixelFormat, encodings, made⟩
    unfold OpenVnc.clientCreate at made
    obtain ⟨name, named, made⟩ := Option.bind_eq_some_iff.mp made
    dsimp only at made
    split at made
    · obtain rfl := Option.some.inj made
      exact creation_succeeds word callbacks named
    · exact absurd made (by simp)

/-! ## Processes -/

/-- A step of a process that manages its storage is none or one of a process of the library. -/
theorem transition_left {before after : Process} {action : Action}
    (taken : Transition word may before action after) :
    ∃ left, Run (Process.Transition word may) before left after ∧
      left.map libraryObservation = action.observation := by
  cases taken with
  | create config callbacks performed =>
    obtain ⟨record, host, pixelFormat, encodings, made⟩ :=
      (creation_iff word config callbacks _).mp ⟨_, performed⟩
    exact ⟨[.created], Run.singleton_iff.mpr
      (.create config callbacks record host pixelFormat encodings made), rfl⟩
  | refuse => exact ⟨[], .nil, rfl⟩
  | @call handle client call bound events result final live performed =>
    obtain ⟨left, executed, same⟩ := managed_executes (perform_forgets word bound call) performed
      (finished_not_waiting result)
    refine ⟨[.called handle call left result], Run.singleton_iff.mpr ?_, ?_⟩
    · cases result with
      | ok value => exact .returned live executed
      | error error => exact .failed live executed
    · simp [libraryObservation, Level.ofProcess, Level.Action.observation, Action.observation, same]
  | @destroy handle client events final live performed =>
    obtain ⟨left, executed, same⟩ := managed_executes clientDestroy_forgets performed (by simp)
    refine ⟨[.destroyed handle left], Run.singleton_iff.mpr (.destroy live executed), ?_⟩
    simp [libraryObservation, Level.ofProcess, Level.Action.observation, Action.observation, same]

/-- A step of a process of the library is one of a process that manages its storage. -/
theorem transition_managed {before after : Process} {action : Process.Action}
    (taken : Process.Transition word may before action after) :
    ∃ managed, Transition word may before managed after ∧
      managed.observation = [libraryObservation action] := by
  have called {call : ApiCall} {bound : Nat} {handle : Nat} {client : Client} {final : Memory}
      {events : List Step} (result : Except Error Unit) (live : before.client? handle = some client)
      (performed : Execution may (OpenVnc.perform word bound call) (before.memoryOf client) events
        (Outcome.finished result) final) :
      ∃ managed, Transition word may before managed
          ⟨before.clients.set handle (some final.client), final.platformInitCount⟩ ∧
        managed.observation = [.called handle call (events.flatMap exchanges) result] := by
    obtain ⟨events', executed, same⟩ := executes_managed (perform_forgets word bound call)
      performed (finished_not_waiting result)
    exact ⟨_, .call live executed, by rw [Action.observation, same]⟩
  cases taken with
  | create config callbacks record host pixelFormat encodings made =>
    obtain ⟨events, performed⟩ :=
      (creation_iff word config callbacks _).mpr ⟨record, host, pixelFormat, encodings, made⟩
    exact ⟨_, .create config callbacks performed, rfl⟩
  | returned live performed => exact called (.ok ()) live performed
  | failed live performed => exact called (.error _) live performed
  | destroy live performed =>
    obtain ⟨events', executed, same⟩ :=
      executes_managed clientDestroy_forgets performed (by simp)
    refine ⟨_, .destroy live executed, ?_⟩
    rw [Action.observation, same]
    rfl

/-- Every run of the library is one in which its storage is managed. -/
theorem managed_of_reaches {history : List Process.Action} {process : Process}
    (reached : Process.Reaches word may history process) :
    ∃ managed, Reaches word may managed process ∧
      managed.flatMap Action.observation = history.map libraryObservation := by
  refine Run.invariant (fun history process => ∃ managed, Reaches word may managed process ∧
    managed.flatMap Action.observation = history.map libraryObservation)
    ⟨[], .nil, rfl⟩ ?_ reached
  rintro history before action after ⟨managed, earlier, same⟩ taken
  obtain ⟨step, later, observed⟩ := transition_managed taken
  refine ⟨managed ++ [step], earlier.snoc later, ?_⟩
  simp [same, observed]

/-- What can be seen of a process that manages its storage, and the clients and the count it comes
to, are those of a process of the library. -/
theorem heapReaches_iff (word : WordSize) (may : (request : Request) → Answer request → Prop)
    (process : Process) (trace : List (Observation Exchange)) :
    (∃ history, Reaches word may history process ∧
        history.flatMap Action.observation = trace) ↔
      ∃ history, Process.Reaches word may history process ∧
        history.map libraryObservation = trace := by
  constructor
  · rintro ⟨history, reached, rfl⟩
    refine Run.invariant (fun history process => ∃ left, Process.Reaches word may left process ∧
      left.map libraryObservation = history.flatMap Action.observation)
      ⟨[], .nil, rfl⟩ ?_ reached
    rintro history before action after ⟨left, earlier, same⟩ taken
    obtain ⟨step, later, observed⟩ := transition_left taken
    refine ⟨left ++ step, Run.append_iff.mpr ⟨before, earlier, later⟩, ?_⟩
    simp [same, observed]
  · rintro ⟨history, reached, rfl⟩
    exact managed_of_reaches reached

end Heap

end OpenVnc
