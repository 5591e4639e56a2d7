import Mathlib.Data.Fintype.Basic
import Mathlib.Logic.Function.Basic

/-!
# Interleavings of threads

A schedule lists the atomic actions of several threads in the order in which they
happen, each with its thread. A thread performs calls, and a call has one or more
atomic parts, so that the calls of different threads may be split by one another. They
never are, whatever the schedule, exactly when a thread that makes a call of two or
more parts is alone.
-/

namespace Interaction

variable {I A C : Type} [DecidableEq I]

/-- What one thread does in a schedule. The actions of the others are left out, and the order is
kept. -/
def ofThread (i : I) (schedule : List (I × A)) : List A :=
  schedule.filterMap (fun entry => if entry.1 = i then some entry.2 else none)

/-- A schedule of one thread alone. -/
def scheduled (i : I) (actions : List A) : List (I × A) := actions.map (fun action => (i, action))

/-- A schedule in which each thread performs its actions in order. Nothing is said of the order
between two threads. -/
def Interleaves (threads : I → List A) (schedule : List (I × A)) : Prop :=
  ∀ i, ofThread i schedule = threads i

/-- The parts of every call happen in one piece: the schedule is that of whole calls, in
an order in which each thread makes its calls. -/
def Unsplit (parts : C → List A) (threads : I → List C) (schedule : List (I × A)) : Prop :=
  ∃ order : List (I × C), Interleaves threads order ∧
    schedule = order.flatMap (fun entry => scheduled entry.1 (parts entry.2))

/-! ## Schedules -/

/-- What a thread does in two schedules one after the other it does one after the other. -/
theorem ofThread_append (i : I) (earlier later : List (I × A)) :
    ofThread i (earlier ++ later) = ofThread i earlier ++ ofThread i later :=
  List.filterMap_append

/-- An action of the thread is the first of what it does. -/
theorem ofThread_cons_same (i : I) (action : A) (schedule : List (I × A)) :
    ofThread i ((i, action) :: schedule) = action :: ofThread i schedule := by
  simp [ofThread]

/-- An action of another thread does not count. -/
theorem ofThread_cons_other {i j : I} (other : j ≠ i) (action : A) (schedule : List (I × A)) :
    ofThread i ((j, action) :: schedule) = ofThread i schedule := by
  simp [ofThread, other]

/-- A schedule of one thread's actions is all of them for this thread, and none for any other. -/
theorem ofThread_scheduled (i j : I) (actions : List A) :
    ofThread i (scheduled j actions) = if j = i then actions else [] := by
  by_cases same : j = i <;> simp [ofThread, scheduled, same, List.filterMap_map]

/-- Finitely many threads can always be scheduled. Running one after another is a schedule. -/
theorem exists_interleaves [Fintype I] (threads : I → List A) :
    ∃ schedule, Interleaves threads schedule := by
  refine ⟨Finset.univ.toList.flatMap (fun i => scheduled i (threads i)), fun i => ?_⟩
  have each (ids : List I) (distinct : ids.Nodup) :
      ofThread i (ids.flatMap (fun j => scheduled j (threads j))) =
        if i ∈ ids then threads i else [] := by
    induction ids with
    | nil => rfl
    | cons j ids inductionHypothesis =>
      obtain ⟨fresh, distinct⟩ := List.nodup_cons.mp distinct
      rw [List.flatMap_cons, ofThread_append, ofThread_scheduled, inductionHypothesis distinct]
      by_cases same : j = i
      · subst same
        simp [fresh]
      · simp [same, Ne.symm same]
  rw [each _ (Finset.nodup_toList _), if_pos (by simp)]

/-- If only one thread does anything, the schedule is that of this thread. No other schedule
would have an action of its own. -/
theorem scheduled_of_alone {i : I} {schedule : List (I × A)}
    (alone : ∀ j, i ≠ j → ofThread j schedule = []) :
    schedule = scheduled i (ofThread i schedule) := by
  induction schedule with
  | nil => rfl
  | cons entry schedule inductionHypothesis =>
    obtain ⟨j, action⟩ := entry
    by_cases same : i = j
    · subst same
      have rest : ∀ j, i ≠ j → ofThread j schedule = [] := by
        intro j other
        rw [← ofThread_cons_other other action schedule]
        exact alone j other
      rw [ofThread_cons_same, scheduled, List.map_cons]
      exact congrArg _ (inductionHypothesis rest)
    · have busy := alone j same
      rw [ofThread_cons_same] at busy
      exact absurd busy (List.cons_ne_nil _ _)

/-! ## Calls in parts -/

section Calls

variable {parts : C → List A} {threads : I → List C} {schedule : List (I × A)}

omit [DecidableEq I] in
/-- The calls of one thread, one after another. -/
theorem flatMap_scheduled (i : I) (calls : List C) :
    (scheduled i calls).flatMap (fun entry => scheduled entry.1 (parts entry.2)) =
      scheduled i (calls.flatMap parts) := by
  simp only [scheduled, List.flatMap_map, List.map_flatMap]

/-- Calls none of which is without parts have no parts together only if there are none of them.
The converse is plain. -/
theorem eq_nil_of_flatMap_eq_nil (nonempty : ∀ call, parts call ≠ []) {calls : List C}
    (nothing : calls.flatMap parts = []) : calls = [] := by
  cases calls with
  | nil => rfl
  | cons call calls =>
    rw [List.flatMap_cons] at nothing
    exact absurd (List.append_eq_nil_iff.mp nothing).1 (nonempty call)

/-- A call of one part comes first, and the others after it. -/
theorem Unsplit.first {i : I} {action : A} {call : C} {others : List C}
    (calls : threads i = call :: others) (single : parts call = [action])
    (later : Unsplit parts (Function.update threads i others) schedule) :
    Unsplit parts threads ((i, action) :: schedule) := by
  obtain ⟨order, orders, ordered⟩ := later
  refine ⟨(i, call) :: order, fun j => ?_, ?_⟩
  · by_cases same : i = j
    · subst same
      rw [ofThread_cons_same, orders, Function.update_self, calls]
    · rw [ofThread_cons_other same, orders, Function.update_of_ne (Ne.symm same)]
  · rw [List.flatMap_cons, single, ← ordered]
    rfl

/-- The calls of a thread that is alone are made one after another. -/
theorem unsplit_single {i : I} (others : ∀ j, i ≠ j → threads j = [])
    (interleaves : Interleaves (fun i => (threads i).flatMap parts) schedule) :
    Unsplit parts threads schedule := by
  have silent : ∀ j, i ≠ j → ofThread j schedule = [] := by
    intro j different
    apply (interleaves j).trans
    simp only [others j different, List.flatMap_nil]
  refine ⟨scheduled i (threads i), fun j => ?_, ?_⟩
  · rw [ofThread_scheduled]
    split
    · next same => rw [same]
    · next different => exact (others j different).symm
  · rw [flatMap_scheduled]
    exact (scheduled_of_alone silent).trans (congrArg _ (interleaves i))

/-- A thread that makes a call of two or more parts is the only one. Any number of threads may
act when every call has one part only. -/
def DividedAlone (parts : C → List A) (threads : I → List C) : Prop :=
  ∀ i j, i ≠ j → (∃ call ∈ threads i, 2 ≤ (parts call).length) → threads j = []

/-- When a thread has made its first call, what remains still has a thread that makes a divided
call alone. -/
theorem DividedAlone.update {i : I} {call : C} {others : List C}
    (alone : DividedAlone parts threads) (calls : threads i = call :: others) :
    DividedAlone parts (Function.update threads i others) := by
  rintro j k different ⟨long, member, two⟩
  have called : long ∈ threads j := by
    by_cases same : j = i
    · subst same
      rw [Function.update_self] at member
      exact calls ▸ List.mem_cons_of_mem _ member
    · rwa [Function.update_of_ne same] at member
  have empty : threads k = [] := alone j k different ⟨long, called, two⟩
  by_cases same : k = i
  · subst same
    exact absurd (calls.symm.trans empty) (List.cons_ne_nil _ _)
  · rw [Function.update_of_ne same]
    exact empty

/-- The induction is on the schedule: a call of one part is the first of the order, and a
longer one means that there is no other thread. -/
theorem unsplit_of_dividedAlone (nonempty : ∀ call, parts call ≠ [])
    (alone : DividedAlone parts threads)
    (interleaves : Interleaves (fun i => (threads i).flatMap parts) schedule) :
    Unsplit parts threads schedule := by
  induction schedule generalizing threads with
  | nil =>
    refine ⟨[], fun i => ?_, rfl⟩
    exact (eq_nil_of_flatMap_eq_nil nonempty (interleaves i).symm).symm
  | cons entry schedule inductionHypothesis =>
    obtain ⟨i, action⟩ := entry
    have mine : action :: ofThread i schedule = (threads i).flatMap parts := by
      rw [← ofThread_cons_same]
      exact interleaves i
    cases calls : threads i with
    | nil =>
      rw [calls] at mine
      exact absurd mine (List.cons_ne_nil _ _)
    | cons call others =>
      rw [calls, List.flatMap_cons] at mine
      cases divided : parts call with
      | nil => exact absurd divided (nonempty call)
      | cons first rest =>
        rw [divided, List.cons_append, List.cons.injEq] at mine
        obtain ⟨rfl, mine⟩ := mine
        cases rest with
        | nil =>
          refine .first calls divided (inductionHypothesis (alone.update calls) (fun j => ?_))
          by_cases same : i = j
          · subst same
            simpa using mine
          · have rest : ofThread j schedule = (threads j).flatMap parts := by
              rw [← ofThread_cons_other same action schedule]
              exact interleaves j
            simpa only [Function.update_of_ne (Ne.symm same)] using rest
        | cons second rest =>
          have member : call ∈ threads i := by
            rw [calls]
            exact List.mem_cons_self
          have others : ∀ j, i ≠ j → threads j = [] := fun j different =>
            alone i j different ⟨call, member, by simp [divided]⟩
          exact unsplit_single others interleaves

/-- In an unsplit schedule, whenever one thread acts every other is between two calls. It has
not begun a call that is not at its end. -/
theorem between_calls {order : List (I × C)} {i j : I} (different : i ≠ j) {action : A}
    {earlier later : List (I × A)}
    (happens : order.flatMap (fun entry => scheduled entry.1 (parts entry.2)) =
      earlier ++ (j, action) :: later) :
    ∃ finished rest, ofThread i order = finished ++ rest ∧
      ofThread i earlier = finished.flatMap parts := by
  induction order generalizing earlier with
  | nil => exact absurd happens (by simp)
  | cons entry order inductionHypothesis =>
    obtain ⟨k, call⟩ := entry
    rw [List.flatMap_cons] at happens
    have after (more : List (I × A)) (begins : earlier = scheduled k (parts call) ++ more)
        (goes : order.flatMap (fun entry => scheduled entry.1 (parts entry.2)) =
          more ++ (j, action) :: later) :
        ∃ finished rest, ofThread i ((k, call) :: order) = finished ++ rest ∧
          ofThread i earlier = finished.flatMap parts := by
      obtain ⟨finished, remaining, calls, done⟩ := inductionHypothesis goes
      rw [begins, ofThread_append, ofThread_scheduled, done]
      by_cases same : k = i
      · subst same
        refine ⟨call :: finished, remaining, ?_, ?_⟩
        · rw [ofThread_cons_same, calls, List.cons_append]
        · rw [if_pos rfl, List.flatMap_cons]
      · refine ⟨finished, remaining, by rw [ofThread_cons_other same, calls], ?_⟩
        rw [if_neg same, List.nil_append]
    rcases List.append_eq_append_iff.mp happens with ⟨more, begins, goes⟩ | ⟨more, within, goes⟩
    · exact after more begins goes
    cases more with
    | nil => exact after [] (by simpa using within.symm) (by simpa using goes.symm)
    | cons entry more =>
      -- The action is one of the call, so the call is not one of the thread's.
      obtain ⟨rfl, -⟩ := List.cons.inj goes
      have member : (j, action) ∈ scheduled k (parts call) := by simp [within]
      obtain rfl : k = j := by
        obtain ⟨part, -, same⟩ := List.mem_map.mp member
        exact congrArg Prod.fst same
      have silent := ofThread_scheduled i k (parts call)
      rw [within, ofThread_append, if_neg (Ne.symm different)] at silent
      exact ⟨[], _, rfl, (List.append_eq_nil_iff.mp silent).1⟩

/-- A call of two parts can be split by any action of another thread. The action is put between
the first part and the second. -/
theorem exists_split [Fintype I] (nonempty : ∀ call, parts call ≠ []) {i j : I}
    (different : i ≠ j) {call : C} (member : call ∈ threads i) (two : 2 ≤ (parts call).length)
    (busy : threads j ≠ []) :
    ∃ schedule, Interleaves (fun i => (threads i).flatMap parts) schedule ∧
      ¬ Unsplit parts threads schedule := by
  obtain ⟨before, after, calls⟩ := List.append_of_mem member
  obtain ⟨first, second, rest, divided⟩ :
      ∃ first second rest, parts call = first :: second :: rest := by
    match parts call, two with
    | first :: second :: rest, _ => exact ⟨first, second, rest, rfl⟩
  obtain ⟨action, actions, acts⟩ :
      ∃ action actions, (threads j).flatMap parts = action :: actions := by
    apply List.exists_cons_of_ne_nil
    intro silent
    exact busy (eq_nil_of_flatMap_eq_nil nonempty silent)
  -- The first part, then the other thread, then everything else in any order.
  obtain ⟨remaining, remains⟩ := exists_interleaves (fun k =>
    if i = k then second :: rest ++ after.flatMap parts
    else if j = k then [] else (threads k).flatMap parts)
  refine ⟨scheduled i (before.flatMap parts ++ [first]) ++
    (scheduled j (action :: actions) ++ remaining),
    fun k => ?_, ?_⟩
  · rw [ofThread_append, ofThread_append, ofThread_scheduled, ofThread_scheduled, remains k]
    by_cases mine : i = k
    · subst mine
      simp [Ne.symm different, calls, divided]
    · by_cases other : j = k
      · subst other
        simp [different, acts]
      · simp [mine, other]
  · rintro ⟨order, orders, ordered⟩
    have happens : order.flatMap (fun entry => scheduled entry.1 (parts entry.2)) =
        scheduled i (before.flatMap parts ++ [first]) ++
          (j, action) :: (scheduled j actions ++ remaining) := ordered.symm
    obtain ⟨finished, unfinished, made, done⟩ := between_calls different happens
    rw [ofThread_scheduled, if_pos rfl] at done
    have sizes : (before.flatMap parts).length + 1 = (finished.flatMap parts).length := by
      rw [← done, List.length_append, List.length_singleton]
    -- The finished calls end before the divided one, or contain it whole.
    rw [orders i, calls] at made
    rcases List.append_eq_append_iff.mp made with ⟨_ | ⟨next, more⟩, rfl, goes⟩ | ⟨more, rfl, -⟩
    · rw [List.append_nil] at sizes
      omega
    · obtain ⟨rfl, -⟩ := List.cons.inj goes
      rw [List.flatMap_append, List.flatMap_cons, divided] at sizes
      simp at sizes
    · rw [List.flatMap_append, List.length_append] at sizes
      omega

/-- No schedule splits a call exactly when a thread that makes a call of two parts is
alone. -/
theorem unsplit_iff [Fintype I] (nonempty : ∀ call, parts call ≠ []) :
    (∀ schedule, Interleaves (fun i => (threads i).flatMap parts) schedule →
      Unsplit parts threads schedule) ↔ DividedAlone parts threads := by
  constructor
  · rintro unsplit i j different ⟨call, member, two⟩
    by_contra busy
    obtain ⟨schedule, interleaves, split⟩ := exists_split nonempty different member two busy
    exact split (unsplit schedule interleaves)
  · exact fun alone schedule => unsplit_of_dividedAlone nonempty alone

end Calls

end Interaction
