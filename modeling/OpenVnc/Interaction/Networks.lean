import Mathlib.Init

/-!
# Two parties connected by channels

A party moves on its own. A move may take bytes off the front of what has arrived and
may send some; what arrives later never takes a move away and never changes one. Two
such parties, each reading what the other sends, move in any order. Their moves
commute, so that the order does not matter: if one schedule comes to an end, every
schedule does, after as many moves and in the same state, and until then one of the two
can always move.
-/

namespace Interaction

variable {L R S B : Type}

/-- A party with states `S`. A move gives the next state, what is left of the input, and
the output. -/
structure Party (S B : Type) where
  move : S → List B → Option (S × List B × List B)
  stable : ∀ {state input next rest output}, move state input = some (next, rest, output) →
    ∀ more, move state (input ++ more) = some (next, rest ++ more, output)

/-- Two parties and the channels between them. All that has been sent is recorded. The bytes
that a party has not taken yet are those still on the way to it. -/
structure Network (L R B : Type) where
  left : L
  right : R
  toLeft : List B := []
  toRight : List B := []
  fromLeft : List B := []
  fromRight : List B := []

namespace Network

variable {p : Party L B} {q : Party R B}

/-- One of the parties moves. It takes bytes off its channel and adds its output to the other
one. -/
inductive Step (p : Party L B) (q : Party R B) : Network L R B → Network L R B → Prop where
  | left {net : Network L R B} {next : L} {rest output : List B}
      (moves : p.move net.left net.toLeft = some (next, rest, output)) :
      Step p q net { net with
        left := next
        toLeft := rest
        toRight := net.toRight ++ output
        fromLeft := net.fromLeft ++ output }
  | right {net : Network L R B} {next : R} {rest output : List B}
      (moves : q.move net.right net.toRight = some (next, rest, output)) :
      Step p q net { net with
        right := next
        toRight := rest
        toLeft := net.toLeft ++ output
        fromRight := net.fromRight ++ output }

/-- A number of moves. The number is counted, so that all schedules can be compared. -/
inductive Steps (p : Party L B) (q : Party R B) : Nat → Network L R B → Network L R B → Prop where
  | refl (net : Network L R B) : Steps p q 0 net net
  | head {start middle final : Network L R B} {count : Nat} (first : Step p q start middle)
      (others : Steps p q count middle final) : Steps p q (count + 1) start final

/-- Neither party can move. Both wait for bytes that do not come, or are done. -/
def Ended (p : Party L B) (q : Party R B) (net : Network L R B) : Prop :=
  ∀ next, ¬ Step p q net next

/-- Every schedule from `start` leads to `final`, after this number of moves. It also says that
no schedule goes on for ever. -/
def Settles (p : Party L B) (q : Party R B) (start : Network L R B) (total : Nat)
    (final : Network L R B) : Prop :=
  Ended p q final ∧ ∀ taken net, Steps p q taken start net →
    taken ≤ total ∧ Steps p q (total - taken) net final

/-- Two moves from one state are the same, or each can still be made after the other, and
it makes no difference which is first. -/
theorem Step.diamond {net first second : Network L R B} (one : Step p q net first)
    (other : Step p q net second) :
    first = second ∨ ∃ joined, Step p q first joined ∧ Step p q second joined := by
  cases one with
  | left moves =>
    cases other with
    | left moves' =>
      rw [moves] at moves'
      cases moves'
      exact .inl rfl
    | right moves' => exact .inr ⟨_, .right (q.stable moves' _), .left (p.stable moves _)⟩
  | right moves =>
    cases other with
    | left moves' => exact .inr ⟨_, .left (p.stable moves' _), .right (q.stable moves _)⟩
    | right moves' =>
      rw [moves] at moves'
      cases moves'
      exact .inl rfl

/-- Any first move is the first of a schedule that comes to the same end. The moves of two
parties commute, because each takes from its own channel and a move is not undone by more bytes.
-/
theorem Steps.any_first {total : Nat} {start next final : Network L R B}
    (leads : Steps p q total start final) (ended : Ended p q final) (moved : Step p q start next) :
    ∃ fewer, total = fewer + 1 ∧ Steps p q fewer next final := by
  induction leads generalizing next with
  | refl net => exact absurd moved (ended next)
  | @head start middle final count first others inductionHypothesis =>
    refine ⟨count, rfl, ?_⟩
    rcases first.diamond moved with rfl | ⟨joined, after, same⟩
    · exact others
    · obtain ⟨fewer, rfl, rest⟩ := inductionHypothesis ended after
      exact .head same rest

/-- One schedule that ends shows how every schedule ends. No other schedule has to be looked at.
-/
theorem Steps.settles {total : Nat} {start final : Network L R B}
    (leads : Steps p q total start final) (ended : Ended p q final) :
    Settles p q start total final := by
  refine ⟨ended, fun taken net steps => ?_⟩
  induction steps generalizing total with
  | refl net => exact ⟨Nat.zero_le _, leads⟩
  | head first others inductionHypothesis =>
    obtain ⟨fewer, rfl, rest⟩ := leads.any_first ended first
    obtain ⟨bound, remaining⟩ := inductionHypothesis rest
    refine ⟨Nat.succ_le_succ bound, ?_⟩
    rw [Nat.succ_sub_succ]
    exact remaining

/-- Before the end one of the parties can move. -/
theorem Settles.progress {start final net : Network L R B} {total taken : Nat}
    (settles : Settles p q start total final) (steps : Steps p q taken start net) :
    net = final ∨ ∃ next, Step p q net next := by
  obtain ⟨-, remaining⟩ := settles.2 taken net steps
  generalize total - taken = left at remaining
  cases remaining with
  | refl => exact .inl rfl
  | head first others => exact .inr ⟨_, first⟩

/-- Steps of a network may be taken one after the other; their numbers add up. -/
theorem Steps.trans {earlier later : Nat} {start middle final : Network L R B}
    (first : Steps p q earlier start middle) (second : Steps p q later middle final) :
    Steps p q (earlier + later) start final := by
  induction first with
  | refl => rwa [Nat.zero_add]
  | head step others inductionHypothesis =>
    rw [Nat.succ_add]
    exact .head step (inductionHypothesis second)

end Network

/-! ## One party alone -/

/-- What a party can do without the other: its moves on the input that is there, and all
the output they give. -/
inductive Party.Advances (party : Party S B) : S → List B → S → List B → List B → Prop where
  | refl (state : S) (input : List B) : Advances party state input state input []
  | head {state middle final : S} {input between rest output later : List B}
      (first : party.move state input = some (middle, between, output))
      (others : Advances party middle between final rest later) :
      Advances party state input final rest (output ++ later)

namespace Party

/-- What a party does alone may be continued: the input that is left is read on, and the outputs
come one after the other. -/
theorem Advances.trans {party : Party S B} {state middle final : S}
    {input between rest output later : List B}
    (first : party.Advances state input middle between output)
    (second : party.Advances middle between final rest later) :
    party.Advances state input final rest (output ++ later) := by
  induction first with
  | refl => exact second
  | head step others inductionHypothesis =>
    rw [List.append_assoc]
    exact .head step (inductionHypothesis second)

/-- One move is what a party does alone. -/
theorem Advances.single {party : Party S B} {state next : S} {input rest output : List B}
    (moves : party.move state input = some (next, rest, output)) :
    party.Advances state input next rest output := by
  have advances := Advances.head moves (.refl next rest)
  rwa [List.append_nil] at advances

/-- A move without output. The next move is made on what is left of the input. -/
theorem Advances.silent {party : Party S B} {state middle final : S}
    {input between rest output : List B}
    (first : party.move state input = some (middle, between, []))
    (others : party.Advances middle between final rest output) :
    party.Advances state input final rest output := .head first others

variable {p : Party L B} {q : Party R B}

/-- The left party of a network advances while the other one rests. Its channel may hold more
than it takes, and what it sends is queued behind what was on the way. -/
theorem Advances.left {left left' : L} {toLeft rest output : List B}
    (advances : p.Advances left toLeft left' rest output) (right : R)
    (toRight fromLeft fromRight : List B) :
    ∃ count, Network.Steps p q count ⟨left, right, toLeft, toRight, fromLeft, fromRight⟩
      ⟨left', right, rest, toRight ++ output, fromLeft ++ output, fromRight⟩ := by
  induction advances generalizing toRight fromLeft with
  | refl state input => exact ⟨0, by simpa using Network.Steps.refl _⟩
  | head first others inductionHypothesis =>
    obtain ⟨count, steps⟩ := inductionHypothesis (toRight ++ _) (fromLeft ++ _)
    refine ⟨count + 1, .head (.left first) ?_⟩
    simpa only [List.append_assoc] using steps

/-- The right party of a network advances while the other one rests. -/
theorem Advances.right {right right' : R} {toRight rest output : List B}
    (advances : q.Advances right toRight right' rest output) (left : L)
    (toLeft fromLeft fromRight : List B) :
    ∃ count, Network.Steps p q count ⟨left, right, toLeft, toRight, fromLeft, fromRight⟩
      ⟨left, right', toLeft ++ output, rest, fromLeft, fromRight ++ output⟩ := by
  induction advances generalizing toLeft fromRight with
  | refl state input => exact ⟨0, by simpa using Network.Steps.refl _⟩
  | head first others inductionHypothesis =>
    obtain ⟨count, steps⟩ := inductionHypothesis (toLeft ++ _) (fromRight ++ _)
    refine ⟨count + 1, .head (.right first) ?_⟩
    simpa only [List.append_assoc] using steps

/-- A turn: the right party reads all that has been sent to it and answers, and the left
party goes on with the answer. -/
theorem Advances.turn {left left' : L} {right right' : R} {toRight reply rest output : List B}
    (answers : q.Advances right toRight right' [] reply)
    (continues : p.Advances left reply left' rest output) (fromLeft fromRight : List B) :
    ∃ count, Network.Steps p q count ⟨left, right, [], toRight, fromLeft, fromRight⟩
      ⟨left', right', rest, output, fromLeft ++ output, fromRight ++ reply⟩ := by
  obtain ⟨earlier, first⟩ := answers.right left [] fromLeft fromRight
  obtain ⟨later, second⟩ := continues.left right' [] fromLeft (fromRight ++ reply)
  exact ⟨earlier + later, first.trans second⟩

end Party

end Interaction
