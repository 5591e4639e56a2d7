import Mathlib.Init

/-!
# Decoders that consume the front of their input

A decoder takes a value off the front of a list of bytes or fails. `Reads` says that
it takes exactly the given bytes, whatever follows them; the rules below compute the
bytes a decoder reads from those its parts read. A sequence of items is decoded one by
one until nothing is left, and gives back the items that were encoded. A stable decoder
that succeeds decodes the same when more bytes have arrived.
-/

namespace Codec

variable {Byte α β : Type}

/-- Decoders of values of type `α`. The state is the input that is left. -/
abbrev Decoder (Byte α : Type) := StateT (List Byte) Option α

/-- The decoder turns these bytes into this value and leaves all that follows. Since the rest is
arbitrary, encodings can be read off a longer stream. -/
def Reads (decoder : Decoder Byte α) (bytes : List Byte) (value : α) : Prop :=
  ∀ rest, decoder (bytes ++ rest) = some (value, rest)

namespace Decoder

/-- Take a number of bytes. There is no result when the input is shorter, and nothing is taken
then. -/
def take (count : Nat) : Decoder Byte (List Byte) := fun input =>
  if count ≤ input.length then some (input.take count, input.drop count) else none

/-- Continue only when the condition holds. -/
def require (condition : Prop) [Decidable condition] : Decoder Byte Unit := fun input =>
  if condition then some ((), input) else none

/-- Decode a number of items back to back. The number is known beforehand, as where a count has
been read. -/
def repeated (decoder : Decoder Byte α) : Nat → Decoder Byte (List α)
  | 0 => return []
  | count + 1 => do
    let item ← decoder
    let items ← repeated decoder count
    return item :: items

/-- Decode items until nothing is left, at most as many as there is fuel. Every item takes at
least one byte, so that the length of the input is fuel enough. -/
def untilEnd (decoder : Decoder Byte α) : Nat → List Byte → Option (List α)
  | _, [] => some []
  | 0, _ :: _ => none
  | fuel + 1, input => do
    let (item, rest) ← decoder input
    let items ← untilEnd decoder fuel rest
    return item :: items

/-- Decode the whole of an input. An item takes at least a byte, so the length of the
input is fuel enough. -/
def all (decoder : Decoder Byte α) (input : List Byte) : Option (List α) :=
  untilEnd decoder input.length input

end Decoder

namespace Reads

/-- `pure` reads nothing. -/
theorem pure (value : α) : Reads (Pure.pure value : Decoder Byte α) [] value := fun _ => rfl

/-- The bytes of two decoders in sequence are concatenated. The value of the first may decide
how the second reads. -/
theorem bind {first : Decoder Byte α} {next : α → Decoder Byte β} {front back : List Byte}
    {value : α} {result : β} (begins : Reads first front value)
    (continues : Reads (next value) back result) :
    Reads (first >>= next) (front ++ back) result := by
  intro rest
  change (first (front ++ back ++ rest)).bind (fun taken => next taken.1 taken.2) = _
  rw [List.append_assoc, begins (back ++ rest)]
  exact continues rest

/-- The last decoder of a sequence, whose value is only wrapped. -/
theorem bind_pure {first : Decoder Byte α} {front : List Byte} {value : α}
    (begins : Reads first front value) (result : α → β) :
    Reads (first >>= fun taken => Pure.pure (result taken)) front (result value) := by
  intro rest
  change (first (front ++ rest)).bind (fun taken => some (result taken.1, taken.2)) = _
  rw [begins rest]
  rfl

/-- `take` reads as many bytes as it takes, and these are the value. -/
theorem take (bytes : List Byte) : Reads (Decoder.take bytes.length) bytes bytes := by
  intro rest
  simp [Decoder.take]

/-- A condition that holds reads nothing. -/
theorem require {condition : Prop} [Decidable condition] (holds : condition) :
    Reads (Decoder.require condition : Decoder Byte Unit) [] () := by
  intro rest
  simp [Decoder.require, holds]

/-- Items that the decoder reads one by one. This is by induction on the items. -/
theorem repeated {decoder : Decoder Byte α} {encode : α → List Byte} (items : List α)
    (reads : ∀ item ∈ items, Reads decoder (encode item) item) :
    Reads (decoder.repeated items.length) (items.flatMap encode) items := by
  induction items with
  | nil => exact pure []
  | cons item items inductionHypothesis =>
    rw [List.flatMap_cons]
    apply bind (reads item List.mem_cons_self)
    exact bind_pure (inductionHypothesis (fun other member =>
      reads other (List.mem_cons_of_mem _ member))) (item :: ·)

end Reads

/-- Encoded items are recovered with any fuel that is enough for their number. No fuel is wasted
on an item. -/
theorem untilEnd_flatMap {decoder : Decoder Byte α} {encode : α → List Byte} (items : List α)
    (reads : ∀ item ∈ items, Reads decoder (encode item) item)
    (nonempty : ∀ item ∈ items, encode item ≠ []) (fuel : Nat) (enough : items.length ≤ fuel) :
    decoder.untilEnd fuel (items.flatMap encode) = some items := by
  induction items generalizing fuel with
  | nil => cases fuel <;> rfl
  | cons item items inductionHypothesis =>
    obtain ⟨fuel, rfl⟩ : ∃ less, fuel = less + 1 := ⟨fuel - 1, by simp at enough; omega⟩
    have rest := inductionHypothesis
      (fun other member => reads other (List.mem_cons_of_mem _ member))
      (fun other member => nonempty other (List.mem_cons_of_mem _ member)) fuel
      (by simpa using enough)
    have one := reads item List.mem_cons_self (items.flatMap encode)
    obtain ⟨first, others, shape⟩ := List.exists_cons_of_ne_nil (nonempty item List.mem_cons_self)
    rw [List.flatMap_cons, shape, List.cons_append, Decoder.untilEnd, ← List.cons_append, ← shape,
      one]
    · simp [rest]
    · exact nofun

/-- Nonempty encodings are at least as long as the list of the items. It gives a bound on the
number of items of a stream. -/
theorem length_le_flatMap {encode : α → List Byte} (items : List α)
    (nonempty : ∀ item ∈ items, encode item ≠ []) :
    items.length ≤ (items.flatMap encode).length := by
  induction items with
  | nil => exact Nat.le_refl 0
  | cons item items inductionHypothesis =>
    have rest := inductionHypothesis (fun other member =>
      nonempty other (List.mem_cons_of_mem _ member))
    have some := List.length_pos_iff.mpr (nonempty item List.mem_cons_self)
    rw [List.flatMap_cons, List.length_append, List.length_cons]
    omega

/-- Encoded items are recovered, and nothing is left over. A stream of messages has one
decoding. -/
theorem all_flatMap {decoder : Decoder Byte α} {encode : α → List Byte} (items : List α)
    (reads : ∀ item ∈ items, Reads decoder (encode item) item)
    (nonempty : ∀ item ∈ items, encode item ≠ []) :
    decoder.all (items.flatMap encode) = some items :=
  untilEnd_flatMap items reads nonempty _ (length_le_flatMap items nonempty)

/-! ## Stability -/

namespace Decoder

/-- What was decoded does not depend on what follows it. A decoder may therefore be run on
whatever has arrived so far. -/
def Stable (decoder : Decoder Byte α) : Prop :=
  ∀ ⦃input : List Byte⦄ ⦃value : α⦄ ⦃rest : List Byte⦄, decoder input = some (value, rest) →
    ∀ more, decoder (input ++ more) = some (value, rest ++ more)

namespace Stable

/-- `pure` does not look at the input. -/
theorem pure (value : α) : Stable (Pure.pure value : Decoder Byte α) := by
  intro input result rest decoded more
  obtain ⟨rfl, rfl⟩ := Prod.mk.inj (Option.some.inj decoded)
  rfl

/-- A decoder without a result is stable for want of one. -/
theorem failure : Stable (failure : Decoder Byte α) := nofun

/-- Stable decoders compose: the first leaves the second an input that has grown in the same way.
-/
theorem bind {first : Decoder Byte α} {next : α → Decoder Byte β} (begins : Stable first)
    (continues : ∀ value, Stable (next value)) : Stable (first >>= next) := by
  intro input result rest decoded more
  obtain ⟨⟨value, between⟩, begun, continued⟩ := Option.bind_eq_some_iff.mp decoded
  change (first (input ++ more)).bind (fun taken => next taken.1 taken.2) = _
  rw [begins begun more]
  exact continues value continued more

/-- A decoder whose value is only wrapped. -/
theorem bind_pure {first : Decoder Byte α} (begins : Stable first) (result : α → β) :
    Stable (first >>= fun value => Pure.pure (result value)) :=
  begins.bind (fun value => Stable.pure (result value))

/-- Bytes that were there are taken from the longer input as well. -/
theorem take (count : Nat) : Stable (Decoder.take count : Decoder Byte (List Byte)) := by
  intro input value rest decoded more
  unfold Decoder.take at decoded ⊢
  split at decoded
  · next enough =>
    obtain ⟨rfl, rfl⟩ := Prod.mk.inj (Option.some.inj decoded)
    have longer : count ≤ (input ++ more).length := by
      rw [List.length_append]
      omega
    rw [if_pos longer, List.take_append_of_le_length enough, List.drop_append_of_le_length enough]
  · cases decoded

/-- A condition does not depend on the input. -/
theorem require (condition : Prop) [Decidable condition] :
    Stable (Decoder.require condition : Decoder Byte Unit) := by
  intro input value rest decoded more
  unfold Decoder.require at decoded ⊢
  split at decoded
  · obtain ⟨-, rfl⟩ := Prod.mk.inj (Option.some.inj decoded)
    rw [if_pos ‹condition›]
  · cases decoded

/-- A stable decoder stays so under repetition, by induction on the count. -/
theorem repeated {decoder : Decoder Byte α} (stable : Stable decoder) (count : Nat) :
    Stable (decoder.repeated count) := by
  induction count with
  | zero => exact Stable.pure []
  | succ count inductionHypothesis =>
    exact stable.bind (fun item => inductionHypothesis.bind_pure (item :: ·))

end Stable

end Decoder

end Codec
