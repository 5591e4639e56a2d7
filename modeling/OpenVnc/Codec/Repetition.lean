import Mathlib.Init

/-!
# Items encoded back to back

A list encoded item by item is the concatenation of the items' encodings. When all
of these have one length, the length of the whole and the place of each item follow.
-/

namespace Codec

variable {α Byte : Type}

/-- Items of one width take that width each. The width does not depend on the item. -/
theorem flatMap_length {encode : α → List Byte} {width : Nat}
    (fixed : ∀ item, (encode item).length = width) (items : List α) :
    (items.flatMap encode).length = items.length * width := by
  induction items with
  | nil => simp
  | cons item items inductionHypothesis =>
    rw [List.flatMap_cons, List.length_append, fixed, inductionHypothesis, List.length_cons,
      Nat.succ_mul, Nat.add_comm]

/-- Skipping one item of the width leaves the places of the others shifted by it. A field of an
item is thus found at the index times the width. -/
theorem drop_item {encode : α → List Byte} {width : Nat}
    (fixed : ∀ item, (encode item).length = width) (item : α) (rest : List Byte)
    (index offset : Nat) :
    (encode item ++ rest).drop ((index + 1) * width + offset) =
      rest.drop (index * width + offset) := by
  rw [← fixed item, show (index + 1) * (encode item).length + offset =
    (encode item).length + (index * (encode item).length + offset) by rw [Nat.succ_mul]; omega,
    List.drop_length_add_append]

/-- When all bytes of the width are an encoding, so are the bytes of several widths. The items
are read off from the front. -/
theorem exists_flatMap {encode : α → List Byte} {width : Nat}
    (onto : ∀ bytes, bytes.length = width → ∃ item, encode item = bytes) (count : Nat)
    (bytes : List Byte) (size : bytes.length = count * width) :
    ∃ items : List α, items.length = count ∧ items.flatMap encode = bytes := by
  induction count generalizing bytes with
  | zero => exact ⟨[], rfl, (List.eq_nil_of_length_eq_zero (by omega)).symm⟩
  | succ count inductionHypothesis =>
    have counted : (count + 1) * width = count * width + width := Nat.succ_mul count width
    obtain ⟨item, first⟩ := onto (bytes.take width) (List.length_take_of_le (by omega))
    obtain ⟨items, length, others⟩ := inductionHypothesis (bytes.drop width) (by
      rw [List.length_drop]
      omega)
    refine ⟨item :: items, congrArg Nat.succ length, ?_⟩
    rw [List.flatMap_cons, first, others, List.take_append_drop]

end Codec
