import Mathlib.Data.List.Basic
import OpenVnc.Codec.Decoding

/-!
# Streams of encodings

A stream is complete when it consists of encodings written one after another, and
unbroken when it can still be continued to a complete one. Where a decoder reads the
encodings, complete ones can be taken off the front: what follows them is unbroken or not
on its own account.
-/

namespace Codec

variable {M B : Type} {encode : M → List B} {earlier later : List B}

/-- The stream consists of complete encodings. No decoder is needed to say so. -/
def Complete (encode : M → List B) (stream : List B) : Prop :=
  ∃ messages : List M, stream = messages.flatMap encode

/-- The stream is a beginning of complete encodings. It may end within an encoding, or between
two. -/
def Unbroken (encode : M → List B) (stream : List B) : Prop :=
  ∃ messages : List M, stream <+: messages.flatMap encode

namespace Complete

/-- The empty stream is complete. -/
theorem nil : Complete encode [] := ⟨[], rfl⟩

/-- One encoding is a complete stream. -/
theorem single (message : M) : Complete encode (encode message) :=
  ⟨[message], (List.append_nil _).symm⟩

/-- Complete streams one after the other are complete. -/
theorem append (first : Complete encode earlier) (second : Complete encode later) :
    Complete encode (earlier ++ later) := by
  obtain ⟨before, rfl⟩ := first
  obtain ⟨after, rfl⟩ := second
  exact ⟨before ++ after, List.flatMap_append.symm⟩

/-- A complete stream is unbroken, as the beginning it is itself. Nothing has to be added to
continue it. -/
theorem unbroken (complete : Complete encode earlier) : Unbroken encode earlier := by
  obtain ⟨messages, rfl⟩ := complete
  exact ⟨messages, List.prefix_refl _⟩

/-- What can be continued still can be after complete encodings. The messages that complete it
come after those that are there. -/
theorem append_unbroken (first : Complete encode earlier) (second : Unbroken encode later) :
    Unbroken encode (earlier ++ later) := by
  obtain ⟨before, rfl⟩ := first
  obtain ⟨after, continued⟩ := second
  refine ⟨before ++ after, ?_⟩
  rw [List.flatMap_append]
  exact List.prefix_append_right_inj _ |>.mpr continued

end Complete

namespace Unbroken

/-- A beginning of one encoding. It is what a write leaves that stopped on the way. -/
theorem beginning {message : M} (begun : earlier <+: encode message) :
    Unbroken encode earlier := ⟨[message], by simpa using begun⟩

variable {V : Type} {decoder : Decoder B V} {value : M → V}

/-- The decoder reads off the front what was encoded there, so that the rest is made up of
the encodings of the other messages. -/
theorem tail (reads : ∀ message, Reads decoder (encode message) (value message))
    (nonempty : ∀ message, encode message ≠ []) {message : M}
    (unbroken : Unbroken encode (encode message ++ later)) : Unbroken encode later := by
  obtain ⟨messages, more, continued⟩ := unbroken
  rw [List.append_assoc] at continued
  cases messages with
  | nil => exact absurd (List.append_eq_nil_iff.mp continued).1 (nonempty message)
  | cons first messages =>
    rw [List.flatMap_cons] at continued
    have taken := reads message (later ++ more)
    rw [continued, reads first] at taken
    obtain ⟨-, rest⟩ := Prod.mk.inj (Option.some.inj taken)
    exact ⟨messages, more, rest.symm⟩

/-- Complete encodings do not help: what follows them has to be unbroken as well. So a broken
stream cannot be repaired by what was sent before it. -/
theorem after_complete (reads : ∀ message, Reads decoder (encode message) (value message))
    (nonempty : ∀ message, encode message ≠ []) (complete : Complete encode earlier)
    (unbroken : Unbroken encode (earlier ++ later)) : Unbroken encode later := by
  obtain ⟨messages, rfl⟩ := complete
  induction messages with
  | nil => exact unbroken
  | cons message messages inductionHypothesis =>
    rw [List.flatMap_cons, List.append_assoc] at unbroken
    exact inductionHypothesis (unbroken.tail reads nonempty)

end Unbroken

end Codec
