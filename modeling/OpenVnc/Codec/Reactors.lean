import OpenVnc.Codec.Decoding
import OpenVnc.Interaction.Networks

/-!
# Parties that decode and react

A party whose moves are those of a decoder: in each state it decodes one item, and that
determines its next state and what it sends. It moves as soon as the item is there.
-/

namespace Codec

open Interaction

variable {S B M : Type}

/-- The party with these decoders of its next state and output. It moves when its decoder has a
result, and the decoder's stability is what a party needs. -/
def Decoder.party (serve : S → Decoder B (S × List B)) (stable : ∀ state, (serve state).Stable) :
    Party S B where
  move state input := (serve state input).map fun ((next, output), rest) => (next, rest, output)
  stable := by
    intro state input next rest output moves more
    obtain ⟨⟨⟨next, output⟩, rest⟩, decoded, same⟩ := Option.map_eq_some_iff.mp moves
    cases same
    rw [stable state decoded more]
    rfl

variable {serve : S → Decoder B (S × List B)} {stable : ∀ state, (serve state).Stable}

/-- The party moves once what its decoder reads has arrived. What has arrived after that is left
on the channel. -/
theorem Reads.advances_with {state next : S} {bytes output : List B}
    (reads : Reads (serve state) bytes (next, output)) (rest : List B) :
    (Decoder.party serve stable).Advances state (bytes ++ rest) next rest output := by
  apply Party.Advances.single
  change (serve state (bytes ++ rest)).map _ = _
  rw [reads rest]
  rfl

/-- Nothing else has arrived. The channel is empty after the move. -/
theorem Reads.advances {state next : S} {bytes output : List B}
    (reads : Reads (serve state) bytes (next, output)) :
    (Decoder.party serve stable).Advances state bytes next [] output := by
  have moved := @reads.advances_with _ _ _ stable _ _ _ _ []
  rwa [List.append_nil] at moved

/-- Messages that are handled without an answer, one after another. The party has to be in a
state in which it serves messages, and to stay in one. -/
theorem advances_all {encode : M → List B} {handle : S → M → S} (serving : S → Prop)
    (kept : ∀ state message, serving state → serving (handle state message)) (messages : List M)
    (reads : ∀ state, serving state → ∀ message ∈ messages,
      Reads (serve state) (encode message) (handle state message, []))
    {state : S} (ready : serving state) :
    (Decoder.party serve stable).Advances state (messages.flatMap encode)
      (messages.foldl handle state) [] [] := by
  induction messages generalizing state with
  | nil => exact .refl state []
  | cons message messages inductionHypothesis =>
    rw [List.flatMap_cons]
    apply (reads state ready message List.mem_cons_self).advances_with _ |>.trans
    exact inductionHypothesis (fun state ready other member =>
      reads state ready other (List.mem_cons_of_mem _ member)) (kept state message ready)

end Codec
