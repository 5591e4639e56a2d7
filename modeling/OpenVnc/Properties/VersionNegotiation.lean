import OpenVnc.Handshake
import OpenVnc.Feed

/-!
# The version greeting

The grammar of a greeting is given by its writer: two numbers of three decimal digits in a
fixed frame. What the protocol notes ask of a client follows from the two numbers.
`negotiate_version` looks at the frame and subtracts the character zero from the six other
characters without a test, and it takes every minor version from 8 on for 3.8. The greetings
that it answers as the notes ask are named exactly.
-/

namespace OpenVnc

open Interaction Interaction.Program

/-! ## Greetings -/

/-- A number of three decimal digits. -/
def threeDecimals (value : Nat) : List UInt8 :=
  [UInt8.ofNat (48 + value / 100 % 10), UInt8.ofNat (48 + value / 10 % 10),
    UInt8.ofNat (48 + value % 10)]

/-- "RFB ddd.ddd\n" for a major and a minor version. -/
def versionGreeting (major minor : Nat) : List UInt8 :=
  [82, 70, 66, 32] ++ threeDecimals major ++ [46] ++ threeDecimals minor ++ [10]

/-- The version for a minor version of 3: what is not known is 3.3. -/
def notedVersion (minor : Nat) : RfbVersion :=
  if minor = 8 then .v38 else if minor = 7 then .v37 else .v33

/-- How a greeting is to be answered: with a version, or with an error. -/
inductive ToBeAnswered (greeting : List UInt8) : Except Error RfbVersion → Prop where
  | agreed {minor : Nat} (digits : minor < 1000) (written : greeting = versionGreeting 3 minor) :
      ToBeAnswered greeting (.ok (notedVersion minor))
  | mismatched {major minor : Nat} (digits : major < 1000 ∧ minor < 1000) (other : major ≠ 3)
      (written : greeting = versionGreeting major minor) :
      ToBeAnswered greeting (.error .versionMismatch)
  | malformed (unwritten : ∀ major minor, major < 1000 → minor < 1000 →
      greeting ≠ versionGreeting major minor) :
      ToBeAnswered greeting (.error .protocol)

/-- Whatever the environment does, a client that receives the greeting answers it as it is to
be answered. An agreed version is recorded and its string is sent, and how this ends is how
the negotiation ends; after an error nothing has been sent and nothing has changed. -/
def Answered (greeting : List UInt8) : Prop :=
  ∃ verdict, ToBeAnswered greeting verdict ∧
    ∀ {W : Type} (handler : Handler Request Answer W) (world later : W) (memory : Memory)
      (transport : Transport), memory.client.transport = some transport →
      handler (.recv 12) world = (some (RecvAnswer.complete greeting), later) →
      negotiateVersion.run handler memory world =
        match verdict with
        | .ok version => (transportSend (versionString version)).run handler
            (memory.withConnInfo { memory.client.connInfo with rfbVersion := version }) later
        | .error error => (.failed error, memory, later)

/-- The frame of a greeting, which is what the source compares. -/
def Framed (greeting : List UInt8) : Prop :=
  greeting.take 4 = [82, 70, 66, 32] ∧ byteAt greeting 7 = 46 ∧ byteAt greeting 11 = 10

/-- The frame is missing, or the greeting is written with digits and names no minor version of
3 after the eighth. -/
def WithinNotes (greeting : List UInt8) : Prop :=
  Framed greeting → ∃ major minor, major < 1000 ∧ minor < 1000 ∧
    greeting = versionGreeting major minor ∧ (major = 3 → minor ≤ 8)

section Greetings

variable {major minor value : Nat}

/-- A greeting that is spelled out has the frame that the client looks for. -/
theorem versionGreeting_framed (major minor : Nat) : Framed (versionGreeting major minor) :=
  ⟨rfl, rfl, rfl⟩

/-- A decimal digit as a character, less the character zero. -/
theorem decimal_value (digit : Nat) :
    ((UInt8.ofNat (48 + digit % 10)).toNat : Int) - 48 = (digit % 10 : Nat) := by
  have small : digit % 10 < 10 := Nat.mod_lt digit (by decide)
  rw [UInt8.toNat_ofNat_of_lt' (show 48 + digit % 10 < 2 ^ 8 by omega)]
  omega

/-- The folded value of three digits is the number that was written. -/
theorem threeDecimals_value (bound : value < 1000) :
    ((UInt8.ofNat (48 + value / 100 % 10)).toNat - 48 : Int) * 100 +
      ((UInt8.ofNat (48 + value / 10 % 10)).toNat - 48 : Int) * 10 +
      ((UInt8.ofNat (48 + value % 10)).toNat - 48 : Int) = value := by
  rw [decimal_value, decimal_value, decimal_value]
  omega

/-- The digits of the major version are read as the number. -/
theorem versionGreeting_major (bound : major < 1000) :
    threeDigits (versionGreeting major minor) 4 = major := threeDecimals_value bound

/-- The digits of the minor version are read as the number. -/
theorem versionGreeting_minor (bound : minor < 1000) :
    threeDigits (versionGreeting major minor) 8 = minor := threeDecimals_value bound

end Greetings

/-! ## What the source does -/

section Received

variable {W : Type} {handler : Handler Request Answer W} {world later : W} {memory : Memory}
  {transport : Transport}

/-- A receive that the handler completes returns the bytes and moves the handler's world on. -/
theorem run_transportRecv_complete (attached : memory.client.transport = some transport)
    {len : Nat} {bytes : List UInt8}
    (received : handler (.recv len) world = (some (RecvAnswer.complete bytes), later)) :
    (transportRecv len).run handler memory world = (.returned bytes, memory, later) := by
  unfold transportRecv
  rw [bind_eq, run_sequence_returned _ (run_derefTransport attached _), bind_eq,
    run_ask_then _ _ _ received]
  rfl

/-- The version for a minor version in the source. -/
def chosenVersion (minor : Int) : RfbVersion :=
  if minor ≥ 8 then .v38 else if minor = 7 then .v37 else .v33

/-- A greeting in the frame is judged by the two folded numbers alone. -/
theorem run_negotiateVersion_framed (attached : memory.client.transport = some transport)
    {greeting : List UInt8} (framed : Framed greeting)
    (received : handler (.recv 12) world = (some (RecvAnswer.complete greeting), later)) :
    negotiateVersion.run handler memory world =
      if threeDigits greeting 4 ≠ 3 then (.failed .versionMismatch, memory, later)
      else (transportSend (versionString (chosenVersion (threeDigits greeting 8)))).run handler
        (memory.withConnInfo { memory.client.connInfo with
          rfbVersion := chosenVersion (threeDigits greeting 8) }) later := by
  obtain ⟨start, point, newline⟩ := framed
  unfold negotiateVersion
  rw [bind_eq, run_sequence_returned _ (run_transportRecv_complete attached received), bind_eq,
    run_failIf_then, if_neg (by simp [start, point, newline]), bind_eq, run_failIf_then]
  rfl

/-- A greeting without the frame is rejected. -/
theorem run_negotiateVersion_unframed (attached : memory.client.transport = some transport)
    {greeting : List UInt8} (unframed : ¬ Framed greeting)
    (received : handler (.recv 12) world = (some (RecvAnswer.complete greeting), later)) :
    negotiateVersion.run handler memory world = (.failed .protocol, memory, later) := by
  have rejected : greeting.take 4 ≠ [82, 70, 66, 32] ∨ byteAt greeting 7 ≠ 46 ∨
      byteAt greeting 11 ≠ 10 := by
    by_contra accepted
    simp only [not_or, Decidable.not_not] at accepted
    exact unframed accepted
  unfold negotiateVersion
  rw [bind_eq, run_sequence_returned _ (run_transportRecv_complete attached received), bind_eq,
    run_failIf_then, if_pos rejected]

end Received

/-- Up to the eighth minor version the source chooses as it is noted. -/
theorem chosenVersion_noted_iff (minor : Nat) :
    chosenVersion minor = notedVersion minor ↔ minor ≤ 8 := by
  unfold chosenVersion notedVersion
  constructor
  · intro same
    by_contra beyond
    rw [if_pos (by omega), if_neg (by omega), if_neg (by omega)] at same
    cases same
  · intro known
    rcases Nat.lt_trichotomy minor 7 with older | seventh | newer
    · rw [if_neg (by omega), if_neg (by omega), if_neg (by omega), if_neg (by omega)]
    · subst seventh
      rfl
    · obtain rfl : minor = 8 := by omega
      rfl

/-! ## Where the two agree -/

/-- A client whose transport has just been connected. -/
def awaiting : Memory := ⟨{ plainClient {} with transport := some ⟨3⟩ }, 0, 0⟩

/-- What such a client does on a host whose first bytes are the greeting. -/
def greeted (greeting : List UInt8) : Outcome Error Fault Unit × Memory × Feed :=
  negotiateVersion.run plainHost.feed awaiting { unread := greeting ++ [] }

/-- A greeting in the frame is never rejected as malformed, and if its major version is 3 it
is answered with the version that the source chooses. -/
theorem greeted_framed {greeting : List UInt8} (size : greeting.length = 12)
    (framed : Framed greeting) :
    (greeted greeting).1 ≠ .failed .protocol ∧
      (threeDigits greeting 4 = 3 → (greeted greeting).1 = .returned () ∧
        (greeted greeting).2.1.client.connInfo.rfbVersion =
          chosenVersion (threeDigits greeting 8)) := by
  have received := plainHost.feed_recv greeting [] [] [] 0
  rw [size] at received
  rw [greeted, run_negotiateVersion_framed rfl framed received]
  by_cases third : threeDigits greeting 4 = 3
  · rw [if_neg (not_not.mpr third), run_transportSend plainHost rfl]
    exact ⟨nofun, fun _ => ⟨rfl, rfl⟩⟩
  · rw [if_pos third]
    exact ⟨nofun, fun same => absurd same third⟩

/-- The source answers a greeting as it is to be answered exactly when the greeting is not in
the frame, or is written with digits and names no minor version of 3 after the eighth. -/
theorem negotiateVersion_answers_iff {greeting : List UInt8} (size : greeting.length = 12) :
    Answered greeting ↔ WithinNotes greeting := by
  constructor
  · rintro ⟨verdict, toBe, answered⟩ framed
    have received := plainHost.feed_recv greeting [] [] [] 0
    rw [size] at received
    have ran := answered plainHost.feed _ _ awaiting ⟨3⟩ rfl received
    obtain ⟨unrejected, chosen⟩ := greeted_framed size framed
    cases toBe with
    | @agreed minor digits written =>
      refine ⟨3, minor, by decide, digits, written, fun _ => ?_⟩
      have major : threeDigits greeting 4 = 3 := by
        rw [written]
        exact versionGreeting_major (by decide)
      have recorded := (chosen major).2
      rw [written, versionGreeting_minor digits, ← written] at recorded
      rw [← chosenVersion_noted_iff, ← recorded, greeted, ran]
      dsimp only
      rw [run_transportSend plainHost rfl]
      rfl
    | mismatched digits other written =>
      exact ⟨_, _, digits.1, digits.2, written, fun same => absurd same other⟩
    | malformed => exact absurd (congrArg Prod.fst ran) unrejected
  · intro within
    by_cases framed : Framed greeting
    · obtain ⟨major, minor, majorDigits, minorDigits, rfl, known⟩ := within framed
      by_cases third : major = 3
      · subst third
        refine ⟨_, .agreed minorDigits rfl, fun handler world later memory transport attached
          received => ?_⟩
        rw [run_negotiateVersion_framed attached framed received, versionGreeting_major majorDigits,
          versionGreeting_minor minorDigits, (chosenVersion_noted_iff minor).mpr (known rfl),
          if_neg (by decide)]
      · refine ⟨_, .mismatched ⟨majorDigits, minorDigits⟩ third rfl, fun handler world later memory
          transport attached received => ?_⟩
        rw [run_negotiateVersion_framed attached framed received, versionGreeting_major majorDigits,
          if_pos (by omega)]
    · refine ⟨_, .malformed ?_, fun handler world later memory transport attached received =>
        run_negotiateVersion_unframed attached framed received⟩
      rintro major minor - - rfl
      exact framed (versionGreeting_framed major minor)

/-- A server of version 3.5 is answered with 3.3. -/
theorem negotiateVersion_answers_fifth :
    (versionGreeting 3 5).length = 12 ∧ Answered (versionGreeting 3 5) :=
  ⟨rfl, (negotiateVersion_answers_iff rfl).mpr
    (fun _ => ⟨3, 5, by decide, by decide, rfl, fun _ => by decide⟩)⟩

/-- A server of version 3.14, which is to be answered with 3.3, is answered with 3.8. -/
theorem negotiateVersion_misanswers :
    ¬ ∀ greeting : List UInt8, greeting.length = 12 → Answered greeting := by
  intro all
  obtain ⟨verdict, toBe, answered⟩ := all (versionGreeting 3 14) rfl
  have received := plainHost.feed_recv (versionGreeting 3 14) [] [] [] 0
  have ran := answered plainHost.feed _ _ awaiting ⟨3⟩ rfl received
  have eighth : (greeted (versionGreeting 3 14)).1 = .returned () ∧
      (greeted (versionGreeting 3 14)).2.1.client.connInfo.rfbVersion = .v38 := by decide
  rw [greeted, ran] at eighth
  cases toBe with
  | @agreed minor digits written =>
    have folded : threeDigits (versionGreeting 3 14) 8 = 14 := by decide
    rw [written, versionGreeting_minor digits] at folded
    obtain rfl : minor = 14 := by omega
    exact absurd eighth (by decide)
  | mismatched => exact absurd eighth.1 nofun
  | malformed => exact absurd eighth.1 nofun

end OpenVnc
