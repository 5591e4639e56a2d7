import OpenVnc.HandshakePeers
import OpenVnc.Properties.SecurityGate
import OpenVnc.Properties.VersionNegotiation
import OpenVnc.Properties.Acceptance
import Mathlib.Data.List.GetD
import Mathlib.Data.List.TakeDrop

/-!
# Greetings

The server's part of a handshake, as the client takes it: a version message, security
messages that offer the type None, the SecurityResult of version 3.8, and a ServerInit. Each
message is given by its encoding with any padding. Bytes that begin with no such greeting are
refused, for the reason of the first message that is cut short or not the right one. Every
list of bytes is one or the other.
-/

namespace OpenVnc

open Interaction Interaction.Program

/-! ## The messages of a greeting -/

/-- Twelve bytes that the client takes for a version: the frame around characters that fold
to three and to a minor version. -/
structure SpellsVersion (version : RfbVersion) (bytes : List UInt8) : Prop where
  size : bytes.length = 12
  framed : Framed bytes
  third : threeDigits bytes 4 = 3
  chosen : chosenVersion (threeDigits bytes 8) = version

/-- The security messages that offer None: the choice of the server in version 3.3, a list
that contains it after that. -/
inductive OffersNone : RfbVersion → List UInt8 → Prop where
  | decided : OffersNone .v33 (writeU32 1)
  | listed {version : RfbVersion} {types : List UInt8} (later : version ≠ .v33)
      (count : types.length ≤ 255) (contained : 1 ∈ types) :
      OffersNone version ([UInt8.ofNat types.length] ++ types)

/-- What a ServerInit says. -/
structure ServerInit where
  width : UInt16
  height : UInt16
  format : PixelFormat
  name : Counted (2 ^ 32) UInt8

/-- The bytes encode the ServerInit, whatever the padding of its format holds. -/
inductive ServerInit.Encodes (init : ServerInit) : List UInt8 → Prop where
  | encoded {padding : List UInt8} (size : padding.length = 3) :
      Encodes init (writeU16 init.width ++ writeU16 init.height ++
        (Grammar.formatFields init.format ++ padding) ++
        writeU32 (UInt32.ofNat init.name.val.length) ++ init.name.val)

/-- The bytes are a greeting of the version that ends with the ServerInit. -/
inductive Greets (version : RfbVersion) (init : ServerInit) : List UInt8 → Prop where
  | greets {spelled offer bytes : List UInt8} (spells : SpellsVersion version spelled)
      (offers : OffersNone version offer) (encodes : init.Encodes bytes) :
      Greets version init (spelled ++ (offer ++ (Offer.securityResult version ++ bytes)))

/-- What the ServerInit of a conforming server says. -/
def Offer.init (offer : Offer) : ServerInit :=
  ⟨offer.width, offer.height, offer.format, ⟨offer.name, offer.nameFits⟩⟩

/-- All that a conforming server sends up to the end of its ServerInit. -/
def Offer.greeting (offer : Offer) : List UInt8 :=
  versionString offer.version ++ (offer.securityTypes offer.version ++
    (Offer.securityResult offer.version ++ offer.serverInit))

/-- A conforming server greets the client. -/
theorem Offer.greets (offer : Offer) : Greets offer.version offer.init offer.greeting := by
  have known := offer.known
  refine .greets ?_ ?_ ?_
  · cases version : offer.version with
    | unset => exact absurd version known
    | v33 | v37 | v38 => exact ⟨rfl, ⟨rfl, rfl, rfl⟩, rfl, rfl⟩
  · cases version : offer.version with
    | unset => exact absurd version known
    | v33 => exact .decided
    | v37 | v38 => exact .listed (by decide) offer.count offer.offersNone
  · have encoded := @ServerInit.Encodes.encoded offer.init [0, 0, 0] rfl
    simp only [List.append_assoc] at encoded
    simp only [Offer.serverInit, Offer.serverInitHeader, List.append_assoc]
    exact encoded

/-! ## Refusals

Each is given by the bytes that are refused and the error that is returned; `ends` is the
error of a receive at the end of the stream. -/

/-- The error of a refusal for which the server gives a reason: only the length of the
reason matters. -/
def reasonError (ends : Error) (input : List UInt8) : Error :=
  if input.length < 4 then ends else .connectionRefused

/-- Bytes that are not followed any further where a version is expected. -/
inductive RefusesVersion (ends : Error) : List UInt8 → Error → Prop where
  | cut {input : List UInt8} (short : input.length < 12) : RefusesVersion ends input ends
  | unframed {greeting rest : List UInt8} (size : greeting.length = 12)
      (unframed : ¬ Framed greeting) : RefusesVersion ends (greeting ++ rest) .protocol
  | mismatched {greeting rest : List UInt8} (size : greeting.length = 12) (framed : Framed greeting)
      (other : threeDigits greeting 4 ≠ 3) :
      RefusesVersion ends (greeting ++ rest) .versionMismatch

/-- Bytes that are not followed any further where security messages are expected. -/
inductive RefusesSecurity (ends : Error) : RfbVersion → List UInt8 → Error → Prop where
  | undecided {input : List UInt8} (short : input.length < 4) :
      RefusesSecurity ends .v33 input ends
  | rejected {rest : List UInt8} :
      RefusesSecurity ends .v33 (writeU32 0 ++ rest) (reasonError ends rest)
  | decidedOther {secType : UInt32} {rest : List UInt8} (other : secType ≠ 0 ∧ secType ≠ 1) :
      RefusesSecurity ends .v33 (writeU32 secType ++ rest) .authUnsupported
  | uncounted {version : RfbVersion} (later : version ≠ .v33) :
      RefusesSecurity ends version [] ends
  | empty {version : RfbVersion} {rest : List UInt8} (later : version ≠ .v33) :
      RefusesSecurity ends version ([0] ++ rest) (reasonError ends rest)
  | unlisted {version : RfbVersion} {count : UInt8} {input : List UInt8} (later : version ≠ .v33)
      (short : input.length < count.toNat) : RefusesSecurity ends version ([count] ++ input) ends
  | listedOthers {version : RfbVersion} {count : UInt8} {types rest : List UInt8}
      (later : version ≠ .v33) (some : count ≠ 0) (listed : types.length = count.toNat)
      (missing : 1 ∉ types) :
      RefusesSecurity ends version ([count] ++ (types ++ rest)) .authUnsupported

/-- Bytes that are not followed any further where a SecurityResult is expected. -/
inductive RefusesResult (ends : Error) : RfbVersion → List UInt8 → Error → Prop where
  | unknown {input : List UInt8} (short : input.length < 4) : RefusesResult ends .v38 input ends
  | failed {result : UInt32} {rest : List UInt8} (nonzero : result ≠ 0) :
      RefusesResult ends .v38 (writeU32 result ++ rest) .authFailed

/-- Bytes that are not followed any further where a ServerInit is expected: the beginning of
one, or one whose pixels the client cannot store in any format. -/
inductive RefusesInit (ends : Error) (configured : Option PixelFormat) :
    List UInt8 → Error → Prop where
  | cut {init : ServerInit} {input more : List UInt8} (encodes : init.Encodes (input ++ more))
      (missing : more ≠ []) : RefusesInit ends configured input ends
  | unsupported {init : ServerInit} {bytes rest : List UInt8} (encodes : init.Encodes bytes)
      (other : ¬ (configured.getD init.format).Supported) :
      RefusesInit ends configured (bytes ++ rest) .protocol

/-- Bytes that begin with no greeting for a client of this configuration, what the client has
answered by then, and its error. -/
inductive Refuses (ends : Error) (configured : Option PixelFormat) (shared : UInt8) :
    List UInt8 → List UInt8 → Error → Prop where
  | version {input : List UInt8} {reason : Error} (refuses : RefusesVersion ends input reason) :
      Refuses ends configured shared input [] reason
  | security {version : RfbVersion} {spelled input : List UInt8} {reason : Error}
      (spells : SpellsVersion version spelled)
      (refuses : RefusesSecurity ends version input reason) :
      Refuses ends configured shared (spelled ++ input) (versionString version) reason
  | result {version : RfbVersion} {spelled offer input : List UInt8} {reason : Error}
      (spells : SpellsVersion version spelled) (offers : OffersNone version offer)
      (refuses : RefusesResult ends version input reason) :
      Refuses ends configured shared (spelled ++ (offer ++ input)) (opening version).flatten reason
  | init {version : RfbVersion} {spelled offer input : List UInt8} {reason : Error}
      (spells : SpellsVersion version spelled) (offers : OffersNone version offer)
      (refuses : RefusesInit ends configured input reason) :
      Refuses ends configured shared (spelled ++ (offer ++ (Offer.securityResult version ++ input)))
        ((opening version).flatten ++ [shared]) reason

/-- The bytes begin with a greeting whose pixels the client can store in the format it has
configured, or else in the server's. -/
structure Accepts (configured : Option PixelFormat) (input : List UInt8) (version : RfbVersion)
    (init : ServerInit) (rest : List UInt8) : Prop where
  split : ∃ bytes, Greets version init bytes ∧ input = bytes ++ rest
  supported : (configured.getD init.format).Supported

/-! ## Every list of bytes is judged -/

section Judging

variable (ends : Error)

/-- Four bytes are a number. -/
theorem exists_number {input : List UInt8} (enough : 4 ≤ input.length) :
    ∃ (number : UInt32) (rest : List UInt8), input = writeU32 number ++ rest :=
  ⟨readU32 input, input.drop 4, by rw [writeU32_readU32_take enough, List.take_append_drop]⟩

/-- Every input begins with a version the client knows or is refused for a reason. -/
theorem version_judged (input : List UInt8) :
    (∃ version spelled rest, SpellsVersion version spelled ∧ input = spelled ++ rest) ∨
      ∃ reason, RefusesVersion ends input reason := by
  by_cases enough : 12 ≤ input.length
  case neg => exact .inr ⟨_, .cut (Nat.not_le.mp enough)⟩
  obtain ⟨greeting, rest, rfl, size⟩ := exists_front enough
  by_cases framed : Framed greeting
  case neg => exact .inr ⟨_, .unframed size framed⟩
  by_cases third : threeDigits greeting 4 = 3
  case neg => exact .inr ⟨_, .mismatched size framed third⟩
  exact .inl ⟨_, greeting, rest, ⟨size, framed, third, rfl⟩, rfl⟩

/-- Every input begins with an offer of no authentication or is refused for a reason. -/
theorem security_judged (version : RfbVersion) (input : List UInt8) :
    (∃ offer rest, OffersNone version offer ∧ input = offer ++ rest) ∨
      ∃ reason, RefusesSecurity ends version input reason := by
  by_cases third : version = .v33
  · subst third
    by_cases enough : 4 ≤ input.length
    · obtain ⟨secType, rest, rfl⟩ := exists_number enough
      by_cases none : secType = 1
      · exact .inl ⟨_, rest, .decided, by rw [none]⟩
      by_cases rejected : secType = 0
      · subst rejected
        exact .inr ⟨_, .rejected⟩
      · exact .inr ⟨_, .decidedOther ⟨rejected, none⟩⟩
    · exact .inr ⟨_, .undecided (Nat.not_le.mp enough)⟩
  · cases input with
    | nil => exact .inr ⟨_, .uncounted third⟩
    | cons count input =>
      by_cases empty : count = 0
      · subst empty
        exact .inr ⟨_, .empty third⟩
      by_cases enough : count.toNat ≤ input.length
      · obtain ⟨types, rest, rfl, listed⟩ := exists_front enough
        by_cases contained : 1 ∈ types
        · have fits : types.length ≤ 255 := by
            have := UInt8.toNat_lt count
            omega
          refine .inl ⟨_, rest, .listed third fits contained, ?_⟩
          rw [listed, UInt8.ofNat_toNat]
          rfl
        · exact .inr ⟨_, .listedOthers third empty listed contained⟩
      · exact .inr ⟨_, .unlisted third (Nat.not_le.mp enough)⟩

/-- Every input begins with the security result of a success or is refused for a reason. -/
theorem result_judged (version : RfbVersion) (input : List UInt8) :
    (∃ rest, input = Offer.securityResult version ++ rest) ∨
      ∃ reason, RefusesResult ends version input reason := by
  cases version with
  | v38 =>
    by_cases enough : 4 ≤ input.length
    · obtain ⟨result, rest, rfl⟩ := exists_number enough
      by_cases accepted : result = 0
      · exact .inl ⟨rest, by rw [accepted]; rfl⟩
      · exact .inr ⟨_, .failed accepted⟩
    · exact .inr ⟨_, .unknown (Nat.not_le.mp enough)⟩
  | unset | v33 | v37 => exact .inl ⟨input, rfl⟩

/-- Sixteen bytes are a format and its padding. -/
theorem exists_format {bytes : List UInt8} (size : bytes.length = 16) :
    ∃ format padding, padding.length = 3 ∧ bytes = Grammar.formatFields format ++ padding := by
  have one (index : Nat) (inside : index < 16) :
      [byteAt bytes index] = (bytes.drop index).take 1 := by
    have within : index < bytes.length := by omega
    rw [byteAt, List.getD_eq_getElem _ _ within, List.take_one_drop_eq_of_lt_length within]
    rfl
  have two (index : Nat) (inside : index + 2 ≤ 16) :
      writeU16 (readU16 (bytes.drop index)) = (bytes.drop index).take 2 :=
    writeU16_readU16_take (by rw [List.length_drop]; omega)
  have fields : Grammar.formatFields (PixelFormat.fromWire bytes) = bytes.take 13 := by
    change [byteAt bytes 0] ++ [byteAt bytes 1] ++ [byteAt bytes 2] ++ [byteAt bytes 3] ++
      writeU16 (readU16 (bytes.drop 4)) ++ writeU16 (readU16 (bytes.drop 6)) ++
      writeU16 (readU16 (bytes.drop 8)) ++
      ([byteAt bytes 10] ++ [byteAt bytes 11] ++ [byteAt bytes 12]) = _
    rw [one 0 (by decide), one 1 (by decide), one 2 (by decide), one 3 (by decide),
      two 4 (by decide), two 6 (by decide), two 8 (by decide), one 10 (by decide),
      one 11 (by decide), one 12 (by decide), List.drop_zero]
    simp only [← List.append_assoc, ← List.take_add, Nat.reduceAdd]
  refine ⟨PixelFormat.fromWire bytes, bytes.drop 13, by rw [List.length_drop]; omega, ?_⟩
  rw [fields, List.take_append_drop]

/-- Twenty-four bytes are the fixed part of a ServerInit, whatever they are. -/
theorem exists_header {header : List UInt8} (size : header.length = 24) :
    ∃ nameLength : UInt32, ∀ name : List UInt8, name.length = nameLength.toNat →
      ∃ init : ServerInit, init.Encodes (header ++ name) := by
  obtain ⟨format, padding, padded, spelled⟩ := @exists_format ((header.drop 4).take 16)
    (by rw [List.length_take, List.length_drop]; omega)
  have fields : writeU16 (readU16 header) ++ writeU16 (readU16 (header.drop 2)) ++
      (Grammar.formatFields format ++ padding) ++ writeU32 (readU32 (header.drop 20)) =
        header := by
    rw [← spelled, writeU16_readU16_take (by omega),
      writeU16_readU16_take (by rw [List.length_drop]; omega),
      writeU32_readU32_take (by rw [List.length_drop]; omega), ← List.take_add, ← List.take_add,
      ← List.take_add, List.take_of_length_le (by omega)]
  refine ⟨readU32 (header.drop 20), fun name length => ?_⟩
  have bounded : name.length < 2 ^ 32 := by
    rw [length]
    exact UInt32.toNat_lt _
  have encoded := @ServerInit.Encodes.encoded
    ⟨readU16 header, readU16 (header.drop 2), format, ⟨name, bounded⟩⟩ padding padded
  rw [length, UInt32.ofNat_toNat, fields] at encoded
  exact ⟨_, encoded⟩

/-- Bytes that are enough begin with a ServerInit, others are the beginning of one. -/
theorem init_spelled (input : List UInt8) :
    (∃ (init : ServerInit) (bytes rest : List UInt8), init.Encodes bytes ∧ input = bytes ++ rest) ∨
      ∃ (init : ServerInit) (more : List UInt8), init.Encodes (input ++ more) ∧ more ≠ [] := by
  by_cases enough : 24 ≤ input.length
  · obtain ⟨header, others, rfl, size⟩ := exists_front enough
    obtain ⟨nameLength, named⟩ := exists_header size
    by_cases complete : nameLength.toNat ≤ others.length
    · obtain ⟨name, rest, rfl, length⟩ := exists_front complete
      obtain ⟨init, encodes⟩ := named name length
      exact .inl ⟨init, _, rest, encodes, (List.append_assoc ..).symm⟩
    · -- The name goes on.
      obtain ⟨init, encodes⟩ := named
        (others ++ List.replicate (nameLength.toNat - others.length) 0)
        (by rw [List.length_append, List.length_replicate]; omega)
      rw [← List.append_assoc] at encodes
      refine .inr ⟨init, _, encodes, ?_⟩
      rw [← List.length_pos_iff, List.length_replicate]
      omega
  · obtain ⟨nameLength, named⟩ := @exists_header (input ++ List.replicate (24 - input.length) 0)
      (by rw [List.length_append, List.length_replicate]; omega)
    obtain ⟨init, encodes⟩ := named (List.replicate nameLength.toNat 0) List.length_replicate
    rw [List.append_assoc] at encodes
    refine .inr ⟨init, _, encodes, ?_⟩
    rw [← List.length_pos_iff, List.length_append, List.length_replicate]
    omega

/-- Every input begins with a ServerInit in a format that the client supports or is refused for a
reason. A format configured takes the place of the one announced. -/
theorem init_judged (configured : Option PixelFormat) (input : List UInt8) :
    (∃ (init : ServerInit) (bytes rest : List UInt8), init.Encodes bytes ∧ input = bytes ++ rest ∧
      (configured.getD init.format).Supported) ∨
      ∃ reason, RefusesInit ends configured input reason := by
  rcases init_spelled input with ⟨init, bytes, rest, encodes, rfl⟩ | ⟨init, more, encodes, missing⟩
  · by_cases supported : (configured.getD init.format).Supported
    · exact .inl ⟨init, bytes, rest, encodes, rfl, supported⟩
    · exact .inr ⟨_, .unsupported encodes supported⟩
  · exact .inr ⟨_, .cut encodes missing⟩

/-- Whatever the bytes are, they begin with a greeting for the client or are refused. -/
theorem greeting_judged (configured : Option PixelFormat) (shared : UInt8) (input : List UInt8) :
    (∃ version init rest, Accepts configured input version init rest) ∨
      ∃ replies reason, Refuses ends configured shared input replies reason := by
  rcases version_judged ends input with ⟨version, spelled, others, spells, rfl⟩ | ⟨reason, refuses⟩
  case inr => exact .inr ⟨_, _, .version refuses⟩
  rcases security_judged ends version others with ⟨offer, others, offers, rfl⟩ | ⟨reason, refuses⟩
  case inr => exact .inr ⟨_, _, .security spells refuses⟩
  rcases result_judged ends version others with ⟨others, rfl⟩ | ⟨reason, refuses⟩
  case inr => exact .inr ⟨_, _, .result spells offers refuses⟩
  rcases init_judged ends configured others with
    ⟨init, bytes, rest, encodes, rfl, supported⟩ | ⟨reason, refuses⟩
  case inr => exact .inr ⟨_, _, .init spells offers refuses⟩
  refine .inl ⟨version, init, rest, ⟨_, .greets spells offers encodes, ?_⟩, supported⟩
  simp only [List.append_assoc]

end Judging

end OpenVnc
