import OpenVnc.Calls
import OpenVnc.Feed
import OpenVnc.Transfers

/-!
# The security handshake as a gate

Which exchanges with a server lead to ClientInit. Everything the client has sent and
received is read off the events of a connection attempt; `Admitted` lists the exchanges
of the three versions that end the security handshake with success. Whatever the server
sends and wherever the connection breaks, ClientInit comes after one of them, and an
attempt that does not get so far fails.
-/

namespace OpenVnc

open Interaction Interaction.Program

/-! ## Admitted exchanges -/

/-- What the client sends to choose a security type: nothing in version 3.3. -/
def selection : RfbVersion → List (List UInt8)
  | .v33 | .unset => []
  | .v37 | .v38 => [[1]]

/-- What the client sends before ClientInit. -/
def opening (version : RfbVersion) : List (List UInt8) :=
  versionString version :: selection version

/-- The exchanges after which a connection may be initialized. The greeting is any. -/
inductive Admitted : RfbVersion → List Transfer → Prop where
  | v33 (greeting : List UInt8) :
      Admitted .v33 [.received greeting, .sent (versionString .v33), .received (writeU32 1)]
  | v37 (greeting : List UInt8) (count : UInt8) (types : List UInt8) (offers : count ≠ 0)
      (complete : types.length = count.toNat) (none : 1 ∈ types) :
      Admitted .v37 [.received greeting, .sent (versionString .v37), .received [count],
        .received types, .sent [1]]
  | v38 (greeting : List UInt8) (count : UInt8) (types : List UInt8) (offers : count ≠ 0)
      (complete : types.length = count.toNat) (none : 1 ∈ types) :
      Admitted .v38 [.received greeting, .sent (versionString .v38), .received [count],
        .received types, .sent [1], .received [0, 0, 0, 0]]

/-- The client has begun to send ClientInit: it has handed over what a version's security
handshake sends, and after that the shared flag. -/
def SentClientInit (version : RfbVersion) (shared : UInt8) (events : List Step) : Prop :=
  opening version ++ [[shared]] <+: attempts events

/-- An admitted exchange sends exactly what the handshake of its version does. -/
theorem Admitted.attempts {version : RfbVersion} {gate : List Transfer}
    (admitted : Admitted version gate) :
    gate.filterMap Transfer.attempt = opening version := by
  cases admitted <;> rfl

/-- All that is handed over within an admitted exchange is sent: the opening of its version. -/
theorem Admitted.written {version : RfbVersion} {gate : List Transfer}
    (admitted : Admitted version gate) :
    gate.flatMap Transfer.written = (opening version).flatten := by
  cases admitted <;> rfl

/-- The three versions announce themselves differently. -/
theorem opening_inj {left right : RfbVersion} {leftRest rightRest : List (List UInt8)}
    (known : left ≠ .unset) (known' : right ≠ .unset)
    (same : opening left ++ leftRest = opening right ++ rightRest) : left = right := by
  have heads := congrArg List.head? same
  cases left <;> cases right <;> simp [opening, versionString] at heads known known' ⊢

/-! ## The steps of the security handshake -/

section Steps

variable {memory : Memory}

/-- A part of the handshake: the exchanges it may stop after, and the exchange and the
memory it returns with. It does not fault. -/
abbrev Negotiates {α : Type} (stopped : List Transfer → Prop) (routine : Routine α)
    (memory : Memory) (passed : α → List Transfer → Memory → Prop) : Prop :=
  Transfers (fun _ => False) (fun _ => stopped) routine memory passed

/-- The exchanges in which the client has not got beyond the opening of a version. -/
def Opens (exchange : List Transfer) : Prop :=
  ∃ version, version ≠ .unset ∧ exchange.filterMap Transfer.attempt <+: opening version

/-- `negotiate_version` receives the server's greeting and sends the version it has chosen, which
it also records. -/
theorem negotiateVersion_negotiates (attached : memory.client.transport ≠ none) :
    Negotiates Opens negotiateVersion memory (fun _ exchange final =>
      ∃ version greeting, version ≠ .unset ∧
        exchange = [.received greeting, .sent (versionString version)] ∧
        final.client.connInfo.rfbVersion = version ∧ final.standing = memory.standing) := by
  have silent : ∃ version, version ≠ RfbVersion.unset ∧ [] <+: opening version :=
    ⟨.v33, by decide, List.nil_prefix⟩
  apply Proceeds.sequence (transportRecv_transfers attached silent (fun _ _ => silent))
  rintro buf exchange middle ⟨-, rfl, rfl⟩
  apply Proceeds.failIf (fun _ => silent)
  intro _
  apply Proceeds.failIf (fun _ => silent)
  intro _
  apply Proceeds.update_then
  -- Whatever the minor version is, one of the three is recorded and announced.
  generalize chosen : (if threeDigits buf 8 ≥ 8 then RfbVersion.v38
    else if threeDigits buf 8 = 7 then RfbVersion.v37 else RfbVersion.v33) = version
  have known : version ≠ .unset := by
    subst chosen
    split_ifs <;> decide
  refine Proceeds.returning (transportSend_transfers ?_ silent
    (fun _ written _ => ⟨version, known, ?_⟩)) ?_
  · exact attached
  · exact ⟨selection version, rfl⟩
  · rintro ⟨⟩ exchange final ⟨rfl, rfl⟩
    exact ⟨version, buf, known, rfl, rfl, rfl⟩

/-- A receive whose result is only looked at. -/
theorem attempt_transportRecv_negotiates (attached : memory.client.transport ≠ none) {len : Nat}
    {stopped : List Transfer → Prop} (silent : stopped []) :
    Negotiates stopped (attempt (transportRecv len)) memory (fun _ exchange final =>
      exchange.filterMap Transfer.attempt = [] ∧ final = memory) := by
  refine (wp_attempt _ _ memory).mpr ((wp_transportRecv memory len _).mpr
    ⟨fun detached => absurd detached attached, fun _ _ => ⟨silent, ?_, ?_⟩⟩)
  · exact fun bytes _ => ⟨rfl, rfl⟩
  · exact fun received error _ => ⟨rfl, rfl⟩

/-- The reason of a refusal is read without sending anything. -/
theorem readFailureReason_negotiates (attached : memory.client.transport ≠ none)
    {stopped : List Transfer → Prop}
    (silent : ∀ exchange, exchange.filterMap Transfer.attempt = [] → stopped exchange) :
    Negotiates stopped readFailureReason memory (fun _ exchange _ =>
      exchange.filterMap Transfer.attempt = []) := by
  apply Proceeds.sequence (attempt_transportRecv_negotiates attached (silent _ rfl))
  rintro (error | lenBuf) exchange middle ⟨unsent, rfl⟩
  · exact Proceeds.done (by rw [List.append_nil]; exact unsent)
  · have quiet {later : List Transfer} (none : later.filterMap Transfer.attempt = []) :
        (exchange ++ later).filterMap Transfer.attempt = [] := by
      rw [List.filterMap_append, unsent, none, List.append_nil]
    have skipped : Negotiates (fun later => stopped (exchange ++ later))
        (onlyIf (0 < readU32 lenBuf) (do
          let tmp : Bool ← ask (Request.malloc (readU32 lenBuf).toNat)
          onlyIf tmp (do
            let _ ← attempt (transportRecv (readU32 lenBuf).toNat)
            return ()))) middle
        (fun _ later _ => later.filterMap Transfer.attempt = []) := by
      refine Proceeds.onlyIf (fun _ => ?_) (fun _ => rfl)
      apply Proceeds.ask (fun _ => rfl) (silent _ (quiet rfl))
      intro tmp _
      refine Proceeds.onlyIf (fun _ => ?_) (fun _ => rfl)
      refine Proceeds.sequence (attempt_transportRecv_negotiates attached (silent _ (quiet rfl))) ?_
      rintro reason later final ⟨none, -⟩
      exact Proceeds.done (by rw [List.append_nil]; exact none)
    apply Proceeds.sequence skipped
    intro _ later final none
    apply Proceeds.done
    rw [List.append_nil]
    exact quiet none

/-- The selection of a security type with success. -/
inductive Selected : RfbVersion → List Transfer → Prop where
  | offered : Selected .v33 [.received (writeU32 1)]
  | listed {version : RfbVersion} {count : UInt8} {types : List UInt8} (lists : version ≠ .v33)
      (offers : count ≠ 0) (complete : types.length = count.toNat) (none : 1 ∈ types) :
      Selected version [.received [count], .received types, .sent [1]]

/-- `negotiate_security` returns only after the type None was chosen, by the server in version 3.3
and by the client after that. -/
theorem negotiateSecurity_negotiates (attached : memory.client.transport ≠ none)
    {version : RfbVersion} (known : version ≠ .unset)
    (agreed : memory.client.connInfo.rfbVersion = version) :
    Negotiates (fun exchange => exchange.filterMap Transfer.attempt <+: selection version)
      negotiateSecurity memory (fun _ exchange final => Selected version exchange ∧
        final.client.connInfo.rfbVersion = version ∧
        final.client.connInfo.securityType = .none ∧ final.standing = memory.standing) := by
  have silent {exchange : List Transfer} (none : exchange.filterMap Transfer.attempt = []) :
      exchange.filterMap Transfer.attempt <+: selection version := by
    rw [none]
    exact List.nil_prefix
  refine Proceeds.load (Proceeds.ite (fun v33 => ?_) (fun later => ?_))
  · obtain rfl : version = .v33 := agreed.symm.trans v33
    refine Proceeds.sequence (transportRecv_transfers attached (silent rfl)
      (fun _ _ => silent rfl)) ?_
    rintro buf exchange middle ⟨size, rfl, rfl⟩
    apply Proceeds.ite
    · intro refused
      refine Proceeds.sequence (readFailureReason_negotiates attached (fun exchange none => ?_)) ?_
      · exact silent (by simpa using none)
      · intro error later final none
        exact Proceeds.fail (silent (by simpa using none))
    · intro chosen
      apply Proceeds.failIf (fun _ => silent rfl)
      intro none
      refine Proceeds.update ⟨?_, agreed, rfl, rfl⟩
      have one : readU32 buf = 1 := by simpa using none
      rw [(readU32_eq_iff size 1).mp one]
      exact .offered
  · refine Proceeds.sequence (transportRecv_transfers attached (silent rfl)
      (fun _ _ => silent rfl)) ?_
    rintro countBuf exchange middle ⟨size, rfl, rfl⟩
    obtain ⟨count, rfl⟩ := List.length_eq_one_iff.mp size
    apply Proceeds.ite
    · intro refused
      refine Proceeds.sequence (readFailureReason_negotiates attached (fun exchange none => ?_)) ?_
      · exact silent (by simpa using none)
      · intro error later final none
        exact Proceeds.fail (silent (by simpa using none))
    · intro offers
      apply Proceeds.ask (fun _ => rfl) (silent rfl)
      intro allocated _
      apply Proceeds.failIf (fun _ => silent rfl)
      intro _
      refine Proceeds.sequence (transportRecv_transfers attached (silent rfl)
        (fun _ _ => silent rfl)) ?_
      rintro types exchange middle ⟨complete, rfl, rfl⟩
      apply Proceeds.failIf (fun _ => silent rfl)
      intro offered
      have selects : selection version = [[1]] := by
        cases version <;> simp [selection] at known later agreed ⊢
        exact absurd agreed later
      refine Proceeds.sequence (transportSend_transfers attached (silent rfl)
        (fun _ written _ => ?_)) ?_
      · rw [selects]
        exact List.prefix_rfl
      · rintro ⟨⟩ exchange middle ⟨rfl, rfl⟩
        refine Proceeds.update ⟨.listed ?_ offers complete ?_, agreed, rfl, rfl⟩
        · rintro rfl
          exact later agreed
        · simpa using offered

/-- The exchange of the security result. -/
def securityResult : RfbVersion → List Transfer
  | .v38 => [.received [0, 0, 0, 0]]
  | _ => []

/-- `check_security_result` returns only after a result of zero, where the version has a result.
-/
theorem checkSecurityResult_negotiates (attached : memory.client.transport ≠ none)
    {version : RfbVersion} (agreed : memory.client.connInfo.rfbVersion = version)
    (none : memory.client.connInfo.securityType = .none) :
    Negotiates (fun exchange => exchange.filterMap Transfer.attempt = []) checkSecurityResult memory
      (fun _ exchange final => exchange = securityResult version ∧
        final.standing = memory.standing) := by
  refine Proceeds.load (Proceeds.ite (fun v38 => ?_) (fun earlier => ?_))
  · obtain rfl : version = .v38 := agreed.symm.trans v38
    apply Proceeds.sequence (transportRecv_transfers attached rfl (fun _ _ => rfl))
    rintro buf exchange middle ⟨size, rfl, rfl⟩
    refine Proceeds.onlyIf (fun refused => ?_) (fun accepted => ⟨?_, rfl⟩)
    · refine Proceeds.sequence
        (readFailureReason_negotiates attached (fun exchange unsent => ?_)) ?_
      · simpa using unsent
      · intro error later final unsent
        exact Proceeds.fail (by simpa using unsent)
    · have zero : readU32 buf = 0 := by simpa using accepted
      rw [(readU32_eq_iff size 0).mp zero]
      rfl
  · refine Proceeds.onlyIf (fun vncAuth => ?_) (fun _ => ⟨?_, rfl⟩)
    · exact absurd (none.symm.trans vncAuth) (by decide)
    · cases version <;> first | rfl | exact absurd agreed earlier

/-- The three parts together are an exchange that may be initialized. -/
theorem Selected.admitted {version : RfbVersion} {exchange : List Transfer}
    (selected : Selected version exchange) (known : version ≠ .unset) (greeting : List UInt8) :
    Admitted version ([.received greeting, .sent (versionString version)] ++ exchange ++
      securityResult version) := by
  cases selected with
  | offered => exact .v33 greeting
  | listed lists offers complete none =>
    cases version with
    | unset => exact absurd rfl known
    | v33 => exact absurd rfl lists
    | v37 => exact .v37 greeting _ _ offers complete none
    | v38 => exact .v38 greeting _ _ offers complete none

/-- The client has handed over its selection, if its version has one, and nothing else. -/
theorem Selected.attempts {version : RfbVersion} {exchange : List Transfer}
    (selected : Selected version exchange) (known : version ≠ .unset) :
    exchange.filterMap Transfer.attempt = selection version := by
  cases selected with
  | offered => rfl
  | listed lists offers complete none => cases version <;> first | rfl | contradiction

/-- After the version has been agreed, a part of the selection stays within the opening. -/
theorem opens_after_version {version : RfbVersion} (known : version ≠ .unset)
    {greeting : List UInt8} {exchange : List Transfer}
    (within : exchange.filterMap Transfer.attempt <+: selection version) :
    Opens ([.received greeting, .sent (versionString version)] ++ exchange) := by
  refine ⟨version, known, ?_⟩
  rw [List.filterMap_append]
  exact List.cons_prefix_cons.mpr ⟨rfl, within⟩

/-- The first three parts of `ovnc__handshake`. -/
def securityHandshake : Routine Unit := do
  negotiateVersion
  negotiateSecurity
  checkSecurityResult

/-- The three parts together: what is exchanged before ClientInit is admitted for the version that
was answered. -/
theorem securityHandshake_negotiates (attached : memory.client.transport ≠ none) :
    Negotiates Opens securityHandshake memory (fun _ exchange final =>
      (∃ version, version ≠ .unset ∧ Admitted version exchange) ∧
        final.standing = memory.standing) := by
  have attachedAfter {middle : Memory} (same : middle.standing = memory.standing) :
      middle.client.transport ≠ none := by
    rw [show middle.client.transport = memory.client.transport from
      congrArg Standing.transport same]
    exact attached
  apply Proceeds.sequence (negotiateVersion_negotiates attached)
  rintro ⟨⟩ exchange middle ⟨version, greeting, known, rfl, agreed, same⟩
  refine Proceeds.sequence ((negotiateSecurity_negotiates (attachedAfter same) known
    agreed).weaken (fun _ later within => opens_after_version known within) (fun _ _ _ => id)) ?_
  rintro ⟨⟩ exchange final ⟨selected, agreed, none, same'⟩
  refine (checkSecurityResult_negotiates (attachedAfter (same'.trans same)) agreed none).weaken
    (fun _ later unsent => ?_) ?_
  · have announced := selected.attempts known
    rw [← List.append_nil (List.filterMap _ _), ← unsent, ← List.filterMap_append] at announced
    exact opens_after_version known (announced ▸ List.prefix_rfl)
  · rintro ⟨⟩ later last ⟨rfl, same''⟩
    refine ⟨⟨version, known, ?_⟩, same''.trans (same'.trans same)⟩
    rw [← List.append_assoc]
    exact selected.admitted known greeting

end Steps

/-! ## The whole connection attempt -/

/-- An exchange in which ClientInit was handed over, after an admitted one. -/
def Initialized (shared : UInt8) (exchange : List Transfer) : Prop :=
  ∃ version gate rest later, version ≠ .unset ∧ exchange = gate ++ rest ∧ Admitted version gate ∧
    rest.filterMap Transfer.attempt = [shared] :: later

/-- The end of an attempt: initialized, or stopped within the opening and not returned. -/
def Gated (shared : UInt8) (exchange : List Transfer) (outcome : Outcome Error Fault Unit) :
    Prop :=
  Initialized shared exchange ∨
    Opens exchange ∧ (outcome = .waiting ∨ ∃ error, outcome = .failed error)

/-- The handshake in two halves: what comes before ClientInit, and ClientInit with what comes
after it. -/
theorem handshake_eq (word : WordSize) : handshake word =
    securityHandshake >>= fun _ => load >>= fun memory => transportSend [memory.client.shared] >>=
      fun _ => receiveServerInit word >>= fun _ => sendInitialMessages word := by
  unfold handshake securityHandshake doInitialization
  simp only [bind_assoc]

/-- An admitted exchange has handed over the opening of its version. -/
theorem Admitted.opens {version : RfbVersion} {exchange : List Transfer}
    (admitted : Admitted version exchange) (known : version ≠ .unset) : Opens exchange :=
  ⟨version, known, admitted.attempts ▸ List.prefix_rfl⟩

/-- `ovnc__handshake` on an open connection. -/
theorem handshake_gated (word : WordSize) {memory : Memory}
    (attached : memory.client.transport ≠ none) :
    (handshake word).wp Allowed (fun events outcome _ =>
      Gated memory.client.shared (transfers events) outcome) memory := by
  rw [handshake_eq]
  refine wp_after (securityHandshake_negotiates attached) ?_ ?_ (fun _ _ _ => False.elim) ?_
  · rintro events ⟨⟩ middle ⟨⟨version, known, admitted⟩, same⟩
    have shared : middle.client.shared = memory.client.shared := congrArg Standing.shared same
    have stillAttached : middle.client.transport ≠ none := by
      rw [show middle.client.transport = memory.client.transport from
        congrArg Standing.transport same]
      exact attached
    have initialized {event : Step} {handed : Transfer} (seen : transfer event = some handed)
        (flag : handed.attempt = some [middle.client.shared]) (later : List Step) :
        Initialized memory.client.shared (transfers (events ++ event :: later)) := by
      refine ⟨version, transfers events, transfers (event :: later), attempts later, known,
        transfers_append _ _, admitted, ?_⟩
      rw [transfers, List.filterMap_cons_some seen, List.filterMap_cons_some flag, shared]
      rfl
    rw [bind_eq, wp_sequence, wp_load, continuing_returned, bind_eq, wp_sequence, wp_transportSend]
    refine ⟨fun detached => absurd detached stillAttached, fun _ _ => ⟨?_, fun _ => ?_, ?_⟩⟩
    · exact .inr ⟨(List.append_nil events).symm ▸ admitted.opens known, .inl rfl⟩
    · exact wp_always (fun later _ _ => .inl (initialized rfl rfl later))
    · exact fun written error _ => .inl (initialized rfl rfl [])
  · exact fun events error final opens => .inr ⟨opens, .inr ⟨error, rfl⟩⟩
  · exact fun events final opens => .inr ⟨opens, .inl rfl⟩

/-- Giving up transfers nothing. -/
theorem abandonConnect_unseen (error : Error) (memory : Memory) :
    (abandonConnect error : Routine Unit).wp Allowed (fun events outcome _ =>
      transfers events = [] ∧ (outcome = .waiting ∨ ∃ error, outcome = .failed error)) memory := by
  have unseen {events : List Step} (closes : Closes events) : transfers events = [] := by
    apply List.filterMap_eq_nil_iff.mpr
    intro event member
    obtain ⟨sock, closing⟩ := closes event member
    obtain ⟨seen, request, answer⟩ := event
    obtain rfl : request = .socketClose sock := closing
    rfl
  rw [abandonConnect, bind_eq, wp_sequence]
  apply wp_mono (transportDestroy_detaches memory)
  rintro events outcome final ⟨closes, ⟨rfl, -⟩ | ⟨rfl, rfl⟩⟩
  · exact ⟨unseen (fun event member => (closes event member).2), .inl rfl⟩
  · simp only [continuing_returned, bind_eq, wp_sequence, platformCleanup, wp_update, wp_fail,
      List.append_nil]
    exact ⟨unseen (fun event member => (closes event member).2), .inr ⟨error, rfl⟩⟩

/-- The memory in which the handshake of an attempt starts. -/
def Memory.Dialled (memory middle : Memory) : Prop :=
  ∃ (sock : Transport) (count : Int), middle.standing =
    { memory.standing with transport := some sock, platformInitCount := count }

/-- A client that has dialled has a transport. -/
theorem Memory.Dialled.attached {memory middle : Memory} (dialled : memory.Dialled middle) :
    middle.client.transport ≠ none := by
  obtain ⟨sock, count, same⟩ := dialled
  rw [show middle.client.transport = some sock from congrArg Standing.transport same]
  simp

/-- How an attempt ends whose handshake has ended so. -/
inductive Attempted : Outcome Error Fault Unit → Memory → Outcome Error Fault Unit → Memory →
    Prop where
  | returned (middle : Memory) : Attempted (.returned ()) middle (.returned ())
      { middle with client := { middle.client with state := .connected } }
  | failed {error error' : Error} {middle final : Memory} :
      Attempted (.failed error) middle (.failed error') final
  | abandoning {error : Error} {middle final : Memory} :
      Attempted (.failed error) middle .waiting final
  | faulted {fault : Fault} {middle final : Memory} :
      Attempted (.faulted fault) middle (.faulted fault) final
  | waiting {middle final : Memory} : Attempted .waiting middle .waiting final

/-- An attempt transfers nothing, or what its handshake transfers. -/
def Exchanged (shaken : List Transfer → Outcome Error Fault Unit → Memory → Prop)
    (events : List Step) (outcome : Outcome Error Fault Unit) (final : Memory) : Prop :=
  transfers events = [] ∧ (outcome = .waiting ∨ ∃ error, outcome = .failed error) ∨
    ∃ ended middle, shaken (transfers events) ended middle ∧ Attempted ended middle outcome final

section Attempts

variable {shaken : List Transfer → Outcome Error Fault Unit → Memory → Prop}

/-- Giving up after nothing has been transferred. -/
theorem Exchanged.silent {events : List Step} {outcome : Outcome Error Fault Unit} {final : Memory}
    (unseen : transfers events = [])
    (ended : outcome = .waiting ∨ ∃ error, outcome = .failed error) :
    Exchanged shaken events outcome final := .inl ⟨unseen, ended⟩

/-- The exchange of an attempt is that of its handshake: what follows the handshake exchanges
nothing. -/
theorem connectHandshake_exchanges (word : WordSize) {memory : Memory}
    (shakes : (handshake word).wp Allowed (fun events => shaken (transfers events)) memory) :
    (connectHandshake word).wp Allowed (Exchanged shaken) memory := by
  refine wp_after_attempt shakes ?_ ?_
    (fun _ _ _ ended => .inr ⟨_, _, ended, .faulted⟩)
    (fun _ _ ended => .inr ⟨_, _, ended, .waiting⟩)
  · intro events value middle ended
    rw [wp_modifyClient, List.append_nil]
    exact .inr ⟨_, _, ended, .returned middle⟩
  · intro events error middle ended
    apply wp_mono (abandonConnect_unseen error middle)
    rintro later outcome final ⟨unseen, rfl | ⟨error', rfl⟩⟩
    · refine .inr ⟨.failed error, middle, ?_, .abandoning⟩
      rw [transfers_append, unseen, List.append_nil]
      exact ended
    · refine .inr ⟨.failed error, middle, ?_, .failed⟩
      rw [transfers_append, unseen, List.append_nil]
      exact ended

/-- Dialling transfers nothing. -/
theorem Dials.unseen {events : List Step} (dials : Dials events) : transfers events = [] := by
  apply List.filterMap_eq_nil_iff.mpr
  intro event member
  obtain ⟨host, port, timeoutMs, dialled⟩ := dials event member
  obtain ⟨seen, request, answer⟩ := event
  obtain rfl : request = .socketConnect host port timeoutMs := dialled
  rfl

/-- It is the same with the dialling before the handshake. -/
theorem connectTransport_exchanges (word : WordSize) {memory : Memory} {transport : Transport}
    (attached : memory.client.transport = some transport)
    (shakes : ∀ middle sock, middle.standing = { memory.standing with transport := some sock } →
      (handshake word).wp Allowed (fun events => shaken (transfers events)) middle) :
    (connectTransport word).wp Allowed (Exchanged shaken) memory := by
  apply wp_after_attempt (transportConnect_ends attached)
  · rintro events value middle ⟨dials, waiting | ⟨sock, -, changed⟩ | ⟨error, failed, -⟩⟩
    · exact absurd waiting nofun
    · refine wp_mono (connectHandshake_exchanges word (shakes middle ⟨sock⟩ changed))
        (fun later outcome final exchanged => ?_)
      rw [Exchanged, transfers_append, dials.unseen, List.nil_append]
      exact exchanged
    · exact absurd failed nofun
  · rintro events error middle ⟨dials, -⟩
    apply wp_mono (abandonConnect_unseen error middle)
    rintro later outcome final ⟨unseen, ended⟩
    refine .silent ?_ ended
    rw [transfers_append, unseen, dials.unseen, List.append_nil]
  · rintro events fault final ⟨-, waiting | ⟨sock, returned, -⟩ | ⟨error, failed, -⟩⟩
    · exact absurd waiting nofun
    · exact absurd returned nofun
    · exact absurd failed nofun
  · rintro events final ⟨dials, -⟩
    exact .silent dials.unseen (.inl rfl)

/-- A connection attempt exchanges with the server what its handshake exchanges. -/
theorem clientConnect_exchanges (word : WordSize) {memory : Memory}
    (shakes : ∀ middle, memory.Dialled middle →
      (handshake word).wp Allowed (fun events => shaken (transfers events)) middle) :
    (clientConnect word).wp Allowed (Exchanged shaken) memory := by
  unfold clientConnect transportCreate
  simp only [bind_eq, wp_sequence, wp_load, continuing_returned, wp_failIf, wp_attempt, wp_ask,
    platformInit, platformCleanup, wp_update, continuing_waiting, continuing_failed,
    wp_modifyClient, wp_fail, List.nil_append, List.append_nil]
  refine ⟨fun _ => .silent rfl (.inr ⟨_, rfl⟩),
    fun _ => ⟨.silent rfl (.inl rfl), fun allocated _ => ?_⟩⟩
  refine ⟨fun _ => .silent rfl (.inr ⟨_, rfl⟩), fun _ => ?_⟩
  exact connectTransport_exchanges word rfl
    (fun middle sock changed => shakes middle ⟨sock, _, changed⟩)

end Attempts

/-- `ovnc_client_connect`: ClientInit is handed over behind the gate only. -/
theorem clientConnect_gated (word : WordSize) (memory : Memory) :
    (clientConnect word).wp Allowed (fun events outcome _ =>
      Gated memory.client.shared (transfers events) outcome) memory := by
  have shakes (middle : Memory) (dialled : memory.Dialled middle) :
      (handshake word).wp Allowed (fun events outcome _ =>
        Gated memory.client.shared (transfers events) outcome) middle := by
    have gated := handshake_gated word dialled.attached
    obtain ⟨sock, count, same⟩ := dialled
    rwa [show middle.client.shared = memory.client.shared from congrArg Standing.shared same]
      at gated
  apply wp_mono (@clientConnect_exchanges (fun exchange outcome _ =>
    Gated memory.client.shared exchange outcome) word memory shakes)
  rintro events outcome final (⟨unseen, ended⟩ | ⟨ended, middle, gated, attempted⟩)
  · rw [unseen]
    exact .inr ⟨⟨.v33, by decide, List.nil_prefix⟩, ended⟩
  · cases attempted with
    | returned => exact gated
    | failed => exact gated.imp_right (fun stopped => ⟨stopped.1, .inr ⟨_, rfl⟩⟩)
    | abandoning => exact gated.imp_right (fun stopped => ⟨stopped.1, .inl rfl⟩)
    | faulted => exact gated
    | waiting => exact gated

/-- The gate, for every behaviour of the server and every configuration of the client.
ClientInit is handed over only after an admitted exchange; an attempt returns without an
error only if it was handed over; and an attempt in which it was not has failed, or is
still waiting, and has sent nothing but what the security handshake sends. -/
theorem clientInit_gated (word : WordSize) {memory final : Memory} {events : List Step}
    {outcome : Outcome Error Fault Unit}
    (performed : Execution Allowed (clientConnect word) memory events outcome final) :
    (∀ version, version ≠ .unset → SentClientInit version memory.client.shared events →
      ∃ gate rest later, transfers events = gate ++ rest ∧ Admitted version gate ∧
        rest.filterMap Transfer.attempt = [memory.client.shared] :: later) ∧
    (outcome = .returned () → ∃ version, version ≠ .unset ∧
      SentClientInit version memory.client.shared events) ∧
    ((∀ version, version ≠ .unset → ¬ SentClientInit version memory.client.shared events) →
      (outcome = .waiting ∨ ∃ error, outcome = .failed error) ∧
        ∃ version, version ≠ .unset ∧ attempts events <+: opening version) := by
  have gated := (wp_iff _ _ _).mp (clientConnect_gated word memory) _ _ _ performed
  have sent (initialized : Initialized memory.client.shared (transfers events)) :
      ∃ version, version ≠ .unset ∧ SentClientInit version memory.client.shared events := by
    obtain ⟨version, gate, rest, later, known, whole, admitted, begun⟩ := initialized
    refine ⟨version, known, later, ?_⟩
    rw [attempts, whole, List.filterMap_append, admitted.attempts, begun, List.append_assoc]
    rfl
  refine ⟨fun version known begun => ?_, fun returned => ?_, fun unsent => ?_⟩
  · obtain ⟨tail, whole⟩ := begun
    rw [List.append_assoc] at whole
    rcases gated with ⟨other, gate, rest, later, known', split, admitted, flag⟩ |
      ⟨⟨other, known', more, within⟩, -⟩
    · have sending : attempts events = opening other ++ [memory.client.shared] :: later := by
        rw [attempts, split, List.filterMap_append, admitted.attempts, flag]
      obtain rfl : version = other := opening_inj known known' (whole.trans sending)
      exact ⟨gate, rest, later, split, admitted, flag⟩
    · -- Within the opening there is no room for one more buffer.
      have joined : opening version ++ ([[memory.client.shared]] ++ tail ++ more) =
          opening other ++ [] := by
        rw [← List.append_assoc, whole, List.append_nil]
        exact within
      obtain rfl : version = other := opening_inj known known' joined
      exact absurd (List.append_cancel_left joined) (by simp)
  · refine sent (gated.resolve_right (fun stopped => ?_))
    simp [returned] at stopped
  · rcases gated with initialized | ⟨opens, ended⟩
    · obtain ⟨version, known, begun⟩ := sent initialized
      exact absurd begun (unsent version known)
    · exact ⟨ended, opens⟩

/-- A client that has connected has sent its ClientInit. -/
theorem clientInit_gated_plain : ∃ events final,
    Execution Allowed (clientConnect .bits64) ⟨plainClient {}, 0, 0⟩ events (.returned ()) final ∧
      ∃ version, version ≠ .unset ∧ SentClientInit version 0 events := by
  have execution := run_execution plainHost.feed Allowed
    (fun request feed answer later answered =>
      (plainHost.feed_provisioned request feed answer later answered).1)
    (clientConnect .bits64) ⟨plainClient {}, 0, 0⟩ { unread := plainGreeting }
  have returned : Execution Allowed (clientConnect .bits64) ⟨plainClient {}, 0, 0⟩ _
      (.returned ()) _ := plainConnected_returned.1 ▸ execution
  exact ⟨_, _, returned, (clientInit_gated .bits64 returned).2.1 rfl⟩

end OpenVnc
