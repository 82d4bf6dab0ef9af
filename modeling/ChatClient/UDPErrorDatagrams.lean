import ChatClient.FSMReactions
import ChatClient.UDPDecoders
import ChatClient.UDPNumbering

/-! The ERR datagrams the UDP client originates.

A datagram that fails raises an error, with one of the texts of the source. It goes
out at once, or is put off while a datagram is unconfirmed; then the CONFIRM leaves it
where it is, and the next line the user types sends it in place of that line. What
goes out is read back by `parse_and_validate` once the client has a display name, and
is turned down while the name is still empty. -/

namespace ChatClient

open Transition UDPProtocolHandler UDPMessageValidator

variable {server : SockAddr} {retries : UInt8} {history : List UDPTurn} {turn : UDPTurn}
  {loop after : StreamHandler UDPProtocolHandler} {event : Event Datagram}
  {report : Report Datagram} {h : UDPProtocolHandler} {message line : Bytes}
  {outcome : Outcome UDPProtocolHandler}

/-! ## Errors raised -/

/-- The texts the call sites hand to `send_error_message`. -/
def errorTexts : List String :=
  ["Unexpected reply message format", "Invalid state for negative reply message",
    "Invalid state for positive reply message", "Invalid reply message format",
    "Invalid content in reply message", "Unexpected message format",
    "Invalid state for message message", "Invalid content in message",
    "Unexpected error message format", "Invalid state for error message",
    "Invalid content in error message", "Unexpected bye message format", "Unexpected format"]

private theorem errorTexts_valid : ∀ error ∈ errorTexts, validateContent (text error) = true := by
  decide

/-- A call ends in an error branch, with one of the texts. -/
def Raises (h : UDPProtocolHandler) (outcome : Outcome UDPProtocolHandler) : Prop :=
  ∃ fsm confirmation error, error ∈ errorTexts ∧
    (confirmation = [] ∨ ∃ id, confirmation = [h.sendConfirmation id]) ∧
    outcome = { h with fsm := fsm }.failWith confirmation error

/-- A call raises no error: it originates no ERR, and puts none off. -/
structure RaisesNone (h : UDPProtocolHandler) (outcome : Outcome UDPProtocolHandler) : Prop where
  issues : ∀ m ∈ issued outcome.effects, hasType 0xFE m = false
  keeps : outcome.handler.putOff = h.putOff

/-- A datagram that is no CONFIRM and no whole BYE fails when it asks nothing, or when
the machine does not agree to what it asks. -/
def Fails (fsm : FSMValidate) (message : Bytes) : Prop :=
  message[0]? ≠ some 0x00 ∧ ¬ (message[0]? = some 0xFF ∧ 3 ≤ message.length) ∧
    ∀ action, askedByDatagram message = some action →
      ∀ after, fsm.validateAction action ≠ some (.any, after)

/-- A call raises an error exactly when its datagram fails. -/
def Judged (h : UDPProtocolHandler) (message : Bytes) (outcome : Outcome UDPProtocolHandler) : Prop :=
  (Fails h.fsm message ∧ Raises h outcome) ∨ (¬ Fails h.fsm message ∧ RaisesNone h outcome)

section Judgement
variable {kind : UInt8} {action reaction : Action} {fsm : FSMValidate} {error : String}
  (type : message[0]? = some kind)
include type

private theorem judged_unasked (other : kind ≠ 0x00 ∧ kind ≠ 0xFF)
    (asks : askedByDatagram message = none)
    (raises : Raises h outcome) : Judged h message outcome := by
  refine .inl ⟨⟨?_, ?_, ?_⟩, raises⟩
  · rw [type]
    exact fun same => other.1 (Option.some.inj same)
  · rintro ⟨same, -⟩
    rw [type] at same
    exact other.2 (Option.some.inj same)
  · intro action is
    cases asks.symm.trans is

private theorem judged_refused (other : kind ≠ 0x00 ∧ kind ≠ 0xFF)
    (asks : askedByDatagram message = some action)
    (asked : h.fsm.validateAction action = some (reaction, fsm)) (refused : reaction ≠ .any)
    (raises : Raises h outcome) : Judged h message outcome := by
  refine .inl ⟨⟨?_, ?_, ?_⟩, raises⟩
  · rw [type]
    exact fun same => other.1 (Option.some.inj same)
  · rintro ⟨same, -⟩
    rw [type] at same
    exact other.2 (Option.some.inj same)
  · intro action is after agrees
    cases asks.symm.trans is
    cases asked.symm.trans agrees
    exact refused rfl

omit type in
private theorem judged_accepted (asks : askedByDatagram message = some action)
    (asked : h.fsm.validateAction action = some (.any, fsm)) (silent : RaisesNone h outcome) :
    Judged h message outcome :=
  .inr ⟨fun fails => fails.2.2 action asks fsm asked, silent⟩

end Judgement

section Branches
variable {fsm : FSMValidate} {error : String}

private theorem raises_silent (known : error ∈ errorTexts) :
    Raises h ({ h with fsm := fsm }.failWith [] error) :=
  ⟨fsm, [], error, known, .inl rfl, rfl⟩

private theorem raises_loud (id : UInt16) (known : error ∈ errorTexts) :
    Raises h ({ h with fsm := fsm }.failWith [h.sendConfirmation id] error) :=
  ⟨fsm, _, error, known, .inr ⟨id, rfl⟩, rfl⟩

private theorem raisesNone_of_silent (silent : issued outcome.effects = [])
    (keeps : outcome.handler.putOff = h.putOff) :
    RaisesNone h outcome := by
  refine ⟨?_, keeps⟩
  rw [silent]
  intro m member
  cases member

private theorem raisesNone_of_bye {id : UInt16} (bye : issued outcome.effects = [formByeMessage id])
    (keeps : outcome.handler.putOff = h.putOff) : RaisesNone h outcome := by
  refine ⟨?_, keeps⟩
  rw [bye]
  intro m member
  rw [List.mem_singleton.mp member]
  simp

private theorem judged_confirm (type : message[0]? = some 0x00)
    (ran : h.processConfirm message = some outcome) :
    Judged h message outcome := by
  refine .inr ⟨fun fails => fails.1 type, ?_⟩
  simp only [processConfirm, Option.bind_eq_bind, Option.bind_eq_some_iff] at ran
  obtain ⟨messageID, -, ran⟩ := ran
  split at ran
  · split at ran
    · cases ran
      exact raisesNone_of_silent rfl rfl
    split at ran
    · cases ran
      exact raisesNone_of_bye (issued_message (by simp)) rfl
    split at ran
    · cases ran
      exact raisesNone_of_silent rfl rfl
    · cases ran
      exact raisesNone_of_silent rfl rfl
  · cases ran
    exact raisesNone_of_silent rfl rfl

/-- A REPLY whose content passes is judged by the machine's answer, which is agreement
or a refusal. -/
theorem judged_concludeReply {messageID refID : UInt16} {action : Action} {shown : Effect}
    {ignored : ClientState} (legal : h.fsm.Legal) (type : message[0]? = some 0x01)
    (server : FSMValidate.ServerAction action) (asks : askedByDatagram message = some action)
    (shows : shown.sent = none) (known : error ∈ errorTexts)
    (ran : h.concludeReply messageID refID action shown ignored error = some outcome) :
    Judged h message outcome := by
  obtain ⟨reaction, fsm, asked, -, decided⟩ := legal.server server
  simp only [concludeReply, asked, Option.bind_eq_bind, Option.bind_some] at ran
  rcases decided with rfl | rfl
  · cases ran
    apply judged_accepted asks asked
    unfold settleReply
    split
    · exact raisesNone_of_silent (by rw [issued_shown shows, issued_confirmation, issued_nil]) rfl
    · exact raisesNone_of_silent (by rw [issued_confirmation, issued_nil]) rfl
  · cases ran
    exact judged_refused type (by decide) asks asked (by decide) (raises_loud messageID known)

private theorem judged_reply (legal : h.fsm.Legal) (type : message[0]? = some 0x01)
    (ran : h.processReply message = some outcome) : Judged h message outcome := by
  have other : (0x01 : UInt8) ≠ 0x00 ∧ (0x01 : UInt8) ≠ 0xFF := by decide
  unfold processReply at ran
  split at ran
  · rename_i short
    cases ran
    exact judged_unasked type other (by simp [askedByDatagram, type, short]) (raises_silent (by decide))
  rename_i whole
  simp only [Option.bind_eq_bind, Option.bind_eq_some_iff] at ran
  obtain ⟨messageID, -, status, stated, refID, -, ran⟩ := ran
  split at ran
  · rename_i valid
    obtain ⟨content, -, ran⟩ := Option.bind_eq_some_iff.mp ran
    split at ran
    · rename_i negative
      have asks : askedByDatagram message = some .nreplyServer := by
        simp [askedByDatagram, type, whole, valid, stated, negative]
      exact judged_concludeReply legal type (.inr (.inr (.inl rfl))) asks rfl (by decide) ran
    split at ran
    · rename_i positive
      have asks : askedByDatagram message = some .replyServer := by
        simp [askedByDatagram, type, whole, valid, stated, positive]
      exact judged_concludeReply legal type (.inr (.inl rfl)) asks rfl (by decide) ran
    · rename_i notNegative notPositive
      cases ran
      have asks : askedByDatagram message = none := by
        simp [askedByDatagram, type, whole, valid, stated, notNegative, notPositive]
      exact judged_unasked type other asks (raises_loud messageID (by decide))
  · rename_i invalid
    cases ran
    exact judged_unasked type other (by simp [askedByDatagram, type, invalid]) (raises_silent (by decide))

private theorem judged_message (type : message[0]? = some 0x04)
    (ran : h.processMessage message = some outcome) : Judged h message outcome := by
  have other : (0x04 : UInt8) ≠ 0x00 ∧ (0x04 : UInt8) ≠ 0xFF := by decide
  unfold processMessage at ran
  split at ran
  · rename_i short
    cases ran
    exact judged_unasked type other (by simp [askedByDatagram, type, short]) (raises_silent (by decide))
  rename_i whole
  simp only [Option.bind_eq_bind, Option.bind_eq_some_iff] at ran
  obtain ⟨messageID, -, ran⟩ := ran
  split at ran
  · rename_i valid
    have asks : askedByDatagram message = some .messageServer := by
      simp [askedByDatagram, type, whole, valid]
    obtain ⟨⟨reaction, fsm⟩, asked, ran⟩ := Option.bind_eq_some_iff.mp ran
    split at ran
    · rename_i agrees
      subst agrees
      apply judged_accepted asks asked
      split at ran
      · cases ran
        exact raisesNone_of_silent (by rw [issued_confirmation, issued_nil]) rfl
      · simp only [Option.bind_eq_some_iff] at ran
        obtain ⟨dname, -, content, -, ran⟩ := ran
        cases ran
        exact raisesNone_of_silent (by rw [issued_confirmation, issued_shown rfl, issued_nil]) rfl
    · rename_i refused
      cases ran
      exact judged_refused type other asks asked refused (raises_silent (by decide))
  · rename_i invalid
    cases ran
    exact judged_unasked type other (by simp [askedByDatagram, type, invalid]) (raises_silent (by decide))

private theorem judged_error (type : message[0]? = some 0xFE)
    (ran : h.processError message = some outcome) : Judged h message outcome := by
  have other : (0xFE : UInt8) ≠ 0x00 ∧ (0xFE : UInt8) ≠ 0xFF := by decide
  unfold processError at ran
  split at ran
  · rename_i short
    cases ran
    exact judged_unasked type other (by simp [askedByDatagram, type, short]) (raises_silent (by decide))
  rename_i whole
  simp only [Option.bind_eq_bind, Option.bind_eq_some_iff] at ran
  obtain ⟨messageID, -, ran⟩ := ran
  split at ran
  · rename_i valid
    have asks : askedByDatagram message = some .errorServer := by
      simp [askedByDatagram, type, whole, valid]
    obtain ⟨⟨reaction, fsm⟩, asked, ran⟩ := Option.bind_eq_some_iff.mp ran
    split at ran
    · rename_i agrees
      subst agrees
      apply judged_accepted asks asked
      split at ran
      · cases ran
        exact raisesNone_of_bye (issued_confirmation.trans (issued_message (by simp))) rfl
      · simp only [Option.bind_eq_some_iff] at ran
        obtain ⟨dname, -, content, -, ran⟩ := ran
        cases ran
        refine @raisesNone_of_bye h _ h.renamer3000 ?_ rfl
        rw [issued_confirmation, issued_shown rfl]
        exact issued_message (by simp)
    · rename_i refused
      cases ran
      exact judged_refused type other asks asked refused (raises_loud messageID (by decide))
  · rename_i invalid
    cases ran
    exact judged_unasked type other (by simp [askedByDatagram, type, invalid])
      (raises_loud messageID (by decide))

private theorem judged_bye (type : message[0]? = some 0xFF)
    (ran : h.processBye message = some outcome) :
    Judged h message outcome := by
  unfold processBye at ran
  split at ran
  · rename_i short
    cases ran
    refine .inl ⟨⟨by simp [type], fun whole => ?_, fun action asks => ?_⟩, raises_silent (by decide)⟩
    · exact absurd whole.2 (by omega)
    · simp [askedByDatagram, type] at asks
  · rename_i whole
    obtain ⟨messageID, -, ran⟩ := Option.bind_eq_some_iff.mp ran
    cases ran
    refine .inr ⟨fun fails => fails.2.1 ⟨type, by omega⟩, ?_⟩
    exact raisesNone_of_silent (by rw [issued_confirmation, issued_nil]) rfl

private theorem judged_unknown {kind : UInt8} (type : message[0]? = some kind)
    (other : kind ≠ 0x00 ∧ kind ≠ 0x01 ∧ kind ≠ 0x04 ∧ kind ≠ 0xFE ∧ kind ≠ 0xFF)
    (ran : h.processUnknown message = some outcome) : Judged h message outcome := by
  obtain ⟨noConfirm, noReply, noMessage, noError, noBye⟩ := other
  have asks : askedByDatagram message = none := by
    simp [askedByDatagram, type, noReply, noMessage, noError]
  unfold processUnknown at ran
  split at ran
  · cases ran
    exact judged_unasked type ⟨noConfirm, noBye⟩ asks (raises_silent (by decide))
  · obtain ⟨messageID, -, ran⟩ := Option.bind_eq_some_iff.mp ran
    cases ran
    exact judged_unasked type ⟨noConfirm, noBye⟩ asks (raises_loud messageID (by decide))

private theorem judged_of_processReceived (legal : h.fsm.Legal)
    (ran : h.processReceived message = some outcome) : Judged h message outcome := by
  cases branchOfType ran with
  | confirm type ran => exact judged_confirm type ran
  | reply type ran => exact judged_reply legal type ran
  | message type ran => exact judged_message type ran
  | error type ran => exact judged_error type ran
  | bye type ran => exact judged_bye type ran
  | unknown type noConfirm noReply noMessage noError noBye ran =>
    exact judged_unknown type ⟨noConfirm, noReply, noMessage, noError, noBye⟩ ran

end Branches

/-! ## What is put off -/

private theorem issued_sendErrorMessage {error : Bytes} : issued (h.sendErrorMessage error).2 =
    if h.waitingForConfirmation then []
    else [formErrorMessage h.renamer3000 h.messageValidator.displayName error] := by
  unfold sendErrorMessage
  split
  · rfl
  · exact issued_message (by simp [formErrorMessage_eq])

private theorem putOff_sendErrorMessage {error : Bytes} : (h.sendErrorMessage error).1.putOff =
    if h.waitingForConfirmation then (true, error) else h.putOff := by
  unfold sendErrorMessage
  split <;> rfl

/-- An error raised is sent or put off. -/
theorem Raises.sends (raises : Raises h outcome) : ∃ error ∈ errorTexts,
    issued outcome.effects = issued (h.sendErrorMessage (text error)).2 ∧
      outcome.handler.putOff = (h.sendErrorMessage (text error)).1.putOff := by
  obtain ⟨fsm, confirmation, error, known, confirms, rfl⟩ := raises
  refine ⟨error, known, ?_, ?_⟩
  · have sends : issued ({ h with fsm := fsm }.failWith confirmation error).effects =
        issued ({ h with fsm := fsm }.sendErrorMessage (text error)).2 := by
      rcases confirms with rfl | ⟨id, rfl⟩
      · rfl
      · exact issued_confirmation
    rw [sends, issued_sendErrorMessage, issued_sendErrorMessage]
  · have puts : ({ h with fsm := fsm }.failWith confirmation error).handler =
        ({ h with fsm := fsm }.sendErrorMessage (text error)).1 := rfl
    rw [puts, putOff_sendErrorMessage, putOff_sendErrorMessage]
    rfl

/-- What is put off, if anything, is one of the texts. -/
def KnownPutOff (h : UDPProtocolHandler) : Prop :=
  h.putOff.1 = true → ∃ error ∈ errorTexts, h.putOff.2 = text error

private theorem knownPutOff_sendErrorMessage {error : String} (before : KnownPutOff h)
    (known : error ∈ errorTexts) : KnownPutOff (h.sendErrorMessage (text error)).1 := by
  rw [KnownPutOff, putOff_sendErrorMessage]
  by_cases waiting : h.waitingForConfirmation = true
  · rw [if_pos waiting]
    exact fun _ => ⟨error, known, rfl⟩
  · rw [if_neg waiting]
    exact before

private theorem Judged.knownPutOff (judged : Judged h message outcome) (before : KnownPutOff h) :
    KnownPutOff outcome.handler := by
  rcases judged with ⟨-, raises⟩ | ⟨-, silent⟩
  · obtain ⟨error, known, -, puts⟩ := raises.sends
    rw [KnownPutOff, puts]
    exact knownPutOff_sendErrorMessage before known
  · rw [KnownPutOff, silent.keeps]
    exact before

private theorem UDPProtocolHandler.Command.knownPutOff (command : Command h line outcome)
    (before : KnownPutOff h) : KnownPutOff outcome.handler := by
  cases command with
  | deferred _ pending =>
    obtain ⟨error, known, same⟩ := before pending
    have stored : h.errorMessage = text error := same
    rw [stored]
    exact knownPutOff_sendErrorMessage before known
  | exit | rejected | requested | spoken | renamed | helped | undecided => exact before

/-- In every run what is put off is one of the texts. -/
theorem udpRun_knownPutOff (run : UDPRun server retries history loop) :
    KnownPutOff loop.protocolHandler := by
  refine run.invariant (I := fun _ loop => KnownPutOff loop.protocolHandler) ?_ ?_
  · intro pending
    cases pending
  · intro history loop event report after run before ran
    obtain ⟨-, iteration⟩ := udpIteration_of_iterate ran
    cases iteration with
    | @received fromAddr _ _ _ _ called _ handler =>
      have legal : { loop.protocolHandler with serverAddress := fromAddr }.fsm.Legal :=
        udpRun_legal run
      have known : KnownPutOff { loop.protocolHandler with serverAddress := fromAddr } := before
      rw [handler]
      exact (judged_of_processReceived legal called).knownPutOff known
    | command called _ handler =>
      rw [handler]
      exact (command_of_processUserInput called).knownPutOff before
    | lost handler | resend _ handler | giveUp _ handler | idle _ handler => rwa [handler]

/-! ## Errors that decode -/

/-- An ERR that carries the name and one of the texts, and is read back as these. -/
def DecodesAs (dname datagram : Bytes) : Prop :=
  ∃ id, ∃ error ∈ errorTexts, datagram = formErrorMessage id dname (text error) ∧
    parseAndValidate (datagram.drop 3) "err" = ([dname, text error], true)

/-- The client's display name when the turn begins. A turn that originates an ERR does
not change it. -/
def nameOf (turn : UDPTurn) : Bytes := turn.before.protocolHandler.messageValidator.displayName

/-- Every ERR the turn originates is read back as the display name and its text. -/
def ErrorsDecode (turn : UDPTurn) : Prop :=
  ∀ m ∈ originated turn, hasType 0xFE m = true → DecodesAs (nameOf turn) m

/-- While the display name is empty and nothing is unconfirmed, the turn receives a
datagram that fails, or reads another line than `/exit` with an error put off. -/
structure RaisesNameless (turn : UDPTurn) : Prop where
  nameless : nameOf turn = []
  idle : turn.before.protocolHandler.waitingForConfirmation = false
  raises : (∃ message, received turn = some message ∧
      Fails turn.before.protocolHandler.fsm message) ∨
    (turn.before.protocolHandler.errorWhileWaiting = true ∧
      ∃ line, turn.output.call = .processUserInput line ∧ line ≠ text "/exit")

private theorem decodesAs_iff {id : UInt16} {dname : Bytes} {error : String}
    (known : error ∈ errorTexts)
    (named : dname = [] ∨ validateDname dname = true) :
    DecodesAs dname (formErrorMessage id dname (text error)) ↔ dname ≠ [] := by
  constructor
  · rintro ⟨_, _, _, -, decodes⟩ rfl
    rw [parseAndValidate_err] at decodes
    obtain ⟨_, _, _, fields, printed, -⟩ := parseAndValidate_msg_iff.mp decodes
    obtain ⟨rfl, -⟩ : [] = _ ∧ _ := by simpa using fields
    exact absurd printed.1 (by decide)
  · intro some
    refine ⟨id, error, known, rfl, ?_⟩
    rw [parseAndValidate_err, formErrorMessage_eq]
    exact parseAndValidate_message (named.resolve_left some) (errorTexts_valid error known)

private theorem errorsDecode_of_none (none : ∀ m ∈ originated turn, hasType 0xFE m = false) :
    ErrorsDecode turn := by
  intro m member error
  rw [none m member] at error
  cases error

/-- A turn that hands one of the texts to `send_error_message` originates what is read
back unless nothing is unconfirmed and the name is empty. -/
theorem errorsDecode_iff_of_sends {error : String} (known : error ∈ errorTexts)
    (named : nameOf turn = [] ∨ validateDname (nameOf turn) = true)
    (sends : originated turn =
      issued (turn.before.protocolHandler.sendErrorMessage (text error)).2) :
    ErrorsDecode turn ↔
      ¬ (nameOf turn = [] ∧ turn.before.protocolHandler.waitingForConfirmation = false) := by
  rw [issued_sendErrorMessage] at sends
  by_cases waiting : turn.before.protocolHandler.waitingForConfirmation = true
  · rw [if_pos waiting] at sends
    refine iff_of_true (errorsDecode_of_none (by simp [sends])) ?_
    rintro ⟨-, idle⟩
    cases waiting.symm.trans idle
  · rw [if_neg waiting] at sends
    have single : ErrorsDecode turn ↔ DecodesAs (nameOf turn)
        (formErrorMessage turn.before.protocolHandler.renamer3000 (nameOf turn) (text error)) := by
      rw [ErrorsDecode, sends]
      constructor
      · intro decode
        exact decode _ (List.mem_singleton.mpr rfl) (by simp [formErrorMessage_eq])
      · intro decodes m member _
        rw [List.mem_singleton.mp member]
        exact decodes
    rw [single, decodesAs_iff known named]
    simp [waiting]

/-- A command that takes the place of nothing put off originates no ERR. -/
theorem UDPProtocolHandler.Command.no_error (command : Command h line outcome)
    (taken : ¬ (line ≠ text "/exit" ∧ h.errorWhileWaiting = true)) :
    ∀ m ∈ issued outcome.effects, hasType 0xFE m = false := by
  intro m member
  cases command with
  | deferred other pending => exact absurd ⟨other, pending⟩ taken
  | exit =>
    rw [issued_message (by simp)] at member
    rw [List.mem_singleton.mp member]
    simp
  | requested _ _ kind =>
    rw [sendRequest, issued_message (by rcases kind with ⟨rfl, -⟩ | ⟨rfl, -⟩ <;> simp)] at member
    rw [List.mem_singleton.mp member]
    rcases kind with ⟨rfl, -⟩ | ⟨rfl, -⟩ <;> simp
  | spoken =>
    rw [sendRequest, issued_message (by simp)] at member
    rw [List.mem_singleton.mp member]
    simp
  | rejected | renamed | helped | undecided => cases member

section Turns
variable (run : UDPRun server retries history loop)
include run

private theorem errorsDecode_iff_received {fromAddr : SockAddr} {buffer : RecvBuffer}
    {inner : Outcome UDPProtocolHandler} {returned : Option ClientState}
    (called : { loop.protocolHandler with serverAddress := fromAddr }.processReceived buffer.val =
      some inner)
    (taken : turn = ⟨loop, event,
      ⟨.processServerMessage (.received fromAddr buffer), inner.effects, returned⟩, after⟩) :
    ErrorsDecode turn ↔ ¬ RaisesNameless turn := by
  have legal : { loop.protocolHandler with serverAddress := fromAddr }.fsm.Legal := udpRun_legal run
  have named : nameOf turn = [] ∨ validateDname (nameOf turn) = true := by
    rw [taken]
    exact (udpRun_reached run).named
  rcases judged_of_processReceived legal called with ⟨fails, raises⟩ | ⟨passes, silent⟩
  · obtain ⟨error, known, sends, -⟩ := raises.sends
    rw [issued_sendErrorMessage] at sends
    have sends : originated turn =
        issued (turn.before.protocolHandler.sendErrorMessage (text error)).2 := by
      rw [taken, issued_sendErrorMessage]
      exact sends
    rw [errorsDecode_iff_of_sends known named sends]
    apply not_congr
    constructor
    · rintro ⟨nameless, idle⟩
      refine ⟨nameless, idle, .inl ⟨buffer.val, ?_, ?_⟩⟩
      · rw [taken]
        rfl
      · rw [taken]
        exact fails
    · intro raised
      exact ⟨raised.nameless, raised.idle⟩
  · subst taken
    refine iff_of_true (errorsDecode_of_none silent.issues) fun raised => ?_
    rcases raised.raises with ⟨message, found, fails⟩ | ⟨-, line, typed, -⟩
    · cases found
      exact passes fails
    · cases typed

private theorem errorsDecode_iff_command {outcome : Outcome UDPProtocolHandler}
    (called : loop.protocolHandler.processUserInput line = some outcome)
    (taken : turn = ⟨loop, event, ⟨.processUserInput line, outcome.effects, outcome.returned⟩, after⟩) :
    ErrorsDecode turn ↔ ¬ RaisesNameless turn := by
  have named : nameOf turn = [] ∨ validateDname (nameOf turn) = true := by
    rw [taken]
    exact (udpRun_reached run).named
  by_cases defers : line ≠ text "/exit" ∧ loop.protocolHandler.errorWhileWaiting = true
  · obtain ⟨other, pending⟩ := defers
    obtain ⟨error, known, stored⟩ := udpRun_knownPutOff run pending
    have stored : loop.protocolHandler.errorMessage = text error := stored
    rw [UDPProtocolHandler.processUserInput, if_neg other, if_pos pending] at called
    have sends : originated turn =
        issued (turn.before.protocolHandler.sendErrorMessage (text error)).2 := by
      cases called
      rw [taken, ← stored]
      rfl
    rw [errorsDecode_iff_of_sends known named sends]
    apply not_congr
    constructor
    · rintro ⟨nameless, idle⟩
      refine ⟨nameless, idle, .inr ⟨?_, line, ?_, other⟩⟩
      · rw [taken]
        exact pending
      · rw [taken]
    · intro raised
      exact ⟨raised.nameless, raised.idle⟩
  · subst taken
    have none := (command_of_processUserInput called).no_error defers
    refine iff_of_true (errorsDecode_of_none none) fun raised => ?_
    rcases raised.raises with ⟨message, found, -⟩ | ⟨pending, typed, is, other⟩
    · cases found
    · cases is
      exact defers ⟨other, pending⟩

private theorem errorsDecode_iff_of_iterate (ran : loop.iterate event = some (report, after)) :
    ErrorsDecode ⟨loop, event, report, after⟩ ↔ ¬ RaisesNameless ⟨loop, event, report, after⟩ := by
  have quiet {turn : UDPTurn} (silent : originated turn = []) (unread : received turn = none)
      (untyped : ∀ line, turn.output.call ≠ .processUserInput line) :
      ErrorsDecode turn ↔ ¬ RaisesNameless turn := by
    refine iff_of_true (errorsDecode_of_none (by simp [silent])) fun raised => ?_
    rcases raised.raises with ⟨message, found, -⟩ | ⟨-, line, typed, -⟩
    · cases unread.symm.trans found
    · exact untyped line typed
  obtain ⟨-, iteration⟩ := udpIteration_of_iterate ran
  cases iteration with
  | received called => exact errorsDecode_iff_received run called rfl
  | command called => exact errorsDecode_iff_command run called rfl
  | lost | resend | giveUp => exact quiet rfl rfl (by simp)
  | idle silent => rcases silent with rfl | rfl <;> exact quiet rfl rfl (by simp)

end Turns

/-- In every run all ERRs are read back exactly when none is raised nameless. -/
theorem errors_decode_iff (run : UDPRun server retries history loop) :
    (∀ turn ∈ history, ErrorsDecode turn) ↔ ∀ turn ∈ history, ¬ RaisesNameless turn := by
  refine forall₂_congr fun turn member => ?_
  obtain ⟨before, later, rfl⟩ := List.append_of_mem member
  exact errorsDecode_iff_of_iterate run.split.1 run.split.2

/-- After `/auth` an ERR carries the display name. -/
theorem errors_decode_iff_named : ∃ history loop, UDPRun localServer 3 history loop ∧
    allOriginated history = [header 0x02 0 ++ text "a" ++ [0] ++ text "c" ++ [0] ++ text "b" ++ [0],
      header 0xFE 1 ++ text "c" ++ [0] ++ text "Unexpected format" ++ [0]] ∧
    ∀ turn ∈ history, ErrorsDecode turn := by
  have ran : sample [types "/auth a b c", arrives [0x00, 0, 0], arrives [0x05]] = some (_, _) := rfl
  refine ⟨_, _, Run.of_exec ran, rfl, (errors_decode_iff (Run.of_exec ran)).mpr ?_⟩
  simp only [List.forall_mem_cons]
  refine ⟨?_, ?_, ?_, by simp⟩
  · rintro ⟨-, -, ⟨_, found, -⟩ | ⟨pending, -⟩⟩
    · cases found
    · cases pending
  · intro raised
    cases raised.nameless
  · intro raised
    cases raised.nameless

/-- Before `/auth` it carries none, and is not read back. -/
theorem nameless_error_not_decoded : ∃ history loop, UDPRun localServer 3 history loop ∧
    ¬ ∀ turn ∈ history, ErrorsDecode turn := by
  have ran : sample [arrives [0x05]] = some (_, _) := rfl
  have refused : (parseAndValidate ([0] ++ text "Unexpected format" ++ [0]) "err").2 = false := by
    decide
  refine ⟨_, _, Run.of_exec ran, fun decode => ?_⟩
  obtain ⟨_, _, _, _, decodes⟩ := decode _ (.head _) _ (.head _) rfl
  cases refused.symm.trans (congrArg Prod.snd decodes)

/-! ## Errors put off -/

/-- The datagram confirms what is awaited, which is neither a BYE nor an ERR, while an
error is put off. -/
structure ConfirmsWithError (h : UDPProtocolHandler) (message : Bytes) : Prop where
  type : message[0]? = some 0x00
  id : messageId message = some h.awaitedConirmId
  pending : h.errorWhileWaiting = true
  goes : h.awaitingOver = false
  sound : h.errorSent = false

/-- The first datagram a call originates is the ERR put off. -/
def SendsPutOff (h : UDPProtocolHandler) (outcome : Outcome UDPProtocolHandler) : Prop :=
  (issued outcome.effects).head? =
    some (formErrorMessage h.renamer3000 h.messageValidator.displayName h.errorMessage)

/-- The CONFIRM is answered with nothing, and the error stays put off while the client
goes on. -/
structure LeavesPutOff (h : UDPProtocolHandler) (outcome : Outcome UDPProtocolHandler) : Prop where
  unsent : ¬ SendsPutOff h outcome
  silent : outcome.effects = []
  pending : outcome.handler.putOff = (true, h.errorMessage)
  goesOn : outcome.returned = some .readyForInput ∨ outcome.returned = some .waitingForReply

private theorem line_sends_putOff (pending : h.errorWhileWaiting = true)
    (idle : h.waitingForConfirmation = false) (other : line ≠ text "/exit") :
    ∃ answered, h.processUserInput line = some answered ∧ SendsPutOff h answered := by
  have ran : h.processUserInput line = some ⟨(h.sendErrorMessage h.errorMessage).1,
      (h.sendErrorMessage h.errorMessage).2, some .waitingForConfirmation⟩ := by
    rw [UDPProtocolHandler.processUserInput, if_neg other, if_pos pending]
  refine ⟨_, ran, ?_⟩
  rw [SendsPutOff, issued_sendErrorMessage, if_neg (by simp [idle])]
  rfl

/-- The confirmation does not send the error put off. Only the next line does. -/
theorem confirm_leaves_putOff (fromAddr : SockAddr) {buffer : RecvBuffer}
    (confirms : ConfirmsWithError h buffer.val) :
    ∃ outcome, h.processServerMessage (.received fromAddr buffer) = some outcome ∧
      LeavesPutOff h outcome ∧
      ∀ line, line ≠ text "/exit" → ∃ answered,
        outcome.handler.processUserInput line = some answered ∧
          SendsPutOff outcome.handler answered := by
  obtain ⟨type, id, pending, goes, sound⟩ := confirms
  have ran := @processReceived_confirm { h with serverAddress := fromAddr } buffer.val type id goes sound
  refine ⟨_, congrArg (Option.map overrule) ran, ⟨?_, rfl, ?_, ?_⟩, ?_⟩
  · intro sends
    cases sends
  · exact Prod.ext pending rfl
  · simp only [overrule, Bool.false_eq_true, ↓reduceIte]
    split
    · exact .inr rfl
    · exact .inl rfl
  · intro line other
    exact line_sends_putOff pending rfl other

/-- A datagram that fails while the AUTH is unconfirmed, and the confirmation. -/
theorem confirm_leaves_putOff_auth : ∃ history loop outcome, UDPRun localServer 3 history loop ∧
    ConfirmsWithError loop.protocolHandler (header 0x00 0) ∧
    loop.protocolHandler.processServerMessage
      (.received localServer ⟨header 0x00 0, by decide⟩) = some outcome ∧
    LeavesPutOff loop.protocolHandler outcome := by
  have ran : sample [types "/auth a b c", arrives [0x05]] = some (_, _) := rfl
  have reached : ∃ history loop, UDPRun localServer 3 history loop ∧
      ConfirmsWithError loop.protocolHandler (header 0x00 0) :=
    ⟨_, _, Run.of_exec ran, ⟨rfl, rfl, rfl, rfl, rfl⟩⟩
  obtain ⟨history, loop, run, confirms⟩ := reached
  obtain ⟨outcome, took, leaves, -⟩ :=
    @confirm_leaves_putOff _ localServer ⟨header 0x00 0, by decide⟩ confirms
  exact ⟨history, loop, outcome, run, confirms, took, leaves⟩

/-- There the client goes on to wait for the REPLY, with its error still put off. -/
theorem putOff_outlives_confirm : ∃ history loop outcome, UDPRun localServer 3 history loop ∧
    ConfirmsWithError loop.protocolHandler (header 0x00 0) ∧
    loop.protocolHandler.processServerMessage
      (.received localServer ⟨header 0x00 0, by decide⟩) = some outcome ∧
    outcome.effects = [] ∧ outcome.returned = some .waitingForReply ∧
    ¬ SendsPutOff loop.protocolHandler outcome := by
  have ran : sample [types "/auth a b c", arrives [0x05]] = some (_, _) := rfl
  refine ⟨_, _, _, Run.of_exec ran, ⟨rfl, rfl, rfl, rfl, rfl⟩, rfl, rfl, rfl, ?_⟩
  intro sends
  cases sends

end ChatClient
