import ChatClient.UDPProtocolHandler

/-! What one call of the UDP handler can do. `Receipt` has one rule for each kind
of end `process_received` has, `Command` one for each end of
`process_user_input`; the error branches, which all end in `failWith`, share a
rule. `receipt_of_processReceived` and `command_of_processUserInput` derive the
rules from the code, and every invariant of the client is proved over them. -/

namespace ChatClient.UDPProtocolHandler

open Calls UDPMessageValidator FSMValidate

variable {h : UDPProtocolHandler} {message : Bytes} {outcome : Outcome UDPProtocolHandler}

/-! ## Ends of branches -/

@[simp] theorem settleReply_fsm {messageID refID : UInt16} {shown : Effect} {ignored : ClientState} :
    (h.settleReply messageID refID shown ignored).handler.fsm = h.fsm := by
  unfold settleReply
  split <;> rfl

@[simp] theorem sendErrorMessage_fsm {error : Bytes} : (h.sendErrorMessage error).1.fsm = h.fsm := by
  unfold sendErrorMessage
  split <;> rfl

@[simp] theorem failWith_fsm {confirmation : List Effect} {error : String} :
    (h.failWith confirmation error).handler.fsm = h.fsm := sendErrorMessage_fsm

/-- An error message that is not put off is a datagram. -/
theorem mem_sendErrorMessage {error : Bytes} {effect : Effect}
    (member : effect ∈ (h.sendErrorMessage error).2) : effect = h.sendMessage
      (formErrorMessage h.renamer3000 h.messageValidator.getDisplayName error) := by
  unfold sendErrorMessage at member
  split at member
  · cases member
  · exact List.mem_singleton.mp member

/-- An error branch does nothing but send datagrams. -/
theorem mem_failWith {silent loud : Prop} {read : UInt16 → Prop} {fsm : FSMValidate}
    {confirmation : List Effect} {error : String} {effect : Effect}
    (confirms : (silent ∧ confirmation = []) ∨
      (loud ∧ ∃ id, read id ∧ confirmation = [h.sendConfirmation id]))
    (member : effect ∈ ({ h with fsm := fsm }.failWith confirmation error).effects) :
    ∃ m, effect = h.sendMessage m := by
  simp only [failWith, List.mem_append] at member
  rcases member with member | member
  · rcases confirms with ⟨-, rfl⟩ | ⟨-, id, -, rfl⟩
    · cases member
    · exact ⟨_, List.mem_singleton.mp member⟩
  · exact ⟨_, @mem_sendErrorMessage { h with fsm := fsm } _ _ member⟩

/-! ## Datagrams from the server -/

/-- The two results a REPLY can carry: the byte, the action the state machine is
asked about, what is displayed, and the state returned when nothing was awaited. -/
inductive ReplyResult (content : Bytes) : UInt8 → Action → Effect → ClientState → Prop where
  | negative : ReplyResult content 0x00 .nreplyServer (.replyError content) .waitingForReply
  | positive : ReplyResult content 0x01 .replyServer (.replySuccess content) .readyForInput

/-- A REPLY datagram whose fields decode. -/
structure DecodesReply (message : Bytes) (messageID refID : UInt16) (content : Bytes)
    (action : Action) (shown : Effect) (ignored : ClientState) : Prop where
  type : message[0]? = some 0x01
  whole : 6 ≤ message.length
  id : readId message 1 = some messageID
  ref : readId message 4 = some refID
  body : parseAndValidate (message.drop 6) "reply" = ([content], true)
  result : ∃ status, message[3]? = some status ∧
    ReplyResult content status action shown ignored

/-- The state machine was left alone, or answered a server action with a refusal. -/
def Refused (fsm after : FSMValidate) : Prop :=
  after = fsm ∨ ∃ action reaction, ServerAction action ∧
    fsm.validateAction action = some (reaction, after) ∧ reaction ≠ .any

/-- The datagrams answered by an error without a CONFIRM: REPLY and ERR that are
too short, REPLY and MSG with invalid content, MSG the machine does not accept,
and whatever has no whole header. -/
def Silent (h : UDPProtocolHandler) (message : Bytes) : Prop :=
  message.length < 3 ∨
    (message[0]? = some 0x01 ∧
      (message.length < 6 ∨ (parseAndValidate (message.drop 6) "reply").2 = false)) ∨
    (message[0]? = some 0x04 ∧ ((parseAndValidate (message.drop 3) "msg").2 = false ∨
      ∀ fsm, h.fsm.validateAction .messageServer ≠ some (.any, fsm))) ∨
    (message[0]? = some 0xFE ∧ message.length < 4)

/-- The ends of `process_received`. -/
inductive Receipt (h : UDPProtocolHandler) (message : Bytes) :
    Outcome UDPProtocolHandler → Prop where
  /-- CONFIRM of the awaited ID, of a BYE. -/
  | byeConfirmed (type : message[0]? = some 0x00) (id : messageId message = some h.awaitedConirmId)
      (ending : h.awaitingOver = true) :
      Receipt h message
        ⟨{ h with awaitedConirmId := noId, waitingForConfirmation := false }, [], some .over⟩
  /-- CONFIRM of the awaited ID, of an ERR. -/
  | errorConfirmed (type : message[0]? = some 0x00)
      (id : messageId message = some h.awaitedConirmId)
      (goes : h.awaitingOver = false) (failed : h.errorSent = true) :
      Receipt h message
        ⟨{ h.track (formByeMessage h.renamer3000) with errorSent := false, awaitingOver := true },
          [h.sendMessage (formByeMessage h.renamer3000)], some .waitingForConfirmation⟩
  /-- CONFIRM of the awaited ID, of an AUTH, JOIN or MSG. -/
  | confirmed (type : message[0]? = some 0x00) (id : messageId message = some h.awaitedConirmId)
      (goes : h.awaitingOver = false) (sound : h.errorSent = false) :
      Receipt h message
        ⟨{ h with
            awaitedConirmId := noId
            waitingForReply := false
            waitingForConfirmation := false }, [],
          some (if h.waitingForReply then .waitingForReply else .readyForInput)⟩
  /-- CONFIRM of any other ID. -/
  | stray {other : UInt16} (type : message[0]? = some 0x00) (id : messageId message = some other)
      (unknown : other ≠ h.awaitedConirmId) :
      Receipt h message ⟨h, [], some .waitingForConfirmation⟩
  /-- A REPLY the machine accepts, shown or ignored. -/
  | reply {fsm : FSMValidate} {messageID refID : UInt16} {content : Bytes} {action : Action}
      {shown : Effect} {ignored : ClientState}
      (decodes : DecodesReply message messageID refID content action shown ignored)
      (asked : h.fsm.validateAction action = some (.any, fsm)) :
      Receipt h message ({ h with fsm := fsm }.settleReply messageID refID shown ignored)
  /-- A MSG shown before. -/
  | repeated {fsm : FSMValidate} {messageID : UInt16} {dname content : Bytes}
      (type : message[0]? = some 0x04) (id : messageId message = some messageID)
      (body : parseAndValidate (message.drop 3) "msg" = ([dname, content], true))
      (asked : h.fsm.validateAction .messageServer = some (.any, fsm))
      (known : messageID ∈ h.receivedIds) :
      Receipt h message
        ⟨{ h with fsm := fsm }, [h.sendConfirmation messageID], some .readyForInput⟩
  /-- A new MSG. -/
  | shown {fsm : FSMValidate} {messageID : UInt16} {dname content : Bytes}
      (type : message[0]? = some 0x04) (id : messageId message = some messageID)
      (body : parseAndValidate (message.drop 3) "msg" = ([dname, content], true))
      (asked : h.fsm.validateAction .messageServer = some (.any, fsm))
      (fresh : messageID ∉ h.receivedIds) :
      Receipt h message
        ⟨{ h with fsm := fsm, receivedIds := h.receivedIds ++ [messageID] },
          [h.sendConfirmation messageID, .messageFromServer dname content], some .readyForInput⟩
  /-- An ERR shown before: a BYE goes out and its confirmation is waited for. -/
  | errorRepeated {fsm : FSMValidate} {messageID : UInt16} {dname content : Bytes}
      (type : message[0]? = some 0xFE) (id : messageId message = some messageID)
      (body : parseAndValidate (message.drop 3) "err" = ([dname, content], true))
      (asked : h.fsm.validateAction .errorServer = some (.any, fsm))
      (known : messageID ∈ h.receivedIds) :
      Receipt h message
        ⟨{ h.track (formByeMessage h.renamer3000) with
            fsm := fsm, awaitingOver := true, waitingForConfirmation := true },
          [h.sendConfirmation messageID, h.sendMessage (formByeMessage h.renamer3000)],
          some .waitingForConfirmation⟩
  /-- A new ERR: a BYE goes out and the flag stays as it was. -/
  | errorShown {fsm : FSMValidate} {messageID : UInt16} {dname content : Bytes}
      (type : message[0]? = some 0xFE) (id : messageId message = some messageID)
      (body : parseAndValidate (message.drop 3) "err" = ([dname, content], true))
      (asked : h.fsm.validateAction .errorServer = some (.any, fsm))
      (fresh : messageID ∉ h.receivedIds) :
      Receipt h message
        ⟨{ h.track (formByeMessage h.renamer3000) with
            fsm := fsm, receivedIds := h.receivedIds ++ [messageID], awaitingOver := true },
          [h.sendConfirmation messageID, .errorFromServer dname content,
            h.sendMessage (formByeMessage h.renamer3000)], some .readyForInput⟩
  /-- A BYE. -/
  | bye {messageID : UInt16} (type : message[0]? = some 0xFF)
      (id : messageId message = some messageID) (whole : 3 ≤ message.length) :
      Receipt h message
        ⟨{ h with receivedIds := h.receivedIds ++ [messageID] }, [h.sendConfirmation messageID],
          some .over⟩
  /-- Any other datagram: an error of our own. -/
  | failed {fsm : FSMValidate} {kind : UInt8} {confirmation : List Effect} {error : String}
      (type : message[0]? = some kind) (noConfirm : kind ≠ 0x00) (refused : Refused h.fsm fsm)
      (confirms : (Silent h message ∧ confirmation = []) ∨
        (¬ Silent h message ∧ ∃ id, messageId message = some id ∧
          confirmation = [h.sendConfirmation id])) :
      Receipt h message ({ h with fsm := fsm }.failWith confirmation error)
  /-- A REPLY on which the state machine neither agrees nor refuses. -/
  | undecided {fsm : FSMValidate} {action reaction : Action} (type : message[0]? = some 0x01)
      (server : ServerAction action) (asked : h.fsm.validateAction action = some (reaction, fsm))
      (neither : reaction ≠ .any ∧ reaction ≠ .errorUser) :
      Receipt h message ⟨{ h with fsm := fsm }, [], none⟩

private theorem receipt_of_processConfirm (type : message[0]? = some 0x00)
    (ran : h.processConfirm message = some outcome) : Receipt h message outcome := by
  simp only [processConfirm, Option.bind_eq_bind, Option.bind_eq_some_iff] at ran
  obtain ⟨messageID, read, ran⟩ := ran
  split at ran
  · rename_i awaited
    subst awaited
    split at ran
    · cases ran
      exact .byeConfirmed type read ‹_›
    · rename_i goes
      split at ran
      · cases ran
        exact .errorConfirmed type read (by simpa using goes) ‹_›
      · rename_i sound
        have goes : h.awaitingOver = false := by simpa using goes
        have sound : h.errorSent = false := by simpa using sound
        split at ran
        · rename_i replying
          cases ran
          simpa [replying] using Receipt.confirmed type read goes sound
        · rename_i idle
          have idle : h.waitingForReply = false := by simpa using idle
          cases ran
          simpa [idle] using Receipt.confirmed type read goes sound
  · cases ran
    exact .stray type read ‹_›

theorem Refused.same {fsm : FSMValidate} : Refused fsm fsm := .inl rfl

/-- A datagram of another type is confirmed as soon as it has a whole header. -/
theorem not_silent {kind : UInt8} (type : message[0]? = some kind) (whole : 3 ≤ message.length)
    (other : kind ≠ 0x01 ∧ kind ≠ 0x04 ∧ kind ≠ 0xFE) : ¬ Silent h message := by
  obtain ⟨reply, msg, err⟩ := other
  simp [Silent, type, reply, msg, err]
  omega

/-- A valid body is not empty. -/
theorem body_long {type : String} {parts : List Bytes}
    (body : parseAndValidate (message.drop 3) type = (parts, true)) : 4 ≤ message.length := by
  by_contra short
  rw [List.drop_eq_nil_of_le (by omega), parseAndValidate_nil] at body
  cases body

/-- A MSG or ERR whose body passes has an ID, a name and a content. -/
theorem named_of_valid {type : String} (named : type = "msg" ∨ type = "err")
    (valid : (parseAndValidate (message.drop 3) type).2 = true) :
    ∃ id dname content, messageId message = some id ∧
      parseAndValidate (message.drop 3) type = ([dname, content], true) := by
  cases body : parseAndValidate (message.drop 3) type with
  | mk parts success =>
    rw [body] at valid
    cases valid
    obtain ⟨dname, content, rfl⟩ := named_parts named body
    obtain ⟨id, read⟩ := messageId_of_length (Nat.le_of_succ_le (body_long body))
    exact ⟨id, dname, content, read, rfl⟩

/-- An ERR is confirmed as soon as it has one byte after its header. -/
theorem error_not_silent (type : message[0]? = some 0xFE) (long : 4 ≤ message.length) :
    ¬ Silent h message := by
  simp [Silent, type]
  omega

/-- A MSG is confirmed when its content is valid and the machine accepts it. -/
theorem message_not_silent {fsm : FSMValidate} (type : message[0]? = some 0x04)
    (whole : 3 ≤ message.length) (valid : (parseAndValidate (message.drop 3) "msg").2 = true)
    (asked : h.fsm.validateAction .messageServer = some (.any, fsm)) : ¬ Silent h message := by
  simp [Silent, type, valid, asked]
  omega

/-- A REPLY is confirmed when its content is valid. -/
theorem reply_not_silent (type : message[0]? = some 0x01) (long : 6 ≤ message.length)
    (valid : (parseAndValidate (message.drop 6) "reply").2 = true) : ¬ Silent h message := by
  simp [Silent, type, valid]
  omega

section Failures
variable {kind : UInt8} {fsm : FSMValidate} {error : String} (type : message[0]? = some kind)
  (noConfirm : kind ≠ 0x00) (refused : Refused h.fsm fsm)
include type noConfirm refused

theorem Receipt.silent (silent : Silent h message) :
    Receipt h message ({ h with fsm := fsm }.failWith [] error) :=
  .failed type noConfirm refused (.inl ⟨silent, rfl⟩)

theorem Receipt.loud {messageID : UInt16} (loud : ¬ Silent h message)
    (read : messageId message = some messageID) :
    Receipt h message ({ h with fsm := fsm }.failWith [h.sendConfirmation messageID] error) :=
  .failed type noConfirm refused (.inr ⟨loud, messageID, read, rfl⟩)

end Failures

/-- A REPLY decodes, and the machine is asked about it, or it is an error that
leaves the machine alone. -/
theorem processReply_cases (type : message[0]? = some 0x01)
    (ran : h.processReply message = some outcome) :
    (∃ messageID refID content action shown ignored error,
      DecodesReply message messageID refID content action shown ignored ∧
      h.concludeReply messageID refID action shown ignored error = some outcome) ∨
    (Receipt h message outcome ∧ outcome.handler.fsm = h.fsm) := by
  have noConfirm : (0x01 : UInt8) ≠ 0x00 := by decide
  unfold processReply at ran
  split at ran
  · cases ran
    exact .inr ⟨.silent type noConfirm .same (.inr (.inl ⟨type, .inl ‹_›⟩)), failWith_fsm⟩
  rename_i short
  simp only [Option.bind_eq_bind, Option.bind_eq_some_iff] at ran
  obtain ⟨messageID, read, status, stated, refID, ref, ran⟩ := ran
  cases body : parseAndValidate (message.drop 6) "reply" with
  | mk response success =>
  rw [body] at ran
  cases success with
  | false =>
    cases ran
    exact .inr ⟨.silent type noConfirm .same (.inr (.inl ⟨type, .inr (by rw [body])⟩)), failWith_fsm⟩
  | true =>
    obtain ⟨content, rfl⟩ := reply_parts body
    have loud : ¬ Silent h message := reply_not_silent type (by omega) (by rw [body])
    have decodes {action shown ignored} (result : ReplyResult content status action shown ignored) :
        DecodesReply message messageID refID content action shown ignored :=
      ⟨type, by omega, read, ref, body, status, stated, result⟩
    simp only [↓reduceIte, List.getElem?_cons_zero, Option.bind_some] at ran
    split at ran
    · rename_i negative
      subst negative
      exact .inl ⟨_, _, _, _, _, _, _, decodes .negative, ran⟩
    split at ran
    · rename_i positive
      subst positive
      exact .inl ⟨_, _, _, _, _, _, _, decodes .positive, ran⟩
    · cases ran
      exact .inr ⟨.loud type noConfirm .same loud read, failWith_fsm⟩

theorem receipt_of_processReply (type : message[0]? = some 0x01)
    (ran : h.processReply message = some outcome) : Receipt h message outcome := by
  rcases processReply_cases type ran with
    ⟨messageID, refID, content, action, shown, ignored, error, decodes, ran⟩ | ⟨receipt, -⟩
  · obtain ⟨status, -, result⟩ := decodes.result
    have server : ServerAction action := by cases result <;> simp [ServerAction]
    simp only [concludeReply, Option.bind_eq_bind, Option.bind_eq_some_iff] at ran
    obtain ⟨⟨reaction, fsm⟩, asked, ran⟩ := ran
    split at ran
    · rename_i accepted
      cases accepted
      cases ran
      exact .reply decodes asked
    rename_i refused
    split at ran
    · cases ran
      have loud : ¬ Silent h message :=
        reply_not_silent type decodes.whole (by rw [decodes.body])
      exact .loud type (by decide) (.inr ⟨action, reaction, server, asked, refused⟩) loud decodes.id
    · cases ran
      exact .undecided type server asked ⟨refused, ‹_›⟩
  · exact receipt

theorem receipt_of_processMessage (type : message[0]? = some 0x04)
    (ran : h.processMessage message = some outcome) : Receipt h message outcome := by
  have noConfirm : (0x04 : UInt8) ≠ 0x00 := by decide
  unfold processMessage at ran
  split at ran
  · cases ran
    exact .silent type noConfirm .same (.inl ‹_›)
  simp only [Option.bind_eq_bind, Option.bind_eq_some_iff] at ran
  obtain ⟨messageID, read, ran⟩ := ran
  cases body : parseAndValidate (message.drop 3) "msg" with
  | mk response success =>
  rw [body] at ran
  cases success with
  | false =>
    cases ran
    exact .silent type noConfirm .same (.inr (.inr (.inl ⟨type, .inl (by rw [body])⟩)))
  | true =>
    obtain ⟨dname, content, rfl⟩ := named_parts (.inl rfl) body
    simp only [↓reduceIte, Option.bind_eq_some_iff] at ran
    obtain ⟨⟨reaction, fsm⟩, asked, ran⟩ := ran
    split at ran
    · rename_i accepted
      cases accepted
      split at ran
      · rename_i known
        cases ran
        exact .repeated type read body asked (by simpa [idLookup] using known)
      · rename_i fresh
        simp only [List.getElem?_cons_zero, List.getElem?_cons_succ, Option.bind_some] at ran
        cases ran
        exact .shown type read body asked (by simpa [idLookup] using fresh)
    · rename_i refused
      have refuses (fsm : FSMValidate) :
          h.fsm.validateAction .messageServer ≠ some (.any, fsm) := fun accepts => by
        cases asked.symm.trans accepts
        exact refused rfl
      cases ran
      exact .silent type noConfirm (.inr ⟨_, reaction, .inl rfl, asked, refused⟩)
        (.inr (.inr (.inl ⟨type, .inr refuses⟩)))

theorem receipt_of_processError (type : message[0]? = some 0xFE)
    (ran : h.processError message = some outcome) : Receipt h message outcome := by
  have noConfirm : (0xFE : UInt8) ≠ 0x00 := by decide
  unfold processError at ran
  split at ran
  · cases ran
    exact .silent type noConfirm .same (.inr (.inr (.inr ⟨type, ‹_›⟩)))
  have loud : ¬ Silent h message := error_not_silent type (by omega)
  simp only [Option.bind_eq_bind, Option.bind_eq_some_iff] at ran
  obtain ⟨messageID, read, ran⟩ := ran
  cases body : parseAndValidate (message.drop 3) "err" with
  | mk response success =>
  rw [body] at ran
  cases success with
  | false =>
    cases ran
    exact .loud type noConfirm .same loud read
  | true =>
    obtain ⟨dname, content, rfl⟩ := named_parts (.inr rfl) body
    simp only [↓reduceIte, Option.bind_eq_some_iff] at ran
    obtain ⟨⟨reaction, fsm⟩, asked, ran⟩ := ran
    split at ran
    · rename_i accepted
      cases accepted
      split at ran
      · rename_i known
        cases ran
        exact .errorRepeated type read body asked (by simpa [idLookup] using known)
      · rename_i fresh
        simp only [List.getElem?_cons_zero, List.getElem?_cons_succ, Option.bind_some] at ran
        cases ran
        exact .errorShown type read body asked (by simpa [idLookup] using fresh)
    · cases ran
      exact .loud type noConfirm (.inr ⟨_, reaction, .inr (.inr (.inr rfl)), asked, ‹_›⟩) loud read

theorem receipt_of_processBye (type : message[0]? = some 0xFF)
    (ran : h.processBye message = some outcome) : Receipt h message outcome := by
  unfold processBye at ran
  split at ran
  · cases ran
    exact .silent type (by decide) .same (.inl ‹_›)
  · simp only [Option.bind_eq_bind, Option.bind_eq_some_iff] at ran
    obtain ⟨messageID, read, ran⟩ := ran
    cases ran
    exact .bye type read (by omega)

private theorem receipt_of_processUnknown {kind : UInt8} (type : message[0]? = some kind)
    (noConfirm : kind ≠ 0x00)
    (other : kind ≠ 0x01 ∧ kind ≠ 0x04 ∧ kind ≠ 0xFE) (ran : h.processUnknown message = some outcome) :
    Receipt h message outcome := by
  unfold processUnknown at ran
  split at ran
  · cases ran
    exact .silent type noConfirm .same (.inl ‹_›)
  · simp only [Option.bind_eq_bind, Option.bind_eq_some_iff] at ran
    obtain ⟨messageID, read, ran⟩ := ran
    cases ran
    exact .loud type noConfirm .same (not_silent type (by omega) other) read

/-- Which branch of `process_received` a datagram goes to, and that this branch led to
the outcome. -/
inductive BranchOfType (h : UDPProtocolHandler) (message : Bytes)
    (outcome : Outcome UDPProtocolHandler) : Prop where
  | confirm (type : message[0]? = some 0x00) (ran : h.processConfirm message = some outcome)
  | reply (type : message[0]? = some 0x01) (ran : h.processReply message = some outcome)
  | message (type : message[0]? = some 0x04) (ran : h.processMessage message = some outcome)
  | error (type : message[0]? = some 0xFE) (ran : h.processError message = some outcome)
  | bye (type : message[0]? = some 0xFF) (ran : h.processBye message = some outcome)
  | unknown {kind : UInt8} (type : message[0]? = some kind) (noConfirm : kind ≠ 0x00)
      (noReply : kind ≠ 0x01) (noMessage : kind ≠ 0x04) (noError : kind ≠ 0xFE) (noBye : kind ≠ 0xFF)
      (ran : h.processUnknown message = some outcome)

/-- The first byte decides. -/
theorem branchOfType (ran : h.processReceived message = some outcome) :
    BranchOfType h message outcome := by
  simp only [processReceived, Option.bind_eq_bind, Option.bind_eq_some_iff] at ran
  obtain ⟨kind, type, ran⟩ := ran
  split at ran
  · rename_i confirm
    exact .confirm (confirm ▸ type) ran
  rename_i noConfirm
  split at ran
  · rename_i reply
    exact .reply (reply ▸ type) ran
  rename_i noReply
  split at ran
  · rename_i message
    exact .message (message ▸ type) ran
  rename_i noMessage
  split at ran
  · rename_i error
    exact .error (error ▸ type) ran
  rename_i noError
  split at ran
  · rename_i bye
    exact .bye (bye ▸ type) ran
  · exact .unknown type noConfirm noReply noMessage noError ‹_› ran

/-- Every end of `process_received` follows a rule. -/
theorem receipt_of_processReceived (ran : h.processReceived message = some outcome) :
    Receipt h message outcome := by
  cases branchOfType ran with
  | confirm type ran => exact receipt_of_processConfirm type ran
  | reply type ran => exact receipt_of_processReply type ran
  | message type ran => exact receipt_of_processMessage type ran
  | error type ran => exact receipt_of_processError type ran
  | bye type ran => exact receipt_of_processBye type ran
  | unknown type noConfirm noReply noMessage noError _ ran =>
    exact receipt_of_processUnknown type noConfirm ⟨noReply, noMessage, noError⟩ ran

/-! ## Lines from the user -/

/-- The ends of `process_user_input`. -/
inductive Command (h : UDPProtocolHandler) (line : Bytes) : Outcome UDPProtocolHandler → Prop where
  /-- `/exit`: a BYE. -/
  | exit (exits : line = text "/exit") :
      Command h line
        ⟨{ h.track (formByeMessage h.renamer3000) with
            awaitingOver := true, waitingForConfirmation := true },
          [h.sendMessage (formByeMessage h.renamer3000)], some .waitingForConfirmation⟩
  /-- An error put off earlier takes the place of the line. -/
  | deferred (other : line ≠ text "/exit") (pending : h.errorWhileWaiting = true) :
      Command h line
        ⟨(h.sendErrorMessage h.errorMessage).1, (h.sendErrorMessage h.errorMessage).2,
          some .waitingForConfirmation⟩
  /-- A command turned down. -/
  | rejected {fsm : FSMValidate} {reason : Bytes} (other : line ≠ text "/exit")
      (asked : Consulted UserAction h.fsm fsm) : Command h line ({ h with fsm := fsm }.reject reason)
  /-- An `/auth` or `/join` that is sent. -/
  | requested {fsm : FSMValidate} {validator : UDPMessageValidator} {action : Action}
      {code : UInt8} {body : Bytes} (other : line ≠ text "/exit")
      (clear : h.errorWhileWaiting = false)
      (kind : (code = 0x02 ∧ action = .authorizeUser) ∨ (code = 0x03 ∧ action = .joinUser))
      (asked : h.fsm.validateAction action = some (.any, fsm)) :
      Command h line
        ({ h with
            fsm := fsm
            messageValidator := validator
            waitingForReply := true
            awaitedReplyId := h.renamer3000 }.sendRequest (header code h.renamer3000 ++ body))
  /-- A text that is sent. -/
  | spoken {fsm : FSMValidate} {body : Bytes} (other : line ≠ text "/exit")
      (clear : h.errorWhileWaiting = false)
      (asked : h.fsm.validateAction .messageUser = some (.any, fsm))
      (carries : body = h.messageValidator.displayName ++ [0] ++ line ++ [0])
      (content : validateContent line = true) :
      Command h line
        ({ h with fsm := fsm, waitingForReply := false, awaitedReplyId := noId }.sendRequest
          (header 0x04 h.renamer3000 ++ body))
  /-- A `/rename` that succeeds runs off the end of the function. -/
  | renamed {validator : UDPMessageValidator} (other : line ≠ text "/exit") :
      Command h line ⟨{ h with messageValidator := validator }, [], none⟩
  /-- `/help`. -/
  | helped (other : line ≠ text "/exit") : Command h line ⟨h, [.printHelp], some .readyForInput⟩
  /-- A command on which the state machine neither agrees nor warns. -/
  | undecided {fsm : FSMValidate} {action reaction : Action} (other : line ≠ text "/exit")
      (user : UserAction action) (asked : h.fsm.validateAction action = some (reaction, fsm))
      (neither : reaction ≠ .any ∧ reaction ≠ .warnClient) :
      Command h line ⟨{ h with fsm := fsm }, [], none⟩

section Commands
variable {line argument : Bytes} (other : line ≠ text "/exit") (clear : h.errorWhileWaiting = false)
include other

/-- A command the state machine did not accept. -/
theorem command_of_refusal {fsm : FSMValidate} {action reaction : Action} {reason : String}
    (user : UserAction action) (asked : h.fsm.validateAction action = some (reaction, fsm))
    (refused : reaction ≠ .any)
    (ran : (if reaction = .warnClient then some ({ h with fsm := fsm }.reject (text reason))
      else some ⟨{ h with fsm := fsm }, [], none⟩) = some outcome) : Command h line outcome := by
  split at ran
  · cases ran
    exact .rejected other (.inr ⟨action, reaction, user, asked⟩)
  · cases ran
    exact .undecided other user asked ⟨refused, ‹_›⟩

include clear

theorem command_of_processAuth (ran : h.processAuth argument = some outcome) :
    Command h line outcome := by
  have user : UserAction .authorizeUser := .inl rfl
  simp only [processAuth, Option.bind_eq_bind, Option.bind_eq_some_iff] at ran
  obtain ⟨⟨reaction, fsm⟩, asked, ran⟩ := ran
  split at ran
  · rename_i accepted
    cases accepted
    have machine : Consulted UserAction h.fsm fsm := .inr ⟨_, _, user, asked⟩
    split at ran
    · unfold authorizeValidate at ran
      split at ran
      · cases ran
        exact .rejected other machine
      · cases ran
        simp only [List.append_assoc]
        exact .requested other clear (.inl ⟨rfl, rfl⟩) asked
    · cases ran
      exact .rejected other machine
  · exact command_of_refusal other user asked ‹_› ran

theorem command_of_processJoin (ran : h.processJoin argument = some outcome) :
    Command h line outcome := by
  have user : UserAction .joinUser := .inr (.inl rfl)
  simp only [processJoin, Option.bind_eq_bind, Option.bind_eq_some_iff] at ran
  obtain ⟨⟨reaction, fsm⟩, asked, ran⟩ := ran
  split at ran
  · rename_i accepted
    cases accepted
    have machine : Consulted UserAction h.fsm fsm := .inr ⟨_, _, user, asked⟩
    split at ran
    · unfold joinValidate at ran
      split at ran
      · cases ran
        exact .rejected other machine
      · cases ran
        simp only [List.append_assoc]
        exact .requested other clear (.inr ⟨rfl, rfl⟩) asked
    · cases ran
      exact .rejected other machine
  · exact command_of_refusal other user asked ‹_› ran

theorem command_of_processText (ran : h.processText line = some outcome) :
    Command h line outcome := by
  have user : UserAction .messageUser := .inr (.inr rfl)
  unfold processText at ran
  split at ran
  · cases ran
    exact .rejected other .same
  simp only [Option.bind_eq_bind, Option.bind_eq_some_iff] at ran
  obtain ⟨⟨reaction, fsm⟩, asked, ran⟩ := ran
  split at ran
  · rename_i accepted
    cases accepted
    unfold messageValidate at ran
    split at ran
    · cases ran
      exact .rejected other (.inr ⟨_, _, user, asked⟩)
    · rename_i valid
      cases ran
      simp only [List.append_assoc]
      exact .spoken other clear asked (by simp) (by simpa using valid)
  · exact command_of_refusal other user asked ‹_› ran

end Commands

theorem command_of_processRename {line argument : Bytes} (other : line ≠ text "/exit") :
    Command h line (h.processRename argument) := by
  simp only [processRename, UDPMessageValidator.rename]
  split
  · exact .renamed other
  · exact .rejected other .same

/-- Every end of `process_user_input` follows a rule. -/
theorem command_of_processUserInput {line : Bytes} (ran : h.processUserInput line = some outcome) :
    Command h line outcome := by
  simp only [processUserInput] at ran
  split at ran
  · cases ran
    exact .exit ‹_›
  rename_i other
  split at ran
  · cases ran
    exact .deferred other ‹_›
  rename_i clear
  have clear : h.errorWhileWaiting = false := by simpa using clear
  cases dispatched_of_eq ran with
  | auth _ ran => exact command_of_processAuth other clear ran
  | join _ ran => exact command_of_processJoin other clear ran
  | rename _ ran =>
    cases ran
    exact command_of_processRename other
  | help _ ran =>
    cases ran
    exact .helped other
  | plain _ _ _ _ ran => exact command_of_processText other clear ran

/-! ## The state machine under the handler -/

section Machine
variable {line : Bytes}

theorem ReplyResult.answer {content : Bytes} {status : UInt8} {action : Action} {shown : Effect}
    {ignored : ClientState} (result : ReplyResult content status action shown ignored) :
    AnswerAction action := by
  cases result
  · exact .inr (.inl rfl)
  · exact .inl rfl

/-- A call for a datagram consults the state machine about a server action. -/
theorem Receipt.consulted (receipt : Receipt h message outcome) :
    Consulted ServerAction h.fsm outcome.handler.fsm := by
  cases receipt with
  | byeConfirmed | errorConfirmed | confirmed | stray | bye => exact .inl rfl
  | reply decodes asked =>
    obtain ⟨_, _, result⟩ := decodes.result
    rw [settleReply_fsm]
    exact .inr ⟨_, _, .inr result.answer, asked⟩
  | repeated _ _ _ asked | shown _ _ _ asked => exact .inr ⟨_, _, .inl rfl, asked⟩
  | errorRepeated _ _ _ asked | errorShown _ _ _ asked =>
    exact .inr ⟨_, _, .inr (.inr (.inr rfl)), asked⟩
  | failed _ _ refused =>
    rw [failWith_fsm]
    exact refused.imp_right fun ⟨action, reaction, server, asked, _⟩ =>
      ⟨action, reaction, server, asked⟩
  | undecided _ server asked => exact .inr ⟨_, _, server, asked⟩

/-- A call for a line consults the state machine about a user action. -/
theorem Command.consulted (command : Command h line outcome) :
    Consulted UserAction h.fsm outcome.handler.fsm := by
  cases command with
  | exit | renamed | helped => exact .inl rfl
  | deferred => exact .inl sendErrorMessage_fsm
  | rejected _ asked => exact asked
  | requested _ _ kind asked =>
    rcases kind with ⟨-, rfl⟩ | ⟨-, rfl⟩
    · exact .inr ⟨_, _, .inl rfl, asked⟩
    · exact .inr ⟨_, _, .inr (.inl rfl), asked⟩
  | spoken _ _ asked => exact .inr ⟨_, _, .inr (.inr rfl), asked⟩
  | undecided _ user asked => exact .inr ⟨_, _, user, asked⟩

private theorem concludeReply_defined (legal : Legal h.fsm) {messageID refID : UInt16}
    {action : Action}
    {shown : Effect} {ignored : ClientState} {error : String} (server : ServerAction action) :
    ∃ outcome, h.concludeReply messageID refID action shown ignored error = some outcome := by
  obtain ⟨reaction, after, asked, -, rfl | rfl⟩ := legal.server server
  · exact ⟨_, by simp [concludeReply, asked]; rfl⟩
  · exact ⟨_, by simp [concludeReply, asked]; rfl⟩

section Defined
variable {id : UInt16} (legal : Legal h.fsm) (read : readId message 1 = some id)
include legal read

private theorem processReply_defined : ∃ outcome, h.processReply message = some outcome := by
  unfold processReply
  split
  · exact ⟨_, rfl⟩
  rename_i long
  obtain ⟨ref, readRef⟩ := readId_of_length (show 4 + 1 < message.length by omega)
  have status : message[3]? = some message[3] := by simp
  cases body : parseAndValidate (message.drop 6) "reply" with
  | mk response success =>
  simp only [read, readRef, status, Option.bind_eq_bind, Option.bind_some]
  cases success with
  | false => exact ⟨_, rfl⟩
  | true =>
    obtain ⟨content, rfl⟩ := reply_parts body
    simp only [↓reduceIte, List.getElem?_cons_zero, Option.bind_some]
    split
    · exact concludeReply_defined legal (.inr (.inr (.inl rfl)))
    split
    · exact concludeReply_defined legal (.inr (.inl rfl))
    · exact ⟨_, rfl⟩

private theorem processMessage_defined : ∃ outcome, h.processMessage message = some outcome := by
  obtain ⟨reaction, after, asked, -, -⟩ := legal.server (show ServerAction .messageServer from .inl rfl)
  unfold processMessage
  split
  · exact ⟨_, rfl⟩
  cases body : parseAndValidate (message.drop 3) "msg" with
  | mk response success =>
  simp only [read, Option.bind_eq_bind, Option.bind_some]
  cases success with
  | false => exact ⟨_, rfl⟩
  | true =>
    obtain ⟨dname, content, rfl⟩ := named_parts (.inl rfl) body
    simp only [↓reduceIte, asked, Option.bind_some, List.getElem?_cons_zero, List.getElem?_cons_succ]
    refine Defined.ite (fun accepted => ?_) fun refused => .some _
    exact .ite (fun repeated => .some _) fun new => .some _

private theorem processError_defined : ∃ outcome, h.processError message = some outcome := by
  obtain ⟨reaction, after, asked, -, -⟩ :=
    legal.server (show ServerAction .errorServer from .inr (.inr (.inr rfl)))
  unfold processError
  split
  · exact ⟨_, rfl⟩
  cases body : parseAndValidate (message.drop 3) "err" with
  | mk response success =>
  simp only [read, Option.bind_eq_bind, Option.bind_some]
  cases success with
  | false => exact ⟨_, rfl⟩
  | true =>
    obtain ⟨dname, content, rfl⟩ := named_parts (.inr rfl) body
    simp only [↓reduceIte, asked, Option.bind_some, List.getElem?_cons_zero, List.getElem?_cons_succ]
    refine Defined.ite (fun accepted => ?_) fun refused => .some _
    exact .ite (fun repeated => .some _) fun new => .some _

end Defined

/-- A datagram with a whole header is processed without undefined behaviour. -/
theorem processReceived_defined (legal : Legal h.fsm) (whole : 3 ≤ message.length) :
    ∃ outcome, h.processReceived message = some outcome := by
  obtain ⟨id, read⟩ := messageId_of_length whole
  have read : readId message 1 = some id := read
  have type : message[0]? = some message[0] := by simp
  simp only [processReceived, type, Option.bind_eq_bind, Option.bind_some]
  split
  · simp only [processConfirm, read, Option.bind_eq_bind, Option.bind_some]
    refine Defined.ite (fun awaited => ?_) fun foreign => .some _
    refine .ite (fun ends => .some _) fun goes => .ite (fun errorSent => .some _) fun noError => ?_
    exact .ite (fun reply => .some _) fun noReply => .some _
  split
  · exact processReply_defined legal read
  split
  · exact processMessage_defined legal read
  split
  · exact processError_defined legal read
  split
  · simp only [processBye, read, Option.bind_eq_bind, Option.bind_some]
    split <;> exact ⟨_, rfl⟩
  · simp only [processUnknown, read, Option.bind_eq_bind, Option.bind_some]
    split <;> exact ⟨_, rfl⟩

end Machine

/-! ## Datagrams that decode -/

section Decoded
variable {fsm : FSMValidate} {messageID : UInt16} {dname content : Bytes} {reaction : Action}

section Reply
variable {refID : UInt16} {action : Action} {shown : Effect} {ignored : ClientState}
  (decodes : DecodesReply message messageID refID content action shown ignored)
include decodes

theorem processReceived_decoded : ∃ error, h.processReceived message =
    h.concludeReply messageID refID action shown ignored error := by
  obtain ⟨type, whole, id, ref, body, status, stated, result⟩ := decodes
  have long : ¬ message.length < 6 := by omega
  cases result <;>
    exact ⟨_, by simp [processReceived, type, processReply, long, id, ref, stated, body]; rfl⟩

theorem processReceived_reply (asked : h.fsm.validateAction action = some (.any, fsm)) :
    h.processReceived message =
      some ({ h with fsm := fsm }.settleReply messageID refID shown ignored) := by
  obtain ⟨error, ran⟩ := @processReceived_decoded h _ _ _ _ _ _ _ decodes
  simp [ran, concludeReply, asked]

/-- A REPLY takes the state machine where its action does. -/
theorem processReceived_reply_fsm (asked : h.fsm.validateAction action = some (reaction, fsm))
    (ran : h.processReceived message = some outcome) : outcome.handler.fsm = fsm := by
  obtain ⟨error, decoded⟩ := @processReceived_decoded h _ _ _ _ _ _ _ decodes
  simp only [decoded, concludeReply, asked, Option.bind_eq_bind, Option.bind_some] at ran
  split at ran
  · cases ran
    exact settleReply_fsm
  split at ran
  · cases ran
    exact failWith_fsm
  · cases ran
    rfl

end Reply

/-- The CONFIRM of an AUTH, a JOIN or a MSG. -/
theorem processReceived_confirm (type : message[0]? = some 0x00)
    (id : messageId message = some h.awaitedConirmId) (goes : h.awaitingOver = false)
    (sound : h.errorSent = false) :
    h.processReceived message = some
      ⟨{ h with
          awaitedConirmId := noId
          waitingForReply := false
          waitingForConfirmation := false }, [],
        some (if h.waitingForReply then .waitingForReply else .readyForInput)⟩ := by
  have id : readId message 1 = some h.awaitedConirmId := id
  cases asks : h.waitingForReply <;>
    simp [processReceived, type, processConfirm, id, goes, sound, asks]

theorem processReceived_message (type : message[0]? = some 0x04)
    (id : messageId message = some messageID)
    (body : parseAndValidate (message.drop 3) "msg" = ([dname, content], true))
    (asked : h.fsm.validateAction .messageServer = some (.any, fsm)) :
    h.processReceived message = some (
      if messageID ∈ h.receivedIds then
        ⟨{ h with fsm := fsm }, [h.sendConfirmation messageID], some .readyForInput⟩
      else
        ⟨{ h with fsm := fsm, receivedIds := h.receivedIds ++ [messageID] },
          [h.sendConfirmation messageID, .messageFromServer dname content], some .readyForInput⟩) := by
  have id : readId message 1 = some messageID := id
  have whole : ¬ message.length < 3 := by
    have := length_of_messageId id
    omega
  by_cases known : messageID ∈ h.receivedIds <;>
    simp [processReceived, type, processMessage, whole, id, body, asked, idLookup, known]
  all_goals rfl

theorem processReceived_error (type : message[0]? = some 0xFE)
    (id : messageId message = some messageID)
    (body : parseAndValidate (message.drop 3) "err" = ([dname, content], true))
    (asked : h.fsm.validateAction .errorServer = some (.any, fsm)) :
    h.processReceived message = some (
      if messageID ∈ h.receivedIds then
        ⟨{ h.track (formByeMessage h.renamer3000) with
            fsm := fsm, awaitingOver := true, waitingForConfirmation := true },
          [h.sendConfirmation messageID, h.sendMessage (formByeMessage h.renamer3000)],
          some .waitingForConfirmation⟩
      else
        ⟨{ h.track (formByeMessage h.renamer3000) with
            fsm := fsm, receivedIds := h.receivedIds ++ [messageID], awaitingOver := true },
          [h.sendConfirmation messageID, .errorFromServer dname content,
            h.sendMessage (formByeMessage h.renamer3000)], some .readyForInput⟩) := by
  have id : readId message 1 = some messageID := id
  have long : ¬ message.length < 4 := by
    have := body_long body
    omega
  by_cases known : messageID ∈ h.receivedIds <;>
    simp [processReceived, type, processError, long, id, body, asked, idLookup, known, sendBye,
      track, sendMessage, sendConfirmation]

/-- An ERR takes the state machine where its action does. -/
theorem processReceived_error_fsm (type : message[0]? = some 0xFE)
    (id : messageId message = some messageID)
    (body : parseAndValidate (message.drop 3) "err" = ([dname, content], true))
    (asked : h.fsm.validateAction .errorServer = some (reaction, fsm))
    (ran : h.processReceived message = some outcome) : outcome.handler.fsm = fsm := by
  have id : readId message 1 = some messageID := id
  have long : ¬ message.length < 4 := by
    have := body_long body
    omega
  simp [processReceived, type, processError, long, id, body, asked] at ran
  split at ran
  · split at ran
    · cases ran
      rfl
    · cases ran
      rfl
  · cases ran
    exact failWith_fsm

theorem processReceived_bye (type : message[0]? = some 0xFF) (whole : 3 ≤ message.length)
    (id : messageId message = some messageID) :
    h.processReceived message =
      some ⟨{ h with receivedIds := h.receivedIds ++ [messageID] }, [h.sendConfirmation messageID],
        some .over⟩ := by
  have id : readId message 1 = some messageID := id
  have whole : ¬ message.length < 3 := by omega
  simp [processReceived, type, processBye, whole, id]

end Decoded

end ChatClient.UDPProtocolHandler
