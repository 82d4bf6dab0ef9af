import ChatClient.UDPReplies

/-! Input gating over UDP. A request stays open until its reply is displayed, but
the CONFIRM already clears `waiting_for_reply`, and from then on each branch of
`process_received` returns a state of its own choice: a MSG, an ignored positive
REPLY, an ERR or one more CONFIRM reopen stdin over the request, and an ignored
negative REPLY closes it for nothing. -/

namespace ChatClient

open Transition Obligation UDPProtocolHandler UDPMessageValidator FSMValidate

variable {server : SockAddr} {retries : UInt8} {history : List UDPTurn} {turn : UDPTurn}
  {loop after : StreamHandler UDPProtocolHandler} {event : Event Datagram}
  {report : Report Datagram} {h : UDPProtocolHandler} {message line : Bytes}
  {outcome : Outcome UDPProtocolHandler}

/-- READY_FOR_INPUT is returned when no request is open, WAITING_FOR_REPLY when one
is; so no command is read over an open request, and stdin is not kept shut for a
reply nobody owes. -/
structure GatesInput (before : List UDPTurn) (turn : UDPTurn) : Prop where
  ready : ∀ datagram, turn.output.call = .processServerMessage datagram →
    turn.output.returned.getD .readyForInput = .readyForInput → openRequests (before ++ [turn]) = []
  replying : ∀ datagram, turn.output.call = .processServerMessage datagram →
    turn.output.returned = some .waitingForReply → openRequests (before ++ [turn]) ≠ []
  commands : ∀ line, turn.output.call = .processUserInput line → line ≠ text "/exit" →
    openRequests before = []
  owed : turn.before.state = .waitingForReply → openRequests before ≠ []

/-- A REPLY with a result that the state machine accepts and `awaited_reply_id`
does not name. -/
def IgnoredReply (h : UDPProtocolHandler) (message : Bytes) (action : Action) : Prop :=
  ∃ id refID content shown ignored, DecodesReply message id refID content action shown ignored ∧
    Answerable h.fsm ∧ refID ≠ h.awaitedReplyId

/-- The datagrams that answer no request and still have the client ready: a MSG in
OPEN, an ignored positive REPLY, a new ERR that is accepted, and a CONFIRM of the
ID that is awaited when nothing is. -/
def Reopens (h : UDPProtocolHandler) (message : Bytes) : Prop :=
  (message[0]? = some 0x04 ∧ (parseAndValidate (message.drop 3) "msg").2 = true ∧
    h.fsm.currentState = .opened) ∨
  IgnoredReply h message .replyServer ∨
  (message[0]? = some 0xFE ∧ (parseAndValidate (message.drop 3) "err").2 = true ∧
    Answerable h.fsm ∧ ∀ id, messageId message = some id → id ∉ h.receivedIds) ∨
  (message[0]? = some 0x00 ∧ messageId message = some h.awaitedConirmId ∧
    h.awaitingOver = false ∧ h.waitingForReply = false)

/-- With nothing unconfirmed, a datagram reopens stdin over an open request, or
shuts it without one. -/
def Misgates (before : List UDPTurn) (turn : UDPTurn) : Prop :=
  ∃ message, received turn = some message ∧
    turn.before.protocolHandler.waitingForConfirmation = false ∧
    ((openRequests before ≠ [] ∧ Reopens turn.before.protocolHandler message) ∨
      (openRequests before = [] ∧
        IgnoredReply turn.before.protocolHandler message .nreplyServer))

/-! ## What the handler remembers of an open request -/

/-- The fields behind gating agree with the book of requests. -/
structure Asking (history : List UDPTurn) (loop : StreamHandler UDPProtocolHandler) : Prop where
  one : ∀ request ∈ openRequests history,
    messageId request = some loop.protocolHandler.awaitedReplyId
  owes : loop.protocolHandler.waitingForReply = true → openRequests history ≠ []
  unconfirmed : openRequests history ≠ [] → loop.protocolHandler.waitingForConfirmation = true →
    loop.protocolHandler.waitingForReply = true ∨ loop.protocolHandler.errorSent = true ∨
      loop.protocolHandler.awaitingOver = true
  ready : loop.state = .readyForInput → openRequests history = []
  replying : loop.state = .waitingForReply → openRequests history ≠ []

/-- What one call does to the flags behind gating, if it settles no request. -/
structure KeepsGate (h after : UDPProtocolHandler) : Prop where
  awaits : after.awaitedReplyId = h.awaitedReplyId
  owes : after.waitingForReply = true → h.waitingForReply = true
  unconfirmed : after.waitingForConfirmation = true → after.errorSent = true ∨
    after.awaitingOver = true ∨ (h.waitingForConfirmation = true ∧
      after.waitingForReply = h.waitingForReply ∧ after.errorSent = h.errorSent ∧
      after.awaitingOver = h.awaitingOver)

theorem KeepsGate.same (h : UDPProtocolHandler) (fsm : FSMValidate) (ids : List UInt16) :
    KeepsGate h { h with fsm := fsm, receivedIds := ids } :=
  ⟨rfl, id, fun waits => .inr (.inr ⟨waits, rfl, rfl, rfl⟩)⟩

theorem KeepsGate.refl : KeepsGate h h := .same h h.fsm h.receivedIds

private theorem sendErrorMessage_keepsGate {fsm : FSMValidate} {error : Bytes} :
    KeepsGate h ({ h with fsm := fsm }.sendErrorMessage error).1 := by
  unfold sendErrorMessage
  split
  · exact ⟨rfl, id, fun waits => .inr (.inr ⟨waits, rfl, rfl, rfl⟩)⟩
  · exact ⟨rfl, id, fun _ => .inl rfl⟩

/-- A call for a datagram shows the awaited reply, or keeps the gate and shows
none. -/
theorem UDPProtocolHandler.Receipt.gate (receipt : Receipt h message outcome) :
    (∃ id content action shown ignored,
      DecodesReply message id h.awaitedReplyId content action shown ignored ∧
      shown ∈ outcome.effects ∧ outcome.handler.waitingForReply = false) ∨
    ((∀ effect ∈ outcome.effects, effect.reply = none) ∧ KeepsGate h outcome.handler) := by
  cases receipt with
  | reply decodes =>
    unfold settleReply
    split
    · rename_i awaited
      exact .inl ⟨_, _, _, _, _, awaited ▸ decodes, .head _, rfl⟩
    · exact .inr ⟨by simp [sendConfirmation, sendMessage, Effect.reply], .same _ _ _⟩
  | failed _ _ _ confirms =>
    refine .inr ⟨fun effect member => ?_, sendErrorMessage_keepsGate⟩
    obtain ⟨m, rfl⟩ := mem_failWith confirms member
    rfl
  | byeConfirmed | confirmed =>
    exact .inr ⟨by simp, rfl, by simp, by simp⟩
  | errorConfirmed | errorRepeated | errorShown =>
    exact .inr ⟨by simp [sendConfirmation, sendMessage, Effect.reply], rfl, id, fun _ => .inr (.inl rfl)⟩
  | stray | repeated | shown | bye | undecided =>
    exact .inr ⟨by simp [sendConfirmation, sendMessage, Effect.reply], .same _ _ _⟩

/-- A line that originates a request waits for its reply; a text stops waiting for
one; any other line keeps the gate. -/
theorem UDPProtocolHandler.Command.gate (command : Command h line outcome) :
    ((issued outcome.effects).filter isRequest = [] ∧ KeepsGate h outcome.handler) ∨
    (line ≠ text "/exit" ∧ outcome.returned = some .waitingForConfirmation ∧
      (((issued outcome.effects).filter isRequest = [] ∧ outcome.handler.waitingForReply = false) ∨
      ((issued outcome.effects).filter isRequest ≠ [] ∧ outcome.handler.waitingForReply = true))) := by
  cases command with
  | exit =>
    refine .inl ⟨?_, rfl, id, fun _ => .inr (.inl rfl)⟩
    rw [issued_message (by simp)]
    simp [isRequest]
  | deferred =>
    refine .inl ⟨List.filter_eq_nil_iff.mpr fun m issues => ?_, sendErrorMessage_keepsGate⟩
    simp [not_request (error_of_mem_sendErrorMessage issues) (by decide)]
  | requested other _ kind =>
    refine .inr ⟨other, rfl, .inr ⟨?_, rfl⟩⟩
    rcases kind with ⟨rfl, -⟩ | ⟨rfl, -⟩
    · rw [sendRequest, issued_message (by simp)]
      simp [isRequest]
    · rw [sendRequest, issued_message (by simp)]
      simp [isRequest]
  | spoken other =>
    refine .inr ⟨other, rfl, .inl ⟨?_, rfl⟩⟩
    rw [sendRequest, issued_message (by simp)]
    simp [isRequest]
  | rejected | renamed | helped | undecided =>
    exact .inl ⟨rfl, rfl, id, fun waits => .inr (.inr ⟨waits, rfl, rfl, rfl⟩)⟩

/-- A line returns WAITING_FOR_CONFIRMATION or leaves the client ready with nothing
sent. -/
theorem UDPProtocolHandler.Command.ready (command : Command h line outcome) :
    outcome.returned = some .waitingForConfirmation ∨
      (outcome.returned.getD .readyForInput = .readyForInput ∧ issued outcome.effects = []) := by
  cases command with
  | exit | deferred | requested | spoken => exact .inl rfl
  | rejected | renamed | helped | undecided => exact .inr ⟨rfl, rfl⟩

/-! ## The book over one turn -/

private theorem openRequests_snoc : openRequests (history ++ [turn]) =
    settled (displayedReply turn) (openRequests history) ++ requests turn := by
  rw [openRequests, List.flatMap_append, List.flatMap_singleton, requestEntries, outstanding_turn]
  rfl

section Received
variable {fromAddr : SockAddr} {buffer : RecvBuffer} {inner : Outcome UDPProtocolHandler}
  {returned : Option ClientState}
  (called : { loop.protocolHandler with serverAddress := fromAddr }.processReceived buffer.val =
    some inner)
include called

private theorem requests_received : requests
    ⟨loop, event, ⟨.processServerMessage (.received fromAddr buffer),
    inner.effects, returned⟩, after⟩ = [] := by
  refine requests_eq_nil fun m member => ?_
  rcases (receipt_of_processReceived called).originates member with error | bye
  · exact not_request error (by decide)
  · exact not_request bye (by decide)

private theorem openRequests_plain (plain : ∀ effect ∈ inner.effects, effect.reply = none) :
    openRequests (history ++ [⟨loop, event, ⟨.processServerMessage (.received fromAddr buffer),
      inner.effects, returned⟩, after⟩]) = openRequests history := by
  rw [openRequests_snoc, requests_received called, displayedReply_eq_none plain]
  simp [settled]

private theorem openRequests_received
    (one : ∀ request ∈ openRequests history,
      messageId request = some loop.protocolHandler.awaitedReplyId) :
    (openRequests (history ++ [⟨loop, event, ⟨.processServerMessage (.received fromAddr buffer),
        inner.effects, returned⟩, after⟩]) = [] ∧
      inner.handler.waitingForReply = false ∧ buffer.val[0]? = some 0x01 ∧
      readId buffer.val 4 = some loop.protocolHandler.awaitedReplyId) ∨
    (openRequests (history ++ [⟨loop, event, ⟨.processServerMessage (.received fromAddr buffer),
        inner.effects, returned⟩, after⟩]) = openRequests history ∧
      (∀ effect ∈ inner.effects, effect.reply = none) ∧
      KeepsGate loop.protocolHandler inner.handler) := by
  have receipt := receipt_of_processReceived called
  rcases receipt.gate with ⟨id, content, action, shown, ignored, decodes, member, cleared⟩ |
    ⟨plain, keeps⟩
  · refine .inl ⟨?_, cleared, decodes.type, decodes.ref⟩
    have shows : inner.effects.any (fun effect => effect.reply.isSome) = true := by
      refine List.any_eq_true.mpr ⟨shown, member, ?_⟩
      obtain ⟨_, _, _ | _⟩ := decodes.result <;> rfl
    have ref : readId buffer.val 4 = some loop.protocolHandler.awaitedReplyId := decodes.ref
    rw [openRequests_snoc, requests_received called, List.append_nil, displayedReply, if_pos shows]
    simpa [received, ref, settled] using one
  · exact .inr ⟨openRequests_plain called plain, plain, keeps.awaits, keeps.owes, keeps.unconfirmed⟩

end Received

/-- READY_FOR_INPUT comes from a displayed reply, from a datagram that reopens
stdin, or from the CONFIRM of what is waited for. -/
theorem UDPProtocolHandler.Receipt.ready (receipt : Receipt h message outcome)
    (legal : h.fsm.Legal) (returns : outcome.returned.getD .readyForInput = .readyForInput) :
    (∃ effect ∈ outcome.effects, effect.reply ≠ none) ∨
    (Reopens h message ∧ outcome.handler.waitingForConfirmation = h.waitingForConfirmation) ∨
    (message[0]? = some 0x00 ∧ messageId message = some h.awaitedConirmId ∧
      h.awaitingOver = false ∧ h.waitingForReply = false ∧ h.errorSent = false) := by
  cases receipt with
  | confirmed type id goes sound =>
    refine .inr (.inr ⟨type, id, goes, ?_, sound⟩)
    by_contra asks
    simp [asks] at returns
  | @reply _ _ refID _ _ shown _ decodes asked =>
    by_cases awaited : refID = h.awaitedReplyId
    · refine .inl ⟨shown, by simp [settleReply, awaited], ?_⟩
      obtain ⟨_, _, _ | _⟩ := decodes.result <;> simp [Effect.reply]
    · refine .inr (.inl ⟨.inr (.inl ?_), by simp [settleReply, awaited]⟩)
      obtain ⟨_, _, result⟩ := decodes.result
      have answerable := (legal.answered result.answer asked).answerable
      cases result with
      | positive => exact ⟨_, _, _, _, _, decodes, answerable, awaited⟩
      | negative => simp [settleReply, awaited] at returns
  | repeated type id body asked | shown type id body asked =>
    exact .inr (.inl ⟨.inl ⟨type, by rw [body], (legal.spoken (.inl rfl) asked).1⟩, rfl⟩)
  | errorShown type id body asked fresh =>
    refine .inr (.inl ⟨.inr (.inr (.inl ⟨type, by rw [body], ?_, ?_⟩)), rfl⟩)
    · exact (legal.answered (.inr (.inr rfl)) asked).answerable
    · intro other same
      rwa [Option.some.inj (same.symm.trans id)]
  | undecided type server asked neither =>
    exact absurd neither (legal.decided (.inl server) asked)
  | byeConfirmed | errorConfirmed | stray | errorRepeated | bye | failed => cases returns

/-- WAITING_FOR_REPLY comes from the CONFIRM of a request or from an ignored
negative REPLY. -/
theorem UDPProtocolHandler.Receipt.replying (receipt : Receipt h message outcome)
    (legal : h.fsm.Legal) (returns : outcome.returned = some .waitingForReply) :
    (message[0]? ≠ some 0x01 ∧ h.waitingForReply = true) ∨
    (IgnoredReply h message .nreplyServer ∧
      outcome.handler.waitingForConfirmation = h.waitingForConfirmation) := by
  cases receipt with
  | confirmed type =>
    refine .inl ⟨by simp [type], ?_⟩
    by_contra asks
    simp [asks] at returns
  | @reply _ _ refID _ _ _ _ decodes asked =>
    by_cases awaited : refID = h.awaitedReplyId
    · simp [settleReply, awaited] at returns
    · refine .inr ⟨?_, by simp [settleReply, awaited]⟩
      obtain ⟨_, _, result⟩ := decodes.result
      have answerable := (legal.answered result.answer asked).answerable
      cases result with
      | positive => simp [settleReply, awaited] at returns
      | negative => exact ⟨_, _, _, _, _, decodes, answerable, awaited⟩
  | byeConfirmed | errorConfirmed | stray | repeated | shown | errorRepeated | errorShown | bye
  | failed | undecided => cases returns

/-! ## Runs without such a datagram -/

/-- From a state that agrees with the book, a call for a datagram that does not
misgate returns what the book says. -/
theorem Asking.gates_received (asking : Asking history loop) (legal : loop.protocolHandler.fsm.Legal)
    (ran : loop.iterate event = some (report, after))
    (sound : ¬ Misgates history ⟨loop, event, report, after⟩) {datagram : Datagram}
    (calls : report.call = .processServerMessage datagram) :
    (report.returned.getD .readyForInput = .readyForInput →
      openRequests (history ++ [⟨loop, event, report, after⟩]) = []) ∧
    (report.returned = some .waitingForReply →
      openRequests (history ++ [⟨loop, event, report, after⟩]) ≠ []) := by
  obtain ⟨-, iteration⟩ := udpIteration_of_iterate ran
  cases iteration with
  | @received fromAddr buffer inner returned _ called decides =>
    have receipt := receipt_of_processReceived called
    have book := @openRequests_received _ _ after (.poll (.socket (.received fromAddr buffer))) _ _ _
      returned called asking.one
    have unarmed (flag : inner.handler.waitingForConfirmation = false) : returned = inner.returned := by
      simp [decides, flag]
    have flag (other : returned ≠ some .waitingForConfirmation) :
        inner.handler.waitingForConfirmation = false := by
      by_contra armed
      exact other (decides.trans (if_pos (by simpa using armed)))
    constructor
    · intro returns
      have idle := flag (by rintro rfl; cases returns)
      rw [unarmed idle] at returns
      rcases book with ⟨none, -⟩ | ⟨same, plain, -⟩
      · exact none
      · rw [same]
        by_contra asked
        rcases receipt.ready legal returns with ⟨effect, member, shows⟩ | ⟨reopens, kept⟩ |
          ⟨type, id, goes, unasked, noError⟩
        · exact shows (plain effect member)
        · exact sound ⟨_, rfl, kept.symm.trans idle, .inl ⟨asked, reopens⟩⟩
        · by_cases armed : loop.protocolHandler.waitingForConfirmation = true
          · have owed := asking.unconfirmed asked armed
            simp only at goes unasked noError
            simp [goes, unasked, noError] at owed
          · exact sound ⟨_, rfl, by simpa using armed, .inl ⟨asked, .inr (.inr (.inr
              ⟨type, id, goes, unasked⟩))⟩⟩
    · intro returns
      have returns : returned = some .waitingForReply := returns
      have idle := flag (by simp [returns])
      rw [unarmed idle] at returns
      rcases receipt.replying legal returns with ⟨noReply, asks⟩ | ⟨ignored, kept⟩
      · rcases book with ⟨-, -, reply, -⟩ | ⟨same, -⟩
        · exact absurd reply noReply
        · exact same ▸ asking.owes asks
      · rcases book with ⟨-, -, -, ref⟩ | ⟨same, -⟩
        · obtain ⟨_, refID, _, _, _, decodes, -, other⟩ := ignored
          exact absurd (Option.some.inj (decodes.ref.symm.trans ref)) other
        · rw [same]
          intro none
          exact sound ⟨_, rfl, kept.symm.trans idle, .inr ⟨none, ignored⟩⟩
  | lost =>
    exact ⟨by simp, by simp⟩
  | command | resend | giveUp | idle => cases calls

/-- The fields that keep the gate still agree with a book that did not change. -/
theorem Asking.kept (asking : Asking history loop)
    (same : openRequests (history ++ [turn]) = openRequests history)
    (keeps : KeepsGate loop.protocolHandler after.protocolHandler)
    (ready : after.state = .readyForInput → openRequests (history ++ [turn]) = [])
    (replying : after.state = .waitingForReply → openRequests (history ++ [turn]) ≠ []) :
    Asking (history ++ [turn]) after := by
  refine ⟨?_, ?_, ?_, ready, replying⟩
  · rw [same, keeps.awaits]
    exact asking.one
  · rw [same]
    exact fun owes => asking.owes (keeps.owes owes)
  · rw [same]
    intro asked waits
    rcases keeps.unconfirmed waits with failed | ending | ⟨waited, replied, failed, ending⟩
    · exact .inr (.inl failed)
    · exact .inr (.inr ending)
    · rw [replied, failed, ending]
      exact asking.unconfirmed asked waited

/-- A line keeps the fields and the book in agreement. -/
theorem Asking.step_command (asking : Asking history loop) (goes : loop.state ≠ .over)
    (called : loop.protocolHandler.processUserInput line = some outcome)
    (reads : line = text "/exit" ∨
      (line ≠ [] ∧ loop.state ≠ .waitingForReply ∧ loop.state ≠ .waitingForConfirmation))
    (handler : after.protocolHandler = outcome.handler)
    (state : after.state = outcome.returned.getD .readyForInput) :
    Asking (history ++ [⟨loop, event, ⟨.processUserInput line, outcome.effects, outcome.returned⟩,
      after⟩]) after := by
  have command := command_of_processUserInput called
  have book : openRequests (history ++ [⟨loop, event, ⟨.processUserInput line, outcome.effects,
      outcome.returned⟩, after⟩]) =
      openRequests history ++ (issued outcome.effects).filter isRequest := by
    rw [openRequests_snoc, displayedReply_eq_none command.replies.1]
    rfl
  have none_open (other : line ≠ text "/exit") : openRequests history = [] := by
    obtain exits | ⟨-, noReply, noConfirm⟩ := reads
    · exact absurd exits other
    · exact asking.ready (ready_of_not goes noReply noConfirm)
  rcases command.gate with ⟨none, keeps⟩ | ⟨other, returned, kinds⟩
  · refine asking.kept (by rw [book, none, List.append_nil]) (handler ▸ keeps) ?_ ?_
    · intro ready
      rw [book, none, List.append_nil]
      apply none_open
      rintro rfl
      cases command with
      | exit => simp [state] at ready
      | _ => contradiction
    · intro replying
      rcases command.ready with returned | ⟨ready, -⟩
      · simp [state, returned] at replying
      · simp [state, ready] at replying
  · rw [none_open other, List.nil_append] at book
    refine ⟨?_, ?_, ?_, by simp [state, returned], by simp [state, returned]⟩
    · intro request member
      rw [book] at member
      rcases command.replies.2 with ⟨only, issues, id⟩ | ⟨none, -⟩
      · rw [issues] at member
        rw [List.mem_singleton.mp member, handler]
        exact id
      · rw [none] at member
        cases member
    · intro owes
      rw [handler] at owes
      rcases kinds with ⟨-, spoken⟩ | ⟨asked, -⟩
      · exact absurd (owes.symm.trans spoken) (by decide)
      · rwa [book]
    · intro asked _
      rw [book] at asked
      rcases kinds with ⟨none, -⟩ | ⟨-, asks⟩
      · exact absurd none asked
      · exact .inl (handler ▸ asks)

/-- A turn that does not misgate keeps the fields and the book in agreement. -/
theorem Asking.step (asking : Asking history loop) (legal : loop.protocolHandler.fsm.Legal)
    (ran : loop.iterate event = some (report, after))
    (sound : ¬ Misgates history ⟨loop, event, report, after⟩) :
    Asking (history ++ [⟨loop, event, report, after⟩]) after := by
  have gates {datagram : Datagram} := @Asking.gates_received _ _ _ _ _ asking legal ran sound datagram
  obtain ⟨goes, iteration⟩ := udpIteration_of_iterate ran
  cases iteration with
  | @received _ _ _ returned _ called _ handler state =>
    obtain ⟨ready, replying⟩ := gates rfl
    have blocks (waits : after.state = .waitingForReply) : returned = some .waitingForReply := by
      cases returned with
      | none => simp [state] at waits
      | some current => exact congrArg some (state.symm.trans waits)
    rcases openRequests_received called asking.one with ⟨none, cleared, -⟩ | ⟨same, -, keeps⟩
    · refine ⟨by simp [none], by simp [handler, cleared], by simp [none], fun _ => none, ?_⟩
      exact fun waits => replying (blocks waits)
    · exact asking.kept same (handler ▸ keeps) (fun idle => ready (state ▸ idle))
        fun waits => replying (blocks waits)
  | command called reads handler state => exact asking.step_command goes called reads handler state
  | lost handler state | giveUp _ handler state | resend _ handler state =>
    refine asking.kept (openRequests_of_entries_nil rfl) (handler ▸ .refl) ?_ ?_ <;> simp [state]
  | @idle event effects _ silent handler state =>
    have same : openRequests (history ++ [⟨loop, event, { effects }, after⟩]) =
        openRequests history := by
      refine openRequests_of_entries_nil ?_
      rcases silent with rfl | rfl <;> rfl
    refine asking.kept same (handler ▸ .refl) ?_ ?_
    · rw [same, state]
      exact asking.ready
    · rw [same, state]
      exact asking.replying

/-! ## Turns with one -/

/-- What an ignored REPLY returns. -/
theorem IgnoredReply.returned {action : Action} (ignored : IgnoredReply h message action)
    (legal : h.fsm.Legal) (idle : h.waitingForConfirmation = false) :
    ∃ outcome, h.processReceived message = some outcome ∧
      outcome.returned = some (if action = .nreplyServer then .waitingForReply else .readyForInput) ∧
      outcome.handler.waitingForConfirmation = false ∧
      ∀ effect ∈ outcome.effects, effect.reply = none := by
  obtain ⟨id, refID, content, shown, ignored, decodes, answerable, other⟩ := ignored
  obtain ⟨_, _, result⟩ := decodes.result
  obtain ⟨fsm, asked⟩ := legal.accepts_answer answerable result.answer
  refine ⟨_, processReceived_reply decodes asked, ?_⟩
  rw [settleReply, if_neg other]
  refine ⟨?_, idle, by simp [sendConfirmation, sendMessage, Effect.reply]⟩
  cases result <;> rfl

/-- A datagram that reopens stdin does. -/
theorem Reopens.returned (reopens : Reopens h message) (legal : h.fsm.Legal)
    (idle : h.waitingForConfirmation = false) (sound : h.awaitingOver = false → h.errorSent = false) :
    ∃ outcome, h.processReceived message = some outcome ∧
      outcome.returned = some .readyForInput ∧ outcome.handler.waitingForConfirmation = false ∧
      ∀ effect ∈ outcome.effects, effect.reply = none := by
  rcases reopens with ⟨type, valid, opened⟩ | ignored | ⟨type, valid, answerable, fresh⟩ |
    ⟨type, id, goes, unasked⟩
  · obtain ⟨id, dname, content, read, body⟩ := named_of_valid (.inl rfl) valid
    refine ⟨_, processReceived_message type read body (legal.accepts_spoken opened (.inl rfl)), ?_⟩
    split <;> exact ⟨rfl, idle, by simp [sendConfirmation, sendMessage, Effect.reply]⟩
  · exact ignored.returned legal idle
  · obtain ⟨id, dname, content, read, body⟩ := named_of_valid (.inr rfl) valid
    obtain ⟨fsm, asked⟩ := legal.accepts_answer answerable (.inr (.inr rfl))
    refine ⟨_, processReceived_error type read body asked, ?_⟩
    rw [if_neg (fresh id read)]
    exact ⟨rfl, idle, by simp [sendConfirmation, sendMessage, Effect.reply]⟩
  · exact ⟨_, processReceived_confirm type id goes (sound goes), by simp [unasked], rfl, by simp⟩

/-- A turn that misgates returns what the book of requests does not say. -/
theorem Misgates.not_gates (misgates : Misgates history ⟨loop, event, report, after⟩)
    (legal : loop.protocolHandler.fsm.Legal)
    (failed : loop.protocolHandler.awaitingOver = false →
      loop.protocolHandler.waitingForConfirmation = false → loop.protocolHandler.errorSent = false)
    (ran : loop.iterate event = some (report, after)) :
    ¬ GatesInput history ⟨loop, event, report, after⟩ := by
  intro gates
  obtain ⟨message, receives, idle, wrong⟩ := misgates
  obtain ⟨-, iteration⟩ := udpIteration_of_iterate ran
  cases iteration with
  | @received fromAddr buffer inner returned _ called decides =>
    cases receives
    rcases wrong with ⟨asked, reopens⟩ | ⟨none, ignored⟩
    · obtain ⟨outcome, ran', returns, flag, plain⟩ :=
        Reopens.returned (h := { loop.protocolHandler with serverAddress := fromAddr }) reopens legal idle
          (fun goes => failed goes idle)
      cases called.symm.trans ran'
      refine asked (openRequests_plain called plain ▸ gates.ready _ rfl ?_)
      simp [decides, flag, returns]
    · obtain ⟨outcome, ran', returns, flag, plain⟩ :=
        IgnoredReply.returned (h := { loop.protocolHandler with serverAddress := fromAddr }) ignored legal idle
      cases called.symm.trans ran'
      refine gates.replying _ rfl ?_ ((openRequests_plain called plain).trans none)
      simp [decides, flag, returns]
  | command | lost | resend | giveUp | idle => cases receives

/-- Stdin is gated by the open request throughout a run exactly when no datagram of
the run misgates. -/
theorem gatesInput_iff_not_misgates (run : UDPRun server retries history loop) :
    Throughout GatesInput history ↔
      Throughout (fun before turn => ¬ Misgates before turn) history := by
  apply run.throughout_iff
  intro before loop event report after run ran meets
  have legal := udpRun_legal run
  have asking : Asking before loop := run.invariant_of_throughout (I := Asking) meets
    (by constructor <;> simp [StreamHandler.start, create, openRequests])
    fun run asking ran sound => asking.step (udpRun_legal run) ran sound
  constructor
  · intro gates misgates
    refine misgates.not_gates legal (fun goes idle => ?_) ran gates
    by_contra sent
    have waits := udpRun_failed run (by simpa [link] using sent)
    simp [link, goes, idle] at waits
  · intro sound
    have answers {datagram : Datagram} := @Asking.gates_received _ _ _ _ _ asking legal ran sound datagram
    refine ⟨fun _ calls => (answers calls).1, fun _ calls => (answers calls).2, ?_, asking.replying⟩
    intro line calls other
    obtain ⟨goes, iteration⟩ := udpIteration_of_iterate ran
    cases iteration with
    | command _ reads =>
      cases calls
      obtain exits | ⟨-, noReply, noConfirm⟩ := reads
      · exact absurd exits other
      · exact asking.ready (ready_of_not goes noReply noConfirm)
    | received | lost | resend | giveUp | idle => cases calls

/-- The AUTH, its CONFIRM and its REPLY. -/
theorem gatesInput_iff_not_misgates_auth : ∃ history loop,
    UDPRun localServer 3 history loop ∧ loop.state = .readyForInput ∧
    (Throughout GatesInput history ↔
      Throughout (fun before turn => ¬ Misgates before turn) history) := by
  have ran : sample [types "/auth a b c", arrives [0x00, 0, 0],
    arrives [0x01, 0, 5, 1, 0, 0, 0x6F, 0x6B, 0]] = some (_, _) := rfl
  exact ⟨_, _, Run.of_exec ran, rfl, gatesInput_iff_not_misgates (Run.of_exec ran)⟩

/-- A MSG that comes between the CONFIRM and the REPLY of a JOIN has the client
ready for input although the JOIN is unanswered. -/
theorem message_reopens_input : ∃ history loop, UDPRun localServer 3 history loop ∧
    loop.state = .readyForInput ∧ ¬ Throughout GatesInput history := by
  have ran : sample [types "/auth a b c", arrives [0x00, 0, 0],
    arrives [0x01, 0, 5, 1, 0, 0, 0x6F, 0x6B, 0], types "/join d", arrives [0x00, 0, 1],
    arrives [0x04, 0, 6, 0x61, 0, 0x68, 0x69, 0]] = some (_, _) := rfl
  refine ⟨_, _, Run.of_exec ran, rfl, ?_⟩
  intro gates
  have none := (gates [_, _, _, _, _] _ [] rfl).ready _ rfl rfl
  exact absurd none (by decide)

end ChatClient
