import ChatClient.UDPRuns

/-! Exact duplicate suppression. `received_ids` is searched for MSG and ERR only,
but fed by whatever is displayed and by every BYE. `receivedIds_eq` reads it off
the turns of a run; from that, a MSG is displayed exactly when it decodes, the
session is open and its ID is none of those. -/

namespace ChatClient

open Transition UDPProtocolHandler UDPMessageValidator FSMValidate

variable {server : SockAddr} {retries : UInt8} {history : List UDPTurn} {turn : UDPTurn}
  {loop after : StreamHandler UDPProtocolHandler} {event : Event Datagram}
  {report : Report Datagram} {h : UDPProtocolHandler} {message line : Bytes}
  {outcome : Outcome UDPProtocolHandler}

/-! ## The IDs a run has seen -/

/-- The ID of a BYE with a whole header. -/
def byeOf (message : Bytes) : Option UInt16 :=
  if hasType 0xFF message then messageId message else none

/-- The ID of the BYE a turn receives. -/
def byeId (turn : UDPTurn) : Option UInt16 := (received turn).bind byeOf

/-- The ID of the MSG, ERR or REPLY a turn displays. -/
def displayedId (turn : UDPTurn) : Option UInt16 :=
  if turn.output.effects.any Effect.shows then (received turn).bind messageId else none

/-- The IDs of what was displayed and of the BYEs that came, in order. -/
def seenIds (history : List UDPTurn) : List UInt16 :=
  history.flatMap fun turn => (displayedId turn).toList ++ (byeId turn).toList

private theorem seenIds_snoc : seenIds (history ++ [turn]) =
    seenIds history ++ ((displayedId turn).toList ++ (byeId turn).toList) := by
  simp [seenIds]

/-- Whether an effect displays a MSG or an ERR. -/
def Effect.notice : Effect → Bool
  | .messageFromServer _ _ | .errorFromServer _ _ => true
  | _ => false

/-- The message ID behind each MSG or ERR a turn displays. -/
def noticeIds (turn : UDPTurn) : List UInt16 :=
  (turn.output.effects.filter Effect.notice).filterMap fun _ => (received turn).bind messageId

/-! ## What one call remembers -/

@[simp] theorem sendErrorMessage_receivedIds {error : Bytes} :
    (h.sendErrorMessage error).1.receivedIds = h.receivedIds := by
  unfold sendErrorMessage
  split <;> rfl

@[simp] theorem failWith_receivedIds {confirmation : List Effect} {error : String} :
    (h.failWith confirmation error).handler.receivedIds = h.receivedIds :=
  sendErrorMessage_receivedIds

/-- A call for a datagram other than a BYE remembers the ID of what it displays. -/
theorem UDPProtocolHandler.Receipt.remembers (receipt : Receipt h message outcome)
    (noBye : byeOf message = none) : outcome.handler.receivedIds = h.receivedIds ++
      (if outcome.effects.any Effect.shows then messageId message else none).toList := by
  cases receipt with
  | shown _ id | errorShown _ id =>
    rw [id]
    rfl
  | reply decodes =>
    have id : messageId message = some _ := decodes.id
    unfold settleReply
    split
    · obtain ⟨_, _, _ | _⟩ := decodes.result <;> simp [Effect.shows, id]
    · simp [Effect.shows, sendConfirmation, sendMessage]
  | bye type id =>
    simp [byeOf, hasType, type, id] at noBye
  | failed _ _ _ confirms =>
    rw [failWith_receivedIds, if_neg]
    · simp
    · simp only [List.any_eq_true, not_exists, not_and]
      intro effect member
      obtain ⟨m, rfl⟩ := mem_failWith confirms member
      simp [Effect.shows, sendMessage]
  | byeConfirmed | errorConfirmed | confirmed | stray | repeated | errorRepeated | undecided =>
    simp [Effect.shows, sendConfirmation, sendMessage, track]

private theorem bye_remembered {id : UInt16} (bye : byeOf message = some id)
    (ran : h.processReceived message = some outcome) :
    outcome.handler.receivedIds = h.receivedIds ++ [id] ∧ outcome.effects.any Effect.shows = false := by
  unfold byeOf at bye
  split at bye
  · rename_i type
    cases ran.symm.trans (processReceived_bye (by simpa [hasType] using type)
      (length_of_messageId bye) bye)
    exact ⟨rfl, rfl⟩
  · cases bye

/-- A line displays nothing from the server and is not remembered. -/
theorem UDPProtocolHandler.Command.remembers (command : Command h line outcome) :
    outcome.handler.receivedIds = h.receivedIds ∧
      ∀ effect ∈ outcome.effects, effect.shows = false := by
  cases command with
  | deferred =>
    refine ⟨sendErrorMessage_receivedIds, fun effect member => ?_⟩
    rw [mem_sendErrorMessage member]
    rfl
  | exit | rejected | requested | spoken | renamed | helped | undecided =>
    exact ⟨rfl, by simp [Effect.shows, sendRequest, sendMessage, reject]⟩

private theorem receivedIds_of_iterate (ran : loop.iterate event = some (report, after)) :
    after.protocolHandler.receivedIds = loop.protocolHandler.receivedIds ++
      ((displayedId ⟨loop, event, report, after⟩).toList ++
        (byeId ⟨loop, event, report, after⟩).toList) := by
  obtain ⟨-, iteration⟩ := udpIteration_of_iterate ran
  cases iteration with
  | received called _ handler =>
    simp only [handler, displayedId, byeId, received, Option.bind_some]
    cases bye : byeOf _ with
    | some id =>
      obtain ⟨same, silent⟩ := bye_remembered bye called
      simp [same, silent]
    | none =>
      simpa using (receipt_of_processReceived called).remembers bye
  | command called _ handler =>
    simp [handler, displayedId, byeId, received, (command_of_processUserInput called).remembers.1]
  | lost handler | resend _ handler | giveUp _ handler | idle _ handler =>
    simp [handler, displayedId, byeId, received]

private theorem receivedIds_eq (run : UDPRun server retries history loop) :
    loop.protocolHandler.receivedIds = seenIds history := by
  refine run.invariant (I := fun history loop => loop.protocolHandler.receivedIds = seenIds history)
    rfl fun _ same ran => ?_
  rw [seenIds_snoc, receivedIds_of_iterate ran, same]

/-! ## What is displayed -/

/-- A call for a datagram displays at most one MSG or ERR, and a new one. -/
theorem UDPProtocolHandler.Receipt.notices (receipt : Receipt h message outcome) :
    outcome.effects.filter Effect.notice = [] ∨
      ∃ id effect, messageId message = some id ∧ id ∉ h.receivedIds ∧
        outcome.effects.any Effect.shows = true ∧
        outcome.effects.filter Effect.notice = [effect] := by
  cases receipt with
  | shown _ id _ _ fresh | errorShown _ id _ _ fresh => exact .inr ⟨_, _, id, fresh, rfl, rfl⟩
  | reply decodes =>
    refine .inl ?_
    unfold settleReply
    split
    · obtain ⟨_, _, _ | _⟩ := decodes.result <;> rfl
    · rfl
  | failed _ _ _ confirms =>
    refine .inl (List.filter_eq_nil_iff.mpr fun effect member => ?_)
    obtain ⟨m, rfl⟩ := mem_failWith confirms member
    simp [Effect.notice, sendMessage]
  | byeConfirmed | errorConfirmed | confirmed | stray | repeated | errorRepeated | bye | undecided =>
    exact .inl rfl

/-- A MSG is displayed by the rule for new ones only. -/
theorem UDPProtocolHandler.Receipt.displays_message {dname content : Bytes}
    (receipt : Receipt h message outcome)
    (displays : Effect.messageFromServer dname content ∈ outcome.effects) :
    ∃ id fsm, messageId message = some id ∧ id ∉ h.receivedIds ∧
      parseAndValidate (message.drop 3) "msg" = ([dname, content], true) ∧
      h.fsm.validateAction .messageServer = some (.any, fsm) := by
  cases receipt with
  | shown _ id body asked fresh =>
    simp only [sendConfirmation, sendMessage, List.mem_cons, reduceCtorEq, List.not_mem_nil,
      Effect.messageFromServer.injEq, or_false, false_or] at displays
    obtain ⟨rfl, rfl⟩ := displays
    exact ⟨_, _, id, fresh, body, asked⟩
  | reply decodes =>
    unfold settleReply at displays
    split at displays
    · obtain ⟨_, _, _ | _⟩ := decodes.result <;>
        simp [sendConfirmation, sendMessage] at displays
    · simp [sendConfirmation, sendMessage] at displays
  | failed _ _ _ confirms =>
    obtain ⟨m, sends⟩ := mem_failWith confirms displays
    cases sends
  | byeConfirmed | errorConfirmed | confirmed | stray | repeated | errorRepeated | errorShown | bye
  | undecided => simp [sendConfirmation, sendMessage] at displays

private theorem mem_seenIds {id : UInt16} : id ∈ seenIds history ↔
    ∃ turn ∈ history, displayedId turn = some id ∨ byeId turn = some id := by
  simp [seenIds]

private theorem displays_message_iff (run : UDPRun server retries history loop)
    (ran : loop.iterate event = some (report, after))
    (receives : received ⟨loop, event, report, after⟩ = some message)
    (type : message[0]? = some 0x04) (dname content : Bytes) :
    .messageFromServer dname content ∈ report.effects ↔
      parseAndValidate (message.drop 3) "msg" = ([dname, content], true) ∧
      loop.protocolHandler.fsm.currentState = .opened ∧
      ∀ earlier ∈ history, ∀ id, messageId message = some id →
        displayedId earlier ≠ some id ∧ byeId earlier ≠ some id := by
  have legal := udpRun_legal run
  have seen := receivedIds_eq run
  obtain ⟨-, iteration⟩ := udpIteration_of_iterate ran
  cases iteration with
  | received called =>
    cases receives
    constructor
    · intro displays
      obtain ⟨id, fsm, read, fresh, body, asked⟩ :=
        (receipt_of_processReceived called).displays_message displays
      refine ⟨body, (legal.spoken (.inl rfl) asked).1, ?_⟩
      intro earlier member other same
      cases read.symm.trans same
      refine not_or.mp fun known => fresh ?_
      exact seen ▸ mem_seenIds.mpr ⟨earlier, member, known⟩
    · rintro ⟨body, opened, unknown⟩
      have long := body_long body
      obtain ⟨id, read⟩ := messageId_of_length (Nat.le_of_succ_le long)
      have fresh : id ∉ loop.protocolHandler.receivedIds := by
        intro known
        obtain ⟨earlier, member, known⟩ := mem_seenIds.mp (seen ▸ known)
        exact not_or.mpr (unknown earlier member id read) known
      have asked := legal.accepts_spoken opened (.inl rfl)
      have shown := called.symm.trans (processReceived_message type read body asked)
      simp only [fresh, ↓reduceIte, Option.some.injEq] at shown
      simp [shown]
  | command | lost | resend | giveUp | idle => cases receives

private theorem noticeIds_of_iterate (ran : loop.iterate event = some (report, after)) :
    noticeIds ⟨loop, event, report, after⟩ = [] ∨
      ∃ id, noticeIds ⟨loop, event, report, after⟩ = [id] ∧
        id ∉ loop.protocolHandler.receivedIds ∧
        displayedId ⟨loop, event, report, after⟩ = some id := by
  obtain ⟨-, iteration⟩ := udpIteration_of_iterate ran
  cases iteration with
  | received called =>
    rcases (receipt_of_processReceived called).notices with none | ⟨id, effect, read, fresh, shows, one⟩
    · exact .inl (by simp [noticeIds, none])
    · refine .inr ⟨id, ?_, fresh, ?_⟩
      · simp [noticeIds, one, received, read]
      · simp [displayedId, shows, received, read]
  | command | lost | resend | giveUp | idle => exact .inl (by simp [noticeIds, received])

private theorem noticeIds_nodup (run : UDPRun server retries history loop) :
    (history.flatMap noticeIds).Nodup ∧ ∀ id ∈ history.flatMap noticeIds, id ∈ seenIds history := by
  refine run.invariant (I := fun history _ => (history.flatMap noticeIds).Nodup ∧
    ∀ id ∈ history.flatMap noticeIds, id ∈ seenIds history) (by simp) ?_
  intro history loop event report after run ⟨nodup, seen⟩ ran
  rw [List.flatMap_append, List.flatMap_singleton, seenIds_snoc]
  rcases noticeIds_of_iterate ran with none | ⟨id, one, fresh, displays⟩
  · simp only [none, List.append_nil]
    exact ⟨nodup, fun id member => List.mem_append_left _ (seen id member)⟩
  · rw [receivedIds_eq run] at fresh
    rw [one, displays]
    refine ⟨List.nodup_append.mpr ⟨nodup, by simp, ?_⟩, ?_⟩
    · rintro other member _ new rfl
      exact fresh (List.mem_singleton.mp new ▸ seen other member)
    · intro other member
      rcases List.mem_append.mp member with member | member
      · exact List.mem_append_left _ (seen other member)
      · simp [List.mem_singleton.mp member]

/-- A MSG is displayed exactly when it decodes, the session is open and its ID is
none that was displayed before or came with a BYE; so no ID is displayed twice by
a MSG or an ERR. -/
theorem message_displayed_exactly_when_new (run : UDPRun server retries history loop) :
    Throughout (fun before turn => ∀ message, received turn = some message →
      message[0]? = some 0x04 → ∀ dname content,
      (.messageFromServer dname content ∈ turn.output.effects ↔
        parseAndValidate (message.drop 3) "msg" = ([dname, content], true) ∧
        turn.before.protocolHandler.fsm.currentState = .opened ∧
        ∀ earlier ∈ before, ∀ id, messageId message = some id →
          displayedId earlier ≠ some id ∧ byeId earlier ≠ some id)) history ∧
    (history.flatMap noticeIds).Nodup := by
  refine ⟨?_, (noticeIds_nodup run).1⟩
  refine run.throughout fun run ran message receives type dname content => ?_
  exact displays_message_iff run ran receives type dname content

/-- A MSG that comes twice. -/
theorem message_displayed_exactly_when_new_twice : ∃ history loop,
    UDPRun localServer 3 history loop ∧ history.flatMap noticeIds = [6] ∧
    (history.flatMap noticeIds).Nodup := by
  have ran : sample [types "/auth a b c", arrives [0x00, 0, 0],
    arrives [0x01, 0, 5, 1, 0, 0, 0x6F, 0x6B, 0], arrives [0x04, 0, 6, 0x61, 0, 0x68, 0x69, 0],
    arrives [0x04, 0, 6, 0x61, 0, 0x68, 0x69, 0]] = some (_, _) := rfl
  exact ⟨_, _, Run.of_exec ran, rfl, (message_displayed_exactly_when_new (Run.of_exec ran)).2⟩

end ChatClient
