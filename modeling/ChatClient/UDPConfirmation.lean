import ChatClient.UDPRuns

/-! Which server datagrams the UDP client confirms. Each end of
`process_received` sends the CONFIRM by itself, and some error branches do not:
`Unanswered` lists the datagrams that reach those. -/

namespace ChatClient

open Transition UDPProtocolHandler UDPMessageValidator FSMValidate

variable {server : SockAddr} {retries : UInt8} {history : List UDPTurn}
  {loop : StreamHandler UDPProtocolHandler} {h : UDPProtocolHandler} {message : Bytes}
  {outcome : Outcome UDPProtocolHandler}

/-- A datagram is confirmed exactly once, with its own ID; a CONFIRM is not. -/
def ConfirmedOnce (message : Bytes) (effects : List Effect) : Prop :=
  if message[0]? = some 0x00 then confirmations effects = []
  else ∃ id, messageId message = some id ∧ confirmations effects = [header 0x00 id]

/-- The datagrams with a whole header that are answered without a CONFIRM: a
REPLY that is too short or has invalid content, a MSG with invalid content or
outside OPEN, an ERR that is nothing but its header. -/
def Unanswered (h : UDPProtocolHandler) (message : Bytes) : Prop :=
  (message[0]? = some 0x01 ∧
    (message.length < 6 ∨ (parseAndValidate (message.drop 6) "reply").2 = false)) ∨
  (message[0]? = some 0x04 ∧
    ((parseAndValidate (message.drop 3) "msg").2 = false ∨ h.fsm.currentState ≠ .opened)) ∨
  (message[0]? = some 0xFE ∧ message.length < 4)

/-- A legal machine accepts a MSG in OPEN only, so the silent branches are those
of `Unanswered`. -/
theorem silent_iff_unanswered (legal : h.fsm.Legal) (whole : 3 ≤ message.length) :
    Silent h message ↔ Unanswered h message := by
  have accepts : (∀ fsm, h.fsm.validateAction .messageServer ≠ some (.any, fsm)) ↔
      h.fsm.currentState ≠ .opened := by
    constructor
    · intro refuses opened
      exact refuses _ (legal.accepts_spoken opened (.inl rfl))
    · intro closed fsm asked
      exact closed (legal.spoken (.inl rfl) asked).1
  rw [Silent, accepts]
  exact or_iff_right (by omega)

@[simp] theorem confirmations_sendErrorMessage {error : Bytes} :
    confirmations (h.sendErrorMessage error).2 = [] := by
  unfold sendErrorMessage
  split
  · rfl
  · rw [confirmations_message (by simp [formErrorMessage_eq]), confirmations_nil]

private theorem confirmedOnce_of_type {kind : UInt8} {id : UInt16} {effects : List Effect}
    (type : message[0]? = some kind) (other : kind ≠ 0x00) (read : messageId message = some id)
    (confirms : confirmations effects = [header 0x00 id]) : ConfirmedOnce message effects := by
  rw [ConfirmedOnce, if_neg (by simpa [type] using other)]
  exact ⟨id, read, confirms⟩

/-- One call confirms its datagram unless it ends in a silent branch. -/
theorem UDPProtocolHandler.Receipt.confirmedOnce (receipt : Receipt h message outcome)
    (legal : h.fsm.Legal) (whole : 3 ≤ message.length) :
    ConfirmedOnce message outcome.effects ↔ ¬ Silent h message := by
  cases receipt with
  | byeConfirmed type | confirmed type | stray type =>
    simp [ConfirmedOnce, type, not_silent type whole]
  | errorConfirmed type =>
    simp [ConfirmedOnce, type, not_silent type whole, confirmations_message]
  | reply decodes =>
    refine iff_of_true ?_ (reply_not_silent decodes.type decodes.whole (by rw [decodes.body]))
    refine confirmedOnce_of_type decodes.type (by decide) decodes.id ?_
    rw [settleReply]
    split
    · rw [confirmations_shown (by obtain ⟨_, _, _ | _⟩ := decodes.result <;> rfl)]
      exact confirmations_confirmation
    · exact confirmations_confirmation
  | repeated type id body asked =>
    refine iff_of_true ?_ (message_not_silent type whole (by rw [body]) asked)
    exact confirmedOnce_of_type type (by decide) id (by simp)
  | shown type id body asked =>
    refine iff_of_true ?_ (message_not_silent type whole (by rw [body]) asked)
    refine confirmedOnce_of_type type (by decide) id ?_
    rw [confirmations_confirmation, confirmations_shown rfl, confirmations_nil]
  | errorRepeated type id body =>
    refine iff_of_true ?_ (error_not_silent type (body_long body))
    exact confirmedOnce_of_type type (by decide) id (by simp [confirmations_message])
  | errorShown type id body =>
    refine iff_of_true ?_ (error_not_silent type (body_long body))
    refine confirmedOnce_of_type type (by decide) id ?_
    rw [confirmations_confirmation, confirmations_shown rfl, confirmations_message (by simp),
      confirmations_nil]
  | bye type id =>
    refine iff_of_true ?_ (not_silent type whole (by decide))
    exact confirmedOnce_of_type type (by decide) id (by simp)
  | failed type noConfirm _ confirms =>
    rcases confirms with ⟨silent, rfl⟩ | ⟨loud, id, read, rfl⟩
    · refine iff_of_false (fun confirmed => ?_) (not_not.mpr silent)
      rw [ConfirmedOnce, if_neg (by simpa [type] using noConfirm)] at confirmed
      obtain ⟨id, -, one⟩ := confirmed
      simp [failWith] at one
    · refine iff_of_true (confirmedOnce_of_type type noConfirm read ?_) loud
      simp [failWith]
  | undecided type server asked neither =>
    exact absurd neither (legal.decided (.inl server) asked)

/-- In every reachable state a datagram with a whole header is processed, and is
confirmed as it should be exactly when it does not reach a silent branch. -/
theorem confirmedOnce_iff_not_unanswered (run : UDPRun server retries history loop)
    (fromAddr : SockAddr) (buffer : RecvBuffer) (whole : 3 ≤ buffer.val.length) :
    ∃ outcome,
      loop.protocolHandler.processServerMessage (.received fromAddr buffer) = some outcome ∧
      (ConfirmedOnce buffer.val outcome.effects ↔ ¬ Unanswered loop.protocolHandler buffer.val) := by
  have legal := udpRun_legal run
  obtain ⟨inner, called⟩ := @processReceived_defined
    { loop.protocolHandler with serverAddress := fromAddr } buffer.val legal whole
  refine ⟨_, by rw [processServerMessage, called]; rfl, ?_⟩
  rw [← silent_iff_unanswered legal whole]
  exact (receipt_of_processReceived called).confirmedOnce legal whole

/-- A MSG in an open session is confirmed. -/
theorem confirmedOnce_iff_not_unanswered_msg : ∃ history loop outcome,
    UDPRun localServer 3 history loop ∧ loop.protocolHandler.fsm.currentState = .opened ∧
    loop.protocolHandler.processServerMessage
      (.received localServer ⟨[0x04, 0, 6, 0x61, 0, 0x68, 0x69, 0], by decide⟩) = some outcome ∧
    outcome.effects = [.sendto localServer (header 0x00 6),
      .messageFromServer (text "a") (text "hi")] ∧
    ConfirmedOnce [0x04, 0, 6, 0x61, 0, 0x68, 0x69, 0] outcome.effects ∧
    ¬ Unanswered loop.protocolHandler [0x04, 0, 6, 0x61, 0, 0x68, 0x69, 0] := by
  have ran : sample [types "/auth a b c", arrives [0x00, 0, 0],
    arrives [0x01, 0, 5, 1, 0, 0, 0x6F, 0x6B, 0]] = some (_, _) := rfl
  obtain ⟨outcome, called, answered⟩ := confirmedOnce_iff_not_unanswered (Run.of_exec ran)
    localServer ⟨[0x04, 0, 6, 0x61, 0, 0x68, 0x69, 0], by decide⟩ (by decide)
  have effects : outcome.effects = [.sendto localServer (header 0x00 6),
      .messageFromServer (text "a") (text "hi")] := by
    cases called
    rfl
  have once : ConfirmedOnce [0x04, 0, 6, 0x61, 0, 0x68, 0x69, 0] outcome.effects :=
    effects ▸ ⟨6, rfl, rfl⟩
  exact ⟨_, _, outcome, Run.of_exec ran, rfl, called, effects, once, answered.mp once⟩

/-- A MSG to a fresh client, well-formed but not allowed yet, is not confirmed. -/
theorem message_not_confirmed : ¬ ∀ (history : List UDPTurn)
    (loop : StreamHandler UDPProtocolHandler) (buffer : RecvBuffer)
    (outcome : Outcome UDPProtocolHandler), UDPRun localServer 3 history loop →
    3 ≤ buffer.val.length →
    loop.protocolHandler.processServerMessage (.received localServer buffer) = some outcome →
    ConfirmedOnce buffer.val outcome.effects := by
  intro all
  obtain ⟨id, -, one⟩ := all [] _ ⟨[0x04, 0, 7, 0x61, 0, 0x68, 0x69, 0], by decide⟩ _ .start
    (by decide) rfl
  have none : ([] : List Bytes) = [header 0x00 id] := one
  cases none

end ChatClient
