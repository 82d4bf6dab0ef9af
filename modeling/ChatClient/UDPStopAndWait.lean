import ChatClient.UDPRuns

/-! Stop-and-wait over UDP, and what the retransmission timer is armed for.

Up to its first BYE the client has at most one datagram unconfirmed, and what
`waiting_for_confirmation` guards is the last one it originated. The timer runs
whenever a call returned WAITING_FOR_CONFIRMATION; that a datagram is then
unconfirmed fails in one case only, `StrayConfirm`. -/

namespace ChatClient

open Transition Obligation UDPProtocolHandler

variable {server : SockAddr} {retries : UInt8} {history : List UDPTurn}
  {loop after : StreamHandler UDPProtocolHandler} {event : Event Datagram}
  {report : Report Datagram}

/-! ## Stop-and-wait -/

private theorem originated_of_unconfirmed {m : Bytes} (held : m ∈ unconfirmed history) :
    m ∈ allOriginated history := by
  obtain ⟨turn, member, entered⟩ := List.mem_flatMap.mp (issued_of_outstanding held)
  simp only [entries, List.mem_append, List.mem_map, Option.mem_toList, reduceCtorEq, and_false,
    exists_false, Entry.issue.injEq, exists_eq_right, false_or] at entered
  exact List.mem_flatMap.mpr ⟨turn, member, entered⟩

/-- What is waited for is the last datagram originated. -/
theorem Linked.awaits_last (linked : Linked history loop)
    (waits : loop.protocolHandler.waitingForConfirmation = true) :
    (allOriginated history).getLast? = some loop.protocolHandler.lastMessage ∧
      messageId loop.protocolHandler.lastMessage = some loop.protocolHandler.awaitedConirmId := by
  obtain ⟨held, id⟩ := linked.pending (.inl waits)
  have nonempty := List.ne_nil_of_mem (originated_of_unconfirmed held)
  have last := List.getLast?_eq_some_getLast nonempty
  exact ⟨last.trans (congrArg some (linked.last _ last)), id⟩

/-- Stop-and-wait: before the first BYE at most one originated datagram is
unconfirmed, and a datagram other than a BYE is originated only when none is.
While the flag is set, `last_message` is the last datagram originated and
`awaited_conirm_id` is its ID. -/
theorem udp_stop_and_wait (run : UDPRun server retries history loop) :
    ((∀ m ∈ allOriginated history, hasType 0xFF m = false) → (unconfirmed history).length ≤ 1) ∧
    Throughout (fun before turn => (∀ m ∈ allOriginated before, hasType 0xFF m = false) →
      ∀ m ∈ originated turn, hasType 0xFF m = false → unconfirmed before = []) history ∧
    (loop.protocolHandler.waitingForConfirmation = true →
      (allOriginated history).getLast? = some loop.protocolHandler.lastMessage ∧
        messageId loop.protocolHandler.lastMessage =
          some loop.protocolHandler.awaitedConirmId) := by
  have linked := udpRun_linked run
  refine ⟨?_, ?_, linked.awaits_last⟩
  · intro noBye
    rw [linked.alone (linked.noBye.mpr noBye)]
    split <;> simp
  · refine run.throughout fun run ran noBye m sends_m other => ?_
    have linked := udpRun_linked run
    have idle := (linkMove_of_iterate ran linked.gated).idle_of_originated sends_m other
    rw [linked.alone (linked.noBye.mpr noBye), idle]
    rfl

/-- An AUTH awaiting its CONFIRM. -/
theorem udp_stop_and_wait_auth : ∃ history loop, UDPRun localServer 3 history loop ∧
    loop.protocolHandler.waitingForConfirmation = true ∧
    (allOriginated history).getLast? = some loop.protocolHandler.lastMessage := by
  have ran : sample [types "/auth a b c"] = some (_, _) := rfl
  exact ⟨_, _, Run.of_exec ran, rfl, ((udp_stop_and_wait (Run.of_exec ran)).2.2 rfl).1⟩

/-! ## The retransmission timer -/

/-- The timer runs for an unconfirmed datagram. -/
structure TimerArmed (before : List UDPTurn) (turn : UDPTurn) : Prop where
  /-- A call that returns WAITING_FOR_CONFIRMATION leaves something unconfirmed. -/
  armed : ∀ received, turn.output.call = .processServerMessage received →
    turn.output.returned = some .waitingForConfirmation → unconfirmed (before ++ [turn]) ≠ []
  /-- A timeout resends an unconfirmed datagram. -/
  resent : turn.output.call = .resendLastMessage →
    ∃ m ∈ unconfirmed before, sent turn.output.effects = [m]
  /-- A timeout gives up on an unconfirmed datagram. -/
  givenUp : turn.input = .poll .timedOut → turn.after.state = .over → unconfirmed before ≠ []

/-- A CONFIRM of an ID that is not awaited, when no confirmation is. -/
def StrayConfirm (turn : UDPTurn) : Prop :=
  ∃ id, confirmed turn = some id ∧ id ≠ turn.before.protocolHandler.awaitedConirmId ∧
    turn.before.protocolHandler.waitingForConfirmation = false ∧
    turn.before.protocolHandler.awaitingOver = false

/-- The timer runs for the flag or for a BYE. -/
def Armed (loop : StreamHandler UDPProtocolHandler) : Prop :=
  loop.state = .waitingForConfirmation →
    loop.protocolHandler.link.waiting = true ∨ loop.protocolHandler.link.ending = true

/-- A call for a datagram that is no stray CONFIRM returns
WAITING_FOR_CONFIRMATION with the flag set or a BYE on its way. -/
theorem UDPProtocolHandler.Receipt.armed {h : UDPProtocolHandler} {message : Bytes}
    {outcome : Outcome UDPProtocolHandler} (receipt : Receipt h message outcome)
    (expected : ∀ id, confirmOf message = some id → id ≠ h.awaitedConirmId →
      h.link.waiting = true ∨ h.link.ending = true)
    (waits : outcome.returned = some .waitingForConfirmation) :
    outcome.handler.link.waiting = true ∨ outcome.handler.link.ending = true := by
  cases receipt with
  | errorConfirmed => exact .inr rfl
  | stray type id unknown => exact expected _ (confirmOf_eq type id) unknown
  | errorRepeated => exact .inl rfl
  | failed => exact .inl sendErrorMessage_link.2
  | reply decodes =>
    obtain ⟨_, _, result⟩ := decodes.result
    unfold settleReply at waits
    split at waits
    · cases waits
    · cases result <;> cases waits
  | confirmed =>
    simp only [Option.some.injEq] at waits
    split at waits <;> cases waits
  | byeConfirmed | repeated | shown | errorShown | bye | undecided => cases waits

/-- An iteration that receives no stray CONFIRM keeps the timer armed. -/
theorem Armed.step (armed : Armed loop) (ran : loop.iterate event = some (report, after))
    (expected : ¬ StrayConfirm ⟨loop, event, report, after⟩) : Armed after := by
  intro waits
  obtain ⟨-, iteration⟩ := udpIteration_of_iterate ran
  cases iteration with
  | @received _ _ inner _ _ called decides handler state =>
    rw [handler]
    cases flag : inner.handler.waitingForConfirmation with
    | true => exact .inl flag
    | false =>
      rw [flag, if_neg Bool.false_ne_true] at decides
      have returns : inner.returned = some .waitingForConfirmation :=
        returned_of_state (by decide) (decides ▸ waits ▸ state)
      refine (receipt_of_processReceived called).armed (fun id read other => ?_) returns
      by_contra idle
      simp only [not_or, Bool.not_eq_true] at idle
      exact expected ⟨id, read, other, idle⟩
  | @command _ _ outcome _ called _ handler state =>
    rw [handler]
    have returns : outcome.returned = some .waitingForConfirmation :=
      returned_of_state (by decide) (waits ▸ state)
    exact .inl ((command_of_processUserInput called).armed returns)
  | lost handler state | giveUp _ handler state => exact absurd (waits.symm.trans state) (by decide)
  | resend waiting handler =>
    rw [handler]
    exact armed waiting
  | idle _ handler state =>
    rw [handler]
    exact armed (state ▸ waits)

/-- An armed timer runs for a datagram that is unconfirmed. -/
theorem Linked.unconfirmed_of_armed (linked : Linked history loop) (armed : Armed loop)
    (waiting : loop.state = .waitingForConfirmation) :
    loop.protocolHandler.lastMessage ∈ unconfirmed history := by
  have goes : loop.state ≠ .over := by simp [waiting]
  exact (linked.pending ((armed waiting).imp_right fun ending => ⟨ending, goes⟩)).1

private theorem TimerArmed.no_strayConfirm (timer : TimerArmed history ⟨loop, event, report, after⟩)
    (linked : Linked history loop) (ran : loop.iterate event = some (report, after)) :
    ¬ StrayConfirm ⟨loop, event, report, after⟩ := by
  have linkedAfter := linked.step ran
  obtain ⟨-, iteration⟩ := udpIteration_of_iterate ran
  rintro ⟨id, read, other, idle, goesOn⟩
  cases iteration with
  | received called decides handler =>
    cases receipt_of_processReceived called with
    | stray type =>
      refine timer.armed _ rfl (by simpa using decides) ?_
      rw [linkedAfter.alone (by rw [handler]; exact goesOn), handler]
      simp only at idle
      simp [link, idle]
    | byeConfirmed type awaited | errorConfirmed type awaited | confirmed type awaited =>
      exact absurd (Option.some.inj (read.symm.trans (confirmOf_eq type awaited))) other
    | reply decodes => simp [confirmed, received, confirmOf_none decodes.type] at read
    | failed type noConfirm => simp [confirmed, received, confirmOf_none type noConfirm] at read
    | repeated type | shown type | errorRepeated type | errorShown type | bye type
    | undecided type => simp [confirmed, received, confirmOf_none type] at read
  | command | lost | resend | giveUp | idle => simp [confirmed, ChatClient.received] at read

/-- Without one, a turn from an armed timer to an armed timer runs it for what is
unconfirmed. -/
theorem Armed.timerArmed (armed : Armed loop) (linked : Linked history loop)
    (ran : loop.iterate event = some (report, after)) (armedAfter : Armed after) :
    TimerArmed history ⟨loop, event, report, after⟩ := by
  obtain ⟨goes, iteration⟩ := udpIteration_of_iterate ran
  refine ⟨?_, ?_, ?_⟩
  · intro datagram called waits
    have waiting : after.state = .waitingForConfirmation := by
      cases iteration with
      | received _ _ _ state =>
        simp only at waits
        simp [state, waits]
      | lost => cases waits
      | command | resend | giveUp | idle => cases called
    exact List.ne_nil_of_mem ((linked.step ran).unconfirmed_of_armed armedAfter waiting)
  · intro resends
    cases iteration with
    | resend waiting => exact ⟨_, linked.unconfirmed_of_armed armed waiting, rfl⟩
    | received | lost | command | giveUp | idle => cases resends
  · intro timedOut gaveUp
    cases iteration with
    | giveUp waiting => exact List.ne_nil_of_mem (linked.unconfirmed_of_armed armed waiting)
    | @command _ _ outcome _ called _ _ state =>
      have ends : outcome.returned = some .over := returned_of_state (by decide) (gaveUp ▸ state)
      exact absurd ends (command_of_processUserInput called).goes_on
    | received | lost => cases timedOut
    | resend _ _ state => exact absurd (gaveUp.symm.trans state) (by decide)
    | idle _ _ state => exact absurd (state.symm.trans gaveUp) goes

/-- The timer runs for unconfirmed datagrams throughout a run exactly when the
run receives no stray CONFIRM. -/
theorem timerArmed_iff_no_strayConfirm (run : UDPRun server retries history loop) :
    Throughout TimerArmed history ↔ Throughout (fun _ turn => ¬ StrayConfirm turn) history := by
  apply run.throughout_iff
  intro before loop event report after run ran meets
  have linked := udpRun_linked run
  have armed : Armed loop := run.invariant_of_throughout (I := fun _ loop => Armed loop) meets
    (by simp [Armed, StreamHandler.start]) fun _ armed ran expected => armed.step ran expected
  constructor
  · intro timer
    exact timer.no_strayConfirm linked ran
  · intro expected
    exact armed.timerArmed linked ran (armed.step ran expected)

/-- An AUTH is sent and confirmed without a stray CONFIRM. -/
theorem timerArmed_iff_no_strayConfirm_auth : ∃ history loop, UDPRun localServer 3 history loop ∧
    history.length = 2 ∧
    (Throughout TimerArmed history ↔ Throughout (fun _ turn => ¬ StrayConfirm turn) history) := by
  have ran : sample [types "/auth a b c", arrives [0x00, 0, 0]] = some (_, _) := rfl
  exact ⟨_, _, Run.of_exec ran, rfl, timerArmed_iff_no_strayConfirm (Run.of_exec ran)⟩

/-- A second copy of a CONFIRM arms the timer although nothing is unconfirmed. -/
theorem repeated_confirm_arms_timer : ∃ history loop, UDPRun localServer 3 history loop ∧
    ¬ Throughout TimerArmed history := by
  have ran : sample [types "/auth a b c", arrives [0x00, 0, 0], arrives [0x00, 0, 0]] =
    some (_, _) := rfl
  refine ⟨_, _, Run.of_exec ran, ?_⟩
  intro timer
  exact (timer [_, _] _ [] rfl).armed _ rfl rfl (by decide)

end ChatClient
