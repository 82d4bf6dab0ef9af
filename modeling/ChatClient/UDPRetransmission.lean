import ChatClient.UDPRuns

/-! The budget of retransmissions. The loop restores `retry_count` only after a call
for a datagram that does not wait for a confirmation, but the handler may replace
the datagram it waits for within a call that does. The new datagram then has what
its predecessor left of the budget. -/

namespace ChatClient

open Transition UDPProtocolHandler UDPMessageValidator FSMValidate

variable {server : SockAddr} {retries : UInt8} {history : List UDPTurn} {turn : UDPTurn}
  {loop after : StreamHandler UDPProtocolHandler} {event : Event Datagram}
  {report : Report Datagram} {h : UDPProtocolHandler} {message : Bytes}
  {outcome : Outcome UDPProtocolHandler}

/-! ## Transmissions -/

/-- The turns from the last one on that originated a datagram. -/
def sinceLast (history : List UDPTurn) : List UDPTurn :=
  history.foldl (fun since turn => if originated turn = [] then since ++ [turn] else [turn]) []

/-- How often a datagram was sent since the last one was originated. -/
def transmissions (m : Bytes) (history : List UDPTurn) : Nat :=
  ((sinceLast history).flatMap fun turn => sent turn.output.effects).count m

/-- When the loop gives up on a timeout, the last datagram, if it is unconfirmed, was
sent once and then as often again as the client may retransmit. -/
def FullBudget (retries : UInt8) (before : List UDPTurn) (turn : UDPTurn) : Prop :=
  turn.input = .poll .timedOut → turn.after.state = .over →
    ∀ m, (allOriginated before).getLast? = some m → m ∈ unconfirmed before →
      transmissions m before = 1 + retries.toNat

/-- A REPLY with a result or a MSG that is accepted. -/
def AcceptedText (h : UDPProtocolHandler) (message : Bytes) : Prop :=
  (∃ id refID content action shown ignored,
    DecodesReply message id refID content action shown ignored ∧ Answerable h.fsm) ∨
  (message[0]? = some 0x04 ∧ (parseAndValidate (message.drop 3) "msg").2 = true ∧
    h.fsm.currentState = .opened)

/-- An ERR that is accepted. -/
def AcceptedError (h : UDPProtocolHandler) (message : Bytes) : Prop :=
  message[0]? = some 0xFE ∧ (parseAndValidate (message.drop 3) "err").2 = true ∧ Answerable h.fsm

/-- The datagrams to which the client answers with one of its own, and waits: the
CONFIRM of its ERR; an ERR while it waits; and while it does not, whatever is no
CONFIRM, no BYE, and no REPLY, MSG or new ERR that is accepted. -/
def Provokes (h : UDPProtocolHandler) (message : Bytes) : Prop :=
  (message[0]? = some 0x00 ∧ messageId message = some h.awaitedConirmId ∧
    h.awaitingOver = false ∧ h.errorSent = true) ∨
  (h.waitingForConfirmation = true ∧ AcceptedError h message) ∨
  (h.waitingForConfirmation = false ∧ message[0]? ≠ some 0x00 ∧
    ¬ (message[0]? = some 0xFF ∧ 3 ≤ message.length) ∧ ¬ AcceptedText h message ∧
    ¬ (AcceptedError h message ∧ ∀ id, messageId message = some id → id ∉ h.receivedIds))

/-- With part of the budget spent, a datagram is replaced by another one: at the first
interrupt, or because of what arrives; or the budget is restored for a BYE that is
out but not waited for. -/
def Miscounts (turn : UDPTurn) : Prop :=
  turn.before.retryCount < turn.before.retrans ∧
    (((∃ result, turn.input = .poll result) ∧ turn.before.interrupted = true ∧
        turn.before.firstTimeInterrupted = true) ∨
      ∃ message, received turn = some message ∧ (Provokes turn.before.protocolHandler message ∨
        (turn.before.protocolHandler.waitingForConfirmation = false ∧
          turn.before.protocolHandler.awaitingOver = true ∧
          AcceptedText turn.before.protocolHandler message)))

private theorem transmissions_quiet {m : Bytes} (quiet : originated turn = []) :
    transmissions m (history ++ [turn]) =
      transmissions m history + (sent turn.output.effects).count m := by
  simp [transmissions, sinceLast, quiet]

private theorem transmissions_new {m : Bytes} (new : originated turn ≠ []) :
    transmissions m (history ++ [turn]) = (sent turn.output.effects).count m := by
  simp [transmissions, sinceLast, new]

private theorem count_sent {effects : List Effect} {m : Bytes} (kind : hasType 0x00 m = false) :
    (sent effects).count m = (issued effects).count m := by
  rw [issued, List.count_filter (by simp [kind])]

/-! ## What arrives -/

private theorem returned_of_accepted (legal : h.fsm.Legal)
    (ran : h.processReceived message = some outcome)
    (accepted : (message[0]? = some 0xFF ∧ 3 ≤ message.length) ∨ AcceptedText h message ∨
      (AcceptedError h message ∧ ∀ id, messageId message = some id → id ∉ h.receivedIds)) :
    outcome.returned ≠ some .waitingForConfirmation := by
  rcases accepted with ⟨type, whole⟩ | (⟨id, refID, content, action, shown, ignored, decodes, answerable⟩ |
    ⟨type, body, opened⟩) | ⟨⟨type, body, answerable⟩, fresh⟩
  · obtain ⟨id, read⟩ := messageId_of_length whole
    cases ran.symm.trans (processReceived_bye type whole read)
    simp
  · obtain ⟨_, _, result⟩ := decodes.result
    obtain ⟨fsm, asked⟩ := legal.accepts_answer answerable result.answer
    cases ran.symm.trans (processReceived_reply decodes asked)
    unfold settleReply
    split
    · simp
    · cases result <;> simp
  · obtain ⟨id, dname, content, read, valid⟩ := named_of_valid (.inl rfl) body
    have asked := legal.accepts_spoken opened (.inl rfl)
    cases ran.symm.trans (processReceived_message type read valid asked)
    split <;> simp
  · obtain ⟨id, dname, content, read, valid⟩ := named_of_valid (.inr rfl) body
    obtain ⟨fsm, asked⟩ := legal.accepts_answer answerable (.inr (.inr rfl))
    cases ran.symm.trans (processReceived_error type read valid asked)
    rw [if_neg (fresh id read)]
    simp

/-- A datagram the client answers with one of its own, and waits, provokes it. -/
theorem UDPProtocolHandler.Receipt.provokes (receipt : Receipt h message outcome)
    (legal : h.fsm.Legal)
    (ran : h.processReceived message = some outcome) (issues : issued outcome.effects ≠ [])
    (waits : outcome.handler.waitingForConfirmation = true ∨
      outcome.returned = some .waitingForConfirmation) : Provokes h message := by
  have refuses (returned : outcome.returned = some .waitingForConfirmation) :
      ¬ (message[0]? = some 0xFF ∧ 3 ≤ message.length) ∧ ¬ AcceptedText h message ∧
      ¬ (AcceptedError h message ∧ ∀ id, messageId message = some id → id ∉ h.receivedIds) :=
    ⟨fun bye => returned_of_accepted legal ran (.inl bye) returned,
      fun accepted => returned_of_accepted legal ran (.inr (.inl accepted)) returned,
      fun accepted => returned_of_accepted legal ran (.inr (.inr accepted)) returned⟩
  cases receipt with
  | errorConfirmed type id goes failed => exact .inl ⟨type, id, goes, failed⟩
  | errorRepeated type id body asked =>
    cases flag : h.waitingForConfirmation with
    | true =>
      have answerable := (legal.answered (.inr (.inr rfl)) asked).answerable
      exact .inr (.inl ⟨flag, type, by rw [body], answerable⟩)
    | false => exact .inr (.inr ⟨flag, by simp [type], refuses rfl⟩)
  | errorShown type id body asked =>
    have answerable := (legal.answered (.inr (.inr rfl)) asked).answerable
    rcases waits with flag | returned
    · exact .inr (.inl ⟨flag, type, by rw [body], answerable⟩)
    · cases returned
  | @failed fsm kind confirmation error type noConfirm _ confirms =>
    refine .inr (.inr ⟨?_, by simpa [type] using noConfirm, refuses rfl⟩)
    by_contra flag
    have flag : h.waitingForConfirmation = true := by simpa using flag
    apply issues
    rcases confirms with ⟨-, rfl⟩ | ⟨-, id, -, rfl⟩ <;> simp [failWith, sendErrorMessage, flag]
  | reply decodes =>
    refine absurd ?_ issues
    obtain ⟨_, _, result⟩ := decodes.result
    unfold settleReply
    split
    · cases result <;> rw [issued_shown rfl, issued_confirmation, issued_nil]
    · rw [issued_confirmation, issued_nil]
  | shown => exact absurd (by rw [issued_confirmation, issued_shown rfl, issued_nil]) issues
  | repeated | bye => exact absurd (by rw [issued_confirmation, issued_nil]) issues
  | byeConfirmed | confirmed | stray | undecided => exact absurd rfl issues

/-- A datagram after which nothing is waited for is a text that is accepted while
nothing is, or leaves no BYE to be confirmed. -/
theorem UDPProtocolHandler.Receipt.restores (receipt : Receipt h message outcome)
    (legal : h.fsm.Legal) (quiet : issued outcome.effects = [])
    (idle : outcome.handler.waitingForConfirmation = false)
    (returned : outcome.returned ≠ some .waitingForConfirmation)
    (open' : outcome.returned ≠ some .over) :
    (AcceptedText h message ∧ h.waitingForConfirmation = false ∧
      outcome.handler.awaitingOver = h.awaitingOver) ∨ outcome.handler.awaitingOver = false := by
  cases receipt with
  | confirmed _ _ goes => exact .inr goes
  | reply decodes asked =>
    obtain ⟨_, _, result⟩ := decodes.result
    have answerable := (legal.answered result.answer asked).answerable
    refine .inl ⟨.inl ⟨_, _, _, _, _, _, decodes, answerable⟩, ?_, ?_⟩
    · rw [← idle]
      unfold settleReply
      split <;> rfl
    · unfold settleReply
      split <;> rfl
  | repeated type id body asked | shown type id body asked =>
    exact .inl ⟨.inr ⟨type, by rw [body], (legal.spoken (.inl rfl) asked).1⟩, idle, rfl⟩
  | errorShown =>
    rw [issued_confirmation, issued_shown rfl, issued_message (by simp)] at quiet
    cases quiet
  | undecided type server asked neither =>
    exact absurd neither (legal.decided (.inl server) asked)
  | byeConfirmed | bye => exact absurd rfl open'
  | errorConfirmed | stray | errorRepeated | failed => exact absurd rfl returned

/-! ## The count -/

/-- The count covers what is left of the budget of the last datagram. -/
structure Budgeted (history : List UDPTurn) (loop : StreamHandler UDPProtocolHandler) : Prop where
  within : loop.retryCount ≤ loop.retrans
  ready : loop.state = .readyForInput ∨ loop.state = .waitingForReply →
    loop.retryCount = loop.retrans
  spent : loop.state ≠ .over → ∀ m, (allOriginated history).getLast? = some m →
    m ∈ unconfirmed history →
    transmissions m history + loop.retryCount.toNat = 1 + loop.retrans.toNat

private theorem not_confirm_of_originated {m : Bytes} (member : m ∈ allOriginated history) :
    hasType 0x00 m = false := by
  obtain ⟨turn, -, sends⟩ := List.mem_flatMap.mp member
  unfold originated at sends
  split at sends
  · cases sends
  · simpa using (List.mem_filter.mp sends).2

private theorem issued_of_originated (new : originated turn ≠ []) :
    issued turn.output.effects = originated turn := by
  unfold originated at new ⊢
  split at new
  · exact absurd rfl new
  · rfl

private theorem toNat_sub_one {count : UInt8} (left : 0 < count) :
    (count - 1).toNat + 1 = count.toNat := by
  have some : 0 < count.toNat := by simpa [UInt8.lt_iff_toNat_lt] using left
  have bound : (1 : UInt8) ≤ count := by
    rw [UInt8.le_iff_toNat_le]
    exact some
  rw [UInt8.toNat_sub_of_le _ _ bound]
  exact Nat.sub_add_cancel some

private theorem whole_of_not_less (within : loop.retryCount ≤ loop.retrans)
    (whole : ¬ loop.retryCount < loop.retrans) : loop.retryCount = loop.retrans := by
  rw [UInt8.le_iff_toNat_le] at within
  rw [UInt8.lt_iff_toNat_lt] at whole
  apply UInt8.toNat_inj.mp
  omega

/-- While no confirmation is waited for, the budget is whole. -/
theorem Budgeted.idle (budgeted : Budgeted history loop) (goes : loop.state ≠ .over)
    (noConfirm : loop.state ≠ .waitingForConfirmation) : loop.retryCount = loop.retrans := by
  apply budgeted.ready
  by_cases replying : loop.state = .waitingForReply
  · exact .inr replying
  · exact .inl (ready_of_not goes replying noConfirm)

/-- What a turn originates finds the whole budget. -/
theorem Budgeted.whole (budgeted : Budgeted history loop) (legal : loop.protocolHandler.fsm.Legal)
    (ran : loop.iterate event = some (report, after))
    (sound : ¬ Miscounts ⟨loop, event, report, after⟩)
    (issues : originated ⟨loop, event, report, after⟩ ≠ []) (goes : after.state ≠ .over) :
    after.retryCount = loop.retrans := by
  obtain ⟨-, counts⟩ := retryCount_of_iterate ran
  obtain ⟨open', iteration⟩ := udpIteration_of_iterate ran
  cases iteration with
  | @received fromAddr buffer inner returned _ called decides handler state =>
    simp only at counts
    rw [counts]
    split
    · rename_i waits
      refine whole_of_not_less budgeted.within fun less => sound ⟨less, .inr ⟨_, rfl, .inl ?_⟩⟩
      refine (receipt_of_processReceived called).provokes legal called issues ?_
      rw [state, decides] at waits
      by_cases armed : inner.handler.waitingForConfirmation = true
      · exact .inl armed
      · rw [if_neg armed] at waits
        cases answer : inner.returned with
        | none => simp [answer] at waits
        | some current => exact .inr (by simpa [answer] using waits)
    · rfl
  | command called reads handler state =>
    simp only at counts
    rw [counts]
    by_cases waiting : loop.state = .waitingForConfirmation
    · obtain ⟨polled, -, first⟩ := exit_of_waiting waiting ran rfl
      exact whole_of_not_less budgeted.within fun less => sound ⟨less, .inl ⟨polled, first⟩⟩
    · exact budgeted.idle open' waiting
  | lost handler state | giveUp _ handler state => exact absurd state goes
  | resend => exact absurd rfl issues
  | idle silent => rcases silent with rfl | rfl <;> exact absurd rfl issues

/-- A turn that originates nothing takes as much from the count as it sends of the
last datagram. -/
theorem Budgeted.quiet (budgeted : Budgeted history loop) (linked : Linked history loop)
    (legal : loop.protocolHandler.fsm.Legal) (ran : loop.iterate event = some (report, after))
    (sound : ¬ Miscounts ⟨loop, event, report, after⟩)
    (quiet : originated ⟨loop, event, report, after⟩ = []) (goes : after.state ≠ .over) {m : Bytes}
    (last : (allOriginated history).getLast? = some m)
    (held : m ∈ unconfirmed (history ++ [⟨loop, event, report, after⟩])) :
    (sent report.effects).count m + after.retryCount.toNat = loop.retryCount.toNat := by
  obtain ⟨-, counts⟩ := retryCount_of_iterate ran
  have linkedAfter := linked.step ran
  have kind := not_confirm_of_originated (List.mem_of_getLast? last)
  have none (silent : issued report.effects = []) : (sent report.effects).count m = 0 := by
    rw [count_sent kind, silent, List.count_nil]
  obtain ⟨open', iteration⟩ := udpIteration_of_iterate ran
  cases iteration with
  | @received fromAddr buffer inner returned _ called decides handler state =>
    rw [none quiet, Nat.zero_add]
    simp only at counts
    rw [counts]
    split
    · rfl
    · rename_i waits
      refine congrArg UInt8.toNat (Eq.symm (whole_of_not_less budgeted.within fun less => ?_))
      have idle : inner.handler.waitingForConfirmation = false := by
        by_contra armed
        exact waits (by simp [state, decides, armed])
      have ending : inner.handler.awaitingOver ≠ false := fun open' => by
        have none := linkedAfter.alone (handler ▸ open')
        rw [handler, if_neg (by simp [link, idle])] at none
        rw [none] at held
        cases held
      have answer : returned = inner.returned := by simp [decides, idle]
      rcases (receipt_of_processReceived called).restores legal quiet idle
          (fun same => waits (by simp [state, answer, same]))
          (fun same => goes (by simp [state, answer, same])) with ⟨accepted, unarmed, same⟩ | open'
      · refine sound ⟨less, .inr ⟨_, rfl, .inr ⟨unarmed, ?_, accepted⟩⟩⟩
        exact same.symm.trans (by simpa using ending)
      · exact ending open'
  | command =>
    rw [none quiet, Nat.zero_add]
    exact congrArg UInt8.toNat counts
  | lost handler state | giveUp _ handler state => exact absurd state goes
  | resend =>
    obtain ⟨left, counts⟩ := counts
    have same : m = loop.protocolHandler.lastMessage := linked.last m last
    rw [counts, resendLastMessage, sendMessage, sent_sendto, ← same]
    simpa [Nat.add_comm] using toNat_sub_one left
  | idle silent =>
    rw [none quiet, Nat.zero_add]
    exact congrArg UInt8.toNat counts.1

private theorem Budgeted.keeps_within (budgeted : Budgeted history loop)
    (ran : loop.iterate event = some (report, after)) : after.retryCount ≤ loop.retrans := by
  obtain ⟨-, counts⟩ := retryCount_of_iterate ran
  obtain ⟨-, iteration⟩ := udpIteration_of_iterate ran
  cases iteration with
  | received | lost =>
    simp only at counts
    rw [counts]
    split
    · exact budgeted.within
    · exact UInt8.le_refl _
  | command => exact counts ▸ budgeted.within
  | resend =>
    obtain ⟨left, counts⟩ := counts
    have less := toNat_sub_one left
    have within := UInt8.le_iff_toNat_le.mp budgeted.within
    rw [counts, UInt8.le_iff_toNat_le]
    omega
  | giveUp | idle => exact counts.1 ▸ budgeted.within

/-- A turn that leaves no confirmation waited for leaves the budget whole. -/
theorem Budgeted.keeps_ready (budgeted : Budgeted history loop)
    (ran : loop.iterate event = some (report, after))
    (idle : after.state = .readyForInput ∨ after.state = .waitingForReply) :
    after.retryCount = loop.retrans := by
  obtain ⟨-, counts⟩ := retryCount_of_iterate ran
  obtain ⟨open', iteration⟩ := udpIteration_of_iterate ran
  cases iteration with
  | received | lost =>
    simp only at counts
    rw [counts, if_neg]
    intro waits
    simp [waits] at idle
  | command called reads _ state =>
    rw [counts]
    apply budgeted.idle open'
    intro waiting
    obtain ⟨-, rfl, -⟩ := exit_of_waiting waiting ran rfl
    cases command_of_processUserInput called with
    | exit => simp [state] at idle
    | _ => contradiction
  | resend _ _ state | giveUp _ _ state => simp [state] at idle
  | idle _ _ state => exact counts.1.trans (budgeted.ready (state ▸ idle))

/-- A turn that does not miscount keeps the count. -/
theorem Budgeted.step (budgeted : Budgeted history loop) (linked : Linked history loop)
    (legal : loop.protocolHandler.fsm.Legal) (ran : loop.iterate event = some (report, after))
    (sound : ¬ Miscounts ⟨loop, event, report, after⟩) :
    Budgeted (history ++ [⟨loop, event, report, after⟩]) after := by
  have same := (retryCount_of_iterate ran).1
  refine ⟨same ▸ budgeted.keeps_within ran, fun idle => same ▸ budgeted.keeps_ready ran idle, ?_⟩
  intro goes m last held
  have open' := (udpIteration_of_iterate ran).1
  rw [same]
  by_cases new : originated ⟨loop, event, report, after⟩ = []
  · rw [allOriginated_snoc, new, List.append_nil] at last
    have before : m ∈ unconfirmed history := by
      rw [unconfirmed_snoc, new, List.append_nil] at held
      exact (mem_settled.mp held).1
    have spent := budgeted.spent open' m last before
    have taken := budgeted.quiet linked legal ran sound new goes last held
    rw [transmissions_quiet new]
    dsimp only
    omega
  · obtain ⟨m', member⟩ := List.exists_mem_of_ne_nil _ new
    have one := (linkMove_of_iterate ran linked.gated).single member
    rw [allOriginated_snoc, one, List.getLast?_concat] at last
    cases last
    have kind := @not_confirm_of_originated [⟨loop, event, report, after⟩] m
      (by simp [allOriginated, one])
    rw [transmissions_new new, budgeted.whole legal ran sound new goes, count_sent kind,
      issued_of_originated new, one, List.count_singleton_self]

/-! ## Runs -/

/-- The loop knows its maximum in every run. -/
theorem udpRun_retrans (run : UDPRun server retries history loop) : loop.retrans = retries :=
  run.invariant (I := fun _ loop => loop.retrans = retries) rfl
    fun _ same ran => (retryCount_of_iterate ran).1.trans same

/-- The count covers the budget all along a run that does not miscount. -/
theorem udpRun_budgeted (run : UDPRun server retries history loop)
    (sound : Throughout (fun _ turn => ¬ Miscounts turn) history) : Budgeted history loop := by
  refine run.invariant_of_throughout (I := Budgeted) sound ⟨UInt8.le_refl _, fun _ => rfl, ?_⟩ ?_
  · simp [allOriginated]
  · exact fun before budgeted ran sound =>
      budgeted.step (udpRun_linked before) (udpRun_legal before) ran sound

/-- All along every run that does not miscount, a datagram that is given up was sent
once and retransmitted as often as the client may. -/
theorem fullBudget_of_no_miscounts (run : UDPRun server retries history loop)
    (sound : Throughout (fun _ turn => ¬ Miscounts turn) history) :
    Throughout (FullBudget retries) history := by
  refine run.throughout_of_throughout sound ?_
  intro history loop event report after before ran earlier _ timedOut gaveUp m last held
  obtain ⟨goes, iteration⟩ := udpIteration_of_iterate ran
  have budgeted := udpRun_budgeted before earlier
  have spent := budgeted.spent goes m last held
  rw [udpRun_retrans before] at spent
  obtain ⟨-, counts⟩ := retryCount_of_iterate ran
  cases iteration with
  | giveUp =>
    rcases counts.2 with same | none
    · exact absurd (same.symm.trans gaveUp) goes
    · rw [none] at spent
      exact spent
  | command called _ _ state =>
    have ends : _ = ClientState.over := state.symm.trans gaveUp
    rw [Option.getD_eq_iff] at ends
    rcases ends with ended | ⟨-, other⟩
    · exact absurd ended (command_of_processUserInput called).goes_on
    · cases other
  | resend _ _ state => cases state.symm.trans gaveUp
  | idle _ _ state => exact absurd (state.symm.trans gaveUp) goes
  | received | lost => cases timedOut

/-- An AUTH that nothing answers. -/
theorem fullBudget_of_no_miscounts_auth : ∃ history loop, UDPRun localServer 3 history loop ∧
    loop.state = .over ∧ transmissions [0x02, 0, 0, 0x61, 0, 0x63, 0, 0x62, 0] history = 4 ∧
    Throughout (FullBudget 3) history := by
  have ran : sample [types "/auth a b c", .poll .timedOut, .poll .timedOut, .poll .timedOut,
    .poll .timedOut] = some (_, _) := rfl
  refine ⟨_, _, Run.of_exec ran, rfl, by decide, fullBudget_of_no_miscounts (Run.of_exec ran) ?_⟩
  intro before turn later shape
  have quiet : ∀ done ∈ before ++ turn :: later, done.before.interrupted = false ∧
      received done = none := by
    rw [← shape]
    decide
  obtain ⟨uninterrupted, silent⟩ := quiet turn (by simp)
  rintro ⟨-, ⟨-, interrupted, -⟩ | ⟨message, arrived, -⟩⟩
  · cases uninterrupted.symm.trans interrupted
  · cases silent.symm.trans arrived

/-- After one timeout for the ERR, the BYE that follows it is retransmitted twice
only, where the client may three times. -/
theorem bye_inherits_count : ∃ history loop, UDPRun localServer 3 history loop ∧
    loop.state = .over ∧ unconfirmed history = [formByeMessage 1] ∧
    transmissions (formByeMessage 1) history = 3 ∧ ¬ Throughout (FullBudget 3) history := by
  have ran : sample [arrives [0x05], .poll .timedOut, arrives [0x00, 0, 0], .poll .timedOut,
    .poll .timedOut, .poll .timedOut] = some (_, _) := rfl
  refine ⟨_, _, Run.of_exec ran, rfl, by decide, by decide, fun full => ?_⟩
  have count := full [_, _, _, _, _] _ [] rfl rfl rfl (formByeMessage 1) (by decide) (by decide)
  revert count
  decide

end ChatClient
