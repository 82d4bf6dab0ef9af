import ChatClient.UDPRuns

/-! The end of a UDP session: a BYE from the server, and a BYE of the client's
own. Both go wrong over `waiting_for_confirmation`. A server BYE does not clear
the flag, so while it is set the result OVER is lost; the first copy of a server
ERR does not set it, so the client goes on although its BYE is on the way. -/

namespace ChatClient

open Transition UDPProtocolHandler UDPMessageValidator FSMValidate

variable {server : SockAddr} {retries : UInt8} {history : List UDPTurn}
  {loop after : StreamHandler UDPProtocolHandler} {event : Event Datagram}
  {report : Report Datagram}

/-! ## A BYE from the server -/

/-- A turn receives a BYE with a whole header. -/
def ReceivesBye (turn : UDPTurn) (message : Bytes) : Prop :=
  received turn = some message ∧ message[0]? = some 0xFF ∧ 3 ≤ message.length

/-- A turn confirms a BYE, once, and its call returns OVER. -/
def ClosesOn (turn : UDPTurn) (message : Bytes) : Prop :=
  (∃ id, messageId message = some id ∧ sent turn.output.effects = [header 0x00 id]) ∧
    turn.output.returned = some .over

/-- When `process_received` returns OVER, so does `process_server_message`. -/
def PassesOver (turn : UDPTurn) : Prop :=
  ∀ fromAddr buffer inner,
    turn.output.call = .processServerMessage (.received fromAddr buffer) →
    { turn.before.protocolHandler with serverAddress := fromAddr }.processReceived buffer.val =
      some inner →
    inner.returned = some .over → turn.output.returned = some .over

/-- Every BYE received is confirmed once, ends the session, and is the last thing
answered; and no OVER is lost. -/
def ByeEndsSession (history : List UDPTurn) : Prop :=
  (∀ before turn later message, history = before ++ turn :: later → ReceivesBye turn message →
    ClosesOn turn message ∧ ∀ next ∈ later, sent next.output.effects = []) ∧
  ∀ turn ∈ history, PassesOver turn

/-- A BYE arrives while a datagram is waited for. -/
def ByeWhileWaiting (turn : UDPTurn) : Prop :=
  (∃ message, ReceivesBye turn message) ∧ turn.before.protocolHandler.waitingForConfirmation = true

private theorem bye_turn {message : Bytes} (ran : loop.iterate event = some (report, after))
    (receives : ReceivesBye ⟨loop, event, report, after⟩ message) :
    ∃ id, messageId message = some id ∧ sent report.effects = [header 0x00 id] ∧
      report.returned = (if loop.protocolHandler.waitingForConfirmation
        then some .waitingForConfirmation else some .over) ∧
      after.state = report.returned.getD .readyForInput := by
  obtain ⟨is, type, whole⟩ := receives
  obtain ⟨-, iteration⟩ := udpIteration_of_iterate ran
  cases iteration with
  | received called decides handler state =>
    cases is
    obtain ⟨id, read⟩ := messageId_of_length whole
    cases called.symm.trans (processReceived_bye type whole read)
    exact ⟨id, read, rfl, decides, state⟩
  | lost | command | resend | giveUp | idle => cases is

/-- OVER is returned by `process_received` for a confirmed BYE, which clears the
flag, or for a BYE, which leaves it. -/
theorem UDPProtocolHandler.Receipt.over {h : UDPProtocolHandler} {message : Bytes}
    {outcome : Outcome UDPProtocolHandler} (receipt : Receipt h message outcome)
    (ended : outcome.returned = some .over) :
    outcome.handler.waitingForConfirmation = false ∨
      (message[0]? = some 0xFF ∧ 3 ≤ message.length ∧
        outcome.handler.waitingForConfirmation = h.waitingForConfirmation) := by
  cases receipt with
  | byeConfirmed => exact .inl rfl
  | bye type _ whole => exact .inr ⟨type, whole, rfl⟩
  | reply decodes =>
    obtain ⟨_, _, result⟩ := decodes.result
    unfold settleReply at ended
    split at ended
    · cases ended
    · cases result <;> cases ended
  | confirmed =>
    simp only [Option.some.injEq] at ended
    split at ended <;> cases ended
  | errorConfirmed | stray | repeated | shown | errorRepeated | errorShown | failed
  | undecided => cases ended

/-- A turn passes OVER on unless it receives a BYE while a datagram is waited
for. -/
theorem passesOver_of_iterate (ran : loop.iterate event = some (report, after))
    (idle : ¬ ByeWhileWaiting ⟨loop, event, report, after⟩) :
    PassesOver ⟨loop, event, report, after⟩ := by
  intro fromAddr buffer inner calls ran' ended
  obtain ⟨-, iteration⟩ := udpIteration_of_iterate ran
  cases iteration with
  | received called decides =>
    cases calls
    cases called.symm.trans ran'
    have cleared : inner.handler.waitingForConfirmation = false := by
      rcases (receipt_of_processReceived called).over ended with cleared | ⟨type, whole, kept⟩
      · exact cleared
      · rw [kept]
        by_contra waits
        exact idle ⟨⟨_, rfl, type, whole⟩, by simpa using waits⟩
    simp only [decides, cleared, ended]
    rfl
  | lost | command | resend | giveUp | idle => cases calls

/-- A BYE from the server ends the session throughout a run exactly when none
arrives while a datagram is waited for. -/
theorem byeEndsSession_iff (run : UDPRun server retries history loop) :
    ByeEndsSession history ↔ Throughout (fun _ turn => ¬ ByeWhileWaiting turn) history := by
  constructor
  · rintro ⟨closes, -⟩ before turn later rfl ⟨⟨message, receives⟩, waits⟩
    obtain ⟨⟨-, ended⟩, -⟩ := closes before turn later message rfl receives
    obtain ⟨-, -, -, returned, -⟩ := bye_turn run.split.2 receives
    simp [ended, waits] at returned
  · intro idle
    refine ⟨?_, ?_⟩
    · rintro before turn later message rfl receives
      have open' : turn.before.protocolHandler.waitingForConfirmation = false := by
        by_contra waits
        exact idle before turn later rfl ⟨⟨message, receives⟩, by simpa using waits⟩
      obtain ⟨id, read, confirms, returned, state⟩ := bye_turn run.split.2 receives
      have ended : turn.output.returned = some .over := by simp [returned, open']
      refine ⟨⟨⟨id, read, confirms⟩, ended⟩, ?_⟩
      rw [run.last_of_stuck (iterate_over (by rw [state, ended]; rfl))]
      simp
    · intro turn member
      obtain ⟨before, later, rfl⟩ := List.append_of_mem member
      exact passesOver_of_iterate run.split.2 (idle before turn later rfl)

/-- A BYE that arrives once the AUTH is confirmed ends the session. -/
theorem byeEndsSession_iff_auth : ∃ history loop, UDPRun localServer 3 history loop ∧
    loop.state = .over ∧
    (ByeEndsSession history ↔ Throughout (fun _ turn => ¬ ByeWhileWaiting turn) history) := by
  have ran : sample [types "/auth a b c", arrives [0x00, 0, 0], arrives [0xFF, 0, 9]] =
    some (_, _) := rfl
  exact ⟨_, _, Run.of_exec ran, rfl, byeEndsSession_iff (Run.of_exec ran)⟩

/-- A BYE that arrives before the AUTH is confirmed leaves the client
retransmitting. -/
theorem bye_lost_while_waiting : ∃ history loop, UDPRun localServer 3 history loop ∧
    loop.state = .waitingForConfirmation ∧ ¬ ByeEndsSession history := by
  have ran : sample [types "/auth a b c", arrives [0xFF, 0, 9], .poll .timedOut] =
    some (_, _) := rfl
  refine ⟨_, _, Run.of_exec ran, rfl, ?_⟩
  intro ends
  have closes := (ends.1 [_] _ [_] [0xFF, 0, 9] rfl ⟨rfl, rfl, by decide⟩).1.2
  exact absurd closes (by decide)

/-! ## A BYE of the client's own -/

/-- The client has originated a BYE. -/
def SaidBye (history : List UDPTurn) : Prop := ∃ m ∈ allOriginated history, hasType 0xFF m = true

/-- The state a turn's handler call returns to the event loop. -/
def answered (turn : UDPTurn) : Option ClientState :=
  match turn.output.call with
  | .processServerMessage _ | .processUserInput _ => some (turn.output.returned.getD .readyForInput)
  | .resendLastMessage | .none => none

/-- From its first BYE on the client waits for a confirmation until OVER, and
originates nothing but BYEs. -/
structure StaysClosed (before : List UDPTurn) (turn : UDPTurn) : Prop where
  waits : SaidBye (before ++ [turn]) → ∀ state, answered turn = some state →
    state = .waitingForConfirmation ∨ state = .over
  quiet : SaidBye before → ∀ m ∈ originated turn, hasType 0xFF m = true

/-- A first copy of an ERR the machine accepts, while nothing is waited for. -/
def FreshError (turn : UDPTurn) : Prop :=
  ∃ message id, received turn = some message ∧ message[0]? = some 0xFE ∧
    messageId message = some id ∧ (parseAndValidate (message.drop 3) "err").2 = true ∧
    Answerable turn.before.protocolHandler.fsm ∧ id ∉ turn.before.protocolHandler.receivedIds ∧
    turn.before.protocolHandler.waitingForConfirmation = false

private theorem saidBye_iff_ending (linked : Linked history loop) :
    SaidBye history ↔ loop.protocolHandler.link.ending = true := by
  have noBye := linked.noBye
  constructor
  · rintro ⟨m, member, bye⟩
    by_contra open'
    simp [noBye.mp (by simpa using open') m member] at bye
  · intro ending
    by_contra none
    have none : ∀ m ∈ allOriginated history, hasType 0xFF m = false := fun m member => by
      by_contra bye
      exact none ⟨m, member, by simpa using bye⟩
    simp [noBye.mpr none] at ending

/-- A BYE on its way is waited for, as is an ERR before it. -/
structure Closing (loop : StreamHandler UDPProtocolHandler) : Prop where
  failed : loop.protocolHandler.link.failed = true →
    loop.protocolHandler.link.waiting = true ∨ loop.protocolHandler.link.ending = true
  ending : loop.protocolHandler.link.ending = true →
    loop.state = .over ∨
      (loop.state = .waitingForConfirmation ∧ loop.protocolHandler.link.waiting = true)

/-- A call for a datagram that is no fresh ERR leaves a BYE waited for, unless it
ends the session. -/
theorem UDPProtocolHandler.Receipt.closing {h : UDPProtocolHandler} {message : Bytes}
    {outcome : Outcome UDPProtocolHandler} (receipt : Receipt h message outcome)
    (failed : h.errorSent = true → h.waitingForConfirmation = true ∨ h.awaitingOver = true)
    (closing : h.awaitingOver = true → h.waitingForConfirmation = true)
    (seen : ∀ id, message[0]? = some 0xFE → messageId message = some id →
      (parseAndValidate (message.drop 3) "err").2 = true →
      (∃ fsm, h.fsm.validateAction .errorServer = some (.any, fsm)) →
      id ∉ h.receivedIds → h.waitingForConfirmation = true)
    (ending : outcome.handler.awaitingOver = true) :
    outcome.returned = some .over ∨ outcome.handler.waitingForConfirmation = true := by
  cases receipt with
  | byeConfirmed => exact .inl rfl
  | errorConfirmed _ _ goes sent =>
    refine .inr ((failed sent).resolve_right fun ended => ?_)
    simp [ended] at goes
  | confirmed _ _ goes => exact absurd (ending.symm.trans goes) (by decide)
  | errorRepeated => exact .inr rfl
  | errorShown type id body asked fresh =>
    exact .inr (seen _ type id (by rw [body]) ⟨_, asked⟩ fresh)
  | failed => exact .inr sendErrorMessage_link.2
  | reply =>
    unfold settleReply at ending ⊢
    split at ending <;> exact .inr (by split <;> exact closing ending)
  | stray | repeated | shown | bye | undecided => exact .inr (closing ending)

/-- An iteration that receives no fresh ERR keeps a BYE waited for. -/
theorem Closing.step (closing : Closing loop) (linked : Linked history loop)
    (legal : loop.protocolHandler.fsm.Legal) (ran : loop.iterate event = some (report, after))
    (seen : ¬ FreshError ⟨loop, event, report, after⟩) : Closing after := by
  refine ⟨(linkMove_of_iterate ran linked.gated).failed_waits closing.failed, ?_⟩
  intro ending
  obtain ⟨goes, iteration⟩ := udpIteration_of_iterate ran
  have waits (ending : loop.protocolHandler.link.ending = true) :=
    (closing.ending ending).resolve_left goes
  cases iteration with
  | @received _ _ inner _ _ called decides handler state =>
    rw [handler] at ending ⊢
    cases flag : inner.handler.waitingForConfirmation with
    | true => exact .inr ⟨by simp [state, decides, flag], flag⟩
    | false =>
      have receipt := receipt_of_processReceived called
      refine .inl ?_
      have ended := (receipt.closing closing.failed (fun ended => (waits ended).2) ?_ ending).resolve_right
        (by simp [flag])
      · simp [state, decides, flag, ended]
      · intro id type read body accepted fresh
        by_contra idle
        refine seen ⟨_, id, rfl, type, read, body, ?_, fresh, by simpa using idle⟩
        obtain ⟨fsm, asked⟩ := accepted
        exact (legal.answered (.inr (.inr rfl)) asked).answerable
  | @command _ line outcome _ called reads handler state =>
    rw [handler] at ending ⊢
    have command := command_of_processUserInput called
    rcases command.waits with returned | same
    · exact .inr ⟨by simp [state, returned], command.armed returned⟩
    · rw [same] at ending
      rcases reads with exits | ⟨-, -, noConfirm⟩
      · cases command with
        | exit => exact .inr ⟨state, rfl⟩
        | _ => contradiction
      · exact absurd (waits ending).1 noConfirm
  | lost _ state | giveUp _ _ state => exact .inl state
  | resend _ handler state =>
    rw [handler] at ending ⊢
    exact .inr ⟨state, (waits ending).2⟩
  | idle _ handler state =>
    rw [handler] at ending ⊢
    rw [state]
    exact .inr (waits ending)

private theorem state_of_answered {state : ClientState}
    (ran : loop.iterate event = some (report, after))
    (answer : answered ⟨loop, event, report, after⟩ = some state) : after.state = state := by
  obtain ⟨-, iteration⟩ := udpIteration_of_iterate ran
  cases iteration with
  | received _ _ _ goesOn | command _ _ _ goesOn => exact goesOn.trans (Option.some.inj answer)
  | lost _ goesOn => exact goesOn.trans (Option.some.inj answer)
  | resend | giveUp | idle => cases answer

private theorem freshError_turn (legal : loop.protocolHandler.fsm.Legal)
    (ran : loop.iterate event = some (report, after))
    (fresh : FreshError ⟨loop, event, report, after⟩) :
    after.protocolHandler.link.ending = true ∧
      answered ⟨loop, event, report, after⟩ = some .readyForInput := by
  obtain ⟨message, id, is, type, read, valid, answerable, new, idle⟩ := fresh
  obtain ⟨-, iteration⟩ := udpIteration_of_iterate ran
  cases iteration with
  | received called decides handler =>
    cases is
    obtain ⟨id', dname, content, read', body⟩ := named_of_valid (.inr rfl) valid
    cases read.symm.trans read'
    obtain ⟨fsm, asked⟩ := legal.accepts_answer answerable (.inr (.inr rfl))
    simp only at new idle
    have outcome := called.symm.trans (processReceived_error type read body asked)
    simp only [new, ↓reduceIte, Option.some.injEq] at outcome
    subst outcome
    refine ⟨by rw [handler]; rfl, ?_⟩
    simp [answered, decides, track, idle]
  | lost | command | resend | giveUp | idle => cases is

/-- After its BYE the client stays closed throughout a run exactly when the run
receives no fresh ERR while nothing is waited for. -/
theorem staysClosed_iff_no_freshError (run : UDPRun server retries history loop) :
    Throughout StaysClosed history ↔ Throughout (fun _ turn => ¬ FreshError turn) history := by
  apply run.throughout_iff
  intro before loop event report after run ran meets
  have linked := udpRun_linked run
  have linkedAfter := linked.step ran
  have legal := udpRun_legal run
  constructor
  · intro closed fresh
    obtain ⟨ending, answer⟩ := freshError_turn legal ran fresh
    have waits := closed.waits ((saidBye_iff_ending linkedAfter).mpr ending) _ answer
    simp at waits
  · intro seen
    have closing : Closing loop := run.invariant_of_throughout (I := fun _ loop => Closing loop) meets
      ⟨by simp [StreamHandler.start, create, link], by simp [StreamHandler.start, create, link]⟩
      fun run closing ran seen => closing.step (udpRun_linked run) (udpRun_legal run) ran seen
    refine ⟨?_, ?_⟩
    · intro bye state answer
      rw [← state_of_answered ran answer]
      have ending := (saidBye_iff_ending linkedAfter).mp bye
      exact ((closing.step linked legal ran seen).ending ending).symm.imp_left And.left
    · intro bye m sends
      have ending := (saidBye_iff_ending linked).mp bye
      have waits := (closing.ending ending).resolve_left (udpIteration_of_iterate ran).1
      by_contra other
      have idle := (linkMove_of_iterate ran linked.gated).idle_of_originated sends (by simpa using other)
      exact absurd (waits.2.symm.trans idle) (by decide)

/-- The client leaves with `/exit` and its BYE is confirmed. -/
theorem staysClosed_iff_no_freshError_exit : ∃ history loop, UDPRun localServer 3 history loop ∧
    loop.state = .over ∧
    (Throughout StaysClosed history ↔ Throughout (fun _ turn => ¬ FreshError turn) history) := by
  have ran : sample [types "/exit", .poll .timedOut, arrives [0x00, 0, 0]] = some (_, _) := rfl
  exact ⟨_, _, Run.of_exec ran, rfl, staysClosed_iff_no_freshError (Run.of_exec ran)⟩

/-- The first copy of an ERR, here to an AUTH that was confirmed, has the client
ready for input after its BYE. -/
theorem freshError_reopens : ∃ history loop, UDPRun localServer 3 history loop ∧
    ¬ Throughout StaysClosed history := by
  have ran : sample [types "/auth a b c", arrives [0x00, 0, 0],
    arrives [0xFE, 0, 7, 0x53, 0, 0x6E, 0x6F, 0]] = some (_, _) := rfl
  refine ⟨_, _, Run.of_exec ran, ?_⟩
  intro closed
  have waits := (closed [_, _] _ [] rfl).waits ⟨[0xFF, 0, 1], by decide, rfl⟩ .readyForInput rfl
  simp at waits

end ChatClient
