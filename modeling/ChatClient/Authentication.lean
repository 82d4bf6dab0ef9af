import ChatClient.TCPRuns
import ChatClient.UDPReplies

/-! Whether a successful authentication opens the session.

The machine accepts a positive reply in AUTH in two ways. Through the switch it
goes on to OPEN; but a second accepted `/auth` leaves the replies listed in
`expectedAction`, and a reply accepted because it is listed there leaves it in
AUTH, although the user is told of the success. -/

namespace ChatClient

open Transition FSMValidate

/-! ## The machine and the lines of text -/

/-- A settled machine that accepts a positive reply is in OPEN then, unless the
reply was listed. -/
theorem FSMValidate.Settled.opens_iff {fsm after : FSMValidate} (settled : Settled fsm)
    (asked : fsm.validateAction .replyServer = some (.any, after)) :
    after.currentState = .opened ↔ fsm.expectedAction ≠ answers := by
  rcases settled with legal | ⟨previous, rfl⟩
  · cases legal.answered (.inl rfl) asked with
    | opens home | keeps home => simp
    | listed answer => simp
  · cases asked

/-- Where the replies are listed, they are accepted. -/
theorem FSMValidate.Settled.accepts_listed {fsm : FSMValidate} (settled : Settled fsm)
    (listed : fsm.expectedAction = answers) :
    ∃ after, fsm.validateAction .replyServer = some (.any, after) := by
  rcases settled with legal | ⟨previous, rfl⟩
  · cases legal with
    | requested => exact ⟨_, rfl⟩
    | fresh | started | refused | authorizing | opened | faulted | closing => simp at listed
  · simp at listed

private theorem FSMValidate.Settled.accepts_text {fsm : FSMValidate} (settled : Settled fsm)
    (opened : fsm.currentState = .opened) :
    fsm.validateAction .messageUser = some (.any, ⟨.opened, some .opened, [.any]⟩) := by
  rcases settled with legal | ⟨previous, rfl⟩
  · exact legal.accepts_spoken opened (.inr (.inr rfl))
  · cases opened

/-! ## TCP -/

section TCP

open TCPMessageValidator TCPProtocolHandler

/-- Every text line the user types next is sent as a MSG. -/
def TCPProtocolHandler.SpeaksNext (h : TCPProtocolHandler) : Prop :=
  ∀ line : Bytes, line.head? ≠ some 0x2F → validateContent line = true →
    ∃ outcome, h.processUserInput line = some outcome ∧ outcome.effects =
      [.send (text "MSG FROM " ++ h.messageValidator.displayName ++ text " IS " ++ line ++ crlf)]

/-- The client has sent an AUTH. -/
def TCPAuthSent (history : List TCPTurn) : Prop :=
  ∃ m ∈ history.flatMap fun turn => sent turn.output.effects, text "AUTH " <+: m

/-- Once an AUTH was sent, a line that displays a positive reply leaves the
machine in OPEN, and the next text line is sent. -/
def TCPOpens (before : List TCPTurn) (turn : TCPTurn) : Prop :=
  TCPAuthSent before → ∀ handed ∈ handedIn turn, ∀ content,
    Effect.replySuccess content ∈ handed.outcome.effects →
      handed.outcome.handler.fsm.currentState = .opened ∧ handed.outcome.handler.SpeaksNext

/-- A REPLY line with the result OK and a valid content. -/
def PositiveReply (line content : Bytes) : Prop :=
  upper ((splitMessage line).headD []) = text "REPLY" ∧
    upper ((splitMessage line).getD 1 []) = text "OK" ∧ validateReply line = some (content, true)

/-- After an AUTH was sent, an awaited positive reply while the replies are listed
in `expectedAction`. -/
def TCPListedReply (before : List TCPTurn) (turn : TCPTurn) : Prop :=
  TCPAuthSent before ∧ ∃ handed ∈ handedIn turn, ∃ content, PositiveReply handed.line content ∧
    handed.before.waitingForReply = true ∧ handed.before.fsm.expectedAction = answers

variable {h : TCPProtocolHandler} {line content : Bytes} {outcome : Outcome TCPProtocolHandler}

/-- A line that does not begin with a slash is a text. -/
theorem TCPProtocolHandler.processUserInput_plain (plain : line.head? ≠ some 0x2F) :
    h.processUserInput line = h.processText line := by
  have exit : line ≠ text "/exit" := fun same => plain (same ▸ rfl)
  have auth : commandOf line ≠ text "/AUTH" := commandOf_ne plain rfl
  have join : commandOf line ≠ text "/JOIN" := commandOf_ne plain rfl
  have rename : commandOf line ≠ text "/RENAME" := commandOf_ne plain rfl
  have help : commandOf line ≠ text "/HELP" := commandOf_ne plain rfl
  simp only [processUserInput, exit, auth, join, rename, help, ↓reduceIte]

private theorem TCPProtocolHandler.speaksNext_of_opened (settled : Settled h.fsm)
    (opened : h.fsm.currentState = .opened) : h.SpeaksNext := by
  intro line plain valid
  refine ⟨⟨{ h with fsm := ⟨.opened, some .opened, [.any]⟩ }, _, some .readyForInput⟩, ?_, rfl⟩
  rw [processUserInput_plain plain]
  simp [processText, plain, settled.accepts_text opened, messageValidate, valid]

/-- A line that displays a positive reply is one, and its reply was awaited and
accepted. -/
theorem TCPProtocolHandler.Receipt.displayed_success (receipt : Receipt h line outcome)
    (shown : Effect.replySuccess content ∈ outcome.effects) :
    PositiveReply line content ∧ h.waitingForReply = true ∧
      h.fsm.validateAction .replyServer = some (.any, outcome.handler.fsm) := by
  cases receipt with
  | reply reply asked valid awaited =>
    cases reply with
    | positive command ok =>
      obtain rfl : content = _ := by simpa using shown
      exact ⟨⟨command, ok, valid⟩, awaited, asked⟩
    | negative => simp at shown
  | shown | ignored | errorShown | bye | failed | undecided | nameless | unknown =>
    simp [failWith, processUnknown] at shown

/-- An awaited positive reply that is accepted is displayed. -/
theorem TCPProtocolHandler.displays_success {fsm : FSMValidate} (reply : PositiveReply line content)
    (waits : h.waitingForReply = true)
    (asked : h.fsm.validateAction .replyServer = some (.any, fsm)) :
    h.processReceived line = some ⟨{ h with fsm := fsm, waitingForReply := false },
      [.replySuccess content], some .readyForInput⟩ := by
  obtain ⟨command, ok, valid⟩ := reply
  rw [processReceived_of_reply (.positive command ok)]
  simp [processReply, asked, valid, waits]

private theorem tcpOpens_iff {history : List TCPTurn} {turn : TCPTurn}
    (settled : Settled turn.before.protocolHandler.handler.fsm) :
    TCPOpens history turn ↔ ¬ TCPListedReply history turn := by
  constructor
  · rintro opens ⟨sent, handed, member, content, reply, waits, listed⟩
    obtain ⟨kept, ran⟩ := handedIn_processed settled handed member
    obtain ⟨fsm, asked⟩ := kept.accepts_listed listed
    have displays := ran.symm.trans (displays_success reply waits asked)
    have outcome := Option.some.inj displays
    have opened := (opens sent handed member content (by simp [outcome])).1
    rw [outcome] at opened
    exact (kept.opens_iff asked).mp opened listed
  · intro unlisted sent handed member content shown
    obtain ⟨kept, ran⟩ := handedIn_processed settled handed member
    obtain ⟨reply, waits, asked⟩ := (receipt_of_processReceived ran).displayed_success shown
    have opened := (kept.opens_iff asked).mpr fun listed =>
      unlisted ⟨sent, handed, member, content, reply, waits, listed⟩
    have after := kept.consulted .inr (receipt_of_processReceived ran).consulted
    exact ⟨opened, speaksNext_of_opened after opened⟩

end TCP

/-! ## UDP -/

section UDP

open UDPMessageValidator UDPProtocolHandler

/-- Every text line the user types next is sent as a MSG. -/
def UDPProtocolHandler.SpeaksNext (h : UDPProtocolHandler) : Prop :=
  ∀ line : Bytes, line.head? ≠ some 0x2F → validateContent line = true →
    ∃ outcome, h.processUserInput line = some outcome ∧ outcome.effects =
      [.sendto h.serverAddress (header 0x04 h.renamer3000 ++ h.messageValidator.displayName ++ [0] ++
        line ++ [0])]

/-- The client has originated an AUTH. -/
def UDPAuthSent (history : List UDPTurn) : Prop := ∃ m ∈ allOriginated history, hasType 0x02 m = true

/-- Once an AUTH was sent, displaying a positive reply leaves the machine in OPEN,
and the next text line is sent. -/
def UDPOpens (before : List UDPTurn) (turn : UDPTurn) : Prop :=
  UDPAuthSent before → ∀ content, Effect.replySuccess content ∈ turn.output.effects →
    turn.after.protocolHandler.fsm.currentState = .opened ∧ turn.after.protocolHandler.SpeaksNext

/-- After an AUTH was sent, a positive REPLY to `awaited_reply_id` while the
replies are listed in `expectedAction`, or accepted while an ERR is put off. -/
def UDPListedReply (before : List UDPTurn) (turn : UDPTurn) : Prop :=
  UDPAuthSent before ∧ ∃ message id refID content ignored, received turn = some message ∧
    DecodesReply message id refID content .replyServer (.replySuccess content) ignored ∧
    refID = turn.before.protocolHandler.awaitedReplyId ∧
    (turn.before.protocolHandler.fsm.expectedAction = answers ∨
      (Answerable turn.before.protocolHandler.fsm ∧
        turn.before.protocolHandler.errorWhileWaiting = true))

variable {h : UDPProtocolHandler} {message line content : Bytes}
  {outcome : Outcome UDPProtocolHandler}

/-- A line that does not begin with a slash is a text, unless an ERR is put off. -/
theorem UDPProtocolHandler.processUserInput_plain (plain : line.head? ≠ some 0x2F)
    (ready : h.errorWhileWaiting = false) : h.processUserInput line = h.processText line := by
  have exit : line ≠ text "/exit" := fun same => plain (same ▸ rfl)
  have auth : commandOf line ≠ text "/AUTH" := commandOf_ne plain rfl
  have join : commandOf line ≠ text "/JOIN" := commandOf_ne plain rfl
  have rename : commandOf line ≠ text "/RENAME" := commandOf_ne plain rfl
  have help : commandOf line ≠ text "/HELP" := commandOf_ne plain rfl
  simp only [processUserInput, exit, ready, Bool.false_eq_true, auth, join, rename, help, ↓reduceIte]

/-- In OPEN a text line is sent, unless an ERR is put off. -/
theorem UDPProtocolHandler.speaksNext_of_opened (legal : h.fsm.Legal)
    (opened : h.fsm.currentState = .opened) (ready : h.errorWhileWaiting = false) :
    h.SpeaksNext := by
  intro line plain valid
  have asked := Settled.accepts_text (.inl legal) opened
  refine ⟨{ h with
    fsm := ⟨.opened, some .opened, [.any]⟩
    waitingForReply := false
    awaitedReplyId := noId }.sendRequest _, ?_, rfl⟩
  rw [processUserInput_plain plain ready]
  simp [processText, plain, asked, messageValidate, valid]

/-- An ERR that was put off goes out instead of the line. -/
theorem UDPProtocolHandler.not_speaksNext (deferred : h.errorWhileWaiting = true) :
    ¬ h.SpeaksNext := by
  intro speaks
  obtain ⟨outcome, ran, effects⟩ := speaks (text "a") (by decide) (by decide)
  have other : ¬ text "a" = text "/exit" := by decide
  simp only [processUserInput, other, deferred, ↓reduceIte] at ran
  cases ran
  have sends : (h.sendErrorMessage h.errorMessage).2 = [.sendto h.serverAddress
      (header 0x04 h.renamer3000 ++ h.messageValidator.displayName ++ [0] ++ text "a" ++ [0])] := effects
  have issues : header 0x04 h.renamer3000 ++ h.messageValidator.displayName ++ [0] ++ text "a" ++ [0] ∈
      issued (h.sendErrorMessage h.errorMessage).2 := by
    rw [sends]
    simp [issued, hasType, header]
  have kind := error_of_mem_sendErrorMessage issues
  simp [hasType, header] at kind

/-- A datagram that displays a positive reply is one to `awaited_reply_id`, and
the machine accepted it. -/
theorem UDPProtocolHandler.displayed_success (ran : h.processReceived message = some outcome)
    (shown : Effect.replySuccess content ∈ outcome.effects) :
    ∃ id refID ignored,
      DecodesReply message id refID content .replyServer (.replySuccess content) ignored ∧
      refID = h.awaitedReplyId ∧
      h.fsm.validateAction .replyServer = some (.any, outcome.handler.fsm) ∧
      outcome.handler.errorWhileWaiting = h.errorWhileWaiting := by
  rcases (receipt_of_processReceived ran).replies with
    ⟨id, refID, words, action, effect, ignored, decodes, ⟨fsm, asked⟩, awaited, -, -⟩ | ⟨plain, -⟩
  · cases ran.symm.trans (processReceived_reply decodes asked)
    subst awaited
    simp only [settleReply, ↓reduceIte] at shown
    obtain ⟨status, stated, result⟩ := decodes.result
    cases result with
    | negative => simp [sendConfirmation, sendMessage] at shown
    | positive =>
      obtain rfl : content = words := by simpa [sendConfirmation, sendMessage] using shown
      exact ⟨id, _, _, decodes, rfl, by simp [settleReply, asked], by simp [settleReply]⟩
  · cases plain _ shown

/-- A positive REPLY to `awaited_reply_id` that the machine accepts is displayed. -/
theorem UDPProtocolHandler.displays_success {fsm : FSMValidate} {id refID : UInt16}
    {ignored : ClientState}
    (decodes : DecodesReply message id refID content .replyServer (.replySuccess content) ignored)
    (awaited : refID = h.awaitedReplyId)
    (asked : h.fsm.validateAction .replyServer = some (.any, fsm))
    (ran : h.processReceived message = some outcome) :
    Effect.replySuccess content ∈ outcome.effects ∧ outcome.handler.fsm = fsm ∧
      outcome.handler.errorWhileWaiting = h.errorWhileWaiting := by
  cases ran.symm.trans (processReceived_reply decodes asked)
  simp [settleReply, awaited]

private theorem UDPProtocolHandler.opens_iff (legal : h.fsm.Legal)
    (ran : h.processReceived message = some outcome) :
    (∀ content, Effect.replySuccess content ∈ outcome.effects →
      outcome.handler.fsm.currentState = .opened ∧ outcome.handler.SpeaksNext) ↔
    ¬ ∃ id refID content ignored,
      DecodesReply message id refID content .replyServer (.replySuccess content) ignored ∧
      refID = h.awaitedReplyId ∧
      (h.fsm.expectedAction = answers ∨ (Answerable h.fsm ∧ h.errorWhileWaiting = true)) := by
  constructor
  · rintro opens ⟨id, refID, content, ignored, decodes, awaited, listed | ⟨answerable, deferred⟩⟩
    · obtain ⟨fsm, asked⟩ := Settled.accepts_listed (.inl legal) listed
      obtain ⟨shown, rfl, -⟩ := displays_success decodes awaited asked ran
      exact (Settled.opens_iff (.inl legal) asked).mp (opens content shown).1 listed
    · obtain ⟨fsm, asked⟩ := legal.accepts_answer answerable (.inl rfl)
      obtain ⟨shown, -, same⟩ := displays_success decodes awaited asked ran
      exact not_speaksNext (same.trans deferred) (opens content shown).2
  · intro unlisted content shown
    obtain ⟨id, refID, ignored, decodes, awaited, asked, same⟩ := displayed_success ran shown
    have answerable := (legal.answered (.inl rfl) asked).answerable
    have opened := (Settled.opens_iff (.inl legal) asked).mpr fun listed =>
      unlisted ⟨id, refID, content, ignored, decodes, awaited, .inl listed⟩
    have ready : outcome.handler.errorWhileWaiting = false := by
      rw [same, ← Bool.not_eq_true]
      exact fun deferred =>
        unlisted ⟨id, refID, content, ignored, decodes, awaited, .inr ⟨answerable, deferred⟩⟩
    have kept := legal.consulted_server (receipt_of_processReceived ran).consulted
    exact ⟨opened, speaksNext_of_opened kept opened ready⟩

variable {loop after : StreamHandler UDPProtocolHandler} {event : Event Datagram}
  {report : Report Datagram} {history : List UDPTurn}

private theorem udpOpens_iff (legal : loop.protocolHandler.fsm.Legal)
    (ran : loop.iterate event = some (report, after)) :
    UDPOpens history ⟨loop, event, report, after⟩ ↔
      ¬ UDPListedReply history ⟨loop, event, report, after⟩ := by
  obtain ⟨-, iteration⟩ := udpIteration_of_iterate ran
  rw [UDPListedReply, not_and]
  apply imp_congr_right
  intro sent
  have quiet (plain : ∀ effect ∈ report.effects, effect.reply = none) :
      ∀ content, Effect.replySuccess content ∈ report.effects →
        after.protocolHandler.fsm.currentState = .opened ∧ after.protocolHandler.SpeaksNext :=
    fun content shown => by cases plain _ shown
  cases iteration with
  | received called _ handler =>
    simp only [handler, opens_iff (by exact legal) called]
    simp [received]
  | command called =>
    exact iff_of_true (quiet (command_of_processUserInput called).replies.1) (by simp [received])
  | lost | resend | giveUp =>
    refine iff_of_true (quiet ?_) (by simp [received])
    simp [resendLastMessage, sendMessage, Effect.reply]
  | idle silent =>
    refine iff_of_true (quiet ?_) (by simp [received])
    rcases silent with rfl | rfl <;> simp [Effect.reply]

end UDP

/-! ## Both clients -/

/-- All along every run of either client, a displayed positive reply to an AUTH
that was sent opens the session, if and only if none arrives while the replies
are listed in `expectedAction` (nor, over UDP, while an ERR is put off). -/
theorem successOpens_iff_no_listedReply {tcpRetries udpRetries : UInt8}
    {tcpHistory : List TCPTurn} {tcpLoop : StreamHandler TCPClient} {server : SockAddr}
    {udpHistory : List UDPTurn} {udpLoop : StreamHandler UDPProtocolHandler}
    (tcpRun : TCPRun tcpRetries tcpHistory tcpLoop)
    (udpRun : UDPRun server udpRetries udpHistory udpLoop) :
    (Throughout TCPOpens tcpHistory ↔
      Throughout (fun before turn => ¬ TCPListedReply before turn) tcpHistory) ∧
    (Throughout UDPOpens udpHistory ↔
      Throughout (fun before turn => ¬ UDPListedReply before turn) udpHistory) :=
  ⟨tcpRun.throughout_iff fun run _ _ => tcpOpens_iff (tcpRun_settled run),
    udpRun.throughout_iff fun run ran _ => udpOpens_iff (udpRun_legal run) ran⟩

/-- An AUTH and its reply, over TCP and over UDP. -/
theorem successOpens_iff_no_listedReply_auth :
    ∃ tcpHistory tcpLoop udpHistory udpLoop, TCPRun 3 tcpHistory tcpLoop ∧
      UDPRun localServer 3 udpHistory udpLoop ∧
      tcpLoop.protocolHandler.handler.fsm.currentState = .opened ∧
      udpLoop.protocolHandler.fsm.currentState = .opened ∧
      (Throughout TCPOpens tcpHistory ↔
        Throughout (fun before turn => ¬ TCPListedReply before turn) tcpHistory) ∧
      (Throughout UDPOpens udpHistory ↔
        Throughout (fun before turn => ¬ UDPListedReply before turn) udpHistory) := by
  have tcpRan : tcpSample [enters "/auth a b c", streams (piece "REPLY OK IS hi\r\n")] =
    some (_, _) := rfl
  have udpRan : sample [types "/auth a b c", arrives [0x00, 0, 0],
    arrives [0x01, 0, 5, 1, 0, 0, 0x6F, 0x6B, 0]] = some (_, _) := rfl
  exact ⟨_, _, _, _, Run.of_exec tcpRan, Run.of_exec udpRan, rfl, rfl,
    successOpens_iff_no_listedReply (Run.of_exec tcpRan) (Run.of_exec udpRan)⟩

/-- After a malformed `/auth` the reply to a well-formed one leaves either machine
in AUTH. -/
theorem listed_reply_stays_in_auth :
    (∃ history loop, TCPRun 3 history loop ∧ ¬ Throughout TCPOpens history) ∧
    ∃ history loop, UDPRun localServer 3 history loop ∧ ¬ Throughout UDPOpens history := by
  have tcpRan : tcpSample [enters "/auth x", enters "/auth a b c",
    streams (piece "REPLY OK IS hi\r\n")] = some (_, _) := rfl
  have udpRan : sample [types "/auth x", types "/auth a b c", arrives [0x00, 0, 0],
    arrives [0x01, 0, 5, 1, 0, 0, 0x6F, 0x6B, 0]] = some (_, _) := rfl
  refine ⟨⟨_, _, Run.of_exec tcpRan, fun opens => ?_⟩, _, _, Run.of_exec udpRan, fun opens => ?_⟩
  · have opened := (opens [_, _] _ [] rfl ⟨text "AUTH a AS c USING b\r\n", by decide, by decide⟩ _
      (List.mem_singleton.mpr rfl) (text "hi") (by decide)).1
    cases opened
  · have opened := (opens [_, _, _] _ [] rfl
      ⟨[0x02, 0, 0, 0x61, 0, 0x63, 0, 0x62, 0], by decide, by decide⟩ [0x6F, 0x6B] (by decide)).1
    cases opened

end ChatClient
