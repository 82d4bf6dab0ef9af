import ChatClient.UDPRuns

/-! What a REPLY can do to the UDP client. The state machine moves before refID
is looked at, so a REPLY to nothing the client asked can open the session; and
"no request" is itself an ID, which a REPLY can carry. -/

namespace ChatClient

open Transition Obligation UDPProtocolHandler UDPMessageValidator FSMValidate

variable {server : SockAddr} {retries : UInt8} {history : List UDPTurn}
  {loop after : StreamHandler UDPProtocolHandler} {event : Event Datagram}
  {report : Report Datagram} {h : UDPProtocolHandler} {message line : Bytes}
  {outcome : Outcome UDPProtocolHandler}

/-! ## Authentication -/

/-- An ID of an AUTH that the client originated. -/
def AuthId (history : List UDPTurn) (id : UInt16) : Prop :=
  ∃ m ∈ allOriginated history, hasType 0x02 m = true ∧ messageId m = some id

/-- A REPLY with result 1 to an AUTH originated before it was received. -/
def Authenticated (history : List UDPTurn) : Prop :=
  ∃ before turn later message refID, history = before ++ turn :: later ∧
    received turn = some message ∧ message[0]? = some 0x01 ∧ message[3]? = some 0x01 ∧
    readId message 4 = some refID ∧ AuthId before refID

/-- A JOIN or a MSG comes after such a REPLY, and a REPLY to no AUTH leaves the
state machine where it is. -/
structure AuthenticationSafe (before : List UDPTurn) (turn : UDPTurn) : Prop where
  speaks : ∀ m ∈ originated turn, hasType 0x03 m = true ∨ hasType 0x04 m = true →
    Authenticated before
  foreign : ∀ message refID, received turn = some message → message[0]? = some 0x01 →
    readId message 4 = some refID → ¬ AuthId before refID →
    turn.after.protocolHandler.fsm.currentState = turn.before.protocolHandler.fsm.currentState ∧
      turn.after.protocolHandler.fsm.expectedAction =
        turn.before.protocolHandler.fsm.expectedAction

/-- A well-formed REPLY that names no AUTH of the client, in any state but OPEN
and ERROR. -/
def ForeignReply (before : List UDPTurn) (turn : UDPTurn) : Prop :=
  ∃ message id refID content action shown ignored, received turn = some message ∧
    DecodesReply message id refID content action shown ignored ∧ ¬ AuthId before refID ∧
    turn.before.protocolHandler.fsm.currentState ≠ .opened ∧
    turn.before.protocolHandler.fsm.currentState ≠ .error

private theorem reply_decodes_or_keeps (type : message[0]? = some 0x01)
    (ran : h.processReceived message = some outcome) :
    (∃ id refID content action shown ignored,
      DecodesReply message id refID content action shown ignored) ∨ outcome.handler.fsm = h.fsm := by
  have ran : h.processReply message = some outcome := by simpa [processReceived, type] using ran
  rcases processReply_cases type ran with ⟨_, _, _, _, _, _, _, decodes, -⟩ | ⟨-, keeps⟩
  · exact .inl ⟨_, _, _, _, _, _, decodes⟩
  · exact .inr keeps

/-- What a legal machine does with a REPLY it is asked about outside OPEN and
ERROR is seen in its state or in what it expects. -/
theorem FSMValidate.Legal.reply_moves {fsm after : FSMValidate} {action reaction : Action}
    (legal : fsm.Legal) (reply : action = .replyServer ∨ action = .nreplyServer)
    (asked : fsm.validateAction action = some (reaction, after)) :
    (after.currentState = fsm.currentState ∧ after.expectedAction = fsm.expectedAction) ↔
      fsm.currentState = .opened ∨ fsm.currentState = .error := by
  cases legal with
  | fresh | started | requested | refused | authorizing | opened | faulted | closing =>
    rcases reply with rfl | rfl <;> cases asked <;> simp

theorem UDPProtocolHandler.ReplyResult.reply {content : Bytes} {status : UInt8} {action : Action}
    {shown : Effect} {ignored : ClientState}
    (result : ReplyResult content status action shown ignored) :
    action = .replyServer ∨ action = .nreplyServer := by
  cases result
  · exact .inr rfl
  · exact .inl rfl

private theorem reply_keeps_iff {id refID : UInt16} {content : Bytes} {action : Action}
    {shown : Effect}
    {ignored : ClientState} (ran : h.processReceived message = some outcome) (legal : h.fsm.Legal)
    (decodes : DecodesReply message id refID content action shown ignored) :
    (outcome.handler.fsm.currentState = h.fsm.currentState ∧
      outcome.handler.fsm.expectedAction = h.fsm.expectedAction) ↔
      h.fsm.currentState = .opened ∨ h.fsm.currentState = .error := by
  obtain ⟨_, _, result⟩ := decodes.result
  obtain ⟨reaction, after, asked, -, -⟩ := legal.server (.inr result.answer)
  rw [processReceived_reply_fsm decodes asked ran]
  exact legal.reply_moves result.reply asked

private theorem Authenticated.snoc {turn : UDPTurn} (authenticated : Authenticated history) :
    Authenticated (history ++ [turn]) := by
  obtain ⟨before, reply, later, message, refID, rfl, is⟩ := authenticated
  exact ⟨before, reply, later ++ [turn], message, refID, by simp, is⟩

/-- A call for a datagram opens the machine only for a positive REPLY in AUTH. -/
theorem UDPProtocolHandler.Receipt.opened (receipt : Receipt h message outcome)
    (legal : h.fsm.Legal) (opened : Opened outcome.handler.fsm) :
    Opened h.fsm ∨ (h.fsm.currentState = .auth ∧ ∃ id refID content shown ignored,
      DecodesReply message id refID content .replyServer shown ignored) := by
  cases receipt with
  | byeConfirmed | errorConfirmed | confirmed | stray | bye => exact .inl opened
  | reply decodes asked =>
    rw [settleReply_fsm] at opened
    obtain ⟨_, _, result⟩ := decodes.result
    rcases legal.opened_by_reply (.inr (.inr result.answer)) asked opened with
      before | ⟨rfl, -, auth, -⟩
    · exact .inl before
    · exact .inr ⟨auth, _, _, _, _, _, decodes⟩
  | repeated _ _ _ asked | shown _ _ _ asked =>
    rcases legal.opened_by_reply (.inr (.inl rfl)) asked opened with before | ⟨other, -⟩
    · exact .inl before
    · cases other
  | errorRepeated _ _ _ asked | errorShown _ _ _ asked =>
    rcases legal.opened_by_reply (.inr (.inr (.inr (.inr rfl)))) asked opened with
      before | ⟨other, -⟩
    · exact .inl before
    · cases other
  | failed _ _ refused =>
    rw [failWith_fsm] at opened
    rcases refused with same | ⟨action, reaction, server, asked, refused⟩
    · exact .inl (same ▸ opened)
    · rcases legal.opened_by_reply (.inr server) asked opened with before | ⟨-, accepted, -⟩
      · exact .inl before
      · exact absurd accepted refused
  | undecided _ server asked neither =>
    rcases legal.opened_by_reply (.inr server) asked opened with before | ⟨-, accepted, -⟩
    · exact .inl before
    · exact absurd accepted neither.1

/-- A call for a line does not open the machine. -/
theorem UDPProtocolHandler.Command.opened (command : Command h line outcome) (legal : h.fsm.Legal)
    (opened : Opened outcome.handler.fsm) : Opened h.fsm := by
  rcases command.consulted with same | ⟨action, reaction, user, asked⟩
  · exact same ▸ opened
  · rcases legal.opened_by_reply (.inl user) asked opened with before | ⟨rfl, -⟩
    · exact before
    · rcases user with other | other | other <;> cases other

/-- Without a foreign REPLY the machine opens only once the client is
authenticated. -/
theorem authenticated_of_opened (legal : loop.protocolHandler.fsm.Legal)
    (before : Opened loop.protocolHandler.fsm → Authenticated history)
    (ran : loop.iterate event = some (report, after))
    (known : ¬ ForeignReply history ⟨loop, event, report, after⟩)
    (opened : Opened after.protocolHandler.fsm) :
    Authenticated (history ++ [⟨loop, event, report, after⟩]) := by
  obtain ⟨-, iteration⟩ := udpIteration_of_iterate ran
  cases iteration with
  | received called _ handler =>
    rw [handler] at opened
    rcases (receipt_of_processReceived called).opened legal opened with
      was | ⟨auth, id, refID, content, shown, ignored, decodes⟩
    · exact (before was).snoc
    · have requested : AuthId history refID := by
        by_contra foreign
        exact known ⟨_, id, refID, content, _, shown, ignored, rfl, decodes, foreign,
          by simp at auth; simp [auth], by simp at auth; simp [auth]⟩
      obtain ⟨status, stated, result⟩ := decodes.result
      cases result
      exact ⟨history, _, [], _, refID, rfl, rfl, decodes.type, stated, decodes.ref, requested⟩
  | command called _ handler =>
    rw [handler] at opened
    exact (before ((command_of_processUserInput called).opened legal opened)).snoc
  | lost handler | resend _ handler | giveUp _ handler | idle _ handler =>
    rw [handler] at opened
    exact (before opened).snoc

/-- The types of datagrams are exclusive. -/
theorem hasType_inj {kind other : UInt8} {m : Bytes} (first : hasType kind m = true)
    (second : hasType other m = true) : kind = other := by
  simp only [hasType, decide_eq_true_eq] at first second
  exact Option.some.inj (first.symm.trans second)

/-- A line sends a JOIN or a MSG in OPEN only. -/
theorem UDPProtocolHandler.Command.speaks {m : Bytes} (command : Command h line outcome)
    (legal : h.fsm.Legal) (issues : m ∈ issued outcome.effects)
    (speaks : hasType 0x03 m = true ∨ hasType 0x04 m = true) : Opened h.fsm := by
  have speaks_as {kind : UInt8} (type : hasType kind m = true) : kind = 0x03 ∨ kind = 0x04 :=
    speaks.imp (hasType_inj type) (hasType_inj type)
  cases command with
  | exit =>
    rw [issued_message (by simp)] at issues
    obtain rfl := List.mem_singleton.mp issues
    rcases @speaks_as 0xFF (by simp) with other | other <;> cases other
  | deferred =>
    rcases speaks_as (error_of_mem_sendErrorMessage issues) with other | other <;> cases other
  | requested _ _ kind asked =>
    rcases kind with ⟨rfl, rfl⟩ | ⟨rfl, rfl⟩
    · rw [sendRequest, issued_message (by simp)] at issues
      obtain rfl := List.mem_singleton.mp issues
      rcases @speaks_as 0x02 (by simp) with other | other <;> cases other
    · exact .inl (legal.spoken (.inr (.inl rfl)) asked).1
  | spoken _ _ asked => exact .inl (legal.spoken (.inr (.inr rfl)) asked).1
  | rejected | renamed | helped | undecided => cases issues

private theorem opened_of_speaks (legal : loop.protocolHandler.fsm.Legal)
    (ran : loop.iterate event = some (report, after)) {m : Bytes}
    (sends : m ∈ originated ⟨loop, event, report, after⟩)
    (speaks : hasType 0x03 m = true ∨ hasType 0x04 m = true) :
    Opened loop.protocolHandler.fsm := by
  obtain ⟨-, iteration⟩ := udpIteration_of_iterate ran
  cases iteration with
  | received called =>
    rcases (receipt_of_processReceived called).originates sends with error | bye
    · rcases speaks with join | msg
      · cases hasType_inj error join
      · cases hasType_inj error msg
    · rcases speaks with join | msg
      · cases hasType_inj bye join
      · cases hasType_inj bye msg
  | command called => exact (command_of_processUserInput called).speaks legal sends speaks
  | lost | resend | giveUp => cases sends
  | idle silent => rcases silent with rfl | rfl <;> cases sends

/-- The client is safely authenticated throughout a run exactly when the run
receives no foreign REPLY. -/
theorem authenticationSafe_iff_no_foreignReply (run : UDPRun server retries history loop) :
    Throughout AuthenticationSafe history ↔
      Throughout (fun before turn => ¬ ForeignReply before turn) history := by
  apply run.throughout_iff
  intro before loop event report after run ran meets
  have legal := udpRun_legal run
  obtain ⟨-, iteration⟩ := udpIteration_of_iterate ran
  constructor
  · rintro safe ⟨message, id, refID, content, action, shown, ignored, is, decodes, foreign, closed⟩
    have keeps := safe.foreign message refID is decodes.type decodes.ref foreign
    cases iteration with
    | received called _ handler =>
      cases is
      simp only [handler] at keeps
      exact not_or.mpr closed ((reply_keeps_iff called legal decodes).mp keeps)
    | command | lost | resend | giveUp | idle => cases is
  · intro known
    have authenticated : Opened loop.protocolHandler.fsm → Authenticated before :=
      run.invariant_of_throughout (I := fun history loop =>
        Opened loop.protocolHandler.fsm → Authenticated history) meets
        (by simp [Opened, StreamHandler.start, create])
        fun run before ran known => authenticated_of_opened (udpRun_legal run) before ran known
    refine ⟨fun m sends speaks => authenticated (opened_of_speaks legal ran sends speaks), ?_⟩
    intro message refID is type ref foreign
    cases iteration with
    | received called _ handler =>
      cases is
      simp only [handler]
      rcases reply_decodes_or_keeps type called with
        ⟨id, ref', content, action, shown, ignored, decodes⟩ | keeps
      · refine (reply_keeps_iff called legal decodes).mpr ?_
        by_contra closed
        cases ref.symm.trans decodes.ref
        exact known ⟨_, id, refID, content, action, shown, ignored, rfl, decodes, foreign,
          not_or.mp closed⟩
      · rw [keeps]
        exact ⟨rfl, rfl⟩
    | command | lost | resend | giveUp | idle => cases is

/-- An AUTH, its REPLY and a MSG. -/
theorem authenticationSafe_iff_no_foreignReply_auth : ∃ history loop,
    UDPRun localServer 3 history loop ∧ history.length = 4 ∧
    (Throughout AuthenticationSafe history ↔
      Throughout (fun before turn => ¬ ForeignReply before turn) history) := by
  have ran : sample [types "/auth a b c", arrives [0x00, 0, 0],
    arrives [0x01, 0, 5, 1, 0, 0, 0x6F, 0x6B, 0], types "hi"] = some (_, _) := rfl
  exact ⟨_, _, Run.of_exec ran, rfl, authenticationSafe_iff_no_foreignReply (Run.of_exec ran)⟩

/-- An authenticated client has originated an AUTH. -/
theorem Authenticated.asked (authenticated : Authenticated history) :
    ∃ m ∈ allOriginated history, hasType 0x02 m = true := by
  obtain ⟨before, reply, later, message, refID, rfl, -, -, -, -, m, originates, type, -⟩ :=
    authenticated
  exact ⟨m, by simp [allOriginated] at originates ⊢; exact .inl originates, type⟩

/-- An `/auth` without arguments, a REPLY to nothing, and a MSG goes out. -/
theorem speaks_without_auth : ∃ history loop, UDPRun localServer 3 history loop ∧
    ¬ Throughout AuthenticationSafe history := by
  have ran : sample [types "/auth x", arrives [0x01, 0, 5, 1, 0, 66, 0x6F, 0x6B, 0], types "hi"] =
    some (_, _) := rfl
  refine ⟨_, _, Run.of_exec ran, ?_⟩
  intro safe
  obtain ⟨m, originates, -⟩ :=
    ((safe [_, _] _ [] rfl).speaks [0x04, 0, 0, 0, 0x68, 0x69, 0] (by decide) (.inr rfl)).asked
  cases originates

/-! ## Displayed replies -/

/-- An AUTH or a JOIN. -/
def isRequest (m : Bytes) : Bool := hasType 0x02 m || hasType 0x03 m

/-- The requests a turn originates. -/
def requests (turn : UDPTurn) : List Bytes := (originated turn).filter isRequest

/-- The refID of the reply a turn displays. -/
def displayedReply (turn : UDPTurn) : Option UInt16 :=
  if turn.output.effects.any (fun effect => effect.reply.isSome) then
    (received turn).bind fun message => readId message 4
  else none

/-- What a turn enters in the book of requests. -/
def requestEntries (turn : UDPTurn) : List (Entry Bytes (Option UInt16)) :=
  (displayedReply turn).toList.map (fun id => .settle (some id)) ++ (requests turn).map .issue

/-- The requests to which no reply has been displayed since they were originated. -/
def openRequests (history : List UDPTurn) : List Bytes :=
  outstanding messageId (history.flatMap requestEntries)

/-- A displayed reply comes from a REPLY to an open request. -/
def RepliesAnswer (before : List UDPTurn) (turn : UDPTurn) : Prop :=
  ∀ effect ∈ turn.output.effects, effect.reply ≠ none →
    ∃ message refID, received turn = some message ∧ message[0]? = some 0x01 ∧
      readId message 4 = some refID ∧
      ∃ request ∈ openRequests before, messageId request = some refID

/-- An accepted REPLY to `awaited_reply_id` while that stands for no request: it
is the ID 65535, and no open request has that ID, or nothing was requested yet. -/
def SentinelReply (before : List UDPTurn) (turn : UDPTurn) : Prop :=
  ∃ message id refID content action shown ignored, received turn = some message ∧
    DecodesReply message id refID content action shown ignored ∧
    Answerable turn.before.protocolHandler.fsm ∧
    refID = turn.before.protocolHandler.awaitedReplyId ∧
    ((refID = noId ∧ ∀ request ∈ openRequests before, messageId request ≠ some noId) ∨
      ∀ m ∈ allOriginated before, isRequest m = false)

/-- What `awaited_reply_id` stands for. -/
def AwaitsReply (history : List UDPTurn) (id : UInt16) : Prop :=
  (∃ request ∈ openRequests history, messageId request = some id) ∨ id = noId ∨
    ∀ m ∈ allOriginated history, isRequest m = false

variable {turn : UDPTurn}

theorem openRequests_of_entries_nil (none : requestEntries turn = []) :
    openRequests (history ++ [turn]) = openRequests history := by
  simp [openRequests, none]

private theorem openRequests_of_issue {request : Bytes}
    (issues : requestEntries turn = [.issue request]) :
    openRequests (history ++ [turn]) = openRequests history ++ [request] := by
  simp only [openRequests, List.flatMap_append, List.flatMap_cons, List.flatMap_nil,
    List.append_nil, issues, outstanding_issue]

/-- What an iteration does to `awaited_reply_id` and to the book of requests. -/
inductive ReplyMove (before after : UInt16) (turn : UDPTurn) : Prop where
  | kept (quiet : requestEntries turn = []) (same : after = before)
  | asked {request : Bytes} (issues : requestEntries turn = [.issue request])
      (id : messageId request = some after)
  | cleared (none : after = noId)

/-- Every move keeps what `awaited_reply_id` stands for. -/
theorem ReplyMove.awaitsReply {before after : UInt16} (move : ReplyMove before after turn)
    (awaits : AwaitsReply history before) : AwaitsReply (history ++ [turn]) after := by
  cases move with
  | kept quiet same =>
    subst same
    have none : requests turn = [] := by
      simp only [requestEntries, List.append_eq_nil_iff, List.map_eq_nil_iff] at quiet
      exact quiet.2
    rcases awaits with ⟨request, held, id⟩ | sentinel | idle
    · exact .inl ⟨request, by rwa [openRequests_of_entries_nil quiet], id⟩
    · exact .inr (.inl sentinel)
    · refine .inr (.inr fun m member => ?_)
      rw [allOriginated_snoc, List.mem_append] at member
      rcases member with member | member
      · exact idle m member
      · simpa using List.filter_eq_nil_iff.mp none m member
  | asked issues id =>
    exact .inl ⟨_, by rw [openRequests_of_issue issues]; simp, id⟩
  | cleared none => exact .inr (.inl none)

theorem not_request {kind : UInt8} {m : Bytes} (type : hasType kind m = true)
    (other : kind ≠ 0x02 ∧ kind ≠ 0x03) : isRequest m = false := by
  by_contra request
  rcases Bool.or_eq_true_iff.mp (Bool.not_eq_false _ ▸ request) with auth | join
  · exact other.1 (hasType_inj type auth)
  · exact other.2 (hasType_inj type join)

theorem requests_eq_nil (other : ∀ m ∈ originated turn, isRequest m = false) :
    requests turn = [] :=
  List.filter_eq_nil_iff.mpr fun m member => by simp [other m member]

/-- A turn whose effects show no reply settles nothing. -/
theorem displayedReply_eq_none (shows : ∀ effect ∈ turn.output.effects, effect.reply = none) :
    displayedReply turn = none := by
  rw [displayedReply, if_neg]
  simpa using shows

/-- A call for a datagram shows a reply, and clears `awaited_reply_id`, or keeps
it. -/
theorem UDPProtocolHandler.Receipt.replies (receipt : Receipt h message outcome) :
    (∃ id refID content action shown ignored,
      DecodesReply message id refID content action shown ignored ∧
      (∃ fsm, h.fsm.validateAction action = some (.any, fsm)) ∧ refID = h.awaitedReplyId ∧
      shown ∈ outcome.effects ∧ outcome.handler.awaitedReplyId = noId) ∨
    ((∀ effect ∈ outcome.effects, effect.reply = none) ∧
      outcome.handler.awaitedReplyId = h.awaitedReplyId) := by
  cases receipt with
  | reply decodes asked =>
    unfold settleReply
    split
    · exact .inl ⟨_, _, _, _, _, _, decodes, ⟨_, asked⟩, ‹_›, .head _, rfl⟩
    · exact .inr ⟨by simp [sendConfirmation, sendMessage, Effect.reply], rfl⟩
  | failed _ _ _ confirms =>
    refine .inr ⟨fun effect member => ?_, ?_⟩
    · obtain ⟨m, rfl⟩ := mem_failWith confirms member
      rfl
    · simp only [failWith, sendErrorMessage]
      split <;> rfl
  | byeConfirmed | errorConfirmed | confirmed | stray | repeated | shown | errorRepeated
  | errorShown | bye | undecided =>
    exact .inr ⟨by simp [sendConfirmation, sendMessage, Effect.reply], rfl⟩

/-- A line that originates a request has its reply awaited; any other line
originates none and keeps `awaited_reply_id` or clears it. -/
theorem UDPProtocolHandler.Command.replies (command : Command h line outcome) :
    (∀ effect ∈ outcome.effects, effect.reply = none) ∧
    ((∃ request, (issued outcome.effects).filter isRequest = [request] ∧
      messageId request = some outcome.handler.awaitedReplyId) ∨
    ((issued outcome.effects).filter isRequest = [] ∧
      (outcome.handler.awaitedReplyId = h.awaitedReplyId ∨ outcome.handler.awaitedReplyId = noId))) := by
  cases command with
  | exit =>
    refine ⟨by simp [sendMessage, Effect.reply], .inr ⟨?_, .inl rfl⟩⟩
    rw [issued_message (by simp)]
    simp [isRequest]
  | deferred =>
    refine ⟨fun effect member => by rw [mem_sendErrorMessage member]; rfl, .inr ⟨?_, .inl ?_⟩⟩
    · apply List.filter_eq_nil_iff.mpr
      intro m issues
      simp [not_request (error_of_mem_sendErrorMessage issues) (by decide)]
    · unfold sendErrorMessage
      split <;> rfl
  | @requested _ _ _ code body _ _ kind =>
    refine ⟨by simp [sendRequest, sendMessage, Effect.reply],
      .inl ⟨header code h.renamer3000 ++ body, ?_, messageId_header _ _ _⟩⟩
    rcases kind with ⟨rfl, -⟩ | ⟨rfl, -⟩
    · rw [sendRequest, issued_message (by simp)]
      simp [isRequest]
    · rw [sendRequest, issued_message (by simp)]
      simp [isRequest]
  | spoken =>
    refine ⟨by simp [sendRequest, sendMessage, Effect.reply], .inr ⟨?_, .inr rfl⟩⟩
    rw [sendRequest, issued_message (by simp)]
    simp [isRequest]
  | rejected | renamed | helped | undecided =>
    exact ⟨by simp [reject, Effect.reply], .inr ⟨rfl, .inl rfl⟩⟩

private theorem replyMove_of_iterate (ran : loop.iterate event = some (report, after)) :
    ReplyMove loop.protocolHandler.awaitedReplyId after.protocolHandler.awaitedReplyId
      ⟨loop, event, report, after⟩ := by
  obtain ⟨-, iteration⟩ := udpIteration_of_iterate ran
  cases iteration with
  | received called _ handler =>
    rw [handler]
    have receipt := receipt_of_processReceived called
    rcases receipt.replies with ⟨_, _, _, _, _, _, -, -, -, -, cleared⟩ | ⟨plain, same⟩
    · exact .cleared cleared
    · refine .kept ?_ same
      rw [requestEntries, displayedReply_eq_none plain, requests_eq_nil]
      · rfl
      · intro m member
        rcases receipt.originates member with error | bye
        · exact not_request error (by decide)
        · exact not_request bye (by decide)
  | command called _ handler =>
    rw [handler]
    obtain ⟨plain, ⟨request, issues, id⟩ | ⟨none, same | cleared⟩⟩ :=
      (command_of_processUserInput called).replies
    · refine .asked ?_ id
      rw [requestEntries, displayedReply_eq_none plain]
      exact congrArg (List.map Entry.issue) issues
    · refine .kept ?_ same
      rw [requestEntries, displayedReply_eq_none plain]
      exact congrArg (List.map Entry.issue) none
    · exact .cleared cleared
  | lost handler | resend _ handler | giveUp _ handler =>
    rw [handler]
    exact .kept rfl rfl
  | idle silent handler =>
    rw [handler]
    rcases silent with rfl | rfl <;> exact .kept rfl rfl

/-- `awaited_reply_id` is the ID of an open request or stands for none, in every
run. -/
theorem udpRun_awaitsReply (run : UDPRun server retries history loop) :
    AwaitsReply history loop.protocolHandler.awaitedReplyId :=
  run.invariant (I := fun history loop => AwaitsReply history loop.protocolHandler.awaitedReplyId)
    (.inr (.inr (by simp [allOriginated])))
    fun _ awaits ran => (replyMove_of_iterate ran).awaitsReply awaits

private theorem openRequests_eq_nil (idle : ∀ m ∈ allOriginated history, isRequest m = false) :
    openRequests history = [] := by
  apply List.eq_nil_iff_forall_not_mem.mpr
  intro request held
  obtain ⟨turn, member, entered⟩ := List.mem_flatMap.mp (issued_of_outstanding held)
  simp only [requestEntries, requests, List.mem_append, List.mem_map, List.mem_filter,
    Entry.issue.injEq, exists_eq_right, reduceCtorEq, and_false, exists_false, false_or] at entered
  have known := idle request (List.mem_flatMap.mpr ⟨turn, member, entered.1⟩)
  simp [entered.2] at known

/-- A sentinel reply is displayed and answers nothing. -/
theorem RepliesAnswer.no_sentinelReply
    (answers : RepliesAnswer history ⟨loop, event, report, after⟩)
    (legal : loop.protocolHandler.fsm.Legal) (ran : loop.iterate event = some (report, after)) :
    ¬ SentinelReply history ⟨loop, event, report, after⟩ := by
  obtain ⟨-, iteration⟩ := udpIteration_of_iterate ran
  rintro ⟨message, id, refID, content, action, shown, ignored, is, decodes, answerable, awaited,
    unasked⟩
  cases iteration with
  | received called =>
    cases is
    obtain ⟨_, _, result⟩ := decodes.result
    obtain ⟨fsm, asked⟩ := legal.accepts_answer answerable result.answer
    cases called.symm.trans (processReceived_reply decodes asked)
    have shows : shown.reply ≠ none := by cases result <;> simp [Effect.reply]
    simp only at awaited
    obtain ⟨_, _, is, -, ref, request, held, named⟩ :=
      answers shown (by simp [settleReply, awaited]) shows
    cases is
    cases ref.symm.trans decodes.ref
    rcases unasked with ⟨rfl, none⟩ | idle
    · exact none request held named
    · rw [openRequests_eq_nil idle] at held
      cases held
  | command | lost | resend | giveUp | idle => cases is

/-- While `awaited_reply_id` is right, a displayed reply that is no sentinel reply
answers a request. -/
theorem AwaitsReply.repliesAnswer (awaits : AwaitsReply history loop.protocolHandler.awaitedReplyId)
    (legal : loop.protocolHandler.fsm.Legal) (ran : loop.iterate event = some (report, after))
    (known : ¬ SentinelReply history ⟨loop, event, report, after⟩) :
    RepliesAnswer history ⟨loop, event, report, after⟩ := by
  obtain ⟨-, iteration⟩ := udpIteration_of_iterate ran
  intro effect member shows
  cases iteration with
  | received called =>
    rcases (receipt_of_processReceived called).replies with
      ⟨id, refID, content, action, shown, ignored, decodes, ⟨fsm, asked⟩, awaited, -, -⟩ | ⟨plain, -⟩
    · refine ⟨_, refID, rfl, decodes.type, decodes.ref, ?_⟩
      by_contra closed
      obtain ⟨_, _, result⟩ := decodes.result
      apply known
      refine ⟨_, id, refID, content, action, shown, ignored, rfl, decodes,
        (legal.answered result.answer asked).answerable, awaited, ?_⟩
      rcases awaits with held | sentinel | idle
      · exact absurd (awaited ▸ held) closed
      · obtain rfl : refID = noId := awaited.trans sentinel
        exact .inl ⟨rfl, fun request held named => closed ⟨request, held, named⟩⟩
      · exact .inr idle
    · exact absurd (plain effect member) shows
  | command called =>
    exact absurd ((command_of_processUserInput called).replies.1 effect member) shows
  | lost | resend =>
    rw [List.mem_singleton.mp member] at shows
    exact absurd rfl shows
  | giveUp => cases member
  | idle silent =>
    rcases silent with rfl | rfl
    · cases member
    · rw [List.mem_singleton.mp member] at shows
      exact absurd rfl shows

/-- Displayed replies are answers throughout a run exactly when no sentinel
reply is received. -/
theorem repliesAnswer_iff_no_sentinelReply (run : UDPRun server retries history loop) :
    Throughout RepliesAnswer history ↔
      Throughout (fun before turn => ¬ SentinelReply before turn) history := by
  apply run.throughout_iff
  intro before loop event report after run ran _
  have legal := udpRun_legal run
  constructor
  · intro answers
    exact answers.no_sentinelReply legal ran
  · intro known
    exact (udpRun_awaitsReply run).repliesAnswer legal ran known

/-- The AUTH and its REPLY. -/
theorem repliesAnswer_iff_no_sentinelReply_auth : ∃ history loop,
    UDPRun localServer 3 history loop ∧ history.length = 3 ∧
    (Throughout RepliesAnswer history ↔
      Throughout (fun before turn => ¬ SentinelReply before turn) history) := by
  have ran : sample [types "/auth a b c", arrives [0x00, 0, 0],
    arrives [0x01, 0, 5, 1, 0, 0, 0x6F, 0x6B, 0]] = some (_, _) := rfl
  exact ⟨_, _, Run.of_exec ran, rfl, repliesAnswer_iff_no_sentinelReply (Run.of_exec ran)⟩

/-- Once the AUTH was answered, a REPLY to 65535 is displayed. -/
theorem sentinel_reply_displayed : ∃ history loop, UDPRun localServer 3 history loop ∧
    ¬ Throughout RepliesAnswer history := by
  have ran : sample [types "/auth a b c", arrives [0x00, 0, 0],
    arrives [0x01, 0, 5, 1, 0, 0, 0x6F, 0x6B, 0],
    arrives [0x01, 0, 6, 1, 0xFF, 0xFF, 0x6F, 0x6B, 0]] = some (_, _) := rfl
  refine ⟨_, _, Run.of_exec ran, ?_⟩
  intro answers
  obtain ⟨_, _, -, -, -, request, held, -⟩ :=
    answers [_, _, _] _ [] rfl (.replySuccess [0x6F, 0x6B]) (by decide) (by decide)
  have none : request ∈ ([] : List Bytes) := held
  cases none

end ChatClient
