import ChatClient.UserReturns

/-! The state machine and the case splits on what it answers.

A handler asks `validate_action` at most once for a line or a datagram, and
splits on two answers only: ANY and WARN_CLIENT for what the user does, ANY and
ERROR_USER for what the server does. `askedByUser`, `askedByLine` and
`askedByDatagram` say which action a call asks about, the theorems `…_asks` that
the call goes by the answer, and `reactions_fit` that in every run the answer is
one of the two. -/

namespace ChatClient

open Transition Calls FSMValidate

/-- The action `process_user_input` asks about, the same in both handlers. -/
def askedByUser (line : Bytes) : Option Action :=
  if line = text "/exit" then none
  else if commandOf line = text "/AUTH" then some .authorizeUser
  else if commandOf line = text "/JOIN" then some .joinUser
  else if commandOf line = text "/RENAME" ∨ commandOf line = text "/HELP" then none
  else if line.head? = some 0x2F then none
  else some .messageUser

section Asked
variable {line : Bytes}

theorem askedByUser_auth (other : line ≠ text "/exit") (command : commandOf line = text "/AUTH") :
    askedByUser line = some .authorizeUser := by
  rw [askedByUser, if_neg other, if_pos command]

theorem askedByUser_join (other : line ≠ text "/exit") (command : commandOf line = text "/JOIN") :
    askedByUser line = some .joinUser := by
  have noAuth : text "/JOIN" ≠ text "/AUTH" := by decide
  rw [askedByUser, if_neg other, command, if_neg noAuth, if_pos rfl]

/-- The commands that stay within the client ask nothing. -/
theorem askedByUser_local (command : commandOf line = text "/RENAME" ∨ commandOf line = text "/HELP") :
    askedByUser line = none := by
  have noAuth : commandOf line ≠ text "/AUTH" := by rcases command with is | is <;> rw [is] <;> decide
  have noJoin : commandOf line ≠ text "/JOIN" := by rcases command with is | is <;> rw [is] <;> decide
  rw [askedByUser, if_neg noAuth, if_neg noJoin, if_pos command, ite_self]

theorem askedByUser_plain (other : line ≠ text "/exit") (noAuth : commandOf line ≠ text "/AUTH")
    (noJoin : commandOf line ≠ text "/JOIN") (noRename : commandOf line ≠ text "/RENAME")
    (noHelp : commandOf line ≠ text "/HELP") :
    askedByUser line = if line.head? = some 0x2F then none else some .messageUser := by
  rw [askedByUser, if_neg other, if_neg noAuth, if_neg noJoin, if_neg (not_or.mpr ⟨noRename, noHelp⟩)]

end Asked

/-- The action `process_received` of the TCP handler asks about. -/
def askedByLine (line : Bytes) : Option Action :=
  let command := upper ((splitMessage line).headD [])
  let okNok := upper ((splitMessage line).getD 1 [])
  if command = text "MSG" then some .messageServer
  else if command = text "REPLY" then
    if okNok = text "OK" then some .replyServer
    else if okNok = text "NOK" then some .nreplyServer
    else none
  else if command = text "ERR" then some .errorServer
  else if command = text "BYE" then some .byeServer
  else none

/-- The action `process_received` of the UDP handler asks about. -/
def askedByDatagram (message : Bytes) : Option Action :=
  if message[0]? = some 0x01 then
    if message.length < 6 ∨ (UDPMessageValidator.parseAndValidate (message.drop 6) "reply").2 = false then
      none
    else if message[3]? = some 0x00 then some .nreplyServer
    else if message[3]? = some 0x01 then some .replyServer
    else none
  else if message[0]? = some 0x04 then
    if message.length < 3 ∨ (UDPMessageValidator.parseAndValidate (message.drop 3) "msg").2 = false then
      none
    else some .messageServer
  else if message[0]? = some 0xFE then
    if message.length < 4 ∨ (UDPMessageValidator.parseAndValidate (message.drop 3) "err").2 = false then
      none
    else some .errorServer
  else none

/-- The machine answers, and the answer is one the handlers split on. -/
def Fits (fsm : FSMValidate) (action : Action) : Prop :=
  ∃ reaction after, fsm.validateAction action = some (reaction, after) ∧
    ((UserAction action ∧ (reaction = .any ∨ reaction = .warnClient)) ∨
      (LineAction action ∧ (reaction = .any ∨ reaction = .errorUser)))

/-- A call ends in the machine that the answer leaves, or in the one it started
with when it asks nothing. -/
def GoesBy (fsm : FSMValidate) (asks : Option Action) (after : FSMValidate) : Prop :=
  match asks with
  | none => after = fsm
  | some action => ∃ reaction, fsm.validateAction action = some (reaction, after)

/-- The one question of a call: it is answered fittingly, and the call goes by the
answer. -/
structure Consults (fsm : FSMValidate) (asks : Option Action) (after : FSMValidate) : Prop where
  fits : ∀ action, asks = some action → Fits fsm action
  goesBy : GoesBy fsm asks after

variable {fsm : FSMValidate} {action : Action} {line message argument : Bytes}

theorem askedByUser_user : Yields (askedByUser line) UserAction := by
  refine .ite (fun exits => .none) fun stays => ?_
  refine .ite (fun auth => .some (.inl rfl)) fun noAuth => ?_
  refine .ite (fun join => .some (.inr (.inl rfl))) fun noJoin => ?_
  refine .ite (fun others => .none) fun plain => ?_
  exact .ite (fun slash => .none) fun text => .some (.inr (.inr rfl))

private theorem askedByLine_iff :
    askedByLine line = some action ↔ TCPProtocolHandler.Names line action := by
  constructor
  · intro asks
    simp only [askedByLine] at asks
    split at asks
    · cases asks
      exact .message ‹_›
    split at asks
    · rename_i command
      split at asks
      · cases asks
        exact .reply (.positive command ‹_›)
      split at asks
      · cases asks
        exact .reply (.negative command ‹_›)
      · cases asks
    split at asks
    · cases asks
      exact .error ‹_›
    split at asks
    · cases asks
      exact .bye ‹_›
    · cases asks
  · intro names
    cases names with
    | message command | error command | bye command =>
      simp only [askedByLine, command]
      rfl
    | reply reply =>
      cases reply with
      | positive command result | negative command result =>
        simp only [askedByLine, command, result]
        rfl

private theorem askedByDatagram_server : Yields (askedByDatagram message) ServerAction := by
  refine .ite (fun reply => ?_) fun noReply => ?_
  · refine .ite (fun invalid => .none) fun valid => ?_
    refine .ite (fun negative => .some (.inr (.inr (.inl rfl)))) fun notNegative => ?_
    exact .ite (fun positive => .some (.inr (.inl rfl))) fun neither => .none
  refine .ite (fun msg => ?_) fun noMessage => ?_
  · exact .ite (fun invalid => .none) fun valid => .some (.inl rfl)
  refine .ite (fun err => ?_) fun noError => .none
  exact .ite (fun invalid => .none) fun valid => .some (.inr (.inr (.inr rfl)))

/-- A legal machine has a fitting answer for everything the handlers ask. -/
theorem FSMValidate.Legal.fits_user (legal : fsm.Legal) (user : UserAction action) :
    Fits fsm action := by
  obtain ⟨reaction, after, asked, -, decided⟩ := legal.user user
  exact ⟨reaction, after, asked, .inl ⟨user, decided⟩⟩

private theorem FSMValidate.Legal.fits_line (legal : fsm.Legal) (line : LineAction action) :
    Fits fsm action := by
  obtain ⟨reaction, after, asked, decided, -⟩ := legal.line line
  exact ⟨reaction, after, asked, .inr ⟨line, decided⟩⟩

/-! ## What a call does with the answer -/

/-- A call that asks about an action goes by the answer when it leaves the machine
as the answer does. -/
theorem goesBy_of_bind {H : Type} {fsmOf : H → FSMValidate} {outcome : Outcome H}
    {next : Action × FSMValidate → Option (Outcome H)}
    (ran : (fsm.validateAction action).bind next = some outcome)
    (leaves : ∀ reaction after,
      Yields (next (reaction, after)) fun outcome => fsmOf outcome.handler = after) :
    GoesBy fsm (some action) (fsmOf outcome.handler) := by
  obtain ⟨⟨reaction, after⟩, asked, goesOn⟩ := Option.bind_eq_some_iff.mp ran
  rw [leaves reaction after outcome goesOn]
  exact ⟨reaction, asked⟩

private theorem goesBy_dispatch {H : Type} {fsmOf : H → FSMValidate} {outcome rename help : Outcome H}
    {auth join plain : Option (Outcome H)} (other : line ≠ text "/exit")
    (ran : (if commandOf line = text "/AUTH" then auth
      else if commandOf line = text "/JOIN" then join
      else if commandOf line = text "/RENAME" then some rename
      else if commandOf line = text "/HELP" then some help else plain) = some outcome)
    (asksAuth : auth = some outcome → GoesBy fsm (some .authorizeUser) (fsmOf outcome.handler))
    (asksJoin : join = some outcome → GoesBy fsm (some .joinUser) (fsmOf outcome.handler))
    (renames : fsmOf rename.handler = fsm) (helps : fsmOf help.handler = fsm)
    (speaks : plain = some outcome →
      GoesBy fsm (if line.head? = some 0x2F then none else some .messageUser)
        (fsmOf outcome.handler)) : GoesBy fsm (askedByUser line) (fsmOf outcome.handler) := by
  cases dispatched_of_eq ran with
  | auth command ran =>
    rw [askedByUser_auth other command]
    exact asksAuth ran
  | join command ran =>
    rw [askedByUser_join other command]
    exact asksJoin ran
  | rename command ran =>
    cases ran
    rw [askedByUser_local (.inl command)]
    exact renames
  | help command ran =>
    cases ran
    rw [askedByUser_local (.inr command)]
    exact helps
  | plain noAuth noJoin noRename noHelp ran =>
    rw [askedByUser_plain other noAuth noJoin noRename noHelp]
    exact speaks ran

section TCP
open TCPProtocolHandler
variable {h : TCPProtocolHandler} {outcome : Outcome TCPProtocolHandler}

private theorem tcp_processReceived_asks (ran : h.processReceived line = some outcome) :
    GoesBy h.fsm (askedByLine line) outcome.handler.fsm := by
  have named {action reaction : Action} {after : FSMValidate} (names : Names line action)
      (asked : h.fsm.validateAction action = some (reaction, after)) :
      GoesBy h.fsm (askedByLine line) after := by
    rw [askedByLine_iff.mpr names]
    exact ⟨reaction, asked⟩
  have unnamed (other : ∀ action, ¬ Names line action) : GoesBy h.fsm (askedByLine line) h.fsm := by
    cases asks : askedByLine line with
    | none => rfl
    | some action => exact absurd (askedByLine_iff.mp asks) (other action)
  cases receipt_of_processReceived ran with
  | shown names asked | errorShown names asked | bye names asked | failed names asked
  | undecided names asked => exact named names asked
  | reply reply asked | ignored reply asked => exact named (.reply reply) asked
  | unknown other => exact unnamed other
  | nameless command ok nok =>
    have other : text "REPLY" ≠ text "MSG" := by decide
    have none : askedByLine line = none := by
      simp only [askedByLine, command, other, ok, nok, ↓reduceIte]
    rw [none]
    rfl

private theorem tcp_processAuth_asks (ran : h.processAuth argument = some outcome) :
    GoesBy h.fsm (some .authorizeUser) outcome.handler.fsm := by
  apply goesBy_of_bind ran
  intro reaction after
  refine .ite (fun accepted => ?_) fun unaccepted => ?_
  · exact .ite (fun valid => .some rfl) fun invalid => .some rfl
  · exact .ite (fun warned => .some rfl) fun undecided => .some rfl

private theorem tcp_processJoin_asks (ran : h.processJoin argument = some outcome) :
    GoesBy h.fsm (some .joinUser) outcome.handler.fsm := by
  apply goesBy_of_bind ran
  intro reaction after
  refine .ite (fun accepted => ?_) fun unaccepted => ?_
  · exact .ite (fun valid => .some rfl) fun invalid => .some rfl
  · exact .ite (fun warned => .some rfl) fun undecided => .some rfl

private theorem tcp_processText_asks (ran : h.processText line = some outcome) :
    GoesBy h.fsm (if line.head? = some 0x2F then none else some .messageUser)
      outcome.handler.fsm := by
  unfold TCPProtocolHandler.processText at ran
  split
  · rename_i slash
    rw [if_pos slash] at ran
    cases ran
    rfl
  · rename_i plain
    rw [if_neg plain] at ran
    apply goesBy_of_bind ran
    intro reaction after
    refine .ite (fun accepted => ?_) fun unaccepted => ?_
    · exact .ite (fun valid => .some rfl) fun invalid => .some rfl
    · exact .ite (fun warned => .some rfl) fun undecided => .some rfl

private theorem tcp_processRename_fsm : (h.processRename argument).handler.fsm = h.fsm := by
  unfold TCPProtocolHandler.processRename
  dsimp only
  split <;> rfl

/-- A line from the user goes by the one answer it asks for. -/
theorem tcp_processUserInput_asks (ran : h.processUserInput line = some outcome) :
    GoesBy h.fsm (askedByUser line) outcome.handler.fsm := by
  simp only [TCPProtocolHandler.processUserInput] at ran
  split at ran
  · rename_i exits
    cases ran
    rw [askedByUser, if_pos exits]
    rfl
  · exact goesBy_dispatch ‹_› ran tcp_processAuth_asks tcp_processJoin_asks tcp_processRename_fsm rfl
      tcp_processText_asks

end TCP

section UDP
open UDPProtocolHandler UDPMessageValidator
variable {h : UDPProtocolHandler} {outcome : Outcome UDPProtocolHandler}

private theorem udp_concludeReply_asks {messageID refID : UInt16} {shown : Effect}
    {ignored : ClientState}
    {error : String} (ran : h.concludeReply messageID refID action shown ignored error = some outcome) :
    GoesBy h.fsm (some action) outcome.handler.fsm := by
  apply goesBy_of_bind ran
  intro reaction after
  refine .ite (fun accepted => .some settleReply_fsm) fun unaccepted => ?_
  exact .ite (fun refused => .some failWith_fsm) fun undecided => .some rfl

private theorem udp_processReply_asks (type : message[0]? = some 0x01)
    (ran : h.processReply message = some outcome) :
    GoesBy h.fsm (askedByDatagram message) outcome.handler.fsm := by
  unfold askedByDatagram
  rw [if_pos type]
  unfold processReply at ran
  split at ran
  · rename_i short
    cases ran
    rw [if_pos (.inl short)]
    exact failWith_fsm
  rename_i whole
  simp only [Option.bind_eq_bind, Option.bind_eq_some_iff] at ran
  obtain ⟨messageID, -, status, stated, refID, -, ran⟩ := ran
  rw [stated]
  split at ran
  · rename_i valid
    rw [if_neg (by simp [whole, valid])]
    obtain ⟨content, -, ran⟩ := Option.bind_eq_some_iff.mp ran
    split at ran
    · rename_i negative
      rw [if_pos (congrArg some negative)]
      exact udp_concludeReply_asks ran
    rename_i notNegative
    rw [if_neg fun same => notNegative (Option.some.inj same)]
    split at ran
    · rename_i positive
      rw [if_pos (congrArg some positive)]
      exact udp_concludeReply_asks ran
    · rename_i notPositive
      rw [if_neg fun same => notPositive (Option.some.inj same)]
      cases ran
      exact failWith_fsm
  · rename_i invalid
    cases ran
    rw [if_pos (.inr (by simpa using invalid))]
    exact failWith_fsm

private theorem udp_processMessage_asks (type : message[0]? = some 0x04)
    (ran : h.processMessage message = some outcome) :
    GoesBy h.fsm (askedByDatagram message) outcome.handler.fsm := by
  have other : (0x04 : UInt8) ≠ 0x01 := by decide
  simp only [askedByDatagram, type, Option.some.injEq, other, ↓reduceIte]
  unfold processMessage at ran
  split at ran
  · rename_i short
    cases ran
    rw [if_pos (.inl short)]
    exact failWith_fsm
  rename_i whole
  simp only [Option.bind_eq_bind, Option.bind_eq_some_iff] at ran
  obtain ⟨messageID, -, ran⟩ := ran
  split at ran
  · rename_i valid
    rw [if_neg (by simp [whole, valid])]
    apply goesBy_of_bind ran
    intro reaction after
    refine .ite (fun accepted => ?_) fun refused => .some failWith_fsm
    refine .ite (fun repeated => .some rfl) fun new => ?_
    exact .bind fun dname _ => .bind fun content _ => .some rfl
  · rename_i invalid
    cases ran
    rw [if_pos (.inr (by simpa using invalid))]
    exact failWith_fsm

private theorem udp_processError_asks (type : message[0]? = some 0xFE)
    (ran : h.processError message = some outcome) :
    GoesBy h.fsm (askedByDatagram message) outcome.handler.fsm := by
  have noReply : (0xFE : UInt8) ≠ 0x01 := by decide
  have noMessage : (0xFE : UInt8) ≠ 0x04 := by decide
  simp only [askedByDatagram, type, Option.some.injEq, noReply, noMessage, ↓reduceIte]
  unfold processError at ran
  split at ran
  · rename_i short
    cases ran
    rw [if_pos (.inl short)]
    exact failWith_fsm
  rename_i whole
  simp only [Option.bind_eq_bind, Option.bind_eq_some_iff] at ran
  obtain ⟨messageID, -, ran⟩ := ran
  split at ran
  · rename_i valid
    rw [if_neg (by simp [whole, valid])]
    apply goesBy_of_bind ran
    intro reaction after
    refine .ite (fun accepted => ?_) fun refused => .some failWith_fsm
    refine .ite (fun repeated => .some rfl) fun new => ?_
    exact .bind fun dname _ => .bind fun content _ => .some rfl
  · rename_i invalid
    cases ran
    rw [if_pos (.inr (by simpa using invalid))]
    exact failWith_fsm

private theorem udp_processConfirm_fsm (ran : h.processConfirm message = some outcome) :
    outcome.handler.fsm = h.fsm := by
  have keeps : Yields (h.processConfirm message) fun outcome => outcome.handler.fsm = h.fsm := by
    refine Yields.bind fun messageID _ => .ite (fun awaited => ?_) fun foreign => .some rfl
    refine .ite (fun ends => .some rfl) fun goes => .ite (fun errorSent => .some rfl) fun noError => ?_
    exact .ite (fun reply => .some rfl) fun noReply => .some rfl
  exact keeps outcome ran

private theorem udp_processBye_fsm (ran : h.processBye message = some outcome) :
    outcome.handler.fsm = h.fsm := by
  unfold processBye at ran
  split at ran
  · cases ran
    exact failWith_fsm
  · obtain ⟨messageID, -, ran⟩ := Option.bind_eq_some_iff.mp ran
    cases ran
    rfl

private theorem udp_processUnknown_fsm (ran : h.processUnknown message = some outcome) :
    outcome.handler.fsm = h.fsm := by
  unfold processUnknown at ran
  split at ran
  · cases ran
    exact failWith_fsm
  · obtain ⟨messageID, -, ran⟩ := Option.bind_eq_some_iff.mp ran
    cases ran
    exact failWith_fsm

private theorem udp_processReceived_asks (ran : h.processReceived message = some outcome) :
    GoesBy h.fsm (askedByDatagram message) outcome.handler.fsm := by
  have silent {kind : UInt8} (type : message[0]? = some kind)
      (other : kind ≠ 0x01 ∧ kind ≠ 0x04 ∧ kind ≠ 0xFE) (same : outcome.handler.fsm = h.fsm) :
      GoesBy h.fsm (askedByDatagram message) outcome.handler.fsm := by
    have none : askedByDatagram message = none := by
      simp [askedByDatagram, type, other]
    rw [none]
    exact same
  cases branchOfType ran with
  | confirm type ran => exact silent type (by decide) (udp_processConfirm_fsm ran)
  | reply type ran => exact udp_processReply_asks type ran
  | message type ran => exact udp_processMessage_asks type ran
  | error type ran => exact udp_processError_asks type ran
  | bye type ran => exact silent type (by decide) (udp_processBye_fsm ran)
  | unknown type _ noReply noMessage noError _ ran =>
    exact silent type ⟨noReply, noMessage, noError⟩ (udp_processUnknown_fsm ran)

private theorem udp_processAuth_asks (ran : h.processAuth argument = some outcome) :
    GoesBy h.fsm (some .authorizeUser) outcome.handler.fsm := by
  apply goesBy_of_bind ran
  intro reaction after
  refine .ite (fun accepted => ?_) fun unaccepted => ?_
  · rcases splitMessage argument with _ | ⟨username, _ | ⟨secret, _ | ⟨deename, _ | ⟨more, rest⟩⟩⟩⟩
    case cons.cons.cons.nil => exact .ite (fun valid => .some rfl) fun invalid => .some rfl
    all_goals exact .some rfl
  · exact .ite (fun warned => .some rfl) fun undecided => .some rfl

private theorem udp_processJoin_asks (ran : h.processJoin argument = some outcome) :
    GoesBy h.fsm (some .joinUser) outcome.handler.fsm := by
  apply goesBy_of_bind ran
  intro reaction after
  refine .ite (fun accepted => ?_) fun unaccepted => ?_
  · rcases splitMessage argument with _ | ⟨channel, _ | ⟨more, rest⟩⟩
    case cons.nil => exact .ite (fun valid => .some rfl) fun invalid => .some rfl
    all_goals exact .some rfl
  · exact .ite (fun warned => .some rfl) fun undecided => .some rfl

private theorem udp_processText_asks (ran : h.processText line = some outcome) :
    GoesBy h.fsm (if line.head? = some 0x2F then none else some .messageUser)
      outcome.handler.fsm := by
  unfold UDPProtocolHandler.processText at ran
  split
  · rename_i slash
    rw [if_pos slash] at ran
    cases ran
    rfl
  · rename_i plain
    rw [if_neg plain] at ran
    apply goesBy_of_bind ran
    intro reaction after
    refine .ite (fun accepted => ?_) fun unaccepted => ?_
    · exact .ite (fun valid => .some rfl) fun invalid => .some rfl
    · exact .ite (fun warned => .some rfl) fun undecided => .some rfl

private theorem udp_processRename_fsm : (h.processRename argument).handler.fsm = h.fsm := by
  unfold UDPProtocolHandler.processRename
  dsimp only
  split <;> rfl

/-- The action `process_user_input` of the UDP handler asks about: none when an
error put off takes the place of the line. -/
def udpAskedByUser (h : UDPProtocolHandler) (line : Bytes) : Option Action :=
  if h.errorWhileWaiting then none else askedByUser line

/-- A line from the user goes by the one answer it asks for. -/
theorem udp_processUserInput_asks (ran : h.processUserInput line = some outcome) :
    GoesBy h.fsm (udpAskedByUser h line) outcome.handler.fsm := by
  simp only [UDPProtocolHandler.processUserInput] at ran
  unfold udpAskedByUser
  split at ran
  · rename_i exits
    cases ran
    rw [askedByUser, if_pos exits, ite_self]
    rfl
  split at ran
  · rename_i pending
    cases ran
    rw [if_pos pending]
    exact sendErrorMessage_fsm
  · rename_i clear
    rw [if_neg clear]
    exact goesBy_dispatch ‹_› ran udp_processAuth_asks udp_processJoin_asks udp_processRename_fsm rfl
      udp_processText_asks

end UDP

/-! ## Runs -/

section Bursts
open TCPProtocolHandler

private theorem legal_of_burst {h : TCPProtocolHandler} {lines : List Bytes} (legal : h.fsm.Legal) :
    ∀ handed ∈ (lineServer.burst h lines).1, handed.before.fsm.Legal := by
  induction lines generalizing h with
  | nil => simp [Service.Server.burst]
  | cons line lines ih =>
    obtain ⟨outcome, ran, -⟩ := @processReceived_defined h line (.inl legal)
    intro handed member
    simp only [Service.Server.burst, act_eq ran, verdict_go] at member
    split at member
    · rename_i ready
      rcases List.mem_cons.mp member with rfl | later
      · exact legal
      · refine ih ((receipt_of_processReceived ran).legal legal fun ended => ?_) handed later
        simp [Handed.state, ended] at ready
    · rw [List.mem_singleton.mp member]
      exact legal

end Bursts

/-- What a turn of the TCP client asks, and of which machine. -/
def tcpQuestions (turn : TCPTurn) : List (FSMValidate × Action) :=
  match turn.output.call with
  | .processUserInput line =>
    (askedByUser line).toList.map fun action => (turn.before.protocolHandler.handler.fsm, action)
  | .processServerMessage _ =>
    (handedIn turn).filterMap fun handed =>
      (askedByLine handed.line).map fun action => (handed.before.fsm, action)
  | _ => []

/-- What a turn of the UDP client asks, and of which machine. -/
def udpQuestions (turn : UDPTurn) : List (FSMValidate × Action) :=
  match turn.output.call with
  | .processUserInput line =>
    (udpAskedByUser turn.before.protocolHandler line).toList.map
      fun action => (turn.before.protocolHandler.fsm, action)
  | .processServerMessage (.received _ message) =>
    (askedByDatagram message.val).toList.map fun action => (turn.before.protocolHandler.fsm, action)
  | _ => []

/-- Everything a run of the TCP client has asked was answered fittingly, and so is
whatever the next call asks. -/
structure TCPReactionsFit (history : List TCPTurn) (loop : StreamHandler TCPClient) : Prop where
  asked : ∀ turn ∈ history, ∀ question ∈ tcpQuestions turn, Fits question.1 question.2
  user : loop.state ≠ .over → ∀ line, ∃ outcome,
    loop.protocolHandler.handler.processUserInput line = some outcome ∧
      Consults loop.protocolHandler.handler.fsm (askedByUser line) outcome.handler.fsm
  server : loop.state ≠ .over → ∀ chunk : Chunk, ∃ handed client,
    loop.protocolHandler.handOver chunk.val = some (handed, client) ∧
      ∀ line ∈ handed, Consults line.before.fsm (askedByLine line.line) line.outcome.handler.fsm

/-- The same for UDP. A datagram with a whole header is answered with a state; one
without asks nothing. -/
structure UDPReactionsFit (history : List UDPTurn) (loop : StreamHandler UDPProtocolHandler) :
    Prop where
  asked : ∀ turn ∈ history, ∀ question ∈ udpQuestions turn, Fits question.1 question.2
  user : ∀ line, ∃ outcome, loop.protocolHandler.processUserInput line = some outcome ∧
    Consults loop.protocolHandler.fsm (udpAskedByUser loop.protocolHandler line) outcome.handler.fsm
  server : ∀ fromAddr message, 3 ≤ message.length → ∃ outcome,
    { loop.protocolHandler with serverAddress := fromAddr }.processReceived message = some outcome ∧
      Consults loop.protocolHandler.fsm (askedByDatagram message) outcome.handler.fsm ∧
      outcome.returned ≠ none
  short : ∀ message, message.length < 3 → askedByDatagram message = none

section Runs
variable {retries : UInt8} {server : SockAddr} {tcpHistory : List TCPTurn} {udpHistory : List UDPTurn}
  {client : StreamHandler TCPClient} {loop : StreamHandler UDPProtocolHandler}

private theorem legal_of_handOver {before after : TCPClient} {chunk : Bytes} {handed : List Handed}
    (legal : before.handler.fsm.Legal) (taken : HandsOver before chunk handed after) :
    ∀ line ∈ handed, line.before.fsm.Legal := by
  rw [taken.lines]
  exact legal_of_burst legal

private theorem legal_of_handedIn {event : Event Recv} {report : Report Recv}
    {after : StreamHandler TCPClient}
    (run : TCPRun retries tcpHistory client) (ran : client.iterate event = some (report, after)) :
    ∀ line ∈ handedIn ⟨client, event, report, after⟩, line.before.fsm.Legal := by
  have goes := (iteration_of_iterate ran).1
  rcases handedIn_cases (tcpRun_settled run) ran with none | ⟨chunk, left, taken, -⟩
  · simp [none]
  · exact legal_of_handOver (tcpRun_legal run goes) taken

private theorem tcpQuestions_fit {event : Event Recv} {report : Report Recv}
    {after : StreamHandler TCPClient}
    (run : TCPRun retries tcpHistory client) (ran : client.iterate event = some (report, after)) :
    ∀ question ∈ tcpQuestions ⟨client, event, report, after⟩, Fits question.1 question.2 := by
  have legal := tcpRun_legal run (iteration_of_iterate ran).1
  intro question member
  unfold tcpQuestions at member
  split at member
  · obtain ⟨action, asks, rfl⟩ := List.mem_map.mp member
    exact legal.fits_user (askedByUser_user _ (Option.mem_toList.mp asks))
  · obtain ⟨line, handed, asks⟩ := List.mem_filterMap.mp member
    obtain ⟨action, named, rfl⟩ := Option.map_eq_some_iff.mp asks
    exact (legal_of_handedIn run ran line handed).fits_line (askedByLine_iff.mp named).lineAction
  · cases member

private theorem tcp_reactions_fit (run : TCPRun retries tcpHistory client) :
    TCPReactionsFit tcpHistory client := by
  refine ⟨?_, fun goes line => ?_, fun goes chunk => ?_⟩
  · intro turn taken
    obtain ⟨before, later, rfl⟩ := List.append_of_mem taken
    exact tcpQuestions_fit run.split.1 run.split.2
  · have legal := tcpRun_legal run goes
    obtain ⟨outcome, ran⟩ := tcp_processUserInput_defined legal line
    exact ⟨outcome, ran, fun action asks => legal.fits_user (askedByUser_user _ asks),
      tcp_processUserInput_asks ran⟩
  · obtain ⟨handed, after, hands, taken⟩ := handOver_defined (tcpRun_settled run) chunk.val
    refine ⟨handed, after, hands, fun line member => ?_⟩
    have legal := legal_of_handOver (tcpRun_legal run goes) taken line member
    exact ⟨fun action asks => legal.fits_line (askedByLine_iff.mp asks).lineAction,
      tcp_processReceived_asks (taken.mem (tcpRun_settled run) line member).2⟩

private theorem udpAskedByUser_user {h : UDPProtocolHandler}
    (asks : udpAskedByUser h line = some action) :
    UserAction action := by
  unfold udpAskedByUser at asks
  split at asks
  · cases asks
  · exact askedByUser_user _ asks

private theorem udpQuestions_fit {turn : UDPTurn} (legal : turn.before.protocolHandler.fsm.Legal) :
    ∀ question ∈ udpQuestions turn, Fits question.1 question.2 := by
  intro question member
  unfold udpQuestions at member
  split at member
  · obtain ⟨action, asks, rfl⟩ := List.mem_map.mp member
    exact legal.fits_user (udpAskedByUser_user (Option.mem_toList.mp asks))
  · obtain ⟨action, asks, rfl⟩ := List.mem_map.mp member
    exact legal.fits_line (.inl (askedByDatagram_server _ (Option.mem_toList.mp asks)))
  · cases member

/-- With a fitting answer the end of the function is not reached. -/
theorem UDPProtocolHandler.Receipt.explicit {h : UDPProtocolHandler}
    {outcome : Outcome UDPProtocolHandler} (receipt : Receipt h message outcome)
    (legal : h.fsm.Legal) : outcome.returned ≠ none := by
  cases receipt with
  | undecided _ server asked neither => exact absurd neither (legal.decided (.inl server) asked)
  | reply =>
    unfold settleReply
    split <;> simp
  | byeConfirmed | errorConfirmed | confirmed | stray | repeated | shown | errorRepeated
  | errorShown | bye => simp
  | failed => simp [failWith]

private theorem udp_reactions_fit (run : UDPRun server retries udpHistory loop) :
    UDPReactionsFit udpHistory loop := by
  have legal := udpRun_legal run
  refine ⟨?_, fun line => ?_, fun fromAddr message whole => ?_, fun message short => ?_⟩
  · intro turn taken
    obtain ⟨before, later, rfl⟩ := List.append_of_mem taken
    exact udpQuestions_fit (udpRun_legal run.split.1)
  · obtain ⟨outcome, ran⟩ := udp_processUserInput_defined legal line
    exact ⟨outcome, ran, fun action asks => legal.fits_user (udpAskedByUser_user asks),
      udp_processUserInput_asks ran⟩
  · have same : { loop.protocolHandler with serverAddress := fromAddr }.fsm = loop.protocolHandler.fsm :=
      rfl
    generalize { loop.protocolHandler with serverAddress := fromAddr } = h at same ⊢
    rw [← same] at legal ⊢
    obtain ⟨outcome, ran⟩ := UDPProtocolHandler.processReceived_defined legal whole
    exact ⟨outcome, ran, ⟨fun action asks => legal.fits_line (.inl (askedByDatagram_server _ asks)),
      udp_processReceived_asks ran⟩, (UDPProtocolHandler.receipt_of_processReceived ran).explicit legal⟩
  · have reply : message.length < 6 := by omega
    have error : message.length < 4 := by omega
    simp [askedByDatagram, short, reply, error]

/-- In every run of either client the state machine answers every question, and
with one of the two answers the handlers split on. -/
theorem reactions_fit {udpRetries : UInt8} (tcp : TCPRun retries tcpHistory client)
    (udp : UDPRun server udpRetries udpHistory loop) :
    TCPReactionsFit tcpHistory client ∧ UDPReactionsFit udpHistory loop :=
  ⟨tcp_reactions_fit tcp, udp_reactions_fit udp⟩

/-- A BYE the TCP server sends in OPEN, and an ERR the UDP server sends in START. -/
theorem reactions_fit_closing : ∃ tcpHistory client udpHistory loop, TCPRun 3 tcpHistory client ∧
    UDPRun localServer 3 udpHistory loop ∧
    tcpHistory.flatMap tcpQuestions = [(⟨.start, none, []⟩, .authorizeUser),
      (⟨.auth, some .start, [.any]⟩, .replyServer), (⟨.opened, some .auth, [.any]⟩, .byeServer)] ∧
    udpHistory.flatMap udpQuestions = [(⟨.start, none, []⟩, .errorServer)] ∧
    TCPReactionsFit tcpHistory client ∧ UDPReactionsFit udpHistory loop := by
  have tcp : tcpSample [enters "/auth a b c", streams (piece "REPLY OK IS hi\r\n"),
    streams (piece "BYE\r\n")] = some (_, _) := rfl
  have udp : sample [arrives [0xFE, 0, 0, 0x61, 0, 0x62, 0]] = some (_, _) := rfl
  exact ⟨_, _, _, _, Run.of_exec tcp, Run.of_exec udp, by decide, by decide,
    reactions_fit (Run.of_exec tcp) (Run.of_exec udp)⟩

end Runs

end ChatClient
