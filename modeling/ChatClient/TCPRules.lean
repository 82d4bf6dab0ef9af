import ChatClient.TCPProtocolHandler

/-! What one call can do to the TCP handler: `Receipt` lists the ends of
`process_received` and `Command` those of `process_user_input`. The theorems on
them read each rule from the code, and every result on the client is proved from
the rules. -/

namespace ChatClient

open FSMValidate TCPMessageValidator

namespace TCPProtocolHandler

variable {h : TCPProtocolHandler} {line argument : Bytes} {outcome : Outcome TCPProtocolHandler}

/-! ## What a line stands for -/

/-- The result a REPLY line carries, the action it stands for, and how its content
is displayed. -/
inductive ReplyLine (line : Bytes) : Action → (Bytes → Effect) → Prop where
  | positive (command : upper ((splitMessage line).headD []) = text "REPLY")
      (ok : upper ((splitMessage line).getD 1 []) = text "OK") :
      ReplyLine line .replyServer .replySuccess
  | negative (command : upper ((splitMessage line).headD []) = text "REPLY")
      (nok : upper ((splitMessage line).getD 1 []) = text "NOK") :
      ReplyLine line .nreplyServer .replyError

/-- The action the first words of a line stand for. -/
inductive Names (line : Bytes) : Action → Prop where
  | message (command : upper ((splitMessage line).headD []) = text "MSG") : Names line .messageServer
  | reply {action : Action} {shown : Bytes → Effect} (reply : ReplyLine line action shown) :
      Names line action
  | error (command : upper ((splitMessage line).headD []) = text "ERR") : Names line .errorServer
  | bye (command : upper ((splitMessage line).headD []) = text "BYE") : Names line .byeServer

/-- A REPLY line that is neither OK nor NOK. -/
def Nameless (line : Bytes) : Prop :=
  upper ((splitMessage line).headD []) = text "REPLY" ∧
    upper ((splitMessage line).getD 1 []) ≠ text "OK" ∧
    upper ((splitMessage line).getD 1 []) ≠ text "NOK"

/-- The machine took a BYE from the server. -/
def Closed (fsm : FSMValidate) : Prop := fsm.currentState = .ended ∧ fsm.expectedAction = [.any]

/-- The lines on which `process_received` has no `return`: a REPLY that is neither OK nor
NOK, and, once the server's BYE was taken, any REPLY, ERR or BYE. -/
def RunsOff (h : TCPProtocolHandler) (line : Bytes) : Prop :=
  Nameless line ∨ (Closed h.fsm ∧
    upper ((splitMessage line).headD []) ∈ [text "REPLY", text "ERR", text "BYE"])

instance : Decidable (RunsOff h line) := by
  unfold RunsOff Nameless Closed
  infer_instance

/-! ## The branches of `process_received` -/

theorem processReceived_of_message (command : upper ((splitMessage line).headD []) = text "MSG") :
    h.processReceived line = h.processMessage line := if_pos command

theorem processReceived_of_reply {action : Action} {display : Bytes → Effect}
    (reply : ReplyLine line action display) :
    h.processReceived line = h.processReply line action display := by
  have other : text "REPLY" ≠ text "MSG" := by decide
  have different : text "NOK" ≠ text "OK" := by decide
  cases reply with
  | positive command ok => simp only [processReceived, command, other, ok, ↓reduceIte]
  | negative command nok => simp only [processReceived, command, other, nok, different, ↓reduceIte]

/-- A REPLY that is neither OK nor NOK takes no branch. -/
theorem processReceived_of_neither
    (command : upper ((splitMessage line).headD []) = text "REPLY")
    (ok : upper ((splitMessage line).getD 1 []) ≠ text "OK")
    (nok : upper ((splitMessage line).getD 1 []) ≠ text "NOK") :
    h.processReceived line = some ⟨h, [], none⟩ := by
  have other : text "REPLY" ≠ text "MSG" := by decide
  simp only [processReceived, command, other, ok, nok, ↓reduceIte]

theorem processReceived_of_error (command : upper ((splitMessage line).headD []) = text "ERR") :
    h.processReceived line = h.processError line := by
  have other : text "ERR" ≠ text "MSG" ∧ text "ERR" ≠ text "REPLY" := by decide
  simp only [processReceived, command, other, ↓reduceIte]

theorem processReceived_of_bye (command : upper ((splitMessage line).headD []) = text "BYE") :
    h.processReceived line = h.processBye := by
  have other : text "BYE" ≠ text "MSG" ∧ text "BYE" ≠ text "REPLY" ∧ text "BYE" ≠ text "ERR" := by
    decide
  simp only [processReceived, command, other, ↓reduceIte]

/-- Which branch of `process_received` a line goes to, and that this branch led to the
outcome. -/
inductive BranchOfKeyword (h : TCPProtocolHandler) (line : Bytes)
    (outcome : Outcome TCPProtocolHandler) : Prop where
  | message (command : upper ((splitMessage line).headD []) = text "MSG")
      (ran : h.processMessage line = some outcome)
  | reply {action : Action} {display : Bytes → Effect} (reply : ReplyLine line action display)
      (ran : h.processReply line action display = some outcome)
  | nameless (command : upper ((splitMessage line).headD []) = text "REPLY")
      (ok : upper ((splitMessage line).getD 1 []) ≠ text "OK")
      (nok : upper ((splitMessage line).getD 1 []) ≠ text "NOK") (same : outcome = ⟨h, [], none⟩)
  | error (command : upper ((splitMessage line).headD []) = text "ERR")
      (ran : h.processError line = some outcome)
  | bye (command : upper ((splitMessage line).headD []) = text "BYE")
      (ran : h.processBye = some outcome)
  | unknown (unnamed : ∀ action, ¬ Names line action) (same : outcome = h.processUnknown)

/-- The first words decide. -/
theorem branchOfKeyword (ran : h.processReceived line = some outcome) :
    BranchOfKeyword h line outcome := by
  simp only [processReceived] at ran
  split at ran
  · exact .message ‹_› ran
  rename_i noMessage
  split at ran
  · rename_i command
    split at ran
    · exact .reply (.positive command ‹_›) ran
    rename_i ok
    split at ran
    · exact .reply (.negative command ‹_›) ran
    · rename_i nok
      exact .nameless command ok nok (Option.some.inj ran).symm
  rename_i noReply
  split at ran
  · exact .error ‹_› ran
  rename_i noError
  split at ran
  · exact .bye ‹_› ran
  · rename_i noBye
    refine .unknown (fun action names => ?_) (Option.some.inj ran).symm
    cases names with
    | message command => exact noMessage command
    | reply reply => cases reply with
      | positive command | negative command => exact noReply command
    | error command => exact noError command
    | bye command => exact noBye command

/-! ## Lines from the server -/

/-- The line passes the check made for the action. -/
def Passes (h : TCPProtocolHandler) (line : Bytes) : Action → Prop
  | .messageServer => (h.messageValidator.validateMessageServer line).2 = true
  | .replyServer | .nreplyServer => ∃ content, validateReply line = some (content, true)
  | .errorServer => (validateErrorServer line).2 = true
  | _ => True

/-- The ends of `process_received`. -/
inductive Receipt (h : TCPProtocolHandler) (line : Bytes) : Outcome TCPProtocolHandler → Prop where
  /-- A message that is displayed. -/
  | shown {fsm : FSMValidate} {content user : Bytes} (names : Names line .messageServer)
      (asked : h.fsm.validateAction .messageServer = some (.any, fsm))
      (valid : h.messageValidator.validateMessageServer line = ((content, user), true)) :
      Receipt h line ⟨{ h with fsm := fsm }, [.messageFromServer user content],
        some (if h.waitingForReply then .waitingForReply else .readyForInput)⟩
  /-- A reply that is awaited. -/
  | reply {action : Action} {display : Bytes → Effect} {fsm : FSMValidate} {content : Bytes}
      (reply : ReplyLine line action display)
      (asked : h.fsm.validateAction action = some (.any, fsm))
      (valid : validateReply line = some (content, true)) (awaited : h.waitingForReply = true) :
      Receipt h line ⟨{ h with fsm := fsm, waitingForReply := false }, [display content],
        some .readyForInput⟩
  /-- A reply that is not. -/
  | ignored {action : Action} {display : Bytes → Effect} {fsm : FSMValidate} {content : Bytes}
      (reply : ReplyLine line action display)
      (asked : h.fsm.validateAction action = some (.any, fsm))
      (valid : validateReply line = some (content, true)) (idle : h.waitingForReply = false) :
      Receipt h line ⟨{ h with fsm := fsm }, [], some .readyForInput⟩
  /-- An ERR: it is displayed and a BYE goes out. -/
  | errorShown {fsm : FSMValidate} {content dname : Bytes} (names : Names line .errorServer)
      (asked : h.fsm.validateAction .errorServer = some (.any, fsm))
      (valid : validateErrorServer line = ((content, dname), true)) :
      Receipt h line ⟨{ h with fsm := fsm },
        [.errorFromServer dname content, .send (text "BYE" ++ crlf)], some .over⟩
  /-- A BYE. -/
  | bye {fsm : FSMValidate} (names : Names line .byeServer)
      (asked : h.fsm.validateAction .byeServer = some (.any, fsm)) :
      Receipt h line ⟨{ h with fsm := fsm }, [], some .over⟩
  /-- A line answered with an ERR: the machine refuses it, or it fails its check. -/
  | failed {action reaction : Action} {fsm : FSMValidate} {user : Bytes} {error : String}
      (names : Names line action) (asked : h.fsm.validateAction action = some (reaction, fsm))
      (refused : reaction = .errorUser ∨ (reaction = .any ∧ ¬ Passes h line action)) :
      Receipt h line ({ h with fsm := fsm }.failWith user error)
  /-- A line on which the machine neither agrees nor refuses. -/
  | undecided {action reaction : Action} {fsm : FSMValidate} {returned : Option ClientState}
      (names : Names line action) (asked : h.fsm.validateAction action = some (reaction, fsm))
      (neither : reaction ≠ .any ∧ reaction ≠ .errorUser)
      (how : returned = if action = .messageServer then some .readyForInput else none) :
      Receipt h line ⟨{ h with fsm := fsm }, [], returned⟩
  /-- A REPLY that is neither OK nor NOK. -/
  | nameless (command : upper ((splitMessage line).headD []) = text "REPLY")
      (ok : upper ((splitMessage line).getD 1 []) ≠ text "OK")
      (nok : upper ((splitMessage line).getD 1 []) ≠ text "NOK") : Receipt h line ⟨h, [], none⟩
  /-- A line without a known command. -/
  | unknown (other : ∀ action, ¬ Names line action) : Receipt h line h.processUnknown

private theorem receipt_of_refusal {action reaction : Action} {fsm : FSMValidate} {user : Bytes}
    {error : String} {returned : Option ClientState} (names : Names line action)
    (asked : h.fsm.validateAction action = some (reaction, fsm)) (refused : reaction ≠ .any)
    (how : returned = if action = .messageServer then some .readyForInput else none)
    (ran : (if reaction = .errorUser then some ({ h with fsm := fsm }.failWith user error)
      else some ⟨{ h with fsm := fsm }, [], returned⟩) = some outcome) : Receipt h line outcome := by
  split at ran
  · cases ran
    exact .failed names asked (.inl ‹_›)
  · rename_i agreed
    cases ran
    exact .undecided names asked ⟨refused, agreed⟩ how

theorem receipt_of_processMessage (names : Names line .messageServer)
    (ran : h.processMessage line = some outcome) : Receipt h line outcome := by
  obtain ⟨⟨reaction, fsm⟩, asked, ran⟩ := Option.bind_eq_some_iff.mp ran
  simp only at ran
  split at ran
  · rename_i any
    subst any
    split at ran
    · rename_i valid
      cases ran
      exact .shown names asked (Prod.ext rfl valid)
    · rename_i invalid
      cases ran
      exact .failed names asked (.inr ⟨rfl, invalid⟩)
  · rename_i refused
    exact receipt_of_refusal names asked refused rfl ran

theorem receipt_of_processReply {action : Action} {display : Bytes → Effect}
    (reply : ReplyLine line action display) (ran : h.processReply line action display = some outcome) :
    Receipt h line outcome := by
  obtain ⟨⟨reaction, fsm⟩, asked, ran⟩ := Option.bind_eq_some_iff.mp ran
  have check : Passes h line action ↔ ∃ content, validateReply line = some (content, true) := by
    cases reply <;> rfl
  simp only at ran
  split at ran
  · rename_i any
    subst any
    cases valid : validateReply line with
    | none =>
      simp only [valid, Option.getD_none, Bool.false_eq_true, ↓reduceIte] at ran
      cases ran
      exact .failed (.reply reply) asked (.inr ⟨rfl, by simp [check, valid]⟩)
    | some result =>
      obtain ⟨content, success⟩ := result
      simp only [valid, Option.getD_some] at ran
      split at ran
      · rename_i succeeded
        subst succeeded
        split at ran
        · rename_i awaited
          cases ran
          exact .reply reply asked valid awaited
        · rename_i idle
          cases ran
          exact .ignored reply asked valid (by simpa using idle)
      · rename_i fails
        cases ran
        exact .failed (.reply reply) asked (.inr ⟨rfl, by simp [check, valid, fails]⟩)
  · rename_i refused
    exact receipt_of_refusal (.reply reply) asked refused (by cases reply <;> rfl) ran

theorem receipt_of_processError (names : Names line .errorServer)
    (ran : h.processError line = some outcome) : Receipt h line outcome := by
  obtain ⟨⟨reaction, fsm⟩, asked, ran⟩ := Option.bind_eq_some_iff.mp ran
  simp only at ran
  split at ran
  · rename_i any
    subst any
    split at ran
    · rename_i valid
      cases ran
      exact .errorShown names asked (Prod.ext rfl valid)
    · rename_i invalid
      cases ran
      exact .failed names asked (.inr ⟨rfl, invalid⟩)
  · rename_i refused
    exact receipt_of_refusal names asked refused rfl ran

theorem receipt_of_processBye (names : Names line .byeServer)
    (ran : h.processBye = some outcome) : Receipt h line outcome := by
  obtain ⟨⟨reaction, fsm⟩, asked, ran⟩ := Option.bind_eq_some_iff.mp ran
  simp only at ran
  split at ran
  · rename_i any
    subst any
    cases ran
    exact .bye names asked
  · rename_i refused
    exact receipt_of_refusal names asked refused rfl ran

/-- Every line ends by one of the rules. -/
theorem receipt_of_processReceived (ran : h.processReceived line = some outcome) :
    Receipt h line outcome := by
  cases branchOfKeyword ran with
  | message command ran => exact receipt_of_processMessage (.message command) ran
  | reply reply ran => exact receipt_of_processReply reply ran
  | nameless command ok nok same => exact same ▸ .nameless command ok nok
  | error command ran => exact receipt_of_processError (.error command) ran
  | bye command ran => exact receipt_of_processBye (.bye command) ran
  | unknown unnamed same => exact same ▸ .unknown unnamed

theorem ReplyLine.answer {action : Action} {display : Bytes → Effect}
    (reply : ReplyLine line action display) : LineAction action := by
  cases reply with
  | positive => exact .inl (.inr (.inl rfl))
  | negative => exact .inl (.inr (.inr (.inl rfl)))

theorem Names.lineAction {action : Action} (names : Names line action) : LineAction action := by
  cases names with
  | message => exact .inl (.inl rfl)
  | reply reply => exact reply.answer
  | error => exact .inl (.inr (.inr (.inr rfl)))
  | bye => exact .inr rfl

/-- A call for a line consults the state machine about what the line stands for. -/
theorem Receipt.consulted (receipt : Receipt h line outcome) :
    Consulted LineAction h.fsm outcome.handler.fsm := by
  cases receipt with
  | shown names asked | errorShown names asked | bye names asked | failed names asked
  | undecided names asked => exact .inr ⟨_, _, names.lineAction, asked⟩
  | reply reply asked | ignored reply asked => exact .inr ⟨_, _, reply.answer, asked⟩
  | nameless | unknown => exact .same

/-- A line from the server leaves the display name. -/
theorem Receipt.validator (receipt : Receipt h line outcome) :
    outcome.handler.messageValidator = h.messageValidator := by
  cases receipt <;> rfl

/-- A line that does not end the session leaves a legal machine legal. -/
theorem Receipt.legal (receipt : Receipt h line outcome) (legal : h.fsm.Legal)
    (goes : outcome.returned ≠ some .over) : outcome.handler.fsm.Legal := by
  cases receipt with
  | shown names asked => exact legal.consulted_server (.inr ⟨_, _, .inl rfl, asked⟩)
  | reply reply asked | ignored reply asked =>
    refine legal.consulted_server (.inr ⟨_, _, ?_, asked⟩)
    cases reply with
    | positive => exact .inr (.inl rfl)
    | negative => exact .inr (.inr (.inl rfl))
  | undecided names asked neither =>
    exact absurd neither (legal.decided names.lineAction asked)
  | nameless => exact legal
  | errorShown | bye | failed | unknown => exact absurd rfl goes

private theorem isSome_of_asked {action : Action}
    {next : Action × FSMValidate → Option (Outcome TCPProtocolHandler)} (settled : Settled h.fsm)
    (server : LineAction action) (answered : ∀ reaction after, (next (reaction, after)).isSome) :
    ((h.fsm.validateAction action).bind next).isSome := by
  obtain ⟨reaction, after, asked, -⟩ := settled.defined (.inr server)
  rw [asked]
  exact answered reaction after

private theorem isSome_of_agreed {reaction : Action} {agreed : Option (Outcome TCPProtocolHandler)}
    {refused other : Outcome TCPProtocolHandler} (answers : agreed.isSome) :
    (if reaction = .any then agreed else if reaction = .errorUser then some refused
      else some other).isSome := by
  by_cases any : reaction = .any
  · rwa [if_pos any]
  · rw [if_neg any]
    by_cases error : reaction = .errorUser
    · rw [if_pos error]
      rfl
    · rw [if_neg error]
      rfl

private theorem processMessage_isSome (settled : Settled h.fsm) : (h.processMessage line).isSome := by
  apply isSome_of_asked settled (.inl (.inl rfl))
  intro reaction after
  apply isSome_of_agreed
  by_cases success : (h.messageValidator.validateMessageServer line).2 = true <;> simp [success]

private theorem processReply_isSome {action : Action} {display : Bytes → Effect}
    (settled : Settled h.fsm)
    (server : LineAction action) : (h.processReply line action display).isSome := by
  apply isSome_of_asked settled server
  intro reaction after
  apply isSome_of_agreed
  by_cases success : ((validateReply line).getD ([], false)).2 = true
  · by_cases awaited : h.waitingForReply = true <;> simp [success, awaited]
  · simp [success]

private theorem processError_isSome (settled : Settled h.fsm) : (h.processError line).isSome := by
  apply isSome_of_asked settled (.inl (.inr (.inr (.inr rfl))))
  intro reaction after
  apply isSome_of_agreed
  by_cases success : (validateErrorServer line).2 = true <;> simp [success]

private theorem processBye_isSome (settled : Settled h.fsm) : h.processBye.isSome := by
  apply isSome_of_asked settled (.inr rfl)
  intro reaction after
  apply isSome_of_agreed
  rfl

private theorem processReceived_isSome (settled : Settled h.fsm) :
    (h.processReceived line).isSome := by
  simp only [processReceived]
  split
  · exact processMessage_isSome settled
  split
  · split
    · exact processReply_isSome settled (.inl (.inr (.inl rfl)))
    split
    · exact processReply_isSome settled (.inl (.inr (.inr (.inl rfl))))
    · rfl
  split
  · exact processError_isSome settled
  split
  · exact processBye_isSome settled
  · rfl

/-- A line is processed without undefined behaviour, and the machine stays
settled. -/
theorem processReceived_defined (settled : Settled h.fsm) :
    ∃ outcome, h.processReceived line = some outcome ∧ Settled outcome.handler.fsm := by
  obtain ⟨outcome, ran⟩ := Option.isSome_iff_exists.mp (@processReceived_isSome h line settled)
  exact ⟨outcome, ran, settled.consulted .inr (receipt_of_processReceived ran).consulted⟩

/-! ## Lines without a `return` -/

theorem settled_cases {fsm : FSMValidate} (settled : Settled fsm) : fsm.Legal ∨ Closed fsm := by
  rcases settled with legal | ⟨previous, rfl⟩
  · exact .inl legal
  · exact .inr ⟨rfl, rfl⟩

/-- A closed machine says OVER to everything. -/
theorem Closed.answers_over {fsm : FSMValidate} (closed : Closed fsm) (action : Action) :
    ∃ after, fsm.validateAction action = some (.over, after) := by
  refine ⟨{ fsm with previousState := some .ended }, ?_⟩
  simp [validateAction, closed.1, closed.2]

/-- A closed machine agrees to nothing and refuses nothing. -/
theorem Closed.undecided {fsm after : FSMValidate} {action reaction : Action} (closed : Closed fsm)
    (asked : fsm.validateAction action = some (reaction, after)) :
    reaction ≠ .any ∧ reaction ≠ .errorUser := by
  obtain ⟨_, answers⟩ := closed.answers_over action
  rw [answers] at asked
  cases asked
  exact ⟨by decide, by decide⟩

/-- A line that stands for something is no REPLY without a result. -/
theorem Names.not_nameless {action : Action} (names : Names line action) : ¬ Nameless line := by
  rintro ⟨command, ok, nok⟩
  cases names with
  | message named | error named | bye named =>
    rw [named] at command
    exact absurd command (by decide)
  | reply reply => cases reply with
    | positive _ named => exact ok named
    | negative _ named => exact nok named

/-- A line that stands for a message begins with MSG, any other one with another command. -/
theorem Names.command_iff {action : Action} (names : Names line action) :
    upper ((splitMessage line).headD []) ∈ [text "REPLY", text "ERR", text "BYE"] ↔
      action ≠ .messageServer := by
  cases names with
  | message command | error command | bye command =>
    rw [command]
    decide
  | reply reply => cases reply with
    | positive command | negative command =>
      rw [command]
      decide

private theorem named_or_nameless (command : upper ((splitMessage line).headD []) ∈
    [text "REPLY", text "ERR", text "BYE"]) : (∃ action, Names line action) ∨ Nameless line := by
  simp only [List.mem_cons, List.not_mem_nil, or_false] at command
  rcases command with reply | error | bye
  · by_cases ok : upper ((splitMessage line).getD 1 []) = text "OK"
    · exact .inl ⟨_, .reply (.positive reply ok)⟩
    by_cases nok : upper ((splitMessage line).getD 1 []) = text "NOK"
    · exact .inl ⟨_, .reply (.negative reply nok)⟩
    · exact .inr ⟨reply, ok, nok⟩
  · exact .inl ⟨_, .error error⟩
  · exact .inl ⟨_, .bye bye⟩

/-- The call has no `return` on these lines and on no others. -/
theorem returned_iff (settled : Settled h.fsm) (ran : h.processReceived line = some outcome) :
    outcome.returned = none ↔ RunsOff h line := by
  have returns {action reaction : Action} {fsm : FSMValidate} (names : Names line action)
      (asked : h.fsm.validateAction action = some (reaction, fsm))
      (decided : reaction = .any ∨ reaction = .errorUser) : ¬ RunsOff h line := by
    rintro (nameless | ⟨closed, -⟩)
    · exact names.not_nameless nameless
    · exact decided.elim (closed.undecided asked).1 (closed.undecided asked).2
  cases receipt_of_processReceived ran with
  | shown names asked | errorShown names asked | bye names asked =>
    exact iff_of_false (by simp) (returns names asked (.inl rfl))
  | reply reply asked | ignored reply asked =>
    exact iff_of_false (by simp) (returns (.reply reply) asked (.inl rfl))
  | failed names asked refused =>
    exact iff_of_false (by simp [failWith]) (returns names asked (refused.symm.imp_left And.left))
  | undecided names asked neither how =>
    have closed := (settled_cases settled).resolve_left fun legal =>
      legal.decided names.lineAction asked neither
    unfold RunsOff
    rw [names.command_iff, how]
    simp [names.not_nameless, closed]
  | nameless command ok nok => exact iff_of_true rfl (.inl ⟨command, ok, nok⟩)
  | unknown other =>
    have some : ¬ Nameless line := fun ⟨command, ok, nok⟩ => by
      cases ran.symm.trans (processReceived_of_neither command ok nok)
    refine iff_of_false (by simp [processUnknown]) ?_
    rintro (nameless | ⟨-, command⟩)
    · exact some nameless
    · exact (named_or_nameless command).elim (fun ⟨action, names⟩ => other action names) some

/-! ## Lines from the user -/

/-- A request the validator accepts: the action it stands for, the validator
afterwards and the line that goes out. -/
inductive Request (validator : TCPMessageValidator) (argument : Bytes) :
    Action → TCPMessageValidator → Bytes → Prop where
  | auth {named : TCPMessageValidator} {request : Bytes}
      (valid : validator.authorizeValidate argument = (named, request, true)) :
      Request validator argument .authorizeUser named request
  | join {request : Bytes} (valid : validator.joinValidate argument = (request, true)) :
      Request validator argument .joinUser validator request

/-- The ends of `process_user_input`. -/
inductive Command (h : TCPProtocolHandler) (line : Bytes) : Outcome TCPProtocolHandler → Prop where
  /-- `/exit`: a BYE. -/
  | exit (exits : line = text "/exit") : Command h line ⟨h, [.send (text "BYE" ++ crlf)], some .over⟩
  /-- A command turned down. -/
  | rejected {fsm : FSMValidate} {reason : Bytes} (other : line ≠ text "/exit")
      (asked : Consulted UserAction h.fsm fsm) : Command h line ({ h with fsm := fsm }.reject reason)
  /-- An `/auth` or `/join` that is sent. -/
  | requested {action : Action} {fsm : FSMValidate} {validator : TCPMessageValidator}
      {request : Bytes} (other : line ≠ text "/exit")
      (accepted : Request h.messageValidator (argumentOf line) action validator request)
      (asked : h.fsm.validateAction action = some (.any, fsm)) :
      Command h line ⟨{ h with fsm := fsm, messageValidator := validator, waitingForReply := true },
        [.send request], some .waitingForReply⟩
  /-- A text that is sent. -/
  | spoken {fsm : FSMValidate} {response : Bytes} (other : line ≠ text "/exit")
      (asked : h.fsm.validateAction .messageUser = some (.any, fsm))
      (valid : h.messageValidator.messageValidate line = (response, true)) :
      Command h line ⟨{ h with fsm := fsm }, [.send response], some .readyForInput⟩
  /-- A `/rename` that succeeds runs off the end of the function. -/
  | renamed {validator : TCPMessageValidator} (other : line ≠ text "/exit")
      (valid : h.messageValidator.rename (argumentOf line) = (validator, true)) :
      Command h line ⟨{ h with messageValidator := validator }, [], none⟩
  /-- `/help`. -/
  | helped (other : line ≠ text "/exit") : Command h line ⟨h, [.printHelp], some .readyForInput⟩
  /-- A command on which the state machine neither agrees nor warns. -/
  | undecided {action reaction : Action} {fsm : FSMValidate} {returned : Option ClientState}
      (other : line ≠ text "/exit") (user : UserAction action)
      (asked : h.fsm.validateAction action = some (reaction, fsm))
      (neither : reaction ≠ .any ∧ reaction ≠ .warnClient)
      (goes : returned.getD .readyForInput = .readyForInput) :
      Command h line ⟨{ h with fsm := fsm }, [], returned⟩

section Commands
variable (other : line ≠ text "/exit")
include other

/-- A command the state machine did not accept. -/
theorem command_of_refusal {fsm : FSMValidate} {action reaction : Action} {reason : String}
    {returned : Option ClientState} (user : UserAction action)
    (asked : h.fsm.validateAction action = some (reaction, fsm)) (refused : reaction ≠ .any)
    (goes : returned.getD .readyForInput = .readyForInput)
    (ran : (if reaction = .warnClient then some ({ h with fsm := fsm }.reject (text reason))
      else some ⟨{ h with fsm := fsm }, [], returned⟩) = some outcome) : Command h line outcome := by
  split at ran
  · cases ran
    exact .rejected other (.inr ⟨action, reaction, user, asked⟩)
  · rename_i warned
    cases ran
    exact .undecided other user asked ⟨refused, warned⟩ goes

theorem command_of_processAuth (ran : h.processAuth (argumentOf line) = some outcome) :
    Command h line outcome := by
  have user : UserAction .authorizeUser := .inl rfl
  obtain ⟨⟨reaction, fsm⟩, asked, ran⟩ := Option.bind_eq_some_iff.mp ran
  simp only [authorizeValidate_again] at ran
  split at ran
  · rename_i any
    subst any
    split at ran
    · rename_i valid
      cases ran
      exact .requested other (.auth (Prod.ext rfl (Prod.ext rfl valid))) asked
    · rename_i invalid
      rw [authorizeValidate_refused (by simpa using invalid)] at ran
      cases ran
      exact .rejected other (.inr ⟨_, _, user, asked⟩)
  · rename_i refused
    exact command_of_refusal other user asked refused rfl ran

theorem command_of_processJoin (ran : h.processJoin (argumentOf line) = some outcome) :
    Command h line outcome := by
  have user : UserAction .joinUser := .inr (.inl rfl)
  obtain ⟨⟨reaction, fsm⟩, asked, ran⟩ := Option.bind_eq_some_iff.mp ran
  simp only at ran
  split at ran
  · rename_i any
    subst any
    split at ran
    · rename_i valid
      cases ran
      exact .requested other (.join (Prod.ext rfl valid)) asked
    · cases ran
      exact .rejected other (.inr ⟨_, _, user, asked⟩)
  · rename_i refused
    exact command_of_refusal other user asked refused rfl ran

theorem command_of_processRename : Command h line (h.processRename (argumentOf line)) := by
  cases accepted : (h.messageValidator.rename (argumentOf line)).2 with
  | true =>
    have shape := Command.renamed other (Prod.ext rfl accepted)
    simpa [processRename, accepted] using shape
  | false =>
    have shape : Command h line (h.reject (text "Invalid display name format")) := .rejected other .same
    simpa [processRename, accepted, rename_refused accepted] using shape

theorem command_of_processText (ran : h.processText line = some outcome) :
    Command h line outcome := by
  have user : UserAction .messageUser := .inr (.inr rfl)
  unfold processText at ran
  split at ran
  · cases ran
    exact .rejected other .same
  obtain ⟨⟨reaction, fsm⟩, asked, ran⟩ := Option.bind_eq_some_iff.mp ran
  simp only at ran
  split at ran
  · rename_i any
    subst any
    split at ran
    · rename_i valid
      cases ran
      exact .spoken other asked (Prod.ext rfl valid)
    · cases ran
      exact .rejected other (.inr ⟨_, _, user, asked⟩)
  · rename_i refused
    exact command_of_refusal other user asked refused rfl ran

end Commands

/-- Every line the user types ends by one of the rules. -/
theorem command_of_processUserInput (ran : h.processUserInput line = some outcome) :
    Command h line outcome := by
  simp only [processUserInput] at ran
  split at ran
  · cases ran
    exact .exit ‹_›
  rename_i other
  cases dispatched_of_eq ran with
  | auth _ ran => exact command_of_processAuth other ran
  | join _ ran => exact command_of_processJoin other ran
  | rename _ ran =>
    cases ran
    exact command_of_processRename other
  | help _ ran =>
    cases ran
    exact .helped other
  | plain _ _ _ _ ran => exact command_of_processText other ran

/-- A call for a line consults the state machine about a user action. -/
theorem Command.consulted (command : Command h line outcome) :
    Consulted UserAction h.fsm outcome.handler.fsm := by
  cases command with
  | exit | renamed | helped => exact .same
  | rejected other asked => exact asked
  | requested other accepted asked =>
    cases accepted with
    | auth => exact .inr ⟨_, _, .inl rfl, asked⟩
    | join => exact .inr ⟨_, _, .inr (.inl rfl), asked⟩
  | spoken other asked => exact .inr ⟨_, _, .inr (.inr rfl), asked⟩
  | undecided other user asked => exact .inr ⟨_, _, user, asked⟩

end TCPProtocolHandler

end ChatClient
