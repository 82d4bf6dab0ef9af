import ChatClient.FrontEnds
import ChatClient.TCPGrammar

/-! A chat session, whatever carries it: the user's lines, the server's messages, and
what comes of them. There are no datagrams here, no confirmations, no stream and no
buffer. The server keeps to the protocol: its messages are well formed and numbered,
each with a number of its own, it replies to an open request and says BYE in an open
session. The user is not read while a request is open.

`TCPSession` and `UDPSession` show that both front ends carry every such session. -/

namespace ChatClient

open Transition FSMValidate TCPMessageValidator

/-! ## What the user asks for -/

/-- A line as a command. One that asks for nothing says what the state machine is
asked about all the same. -/
inductive UserCommand where
  | exit
  | auth (id displayName secret : Bytes)
  | join (channel : Bytes)
  | rename (displayName : Bytes)
  | help
  | message (content : Bytes)
  | malformed (asked : Option Action)
  deriving DecidableEq

namespace UserCommand

/-- The argument of an `/auth`. -/
def ofAuth (argument : Bytes) : UserCommand :=
  match splitMessage argument with
  | [id, secret, displayName] =>
    if validateId id ∧ validateSecret secret ∧ validateDname displayName then
      auth id displayName secret
    else malformed (some .authorizeUser)
  | _ => malformed (some .authorizeUser)

/-- The argument of a `/join`. -/
def ofJoin (argument : Bytes) : UserCommand :=
  match splitMessage argument with
  | [channel] => if validateId channel then join channel else malformed (some .joinUser)
  | _ => malformed (some .joinUser)

/-- A line that is no command. -/
def ofText (line : Bytes) : UserCommand :=
  if line.head? = some 0x2F then malformed none
  else if validateContent line then message line
  else malformed (some .messageUser)

/-- The command of a line. -/
def ofLine (line : Bytes) : UserCommand :=
  if line = text "/exit" then exit
  else if commandOf line = text "/AUTH" then ofAuth (argumentOf line)
  else if commandOf line = text "/JOIN" then ofJoin (argumentOf line)
  else if commandOf line = text "/RENAME" then
    if validateDname (argumentOf line) then rename (argumentOf line) else malformed none
  else if commandOf line = text "/HELP" then help
  else ofText line

end UserCommand

/-! ## What the server says -/

inductive ServerMessage where
  | reply (accepted : Bool) (content : Bytes)
  | message (displayName content : Bytes)
  | error (displayName content : Bytes)
  | bye
  deriving DecidableEq

namespace ServerMessage

/-- The fields are those of the grammar. -/
def valid : ServerMessage → Bool
  | reply _ content => validateContent content
  | message displayName content | error displayName content =>
    validateDname displayName && !displayName.contains space && validateContent content
  | bye => true

/-- What the user is shown of it. -/
def shown : ServerMessage → List Effect
  | reply true content => [.replySuccess content]
  | reply false content => [.replyError content]
  | message displayName content => [.messageFromServer displayName content]
  | error displayName content => [.errorFromServer displayName content]
  | bye => []

/-- What the state machine is asked about it. -/
def action : ServerMessage → Action
  | reply true _ => .replyServer
  | reply false _ => .nreplyServer
  | message _ _ => .messageServer
  | error _ _ => .errorServer
  | bye => .byeServer

end ServerMessage

/-! ## The session -/

/-- What the two ends get to see. The client objects to a message out of place with an
ERR; the texts of an ERR and of a rejection are left open. -/
inductive Observation where
  | speaks (message : UserMessage)
  | objects
  | shows (effect : Effect)
  | rejects
  | helps
  deriving DecidableEq

/-- The client's side of a session: the state machine, the display name, whether a
request is open, the numbers the server has used, and whether it has ended. -/
structure ChatSession where
  fsm : FSMValidate := {}
  displayName : Bytes := []
  requested : Bool := false
  seen : List UInt16 := []
  ended : Bool := false
  deriving DecidableEq

/-- What happens in a session. -/
inductive SessionEvent where
  | line (line : Bytes)
  | server (number : UInt16) (message : ServerMessage)
  deriving DecidableEq

namespace ChatSession

variable (s : ChatSession)

/-- The state machine is asked first, and what comes of it depends on whether it
agrees. -/
def ask (action : Action) (agreed refused : ChatSession → List Observation × ChatSession) :
    Option (List Observation × ChatSession) := do
  let (reaction, fsm) ← s.fsm.validateAction action
  let s := { s with fsm := fsm }
  some (if reaction = .any then agreed s else refused s)

/-- A command is turned down. -/
def reject : List Observation × ChatSession := ([.rejects], s)

/-- A message of the user goes out. -/
def say (message : UserMessage) : List Observation × ChatSession := ([.speaks message], s)

/-- The client ends the session over a message out of place. -/
def object : List Observation × ChatSession := ([.objects, .speaks .bye], { s with ended := true })

/-- What a command comes to. -/
def command : UserCommand → Option (List Observation × ChatSession)
  | .exit => some ({ s with ended := true }.say .bye)
  | .auth id displayName secret =>
    s.ask .authorizeUser (fun s => { s with displayName := displayName, requested := true }.say
      (.auth id displayName secret)) reject
  | .join channel =>
    s.ask .joinUser (fun s => { s with requested := true }.say (.join channel s.displayName)) reject
  | .rename displayName => some ([], { s with displayName := displayName })
  | .help => some ([.helps], s)
  | .message content => s.ask .messageUser (fun s => s.say (.message s.displayName content)) reject
  | .malformed none => some s.reject
  | .malformed (some action) => s.ask action reject reject

/-- What a message of the server comes to. -/
def hear (message : ServerMessage) : Option (List Observation × ChatSession) :=
  let shown := message.shown.map .shows
  match message with
  | .reply _ _ =>
    if s.requested then s.ask message.action (fun s => (shown, { s with requested := false })) object
    else none
  | .message _ _ => s.ask message.action (fun s => (shown, s)) object
  | .error _ _ =>
    s.ask message.action (fun s => (shown ++ [.speaks .bye], { s with ended := true })) object
  | .bye =>
    if s.fsm.currentState = .opened then
      s.ask message.action (fun s => (shown, { s with ended := true })) object
    else none

/-- One step of a session. -/
def step : SessionEvent → Option (List Observation × ChatSession)
  | .line line =>
    if s.ended ∨ s.requested then none
    else if line = [] then some ([], s)
    else s.command (.ofLine line)
  | .server number message =>
    if s.ended ∨ number ∈ s.seen ∨ message.valid = false then none
    else { s with seen := s.seen ++ [number] }.hear message

/-- The state a session leaves the event loop in. -/
def state : ClientState :=
  if s.ended then .over else if s.requested then .waitingForReply else .readyForInput

end ChatSession

/-! ## What is asked -/

section Asked
variable {s : ChatSession} {action : Action} {result : List Observation × ChatSession}
  {agreed refused : ChatSession → List Observation × ChatSession} {argument : Bytes}

/-- A handler that asks the machine of the session about a user action comes to what
the session says, if it does for both answers. -/
theorem ask_user {H : Type} {Q : List Observation × ChatSession → Outcome H → Prop}
    {next : Action × FSMValidate → Option (Outcome H)} {fsm : FSMValidate}
    (ran : s.ask action agreed refused = some result) (same : fsm = s.fsm) (legal : s.fsm.Legal)
    (user : UserAction action) (agrees : ∀ fsm, ∃ outcome, next (.any, fsm) = some outcome ∧
      Q (agreed { s with fsm := fsm }) outcome)
    (warns : ∀ fsm, ∃ outcome, next (.warnClient, fsm) = some outcome ∧
      Q (refused { s with fsm := fsm }) outcome) :
    ∃ outcome, (fsm.validateAction action).bind next = some outcome ∧ Q result outcome := by
  obtain ⟨reaction, after, asked, -, decided⟩ := legal.user user
  simp only [ChatSession.ask, asked, Option.bind_eq_bind, Option.bind_some, Option.some.injEq] at ran
  rw [same, asked, Option.bind_some, ← ran]
  rcases decided with rfl | rfl
  · exact agrees after
  · exact warns after

/-- The same for a server action. -/
theorem ask_server {H : Type} {Q : List Observation × ChatSession → Outcome H → Prop}
    {next : Action × FSMValidate → Option (Outcome H)} {fsm : FSMValidate}
    (ran : s.ask action agreed refused = some result) (same : fsm = s.fsm) (legal : s.fsm.Legal)
    (server : ServerAction action) (agrees : ∀ fsm, ∃ outcome, next (.any, fsm) = some outcome ∧
      Q (agreed { s with fsm := fsm }) outcome)
    (objects : ∀ fsm, ∃ outcome, next (.errorUser, fsm) = some outcome ∧
      Q (refused { s with fsm := fsm }) outcome) :
    ∃ outcome, (fsm.validateAction action).bind next = some outcome ∧ Q result outcome := by
  obtain ⟨reaction, after, asked, -, decided⟩ := legal.server server
  simp only [ChatSession.ask, asked, Option.bind_eq_bind, Option.bind_some, Option.some.injEq] at ran
  rw [same, asked, Option.bind_some, ← ran]
  rcases decided with rfl | rfl
  · exact agrees after
  · exact objects after

/-- An open machine agrees to a BYE. -/
theorem FSMValidate.Legal.accepts_bye {fsm : FSMValidate} (legal : fsm.Legal)
    (opened : fsm.currentState = .opened) :
    ∃ after, fsm.validateAction .byeServer = some (.any, after) := by
  cases legal with
  | opened => exact ⟨_, rfl⟩
  | fresh | started | authorizing | requested | refused | faulted | closing => cases opened

/-- What comes of an answer leaves the machine as the answer did, so it stays legal. -/
theorem ask_legal (legal : s.fsm.Legal) (either : UserAction action ∨ ServerAction action)
    (agrees : ∀ s, (agreed s).2.fsm = s.fsm) (refuses : ∀ s, (refused s).2.fsm = s.fsm)
    (ran : s.ask action agreed refused = some result) : result.2.fsm.Legal := by
  have answered : ∃ reaction after, s.fsm.validateAction action = some (reaction, after) ∧
      after.Legal := by
    rcases either with user | server
    · obtain ⟨reaction, after, asked, kept, -⟩ := legal.user user
      exact ⟨reaction, after, asked, kept⟩
    · obtain ⟨reaction, after, asked, kept, -⟩ := legal.server server
      exact ⟨reaction, after, asked, kept⟩
  obtain ⟨reaction, after, asked, kept⟩ := answered
  simp only [ChatSession.ask, asked, Option.bind_eq_bind, Option.bind_some, Option.some.injEq] at ran
  rw [← ran]
  split
  · exact (agrees _).symm ▸ kept
  · exact (refuses _).symm ▸ kept

/-- An `/auth` has three arguments that pass, or is malformed. -/
theorem ofAuth_cases (argument : Bytes) :
    (∃ id secret name, AuthFields argument id secret name ∧
        UserCommand.ofAuth argument = .auth id name secret) ∨
      ((∀ id secret name, ¬ AuthFields argument id secret name) ∧
        UserCommand.ofAuth argument = .malformed (some .authorizeUser)) := by
  by_cases fields : ∃ id secret name, AuthFields argument id secret name
  · obtain ⟨id, secret, name, fields⟩ := fields
    refine .inl ⟨id, secret, name, fields, ?_⟩
    simp only [UserCommand.ofAuth, fields.parts, fields.id, fields.secret, fields.name, and_self,
      ↓reduceIte]
  · simp only [not_exists] at fields
    refine .inr ⟨fields, ?_⟩
    unfold UserCommand.ofAuth
    split
    · rename_i id secret name parts
      rw [if_neg]
      rintro ⟨validId, validSecret, validName⟩
      exact fields id secret name ⟨parts, validId, validSecret, validName⟩
    · rfl

/-- A `/join` has one argument that passes, or is malformed. -/
theorem ofJoin_cases (argument : Bytes) :
    (∃ channel, splitMessage argument = [channel] ∧ validateId channel = true ∧
        UserCommand.ofJoin argument = .join channel) ∨
      ((∀ channel, splitMessage argument = [channel] → validateId channel = false) ∧
        UserCommand.ofJoin argument = .malformed (some .joinUser)) := by
  unfold UserCommand.ofJoin
  split
  · rename_i channel parts
    by_cases valid : validateId channel = true
    · exact .inl ⟨channel, parts, valid, if_pos valid⟩
    · refine .inr ⟨fun other same => ?_, if_neg valid⟩
      cases parts.symm.trans same
      simpa using valid
  · rename_i other
    exact .inr ⟨fun channel parts => absurd parts (other channel), rfl⟩

private theorem UserCommand.ofLine_asked {line : Bytes} {action : Action}
    (asks : UserCommand.ofLine line = .malformed (some action)) : UserAction action := by
  unfold UserCommand.ofLine UserCommand.ofAuth UserCommand.ofJoin UserCommand.ofText at asks
  split at asks
  · cases asks
  split at asks
  · split at asks
    · split at asks <;> cases asks
      exact .inl rfl
    · cases asks
      exact .inl rfl
  split at asks
  · split at asks
    · split at asks <;> cases asks
      exact .inr (.inl rfl)
    · cases asks
      exact .inr (.inl rfl)
  split at asks
  · split at asks <;> cases asks
  split at asks
  · cases asks
  split at asks
  · cases asks
  · split at asks <;> cases asks
    exact .inr (.inr rfl)

private theorem ChatSession.command_legal {command : UserCommand} (legal : s.fsm.Legal)
    (asks : ∀ action, command = .malformed (some action) → UserAction action)
    (ran : s.command command = some result) : result.2.fsm.Legal := by
  cases command with
  | exit | rename | help =>
    cases ran
    exact legal
  | auth =>
    rw [ChatSession.command] at ran
    exact ask_legal legal (.inl (.inl rfl)) (fun _ => rfl) (fun _ => rfl) ran
  | join =>
    rw [ChatSession.command] at ran
    exact ask_legal legal (.inl (.inr (.inl rfl))) (fun _ => rfl) (fun _ => rfl) ran
  | message =>
    rw [ChatSession.command] at ran
    exact ask_legal legal (.inl (.inr (.inr rfl))) (fun _ => rfl) (fun _ => rfl) ran
  | malformed asked => cases asked with
    | none =>
      cases ran
      exact legal
    | some action =>
      exact ask_legal legal (.inl (asks action rfl)) (fun _ => rfl) (fun _ => rfl) ran

private theorem ChatSession.hear_legal {message : ServerMessage} (legal : s.fsm.Legal)
    (ran : s.hear message = some result) (goes : result.2.ended = false) : result.2.fsm.Legal := by
  cases message with
  | reply accepted content =>
    simp only [ChatSession.hear] at ran
    split at ran
    · refine ask_legal legal (.inr ?_) (fun _ => rfl) (fun _ => rfl) ran
      cases accepted
      · exact .inr (.inr (.inl rfl))
      · exact .inr (.inl rfl)
    · cases ran
  | message =>
    simp only [ChatSession.hear] at ran
    exact ask_legal legal (.inr (.inl rfl)) (fun _ => rfl) (fun _ => rfl) ran
  | error =>
    simp only [ChatSession.hear] at ran
    exact ask_legal legal (.inr (.inr (.inr (.inr rfl)))) (fun _ => rfl) (fun _ => rfl) ran
  | bye =>
    simp only [ChatSession.hear] at ran
    split at ran
    · simp only [ChatSession.ask, Option.bind_eq_bind, Option.bind_eq_some_iff, Option.some.injEq] at ran
      obtain ⟨answer, -, rfl⟩ := ran
      split at goes <;> cases goes
    · cases ran

end Asked

abbrev SessionTurn := Transition.Turn ChatSession SessionEvent (List Observation)

/-- The sessions, with every turn taken. -/
abbrev SessionRun := Run ChatSession.step ({} : ChatSession)

/-- The machine is legal as long as a session goes on. -/
theorem sessionRun_legal {history : List SessionTurn} {s : ChatSession} (run : SessionRun history s)
    (goes : s.ended = false) : s.fsm.Legal := by
  refine run.invariant (I := fun _ s => s.ended = false → s.fsm.Legal) (fun _ => .fresh)
    (fun {_ s event seen after} _ legal ran goes => ?_) goes
  cases event with
  | line line =>
    simp only [ChatSession.step] at ran
    split at ran
    · cases ran
    rename_i runs
    have legal := legal (by simpa using (not_or.mp runs).1)
    split at ran
    · cases ran
      exact legal
    · exact ChatSession.command_legal legal (fun _ => UserCommand.ofLine_asked) ran
  | server number message =>
    simp only [ChatSession.step] at ran
    split at ran
    · cases ran
    · rename_i runs
      have legal := legal (by simpa using (not_or.mp runs).1)
      exact ChatSession.hear_legal (s := { s with seen := s.seen ++ [number] }) legal ran goes

/-- A session in which a text comes in before the reply to a `/join`. -/
def joiningSession : List SessionEvent :=
  [.line (text "/auth a b c"), .server 7 (.reply true (text "ok")), .line (text "/join r"),
    .server 8 (.message (text "d") (text "x y")), .server 3 (.reply false (text "no")),
    .line (text "hi"), .server 4 .bye]

end ChatClient
