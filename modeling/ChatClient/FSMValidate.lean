import ChatClient.Bytes

/-! The state machine both protocol handlers consult before they act, and the
states it can be in. `validate_action` has two ways to accept an action: through
`expectedAction`, which leaves `currentState` alone, and through the switch on
`currentState`. `Legal` lists the configurations the handlers can drive it to;
the theorems after it say, action by action, what a legal machine answers. -/

namespace ChatClient

/-- What the handlers ask about, and what the machine answers. -/
inductive Action where
  | emptyServer | emptyUser | authorizeUser | joinUser | messageUser | messageServer
  | byeUser | byeServer | errorUser | errorServer | replyServer | nreplyServer
  | anyUser | anyServer | any | warnClient | over
  deriving DecidableEq, Repr

/-- `FSMValidate::State`; `opened` and `ended` are its OPEN and END. -/
inductive State where
  | start | auth | opened | error | ended
  deriving DecidableEq, Repr

inductive Source where
  | user | server
  deriving DecidableEq, Repr

/-- `previousState` has no value until the switch first assigns it. -/
structure FSMValidate where
  currentState : State := .start
  previousState : Option State := none
  expectedAction : List Action := []
  deriving DecidableEq, Repr

namespace FSMValidate

/-- `check_expected_action`; undefined where it would subscript an empty vector. -/
def checkExpectedAction (fsm : FSMValidate) (action : Action) : Option Bool :=
  if action ∈ fsm.expectedAction then some true
  else do
    let first ← fsm.expectedAction[0]?
    some (decide (first = .any))

/-- `get_source`; undefined for the actions it has no `return` for. -/
def getSource : Action → Option Source
  | .emptyServer | .messageServer | .byeServer | .errorServer | .replyServer | .nreplyServer =>
    some .server
  | .emptyUser | .authorizeUser | .joinUser | .messageUser | .byeUser | .errorUser => some .user
  | .anyUser | .anyServer | .any | .warnClient | .over => none

/-- The last `else` of the START, AUTH and OPEN cases: a user action is warned
about, a server action is a protocol error. -/
def refuse (fsm : FSMValidate) (action : Action) : Option (Action × FSMValidate) := do
  match ← getSource action with
  | .user => some (.warnClient, { fsm with expectedAction := [.any] })
  | .server => some (.errorUser, { fsm with expectedAction := [.byeUser], currentState := .error })

/-- `case State::START`. -/
def validateStart (fsm : FSMValidate) (action : Action) : Option (Action × FSMValidate) :=
  let fsm := { fsm with previousState := some .start }
  if action = .authorizeUser then
    some (.any, { fsm with expectedAction := [.any], currentState := .auth })
  else fsm.refuse action

/-- `case State::AUTH`. -/
def validateAuth (fsm : FSMValidate) (action : Action) : Option (Action × FSMValidate) :=
  let fsm := { fsm with previousState := some .auth }
  match action with
  | .authorizeUser =>
    some (.any, { fsm with expectedAction := [.replyServer, .nreplyServer, .errorServer] })
  | .byeUser =>
    some (.over, { fsm with currentState := .ended, expectedAction := [.emptyServer, .errorServer] })
  | .errorServer => some (.any, { fsm with currentState := .ended, expectedAction := [.byeUser] })
  | .replyServer => some (.any, { fsm with currentState := .opened, expectedAction := [.any] })
  | .nreplyServer => some (.any, { fsm with expectedAction := [.authorizeUser] })
  | _ => fsm.refuse action

/-- `case State::OPEN`. -/
def validateOpen (fsm : FSMValidate) (action : Action) : Option (Action × FSMValidate) :=
  let fsm := { fsm with previousState := some .opened }
  match action with
  | .messageServer | .replyServer | .nreplyServer | .joinUser | .messageUser =>
    some (.any, { fsm with expectedAction := [.any] })
  | .errorServer => some (.any, { fsm with currentState := .ended, expectedAction := [.byeUser] })
  | .byeServer => some (.any, { fsm with currentState := .ended, expectedAction := [.any] })
  | .byeUser => some (.any, { fsm with currentState := .ended, expectedAction := [.errorServer] })
  | .errorUser => some (.any, { fsm with currentState := .ended, expectedAction := [.byeServer] })
  | _ => fsm.refuse action

/-- `validate_action`. Nothing is returned where the source runs off the end of
the function or reads a `previousState` that was never assigned. -/
def validateAction (fsm : FSMValidate) (action : Action) : Option (Action × FSMValidate) :=
  if fsm.expectedAction ≠ [] ∧ fsm.expectedAction[0]? ≠ some .any then do
    if ← fsm.checkExpectedAction action then
      some (.any, { fsm with expectedAction := [.any] })
    else
      match ← getSource action with
      | .user => do
        let previous ← fsm.previousState
        some (.warnClient, { fsm with expectedAction := [.any], currentState := previous })
      | .server =>
        some (.errorUser, { fsm with expectedAction := [.byeUser], currentState := .error })
  else
    match fsm.currentState with
    | .start => fsm.validateStart action
    | .auth => fsm.validateAuth action
    | .opened => fsm.validateOpen action
    | .error =>
      if action = .byeUser then
        some (.any, { fsm with previousState := some .error, currentState := .ended })
      else none
    | .ended => some (.over, { fsm with previousState := some .ended })

/-! ## The configurations the handlers reach -/

/-- A state the machine can fall back to from ERROR or END. -/
def Home (state : State) : Prop := state = .start ∨ state = .auth ∨ state = .opened

/-- The replies AUTH waits for once a second `/auth` was accepted. -/
abbrev answers : List Action := [.replyServer, .nreplyServer, .errorServer]

/-- The machine before the handlers report the end of the session. -/
inductive Legal : FSMValidate → Prop where
  | fresh : Legal ⟨.start, none, []⟩
  | started : Legal ⟨.start, some .start, [.any]⟩
  | authorizing {previous : State} (home : Home previous) : Legal ⟨.auth, some previous, [.any]⟩
  | requested : Legal ⟨.auth, some .auth, answers⟩
  | refused : Legal ⟨.auth, some .auth, [.authorizeUser]⟩
  | opened {previous : State} (home : Home previous) : Legal ⟨.opened, some previous, [.any]⟩
  | faulted {previous : State} (home : Home previous) : Legal ⟨.error, some previous, [.byeUser]⟩
  | closing {previous : State} (home : Home previous) : Legal ⟨.ended, some previous, [.byeUser]⟩

/-- The user actions the handlers ask about. -/
def UserAction (action : Action) : Prop :=
  action = .authorizeUser ∨ action = .joinUser ∨ action = .messageUser

/-- The server actions the handlers ask about while the session goes on. -/
def ServerAction (action : Action) : Prop :=
  action = .messageServer ∨ action = .replyServer ∨ action = .nreplyServer ∨ action = .errorServer

variable {fsm after : FSMValidate} {action reaction : Action}

@[simp] theorem home_auth : Home .auth := .inr (.inl rfl)
@[simp] theorem home_opened : Home .opened := .inr (.inr rfl)
@[simp] theorem home_start : Home .start := .inl rfl

/-- Falling back to an earlier state leaves a legal machine. -/
theorem Legal.resume {previous : State} (home : Home previous) :
    Legal ⟨previous, some previous, [.any]⟩ := by
  rcases home with rfl | rfl | rfl
  · exact .started
  · exact .authorizing home_auth
  · exact .opened home_opened

/-- A user action is allowed or warned about, and the machine stays legal. -/
theorem Legal.user (legal : Legal fsm) (user : UserAction action) :
    ∃ reaction after, fsm.validateAction action = some (reaction, after) ∧ Legal after ∧
      (reaction = .any ∨ reaction = .warnClient) := by
  cases legal with
  | fresh | started =>
    rcases user with rfl | rfl | rfl
    · exact ⟨_, _, rfl, .authorizing home_start, .inl rfl⟩
    all_goals exact ⟨_, _, rfl, .started, .inr rfl⟩
  | authorizing home =>
    rcases user with rfl | rfl | rfl
    · exact ⟨_, _, rfl, .requested, .inl rfl⟩
    all_goals exact ⟨_, _, rfl, .authorizing home_auth, .inr rfl⟩
  | requested =>
    rcases user with rfl | rfl | rfl
    all_goals exact ⟨_, _, rfl, .authorizing home_auth, .inr rfl⟩
  | refused =>
    rcases user with rfl | rfl | rfl
    · exact ⟨_, _, rfl, .authorizing home_auth, .inl rfl⟩
    all_goals exact ⟨_, _, rfl, .authorizing home_auth, .inr rfl⟩
  | opened home =>
    rcases user with rfl | rfl | rfl
    · exact ⟨_, _, rfl, .opened home_opened, .inr rfl⟩
    all_goals exact ⟨_, _, rfl, .opened home_opened, .inl rfl⟩
  | faulted home | closing home =>
    rcases user with rfl | rfl | rfl
    all_goals exact ⟨_, _, rfl, .resume home, .inr rfl⟩

/-- A server action is allowed or a protocol error, and the machine stays legal. -/
theorem Legal.server (legal : Legal fsm) (server : ServerAction action) :
    ∃ reaction after, fsm.validateAction action = some (reaction, after) ∧ Legal after ∧
      (reaction = .any ∨ reaction = .errorUser) := by
  cases legal with
  | fresh | started =>
    rcases server with rfl | rfl | rfl | rfl
    all_goals exact ⟨_, _, rfl, .faulted home_start, .inr rfl⟩
  | authorizing home =>
    rcases server with rfl | rfl | rfl | rfl
    · exact ⟨_, _, rfl, .faulted home_auth, .inr rfl⟩
    · exact ⟨_, _, rfl, .opened home_auth, .inl rfl⟩
    · exact ⟨_, _, rfl, .refused, .inl rfl⟩
    · exact ⟨_, _, rfl, .closing home_auth, .inl rfl⟩
  | requested =>
    rcases server with rfl | rfl | rfl | rfl
    · exact ⟨_, _, rfl, .faulted home_auth, .inr rfl⟩
    all_goals exact ⟨_, _, rfl, .authorizing home_auth, .inl rfl⟩
  | refused =>
    rcases server with rfl | rfl | rfl | rfl
    all_goals exact ⟨_, _, rfl, .faulted home_auth, .inr rfl⟩
  | opened home =>
    rcases server with rfl | rfl | rfl | rfl
    · exact ⟨_, _, rfl, .opened home_opened, .inl rfl⟩
    · exact ⟨_, _, rfl, .opened home_opened, .inl rfl⟩
    · exact ⟨_, _, rfl, .opened home_opened, .inl rfl⟩
    · exact ⟨_, _, rfl, .closing home_opened, .inl rfl⟩
  | faulted home | closing home =>
    rcases server with rfl | rfl | rfl | rfl
    all_goals exact ⟨_, _, rfl, .faulted home, .inr rfl⟩

/-- The machine was left alone, or asked about one action of a kind. -/
def Consulted (kind : Action → Prop) (fsm after : FSMValidate) : Prop :=
  after = fsm ∨ ∃ action reaction, kind action ∧ fsm.validateAction action = some (reaction, after)

theorem Consulted.same {kind : Action → Prop} : Consulted kind fsm fsm := .inl rfl

theorem Legal.consulted_user (legal : Legal fsm) (consulted : Consulted UserAction fsm after) :
    Legal after := by
  rcases consulted with rfl | ⟨action, reaction, user, asked⟩
  · exact legal
  · obtain ⟨_, _, answer, kept, -⟩ := legal.user user
    cases asked.symm.trans answer
    exact kept

theorem Legal.consulted_server (legal : Legal fsm) (consulted : Consulted ServerAction fsm after) :
    Legal after := by
  rcases consulted with rfl | ⟨action, reaction, server, asked⟩
  · exact legal
  · obtain ⟨_, _, answer, kept, -⟩ := legal.server server
    cases asked.symm.trans answer
    exact kept

/-! ## What is accepted -/

/-- The server actions a REPLY or an ERR asks about. -/
def AnswerAction (action : Action) : Prop :=
  action = .replyServer ∨ action = .nreplyServer ∨ action = .errorServer

/-- The states in which an answer is accepted: OPEN, and AUTH unless a negative
reply sent the user back to `/auth`. -/
def Answerable (fsm : FSMValidate) : Prop :=
  fsm.currentState = .opened ∨
    (fsm.currentState = .auth ∧ fsm.expectedAction ≠ [.authorizeUser])

instance : Decidable (Answerable fsm) := by
  unfold Answerable
  infer_instance

/-- The accepted answers. Only an answer accepted through the switch can move
`currentState`; one accepted because it is listed in `expectedAction` cannot. -/
inductive Answered : FSMValidate → Action → FSMValidate → Prop where
  | opens {previous : State} (home : Home previous) :
      Answered ⟨.auth, some previous, [.any]⟩ .replyServer ⟨.opened, some .auth, [.any]⟩
  | refuses {previous : State} (home : Home previous) :
      Answered ⟨.auth, some previous, [.any]⟩ .nreplyServer ⟨.auth, some .auth, [.authorizeUser]⟩
  | breaks {previous : State} (home : Home previous) :
      Answered ⟨.auth, some previous, [.any]⟩ .errorServer ⟨.ended, some .auth, [.byeUser]⟩
  | listed {action : Action} (answer : AnswerAction action) :
      Answered ⟨.auth, some .auth, answers⟩ action ⟨.auth, some .auth, [.any]⟩
  | keeps {previous : State} {action : Action} (home : Home previous)
      (reply : action = .replyServer ∨ action = .nreplyServer) :
      Answered ⟨.opened, some previous, [.any]⟩ action ⟨.opened, some .opened, [.any]⟩
  | leaves {previous : State} (home : Home previous) :
      Answered ⟨.opened, some previous, [.any]⟩ .errorServer ⟨.ended, some .opened, [.byeUser]⟩

/-- A legal machine accepts an answer in these cases only. -/
theorem Legal.answered (legal : Legal fsm) (answer : AnswerAction action)
    (asked : fsm.validateAction action = some (.any, after)) : Answered fsm action after := by
  cases legal with
  | fresh | started | refused => rcases answer with rfl | rfl | rfl <;> cases asked
  | faulted home | closing home => rcases answer with rfl | rfl | rfl <;> cases asked
  | authorizing home =>
    rcases answer with rfl | rfl | rfl <;> cases asked
    · exact .opens home
    · exact .refuses home
    · exact .breaks home
  | requested =>
    have listed := Answered.listed answer
    rcases answer with rfl | rfl | rfl <;> cases asked <;> exact listed
  | opened home =>
    rcases answer with rfl | rfl | rfl <;> cases asked
    · exact .keeps home (.inl rfl)
    · exact .keeps home (.inr rfl)
    · exact .leaves home

/-- OPEN takes replies and stays. -/
theorem validateAction_opened {previous : Option State}
    (reply : action = .replyServer ∨ action = .nreplyServer) :
    validateAction ⟨.opened, previous, [.any]⟩ action =
      some (.any, ⟨.opened, some .opened, [.any]⟩) := by
  rcases reply with rfl | rfl <;> rfl

theorem Answered.answerable (answered : Answered fsm action after) : Answerable fsm := by
  cases answered with
  | opens | refuses | breaks | listed => exact .inr ⟨rfl, by simp⟩
  | keeps | leaves => exact .inl rfl

/-- In an answerable state every answer is accepted. -/
theorem Legal.accepts_answer (legal : Legal fsm) (answerable : Answerable fsm)
    (answer : AnswerAction action) :
    ∃ after, fsm.validateAction action = some (.any, after) := by
  cases legal with
  | fresh | started | faulted | closing => simp [Answerable] at answerable
  | refused => simp [Answerable] at answerable
  | authorizing | requested | opened => rcases answer with rfl | rfl | rfl <;> exact ⟨_, rfl⟩

/-- A legal machine accepts a message, a join or a text only in OPEN, and stays
there. -/
theorem Legal.spoken (legal : Legal fsm)
    (spoken : action = .messageServer ∨ action = .joinUser ∨ action = .messageUser)
    (asked : fsm.validateAction action = some (.any, after)) :
    fsm.currentState = .opened ∧ fsm.expectedAction = [.any] ∧
      after = ⟨.opened, some .opened, [.any]⟩ := by
  cases legal with
  | opened home => rcases spoken with rfl | rfl | rfl <;> cases asked <;> exact ⟨rfl, rfl, rfl⟩
  | fresh | started | requested | refused => rcases spoken with rfl | rfl | rfl <;> cases asked
  | authorizing home | faulted home | closing home =>
    rcases spoken with rfl | rfl | rfl <;> cases asked

/-- In OPEN a message, a join or a text is accepted. -/
theorem Legal.accepts_spoken (legal : Legal fsm) (opened : fsm.currentState = .opened)
    (spoken : action = .messageServer ∨ action = .joinUser ∨ action = .messageUser) :
    fsm.validateAction action = some (.any, ⟨.opened, some .opened, [.any]⟩) := by
  cases legal with
  | opened => rcases spoken with rfl | rfl | rfl <;> rfl
  | fresh | started | requested | refused | authorizing | faulted | closing => cases opened

/-- OPEN is the current state, or the one an error falls back to. -/
def Opened (fsm : FSMValidate) : Prop :=
  fsm.currentState = .opened ∨ fsm.previousState = some .opened

/-- Only an accepted positive reply in AUTH opens the machine. -/
theorem Legal.opened_by_reply (legal : Legal fsm) (either : UserAction action ∨ ServerAction action)
    (asked : fsm.validateAction action = some (reaction, after)) (opened : Opened after) :
    Opened fsm ∨ (action = .replyServer ∧ reaction = .any ∧ fsm.currentState = .auth ∧
      fsm.expectedAction = [.any]) := by
  cases legal with
  | opened => exact .inl (.inl rfl)
  | faulted | closing =>
    rcases either with (rfl | rfl | rfl) | (rfl | rfl | rfl | rfl) <;> cases asked <;>
      exact .inl (.inr (by simpa [Opened] using opened))
  | fresh | started | requested | refused =>
    rcases either with (rfl | rfl | rfl) | (rfl | rfl | rfl | rfl) <;> cases asked <;>
      simp [Opened] at opened
  | authorizing =>
    rcases either with (rfl | rfl | rfl) | (rfl | rfl | rfl | rfl) <;> cases asked <;>
      simp [Opened] at opened ⊢

/-! ## Beyond the end of a session -/

/-- A legal machine, or one that took a BYE from the server. -/
def Settled (fsm : FSMValidate) : Prop :=
  Legal fsm ∨ ∃ previous, fsm = ⟨.ended, some previous, [.any]⟩

/-- The server actions of the TCP handler, which also asks about a BYE. -/
def LineAction (action : Action) : Prop := ServerAction action ∨ action = .byeServer

/-- A line is accepted or a protocol error, and the machine stays legal unless it
accepts a BYE. -/
theorem Legal.line (legal : Legal fsm) (line : LineAction action) :
    ∃ reaction after, fsm.validateAction action = some (reaction, after) ∧
      (reaction = .any ∨ reaction = .errorUser) ∧
      ((action = .byeServer ∧ reaction = .any) ∨ Legal after) := by
  rcases line with server | rfl
  · obtain ⟨reaction, after, asked, kept, decided⟩ := legal.server server
    exact ⟨reaction, after, asked, decided, .inr kept⟩
  · cases legal with
    | fresh | started => exact ⟨_, _, rfl, .inr rfl, .inr (.faulted home_start)⟩
    | authorizing | requested | refused => exact ⟨_, _, rfl, .inr rfl, .inr (.faulted home_auth)⟩
    | opened => exact ⟨_, _, rfl, .inl rfl, .inl ⟨rfl, rfl⟩⟩
    | faulted home | closing home => exact ⟨_, _, rfl, .inr rfl, .inr (.faulted home)⟩

/-- A legal machine agrees to what the server does, or refuses it. -/
theorem Legal.decided (legal : Legal fsm) (line : LineAction action)
    (asked : fsm.validateAction action = some (reaction, after)) :
    ¬ (reaction ≠ .any ∧ reaction ≠ .errorUser) := by
  obtain ⟨_, _, answer, decided, -⟩ := legal.line line
  cases asked.symm.trans answer
  rintro ⟨disagrees, allows⟩
  exact decided.elim disagrees allows

/-- No action is undefined for a settled machine, which stays settled. -/
theorem Settled.defined (settled : Settled fsm) (either : UserAction action ∨ LineAction action) :
    ∃ reaction after, fsm.validateAction action = some (reaction, after) ∧ Settled after := by
  rcases settled with legal | ⟨previous, rfl⟩
  · rcases either with user | server | rfl
    · obtain ⟨reaction, after, asked, kept, -⟩ := legal.user user
      exact ⟨reaction, after, asked, .inl kept⟩
    · obtain ⟨reaction, after, asked, kept, -⟩ := legal.server server
      exact ⟨reaction, after, asked, .inl kept⟩
    · cases legal with
      | fresh | started => exact ⟨_, _, rfl, .inl (.faulted home_start)⟩
      | authorizing | requested | refused => exact ⟨_, _, rfl, .inl (.faulted home_auth)⟩
      | opened => exact ⟨_, _, rfl, .inr ⟨_, rfl⟩⟩
      | faulted home | closing home => exact ⟨_, _, rfl, .inl (.faulted home)⟩
  · exact ⟨.over, ⟨.ended, some .ended, [.any]⟩, by cases action <;> rfl, .inr ⟨_, rfl⟩⟩

/-- A machine consulted about what the handlers ask stays settled. -/
theorem Settled.consulted {kind : Action → Prop} (settled : Settled fsm)
    (asks : ∀ {action}, kind action → UserAction action ∨ LineAction action)
    (consulted : Consulted kind fsm after) : Settled after := by
  rcases consulted with rfl | ⟨action, reaction, kind, asked⟩
  · exact settled
  · obtain ⟨_, _, answer, kept⟩ := settled.defined (asks kind)
    cases asked.symm.trans answer
    exact kept

end FSMValidate

end ChatClient
