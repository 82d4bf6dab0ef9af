import ChatClient.Authentication
import ChatClient.TCPGating

/-! Who may speak over TCP. The machine goes to OPEN with the first positive reply
it accepts in AUTH, and a rejected `/auth` takes it to AUTH already; so a reply
that answers nothing can open the session before any AUTH was sent. Otherwise
everything the client says in the session follows an AUTH and its reply. -/

namespace ChatClient

open Transition FSMValidate TCPMessageValidator TCPProtocolHandler

variable {retries : UInt8} {history : List TCPTurn} {turn : TCPTurn}
  {loop after : StreamHandler TCPClient} {event : Event Recv} {report : Report Recv}
  {h : TCPProtocolHandler} {line : Bytes} {outcome : Outcome TCPProtocolHandler}

/-! ## What was sent and taken -/

/-- A line the user has the client send, or a line it takes from the server. -/
inductive Move where
  | sends (line : Bytes)
  | takes (handed : Handed)

/-- What a turn sends or takes, in order. -/
def moves (turn : TCPTurn) : List Move :=
  match turn.output.call with
  | .processUserInput _ => (sent turn.output.effects).map .sends
  | _ => (handedIn turn).map .takes

/-- What the turns of a history send and take, in order. -/
def movesOf (history : List TCPTurn) : List Move := history.flatMap moves

private theorem movesOf_snoc : movesOf (history ++ [turn]) = movesOf history ++ moves turn := by
  simp [movesOf]

/-- The replies a move displays. -/
def Move.replies : Move → List Bytes
  | .sends _ => []
  | .takes handed => shownReplies handed.outcome.effects

/-- An AUTH line. -/
def isAuth (m : Bytes) : Bool := (text "AUTH ").isPrefixOf m

/-- An AUTH line was sent that no displayed reply has answered. -/
def AuthPending (done : List Move) : Prop :=
  ∃ before auth between, done = before ++ .sends auth :: between ∧ isAuth auth = true ∧
    ∀ move ∈ between, move.replies = []

/-- A positive REPLY line was taken while an AUTH sent before it was unanswered. -/
def TCPAuthenticated (done : List Move) : Prop :=
  ∃ before handed later content, done = before ++ .takes handed :: later ∧ AuthPending before ∧
    PositiveReply handed.line content ∧ handed.before.waitingForReply = true

/-- A MSG or a JOIN line. -/
def isSpeech (m : Bytes) : Bool := (text "MSG ").isPrefixOf m || (text "JOIN ").isPrefixOf m

/-- The line names the client so. -/
def Introduces (dname m : Bytes) : Prop :=
  (∃ content, m = text "MSG FROM " ++ dname ++ text " IS " ++ content ++ crlf) ∨
    ∃ channel, m = text "JOIN " ++ channel ++ text " AS " ++ dname ++ crlf

/-- Every MSG and JOIN line that is sent follows an AUTH line and its positive reply,
and carries a display name that is not empty. -/
structure SpeaksAuthenticated (before : List TCPTurn) (turn : TCPTurn) : Prop where
  authenticated : ∀ m ∈ sent turn.output.effects, isSpeech m = true →
    TCPAuthenticated (movesOf before)
  named : ∀ m ∈ sent turn.output.effects, isSpeech m = true →
    turn.before.protocolHandler.handler.messageValidator.displayName ≠ [] ∧
      Introduces turn.before.protocolHandler.handler.messageValidator.displayName m

/-- Before the client is authenticated, the machine takes a positive reply in AUTH
that nothing waits for. -/
def UnaskedOpening (before : List TCPTurn) (turn : TCPTurn) : Prop :=
  ∃ earlier handed later content, handedIn turn = earlier ++ handed :: later ∧
    PositiveReply handed.line content ∧ handed.before.waitingForReply = false ∧
    handed.before.fsm.currentState = .auth ∧ handed.before.fsm.expectedAction = [.any] ∧
    ¬ TCPAuthenticated (movesOf before ++ earlier.map .takes)

variable {done more : List Move}

theorem AuthPending.append (pending : AuthPending done)
    (quiet : ∀ move ∈ more, move.replies = []) : AuthPending (done ++ more) := by
  obtain ⟨before, auth, between, rfl, kind, silent⟩ := pending
  refine ⟨before, auth, between ++ more, by simp, kind, fun move member => ?_⟩
  rcases List.mem_append.mp member with first | last
  · exact silent move first
  · exact quiet move last

theorem TCPAuthenticated.append (authenticated : TCPAuthenticated done) : TCPAuthenticated
    (done ++ more) := by
  obtain ⟨before, handed, later, content, rfl, rest⟩ := authenticated
  exact ⟨before, handed, later ++ more, content, by simp, rest⟩

/-- An AUTH line was sent. -/
def AuthSent (done : List Move) : Prop := ∃ auth, .sends auth ∈ done ∧ isAuth auth = true

private theorem TCPAuthenticated.authSent (authenticated : TCPAuthenticated done) :
    AuthSent done := by
  obtain ⟨_, _, _, _, rfl, ⟨before, auth, between, rfl, kind, -⟩, -⟩ := authenticated
  exact ⟨auth, by simp, kind⟩

/-! ## One line -/

/-- What the handler's fields rest on. -/
structure Grounded (done : List Move) (h : TCPProtocolHandler) : Prop where
  opened : Opened h.fsm → TCPAuthenticated done
  named : AuthSent done → h.messageValidator.displayName ≠ []
  asked : h.waitingForReply = true → TCPAuthenticated done ∨ AuthPending done

/-- A line from the server opens the machine only by a positive reply in AUTH. -/
theorem TCPProtocolHandler.Receipt.opens (receipt : Receipt h line outcome) (legal : h.fsm.Legal)
    (goes : outcome.returned ≠ some .over) (opened : Opened outcome.handler.fsm) :
    Opened h.fsm ∨ ((∃ content, PositiveReply line content) ∧ h.fsm.currentState = .auth ∧
      h.fsm.expectedAction = [.any]) := by
  cases receipt with
  | shown names asked =>
    rcases legal.opened_by_reply (.inr (.inl rfl)) asked opened with before | ⟨reply, -⟩
    · exact .inl before
    · cases reply
  | reply reply asked valid | ignored reply asked valid =>
    cases reply with
    | positive command ok =>
      rcases legal.opened_by_reply (.inr (.inr (.inl rfl))) asked opened with
        before | ⟨-, -, auth, plain⟩
      · exact .inl before
      · exact .inr ⟨⟨_, command, ok, valid⟩, auth, plain⟩
    | negative =>
      rcases legal.opened_by_reply (.inr (.inr (.inr (.inl rfl)))) asked opened with
        before | ⟨reply, -⟩
      · exact .inl before
      · cases reply
  | undecided names asked neither =>
    exact absurd neither (legal.decided names.lineAction asked)
  | nameless => exact .inl opened
  | errorShown | bye | failed | unknown => exact absurd rfl goes

/-- A line from the server that does not end the session leaves the fields grounded,
unless it opens the machine unasked. -/
theorem Grounded.take (grounded : Grounded done h) (legal : h.fsm.Legal)
    (receipt : Receipt h line outcome) (goes : outcome.returned ≠ some .over)
    (asked : ∀ content, PositiveReply line content → h.waitingForReply = false →
      h.fsm.currentState = .auth → h.fsm.expectedAction = [.any] → TCPAuthenticated done) :
    Grounded (done ++ [.takes ⟨h, line, outcome⟩]) outcome.handler := by
  refine ⟨fun opened => ?_, fun sent => ?_, fun waits => ?_⟩
  · rcases receipt.opens legal goes opened with before | ⟨⟨content, reply⟩, auth, plain⟩
    · exact (grounded.opened before).append
    · cases flag : h.waitingForReply with
      | false => exact (asked content reply flag auth plain).append
      | true =>
        rcases grounded.asked flag with authenticated | pending
        · exact authenticated.append
        · exact ⟨done, ⟨h, line, outcome⟩, [], content, rfl, pending, reply, flag⟩
  · obtain ⟨auth, member, kind⟩ := sent
    rw [receipt.validator]
    exact grounded.named ⟨auth, by simpa using member, kind⟩
  · have count := receipt.book.2
    rw [if_pos waits] at count
    have waited : h.waitingForReply = true := by
      by_contra idle
      simp [idle] at count
    rw [if_pos waited, Nat.add_eq_right, List.length_eq_zero_iff] at count
    refine (grounded.asked waited).imp TCPAuthenticated.append fun pending => ?_
    exact pending.append (by simpa [Move.replies] using count)

/-- What a line of the user has the client say. -/
inductive Utterance (h : TCPProtocolHandler) (outcome : Outcome TCPProtocolHandler) : Prop where
  /-- An AUTH, with the display name it brings. -/
  | auth {m : Bytes} (sends : sent outcome.effects = [m]) (kind : isAuth m = true)
      (silent : isSpeech m = false) (named : outcome.handler.messageValidator.displayName ≠ [])
  /-- A JOIN or a MSG, in an open session. -/
  | speech {m : Bytes} (sends : sent outcome.effects = [m]) (other : isAuth m = false)
      (opened : Opened h.fsm) (introduces : Introduces h.messageValidator.displayName m)
      (kept : outcome.handler.messageValidator = h.messageValidator)
  /-- A BYE or nothing. -/
  | other (silent : ∀ m ∈ sent outcome.effects, isAuth m = false ∧ isSpeech m = false)
      (named : outcome.handler.messageValidator = h.messageValidator ∨
        outcome.handler.messageValidator.displayName ≠ [])
      (waits : outcome.handler.waitingForReply = h.waitingForReply)

private theorem filled_of_validateDname {dname : Bytes} (valid : validateDname dname = true) :
    dname ≠ [] :=
  (checkField_iff.mp valid).1

private theorem TCPProtocolHandler.Command.utterance (command : Command h line outcome)
    (legal : h.fsm.Legal) : Utterance h outcome := by
  cases command with
  | requested _ accepted asked =>
    cases accepted with
    | auth valid =>
      obtain ⟨_, _, _, validName, rfl, rfl⟩ := authorizeValidate_eq valid
      exact .auth rfl rfl rfl (filled_of_validateDname validName)
    | join valid =>
      obtain ⟨channel, rfl⟩ := joinValidate_eq valid
      exact .speech rfl rfl (.inl (legal.spoken (.inr (.inl rfl)) asked).1) (.inr ⟨channel, rfl⟩) rfl
  | spoken _ asked valid =>
    obtain ⟨-, rfl⟩ := messageValidate_eq valid
    exact .speech rfl rfl (.inl (legal.spoken (.inr (.inr rfl)) asked).1) (.inl ⟨line, rfl⟩) rfl
  | renamed _ valid =>
    obtain ⟨validName, name⟩ := rename_eq valid
    exact .other (by simp) (.inr (name ▸ filled_of_validateDname validName)) rfl
  | exit =>
    refine .other (fun m member => ?_) (.inl rfl) rfl
    rw [List.mem_singleton.mp member]
    exact ⟨rfl, rfl⟩
  | rejected | helped | undecided => exact .other (by simp [reject, sent, Effect.sent]) (.inl rfl) rfl

/-- A line the user types does not open the machine. -/
theorem TCPProtocolHandler.Command.opens (command : Command h line outcome) (legal : h.fsm.Legal)
    (opened : Opened outcome.handler.fsm) : Opened h.fsm := by
  rcases command.consulted with same | ⟨action, reaction, user, asked⟩
  · rwa [same] at opened
  · rcases legal.opened_by_reply (.inl user) asked opened with before | ⟨rfl, -⟩
    · exact before
    · rcases user with reply | reply | reply <;> cases reply

private theorem authSent_of_append {lines : List Bytes} (others : ∀ m ∈ lines, isAuth m = false)
    (sent : AuthSent (done ++ lines.map .sends)) : AuthSent done := by
  obtain ⟨auth, member, kind⟩ := sent
  rcases List.mem_append.mp member with before | now
  · exact ⟨auth, before, kind⟩
  · obtain ⟨m, said, same⟩ := List.mem_map.mp now
    cases same
    rw [others _ said] at kind
    cases kind

/-- A line the user types leaves the fields grounded. -/
theorem Grounded.command (grounded : Grounded done h) (legal : h.fsm.Legal)
    (command : Command h line outcome) :
    Grounded (done ++ (sent outcome.effects).map .sends) outcome.handler := by
  refine ⟨fun opened => (grounded.opened (command.opens legal opened)).append, ?_, ?_⟩
  · intro said
    cases command.utterance legal with
    | auth _ _ _ named => exact named
    | speech sends other _ _ kept =>
      rw [kept]
      exact grounded.named (authSent_of_append (by simp [sends, other]) said)
    | other silent named =>
      rcases named with kept | named
      · rw [kept]
        exact grounded.named (authSent_of_append (fun m member => (silent m member).1) said)
      · exact named
  · intro waits
    cases command.utterance legal with
    | auth sends kind => exact .inr ⟨done, _, [], by rw [sends]; rfl, kind, by simp⟩
    | speech _ _ opened => exact .inl (grounded.opened opened).append
    | other _ _ same =>
      refine (grounded.asked (same.symm.trans waits)).imp TCPAuthenticated.append fun pending => ?_
      refine pending.append fun move member => ?_
      obtain ⟨m, -, rfl⟩ := List.mem_map.mp member
      rfl

/-- From grounded fields a JOIN or a MSG is sent only after authentication, and with
a name. -/
theorem Grounded.speech (grounded : Grounded done h) (legal : h.fsm.Legal)
    (command : Command h line outcome) {m : Bytes} (member : m ∈ sent outcome.effects)
    (speech : isSpeech m = true) : TCPAuthenticated done ∧ h.messageValidator.displayName ≠ [] ∧
      Introduces h.messageValidator.displayName m := by
  cases command.utterance legal with
  | auth sends _ silent =>
    rw [sends] at member
    rw [List.mem_singleton.mp member, silent] at speech
    cases speech
  | speech sends _ opened introduces =>
    rw [sends] at member
    rw [List.mem_singleton.mp member]
    have authenticated := grounded.opened opened
    exact ⟨authenticated, grounded.named authenticated.authSent, introduces⟩
  | other silent =>
    rw [(silent m member).2] at speech
    cases speech

/-! ## Runs -/

/-- What a line from the server makes the client send is no speech. -/
theorem TCPProtocolHandler.Receipt.silent (receipt : Receipt h line outcome) :
    ∀ m ∈ sent outcome.effects, isSpeech m = false := by
  intro m member
  cases receipt with
  | failed =>
    simp only [failWith, sent_send, sent_nil, List.mem_cons, List.not_mem_nil, or_false,
      List.append_assoc] at member
    rcases member with rfl | rfl <;> rfl
  | unknown =>
    simp only [processUnknown, formErrorMessage, List.append_assoc] at member
    rcases List.mem_cons.mp member with rfl | last
    · rfl
    · rw [List.mem_singleton.mp last]
      rfl
  | errorShown =>
    rw [List.mem_singleton.mp member]
    rfl
  | reply reply =>
    cases reply <;> cases member
  | shown | ignored | bye | undecided | nameless => cases member

/-- The lines of a call that does not end the session leave the fields grounded. -/
theorem Grounded.burst {lines : List Bytes} (grounded : Grounded done h) (legal : h.fsm.Legal)
    (goes : ∀ handed ∈ (lineServer.burst h lines).1, handed.state ≠ .over)
    (asked : ∀ earlier handed later content,
      (lineServer.burst h lines).1 = earlier ++ handed :: later → PositiveReply handed.line content →
      handed.before.waitingForReply = false → handed.before.fsm.currentState = .auth →
      handed.before.fsm.expectedAction = [.any] → TCPAuthenticated (done ++ earlier.map .takes)) :
    Grounded (done ++ (lineServer.burst h lines).1.map .takes)
      (lineServer.reached h (lineServer.burst h lines).1) := by
  refine burst_induction (Q := fun h handed => ∀ done, Grounded done h → h.fsm.Legal →
    (∀ line ∈ handed, line.state ≠ .over) →
    (∀ earlier line later content, handed = earlier ++ line :: later →
      PositiveReply line.line content → line.before.waitingForReply = false →
      line.before.fsm.currentState = .auth → line.before.fsm.expectedAction = [.any] →
      TCPAuthenticated (done ++ earlier.map .takes)) →
    Grounded (done ++ handed.map .takes) (lineServer.reached h handed)) (.inl legal) ?_ ?_
    done grounded legal goes asked
  · intro h done grounded _ _ _
    simpa using grounded
  · intro h line outcome rest _ receipt ih done grounded legal goes asked
    have open' : outcome.returned ≠ some .over := fun ended =>
      goes _ (.head _) (by simp [Handed.state, ended])
    have taken := grounded.take legal receipt open' fun content reply idle auth plain => by
      simpa using asked [] _ rest content rfl reply idle auth plain
    have whole := ih _ taken (receipt.legal legal open') (fun line member => goes line (.tail _ member))
      fun earlier handed later content shape reply idle auth plain => by
        simpa using asked (⟨h, line, outcome⟩ :: earlier) handed later content (by rw [shape]; rfl)
          reply idle auth plain
    rw [Service.Server.reached_cons]
    simpa using whole

/-- From grounded fields every turn speaks only when authenticated. -/
theorem Grounded.speaks (grounded : Grounded (movesOf history) loop.protocolHandler.handler)
    (legal : loop.protocolHandler.handler.fsm.Legal)
    (ran : loop.iterate event = some (report, after)) :
    SpeaksAuthenticated history ⟨loop, event, report, after⟩ := by
  have settled : Settled loop.protocolHandler.handler.fsm := .inl legal
  have quiet (silent : ∀ m ∈ sent report.effects, isSpeech m = false) :
      SpeaksAuthenticated history ⟨loop, event, report, after⟩ :=
    ⟨fun m member speech => absurd speech (by simp [silent m member]),
      fun m member speech => absurd speech (by simp [silent m member])⟩
  obtain ⟨-, iteration⟩ := tcpIteration_of_iterate settled ran
  cases iteration with
  | @lines errors chunk handed client _ hands taken =>
    apply quiet
    intro m member
    simp only [sent, List.mem_filterMap, List.mem_append, List.mem_flatMap] at member
    obtain ⟨effect, failed | ⟨line, among, shown⟩, puts⟩ := member
    · rw [List.eq_of_mem_replicate failed] at puts
      cases puts
    · have ran := (taken.mem settled line among).2
      exact (receipt_of_processReceived ran).silent m (List.mem_filterMap.mpr ⟨effect, shown, puts⟩)
  | closed =>
    apply quiet
    simp [sent, Effect.sent]
  | command called =>
    have command := command_of_processUserInput called
    exact ⟨fun m member speech => (grounded.speech legal command member speech).1,
      fun m member speech => (grounded.speech legal command member speech).2⟩
  | idle _ silent =>
    apply quiet
    rcases silent with rfl | rfl <;> simp [sent, Effect.sent]

/-- A turn without an unasked opening leaves the fields grounded while the session
goes on. -/
theorem Grounded.step (grounded : Grounded (movesOf history) loop.protocolHandler.handler)
    (legal : loop.protocolHandler.handler.fsm.Legal)
    (ran : loop.iterate event = some (report, after))
    (asked : ¬ UnaskedOpening history ⟨loop, event, report, after⟩) (goes : after.state ≠ .over) :
    Grounded (movesOf (history ++ [⟨loop, event, report, after⟩])) after.protocolHandler.handler := by
  rw [movesOf_snoc]
  obtain ⟨-, iteration⟩ := tcpIteration_of_iterate (.inl legal) ran
  cases iteration with
  | @lines errors chunk handed client _ hands taken handler state =>
    rw [state] at goes
    have goes := taken.goes goes
    have shape := @handedIn_lines _ loop after (.poll (.socket ⟨errors, some chunk⟩)) errors chunk _ _
      (List.replicate errors (.perror (text "recv")) ++ handed.flatMap fun line => line.outcome.effects)
      (some ((handed.getLast?.map Handed.state).getD .readyForInput)) hands
    simp only [moves, shape, handler, taken.handler]
    rw [taken.lines] at goes ⊢
    refine grounded.burst legal goes fun earlier line later content split reply idle auth plain => ?_
    by_contra unknown
    exact asked ⟨earlier, line, later, content, shape.trans (taken.lines.trans split), reply, idle, auth,
      plain, unknown⟩
  | closed _ state => exact absurd state goes
  | command called _ handler =>
    rw [handler]
    exact grounded.command legal (command_of_processUserInput called)
  | idle calls _ handler =>
    rw [handler]
    rcases calls with rfl | rfl <;> simpa [moves, handedIn] using grounded

/-- The fields are grounded all along a run without an unasked opening. -/
theorem tcpRun_grounded (run : TCPRun retries history loop)
    (asked : Throughout (fun before turn => ¬ UnaskedOpening before turn) history)
    (goes : loop.state ≠ .over) : Grounded (movesOf history) loop.protocolHandler.handler := by
  refine run.invariant_of_throughout (I := fun history loop => loop.state ≠ .over →
    Grounded (movesOf history) loop.protocolHandler.handler) asked (fun _ => ?_) ?_ goes
  · exact ⟨by simp [Opened, StreamHandler.start], by simp [AuthSent, movesOf],
      by simp [StreamHandler.start]⟩
  · intro _ loop _ _ _ before grounded ran asked goes
    have open' := (tcpIteration_of_iterate (tcpRun_settled before) ran).1
    exact (grounded open').step (tcpRun_legal before open') ran asked goes

/-- All along every run without an unasked opening, each MSG or JOIN line follows an
AUTH line and a positive REPLY line that was taken while that AUTH was unanswered,
and carries a display name. -/
theorem speaksAuthenticated_of_no_unaskedOpening (run : TCPRun retries history loop)
    (asked : Throughout (fun before turn => ¬ UnaskedOpening before turn) history) :
    Throughout SpeaksAuthenticated history :=
  run.throughout_of_throughout asked fun before ran earlier _ =>
    have goes := (tcpIteration_of_iterate (tcpRun_settled before) ran).1
    (tcpRun_grounded before earlier goes).speaks (tcpRun_legal before goes) ran

private theorem not_unaskedOpening
    (waits : ∀ handed ∈ handedIn turn, handed.before.waitingForReply = true) :
    ¬ UnaskedOpening history turn := by
  rintro ⟨earlier, handed, later, content, shape, -, idle, -⟩
  have waited := waits handed (by simp [shape])
  rw [idle] at waited
  cases waited

/-- An AUTH, its reply, a MSG and a JOIN. -/
theorem speaksAuthenticated_of_no_unaskedOpening_join : ∃ history loop, TCPRun 3 history loop ∧
    history.flatMap (fun turn => sent turn.output.effects) = [text "AUTH a AS c USING b\r\n",
      text "MSG FROM c IS hi\r\n", text "JOIN d AS c\r\n"] ∧
    Throughout SpeaksAuthenticated history := by
  have ran : tcpSample [enters "/auth a b c", streams (piece "REPLY OK IS hi\r\n"), enters "hi",
    enters "/join d"] = some (_, _) := rfl
  refine ⟨_, _, Run.of_exec ran, by decide,
    speaksAuthenticated_of_no_unaskedOpening (Run.of_exec ran) ?_⟩
  intro before turn later shape
  have waits : ∀ done ∈ before ++ turn :: later, ∀ handed ∈ handedIn done,
      handed.before.waitingForReply = true := by
    rw [← shape]
    decide
  exact not_unaskedOpening (waits turn (by simp))

/-- A reply that answers nothing, after an `/auth` that was turned down, has the
client speak without a name. -/
theorem speaks_unauthenticated : ∃ history loop, TCPRun 3 history loop ∧
    ¬ Throughout SpeaksAuthenticated history ∧
    history.flatMap (fun turn => sent turn.output.effects) = [text "MSG FROM  IS hi\r\n"] := by
  have ran : tcpSample [enters "/auth x", streams (piece "REPLY OK IS hi\r\n"), enters "hi"] =
    some (_, _) := rfl
  refine ⟨_, _, Run.of_exec ran, fun speaks => ?_, by decide⟩
  exact ((speaks [_, _] _ [] rfl).named _ (List.mem_singleton.mpr rfl) rfl).1 rfl

end ChatClient
