import ChatClient.FSMReactions

/-! What a command that is turned down leaves behind.

A handler asks the state machine before it looks at the arguments, and takes the
machine the answer leaves whatever becomes of the command. So the handler's own
fields and the network see nothing of a rejected command, but the machine may have
moved: it stays where it is exactly when ANY was all that was expected and the
command is no `/auth` outside OPEN, or when the command asks nothing. -/

namespace ChatClient

open Transition FSMValidate

/-- The user is told that the line was turned down. -/
def TurnsDown (effects : List Effect) : Prop := ∃ reason, .internalErrorMessage reason ∈ effects

/-- The machine is where it was. `previousState` is not part of it: only the fallback
of the machine itself reads it. -/
def SamePlace (before after : FSMValidate) : Prop :=
  after.currentState = before.currentState ∧ after.expectedAction = before.expectedAction

/-- What the command asks about, if anything, leaves the machine in place. -/
def Steady (fsm : FSMValidate) (line : Bytes) : Prop :=
  ∀ action, askedByUser line = some action →
    fsm.expectedAction = [.any] ∧ (fsm.currentState = .opened ∨ action ≠ .authorizeUser)

variable {fsm after : FSMValidate} {action reaction : Action} {line reason : Bytes}

/-! ## The machine -/

/-- Whatever the answer to a user action through `expectedAction`, the machine
expects ANY afterwards. -/
theorem expected_of_user (user : UserAction action)
    (expecting : fsm.expectedAction ≠ [] ∧ fsm.expectedAction[0]? ≠ some .any)
    (asked : fsm.validateAction action = some (reaction, after)) : after.expectedAction = [.any] := by
  have source : getSource action = some .user := by
    rcases user with rfl | rfl | rfl <;> rfl
  rw [validateAction, if_pos expecting] at asked
  simp only [Option.bind_eq_bind, Option.bind_eq_some_iff, source, Option.bind_some] at asked
  obtain ⟨allowed, -, asked⟩ := asked
  split at asked
  · cases asked
    rfl
  · obtain ⟨previous, -, asked⟩ := Option.bind_eq_some_iff.mp asked
    cases asked
    rfl

/-- A user action the machine agrees to or warns about leaves it in place exactly when
ANY is expected and it is no `/auth` outside OPEN. -/
theorem samePlace_iff (user : UserAction action)
    (asked : fsm.validateAction action = some (reaction, after))
    (decided : reaction = .any ∨ reaction = .warnClient) :
    SamePlace fsm after ↔
      fsm.expectedAction = [.any] ∧ (fsm.currentState = .opened ∨ action ≠ .authorizeUser) := by
  by_cases expecting : fsm.expectedAction ≠ [] ∧ fsm.expectedAction[0]? ≠ some .any
  · have other : fsm.expectedAction ≠ [.any] := by
      intro any
      exact expecting.2 (by simp [any])
    have now := expected_of_user user expecting asked
    constructor
    · intro same
      exact absurd (same.2.symm.trans now) other
    · intro steady
      exact absurd steady.1 other
  · rw [validateAction, if_neg expecting] at asked
    obtain ⟨current, previous, expected⟩ := fsm
    cases current with
    | start =>
      rcases user with rfl | rfl | rfl
      all_goals
        cases asked
        simp [SamePlace, eq_comm]
    | auth =>
      rcases user with rfl | rfl | rfl
      · -- The second `/auth` is answered through other expectations, which differ from ANY.
        cases asked
        simp only [SamePlace, ne_eq, not_true_eq_false, or_false, reduceCtorEq, and_false, iff_false]
        rintro ⟨-, rfl⟩
        exact expecting (by simp)
      all_goals
        cases asked
        simp [SamePlace, eq_comm]
    | opened =>
      rcases user with rfl | rfl | rfl
      all_goals
        cases asked
        simp [SamePlace, eq_comm]
    | error => rcases user with rfl | rfl | rfl <;> cases asked
    | ended =>
      cases asked
      rcases decided with any | warned
      · cases any
      · cases warned

private theorem samePlace_iff_eq :
    SamePlace fsm after ↔ after = { fsm with previousState := after.previousState } := by
  constructor
  · rintro ⟨current, expected⟩
    rw [← current, ← expected]
  · intro same
    rw [same]
    exact ⟨rfl, rfl⟩

/-- A call that goes by the answer to its command leaves the machine in place exactly
when the command is steady, if no other answer than agreement and a warning fits. -/
theorem samePlace_iff_steady (goes : GoesBy fsm (askedByUser line) after)
    (decided : ∀ action reaction, askedByUser line = some action →
      fsm.validateAction action = some (reaction, after) →
        ¬ (reaction ≠ .any ∧ reaction ≠ .warnClient)) : SamePlace fsm after ↔ Steady fsm line := by
  cases asks : askedByUser line with
  | none =>
    rw [asks] at goes
    have still : after = fsm := goes
    rw [still]
    refine iff_of_true ⟨rfl, rfl⟩ fun action is => ?_
    cases asks.symm.trans is
  | some action =>
    rw [asks] at goes
    obtain ⟨reaction, asked⟩ := goes
    have decision : reaction = .any ∨ reaction = .warnClient := by
      by_contra neither
      exact decided action reaction asks asked (not_or.mp neither)
    rw [samePlace_iff (askedByUser_user _ asks) asked decision]
    constructor
    · intro steady other is
      cases asks.symm.trans is
      exact steady
    · intro steady
      exact steady action asks

/-! ## The handlers -/

private theorem ne_exit_of_asked (asks : askedByUser line = some action) : line ≠ text "/exit" := by
  intro exits
  rw [askedByUser, if_pos exits] at asks
  cases asks

private theorem dispatch_of_asked {H : Type} {outcome : Outcome H}
    {auth join rename help plain : Option (Outcome H)}
    (asks : askedByUser line = some action)
    (ran : (if commandOf line = text "/AUTH" then auth
      else if commandOf line = text "/JOIN" then join
      else if commandOf line = text "/RENAME" then rename
      else if commandOf line = text "/HELP" then help else plain) = some outcome) :
    (action = .authorizeUser ∧ auth = some outcome) ∨ (action = .joinUser ∧ join = some outcome) ∨
      (action = .messageUser ∧ line.head? ≠ some 0x2F ∧ plain = some outcome) := by
  have other := ne_exit_of_asked asks
  cases dispatched_of_eq ran with
  | auth command ran =>
    cases asks.symm.trans (askedByUser_auth other command)
    exact .inl ⟨rfl, ran⟩
  | join command ran =>
    cases asks.symm.trans (askedByUser_join other command)
    exact .inr (.inl ⟨rfl, ran⟩)
  | rename command => cases asks.symm.trans (askedByUser_local (.inl command))
  | help command => cases asks.symm.trans (askedByUser_local (.inr command))
  | plain noAuth noJoin noRename noHelp ran =>
    rw [askedByUser_plain other noAuth noJoin noRename noHelp] at asks
    split at asks
    · cases asks
    · rename_i plain
      exact .inr (.inr ⟨by simpa using asks.symm, plain, ran⟩)

section TCP
open TCPProtocolHandler
variable {h : TCPProtocolHandler} {outcome : Outcome TCPProtocolHandler}

/-- Nothing but the place the machine would fall back to has changed, and nothing is
sent. -/
structure TCPUntouched (h : TCPProtocolHandler) (outcome : Outcome TCPProtocolHandler) : Prop where
  handler : outcome.handler =
    { h with fsm := { h.fsm with previousState := outcome.handler.fsm.previousState } }
  silent : sent outcome.effects = []

private theorem tcp_rejected (ran : h.processUserInput line = some outcome)
    (rejects : TurnsDown outcome.effects) :
    ∃ reason, outcome = { h with fsm := outcome.handler.fsm }.reject reason := by
  obtain ⟨told, member⟩ := rejects
  cases command_of_processUserInput ran with
  | rejected => exact ⟨_, rfl⟩
  | exit | requested | spoken | renamed | helped | undecided => simp at member

private theorem tcp_undecided (asks : askedByUser line = some action)
    (asked : h.fsm.validateAction action = some (reaction, after))
    (neither : reaction ≠ .any ∧ reaction ≠ .warnClient)
    (ran : h.processUserInput line = some outcome) : outcome.effects = [] := by
  rw [TCPProtocolHandler.processUserInput, if_neg (ne_exit_of_asked asks)] at ran
  rcases dispatch_of_asked asks ran with ⟨rfl, auth⟩ | ⟨rfl, join⟩ | ⟨rfl, plain, spoken⟩
  · simp only [processAuth, asked, neither, Option.bind_eq_bind, Option.bind_some, ↓reduceIte] at auth
    cases auth
    rfl
  · simp only [processJoin, asked, neither, Option.bind_eq_bind, Option.bind_some, ↓reduceIte] at join
    cases join
    rfl
  · simp only [processText, plain, asked, neither, Option.bind_eq_bind, Option.bind_some,
      ↓reduceIte] at spoken
    cases spoken
    rfl

/-- A rejected line leaves everything as it was exactly when its command is steady. -/
theorem tcp_untouched_iff (ran : h.processUserInput line = some outcome)
    (rejects : TurnsDown outcome.effects) : TCPUntouched h outcome ↔ Steady h.fsm line := by
  have goes := tcp_processUserInput_asks ran
  have place : SamePlace h.fsm outcome.handler.fsm ↔ Steady h.fsm line := by
    apply samePlace_iff_steady goes
    intro action reaction asks asked neither
    obtain ⟨told, member⟩ := rejects
    rw [tcp_undecided asks asked neither ran] at member
    cases member
  rw [← place, samePlace_iff_eq]
  obtain ⟨reason, rejected⟩ := tcp_rejected ran rejects
  constructor
  · intro untouched
    exact congrArg TCPProtocolHandler.fsm untouched.handler
  · intro same
    rw [rejected]
    exact ⟨congrArg (fun machine : FSMValidate => { h with fsm := machine }) same, rfl⟩

end TCP

section UDP
open UDPProtocolHandler
variable {h : UDPProtocolHandler} {outcome : Outcome UDPProtocolHandler}

/-- Nothing but the place the machine would fall back to has changed, and nothing is
sent. -/
structure UDPUntouched (h : UDPProtocolHandler) (outcome : Outcome UDPProtocolHandler) : Prop where
  handler : outcome.handler =
    { h with fsm := { h.fsm with previousState := outcome.handler.fsm.previousState } }
  silent : sent outcome.effects = []

private theorem udp_rejected (ran : h.processUserInput line = some outcome)
    (rejects : TurnsDown outcome.effects) :
    ∃ reason, outcome = { h with fsm := outcome.handler.fsm }.reject reason := by
  obtain ⟨told, member⟩ := rejects
  cases command_of_processUserInput ran with
  | rejected => exact ⟨_, rfl⟩
  | deferred =>
    cases mem_sendErrorMessage member
  | exit | requested | spoken | renamed | helped | undecided => simp [sendRequest, sendMessage] at member

private theorem clear_of_rejects (ran : h.processUserInput line = some outcome)
    (rejects : TurnsDown outcome.effects) : h.errorWhileWaiting = false := by
  obtain ⟨told, member⟩ := rejects
  simp only [UDPProtocolHandler.processUserInput] at ran
  split at ran
  · cases ran
    simp [processExit, sendBye, sendMessage] at member
  split at ran
  · cases ran
    cases mem_sendErrorMessage member
  · rename_i clear
    simpa using clear

private theorem udp_undecided (clear : h.errorWhileWaiting = false)
    (asks : askedByUser line = some action)
    (asked : h.fsm.validateAction action = some (reaction, after))
    (neither : reaction ≠ .any ∧ reaction ≠ .warnClient)
    (ran : h.processUserInput line = some outcome) : outcome.effects = [] := by
  rw [UDPProtocolHandler.processUserInput, if_neg (ne_exit_of_asked asks), if_neg (by simp [clear])] at ran
  rcases dispatch_of_asked asks ran with ⟨rfl, auth⟩ | ⟨rfl, join⟩ | ⟨rfl, plain, spoken⟩
  · simp only [processAuth, asked, neither, Option.bind_eq_bind, Option.bind_some, ↓reduceIte] at auth
    cases auth
    rfl
  · simp only [processJoin, asked, neither, Option.bind_eq_bind, Option.bind_some, ↓reduceIte] at join
    cases join
    rfl
  · simp only [processText, plain, asked, neither, Option.bind_eq_bind, Option.bind_some,
      ↓reduceIte] at spoken
    cases spoken
    rfl

/-- A rejected line leaves everything as it was exactly when its command is steady. -/
theorem udp_untouched_iff (ran : h.processUserInput line = some outcome)
    (rejects : TurnsDown outcome.effects) : UDPUntouched h outcome ↔ Steady h.fsm line := by
  have clear := clear_of_rejects ran rejects
  have goes := udp_processUserInput_asks ran
  rw [udpAskedByUser, if_neg (by simp [clear])] at goes
  have place : SamePlace h.fsm outcome.handler.fsm ↔ Steady h.fsm line := by
    apply samePlace_iff_steady goes
    intro action reaction asks asked neither
    obtain ⟨told, member⟩ := rejects
    rw [udp_undecided clear asks asked neither ran] at member
    cases member
  rw [← place, samePlace_iff_eq]
  obtain ⟨reason, rejected⟩ := udp_rejected ran rejects
  constructor
  · intro untouched
    exact congrArg UDPProtocolHandler.fsm untouched.handler
  · intro same
    rw [rejected]
    exact ⟨congrArg (fun machine : FSMValidate => { h with fsm := machine }) same, rfl⟩

end UDP

/-- A line either handler rejects leaves everything as it was exactly when its command
is steady. -/
theorem rejected_untouched_iff {tcp : TCPProtocolHandler} {udp : UDPProtocolHandler}
    {shown : Outcome TCPProtocolHandler} {answered : Outcome UDPProtocolHandler} {typed : Bytes}
    (tcpRan : tcp.processUserInput line = some shown) (tcpRejects : TurnsDown shown.effects)
    (udpRan : udp.processUserInput typed = some answered) (udpRejects : TurnsDown answered.effects) :
    (TCPUntouched tcp shown ↔ Steady tcp.fsm line) ∧
      (UDPUntouched udp answered ↔ Steady udp.fsm typed) :=
  ⟨tcp_untouched_iff tcpRan tcpRejects, udp_untouched_iff udpRan udpRejects⟩

/-- In an open session a `/join` of two words leaves everything as it was. -/
theorem rejected_untouched_iff_join : ∃ tcpHistory client udpHistory loop shown answered,
    TCPRun 3 tcpHistory client ∧ UDPRun localServer 3 udpHistory loop ∧
    client.protocolHandler.handler.processUserInput (text "/join a b") = some shown ∧
    loop.protocolHandler.processUserInput (text "/join a b") = some answered ∧
    TCPUntouched client.protocolHandler.handler shown ∧ UDPUntouched loop.protocolHandler answered := by
  have tcp : tcpSample [enters "/auth a b c", streams (piece "REPLY OK IS hi\r\n")] =
    some (_, _) := rfl
  have udp : sample [types "/auth a b c", arrives [0x00, 0, 0],
    arrives [0x01, 0, 5, 1, 0, 0, 0x6F, 0x6B, 0]] = some (_, _) := rfl
  have steady : Steady ⟨.opened, some .auth, [.any]⟩ (text "/join a b") :=
    fun _ _ => ⟨rfl, .inl rfl⟩
  have tcpRan : TCPProtocolHandler.processUserInput
      ⟨⟨.opened, some .auth, [.any]⟩, false, ⟨text "c"⟩⟩ (text "/join a b") =
    some ⟨_, [.internalErrorMessage _], _⟩ := rfl
  have udpRan : UDPProtocolHandler.processUserInput
      ⟨⟨.opened, some .auth, [.any]⟩, localServer, [5], 65535, 65535, 1, false,
        header 0x02 0 ++ text "a" ++ [0] ++ text "c" ++ [0] ++ text "b" ++ [0], false, false, false,
        false, [], ⟨text "c"⟩⟩ (text "/join a b") =
    some ⟨_, [.internalErrorMessage _], _⟩ := rfl
  have untouched := rejected_untouched_iff tcpRan ⟨_, .head _⟩ udpRan ⟨_, .head _⟩
  exact ⟨_, _, _, _, _, _, Run.of_exec tcp, Run.of_exec udp, tcpRan, udpRan,
    untouched.1.mpr steady, untouched.2.mpr steady⟩

/-- An `/auth` of two words takes either fresh client to AUTH. -/
theorem rejected_auth_touches : ∃ client loop shown answered,
    TCPRun 3 [] client ∧ UDPRun localServer 3 [] loop ∧
    client.protocolHandler.handler.processUserInput (text "/auth a b") = some shown ∧
    loop.protocolHandler.processUserInput (text "/auth a b") = some answered ∧
    TurnsDown shown.effects ∧ TurnsDown answered.effects ∧
    ¬ TCPUntouched client.protocolHandler.handler shown ∧
    ¬ UDPUntouched loop.protocolHandler answered := by
  refine ⟨_, _, _, _, .start, .start, rfl, rfl, ⟨_, .head _⟩, ⟨_, .head _⟩, ?_, ?_⟩
  · intro untouched
    have same := congrArg TCPProtocolHandler.fsm untouched.handler
    cases congrArg FSMValidate.currentState same
  · intro untouched
    have same := congrArg UDPProtocolHandler.fsm untouched.handler
    cases congrArg FSMValidate.currentState same

end ChatClient
