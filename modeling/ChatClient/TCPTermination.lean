import ChatClient.TCPInjection

/-! The end of a TCP session. A call either goes on and sends nothing that closes
the session, or it sends a BYE, behind at most one ERR, and returns OVER; then
neither a buffered line nor a line of the user is handed over any more. -/

namespace ChatClient

open Transition TCPMessageValidator TCPProtocolHandler

variable {h : TCPProtocolHandler} {line : Bytes} {outcome : Outcome TCPProtocolHandler}
  {retries : UInt8} {history before later : List TCPTurn} {turn : TCPTurn}
  {loop after : StreamHandler TCPClient} {event : Event Recv} {report : Report Recv}

/-- The BYE the client sends. -/
def byeLine : Bytes := text "BYE" ++ crlf

/-- An ERR line. -/
def isErrorLine (message : Bytes) : Bool := (text "ERR FROM ").isPrefixOf message

/-- A message that has nothing to do with the end of a session. -/
def Plain (message : Bytes) : Prop := isErrorLine message = false ∧ message ≠ byeLine

/-- A line that is a BYE, as the first word and the state machine have it. -/
def AcceptsBye (handed : Handed) : Prop :=
  Names handed.line .byeServer ∧
    ∃ fsm, handed.before.fsm.validateAction .byeServer = some (.any, fsm)

/-- How what a call sends goes with the state it leaves. -/
inductive ClosesWith : List Bytes → ClientState → Prop where
  | goes {messages : List Bytes} {state : ClientState} (plain : ∀ message ∈ messages, Plain message)
      (goes : state ≠ .over) : ClosesWith messages state
  /-- The session ends without a word: the server has closed it. -/
  | silent : ClosesWith [] .over
  | bye : ClosesWith [byeLine] .over
  | error {error : Bytes} (is : isErrorLine error = true) : ClosesWith [error, byeLine] .over

/-- The termination protocol, as a property of a run. -/
structure Terminates (history : List TCPTurn) : Prop where
  /-- BYE is sent at most once, and nothing after it. -/
  byeLast : byeLine ∈ sentIn history →
    ∃ earlier, sentIn history = earlier ++ [byeLine] ∧ byeLine ∉ earlier
  /-- An ERR is followed by a BYE at once. -/
  errorCloses : ∀ earlier error rest, sentIn history = earlier ++ error :: rest →
    isErrorLine error = true → rest.head? = some byeLine
  /-- A call that sends BYE hands over no line after the one it is sent for, and the
  loop stops. -/
  byeStops : ∀ before turn later, history = before ++ turn :: later →
    byeLine ∈ sent turn.output.effects → turn.after.state = .over ∧ later = [] ∧
      (∀ event, turn.after.iterate event = none) ∧
      ∀ earlier line rest, handedIn turn = earlier ++ line :: rest →
        byeLine ∈ sent line.outcome.effects → rest = []
  /-- Once a BYE of the server is accepted nothing is sent. -/
  serverBye : ∀ before turn later, history = before ++ turn :: later →
    ∀ earlier line rest, handedIn turn = earlier ++ line :: rest → AcceptsBye line →
      sent line.outcome.effects = [] ∧ rest = [] ∧ turn.after.state = .over ∧ later = []

/-! ## One call -/

private theorem closing_failWith {user : Bytes} {error : String} :
    ClosesWith (sent (h.failWith user error).effects) .over := by
  have is : isErrorLine (text "ERR FROM " ++ user ++ text " IS " ++ text error ++ crlf) = true := by
    simp only [List.append_assoc]
    rfl
  exact .error is

/-- A line that leaves the session open sends nothing. -/
theorem TCPProtocolHandler.Receipt.quiet (receipt : Receipt h line outcome)
    (goes : outcome.returned.getD .readyForInput ≠ .over) : sent outcome.effects = [] := by
  cases receipt with
  | reply reply => cases reply <;> rfl
  | shown | ignored | undecided | nameless => rfl
  | errorShown | bye | failed | unknown => exact absurd rfl goes

/-- A line that closes the session sends a BYE, or is one. -/
theorem TCPProtocolHandler.Receipt.closing (receipt : Receipt h line outcome) :
    ClosesWith (sent outcome.effects) (outcome.returned.getD .readyForInput) := by
  by_cases goes : outcome.returned.getD .readyForInput = .over
  · rw [goes]
    cases receipt with
    | errorShown => exact .bye
    | bye => exact .silent
    | failed => exact closing_failWith
    | unknown => exact @closing_failWith h h.messageValidator.displayName "Invalid command"
    | undecided _ _ _ how =>
      simp only [how] at goes
      split at goes <;> cases goes
    | shown =>
      rw [Option.getD_some] at goes
      split at goes <;> cases goes
    | reply | ignored | nameless => cases goes
  · rw [receipt.quiet goes]
    exact .goes (by simp) goes

theorem TCPProtocolHandler.Names.command_of_bye (names : Names line .byeServer) :
    upper ((splitMessage line).headD []) = text "BYE" := by
  cases names with
  | reply reply => cases reply
  | bye command => exact command

/-- A BYE that is accepted is answered with nothing, and ends the session. -/
theorem TCPProtocolHandler.processReceived_bye {fsm : FSMValidate} (names : Names line .byeServer)
    (asked : h.fsm.validateAction .byeServer = some (.any, fsm)) :
    h.processReceived line = some ⟨{ h with fsm := fsm }, [], some .over⟩ := by
  rw [processReceived_of_bye names.command_of_bye]
  simp only [processBye, asked, Option.bind_eq_bind, Option.bind_some, ↓reduceIte]

/-! ## The lines of a call -/

section Lines
variable {client next : TCPClient} {chunk : Bytes} {handed earlier rest : List Handed} {last : Handed}

/-- The lines of a call but the last left the client ready. -/
theorem HandsOver.ready_before (taken : HandsOver client chunk handed next)
    (shape : handed = earlier ++ last :: rest) (some : rest ≠ []) : last.state = .readyForInput := by
  obtain ⟨shorter, final, rfl⟩ := (List.eq_nil_or_concat rest).resolve_left some
  have split : handed = (earlier ++ last :: shorter) ++ [final] := by simpa using shape
  exact Handed.state_of_stays (taken.stays_before split last (by simp))

/-- Every line of a call ends by one of the rules. -/
theorem HandsOver.receipt (taken : HandsOver client chunk handed next)
    (settled : client.handler.fsm.Settled) :
    ∀ line ∈ handed, Receipt line.before line.line line.outcome := by
  intro line member
  exact receipt_of_processReceived (taken.mem settled line member).2

/-- Only the last line of a call can have the client send anything. -/
theorem HandsOver.sent_eq (taken : HandsOver client chunk (earlier ++ [last]) next)
    (settled : client.handler.fsm.Settled) :
    sent ((earlier ++ [last]).flatMap fun line => line.outcome.effects) = sent last.outcome.effects := by
  have silent : sent (earlier.flatMap fun line => line.outcome.effects) = [] := by
    refine List.filterMap_eq_nil_iff.mpr fun effect within => ?_
    obtain ⟨line, member, own⟩ := List.mem_flatMap.mp within
    obtain ⟨first, behind, rfl⟩ := List.append_of_mem member
    have shape : first ++ line :: behind ++ [last] = first ++ line :: (behind ++ [last]) := by simp
    have ready := taken.ready_before shape (by simp)
    have quiet := (taken.receipt settled line (by simp)).quiet fun ended => by
      cases ready.symm.trans ended
    exact List.filterMap_eq_nil_iff.mp quiet effect own
  simp [silent]

/-- A call for a chunk closes the session properly, or goes on. -/
theorem HandsOver.closing (taken : HandsOver client chunk handed next)
    (settled : client.handler.fsm.Settled) :
    ClosesWith (sent (handed.flatMap fun line => line.outcome.effects))
      ((handed.getLast?.map Handed.state).getD .readyForInput) := by
  rcases List.eq_nil_or_concat handed with rfl | ⟨earlier, last, rfl⟩
  · exact .goes (by simp) (by decide)
  · rw [List.concat_eq_append] at taken ⊢
    rw [taken.sent_eq settled, List.getLast?_append_of_ne_nil _ (by simp)]
    exact (taken.receipt settled last (by simp)).closing

end Lines

/-! ## Runs -/

private theorem plain_request {validator named : TCPMessageValidator} {argument request : Bytes}
    {action : Action} (accepted : Request validator argument action named request) :
    Plain request := by
  cases accepted with
  | auth valid =>
    obtain ⟨_, _, _, -, -, rfl⟩ := authorizeValidate_eq valid
    exact ⟨rfl, by simp [byeLine, text]⟩
  | join valid =>
    obtain ⟨_, rfl⟩ := joinValidate_eq valid
    exact ⟨rfl, by simp [byeLine, text]⟩

/-- A line of the user sends `/exit`'s BYE, or nothing that closes the session. -/
theorem TCPProtocolHandler.Command.closing (command : Command h line outcome) :
    ClosesWith (sent outcome.effects) (outcome.returned.getD .readyForInput) := by
  have quiet : ClosesWith [] .readyForInput := .goes (by simp) (by decide)
  have spoken {message : Bytes} {state : ClientState} (plain : Plain message)
      (goes : state ≠ .over) : ClosesWith [message] state := .goes (by simpa using plain) goes
  cases command with
  | exit => exact .bye
  | requested _ accepted => exact spoken (plain_request accepted) nofun
  | spoken _ _ valid =>
    obtain ⟨-, rfl⟩ := messageValidate_eq valid
    exact spoken ⟨rfl, by simp [byeLine, text]⟩ nofun
  | rejected | renamed | helped => exact quiet
  | undecided _ _ _ _ ready =>
    rw [ready]
    exact quiet

private theorem closing_of_iterate (run : TCPRun retries history loop)
    (ran : loop.iterate event = some (report, after)) : ClosesWith (sent report.effects) after.state := by
  have settled := tcpRun_settled run
  have errors (count : Nat) (effects : List Effect) :
      sent (List.replicate count (.perror (text "recv")) ++ effects) = sent effects := by
    simp [sent, Effect.sent]
  obtain ⟨goes, iteration⟩ := tcpIteration_of_iterate settled ran
  cases iteration with
  | lines _ taken _ state =>
    rw [errors, state]
    exact taken.closing settled
  | closed _ state =>
    rw [errors, state]
    exact .silent
  | command called _ _ state =>
    rw [state]
    exact (command_of_processUserInput called).closing
  | idle _ silent _ state =>
    have silence : ClosesWith [] after.state := by
      rcases state with same | ended
      · exact .goes (by simp) (same ▸ goes)
      · exact ended ▸ .silent
    rcases silent with rfl | rfl <;> exact silence

theorem ClosesWith.plain {messages : List Bytes} {state : ClientState}
    (closing : ClosesWith messages state)
    (goes : state ≠ .over) : ∀ message ∈ messages, Plain message := by
  cases closing with
  | goes plain => exact plain
  | silent | bye | error => exact absurd rfl goes

@[simp] theorem sentIn_snoc : sentIn (history ++ [turn]) = sentIn history ++ sent turn.output.effects := by
  simp [sentIn]

/-- What a run has sent closes the session at its end, and only when the run is
over. -/
theorem sentIn_closing (run : TCPRun retries history loop) :
    ∃ plain last, sentIn history = plain ++ last ∧ (∀ message ∈ plain, Plain message) ∧
      ClosesWith last loop.state ∧ (loop.state ≠ .over → last = []) := by
  refine run.invariant (I := fun history loop => ∃ plain last, sentIn history = plain ++ last ∧
    (∀ message ∈ plain, Plain message) ∧ ClosesWith last loop.state ∧ (loop.state ≠ .over → last = []))
    ⟨[], [], rfl, by simp, .goes (by simp) nofun, fun _ => rfl⟩ ?_
  intro history loop event report after run before ran
  obtain ⟨plain, last, said, open', -, nothing⟩ := before
  have goes := (tcpIteration_of_iterate (tcpRun_settled run) ran).1
  have closing := closing_of_iterate run ran
  rw [nothing goes, List.append_nil] at said
  by_cases ended : after.state = .over
  · exact ⟨plain, sent report.effects, by rw [sentIn_snoc, said], open', closing, absurd ended⟩
  · refine ⟨plain ++ sent report.effects, [], by rw [sentIn_snoc, said, List.append_nil], ?_,
      .goes (by simp) ended, fun _ => rfl⟩
    intro message member
    rcases List.mem_append.mp member with earlier | now
    · exact open' message earlier
    · exact closing.plain ended message now

private theorem end_of_not_plain {plain last earlier rest : List Bytes} {message : Bytes}
    (shape : plain ++ last = earlier ++ message :: rest) (other : message ∉ plain) :
    ∃ begun, earlier = plain ++ begun ∧ last = begun ++ message :: rest := by
  rcases List.append_eq_append_iff.mp shape with ⟨begun, first, second⟩ | ⟨begun, first, second⟩
  · exact ⟨begun, first, second⟩
  · cases begun with
    | nil => exact ⟨[], by simpa using first.symm, by simpa using second.symm⟩
    | cons c begun =>
      obtain ⟨rfl, -⟩ := List.cons.inj second
      exact absurd (first ▸ by simp) other

private theorem bye_not_plain : ¬ Plain byeLine := fun plain => plain.2 rfl

private theorem bye_last (run : TCPRun retries history loop) (sends : byeLine ∈ sentIn history) :
    ∃ earlier, sentIn history = earlier ++ [byeLine] ∧ byeLine ∉ earlier := by
  obtain ⟨plain, last, said, open', closing, -⟩ := sentIn_closing run
  have free : byeLine ∉ plain := fun member => bye_not_plain (open' _ member)
  rw [said] at sends ⊢
  have within := (List.mem_append.mp sends).resolve_left free
  generalize loop.state = state at closing
  cases closing with
  | goes open' => exact absurd (open' _ within) bye_not_plain
  | silent => cases within
  | bye => exact ⟨plain, rfl, free⟩
  | @error error is =>
    have other : byeLine ≠ error := by
      rintro rfl
      cases is
    exact ⟨plain ++ [error], by simp, by simpa [other] using free⟩

private theorem error_then_bye {earlier rest : List Bytes} {error : Bytes}
    (run : TCPRun retries history loop)
    (said : sentIn history = earlier ++ error :: rest) (is : isErrorLine error = true) :
    rest.head? = some byeLine := by
  obtain ⟨plain, last, shape, open', closing, -⟩ := sentIn_closing run
  have other {message : Bytes} (plain : Plain message) : message ≠ error := by
    rintro rfl
    cases plain.1.symm.trans is
  have bye : byeLine ≠ error := by
    rintro rfl
    cases is
  obtain ⟨begun, -, ending⟩ := end_of_not_plain (shape.symm.trans said) fun member =>
    other (open' _ member) rfl
  generalize loop.state = state at closing
  cases closing with
  | goes open' => exact absurd rfl (other (open' error (by simp [ending])))
  | silent => simp at ending
  | bye =>
    rcases List.singleton_eq_append_iff.mp ending with ⟨-, one⟩ | ⟨-, none⟩
    · exact absurd (List.cons.inj one).1.symm bye
    · cases none
  | error =>
    cases begun with
    | nil =>
      obtain ⟨-, rfl⟩ := List.cons.inj ending
      rfl
    | cons first begun =>
      have ending := (List.cons.inj ending).2
      rcases List.singleton_eq_append_iff.mp ending with ⟨-, one⟩ | ⟨-, none⟩
      · exact absurd (List.cons.inj one).1.symm bye
      · cases none

private theorem handedIn_last {earlier rest : List Handed} {last : Handed}
    (run : TCPRun retries history loop)
    (ran : loop.iterate event = some (report, after))
    (handed : handedIn ⟨loop, event, report, after⟩ = earlier ++ last :: rest)
    (ends : last.state ≠ .readyForInput) : rest = [] ∧ after.state = last.state := by
  rcases handedIn_cases (tcpRun_settled run) ran with none | ⟨chunk, client, taken, state⟩
  · simp [none] at handed
  · have final : rest = [] := by
      by_contra some
      exact ends (taken.ready_before handed some)
    subst final
    rw [handed] at state
    exact ⟨rfl, by simpa using state⟩

private theorem last_of_over (run : TCPRun retries (before ++ turn :: later) loop)
    (ended : turn.after.state = .over) : later = [] :=
  run.last_of_stuck fun event => iterate_over ended event

private theorem bye_stops (run : TCPRun retries history loop)
    (ran : loop.iterate event = some (report, after)) (sends : byeLine ∈ sent report.effects) :
    after.state = .over ∧ ∀ earlier line rest,
      handedIn ⟨loop, event, report, after⟩ = earlier ++ line :: rest →
      byeLine ∈ sent line.outcome.effects → rest = [] := by
  constructor
  · by_contra goes
    exact bye_not_plain ((closing_of_iterate run ran).plain goes _ sends)
  · intro earlier line rest handed sends
    refine (handedIn_last run ran handed fun ready => ?_).1
    have processed := (@handedIn_processed _ ⟨loop, event, report, after⟩ (tcpRun_settled run) line
      (by simp [handed])).2
    have quiet := (receipt_of_processReceived processed).quiet fun ended => by
      cases ready.symm.trans ended
    simp [quiet] at sends

private theorem server_bye_stops {earlier rest : List Handed} {line : Handed}
    (run : TCPRun retries history loop) (ran : loop.iterate event = some (report, after))
    (handed : handedIn ⟨loop, event, report, after⟩ = earlier ++ line :: rest)
    (accepts : AcceptsBye line) :
    sent line.outcome.effects = [] ∧ rest = [] ∧ after.state = .over := by
  obtain ⟨names, fsm, asked⟩ := accepts
  have processed := (@handedIn_processed _ ⟨loop, event, report, after⟩ (tcpRun_settled run) line
    (by simp [handed])).2
  have outcome := Option.some.inj (processed.symm.trans (processReceived_bye names asked))
  have ended : line.state = .over := by rw [Handed.state, outcome, Option.getD_some]
  obtain ⟨last, state⟩ := handedIn_last run ran handed (by simp [ended])
  exact ⟨by rw [outcome]; rfl, last, state.trans ended⟩

/-- Every run of the TCP client keeps to the termination protocol. -/
theorem tcp_terminates (run : TCPRun retries history loop) : Terminates history where
  byeLast sends := bye_last run sends
  errorCloses _ _ _ said is := error_then_bye run said is
  byeStops := by
    rintro before turn later rfl sends
    obtain ⟨ended, lines⟩ := bye_stops run.split.1 run.split.2 sends
    exact ⟨ended, last_of_over run ended, iterate_over ended, lines⟩
  serverBye := by
    rintro before turn later rfl earlier line rest handed accepts
    obtain ⟨silent, last, ended⟩ := server_bye_stops run.split.1 run.split.2 handed accepts
    exact ⟨silent, last, ended, last_of_over run ended⟩

/-- A line nobody knows, with another one behind it in the buffer, ends a run. -/
theorem tcp_terminates_unknown : ∃ history loop, TCPRun 3 history loop ∧
    sentIn history = [text "AUTH a AS c USING b\r\n", text "ERR FROM c IS Invalid command\r\n",
      byeLine] ∧
    (loop.state = .over ∧ loop.protocolHandler.buffer = text "MSG FROM d IS hi\r\n") ∧
    Terminates history := by
  have ran : tcpSample [enters "/auth a b c", streams (piece "REPLY OK IS hi\r\n"),
    streams (piece "HELLO\r\nMSG FROM d IS hi\r\n")] = some (_, _) := rfl
  exact ⟨_, _, Run.of_exec ran, by decide, by decide, tcp_terminates (Run.of_exec ran)⟩

end ChatClient
