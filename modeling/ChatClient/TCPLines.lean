import ChatClient.TCPGating
import ChatClient.TCPGrammar
import ChatClient.TCPTermination
import ChatClient.UserReturns

/-! Where the TCP handler's `process_received` ends, and what becomes of malformed
lines. Any command the machine refuses, and any MSG, REPLY or ERR that fails its
check, is answered with an ERR and a BYE. Left out are a REPLY that is neither OK
nor NOK, on which the function has no `return`, and a BYE, which is not checked. -/

namespace ChatClient

open Transition FSMValidate TCPMessageValidator TCPProtocolHandler

variable {retries : UInt8} {h : TCPProtocolHandler} {line word : Bytes}
  {outcome : Outcome TCPProtocolHandler}

/-- A handler of some run, between two of its calls or inside of one. -/
def ReachedHandler (retries : UInt8) (h : TCPProtocolHandler) : Prop :=
  ∃ history loop, TCPRun retries history loop ∧ (h = loop.protocolHandler.handler ∨
    ∃ turn ∈ history, ∃ handed ∈ handedIn turn, h = handed.before)

/-- The machine agrees to the REPLY and its check has `pop_back` take a character off
an empty string, which is undefined. -/
def PopsEmpty (h : TCPProtocolHandler) (line : Bytes) : Prop :=
  (∃ action display fsm, ReplyLine line action display ∧
    h.fsm.validateAction action = some (.any, fsm)) ∧ validateReply line = none

/-- An ERR and a BYE are sent, and OVER is returned. -/
def AnswersError (outcome : Outcome TCPProtocolHandler) : Prop :=
  (∃ err, isErrorLine err = true ∧ sent outcome.effects = [err, byeLine]) ∧
    outcome.returned = some .over

/-- The call is defined and reaches a `return`, and a malformed line is answered with
ERR and BYE. -/
structure HandlesLine (h : TCPProtocolHandler) (line : Bytes) : Prop where
  defined : ¬ PopsEmpty h line
  returns : ReturnsExplicitly (h.processReceived line)
  malformed : ¬ WellFormed line →
    ∃ outcome, h.processReceived line = some outcome ∧ AnswersError outcome

/-- The lines that are not handled: a REPLY that is neither OK nor NOK, one that ends
with its last keyword where replies are accepted, a BYE with something behind it
in OPEN, and, once the server's BYE was taken, every command but a well-formed MSG. -/
inductive Mishandled (h : TCPProtocolHandler) (line : Bytes) : Prop where
  | nameless (nameless : Nameless line)
  | empty (reply : EmptyReply line) (answerable : Answerable h.fsm)
  | bye (command : upper ((splitMessage line).headD []) = text "BYE")
      (more : 1 < (splitMessage line).length) (opened : h.fsm.currentState = .opened)
  | closed {action : Action} (closed : Closed h.fsm) (names : Names line action)
      (malformed : action = .messageServer → ¬ WellFormed line)

/-! ## The machine -/

private theorem TCPProtocolHandler.Closed.not_answerable {fsm : FSMValidate}
    (closed : Closed fsm) : ¬ Answerable fsm := by
  simp [Answerable, closed.1]

/-- While the session goes on, a BYE is taken in OPEN and nowhere else. -/
theorem FSMValidate.Legal.takes_bye_iff {fsm : FSMValidate} (legal : fsm.Legal) :
    (∃ after, fsm.validateAction .byeServer = some (.any, after)) ↔ fsm.currentState = .opened := by
  cases legal with
  | opened => exact iff_of_true ⟨_, rfl⟩ rfl
  | fresh | started | authorizing | requested | refused | faulted | closing =>
    refine iff_of_false ?_ fun opened => by cases opened
    rintro ⟨after, asked⟩
    cases asked

theorem reachedHandler_settled (reached : ReachedHandler retries h) : Settled h.fsm := by
  obtain ⟨history, loop, run, rfl | ⟨turn, taken, handed, member, rfl⟩⟩ := reached
  · exact tcpRun_settled run
  · obtain ⟨before, later, rfl⟩ := List.append_of_mem taken
    exact (handedIn_processed (tcpRun_settled run.split.1) handed member).1

/-! ## The grammar and the checks -/

private theorem wellFormed_bye_iff (command : upper ((splitMessage line).headD []) = text "BYE") :
    WellFormed line ↔ ¬ 1 < (splitMessage line).length := by
  constructor
  · intro form
    cases form with
    | message spoken =>
      obtain ⟨_, _, _, _, _, words, kind, -⟩ := (spokenLine_iff (by decide)).mp spoken
      rw [words, List.headD_cons, kind] at command
      exact absurd command (by decide)
    | error spoken =>
      obtain ⟨_, _, _, _, _, words, kind, -⟩ := (spokenLine_iff (by decide)).mp spoken
      rw [words, List.headD_cons, kind] at command
      exact absurd command (by decide)
    | reply replied =>
      obtain ⟨_, _, _, _, _, words, kind, -⟩ := repliedLine_iff.mp replied
      rw [words, List.headD_cons, kind] at command
      exact absurd command (by decide)
    | bye bye =>
      have whole := space_not_mem_of_upper bye (by decide)
      simp [splitMessage_eq_singleton_iff.mpr ⟨rfl, whole⟩]
  · intro one
    obtain ⟨word, others, words⟩ : ∃ word others, splitMessage line = word :: others := by
      rw [splitMessage_eq_splitOn]
      exact List.exists_cons_of_ne_nil (List.splitOn_ne_nil space line)
    rw [words, List.length_cons] at one
    have none : others = [] := List.length_eq_zero_iff.mp (by omega)
    subst none
    rw [words, List.headD_cons, (splitMessage_eq_singleton_iff.mp words).1] at command
    exact .bye command

private theorem TCPProtocolHandler.ReplyLine.answerAction {action : Action} {display : Bytes → Effect}
    (reply : ReplyLine line action display) : AnswerAction action := by
  cases reply with
  | positive => exact .inl rfl
  | negative => exact .inr (.inl rfl)

private theorem popsEmpty_iff (settled : Settled h.fsm) :
    PopsEmpty h line ↔ EmptyReply line ∧ Answerable h.fsm := by
  rw [PopsEmpty, validateReply_none_iff, and_comm]
  refine and_congr_right fun empty => ?_
  constructor
  · rintro ⟨action, display, fsm, reply, asked⟩
    rcases settled_cases settled with legal | closed
    · exact (legal.answered reply.answerAction asked).answerable
    · obtain ⟨after, ends⟩ := closed.answers_over action
      cases asked.symm.trans ends
  · intro answerable
    have legal := (settled_cases settled).resolve_right fun closed =>
      closed.not_answerable answerable
    obtain ⟨word, result, is, words, isReply, isResult, -⟩ := empty
    have command : upper ((splitMessage line).headD []) = text "REPLY" := by
      rw [words]
      exact isReply
    rcases isResult with ok | nok
    · obtain ⟨after, asked⟩ := legal.accepts_answer answerable (.inl rfl)
      exact ⟨_, _, after, .positive command (by rw [words]; exact ok), asked⟩
    · obtain ⟨after, asked⟩ := legal.accepts_answer answerable (.inr (.inl rfl))
      exact ⟨_, _, after, .negative command (by rw [words]; exact nok), asked⟩

/-! ## The ends of the function -/

/-- A command of a closed machine is passed over, and only a MSG comes to a `return`. -/
theorem processReceived_closed {action : Action} (closed : Closed h.fsm) (names : Names line action) :
    ∃ after, h.processReceived line = some ⟨{ h with fsm := after }, [],
      if action = .messageServer then some .readyForInput else none⟩ := by
  obtain ⟨after, ends⟩ := closed.answers_over action
  refine ⟨after, ?_⟩
  cases names with
  | message command =>
    rw [processReceived_of_message command]
    simp only [processMessage, ends, Option.bind_eq_bind, Option.bind_some, reduceCtorEq,
      ↓reduceIte]
  | reply reply =>
    rw [processReceived_of_reply reply]
    have other : action ≠ .messageServer := by
      cases reply <;> simp
    simp only [processReply, ends, other, Option.bind_eq_bind, Option.bind_some, reduceCtorEq,
      ↓reduceIte]
  | error command =>
    rw [processReceived_of_error command]
    simp only [processError, ends, Option.bind_eq_bind, Option.bind_some, reduceCtorEq, ↓reduceIte]
  | bye command =>
    rw [processReceived_of_bye command]
    simp only [processBye, ends, Option.bind_eq_bind, Option.bind_some, reduceCtorEq, ↓reduceIte]

private theorem answersError_failWith {user : Bytes} {error : String} :
    AnswersError (h.failWith user error) :=
  ⟨⟨_, by simp only [List.append_assoc]; rfl, rfl⟩, rfl⟩

/-- A line that is none of those left out comes to a `return`. -/
theorem TCPProtocolHandler.Receipt.returns (receipt : Receipt h line outcome) (legal : h.fsm.Legal)
    (named : ¬ Nameless line) : ∃ state, outcome.returned = some state := by
  cases receipt with
  | nameless command ok nok => exact absurd ⟨command, ok, nok⟩ named
  | undecided names asked neither => exact absurd neither (legal.decided names.lineAction asked)
  | shown | reply | ignored | errorShown | bye | failed | unknown => exact ⟨_, rfl⟩

/-- A malformed line that is none of those left out is answered with ERR and BYE. -/
theorem TCPProtocolHandler.Receipt.answersError (receipt : Receipt h line outcome)
    (legal : h.fsm.Legal) (sound : ¬ Mishandled h line) (malformed : ¬ WellFormed line) :
    AnswersError outcome := by
  cases receipt with
  | failed => exact answersError_failWith
  | unknown => exact @answersError_failWith h h.messageValidator.displayName "Invalid command"
  | shown names asked valid => exact absurd (.message (validateMessageServer_iff.mp valid)) malformed
  | reply _ _ valid | ignored _ _ valid =>
    exact absurd (.reply (validateReply_iff.mp valid)) malformed
  | errorShown names asked valid => exact absurd (.error (validateErrorServer_iff.mp valid)) malformed
  | bye names asked =>
    have command := names.command_of_bye
    have more := not_not.mp (mt (wellFormed_bye_iff command).mpr malformed)
    exact absurd (.bye command more (legal.takes_bye_iff.mp ⟨_, asked⟩)) sound
  | nameless command ok nok => exact absurd (.nameless ⟨command, ok, nok⟩) sound
  | undecided names asked neither => exact absurd neither (legal.decided names.lineAction asked)

/-! ## Every reached handler -/

private theorem handlesLine_of_sound (legal : h.fsm.Legal) (sound : ¬ Mishandled h line) :
    HandlesLine h line := by
  obtain ⟨outcome, ran, -⟩ := @processReceived_defined h line (.inl legal)
  have receipt := receipt_of_processReceived ran
  refine ⟨fun pops => ?_, ?_, fun malformed => ⟨outcome, ran, receipt.answersError legal sound malformed⟩⟩
  · obtain ⟨empty, answerable⟩ := (popsEmpty_iff (.inl legal)).mp pops
    exact sound (.empty empty answerable)
  · obtain ⟨state, returned⟩ := receipt.returns legal fun nameless => sound (.nameless nameless)
    exact ⟨outcome, state, ran, returned⟩

/-- Once the server's BYE was taken, the lines handled are those without a command and
the well-formed MSGs. -/
theorem TCPProtocolHandler.Closed.handlesLine (closed : Closed h.fsm) (settled : Settled h.fsm)
    (sound : ¬ Mishandled h line) : HandlesLine h line := by
  have defined : ¬ PopsEmpty h line := fun pops =>
    closed.not_answerable ((popsEmpty_iff settled).mp pops).2
  by_cases names : ∃ action, Names line action
  · obtain ⟨action, names⟩ := names
    obtain ⟨is, form⟩ : action = .messageServer ∧ WellFormed line := by
      by_contra other
      rw [not_and] at other
      exact sound (.closed closed names other)
    subst is
    obtain ⟨after, ran⟩ := processReceived_closed closed names
    exact ⟨defined, ⟨_, _, ran, rfl⟩, fun malformed => absurd form malformed⟩
  · obtain ⟨outcome, ran, -⟩ := @processReceived_defined h line settled
    have receipt := receipt_of_processReceived ran
    cases receipt with
    | unknown =>
      exact ⟨defined, ⟨_, _, ran, rfl⟩, fun _ =>
        ⟨_, ran, @answersError_failWith h h.messageValidator.displayName "Invalid command"⟩⟩
    | nameless command ok nok => exact absurd (.nameless ⟨command, ok, nok⟩) sound
    | shown named | errorShown named | bye named | failed named | undecided named =>
      exact absurd ⟨_, named⟩ names
    | reply reply | ignored reply => exact absurd ⟨_, .reply reply⟩ names

private theorem Mishandled.not_handles (settled : Settled h.fsm) (mishandled : Mishandled h line) :
    ¬ HandlesLine h line := by
  intro handles
  obtain ⟨outcome, state, ran, returned⟩ := handles.returns
  cases mishandled with
  | nameless nameless =>
    cases ran.symm.trans (processReceived_nameless nameless)
    cases returned
  | empty reply answerable => exact handles.defined ((popsEmpty_iff settled).mpr ⟨reply, answerable⟩)
  | bye command more opened =>
    have legal := (settled_cases settled).resolve_right fun closed => by
      cases opened.symm.trans closed.1
    obtain ⟨after, asked⟩ := legal.takes_bye_iff.mpr opened
    obtain ⟨answer, answered, errors⟩ := handles.malformed fun form =>
      (wellFormed_bye_iff command).mp form more
    cases answered.symm.trans (processReceived_bye (.bye command) asked)
    obtain ⟨⟨err, -, sends⟩, -⟩ := errors
    cases sends
  | closed closed names malformed =>
    obtain ⟨after, passed⟩ := processReceived_closed closed names
    cases ran.symm.trans passed
    split at returned
    · rename_i is
      obtain ⟨answer, answered, errors⟩ := handles.malformed (malformed is)
      cases answered.symm.trans passed
      obtain ⟨⟨err, -, sends⟩, -⟩ := errors
      cases sends
    · cases returned

/-- In every handler a run reaches, a line is handled if and only if it is none of
those left out. -/
theorem handlesLine_iff (reached : ReachedHandler retries h) (line : Bytes) :
    HandlesLine h line ↔ ¬ Mishandled h line := by
  have settled := reachedHandler_settled reached
  constructor
  · intro handles mishandled
    exact mishandled.not_handles settled handles
  · intro sound
    rcases settled_cases settled with legal | closed
    · exact handlesLine_of_sound legal sound
    · exact closed.handlesLine settled sound

/-- A MSG with two spaces in a row, after an AUTH. -/
theorem handlesLine_iff_opened : ∃ history loop, TCPRun 3 history loop ∧
    loop.protocolHandler.handler.fsm.currentState = .opened ∧
    (HandlesLine loop.protocolHandler.handler (text "MSG FROM a IS  hi") ↔
      ¬ Mishandled loop.protocolHandler.handler (text "MSG FROM a IS  hi")) := by
  have ran : tcpSample [enters "/auth a b c", streams (piece "REPLY OK IS hi\r\n")] =
    some (_, _) := rfl
  exact ⟨_, _, Run.of_exec ran, rfl, handlesLine_iff ⟨_, _, Run.of_exec ran, .inl rfl⟩ _⟩

/-- In OPEN a BYE with a word behind it ends the session without an answer, a REPLY
without a result runs off the end, and one without a content pops from an empty
string. -/
theorem malformed_lines_mishandled : ∃ history loop, TCPRun 3 history loop ∧
    ¬ WellFormed (text "BYE now") ∧
    ¬ HandlesLine loop.protocolHandler.handler (text "BYE now") ∧
    ¬ HandlesLine loop.protocolHandler.handler (text "REPLY") ∧
    ¬ HandlesLine loop.protocolHandler.handler (text "REPLY OK IS") := by
  have ran : tcpSample [enters "/auth a b c", streams (piece "REPLY OK IS hi\r\n")] =
    some (_, _) := rfl
  have settled := tcpRun_settled (Run.of_exec ran)
  refine ⟨_, _, Run.of_exec ran, ?_, ?_, ?_, ?_⟩
  · exact fun form => (wellFormed_bye_iff rfl).mp form (by decide)
  · exact Mishandled.not_handles settled (.bye rfl (by decide) rfl)
  · exact Mishandled.not_handles settled (.nameless ⟨rfl, by decide, by decide⟩)
  · exact Mishandled.not_handles settled (.empty ⟨_, _, _, rfl, rfl, .inl rfl, rfl⟩ (.inl rfl))

end ChatClient
