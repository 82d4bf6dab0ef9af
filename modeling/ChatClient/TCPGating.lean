import ChatClient.Library.Obligation
import ChatClient.TCPRuns

/-! Input gating over TCP. Inside `process_received` a message that comes while a
reply is awaited keeps stdin shut; but when a call hands over no line that says
so, `process_server_message` ends without a look at `waiting_for_reply`. That happens
when a chunk ends no line at all, and when the inner loop gets to nothing but REPLYs
without a result, on which `process_received` has no `return`; whatever comes back then,
the event loop reads stdin. All of this is for every `runOff`. -/

namespace ChatClient

open Transition Obligation FSMValidate TCPMessageValidator TCPProtocolHandler Framing

variable {runOff : RunOff} {retries : UInt8} {history : List (TCPTurn runOff)}
  {turn : TCPTurn runOff} {loop after : StreamHandler (TCPClient runOff)} {event : Event Recv}
  {report : Report Recv} {h : TCPProtocolHandler} {line : Bytes} {outcome : Outcome TCPProtocolHandler}

/-! ## The book of requests -/

/-- An AUTH or a JOIN line. -/
def isRequestLine (m : Bytes) : Bool := (text "AUTH ").isPrefixOf m || (text "JOIN ").isPrefixOf m

/-- The AUTH and JOIN lines among what some effects send. -/
def requestLines (effects : List Effect) : List Bytes := (sent effects).filter isRequestLine

/-- The replies some effects display. -/
def shownReplies (effects : List Effect) : List Bytes := effects.filterMap Effect.reply

/-- What a turn enters in the book: a displayed reply answers what was asked, as a
REPLY over TCP names no request. -/
def lineEntries (turn : TCPTurn runOff) : List (Entry Bytes Unit) :=
  ((shownReplies turn.output.effects).map fun _ => ()).map .settle ++
    (requestLines turn.output.effects).map .issue

/-- The AUTH and JOIN lines to which no reply has been displayed since. -/
def unanswered (history : List (TCPTurn runOff)) : List Bytes :=
  outstanding (fun _ => ()) (history.flatMap lineEntries)

/-- A call that returns READY_FOR_INPUT leaves no reply awaited, and at most one
request is unanswered. -/
structure TCPGatesInput (before : List (TCPTurn runOff)) (turn : TCPTurn runOff) : Prop where
  server : ∀ received, turn.output.call = .processServerMessage received →
    turn.output.returned.getD .readyForInput = .readyForInput →
    turn.after.protocolHandler.handler.waitingForReply = false
  user : ∀ line, turn.output.call = .processUserInput line →
    turn.output.returned.getD .readyForInput = .readyForInput →
    turn.after.protocolHandler.handler.waitingForReply = false
  one : (unanswered (before ++ [turn])).length ≤ 1

/-- The inner loop gets to nothing but nameless lines: all of them are, or those up to
one that has it left. -/
def OnlyNameless (runOff : RunOff) (h : TCPProtocolHandler) : List Bytes → Prop
  | [] => True
  | line :: lines => Nameless line ∧ (runOff h line = true ∨ OnlyNameless runOff h lines)

/-- While a reply is awaited, a chunk ends no line, or no line the inner loop gets to
that says anything. -/
def LeavesWaiting (turn : TCPTurn runOff) : Prop :=
  turn.before.protocolHandler.handler.waitingForReply = true ∧
    ∃ errors chunk, turn.output.call = .processServerMessage ⟨errors, some chunk⟩ ∧
      OnlyNameless runOff turn.before.protocolHandler.handler
        (feed crlf [] (turn.before.protocolHandler.buffer ++ chunk.val)).1

private theorem unanswered_snoc : unanswered (history ++ [turn]) =
    (if shownReplies turn.output.effects = [] then unanswered history else []) ++
      requestLines turn.output.effects := by
  rw [unanswered, List.flatMap_append, List.flatMap_singleton, lineEntries, ← List.append_assoc,
    outstanding_issues, outstanding_settles]
  congr 1
  cases shownReplies turn.output.effects with
  | nil => simp [unanswered]
  | cons reply replies => simp

/-! ## One line -/

private theorem requestLines_failWith {user : Bytes} {error : String} :
    requestLines (h.failWith user error).effects = [] := by
  simp only [failWith, requestLines, sent_send, sent_nil, List.append_assoc]
  rfl

/-- A line from the server sends no request, and displays a reply exactly when it
has the client stop waiting for one. -/
theorem TCPProtocolHandler.Receipt.book (receipt : Receipt h line outcome) :
    requestLines outcome.effects = [] ∧
      (shownReplies outcome.effects).length + (if outcome.handler.waitingForReply then 1 else 0) =
        if h.waitingForReply then 1 else 0 := by
  cases receipt with
  | reply reply _ _ awaited =>
    cases reply <;> simp [requestLines, shownReplies, sent, Effect.sent, Effect.reply, awaited]
  | errorShown =>
    refine ⟨rfl, ?_⟩
    simp [shownReplies, Effect.reply]
  | failed =>
    refine ⟨requestLines_failWith, ?_⟩
    simp [shownReplies, failWith, Effect.reply]
  | unknown =>
    refine ⟨?_, Nat.zero_add _⟩
    simp only [processUnknown, requestLines, formErrorMessage, List.append_assoc]
    rfl
  | shown | ignored | bye | undecided | nameless =>
    exact ⟨rfl, by simp [shownReplies, Effect.reply]⟩

/-- A line that leaves the client ready for input while a reply is awaited says
nothing. -/
theorem TCPProtocolHandler.Receipt.nameless_of_ready (receipt : Receipt h line outcome)
    (legal : h.fsm.Legal) (ready : outcome.returned.getD .readyForInput = .readyForInput)
    (waits : outcome.handler.waitingForReply = true) : Nameless line ∧ outcome.handler = h := by
  cases receipt with
  | nameless command ok nok => exact ⟨⟨command, ok, nok⟩, rfl⟩
  | shown =>
    have waits : h.waitingForReply = true := waits
    simp [waits] at ready
  | ignored _ _ _ idle => exact absurd (waits.symm.trans idle) (by decide)
  | undecided names asked neither =>
    exact absurd neither (legal.decided names.lineAction asked)
  | reply => cases waits
  | errorShown | bye | failed | unknown => cases ready

/-- A line that says nothing changes nothing. -/
theorem TCPProtocolHandler.processReceived_nameless (nameless : Nameless line) :
    h.processReceived line = some ⟨h, [], none⟩ := by
  obtain ⟨command, ok, nok⟩ := nameless
  exact processReceived_of_neither command ok nok

/-! ## One call -/

/-- The lines of a call send no request, and display a reply exactly when they have
the client stop waiting for one. -/
theorem burst_book {lines : List Bytes} (settled : Settled h.fsm) :
    let handed := ((lineServer runOff).burst h lines).1
    requestLines (handed.flatMap fun line => line.outcome.effects) = [] ∧
      (shownReplies (handed.flatMap fun line => line.outcome.effects)).length +
        (if ((lineServer runOff).reached h handed).waitingForReply then 1 else 0) =
      if h.waitingForReply then 1 else 0 := by
  refine burst_induction (Q := fun h handed =>
    requestLines (handed.flatMap fun line => line.outcome.effects) = [] ∧
      (shownReplies (handed.flatMap fun line => line.outcome.effects)).length +
        (if ((lineServer runOff).reached h handed).waitingForReply then 1 else 0) =
      if h.waitingForReply then 1 else 0) settled (fun h => ⟨rfl, Nat.zero_add _⟩) ?_
  intro h line outcome rest _ receipt ih
  obtain ⟨none, count⟩ := ih
  obtain ⟨noRequest, shows⟩ := receipt.book
  simp only [requestLines, shownReplies] at none count noRequest shows ⊢
  rw [List.flatMap_cons, sent_append, List.filter_append, noRequest, none, List.filterMap_append,
    List.length_append, Service.Server.reached_cons, next_eq]
  refine ⟨rfl, ?_⟩
  dsimp only
  omega

private theorem waits_of_burst {lines : List Bytes} (settled : Settled h.fsm)
    (waits : ((lineServer runOff).reached h
      ((lineServer runOff).burst h lines).1).waitingForReply = true) : h.waitingForReply = true := by
  have count := (@burst_book runOff h lines settled).2
  by_contra idle
  simp [waits, idle] at count

/-- A call that leaves the client ready while a reply is awaited got to nothing but
nameless lines. -/
theorem nameless_of_burst {lines : List Bytes} (legal : h.fsm.Legal)
    (ready : (((lineServer runOff).burst h lines).1.getLast?.map Handed.state).getD .readyForInput =
      .readyForInput)
    (waits : ((lineServer runOff).reached h
      ((lineServer runOff).burst h lines).1).waitingForReply = true) :
    OnlyNameless runOff h lines := by
  induction lines with
  | nil => trivial
  | cons line lines ih =>
    obtain ⟨outcome, ran, kept⟩ := @processReceived_defined h line (.inl legal)
    simp only [Service.Server.burst, act_eq ran, verdict_go_iff] at ready waits
    cases leaves : Handed.leaves runOff ⟨h, line, outcome⟩ with
    | true =>
      -- the loop is left here, with something that is as good as READY_FOR_INPUT
      simp only [leaves, Bool.true_eq_false, ↓reduceIte] at ready waits
      obtain ⟨nameless, same⟩ :=
        (receipt_of_processReceived ran).nameless_of_ready legal ready waits
      refine ⟨nameless, .inl ?_⟩
      cases ran.symm.trans (processReceived_nameless nameless)
      exact leaves
    | false =>
      simp only [leaves, ↓reduceIte, next_eq, Service.Server.reached_cons] at ready waits
      obtain ⟨nameless, same⟩ := (receipt_of_processReceived ran).nameless_of_ready legal
        (Handed.state_of_stays leaves) (waits_of_burst kept waits)
      rw [same] at ready waits
      refine ⟨nameless, .inr (ih ?_ waits)⟩
      cases rest : ((lineServer runOff).burst h lines).1.getLast? with
      | none => rfl
      | some last => simpa [List.getLast?_cons, rest] using ready

private theorem burst_nameless {lines : List Bytes} (nameless : OnlyNameless runOff h lines) :
    (((lineServer runOff).burst h lines).1.getLast?.map Handed.state).getD .readyForInput =
        .readyForInput ∧
      (lineServer runOff).reached h ((lineServer runOff).burst h lines).1 = h := by
  induction lines with
  | nil => exact ⟨rfl, rfl⟩
  | cons line lines ih =>
    obtain ⟨first, more⟩ := nameless
    have ran := @processReceived_nameless h line first
    simp only [Service.Server.burst, act_eq ran, verdict_go_iff]
    cases leaves : Handed.leaves runOff ⟨h, line, h, [], none⟩ with
    | true => exact ⟨rfl, rfl⟩
    | false =>
      have stays : runOff h line = false := leaves
      obtain ⟨ready, same⟩ := ih (more.resolve_left (by simp [stays]))
      simp only [↓reduceIte, next_eq, Service.Server.reached_cons]
      refine ⟨?_, same⟩
      cases rest : ((lineServer runOff).burst h lines).1.getLast? with
      | none => simp [List.getLast?_cons, rest, Handed.state]
      | some last => simpa [List.getLast?_cons, rest] using ready

/-! ## One turn -/

/-- An accepted request is in the book. -/
theorem TCPProtocolHandler.Request.isRequestLine {validator named : TCPMessageValidator}
    {argument request : Bytes} {action : Action}
    (accepted : Request validator argument action named request) : isRequestLine request = true := by
  cases accepted with
  | auth valid =>
    obtain ⟨_, _, _, -, -, rfl⟩ := authorizeValidate_eq valid
    rfl
  | join valid =>
    obtain ⟨_, rfl⟩ := joinValidate_eq valid
    rfl

/-- A line the user types displays no reply, and sends a request exactly when it
has the client wait. -/
theorem TCPProtocolHandler.Command.book (command : Command h line outcome) :
    shownReplies outcome.effects = [] ∧
      ((requestLines outcome.effects = [] ∧
          outcome.handler.waitingForReply = h.waitingForReply) ∨
        (line ≠ text "/exit" ∧ (requestLines outcome.effects).length = 1 ∧
          outcome.handler.waitingForReply = true ∧ outcome.returned = some .waitingForReply)) := by
  cases command with
  | requested other accepted =>
    refine ⟨rfl, .inr ⟨other, ?_, rfl, rfl⟩⟩
    simp [requestLines, accepted.isRequestLine]
  | spoken _ _ valid =>
    obtain ⟨-, rfl⟩ := messageValidate_eq valid
    exact ⟨rfl, .inl ⟨rfl, rfl⟩⟩
  | exit | rejected | renamed | helped | undecided => exact ⟨rfl, .inl ⟨rfl, rfl⟩⟩

/-- The flag agrees with the book, and is clear while the client is ready. -/
structure TCPAsking (history : List (TCPTurn runOff)) (loop : StreamHandler (TCPClient runOff)) :
    Prop where
  book : (unanswered history).length =
    if loop.protocolHandler.handler.waitingForReply then 1 else 0
  ready : loop.state = .readyForInput →
    loop.protocolHandler.handler.waitingForReply = false

/-- While the user's lines are read nothing is asked. -/
theorem TCPAsking.idle (asking : TCPAsking history loop) (goes : loop.state ≠ .over)
    (reads : line ≠ [] ∧ loop.state ≠ .waitingForReply ∧ loop.state ≠ .waitingForConfirmation) :
    loop.protocolHandler.handler.waitingForReply = false ∧ unanswered history = [] := by
  have flag := asking.ready (ready_of_not goes reads.2.1 reads.2.2)
  exact ⟨flag, List.length_eq_zero_iff.mp (by simpa [flag] using asking.book)⟩

/-- The flag agrees with the book after every turn. -/
theorem TCPAsking.book_after (asking : TCPAsking history loop)
    (settled : Settled loop.protocolHandler.handler.fsm)
    (ran : loop.iterate event = some (report, after)) :
    (unanswered (history ++ [⟨loop, event, report, after⟩])).length =
      if after.protocolHandler.handler.waitingForReply then 1 else 0 := by
  have book := asking.book
  obtain ⟨goes, iteration⟩ := tcpIteration_of_iterate settled ran
  rw [unanswered_snoc]
  have errors (count : Nat) (effects : List Effect) :
      shownReplies (List.replicate count (.perror (text "recv")) ++ effects) = shownReplies effects ∧
        requestLines (List.replicate count (.perror (text "recv")) ++ effects) =
          requestLines effects := by
    simp [shownReplies, requestLines, sent, Effect.sent, Effect.reply]
  cases iteration with
  | @lines _ chunk handed client _ hands taken handler state =>
    obtain ⟨none, count⟩ := @burst_book runOff loop.protocolHandler.handler
      (feed crlf [] (loop.protocolHandler.buffer ++ chunk.val)).1 settled
    rw [← taken.lines] at none count
    simp only [(errors _ _).1, (errors _ _).2, none, List.append_nil, handler, taken.handler]
    split
    · rename_i quiet
      rw [book, ← count, quiet, List.length_nil, Nat.zero_add]
    · rename_i shows
      have some := List.length_pos_of_ne_nil shows
      have bound : (if loop.protocolHandler.handler.waitingForReply then 1 else 0) ≤ 1 := by
        split <;> omega
      rw [List.length_nil]
      omega
  | closed handler =>
    simp only [(errors _ _).1, (errors _ _).2, handler]
    exact (congrArg List.length (List.append_nil _)).trans book
  | command called reads handler state =>
    obtain ⟨quiet, kinds⟩ := (TCPProtocolHandler.command_of_processUserInput called).book
    simp only [quiet, ↓reduceIte, handler]
    rcases kinds with ⟨none, same⟩ | ⟨other, one, asks, -⟩
    · rw [none, List.append_nil, same]
      exact book
    · obtain exits | open' := reads
      · exact absurd exits other
      · rw [(asking.idle goes open').2, List.nil_append, one, asks]
        rfl
  | idle calls silent handler =>
    rw [handler, ← book]
    rcases silent with rfl | rfl <;> exact congrArg List.length (List.append_nil _)

/-- A call that leaves a reply awaited returns READY_FOR_INPUT. -/
theorem LeavesWaiting.not_gates (settled : Settled loop.protocolHandler.handler.fsm)
    (ran : loop.iterate event = some (report, after))
    (leaves : LeavesWaiting ⟨loop, event, report, after⟩) :
    ¬ TCPGatesInput history ⟨loop, event, report, after⟩ := by
  intro gates
  obtain ⟨waits, errors, chunk, called, nameless⟩ := leaves
  have gate := gates.server _ called
  obtain ⟨-, iteration⟩ := tcpIteration_of_iterate settled ran
  cases iteration with
  | lines _ taken handler =>
    cases called
    obtain ⟨ready, same⟩ := @burst_nameless runOff loop.protocolHandler.handler _ nameless
    have clear := gate (taken.lines ▸ ready)
    simp only [handler, taken.handler, taken.lines, same] at clear
    exact Bool.false_ne_true (clear.symm.trans waits)
  | closed | command => cases called
  | idle calls => rcases calls with rfl | rfl <;> cases called

private theorem gates_server (settled : Settled loop.protocolHandler.handler.fsm)
    (legal : loop.protocolHandler.handler.fsm.Legal)
    (ran : loop.iterate event = some (report, after))
    (sound : ¬ LeavesWaiting ⟨loop, event, report, after⟩) {received : Recv}
    (called : report.call = .processServerMessage received)
    (ready : report.returned.getD .readyForInput = .readyForInput) :
    after.protocolHandler.handler.waitingForReply = false := by
  obtain ⟨-, iteration⟩ := tcpIteration_of_iterate settled ran
  cases iteration with
  | lines _ taken handler =>
    simp only [handler, taken.handler]
    by_contra waits
    rw [Bool.not_eq_false] at waits
    rw [taken.lines] at waits
    exact sound ⟨waits_of_burst settled waits, _, _, rfl,
      nameless_of_burst legal (taken.lines ▸ ready) waits⟩
  | closed => cases ready
  | command => cases called
  | idle calls => rcases calls with rfl | rfl <;> cases called

/-- A line of the user is answered with READY_FOR_INPUT only with no reply
awaited. -/
theorem TCPAsking.gates_user (asking : TCPAsking history loop)
    (settled : Settled loop.protocolHandler.handler.fsm)
    (ran : loop.iterate event = some (report, after)) {line : Bytes}
    (called : report.call = .processUserInput line)
    (ready : report.returned.getD .readyForInput = .readyForInput) :
    after.protocolHandler.handler.waitingForReply = false := by
  obtain ⟨goes, iteration⟩ := tcpIteration_of_iterate settled ran
  cases iteration with
  | command typed reads handler =>
    cases called
    have command := TCPProtocolHandler.command_of_processUserInput typed
    rw [handler]
    rcases command.book.2 with ⟨-, same⟩ | ⟨-, -, -, waits⟩
    · obtain rfl | open' := reads
      · cases command with
        | exit => cases ready
        | _ => contradiction
      · exact same.trans (asking.idle goes open').1
    · simp [waits] at ready
  | lines | closed => cases called
  | idle calls => rcases calls with rfl | rfl <;> cases called

private theorem tcpGatesInput_iff (asking : TCPAsking history loop)
    (settled : Settled loop.protocolHandler.handler.fsm)
    (legal : loop.protocolHandler.handler.fsm.Legal)
    (ran : loop.iterate event = some (report, after)) :
    TCPGatesInput history ⟨loop, event, report, after⟩ ↔
      ¬ LeavesWaiting ⟨loop, event, report, after⟩ := by
  constructor
  · intro gates leaves
    exact leaves.not_gates settled ran gates
  · intro sound
    refine ⟨fun _ called ready => gates_server settled legal ran sound called ready,
      fun _ called ready => asking.gates_user settled ran called ready, ?_⟩
    rw [asking.book_after settled ran]
    split <;> omega

/-- A turn that gates the input leaves the flag clear while the client is ready. -/
theorem TCPAsking.step (asking : TCPAsking history loop)
    (settled : Settled loop.protocolHandler.handler.fsm)
    (ran : loop.iterate event = some (report, after))
    (gates : TCPGatesInput history ⟨loop, event, report, after⟩) :
    TCPAsking (history ++ [⟨loop, event, report, after⟩]) after := by
  refine ⟨asking.book_after settled ran, fun ready => ?_⟩
  obtain ⟨-, iteration⟩ := tcpIteration_of_iterate settled ran
  cases iteration with
  | lines hands taken handler state => exact gates.server _ rfl (state.symm.trans ready)
  | closed _ state => cases state.symm.trans ready
  | command called reads handler state => exact gates.user _ rfl (state.symm.trans ready)
  | idle _ _ handler state =>
    rw [handler]
    rcases state with same | ended
    · exact asking.ready (same.symm.trans ready)
    · cases ended.symm.trans ready

/-! ## Runs -/

/-- While no call leaves a reply awaited the flag agrees with the book. -/
theorem tcpRun_asking (run : TCPRunIn runOff retries history loop)
    (sound : Throughout (fun _ turn => ¬ LeavesWaiting turn) history) : TCPAsking history loop := by
  refine run.invariant_of_throughout (I := TCPAsking) sound ⟨rfl, fun _ => rfl⟩ ?_
  intro _ loop _ _ after before asking ran clean
  have settled := tcpRun_settled before
  have goes := (tcpIteration_of_iterate settled ran).1
  exact asking.step settled ran
    ((tcpGatesInput_iff asking settled (tcpRun_legal before goes) ran).mpr clean)

/-- All along every run READY_FOR_INPUT is returned only when no reply is awaited,
and at most one AUTH or JOIN is unanswered, if and only if no call that begins
while a reply is awaited gets to no line but nameless ones. -/
theorem tcpGatesInput_iff_no_leavesWaiting (run : TCPRunIn runOff retries history loop) :
    Throughout TCPGatesInput history ↔ Throughout (fun _ turn => ¬ LeavesWaiting turn) history :=
  run.throughout_iff fun before ran sound => by
    have settled := tcpRun_settled before
    have goes := (tcpIteration_of_iterate settled ran).1
    exact tcpGatesInput_iff (tcpRun_asking before sound) settled (tcpRun_legal before goes) ran

/-- An AUTH whose reply comes in one chunk. -/
theorem tcpGatesInput_iff_no_leavesWaiting_auth : ∃ history loop, TCPRun 3 history loop ∧
    (unanswered history = [] ∧ loop.state = .readyForInput) ∧
    (Throughout TCPGatesInput history ↔
      Throughout (fun _ turn => ¬ LeavesWaiting turn) history) := by
  have ran : tcpSample [enters "/auth a b c", streams (piece "REPLY OK IS hi\r\n")] =
    some (_, _) := rfl
  exact ⟨_, _, Run.of_exec ran, by decide, tcpGatesInput_iff_no_leavesWaiting (Run.of_exec ran)⟩

/-- A chunk that ends within a line lets the user send a second request. -/
theorem unfinished_line_reopens_input : ∃ history loop, TCPRun 3 history loop ∧
    ¬ Throughout TCPGatesInput history ∧
    unanswered history = [text "JOIN d AS c\r\n", text "JOIN e AS c\r\n"] := by
  have ran : tcpSample [enters "/auth a b c", streams (piece "REPLY OK IS hi\r\n"),
    enters "/join d", streams (piece "REPLY OK"), enters "/join e"] = some (_, _) := rfl
  refine ⟨_, _, Run.of_exec ran, fun gates => ?_, by decide⟩
  have clear := (gates [_, _, _] _ [_] rfl).server _ rfl rfl
  cases clear

end ChatClient
