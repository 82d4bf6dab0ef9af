import ChatClient.TCPGating

/-! Replies over TCP are displayed only as answers. An AUTH or JOIN line that goes
out sets `waiting_for_reply` and the REPLY that is displayed clears it, so while
it is set a request is open: one was sent, and no reply was displayed since. -/

namespace ChatClient

open Transition Obligation FSMValidate TCPMessageValidator TCPProtocolHandler Framing

variable {retries : UInt8} {history : List TCPTurn} {turn : TCPTurn}
  {loop after : StreamHandler TCPClient} {event : Event Recv} {report : Report Recv}
  {h : TCPProtocolHandler} {line : Bytes} {outcome : Outcome TCPProtocolHandler}
  {effects : List Effect}

/-- An effect that sends an AUTH or a JOIN line. -/
def Effect.isRequest (effect : Effect) : Bool := (effect.sent.filter isRequestLine).isSome

/-- An effect that displays a reply. -/
def Effect.isReply (effect : Effect) : Bool := effect.reply.isSome

/-- All that was sent and displayed, in order. -/
def trace (history : List TCPTurn) : List Effect := history.flatMap fun turn => turn.output.effects

/-- What some lines had sent and displayed. -/
def traceOf (handed : List Handed) : List Effect := handed.flatMap fun line => line.outcome.effects

/-- An AUTH or a JOIN line was sent and no reply was displayed since. -/
def Requested (effects : List Effect) : Prop := Open Effect.isRequest Effect.isReply effects

/-- A reply is displayed only after a request that was sent after the last one
displayed; there are no more replies than requests; and a line that comes when
nothing is requested displays no reply. -/
structure RepliesAreAnswers (history : List TCPTurn) : Prop where
  preceded : ∀ before reply after, trace history = before ++ reply :: after → reply.isReply = true →
    Requested before
  count : (shownReplies (trace history)).length ≤ (requestLines (trace history)).length
  unsolicited : ∀ before turn later, history = before ++ turn :: later →
    ∀ earlier handed rest, handedIn turn = earlier ++ handed :: rest →
      ¬ Requested (trace before ++ traceOf earlier) → shownReplies handed.outcome.effects = []

/-- Some effects with the flag before and after them: it stays set only while a
request is open. -/
abbrev Answers (waits : Bool) (effects : List Effect) (still : Bool) : Prop :=
  Pairs Effect.isRequest Effect.isReply waits effects still

/-! ## One call -/

/-- Nothing but a displayed reply clears the flag, and a reply is displayed only
while it is set. -/
theorem TCPProtocolHandler.Receipt.answers (receipt : Receipt h line outcome) :
    Answers h.waitingForReply outcome.effects outcome.handler.waitingForReply := by
  cases receipt with
  | reply _ _ _ awaited =>
    rw [awaited]
    exact pairs_answer
  | failed => exact pairs_quiet (by simp [failWith, Effect.isReply, Effect.reply]) id
  | unknown => exact pairs_quiet (by simp [processUnknown, Effect.isReply, Effect.reply]) id
  | shown | ignored | errorShown | bye | undecided | nameless =>
    exact pairs_quiet (by simp [Effect.isReply, Effect.reply]) id

/-- A request sets the flag. -/
theorem TCPProtocolHandler.Command.answers (command : Command h line outcome) :
    Answers h.waitingForReply outcome.effects outcome.handler.waitingForReply := by
  cases command with
  | requested _ accepted =>
    refine pairs_question ?_ rfl
    simp [Effect.isRequest, Effect.sent, Option.filter, accepted.isRequestLine]
  | exit | rejected | spoken | renamed | helped | undecided =>
    exact pairs_quiet (by simp [TCPProtocolHandler.reject, Effect.isReply, Effect.reply]) id

private theorem burst_answers {lines : List Bytes} (settled : Settled h.fsm) :
    Answers h.waitingForReply (traceOf (lineServer.burst h lines).1)
      (lineServer.reached h (lineServer.burst h lines).1).waitingForReply := by
  refine burst_induction (Q := fun h handed =>
    Answers h.waitingForReply (traceOf handed) (lineServer.reached h handed).waitingForReply)
    settled (fun h => pairs_quiet (by simp [traceOf]) id) ?_
  intro h line outcome rest _ receipt ih
  rw [traceOf, List.flatMap_cons, Service.Server.reached_cons, next_eq]
  exact receipt.answers.append ih

/-- A line that displays a reply is handled with the flag set. -/
theorem TCPProtocolHandler.Receipt.waits_of_shown (receipt : Receipt h line outcome)
    (shows : shownReplies outcome.effects ≠ []) : h.waitingForReply = true := by
  by_contra idle
  have count := receipt.book.2
  rw [if_neg idle] at count
  exact shows (List.length_eq_zero_iff.mp (by omega))

private theorem burst_requested {lines : List Bytes} (settled : Settled h.fsm)
    {earlier rest : List Handed}
    {handed : Handed} (shape : (lineServer.burst h lines).1 = earlier ++ handed :: rest)
    (shows : shownReplies handed.outcome.effects ≠ []) :
    Answers h.waitingForReply (traceOf earlier) true := by
  refine burst_induction (Q := fun h all => ∀ earlier, all = earlier ++ handed :: rest →
    Answers h.waitingForReply (traceOf earlier) true)
    settled (fun h earlier shape => by simp at shape) ?_ earlier shape
  intro h line outcome all _ receipt ih earlier shape
  cases earlier with
  | nil =>
    obtain ⟨rfl, -⟩ := List.cons.inj shape
    exact pairs_quiet (by simp [traceOf]) fun _ => receipt.waits_of_shown shows
  | cons first earlier =>
    obtain ⟨rfl, same⟩ := List.cons.inj shape
    exact receipt.answers.append (ih earlier same)

/-! ## Runs -/

private theorem answers_errors {waits still : Bool} {count : Nat}
    (answers : Answers waits effects still) :
    Answers waits (List.replicate count (.perror (text "recv")) ++ effects) still := by
  refine Pairs.append (pairs_quiet (fun effect member => ?_) id) answers
  rw [(List.mem_replicate.mp member).2]
  rfl

private theorem answers_of_iterate (settled : Settled loop.protocolHandler.handler.fsm)
    (ran : loop.iterate event = some (report, after)) :
    Answers loop.protocolHandler.handler.waitingForReply report.effects
      after.protocolHandler.handler.waitingForReply := by
  obtain ⟨-, iteration⟩ := tcpIteration_of_iterate settled ran
  cases iteration with
  | lines _ taken handler =>
    rw [handler, taken.handler, taken.lines]
    exact answers_errors (burst_answers settled)
  | closed handler =>
    rw [handler]
    exact answers_errors (pairs_quiet (by simp [Effect.isReply, Effect.reply]) id)
  | command called _ handler =>
    rw [handler]
    exact (TCPProtocolHandler.command_of_processUserInput called).answers
  | idle _ silent handler =>
    rw [handler]
    rcases silent with rfl | rfl <;> exact pairs_quiet (by simp [Effect.isReply, Effect.reply]) id

/-- All that a run displayed as replies answers requests, and while the flag is set
one is open. -/
theorem tcpRun_answering (run : TCPRun retries history loop) :
    Answering Effect.isRequest Effect.isReply (trace history) ∧
      (loop.protocolHandler.handler.waitingForReply = true → Requested (trace history)) := by
  refine run.invariant (I := fun history loop =>
    Answering Effect.isRequest Effect.isReply (trace history) ∧
      (loop.protocolHandler.handler.waitingForReply = true → Requested (trace history)))
    ⟨answering_nil, fun waits => nomatch waits⟩ ?_
  rintro history loop event report after before ⟨answering, opened⟩ ran
  rw [trace, List.flatMap_append, List.flatMap_singleton]
  exact answers_of_iterate (tcpRun_settled before) ran _ answering opened

private theorem countP_isReply : effects.countP Effect.isReply = (shownReplies effects).length :=
  List.length_filterMap_eq_countP.symm

private theorem countP_isRequest : effects.countP Effect.isRequest =
    (requestLines effects).length := by
  rw [requestLines, sent, List.filter_filterMap, List.length_filterMap_eq_countP]
  rfl

/-- In every run of the client each displayed reply is preceded by an AUTH or JOIN
line sent after the last one displayed, there are no more replies than such lines,
and no unsolicited REPLY is displayed. -/
theorem replies_displayed_as_answers (run : TCPRun retries history loop) :
    RepliesAreAnswers history := by
  have answering := (tcpRun_answering run).1
  refine ⟨answering, ?_, ?_⟩
  · rw [← countP_isReply, ← countP_isRequest]
    refine answering.count_le fun effect asks => ?_
    cases effect <;> first | rfl | cases asks
  · rintro before turn later rfl earlier handed rest shape none
    by_contra shows
    have settled := tcpRun_settled run.split.1
    rcases handedIn_cases settled run.split.2 with nothing | ⟨chunk, client, taken, -⟩
    · simp [nothing] at shape
    · rw [taken.lines] at shape
      obtain ⟨answering, opened⟩ := tcpRun_answering run.split.1
      exact none ((burst_requested settled shape shows _ answering opened).2 rfl)

/-- An AUTH, its reply and an unsolicited one in one chunk. -/
theorem replies_displayed_as_answers_auth : ∃ history loop, TCPRun 3 history loop ∧
    shownReplies (trace history) = [text "hi"] ∧ RepliesAreAnswers history := by
  have ran : tcpSample [enters "/auth a b c",
    streams (piece "REPLY OK IS hi\r\nREPLY OK IS again\r\n")] = some (_, _) := rfl
  exact ⟨_, _, Run.of_exec ran, by decide, replies_displayed_as_answers (Run.of_exec ran)⟩

end ChatClient
