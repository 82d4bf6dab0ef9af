import ChatClient.TCPBuffer

/-! Runs of the TCP client. The state machine is settled all along a run, so no
call of a run is undefined in it, whatever the server sends and the user types. -/

namespace ChatClient

open Transition FSMValidate

/-- An iteration of the TCP client. -/
abbrev TCPTurn (runOff : RunOff := .ready) := Turn (TCPClient runOff) Recv

/-- The runs of the TCP client in a build. -/
abbrev TCPRunIn (runOff : RunOff) (retries : UInt8) :
    List (TCPTurn runOff) → StreamHandler (TCPClient runOff) → Prop :=
  ClientRun ({} : TCPClient runOff) retries

/-- The runs in which a call that runs off its end is taken to return READY_FOR_INPUT. -/
abbrev TCPRun (retries : UInt8) : List TCPTurn → StreamHandler TCPClient → Prop :=
  TCPRunIn .ready retries

variable {runOff : RunOff} {retries : UInt8} {history : List (TCPTurn runOff)}
  {loop after : StreamHandler (TCPClient runOff)} {event : Event Recv} {report : Report Recv}

/-- What a call receives leaves the machine settled. -/
theorem TCPClient.processServerMessage_settled {client : TCPClient runOff} {received : Recv}
    {outcome : Outcome (TCPClient runOff)} (settled : Settled client.handler.fsm)
    (ran : client.processServerMessage received = some outcome) :
    Settled outcome.handler.handler.fsm := by
  obtain ⟨errors, chunk⟩ := received
  cases chunk with
  | none =>
    cases ran
    exact settled
  | some chunk =>
    obtain ⟨handed, after, hands, taken⟩ := handOver_defined settled chunk.val
    rw [processServerMessage_chunk hands] at ran
    cases ran
    exact taken.settled

private theorem settled_of_iterate (settled : Settled loop.protocolHandler.handler.fsm)
    (ran : loop.iterate event = some (report, after)) :
    Settled after.protocolHandler.handler.fsm := by
  obtain ⟨-, iteration⟩ := iteration_of_iterate ran
  cases iteration with
  | server called handler state =>
    rw [handler]
    exact TCPClient.processServerMessage_settled settled called
  | user called reads handler state =>
    obtain ⟨outcome, typed, same⟩ := Option.bind_eq_some_iff.mp called
    cases same
    rw [handler]
    exact settled.consulted .inl (TCPProtocolHandler.command_of_processUserInput typed).consulted
  | resend waiting handler state => rwa [handler]
  | giveUp waiting handler state => rwa [handler]
  | idle _ handler state => rwa [handler]

/-- The machine is settled in every state a run reaches. -/
theorem tcpRun_settled (run : TCPRunIn runOff retries history loop) :
    Settled loop.protocolHandler.handler.fsm :=
  run.invariant (I := fun _ loop => Settled loop.protocolHandler.handler.fsm) (.inl .fresh)
    fun _ settled ran => settled_of_iterate settled ran

/-- What one iteration of the TCP client can do. -/
inductive TCPIteration (loop : StreamHandler (TCPClient runOff)) :
    Event Recv → Report Recv → StreamHandler (TCPClient runOff) → Prop where
  | lines {errors : Nat} {chunk : Chunk} {handed : List Handed} {client : TCPClient runOff}
      {after : StreamHandler (TCPClient runOff)}
      (hands : loop.protocolHandler.handOver chunk.val = some (handed, client))
      (taken : HandsOver loop.protocolHandler chunk.val handed client)
      (handler : after.protocolHandler = client)
      (state : after.state = (handed.getLast?.map Handed.state).getD .readyForInput) :
      TCPIteration loop (.poll (.socket ⟨errors, some chunk⟩))
        ⟨.processServerMessage ⟨errors, some chunk⟩,
          List.replicate errors (.perror (text "recv")) ++
            handed.flatMap fun line => line.outcome.effects,
          some ((handed.getLast?.map Handed.state).getD .readyForInput)⟩ after
  | closed {errors : Nat} {after : StreamHandler (TCPClient runOff)}
      (handler : after.protocolHandler = loop.protocolHandler) (state : after.state = .over) :
      TCPIteration loop (.poll (.socket ⟨errors, none⟩))
        ⟨.processServerMessage ⟨errors, none⟩,
          List.replicate errors (.perror (text "recv")) ++ [.serverClosedConnection], some .over⟩ after
  | command {event : Event Recv} {line : Bytes} {outcome : Outcome TCPProtocolHandler}
      {after : StreamHandler (TCPClient runOff)}
      (called : loop.protocolHandler.handler.processUserInput line = some outcome)
      (reads : line = text "/exit" ∨
        (line ≠ [] ∧ loop.state ≠ .waitingForReply ∧ loop.state ≠ .waitingForConfirmation))
      (handler : after.protocolHandler = { loop.protocolHandler with handler := outcome.handler })
      (state : after.state = outcome.returned.getD .readyForInput) :
      TCPIteration loop event ⟨.processUserInput line, outcome.effects, outcome.returned⟩ after
  | idle {event : Event Recv} {call : Call Recv} {effects : List Effect}
      {after : StreamHandler (TCPClient runOff)} (calls : call = .resendLastMessage ∨ call = .none)
      (silent : effects = [] ∨ effects = [.perror (text "poll")])
      (handler : after.protocolHandler = loop.protocolHandler)
      (state : after.state = loop.state ∨ after.state = .over) :
      TCPIteration loop event ⟨call, effects, none⟩ after

/-- Every iteration from a settled machine is one of these. -/
theorem tcpIteration_of_iterate (settled : Settled loop.protocolHandler.handler.fsm)
    (ran : loop.iterate event = some (report, after)) :
    loop.state ≠ .over ∧ TCPIteration loop event report after := by
  obtain ⟨goes, iteration⟩ := iteration_of_iterate ran
  refine ⟨goes, ?_⟩
  cases iteration with
  | @server received outcome after called handler state =>
    obtain ⟨errors, chunk⟩ := received
    cases chunk with
    | none =>
      cases called
      exact .closed handler state
    | some chunk =>
      obtain ⟨handed, client, hands, taken⟩ := handOver_defined settled chunk.val
      cases called.symm.trans (processServerMessage_chunk hands)
      exact .lines hands taken handler state
  | user called reads handler state =>
    obtain ⟨outcome, typed, same⟩ := Option.bind_eq_some_iff.mp called
    cases same
    exact .command typed reads handler state
  | resend waiting handler state =>
    exact .idle (.inl rfl) (.inl rfl) handler (.inl (state.trans waiting.symm))
  | giveUp _ handler state => exact .idle (.inr rfl) (.inl rfl) handler (.inr state)
  | idle silent handler state => exact .idle (.inr rfl) silent handler (.inl state)

/-- The machine is legal until the session is over. -/
theorem tcpRun_legal (run : TCPRunIn runOff retries history loop) (goes : loop.state ≠ .over) :
    loop.protocolHandler.handler.fsm.Legal := by
  refine run.invariant (I := fun _ loop => loop.state ≠ .over → loop.protocolHandler.handler.fsm.Legal)
    (fun _ => .fresh) (fun {_ loop _ _ after} run legal ran goes => ?_) goes
  obtain ⟨open', iteration⟩ := tcpIteration_of_iterate (tcpRun_settled run) ran
  have legal := legal open'
  cases iteration with
  | @lines _ _ handed client _ _ taken handler state =>
    rw [state] at goes
    have goes := taken.goes goes
    rw [handler, taken.handler]
    rw [taken.lines] at goes ⊢
    refine burst_induction (Q := fun h handed => h.fsm.Legal → (∀ line ∈ handed, line.state ≠ .over) →
      ((lineServer runOff).reached h handed).fsm.Legal) (tcpRun_settled run)
      (fun _ legal _ => legal) ?_ legal goes
    intro h line outcome rest _ receipt ih legal goes
    rw [Service.Server.reached_cons]
    refine ih (receipt.legal legal ?_) fun line member => goes line (.tail _ member)
    intro ended
    exact goes _ (.head _) (by simp [Handed.state, ended])
  | closed _ state => exact absurd state goes
  | command called _ handler =>
    rw [handler]
    exact legal.consulted_user (TCPProtocolHandler.command_of_processUserInput called).consulted
  | idle _ _ handler => rwa [handler]

/-- The lines a turn hands over. -/
def handedIn (turn : TCPTurn runOff) : List Handed :=
  match turn.output.call with
  | .processServerMessage ⟨_, some chunk⟩ =>
    ((turn.before.protocolHandler.handOver chunk.val).map Prod.fst).getD []
  | _ => []

/-- A turn that receives a chunk hands over the lines of its call. -/
theorem handedIn_lines {errors : Nat} {chunk : Chunk} {handed : List Handed}
    {client : TCPClient runOff}
    {effects : List Effect} {returned : Option ClientState}
    (hands : loop.protocolHandler.handOver chunk.val = some (handed, client)) :
    handedIn ⟨loop, event, ⟨.processServerMessage ⟨errors, some chunk⟩, effects, returned⟩, after⟩ =
      handed := by
  simp [handedIn, hands]

/-- The lines a turn hands over are those of one call, which decides the state. -/
theorem handedIn_cases (settled : Settled loop.protocolHandler.handler.fsm)
    (ran : loop.iterate event = some (report, after)) :
    handedIn ⟨loop, event, report, after⟩ = [] ∨
      ∃ chunk client, HandsOver loop.protocolHandler chunk (handedIn ⟨loop, event, report, after⟩) client ∧
        after.state =
          ((handedIn ⟨loop, event, report, after⟩).getLast?.map Handed.state).getD .readyForInput := by
  obtain ⟨-, iteration⟩ := tcpIteration_of_iterate settled ran
  cases iteration with
  | @lines _ chunk handed client _ hands taken handler state =>
    rw [handedIn_lines hands]
    exact .inr ⟨chunk.val, client, taken, state⟩
  | closed | command => exact .inl rfl
  | idle calls => rcases calls with rfl | rfl <;> exact .inl rfl

/-- The lines handed over in a turn were processed in settled states. -/
theorem handedIn_processed {turn : TCPTurn runOff}
    (settled : Settled turn.before.protocolHandler.handler.fsm) :
    ∀ handed ∈ handedIn turn, Settled handed.before.fsm ∧
      handed.before.processReceived handed.line = some handed.outcome := by
  intro handed member
  rw [handedIn] at member
  split at member
  · rename_i chunk _
    obtain ⟨lines, after, hands, taken⟩ := handOver_defined settled chunk.val
    rw [hands] at member
    exact taken.mem settled handed member
  · cases member

/-! ## Sample runs -/

/-- A piece of the stream. -/
def piece (bytes : String)
    (fits : text bytes ≠ [] ∧ (text bytes).length ≤ 1499 := by decide) : Chunk :=
  ⟨text bytes, fits⟩

/-- A piece of the stream that arrives. -/
def streams (chunk : Chunk) : Event Recv := .poll (.socket { chunk })

/-- A line the user enters. -/
def enters (line : String) : Event Recv := .poll (.stdin (some (text line)))

/-- A sample run, as its turns and its last state. -/
abbrev tcpSample (events : List (Event Recv)) (runOff : RunOff := .ready) :
    Option (List (TCPTurn runOff) × StreamHandler (TCPClient runOff)) :=
  exec StreamHandler.iterate (StreamHandler.start {} 3) events

end ChatClient
