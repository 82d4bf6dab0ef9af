import ChatClient.Library.Transition
import ChatClient.ProtocolHandler

/-! `StreamHandler::run_event_loop`, one iteration at a time. The environment
chooses what each iteration sees: SIGINT may arrive, and `poll` reports an
error, a timeout, data on the socket or a line on stdin. A run of the client is
a run of `iterate` from `StreamHandler.start`. -/

namespace ChatClient

variable {H Received : Type}

/-- The loop's handler and its local variables, with the global `interrupted`.
`exited` records the `exit(EXIT_FAILURE)` after a failing `poll`. -/
structure StreamHandler (H : Type) where
  protocolHandler : H
  retryCount : UInt8
  retrans : UInt8
  state : ClientState := .readyForInput
  firstTimeInterrupted : Bool := true
  interrupted : Bool := false
  exited : Bool := false
  deriving DecidableEq, Repr

/-- What one call of `poll` finds. A line is what `std::getline` then reads,
none at end of file; `other` is any other set of `revents`. -/
inductive Poll (Received : Type) where
  | failed
  | timedOut
  | socket (received : Received)
  | stdin (line : Option Bytes)
  | other
  deriving DecidableEq, Repr

/-- What happens to the client from outside. -/
inductive Event (Received : Type) where
  | sigint
  | poll (result : Poll Received)
  deriving DecidableEq, Repr

/-- The handler function an iteration calls. -/
inductive Call (Received : Type) where
  | processServerMessage (received : Received)
  | processUserInput (line : Bytes)
  | resendLastMessage
  | none
  deriving DecidableEq, Repr

/-- What an iteration did: the call it made, its effects, and what it returned. -/
structure Report (Received : Type) where
  call : Call Received := .none
  effects : List Effect := []
  returned : Option ClientState := none
  deriving DecidableEq, Repr

namespace StreamHandler

/-- The client before its first iteration. -/
def start (handler : H) (retryCount : UInt8) : StreamHandler H where
  protocolHandler := handler
  retryCount := retryCount
  retrans := retryCount

/-- The loop goes on with what a handler call returned. A call that runs off the
end of its function is taken to return READY_FOR_INPUT. -/
def resume (loop : StreamHandler H) (outcome : Outcome H) : StreamHandler H :=
  { loop with
    protocolHandler := outcome.handler
    state := outcome.returned.getD .readyForInput }

/-- `protocolHandler->process_user_input(line)`. -/
def userInput [ProtocolHandler H Received] (loop : StreamHandler H) (line : Bytes) :
    Option (Report Received × StreamHandler H) := do
  let outcome ← ProtocolHandler.processUserInput loop.protocolHandler line
  some (⟨.processUserInput line, outcome.effects, outcome.returned⟩, loop.resume outcome)

/-- `protocolHandler->process_server_message()`, and the retry count restored
when nothing is left to confirm. -/
def serverMessage [ProtocolHandler H Received] (loop : StreamHandler H) (received : Received) :
    Option (Report Received × StreamHandler H) := do
  let outcome ← ProtocolHandler.processServerMessage loop.protocolHandler received
  let loop := loop.resume outcome
  some (⟨.processServerMessage received, outcome.effects, outcome.returned⟩,
    if loop.state ≠ .waitingForConfirmation then { loop with retryCount := loop.retrans } else loop)

/-- The branches on `n_events` and `revents`. -/
def dispatch [ProtocolHandler H Received] (loop : StreamHandler H) :
    Poll Received → Option (Report Received × StreamHandler H)
  | .failed => some ({ effects := [.perror (text "poll")] }, { loop with exited := true })
  | .timedOut =>
    if loop.state = .waitingForConfirmation then
      if 0 < loop.retryCount then
        some ({ call := .resendLastMessage
                effects := ProtocolHandler.resendLastMessage loop.protocolHandler },
          { loop with retryCount := loop.retryCount - 1 })
      else some ({}, { loop with state := .over })
    else some ({}, loop)
  | .socket received => loop.serverMessage received
  | .stdin line =>
    -- stdin is left alone while a reply or a confirmation is awaited
    if loop.state = .waitingForReply ∨ loop.state = .waitingForConfirmation then some ({}, loop)
    else
      match line with
      | some input => if input = [] then some ({}, loop) else loop.userInput input
      | none => loop.userInput (text "/exit")
  | .other => some ({}, loop)

/-- One iteration of `run_event_loop`, or a signal between two of them. Nothing
happens any more once the state is OVER or the process has exited. -/
def iterate [ProtocolHandler H Received] (loop : StreamHandler H) :
    Event Received → Option (Report Received × StreamHandler H)
  | .sigint =>
    if loop.state = .over ∨ loop.exited then none
    else some ({}, { loop with interrupted := true })
  | .poll result =>
    if loop.state = .over ∨ loop.exited then none
    else if loop.interrupted && loop.firstTimeInterrupted then do
      let (report, after) ← loop.userInput (text "/exit")
      some (report, { after with firstTimeInterrupted := false })
    else loop.dispatch result

end StreamHandler

/-- One iteration with its surroundings. -/
abbrev Turn (H Received : Type) :=
  Transition.Turn (StreamHandler H) (Event Received) (Report Received)

/-- The runs of a client whose handler starts as `handler` and which retransmits
at most `retryCount` times. -/
abbrev ClientRun [ProtocolHandler H Received] (handler : H) (retryCount : UInt8) :
    List (Turn H Received) → StreamHandler H → Prop :=
  Transition.Run StreamHandler.iterate (StreamHandler.start handler retryCount)

section Iterations
variable [ProtocolHandler H Received] {loop after : StreamHandler H} {event : Event Received}
  {report : Report Received}

/-- What one iteration can do, by the call it makes. -/
inductive Iteration [ProtocolHandler H Received] (loop : StreamHandler H) :
    Event Received → Report Received → StreamHandler H → Prop where
  | server {received : Received} {outcome : Outcome H} {after : StreamHandler H}
      (called : ProtocolHandler.processServerMessage loop.protocolHandler received = some outcome)
      (handler : after.protocolHandler = outcome.handler)
      (state : after.state = outcome.returned.getD .readyForInput) :
      Iteration loop (.poll (.socket received))
        ⟨.processServerMessage received, outcome.effects, outcome.returned⟩ after
  | user {event : Event Received} {line : Bytes} {outcome : Outcome H} {after : StreamHandler H}
      (called : ProtocolHandler.processUserInput loop.protocolHandler line = some outcome)
      (reads : line = text "/exit" ∨
        (line ≠ [] ∧ loop.state ≠ .waitingForReply ∧ loop.state ≠ .waitingForConfirmation))
      (handler : after.protocolHandler = outcome.handler)
      (state : after.state = outcome.returned.getD .readyForInput) :
      Iteration loop event ⟨.processUserInput line, outcome.effects, outcome.returned⟩ after
  | resend {after : StreamHandler H} (waiting : loop.state = .waitingForConfirmation)
      (handler : after.protocolHandler = loop.protocolHandler)
      (state : after.state = .waitingForConfirmation) :
      Iteration loop (.poll .timedOut)
        ⟨.resendLastMessage, ProtocolHandler.resendLastMessage loop.protocolHandler, none⟩ after
  | giveUp {after : StreamHandler H} (waiting : loop.state = .waitingForConfirmation)
      (handler : after.protocolHandler = loop.protocolHandler) (state : after.state = .over) :
      Iteration loop (.poll .timedOut) {} after
  | idle {event : Event Received} {effects : List Effect} {after : StreamHandler H}
      (silent : effects = [] ∨ effects = [.perror (text "poll")])
      (handler : after.protocolHandler = loop.protocolHandler)
      (state : after.state = loop.state) : Iteration loop event { effects } after

/-- The branches of one iteration, each with the loop it leaves. -/
inductive Branch [ProtocolHandler H Received] (loop : StreamHandler H) :
    Event Received → Report Received → StreamHandler H → Prop where
  | signalled : Branch loop .sigint {} { loop with interrupted := true }
  | interrupted {result : Poll Received} {outcome : Outcome H}
      (first : loop.interrupted = true ∧ loop.firstTimeInterrupted = true)
      (called : ProtocolHandler.processUserInput loop.protocolHandler (text "/exit") = some outcome) :
      Branch loop (.poll result) ⟨.processUserInput (text "/exit"), outcome.effects, outcome.returned⟩
        { loop.resume outcome with firstTimeInterrupted := false }
  | failed : Branch loop (.poll .failed) { effects := [.perror (text "poll")] }
      { loop with exited := true }
  | resent (waiting : loop.state = .waitingForConfirmation) (left : 0 < loop.retryCount) :
      Branch loop (.poll .timedOut)
        ⟨.resendLastMessage, ProtocolHandler.resendLastMessage loop.protocolHandler, none⟩
        { loop with retryCount := loop.retryCount - 1 }
  | gaveUp (waiting : loop.state = .waitingForConfirmation) (none : loop.retryCount = 0) :
      Branch loop (.poll .timedOut) {} { loop with state := .over }
  | served {received : Received} {outcome : Outcome H}
      (called : ProtocolHandler.processServerMessage loop.protocolHandler received = some outcome) :
      Branch loop (.poll (.socket received))
        ⟨.processServerMessage received, outcome.effects, outcome.returned⟩
        (if (loop.resume outcome).state ≠ .waitingForConfirmation
          then { loop.resume outcome with retryCount := loop.retrans } else loop.resume outcome)
  | typed {entered : Option Bytes} {line : Bytes} {outcome : Outcome H}
      (called : ProtocolHandler.processUserInput loop.protocolHandler line = some outcome)
      (reads : line = text "/exit" ∨ line ≠ []) (noReply : loop.state ≠ .waitingForReply)
      (noConfirm : loop.state ≠ .waitingForConfirmation) :
      Branch loop (.poll (.stdin entered)) ⟨.processUserInput line, outcome.effects, outcome.returned⟩
        (loop.resume outcome)
  | passed {result : Poll Received} : Branch loop (.poll result) {} loop

/-- A line that is handed over, and what it comes to. -/
theorem called_of_userInput {line : Bytes} (ran : loop.userInput line = some (report, after)) :
    ∃ outcome, ProtocolHandler.processUserInput loop.protocolHandler line = some outcome ∧
      report = ⟨.processUserInput line, outcome.effects, outcome.returned⟩ ∧
      after = loop.resume outcome := by
  simp only [StreamHandler.userInput, Option.bind_eq_bind, Option.bind_eq_some_iff,
    Option.some.injEq, Prod.mk.injEq] at ran
  obtain ⟨outcome, called, rfl, rfl⟩ := ran
  exact ⟨outcome, called, rfl, rfl⟩

private theorem branch_of_timedOut (ran : loop.dispatch .timedOut = some (report, after)) :
    Branch loop (.poll .timedOut) report after := by
  simp only [StreamHandler.dispatch] at ran
  split at ran
  · rename_i waiting
    split at ran
    · rename_i left
      cases ran
      exact .resent waiting left
    · rename_i none
      cases ran
      apply Branch.gaveUp waiting
      rw [← UInt8.toNat_inj]
      simpa [UInt8.lt_iff_toNat_lt] using none
  · cases ran
    exact .passed

private theorem branch_of_stdin {line : Option Bytes}
    (ran : loop.dispatch (.stdin line) = some (report, after)) :
    Branch loop (.poll (.stdin line)) report after := by
  simp only [StreamHandler.dispatch] at ran
  split at ran
  · cases ran
    exact .passed
  rename_i reads
  obtain ⟨noReply, noConfirm⟩ := not_or.mp reads
  cases line with
  | none =>
    obtain ⟨outcome, called, rfl, rfl⟩ := called_of_userInput ran
    exact .typed called (.inl rfl) noReply noConfirm
  | some input =>
    simp only at ran
    split at ran
    · cases ran
      exact .passed
    · rename_i nonempty
      obtain ⟨outcome, called, rfl, rfl⟩ := called_of_userInput ran
      exact .typed called (.inr nonempty) noReply noConfirm

private theorem branch_of_dispatch {result : Poll Received}
    (ran : loop.dispatch result = some (report, after)) :
    Branch loop (.poll result) report after := by
  cases result with
  | failed =>
    cases ran
    exact .failed
  | timedOut => exact branch_of_timedOut ran
  | socket received =>
    simp only [StreamHandler.dispatch, StreamHandler.serverMessage, Option.bind_eq_bind,
      Option.bind_eq_some_iff, Option.some.injEq, Prod.mk.injEq] at ran
    obtain ⟨outcome, called, rfl, rfl⟩ := ran
    exact .served called
  | stdin line => exact branch_of_stdin ran
  | other =>
    cases ran
    exact .passed

/-- Every iteration takes one of the branches. -/
theorem branch_of_iterate (ran : loop.iterate event = some (report, after)) :
    loop.state ≠ .over ∧ Branch loop event report after := by
  cases event with
  | sigint =>
    simp only [StreamHandler.iterate] at ran
    split at ran
    · cases ran
    · rename_i goes
      cases ran
      exact ⟨fun ended => goes (.inl ended), .signalled⟩
  | poll result =>
    simp only [StreamHandler.iterate] at ran
    split at ran
    · cases ran
    rename_i goes
    refine ⟨fun ended => goes (.inl ended), ?_⟩
    split at ran
    · rename_i first
      simp only [Option.bind_eq_bind, Option.bind_eq_some_iff, Option.some.injEq,
        Prod.mk.injEq] at ran
      obtain ⟨⟨report, after⟩, entered, rfl, rfl⟩ := ran
      obtain ⟨outcome, called, rfl, rfl⟩ := called_of_userInput entered
      exact .interrupted (by simpa using first) called
    · exact branch_of_dispatch ran

/-- Every iteration is one of these, and starts in a loop that goes on. -/
theorem iteration_of_iterate (ran : loop.iterate event = some (report, after)) :
    loop.state ≠ .over ∧ Iteration loop event report after := by
  obtain ⟨goes, branch⟩ := branch_of_iterate ran
  refine ⟨goes, ?_⟩
  cases branch with
  | signalled => exact .idle (.inl rfl) rfl rfl
  | interrupted _ called => exact .user called (.inl rfl) rfl rfl
  | failed => exact .idle (.inr rfl) rfl rfl
  | resent waiting => exact .resend waiting rfl waiting
  | gaveUp waiting => exact .giveUp waiting rfl rfl
  | served called =>
    refine .server called ?_ ?_
    · split <;> rfl
    · split <;> rfl
  | typed called reads noReply noConfirm =>
    exact .user called (reads.imp_right fun nonempty => ⟨nonempty, noReply, noConfirm⟩) rfl rfl
  | passed => exact .idle (.inl rfl) rfl rfl

/-- While the client waits for a confirmation it reads no line but the `/exit` of the
first interrupt. -/
theorem exit_of_waiting {line : Bytes} (waiting : loop.state = .waitingForConfirmation)
    (ran : loop.iterate event = some (report, after))
    (called : report.call = .processUserInput line) :
    (∃ result, event = .poll result) ∧
      line = text "/exit" ∧ loop.interrupted = true ∧ loop.firstTimeInterrupted = true := by
  cases (branch_of_iterate ran).2 with
  | interrupted first =>
    cases called
    exact ⟨⟨_, rfl⟩, rfl, first⟩
  | typed _ _ _ noConfirm => exact absurd waiting noConfirm
  | signalled | failed | resent | gaveUp | served | passed => cases called

/-- How an iteration counts the retries left. -/
theorem retryCount_of_iterate (ran : loop.iterate event = some (report, after)) :
    after.retrans = loop.retrans ∧
      match report.call with
      | .processServerMessage _ => after.retryCount =
          if after.state = .waitingForConfirmation then loop.retryCount else loop.retrans
      | .processUserInput _ => after.retryCount = loop.retryCount
      | .resendLastMessage => 0 < loop.retryCount ∧ after.retryCount = loop.retryCount - 1
      | .none => after.retryCount = loop.retryCount ∧
          (after.state = loop.state ∨ loop.retryCount = 0) := by
  cases (branch_of_iterate ran).2 with
  | signalled | failed | passed => exact ⟨rfl, rfl, .inl rfl⟩
  | interrupted | typed => exact ⟨rfl, rfl⟩
  | resent _ left => exact ⟨rfl, left, rfl⟩
  | gaveUp _ none => exact ⟨rfl, rfl, .inr none⟩
  | @served _ outcome =>
    by_cases waits : (loop.resume outcome).state = .waitingForConfirmation
    · rw [if_neg (not_not.mpr waits)]
      exact ⟨rfl, (if_pos waits).symm⟩
    · rw [if_pos waits]
      exact ⟨rfl, (if_neg waits).symm⟩

/-- Once the state is OVER the loop makes no further iteration. -/
theorem iterate_over (ended : loop.state = .over) (event : Event Received) :
    loop.iterate event = none := by
  cases event <;> simp [StreamHandler.iterate, ended]

/-- What an iteration does to the signal: it takes note of it, keeps it, and leaves
the first interrupt to be served unless it serves it. -/
theorem signal_of_iterate (ran : loop.iterate event = some (report, after)) :
    (event = .sigint ∨ loop.interrupted = true → after.interrupted = true) ∧
      (after.firstTimeInterrupted = loop.firstTimeInterrupted ∨
        (after.firstTimeInterrupted = false ∧ ∃ outcome,
          ProtocolHandler.processUserInput loop.protocolHandler (text "/exit") = some outcome ∧
          after.state = outcome.returned.getD .readyForInput)) := by
  have kept {result : Poll Received} (same : after.interrupted = loop.interrupted) :
      Event.poll result = .sigint ∨ loop.interrupted = true → after.interrupted = true := by
    rintro (other | before)
    · cases other
    · exact same.trans before
  cases (branch_of_iterate ran).2 with
  | signalled => exact ⟨fun _ => rfl, .inl rfl⟩
  | interrupted _ called => exact ⟨kept rfl, .inr ⟨rfl, _, called, rfl⟩⟩
  | failed | resent | gaveUp | typed | passed => exact ⟨kept rfl, .inl rfl⟩
  | served =>
    refine ⟨kept ?_, .inl ?_⟩
    · split <;> rfl
    · split <;> rfl

/-- A poll of a loop in which the first interrupt is due serves it, whatever it finds. -/
theorem iterate_interrupted {outcome : Outcome H} (goes : loop.state ≠ .over)
    (running : loop.exited = false) (due : loop.interrupted = true ∧ loop.firstTimeInterrupted = true)
    (called : ProtocolHandler.processUserInput loop.protocolHandler (text "/exit") = some outcome)
    (result : Poll Received) : loop.iterate (.poll result) =
      some (⟨.processUserInput (text "/exit"), outcome.effects, outcome.returned⟩,
        { loop.resume outcome with firstTimeInterrupted := false }) := by
  have ended : ¬ (loop.state = .over ∨ loop.exited = true) := by simp [goes, running]
  rw [StreamHandler.iterate, if_neg ended, if_pos (by simpa using due), StreamHandler.userInput, called]
  rfl

/-- The process runs and the next `poll` decides what it does: no interrupt is due. -/
structure StreamHandler.Calm (loop : StreamHandler H) : Prop where
  running : loop.exited = false
  calm : ¬ (loop.interrupted = true ∧ loop.firstTimeInterrupted = true)

/-- A loop that goes on does what `poll` finds. -/
theorem StreamHandler.Calm.iterate (calm : loop.Calm) (goes : loop.state ≠ .over)
    (result : Poll Received) : loop.iterate (.poll result) = loop.dispatch result := by
  have ended : ¬ (loop.state = .over ∨ loop.exited = true) := by simp [goes, calm.running]
  have due : ¬ (loop.interrupted && loop.firstTimeInterrupted) = true := by simpa using calm.calm
  rw [StreamHandler.iterate, if_neg ended, if_neg due]

/-- What arrives on its socket is handed over. -/
theorem StreamHandler.Calm.serve (calm : loop.Calm) (goes : loop.state ≠ .over)
    {received : Received} {outcome : Outcome H}
    (called : ProtocolHandler.processServerMessage loop.protocolHandler received = some outcome) :
    ∃ after, loop.iterate (.poll (.socket received)) =
        some (⟨.processServerMessage received, outcome.effects, outcome.returned⟩, after) ∧
      after.protocolHandler = outcome.handler ∧
      after.state = outcome.returned.getD .readyForInput ∧ after.Calm := by
  refine ⟨_, by rw [calm.iterate goes, StreamHandler.dispatch, StreamHandler.serverMessage, called]; rfl, ?_⟩
  by_cases waits : (loop.resume outcome).state = .waitingForConfirmation
  · rw [if_neg (not_not.mpr waits)]
    exact ⟨rfl, rfl, calm.running, calm.calm⟩
  · rw [if_pos waits]
    exact ⟨rfl, rfl, calm.running, calm.calm⟩

/-- A line typed into a ready loop is handed over. -/
theorem StreamHandler.Calm.enter (calm : loop.Calm) (ready : loop.state = .readyForInput)
    {line : Bytes} {outcome : Outcome H} (some' : line ≠ [])
    (called : ProtocolHandler.processUserInput loop.protocolHandler line = some outcome) :
    loop.iterate (.poll (.stdin (some line))) =
      some (⟨.processUserInput line, outcome.effects, outcome.returned⟩, loop.resume outcome) := by
  rw [calm.iterate (by simp [ready])]
  simp [StreamHandler.dispatch, ready, some', StreamHandler.userInput, called]

/-- An empty line is not. -/
theorem StreamHandler.Calm.enter_nil (calm : loop.Calm) (goes : loop.state ≠ .over) :
    loop.iterate (.poll (.stdin (some []))) = some ({}, loop) := by
  rw [calm.iterate goes]
  simp [StreamHandler.dispatch]

end Iterations

end ChatClient
