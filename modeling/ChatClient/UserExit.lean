import Mathlib.Algebra.GroupWithZero.Nat
import ChatClient.TCPTermination
import ChatClient.UDPStopAndWait

/-! The user's way out: `/exit`, the end of the input, or an interrupt, which the
loop serves as an `/exit` at its next `poll`.

Over TCP the session is over with that call. Over UDP the BYE has to be confirmed:
the client then originates nothing but BYEs, reads no line, and is over by a
confirmation, an error of a system call or one timeout more than it has
retransmissions left, since nothing that arrives in between restores them. -/

namespace ChatClient

open Transition UDPProtocolHandler

/-- The turn serves the user's way out. -/
def Exits {H Received : Type} (turn : Turn H Received) : Prop :=
  turn.output.call = .processUserInput (text "/exit")

/-- A signal has come. -/
def Signalled {H Received : Type} (history : List (Turn H Received)) : Prop :=
  ∃ turn ∈ history, turn.input = .sigint

/-! ## The interrupt over TCP -/

section TCP
variable {retries : UInt8} {history : List TCPTurn} {loop after : StreamHandler TCPClient}
  {event : Event Recv} {report : Report Recv}

/-- A signal that has come is pending until the session is over. -/
structure Pending (history : List TCPTurn) (loop : StreamHandler TCPClient) : Prop where
  first : loop.state = .over ∨ loop.firstTimeInterrupted = true
  kept : Signalled history → loop.interrupted = true

private theorem TCPClient.processUserInput_exit (client : TCPClient) :
    client.processUserInput (text "/exit") = some ⟨client, [.send byeLine], some .over⟩ := rfl

/-- Every iteration keeps the signal, or serves it and ends the session. -/
theorem Pending.step (pending : Pending history loop)
    (ran : loop.iterate event = some (report, after)) :
    Pending (history ++ [⟨loop, event, report, after⟩]) after := by
  obtain ⟨noted, served⟩ := signal_of_iterate ran
  constructor
  · rcases served with same | ⟨-, outcome, called, state⟩
    · exact .inr (same.trans (pending.first.resolve_left (branch_of_iterate ran).1))
    · cases called.symm.trans (TCPClient.processUserInput_exit _)
      exact .inl state
  · rintro ⟨turn, member, signal⟩
    rcases List.mem_append.mp member with before | now
    · exact noted (.inr (pending.kept ⟨turn, before, signal⟩))
    · rw [List.mem_singleton.mp now] at signal
      exact noted (.inl signal)

theorem tcpRun_pending (run : TCPRun retries history loop) : Pending history loop := by
  refine run.invariant (I := Pending) ⟨.inr rfl, ?_⟩ fun _ pending ran => pending.step ran
  rintro ⟨turn, member, -⟩
  cases member

/-- After a signal there are only more signals, which do nothing, and then one poll,
which sends BYE whatever it finds, and ends the session. -/
def EndsInterrupted (turn : TCPTurn) : Prop :=
  (turn.input = .sigint ∧ turn.output = {}) ∨
    ((∃ result, turn.input = .poll result) ∧ turn.output.effects = [.send byeLine] ∧
      turn.after.state = .over)

/-- The poll that follows a signal. -/
theorem Pending.poll (pending : Pending history loop) (signalled : Signalled history)
    (goes : loop.state ≠ .over) (running : loop.exited = false) (result : Poll Recv) :
    loop.iterate (.poll result) =
      some (⟨.processUserInput (text "/exit"), [.send byeLine], some .over⟩,
        { loop with state := .over, firstTimeInterrupted := false }) :=
  iterate_interrupted goes running ⟨pending.kept signalled, pending.first.resolve_left goes⟩
    (TCPClient.processUserInput_exit _) result

/-- In every run of the TCP client each turn after a signal is another signal, or says
BYE and is the last; and as long as the process runs and the session is not over,
the next poll is such a turn, whatever it finds. -/
theorem tcp_interrupt_ends (run : TCPRun retries history loop) :
    Throughout (fun before turn => Signalled before → EndsInterrupted turn) history ∧
      (Signalled history → loop.state ≠ .over → loop.exited = false → ∀ result,
        ∃ report after, loop.iterate (.poll result) = some (report, after) ∧
          EndsInterrupted ⟨loop, .poll result, report, after⟩) := by
  have ends {loop : StreamHandler TCPClient} {result : Poll Recv} :
      EndsInterrupted ⟨loop, .poll result, ⟨.processUserInput (text "/exit"), [.send byeLine], some .over⟩,
        { loop with state := .over, firstTimeInterrupted := false }⟩ := .inr ⟨⟨result, rfl⟩, rfl, rfl⟩
  constructor
  · refine run.throughout fun {history loop event report after} run ran signalled => ?_
    have branch := branch_of_iterate ran
    cases event with
    | sigint =>
      cases branch.2
      exact .inl ⟨rfl, rfl⟩
    | poll result =>
      by_cases running : loop.exited = true
      · simp [StreamHandler.iterate, running] at ran
      · have running : loop.exited = false := by simpa using running
        cases ran.symm.trans ((tcpRun_pending run).poll signalled branch.1 running result)
        exact ends
  · intro signalled goes running result
    exact ⟨_, _, (tcpRun_pending run).poll signalled goes running result, ends⟩

/-- Two signals, then a reply that is not read any more. -/
theorem tcp_interrupt_ends_auth : ∃ history loop, TCPRun 3 history loop ∧ Signalled history ∧
    loop.state = .over ∧ sentIn history = [text "AUTH a AS c USING b\r\n", byeLine] ∧
    Throughout (fun before turn => Signalled before → EndsInterrupted turn) history := by
  have ran : tcpSample [enters "/auth a b c", .sigint, .sigint,
    streams (piece "REPLY OK IS hi\r\n")] = some (_, _) := rfl
  exact ⟨_, _, Run.of_exec ran, ⟨_, .tail _ (.head _), rfl⟩, rfl, by decide,
    (tcp_interrupt_ends (Run.of_exec ran)).1⟩

end TCP

/-! ## The budget of a wait -/

section Budget
variable {H Received : Type} [ProtocolHandler H Received] {loop after : StreamHandler H}
  {event : Event Received} {report : Report Received}

/-- Whether a turn retransmits. -/
def resends (turn : Turn H Received) : Nat :=
  match turn.output.call with
  | .resendLastMessage => 1
  | _ => 0

/-- Whether `poll` times out in a turn. -/
def timesOut (turn : Turn H Received) : Nat :=
  match turn.input with
  | .poll .timedOut => 1
  | _ => 0

private theorem timedOut_of_waiting (waiting : loop.state = .waitingForConfirmation)
    (ran : loop.iterate (.poll .timedOut : Event Received) = some (report, after)) :
    (loop.firstTimeInterrupted = true ∧ after.firstTimeInterrupted = false) ∨
      report.call = .resendLastMessage ∨ after.state = .over := by
  simp only [StreamHandler.iterate] at ran
  split at ran
  · cases ran
  split at ran
  · rename_i due
    simp only [Option.bind_eq_bind, Option.bind_eq_some_iff, Option.some.injEq, Prod.mk.injEq] at ran
    obtain ⟨_, _, _, rfl⟩ := ran
    exact .inl ⟨by simpa using (Bool.and_eq_true_iff.mp due).2, rfl⟩
  · simp only [StreamHandler.dispatch, waiting, ↓reduceIte] at ran
    split at ran
    · cases ran
      exact .inr (.inl rfl)
    · cases ran
      exact .inr (.inr rfl)

/-- A retransmission costs one retry, and nothing that arrives gives it back as long as
the client waits. -/
theorem resends_of_iterate (ran : loop.iterate event = some (report, after)) :
    (after.state = .waitingForConfirmation →
      resends ⟨loop, event, report, after⟩ + after.retryCount.toNat = loop.retryCount.toNat) ∧
      resends ⟨loop, event, report, after⟩ ≤ loop.retryCount.toNat := by
  have counted := (retryCount_of_iterate ran).2
  obtain ⟨call, effects, returned⟩ := report
  cases call with
  | processServerMessage =>
    refine ⟨fun waits => ?_, Nat.zero_le _⟩
    simp only [waits, ↓reduceIte] at counted
    simp [resends, counted]
  | processUserInput =>
    have kept : after.retryCount = loop.retryCount := counted
    simp [resends, kept]
  | resendLastMessage =>
    obtain ⟨left, spent⟩ := counted
    have left : 0 < loop.retryCount.toNat := left
    have spent : after.retryCount.toNat = loop.retryCount.toNat - 1 := by
      rw [spent, UInt8.toNat_sub_of_le _ _ left]
      rfl
    simp only [resends]
    omega
  | none => simp [resends, counted.1]

/-- A timeout of a wait is a retransmission, or taken for the first interrupt, or the
end. -/
theorem timesOut_of_iterate (waiting : loop.state = .waitingForConfirmation)
    (ran : loop.iterate event = some (report, after)) :
    timesOut ⟨loop, event, report, after⟩ + after.firstTimeInterrupted.toNat ≤
      resends ⟨loop, event, report, after⟩ + loop.firstTimeInterrupted.toNat +
        (if after.state = .over then 1 else 0) := by
  have fewer : after.firstTimeInterrupted.toNat ≤ loop.firstTimeInterrupted.toNat := by
    rcases (signal_of_iterate ran).2 with same | ⟨none, -⟩
    · rw [same]
    · simp [none]
  by_cases timedOut : event = .poll .timedOut
  · subst timedOut
    rcases timedOut_of_waiting waiting ran with ⟨first, served⟩ | resent | ended
    · simp only [timesOut, first, served, Bool.toNat_true, Bool.toNat_false]
      omega
    · simp only [timesOut, resends, resent]
      omega
    · simp only [timesOut, ended, ↓reduceIte]
      omega
  · have none : timesOut ⟨loop, event, report, after⟩ = 0 := by
      unfold timesOut
      split
      · exact absurd ‹_› timedOut
      · rfl
    omega

end Budget

/-! ## The way out over UDP -/

section UDP
variable {server : SockAddr} {retries : UInt8} {before later : List UDPTurn} {turn : UDPTurn}
  {loop after : StreamHandler UDPProtocolHandler} {event : Event Datagram}
  {report : Report Datagram}

/-- A BYE is out and its confirmation is waited for. -/
structure Leaving (loop : StreamHandler UDPProtocolHandler) : Prop where
  waits : loop.state = .waitingForConfirmation
  waiting : loop.protocolHandler.link.waiting = true
  ending : loop.protocolHandler.link.ending = true

/-- A turn on the way out: only BYEs are originated, only an interrupt is served for the
user, and the client waits on or is over. -/
structure LeavingTurn (turn : UDPTurn) : Prop where
  byes : ∀ m ∈ originated turn, hasType 0xFF m = true
  lines : ∀ line, turn.output.call = .processUserInput line → line = text "/exit"
  state : turn.after.state = .waitingForConfirmation ∨ turn.after.state = .over

private theorem leaving_of_exits (ran : loop.iterate event = some (report, after))
    (exits : report.call = .processUserInput (text "/exit")) : Leaving after := by
  obtain ⟨-, iteration⟩ := udpIteration_of_iterate ran
  cases iteration with
  | command called _ handler state =>
    cases exits
    cases called
    exact ⟨state, by rw [handler]; rfl, by rw [handler]; rfl⟩
  | received | lost | resend | giveUp | idle => cases exits

/-- A call on the way out says another BYE at most. -/
theorem LinkMove.leaving {link next : Link} {confirm : Option UInt16} {sends : List Bytes}
    (move : LinkMove link confirm sends next) (waiting : link.waiting = true)
    (ending : link.ending = true) :
    (∀ m ∈ sends, hasType 0xFF m = true) ∧
      (confirm = some link.awaited ∨ (next.waiting = true ∧ next.ending = true)) := by
  cases move with
  | quiet => exact ⟨by simp, .inr ⟨waiting, ending⟩⟩
  | closed => exact ⟨by simp, .inl rfl⟩
  | followed goes | settled goes => exact absurd (ending.symm.trans goes) (by decide)
  | requested _ idle | failed idle => exact absurd (waiting.symm.trans idle) (by decide)
  | bye armed => exact ⟨by simp, .inr ⟨armed.elim id fun same => same.trans waiting, rfl⟩⟩

/-- A turn on the way out stays on it or ends it. -/
theorem Leaving.step (leaving : Leaving loop) (ran : loop.iterate event = some (report, after)) :
    LeavingTurn ⟨loop, event, report, after⟩ ∧ (after.state = .over ∨ Leaving after) := by
  have gated : Gated loop := fun idle => by simp [leaving.waits] at idle
  have move := linkMove_of_iterate ran gated
  obtain ⟨byes, next⟩ := move.leaving leaving.waiting leaving.ending
  have lines : ∀ line, report.call = .processUserInput line → line = text "/exit" :=
    fun line called => (exit_of_waiting leaving.waits ran called).2.1
  have onward : after.state = .over ∨ Leaving after := by
    rcases next with closed | ⟨waiting, ending⟩
    · exact .inl (over_of_byeConfirmed ran leaving.ending closed)
    obtain ⟨-, iteration⟩ := udpIteration_of_iterate ran
    cases iteration with
    | @received _ _ inner _ _ _ decides handler state =>
      have armed : inner.handler.waitingForConfirmation = true := by
        rw [handler] at waiting
        exact waiting
      exact .inr ⟨by simp [state, decides, armed], waiting, ending⟩
    | lost _ state | giveUp _ _ state => exact .inl state
    | command called _ handler state =>
      cases lines _ rfl
      cases called
      exact .inr ⟨state, waiting, ending⟩
    | resend _ _ state => exact .inr ⟨state, waiting, ending⟩
    | idle _ _ state => exact .inr ⟨state.trans leaving.waits, waiting, ending⟩
  exact ⟨⟨byes, lines, onward.symm.imp Leaving.waits id⟩, onward⟩

/-- How far the way out has got from where it began. -/
structure OnTheWay (start : StreamHandler UDPProtocolHandler) (later : List UDPTurn)
    (loop : StreamHandler UDPProtocolHandler) : Prop where
  turns : ∀ turn ∈ later, LeavingTurn turn
  onward : loop.state = .over ∨ Leaving loop
  resent : (later.map resends).sum ≤ start.retryCount.toNat
  left : loop.state = .waitingForConfirmation →
    (later.map resends).sum + loop.retryCount.toNat = start.retryCount.toNat
  timedOut : (later.map timesOut).sum + loop.firstTimeInterrupted.toNat ≤
    (later.map resends).sum + start.firstTimeInterrupted.toNat + (if loop.state = .over then 1 else 0)

/-- One more turn. -/
theorem OnTheWay.step {start : StreamHandler UDPProtocolHandler} (way : OnTheWay start later loop)
    (ran : loop.iterate event = some (report, after)) :
    OnTheWay start (later ++ [⟨loop, event, report, after⟩]) after := by
  have goes := (branch_of_iterate ran).1
  have leaving := way.onward.resolve_left goes
  obtain ⟨turn, onward⟩ := leaving.step ran
  obtain ⟨kept, spent⟩ := resends_of_iterate ran
  have timed := timesOut_of_iterate leaving.waits ran
  have left := way.left leaving.waits
  have before := way.timedOut
  rw [if_neg goes] at before
  refine ⟨?_, onward, ?_, ?_, ?_⟩
  · intro other member
    rcases List.mem_append.mp member with earlier | now
    · exact way.turns other earlier
    · rw [List.mem_singleton.mp now]
      exact turn
  · rw [List.map_append, List.sum_append, List.map_singleton, List.sum_singleton]
    omega
  · intro waits
    have kept := kept waits
    rw [List.map_append, List.sum_append, List.map_singleton, List.sum_singleton]
    omega
  · rw [List.map_append, List.sum_append, List.map_append, List.sum_append, List.map_singleton,
      List.sum_singleton, List.map_singleton, List.sum_singleton]
    omega

/-- Once the user's way out was served in a run of the UDP client, it originates nothing
but BYEs, serves no line but an interrupt, and waits for a confirmation until it is
over, whatever arrives; in the rest of the run `poll` times out at most once more
than retransmissions were left, an interrupt served at a timeout apart. -/
theorem udp_exit_irrevocable (run : UDPRun server retries (before ++ turn :: later) loop)
    (exits : Exits turn) :
    (∀ next ∈ later, LeavingTurn next) ∧
      (later.map resends).sum ≤ turn.after.retryCount.toNat ∧
      (later.map timesOut).sum ≤
        turn.after.retryCount.toNat + turn.after.firstTimeInterrupted.toNat + 1 := by
  have leaving := leaving_of_exits run.split.2 exits
  have way : OnTheWay turn.after later loop := by
    refine run.rest.invariant (I := OnTheWay turn.after) ?_ fun _ way ran => way.step ran
    exact ⟨by simp, .inr leaving, by simp, fun _ => by simp, by simp⟩
  refine ⟨way.turns, way.resent, ?_⟩
  have timed := way.timedOut
  have resent := way.resent
  split at timed <;> omega

/-- An `/exit` whose BYE is never confirmed, in spite of a message, an ERR and another
signal. -/
theorem udp_exit_irrevocable_unconfirmed : ∃ before turn later loop,
    UDPRun localServer 3 (before ++ turn :: later) loop ∧ Exits turn ∧
    (later.length = 7 ∧ loop.state = .over) ∧ (∀ next ∈ later, LeavingTurn next) ∧
      (later.map resends).sum ≤ turn.after.retryCount.toNat ∧
      (later.map timesOut).sum ≤
        turn.after.retryCount.toNat + turn.after.firstTimeInterrupted.toNat + 1 := by
  have ran : sample [types "/exit", .poll .timedOut, types "hello", .sigint, arrives [0x04, 0, 9, 0],
    .poll .timedOut, .poll .timedOut, .poll .timedOut] = some (_, _) := rfl
  have run : UDPRun localServer 3 ([] ++ _ :: _) _ := Run.of_exec ran
  exact ⟨_, _, _, _, run, rfl, ⟨rfl, rfl⟩, udp_exit_irrevocable run rfl⟩

end UDP

end ChatClient
