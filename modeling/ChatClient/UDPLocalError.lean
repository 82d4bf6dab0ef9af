import ChatClient.UDPRuns

/-! An error of the UDP client's own. Once an ERR was originated its handshake runs
to the end: the flag stays set, so stdin stays shut and nothing but a BYE can be
originated, and the BYE follows the confirmation of the ERR. -/

namespace ChatClient

open Transition UDPProtocolHandler UDPMessageValidator

variable {server : SockAddr} {retries : UInt8} {history : List UDPTurn}
  {loop after : StreamHandler UDPProtocolHandler} {event : Event Datagram}
  {report : Report Datagram}

/-- The client has originated an ERR; only `send_error_message` does. -/
def ErrorSent (history : List UDPTurn) : Prop := ∃ m ∈ allOriginated history, hasType 0xFE m = true

/-- Nothing is originated in one turn with an ERR. Once an ERR was originated, a turn
leaves the flag set or the session over, reads no line but the `/exit` of an
interrupt, originates nothing but a BYE, and answers the confirmation of the ERR
with the first BYE. -/
structure ClosesOrderly (before : List UDPTurn) (turn : UDPTurn) : Prop where
  alone : ∀ err ∈ originated turn, hasType 0xFE err = true → originated turn = [err]
  waits : ErrorSent (before ++ [turn]) → turn.after.state = .over ∨
    turn.after.protocolHandler.waitingForConfirmation = true
  unread : ErrorSent before → ∀ line, turn.output.call = .processUserInput line →
    line = text "/exit" ∧ turn.before.interrupted = true ∧ turn.before.firstTimeInterrupted = true
  byes : ErrorSent before → ∀ m ∈ originated turn, hasType 0xFF m = true
  followed : ∀ err ∈ allOriginated before, hasType 0xFE err = true →
    (∀ m ∈ allOriginated before, hasType 0xFF m = false) → confirmed turn = messageId err →
    ∃ id, messageId err = some id ∧ originated turn = [formByeMessage (id + 1)]

/-! ## The link -/

/-- The link once an ERR is among what was originated: the ERR, which is then the
last datagram, or a BYE is to be confirmed. -/
structure Failing (all : List Bytes) (link : Link) : Prop where
  closes : link.failed = true ∨ link.ending = true
  pending : link.ending = false → ∀ err ∈ all, hasType 0xFE err = true → err = link.last ∧
    messageId link.last = some link.awaited ∧ link.next = link.awaited + 1

section Moves
variable {link next : Link} {confirm : Option UInt16} {all sends : List Bytes}

/-- The first ERR. -/
theorem LinkMove.fails (move : LinkMove link confirm sends next)
    (none : ∀ m ∈ all, hasType 0xFE m = false) (error : ∃ m ∈ sends, hasType 0xFE m = true) :
    Failing (all ++ sends) next ∧ next.waiting = true := by
  obtain ⟨m, member, kind⟩ := error
  cases move with
  | quiet | closed | settled => cases member
  | followed | bye =>
    rw [List.mem_singleton.mp member] at kind
    simp at kind
  | requested codes =>
    rw [List.mem_singleton.mp member] at kind
    rcases codes with rfl | rfl | rfl <;> simp at kind
  | failed =>
    refine ⟨⟨.inl rfl, fun _ err among failed => ?_⟩, rfl⟩
    rcases List.mem_append.mp among with before | last
    · rw [none err before] at failed
      cases failed
    · exact ⟨List.mem_singleton.mp last, messageId_header _ _ _, rfl⟩

/-- While the flag is set, a failing link stays so, whatever is originated is a BYE,
and the flag is cleared only by the confirmation of a BYE. -/
theorem LinkMove.failing (move : LinkMove link confirm sends next) (waits : link.waiting = true)
    (failing : Failing all link) : Failing (all ++ sends) next ∧
      (∀ m ∈ sends, hasType 0xFF m = true) ∧
      (next.waiting = true ∨ (link.ending = true ∧ confirm = some link.awaited)) := by
  cases move with
  | quiet => exact ⟨by simpa using failing, by simp, .inl waits⟩
  | closed ending => exact ⟨⟨.inr ending, by simp [ending]⟩, by simp, .inr ⟨ending, rfl⟩⟩
  | followed => exact ⟨⟨.inr rfl, by simp⟩, by simp, .inl waits⟩
  | settled goes sound =>
    rcases failing.closes with failed | ending
    · cases failed.symm.trans sound
    · cases ending.symm.trans goes
  | requested _ idle | failed idle => cases waits.symm.trans idle
  | bye armed => exact ⟨⟨.inr rfl, by simp⟩, by simp, .inl (armed.elim id (·.trans waits))⟩

/-- The confirmation of the ERR is answered with the BYE that has the next ID. -/
theorem LinkMove.follows {err : Bytes} (move : LinkMove link confirm sends next)
    (failing : Failing all link) (goes : link.ending = false) (member : err ∈ all)
    (kind : hasType 0xFE err = true) (confirms : confirm = messageId err) :
    ∃ id, messageId err = some id ∧ sends = [formByeMessage (id + 1)] := by
  obtain ⟨rfl, id, follows⟩ := failing.pending goes err member kind
  rw [id] at confirms
  cases move with
  | quiet other => exact absurd confirms other
  | closed ending => cases ending.symm.trans goes
  | followed => exact ⟨_, id, by rw [follows]⟩
  | settled _ sound =>
    rcases failing.closes with failed | ending
    · cases failed.symm.trans sound
    · cases ending.symm.trans goes
  | requested | failed | bye => cases confirms

end Moves

/-! ## Runs -/

/-- From the first ERR on the client is failing, and the flag is set until the
session is over. -/
theorem udpRun_failing (run : UDPRun server retries history loop) (sent : ErrorSent history) :
    Failing (allOriginated history) loop.protocolHandler.link ∧
      (loop.state ≠ .over → loop.protocolHandler.link.waiting = true) := by
  refine run.invariant (I := fun history loop => ErrorSent history →
    Failing (allOriginated history) loop.protocolHandler.link ∧
      (loop.state ≠ .over → loop.protocolHandler.link.waiting = true))
    (by simp [ErrorSent, allOriginated]) (fun run before ran sent => ?_) sent
  have goes := (iteration_of_iterate ran).1
  have move := linkMove_of_iterate ran (udpRun_linked run).gated
  rw [ErrorSent, allOriginated_snoc] at sent
  rw [allOriginated_snoc]
  rename_i history loop event report after
  by_cases earlier : ErrorSent history
  · obtain ⟨failing, waits⟩ := before earlier
    obtain ⟨kept, -, armed⟩ := move.failing (waits goes) failing
    refine ⟨kept, fun goes => armed.resolve_right fun closed => goes ?_⟩
    exact over_of_byeConfirmed ran closed.1 closed.2
  · have none : ∀ m ∈ allOriginated history, hasType 0xFE m = false := fun m member => by
      by_contra error
      exact earlier ⟨m, member, by simpa using error⟩
    obtain ⟨m, member, kind⟩ := sent
    rcases List.mem_append.mp member with before | now
    · exact absurd ⟨m, before, kind⟩ earlier
    · obtain ⟨failing, waits⟩ := move.fails none ⟨m, now, kind⟩
      exact ⟨failing, fun _ => waits⟩

/-- In every run a local error leads to an orderly close. -/
theorem local_error_closes (run : UDPRun server retries history loop) :
    Throughout ClosesOrderly history := by
  refine @Run.throughout _ _ _ _ _ _ _ ClosesOrderly run ?_
  intro history loop event report after run ran
  have linked := udpRun_linked run
  have goes := (iteration_of_iterate ran).1
  have move := linkMove_of_iterate ran linked.gated
  refine ⟨fun err member _ => move.single member, fun sent => ?_, fun sent line called => ?_,
    fun sent => ?_, fun err member kind noBye confirms => ?_⟩
  · exact or_iff_not_imp_left.mpr (udpRun_failing (run.turn ran) sent).2
  · refine (exit_of_waiting ?_ ran called).2
    by_contra noConfirm
    have idle := linked.gated.idle goes noConfirm
    cases ((udpRun_failing run sent).2 goes).symm.trans idle
  · obtain ⟨failing, waits⟩ := udpRun_failing run sent
    exact (move.failing (waits goes) failing).2.1
  · have failing := (udpRun_failing run ⟨err, member, kind⟩).1
    exact move.follows failing (linked.noBye.mpr noBye) member kind confirms

/-- A datagram without a header, a line that is not read, and the confirmations of
the ERR and of the BYE. -/
theorem local_error_closes_malformed : ∃ history loop, UDPRun localServer 3 history loop ∧
    loop.state = .over ∧
    allOriginated history = [header 0xFE 0 ++ [0] ++ text "Unexpected format" ++ [0],
      formByeMessage 1] ∧ Throughout ClosesOrderly history := by
  have ran : sample [arrives [0x05], types "hi", arrives [0x00, 0, 0], arrives [0x00, 0, 1]] =
    some (_, _) := rfl
  exact ⟨_, _, Run.of_exec ran, rfl, rfl, local_error_closes (Run.of_exec ran)⟩

end ChatClient
