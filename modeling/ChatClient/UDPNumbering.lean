import ChatClient.Library.Numbering
import ChatClient.UDPRuns

/-! The message IDs of the client's own datagrams. Every site that originates one
builds it with `renamer3000` and then moves the counter on by one, and no other
code touches the counter. -/

namespace ChatClient

open Transition ChatClient.Numbering UDPProtocolHandler UDPMessageValidator

variable {server : SockAddr} {retries : UInt8} {history : List UDPTurn} {turn : UDPTurn}
  {loop after : StreamHandler UDPProtocolHandler} {event : Event Datagram}
  {report : Report Datagram} {h : UDPProtocolHandler} {message line : Bytes}
  {outcome : Outcome UDPProtocolHandler}

/-- Bytes 1 and 2 of a datagram hold a number modulo 2^16, the high byte first. -/
def Carries (number : Nat) (datagram : Bytes) : Prop :=
  ∃ high low, datagram[1]? = some high ∧ datagram[2]? = some low ∧
    high.toNat * 256 + low.toNat = number % UInt16.size

/-- The turn turns a command down. -/
def Rejects (turn : UDPTurn) : Prop :=
  ∃ reason, .internalErrorMessage reason ∈ turn.output.effects

/-- The error a handler has put off. -/
def UDPProtocolHandler.putOff (h : UDPProtocolHandler) : Bool × Bytes :=
  (h.errorWhileWaiting, h.errorMessage)

/-- The turn puts an error off. -/
def PutsOff (turn : UDPTurn) : Prop :=
  turn.after.protocolHandler.putOff ≠ turn.before.protocolHandler.putOff

/-- The turn consumes no ID. -/
def KeepsCount (turn : UDPTurn) : Prop :=
  turn.after.protocolHandler.renamer3000 = turn.before.protocolHandler.renamer3000

/-- A turn consumes one ID for each datagram it originates, and none for a command
turned down, an error put off, a CONFIRM or a retransmission. -/
structure CountsOwn (turn : UDPTurn) : Prop where
  counts : turn.after.protocolHandler.renamer3000 =
    turn.before.protocolHandler.renamer3000 + UInt16.ofNat (originated turn).length
  rejected : Rejects turn → KeepsCount turn
  putOff : PutsOff turn → KeepsCount turn
  confirming : (∀ m ∈ sent turn.output.effects, hasType 0x00 m = true) → KeepsCount turn
  resent : turn.output.call = .resendLastMessage → KeepsCount turn

/-! ## One turn -/

/-- One call takes the next number for what it originates, or leaves it. -/
theorem LinkMove.numbers {link next : Link} {confirm : Option UInt16} {sends : List Bytes}
    (move : LinkMove link confirm sends next) :
    (sends = [] ∧ next.next = link.next) ∨
      ∃ m, sends = [m] ∧ messageId m = some link.next ∧ next.next = link.next + 1 := by
  cases move with
  | quiet | closed | settled => exact .inl ⟨rfl, rfl⟩
  | followed | bye => exact .inr ⟨_, rfl, messageId_bye, rfl⟩
  | requested | failed => exact .inr ⟨_, rfl, messageId_header _ _ _, rfl⟩

private theorem issued_of_putOff {error : Bytes}
    (puts : (h.sendErrorMessage error).1.putOff ≠ h.putOff) :
    issued (h.sendErrorMessage error).2 = [] := by
  unfold sendErrorMessage at puts ⊢
  split at puts
  · rw [if_pos ‹_›]
    rfl
  · exact absurd rfl puts

/-- A datagram whose error is put off originates nothing. -/
theorem UDPProtocolHandler.Receipt.putOff (receipt : Receipt h message outcome)
    (puts : outcome.handler.putOff ≠ h.putOff) : issued outcome.effects = [] := by
  cases receipt with
  | @failed fsm kind confirmation error _ _ _ confirms =>
    have silent := @issued_of_putOff { h with fsm := fsm } (text error) puts
    rcases confirms with ⟨-, rfl⟩ | ⟨-, id, -, rfl⟩
    · exact silent
    · simp only [failWith, List.singleton_append, issued_confirmation]
      exact silent
  | reply =>
    refine absurd ?_ puts
    unfold settleReply
    split <;> rfl
  | byeConfirmed | errorConfirmed | confirmed | stray | repeated | shown | errorRepeated | errorShown
  | bye | undecided => exact absurd rfl puts

/-- No command puts an error off but in place of one put off before. -/
theorem UDPProtocolHandler.Command.putOff (command : Command h line outcome)
    (puts : outcome.handler.putOff ≠ h.putOff) : issued outcome.effects = [] := by
  cases command with
  | deferred => exact issued_of_putOff puts
  | exit | rejected | requested | spoken | renamed | helped | undecided => exact absurd rfl puts

/-- The effects of a datagram turn no command down. -/
theorem UDPProtocolHandler.Receipt.rejects_nothing (receipt : Receipt h message outcome)
    {reason : Bytes} : .internalErrorMessage reason ∉ outcome.effects := by
  intro member
  cases receipt with
  | failed _ _ _ confirms =>
    obtain ⟨m, same⟩ := mem_failWith confirms member
    cases same
  | reply decodes =>
    unfold settleReply at member
    split at member
    · obtain ⟨_, _, _ | _⟩ := decodes.result <;> simp [sendConfirmation, sendMessage] at member
    · simp [sendConfirmation, sendMessage] at member
  | byeConfirmed | errorConfirmed | confirmed | stray | repeated | shown | errorRepeated | errorShown
  | bye | undecided => simp [sendConfirmation, sendMessage] at member

/-- A command that is turned down originates nothing. -/
theorem UDPProtocolHandler.Command.rejects {reason : Bytes} (command : Command h line outcome)
    (member : .internalErrorMessage reason ∈ outcome.effects) : issued outcome.effects = [] := by
  cases command with
  | rejected => rfl
  | deferred => cases mem_sendErrorMessage member
  | exit | requested | spoken | renamed | helped | undecided =>
    simp [sendMessage, sendRequest] at member

private theorem originated_of_rejects (ran : loop.iterate event = some (report, after))
    (rejects : Rejects ⟨loop, event, report, after⟩ ∨ PutsOff ⟨loop, event, report, after⟩) :
    originated ⟨loop, event, report, after⟩ = [] := by
  obtain ⟨-, iteration⟩ := udpIteration_of_iterate ran
  cases iteration with
  | received called _ handler =>
    have receipt := receipt_of_processReceived called
    rcases rejects with ⟨reason, member⟩ | puts
    · exact absurd member receipt.rejects_nothing
    · rw [PutsOff, handler] at puts
      exact receipt.putOff puts
  | command called _ handler =>
    have command := command_of_processUserInput called
    rcases rejects with ⟨reason, member⟩ | puts
    · exact command.rejects member
    · rw [PutsOff, handler] at puts
      exact command.putOff puts
  | lost | giveUp | resend => rfl
  | idle silent => rcases silent with rfl | rfl <;> rfl

private theorem countsOwn_of_iterate (run : UDPRun server retries history loop)
    (ran : loop.iterate event = some (report, after)) : CountsOwn ⟨loop, event, report, after⟩ := by
  have move := linkMove_of_iterate ran (udpRun_linked run).gated
  have silent (none : originated ⟨loop, event, report, after⟩ = []) :
      KeepsCount ⟨loop, event, report, after⟩ := by
    rcases move.numbers with ⟨-, kept⟩ | ⟨m, one, -⟩
    · exact kept
    · cases none.symm.trans one
  refine ⟨?_, fun rejects => silent (originated_of_rejects ran (.inl rejects)),
    fun puts => silent (originated_of_rejects ran (.inr puts)), fun confirms => silent ?_,
    fun resends => silent ?_⟩
  · rcases move.numbers with ⟨none, kept⟩ | ⟨m, one, -, counted⟩
    · rw [none]
      exact kept.trans (UInt16.add_zero _).symm
    · rw [one]
      exact counted
  · unfold originated
    split
    · rfl
    · exact List.filter_eq_nil_iff.mpr fun m member => by simp [confirms m member]
  · rw [originated, resends]

/-! ## Runs -/

/-- The datagrams of a run are numbered from 0 on and the counter is at the next. -/
theorem udpRun_numbered (run : UDPRun server retries history loop) :
    Consecutive messageId 0 (allOriginated history) ∧
      loop.protocolHandler.renamer3000 = UInt16.ofNat (allOriginated history).length := by
  refine run.invariant (I := fun history loop => Consecutive messageId 0 (allOriginated history) ∧
    loop.protocolHandler.renamer3000 = UInt16.ofNat (allOriginated history).length)
    ⟨consecutive_nil, rfl⟩ ?_
  rintro history loop event report after before ⟨numbered, next⟩ ran
  rw [allOriginated_snoc]
  have move := linkMove_of_iterate ran (udpRun_linked before).gated
  rcases move.numbers with ⟨none, kept⟩ | ⟨m, one, read, counted⟩
  · rw [none, List.append_nil]
    exact ⟨numbered, kept.trans next⟩
  · rw [one]
    refine ⟨consecutive_snoc.mpr ⟨numbered, ?_⟩, ?_⟩
    · rw [read, UInt16.zero_add]
      exact congrArg some next
    · rw [List.length_append, List.length_singleton, UInt16.ofNat_add, ← next]
      exact counted

private theorem carries_of_messageId {number : Nat}
    (read : messageId message = some (UInt16.ofNat number)) :
    Carries number message := by
  simp only [messageId, readId, Option.bind_eq_bind, Option.bind_eq_some_iff] at read
  obtain ⟨high, first, low, second, same⟩ := read
  refine ⟨high, low, first, second, ?_⟩
  rw [← toNat_idOfBytes, Option.some.inj same, UInt16.toNat_ofNat']

/-- In every run the n-th datagram the client originates carries n modulo 2^16 in
bytes 1 and 2, and nothing else consumes an ID. -/
theorem originated_numbered_in_order (run : UDPRun server retries history loop) :
    (∀ n datagram, (allOriginated history)[n]? = some datagram → Carries n datagram) ∧
      ∀ turn ∈ history, CountsOwn turn := by
  constructor
  · intro n datagram found
    have read := (udpRun_numbered run).1 n datagram found
    rw [UInt16.zero_add] at read
    exact carries_of_messageId read
  · intro turn member
    obtain ⟨before, later, rfl⟩ := List.append_of_mem member
    exact countsOwn_of_iterate run.split.1 run.split.2

/-- An AUTH, its confirmation, a command turned down, and a BYE. -/
theorem originated_numbered_in_order_exit : ∃ history loop, UDPRun localServer 3 history loop ∧
    (allOriginated history).map (List.take 3) = [[0x02, 0, 0], [0xFF, 0, 1]] ∧
    (∀ n datagram, (allOriginated history)[n]? = some datagram → Carries n datagram) ∧
      ∀ turn ∈ history, CountsOwn turn := by
  have ran : sample [types "/auth a b c", arrives [0x00, 0, 0],
    arrives [0x01, 0, 5, 1, 0, 0, 0x6F, 0x6B, 0], types "/join", types "/exit"] = some (_, _) := rfl
  exact ⟨_, _, Run.of_exec ran, rfl, originated_numbered_in_order (Run.of_exec ran)⟩

end ChatClient
