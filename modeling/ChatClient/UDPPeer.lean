import ChatClient.UDPRuns

/-! Where the datagrams go.

`process_server_message` takes whoever sent the datagram it received for the server, and
every datagram goes there from then on, retransmissions of older ones included. -/

namespace ChatClient

open Transition UDPProtocolHandler

/-- What an effect does while the client talks to `peer`: datagrams go there, and there is
no stream. -/
def Effect.Towards (peer : SockAddr) : Effect → Prop
  | .sendto address _ => address = peer
  | .send _ | .serverClosedConnection => False
  | _ => True

/-- The sender of the datagram a turn received. -/
def heardFrom (turn : UDPTurn) : Option SockAddr :=
  match turn.output.call with
  | .processServerMessage (.received fromAddr _) => some fromAddr
  | _ => none

/-- Whom the client takes for the server: the sender of the last datagram it received, and
`server` before the first. -/
def peerAfter (server : SockAddr) (history : List UDPTurn) : SockAddr :=
  (history.filterMap heardFrom).getLast?.getD server

section Calls
variable {h : UDPProtocolHandler} {message line : Bytes} {outcome : Outcome UDPProtocolHandler}
  {effect : Effect} {effects : List Effect}

/-- A call that stays with the peer it finds. -/
structure StaysWith (h : UDPProtocolHandler) (outcome : Outcome UDPProtocolHandler) : Prop where
  keeps : outcome.handler.serverAddress = h.serverAddress
  towards : ∀ effect ∈ outcome.effects, effect.Towards h.serverAddress

private theorem sendErrorMessage_staysWith {error : Bytes} {returned : Option ClientState} :
    StaysWith h ⟨(h.sendErrorMessage error).1, (h.sendErrorMessage error).2, returned⟩ := by
  constructor
  · simp only [sendErrorMessage]
    split <;> rfl
  · intro effect member
    rw [mem_sendErrorMessage member]
    rfl

private theorem reply_towards {fsm : FSMValidate} {messageID refID : UInt16} {content : Bytes}
    {action : Action} {shown : Effect} {ignored : ClientState}
    (decodes : DecodesReply message messageID refID content action shown ignored) :
    StaysWith h ({ h with fsm := fsm }.settleReply messageID refID shown ignored) := by
  obtain ⟨_, -, result⟩ := decodes.result
  have displays : shown.Towards h.serverAddress := by
    cases result <;> exact trivial
  unfold settleReply
  split
  · refine ⟨rfl, fun effect member => ?_⟩
    rcases List.mem_cons.mp member with rfl | member
    · exact displays
    · rw [List.mem_singleton.mp member]
      rfl
  · refine ⟨rfl, fun effect member => ?_⟩
    rw [List.mem_singleton.mp member]
    rfl

private theorem UDPProtocolHandler.Receipt.staysWith (receipt : Receipt h message outcome) :
    StaysWith h outcome := by
  cases receipt with
  | byeConfirmed | confirmed | stray | undecided => exact ⟨rfl, List.forall_mem_nil _⟩
  | errorConfirmed | repeated | shown | errorRepeated | errorShown | bye =>
    exact ⟨rfl, by simp [Effect.Towards, sendMessage, sendConfirmation]⟩
  | reply decodes => exact reply_towards decodes
  | failed _ _ _ confirms =>
    constructor
    · exact (@sendErrorMessage_staysWith _ _ none).keeps
    · intro effect member
      obtain ⟨m, rfl⟩ := mem_failWith confirms member
      rfl

private theorem UDPProtocolHandler.Command.staysWith (command : Command h line outcome) :
    StaysWith h outcome := by
  cases command with
  | exit | rejected | requested | spoken | renamed | helped | undecided =>
    exact ⟨rfl, by simp [Effect.Towards, sendMessage, reject, sendRequest]⟩
  | deferred => exact sendErrorMessage_staysWith

end Calls

section Runs
variable {server : SockAddr} {retries : UInt8} {history : List UDPTurn} {turn : UDPTurn}
  {loop after : StreamHandler UDPProtocolHandler} {event : Event Datagram}
  {report : Report Datagram}

private theorem peerAfter_snoc :
    peerAfter server (history ++ [turn]) = (heardFrom turn).getD (peerAfter server history) := by
  unfold peerAfter
  rw [List.filterMap_append]
  cases heard : heardFrom turn with
  | none => simp [heard]
  | some fromAddr => simp [heard]

private theorem towards_of_iterate (ran : loop.iterate event = some (report, after)) :
    after.protocolHandler.serverAddress =
        (heardFrom ⟨loop, event, report, after⟩).getD loop.protocolHandler.serverAddress ∧
      ∀ effect ∈ report.effects, effect.Towards after.protocolHandler.serverAddress := by
  obtain ⟨-, iteration⟩ := udpIteration_of_iterate ran
  cases iteration with
  | received called _ handler =>
    obtain ⟨keeps, towards⟩ := (receipt_of_processReceived called).staysWith
    rw [handler, keeps]
    exact ⟨rfl, towards⟩
  | lost handler =>
    rw [handler]
    exact ⟨rfl, by simp [Effect.Towards]⟩
  | command called _ handler =>
    obtain ⟨keeps, towards⟩ := (command_of_processUserInput called).staysWith
    rw [handler, keeps]
    exact ⟨rfl, towards⟩
  | resend _ handler =>
    rw [handler]
    exact ⟨rfl, by simp [Effect.Towards, resendLastMessage, sendMessage]⟩
  | giveUp _ handler =>
    rw [handler]
    exact ⟨rfl, List.forall_mem_nil _⟩
  | idle silent handler =>
    rw [handler]
    refine ⟨rfl, ?_⟩
    rcases silent with rfl | rfl <;> simp [Effect.Towards]

/-- The peer of a run is whom it heard last. -/
theorem udpRun_peer (run : UDPRun server retries history loop) :
    loop.protocolHandler.serverAddress = peerAfter server history := by
  refine run.invariant (I := fun history loop =>
    loop.protocolHandler.serverAddress = peerAfter server history) rfl ?_
  intro history loop event report after run before ran
  rw [(towards_of_iterate ran).1, peerAfter_snoc, before]

/-- Every turn sends to the peer it leaves behind. -/
theorem udpRun_towards (run : UDPRun server retries history loop) :
    Throughout (fun before turn => ∀ effect ∈ turn.output.effects,
      effect.Towards (peerAfter server (before ++ [turn]))) history := by
  refine run.throughout fun {before loop event report after} run ran => ?_
  have towards := (towards_of_iterate ran).2
  rwa [udpRun_peer (run.turn ran)] at towards

end Runs

end ChatClient
