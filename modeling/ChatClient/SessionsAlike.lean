import ChatClient.TCPSession
import ChatClient.UDPSession

/-! A session looks the same whichever client carries it: turn by turn the effects pair
off, and those of a pair are the same to the user and to the server, but for the words
of complaints and ERRs. -/

namespace ChatClient

open Transition FSMValidate

/-- An effect over TCP and one over UDP that are the same to both ends. What comes from
the server is shown in the same words, and what the user has the client say has the same
fields. A complaint about a line and an ERR have words of each client's own. -/
inductive SameEffect : Effect → Effect → Prop where
  | shown {effect : Effect} (fromServer : effect.shows = true) : SameEffect effect effect
  | helped : SameEffect .printHelp .printHelp
  | complained (reason other : Bytes) :
      SameEffect (.internalErrorMessage reason) (.internalErrorMessage other)
  | spoken (message : UserMessage) (address : SockAddr) (id : UInt16) :
      SameEffect (.send message.line) (.sendto address (message.datagram id))
  | objected {line datagram : Bytes} (address : SockAddr) (tcp : isErrorLine line = true)
      (udp : hasType 0xFE datagram = true) : SameEffect (.send line) (.sendto address datagram)

/-- Some turns of either client whose effects are the same one by one, the CONFIRMs aside. -/
def LookAlike (tcp : List TCPTurn) (udp : List UDPTurn) : Prop :=
  List.Forall₂ SameEffect (tcp.flatMap fun turn => turn.output.effects) (visible (allEffects udp))

/-- Effects that stand for the same observation are the same. -/
theorem SeenOverTCP.same {observation : Observation} {tcp udp : Effect}
    (overTCP : SeenOverTCP observation tcp) (overUDP : SeenOverUDP observation udp) :
    SameEffect tcp udp := by
  cases overTCP with
  | speaks =>
    cases overUDP with
    | speaks _ address id => exact .spoken _ address id
  | objects error =>
    cases overUDP with
    | objects address kind => exact .objected address error kind
  | shows fromServer =>
    cases overUDP
    exact .shown fromServer
  | rejects =>
    cases overUDP
    exact .complained _ _
  | helps =>
    cases overUDP
    exact .helped

private theorem same_of_seen {seen : List Observation} {tcp udp : List Effect}
    (overTCP : List.Forall₂ SeenOverTCP seen tcp) (overUDP : List.Forall₂ SeenOverUDP seen udp) :
    List.Forall₂ SameEffect tcp udp := by
  induction overTCP generalizing udp with
  | nil =>
    cases overUDP
    exact .nil
  | cons first rest ih =>
    cases overUDP with
    | cons second last => exact .cons (first.same second) (ih last)

private theorem lookAlike_of_forall₂ {cut : UInt16 → ServerMessage → List Chunk} {peer : SockAddr}
    {history : List SessionTurn} {tcp : List (List TCPTurn)} {udp : List (List UDPTurn)}
    (overTCP : List.Forall₂ (CarriedByTCP cut) history tcp)
    (overUDP : List.Forall₂ (CarriedByUDP peer) history udp) : List.Forall₂ LookAlike tcp udp := by
  induction overTCP generalizing udp with
  | nil =>
    cases overUDP
    exact .nil
  | cons first rest ih =>
    cases overUDP with
    | cons second last => exact .cons (same_of_seen first.seen second.seen) (ih last)

/-- The two clients carry every session alike: there are runs of both that take its
events one after the other, and in which at every turn the effects are the same one by
one, on the display as on the way to the server. -/
theorem sessions_look_alike {cut : UInt16 → ServerMessage → List Chunk} (delivers : DeliversLines cut)
    {history : List SessionTurn} {s : ChatSession} (run : SessionRun history s)
    (server peer : SockAddr) (retries : UInt8) :
    ∃ tcp client udp loop, TCPRun retries tcp.flatten client ∧ UDPRun server retries udp.flatten loop ∧
      List.Forall₂ (CarriedByTCP cut) history tcp ∧ List.Forall₂ (CarriedByUDP peer) history udp ∧
      List.Forall₂ LookAlike tcp udp ∧ (client.state = .over ↔ loop.state = .over) := by
  obtain ⟨tcp, client, tcpRun, overTCP, tcpFollows⟩ := run.carried (.start retries)
    fun run follows ran => TCPFollows.step follows (sessionRun_legal run) delivers ran
  obtain ⟨udp, loop, udpRun, overUDP, udpFollows⟩ := run.carried (.start server retries)
    fun run follows ran => UDPFollows.step follows (sessionRun_legal run) ran
  refine ⟨tcp, client, udp, loop, tcpRun, udpRun, overTCP, overUDP,
    lookAlike_of_forall₂ overTCP overUDP, ?_⟩
  rw [tcpFollows.state]
  rcases udpFollows.state with same | ⟨runs, open', ready⟩
  · rw [same]
  · simp [ready, ChatSession.state, runs, open']

/-- A session from the `/auth` to a BYE of the server. -/
theorem sessions_look_alike_joining : ∃ history s tcp client udp loop, SessionRun history s ∧
    history.map Turn.input = joiningSession ∧ TCPRun 3 tcp.flatten client ∧
    UDPRun localServer 3 udp.flatten loop ∧ List.Forall₂ (CarriedByTCP byteByByte) history tcp ∧
    List.Forall₂ (CarriedByUDP localServer) history udp ∧ List.Forall₂ LookAlike tcp udp ∧
    (client.state = .over ↔ loop.state = .over) := by
  have ran : exec ChatSession.step {} joiningSession = some (_, _) := rfl
  obtain ⟨tcp, client, udp, loop, alike⟩ :=
    sessions_look_alike delivers_byteByByte (Run.of_exec ran) localServer localServer 3
  exact ⟨_, _, tcp, client, udp, loop, Run.of_exec ran, rfl, alike⟩

end ChatClient
