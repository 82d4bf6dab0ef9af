import ChatClient.Library.Handles
import ChatClient.ClientOutput
import ChatClient.UDPPeer

/-! The whole process: `main` connects to the server and runs the event loop.

What the system answers is a parameter: the list `getaddrinfo` finds, and for each
address what `socket` and `connect` do. The process holds that list while it looks for
an address that works, and then a socket. Its books are kept by `Library.Handles`: from
the first call to the last nothing is used that is not held, and what is held at the end
has been given back, except that a stream the server ends is closed twice. -/

namespace ChatClient

open Transition Handles

/-! ## Connecting to the server -/

/-- What the process holds: the list `getaddrinfo` made, and sockets. -/
inductive Resource where
  | servinfo
  | socket (sockfd : Nat)
  deriving DecidableEq, Repr

/-- What the system does with one address: the descriptor of a socket for it and how
connecting it fails, if it does. Failures come with their `strerror`. -/
structure Addrinfo where
  socket : Except Bytes Nat
  connect : Option Bytes := none

/-- What `connectToServer` comes to; no descriptor stands for -1. -/
structure Connected where
  printed : List Printed := []
  calls : List (Op Resource) := []
  sockfd : Option Nat

/-- The loop of `connectToServer` over the addresses. -/
def connectToAny (protocol : Bytes) : List Addrinfo → Connected
  | [] =>
    { printed := [.cerr (text "Unable to connect to the server" ++ endl)]
      calls := [.release .servinfo]
      sockfd := none }
  | p :: addresses =>
    if protocol = text "udp" then
      -- the first socket is returned, be it -1
      match p.socket with
      | .ok sockfd =>
        { calls := [.use .servinfo, .acquire (.socket sockfd), .release .servinfo]
          sockfd := some sockfd }
      | .error _ => { calls := [.use .servinfo, .release .servinfo], sockfd := none }
    else
      match p.socket with
      | .ok sockfd =>
        match p.connect with
        | some error =>
          let next := connectToAny protocol addresses
          { next with
            printed := .cerr (text "connect error: " ++ error ++ endl) :: next.printed
            calls := .use .servinfo :: .acquire (.socket sockfd) :: .use .servinfo ::
              .use (.socket sockfd) :: .release (.socket sockfd) :: .use .servinfo :: next.calls }
        | none =>
          { calls := [.use .servinfo, .acquire (.socket sockfd), .use .servinfo,
              .use (.socket sockfd), .release .servinfo]
            sockfd := some sockfd }
      | .error error =>
        let next := connectToAny protocol addresses
        { next with
          printed := .cerr (text "socket error: " ++ error ++ endl) :: next.printed
          calls := .use .servinfo :: .use .servinfo :: next.calls }

/-- `connectToServer`, given what `getaddrinfo` finds, or its `gai_strerror`. -/
def connectToServer (config : Config) : Except Bytes (List Addrinfo) → Connected
  | .error status =>
    { printed := [.cerr (text "getaddrinfo error: " ++ status ++ endl)], sockfd := none }
  | .ok servinfo =>
    let found := connectToAny config.protocol servinfo
    { found with calls := .acquire .servinfo :: found.calls }

/-- `getServerAddress`: an address `inet_pton` does not read stays zero. -/
def getServerAddress (inetPton : Bytes → Option UInt32) (config : Config) : SockAddr where
  sinAddr := (inetPton config.serverIp).getD 0
  sinPort := config.serverPort

/-- `main` up to the event loop: what it printed and did, and the status it exits with, or
the socket and the event loop. -/
structure Started where
  printed : List Printed
  calls : List (Op Resource)
  value : Except ExitStatus (Nat × Option StartedLoop)

/-- `main`. -/
def main (atoi : Bytes → Int) (inetPton : Bytes → Option UInt32)
    (getaddrinfo : Config → Except Bytes (List Addrinfo)) (program : Bytes)
    (options : List Getopt) : Started :=
  let parsed := Parser.parse atoi program options {}
  match parsed.value with
  | .error status => ⟨parsed.printed, [], .error status⟩
  | .ok config =>
    let validated := config.validate
    let printed := parsed.printed ++ validated.printed
    match validated.value with
    | .error status => ⟨printed, [], .error status⟩
    | .ok () =>
      let connected := connectToServer config (getaddrinfo config)
      let printed := printed ++ connected.printed
      match connected.sockfd with
      | none =>
        ⟨printed ++ [.cerr (text "Unable to connect to the server" ++ endl)], connected.calls,
          .error .failure⟩
      | some sockfd =>
        ⟨printed, connected.calls,
          .ok (sockfd, config.streamHandler (getServerAddress inetPton config))⟩

section Connecting
variable {config : Config} {protocol program : Bytes} {addresses : List Addrinfo}
  {lookup : Except Bytes (List Addrinfo)} {atoi : Bytes → Int} {inetPton : Bytes → Option UInt32}
  {getaddrinfo : Config → Except Bytes (List Addrinfo)} {options : List Getopt}

/-- The socket `connectToServer` returns, if it returns one. -/
def Connected.held (connected : Connected) : List Resource :=
  (connected.sockfd.map Resource.socket).toList

/-- The socket the event loop is given, if it runs. -/
def Started.held (started : Started) : List Resource :=
  match started.value with
  | .ok (sockfd, _) => [.socket sockfd]
  | .error _ => []

private theorem connectToAny_accounts :
    after [.servinfo] (connectToAny protocol addresses).calls =
      some (connectToAny protocol addresses).held := by
  induction addresses with
  | nil => simp [connectToAny, Connected.held]
  | cons p addresses ih =>
    obtain ⟨socket, connect⟩ := p
    unfold connectToAny
    by_cases udp : protocol = text "udp"
    · cases socket with
      | ok sockfd => simp [udp, Connected.held]
      | error error => simp [udp, Connected.held]
    · cases socket with
      | ok sockfd =>
        cases connect with
        | some error => simpa [udp, Connected.held] using ih
        | none => simp [udp, Connected.held]
      | error error => simpa [udp, Connected.held] using ih

private theorem connectToServer_accounts :
    after [] (connectToServer config lookup).calls = some (connectToServer config lookup).held := by
  cases lookup with
  | error status => rfl
  | ok servinfo =>
    unfold connectToServer
    rw [after_acquire List.not_mem_nil]
    exact connectToAny_accounts

/-- `main` holds the socket of its event loop when that starts, and nothing when it exits. -/
theorem main_accounts :
    after [] (main atoi inetPton getaddrinfo program options).calls =
      some (main atoi inetPton getaddrinfo program options).held := by
  unfold main
  cases parsed : (Parser.parse atoi program options {}).value with
  | error status => simp [parsed, Started.held]
  | ok config =>
    cases valid : config.validate.value with
    | error status => simp [parsed, valid, Started.held]
    | ok done =>
      have books := @connectToServer_accounts config (getaddrinfo config)
      unfold Connected.held at books
      cases connected : (connectToServer config (getaddrinfo config)).sockfd with
      | none => simpa [parsed, valid, connected, Started.held] using books
      | some sockfd => simpa [parsed, valid, connected, Started.held] using books

end Connecting

/-! ## The event loop -/

/-- What an effect does with the socket. -/
def Effect.calls (sockfd : Nat) : Effect → List (Op Resource)
  | .sendto _ _ | .send _ => [.use (.socket sockfd)]
  | .serverClosedConnection => [.release (.socket sockfd)]
  | _ => []

/-- What one iteration does with the socket: it polls it, receives from it as often as
`receives` says, and sends. -/
def callsIn {H Received : Type} (receives : Received → Nat) (sockfd : Nat) (turn : Turn H Received) :
    List (Op Resource) :=
  match turn.input with
  | .sigint => []
  | .poll _ =>
    let read :=
      match turn.output.call with
      | .processServerMessage received => receives received
      | _ => 0
    List.replicate (read + 1) (.use (.socket sockfd)) ++
      turn.output.effects.flatMap (Effect.calls sockfd)

/-- The TCP client receives again after every failure. -/
def tcpReceives (received : Recv) : Nat := received.errors + 1

/-- The UDP client receives once. -/
def udpReceives (_ : Datagram) : Nat := 1

/-- The server has ended the stream. -/
def ServerClosed {H Received : Type} (history : List (Turn H Received)) : Prop :=
  .serverClosedConnection ∈ effectsIn history

/-- A turn that ends the session when it finds the stream ended. -/
def ClosesLast {H Received : Type} (turn : Turn H Received) : Prop :=
  .serverClosedConnection ∉ turn.output.effects ∨
    turn.after.state = .over ∧ (∃ found, turn.input = .poll found) ∧
      ∃ failures, turn.output.effects = failures ++ [.serverClosedConnection] ∧
        .serverClosedConnection ∉ failures

/-- The books of a process that has come to the event loop: `ops` is what it has done so
far, and the loop closes the socket once it has `returned`. -/
structure Accounted (sockfd : Nat) (ops : List (Op Resource)) (closed returned : Prop) : Prop where
  running : ¬ closed → after [] ops = some [.socket sockfd]
  ended : closed → returned ∧ after [] ops = some []
  released : returned → ¬ closed → after [] (ops ++ [.release (.socket sockfd)]) = some [] ∧
    Balanced (ops ++ [.release (.socket sockfd)])
  twice : closed → after [] (ops ++ [.release (.socket sockfd)]) = none

section Loop
variable {H Received : Type} [ProtocolHandler H Received] (receives : Received → Nat) {sockfd : Nat}
  {history : List (Turn H Received)} {turn : Turn H Received} {first loop : StreamHandler H}
  {effects : List Effect} {op : Op Resource} {ops : List (Op Resource)}

private theorem calls_use (stays : .serverClosedConnection ∉ effects)
    (member : op ∈ effects.flatMap (Effect.calls sockfd)) : op = .use (.socket sockfd) := by
  obtain ⟨effect, held, within⟩ := List.mem_flatMap.mp member
  cases effect with
  | serverClosedConnection => exact absurd held stays
  | sendto | send => exact List.mem_singleton.mp within
  | messageFromServer | internalErrorMessage | printHelp | errorFromServer | replySuccess
  | replyError | perror => cases within

omit [ProtocolHandler H Received] in
private theorem after_callsIn (closes : ClosesLast turn) :
    (.serverClosedConnection ∉ turn.output.effects ∧
        after [.socket sockfd] (callsIn receives sockfd turn) = some [.socket sockfd]) ∨
      (.serverClosedConnection ∈ turn.output.effects ∧ turn.after.state = .over ∧
        after [.socket sockfd] (callsIn receives sockfd turn) = some []) := by
  have uses {effects : List Effect} (count : Nat) (stays : .serverClosedConnection ∉ effects) :
      after [.socket sockfd] (List.replicate count (.use (.socket sockfd)) ++
        effects.flatMap (Effect.calls sockfd)) = some [.socket sockfd] := by
    apply after_uses
    intro op member
    refine ⟨_, .head _, ?_⟩
    rcases List.mem_append.mp member with read | sends
    · exact List.eq_of_mem_replicate read
    · exact calls_use stays sends
  rcases closes with stays | ⟨returns, ⟨found, polled⟩, failures, shape, stays⟩
  · refine .inl ⟨stays, ?_⟩
    unfold callsIn
    split
    · rfl
    · exact uses _ stays
  · refine .inr ⟨by simp [shape], returns, ?_⟩
    unfold callsIn
    rw [polled, shape, List.flatMap_append, ← List.append_assoc]
    simp only [after_then (uses _ stays)]
    simp [Effect.calls]

omit [ProtocolHandler H Received] in
private theorem serverClosed_snoc : ServerClosed (history ++ [turn]) ↔
    ServerClosed history ∨ .serverClosedConnection ∈ turn.output.effects := by
  simp [ServerClosed, effectsIn]

private theorem after_run (run : Run StreamHandler.iterate first history loop)
    (each : Throughout (fun _ turn => ClosesLast turn) history)
    (boot : after [] ops = some [.socket sockfd]) :
    (¬ ServerClosed history ∧
        after [] (ops ++ history.flatMap (callsIn receives sockfd)) = some [.socket sockfd]) ∨
      (ServerClosed history ∧ loop.state = .over ∧
        after [] (ops ++ history.flatMap (callsIn receives sockfd)) = some []) := by
  refine run.invariant_of_throughout (I := fun history loop =>
    (¬ ServerClosed history ∧
        after [] (ops ++ history.flatMap (callsIn receives sockfd)) = some [.socket sockfd]) ∨
      (ServerClosed history ∧ loop.state = .over ∧
        after [] (ops ++ history.flatMap (callsIn receives sockfd)) = some []))
    each (.inl ⟨by simp [ServerClosed, effectsIn], by simpa using boot⟩) ?_
  intro history loop event report next run before ran closes
  -- nothing follows the turn that finds the stream ended
  rcases before with ⟨opened, books⟩ | ⟨-, returned, -⟩
  · rw [List.flatMap_append, List.flatMap_singleton, ← List.append_assoc, after_then books,
      serverClosed_snoc]
    rcases after_callsIn receives closes with
      ⟨stays, held⟩ | ⟨ends, returned, given⟩
    · exact .inl ⟨fun closed => closed.elim opened stays, held⟩
    · exact .inr ⟨.inr ends, returned, given⟩
  · rw [iterate_over returned] at ran
    cases ran

private theorem accounted_of_run (run : Run StreamHandler.iterate first history loop)
    (each : Throughout (fun _ turn => ClosesLast turn) history)
    (boot : after [] ops = some [.socket sockfd]) :
    Accounted sockfd (ops ++ history.flatMap (callsIn receives sockfd)) (ServerClosed history)
      (loop.state = .over) := by
  rcases after_run receives run each boot with
    ⟨opened, books⟩ | ⟨closed, returned, books⟩
  · refine ⟨fun _ => books, fun closed => absurd closed opened, fun _ _ => ?_,
      fun closed => absurd closed opened⟩
    have empty : after [] (ops ++ history.flatMap (callsIn receives sockfd) ++
        [.release (.socket sockfd)]) = some [] := by
      rw [after_then books]
      simp
    exact ⟨empty, balanced_of_after empty⟩
  · refine ⟨fun opened => absurd closed opened, fun _ => ⟨returned, books⟩,
      fun _ opened => absurd closed opened, fun _ => ?_⟩
    rw [after_then books]
    exact after_release_missing List.not_mem_nil

end Loop

/-! ## Whole processes -/

section Clients
variable {retries : UInt8} {server : SockAddr} {tcpHistory : List TCPTurn} {udpHistory : List UDPTurn}
  {tcpLoop : StreamHandler TCPClient} {udpLoop : StreamHandler UDPProtocolHandler} {line : Bytes}
  {outcome : Outcome TCPProtocolHandler}

/-- Only the receive loop itself finds the stream ended. -/
theorem TCPProtocolHandler.Receipt.stays {h : TCPProtocolHandler} (receipt : Receipt h line outcome) :
    .serverClosedConnection ∉ outcome.effects := by
  cases receipt with
  | reply reply => cases reply <;> simp
  | shown | ignored | errorShown | bye | failed | undecided | nameless | unknown =>
    simp [failWith, processUnknown]

theorem TCPProtocolHandler.Command.stays {h : TCPProtocolHandler} (command : Command h line outcome) :
    .serverClosedConnection ∉ outcome.effects := by
  cases command <;> simp [reject]

theorem tcpRun_closesLast (run : TCPRun retries tcpHistory tcpLoop) :
    Throughout (fun _ turn => ClosesLast turn) tcpHistory := by
  refine run.throughout fun {before loop event report after} run ran => ?_
  obtain ⟨-, iteration⟩ := tcpIteration_of_iterate (tcpRun_settled run) ran
  have failures (errors : Nat) : Effect.serverClosedConnection ∉
      List.replicate errors (Effect.perror (text "recv")) := by
    intro member
    cases List.eq_of_mem_replicate member
  cases iteration with
  | @lines errors _ handed _ _ hands taken =>
    refine .inl fun member => ?_
    rcases List.mem_append.mp member with failed | shown
    · exact failures errors failed
    · obtain ⟨line, held, ends⟩ := List.mem_flatMap.mp shown
      have called := (taken.mem (tcpRun_settled run) line held).2
      exact (TCPProtocolHandler.receipt_of_processReceived called).stays ends
  | @closed errors _ _ state => exact .inr ⟨state, ⟨_, rfl⟩, _, rfl, failures errors⟩
  | command called => exact .inl (TCPProtocolHandler.command_of_processUserInput called).stays
  | idle _ silent => rcases silent with rfl | rfl <;> exact .inl (by simp)

/-- The UDP client has no stream that could end. -/
theorem udpRun_open (run : UDPRun server retries udpHistory udpLoop) : ¬ ServerClosed udpHistory := by
  intro closed
  obtain ⟨turn, member, ends⟩ := List.mem_flatMap.mp closed
  obtain ⟨before, later, rfl⟩ := List.append_of_mem member
  exact udpRun_towards run before turn later rfl _ ends

end Clients

section Process
variable {program : Bytes} {atoi : Bytes → Int} {inetPton : Bytes → Option UInt32}
  {getaddrinfo : Config → Except Bytes (List Addrinfo)} {options : List Getopt} {sockfd : Nat}
  {started : StartedLoop}

private theorem main_started
    (runs : (main atoi inetPton getaddrinfo program options).value = .ok (sockfd, some started)) :
    ∃ config, (Parser.parse atoi program options {}).value = .ok config ∧
      config.validate.value = .ok () ∧
      config.streamHandler (getServerAddress inetPton config) = some started := by
  unfold main at runs
  cases parsed : (Parser.parse atoi program options {}).value with
  | error status => simp [parsed] at runs
  | ok config =>
    refine ⟨config, rfl, ?_⟩
    cases valid : config.validate.value with
    | error status => simp [parsed, valid] at runs
    | ok done =>
      cases connected : (connectToServer config (getaddrinfo config)).sockfd with
      | none => simp [parsed, valid, connected] at runs
      | some sockfd =>
        simp only [parsed, valid, connected, Except.ok.injEq, Prod.mk.injEq] at runs
        exact ⟨rfl, runs.2⟩

/-- **Accounting.** A process that exits before the event loop holds nothing. One whose
loop runs uses its socket while it holds it and closes it at the end, once, except that a
stream the server ends is closed when that is found and again at the end. -/
theorem process_accounts :
    (∀ status, (main atoi inetPton getaddrinfo program options).value = .error status →
      after [] (main atoi inetPton getaddrinfo program options).calls = some []) ∧
    (∀ sockfd first history loop,
      (main atoi inetPton getaddrinfo program options).value = .ok (sockfd, some (.tcp first)) →
      Run StreamHandler.iterate first history loop →
      Accounted sockfd ((main atoi inetPton getaddrinfo program options).calls ++
        history.flatMap (callsIn tcpReceives sockfd)) (ServerClosed history) (loop.state = .over)) ∧
    (∀ sockfd first history loop,
      (main atoi inetPton getaddrinfo program options).value = .ok (sockfd, some (.udp first)) →
      Run StreamHandler.iterate first history loop →
      Accounted sockfd ((main atoi inetPton getaddrinfo program options).calls ++
        history.flatMap (callsIn udpReceives sockfd)) False (loop.state = .over)) := by
  have books := @main_accounts program atoi inetPton getaddrinfo options
  refine ⟨fun status exits => ?_, fun sockfd first history loop starts run => ?_,
    fun sockfd first history loop starts run => ?_⟩
  · simpa [Started.held, exits] using books
  · obtain ⟨config, -, -, made⟩ := main_started starts
    obtain rfl : first = _ := (runs_of_streamHandler made).final_eq
    exact accounted_of_run _ run (tcpRun_closesLast run) (by simpa [Started.held, starts] using books)
  · obtain ⟨config, -, -, made⟩ := main_started starts
    obtain rfl : first = _ := (runs_of_streamHandler made).final_eq
    have closes : Throughout (fun _ turn => ClosesLast turn) history := by
      rintro before turn later rfl
      refine .inl fun ends => udpRun_open run ?_
      exact List.mem_flatMap.mpr ⟨turn, List.mem_append_right _ (.head _), ends⟩
    have accounted := accounted_of_run udpReceives run closes (by simpa [Started.held, starts] using books)
    rwa [eq_false (udpRun_open run)] at accounted

/-- A refused address, and a stream the server ends. -/
theorem process_accounts_closed : ∃ (started : Started) (history : List TCPTurn)
    (loop : StreamHandler TCPClient) (ops : List (Op Resource)),
    main Decimal.atoi (fun _ => none) (fun _ => .ok [⟨.ok 3, some (text "refused")⟩, ⟨.ok 3, none⟩])
      (text "client") [⟨'t', text "tcp"⟩, ⟨'s', text "localhost"⟩] = started ∧
    started.printed = [.cerr (text "connect error: refused\n")] ∧
    started.value = .ok (3, some (.tcp (.start {} 3))) ∧ TCPRun 3 history loop ∧
    ops = started.calls ++ history.flatMap (callsIn tcpReceives 3) ∧ ServerClosed history ∧
    after [] ops = some [] ∧ after [] (ops ++ [.release (.socket 3)]) = none := by
  have ran : tcpSample [enters "/auth a b c", .poll (.socket ⟨0, none⟩)] = some (_, _) := rfl
  have closed : Effect.serverClosedConnection ∈
      [Effect.send (text "AUTH a AS c USING b\r\n"), .serverClosedConnection] := .tail _ (.head _)
  have accounted := (@process_accounts (text "client") Decimal.atoi (fun _ => none)
    (fun _ => .ok [⟨.ok 3, some (text "refused")⟩, ⟨.ok 3, none⟩])
    [⟨'t', text "tcp"⟩, ⟨'s', text "localhost"⟩]).2.1 _ _ _ _ rfl (Run.of_exec ran)
  exact ⟨_, _, _, _, rfl, rfl, rfl, Run.of_exec ran, rfl, closed, (accounted.ended closed).2,
    accounted.twice closed⟩

/-- The address that the options name, as far as `inet_pton` reads it. -/
def namedServer (atoi : Bytes → Int) (inetPton : Bytes → Option UInt32) (options : List Getopt) :
    SockAddr where
  sinAddr := ((lastArgument 's' options).bind inetPton).getD 0
  sinPort := ((lastArgument 'p' options).map fun argument => .ofInt (atoi argument)).getD 4567

private theorem getServerAddress_eq {config : Config}
    (parsed : (Parser.parse atoi program options {}).value = .ok config)
    (valid : config.validate.value = .ok ()) :
    getServerAddress inetPton config = namedServer atoi inetPton options := by
  have server : config.serverIp = ((lastArgument 's' options).map id).getD [] :=
    read_of_parse 's' Config.serverIp id (fun _ _ _ set => set.serverIp) parsed
  have port : config.serverPort =
      ((lastArgument 'p' options).map fun argument => UInt16.ofInt (atoi argument)).getD 4567 :=
    read_of_parse 'p' Config.serverPort _ (fun _ _ _ set => set.serverPort) parsed
  have given := (validate_returns_iff.mp valid).1
  unfold getServerAddress namedServer
  rw [port, server]
  rw [server] at given
  cases last : lastArgument 's' options with
  | none => simp [last] at given
  | some argument => rfl

/-- **Addressing.** Every datagram of a process goes to whoever sent the last one it
received, and before it received any to the server its options name. -/
theorem udp_addresses {first loop : StreamHandler UDPProtocolHandler} {history : List UDPTurn}
    (runs : (main atoi inetPton getaddrinfo program options).value = .ok (sockfd, some (.udp first)))
    (run : Run StreamHandler.iterate first history loop) :
    Throughout (fun before turn => ∀ effect ∈ turn.output.effects,
      effect.Towards (peerAfter (namedServer atoi inetPton options) (before ++ [turn]))) history := by
  obtain ⟨config, parsed, valid, made⟩ := main_started runs
  obtain rfl : first = _ := (runs_of_streamHandler made).final_eq
  rw [← getServerAddress_eq parsed valid]
  exact udpRun_towards run

/-- A host name that is not read, and a stranger who gets the AUTH on its retransmission. -/
theorem udp_addresses_stranger : ∃ (history : List UDPTurn) (loop : StreamHandler UDPProtocolHandler),
    exec StreamHandler.iterate (.start (UDPProtocolHandler.create ⟨0, 4567⟩) 3) [types "/auth a b c",
      .poll (.socket (.received ⟨1, 9⟩ ⟨[0x00, 0, 9], by decide⟩)), .poll .timedOut] =
        some (history, loop) ∧
    effectsIn history = [.sendto ⟨0, 4567⟩ [0x02, 0, 0, 0x61, 0, 0x63, 0, 0x62, 0],
      .sendto ⟨1, 9⟩ [0x02, 0, 0, 0x61, 0, 0x63, 0, 0x62, 0]] ∧
    Throughout (fun before turn => ∀ effect ∈ turn.output.effects,
      effect.Towards (peerAfter ⟨0, 4567⟩ (before ++ [turn]))) history := by
  have ran : exec StreamHandler.iterate (.start (UDPProtocolHandler.create ⟨0, 4567⟩) 3) [types "/auth a b c",
    .poll (.socket (.received ⟨1, 9⟩ ⟨[0x00, 0, 9], by decide⟩)), .poll .timedOut] =
      some (_, _) := rfl
  have starts : (main Decimal.atoi (fun _ => none) (fun _ => .ok [⟨.ok 3, none⟩]) (text "client")
    [⟨'t', text "udp"⟩, ⟨'s', text "localhost"⟩]).value =
      .ok (3, some (.udp (.start (UDPProtocolHandler.create ⟨0, 4567⟩) 3))) := rfl
  exact ⟨_, _, ran, rfl, udp_addresses starts (Run.of_exec ran)⟩

end Process

end ChatClient
