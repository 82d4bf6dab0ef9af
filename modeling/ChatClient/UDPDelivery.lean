import ChatClient.Library.Delivery
import ChatClient.UDPNumbering
import ChatClient.UDPStopAndWait
import ChatClient.UDPWire

/-! The UDP client, a server that confirms, and the network between them.

The network may lose, repeat and reorder: what arrives at either end is some
datagram the other end has sent before, nothing more. The server confirms every
datagram that has an ID and takes those whose ID is new. Client, server and
network then move as a channel of `Library.Delivery`, up to the 2^16-th datagram
and unless a BYE is sent over an unconfirmed datagram, so what the client
originates is taken in order and exactly once. A datagram that is waited for and its
CONFIRM, both delivered, are a round; two rounds end every wait. -/

namespace ChatClient

open Transition Delivery ChatClient.Numbering UDPProtocolHandler UDPMessageValidator

/-- Every datagram sent, CONFIRMs and retransmissions included. -/
def allSent (history : List UDPTurn) : List Bytes :=
  history.flatMap fun turn => sent turn.output.effects

/-- The server: the datagrams it has taken, oldest first, and all it has sent. -/
structure Peer where
  taken : List Bytes := []
  sent : List Bytes := []

/-- A datagram arrives at the server. A CONFIRM, or one without a whole header, is
dropped; any other is confirmed, and taken when its ID is new. -/
def Peer.receive (peer : Peer) (message : Bytes) : Peer :=
  match messageId message with
  | none => peer
  | some id =>
    if hasType 0x00 message then peer
    else
      { taken := if some id ∈ peer.taken.map messageId then peer.taken else peer.taken ++ [message]
        sent := peer.sent ++ [header 0x00 id] }

private theorem Peer.receive_eq {peer : Peer} {message : Bytes} {id : UInt16}
    (read : messageId message = some id) (own : hasType 0x00 message = false) :
    peer.receive message =
      { taken := if some id ∈ peer.taken.map messageId then peer.taken else peer.taken ++ [message]
        sent := peer.sent ++ [header 0x00 id] } := by
  simp only [receive, read, own, Bool.false_eq_true, ↓reduceIte]

/-- What the client and the server have done so far, in any interleaving. -/
inductive Conversation (server : SockAddr) (retries : UInt8) :
    List UDPTurn → StreamHandler UDPProtocolHandler → Peer → Prop where
  | start : Conversation server retries [] (.start (create server) retries) {}
  /-- The client takes a turn. A datagram it receives is one the server has sent. -/
  | turn {history : List UDPTurn} {loop after : StreamHandler UDPProtocolHandler} {peer : Peer}
      {event : Event Datagram} {report : Report Datagram}
      (conversation : Conversation server retries history loop peer)
      (ran : loop.iterate event = some (report, after))
      (carried : ∀ m, received ⟨loop, event, report, after⟩ = some m → m ∈ peer.sent) :
      Conversation server retries (history ++ [⟨loop, event, report, after⟩]) after peer
  /-- A datagram the client has sent arrives. -/
  | arrival {history : List UDPTurn} {loop : StreamHandler UDPProtocolHandler} {peer : Peer}
      {message : Bytes} (conversation : Conversation server retries history loop peer)
      (carried : message ∈ allSent history) :
      Conversation server retries history loop (peer.receive message)
  /-- The server sends something of its own, of any content. -/
  | speech {history : List UDPTurn} {loop : StreamHandler UDPProtocolHandler} {peer : Peer}
      {message : Bytes} (conversation : Conversation server retries history loop peer)
      (own : hasType 0x00 message = false) :
      Conversation server retries history loop { peer with sent := peer.sent ++ [message] }

variable {server : SockAddr} {retries : UInt8} {history : List UDPTurn}
  {loop after : StreamHandler UDPProtocolHandler} {peer : Peer} {event : Event Datagram}
  {report : Report Datagram} {message : Bytes}

/-- The client's part is a run. -/
theorem Conversation.run (conversation : Conversation server retries history loop peer) :
    UDPRun server retries history loop := by
  induction conversation with
  | start => exact .start
  | turn _ ran _ ih => exact ih.turn ran
  | arrival _ _ ih | speech _ _ ih => exact ih

/-! ## What a run puts on the network -/

@[simp] theorem allSent_snoc {turn : UDPTurn} :
    allSent (history ++ [turn]) = allSent history ++ sent turn.output.effects := by
  simp [allSent]

/-- A call keeps `last_message` or stores the one datagram it originates. -/
theorem LinkMove.stores {link next : Link} {confirm : Option UInt16} {sends : List Bytes}
    (move : LinkMove link confirm sends next) :
    (sends = [] ∧ next.last = link.last) ∨ sends = [next.last] := by
  cases move with
  | quiet | closed | settled => exact .inl ⟨rfl, rfl⟩
  | followed | requested | failed | bye => exact .inr rfl

/-- `last_message` is empty or was originated. -/
theorem udpRun_lastMessage (run : UDPRun server retries history loop) :
    loop.protocolHandler.lastMessage ∈ allOriginated history ∨
      loop.protocolHandler.lastMessage = [] := by
  refine run.invariant (I := fun history loop => loop.protocolHandler.lastMessage ∈
    allOriginated history ∨ loop.protocolHandler.lastMessage = []) (.inr rfl) ?_
  intro history loop event report after run before ran
  have move := linkMove_of_iterate ran (udpRun_linked run).gated
  rw [allOriginated_snoc]
  rcases move.stores with ⟨-, kept⟩ | one
  · have kept : after.protocolHandler.lastMessage = loop.protocolHandler.lastMessage := kept
    rw [kept, List.mem_append]
    exact before.imp_left .inl
  · rw [one]
    exact .inl (List.mem_append_right _ (.head _))

private theorem sent_of_iterate (ran : loop.iterate event = some (report, after))
    (member : message ∈ sent report.effects) : hasType 0x00 message = true ∨
      message ∈ originated ⟨loop, event, report, after⟩ ∨
      (message = loop.protocolHandler.lastMessage ∧ report.call = .resendLastMessage) := by
  by_cases resends : report.call = .resendLastMessage
  · obtain ⟨-, iteration⟩ := udpIteration_of_iterate ran
    cases iteration with
    | resend => exact .inr (.inr ⟨List.mem_singleton.mp member, rfl⟩)
    | received | lost | command | giveUp | idle => cases resends
  · by_cases confirms : hasType 0x00 message = true
    · exact .inl confirms
    · refine .inr (.inl ?_)
      have issues : message ∈ issued report.effects := List.mem_filter.mpr ⟨member, by simp [confirms]⟩
      unfold originated
      split
      · exact absurd ‹_› resends
      · exact issues

/-- Every datagram of a run is a CONFIRM, originated, or empty. -/
theorem udpRun_sent (run : UDPRun server retries history loop) (member : message ∈ allSent history) :
    hasType 0x00 message = true ∨ message ∈ allOriginated history ∨ message = [] := by
  induction run with
  | start => cases member
  | turn run ran ih =>
    rw [allOriginated_snoc, List.mem_append]
    rw [allSent_snoc, List.mem_append] at member
    rcases member with earlier | new
    · exact (ih earlier).imp_right (Or.imp_left .inl)
    · rcases sent_of_iterate ran new with confirms | issues | ⟨rfl, -⟩
      · exact .inl confirms
      · exact .inr (.inl (.inr issues))
      · exact .inr ((udpRun_lastMessage run).imp_left .inl)

private theorem allOriginated_sent (member : message ∈ allOriginated history) :
    message ∈ allSent history := by
  obtain ⟨turn, held, issues⟩ := List.mem_flatMap.mp member
  refine List.mem_flatMap.mpr ⟨turn, held, ?_⟩
  unfold originated at issues
  split at issues
  · cases issues
  · exact (List.mem_filter.mp issues).1

/-- No CONFIRM is originated. -/
theorem allOriginated_type (member : message ∈ allOriginated history) :
    hasType 0x00 message = false := by
  obtain ⟨turn, -, issues⟩ := List.mem_flatMap.mp member
  unfold originated at issues
  split at issues
  · cases issues
  · simpa using (List.mem_filter.mp issues).2

/-! ## The channel under a conversation -/

/-- The client and the server as the two ends of a channel. -/
def channelOf (history : List UDPTurn) (loop : StreamHandler UDPProtocolHandler) (peer : Peer) :
    Channel Bytes (Option UInt16) where
  issued := allOriginated history
  waiting := loop.protocolHandler.waitingForConfirmation
  taken := peer.taken
  acknowledged := (peer.sent.filterMap confirmOf).map some

/-- A BYE is said only when nothing else is unconfirmed, and its confirmation is
waited for. -/
def ClosesInTurn (turn : UDPTurn) : Prop :=
  ∀ m ∈ originated turn, hasType 0xFF m = true →
    turn.after.protocolHandler.waitingForConfirmation = true ∧
      (turn.before.protocolHandler.waitingForConfirmation = true →
        confirmed turn = some turn.before.protocolHandler.awaitedConirmId)

/-- Every BYE comes in its turn, and no ID comes twice. -/
structure Orderly (history : List UDPTurn) : Prop where
  closes : Throughout (fun _ turn => ClosesInTurn turn) history
  few : (allOriginated history).length ≤ UInt16.size

/-- So it was before the last turn. -/
theorem Orderly.earlier {turn : UDPTurn} (orderly : Orderly (history ++ [turn])) :
    Orderly history := by
  have few := orderly.few
  rw [allOriginated_snoc, List.length_append] at few
  exact ⟨(throughout_snoc.mp orderly.closes).1, by omega⟩

/-- Without a BYE any order is kept. -/
theorem orderly_of_noBye {messages : List Bytes} (all : allOriginated history = messages)
    (none : ∀ m ∈ messages, hasType 0xFF m = false) (few : messages.length ≤ UInt16.size) :
    Orderly history := by
  subst all
  refine ⟨?_, few⟩
  rintro before turn later rfl m member bye
  have held : m ∈ allOriginated (before ++ turn :: later) := by
    simp [allOriginated, member]
  rw [none m held] at bye
  cases bye

private theorem orderly_of_single (one : allOriginated history = [message])
    (other : hasType 0xFF message = false) : Orderly history :=
  orderly_of_noBye one (by simpa using other) (by simp [UInt16.size])

private theorem fresh_of_few (run : UDPRun server retries history loop)
    (few : (allOriginated history).length < UInt16.size) :
    some loop.protocolHandler.renamer3000 ∉ (allOriginated history).map messageId := by
  obtain ⟨numbered, next⟩ := udpRun_numbered run
  intro known
  obtain ⟨m, member, same⟩ := List.mem_map.mp known
  obtain ⟨position, inside, rfl⟩ := List.mem_iff_getElem.mp member
  have read := numbered position _ (List.getElem?_eq_getElem inside)
  rw [read, next, UInt16.zero_add, Option.some.injEq, ← UInt16.toNat_inj, UInt16.toNat_ofNat',
    UInt16.toNat_ofNat'] at same
  simp only [UInt16.size] at few
  omega

private theorem channelOf_receive (carried : message ∈ allSent history)
    (run : UDPRun server retries history loop) :
    Relation.ReflTransGen (Step messageId) (channelOf history loop peer)
      (channelOf history loop (peer.receive message)) := by
  unfold Peer.receive
  split
  · exact .refl
  rename_i id read
  split
  · exact .refl
  rename_i other
  rcases udpRun_sent run carried with confirms | issued | rfl
  · exact absurd confirms other
  · have moved : Step messageId (channelOf history loop peer)
        ((channelOf history loop peer).deliver messageId message) := .deliver issued
    refine .single ?_
    simpa [channelOf, Channel.deliver, read, confirmOf] using moved
  · cases read

/-- A call whose BYE comes in its turn leaves the flag, clears it for the CONFIRM of
the awaited ID, or sets it with a datagram of the next ID. -/
theorem LinkMove.inTurn {link next : Link} {confirm : Option UInt16} {sends : List Bytes}
    (move : LinkMove link confirm sends next)
    (closes : ∀ m ∈ sends, hasType 0xFF m = true →
      next.waiting = true ∧ (link.waiting = true → confirm = some link.awaited)) :
    (sends = [] ∧ next.waiting = link.waiting) ∨
      (sends = [] ∧ next.waiting = false ∧ confirm = some link.awaited) ∨
      ∃ m, sends = [m] ∧ messageId m = some link.next ∧ next.waiting = true ∧
        (link.waiting = true → confirm = some link.awaited) := by
  cases move with
  | quiet => exact .inl ⟨rfl, rfl⟩
  | closed | settled => exact .inr (.inl ⟨rfl, rfl, rfl⟩)
  | requested _ idle | failed idle =>
    refine .inr (.inr ⟨_, rfl, messageId_header _ _ _, rfl, fun waits => ?_⟩)
    exact absurd (waits.symm.trans idle) (by decide)
  | followed | bye =>
    obtain ⟨waits, awaited⟩ := closes _ (.head _) (by simp)
    exact .inr (.inr ⟨_, rfl, messageId_bye, waits, awaited⟩)

private theorem acknowledged_of_confirmed {turn : UDPTurn} {id : UInt16}
    (carried : ∀ m, received turn = some m → m ∈ peer.sent) (confirms : confirmed turn = some id) :
    some id ∈ (channelOf history loop peer).acknowledged := by
  obtain ⟨m, got, read⟩ := Option.bind_eq_some_iff.mp confirms
  exact List.mem_map_of_mem (List.mem_filterMap.mpr ⟨m, carried m got, read⟩)

private theorem channelOf_release (run : UDPRun server retries history loop)
    (carried : ∀ m, received ⟨loop, event, report, after⟩ = some m → m ∈ peer.sent)
    (awaited : loop.protocolHandler.waitingForConfirmation = true →
      confirmed ⟨loop, event, report, after⟩ = some loop.protocolHandler.awaitedConirmId) :
    Relation.ReflTransGen (Step messageId) (channelOf history loop peer)
      { channelOf history loop peer with waiting := false } := by
  by_cases waits : loop.protocolHandler.waitingForConfirmation = true
  · obtain ⟨last, id⟩ := (udpRun_linked run).awaits_last waits
    refine .single (.release last ?_)
    rw [id]
    exact acknowledged_of_confirmed carried (awaited waits)
  · have idle : loop.protocolHandler.waitingForConfirmation = false := by simpa using waits
    simp only [channelOf, idle]
    exact .refl

private theorem channelOf_turn (run : UDPRun server retries history loop)
    (ran : loop.iterate event = some (report, after))
    (carried : ∀ m, received ⟨loop, event, report, after⟩ = some m → m ∈ peer.sent)
    (orderly : Orderly (history ++ [⟨loop, event, report, after⟩])) :
    Relation.ReflTransGen (Step messageId) (channelOf history loop peer)
      (channelOf (history ++ [⟨loop, event, report, after⟩]) after peer) := by
  have closes := (throughout_snoc.mp orderly.closes).2
  have few := orderly.few
  have move := linkMove_of_iterate ran (udpRun_linked run).gated
  rcases move.inTurn closes with ⟨none, kept⟩ | ⟨none, cleared, awaited⟩ | ⟨m, one, read, waits, awaited⟩
  · have kept : after.protocolHandler.waitingForConfirmation =
      loop.protocolHandler.waitingForConfirmation := kept
    simp only [channelOf, allOriginated_snoc, none, List.append_nil, kept]
    exact .refl
  · have cleared : after.protocolHandler.waitingForConfirmation = false := cleared
    have released := channelOf_release run carried fun _ => awaited
    simpa only [channelOf, allOriginated_snoc, none, List.append_nil, cleared] using released
  · have waits : after.protocolHandler.waitingForConfirmation = true := waits
    have fresh : messageId m ∉ (allOriginated history).map messageId := by
      rw [read]
      refine fresh_of_few run ?_
      rw [allOriginated_snoc, one, List.length_append, List.length_singleton] at few
      omega
    have issues : Step messageId { channelOf history loop peer with waiting := false }
        { channelOf history loop peer with issued := allOriginated history ++ [m], waiting := true } :=
      .issue rfl fresh
    have moved := (channelOf_release run carried awaited).tail issues
    simpa only [channelOf, allOriginated_snoc, one, waits] using moved

/-- An orderly conversation is a run of the channel. -/
theorem Conversation.reaches (conversation : Conversation server retries history loop peer)
    (orderly : Orderly history) : Reaches messageId (channelOf history loop peer) := by
  induction conversation with
  | start => exact .refl
  | turn conversation ran carried ih =>
    exact (ih orderly.earlier).trans (channelOf_turn conversation.run ran carried orderly)
  | arrival conversation carried ih =>
    exact (ih orderly).trans (channelOf_receive carried conversation.run)
  | @speech _ _ _ message _ own ih =>
    have silent : confirmOf message = none := if_neg (by simp [own])
    simpa [channelOf, silent] using ih orderly

/-! ## In order and exactly once -/

/-- In every orderly conversation the server has taken, in order and each once, what
the client originated, up to the datagram waited for, and all of it when none is. -/
theorem conversation_in_order (conversation : Conversation server retries history loop peer)
    (orderly : Orderly history) :
    peer.taken <+: allOriginated history ∧
      (allOriginated history).length ≤ peer.taken.length + 1 ∧
      (loop.protocolHandler.waitingForConfirmation = false → peer.taken = allOriginated history) := by
  have ordered := InOrder.of_reaches (conversation.reaches orderly)
  exact ⟨ordered.isPrefix, ordered.length_le, ordered.complete⟩

/-- An AUTH that arrives twice and is confirmed. -/
theorem conversation_in_order_auth : ∃ history loop peer,
    Conversation localServer 3 history loop peer ∧ Orderly history ∧ peer.sent.length = 2 ∧
      peer.taken <+: allOriginated history ∧
      (allOriginated history).length ≤ peer.taken.length + 1 ∧
      (loop.protocolHandler.waitingForConfirmation = false →
        peer.taken = allOriginated history) := by
  have typed := @Conversation.start localServer 3 |>.turn (show StreamHandler.iterate _
    (types "/auth a b c") = some (_, _) from rfl) (by simp [received])
  have twice := (typed.arrival (.head _)).arrival (.head _)
  have confirmed := twice.turn (show StreamHandler.iterate _ (arrives [0x00, 0, 0]) =
    some (_, _) from rfl) fun m got => by cases got; exact .head _
  refine ⟨_, _, _, confirmed, ?_, rfl, conversation_in_order confirmed ?_⟩
  all_goals exact orderly_of_single rfl rfl

/-! ## The way out of a wait -/

/-- The CONFIRM of the awaited ID ends the wait, or the BYE that follows an ERR goes
out for it. -/
theorem LinkMove.released {link next : Link} {sends : List Bytes}
    (move : LinkMove link (some link.awaited) sends next) :
    (next.waiting = false ∧ sends = []) ∨
      (link.ending = false ∧ next.ending = true ∧ next.waiting = link.waiting ∧
        ∃ bye, sends = [bye]) := by
  generalize same : some link.awaited = confirm at move
  cases move with
  | quiet other => exact absurd same.symm other
  | closed | settled => exact .inl ⟨rfl, rfl⟩
  | followed goes => exact .inr ⟨goes, rfl, rfl, _, rfl⟩
  | requested | failed | bye => cases same

/-- What the CONFIRM of the awaited ID leads to: the client is released, or says BYE
and waits on. -/
def LeadsOut (turn : UDPTurn) : Prop :=
  (turn.after.protocolHandler.waitingForConfirmation = false ∧ originated turn = []) ∨
    (turn.before.protocolHandler.awaitingOver = false ∧ ClosesInTurn turn ∧
      (originated turn).length = 1 ∧ turn.after.protocolHandler.awaitingOver = true ∧
      turn.after.protocolHandler.waitingForConfirmation = true ∧
      turn.after.state = .waitingForConfirmation ∧ turn.after.Calm)

private theorem leadsOut_turn (run : UDPRun server retries history loop) (goes : loop.state ≠ .over)
    (calm : loop.Calm) (waits : loop.protocolHandler.waitingForConfirmation = true) :
    ∃ event report after, loop.iterate event = some (report, after) ∧
      received ⟨loop, event, report, after⟩ =
        some (header 0x00 loop.protocolHandler.awaitedConirmId) ∧
      LeadsOut ⟨loop, event, report, after⟩ := by
  have short : (header 0x00 loop.protocolHandler.awaitedConirmId).length ≤ 1499 := by simp [header]
  obtain ⟨inner, ran⟩ := @processReceived_defined loop.protocolHandler
    (header 0x00 loop.protocolHandler.awaitedConirmId) (udpRun_legal run) (by simp [header])
  have called : loop.protocolHandler.processServerMessage
      (.received loop.protocolHandler.serverAddress ⟨_, short⟩) = some (overrule inner) :=
    processServerMessage_of_processReceived ran
  obtain ⟨after, served, handler, state, calmAfter⟩ := calm.serve goes called
  refine ⟨_, _, after, served, rfl, ?_⟩
  have confirms : confirmOf (header 0x00 loop.protocolHandler.awaitedConirmId) =
    some loop.protocolHandler.link.awaited := confirmOf_eq rfl messageId_confirm
  have move := linkMove_of_iterate served (udpRun_linked run).gated
  simp only [confirmed, received, Option.bind_some, confirms] at move
  rcases move.released with ⟨cleared, none⟩ | ⟨open', ends, kept, bye, one⟩
  · exact .inl ⟨cleared, none⟩
  · have kept : after.protocolHandler.waitingForConfirmation = true := kept.trans waits
    have waiting : inner.handler.waitingForConfirmation = true := by
      rw [handler] at kept
      exact kept
    refine .inr ⟨open', fun _ _ _ => ⟨kept, fun _ => confirms⟩, by simp [one], ends, kept, ?_, calmAfter⟩
    simp [state, overrule, waiting]

/-- Rounds from a point of a conversation on: each time the datagram the client waits for
arrives at the server, and then the CONFIRM of its ID at the client. -/
inductive Rounds (history : List UDPTurn) (loop : StreamHandler UDPProtocolHandler) (peer : Peer) :
    List UDPTurn → StreamHandler UDPProtocolHandler → Peer → Prop where
  | none : Rounds history loop peer [] loop peer
  | round {turns : List UDPTurn} {before after : StreamHandler UDPProtocolHandler} {reached : Peer}
      {message : Bytes} {id : UInt16} {event : Event Datagram} {report : Report Datagram}
      (rounds : Rounds history loop peer turns before reached)
      (waits : before.protocolHandler.waitingForConfirmation = true)
      (last : (allOriginated (history ++ turns)).getLast? = some message)
      (read : messageId message = some id) (ran : before.iterate event = some (report, after))
      (got : received ⟨before, event, report, after⟩ = some (header 0x00 id)) :
      Rounds history loop peer (turns ++ [⟨before, event, report, after⟩]) after
        (reached.receive message)

variable {turns : List UDPTurn} {before : StreamHandler UDPProtocolHandler} {reached : Peer}

private theorem Conversation.rounds (conversation : Conversation server retries history loop peer)
    (rounds : Rounds history loop peer turns before reached) :
    Conversation server retries (history ++ turns) before reached := by
  induction rounds with
  | none => rwa [List.append_nil]
  | @round _ _ _ reached _ _ _ _ _ _ last read ran got ih =>
    have issued := List.mem_of_getLast? last
    have receives := @Peer.receive_eq reached _ _ read (allOriginated_type issued)
    rw [← List.append_assoc]
    refine (ih.arrival (allOriginated_sent issued)).turn ran fun m same => ?_
    rw [got] at same
    rw [receives, ← Option.some.inj same]
    exact List.mem_append_right _ (.head _)

/-- A client that waits can go one round further; the server then has everything. -/
theorem Conversation.answered (conversation : Conversation server retries history loop peer)
    (rounds : Rounds history loop peer turns before reached) (orderly : Orderly (history ++ turns))
    (goes : before.state ≠ .over) (calm : before.Calm)
    (waits : before.protocolHandler.waitingForConfirmation = true) :
    ∃ turn next, turn.before = before ∧
      Rounds history loop peer (turns ++ [turn]) turn.after next ∧
      next.taken = allOriginated (history ++ turns) ∧ LeadsOut turn := by
  have run := (conversation.rounds rounds).run
  obtain ⟨last, id⟩ := (udpRun_linked run).awaits_last waits
  obtain ⟨event, report, after, ran, got, answered⟩ := leadsOut_turn run goes calm waits
  refine ⟨⟨before, event, report, after⟩, _, rfl, .round rounds waits last id ran got, ?_, answered⟩
  have receives := @Peer.receive_eq reached _ _ id (allOriginated_type (List.mem_of_getLast? last))
  have reaches := (conversation.rounds rounds).reaches orderly
  have complete := (InOrder.of_reaches reaches).complete_of_deliver last
  rw [receives]
  simpa only [Channel.deliver, channelOf, id] using complete

/-- No conversation gets stuck: from where it is, two rounds at most lead to a point where
the client waits for no confirmation and the server has all it originated. -/
theorem conversation_settles (conversation : Conversation server retries history loop peer)
    (closes : Throughout (fun _ turn => ClosesInTurn turn) history)
    (few : (allOriginated history).length < UInt16.size) (goes : loop.state ≠ .over)
    (calm : loop.Calm) :
    ∃ turns loop' peer', Rounds history loop peer turns loop' peer' ∧ turns.length ≤ 2 ∧
      Conversation server retries (history ++ turns) loop' peer' ∧
      loop'.protocolHandler.waitingForConfirmation = false ∧
      peer'.taken = allOriginated (history ++ turns) := by
  have orderly : Orderly history := ⟨closes, few.le⟩
  by_cases waits : loop.protocolHandler.waitingForConfirmation = true
  swap
  · have idle : loop.protocolHandler.waitingForConfirmation = false := by simpa using waits
    refine ⟨[], loop, peer, .none, Nat.zero_le _, conversation.rounds .none, idle, ?_⟩
    rw [List.append_nil]
    exact (InOrder.of_reaches (conversation.reaches orderly)).complete idle
  obtain ⟨turn, peer', rfl, once, taken, answered⟩ :=
    conversation.answered .none (by rwa [List.append_nil]) goes calm waits
  rw [List.append_nil] at taken
  rcases answered with ⟨cleared, none⟩ | ⟨-, inTurn, one, ends, waits, state, calm⟩
  · refine ⟨[turn], _, _, once, Nat.le_succ 1, conversation.rounds once, cleared, ?_⟩
    rw [allOriginated_snoc, none, List.append_nil, taken]
  · -- the CONFIRM was that of an ERR; one more round confirms the BYE
    have orderly : Orderly (history ++ [turn]) := by
      refine ⟨throughout_snoc.mpr ⟨closes, inTurn⟩, ?_⟩
      rw [allOriginated_snoc, List.length_append, one]
      omega
    obtain ⟨last, peer'', same, twice, taken, answered⟩ :=
      conversation.answered once orderly (by simp [state]) calm waits
    rcases answered with ⟨cleared, none⟩ | ⟨open', -⟩
    · refine ⟨[turn, last], _, _, twice, Nat.le_refl 2, conversation.rounds twice, cleared, ?_⟩
      have shape : history ++ [turn, last] = (history ++ [turn]) ++ [last] := by simp
      rw [shape, allOriginated_snoc, none, List.append_nil]
      exact taken
    · rw [same, ends] at open'
      cases open'

/-- An AUTH that has not arrived yet. -/
theorem conversation_settles_auth : ∃ history loop, Conversation localServer 3 history loop {} ∧
    loop.protocolHandler.waitingForConfirmation = true ∧
    ∃ turns loop' peer', Rounds history loop {} turns loop' peer' ∧ turns.length ≤ 2 ∧
      Conversation localServer 3 (history ++ turns) loop' peer' ∧
      loop'.protocolHandler.waitingForConfirmation = false ∧
      peer'.taken = allOriginated (history ++ turns) := by
  have typed := @Conversation.start localServer 3 |>.turn (show StreamHandler.iterate _
    (types "/auth a b c") = some (_, _) from rfl) (by simp [received])
  refine ⟨_, _, typed, rfl, conversation_settles typed ?_ ?_ ?_ ⟨rfl, ?_⟩⟩
  · exact (orderly_of_single rfl rfl).closes
  · exact (show 1 < UInt16.size by decide)
  · intro over'
    cases over'
  · exact fun both => Bool.false_ne_true both.1

end ChatClient
