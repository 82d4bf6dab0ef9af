import ChatClient.Library.Numbering
import ChatClient.UDPReceived

/-! Duplicate suppression over a long session. The server counts its datagrams
modulo 2^16 and `received_ids` only grows, so once the count has come round a MSG
can carry the ID of a datagram remembered long before: it is confirmed like a
copy, and not displayed. -/

namespace ChatClient

open Transition ChatClient.Numbering UDPProtocolHandler UDPMessageValidator FSMValidate

variable {server : SockAddr} {retries : UInt8} {history later : List UDPTurn} {turn : UDPTurn}
  {loop after : StreamHandler UDPProtocolHandler} {event : Event Datagram}
  {report : Report Datagram} {h : UDPProtocolHandler} {message : Bytes}
  {outcome : Outcome UDPProtocolHandler} {first id : UInt16}

/-! ## What the server sends -/

/-- The datagram of the server's own that a turn receives: any but a CONFIRM, which
carries an ID of the client. -/
def numbered (turn : UDPTurn) : Option Bytes := (received turn).filter fun m => !hasType 0x00 m

/-- The datagrams of the server's own, in the order they came. -/
def allNumbered (history : List UDPTurn) : List Bytes := history.filterMap numbered

/-- The server counts its datagrams from `first` on, and each comes once and in
order. -/
def CountsFrom (first : UInt16) (history : List UDPTurn) : Prop :=
  Consecutive messageId first (allNumbered history)

/-- The name and the content of a MSG that passes its check. -/
def saidIn (message : Bytes) : Option (Bytes × Bytes) :=
  match parseAndValidate (message.drop 3) "msg" with
  | ([dname, content], true) => some (dname, content)
  | _ => none

/-- What a turn hears: a well-formed MSG that comes in OPEN. -/
def heard (turn : UDPTurn) : List (Bytes × Bytes) :=
  if turn.before.protocolHandler.fsm.currentState = .opened then
    ((received turn).filter (hasType 0x04)).bind saidIn |>.toList
  else []

/-- What an effect displays of a MSG. -/
def Effect.said : Effect → Option (Bytes × Bytes)
  | .messageFromServer username message => some (username, message)
  | _ => none

/-- The MSGs a turn displays. -/
def displayed (turn : UDPTurn) : List (Bytes × Bytes) := turn.output.effects.filterMap Effect.said

/-! ## What the client remembers -/

/-- The datagrams whose IDs `process_received` remembers: MSGs in OPEN, the REPLY
that is awaited and ERRs where answers are accepted, and BYEs. -/
inductive Remembered (fsm : FSMValidate) (awaitedReplyId : UInt16) (message : Bytes) : Prop where
  | message (type : hasType 0x04 message = true) (opened : fsm.currentState = .opened)
      (valid : (parseAndValidate (message.drop 3) "msg").2 = true)
  | reply {messageID : UInt16} {content : Bytes} {action : Action} {shown : Effect}
      {ignored : ClientState}
      (decodes : DecodesReply message messageID awaitedReplyId content action shown ignored)
      (answerable : Answerable fsm)
  | error (type : hasType 0xFE message = true) (answerable : Answerable fsm)
      (valid : (parseAndValidate (message.drop 3) "err").2 = true)
  | bye (type : hasType 0xFF message = true) (whole : 3 ≤ message.length)

/-- A turn receives a datagram whose ID is remembered. -/
def Remembers (turn : UDPTurn) : Prop :=
  ∃ message, received turn = some message ∧
    Remembered turn.before.protocolHandler.fsm turn.before.protocolHandler.awaitedReplyId message

/-- A MSG is heard whose number an earlier datagram had that is remembered: the
server has sent a multiple of 2^16 datagrams since. -/
def ComesRound (before : List UDPTurn) (turn : UDPTurn) : Prop :=
  heard turn ≠ [] ∧ ∃ older earlier between, before = older ++ earlier :: between ∧
    Remembers earlier ∧ (allNumbered (earlier :: between)).length % UInt16.size = 0

theorem hasType_iff {type : UInt8} : hasType type message = true ↔ message[0]? = some type := by
  simp [hasType]

/-- A datagram is remembered by one of the rules. -/
theorem UDPProtocolHandler.Receipt.remembered (receipt : Receipt h message outcome)
    (legal : h.fsm.Legal) (known : id ∈ outcome.handler.receivedIds) :
    id ∈ h.receivedIds ∨ (Remembered h.fsm h.awaitedReplyId message ∧ messageId message = some id) := by
  cases receipt with
  | shown type read body asked =>
    rcases List.mem_append.mp known with old | new
    · exact .inl old
    · have opened := (legal.spoken (.inl rfl) asked).1
      exact .inr ⟨.message (hasType_iff.mpr type) opened (by rw [body]), List.mem_singleton.mp new ▸ read⟩
  | errorShown type read body asked =>
    rcases List.mem_append.mp known with old | new
    · exact .inl old
    · have answerable := (legal.answered (.inr (.inr rfl)) asked).answerable
      exact .inr ⟨.error (hasType_iff.mpr type) answerable (by rw [body]),
        List.mem_singleton.mp new ▸ read⟩
  | bye type read whole =>
    rcases List.mem_append.mp known with old | new
    · exact .inl old
    · exact .inr ⟨.bye (hasType_iff.mpr type) whole, List.mem_singleton.mp new ▸ read⟩
  | reply decodes asked =>
    unfold settleReply at known
    split at known
    · rename_i awaited
      rcases List.mem_append.mp known with old | new
      · exact .inl old
      · obtain ⟨_, _, result⟩ := decodes.result
        have answerable := (legal.answered result.answer asked).answerable
        have read : messageId message = some _ := decodes.id
        rw [awaited] at decodes
        exact .inr ⟨.reply decodes answerable, List.mem_singleton.mp new ▸ read⟩
    · exact .inl known
  | failed =>
    rw [failWith_receivedIds] at known
    exact .inl known
  | byeConfirmed | errorConfirmed | confirmed | stray | repeated | errorRepeated | undecided =>
    exact .inl known

/-- What is remembered stays so. -/
theorem UDPProtocolHandler.Receipt.keeps (receipt : Receipt h message outcome)
    (known : id ∈ h.receivedIds) : id ∈ outcome.handler.receivedIds := by
  cases receipt with
  | shown | errorShown | bye => exact List.mem_append_left _ known
  | reply =>
    unfold settleReply
    split
    · exact List.mem_append_left _ known
    · exact known
  | failed =>
    rw [failWith_receivedIds]
    exact known
  | byeConfirmed | errorConfirmed | confirmed | stray | repeated | errorRepeated | undecided =>
    exact known

private theorem mem_of_remembered (ran : h.processReceived message = some outcome)
    (remembered : Remembered h.fsm h.awaitedReplyId message) (legal : h.fsm.Legal)
    (read : messageId message = some id) :
    id ∈ outcome.handler.receivedIds := by
  cases remembered with
  | message type opened valid =>
    obtain ⟨other, dname, content, same, body⟩ := named_of_valid (.inl rfl) valid
    cases read.symm.trans same
    have asked := legal.accepts_spoken opened (.inl rfl)
    rw [processReceived_message (hasType_iff.mp type) read body asked] at ran
    split at ran
    · cases ran
      assumption
    · cases ran
      simp
  | reply decodes answerable =>
    obtain ⟨_, _, result⟩ := decodes.result
    obtain ⟨fsm, asked⟩ := legal.accepts_answer answerable result.answer
    cases decodes.id.symm.trans read
    cases ran.symm.trans (processReceived_reply decodes asked)
    simp [settleReply]
  | error type answerable valid =>
    obtain ⟨other, dname, content, same, body⟩ := named_of_valid (.inr rfl) valid
    cases read.symm.trans same
    obtain ⟨fsm, asked⟩ := legal.accepts_answer answerable (.inr (.inr rfl))
    rw [processReceived_error (hasType_iff.mp type) read body asked] at ran
    split at ran
    · cases ran
      assumption
    · cases ran
      simp
  | bye type whole =>
    cases ran.symm.trans (processReceived_bye (hasType_iff.mp type) whole read)
    simp

/-- A turn remembers the ID of the datagram it receives, when that is one of the
rules, and nothing else. -/
theorem mem_receivedIds_of_iterate (run : UDPRun server retries history loop)
    (ran : loop.iterate event = some (report, after)) :
    id ∈ after.protocolHandler.receivedIds ↔ id ∈ loop.protocolHandler.receivedIds ∨
      (Remembers ⟨loop, event, report, after⟩ ∧
        (received ⟨loop, event, report, after⟩).bind messageId = some id) := by
  have legal := udpRun_legal run
  obtain ⟨-, iteration⟩ := udpIteration_of_iterate ran
  have nothing {turn : UDPTurn} (none : received turn = none) :
      ¬ (Remembers turn ∧ (received turn).bind messageId = some id) := by
    rintro ⟨-, read⟩
    simp [none] at read
  cases iteration with
  | received called _ handler =>
    have receipt := receipt_of_processReceived called
    rw [handler]
    constructor
    · intro known
      rcases receipt.remembered legal known with old | ⟨remembered, read⟩
      · exact .inl old
      · exact .inr ⟨⟨_, rfl, remembered⟩, read⟩
    · rintro (old | ⟨⟨message, is, remembered⟩, read⟩)
      · exact receipt.keeps old
      · cases is
        exact mem_of_remembered called remembered legal read
  | command called _ handler =>
    rw [handler, (command_of_processUserInput called).remembers.1]
    exact (or_iff_left (nothing rfl)).symm
  | lost handler | resend _ handler | giveUp _ handler | idle _ handler =>
    rw [handler]
    exact (or_iff_left (nothing rfl)).symm

private theorem mem_receivedIds_iff (run : UDPRun server retries history loop) (id : UInt16) :
    id ∈ loop.protocolHandler.receivedIds ↔
      ∃ turn ∈ history, Remembers turn ∧ (received turn).bind messageId = some id := by
  refine run.invariant (I := fun history loop => id ∈ loop.protocolHandler.receivedIds ↔
    ∃ turn ∈ history, Remembers turn ∧ (received turn).bind messageId = some id)
    (by simp [StreamHandler.start, create]) fun before same ran => ?_
  rw [mem_receivedIds_of_iterate before ran, same]
  simp only [List.mem_append, List.mem_singleton, or_and_right, exists_or, exists_eq_left]

/-! ## What is displayed -/

theorem saidIn_iff {dname content : Bytes} : saidIn message = some (dname, content) ↔
    parseAndValidate (message.drop 3) "msg" = ([dname, content], true) := by
  unfold saidIn
  split
  · rename_i body
    simp [body]
  · rename_i other
    constructor
    · intro none
      cases none
    · intro body
      exact absurd body (other dname content)

/-- Nothing of a MSG is displayed but by the rule for new ones. -/
theorem UDPProtocolHandler.Receipt.speaks (receipt : Receipt h message outcome)
    (legal : h.fsm.Legal) :
    outcome.effects.filterMap Effect.said = [] ∨
      ∃ dname content, saidIn message = some (dname, content) ∧ message[0]? = some 0x04 ∧
        h.fsm.currentState = .opened := by
  cases receipt with
  | shown type _ body asked =>
    exact .inr ⟨_, _, saidIn_iff.mpr body, type, (legal.spoken (.inl rfl) asked).1⟩
  | reply decodes =>
    unfold settleReply
    split
    · obtain ⟨_, _, _ | _⟩ := decodes.result <;> exact .inl rfl
    · exact .inl rfl
  | failed _ _ _ confirms =>
    refine .inl (List.filterMap_eq_nil_iff.mpr fun effect member => ?_)
    obtain ⟨m, rfl⟩ := mem_failWith confirms member
    rfl
  | byeConfirmed | errorConfirmed | confirmed | stray | repeated | errorRepeated | errorShown | bye
  | undecided => exact .inl rfl

private theorem displayed_of_processReceived (ran : h.processReceived message = some outcome)
    (legal : h.fsm.Legal) : outcome.effects.filterMap Effect.said =
      if ∃ id ∈ h.receivedIds, messageId message = some id then []
      else if h.fsm.currentState = .opened ∧ message[0]? = some 0x04
        then (saidIn message).toList else [] := by
  by_cases speaks : ∃ dname content, saidIn message = some (dname, content) ∧
      message[0]? = some 0x04 ∧ h.fsm.currentState = .opened
  · obtain ⟨dname, content, said, type, opened⟩ := speaks
    have body := saidIn_iff.mp said
    obtain ⟨id, read⟩ := messageId_of_length (Nat.le_of_succ_le (body_long body))
    rw [processReceived_message type read body (legal.accepts_spoken opened (.inl rfl))] at ran
    split at ran
    · rename_i known
      cases ran
      rw [if_pos ⟨id, known, read⟩]
      rfl
    · rename_i unknown
      cases ran
      have fresh : ¬ ∃ other ∈ h.receivedIds, messageId message = some other := by
        rintro ⟨other, known, same⟩
        cases read.symm.trans same
        exact unknown known
      rw [if_neg fresh, if_pos ⟨opened, type⟩, said]
      rfl
  · rw [((receipt_of_processReceived ran).speaks legal).resolve_right speaks]
    split
    · rfl
    · split
      · rename_i hears
        cases said : saidIn message with
        | none => rfl
        | some pair => exact absurd ⟨pair.1, pair.2, said, hears.2, hears.1⟩ speaks
      · rfl

theorem heard_eq (is : received turn = some message) : heard turn =
    if turn.before.protocolHandler.fsm.currentState = .opened ∧ message[0]? = some 0x04
      then (saidIn message).toList else [] := by
  unfold heard
  by_cases opened : turn.before.protocolHandler.fsm.currentState = .opened
  · by_cases type : message[0]? = some 0x04
    · simp [opened, is, Option.filter, hasType, type]
    · simp [opened, is, Option.filter, hasType, type]
  · simp [opened]

/-- What a turn hears it displays, once, unless its ID is remembered. -/
theorem displayed_of_iterate (run : UDPRun server retries history loop)
    (ran : loop.iterate event = some (report, after)) :
    displayed ⟨loop, event, report, after⟩ =
      if ∃ id ∈ loop.protocolHandler.receivedIds,
          (received ⟨loop, event, report, after⟩).bind messageId = some id then []
      else heard ⟨loop, event, report, after⟩ := by
  obtain ⟨-, iteration⟩ := udpIteration_of_iterate ran
  have quiet {turn : UDPTurn} (none : received turn = none) (silent : displayed turn = []) :
      displayed turn = if ∃ id ∈ loop.protocolHandler.receivedIds,
        (received turn).bind messageId = some id then [] else heard turn := by
    simp [none, silent, heard]
  cases iteration with
  | @received _ buffer _ _ _ called =>
    have shown := displayed_of_processReceived called (udpRun_legal run)
    rw [displayed, heard_eq rfl, shown]
    rfl
  | command called =>
    refine quiet rfl (List.filterMap_eq_nil_iff.mpr fun effect member => ?_)
    have silent := (command_of_processUserInput called).remembers.2 effect member
    cases effect <;> first | rfl | cases silent
  | lost | giveUp => exact quiet rfl rfl
  | resend => exact quiet rfl rfl
  | idle silent => rcases silent with rfl | rfl <;> exact quiet rfl rfl

/-! ## Numbers -/

private theorem number_of_numbered {older between : List UDPTurn} {earlier : UDPTurn}
    (counts : CountsFrom first (older ++ earlier :: between)) (is : numbered earlier = some message) :
    messageId message = some (first + UInt16.ofNat (allNumbered older).length) := by
  have shape : allNumbered (older ++ earlier :: between) =
      allNumbered older ++ message :: allNumbered between := by
    simp [allNumbered, is]
  rw [CountsFrom, shape] at counts
  exact counts.number

theorem CountsFrom.of_append (counts : CountsFrom first (history ++ later)) :
    CountsFrom first history := by
  unfold CountsFrom allNumbered at counts ⊢
  rw [List.filterMap_append] at counts
  exact Consecutive.of_append counts

private theorem numbered_of_type {type : UInt8} (is : received turn = some message)
    (typed : hasType type message = true) (other : type ≠ 0x00) : numbered turn = some message := by
  have noConfirm : hasType 0x00 message = false := by
    simp [hasType, hasType_iff.mp typed, other]
  simp [numbered, is, Option.filter, noConfirm]

/-- What is remembered is a datagram of the server's own. -/
theorem Remembers.numbered (remembers : Remembers turn) :
    ∃ message, received turn = some message ∧ numbered turn = some message := by
  obtain ⟨message, is, remembered⟩ := remembers
  refine ⟨message, is, ?_⟩
  cases remembered with
  | message type | error type | bye type => exact numbered_of_type is type (by decide)
  | reply decodes => exact numbered_of_type is (hasType_iff.mpr decodes.type) (by decide)

private theorem numbered_of_heard (hears : heard turn ≠ []) :
    ∃ message, received turn = some message ∧ numbered turn = some message := by
  cases is : received turn with
  | none => exact absurd (by simp [heard, is]) hears
  | some message =>
    rw [heard_eq is] at hears
    split at hears
    · rename_i typed
      exact ⟨message, rfl, numbered_of_type is (hasType_iff.mpr typed.2) (by decide)⟩
    · exact absurd rfl hears

/-- Two datagrams of a count have one ID exactly when a multiple of 2^16 lies
between them. -/
theorem same_number_iff {older between : List UDPTurn} {earlier : UDPTurn} {other : Bytes}
    (counts : CountsFrom first (older ++ earlier :: between ++ [turn]))
    (is : numbered earlier = some message) (next : numbered turn = some other) :
    messageId message = messageId other ↔ (allNumbered (earlier :: between)).length % UInt16.size = 0 := by
  have before := number_of_numbered counts.of_append is
  have now := number_of_numbered counts next
  have count : (allNumbered (older ++ earlier :: between)).length =
      (allNumbered older).length + (allNumbered (earlier :: between)).length := by
    simp [allNumbered, List.filterMap_append]
  rw [before, now, count, Option.some.injEq, number_eq_iff]

/-- A turn of a counted run displays what it hears unless the count has come round. -/
theorem displays_heard_iff (run : UDPRun server retries history loop)
    (ran : loop.iterate event = some (report, after))
    (counts : CountsFrom first (history ++ [⟨loop, event, report, after⟩])) :
    displayed ⟨loop, event, report, after⟩ = heard ⟨loop, event, report, after⟩ ↔
      ¬ ComesRound history ⟨loop, event, report, after⟩ := by
  rw [displayed_of_iterate run ran]
  by_cases hears : heard ⟨loop, event, report, after⟩ = []
  · simp [ComesRound, hears]
  obtain ⟨message, is, own⟩ := numbered_of_heard hears
  have known_iff : (∃ id ∈ loop.protocolHandler.receivedIds,
      (received ⟨loop, event, report, after⟩).bind messageId = some id) ↔
      ComesRound history ⟨loop, event, report, after⟩ := by
    constructor
    · rintro ⟨id, known, read⟩
      obtain ⟨earlier, member, remembers, same⟩ := (mem_receivedIds_iff run id).mp known
      obtain ⟨older, between, rfl⟩ := List.append_of_mem member
      obtain ⟨other, heard', numbered'⟩ := remembers.numbered
      refine ⟨hears, older, earlier, between, rfl, remembers, ?_⟩
      rw [heard', Option.bind_some] at same
      rw [is, Option.bind_some] at read
      exact (same_number_iff counts numbered' own).mp (same.trans read.symm)
    · rintro ⟨-, older, earlier, between, rfl, remembers, multiple⟩
      obtain ⟨other, heard', numbered'⟩ := remembers.numbered
      have same := (same_number_iff counts numbered' own).mpr multiple
      have read := number_of_numbered counts own
      have again : (received earlier).bind messageId = messageId message := by
        rw [heard', Option.bind_some, same]
      have seen := (mem_receivedIds_iff run _).mpr ⟨earlier, by simp, remembers, again.trans read⟩
      refine ⟨_, seen, ?_⟩
      rw [is, Option.bind_some]
      exact read
  constructor
  · intro shows round
    rw [if_pos (known_iff.mpr round)] at shows
    exact hears shows.symm
  · intro fresh
    rw [if_neg fun known => fresh (known_iff.mp known)]

/-- In a run in which the server counts its datagrams, every MSG that comes in OPEN
is displayed exactly once if and only if no MSG comes a multiple of 2^16 datagrams
after one that is remembered. -/
theorem all_displayed_iff_not_comesRound (run : UDPRun server retries history loop)
    (counts : CountsFrom first history) :
    Throughout (fun _ turn => displayed turn = heard turn) history ↔
      Throughout (fun before turn => ¬ ComesRound before turn) history := by
  have each {before turn later} (shape : history = before ++ turn :: later) :
      displayed turn = heard turn ↔ ¬ ComesRound before turn := by
    subst shape
    have counted : CountsFrom first (before ++ [turn]) := by
      have whole : before ++ turn :: later = (before ++ [turn]) ++ later := by simp
      rw [whole] at counts
      exact counts.of_append
    exact displays_heard_iff run.split.1 run.split.2 counted
  constructor
  · intro all before turn later shape
    exact (each shape).mp (all before turn later shape)
  · intro all before turn later shape
    exact (each shape).mpr (all before turn later shape)

/-- An AUTH and two MSGs. -/
theorem all_displayed_iff_not_comesRound_two : ∃ history loop, UDPRun localServer 3 history loop ∧
    CountsFrom 5 history ∧ history.flatMap heard = [(text "a", text "hi"), (text "a", text "hi")] ∧
    (Throughout (fun _ turn => displayed turn = heard turn) history ↔
      Throughout (fun before turn => ¬ ComesRound before turn) history) := by
  have ran : sample [types "/auth a b c", arrives [0x00, 0, 0],
    arrives [0x01, 0, 5, 1, 0, 0, 0x6F, 0x6B, 0], arrives [0x04, 0, 6, 0x61, 0, 0x68, 0x69, 0],
    arrives [0x04, 0, 7, 0x61, 0, 0x68, 0x69, 0]] = some (_, _) := rfl
  have run := Run.of_exec ran
  refine ⟨_, _, run, ?counts, rfl, @all_displayed_iff_not_comesRound _ _ _ _ 5 run ?counts⟩
  exact consecutive_of_map rfl

/-! ## A session in which the count comes round -/

/-- A MSG of the sample session. -/
def saying (id : UInt16) : Bytes := header 0x04 id ++ [0x61, 0, 0x68, 0x69, 0]

private theorem messageId_saying : messageId (saying id) = some id := messageId_header _ _ _

/-- It arrives from the sample server. -/
def utters (id : UInt16) : Event Datagram :=
  .poll (.socket (.received localServer ⟨saying id, Nat.le_of_ble_eq_true rfl⟩))

/-- The session after a number of MSGs: the reply had the ID 0. -/
structure Chatting (count : Nat) (history : List UDPTurn)
    (loop : StreamHandler UDPProtocolHandler) : Prop where
  run : UDPRun localServer 3 history loop
  counts : CountsFrom 0 history
  length : (allNumbered history).length = count + 1
  opening : 3 ≤ history.length
  opened : ∀ turn ∈ history.drop 3, turn.before.protocolHandler.fsm.currentState = .opened ∧
    turn.after.protocolHandler.fsm.currentState = .opened
  idle : loop.state = .readyForInput ∧ loop.exited = false ∧ loop.interrupted = false ∧
    loop.protocolHandler.waitingForConfirmation = false
  current : loop.protocolHandler.fsm.currentState = .opened
  known : 0 ∈ loop.protocolHandler.receivedIds

/-- What a MSG does to an open session that waits for nothing. -/
theorem Chatting.processReceived {count : Nat} (chatting : Chatting count history loop)
    (id : UInt16) : ∃ outcome : Outcome UDPProtocolHandler,
      { loop.protocolHandler with serverAddress := localServer }.processReceived (saying id) =
        some outcome ∧ outcome.handler.fsm.currentState = .opened ∧
      0 ∈ outcome.handler.receivedIds ∧ outcome.handler.waitingForConfirmation = false ∧
      outcome.returned = some .readyForInput := by
  have asked := (udpRun_legal chatting.run).accepts_spoken chatting.current (.inl rfl)
  have body : parseAndValidate ((saying id).drop 3) "msg" = ([text "a", text "hi"], true) := rfl
  refine ⟨_, processReceived_message rfl messageId_saying body asked, ?_⟩
  split
  · exact ⟨rfl, chatting.known, chatting.idle.2.2.2, rfl⟩
  · exact ⟨rfl, List.mem_append_left _ chatting.known, chatting.idle.2.2.2, rfl⟩

private theorem Chatting.utter {count : Nat} (chatting : Chatting count history loop) (id : UInt16) :
    ∃ report after, loop.iterate (utters id) = some (report, after) ∧
      received ⟨loop, utters id, report, after⟩ = some (saying id) ∧
      after.protocolHandler.fsm.currentState = .opened ∧ 0 ∈ after.protocolHandler.receivedIds ∧
      after.state = .readyForInput ∧ after.exited = false ∧ after.interrupted = false ∧
      after.protocolHandler.waitingForConfirmation = false := by
  obtain ⟨outcome, ran, opened, known, clear, returned⟩ := chatting.processReceived id
  obtain ⟨ready, exited, interrupted, -⟩ := chatting.idle
  have served : loop.protocolHandler.processServerMessage (.received localServer
      ⟨saying id, Nat.le_of_ble_eq_true rfl⟩) = some outcome := by
    simp only [UDPProtocolHandler.processServerMessage, ran, Option.map_some, overrule, clear,
      Bool.false_eq_true, ↓reduceIte]
  have iterated : loop.iterate (utters id) = some
      (⟨.processServerMessage (.received localServer ⟨saying id, Nat.le_of_ble_eq_true rfl⟩),
        outcome.effects, outcome.returned⟩,
        { loop.resume outcome with retryCount := loop.retrans }) := by
    simp [StreamHandler.iterate, utters, ready, exited, interrupted, StreamHandler.dispatch,
      StreamHandler.serverMessage, ProtocolHandler.processServerMessage, served,
      StreamHandler.resume, returned]
  exact ⟨_, _, iterated, rfl, opened, known, by simp [StreamHandler.resume, returned], exited,
    interrupted, clear⟩

/-- The next MSG carries the next number. -/
theorem Chatting.step {count : Nat} (chatting : Chatting count history loop) :
    ∃ report after,
      loop.iterate (utters (UInt16.ofNat (count + 1))) = some (report, after) ∧
      received ⟨loop, utters (UInt16.ofNat (count + 1)), report, after⟩ =
        some (saying (UInt16.ofNat (count + 1))) ∧
      Chatting (count + 1)
        (history ++ [⟨loop, utters (UInt16.ofNat (count + 1)), report, after⟩]) after := by
  obtain ⟨report, after, ran, is, opened, known, ready, exited, interrupted, clear⟩ :=
    chatting.utter (UInt16.ofNat (count + 1))
  have own := @numbered_of_type _ _ 0x04 is rfl (by decide)
  have grown : allNumbered
      (history ++ [⟨loop, utters (UInt16.ofNat (count + 1)), report, after⟩]) =
        allNumbered history ++ [saying (UInt16.ofNat (count + 1))] := by
    rw [allNumbered, List.filterMap_append, List.filterMap_cons_some own]
    rfl
  refine ⟨report, after, ran, is, Run.turn chatting.run ran, ?_, ?_, ?_, ?_,
    ⟨ready, exited, interrupted, clear⟩, opened, known⟩
  · rw [CountsFrom, grown]
    refine consecutive_snoc.mpr ⟨chatting.counts, ?_⟩
    rw [messageId_saying, chatting.length, UInt16.zero_add]
  · rw [grown, List.length_append, chatting.length, List.length_singleton]
  · rw [List.length_append]
    exact Nat.le_add_right_of_le chatting.opening
  · rw [List.drop_append_of_le_length chatting.opening]
    intro turn member
    rcases List.mem_append.mp member with earlier | last
    · exact chatting.opened turn earlier
    · rw [List.mem_singleton.mp last]
      exact ⟨chatting.current, opened⟩

private theorem chatting_zero : ∃ history loop, Chatting 0 history loop := by
  have ran : sample [types "/auth a b c", arrives [0x00, 0, 0],
    arrives [0x01, 0, 0, 1, 0, 0, 0x68, 0x69, 0]] = some (_, _) := rfl
  refine ⟨_, _, Run.of_exec ran, consecutive_of_map rfl, rfl, Nat.le_refl 3, ?_, ⟨rfl, rfl, rfl, rfl⟩,
    rfl, List.mem_singleton.mpr rfl⟩
  intro turn member
  simp at member

private theorem chatting_all (count : Nat) : ∃ history loop, Chatting count history loop := by
  induction count with
  | zero => exact chatting_zero
  | succ count ih =>
    obtain ⟨history, loop, chatting⟩ := ih
    obtain ⟨report, after, -, -, more⟩ := chatting.step
    exact ⟨_, after, more⟩

/-- The MSG after 2^16 datagrams has the ID of the REPLY and is not displayed. -/
theorem message_lost_after_wraparound : ∃ history loop, UDPRun localServer 3 history loop ∧
    CountsFrom 0 history ∧
    (∀ turn ∈ history.drop 3, turn.before.protocolHandler.fsm.currentState = .opened ∧
      turn.after.protocolHandler.fsm.currentState = .opened) ∧
    ¬ Throughout (fun _ turn => displayed turn = heard turn) history := by
  obtain ⟨history, loop, chatting⟩ := chatting_all 65535
  obtain ⟨report, after, ran, is, more⟩ := chatting.step
  refine ⟨_, after, more.run, more.counts, more.opened, ?_⟩
  intro all
  have shows := all history _ [] rfl
  have lost := displayed_of_iterate chatting.run ran
  rw [if_pos ⟨0, chatting.known, by rw [is]; rfl⟩] at lost
  have hears := heard_eq is
  rw [if_pos ⟨chatting.current, rfl⟩] at hears
  cases lost.symm.trans (shows.trans hears)

end ChatClient
