import ChatClient.UDPConfirmation
import ChatClient.UDPDelivery
import ChatClient.UDPWraparound

/-! The other direction: a server that says something, the network, and the UDP
client that displays it.

The server says one MSG at a time, under an ID it has not used, and waits for its
CONFIRM; besides, it sends datagrams of other kinds whenever it likes. The network
loses, repeats and reorders both ways, and the user types what he wants. Server,
client and network move as the channel of `Library.Delivery` again, with the roles
exchanged: a MSG is taken when it is displayed and acknowledged when it is heard.
A MSG that comes while the session is not open is neither. -/

namespace ChatClient

open Transition Delivery UDPProtocolHandler UDPMessageValidator FSMValidate

variable {server : SockAddr} {retries : UInt8} {history : List UDPTurn} {turn : UDPTurn}
  {loop after : StreamHandler UDPProtocolHandler} {event : Event Datagram}
  {report : Report Datagram} {h : UDPProtocolHandler} {message line : Bytes} {id : UInt16}
  {outcome : Outcome UDPProtocolHandler}

/-! ## The server as a speaker -/

/-- The server: the MSGs it has said, oldest first, whether it waits for the CONFIRM
of the last, and everything else it has sent. -/
structure Speaker where
  said : List Bytes := []
  waits : Bool := false
  others : List Bytes := []

namespace Speaker

/-- The IDs the server has used. A CONFIRM carries an ID of the client. -/
def used (speaker : Speaker) : List (Option UInt16) :=
  speaker.said.map messageId ++
    (speaker.others.filter fun m => !hasType 0x00 m).map messageId

/-- Name and content of every MSG said. -/
def spoken (speaker : Speaker) : List (Bytes × Bytes) := speaker.said.filterMap saidIn

/-- A datagram of the client arrives: the CONFIRM of the last MSG ends the wait. -/
def hear (speaker : Speaker) (message : Bytes) : Speaker :=
  if (confirmOf message).isSome ∧ (speaker.said.getLast?).bind messageId = confirmOf message then
    { speaker with waits := false }
  else speaker

end Speaker

/-- What the client and the speaking server have done so far, in any interleaving. -/
inductive Listening (server : SockAddr) (retries : UInt8) :
    List UDPTurn → StreamHandler UDPProtocolHandler → Speaker → Prop where
  | start : Listening server retries [] (.start (create server) retries) {}
  /-- The client takes a turn. A datagram it receives is one the server has sent. -/
  | turn {history : List UDPTurn} {loop after : StreamHandler UDPProtocolHandler}
      {speaker : Speaker} {event : Event Datagram} {report : Report Datagram}
      (listening : Listening server retries history loop speaker)
      (ran : loop.iterate event = some (report, after))
      (carried : ∀ m, received ⟨loop, event, report, after⟩ = some m →
        m ∈ speaker.said ∨ m ∈ speaker.others) :
      Listening server retries (history ++ [⟨loop, event, report, after⟩]) after speaker
  /-- The server says the next MSG. -/
  | say {history : List UDPTurn} {loop : StreamHandler UDPProtocolHandler} {speaker : Speaker}
      {message : Bytes} (listening : Listening server retries history loop speaker)
      (idle : speaker.waits = false) (type : hasType 0x04 message = true)
      (valid : (saidIn message).isSome = true) (short : message.length ≤ 1499)
      (fresh : messageId message ∉ speaker.used) :
      Listening server retries history loop
        { speaker with said := speaker.said ++ [message], waits := true }
  /-- A datagram the client has sent arrives. -/
  | arrival {history : List UDPTurn} {loop : StreamHandler UDPProtocolHandler} {speaker : Speaker}
      {message : Bytes} (listening : Listening server retries history loop speaker)
      (carried : message ∈ allSent history) :
      Listening server retries history loop (speaker.hear message)
  /-- The server sends anything but a well-formed MSG, under an ID no MSG has. -/
  | other {history : List UDPTurn} {loop : StreamHandler UDPProtocolHandler} {speaker : Speaker}
      {message : Bytes} (listening : Listening server retries history loop speaker)
      (noMessage : hasType 0x04 message = false ∨ saidIn message = none)
      (apart : hasType 0x00 message = true ∨ messageId message ∉ speaker.said.map messageId) :
      Listening server retries history loop { speaker with others := speaker.others ++ [message] }

variable {speaker : Speaker}

/-- The client's part is a run. -/
theorem Listening.run (listening : Listening server retries history loop speaker) :
    UDPRun server retries history loop := by
  induction listening with
  | start => exact .start
  | turn _ ran _ ih => exact ih.turn ran
  | say _ _ _ _ _ _ ih | arrival _ _ ih | other _ _ _ ih => exact ih

/-- What the server sends: each MSG is one and fits the client's buffer, and nothing
else is a MSG or has the ID of one. -/
structure Speaker.Proper (speaker : Speaker) : Prop where
  messages : ∀ m ∈ speaker.said,
    hasType 0x04 m = true ∧ (saidIn m).isSome = true ∧ m.length ≤ 1499
  noMessages : ∀ m ∈ speaker.others, hasType 0x04 m = false ∨ saidIn m = none
  apart : ∀ m ∈ speaker.others, hasType 0x00 m = true ∨ messageId m ∉ speaker.said.map messageId

theorem Listening.proper (listening : Listening server retries history loop speaker) :
    speaker.Proper := by
  induction listening with
  | start => exact ⟨by simp, by simp, by simp⟩
  | turn _ _ _ ih => exact ih
  | @say _ _ speaker message _ idle type valid short fresh ih =>
    obtain ⟨messages, noMessages, apart⟩ := ih
    refine ⟨fun m member => ?_, noMessages, fun m member => ?_⟩
    · rcases List.mem_append.mp member with old | new
      · exact messages m old
      · rw [List.mem_singleton.mp new]
        exact ⟨type, valid, short⟩
    · by_cases confirm : hasType 0x00 m = true
      · exact .inl confirm
      · refine .inr fun held => fresh ?_
        rw [List.map_append, List.mem_append, List.map_singleton, List.mem_singleton] at held
        rcases held with old | new
        · exact absurd old ((apart m member).resolve_left confirm)
        · rw [← new]
          refine List.mem_append_right _ (List.mem_map_of_mem ?_)
          exact List.mem_filter.mpr ⟨member, by simp [confirm]⟩
  | arrival _ _ ih =>
    unfold Speaker.hear
    split
    · exact ⟨ih.messages, ih.noMessages, ih.apart⟩
    · exact ih
  | other _ noMessage apart ih =>
    refine ⟨ih.messages, fun m member => ?_, fun m member => ?_⟩
    · rcases List.mem_append.mp member with old | new
      · exact ih.noMessages m old
      · rw [List.mem_singleton.mp new]
        exact noMessage
    · rcases List.mem_append.mp member with old | new
      · exact ih.apart m old
      · rw [List.mem_singleton.mp new]
        exact apart

/-! ## What the client confirms -/

/-- A CONFIRM a call sends is for the datagram it was given, and for a MSG only in
OPEN. -/
def Confirms (h : UDPProtocolHandler) (message confirm : Bytes) : Prop :=
  ∃ id, confirm = header 0x00 id ∧ messageId message = some id ∧ hasType 0x00 message = false ∧
    (hasType 0x04 message = true → h.fsm.currentState = .opened)

private theorem confirms_of_single {kind : UInt8} {confirm : Bytes}
    (member : confirm ∈ [header 0x00 id])
    (type : message[0]? = some kind) (other : kind ≠ 0x00) (read : messageId message = some id)
    (opened : kind = 0x04 → h.fsm.currentState = .opened) : Confirms h message confirm := by
  refine ⟨id, List.mem_singleton.mp member, read, by simp [hasType, type, other], fun is => ?_⟩
  rw [hasType_iff, type] at is
  exact opened (Option.some.inj is)

/-- Every end of `process_received` confirms so. -/
theorem UDPProtocolHandler.Receipt.confirms {confirm : Bytes} (receipt : Receipt h message outcome)
    (legal : h.fsm.Legal) (member : confirm ∈ confirmations outcome.effects) :
    Confirms h message confirm := by
  cases receipt with
  | byeConfirmed | confirmed | stray | undecided => cases member
  | errorConfirmed =>
    rw [confirmations_message (by simp)] at member
    cases member
  | reply decodes =>
    refine confirms_of_single ?_ decodes.type (by decide) decodes.id (by simp)
    unfold settleReply at member
    split at member
    · rwa [confirmations_shown (by obtain ⟨_, _, _ | _⟩ := decodes.result <;> rfl),
        confirmations_confirmation] at member
    · rwa [confirmations_confirmation] at member
  | repeated type read _ asked =>
    rw [confirmations_confirmation, confirmations_nil] at member
    exact confirms_of_single member type (by decide) read fun _ => (legal.spoken (.inl rfl) asked).1
  | shown type read _ asked =>
    rw [confirmations_confirmation, confirmations_shown rfl, confirmations_nil] at member
    exact confirms_of_single member type (by decide) read fun _ => (legal.spoken (.inl rfl) asked).1
  | errorRepeated type read =>
    rw [confirmations_confirmation, confirmations_message (by simp), confirmations_nil] at member
    exact confirms_of_single member type (by decide) read (by simp)
  | errorShown type read =>
    rw [confirmations_confirmation, confirmations_shown rfl, confirmations_message (by simp),
      confirmations_nil] at member
    exact confirms_of_single member type (by decide) read (by simp)
  | bye type read =>
    rw [confirmations_confirmation, confirmations_nil] at member
    exact confirms_of_single member type (by decide) read (by simp)
  | @failed fsm kind confirmation error type noConfirm refused confirms =>
    rcases confirms with ⟨-, rfl⟩ | ⟨loud, id, read, rfl⟩
    · simp [failWith] at member
    · simp only [failWith, List.singleton_append, confirmations_confirmation,
        confirmations_sendErrorMessage] at member
      refine confirms_of_single member type noConfirm read fun is => ?_
      -- a MSG that is turned down is confirmed only if the machine accepts it
      by_contra closed
      refine loud (.inr (.inr (.inl ⟨is ▸ type, .inr fun fsm asked => closed ?_⟩)))
      exact (legal.spoken (.inl rfl) asked).1

private theorem UDPProtocolHandler.Command.confirms_nothing (command : Command h line outcome) :
    confirmations outcome.effects = [] := by
  cases command with
  | exit => exact confirmations_message (by simp)
  | deferred => exact confirmations_sendErrorMessage
  | rejected | renamed | helped | undecided => rfl
  | requested _ _ kind =>
    refine confirmations_message ?_
    rcases kind with ⟨rfl, -⟩ | ⟨rfl, -⟩ <;> simp
  | spoken => exact confirmations_message (by simp)

private theorem confirms_of_iterate {confirm : Bytes} (run : UDPRun server retries history loop)
    (ran : loop.iterate event = some (report, after)) (member : confirm ∈ sent report.effects)
    (type : hasType 0x00 confirm = true) :
    ∃ m, received ⟨loop, event, report, after⟩ = some m ∧
      Confirms loop.protocolHandler m confirm := by
  have confirms : confirm ∈ confirmations report.effects := List.mem_filter.mpr ⟨member, type⟩
  obtain ⟨-, iteration⟩ := udpIteration_of_iterate ran
  cases iteration with
  | received called =>
    exact ⟨_, rfl, (receipt_of_processReceived called).confirms (udpRun_legal run) confirms⟩
  | command called =>
    rw [(command_of_processUserInput called).confirms_nothing] at confirms
    cases confirms
  | resend =>
    obtain rfl : confirm = loop.protocolHandler.lastMessage := List.mem_singleton.mp member
    rcases udpRun_lastMessage run with issued | none
    · rw [allOriginated_type issued] at type
      cases type
    · rw [none] at type
      cases type
  | lost | giveUp => cases confirms
  | idle silent => rcases silent with rfl | rfl <;> cases confirms

/-! ## The channel under a listening client -/

/-- The MSG a turn hears. -/
def heardIn (turn : UDPTurn) : Option Bytes := if heard turn = [] then none else received turn

/-- The MSG a turn displays. -/
def takenIn (turn : UDPTurn) : Option Bytes := if displayed turn = [] then none else received turn

/-- The server and the client as the two ends of a channel. -/
def speechOf (history : List UDPTurn) (speaker : Speaker) : Channel Bytes (Option UInt16) where
  issued := speaker.said
  waiting := speaker.waits
  taken := history.filterMap takenIn
  acknowledged := (history.filterMap heardIn).map messageId

private theorem heardIn_eq_some : heardIn turn = some message ↔ received turn = some message ∧
    turn.before.protocolHandler.fsm.currentState = .opened ∧ hasType 0x04 message = true ∧
    (saidIn message).isSome = true := by
  rw [hasType_iff]
  unfold heardIn
  constructor
  · intro hears
    split at hears
    · cases hears
    · rename_i some'
      rw [heard_eq hears] at some'
      split at some'
      · rename_i typed
        cases said : saidIn message with
        | none => simp [said] at some'
        | some pair => exact ⟨hears, typed.1, typed.2, rfl⟩
      · exact absurd rfl some'
  · rintro ⟨is, opened, type, valid⟩
    obtain ⟨pair, said⟩ := Option.isSome_iff_exists.mp valid
    have hears : heard turn ≠ [] := by
      rw [heard_eq is, if_pos ⟨opened, type⟩, said]
      exact List.cons_ne_nil _ _
    rw [if_neg hears]
    exact is

private theorem takenIn_of_iterate (run : UDPRun server retries history loop)
    (ran : loop.iterate event = some (report, after)) :
    takenIn ⟨loop, event, report, after⟩ = some message ↔
      heardIn ⟨loop, event, report, after⟩ = some message ∧
        ∀ id ∈ loop.protocolHandler.receivedIds, messageId message ≠ some id := by
  have shows := displayed_of_iterate run ran
  unfold takenIn heardIn
  by_cases known : ∃ id ∈ loop.protocolHandler.receivedIds,
      (received ⟨loop, event, report, after⟩).bind messageId = some id
  · rw [if_pos known] at shows
    rw [if_pos shows]
    refine iff_of_false (by simp) ?_
    rintro ⟨hears, fresh⟩
    split at hears
    · cases hears
    · obtain ⟨id, held, same⟩ := known
      rw [hears] at same
      exact fresh id held same
  · rw [if_neg known] at shows
    rw [shows]
    refine (and_iff_left_of_imp fun hears id held same => known ⟨id, held, ?_⟩).symm
    split at hears
    · cases hears
    · rw [hears]
      exact same

private theorem displayed_of_takenIn (run : UDPRun server retries history loop)
    (ran : loop.iterate event = some (report, after)) :
    displayed ⟨loop, event, report, after⟩ =
      ((takenIn ⟨loop, event, report, after⟩).bind saidIn).toList := by
  cases took : takenIn ⟨loop, event, report, after⟩ with
  | some m =>
    obtain ⟨hears, fresh⟩ := (takenIn_of_iterate run ran).mp took
    obtain ⟨is, opened, type, -⟩ := heardIn_eq_some.mp hears
    rw [displayed_of_iterate run ran, if_neg, heard_eq is, if_pos ⟨opened, hasType_iff.mp type⟩]
    · rfl
    · rintro ⟨id, held, same⟩
      rw [is] at same
      exact fresh id held same
  | none =>
    unfold takenIn at took
    split at took
    · assumption
    · -- what receives nothing displays nothing
      rename_i some'
      rw [displayed_of_iterate run ran] at some'
      simp [heard, took] at some'

/-- What is known of a listening client: it remembers IDs the server has used, those
of MSGs it has taken among them, and has confirmed no MSG it has not heard. -/
structure Attends (history : List UDPTurn) (loop : StreamHandler UDPProtocolHandler)
    (speaker : Speaker) : Prop where
  reaches : Reaches messageId (speechOf history speaker)
  used : ∀ id ∈ loop.protocolHandler.receivedIds, some id ∈ speaker.used
  taken : ∀ m ∈ speaker.said, ∀ id, messageId m = some id →
    (id ∈ loop.protocolHandler.receivedIds ↔ some id ∈ (speechOf history speaker).taken.map messageId)
  confirmed : ∀ confirm ∈ allSent history, hasType 0x00 confirm = true →
    ∃ id, confirm = header 0x00 id ∧ some id ∈ speaker.used ∧
      ∀ m ∈ speaker.said, messageId m = some id → some id ∈ (speechOf history speaker).acknowledged

/-- A datagram with the ID of a MSG that was said is that MSG or another, or a CONFIRM. -/
theorem Speaker.Proper.said_of_same {m : Bytes} (proper : speaker.Proper)
    (carried : message ∈ speaker.said ∨ message ∈ speaker.others)
    (own : hasType 0x00 message = false) (member : m ∈ speaker.said)
    (same : messageId message = messageId m) : message ∈ speaker.said := by
  rcases carried with said | other
  · exact said
  · rcases proper.apart message other with confirm | apart
    · rw [own] at confirm
      cases confirm
    · exact absurd (same ▸ List.mem_map_of_mem member) apart

/-- What the server has sent, CONFIRMs apart, has a used ID. -/
theorem Speaker.used_of_carried (carried : message ∈ speaker.said ∨ message ∈ speaker.others)
    (own : hasType 0x00 message = false) : messageId message ∈ speaker.used := by
  rcases carried with said | other
  · exact List.mem_append_left _ (List.mem_map_of_mem said)
  · refine List.mem_append_right _ (List.mem_map_of_mem (List.mem_filter.mpr ⟨other, ?_⟩))
    simp [own]

private theorem Speaker.Proper.said_of_heard (proper : speaker.Proper)
    (carried : ∀ m, received turn = some m → m ∈ speaker.said ∨ m ∈ speaker.others)
    (hears : heardIn turn = some message) : message ∈ speaker.said := by
  obtain ⟨is, -, type, valid⟩ := heardIn_eq_some.mp hears
  refine (carried message is).resolve_right fun other => ?_
  rcases proper.noMessages message other with wrong | none
  · rw [type] at wrong
    cases wrong
  · rw [none] at valid
    cases valid

@[simp] theorem speechOf_taken_snoc : (speechOf (history ++ [turn]) speaker).taken =
    (speechOf history speaker).taken ++ (takenIn turn).toList := by
  cases took : takenIn turn <;> simp [speechOf, List.filterMap_append, took]

@[simp] theorem speechOf_acknowledged_snoc : (speechOf (history ++ [turn]) speaker).acknowledged =
    (speechOf history speaker).acknowledged ++ ((heardIn turn).map messageId).toList := by
  cases hears : heardIn turn <;> simp [speechOf, List.filterMap_append, hears]

/-- The client remembers the ID of a MSG that was said by this turn exactly if it
hears it. -/
theorem Attends.remembers_iff {m : Bytes} (proper : speaker.Proper)
    (carried : ∀ m, received turn = some m → m ∈ speaker.said ∨ m ∈ speaker.others)
    (member : m ∈ speaker.said) (read : messageId m = some id) :
    (Remembers turn ∧ (received turn).bind messageId = some id) ↔
      ∃ message, heardIn turn = some message ∧ messageId message = some id := by
  constructor
  · rintro ⟨remembers, got⟩
    obtain ⟨message, is, own⟩ := remembers.numbered
    have own : hasType 0x00 message = false := by simpa [numbered, is, Option.filter] using own
    rw [is, Option.bind_some] at got
    have said := proper.said_of_same (carried message is) own member (got.trans read.symm)
    obtain ⟨type, valid, -⟩ := proper.messages message said
    refine ⟨message, heardIn_eq_some.mpr ⟨is, ?_, type, valid⟩, got⟩
    obtain ⟨other, same, remembered⟩ := remembers
    cases is.symm.trans same
    cases remembered with
    | message _ opened => exact opened
    | reply decodes =>
      have reply := decodes.type
      rw [hasType_iff.mp type] at reply
      cases reply
    | error wrong | bye wrong =>
      rw [hasType_iff, hasType_iff.mp type] at wrong
      cases wrong
  · rintro ⟨message, hears, same⟩
    obtain ⟨is, opened, type, valid⟩ := heardIn_eq_some.mp hears
    obtain ⟨pair, said⟩ := Option.isSome_iff_exists.mp valid
    refine ⟨⟨message, is, .message type opened ?_⟩, by rw [is, Option.bind_some, same]⟩
    rw [saidIn_iff.mp said]

/-! ## The moves of the channel -/

/-- A turn of the client hands a MSG over, or is no move. -/
theorem Attends.reaches_turn (attends : Attends history loop speaker) (proper : speaker.Proper)
    (run : UDPRun server retries history loop) (ran : loop.iterate event = some (report, after))
    (carried : ∀ m, received ⟨loop, event, report, after⟩ = some m →
      m ∈ speaker.said ∨ m ∈ speaker.others) :
    Reaches messageId (speechOf (history ++ [⟨loop, event, report, after⟩]) speaker) := by
  have shape : speechOf (history ++ [⟨loop, event, report, after⟩]) speaker =
      { speechOf history speaker with
        taken := (speechOf history speaker).taken ++ (takenIn ⟨loop, event, report, after⟩).toList
        acknowledged := (speechOf history speaker).acknowledged ++
          ((heardIn ⟨loop, event, report, after⟩).map messageId).toList } := by
    rw [← speechOf_taken_snoc, ← speechOf_acknowledged_snoc]
    rfl
  rw [shape]
  cases hears : heardIn ⟨loop, event, report, after⟩ with
  | none =>
    have silent : takenIn ⟨loop, event, report, after⟩ = none := by
      refine Option.eq_none_iff_forall_ne_some.mpr fun m took => ?_
      rw [takenIn_of_iterate run ran, hears] at took
      cases took.1
    simp only [silent, Option.map_none, Option.toList_none, List.append_nil]
    exact attends.reaches
  | some m =>
    have said := proper.said_of_heard carried hears
    refine attends.reaches.tail ?_
    have moved : Step messageId (speechOf history speaker)
      ((speechOf history speaker).deliver messageId m) := .deliver said
    obtain ⟨is, -, type, valid⟩ := heardIn_eq_some.mp hears
    obtain ⟨pair, words⟩ := Option.isSome_iff_exists.mp valid
    obtain ⟨id, read⟩ := messageId_of_length (Nat.le_of_succ_le (body_long (saidIn_iff.mp words)))
    have known := attends.taken m said id read
    rw [← read] at known
    by_cases held : id ∈ loop.protocolHandler.receivedIds
    · have silent : takenIn ⟨loop, event, report, after⟩ = none := by
        refine Option.eq_none_iff_forall_ne_some.mpr fun other took => ?_
        obtain ⟨same, fresh⟩ := (takenIn_of_iterate run ran).mp took
        cases hears.symm.trans same
        exact fresh id held read
      rw [Channel.deliver, if_pos (known.mp held)] at moved
      simpa [silent] using moved
    · have took : takenIn ⟨loop, event, report, after⟩ = some m := by
        refine (takenIn_of_iterate run ran).mpr ⟨hears, fun other member same => held ?_⟩
        cases read.symm.trans same
        exact member
      rw [Channel.deliver, if_neg fun taken => held (known.mpr taken)] at moved
      simpa [took] using moved

/-- A turn of the client keeps what is known of it. -/
theorem Attends.next (attends : Attends history loop speaker) (proper : speaker.Proper)
    (run : UDPRun server retries history loop) (ran : loop.iterate event = some (report, after))
    (carried : ∀ m, received ⟨loop, event, report, after⟩ = some m →
      m ∈ speaker.said ∨ m ∈ speaker.others) :
    Attends (history ++ [⟨loop, event, report, after⟩]) after speaker := by
  refine ⟨attends.reaches_turn proper run ran carried, ?_, ?_, ?_⟩
  · intro id member
    rcases (mem_receivedIds_of_iterate run ran).mp member with old | ⟨remembers, got⟩
    · exact attends.used id old
    · obtain ⟨message, is, own⟩ := remembers.numbered
      have own : hasType 0x00 message = false := by simpa [numbered, is, Option.filter] using own
      rw [is, Option.bind_some] at got
      exact got ▸ Speaker.used_of_carried (carried message is) own
  · intro m said id read
    rw [mem_receivedIds_of_iterate run ran, Attends.remembers_iff proper carried said read,
      speechOf_taken_snoc, List.map_append, List.mem_append, attends.taken m said id read]
    constructor
    · rintro (old | ⟨message, hears, same⟩)
      · exact .inl old
      · by_cases held : id ∈ loop.protocolHandler.receivedIds
        · exact .inl ((attends.taken m said id read).mp held)
        · have took : takenIn ⟨loop, event, report, after⟩ = some message := by
            refine (takenIn_of_iterate run ran).mpr ⟨hears, fun other member equal => held ?_⟩
            cases same.symm.trans equal
            exact member
          exact .inr (by simp [took, same])
    · rintro (old | new)
      · exact .inl old
      · cases took : takenIn ⟨loop, event, report, after⟩ with
        | none => simp [took] at new
        | some message =>
          simp only [took, Option.toList_some, List.map_cons, List.map_nil,
            List.mem_singleton] at new
          exact .inr ⟨message, ((takenIn_of_iterate run ran).mp took).1, new.symm⟩
  · intro confirm member type
    rw [allSent_snoc, List.mem_append] at member
    rcases member with old | new
    · obtain ⟨id, shape, used, heard⟩ := attends.confirmed confirm old type
      refine ⟨id, shape, used, fun m said read => ?_⟩
      rw [speechOf_acknowledged_snoc]
      exact List.mem_append_left _ (heard m said read)
    · obtain ⟨message, is, id, shape, got, own, opened⟩ := confirms_of_iterate run ran new type
      refine ⟨id, shape, got ▸ Speaker.used_of_carried (carried message is) own, fun m said read => ?_⟩
      have said := proper.said_of_same (carried message is) own said (got.trans read.symm)
      obtain ⟨kind, valid, -⟩ := proper.messages message said
      have hears : heardIn ⟨loop, event, report, after⟩ = some message :=
        heardIn_eq_some.mpr ⟨is, opened kind, kind, valid⟩
      rw [speechOf_acknowledged_snoc]
      exact List.mem_append_right _ (by simp [hears, got])

/-- The next MSG. -/
theorem Attends.say (attends : Attends history loop speaker) (idle : speaker.waits = false)
    (fresh : messageId message ∉ speaker.used) :
    Attends history loop { speaker with said := speaker.said ++ [message], waits := true } := by
  have more {id : Option UInt16} (used : id ∈ speaker.used) :
      id ∈ { speaker with said := speaker.said ++ [message], waits := true : Speaker }.used := by
    unfold Speaker.used at used ⊢
    rw [List.map_append, List.append_assoc]
    rcases List.mem_append.mp used with said | other
    · exact List.mem_append_left _ said
    · exact List.mem_append_right _ (List.mem_append_right _ other)
  have issues : Step messageId (speechOf history speaker)
      (speechOf history { speaker with said := speaker.said ++ [message], waits := true }) :=
    .issue idle fun known => fresh (List.mem_append_left _ known)
  refine ⟨attends.reaches.tail issues, fun id held => more (attends.used id held), ?_, ?_⟩
  · intro m member id read
    rcases List.mem_append.mp member with old | new
    · exact attends.taken m old id read
    · cases List.mem_singleton.mp new
      refine iff_of_false (fun held => fresh (read ▸ attends.used id held)) fun held => fresh ?_
      obtain ⟨other, took, same⟩ := List.mem_map.mp held
      have said := (InOrder.of_reaches attends.reaches).isPrefix.subset took
      rw [read, ← same]
      exact List.mem_append_left _ (List.mem_map_of_mem said)
  · intro confirm member type
    obtain ⟨id, shape, used, heard⟩ := attends.confirmed confirm member type
    refine ⟨id, shape, more used, fun m held read => ?_⟩
    rcases List.mem_append.mp held with old | new
    · exact heard m old read
    · cases List.mem_singleton.mp new
      exact absurd (read ▸ used) fresh

/-- A datagram of the client arrives at the server. -/
theorem Attends.arrival (attends : Attends history loop speaker)
    (carried : message ∈ allSent history) :
    Attends history loop (speaker.hear message) := by
  unfold Speaker.hear
  split
  · rename_i confirms
    refine ⟨attends.reaches.tail ?_, attends.used, attends.taken, attends.confirmed⟩
    obtain ⟨id, confirmed⟩ := Option.isSome_iff_exists.mp confirms.1
    rw [confirmed, Option.bind_eq_some_iff] at confirms
    obtain ⟨-, last, is, read⟩ := confirms
    have type : hasType 0x00 message = true := by
      by_contra other
      rw [confirmOf, if_neg other] at confirmed
      cases confirmed
    obtain ⟨other, shape, -, heard⟩ := attends.confirmed message carried type
    rw [shape, confirmOf_eq rfl messageId_confirm, Option.some.injEq] at confirmed
    subst confirmed
    refine .release is ?_
    rw [read]
    exact heard last (List.mem_of_getLast? is) read
  · exact attends

/-- What else the server sends changes nothing. -/
theorem Attends.other (attends : Attends history loop speaker) :
    Attends history loop { speaker with others := speaker.others ++ [message] } := by
  have more {id : Option UInt16} (used : id ∈ speaker.used) :
      id ∈ { speaker with others := speaker.others ++ [message] : Speaker }.used := by
    unfold Speaker.used at used ⊢
    rw [List.filter_append, List.map_append, ← List.append_assoc]
    exact List.mem_append_left _ used
  refine ⟨attends.reaches, fun id held => more (attends.used id held), attends.taken, ?_⟩
  intro confirm member type
  obtain ⟨id, shape, used, heard⟩ := attends.confirmed confirm member type
  exact ⟨id, shape, more used, heard⟩

private theorem Listening.attends (listening : Listening server retries history loop speaker) :
    Attends history loop speaker := by
  induction listening with
  | start => exact ⟨.refl, by simp [StreamHandler.start, create], by simp, by simp [allSent]⟩
  | turn listening ran carried ih => exact ih.next listening.proper listening.run ran carried
  | say _ idle _ _ _ fresh ih => exact ih.say idle fresh
  | arrival _ carried ih => exact ih.arrival carried
  | other _ _ _ ih => exact ih.other

/-! ## In order and exactly once -/

/-- The MSGs displayed in a run, by name and content. -/
def allDisplayed (history : List UDPTurn) : List (Bytes × Bytes) := history.flatMap displayed

private theorem allDisplayed_eq (run : UDPRun server retries history loop) :
    allDisplayed history = (history.filterMap takenIn).filterMap saidIn := by
  refine run.invariant (I := fun history _ => allDisplayed history =
    (history.filterMap takenIn).filterMap saidIn) rfl fun {history loop event report after} run same ran => ?_
  rw [allDisplayed, List.flatMap_append, List.flatMap_singleton, displayed_of_takenIn run ran,
    List.filterMap_append, List.filterMap_append]
  rw [allDisplayed] at same
  rw [same]
  cases took : takenIn ⟨loop, event, report, after⟩ with
  | none => simp [took]
  | some m => cases said : saidIn m <;> simp [took, said]

/-- Nothing is missing when the server does not wait. -/
theorem Listening.complete (listening : Listening server retries history loop speaker)
    (idle : speaker.waits = false) : allDisplayed history = speaker.spoken := by
  have same : history.filterMap takenIn = speaker.said :=
    (InOrder.of_reaches listening.attends.reaches).complete idle
  rw [allDisplayed_eq listening.run, same, Speaker.spoken]

/-- What is displayed is what was said, as far as it goes. -/
theorem Listening.isPrefix (listening : Listening server retries history loop speaker) :
    allDisplayed history <+: speaker.spoken := by
  have ordered := InOrder.of_reaches listening.attends.reaches
  rw [allDisplayed_eq listening.run]
  exact ordered.isPrefix.filterMap _

/-- Whatever the network loses, repeats and reorders and the user types meanwhile, the
client has displayed, in order and each once, what the server has said, up to the MSG
whose CONFIRM it waits for, and all of it when it waits for none. -/
theorem speech_in_order (listening : Listening server retries history loop speaker) :
    allDisplayed history <+: speaker.spoken ∧
      speaker.spoken.length ≤ (allDisplayed history).length + 1 ∧
      (speaker.waits = false → allDisplayed history = speaker.spoken) := by
  have ordered := InOrder.of_reaches listening.attends.reaches
  refine ⟨listening.isPrefix, ?_, listening.complete⟩
  rw [allDisplayed_eq listening.run, Speaker.spoken]
  rcases ordered.behind with same | ⟨-, last, shape⟩
  · have same : history.filterMap takenIn = speaker.said := same
    rw [same]
    omega
  · have shape : speaker.said = history.filterMap takenIn ++ [last] := shape
    rw [shape, List.filterMap_append, List.length_append]
    have one := List.length_filterMap_le saidIn [last]
    simp only [List.length_singleton] at one
    omega

/-- A session that has been opened. -/
theorem listening_opened (ran : sample [types "/auth a b c", arrives [0x00, 0, 0],
      arrives [0x01, 0, 5, 1, 0, 0, 0x6F, 0x6B, 0]] = some (history, loop)) :
    Listening localServer 3 history loop
      { others := [[0x00, 0, 0], [0x01, 0, 5, 1, 0, 0, 0x6F, 0x6B, 0]] } := by
  have typed := @Listening.start localServer 3 |>.turn (show StreamHandler.iterate _
    (types "/auth a b c") = some (_, _) from rfl) (by simp [received])
  have confirmed := @Listening.other _ _ _ _ _ [0x00, 0, 0] typed (.inl rfl) (.inl rfl) |>.turn
    (show StreamHandler.iterate _ (arrives [0x00, 0, 0]) = some (_, _) from rfl)
    fun m got => by cases got; exact .inr (.head _)
  have opened := @Listening.other _ _ _ _ _ [0x01, 0, 5, 1, 0, 0, 0x6F, 0x6B, 0] confirmed
    (.inl rfl) (.inr (by simp)) |>.turn (show StreamHandler.iterate _
      (arrives [0x01, 0, 5, 1, 0, 0, 0x6F, 0x6B, 0]) = some (_, _) from rfl)
    fun m got => by cases got; exact .inr (.tail _ (.head _))
  cases ran
  exact opened

/-- A MSG that comes twice, and one that is lost. -/
theorem speech_in_order_hi : ∃ history loop speaker,
    Listening localServer 3 history loop speaker ∧
      speaker.spoken = [(text "a", text "hi"), (text "a", text "ho")] ∧
      allDisplayed history = [(text "a", text "hi")] ∧ allDisplayed history <+: speaker.spoken ∧
      speaker.spoken.length ≤ (allDisplayed history).length + 1 ∧
      (speaker.waits = false → allDisplayed history = speaker.spoken) := by
  have opened := listening_opened rfl
  have said := @Listening.say _ _ _ _ _ [0x04, 0, 6, 0x61, 0, 0x68, 0x69, 0] opened rfl rfl rfl
    (by decide) (by decide)
  have heard := said.turn (show StreamHandler.iterate _
    (arrives [0x04, 0, 6, 0x61, 0, 0x68, 0x69, 0]) = some (_, _) from rfl)
    fun m got => by cases got; exact .inl (.head _)
  have again := heard.turn (show StreamHandler.iterate _
    (arrives [0x04, 0, 6, 0x61, 0, 0x68, 0x69, 0]) = some (_, _) from rfl)
    fun m got => by cases got; exact .inl (.head _)
  have answered := @Listening.arrival _ _ _ _ _ [0x00, 0, 6] again (.tail _ (.tail _ (.head _)))
  have lost := @Listening.say _ _ _ _ _ [0x04, 0, 7, 0x61, 0, 0x68, 0x6F, 0] answered rfl rfl rfl
    (by decide) (by decide)
  exact ⟨_, _, _, lost, rfl, rfl, speech_in_order lost⟩

private theorem Listening.last_of_waits (listening : Listening server retries history loop speaker)
    (waits : speaker.waits = true) : ∃ last, speaker.said.getLast? = some last := by
  induction listening with
  | start => cases waits
  | turn _ _ _ ih | other _ _ _ ih => exact ih waits
  | say => exact ⟨_, List.getLast?_concat⟩
  | arrival _ _ ih =>
    unfold Speaker.hear at waits ⊢
    split at waits
    · cases waits
    · rename_i other
      rw [if_neg other]
      exact ih waits

private theorem confirmed_message {dname content : Bytes} {fsm : FSMValidate}
    (type : message[0]? = some 0x04) (read : messageId message = some id)
    (body : parseAndValidate (message.drop 3) "msg" = ([dname, content], true))
    (asked : h.fsm.validateAction .messageServer = some (.any, fsm)) :
    ∃ inner, h.processReceived message = some inner ∧ header 0x00 id ∈ sent inner.effects := by
  refine ⟨_, processReceived_message type read body asked, ?_⟩
  split <;> exact .head _

/-- In an open session the MSG waited for can arrive, whatever the client waits for, and
is confirmed. -/
theorem Listening.answered (listening : Listening server retries history loop speaker)
    (last : speaker.said.getLast? = some message) (read : messageId message = some id)
    (opened : loop.protocolHandler.fsm.currentState = .opened) (goes : loop.state ≠ .over)
    (calm : loop.Calm) :
    ∃ event report after, loop.iterate event = some (report, after) ∧
      received ⟨loop, event, report, after⟩ = some message ∧ header 0x00 id ∈ sent report.effects := by
  obtain ⟨type, valid, short⟩ := listening.proper.messages message (List.mem_of_getLast? last)
  obtain ⟨⟨dname, content⟩, words⟩ := Option.isSome_iff_exists.mp valid
  have asked := (udpRun_legal listening.run).accepts_spoken opened (.inl rfl)
  obtain ⟨inner, ran, confirms⟩ :=
    confirmed_message (hasType_iff.mp type) read (saidIn_iff.mp words) asked
  have called : loop.protocolHandler.processServerMessage
      (.received loop.protocolHandler.serverAddress ⟨message, short⟩) = some (overrule inner) :=
    processServerMessage_of_processReceived ran
  obtain ⟨after, served, -, -, -⟩ := calm.serve goes called
  exact ⟨_, _, after, served, rfl, confirms⟩

private theorem Speaker.hear_confirm (last : speaker.said.getLast? = some message)
    (read : messageId message = some id) :
    speaker.hear (header 0x00 id) = { speaker with waits := false } := by
  rw [hear, confirmOf_eq rfl messageId_confirm, last, Option.bind_some, read, if_pos]
  exact ⟨rfl, rfl⟩

/-- No speech gets stuck while the session is open. A server that waits for no CONFIRM has
been displayed whole; from any other point two deliveries lead there, that of the MSG the
server waits on and that of the CONFIRM the client answers it with. -/
theorem speech_settles (listening : Listening server retries history loop speaker)
    (opened : loop.protocolHandler.fsm.currentState = .opened) (goes : loop.state ≠ .over)
    (calm : loop.Calm) :
    (speaker.waits = false → allDisplayed history = speaker.spoken) ∧
      (speaker.waits = true → ∃ message id turn, speaker.said.getLast? = some message ∧
        messageId message = some id ∧ turn.before = loop ∧ received turn = some message ∧
        header 0x00 id ∈ sent turn.output.effects ∧
        Listening server retries (history ++ [turn]) turn.after (speaker.hear (header 0x00 id)) ∧
        (speaker.hear (header 0x00 id)).waits = false ∧
        allDisplayed (history ++ [turn]) = speaker.spoken) := by
  refine ⟨listening.complete, fun waits => ?_⟩
  obtain ⟨message, last⟩ := listening.last_of_waits waits
  have said := List.mem_of_getLast? last
  obtain ⟨-, valid, -⟩ := listening.proper.messages message said
  obtain ⟨_, words⟩ := Option.isSome_iff_exists.mp valid
  obtain ⟨id, read⟩ := messageId_of_length (Nat.le_of_succ_le (body_long (saidIn_iff.mp words)))
  obtain ⟨event, report, after, ran, got, confirms⟩ := listening.answered last read opened goes calm
  have displays := listening.turn ran fun m same => .inl (Option.some.inj (got.symm.trans same) ▸ said)
  have next := @Listening.arrival _ _ _ _ _ (header 0x00 id) displays (by
    rw [allSent_snoc]
    exact List.mem_append_right _ confirms)
  have ends := Speaker.hear_confirm last read
  have idle : (speaker.hear (header 0x00 id)).waits = false := by rw [ends]
  refine ⟨message, id, ⟨loop, event, report, after⟩, last, read, rfl, got, confirms, next, idle, ?_⟩
  rw [next.complete idle, ends]
  rfl

/-- A MSG said to a client that waits for a confirmation itself. -/
theorem speech_settles_hi : ∃ history loop speaker,
    Listening localServer 3 history loop speaker ∧ loop.state = .waitingForConfirmation ∧
      speaker.waits = true ∧
      ∃ message id turn, speaker.said.getLast? = some message ∧ messageId message = some id ∧
        turn.before = loop ∧ received turn = some message ∧
        header 0x00 id ∈ sent turn.output.effects ∧
        Listening localServer 3 (history ++ [turn]) turn.after (speaker.hear (header 0x00 id)) ∧
        (speaker.hear (header 0x00 id)).waits = false ∧
        allDisplayed (history ++ [turn]) = speaker.spoken := by
  have opened := listening_opened rfl
  have asked := opened.turn (show StreamHandler.iterate _ (types "hello") = some (_, _) from rfl)
    (by simp [received])
  have said := @Listening.say _ _ _ _ _ [0x04, 0, 6, 0x61, 0, 0x68, 0x69, 0] asked rfl rfl rfl
    (by decide) (by decide)
  refine ⟨_, _, _, said, rfl, rfl, (speech_settles said rfl ?_ ⟨rfl, ?_⟩).2 rfl⟩
  · intro ended
    cases ended
  · exact fun both => Bool.false_ne_true both.1

end ChatClient
