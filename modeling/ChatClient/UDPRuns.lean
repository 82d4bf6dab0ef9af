import ChatClient.Library.Obligation
import ChatClient.UDPRules

/-! Runs of the UDP client and the book they keep of unconfirmed datagrams.

A datagram is *originated* when the client sends it for the first time and it is
no CONFIRM; a CONFIRM that carries its ID, received after it was sent, answers
it. `unconfirmed` is that book over the turns of a run. The handler remembers
far less, six fields collected in `Link`; `LinkMove` says what one call can do
to them, and `Linked` ties them to the book in every run. -/

namespace ChatClient

open Transition Obligation UDPProtocolHandler UDPMessageValidator

abbrev UDPTurn := Turn UDPProtocolHandler Datagram

/-- The runs of the UDP client against a server address, with a maximum of
retransmissions. -/
abbrev UDPRun (server : SockAddr) (retries : UInt8) :
    List UDPTurn → StreamHandler UDPProtocolHandler → Prop :=
  ClientRun (UDPProtocolHandler.create server) retries

/-! ## The book -/

/-- A datagram type byte. -/
def hasType (type : UInt8) (message : Bytes) : Bool := message[0]? = some type

/-- The datagram a turn hands to `process_received`. -/
def received (turn : UDPTurn) : Option Bytes :=
  match turn.output.call with
  | .processServerMessage (.received _ message) => some message.val
  | _ => none

/-- The non-CONFIRM datagrams among some effects. -/
def issued (effects : List Effect) : List Bytes := (sent effects).filter fun m => !hasType 0x00 m

/-- The CONFIRM datagrams among some effects. -/
def confirmations (effects : List Effect) : List Bytes := (sent effects).filter (hasType 0x00)

/-- The datagrams a turn sends for the first time. -/
def originated (turn : UDPTurn) : List Bytes :=
  match turn.output.call with
  | .resendLastMessage => []
  | _ => issued turn.output.effects

/-- The ID a datagram confirms, when it is a CONFIRM. -/
def confirmOf (message : Bytes) : Option UInt16 :=
  if hasType 0x00 message then messageId message else none

/-- The ID a turn receives a CONFIRM for. -/
def confirmed (turn : UDPTurn) : Option UInt16 := (received turn).bind confirmOf

/-- What a turn enters in the book: first the CONFIRM received, then the
datagrams originated. -/
def entries (turn : UDPTurn) : List (Entry Bytes (Option UInt16)) :=
  (confirmed turn).toList.map (fun id => .settle (some id)) ++ (originated turn).map .issue

/-- The originated datagrams not yet answered by a CONFIRM with their ID. -/
def unconfirmed (history : List UDPTurn) : List Bytes :=
  outstanding messageId (history.flatMap entries)

/-- Everything originated so far, oldest first. -/
def allOriginated (history : List UDPTurn) : List Bytes := history.flatMap originated

variable {history : List UDPTurn} {turn : UDPTurn}

/-- What remains of the book after a CONFIRM. -/
def settled (confirm : Option UInt16) (book : List Bytes) : List Bytes :=
  match confirm with
  | some id => book.filter fun m => decide (messageId m ≠ some id)
  | none => book

/-- A CONFIRM, or a reply, is entered before what is issued in the same turn. -/
theorem outstanding_turn {book : List (Entry Bytes (Option UInt16))} {confirm : Option UInt16}
    {messages : List Bytes} : outstanding messageId
      (book ++ (confirm.toList.map (fun id => .settle (some id)) ++ messages.map .issue)) =
    settled confirm (outstanding messageId book) ++ messages := by
  rw [← List.append_assoc, outstanding_issues]
  cases confirm with
  | none => simp [settled]
  | some id => simp [settled]

theorem unconfirmed_snoc : unconfirmed (history ++ [turn]) =
    settled (confirmed turn) (unconfirmed history) ++ originated turn := by
  rw [unconfirmed, List.flatMap_append, List.flatMap_singleton, entries, outstanding_turn]
  rfl

@[simp] theorem allOriginated_snoc :
    allOriginated (history ++ [turn]) = allOriginated history ++ originated turn := by
  simp [allOriginated]

/-- An item of the book that a CONFIRM does not name stays in it. -/
theorem mem_settled {confirm : Option UInt16} {book : List Bytes} {m : Bytes} :
    m ∈ settled confirm book ↔ m ∈ book ∧ (confirm = none ∨ messageId m ≠ confirm) := by
  cases confirm <;> simp [settled]

/-! ## The fields behind stop-and-wait -/

/-- The fields that say what the client waits to have confirmed. -/
structure Link where
  awaited : UInt16
  last : Bytes
  next : UInt16
  failed : Bool
  ending : Bool
  waiting : Bool
  deriving DecidableEq

/-- The link fields of a handler. -/
def UDPProtocolHandler.link (h : UDPProtocolHandler) : Link where
  awaited := h.awaitedConirmId
  last := h.lastMessage
  next := h.renamer3000
  failed := h.errorSent
  ending := h.awaitingOver
  waiting := h.waitingForConfirmation

/-- The link after a datagram built with the counter was sent. -/
def Link.track (link : Link) (message : Bytes) : Link :=
  { link with awaited := link.next, last := message, next := link.next + 1 }

/-- What one call can do to the link, given the CONFIRM it received and the
datagrams it originates. -/
inductive LinkMove (link : Link) : Option UInt16 → List Bytes → Link → Prop where
  /-- Nothing sent, and no CONFIRM of the awaited ID. -/
  | quiet {confirm : Option UInt16} (other : confirm ≠ some link.awaited) :
      LinkMove link confirm [] link
  /-- The confirmation of a BYE. -/
  | closed (ending : link.ending = true) :
      LinkMove link (some link.awaited) [] { link with awaited := noId, waiting := false }
  /-- The confirmation of an ERR, answered with a BYE. -/
  | followed (goes : link.ending = false) (failed : link.failed = true) :
      LinkMove link (some link.awaited) [formByeMessage link.next]
        { link.track (formByeMessage link.next) with failed := false, ending := true }
  /-- The confirmation of a request or a text. -/
  | settled (goes : link.ending = false) (sound : link.failed = false) :
      LinkMove link (some link.awaited) [] { link with awaited := noId, waiting := false }
  /-- A request or a text from the user. -/
  | requested {code : UInt8} {body : Bytes} (kind : code = 0x02 ∨ code = 0x03 ∨ code = 0x04)
      (idle : link.waiting = false) :
      LinkMove link none [header code link.next ++ body]
        { link.track (header code link.next ++ body) with waiting := true }
  /-- An error of the client's own. -/
  | failed {body : Bytes} (idle : link.waiting = false) :
      LinkMove link none [header 0xFE link.next ++ body]
        { link.track (header 0xFE link.next ++ body) with failed := true, waiting := true }
  /-- A BYE, which arms the flag or leaves it. -/
  | bye {waiting : Bool} (armed : waiting = true ∨ waiting = link.waiting) :
      LinkMove link none [formByeMessage link.next]
        { link.track (formByeMessage link.next) with ending := true, waiting := waiting }

section Headers
variable {type : UInt8} {id : UInt16} {body : Bytes}

@[simp] theorem hasType_header {kind : UInt8} :
    hasType kind (header type id ++ body) = decide (type = kind) := by
  simp [hasType, header]

@[simp] theorem hasType_bye {kind : UInt8} : hasType kind (formByeMessage id) = decide (0xFF = kind) := by
  simp [hasType, formByeMessage, header]

@[simp] theorem messageId_bye : messageId (formByeMessage id) = some id := by
  simpa [formByeMessage] using messageId_header 0xFF id []

@[simp] theorem hasType_confirm {kind : UInt8} :
    hasType kind (header 0x00 id) = decide (0x00 = kind) := by
  simp [hasType, header]

@[simp] theorem messageId_confirm : messageId (header 0x00 id) = some id := by
  simpa using messageId_header 0x00 id []

end Headers

/-- A datagram other than a BYE is originated only when nothing is waited for. -/
theorem LinkMove.idle_of_originated {link next : Link} {confirm : Option UInt16}
    {sends : List Bytes} {m : Bytes} (move : LinkMove link confirm sends next) (sends_m : m ∈ sends)
    (noBye : hasType 0xFF m = false) : link.waiting = false := by
  cases move with
  | quiet | closed | settled => cases sends_m
  | followed | bye =>
    obtain rfl := List.mem_singleton.mp sends_m
    simp at noBye
  | requested _ idle | failed idle => exact idle

/-- One call originates one datagram at most. -/
theorem LinkMove.single {link next : Link} {confirm : Option UInt16} {sends : List Bytes} {m : Bytes}
    (move : LinkMove link confirm sends next) (member : m ∈ sends) :
    sends = [m] := by
  cases move with
  | quiet | closed | settled => cases member
  | followed | requested | failed | bye => rw [List.mem_singleton.mp member]

/-- A sent ERR is waited for until a BYE follows it. -/
theorem LinkMove.failed_waits {link next : Link} {confirm : Option UInt16} {sends : List Bytes}
    (move : LinkMove link confirm sends next)
    (before : link.failed = true → link.waiting = true ∨ link.ending = true)
    (failed : next.failed = true) : next.waiting = true ∨ next.ending = true := by
  cases move with
  | quiet => exact before failed
  | closed ending => exact .inr ending
  | followed => exact .inr rfl
  | settled _ sound => exact absurd (failed.symm.trans sound) (by decide)
  | requested | failed => exact .inl rfl
  | bye => exact .inr rfl

section Effects
variable {h : UDPProtocolHandler} {effects : List Effect} {effect : Effect} {message : Bytes}
  {id : UInt16}

@[simp] theorem issued_nil : issued [] = [] := rfl

/-- A CONFIRM is not originated. -/
@[simp] theorem issued_confirmation :
    issued (h.sendConfirmation id :: effects) = issued effects := by
  simp [issued, sendConfirmation, sendMessage]

theorem issued_message (kind : hasType 0x00 message = false) :
    issued (h.sendMessage message :: effects) = message :: issued effects := by
  simp [issued, sendMessage, kind]

/-- What is only shown is not sent. -/
theorem issued_shown (shows : effect.sent = none) : issued (effect :: effects) = issued effects := by
  simp [issued, sent, shows]

@[simp] theorem confirmations_nil : confirmations [] = [] := rfl

@[simp] theorem confirmations_confirmation :
    confirmations (h.sendConfirmation id :: effects) = header 0x00 id :: confirmations effects := by
  simp [confirmations, sendConfirmation, sendMessage]

theorem confirmations_message (kind : hasType 0x00 message = false) :
    confirmations (h.sendMessage message :: effects) = confirmations effects := by
  simp [confirmations, sendMessage, kind]

theorem confirmations_shown (shows : effect.sent = none) :
    confirmations (effect :: effects) = confirmations effects := by
  simp [confirmations, sent, shows]

theorem formErrorMessage_eq {dname error : Bytes} :
    formErrorMessage id dname error = header 0xFE id ++ (dname ++ [0] ++ error ++ [0]) := by
  simp [formErrorMessage]

/-- The error path either keeps the link, waiting, or originates an ERR. -/
theorem sendErrorMessage_link {error : Bytes} :
    LinkMove h.link none (issued (h.sendErrorMessage error).2) (h.sendErrorMessage error).1.link ∧
      (h.sendErrorMessage error).1.link.waiting = true := by
  unfold sendErrorMessage
  split
  · exact ⟨.quiet (by simp), ‹_›⟩
  · rename_i idle
    refine ⟨?_, rfl⟩
    rw [issued_message (by simp [formErrorMessage_eq]), formErrorMessage_eq]
    exact .failed (by simpa [link] using idle)

end Effects

private theorem failWith_linkMove {h : UDPProtocolHandler} {fsm : FSMValidate}
    {confirmation : List Effect}
    {error : String} (confirms : confirmation = [] ∨ ∃ id, confirmation = [h.sendConfirmation id]) :
    LinkMove h.link none (issued ({ h with fsm := fsm }.failWith confirmation error).effects)
      ({ h with fsm := fsm }.failWith confirmation error).handler.link := by
  have move := (@sendErrorMessage_link { h with fsm := fsm } (text error)).1
  rcases confirms with rfl | ⟨id, rfl⟩
  · exact move
  · simp only [failWith, List.singleton_append, issued_confirmation]
    exact move

section Calls
variable {h : UDPProtocolHandler} {message line : Bytes} {outcome : Outcome UDPProtocolHandler}
  {received : Datagram}

theorem confirmOf_eq {id : UInt16} (type : message[0]? = some 0x00)
    (read : messageId message = some id) : confirmOf message = some id := by
  simp [confirmOf, hasType, type, read]

theorem confirmOf_none {kind : UInt8} (type : message[0]? = some kind) (other : kind ≠ 0x00) :
    confirmOf message = none := by
  simp [confirmOf, hasType, type, other]

/-- Every end of `process_received` moves the link by a rule. -/
theorem UDPProtocolHandler.Receipt.linkMove (receipt : Receipt h message outcome) :
    LinkMove h.link (confirmOf message) (issued outcome.effects) outcome.handler.link := by
  cases receipt with
  | byeConfirmed type id ending =>
    rw [confirmOf_eq type id]
    exact .closed ending
  | errorConfirmed type id goes failed =>
    rw [confirmOf_eq type id, issued_message (by simp)]
    exact .followed goes failed
  | confirmed type id goes sound =>
    rw [confirmOf_eq type id]
    exact .settled goes sound
  | stray type id unknown =>
    rw [confirmOf_eq type id]
    exact .quiet (by simpa [link] using unknown)
  | reply decodes asked =>
    rw [confirmOf_none decodes.type (by decide), settleReply]
    split
    · rw [issued_shown (by obtain ⟨_, _, _ | _⟩ := decodes.result <;> rfl), issued_confirmation]
      exact .quiet (by simp)
    · rw [issued_confirmation]
      exact .quiet (by simp)
  | repeated type | shown type =>
    rw [confirmOf_none type (by decide), issued_confirmation]
    exact .quiet (by simp)
  | errorRepeated type =>
    rw [confirmOf_none type (by decide), issued_confirmation, issued_message (by simp)]
    exact .bye (.inl rfl)
  | errorShown type =>
    rw [confirmOf_none type (by decide), issued_confirmation, issued_shown rfl,
      issued_message (by simp)]
    exact .bye (.inr rfl)
  | bye type =>
    rw [confirmOf_none type (by decide), issued_confirmation]
    exact .quiet (by simp)
  | failed type noConfirm refused confirms =>
    rw [confirmOf_none type noConfirm]
    apply failWith_linkMove
    rcases confirms with ⟨-, none⟩ | ⟨-, id, -, same⟩
    · exact .inl none
    · exact .inr ⟨id, same⟩
  | undecided type =>
    rw [confirmOf_none type (by decide)]
    exact .quiet (by simp)

theorem error_of_mem_sendErrorMessage {error m : Bytes}
    (issues : m ∈ issued (h.sendErrorMessage error).2) : hasType 0xFE m = true := by
  unfold sendErrorMessage at issues
  split at issues
  · cases issues
  · rw [issued_message (by simp [formErrorMessage_eq])] at issues
    obtain rfl := List.mem_singleton.mp issues
    simp [formErrorMessage_eq]

/-- A call for a datagram originates nothing but an ERR or a BYE. -/
theorem UDPProtocolHandler.Receipt.originates {m : Bytes} (receipt : Receipt h message outcome)
    (issues : m ∈ issued outcome.effects) : hasType 0xFE m = true ∨ hasType 0xFF m = true := by
  have bye {id : UInt16} (issues : m ∈ [formByeMessage id]) : hasType 0xFF m = true := by
    obtain rfl := List.mem_singleton.mp issues
    simp
  cases receipt with
  | errorConfirmed =>
    rw [issued_message (by simp)] at issues
    exact .inr (bye issues)
  | errorRepeated =>
    rw [issued_confirmation, issued_message (by simp)] at issues
    exact .inr (bye issues)
  | errorShown =>
    rw [issued_confirmation, issued_shown rfl, issued_message (by simp)] at issues
    exact .inr (bye issues)
  | reply decodes =>
    rw [settleReply] at issues
    split at issues
    · rw [issued_shown (by obtain ⟨_, _, _ | _⟩ := decodes.result <;> rfl), issued_confirmation]
        at issues
      cases issues
    · rw [issued_confirmation] at issues
      cases issues
  | shown =>
    rw [issued_confirmation, issued_shown rfl] at issues
    cases issues
  | repeated | bye =>
    rw [issued_confirmation] at issues
    cases issues
  | failed _ _ _ confirms =>
    rcases confirms with ⟨-, rfl⟩ | ⟨-, id, -, rfl⟩
    · exact .inl (error_of_mem_sendErrorMessage issues)
    · simp only [failWith, List.singleton_append, issued_confirmation] at issues
      exact .inl (error_of_mem_sendErrorMessage issues)
  | byeConfirmed | confirmed | stray | undecided => cases issues

/-- Every end of `process_user_input` moves the link by a rule, if a line other
than `/exit` is read only while nothing is unconfirmed. -/
theorem UDPProtocolHandler.Command.linkMove (command : Command h line outcome)
    (idle : line ≠ text "/exit" → h.link.waiting = false) :
    LinkMove h.link none (issued outcome.effects) outcome.handler.link := by
  cases command with
  | exit =>
    rw [issued_message (by simp)]
    exact .bye (.inl rfl)
  | deferred => exact sendErrorMessage_link.1
  | requested other clear kind asked =>
    rw [sendRequest, issued_message (by rcases kind with ⟨rfl, -⟩ | ⟨rfl, -⟩ <;> simp)]
    exact .requested (kind.imp And.left fun joined => .inl joined.1) (idle other)
  | spoken other =>
    rw [sendRequest, issued_message (by simp)]
    exact .requested (.inr (.inr rfl)) (idle other)
  | rejected | renamed | helped | undecided => exact .quiet (by simp)

/-- A user command leaves the link alone unless it waits for a confirmation. -/
theorem UDPProtocolHandler.Command.waits (command : Command h line outcome) :
    outcome.returned = some .waitingForConfirmation ∨ outcome.handler.link = h.link := by
  cases command with
  | exit | deferred | requested | spoken => exact .inl rfl
  | rejected | renamed | helped | undecided => exact .inr rfl

/-- A user command that waits for a confirmation has armed the flag. -/
theorem UDPProtocolHandler.Command.armed (command : Command h line outcome)
    (waits : outcome.returned = some .waitingForConfirmation) :
    outcome.handler.waitingForConfirmation = true := by
  cases command with
  | exit | requested | spoken => rfl
  | deferred => exact sendErrorMessage_link.2
  | rejected | renamed | helped | undecided => cases waits

/-- No line ends the session at once. -/
theorem UDPProtocolHandler.Command.goes_on (command : Command h line outcome) :
    outcome.returned ≠ some .over := by
  cases command <;> simp [sendRequest, reject]

end Calls

/-! ## What every run keeps -/

section Iterations
variable {loop after : StreamHandler UDPProtocolHandler} {event : Event Datagram}
  {report : Report Datagram}

/-- What one iteration of the UDP client can do. A datagram is processed by
`process_received` from its sender's address, and the flag decides over what
that returned. -/
inductive UDPIteration (loop : StreamHandler UDPProtocolHandler) :
    Event Datagram → Report Datagram → StreamHandler UDPProtocolHandler → Prop where
  | received {fromAddr : SockAddr} {buffer : RecvBuffer} {inner : Outcome UDPProtocolHandler}
      {returned : Option ClientState} {after : StreamHandler UDPProtocolHandler}
      (called : { loop.protocolHandler with serverAddress := fromAddr }.processReceived buffer.val =
        some inner)
      (decides : returned = if inner.handler.waitingForConfirmation then some .waitingForConfirmation
        else inner.returned)
      (handler : after.protocolHandler = inner.handler)
      (state : after.state = returned.getD .readyForInput) :
      UDPIteration loop (.poll (.socket (.received fromAddr buffer)))
        ⟨.processServerMessage (.received fromAddr buffer), inner.effects, returned⟩ after
  | lost {after : StreamHandler UDPProtocolHandler}
      (handler : after.protocolHandler = loop.protocolHandler) (state : after.state = .over) :
      UDPIteration loop (.poll (.socket .failed))
        ⟨.processServerMessage .failed, [.perror (text "recvfrom failed")], some .over⟩ after
  | command {event : Event Datagram} {line : Bytes} {outcome : Outcome UDPProtocolHandler}
      {after : StreamHandler UDPProtocolHandler}
      (called : loop.protocolHandler.processUserInput line = some outcome)
      (reads : line = text "/exit" ∨
        (line ≠ [] ∧ loop.state ≠ .waitingForReply ∧ loop.state ≠ .waitingForConfirmation))
      (handler : after.protocolHandler = outcome.handler)
      (state : after.state = outcome.returned.getD .readyForInput) :
      UDPIteration loop event ⟨.processUserInput line, outcome.effects, outcome.returned⟩ after
  | resend {after : StreamHandler UDPProtocolHandler} (waiting : loop.state = .waitingForConfirmation)
      (handler : after.protocolHandler = loop.protocolHandler)
      (state : after.state = .waitingForConfirmation) :
      UDPIteration loop (.poll .timedOut)
        ⟨.resendLastMessage, loop.protocolHandler.resendLastMessage, none⟩ after
  | giveUp {after : StreamHandler UDPProtocolHandler} (waiting : loop.state = .waitingForConfirmation)
      (handler : after.protocolHandler = loop.protocolHandler) (state : after.state = .over) :
      UDPIteration loop (.poll .timedOut) {} after
  | idle {event : Event Datagram} {effects : List Effect} {after : StreamHandler UDPProtocolHandler}
      (silent : effects = [] ∨ effects = [.perror (text "poll")])
      (handler : after.protocolHandler = loop.protocolHandler)
      (state : after.state = loop.state) : UDPIteration loop event { effects } after

/-- Every iteration of the UDP client is one of these. -/
theorem udpIteration_of_iterate (ran : loop.iterate event = some (report, after)) :
    loop.state ≠ .over ∧ UDPIteration loop event report after := by
  obtain ⟨goes, iteration⟩ := iteration_of_iterate ran
  refine ⟨goes, ?_⟩
  cases iteration with
  | @server datagram outcome after called handler state =>
    cases datagram with
    | failed =>
      cases called
      exact .lost handler state
    | received fromAddr buffer =>
      simp only [ProtocolHandler.processServerMessage, processServerMessage,
        Option.map_eq_some_iff] at called
      obtain ⟨inner, called, rfl⟩ := called
      exact @UDPIteration.received loop fromAddr buffer inner _ after called rfl handler state
  | user called reads handler state => exact .command called reads handler state
  | resend waiting handler state => exact .resend waiting handler state
  | giveUp waiting handler state => exact .giveUp waiting handler state
  | idle silent handler state => exact .idle silent handler state

/-- The loop leaves stdin alone while something is unconfirmed. -/
def Gated (loop : StreamHandler UDPProtocolHandler) : Prop :=
  loop.state = .readyForInput ∨ loop.state = .waitingForReply →
    loop.protocolHandler.link.waiting = false

/-- A state in which the loop reads a line is one of the two gated states. -/
theorem Gated.idle (gated : Gated loop) (goes : loop.state ≠ .over)
    (noConfirm : loop.state ≠ .waitingForConfirmation) :
    loop.protocolHandler.link.waiting = false := by
  apply gated
  by_contra other
  obtain ⟨notReady, noReply⟩ := not_or.mp other
  cases current : loop.state
  · exact noConfirm current
  · exact noReply current
  · exact notReady current
  · exact goes current

/-- The CONFIRM an iteration receives, the datagrams it originates and the link
move they make together. -/
theorem linkMove_of_iterate (ran : loop.iterate event = some (report, after)) (gated : Gated loop) :
    LinkMove loop.protocolHandler.link (confirmed ⟨loop, event, report, after⟩)
      (originated ⟨loop, event, report, after⟩) after.protocolHandler.link := by
  obtain ⟨goes, iteration⟩ := udpIteration_of_iterate ran
  cases iteration with
  | received called _ handler =>
    rw [handler]
    exact (receipt_of_processReceived called).linkMove
  | command called reads handler =>
    rw [handler]
    refine (command_of_processUserInput called).linkMove fun other => ?_
    obtain exits | ⟨-, -, noConfirm⟩ := reads
    · exact absurd exits other
    · exact gated.idle goes noConfirm
  | lost handler | resend _ handler | giveUp _ handler =>
    rw [handler]
    exact .quiet (by simp [confirmed, ChatClient.received])
  | idle silent handler =>
    rw [handler]
    rcases silent with rfl | rfl <;> exact .quiet (by simp [confirmed, ChatClient.received])

/-- Every iteration keeps stdin gated. -/
theorem Gated.step (gated : Gated loop) (ran : loop.iterate event = some (report, after)) :
    Gated after := by
  intro idle
  obtain ⟨goes, iteration⟩ := udpIteration_of_iterate ran
  cases iteration with
  | @received _ _ inner _ _ called decides handler state =>
    rw [handler]
    by_contra armed
    have armed : inner.handler.waitingForConfirmation = true := by simpa [link] using armed
    simp [state, decides, armed] at idle
  | command called reads handler state =>
    rw [handler]
    rw [state] at idle
    have command := command_of_processUserInput called
    rcases command.waits with waits | same
    · simp [waits] at idle
    · rw [same]
      rcases reads with exits | ⟨-, -, noConfirm⟩
      · cases command with
        | exit => simp at idle
        | _ => contradiction
      · exact gated.idle goes noConfirm
  | lost _ state | resend _ _ state | giveUp _ _ state => simp [state] at idle
  | idle _ handler state =>
    rw [handler]
    exact gated (state ▸ idle)

/-- The confirmation of a BYE ends the session. -/
theorem over_of_byeConfirmed (ran : loop.iterate event = some (report, after))
    (ending : loop.protocolHandler.link.ending = true)
    (confirm : confirmed ⟨loop, event, report, after⟩ = some loop.protocolHandler.link.awaited) :
    after.state = .over := by
  obtain ⟨-, iteration⟩ := udpIteration_of_iterate ran
  cases iteration with
  | received called decides _ state =>
    rw [state, decides]
    simp only [confirmed, ChatClient.received, Option.bind_some] at confirm
    cases receipt_of_processReceived called with
    | byeConfirmed => rfl
    | errorConfirmed _ _ goes | confirmed _ _ goes =>
      exact absurd (ending.symm.trans goes) (by decide)
    | stray type id unknown =>
      rw [confirmOf_eq type id] at confirm
      exact absurd (Option.some.inj confirm) unknown
    | reply decodes =>
      rw [confirmOf_none decodes.type (by decide)] at confirm
      cases confirm
    | failed type noConfirm =>
      rw [confirmOf_none type noConfirm] at confirm
      cases confirm
    | repeated type | shown type | errorRepeated type | errorShown type | bye type
    | undecided type =>
      rw [confirmOf_none type (by decide)] at confirm
      cases confirm
  | command | lost | resend | giveUp | idle => simp [confirmed, ChatClient.received] at confirm

private theorem legal_of_iterate (legal : loop.protocolHandler.fsm.Legal)
    (ran : loop.iterate event = some (report, after)) : after.protocolHandler.fsm.Legal := by
  obtain ⟨-, iteration⟩ := udpIteration_of_iterate ran
  cases iteration with
  | received called _ handler =>
    rw [handler]
    exact legal.consulted_server (receipt_of_processReceived called).consulted
  | command called _ handler =>
    rw [handler]
    exact legal.consulted_user (command_of_processUserInput called).consulted
  | lost handler | resend _ handler | giveUp _ handler | idle _ handler =>
    rw [handler]
    exact legal

end Iterations

/-- The link fields and the book agree. -/
structure Linked (history : List UDPTurn) (loop : StreamHandler UDPProtocolHandler) : Prop where
  /-- What is waited for is the last datagram, and it is unconfirmed. -/
  pending : loop.protocolHandler.link.waiting = true ∨
      (loop.protocolHandler.link.ending = true ∧ loop.state ≠ .over) →
    loop.protocolHandler.link.last ∈ unconfirmed history ∧
      messageId loop.protocolHandler.link.last = some loop.protocolHandler.link.awaited
  /-- Before the first BYE nothing else is unconfirmed. -/
  alone : loop.protocolHandler.link.ending = false → unconfirmed history =
    if loop.protocolHandler.link.waiting then [loop.protocolHandler.link.last] else []
  gated : Gated loop
  /-- `last_message` is the last datagram originated. -/
  last : ∀ m, (allOriginated history).getLast? = some m → m = loop.protocolHandler.link.last
  /-- `awaiting_over` is set from the first BYE on. -/
  noBye : loop.protocolHandler.link.ending = false ↔
    ∀ m ∈ allOriginated history, hasType 0xFF m = false

private theorem settled_alone {confirm : Option UInt16} {waiting : Bool} {m : Bytes}
    (other : waiting = true → messageId m ≠ confirm) :
    settled confirm (if waiting then [m] else []) = if waiting then [m] else [] := by
  cases confirm with
  | none => rfl
  | some id =>
    cases waiting with
    | false => rfl
    | true => simp [settled, other rfl]

section Moves
variable {link next : Link} {confirm : Option UInt16} {sends book : List Bytes}

private theorem pending_of_linkMove (move : LinkMove link confirm sends next)
    (before : link.waiting = true ∨ link.ending = true →
      link.last ∈ book ∧ messageId link.last = some link.awaited)
    (pends : next.waiting = true ∨
      (next.ending = true ∧ ¬ (link.ending = true ∧ confirm = some link.awaited))) :
    next.last ∈ settled confirm book ++ sends ∧ messageId next.last = some next.awaited := by
  cases move with
  | quiet other =>
    obtain ⟨member, identified⟩ := before (pends.imp_right And.left)
    have kept : messageId link.last ≠ confirm := fun same => other (same ▸ identified)
    rw [List.append_nil, mem_settled]
    exact ⟨⟨member, .inr kept⟩, identified⟩
  | closed ending => simp [ending] at pends
  | settled goes => simp [goes] at pends
  | followed | requested | failed | bye => simp [Link.track]

/-- A move before the first BYE leaves nothing unconfirmed beside the last
datagram. -/
theorem alone_of_linkMove (move : LinkMove link confirm sends next)
    (pending : link.waiting = true → messageId link.last = some link.awaited)
    (before : link.ending = false → book = if link.waiting then [link.last] else [])
    (goes : next.ending = false) :
    settled confirm book ++ sends = if next.waiting then [next.last] else [] := by
  cases move with
  | quiet other =>
    rw [List.append_nil, before goes]
    exact settled_alone fun waits same => other (same ▸ pending waits)
  | closed ending => exact absurd (ending.symm.trans goes) (by decide)
  | settled open' =>
    rw [List.append_nil, before open']
    cases waiting : link.waiting with
    | false => simp [settled]
    | true => simp [settled, pending waiting]
  | requested _ idle | failed idle => simp [before goes, idle, settled, Link.track]
  | followed | bye => cases goes

private theorem last_of_linkMove (move : LinkMove link confirm sends next)
    (before : ∀ m, book.getLast? = some m → m = link.last) :
    ∀ m, (book ++ sends).getLast? = some m → m = next.last := by
  cases move with
  | quiet | closed | settled => simpa using before
  | followed | requested | failed | bye => simp [Link.track]

private theorem noBye_of_linkMove (move : LinkMove link confirm sends next)
    (before : link.ending = false ↔ ∀ m ∈ book, hasType 0xFF m = false) :
    next.ending = false ↔ ∀ m ∈ book ++ sends, hasType 0xFF m = false := by
  cases move with
  | quiet | closed | settled => simpa using before
  | followed | bye => simp
  | failed => simpa [Link.track, or_imp, forall_and] using before
  | @requested code _ kind =>
    have other : code ≠ 0xFF := by rcases kind with rfl | rfl | rfl <;> decide
    simpa [Link.track, or_imp, forall_and, other] using before

end Moves

/-- Every iteration keeps the link and the book in agreement. -/
theorem Linked.step {loop after : StreamHandler UDPProtocolHandler} {event : Event Datagram}
    {report : Report Datagram} (linked : Linked history loop)
    (ran : loop.iterate event = some (report, after)) :
    Linked (history ++ [⟨loop, event, report, after⟩]) after := by
  have goes := (iteration_of_iterate ran).1
  have move := linkMove_of_iterate ran linked.gated
  refine ⟨?_, ?_, linked.gated.step ran, ?_, ?_⟩
  · intro waits
    rw [unconfirmed_snoc]
    have before (pends : loop.protocolHandler.link.waiting = true ∨
        loop.protocolHandler.link.ending = true) :=
      linked.pending (pends.imp_right fun ending => ⟨ending, goes⟩)
    refine pending_of_linkMove move before ?_
    exact waits.imp_right fun ending =>
      ⟨ending.1, fun closing => ending.2 (over_of_byeConfirmed ran closing.1 closing.2)⟩
  · intro open'
    rw [unconfirmed_snoc]
    exact alone_of_linkMove move (fun waits => (linked.pending (.inl waits)).2) linked.alone open'
  · rw [allOriginated_snoc]
    exact last_of_linkMove move linked.last
  · rw [allOriginated_snoc]
    exact noBye_of_linkMove move linked.noBye

section Runs
variable {server : SockAddr} {retries : UInt8} {loop : StreamHandler UDPProtocolHandler}

/-- The link fields and the book agree in every run. -/
theorem udpRun_linked (run : UDPRun server retries history loop) : Linked history loop := by
  refine run.invariant ?_ fun _ linked ran => linked.step ran
  constructor <;> simp [StreamHandler.start, create, link, unconfirmed, Gated, allOriginated]

/-- In every run an ERR is waited for until a BYE follows it. -/
theorem udpRun_failed (run : UDPRun server retries history loop)
    (failed : loop.protocolHandler.link.failed = true) :
    loop.protocolHandler.link.waiting = true ∨ loop.protocolHandler.link.ending = true := by
  refine run.invariant (I := fun _ loop => loop.protocolHandler.link.failed = true →
    loop.protocolHandler.link.waiting = true ∨ loop.protocolHandler.link.ending = true)
    (by simp [StreamHandler.start, create, link]) (fun run before ran => ?_) failed
  exact (linkMove_of_iterate ran (udpRun_linked run).gated).failed_waits before

/-- The state machine is legal in every run. -/
theorem udpRun_legal (run : UDPRun server retries history loop) : loop.protocolHandler.fsm.Legal :=
  run.invariant (I := fun _ loop => loop.protocolHandler.fsm.Legal) .fresh
    fun _ legal ran => legal_of_iterate legal ran

end Runs

/-! ## Sample runs -/

/-- The server of the sample runs. -/
def localServer : SockAddr := ⟨0x7F000001, 4567⟩

/-- A datagram that arrives from the sample server. -/
def arrives (bytes : Bytes) (fits : bytes.length ≤ 1499 := by decide) : Event Datagram :=
  .poll (.socket (.received localServer ⟨bytes, fits⟩))

/-- A line the user types. -/
def types (line : String) : Event Datagram := .poll (.stdin (some (text line)))

/-- A sample run, as its turns and its last state. -/
abbrev sample (events : List (Event Datagram)) :
    Option (List UDPTurn × StreamHandler UDPProtocolHandler) :=
  exec StreamHandler.iterate (StreamHandler.start (create localServer) 3) events

end ChatClient
