import ChatClient.UDPRuns

/-! A second copy of a displayed datagram. The state machine is asked before
`received_ids` is consulted, and a REPLY never consults it, so the second copy
meets the state the first one left. `RepeatsSafely` says for which first copies
that state takes the second one without a trace. -/

namespace ChatClient

open Transition UDPProtocolHandler UDPMessageValidator FSMValidate

variable {server : SockAddr} {retries : UInt8} {history : List UDPTurn}
  {loop : StreamHandler UDPProtocolHandler} {h : UDPProtocolHandler} {message : Bytes}
  {first second : Outcome UDPProtocolHandler}

/-- What a second copy may do: confirm the datagram, add a BYE to an ERR, display
nothing, leave the fields alone and return what the first copy returned. -/
structure HarmlessCopy (message : Bytes) (first second : Outcome UDPProtocolHandler) : Prop where
  sends : ∃ id, messageId message = some id ∧ (sent second.effects = [header 0x00 id] ∨
    (message[0]? = some 0xFE ∧ ∃ bye, sent second.effects = [header 0x00 id, formByeMessage bye]))
  shows : ∀ effect ∈ second.effects, effect.sent ≠ none
  currentState : second.handler.fsm.currentState = first.handler.fsm.currentState
  expectedAction : second.handler.fsm.expectedAction = first.handler.fsm.expectedAction
  awaitedReplyId : second.handler.awaitedReplyId = first.handler.awaitedReplyId
  waitingForReply : second.handler.waitingForReply = first.handler.waitingForReply
  errorWhileWaiting : second.handler.errorWhileWaiting = first.handler.errorWhileWaiting
  receivedIds : second.handler.receivedIds = first.handler.receivedIds
  returned : second.returned = first.returned

/-- A MSG repeats safely. So does a positive REPLY, unless the machine accepted it
as one of the listed answers, and a negative one in OPEN while a datagram is
waited for; neither may carry the ID that stands for none. An ERR never does. -/
def RepeatsSafely (h : UDPProtocolHandler) (message : Bytes) : Prop :=
  message[0]? = some 0x04 ∨
  (message[0]? = some 0x01 ∧ readId message 4 ≠ some noId ∧
    ((message[3]? = some 0x01 ∧ h.fsm.expectedAction ≠ answers) ∨
      (message[3]? = some 0x00 ∧ h.fsm.currentState = .opened ∧ h.waitingForConfirmation = true)))

/-- A datagram is displayed. -/
def Displays (outcome : Outcome UDPProtocolHandler) : Prop :=
  ∃ effect ∈ outcome.effects, effect.shows = true

/-- The kinds of first copies: what was displayed, and the handler left. -/
inductive FirstCopy (h : UDPProtocolHandler) (message : Bytes) :
    Outcome UDPProtocolHandler → Prop where
  | message {fsm : FSMValidate} {id : UInt16} {dname content : Bytes}
      (type : message[0]? = some 0x04) (read : messageId message = some id)
      (body : parseAndValidate (message.drop 3) "msg" = ([dname, content], true))
      (asked : h.fsm.validateAction .messageServer = some (.any, fsm)) :
      FirstCopy h message
        ⟨{ h with fsm := fsm, receivedIds := h.receivedIds ++ [id] },
          [h.sendConfirmation id, .messageFromServer dname content], some .readyForInput⟩
  | reply {fsm : FSMValidate} {id refID : UInt16} {content : Bytes} {action : Action}
      {shown : Effect} {ignored : ClientState}
      (decodes : DecodesReply message id refID content action shown ignored)
      (asked : h.fsm.validateAction action = some (.any, fsm)) (awaited : refID = h.awaitedReplyId) :
      FirstCopy h message
        ⟨{ h with
            fsm := fsm
            receivedIds := h.receivedIds ++ [id]
            waitingForReply := false
            awaitedReplyId := noId },
          [shown, h.sendConfirmation id], some .readyForInput⟩
  | error {fsm : FSMValidate} {id : UInt16} {dname content : Bytes}
      (type : message[0]? = some 0xFE) (read : messageId message = some id)
      (body : parseAndValidate (message.drop 3) "err" = ([dname, content], true))
      (asked : h.fsm.validateAction .errorServer = some (.any, fsm)) :
      FirstCopy h message
        ⟨{ h.track (formByeMessage h.renamer3000) with
            fsm := fsm, receivedIds := h.receivedIds ++ [id], awaitingOver := true },
          [h.sendConfirmation id, .errorFromServer dname content,
            h.sendMessage (formByeMessage h.renamer3000)], some .readyForInput⟩

/-- A datagram that is displayed is one of the first copies. -/
theorem UDPProtocolHandler.Receipt.firstCopy (receipt : Receipt h message first)
    (displays : Displays first) : FirstCopy h message first := by
  obtain ⟨effect, member, shows⟩ := displays
  have plain {id : UInt16} {m : Bytes} (member : effect = h.sendConfirmation id ∨ effect = h.sendMessage m) :
      effect.shows = false := by rcases member with rfl | rfl <;> rfl
  cases receipt with
  | shown type id body asked => exact .message type id body asked
  | errorShown type id body asked => exact .error type id body asked
  | reply decodes asked =>
    unfold settleReply at member ⊢
    split
    · exact .reply decodes asked ‹_›
    · rename_i other
      rw [if_neg other] at member
      obtain rfl := List.mem_singleton.mp member
      cases shows
  | repeated | bye | errorConfirmed =>
    obtain rfl := List.mem_singleton.mp member
    cases shows
  | errorRepeated =>
    simp only [List.mem_cons, List.not_mem_nil, or_false] at member
    simp [plain member] at shows
  | failed _ _ _ confirms =>
    obtain ⟨m, rfl⟩ := mem_failWith confirms member
    cases shows
  | byeConfirmed | confirmed | stray | undecided => cases member

section Copies
variable {fromAddr : SockAddr} {fsm : FSMValidate} {id refID : UInt16} {dname content : Bytes}

private theorem message_repeats (legal : h.fsm.Legal) (type : message[0]? = some 0x04)
    (read : messageId message = some id)
    (body : parseAndValidate (message.drop 3) "msg" = ([dname, content], true))
    (asked : h.fsm.validateAction .messageServer = some (.any, fsm))
    (ran : { h with
        fsm := fsm
        receivedIds := h.receivedIds ++ [id]
        serverAddress := fromAddr }.processReceived message = some second) :
    HarmlessCopy message
      (overrule ⟨{ h with fsm := fsm, receivedIds := h.receivedIds ++ [id] },
        [h.sendConfirmation id, .messageFromServer dname content], some .readyForInput⟩)
      (overrule second) := by
  obtain ⟨-, -, rfl⟩ := legal.spoken (.inl rfl) asked
  have again := processReceived_message (h := { h with
    fsm := ⟨.opened, some .opened, [.any]⟩
    receivedIds := h.receivedIds ++ [id]
    serverAddress := fromAddr }) type read body rfl
  have known : id ∈ h.receivedIds ++ [id] := by simp
  simp only [ran, known, ↓reduceIte, Option.some.injEq] at again
  subst again
  constructor
  case sends => exact ⟨id, read, .inl rfl⟩
  case shows => simp [overrule, sendConfirmation, sendMessage, Effect.sent]
  all_goals rfl

/-- The handler after a displayed reply. -/
abbrev replied (h : UDPProtocolHandler) (fsm : FSMValidate) (id : UInt16) : UDPProtocolHandler :=
  { h with
    fsm := fsm
    receivedIds := h.receivedIds ++ [id]
    waitingForReply := false
    awaitedReplyId := noId }

section Replies
variable {action : Action} {shown : Effect} {ignored : ClientState}
  (decodes : DecodesReply message id refID content action shown ignored)
include decodes

/-- A second REPLY that moves the state machine is not harmless. -/
theorem reply_moves {reaction : Action} {moved : FSMValidate}
    (again : fsm.validateAction action = some (reaction, moved))
    (moves : moved.currentState ≠ fsm.currentState ∨ moved.expectedAction ≠ fsm.expectedAction)
    (ran : { replied h fsm id with serverAddress := fromAddr }.processReceived message = some second) :
    ¬ HarmlessCopy message
      (overrule ⟨replied h fsm id, [shown, h.sendConfirmation id], some .readyForInput⟩)
      (overrule second) := by
  intro harmless
  have reached : second.handler.fsm = moved := processReceived_reply_fsm decodes again ran
  rcases moves with moves | moves
  · exact moves (reached ▸ harmless.currentState)
  · exact moves (reached ▸ harmless.expectedAction)

/-- In OPEN a second REPLY is ignored, unless its ID is the one that stands for
none; what it returns depends on its result and on the flag. -/
theorem reply_in_open {previous : Option State}
    (reply : action = .replyServer ∨ action = .nreplyServer)
    (ran : { replied h ⟨.opened, previous, [.any]⟩ id with
      serverAddress := fromAddr }.processReceived message = some second) :
    HarmlessCopy message
      (overrule ⟨replied h ⟨.opened, previous, [.any]⟩ id, [shown, h.sendConfirmation id],
        some .readyForInput⟩)
      (overrule second) ↔
    refID ≠ noId ∧ (ignored = .readyForInput ∨ h.waitingForConfirmation = true) := by
  have settled : second = _ := Option.some.inj (ran.symm.trans
    (processReceived_reply decodes (validateAction_opened reply)))
  unfold settleReply at settled
  split at settled
  · rename_i same
    refine iff_of_false (fun harmless => ?_) (fun other => other.1 same)
    subst settled
    have silent := harmless.shows shown (.head _)
    obtain ⟨_, _, _ | _⟩ := decodes.result <;> exact silent rfl
  · rename_i other
    subst settled
    constructor
    · intro harmless
      refine ⟨other, ?_⟩
      have returned := harmless.returned
      cases flag : h.waitingForConfirmation with
      | true => exact .inr rfl
      | false => exact .inl (by simpa [overrule, flag] using returned)
    · rintro ⟨-, either⟩
      constructor
      case sends => exact ⟨id, decodes.id, .inl rfl⟩
      case shows => simp [overrule, sendConfirmation, sendMessage, Effect.sent]
      case returned =>
        rcases either with rfl | flag
        · rfl
        · simp [overrule, flag]
      all_goals rfl

end Replies

private theorem reply_repeats_iff {action : Action} {shown : Effect} {ignored : ClientState}
    (legal : h.fsm.Legal)
    (decodes : DecodesReply message id refID content action shown ignored)
    (asked : h.fsm.validateAction action = some (.any, fsm))
    (ran : { replied h fsm id with serverAddress := fromAddr }.processReceived message = some second) :
    HarmlessCopy message
      (overrule ⟨replied h fsm id, [shown, h.sendConfirmation id], some .readyForInput⟩)
      (overrule second) ↔ RepeatsSafely h message := by
  have type : message[0]? = some 0x01 := decodes.type
  have ref : readId message 4 = some refID := decodes.ref
  obtain ⟨status, stated, result⟩ := decodes.result
  simp only [RepeatsSafely, type, ref, stated]
  cases result with
  | positive =>
    have answered := legal.answered (.inl rfl) asked
    generalize h.fsm = before at answered ⊢
    cases answered with
    | opens =>
      rw [reply_in_open (h := h) decodes (.inl rfl) ran]
      simp
    | keeps =>
      rw [reply_in_open (h := h) decodes (.inl rfl) ran]
      simp
    | listed =>
      refine iff_of_false (reply_moves decodes rfl (.inl (by decide)) ran) ?_
      simp
  | negative =>
    have answered := legal.answered (.inr (.inl rfl)) asked
    generalize h.fsm = before at answered ⊢
    cases answered with
    | keeps =>
      rw [reply_in_open (h := h) decodes (.inr rfl) ran]
      simp
    | refuses =>
      refine iff_of_false (reply_moves decodes rfl (.inl (by decide)) ran) ?_
      simp
    | listed =>
      refine iff_of_false (reply_moves decodes rfl (.inr (by decide)) ran) ?_
      simp

/-- A second ERR is never harmless: the machine has left the state that accepts
it, or leaves it now. -/
theorem error_never_repeats (legal : h.fsm.Legal) (type : message[0]? = some 0xFE)
    (read : messageId message = some id)
    (body : parseAndValidate (message.drop 3) "err" = ([dname, content], true))
    (asked : h.fsm.validateAction .errorServer = some (.any, fsm)) {effects : List Effect}
    (ran : { h.track (formByeMessage h.renamer3000) with
        fsm := fsm
        receivedIds := h.receivedIds ++ [id]
        awaitingOver := true
        serverAddress := fromAddr }.processReceived message = some second) :
    ¬ HarmlessCopy message
      (overrule ⟨{ h.track (formByeMessage h.renamer3000) with
        fsm := fsm, receivedIds := h.receivedIds ++ [id], awaitingOver := true },
        effects, some .readyForInput⟩)
      (overrule second) := by
  intro harmless
  have stays := harmless.currentState
  have answered := legal.answered (.inr (.inr rfl)) asked
  generalize h.fsm = before at answered
  cases answered with
  | breaks | leaves | listed =>
    have reached : second.handler.fsm = _ := processReceived_error_fsm type read body rfl ran
    simp [overrule, reached] at stays
  | keeps _ reply => rcases reply with reply | reply <;> cases reply

end Copies

/-- A displayed datagram has a whole header. -/
theorem FirstCopy.whole (copy : FirstCopy h message first) : 3 ≤ message.length := by
  cases copy with
  | message _ read | error _ read => exact length_of_messageId read
  | reply decodes => exact length_of_messageId decodes.id

/-- What a second copy does after the first one, from any legal machine. -/
theorem FirstCopy.harmless_iff {fromAddr : SockAddr} (copy : FirstCopy h message first)
    (legal : h.fsm.Legal)
    (ran : { first.handler with serverAddress := fromAddr }.processReceived message = some second) :
    HarmlessCopy message (overrule first) (overrule second) ↔ RepeatsSafely h message := by
  cases copy with
  | message type read body asked =>
    exact iff_of_true (message_repeats legal type read body asked ran) (.inl type)
  | reply decodes asked => exact reply_repeats_iff legal decodes asked ran
  | error type read body asked =>
    refine iff_of_false (error_never_repeats legal type read body asked ran) ?_
    simp [RepeatsSafely, type]

/-- In every reachable state, a second copy of a displayed datagram is processed,
and is harmless exactly when the first copy repeats safely. -/
theorem harmlessCopy_iff_repeatsSafely (run : UDPRun server retries history loop)
    (buffer : RecvBuffer) {fromAddr fromAgain : SockAddr}
    (ran : loop.protocolHandler.processServerMessage (.received fromAddr buffer) = some first)
    (displays : Displays first) :
    ∃ second, first.handler.processServerMessage (.received fromAgain buffer) = some second ∧
      (HarmlessCopy buffer.val first second ↔ RepeatsSafely loop.protocolHandler buffer.val) := by
  have legal := udpRun_legal run
  simp only [processServerMessage, Option.map_eq_some_iff] at ran
  obtain ⟨inner, called, rfl⟩ := ran
  have receipt := receipt_of_processReceived called
  have copy := receipt.firstCopy displays
  obtain ⟨again, calledAgain⟩ := @processReceived_defined
    { inner.handler with serverAddress := fromAgain } buffer.val
    (legal.consulted_server receipt.consulted) copy.whole
  refine ⟨overrule again, by simp [processServerMessage, overrule, calledAgain], ?_⟩
  exact copy.harmless_iff legal calledAgain

/-- The handler of a client whose AUTH was confirmed. -/
abbrev authenticating : List (Event Datagram) := [types "/auth a b c", arrives [0x00, 0, 0]]

/-- A MSG that comes twice in OPEN. -/
theorem harmlessCopy_iff_repeatsSafely_message : ∃ history loop first second,
    UDPRun localServer 3 history loop ∧
    first.handler.processServerMessage
      (.received localServer ⟨[0x04, 0, 6, 0x61, 0, 0x68, 0x69, 0], by decide⟩) = some second ∧
    (HarmlessCopy [0x04, 0, 6, 0x61, 0, 0x68, 0x69, 0] first second ↔
      RepeatsSafely loop.protocolHandler [0x04, 0, 6, 0x61, 0, 0x68, 0x69, 0]) := by
  have ran : sample (authenticating ++ [arrives [0x01, 0, 5, 1, 0, 0, 0x6F, 0x6B, 0]]) =
    some (_, _) := rfl
  obtain ⟨second, called, iff⟩ := @harmlessCopy_iff_repeatsSafely _ _ _ _ _ (Run.of_exec ran)
    ⟨[0x04, 0, 6, 0x61, 0, 0x68, 0x69, 0], by decide⟩ localServer localServer rfl
    ⟨.messageFromServer [0x61] [0x68, 0x69], by decide, rfl⟩
  exact ⟨_, _, _, second, Run.of_exec ran, called, iff⟩

/-- The second copy of a negative reply to an AUTH is a protocol error. -/
theorem negative_reply_repeats_as_error : ¬ ∀ (history : List UDPTurn)
    (loop : StreamHandler UDPProtocolHandler) (buffer : RecvBuffer)
    (first second : Outcome UDPProtocolHandler), UDPRun localServer 3 history loop →
    loop.protocolHandler.processServerMessage (.received localServer buffer) = some first →
    Displays first →
    first.handler.processServerMessage (.received localServer buffer) = some second →
    HarmlessCopy buffer.val first second := by
  intro all
  have ran : sample authenticating = some (_, _) := rfl
  have harmless := all _ _ ⟨[0x01, 0, 5, 0, 0, 0, 0x6E, 0x6F, 0], by decide⟩ _ _ (Run.of_exec ran) rfl
    ⟨.replyError [0x6E, 0x6F], by decide, rfl⟩ rfl
  exact absurd harmless.currentState (by decide)

end ChatClient
