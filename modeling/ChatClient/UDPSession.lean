import ChatClient.ChatSession
import ChatClient.UDPWire

/-! The UDP client carries every session over a network that loses nothing: each event
reaches the client as a line or as a datagram with the event's number, and every
datagram the client sends is confirmed before the next event. What the session says an
event comes to is then seen on the datagrams and on the display, the CONFIRMs aside. -/

namespace ChatClient

open Transition FSMValidate UDPProtocolHandler UDPMessageValidator

/-! ## What travels -/

/-- The datagram the server sends a message as. A REPLY names the request it answers. -/
def ServerMessage.datagram (number refID : UInt16) : ServerMessage → Bytes
  | reply accepted content =>
    header 0x01 number ++ [if accepted then 0x01 else 0x00, highByte refID, lowByte refID] ++
      content ++ [0]
  | message displayName content => header 0x04 number ++ displayName ++ [0] ++ content ++ [0]
  | error displayName content => header 0xFE number ++ displayName ++ [0] ++ content ++ [0]
  | bye => header 0xFF number

/-- What an event of a session is over UDP. -/
inductive SessionEvent.OverUDP (peer : SockAddr) (refID : UInt16) :
    SessionEvent → Event Datagram → Prop where
  | typed (line : Bytes) : OverUDP peer refID (.line line) (.poll (.stdin (some line)))
  | arrived {number : UInt16} {message : ServerMessage} {datagram : RecvBuffer}
      (is : datagram.val = message.datagram number refID) :
      OverUDP peer refID (.server number message) (.poll (.socket (.received peer datagram)))

/-- The CONFIRM of a datagram. -/
def confirmFor (message : Bytes) : RecvBuffer :=
  ⟨header 0x00 ((messageId message).getD 0), by simp [header]⟩

/-- It arrives. -/
def confirmFrom (peer : SockAddr) (message : Bytes) : Event Datagram :=
  .poll (.socket (.received peer (confirmFor message)))

/-- The effects that are no CONFIRM. -/
def visible (effects : List Effect) : List Effect :=
  effects.filter fun effect => !(effect.sent.any (hasType 0x00))

/-- What an observation is over UDP. -/
inductive SeenOverUDP : Observation → Effect → Prop where
  | speaks (message : UserMessage) (address : SockAddr) (id : UInt16) :
      SeenOverUDP (.speaks message) (.sendto address (message.datagram id))
  | objects {datagram : Bytes} (address : SockAddr) (error : hasType 0xFE datagram = true) :
      SeenOverUDP .objects (.sendto address datagram)
  | shows {effect : Effect} (fromServer : effect.shows = true) : SeenOverUDP (.shows effect) effect
  | rejects {reason : Bytes} : SeenOverUDP .rejects (.internalErrorMessage reason)
  | helps : SeenOverUDP .helps .printHelp

/-! ## The handler -/

/-- The handler between two events of a session: nothing is waited for, and an open
request is the last datagram sent. -/
structure UDPMirrors (s : ChatSession) (h : UDPProtocolHandler) : Prop where
  fsm : h.fsm = s.fsm
  name : h.messageValidator.displayName = s.displayName
  idle : h.waitingForConfirmation = false
  sound : h.errorSent = false
  goes : h.awaitingOver = false
  clear : h.errorWhileWaiting = false
  answers : s.requested = true → messageId h.lastMessage = some h.awaitedReplyId
  taken : ∀ id ∈ h.receivedIds, id ∈ s.seen

/-- The handler once a request or a text is confirmed. -/
def UDPProtocolHandler.confirmedBy (h : UDPProtocolHandler) (peer : SockAddr) : UDPProtocolHandler :=
  { h with
    serverAddress := peer
    awaitedConirmId := noId
    waitingForReply := false
    waitingForConfirmation := false }

/-- A call comes to what the session says, at once or after the CONFIRMs that are
still to come. -/
inductive UDPTakes (result : List Observation × ChatSession) (outcome : Outcome UDPProtocolHandler) :
    Prop where
  | done (seen : List.Forall₂ SeenOverUDP result.1 (visible outcome.effects))
      (none : issued outcome.effects = [])
      (handler : result.2.ended = false → UDPMirrors result.2 outcome.handler)
      (state : outcome.returned.getD .readyForInput = result.2.state ∨
        (result.2.ended = false ∧ result.2.requested = true ∧
          outcome.returned.getD .readyForInput = .readyForInput))
  /-- The CONFIRM of a request or a text is to come. -/
  | said {datagram : Bytes} {id : UInt16}
      (seen : List.Forall₂ SeenOverUDP result.1 (visible outcome.effects))
      (runs : result.2.ended = false) (sends : issued outcome.effects = [datagram])
      (named : messageId datagram = some id) (awaits : outcome.handler.awaitedConirmId = id)
      (sound : outcome.handler.errorSent = false) (goes : outcome.handler.awaitingOver = false)
      (handler : ∀ peer, UDPMirrors result.2 (outcome.handler.confirmedBy peer))
      (asks : outcome.handler.waitingForReply = result.2.requested)
      (waits : outcome.returned = some .waitingForConfirmation)
  /-- The CONFIRM of a BYE is to come. -/
  | closing {id : UInt16} (seen : List.Forall₂ SeenOverUDP result.1 (visible outcome.effects))
      (ends : result.2.ended = true) (sends : issued outcome.effects = [formByeMessage id])
      (awaits : outcome.handler.awaitedConirmId = id) (ending : outcome.handler.awaitingOver = true)
      (waits : outcome.returned.getD .readyForInput ≠ .over)
  /-- The CONFIRM of an ERR is to come, then a BYE and its CONFIRM. -/
  | objected {address : SockAddr} {datagram : Bytes} {id : UInt16}
      (objects : result.1 = [.objects, .speaks .bye]) (ends : result.2.ended = true)
      (effects : visible outcome.effects = [.sendto address datagram])
      (sends : issued outcome.effects = [datagram]) (error : hasType 0xFE datagram = true)
      (named : messageId datagram = some id) (awaits : outcome.handler.awaitedConirmId = id)
      (failed : outcome.handler.errorSent = true) (goes : outcome.handler.awaitingOver = false)
      (waits : outcome.returned = some .waitingForConfirmation)

variable {s : ChatSession} {h : UDPProtocolHandler} {line argument : Bytes}
  {result : List Observation × ChatSession}

/-- Both follow the machine. -/
theorem UDPMirrors.asked (mirrors : UDPMirrors s h) (fsm : FSMValidate) :
    UDPMirrors { s with fsm := fsm } { h with fsm := fsm } :=
  { mirrors with fsm := rfl }

private theorem UserMessage.own_datagram (message : UserMessage) (id : UInt16) :
    hasType 0x00 (message.datagram id) = false := by
  cases message <;> simp [UserMessage.datagram, UserMessage.code]

@[simp] theorem UserMessage.messageId_datagram (message : UserMessage) (id : UInt16) :
    messageId (message.datagram id) = some id := messageId_header _ _ _

section Effects
variable {effects : List Effect}

@[simp] theorem visible_nil : visible [] = [] := rfl

@[simp] theorem visible_confirmation {id : UInt16} :
    visible (h.sendConfirmation id :: effects) = visible effects := by
  simp [visible, sendConfirmation, sendMessage, Effect.sent]

@[simp] theorem visible_append (first second : List Effect) :
    visible (first ++ second) = visible first ++ visible second := by
  simp [visible]

private theorem visible_message {message : Bytes} (own : hasType 0x00 message = false) :
    visible (h.sendMessage message :: effects) = h.sendMessage message :: visible effects := by
  simp [visible, sendMessage, Effect.sent, own]

end Effects

/-! ## A line of the user -/

section Line
variable (mirrors : UDPMirrors s h) (runs : s.ended = false) (free : s.requested = false)
  (legal : s.fsm.Legal)
include mirrors runs free

/-- A command that is turned down. -/
theorem UDPMirrors.reject {reason : Bytes} : UDPTakes s.reject (h.reject reason) := by
  refine .done (.cons .rejects .nil) rfl (fun _ => mirrors) (.inl ?_)
  simp [ChatSession.reject, ChatSession.state, UDPProtocolHandler.reject, runs, free]

/-- A command the machine warns about. -/
theorem UDPMirrors.warned {reason : Bytes} (fsm : FSMValidate) :
    ∃ outcome, some ({ h with fsm := fsm }.reject reason) = some outcome ∧
      UDPTakes { s with fsm := fsm }.reject outcome := ⟨_, rfl, (mirrors.asked fsm).reject runs free⟩

omit mirrors runs free in
private theorem UDPTakes.ofSendRequest {message : UserMessage} (runs : s.ended = false)
    (mirrors : UDPMirrors { s with requested := false } h)
    (asks : h.waitingForReply = s.requested)
    (names : s.requested = true → h.awaitedReplyId = h.renamer3000) :
    UDPTakes (s.say message) (h.sendRequest (message.datagram h.renamer3000)) := by
  have own := message.own_datagram h.renamer3000
  have seen : List.Forall₂ SeenOverUDP (s.say message).1
      (visible [h.sendMessage (message.datagram h.renamer3000)]) := by
    rw [visible_message own]
    exact .cons (.speaks message _ _) .nil
  refine .said seen runs (issued_message own) (message.messageId_datagram _) rfl mirrors.sound
    mirrors.goes (fun peer => ?_) asks rfl
  refine ⟨mirrors.fsm, mirrors.name, rfl, mirrors.sound, mirrors.goes, mirrors.clear, fun open' => ?_,
    mirrors.taken⟩
  exact (message.messageId_datagram _).trans (congrArg some (names open').symm)

include legal

theorem UDPMirrors.processAuth (ran : s.command (.ofAuth argument) = some result) :
    ∃ outcome, h.processAuth argument = some outcome ∧ UDPTakes result outcome := by
  rcases ofAuth_cases argument with ⟨id, secret, name, fields, command⟩ | ⟨refused, command⟩
  · rw [command, ChatSession.command] at ran
    refine ask_user ran mirrors.fsm legal (.inl rfl) (fun fsm => ?_) (mirrors.warned runs free)
    simp only [fields.parts, fields.datagram, ↓reduceIte]
    refine ⟨_, rfl, UDPTakes.ofSendRequest runs ?_ rfl fun _ => rfl⟩
    exact { mirrors with fsm := rfl, name := rfl, answers := by simp }
  · rw [command, ChatSession.command] at ran
    refine ask_user ran mirrors.fsm legal (.inl rfl) (fun fsm => ?_) (mirrors.warned runs free)
    simp only [↓reduceIte]
    split
    · rename_i user secret name parts
      obtain ⟨reason, turned⟩ := @authorizeValidate_udp_refused h.messageValidator _
        h.renamer3000 _ _ _ parts (refused user secret name)
      simp only [turned, Bool.false_eq_true, ↓reduceIte]
      exact mirrors.warned runs free fsm
    · exact mirrors.warned runs free fsm

theorem UDPMirrors.processJoin (ran : s.command (.ofJoin argument) = some result) :
    ∃ outcome, h.processJoin argument = some outcome ∧ UDPTakes result outcome := by
  rcases ofJoin_cases argument with ⟨channel, parts, valid, command⟩ | ⟨refused, command⟩
  · have valid : UDPMessageValidator.validateId channel = true := valid
    have built : h.messageValidator.joinValidate 0x03 h.renamer3000 channel =
        ((UserMessage.join channel s.displayName).datagram h.renamer3000, true) := by
      simp [joinValidate, valid, mirrors.name, UserMessage.datagram, UserMessage.code, UserMessage.fields]
    rw [command, ChatSession.command] at ran
    refine ask_user ran mirrors.fsm legal (.inr (.inl rfl)) (fun fsm => ?_) (mirrors.warned runs free)
    simp only [parts, built, ↓reduceIte]
    refine ⟨_, rfl, UDPTakes.ofSendRequest runs ?_ rfl fun _ => rfl⟩
    exact { mirrors with fsm := rfl, answers := by simp }
  · rw [command, ChatSession.command] at ran
    refine ask_user ran mirrors.fsm legal (.inr (.inl rfl)) (fun fsm => ?_) (mirrors.warned runs free)
    simp only [↓reduceIte]
    split
    · rename_i channel parts
      have invalid : UDPMessageValidator.validateId channel = false := refused channel parts
      simp only [joinValidate, invalid, Bool.not_false, Bool.false_eq_true, ↓reduceIte]
      exact mirrors.warned runs free fsm
    · exact mirrors.warned runs free fsm

theorem UDPMirrors.processText (ran : s.command (.ofText line) = some result) :
    ∃ outcome, h.processText line = some outcome ∧ UDPTakes result outcome := by
  unfold UserCommand.ofText at ran
  unfold UDPProtocolHandler.processText
  split at ran
  · cases ran
    rw [if_pos ‹_›]
    exact ⟨_, rfl, mirrors.reject runs free⟩
  rename_i plain
  rw [if_neg plain]
  split at ran
  · rename_i valid
    have valid : UDPMessageValidator.validateContent line = true := valid
    have built : h.messageValidator.messageValidate 0x04 h.renamer3000 line =
        ((UserMessage.message s.displayName line).datagram h.renamer3000, true) := by
      simp [messageValidate, valid, mirrors.name, UserMessage.datagram, UserMessage.code, UserMessage.fields]
    rw [ChatSession.command] at ran
    refine ask_user ran mirrors.fsm legal (.inr (.inr rfl)) (fun fsm => ?_) (mirrors.warned runs free)
    simp only [built, ↓reduceIte]
    refine ⟨_, rfl, UDPTakes.ofSendRequest runs ?_ free.symm fun open' => ?_⟩
    · exact { mirrors with fsm := rfl, answers := by simp }
    · rw [free] at open'
      cases open'
  · rename_i invalid
    have invalid : UDPMessageValidator.validateContent line = false := Bool.eq_false_iff.mpr invalid
    refine ask_user ran mirrors.fsm legal (.inr (.inr rfl)) (fun fsm => ?_) (mirrors.warned runs free)
    simp only [messageValidate, invalid, Bool.not_false, Bool.false_eq_true, ↓reduceIte]
    exact mirrors.warned runs free fsm

/-- Every line comes to what its command does. -/
theorem UDPMirrors.processUserInput (ran : s.command (.ofLine line) = some result) :
    ∃ outcome, h.processUserInput line = some outcome ∧ UDPTakes result outcome := by
  unfold UserCommand.ofLine at ran
  simp only [UDPProtocolHandler.processUserInput]
  split at ran
  · cases ran
    rw [if_pos ‹_›]
    refine ⟨_, rfl, .closing (.cons (.speaks .bye h.serverAddress h.renamer3000) .nil) rfl
      ?_ rfl rfl (by simp [processExit])⟩
    exact issued_message (by simp)
  rw [if_neg ‹_›, mirrors.clear, if_neg Bool.false_ne_true]
  split at ran
  · rw [if_pos ‹_›]
    exact mirrors.processAuth runs free legal ran
  rw [if_neg ‹_›]
  split at ran
  · rw [if_pos ‹_›]
    exact mirrors.processJoin runs free legal ran
  rw [if_neg ‹_›]
  split at ran
  · rw [if_pos ‹_›, UDPProtocolHandler.processRename, rename]
    have same : TCPMessageValidator.validateDname (argumentOf line) =
        UDPMessageValidator.validateDname (argumentOf line) := rfl
    rw [same] at ran
    split at ran
    · rename_i valid
      cases ran
      simp only [valid, Bool.not_true, Bool.false_eq_true, ↓reduceIte]
      refine ⟨_, rfl, .done .nil rfl (fun _ => ?_) (.inl ?_)⟩
      · exact { mirrors with name := rfl }
      · simp [ChatSession.state, runs, free]
    · rename_i invalid
      cases ran
      rw [if_neg invalid]
      exact ⟨_, rfl, mirrors.reject runs free⟩
  rw [if_neg ‹_›]
  split at ran
  · cases ran
    rw [if_pos ‹_›]
    exact ⟨_, rfl, .done (.cons .helps .nil) rfl (fun _ => mirrors)
      (.inl (by simp [ChatSession.state, runs, free]))⟩
  · rw [if_neg ‹_›]
    exact mirrors.processText runs free legal ran

end Line

/-! ## A datagram of the server -/

section Bodies
variable {name content : Bytes} {type : String}

private theorem parseAndValidate_named (named : type = "msg" ∨ type = "err")
    (valid : (TCPMessageValidator.validateDname name && !name.contains space &&
      TCPMessageValidator.validateContent content) = true) :
    parseAndValidate (name ++ [0] ++ content ++ [0]) type = ([name, content], true) := by
  simp only [Bool.and_eq_true] at valid
  have parsed := @parseAndValidate_message name content valid.1.1 valid.2
  rcases named with rfl | rfl
  · exact parsed
  · simpa only [parseAndValidate, String.reduceEq, ↓reduceIte] using parsed

private theorem parseAndValidate_reply (valid : TCPMessageValidator.validateContent content = true) :
    parseAndValidate (content ++ [0]) "reply" = ([content], true) := by
  have found : words (Framing.join [0] [content]) = [content] := by
    rw [words_eq_scan, Separated.scan_join (by simp [nul_not_mem_content valid])]
  have body : content ++ [0] = Framing.join [0] [content] := by simp
  have valid : UDPMessageValidator.validateContent content = true := valid
  rw [body]
  simp only [parseAndValidate, found, valid, ↓reduceIte, Bool.not_true, Bool.false_eq_true]

private theorem decodesReply_datagram {accepted : Bool} (number refID : UInt16)
    (valid : (ServerMessage.reply accepted content).valid = true) : ∃ ignored,
    DecodesReply ((ServerMessage.reply accepted content).datagram number refID) number refID content
      (ServerMessage.reply accepted content).action
      (if accepted then .replySuccess content else .replyError content) ignored := by
  have body := @parseAndValidate_reply content valid
  cases accepted with
  | true =>
    refine ⟨_, rfl, ?_, ?_, ?_, body, _, rfl, .positive⟩
    · simp [ServerMessage.datagram, header]
    · simp [ServerMessage.datagram, header, readId]
    · simp [ServerMessage.datagram, header, readId]
  | false =>
    refine ⟨_, rfl, ?_, ?_, ?_, body, _, rfl, .negative⟩
    · simp [ServerMessage.datagram, header]
    · simp [ServerMessage.datagram, header, readId]
    · simp [ServerMessage.datagram, header, readId]

end Bodies

section Heard
variable {message : ServerMessage} {number refID : UInt16} {datagram : RecvBuffer}

/-- Every objection is an ERR that waits for its CONFIRM. -/
theorem UDPTakes.object {confirmation : List Effect} {error : String} {s : ChatSession}
    {h : UDPProtocolHandler} (idle : h.waitingForConfirmation = false) (goes : h.awaitingOver = false)
    (confirms : confirmation = [] ∨ ∃ id, confirmation = [h.sendConfirmation id]) :
    UDPTakes s.object (overrule (h.failWith confirmation error)) := by
  have kind (type : UInt8) : hasType type (formErrorMessage h.renamer3000
      h.messageValidator.getDisplayName (text error)) = decide (0xFE = type) := by
    simp [formErrorMessage_eq]
  have own := kind 0x00
  have named : messageId (formErrorMessage h.renamer3000 h.messageValidator.getDisplayName
      (text error)) = some h.renamer3000 := by simp [formErrorMessage_eq]
  simp only [failWith, sendErrorMessage, idle, Bool.false_eq_true, ↓reduceIte]
  refine @UDPTakes.objected _ _ h.serverAddress _ _ rfl rfl ?_ ?_ (kind 0xFE) named rfl rfl goes rfl
  · rcases confirms with rfl | ⟨id, rfl⟩
    · exact visible_message own
    · exact visible_confirmation.trans (visible_message own)
  · rcases confirms with rfl | ⟨id, rfl⟩
    · exact issued_message own
    · exact issued_confirmation.trans (issued_message own)

/-- A new number is taken note of on both sides. -/
theorem UDPMirrors.heard (mirrors : UDPMirrors s h) (number : UInt16) (fsm : FSMValidate) :
    UDPMirrors { s with seen := s.seen ++ [number], fsm := fsm }
      { h with fsm := fsm, receivedIds := h.receivedIds ++ [number] } := by
  refine { mirrors with fsm := rfl, taken := fun id member => ?_ }
  simp only [List.mem_append, List.mem_singleton] at member ⊢
  exact member.imp_left (mirrors.taken id)

variable (mirrors : UDPMirrors s h) (runs : s.ended = false) (legal : s.fsm.Legal)
  (fresh : number ∉ s.seen)
include mirrors runs legal fresh

omit fresh in
private theorem UDPMirrors.hears_reply {accepted : Bool} {content : Bytes}
    (valid : (ServerMessage.reply accepted content).valid = true)
    (names : messageId h.lastMessage = some refID)
    (is : datagram.val = (ServerMessage.reply accepted content).datagram number refID)
    (ran : { s with seen := s.seen ++ [number] }.hear (.reply accepted content) = some result) :
    ∃ outcome, h.processReceived datagram.val = some outcome ∧
      UDPTakes result (overrule outcome) := by
  simp only [ChatSession.hear] at ran
  split at ran
  · rename_i requested
    obtain ⟨ignored, decodes⟩ := decodesReply_datagram number refID valid
    obtain ⟨error, decoded⟩ := @processReceived_decoded h _ _ _ _ _ _ _ decodes
    rw [is, decoded, concludeReply]
    have awaited : refID = h.awaitedReplyId :=
      Option.some.inj (names.symm.trans (mirrors.answers requested))
    have server : ServerAction (ServerMessage.reply accepted content).action := by
      cases accepted
      · exact .inr (.inr (.inl rfl))
      · exact .inr (.inl rfl)
    refine ask_server (Q := fun result outcome => UDPTakes result (overrule outcome)) ran mirrors.fsm
      legal server (fun fsm => ?_) (fun fsm => ?_)
    · simp only [↓reduceIte, settleReply, awaited]
      refine ⟨_, rfl, .done ?_ ?_ (fun _ => ?_) (.inl ?_)⟩
      · cases accepted
        · exact .cons (.shows rfl) .nil
        · exact .cons (.shows rfl) .nil
      · cases accepted
        · rfl
        · rfl
      · exact { mirrors.heard number fsm with answers := by simp }
      · simp [overrule, mirrors.idle, ChatSession.state, runs]
    · exact ⟨_, rfl, UDPTakes.object mirrors.idle mirrors.goes (.inr ⟨_, rfl⟩)⟩
  · cases ran

private theorem UDPMirrors.hears_message {name content : Bytes}
    (valid : (ServerMessage.message name content).valid = true)
    (is : datagram.val = (ServerMessage.message name content).datagram number refID)
    (ran : { s with seen := s.seen ++ [number] }.hear (.message name content) = some result) :
    ∃ outcome, h.processReceived datagram.val = some outcome ∧
      UDPTakes result (overrule outcome) := by
  have body : parseAndValidate (datagram.val.drop 3) "msg" = ([name, content], true) := by
    rw [is]
    exact parseAndValidate_named (.inl rfl) valid
  have read : readId datagram.val 1 = some number := by
    rw [is]
    simp [ServerMessage.datagram, header, readId]
  have type : datagram.val[0]? = some 0x04 := by
    rw [is]
    rfl
  have whole : ¬ datagram.val.length < 3 := Nat.not_lt.mpr (length_of_messageId read)
  have new : h.idLookup number = false := by
    simp only [idLookup, List.any_eq_false, beq_iff_eq]
    rintro id member rfl
    exact fresh (mirrors.taken id member)
  simp only [ChatSession.hear] at ran
  have branch : h.processReceived datagram.val = h.processMessage datagram.val := by
    simp [processReceived, type]
  simp only [branch, processMessage, whole, read, body, Option.bind_eq_bind, Option.bind_some,
    ↓reduceIte]
  refine ask_server (Q := fun result outcome => UDPTakes result (overrule outcome)) ran mirrors.fsm
      legal (.inl rfl) (fun fsm => ?_) (fun fsm => ?_)
  · simp only [idLookup] at new
    simp only [idLookup, new, List.getElem?_cons_zero, List.getElem?_cons_succ, Option.bind_some,
      Bool.false_eq_true, ↓reduceIte]
    refine ⟨_, rfl, .done ?_ ?_ (fun _ => mirrors.heard number fsm) ?_⟩
    · exact .cons (.shows rfl) .nil
    · rfl
    · cases s.requested
      · simp [overrule, mirrors.idle, ChatSession.state, runs]
      · simp [overrule, mirrors.idle, runs]
  · exact ⟨_, rfl, UDPTakes.object mirrors.idle mirrors.goes (.inl rfl)⟩

omit runs in
private theorem UDPMirrors.hears_error {name content : Bytes}
    (valid : (ServerMessage.error name content).valid = true)
    (is : datagram.val = (ServerMessage.error name content).datagram number refID)
    (ran : { s with seen := s.seen ++ [number] }.hear (.error name content) = some result) :
    ∃ outcome, h.processReceived datagram.val = some outcome ∧
      UDPTakes result (overrule outcome) := by
  have body : parseAndValidate (datagram.val.drop 3) "err" = ([name, content], true) := by
    rw [is]
    exact parseAndValidate_named (.inr rfl) valid
  have read : readId datagram.val 1 = some number := by
    rw [is]
    simp [ServerMessage.datagram, header, readId]
  have type : datagram.val[0]? = some 0xFE := by
    rw [is]
    rfl
  have long : ¬ datagram.val.length < 4 := Nat.not_lt.mpr (body_long body)
  have new : h.idLookup number = false := by
    simp only [idLookup, List.any_eq_false, beq_iff_eq]
    rintro id member rfl
    exact fresh (mirrors.taken id member)
  simp only [ChatSession.hear] at ran
  have branch : h.processReceived datagram.val = h.processError datagram.val := by
    simp [processReceived, type]
  simp only [branch, processError, long, read, body, Option.bind_eq_bind, Option.bind_some,
    ↓reduceIte]
  refine ask_server (Q := fun result outcome => UDPTakes result (overrule outcome)) ran mirrors.fsm
      legal (.inr (.inr (.inr rfl))) (fun fsm => ?_) (fun fsm => ?_)
  · simp only [idLookup] at new
    simp only [idLookup, new, List.getElem?_cons_zero, List.getElem?_cons_succ, Option.bind_some,
      Bool.false_eq_true, ↓reduceIte]
    refine ⟨_, rfl, .closing ?_ rfl ?_ rfl rfl ?_⟩
    · exact .cons (.shows rfl) (.cons (.speaks .bye h.serverAddress h.renamer3000) .nil)
    · rfl
    · simp [overrule, mirrors.idle, sendBye, track]
  · exact ⟨_, rfl, UDPTakes.object mirrors.idle mirrors.goes (.inr ⟨_, rfl⟩)⟩

omit runs fresh in
private theorem UDPMirrors.hears_bye (is : datagram.val = ServerMessage.bye.datagram number refID)
    (ran : { s with seen := s.seen ++ [number] }.hear .bye = some result) :
    ∃ outcome, h.processReceived datagram.val = some outcome ∧
      UDPTakes result (overrule outcome) := by
  have read : messageId datagram.val = some number := by
    rw [is]
    exact messageId_bye
  have type : datagram.val[0]? = some 0xFF := by
    rw [is]
    rfl
  simp only [ChatSession.hear] at ran
  split at ran
  · rename_i opened
    obtain ⟨after, agreed⟩ := legal.accepts_bye opened
    simp only [ChatSession.ask, ServerMessage.action, agreed, Option.bind_eq_bind, Option.bind_some,
      ↓reduceIte, Option.some.injEq] at ran
    subst ran
    refine ⟨_, processReceived_bye type (length_of_messageId read) read, .done ?_ ?_ (by simp) (.inl ?_)⟩
    · exact .nil
    · rfl
    · simp [overrule, mirrors.idle, ChatSession.state]
  · cases ran

/-- Every message of the server comes to what the session says. -/
theorem UDPMirrors.processServerMessage (peer : SockAddr) (datagram : RecvBuffer)
    (valid : message.valid = true)
    (is : datagram.val = message.datagram number refID)
    (names : s.requested = true → messageId h.lastMessage = some refID)
    (ran : { s with seen := s.seen ++ [number] }.hear message = some result) :
    ∃ outcome, h.processServerMessage (.received peer datagram) = some outcome ∧
      UDPTakes result outcome := by
  have mirrors : UDPMirrors s { h with serverAddress := peer } := { mirrors with }
  have taken : ∃ outcome, { h with serverAddress := peer }.processReceived datagram.val = some outcome ∧
      UDPTakes result (overrule outcome) := by
    cases message with
    | reply accepted content =>
      refine mirrors.hears_reply runs legal valid (names ?_) is ran
      by_contra free
      simp [ChatSession.hear, free] at ran
    | message name content => exact mirrors.hears_message runs legal fresh valid is ran
    | error name content => exact mirrors.hears_error legal fresh valid is ran
    | bye => exact mirrors.hears_bye legal is ran
  obtain ⟨outcome, processed, takes⟩ := taken
  exact ⟨_, processServerMessage_of_processReceived processed, takes⟩

end Heard

/-! ## The CONFIRMs -/

section Confirms
variable {loop : StreamHandler UDPProtocolHandler} {peer : SockAddr} {message : Bytes} {id : UInt16}
  (calm : loop.Calm) (open' : loop.state ≠ .over)
include calm open'

private theorem iterate_received {datagram : RecvBuffer} {outcome : Outcome UDPProtocolHandler}
    (called : loop.protocolHandler.processServerMessage (.received peer datagram) = some outcome) :
    ∃ report after, loop.iterate (.poll (.socket (.received peer datagram))) = some (report, after) ∧
      report.effects = outcome.effects ∧ report.call ≠ .resendLastMessage ∧
      after.protocolHandler = outcome.handler ∧
      after.state = outcome.returned.getD .readyForInput ∧ after.Calm := by
  obtain ⟨after, took, handler, state, calm⟩ := calm.serve open' called
  exact ⟨_, after, took, rfl, by simp, handler, state, calm⟩

variable (named : messageId message = some id) (awaits : loop.protocolHandler.awaitedConirmId = id)
include named awaits

private theorem iterate_settled (sound : loop.protocolHandler.errorSent = false)
    (goes : loop.protocolHandler.awaitingOver = false) :
    ∃ report after, loop.iterate (confirmFrom peer message) = some (report, after) ∧
      report.effects = [] ∧ report.call ≠ .resendLastMessage ∧
      after.protocolHandler = loop.protocolHandler.confirmedBy peer ∧
      after.state = (if loop.protocolHandler.waitingForReply then .waitingForReply
        else .readyForInput) ∧ after.Calm := by
  have read : messageId (confirmFor message).val = some loop.protocolHandler.awaitedConirmId := by
    simp [confirmFor, named, awaits]
  have processed : { loop.protocolHandler with serverAddress := peer }.processReceived
      (confirmFor message).val = some ⟨loop.protocolHandler.confirmedBy peer, [],
        some (if loop.protocolHandler.waitingForReply then .waitingForReply else .readyForInput)⟩ :=
    processReceived_confirm rfl read goes sound
  obtain ⟨report, after, took, effects, call, handler, state, calm⟩ := iterate_received calm open'
    (processServerMessage_of_processReceived processed)
  refine ⟨report, after, took, effects, call, handler, state.trans ?_, calm⟩
  simp [overrule, confirmedBy]

private theorem iterate_closed (ending : loop.protocolHandler.awaitingOver = true) :
    ∃ report after, loop.iterate (confirmFrom peer message) = some (report, after) ∧
      report.effects = [] ∧ report.call ≠ .resendLastMessage ∧ after.state = .over ∧ after.Calm := by
  have processed : { loop.protocolHandler with serverAddress := peer }.processReceived
      (confirmFor message).val = some
        ⟨{ loop.protocolHandler with
            serverAddress := peer, awaitedConirmId := noId, waitingForConfirmation := false }, [],
          some .over⟩ := by
    simp [processReceived, confirmFor, header, processConfirm, readId, named, awaits, ending]
  obtain ⟨report, after, took, effects, call, -, state, calm⟩ := iterate_received calm open'
    (processServerMessage_of_processReceived processed)
  exact ⟨report, after, took, effects, call, state.trans (by simp [overrule]), calm⟩

private theorem iterate_followed (failed : loop.protocolHandler.errorSent = true)
    (goes : loop.protocolHandler.awaitingOver = false) :
    ∃ report after, loop.iterate (confirmFrom peer message) = some (report, after) ∧
      report.effects = [.sendto peer (formByeMessage loop.protocolHandler.renamer3000)] ∧
      report.call ≠ .resendLastMessage ∧
      after.protocolHandler.awaitedConirmId = loop.protocolHandler.renamer3000 ∧
      after.protocolHandler.awaitingOver = true ∧ after.state = .waitingForConfirmation ∧
      after.Calm := by
  have processed : { loop.protocolHandler with serverAddress := peer }.processReceived
      (confirmFor message).val = some
        ⟨{ loop.protocolHandler.track (formByeMessage loop.protocolHandler.renamer3000) with
            serverAddress := peer, errorSent := false, awaitingOver := true },
          [.sendto peer (formByeMessage loop.protocolHandler.renamer3000)],
          some .waitingForConfirmation⟩ := by
    simp [processReceived, confirmFor, header, processConfirm, readId, named, awaits, goes, failed,
      sendBye, track, sendMessage]
  obtain ⟨report, after, took, effects, call, handler, state, calm⟩ := iterate_received calm open'
    (processServerMessage_of_processReceived processed)
  refine ⟨report, after, took, effects, call, ?_, ?_, state.trans (by simp [overrule]), calm⟩
  · rw [handler]
    rfl
  · rw [handler]
    rfl

end Confirms

/-! ## Whole sessions -/

/-- The effects of some turns. -/
def allEffects (turns : List UDPTurn) : List Effect := turns.flatMap fun turn => turn.output.effects

/-- A turn of a session, and the turns of the client that carry it: first it takes what
the event is over UDP, a REPLY naming the datagram sent last, and then the CONFIRMs of
what it sends; and both ends see what the session says. -/
structure CarriedByUDP (peer : SockAddr) (turn : SessionTurn) (block : List UDPTurn) : Prop where
  events : ∃ first confirms, block = first :: confirms ∧
    turn.input.OverUDP peer ((messageId first.before.protocolHandler.lastMessage).getD 0) first.input ∧
    confirms.map Turn.input = (allOriginated block).map (confirmFrom peer)
  seen : List.Forall₂ SeenOverUDP turn.output (visible (allEffects block))

/-- The client between two events of a session. While a request is open it may be
ready all the same: a MSG that comes before the REPLY leaves it so. -/
structure UDPFollows (s : ChatSession) (loop : StreamHandler UDPProtocolHandler) : Prop where
  calm : loop.Calm
  state : loop.state = s.state ∨
    (s.ended = false ∧ s.requested = true ∧ loop.state = .readyForInput)
  handler : s.ended = false → UDPMirrors s loop.protocolHandler

section Session
variable {peer : SockAddr} {loop : StreamHandler UDPProtocolHandler} {after : ChatSession}
  {seen : List Observation} {number : UInt16} {message : ServerMessage} {first : UDPTurn}
  {outcome : Outcome UDPProtocolHandler}

private theorem originated_eq (call : first.output.call ≠ .resendLastMessage) :
    originated first = issued first.output.effects := by
  unfold originated
  split
  · exact absurd ‹_› call
  · rfl

private theorem originated_none (call : first.output.call ≠ .resendLastMessage)
    (quiet : first.output.effects = []) : originated first = [] := by
  rw [originated_eq call, quiet]
  rfl

/-- A session that goes on is carried by a loop that does. -/
theorem UDPFollows.goes (follows : UDPFollows s loop) (runs : s.ended = false) :
    loop.state ≠ .over := by
  rcases follows.state with same | ⟨-, -, ready⟩
  · rw [same, ChatSession.state]
    split
    · simp_all
    · split <;> simp
  · simp [ready]

/-- A session that has ended is carried by a loop that has. -/
theorem UDPFollows.of_over (calm : loop.Calm) (ends : s.ended = true) (reached : loop.state = .over) :
    UDPFollows s loop := by
  refine ⟨calm, .inl ?_, fun goes => ?_⟩
  · rw [reached, ChatSession.state, ends]
    rfl
  · rw [ends] at goes
    cases goes

/-- After `first` the CONFIRMs of everything sent come; both ends have seen `seen` then,
and the client is where the session is. -/
def Completes (peer : SockAddr) (first : UDPTurn) (seen : List Observation) (s : ChatSession) : Prop :=
  ∃ confirms next, exec StreamHandler.iterate first.after
      ((allOriginated (first :: confirms)).map (confirmFrom peer)) = some (confirms, next) ∧
    List.Forall₂ SeenOverUDP seen (visible (allEffects (first :: confirms))) ∧ UDPFollows s next

/-- Nothing was sent. -/
theorem Completes.done (none : originated first = [])
    (shown : List.Forall₂ SeenOverUDP seen (visible first.output.effects))
    (follows : UDPFollows s first.after) : Completes peer first seen s := by
  refine ⟨[], first.after, ?_, ?_, follows⟩
  · simp [allOriginated, none, exec]
  · simpa [allEffects] using shown

/-- One datagram was sent, and after its CONFIRM it completes. -/
theorem Completes.confirm {datagram : Bytes} {report : Report Datagram}
    {next : StreamHandler UDPProtocolHandler} {later : List Observation}
    (sends : originated first = [datagram])
    (took : first.after.iterate (confirmFrom peer datagram) = some (report, next))
    (shown : List.Forall₂ SeenOverUDP seen (visible first.output.effects))
    (completes : Completes peer ⟨first.after, confirmFrom peer datagram, report, next⟩ later s) :
    Completes peer first (seen ++ later) s := by
  obtain ⟨confirms, last, ran, rest, follows⟩ := completes
  refine ⟨⟨first.after, confirmFrom peer datagram, report, next⟩ :: confirms, last, ?_, ?_, follows⟩
  · rw [allOriginated, List.flatMap_cons, sends]
    exact exec_cons took ran
  · rw [allEffects, List.flatMap_cons, visible_append]
    exact List.rel_append shown rest

/-- A BYE was sent: its CONFIRM ends the session. -/
private theorem completes_of_bye {id : UInt16} (open' : first.after.state ≠ .over)
    (calm : first.after.Calm) (sends : originated first = [formByeMessage id])
    (awaits : first.after.protocolHandler.awaitedConirmId = id)
    (ending : first.after.protocolHandler.awaitingOver = true)
    (shown : List.Forall₂ SeenOverUDP seen (visible first.output.effects)) (ends : s.ended = true) :
    Completes peer first seen s := by
  obtain ⟨report, next, took, quiet, noResend, reached, calm⟩ :=
    iterate_closed calm open' messageId_bye awaits ending
  have silent : Completes peer ⟨first.after, confirmFrom peer (formByeMessage id), report, next⟩ [] s :=
    .done (originated_none noResend quiet) (by simp [quiet]) (.of_over calm ends reached)
  simpa using Completes.confirm sends took shown silent

/-- After a call the CONFIRMs come, and the client is where the session is. -/
theorem UDPTakes.settle (takes : UDPTakes result outcome) (first : UDPTurn)
    (effects : first.output.effects = outcome.effects)
    (call : first.output.call ≠ .resendLastMessage)
    (handler : first.after.protocolHandler = outcome.handler)
    (state : first.after.state = outcome.returned.getD .readyForInput) (calm : first.after.Calm) :
    Completes peer first result.1 result.2 := by
  have sends := originated_eq call
  rw [effects] at sends
  cases takes with
  | done seen none mirrors reached =>
    refine .done (sends.trans none) (effects ▸ seen) ⟨calm, ?_, fun goes => handler ▸ mirrors goes⟩
    rw [state]
    exact reached
  | @said datagram id seen runs sent named awaits sound goes mirrors asks waits =>
    have open' : first.after.state ≠ .over := by simp [state, waits]
    rw [← handler] at awaits sound goes asks mirrors
    obtain ⟨report, next, took, quiet, noResend, settled, reached, calm⟩ :=
      iterate_settled calm open' named awaits sound goes
    have follows : UDPFollows result.2 next := by
      refine ⟨calm, .inl ?_, fun _ => settled ▸ mirrors peer⟩
      rw [reached, asks, ChatSession.state, runs]
      rfl
    have silent : Completes peer ⟨first.after, confirmFrom peer datagram, report, next⟩ [] result.2 :=
      .done (originated_none noResend quiet) (by simp [quiet]) follows
    simpa using Completes.confirm (sends.trans sent) took (effects ▸ seen) silent
  | @closing id seen ends sent awaits ending waits =>
    have open' : first.after.state ≠ .over := by
      rw [state]
      exact waits
    rw [← handler] at awaits ending
    exact completes_of_bye open' calm (sends.trans sent) awaits ending (effects ▸ seen) ends
  | @objected address datagram id objects ends shown sent error named awaits failed goes waits =>
    have open' : first.after.state ≠ .over := by simp [state, waits]
    rw [← handler] at awaits failed goes
    obtain ⟨report, middle, took, puts, noResend, bye, ending, waiting, calm⟩ :=
      iterate_followed calm open' named awaits failed goes
    have open' : middle.state ≠ .over := by simp [waiting]
    have follows : originated ⟨first.after, confirmFrom peer datagram, report, middle⟩ =
        [formByeMessage first.after.protocolHandler.renamer3000] := by
      rw [originated_eq noResend, puts]
      exact issued_message (h := { first.after.protocolHandler with serverAddress := peer }) (by simp)
    have shows : List.Forall₂ SeenOverUDP [.speaks .bye] (visible report.effects) := by
      rw [puts]
      exact .cons (.speaks .bye peer _) .nil
    have closing : Completes peer ⟨first.after, confirmFrom peer datagram, report, middle⟩
        [.speaks .bye] result.2 := completes_of_bye open' calm follows bye ending shows ends
    have seen : List.Forall₂ SeenOverUDP [.objects] (visible first.output.effects) := by
      rw [effects, shown]
      exact .cons (.objects address error) .nil
    rw [objects]
    exact Completes.confirm (sends.trans sent) took seen closing

/-- A first turn, with the CONFIRMs after it, carries a turn of the session. -/
theorem UDPTakes.carried {event : SessionEvent} {input : Event Datagram} {report : Report Datagram}
    {next : StreamHandler UDPProtocolHandler} (takes : UDPTakes (seen, after) outcome)
    (is : event.OverUDP peer ((messageId loop.protocolHandler.lastMessage).getD 0) input)
    (took : loop.iterate input = some (report, next)) (effects : report.effects = outcome.effects)
    (call : report.call ≠ .resendLastMessage) (handler : next.protocolHandler = outcome.handler)
    (state : next.state = outcome.returned.getD .readyForInput) (calm : next.Calm) :
    ∃ inputs block last, exec StreamHandler.iterate loop inputs = some (block, last) ∧
      CarriedByUDP peer ⟨s, event, seen, after⟩ block ∧ UDPFollows after last := by
  obtain ⟨confirms, last, ran, shown, follows⟩ :=
    takes.settle ⟨loop, input, report, next⟩ effects call handler state calm
  exact ⟨_, _, last, exec_cons took ran, ⟨⟨_, confirms, rfl, is, map_input_of_exec ran⟩, shown⟩, follows⟩

/-- A line of the user. -/
theorem UDPFollows.typed (follows : UDPFollows s loop) (legal : s.ended = false → s.fsm.Legal)
    (ran : s.step (.line line) = some (seen, after)) :
    ∃ inputs block last, exec StreamHandler.iterate loop inputs = some (block, last) ∧
      CarriedByUDP peer ⟨s, .line line, seen, after⟩ block ∧ UDPFollows after last := by
  simp only [ChatSession.step] at ran
  split at ran
  · cases ran
  rename_i open'
  simp only [not_or, Bool.not_eq_true] at open'
  obtain ⟨runs, free⟩ := open'
  have ready : loop.state = .readyForInput := by
    rcases follows.state with same | ⟨-, -, ready⟩
    · simp [same, ChatSession.state, runs, free]
    · exact ready
  split at ran
  · rename_i empty
    cases ran
    subst empty
    have same : loop.state = s.state := by simp [ready, ChatSession.state, runs, free]
    have takes : UDPTakes ([], s) ⟨loop.protocolHandler, [], some loop.state⟩ :=
      .done .nil rfl follows.handler (.inl same)
    exact takes.carried (.typed []) (follows.calm.enter_nil (follows.goes runs)) rfl (by simp) rfl rfl
      follows.calm
  · rename_i nonempty
    obtain ⟨outcome, called, takes⟩ := (follows.handler runs).processUserInput runs free (legal runs) ran
    exact takes.carried (.typed line) (follows.calm.enter ready nonempty called) rfl (by simp) rfl rfl
      ⟨follows.calm.running, follows.calm.calm⟩

/-- The datagram of a valid message fits the client's buffer. -/
theorem ServerMessage.length_datagram (valid : message.valid = true) (refID : UInt16) :
    (message.datagram number refID).length ≤ 1499 := by
  cases message with
  | reply accepted content =>
    have short := (checkField_iff.mp valid).2.1
    simp only [datagram, header, List.length_append, List.length_cons, List.length_nil]
    omega
  | message name content | error name content =>
    simp only [ServerMessage.valid, Bool.and_eq_true] at valid
    have named := (checkField_iff.mp valid.1.1).2.1
    have short := (checkField_iff.mp valid.2).2.1
    simp only [datagram, header, List.length_append, List.length_cons, List.length_nil]
    omega
  | bye => simp [datagram, header]

/-- A datagram of the server. -/
theorem UDPFollows.arrives (follows : UDPFollows s loop) (legal : s.ended = false → s.fsm.Legal)
    (ran : s.step (.server number message) = some (seen, after)) :
    ∃ inputs block last, exec StreamHandler.iterate loop inputs = some (block, last) ∧
      CarriedByUDP peer ⟨s, .server number message, seen, after⟩ block ∧ UDPFollows after last := by
  simp only [ChatSession.step] at ran
  split at ran
  · cases ran
  rename_i open'
  simp only [not_or, Bool.not_eq_true, Bool.not_eq_false] at open'
  obtain ⟨runs, fresh, valid⟩ := open'
  have mirrors := follows.handler runs
  let refID := (messageId loop.protocolHandler.lastMessage).getD 0
  have names (requested : s.requested = true) :
      messageId loop.protocolHandler.lastMessage = some refID := by
    simp only [refID, mirrors.answers requested, Option.getD_some]
  obtain ⟨outcome, called, takes⟩ := mirrors.processServerMessage runs (legal runs) fresh peer
    ⟨_, ServerMessage.length_datagram valid refID⟩ valid rfl names ran
  obtain ⟨report, next, took, effects, call, handler, state, calm⟩ :=
    iterate_received follows.calm (follows.goes runs) called
  exact takes.carried (.arrived rfl) took effects call handler state calm

/-- Every turn of a session is carried by some turns of the client. -/
theorem UDPFollows.step {event : SessionEvent} (follows : UDPFollows s loop)
    (legal : s.ended = false → s.fsm.Legal) (ran : s.step event = some (seen, after)) :
    ∃ inputs block last, exec StreamHandler.iterate loop inputs = some (block, last) ∧
      CarriedByUDP peer ⟨s, event, seen, after⟩ block ∧ UDPFollows after last := by
  cases event with
  | line line => exact follows.typed legal ran
  | server number message => exact follows.arrives legal ran

/-- The client before its first iteration. -/
theorem UDPFollows.start (server : SockAddr) (retries : UInt8) :
    UDPFollows {} (StreamHandler.start (create server) retries) :=
  ⟨⟨rfl, by simp [StreamHandler.start]⟩, .inl rfl,
    fun _ => ⟨rfl, rfl, rfl, rfl, rfl, rfl, by simp, by simp [StreamHandler.start, create]⟩⟩

end Session

end ChatClient
