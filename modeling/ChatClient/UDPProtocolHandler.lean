import ChatClient.FSMValidate
import ChatClient.StreamHandler
import ChatClient.UDPMessageValidator

/-! `UDPProtocolHandler`: datagrams in, datagrams and display out. Each branch of
`process_received` and `process_user_input` is a definition of its own. A branch
is undefined where the source subscripts past the end of the datagram or where
the state machine is. -/

namespace ChatClient

open UDPMessageValidator

/-- The handler's fields. The IDs are `uint16_t`, so the `-1` the source assigns
to mean "nothing awaited" is the ID 65535. -/
structure UDPProtocolHandler where
  fsm : FSMValidate := {}
  serverAddress : SockAddr
  receivedIds : List UInt16 := []
  awaitedConirmId : UInt16 := 0
  awaitedReplyId : UInt16 := 0
  renamer3000 : UInt16 := 0
  waitingForReply : Bool := false
  lastMessage : Bytes := []
  errorSent : Bool := false
  awaitingOver : Bool := false
  waitingForConfirmation : Bool := false
  errorWhileWaiting : Bool := false
  errorMessage : Bytes := []
  messageValidator : UDPMessageValidator := {}
  deriving DecidableEq, Repr

namespace UDPProtocolHandler

/-- `-1` stored in a `uint16_t`. -/
def noId : UInt16 := 0 - 1

/-- What `recvfrom` yields: an error, or the sender's address and the bytes. -/
inductive Datagram where
  | failed
  | received (fromAddr : SockAddr) (message : RecvBuffer)
  deriving DecidableEq

variable (h : UDPProtocolHandler)

/-- `send_message`. -/
def sendMessage (message : Bytes) : Effect := .sendto h.serverAddress message

/-- `send_confirmation`. -/
def sendConfirmation (messageID : UInt16) : Effect := h.sendMessage (header 0x00 messageID)

/-- `resend_last_message`. -/
def resendLastMessage : List Effect := [h.sendMessage h.lastMessage]

/-- `id_lookup`. -/
def idLookup (id : UInt16) : Bool := h.receivedIds.any fun i => i == id

/-- The bookkeeping every send site repeats for a datagram built with
`renamer3000`: its ID is awaited, its bytes are kept, the counter moves on. -/
def track (response : Bytes) : UDPProtocolHandler :=
  { h with
    awaitedConirmId := h.renamer3000
    lastMessage := response
    renamer3000 := h.renamer3000 + 1 }

/-- A BYE: it is sent and tracked, and its confirmation ends the session. -/
def sendBye : UDPProtocolHandler × List Effect :=
  let response := formByeMessage h.renamer3000
  ({ h.track response with awaitingOver := true }, [h.sendMessage response])

/-- `send_error_message`: put off while a datagram is unconfirmed. -/
def sendErrorMessage (error : Bytes) : UDPProtocolHandler × List Effect :=
  if h.waitingForConfirmation then
    ({ h with errorMessage := error, errorWhileWaiting := true }, [])
  else
    let response := formErrorMessage h.renamer3000 h.messageValidator.getDisplayName error
    ({ h.track response with errorSent := true, waitingForConfirmation := true },
      [h.sendMessage response])

/-- The end of every error branch: the error goes out, after `confirmation`, and
the state returned is WAITING_FOR_CONFIRMATION. -/
def failWith (confirmation : List Effect) (error : String) : Outcome UDPProtocolHandler :=
  let (handler, effects) := h.sendErrorMessage (text error)
  ⟨handler, confirmation ++ effects, some .waitingForConfirmation⟩

/-! ## Datagrams from the server -/

/-- The CONFIRM branch of `process_received`. -/
def processConfirm (message : Bytes) : Option (Outcome UDPProtocolHandler) := do
  let messageID ← readId message 1
  if messageID = h.awaitedConirmId then
    let h := { h with awaitedConirmId := noId }
    if h.awaitingOver then
      -- the BYE is confirmed, the connection is over
      some ⟨{ h with waitingForConfirmation := false }, [], some .over⟩
    else if h.errorSent then
      -- the ERR is confirmed, a BYE follows it
      let (handler, effects) := { h with errorSent := false }.sendBye
      some ⟨handler, effects, some .waitingForConfirmation⟩
    else if h.waitingForReply then
      some ⟨{ h with waitingForReply := false, waitingForConfirmation := false }, [],
        some .waitingForReply⟩
    else
      some ⟨{ h with waitingForConfirmation := false }, [], some .readyForInput⟩
  else
    some ⟨h, [], some .waitingForConfirmation⟩

/-- What an accepted REPLY comes to, for either result: shown and closed when it
answers `awaited_reply_id`, else only confirmed. The two results differ in what
they show and in the state they return when nothing was awaited. -/
def settleReply (messageID refID : UInt16) (shown : Effect) (ignored : ClientState) :
    Outcome UDPProtocolHandler :=
  if refID = h.awaitedReplyId then
    ⟨{ h with
        receivedIds := h.receivedIds ++ [messageID]
        waitingForReply := false
        awaitedReplyId := noId },
      [shown, h.sendConfirmation messageID], some .readyForInput⟩
  else ⟨h, [h.sendConfirmation messageID], some ignored⟩

/-- The REPLY branch once the state machine was asked: accepted, refused, or
neither, where control runs off the end of the function. -/
def concludeReply (messageID refID : UInt16) (action : Action) (shown : Effect)
    (ignored : ClientState) (error : String) : Option (Outcome UDPProtocolHandler) := do
  let (reaction, fsm) ← h.fsm.validateAction action
  let h := { h with fsm := fsm }
  if reaction = .any then
    some (h.settleReply messageID refID shown ignored)
  else if reaction = .errorUser then
    some (h.failWith [h.sendConfirmation messageID] error)
  else some ⟨h, [], none⟩

/-- The REPLY branch of `process_received`. -/
def processReply (message : Bytes) : Option (Outcome UDPProtocolHandler) :=
  if message.length < 6 then
    some (h.failWith [] "Unexpected reply message format")
  else do
    let messageID ← readId message 1
    let status ← message[3]?
    let refID ← readId message 4
    let (response, success) := parseAndValidate (message.drop 6) "reply"
    if success then do
      let content ← response[0]?
      if status = 0x00 then
        h.concludeReply messageID refID .nreplyServer (.replyError content) .waitingForReply
          "Invalid state for negative reply message"
      else if status = 0x01 then
        h.concludeReply messageID refID .replyServer (.replySuccess content) .readyForInput
          "Invalid state for positive reply message"
      else
        some (h.failWith [h.sendConfirmation messageID] "Invalid reply message format")
    else some (h.failWith [] "Invalid content in reply message")

/-- The MSG branch of `process_received`. -/
def processMessage (message : Bytes) : Option (Outcome UDPProtocolHandler) :=
  if message.length < 3 then
    some (h.failWith [] "Unexpected message format")
  else do
    let messageID ← readId message 1
    let (response, success) := parseAndValidate (message.drop 3) "msg"
    if success then do
      let (reaction, fsm) ← h.fsm.validateAction .messageServer
      let h := { h with fsm := fsm }
      if reaction = .any then
        if h.idLookup messageID then
          some ⟨h, [h.sendConfirmation messageID], some .readyForInput⟩
        else do
          let dname ← response[0]?
          let content ← response[1]?
          some ⟨{ h with receivedIds := h.receivedIds ++ [messageID] },
            [h.sendConfirmation messageID, .messageFromServer dname content], some .readyForInput⟩
      else some (h.failWith [] "Invalid state for message message")
    else some (h.failWith [] "Invalid content in message")

/-- The ERR branch of `process_received`. A repeated ERR sets
`waiting_for_confirmation` with its BYE; a first one does not. -/
def processError (message : Bytes) : Option (Outcome UDPProtocolHandler) :=
  if message.length < 4 then
    some (h.failWith [] "Unexpected error message format")
  else do
    let messageID ← readId message 1
    let (response, success) := parseAndValidate (message.drop 3) "err"
    if success then do
      let (reaction, fsm) ← h.fsm.validateAction .errorServer
      let h := { h with fsm := fsm }
      if reaction = .any then
        if h.idLookup messageID then
          let (handler, effects) := h.sendBye
          some ⟨{ handler with waitingForConfirmation := true },
            h.sendConfirmation messageID :: effects, some .waitingForConfirmation⟩
        else do
          let dname ← response[0]?
          let content ← response[1]?
          let (handler, effects) :=
            { h with receivedIds := h.receivedIds ++ [messageID] }.sendBye
          some ⟨handler,
            h.sendConfirmation messageID :: .errorFromServer dname content :: effects,
            some .readyForInput⟩
      else some (h.failWith [h.sendConfirmation messageID] "Invalid state for error message")
    else some (h.failWith [h.sendConfirmation messageID] "Invalid content in error message")

/-- The BYE branch of `process_received`. -/
def processBye (message : Bytes) : Option (Outcome UDPProtocolHandler) :=
  if message.length < 3 then
    some (h.failWith [] "Unexpected bye message format")
  else do
    let messageID ← readId message 1
    some ⟨{ h with receivedIds := h.receivedIds ++ [messageID] },
      [h.sendConfirmation messageID], some .over⟩

/-- The last branch of `process_received`: no known type. -/
def processUnknown (message : Bytes) : Option (Outcome UDPProtocolHandler) :=
  if message.length < 3 then
    some (h.failWith [] "Unexpected format")
  else do
    let messageID ← readId message 1
    some (h.failWith [h.sendConfirmation messageID] "Unexpected format")

/-- `process_received`: the first byte selects the branch. -/
def processReceived (message : Bytes) : Option (Outcome UDPProtocolHandler) := do
  let firstByte ← message[0]?
  if firstByte = 0x00 then h.processConfirm message
  else if firstByte = 0x01 then h.processReply message
  else if firstByte = 0x04 then h.processMessage message
  else if firstByte = 0xFE then h.processError message
  else if firstByte = 0xFF then h.processBye message
  else h.processUnknown message

/-- While `waiting_for_confirmation` is set, that is the state returned. -/
def overrule (outcome : Outcome UDPProtocolHandler) : Outcome UDPProtocolHandler :=
  { outcome with
    returned :=
      if outcome.handler.waitingForConfirmation then some .waitingForConfirmation
      else outcome.returned }

/-- `process_server_message`. The flag decides over what `process_received`
returned. -/
def processServerMessage : Datagram → Option (Outcome UDPProtocolHandler)
  | .failed => some ⟨h, [.perror (text "recvfrom failed")], some .over⟩
  | .received fromAddr message =>
    ({ h with serverAddress := fromAddr }.processReceived message.val).map overrule

/-! ## Lines from the user -/

/-- A rejected command: the reason is printed and the client stays ready. -/
def reject (reason : Bytes) : Outcome UDPProtocolHandler :=
  ⟨h, [.internalErrorMessage reason], some .readyForInput⟩

/-- The end of a successful command: the datagram goes out and is waited for. -/
def sendRequest (response : Bytes) : Outcome UDPProtocolHandler :=
  ⟨{ h.track response with waitingForConfirmation := true }, [h.sendMessage response],
    some .waitingForConfirmation⟩

/-- `/exit`. -/
def processExit : Outcome UDPProtocolHandler :=
  let (handler, effects) := h.sendBye
  ⟨{ handler with waitingForConfirmation := true }, effects, some .waitingForConfirmation⟩

/-- `/auth`. The arguments come as user name, secret and display name, and are
sent in the order user name, display name, secret. -/
def processAuth (argument : Bytes) : Option (Outcome UDPProtocolHandler) := do
  let (reaction, fsm) ← h.fsm.validateAction .authorizeUser
  let h := { h with fsm := fsm }
  if reaction = .any then
    match splitMessage argument with
    | [username, secret, deename] =>
      let (messageValidator, response, success) :=
        h.messageValidator.authorizeValidate 0x02 h.renamer3000 username deename secret
      let h := { h with messageValidator := messageValidator }
      if success then
        some ({ h with waitingForReply := true, awaitedReplyId := h.renamer3000 }.sendRequest response)
      else some (h.reject response)
    | _ => some (h.reject (text "Invalid message format"))
  else if reaction = .warnClient then
    some (h.reject (text "You are not authorized to authorize at this state!"))
  else some ⟨h, [], none⟩

/-- `/join`. -/
def processJoin (argument : Bytes) : Option (Outcome UDPProtocolHandler) := do
  let (reaction, fsm) ← h.fsm.validateAction .joinUser
  let h := { h with fsm := fsm }
  if reaction = .any then
    match splitMessage argument with
    | [channel] =>
      let (response, success) := h.messageValidator.joinValidate 0x03 h.renamer3000 channel
      if success then
        some ({ h with waitingForReply := true, awaitedReplyId := h.renamer3000 }.sendRequest response)
      else some (h.reject response)
    | _ => some (h.reject (text "Invalid message format"))
  else if reaction = .warnClient then
    some (h.reject (text "You are not authorized to join at this state!"))
  else some ⟨h, [], none⟩

/-- `/rename`. The branch of an accepted name has no `return`. -/
def processRename (argument : Bytes) : Outcome UDPProtocolHandler :=
  let (messageValidator, success) := h.messageValidator.rename argument
  let h := { h with messageValidator := messageValidator }
  if !success then h.reject (text "Invalid display name format") else ⟨h, [], none⟩

/-- A line that is no command. -/
def processText (message : Bytes) : Option (Outcome UDPProtocolHandler) :=
  if message.head? = some 0x2F then
    some (h.reject (text "Invalid command"))
  else do
    let (reaction, fsm) ← h.fsm.validateAction .messageUser
    let h := { h with fsm := fsm }
    if reaction = .any then
      let (response, success) := h.messageValidator.messageValidate 0x04 h.renamer3000 message
      if success then
        some ({ h with waitingForReply := false, awaitedReplyId := noId }.sendRequest response)
      else some (h.reject response)
    else if reaction = .warnClient then
      some (h.reject (text "You are not authorized to send a message at this state!"))
    else some ⟨h, [], none⟩

/-- `process_user_input`. -/
def processUserInput (message : Bytes) : Option (Outcome UDPProtocolHandler) :=
  if message = text "/exit" then some h.processExit
  else if h.errorWhileWaiting then
    let (handler, effects) := h.sendErrorMessage h.errorMessage
    some ⟨handler, effects, some .waitingForConfirmation⟩
  else
    let command := commandOf message
    let argument := argumentOf message
    if command = text "/AUTH" then h.processAuth argument
    else if command = text "/JOIN" then h.processJoin argument
    else if command = text "/RENAME" then some (h.processRename argument)
    else if command = text "/HELP" then some ⟨h, [.printHelp], some .readyForInput⟩
    else h.processText message

instance : ProtocolHandler UDPProtocolHandler Datagram where
  processServerMessage := processServerMessage
  processUserInput := processUserInput
  resendLastMessage := resendLastMessage

/-- The handler `StreamHandler` creates. -/
def create (serverAddress : SockAddr) : UDPProtocolHandler := { serverAddress := serverAddress }

end UDPProtocolHandler

end ChatClient
