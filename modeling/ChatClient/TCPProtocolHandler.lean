import ChatClient.FSMValidate
import ChatClient.Library.Framing
import ChatClient.StreamHandler
import ChatClient.TCPMessageValidator

/-! `TCPProtocolHandler`: a byte stream in, lines and display out. The static
buffer of `process_server_message` outlives its calls, so the client is the
handler together with that buffer. -/

namespace ChatClient

open TCPMessageValidator Framing

/-- The handler's fields. -/
structure TCPProtocolHandler where
  fsm : FSMValidate := {}
  waitingForReply : Bool := false
  messageValidator : TCPMessageValidator := {}
  deriving DecidableEq, Repr

/-- A line handed to `process_received`, the handler that took it and what came
of it. -/
structure Handed where
  before : TCPProtocolHandler
  line : Bytes
  outcome : Outcome TCPProtocolHandler
  deriving DecidableEq, Repr

/-- What comes back of a call that runs off the end of `process_received` is not
determined: READY_FOR_INPUT, or a value that is none of the states. This says for which
handlers and lines it is such a value. -/
abbrev RunOff := TCPProtocolHandler → Bytes → Bool

/-- It is always READY_FOR_INPUT. -/
@[reducible] def RunOff.ready : RunOff := fun _ _ => false

/-- The state the event loop goes by if the line is the last one. To the event loop a
value that is none of the states is as good as READY_FOR_INPUT. -/
def Handed.state (handed : Handed) : ClientState := handed.outcome.returned.getD .readyForInput

/-- The inner loop is left: something else than READY_FOR_INPUT has come back. -/
def Handed.leaves (runOff : RunOff) (handed : Handed) : Bool :=
  match handed.outcome.returned with
  | some state => decide (state ≠ .readyForInput)
  | none => runOff handed.before handed.line

/-- What one `recv` takes off the stream. -/
abbrev Chunk := { bytes : Bytes // bytes ≠ [] ∧ bytes.length ≤ 1499 }

/-- What `recv` delivers: after some number of errors the end of the stream or a
chunk of it. -/
structure Recv where
  errors : Nat := 0
  chunk : Option Chunk
  deriving DecidableEq

namespace TCPProtocolHandler

variable (h : TCPProtocolHandler)

/-! ## Lines from the server -/

/-- The end of every error branch: an ERR in the name of `user`, a BYE, and the
session is over. -/
def failWith (user : Bytes) (error : String) : Outcome TCPProtocolHandler :=
  ⟨h, [.send (text "ERR FROM " ++ user ++ text " IS " ++ text error ++ crlf),
    .send (text "BYE" ++ crlf)], some .over⟩

/-- The MSG branch of `process_received`. `user` is assigned only once the machine
has accepted the message. -/
def processMessage (message : Bytes) : Option (Outcome TCPProtocolHandler) := do
  let (reaction, fsm) ← h.fsm.validateAction .messageServer
  let h := { h with fsm := fsm }
  if reaction = .any then
    let ((response, user), success) := h.messageValidator.validateMessageServer message
    if success then
      some ⟨h, [.messageFromServer user response],
        some (if h.waitingForReply then .waitingForReply else .readyForInput)⟩
    else some (h.failWith user "Invalid message format")
  else if reaction = .errorUser then
    some (h.failWith [] "You cannot send messages at this state")
  else some ⟨h, [], some .readyForInput⟩

/-- A REPLY of either result: the result decides what the machine is asked and how
the content is shown. A `pop_back` on an empty content leaves it empty. -/
def processReply (message : Bytes) (action : Action) (shown : Bytes → Effect) :
    Option (Outcome TCPProtocolHandler) := do
  let (reaction, fsm) ← h.fsm.validateAction action
  let h := { h with fsm := fsm }
  if reaction = .any then
    let (response, success) := (validateReply message).getD ([], false)
    if success then
      if h.waitingForReply then
        some ⟨{ h with waitingForReply := false }, [shown response], some .readyForInput⟩
      else some ⟨h, [], some .readyForInput⟩
    else some (h.failWith h.messageValidator.getDisplayName "Invalid reply format")
  else if reaction = .errorUser then
    some (h.failWith h.messageValidator.getDisplayName "You cannot send replies at this state")
  else some ⟨h, [], none⟩

/-- The ERR branch of `process_received`. -/
def processError (message : Bytes) : Option (Outcome TCPProtocolHandler) := do
  let (reaction, fsm) ← h.fsm.validateAction .errorServer
  let h := { h with fsm := fsm }
  if reaction = .any then
    let ((content, dname), success) := validateErrorServer message
    if success then
      some ⟨h, [.errorFromServer dname content, .send (text "BYE" ++ crlf)], some .over⟩
    else some (h.failWith h.messageValidator.getDisplayName "Invalid error message")
  else if reaction = .errorUser then
    some (h.failWith h.messageValidator.getDisplayName "You cannot send errors at this state")
  else some ⟨h, [], none⟩

/-- The BYE branch of `process_received`. -/
def processBye : Option (Outcome TCPProtocolHandler) := do
  let (reaction, fsm) ← h.fsm.validateAction .byeServer
  let h := { h with fsm := fsm }
  if reaction = .any then some ⟨h, [], some .over⟩
  else if reaction = .errorUser then
    some (h.failWith h.messageValidator.getDisplayName "You cannot send BYE at this state")
  else some ⟨h, [], none⟩

/-- The last branch of `process_received`: no known command. -/
def processUnknown : Outcome TCPProtocolHandler :=
  ⟨h, [.internalErrorMessage (text "Invalid command"),
    .send (h.messageValidator.formErrorMessage (text "Invalid command")),
    .send (text "BYE" ++ crlf)], some .over⟩

/-- `process_received`: the first word selects the branch. A REPLY that is neither
OK nor NOK runs off the end of the function. -/
def processReceived (message : Bytes) : Option (Outcome TCPProtocolHandler) :=
  let parts := splitMessage message
  let command := upper (parts.headD [])
  let okNok := upper (parts.getD 1 [])
  if command = text "MSG" then h.processMessage message
  else if command = text "REPLY" then
    if okNok = text "OK" then h.processReply message .replyServer .replySuccess
    else if okNok = text "NOK" then h.processReply message .nreplyServer .replyError
    else some ⟨h, [], none⟩
  else if command = text "ERR" then h.processError message
  else if command = text "BYE" then h.processBye
  else some h.processUnknown

/-- The inner loop of `process_server_message`: every complete line of the buffer
is handed over, up to one for which something else than READY_FOR_INPUT comes
back. Each turn takes at least the delimiter off the buffer, so the length
of the buffer is fuel enough. -/
def handLines (runOff : RunOff) : Nat → TCPProtocolHandler → Bytes → Option (List Handed × Bytes)
  | 0, _, buffer => some ([], buffer)
  | fuel + 1, h, buffer =>
    match find crlf buffer with
    | none => some ([], buffer)
    | some pos => do
      let message := buffer.take pos
      let buffer := buffer.drop (pos + 2)
      let outcome ← h.processReceived message
      let handed : Handed := ⟨h, message, outcome⟩
      if handed.leaves runOff then some ([handed], buffer)
      else do
        let (rest, buffer) ← handLines runOff fuel outcome.handler buffer
        some (handed :: rest, buffer)

/-! ## Lines from the user -/

/-- A rejected command: the reason is printed and the client stays ready. -/
def reject (reason : Bytes) : Outcome TCPProtocolHandler :=
  ⟨h, [.internalErrorMessage reason], some .readyForInput⟩

/-- `/auth`. The arguments are validated twice; the first pass already takes the
display name, and the second one finds the same. -/
def processAuth (argument : Bytes) : Option (Outcome TCPProtocolHandler) := do
  let (reaction, fsm) ← h.fsm.validateAction .authorizeUser
  let h := { h with fsm := fsm }
  if reaction = .any then
    let (messageValidator, response, _) := h.messageValidator.authorizeValidate argument
    let (messageValidator, _, success) := messageValidator.authorizeValidate argument
    let h := { h with messageValidator := messageValidator }
    if success then
      some ⟨{ h with waitingForReply := true }, [.send response], some .waitingForReply⟩
    else some (h.reject response)
  else if reaction = .warnClient then
    some (h.reject (text "You are not authorized to authorize at this state!"))
  else some ⟨h, [], none⟩

/-- `/join`. -/
def processJoin (argument : Bytes) : Option (Outcome TCPProtocolHandler) := do
  let (reaction, fsm) ← h.fsm.validateAction .joinUser
  let h := { h with fsm := fsm }
  if reaction = .any then
    let (response, success) := h.messageValidator.joinValidate argument
    if success then
      some ⟨{ h with waitingForReply := true }, [.send response], some .waitingForReply⟩
    else some (h.reject response)
  else if reaction = .warnClient then
    some (h.reject (text "You are not authorized to join at this state!"))
  else some ⟨h, [], none⟩

/-- `/rename`. The branch of an accepted name has no `return`. -/
def processRename (argument : Bytes) : Outcome TCPProtocolHandler :=
  let (messageValidator, success) := h.messageValidator.rename argument
  let h := { h with messageValidator := messageValidator }
  if !success then h.reject (text "Invalid display name format") else ⟨h, [], none⟩

/-- A line that is no command. -/
def processText (message : Bytes) : Option (Outcome TCPProtocolHandler) :=
  if message.head? = some 0x2F then
    some (h.reject (text "Invalid command"))
  else do
    let (reaction, fsm) ← h.fsm.validateAction .messageUser
    let h := { h with fsm := fsm }
    if reaction = .any then
      let (response, success) := h.messageValidator.messageValidate message
      if success then some ⟨h, [.send response], some .readyForInput⟩
      else some (h.reject response)
    else if reaction = .warnClient then
      some (h.reject (text "You are not authorized to send a message at this state!"))
    else some ⟨h, [], some .readyForInput⟩

/-- `process_user_input`. -/
def processUserInput (message : Bytes) : Option (Outcome TCPProtocolHandler) :=
  if message = text "/exit" then some ⟨h, [.send (text "BYE" ++ crlf)], some .over⟩
  else
    let command := commandOf message
    let argument := argumentOf message
    if command = text "/AUTH" then h.processAuth argument
    else if command = text "/JOIN" then h.processJoin argument
    else if command = text "/RENAME" then some (h.processRename argument)
    else if command = text "/HELP" then some ⟨h, [.printHelp], some .readyForInput⟩
    else h.processText message

end TCPProtocolHandler

/-- The handler and the static buffer, in a build in which calls run off as `runOff`
says. -/
structure TCPClient (runOff : RunOff := .ready) where
  handler : TCPProtocolHandler := {}
  buffer : Bytes := []
  deriving DecidableEq, Repr

namespace TCPClient

variable {runOff : RunOff} (client : TCPClient runOff)

/-- The lines one call hands over, and the client it leaves. -/
def handOver (chunk : Bytes) : Option (List Handed × TCPClient runOff) := do
  let buffer := client.buffer ++ chunk
  let (handed, rest) ← client.handler.handLines runOff buffer.length buffer
  some (handed, ⟨(handed.getLast?.map fun last => last.outcome.handler).getD client.handler, rest⟩)

/-- `process_server_message`. What it returns is what came back for the last line
handed over: something else than READY_FOR_INPUT has ended the inner loop. -/
def processServerMessage (received : Recv) : Option (Outcome (TCPClient runOff)) :=
  let errors := List.replicate received.errors (.perror (text "recv"))
  match received.chunk with
  | none => some ⟨client, errors ++ [.serverClosedConnection], some .over⟩
  | some chunk => do
    let (handed, client) ← client.handOver chunk.val
    some ⟨client, errors ++ handed.flatMap fun line => line.outcome.effects,
      some ((handed.getLast?.map Handed.state).getD .readyForInput)⟩

/-- `process_user_input`, which leaves the buffer alone. -/
def processUserInput (message : Bytes) : Option (Outcome (TCPClient runOff)) := do
  let outcome ← client.handler.processUserInput message
  some ⟨{ client with handler := outcome.handler }, outcome.effects, outcome.returned⟩

instance : ProtocolHandler (TCPClient runOff) Recv where
  processServerMessage := processServerMessage
  processUserInput := processUserInput
  -- not used in the TCP protocol
  resendLastMessage _ := []

end TCPClient

end ChatClient
