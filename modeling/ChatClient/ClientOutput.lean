import ChatClient.Library.Separated
import ChatClient.Startup
import ChatClient.TCPInjection
import ChatClient.UDPDecoders

/-! What the user gets to see: the functions of `ClientOutput`, and what the client
prints besides.

Nothing a server sends reaches the terminal but in a field that passed its check, so
every line printed is plain text, whatever arrives. Over TCP, where names are words,
the two outputs can also be read back: no server finds a message that looks like
another, or like something the client says of itself. -/

namespace ChatClient

open Transition Separated Framing

/-! ## The functions of ClientOutput -/

/-- What `std::endl` puts behind a line. -/
def endl : Bytes := text "\n"

namespace ClientOutput

/-- `message_from_server`. -/
def messageFromServer (username message : Bytes) : List Printed :=
  [.cout (username ++ text ": " ++ message ++ endl)]

/-- `internal_error_message`. -/
def internalErrorMessage (message : Bytes) : List Printed :=
  [.cerr (text "ERR: " ++ message ++ endl)]

/-- The lines of the help. -/
def helpLines : List Bytes :=
  [text "Available commands:",
    text "/auth <id> <secret> <dname> - Authorize the user",
    text "/join <id> - Join the chat",
    text "/rename <dname> - Change the display name",
    text "/help - Print this help message",
    text "<message> - Send a message to the chat"]

/-- `print_help`. -/
def printHelp : List Printed := helpLines.map fun line => .cout (line ++ endl)

/-- `error_from_server`. -/
def errorFromServer (username message : Bytes) : List Printed :=
  [.cerr (text "ERR FROM " ++ username ++ text ": " ++ message ++ endl)]

/-- `reply_success`. -/
def replySuccess (message : Bytes) : List Printed :=
  [.cerr (text "Success: " ++ message ++ endl)]

/-- `reply_error`. -/
def replyError (message : Bytes) : List Printed :=
  [.cerr (text "Failure: " ++ message ++ endl)]

end ClientOutput

/-- Printable characters and nothing else. -/
def PlainText (bytes : Bytes) : Prop := ∀ c ∈ bytes, isprint c = true

/-- What an effect prints. `perror` adds the reason the system gives, a text of
printable characters. -/
def Effect.Prints : Effect → List Printed → Prop
  | .sendto _ _, lines | .send _, lines => lines = []
  | .messageFromServer username message, lines =>
    lines = ClientOutput.messageFromServer username message
  | .internalErrorMessage message, lines => lines = ClientOutput.internalErrorMessage message
  | .printHelp, lines => lines = ClientOutput.printHelp
  | .errorFromServer username message, lines =>
    lines = ClientOutput.errorFromServer username message
  | .replySuccess message, lines => lines = ClientOutput.replySuccess message
  | .replyError message, lines => lines = ClientOutput.replyError message
  | .perror call, lines =>
    ∃ reason, PlainText reason ∧ lines = [.cerr (call ++ text ": " ++ reason ++ endl)]
  | .serverClosedConnection, lines => lines = [.cout (text "Server closed the connection" ++ endl)]

/-- What some effects print, one after the other. -/
def Transcript (effects : List Effect) (lines : List Printed) : Prop :=
  ∃ blocks, List.Forall₂ Effect.Prints effects blocks ∧ lines = blocks.flatten

/-- The effects of a run. -/
def effectsIn {H Received : Type} (history : List (Turn H Received)) : List Effect :=
  history.flatMap fun turn => turn.output.effects

/-! ## What the clients show -/

/-- The complaints of either client about a line of the user, and that of the TCP client
about a line it does not know. -/
def complaints : List Bytes :=
  [text "Invalid message format", text "Invalid ID format", text "Invalid secret format",
    text "Invalid display name format", text "Invalid content format", text "Invalid command",
    text "ERROR Invalid username, display name or secret",
    text "ERROR Invalid channel or display name while joining", text "ERROR Invalid content",
    text "You are not authorized to authorize at this state!",
    text "You are not authorized to join at this state!",
    text "You are not authorized to send a message at this state!"]

/-- The effects of a client: what comes from the server has passed its check, of which
`named` is the one for names, and everything else is a text of the code. -/
inductive Checked (named : Bytes → Prop) : Effect → Prop where
  | sendto {address : SockAddr} {message : Bytes} : Checked named (.sendto address message)
  | send {message : Bytes} : Checked named (.send message)
  | message {username message : Bytes} (name : named username) (content : IsContent message) :
      Checked named (.messageFromServer username message)
  | error {username message : Bytes} (name : named username) (content : IsContent message) :
      Checked named (.errorFromServer username message)
  | success {message : Bytes} (content : IsContent message) : Checked named (.replySuccess message)
  | failure {message : Bytes} (content : IsContent message) : Checked named (.replyError message)
  | complaint {reason : Bytes} (fixed : reason ∈ complaints) :
      Checked named (.internalErrorMessage reason)
  | help : Checked named .printHelp
  | system {call : Bytes} (known : call ∈ [text "poll", text "recv", text "recvfrom failed"]) :
      Checked named (.perror call)
  | closed : Checked named .serverClosedConnection

section Checked
variable {named : Bytes → Prop} {effect only : Effect} {line message argument : Bytes} {id : UInt16}

private theorem checked_of_single (checked : Checked named only) (member : effect ∈ [only]) :
    Checked named effect := by
  rw [List.mem_singleton.mp member]
  exact checked

private theorem checked_of_warned {H : Type} {rejected quiet outcome : Outcome H} {warned : Prop}
    [Decidable warned] {reason : Bytes}
    (ran : (if warned then some rejected else some quiet) = some outcome)
    (complains : rejected.effects = [.internalErrorMessage reason]) (fixed : reason ∈ complaints)
    (silent : quiet.effects = []) (member : effect ∈ outcome.effects) : Checked named effect := by
  split at ran
  · cases ran
    rw [complains] at member
    exact checked_of_single (.complaint fixed) member
  · cases ran
    rw [silent] at member
    cases member

private theorem checked_of_validated {H : Type} {sends rejected outcome : Outcome H} {success : Bool}
    {reason : Bytes} (ran : (if success then some sends else some rejected) = some outcome)
    (message : sends.effects = [only]) (checked : Checked named only)
    (complains : rejected.effects = [.internalErrorMessage reason])
    (fixed : success = false → reason ∈ complaints) (member : effect ∈ outcome.effects) :
    Checked named effect := by
  split at ran
  · cases ran
    rw [message] at member
    exact checked_of_single checked member
  · rename_i refused
    cases ran
    rw [complains] at member
    exact checked_of_single (.complaint (fixed (by simpa using refused))) member

/-! The complaints of the validators. -/

/-- What a validator answers instead of a message is a complaint. -/
def Complains (answer : Bytes × Bool) : Prop := answer.2 = false → answer.1 ∈ complaints

private theorem complains_of_accepted (message : Bytes) : Complains (message, true) := by
  intro refused
  cases refused

private theorem complains_of_check {α : Type} {refuses : Bool} {refusal next : α}
    (answer : α → Bytes × Bool)
    (complains : Complains (answer refusal)) (rest : Complains (answer next)) :
    Complains (answer (if refuses then refusal else next)) := by
  cases refuses with
  | true => exact complains
  | false => exact rest

private theorem TCPMessageValidator.authorizeValidate_complains {validator : TCPMessageValidator} :
    Complains (validator.authorizeValidate argument).2 := by
  have format : Complains (text "Invalid message format", false) := fun _ => by simp [complaints]
  unfold authorizeValidate
  rcases splitMessage argument with _ | ⟨id, _ | ⟨secret, _ | ⟨dname, _ | ⟨more, rest⟩⟩⟩⟩
  case cons.cons.cons.nil =>
    refine complains_of_check Prod.snd (fun _ => by simp [complaints]) ?_
    refine complains_of_check Prod.snd (fun _ => by simp [complaints]) ?_
    exact complains_of_check Prod.snd (fun _ => by simp [complaints]) (complains_of_accepted _)
  all_goals exact format

private theorem TCPMessageValidator.joinValidate_complains {validator : TCPMessageValidator} :
    Complains (validator.joinValidate argument) := by
  have format : Complains (text "Invalid message format", false) := fun _ => by simp [complaints]
  unfold joinValidate
  rcases splitMessage argument with _ | ⟨channel, _ | ⟨more, rest⟩⟩
  case cons.nil =>
    exact complains_of_check (fun answer => answer) (fun _ => by simp [complaints])
      (complains_of_accepted _)
  all_goals exact format

private theorem TCPMessageValidator.messageValidate_complains {validator : TCPMessageValidator} :
    Complains (validator.messageValidate argument) :=
  complains_of_check (fun answer => answer) (fun _ => by simp [complaints]) (complains_of_accepted _)

private theorem UDPMessageValidator.authorizeValidate_complains {validator : UDPMessageValidator}
    {username deename secret : Bytes} :
    Complains (validator.authorizeValidate 0x02 id username deename secret).2 :=
  complains_of_check Prod.snd (fun _ => by simp [complaints]) (complains_of_accepted _)

private theorem UDPMessageValidator.joinValidate_complains {validator : UDPMessageValidator} :
    Complains (validator.joinValidate 0x03 id argument) :=
  complains_of_check (fun answer => answer) (fun _ => by simp [complaints]) (complains_of_accepted _)

private theorem UDPMessageValidator.messageValidate_complains {validator : UDPMessageValidator} :
    Complains (validator.messageValidate 0x04 id argument) :=
  complains_of_check (fun answer => answer) (fun _ => by simp [complaints]) (complains_of_accepted _)

end Checked

/-! ## The effects of the TCP client -/

namespace TCPProtocolHandler

open TCPMessageValidator

variable {h : TCPProtocolHandler} {line argument : Bytes} {outcome : Outcome TCPProtocolHandler}
  {effect : Effect}

theorem Receipt.checked (receipt : Receipt h line outcome) (member : effect ∈ outcome.effects) :
    Checked IsDname effect := by
  cases receipt with
  | shown _ _ valid =>
    obtain ⟨_, _, _, -, -, -, name, content, -⟩ := validateMessageServer_iff.mp valid
    exact checked_of_single (.message name content) member
  | reply reply _ valid =>
    obtain ⟨_, _, _, -, -, -, content, -⟩ := validateReply_iff.mp valid
    cases reply with
    | positive => exact checked_of_single (.success content) member
    | negative => exact checked_of_single (.failure content) member
  | errorShown _ _ valid =>
    obtain ⟨_, _, _, -, -, -, name, content, -⟩ := validateErrorServer_iff.mp valid
    rcases List.mem_cons.mp member with rfl | member
    · exact .error name content
    · exact checked_of_single .send member
  | failed =>
    simp only [failWith, List.mem_cons, List.not_mem_nil, or_false] at member
    rcases member with rfl | rfl <;> exact .send
  | unknown =>
    simp only [processUnknown, List.mem_cons, List.not_mem_nil, or_false] at member
    rcases member with rfl | rfl | rfl
    · exact .complaint (by simp [complaints])
    · exact .send
    · exact .send
  | ignored | bye | undecided | nameless => cases member

private theorem processAuth_checked (ran : h.processAuth argument = some outcome)
    (member : effect ∈ outcome.effects) : Checked IsDname effect := by
  obtain ⟨⟨reaction, fsm⟩, -, ran⟩ := Option.bind_eq_some_iff.mp ran
  simp only [authorizeValidate_again] at ran
  split at ran
  · exact checked_of_validated ran rfl .send rfl authorizeValidate_complains member
  · exact checked_of_warned ran rfl (by simp [complaints]) rfl member

private theorem processJoin_checked (ran : h.processJoin argument = some outcome)
    (member : effect ∈ outcome.effects) : Checked IsDname effect := by
  obtain ⟨⟨reaction, fsm⟩, -, ran⟩ := Option.bind_eq_some_iff.mp ran
  simp only at ran
  split at ran
  · exact checked_of_validated ran rfl .send rfl joinValidate_complains member
  · exact checked_of_warned ran rfl (by simp [complaints]) rfl member

private theorem processRename_checked (member : effect ∈ (h.processRename argument).effects) :
    Checked IsDname effect := by
  unfold processRename at member
  simp only at member
  split at member
  · exact checked_of_single (.complaint (by simp [complaints])) member
  · cases member

private theorem processText_checked (ran : h.processText line = some outcome)
    (member : effect ∈ outcome.effects) : Checked IsDname effect := by
  unfold processText at ran
  split at ran
  · cases ran
    exact checked_of_single (.complaint (by simp [complaints])) member
  obtain ⟨⟨reaction, fsm⟩, -, ran⟩ := Option.bind_eq_some_iff.mp ran
  simp only at ran
  split at ran
  · exact checked_of_validated ran rfl .send rfl messageValidate_complains member
  · exact checked_of_warned ran rfl (by simp [complaints]) rfl member

private theorem processUserInput_checked (ran : h.processUserInput line = some outcome)
    (member : effect ∈ outcome.effects) : Checked IsDname effect := by
  simp only [processUserInput] at ran
  split at ran
  · cases ran
    exact checked_of_single .send member
  cases dispatched_of_eq ran with
  | auth _ ran => exact processAuth_checked ran member
  | join _ ran => exact processJoin_checked ran member
  | rename _ ran =>
    cases ran
    exact processRename_checked member
  | help _ ran =>
    cases ran
    exact checked_of_single .help member
  | plain _ _ _ _ ran => exact processText_checked ran member

end TCPProtocolHandler

private theorem checked_of_recv {named : Bytes → Prop} {errors : Nat} {effect : Effect}
    (member : effect ∈ List.replicate errors (Effect.perror (text "recv"))) :
    Checked named effect := by
  rw [List.eq_of_mem_replicate member]
  exact .system (by simp)

private theorem tcp_checked {retries : UInt8} {history : List TCPTurn}
    {loop : StreamHandler TCPClient}
    {effect : Effect} (run : TCPRun retries history loop) (member : effect ∈ effectsIn history) :
    Checked IsDname effect := by
  refine run.invariant (I := fun history _ => ∀ effect ∈ effectsIn history, Checked IsDname effect)
    (by simp [effectsIn]) (fun {history loop event report after} run before ran effect member => ?_)
    effect member
  rw [effectsIn, List.flatMap_append, List.flatMap_singleton, List.mem_append] at member
  rcases member with old | new
  · exact before effect old
  obtain ⟨-, iteration⟩ := tcpIteration_of_iterate (tcpRun_settled run) ran
  cases iteration with
  | lines hands taken =>
    rcases List.mem_append.mp new with failed | shown
    · exact checked_of_recv failed
    · obtain ⟨handed, held, shows⟩ := List.mem_flatMap.mp shown
      have called := (taken.mem (tcpRun_settled run) handed held).2
      exact (TCPProtocolHandler.receipt_of_processReceived called).checked shows
  | closed =>
    rcases List.mem_append.mp new with failed | ends
    · exact checked_of_recv failed
    · exact checked_of_single .closed ends
  | command called => exact TCPProtocolHandler.processUserInput_checked called new
  | idle _ silent =>
    rcases silent with rfl | rfl
    · cases new
    · exact checked_of_single (.system (by simp)) new

/-! ## The effects of the UDP client -/

namespace UDPProtocolHandler

open UDPMessageValidator

variable {h : UDPProtocolHandler} {line message argument : Bytes} {outcome : Outcome UDPProtocolHandler}
  {effect : Effect}

private theorem checked_of_body {dname content : Bytes} {type : String}
    (named : type = "msg" ∨ type = "err")
    (body : parseAndValidate (message.drop 3) type = ([dname, content], true)) :
    PrintedName dname ∧ IsContent content := by
  have body : parseAndValidate (message.drop 3) "msg" = ([dname, content], true) := by
    rcases named with rfl | rfl
    · exact body
    · exact body
  obtain ⟨_, _, _, shape, name, text, -⟩ := parseAndValidate_msg_iff.mp body
  cases shape
  exact ⟨name, text⟩

theorem Receipt.checked (receipt : Receipt h message outcome) (member : effect ∈ outcome.effects) :
    Checked PrintedName effect := by
  cases receipt with
  | byeConfirmed | confirmed | stray | undecided => cases member
  | errorConfirmed | repeated | bye => exact checked_of_single .sendto member
  | errorRepeated =>
    simp only [List.mem_cons, List.not_mem_nil, or_false] at member
    rcases member with rfl | rfl <;> exact .sendto
  | shown _ _ body =>
    simp only [List.mem_cons, List.not_mem_nil, or_false] at member
    obtain ⟨name, content⟩ := checked_of_body (.inl rfl) body
    rcases member with rfl | rfl
    · exact .sendto
    · exact .message name content
  | errorShown _ _ body =>
    simp only [List.mem_cons, List.not_mem_nil, or_false] at member
    obtain ⟨name, content⟩ := checked_of_body (.inr rfl) body
    rcases member with rfl | rfl | rfl
    · exact .sendto
    · exact .error name content
    · exact .sendto
  | reply decodes =>
    obtain ⟨_, _, shape, content, -⟩ := parseAndValidate_reply_iff.mp decodes.body
    cases shape
    unfold settleReply at member
    split at member
    · obtain ⟨_, -, result⟩ := decodes.result
      rcases List.mem_cons.mp member with rfl | member
      · cases result with
        | negative => exact .failure content
        | positive => exact .success content
      · exact checked_of_single .sendto member
    · exact checked_of_single .sendto member
  | failed _ _ _ confirms =>
    obtain ⟨m, rfl⟩ := mem_failWith confirms member
    exact .sendto

private theorem processAuth_checked (ran : h.processAuth argument = some outcome)
    (member : effect ∈ outcome.effects) : Checked PrintedName effect := by
  obtain ⟨⟨reaction, fsm⟩, -, ran⟩ := Option.bind_eq_some_iff.mp ran
  simp only at ran
  split at ran
  · split at ran
    · exact checked_of_validated ran rfl .sendto rfl authorizeValidate_complains member
    · cases ran
      exact checked_of_single (.complaint (by simp [complaints])) member
  · exact checked_of_warned ran rfl (by simp [complaints]) rfl member

private theorem processJoin_checked (ran : h.processJoin argument = some outcome)
    (member : effect ∈ outcome.effects) : Checked PrintedName effect := by
  obtain ⟨⟨reaction, fsm⟩, -, ran⟩ := Option.bind_eq_some_iff.mp ran
  simp only at ran
  split at ran
  · split at ran
    · exact checked_of_validated ran rfl .sendto rfl joinValidate_complains member
    · cases ran
      exact checked_of_single (.complaint (by simp [complaints])) member
  · exact checked_of_warned ran rfl (by simp [complaints]) rfl member

private theorem processRename_checked (member : effect ∈ (h.processRename argument).effects) :
    Checked PrintedName effect := by
  unfold processRename at member
  simp only at member
  split at member
  · exact checked_of_single (.complaint (by simp [complaints])) member
  · cases member

private theorem processText_checked (ran : h.processText line = some outcome)
    (member : effect ∈ outcome.effects) : Checked PrintedName effect := by
  unfold processText at ran
  split at ran
  · cases ran
    exact checked_of_single (.complaint (by simp [complaints])) member
  obtain ⟨⟨reaction, fsm⟩, -, ran⟩ := Option.bind_eq_some_iff.mp ran
  simp only at ran
  split at ran
  · exact checked_of_validated ran rfl .sendto rfl messageValidate_complains member
  · exact checked_of_warned ran rfl (by simp [complaints]) rfl member

private theorem processUserInput_checked (ran : h.processUserInput line = some outcome)
    (member : effect ∈ outcome.effects) : Checked PrintedName effect := by
  simp only [processUserInput] at ran
  split at ran
  · cases ran
    exact checked_of_single .sendto member
  split at ran
  · cases ran
    rw [mem_sendErrorMessage member]
    exact .sendto
  cases dispatched_of_eq ran with
  | auth _ ran => exact processAuth_checked ran member
  | join _ ran => exact processJoin_checked ran member
  | rename _ ran =>
    cases ran
    exact processRename_checked member
  | help _ ran =>
    cases ran
    exact checked_of_single .help member
  | plain _ _ _ _ ran => exact processText_checked ran member

end UDPProtocolHandler

private theorem udp_checked {server : SockAddr} {retries : UInt8} {history : List UDPTurn}
    {loop : StreamHandler UDPProtocolHandler} {effect : Effect}
    (run : UDPRun server retries history loop) (member : effect ∈ effectsIn history) :
    Checked PrintedName effect := by
  refine run.invariant (I := fun history _ => ∀ effect ∈ effectsIn history, Checked PrintedName effect)
    (by simp [effectsIn]) (fun {history loop event report after} run before ran effect member => ?_)
    effect member
  rw [effectsIn, List.flatMap_append, List.flatMap_singleton, List.mem_append] at member
  rcases member with old | new
  · exact before effect old
  obtain ⟨-, iteration⟩ := udpIteration_of_iterate ran
  cases iteration with
  | received called => exact (UDPProtocolHandler.receipt_of_processReceived called).checked new
  | lost => exact checked_of_single (.system (by simp)) new
  | command called => exact UDPProtocolHandler.processUserInput_checked called new
  | resend => exact checked_of_single .sendto new
  | giveUp => cases new
  | idle silent =>
    rcases silent with rfl | rfl
    · cases new
    · exact checked_of_single (.system (by simp)) new

/-! ## Plain text -/

/-- The bytes of a line, on either output. -/
def Printed.line : Printed → Bytes
  | .cout line | .cerr line => line

/-- A line of printable characters, and the newline that ends it. -/
def PlainLine (line : Bytes) : Prop := ∃ body, line = body ++ endl ∧ PlainText body

/-- The lines an effect puts on `std::cout`, without their newlines. -/
def Effect.cout : Effect → List Bytes
  | .messageFromServer username message => [username ++ text ": " ++ message]
  | .printHelp => ClientOutput.helpLines
  | .serverClosedConnection => [text "Server closed the connection"]
  | _ => []

/-- The line an effect puts on `std::cerr`, without its newline. -/
inductive Effect.Cerr : Effect → Bytes → Prop where
  | complaint {reason : Bytes} : Cerr (.internalErrorMessage reason) (text "ERR: " ++ reason)
  | error {username message : Bytes} :
      Cerr (.errorFromServer username message) (text "ERR FROM " ++ (username ++ text ": " ++ message))
  | success {message : Bytes} : Cerr (.replySuccess message) (text "Success: " ++ message)
  | failure {message : Bytes} : Cerr (.replyError message) (text "Failure: " ++ message)
  | system {call reason : Bytes} (plain : PlainText reason) :
      Cerr (.perror call) (call ++ (text ": " ++ reason))

/-- The effects that show on `std::cout`. -/
def Effect.onCout : Effect → Bool
  | .messageFromServer _ _ | .printHelp | .serverClosedConnection => true
  | _ => false

/-- The effects that show on `std::cerr`. -/
def Effect.onCerr : Effect → Bool
  | .internalErrorMessage _ | .errorFromServer _ _ | .replySuccess _ | .replyError _ | .perror _ => true
  | _ => false

section Plain
variable {named : Bytes → Prop} {effect : Effect} {effects : List Effect} {lines : List Printed}
  {first second body : Bytes}

/-- What an effect prints: its lines on the one output, and at most one on the other. -/
theorem lines_of_prints (prints : effect.Prints lines) :
    ∃ bodies, lines = (effect.cout.map fun body => .cout (body ++ endl)) ++
        bodies.map (fun body => .cerr (body ++ endl)) ∧
      ((effect.onCerr = false ∧ bodies = []) ∨
        (effect.onCerr = true ∧ ∃ body, effect.Cerr body ∧ bodies = [body])) := by
  cases effect with
  | perror call =>
    obtain ⟨reason, plain, rfl⟩ := prints
    exact ⟨_, by simp [Effect.cout], .inr ⟨rfl, _, .system plain, rfl⟩⟩
  | sendto | send | messageFromServer | printHelp | serverClosedConnection =>
    cases prints
    exact ⟨[], rfl, .inl ⟨rfl, rfl⟩⟩
  | internalErrorMessage =>
    cases prints
    exact ⟨_, rfl, .inr ⟨rfl, _, .complaint, rfl⟩⟩
  | errorFromServer =>
    cases prints
    exact ⟨_, by simp [ClientOutput.errorFromServer, Effect.cout], .inr ⟨rfl, _, .error, rfl⟩⟩
  | replySuccess =>
    cases prints
    exact ⟨_, rfl, .inr ⟨rfl, _, .success, rfl⟩⟩
  | replyError =>
    cases prints
    exact ⟨_, rfl, .inr ⟨rfl, _, .failure, rfl⟩⟩

private theorem plainText_append : PlainText (first ++ second) ↔ PlainText first ∧ PlainText second :=
  List.forall_mem_append

private theorem plainText_of_isContent (content : IsContent first) : PlainText first :=
  fun c member => isprint_iff.mpr (content.2.2 c member)

private theorem plainText_of_printedName (name : PrintedName first) : PlainText first :=
  fun c member => isprint_iff.mpr (name.2.2 c member)

private theorem plainText_of_isDname (name : IsDname first) : PlainText first :=
  plainText_of_printedName (isDname_iff_printedName.mp name).1

private theorem plainText_text {literal : String}
    (plain : literal.toList.all (fun c => 0x20 ≤ c.toNat && c.toNat ≤ 0x7E) = true) :
    PlainText (text literal) := by
  intro c member
  obtain ⟨letter, held, rfl⟩ := List.mem_map.mp member
  have bounds := List.all_eq_true.mp plain letter held
  simp only [Bool.and_eq_true, decide_eq_true_eq] at bounds
  rw [isprint_iff, UInt8.le_iff_toNat_le, UInt8.le_iff_toNat_le, UInt8.toNat_ofNat_of_lt' (by
    simp only [UInt8.size]
    omega)]
  exact bounds

private theorem plainText_of_complaint (fixed : first ∈ complaints) : PlainText first := by
  have all : ∀ reason ∈ complaints, ∀ c ∈ reason, isprint c = true := by
    decide +kernel
  exact all first fixed

private theorem plainText_of_helpLine (line : first ∈ ClientOutput.helpLines) : PlainText first := by
  have all : ∀ helpLine ∈ ClientOutput.helpLines, ∀ c ∈ helpLine, isprint c = true := by
    decide +kernel
  exact all first line

private theorem plainText_prefixed {literal : String}
    (plain : literal.toList.all (fun c => 0x20 ≤ c.toNat && c.toNat ≤ 0x7E) = true)
    (rest : PlainText second) : PlainText (text literal ++ second) :=
  plainText_append.mpr ⟨plainText_text plain, rest⟩

private theorem plainText_spoken (name : PlainText first) (content : IsContent second) :
    PlainText (first ++ text ": " ++ second) := by
  rw [List.append_assoc]
  exact plainText_append.mpr ⟨name, plainText_prefixed rfl (plainText_of_isContent content)⟩

/-- A checked effect puts plain lines on the one output. -/
theorem Checked.cout_plain (checked : Checked named effect)
    (names : ∀ name, named name → PlainText name) (member : body ∈ effect.cout) :
    PlainText body := by
  cases checked with
  | message name content =>
    rw [List.mem_singleton.mp member]
    exact plainText_spoken (names _ name) content
  | help => exact plainText_of_helpLine member
  | closed =>
    rw [List.mem_singleton.mp member]
    exact plainText_text rfl
  | sendto | send | error | success | failure | complaint | system => cases member

private theorem Checked.cerr_plain (checked : Checked named effect)
    (names : ∀ name, named name → PlainText name) (appears : effect.Cerr body) :
    PlainText body := by
  cases appears with
  | complaint =>
    cases checked with
    | complaint fixed => exact plainText_prefixed rfl (plainText_of_complaint fixed)
  | error =>
    cases checked with
    | error name content => exact plainText_prefixed rfl (plainText_spoken (names _ name) content)
  | success =>
    cases checked with
    | success content => exact plainText_prefixed rfl (plainText_of_isContent content)
  | failure =>
    cases checked with
    | failure content => exact plainText_prefixed rfl (plainText_of_isContent content)
  | system plain =>
    cases checked with
    | system known =>
      refine plainText_append.mpr ⟨?_, plainText_prefixed rfl plain⟩
      simp only [List.mem_cons, List.not_mem_nil, or_false] at known
      rcases known with rfl | rfl | rfl
      all_goals exact plainText_text rfl

/-- What a client prints of a checked effect is plain. -/
theorem Checked.plain (checked : Checked named effect)
    (names : ∀ name, named name → PlainText name) (prints : effect.Prints lines) :
    ∀ printed ∈ lines, PlainLine printed.line := by
  obtain ⟨bodies, rfl, errors⟩ := lines_of_prints prints
  intro printed member
  rcases List.mem_append.mp member with out | err
  · obtain ⟨body, held, rfl⟩ := List.mem_map.mp out
    exact ⟨body, rfl, checked.cout_plain names held⟩
  · obtain ⟨body, held, rfl⟩ := List.mem_map.mp err
    rcases errors with ⟨-, rfl⟩ | ⟨-, only, appears, rfl⟩
    · cases held
    · rw [List.mem_singleton.mp held]
      exact ⟨only, rfl, checked.cerr_plain names appears⟩

/-- So is the transcript of checked effects. -/
theorem Transcript.plain (transcript : Transcript effects lines)
    (checked : ∀ effect ∈ effects, Checked named effect)
    (names : ∀ name, named name → PlainText name) :
    ∀ printed ∈ lines, PlainLine printed.line := by
  obtain ⟨blocks, prints, rfl⟩ := transcript
  induction prints with
  | nil => exact List.forall_mem_nil _
  | cons first _ ih =>
    rw [List.flatten_cons]
    refine List.forall_mem_append.mpr ⟨?_, ih fun effect member => checked effect (.tail _ member)⟩
    exact (checked _ (.head _)).plain names first

end Plain

/-- **Plain output.** Whatever a server sends and the user types, either client prints
lines of printable characters only. -/
theorem output_plain {lines : List Printed} :
    (∀ retries history loop, TCPRun retries history loop → Transcript (effectsIn history) lines →
      ∀ printed ∈ lines, PlainLine printed.line) ∧
    (∀ server retries history loop, UDPRun server retries history loop →
      Transcript (effectsIn history) lines → ∀ printed ∈ lines, PlainLine printed.line) := by
  constructor
  · intro retries history loop run transcript
    exact transcript.plain (fun _ => tcp_checked run) fun _ => plainText_of_isDname
  · intro server retries history loop run transcript
    exact transcript.plain (fun _ => udp_checked run) fun _ => plainText_of_printedName

/-- What both clients print of a reply and a MSG. -/
theorem output_plain_hi : ∃ tcp udp tcpLoop udpLoop, TCPRun 3 tcp tcpLoop ∧
    UDPRun localServer 3 udp udpLoop ∧
    Transcript (effectsIn tcp) [.cerr (text "Success: ok\n"), .cout (text "a: hi\n")] ∧
    Transcript (effectsIn udp) [.cerr (text "Success: ok\n"), .cout (text "a: hi\n")] ∧
    PlainLine (text "Success: ok\n") ∧ PlainLine (text "a: hi\n") := by
  have tcp : tcpSample [enters "/auth a b c",
    streams (piece "REPLY OK IS ok\r\nMSG FROM a IS hi\r\n")] = some (_, _) := rfl
  have udp : sample [types "/auth a b c", arrives [0x00, 0, 0],
    arrives [0x01, 0, 5, 1, 0, 0, 0x6F, 0x6B, 0],
    arrives [0x04, 0, 6, 0x61, 0, 0x68, 0x69, 0]] = some (_, _) := rfl
  have printedTcp : Transcript [.send (text "AUTH a AS c USING b\r\n"), .replySuccess (text "ok"),
      .messageFromServer (text "a") (text "hi")]
      [.cerr (text "Success: ok\n"), .cout (text "a: hi\n")] :=
    ⟨[[], [_], [_]], .cons rfl (.cons rfl (.cons rfl .nil)), rfl⟩
  have printedUdp : Transcript [.sendto localServer [0x02, 0, 0, 0x61, 0, 0x63, 0, 0x62, 0],
      .replySuccess (text "ok"), .sendto localServer [0x00, 0, 5],
      .sendto localServer [0x00, 0, 6], .messageFromServer (text "a") (text "hi")]
      [.cerr (text "Success: ok\n"), .cout (text "a: hi\n")] :=
    ⟨[[], [_], [], [], [_]], .cons rfl (.cons rfl (.cons rfl (.cons rfl (.cons rfl .nil)))), rfl⟩
  have ranTcp := Run.of_exec tcp
  have ranUdp := Run.of_exec udp
  exact ⟨_, _, _, _, ranTcp, ranUdp, printedTcp, printedUdp,
    output_plain.1 _ _ _ ranTcp printedTcp _ (.head _),
    output_plain.2 _ _ _ _ ranUdp printedUdp _ (.tail _ (.head _))⟩

/-! ## Reading the outputs back -/

/-- The lines on `std::cout`. -/
def Printed.out : Printed → Option Bytes
  | .cout line => some line
  | .cerr _ => none

/-- The lines on `std::cerr`. -/
def Printed.err : Printed → Option Bytes
  | .cout _ => none
  | .cerr line => some line

/-- What is written to `std::cout`. -/
def stdout (lines : List Printed) : Bytes := (lines.filterMap Printed.out).flatten

/-- What is written to `std::cerr`. -/
def stderr (lines : List Printed) : Bytes := (lines.filterMap Printed.err).flatten

section ReadBack
variable {effect other : Effect} {effects others : List Effect} {lines more : List Printed}
  {first second name body : Bytes}

private theorem stdout_append : stdout (lines ++ more) = stdout lines ++ stdout more := by
  rw [stdout, List.filterMap_append, List.flatten_append]
  rfl

private theorem stderr_append : stderr (lines ++ more) = stderr lines ++ stderr more := by
  rw [stderr, List.filterMap_append, List.flatten_append]
  rfl

private theorem stdout_of_prints (prints : effect.Prints lines) :
    stdout lines = join endl effect.cout := by
  obtain ⟨bodies, rfl, -⟩ := lines_of_prints prints
  have silent : stdout (bodies.map fun body => .cerr (body ++ endl)) = [] := by
    simp [stdout, List.filterMap_map, Function.comp_def, Printed.out]
  rw [stdout_append, silent, List.append_nil, join, List.flatMap_def, stdout, List.filterMap_map]
  simp [Function.comp_def, Printed.out]

private theorem stderr_of_prints (prints : effect.Prints lines) :
    (effect.onCerr = false ∧ stderr lines = []) ∨
      (effect.onCerr = true ∧ ∃ body, effect.Cerr body ∧ stderr lines = body ++ endl) := by
  obtain ⟨bodies, rfl, errors⟩ := lines_of_prints prints
  have silent : stderr (effect.cout.map fun body => .cout (body ++ endl)) = [] := by
    simp [stderr, List.filterMap_map, Function.comp_def, Printed.err]
  rw [stderr_append, silent, List.nil_append]
  rcases errors with ⟨quiet, rfl⟩ | ⟨loud, body, appears, rfl⟩
  · exact .inl ⟨quiet, rfl⟩
  · exact .inr ⟨loud, body, appears, by simp [stderr, Printed.err]⟩

private theorem cout_of_hidden (hidden : effect.onCout = false) : effect.cout = [] := by
  cases effect <;> first | rfl | cases hidden

private theorem stdout_of_transcript (transcript : Transcript effects lines) :
    stdout lines = join endl ((effects.filter Effect.onCout).flatMap Effect.cout) := by
  obtain ⟨blocks, prints, rfl⟩ := transcript
  induction prints with
  | nil => rfl
  | @cons effect block effects blocks first _ ih =>
    rw [List.flatten_cons, stdout_append, ih, stdout_of_prints first]
    by_cases visible : effect.onCout = true
    · rw [List.filter_cons_of_pos visible, List.flatMap_cons, join_append]
    · rw [List.filter_cons_of_neg visible, cout_of_hidden (by simpa using visible)]
      rfl

private theorem stderr_of_transcript (transcript : Transcript effects lines) :
    ∃ bodies, List.Forall₂ Effect.Cerr (effects.filter Effect.onCerr) bodies ∧
      stderr lines = join endl bodies := by
  obtain ⟨blocks, prints, rfl⟩ := transcript
  induction prints with
  | nil => exact ⟨[], .nil, rfl⟩
  | @cons effect block effects blocks first _ ih =>
    obtain ⟨bodies, each, whole⟩ := ih
    rw [List.flatten_cons, stderr_append, whole]
    rcases stderr_of_prints first with ⟨silent, none⟩ | ⟨loud, body, appears, one⟩
    · rw [List.filter_cons_of_neg (by simp [silent]), none]
      exact ⟨bodies, each, rfl⟩
    · rw [List.filter_cons_of_pos loud, one]
      exact ⟨body :: bodies, .cons appears each, by simp⟩

private theorem first_word_inj {rest tail : Bytes} (free : space ∉ first) (freeToo : space ∉ second)
    (same : first ++ space :: rest = second ++ space :: tail) : first = second ∧ rest = tail := by
  have parts := congrArg (List.splitOn space) same
  rw [List.splitOn_append_cons_self_of_not_mem free,
    List.splitOn_append_cons_self_of_not_mem freeToo] at parts
  obtain rfl := (List.cons.inj parts).1
  exact ⟨rfl, (List.cons.inj (List.append_cancel_left same)).2⟩

/-- A name that is a word, and what is said in that name, can be told from the line. -/
theorem spoken_inj {username other message content : Bytes} (name : IsDname username)
    (another : IsDname other)
    (same : username ++ text ": " ++ message = other ++ text ": " ++ content) :
    username = other ∧ message = content := by
  have colon (word rest : Bytes) : word ++ text ": " ++ rest = (word ++ [0x3A]) ++ space :: rest := by
    rw [List.append_assoc, List.append_assoc]
    rfl
  have free {word : Bytes} (name : IsDname word) : space ∉ word ++ [0x3A] := by
    simpa [space] using (isDname_iff_printedName.mp name).2
  rw [colon, colon] at same
  obtain ⟨words, rest⟩ := first_word_inj (free name) (free another) same
  exact ⟨List.append_cancel_right words, rest⟩

/-- The effect a line on `std::cout` begins, given its first word and what follows it. -/
inductive Opens : Bytes → Bytes → Effect → Prop where
  | message {username message : Bytes} (name : IsDname username) :
      Opens (username ++ [0x3A]) message (.messageFromServer username message)
  | help : Opens (text "Available") (text "commands:") .printHelp
  | closed : Opens (text "Server") (text "closed the connection") .serverClosedConnection

private theorem opens_of_cout (checked : Checked IsDname effect) (visible : effect.onCout = true) :
    ∃ word rest, Opens word rest effect ∧ effect.cout.head? = some (word ++ space :: rest) := by
  cases checked with
  | message name => exact ⟨_, _, .message name, by simp [Effect.cout]; rfl⟩
  | help => exact ⟨_, _, .help, rfl⟩
  | closed => exact ⟨_, _, .closed, rfl⟩
  | sendto | send | error | success | failure | complaint | system => cases visible

theorem Opens.free {word rest : Bytes} (opens : Opens word rest effect) : space ∉ word := by
  cases opens with
  | message name => simpa [space] using (isDname_iff_printedName.mp name).2
  | help | closed => decide

/-- No name ends like a word the client begins a line with. -/
theorem Opens.unique {word rest : Bytes} (opens : Opens word rest effect)
    (again : Opens word rest other) : effect = other := by
  have colon {username fixed : Bytes} (other : fixed.getLast? ≠ some 0x3A)
      (same : username ++ [0x3A] = fixed) : False := by
    rw [← same] at other
    simp at other
  generalize same : word = begun at again
  cases opens with
  | message =>
    cases again with
    | message =>
      rw [List.append_cancel_right same]
    | help => exact (colon (by decide) same).elim
    | closed => exact (colon (by decide) same).elim
  | help =>
    cases again with
    | message => exact (colon (by decide) same.symm).elim
    | help => rfl
  | closed =>
    cases again with
    | message => exact (colon (by decide) same.symm).elim
    | closed => rfl

private theorem cout_heads (checked : Checked IsDname effect) (visible : effect.onCout = true)
    (checkedToo : Checked IsDname other) (visibleToo : other.onCout = true)
    (same : effect.cout.head? = other.cout.head?) : effect = other := by
  obtain ⟨word, rest, opens, shape⟩ := opens_of_cout checked visible
  obtain ⟨another, tail, again, another_shape⟩ := opens_of_cout checkedToo visibleToo
  rw [shape, another_shape, Option.some.injEq] at same
  obtain ⟨rfl, rfl⟩ := first_word_inj opens.free again.free same
  exact opens.unique again

/-- The kinds of lines on `std::cerr`. -/
inductive Kind where
  | complaint | error | success | failure | poll | recv | recvfrom
  deriving DecidableEq

/-- The first word of a line of the kind. -/
def Kind.word : Kind → Bytes
  | .complaint => text "ERR:"
  | .error => text "ERR"
  | .success => text "Success:"
  | .failure => text "Failure:"
  | .poll => text "poll:"
  | .recv => text "recv:"
  | .recvfrom => text "recvfrom"

/-- The effect a line of the kind stands for, given what follows the first word. -/
inductive Reads : Kind → Bytes → Effect → Prop where
  | complaint {rest : Bytes} : Reads .complaint rest (.internalErrorMessage rest)
  | error {username message : Bytes} (name : IsDname username) :
      Reads .error (text "FROM " ++ (username ++ text ": " ++ message)) (.errorFromServer username message)
  | success {rest : Bytes} : Reads .success rest (.replySuccess rest)
  | failure {rest : Bytes} : Reads .failure rest (.replyError rest)
  | poll {rest : Bytes} : Reads .poll rest (.perror (text "poll"))
  | recv {rest : Bytes} : Reads .recv rest (.perror (text "recv"))
  | recvfrom {rest : Bytes} : Reads .recvfrom rest (.perror (text "recvfrom failed"))

private theorem Kind.space_not_mem_word (kind : Kind) : space ∉ kind.word := by
  cases kind <;> decide

/-- The kind a first word stands for. -/
def Kind.ofWord (word : Bytes) : Option Kind :=
  [.complaint, .error, .success, .failure, .poll, .recv, .recvfrom].find? fun kind => kind.word = word

private theorem Kind.ofWord_word (kind : Kind) : ofWord kind.word = some kind := by
  cases kind <;> rfl

private theorem Kind.word_inj {kind other : Kind} (same : kind.word = other.word) : kind = other := by
  have known := ofWord_word other
  rw [← same, ofWord_word] at known
  exact Option.some.inj known

private theorem reads_of_cerr (checked : Checked IsDname effect) (appears : effect.Cerr body) :
    ∃ kind rest, Reads kind rest effect ∧ body = Kind.word kind ++ space :: rest := by
  cases appears with
  | complaint => exact ⟨_, _, .complaint, rfl⟩
  | error =>
    cases checked with
    | error name => exact ⟨_, _, .error name, rfl⟩
  | success => exact ⟨_, _, .success, rfl⟩
  | failure => exact ⟨_, _, .failure, rfl⟩
  | system =>
    cases checked with
    | system known =>
      simp only [List.mem_cons, List.not_mem_nil, or_false] at known
      rcases known with rfl | rfl | rfl
      · exact ⟨_, _, .poll, rfl⟩
      · exact ⟨_, _, .recv, rfl⟩
      · exact ⟨_, text "failed: " ++ _, .recvfrom, rfl⟩

private theorem Reads.unique {kind : Kind} {rest : Bytes} (reads : Reads kind rest effect)
    (again : Reads kind rest other) : effect = other := by
  generalize same : rest = tail at again
  cases reads with
  | error name =>
    cases again with
    | error another =>
      obtain ⟨rfl, rfl⟩ := spoken_inj name another (List.append_cancel_left same)
      rfl
  | complaint | success | failure | poll | recv | recvfrom =>
    cases again
    subst same
    rfl

private theorem cerr_unique (checked : Checked IsDname effect) (checkedToo : Checked IsDname other)
    (appears : effect.Cerr body) (appearsToo : other.Cerr body) : effect = other := by
  obtain ⟨kind, rest, reads, shape⟩ := reads_of_cerr checked appears
  obtain ⟨another, tail, again, same⟩ := reads_of_cerr checkedToo appearsToo
  obtain ⟨words, rfl⟩ := first_word_inj kind.space_not_mem_word another.space_not_mem_word
    (shape.symm.trans same)
  cases Kind.word_inj words
  exact reads.unique again

private theorem newline_not_mem (plain : PlainText body) : 0x0A ∉ body :=
  fun member => absurd (plain _ member) (by decide)

private theorem onCout_inj (checked : ∀ effect ∈ effects, Checked IsDname effect)
    (checkedToo : ∀ effect ∈ others, Checked IsDname effect)
    (transcript : Transcript effects lines) (another : Transcript others more)
    (same : stdout lines = stdout more) :
    effects.filter Effect.onCout = others.filter Effect.onCout := by
  have free {effects : List Effect} (checked : ∀ effect ∈ effects, Checked IsDname effect) :
      ∀ body ∈ (effects.filter Effect.onCout).flatMap Effect.cout, (0x0A : UInt8) ∉ body := by
    intro body member
    obtain ⟨effect, held, within⟩ := List.mem_flatMap.mp member
    have known := checked effect (List.mem_filter.mp held).1
    exact newline_not_mem (known.cout_plain (fun _ => plainText_of_isDname) within)
  rw [stdout_of_transcript transcript, stdout_of_transcript another] at same
  have bodies := join_injOn (free checked) (free checkedToo) same
  have shown {effects : List Effect} (checked : ∀ effect ∈ effects, Checked IsDname effect) :
      ∀ effect ∈ effects.filter Effect.onCout, Checked IsDname effect ∧ effect.onCout = true := by
    intro effect held
    exact ⟨checked effect (List.mem_filter.mp held).1, (List.mem_filter.mp held).2⟩
  refine flatMap_injOn_of_heads ?_ ?_ (shown checked) (shown checkedToo) bodies
  · rintro effect ⟨known, visible⟩ nothing
    obtain ⟨_, _, -, first⟩ := opens_of_cout known visible
    rw [nothing] at first
    cases first
  · rintro effect other ⟨known, visible⟩ ⟨knownToo, visibleToo⟩ heads
    exact cout_heads known visible knownToo visibleToo heads

/-- A line on `std::cerr` and the checked effect it is of. -/
def Said (effect : Effect) (body : Bytes) : Prop := Checked IsDname effect ∧ effect.Cerr body

private theorem onCerr_inj (checked : ∀ effect ∈ effects, Checked IsDname effect)
    (checkedToo : ∀ effect ∈ others, Checked IsDname effect)
    (transcript : Transcript effects lines) (another : Transcript others more)
    (same : stderr lines = stderr more) :
    effects.filter Effect.onCerr = others.filter Effect.onCerr := by
  have said {effects : List Effect} {lines : List Printed}
      (checked : ∀ effect ∈ effects, Checked IsDname effect) (transcript : Transcript effects lines) :
      ∃ bodies, List.Forall₂ Said (effects.filter Effect.onCerr) bodies ∧
        stderr lines = join endl bodies ∧ ∀ body ∈ bodies, (0x0A : UInt8) ∉ body := by
    obtain ⟨bodies, each, whole⟩ := stderr_of_transcript transcript
    have known : List.Forall₂ Said (effects.filter Effect.onCerr) bodies :=
      (List.forall₂_and_left _ _).mpr
        ⟨fun effect held => checked effect (List.mem_filter.mp held).1, each⟩
    have free : List.Forall₂ (fun body effect => (0x0A : UInt8) ∉ body ∧ Said effect body) bodies
        (effects.filter Effect.onCerr) := by
      refine (known.imp fun effect body said => ?_).flip
      exact ⟨newline_not_mem (said.1.cerr_plain (fun _ => plainText_of_isDname) said.2), said⟩
    exact ⟨bodies, known, whole, ((List.forall₂_and_left _ _).mp free).1⟩
  obtain ⟨bodies, each, whole, free⟩ := said checked transcript
  obtain ⟨rest, eachToo, wholeToo, freeToo⟩ := said checkedToo another
  rw [whole, wholeToo] at same
  obtain rfl := join_injOn free freeToo same
  have unique : Relator.LeftUnique Said := fun _ _ _ one two => cerr_unique one.1 two.1 one.2 two.2
  exact List.left_unique_forall₂' unique each eachToo

end ReadBack

/-- **Output read back.** Two runs of the TCP client with the same first output showed
the same messages, helps and closings, and two with the same second output the same
complaints, errors and replies: nothing shown passes for something else. -/
theorem tcp_output_determines {retries others : UInt8} {history another : List TCPTurn}
    {loop other : StreamHandler TCPClient} {lines more : List Printed}
    (run : TCPRun retries history loop) (runToo : TCPRun others another other)
    (transcript : Transcript (effectsIn history) lines)
    (transcriptToo : Transcript (effectsIn another) more) :
    (stdout lines = stdout more →
      (effectsIn history).filter Effect.onCout = (effectsIn another).filter Effect.onCout) ∧
    (stderr lines = stderr more →
      (effectsIn history).filter Effect.onCerr = (effectsIn another).filter Effect.onCerr) :=
  ⟨onCout_inj (fun _ => tcp_checked run) (fun _ => tcp_checked runToo) transcript transcriptToo,
    onCerr_inj (fun _ => tcp_checked run) (fun _ => tcp_checked runToo) transcript transcriptToo⟩

/-- A name with a colon in it. -/
theorem tcp_output_determines_colon : ∃ history loop lines, TCPRun 3 history loop ∧
    Transcript (effectsIn history) lines ∧ stdout lines = text "a:: hi\n" ∧
    ∀ another other more, TCPRun 3 another other → Transcript (effectsIn another) more →
      stdout more = text "a:: hi\n" →
      (effectsIn another).filter Effect.onCout = [.messageFromServer (text "a:") (text "hi")] := by
  have ran : tcpSample [enters "/auth a b c",
    streams (piece "REPLY OK IS ok\r\nMSG FROM a: IS hi\r\n")] = some (_, _) := rfl
  have printed : Transcript [.send (text "AUTH a AS c USING b\r\n"), .replySuccess (text "ok"),
      .messageFromServer (text "a:") (text "hi")]
      [.cerr (text "Success: ok\n"), .cout (text "a:: hi\n")] :=
    ⟨[[], [_], [_]], .cons rfl (.cons rfl (.cons rfl .nil)), rfl⟩
  refine ⟨_, _, _, Run.of_exec ran, printed, rfl, fun another other more run transcript same => ?_⟩
  exact (tcp_output_determines run (Run.of_exec ran) transcript printed).1 same

end ChatClient
