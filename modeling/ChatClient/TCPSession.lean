import ChatClient.ChatSession
import ChatClient.TCPTermination

/-! The TCP client carries every session: a line of the user and a line of the server,
one after the other, come to what the session says they come to. -/

namespace ChatClient

open Transition FSMValidate TCPMessageValidator Framing

/-- What an observation is over TCP. -/
inductive SeenOverTCP : Observation → Effect → Prop where
  | speaks {message : UserMessage} : SeenOverTCP (.speaks message) (.send message.line)
  | objects {line : Bytes} (error : isErrorLine line = true) : SeenOverTCP .objects (.send line)
  | shows {effect : Effect} (fromServer : effect.shows = true) : SeenOverTCP (.shows effect) effect
  | rejects {reason : Bytes} : SeenOverTCP .rejects (.internalErrorMessage reason)
  | helps : SeenOverTCP .helps .printHelp

/-- The line the server sends a message as. -/
def ServerMessage.line : ServerMessage → Bytes
  | reply true content => text "REPLY OK IS " ++ content
  | reply false content => text "REPLY NOK IS " ++ content
  | message displayName content => text "MSG FROM " ++ displayName ++ text " IS " ++ content
  | error displayName content => text "ERR FROM " ++ displayName ++ text " IS " ++ content
  | bye => text "BYE"

/-- What an event of a session is over TCP: a line is typed, a message arrives in the
pieces the stream has cut its line into. -/
def SessionEvent.overTCP (cut : UInt16 → ServerMessage → List Chunk) :
    SessionEvent → List (Event Recv)
  | .line typed => [.poll (.stdin (some typed))]
  | .server number message =>
    (cut number message).map fun chunk => .poll (.socket { chunk := some chunk })

/-- The handler of a session. -/
structure TCPMirrors (s : ChatSession) (h : TCPProtocolHandler) : Prop where
  fsm : h.fsm = s.fsm
  name : h.messageValidator.displayName = s.displayName
  requested : h.waitingForReply = s.requested

/-- A call comes to what the session says. -/
structure TCPTakes (result : List Observation × ChatSession) (outcome : Outcome TCPProtocolHandler) :
    Prop where
  seen : List.Forall₂ SeenOverTCP result.1 outcome.effects
  handler : result.2.ended = false → TCPMirrors result.2 outcome.handler
  state : outcome.returned.getD .readyForInput = result.2.state

variable {s : ChatSession} {h : TCPProtocolHandler} {line argument : Bytes} {fsm : FSMValidate}
  {result : List Observation × ChatSession}

/-! ## A line of the user -/

/-- Both follow the machine. -/
theorem TCPMirrors.asked (mirrors : TCPMirrors s h) (fsm : FSMValidate) :
    TCPMirrors { s with fsm := fsm } { h with fsm := fsm } := ⟨rfl, mirrors.name, mirrors.requested⟩

section Line
variable (mirrors : TCPMirrors s h) (goes : s.ended = false) (idle : s.requested = false)
  (legal : s.fsm.Legal)
include mirrors goes idle

/-- A command that is turned down. -/
theorem TCPMirrors.reject {reason : Bytes} : TCPTakes s.reject (h.reject reason) := by
  refine ⟨.cons .rejects .nil, fun _ => mirrors, ?_⟩
  simp [ChatSession.reject, ChatSession.state, TCPProtocolHandler.reject, goes, idle]

/-- A command the machine warns about. -/
theorem TCPMirrors.warned {reason : Bytes} (fsm : FSMValidate) :
    ∃ outcome, some ({ h with fsm := fsm }.reject reason) = some outcome ∧
      TCPTakes { s with fsm := fsm }.reject outcome := ⟨_, rfl, (mirrors.asked fsm).reject goes idle⟩

include legal

theorem TCPMirrors.processAuth (ran : s.command (.ofAuth argument) = some result) :
    ∃ outcome, h.processAuth argument = some outcome ∧ TCPTakes result outcome := by
  rcases ofAuth_cases argument with ⟨id, secret, name, fields, command⟩ | ⟨refused, command⟩
  · rw [command, ChatSession.command] at ran
    refine ask_user ran mirrors.fsm legal (.inl rfl) (fun fsm => ?_) (mirrors.warned goes idle)
    simp only [fields.line, ↓reduceIte]
    refine ⟨_, rfl, .cons .speaks .nil, fun _ => ⟨rfl, rfl, rfl⟩, ?_⟩
    simp [ChatSession.say, ChatSession.state, goes]
  · rw [command, ChatSession.command] at ran
    have turned := @authorizeValidate_tcp_refused h.messageValidator _ refused
    refine ask_user ran mirrors.fsm legal (.inl rfl) (fun fsm => ?_) (mirrors.warned goes idle)
    simp only [turned, authorizeValidate_refused turned,
      Bool.false_eq_true, ↓reduceIte]
    exact mirrors.warned goes idle fsm

theorem TCPMirrors.processJoin (ran : s.command (.ofJoin argument) = some result) :
    ∃ outcome, h.processJoin argument = some outcome ∧ TCPTakes result outcome := by
  rcases ofJoin_cases argument with ⟨channel, parts, valid, command⟩ | ⟨refused, command⟩
  · rw [command, ChatSession.command] at ran
    refine ask_user ran mirrors.fsm legal (.inr (.inl rfl)) (fun fsm => ?_) (mirrors.warned goes idle)
    simp only [joinValidate, parts, valid, Bool.not_true, Bool.false_eq_true, ↓reduceIte]
    refine ⟨_, rfl, .cons ?_ .nil, fun _ => ⟨rfl, mirrors.name, rfl⟩, ?_⟩
    · rw [mirrors.name]
      exact .speaks
    · simp [ChatSession.say, ChatSession.state, goes]
  · rw [command, ChatSession.command] at ran
    have turned : (h.messageValidator.joinValidate argument).2 = false := by
      unfold joinValidate
      split
      · rename_i channel parts
        simp [refused channel parts]
      · rfl
    refine ask_user ran mirrors.fsm legal (.inr (.inl rfl)) (fun fsm => ?_) (mirrors.warned goes idle)
    simp only [turned, Bool.false_eq_true, ↓reduceIte]
    exact mirrors.warned goes idle fsm

theorem TCPMirrors.processText (ran : s.command (.ofText line) = some result) :
    ∃ outcome, h.processText line = some outcome ∧ TCPTakes result outcome := by
  unfold UserCommand.ofText at ran
  unfold TCPProtocolHandler.processText
  split at ran
  · cases ran
    rw [if_pos ‹_›]
    exact ⟨_, rfl, mirrors.reject goes idle⟩
  rename_i plain
  rw [if_neg plain]
  split at ran
  · rename_i valid
    rw [ChatSession.command] at ran
    refine ask_user ran mirrors.fsm legal (.inr (.inr rfl)) (fun fsm => ?_) (mirrors.warned goes idle)
    simp only [messageValidate, valid, Bool.not_true, Bool.false_eq_true, ↓reduceIte]
    refine ⟨_, rfl, .cons ?_ .nil, fun _ => ⟨rfl, mirrors.name, mirrors.requested⟩, ?_⟩
    · rw [mirrors.name]
      exact .speaks
    · simp [ChatSession.say, ChatSession.state, goes, idle]
  · rename_i invalid
    refine ask_user ran mirrors.fsm legal (.inr (.inr rfl)) (fun fsm => ?_) (mirrors.warned goes idle)
    simp only [messageValidate, invalid, Bool.not_false, ↓reduceIte]
    exact mirrors.warned goes idle fsm

/-- Every line comes to what its command does. -/
theorem TCPMirrors.processUserInput (ran : s.command (.ofLine line) = some result) :
    ∃ outcome, h.processUserInput line = some outcome ∧ TCPTakes result outcome := by
  unfold UserCommand.ofLine at ran
  simp only [TCPProtocolHandler.processUserInput]
  split at ran
  · cases ran
    rw [if_pos ‹_›]
    exact ⟨_, rfl, .cons .speaks .nil, fun goes => (Bool.false_ne_true goes.symm).elim, rfl⟩
  rw [if_neg ‹_›]
  split at ran
  · rw [if_pos ‹_›]
    exact mirrors.processAuth goes idle legal ran
  rw [if_neg ‹_›]
  split at ran
  · rw [if_pos ‹_›]
    exact mirrors.processJoin goes idle legal ran
  rw [if_neg ‹_›]
  split at ran
  · rw [if_pos ‹_›, TCPProtocolHandler.processRename, rename]
    split at ran
    · rename_i valid
      cases ran
      simp only [valid, Bool.not_true, Bool.false_eq_true, ↓reduceIte]
      exact ⟨_, rfl, .nil, fun _ => ⟨mirrors.fsm, rfl, mirrors.requested⟩,
        by simp [ChatSession.state, goes, idle]⟩
    · rename_i invalid
      cases ran
      simp only [invalid, Bool.not_false, ↓reduceIte]
      exact ⟨_, rfl, mirrors.reject goes idle⟩
  rw [if_neg ‹_›]
  split at ran
  · cases ran
    rw [if_pos ‹_›]
    exact ⟨_, rfl, .cons .helps .nil, fun _ => mirrors, by simp [ChatSession.state, goes, idle]⟩
  · rw [if_neg ‹_›]
    exact mirrors.processText goes idle legal ran

end Line

/-! ## A line of the server -/

section Words
variable {name content : Bytes} {kind : String} {accepted : Bool}

/-- The first word of a line of the grammar is its keyword. -/
theorem keyword_of_spoken (free : space ∉ text kind) (spoken : SpokenLine kind name content line) :
    upper ((splitMessage line).headD []) = text kind := by
  obtain ⟨word, frm, is, first, others, words, keyword, -⟩ := (spokenLine_iff free).mp spoken
  simpa [words] using keyword

private theorem fields_of_valid
    (valid : (validateDname name && !name.contains space && validateContent content) = true) :
    IsDname name ∧ IsContent content := by
  simp only [Bool.and_eq_true, Bool.not_eq_true', List.contains_eq_mem, decide_eq_false_iff_not] at valid
  exact ⟨validateDname_iff.mp valid.1, validateContent_iff.mp valid.2⟩

private theorem spokenLine_message (valid : (ServerMessage.message name content).valid = true) :
    SpokenLine "MSG" name content (ServerMessage.message name content).line := by
  obtain ⟨named, valid⟩ := fields_of_valid valid
  refine ⟨text "MSG", text "FROM", text "IS", rfl, rfl, rfl, named, valid, ?_⟩
  simp only [ServerMessage.line, List.append_assoc]
  rfl

private theorem spokenLine_error (valid : (ServerMessage.error name content).valid = true) :
    SpokenLine "ERR" name content (ServerMessage.error name content).line := by
  obtain ⟨named, valid⟩ := fields_of_valid valid
  refine ⟨text "ERR", text "FROM", text "IS", rfl, rfl, rfl, named, valid, ?_⟩
  simp only [ServerMessage.line, List.append_assoc]
  rfl

/-- What a reply shows. -/
def ServerMessage.display (accepted : Bool) : Bytes → Effect :=
  if accepted then .replySuccess else .replyError

/-- The line of a reply is one of the grammar, and leads to the branch of its
result. -/
theorem replied_of_valid (valid : (ServerMessage.reply accepted content).valid = true) :
    RepliedLine content (ServerMessage.reply accepted content).line ∧
      TCPProtocolHandler.ReplyLine (ServerMessage.reply accepted content).line
        (ServerMessage.reply accepted content).action (ServerMessage.display accepted) := by
  have is : IsContent content := validateContent_iff.mp valid
  cases accepted with
  | true =>
    have words := (@leads_content_iff _ content [text "REPLY", text "OK", text "IS"]).mp ⟨rfl, by decide⟩
    obtain ⟨first, others, words, -⟩ := words
    have line : (ServerMessage.reply true content).line =
        Framing.join [space] [text "REPLY", text "OK", text "IS"] ++ content := rfl
    refine ⟨⟨text "REPLY", text "OK", text "IS", rfl, .inl rfl, rfl, is, ?_⟩, .positive ?_ ?_⟩
    · simp only [ServerMessage.line, List.append_assoc]
      rfl
    · rw [line, words]
      rfl
    · rw [line, words]
      rfl
  | false =>
    have words := (@leads_content_iff _ content [text "REPLY", text "NOK", text "IS"]).mp ⟨rfl, by decide⟩
    obtain ⟨first, others, words, -⟩ := words
    have line : (ServerMessage.reply false content).line =
        Framing.join [space] [text "REPLY", text "NOK", text "IS"] ++ content := rfl
    refine ⟨⟨text "REPLY", text "NOK", text "IS", rfl, .inr rfl, rfl, is, ?_⟩, .negative ?_ ?_⟩
    · simp only [ServerMessage.line, List.append_assoc]
      rfl
    · rw [line, words]
      rfl
    · rw [line, words]
      rfl

end Words

section Heard
variable {message : ServerMessage} (mirrors : TCPMirrors s h) (goes : s.ended = false)
  (legal : s.fsm.Legal)
include mirrors goes legal

omit mirrors goes legal in
/-- Every objection is an ERR and a BYE. -/
theorem TCPTakes.object {user : Bytes} {error : String} (s : ChatSession) (h : TCPProtocolHandler) :
    ∃ outcome, some (h.failWith user error) = some outcome ∧ TCPTakes s.object outcome := by
  refine ⟨_, rfl, .cons (.objects ?_) (.cons (@SeenOverTCP.speaks .bye) .nil),
    fun goes => (Bool.false_ne_true goes.symm).elim, rfl⟩
  simp only [List.append_assoc]
  rfl

/-- Every message of the server comes to what the session says. -/
theorem TCPMirrors.processReceived (valid : message.valid = true)
    (ran : s.hear message = some result) :
    ∃ outcome, h.processReceived message.line = some outcome ∧ TCPTakes result outcome := by
  cases message with
  | reply accepted content =>
    obtain ⟨replied, reply⟩ := replied_of_valid valid
    rw [TCPProtocolHandler.processReceived_of_reply reply]
    simp only [ChatSession.hear] at ran
    split at ran
    · rename_i requested
      have awaited : h.waitingForReply = true := mirrors.requested.trans requested
      have server : ServerAction (ServerMessage.reply accepted content).action := by
        cases accepted
        · exact .inr (.inr (.inl rfl))
        · exact .inr (.inl rfl)
      refine ask_server ran mirrors.fsm legal server (fun fsm => ?_) (fun fsm => ?_)
      · simp only [validateReply_iff.mpr replied, Option.getD_some, awaited, ↓reduceIte]
        refine ⟨_, rfl, ?_, fun _ => ⟨rfl, mirrors.name, rfl⟩, ?_⟩
        · cases accepted
          · exact .cons (.shows rfl) .nil
          · exact .cons (.shows rfl) .nil
        · simp [ChatSession.state, goes]
      · exact TCPTakes.object _ _
    · cases ran
  | message name content =>
    have spoken := spokenLine_message valid
    rw [TCPProtocolHandler.processReceived_of_message (keyword_of_spoken (by decide) spoken)]
    refine ask_server ran mirrors.fsm legal (.inl rfl) (fun fsm => ?_) (fun fsm => ?_)
    · simp only [validateMessageServer_iff.mpr spoken, ↓reduceIte]
      refine ⟨_, rfl, .cons (.shows rfl) .nil, fun _ => mirrors.asked fsm, ?_⟩
      simp [ChatSession.state, goes, mirrors.requested]
    · exact TCPTakes.object _ _
  | error name content =>
    have spoken := spokenLine_error valid
    rw [TCPProtocolHandler.processReceived_of_error (keyword_of_spoken (by decide) spoken)]
    simp only [ChatSession.hear] at ran
    refine ask_server ran mirrors.fsm legal (.inr (.inr (.inr rfl))) (fun fsm => ?_) (fun fsm => ?_)
    · simp only [validateErrorServer_iff.mpr spoken, ↓reduceIte]
      exact ⟨_, rfl, .cons (.shows rfl) (.cons (@SeenOverTCP.speaks .bye) .nil), by simp, rfl⟩
    · exact TCPTakes.object _ _
  | bye =>
    have keyword : upper ((splitMessage ServerMessage.bye.line).headD []) = text "BYE" := by decide
    rw [TCPProtocolHandler.processReceived_of_bye keyword]
    simp only [ChatSession.hear] at ran
    split at ran
    · rename_i opened
      obtain ⟨after, agreed⟩ := legal.accepts_bye opened
      simp only [ChatSession.ask, ServerMessage.action, agreed, Option.bind_eq_bind, Option.bind_some,
        ↓reduceIte, Option.some.injEq] at ran
      simp only [TCPProtocolHandler.processBye, mirrors.fsm, agreed, Option.bind_eq_bind,
        Option.bind_some, ↓reduceIte]
      exact ran ▸ ⟨_, rfl, .nil, by simp, rfl⟩
    · cases ran

end Heard

/-! ## The loop -/

section Loop
variable {client : TCPClient} {chunk : Chunk} {outcome : Outcome TCPProtocolHandler}

private theorem TCPClient.processServerMessage_begun (settled : Settled client.handler.fsm)
    (unended : ¬ crlf <:+: client.buffer ++ chunk.val) :
    client.processServerMessage { chunk := some chunk } =
      some ⟨{ client with buffer := client.buffer ++ chunk.val }, [], some .readyForInput⟩ := by
  obtain ⟨handed, after, hands, taken⟩ := handOver_defined settled chunk.val
  have lines : feed crlf [] (client.buffer ++ chunk.val) = ([], client.buffer ++ chunk.val) :=
    feed_open unended
  have none : handed = [] := by
    rw [taken.lines, lines]
    rfl
  subst none
  have same : after = { client with buffer := client.buffer ++ chunk.val } := by
    have buffer := taken.joined
    have handler := taken.handler
    cases after
    simpa using And.intro handler buffer
  rw [processServerMessage_chunk hands, same]
  rfl

private theorem TCPClient.processServerMessage_ended (settled : Settled client.handler.fsm)
    (unbroken : Unbroken line) (ends : client.buffer ++ chunk.val = line ++ crlf)
    (called : client.handler.processReceived line = some outcome) :
    client.processServerMessage { chunk := some chunk } =
      some ⟨⟨outcome.handler, []⟩, outcome.effects,
        some (outcome.returned.getD .readyForInput)⟩ := by
  obtain ⟨handed, after, hands, taken⟩ := handOver_defined settled chunk.val
  have lines : feed crlf [] (client.buffer ++ chunk.val) = ([line], []) := by
    have read := @feed_join _ crlf _ [line] crlf_ne_nil fun frame member => by
      rw [List.mem_singleton.mp member]
      exact @clean_of_not_mem _ crlf line [0x0D] 0x0A rfl (by decide) unbroken.2
    simpa [ends] using read
  have one : handed = [⟨client.handler, line, outcome⟩] := by
    rw [taken.lines, lines, Service.Server.burst, act_eq called]
    split <;> simp [Service.Server.burst]
  subst one
  have same : after = ⟨outcome.handler, []⟩ := by
    have buffer := taken.joined
    have handler := taken.handler
    cases after
    simpa [ends] using And.intro handler buffer
  rw [processServerMessage_chunk hands, same]
  simp [Handed.state]

private theorem unended_of_unbroken {begun rest : Bytes} (unbroken : Unbroken line) (some : rest ≠ [])
    (whole : begun ++ rest = line ++ crlf) : ¬ crlf <:+: begun := by
  rintro ⟨before, after, shape⟩
  have clean : Clean crlf line := @clean_of_not_mem _ crlf line [0x0D] 0x0A rfl (by decide) unbroken.2
  have initial : before ++ crlf <+: line ++ crlf := ⟨after ++ rest, by rw [← whole, ← shape]; simp⟩
  refine clean _ initial (fun same => ?_) (List.suffix_append _ _)
  have lengths := congrArg List.length (whole.trans same.symm)
  have nonempty := List.length_pos_of_ne_nil some
  rw [← shape] at lengths
  simp only [List.length_append] at lengths
  omega

private theorem exec_pieces {chunks : List Chunk} {loop : StreamHandler TCPClient} (calm : loop.Calm)
    (goes : loop.state ≠ .over) (settled : Settled loop.protocolHandler.handler.fsm)
    (unbroken : Unbroken line) (some' : chunks ≠ [])
    (whole : loop.protocolHandler.buffer ++ chunks.flatMap Subtype.val = line ++ crlf)
    (called : loop.protocolHandler.handler.processReceived line = some outcome) :
    ∃ turns after, exec StreamHandler.iterate loop
        (chunks.map fun chunk => .poll (.socket { chunk := some chunk })) = some (turns, after) ∧
      (turns.flatMap fun turn => turn.output.effects) = outcome.effects ∧
      after.protocolHandler = ⟨outcome.handler, []⟩ ∧
      after.state = outcome.returned.getD .readyForInput ∧ after.Calm := by
  induction chunks generalizing loop with
  | nil => exact absurd rfl some'
  | cons chunk chunks ih =>
    rw [List.flatMap_cons, ← List.append_assoc] at whole
    cases chunks with
    | nil =>
      rw [List.flatMap_nil, List.append_nil] at whole
      obtain ⟨after, took, handler, state, calm⟩ :=
        calm.serve goes (TCPClient.processServerMessage_ended settled unbroken whole called)
      exact ⟨_, after, exec_cons took rfl, by simp, handler, state, calm⟩
    | cons next rest =>
      have left : (next :: rest).flatMap Subtype.val ≠ [] := by simp [next.property.1]
      obtain ⟨after, took, handler, state, calm⟩ := calm.serve goes
        (TCPClient.processServerMessage_begun settled (unended_of_unbroken unbroken left whole))
      obtain ⟨turns, last, ran, effects, handlers, states, calms⟩ :=
        @ih after calm (by simp [state]) (by rw [handler]; exact settled) (by simp)
          (by rw [handler]; exact whole) (by rw [handler]; exact called)
      exact ⟨_, last, exec_cons took ran, by simpa using effects, handlers, states, calms⟩

end Loop

/-! ## Whole sessions -/

/-- A stream delivers the lines of the messages, in pieces. -/
def DeliversLines (cut : UInt16 → ServerMessage → List Chunk) : Prop :=
  ∀ number message, message.valid = true →
    (cut number message).flatMap Subtype.val = message.line ++ crlf

/-- A turn of a session, and the turns of the client that carry it: they take what the
event is over TCP, and both ends see what the session says. -/
structure CarriedByTCP (cut : UInt16 → ServerMessage → List Chunk) (turn : SessionTurn)
    (block : List TCPTurn) : Prop where
  events : block.map Turn.input = turn.input.overTCP cut
  seen : List.Forall₂ SeenOverTCP turn.output (block.flatMap fun turn => turn.output.effects)

/-- The client between two events of a session. -/
structure TCPFollows (s : ChatSession) (loop : StreamHandler TCPClient) : Prop where
  calm : loop.Calm
  state : loop.state = s.state
  handler : s.ended = false → TCPMirrors s loop.protocolHandler.handler
  buffer : s.ended = false → loop.protocolHandler.buffer = []

section Session
variable {cut : UInt16 → ServerMessage → List Chunk} {loop : StreamHandler TCPClient}
  {after : ChatSession} {seen : List Observation} {number : UInt16} {message : ServerMessage}

/-- A session that goes on is carried by a loop that does. -/
theorem TCPFollows.goes (follows : TCPFollows s loop) (runs : s.ended = false) :
    loop.state ≠ .over := by
  rw [follows.state, ChatSession.state]
  split
  · simp_all
  · split <;> simp

private theorem ServerMessage.unbroken_line (valid : message.valid = true) :
    Unbroken message.line := by
  have words (kind : String) (plain : Unbroken (text kind)) {name content : Bytes} (keyword : String)
      (other : Unbroken (text keyword))
      (fields : (validateDname name && !name.contains space && validateContent content) = true) :
      Unbroken (text kind ++ name ++ text keyword ++ content) := by
    simp only [Bool.and_eq_true] at fields
    simp only [unbroken_append]
    exact ⟨⟨⟨plain, unbroken_of_validateDname fields.1.1⟩, other⟩,
      unbroken_of_validateContent fields.2⟩
  cases message with
  | reply accepted content =>
    have free := unbroken_of_validateContent valid
    cases accepted
    · exact unbroken_append.mpr ⟨by decide, free⟩
    · exact unbroken_append.mpr ⟨by decide, free⟩
  | message name content => exact words "MSG FROM " (by decide) " IS " (by decide) valid
  | error name content => exact words "ERR FROM " (by decide) " IS " (by decide) valid
  | bye => decide

/-- A line of the user. -/
theorem TCPFollows.typed (follows : TCPFollows s loop) (legal : s.ended = false → s.fsm.Legal)
    (ran : s.step (.line line) = some (seen, after)) :
    ∃ turns next, exec StreamHandler.iterate loop [.poll (.stdin (some line))] = some (turns, next) ∧
      List.Forall₂ SeenOverTCP seen (turns.flatMap fun turn => turn.output.effects) ∧
      TCPFollows after next := by
  simp only [ChatSession.step] at ran
  split at ran
  · cases ran
  rename_i open'
  simp only [not_or, Bool.not_eq_true] at open'
  obtain ⟨runs, idle⟩ := open'
  have ready : loop.state = .readyForInput := by simp [follows.state, ChatSession.state, runs, idle]
  split at ran
  · rename_i empty
    cases ran
    subst empty
    exact ⟨_, loop, exec_cons (follows.calm.enter_nil (follows.goes runs)) rfl, .nil, follows⟩
  · rename_i nonempty
    obtain ⟨outcome, called, takes⟩ := (follows.handler runs).processUserInput runs idle (legal runs) ran
    have called : ProtocolHandler.processUserInput loop.protocolHandler line =
        some ⟨{ loop.protocolHandler with handler := outcome.handler }, outcome.effects,
          outcome.returned⟩ := by
      simp only [ProtocolHandler.processUserInput, TCPClient.processUserInput, called,
        Option.bind_eq_bind, Option.bind_some]
    refine ⟨_, _, exec_cons (follows.calm.enter ready nonempty called) rfl, ?_, ?_⟩
    · simpa using takes.seen
    · exact ⟨⟨follows.calm.running, follows.calm.calm⟩, takes.state, takes.handler,
        fun _ => follows.buffer runs⟩

/-- A line of the server. -/
theorem TCPFollows.arrives (follows : TCPFollows s loop) (legal : s.ended = false → s.fsm.Legal)
    (delivers : DeliversLines cut) (ran : s.step (.server number message) = some (seen, after)) :
    ∃ turns next, exec StreamHandler.iterate loop (SessionEvent.overTCP cut (.server number message)) =
        some (turns, next) ∧
      List.Forall₂ SeenOverTCP seen (turns.flatMap fun turn => turn.output.effects) ∧
      TCPFollows after next := by
  simp only [ChatSession.step] at ran
  split at ran
  · cases ran
  rename_i open'
  simp only [not_or, Bool.not_eq_true, Bool.not_eq_false] at open'
  obtain ⟨runs, -, valid⟩ := open'
  have mirrors := follows.handler runs
  have heard : TCPMirrors { s with seen := s.seen ++ [number] } loop.protocolHandler.handler :=
    ⟨mirrors.fsm, mirrors.name, mirrors.requested⟩
  obtain ⟨outcome, called, takes⟩ := heard.processReceived runs (legal runs) valid ran
  have settled : Settled loop.protocolHandler.handler.fsm := .inl (mirrors.fsm ▸ legal runs)
  have whole := delivers number message valid
  have some' : cut number message ≠ [] := by
    intro none
    rw [none, List.flatMap_nil] at whole
    simp [crlf_ne_nil] at whole
  obtain ⟨turns, next, ran, effects, handler, state, calm⟩ := exec_pieces follows.calm
    (follows.goes runs) settled (ServerMessage.unbroken_line valid) some'
    (by rw [follows.buffer runs, List.nil_append, whole]) called
  refine ⟨turns, next, ran, effects ▸ takes.seen, calm, state.trans takes.state, fun goes => ?_,
    fun _ => by rw [handler]⟩
  rw [handler]
  exact takes.handler goes

/-- Every turn of a session is carried by some turns of the client. -/
theorem TCPFollows.step {event : SessionEvent} (follows : TCPFollows s loop)
    (legal : s.ended = false → s.fsm.Legal) (delivers : DeliversLines cut)
    (ran : s.step event = some (seen, after)) :
    ∃ inputs block next, exec StreamHandler.iterate loop inputs = some (block, next) ∧
      CarriedByTCP cut ⟨s, event, seen, after⟩ block ∧ TCPFollows after next := by
  cases event with
  | line line =>
    obtain ⟨turns, next, executed, seen, kept⟩ := follows.typed legal ran
    exact ⟨_, turns, next, executed, ⟨map_input_of_exec executed, seen⟩, kept⟩
  | server number message =>
    obtain ⟨turns, next, executed, seen, kept⟩ := follows.arrives legal delivers ran
    exact ⟨_, turns, next, executed, ⟨map_input_of_exec executed, seen⟩, kept⟩

/-- The client before its first iteration. -/
theorem TCPFollows.start (retries : UInt8) : TCPFollows {} (StreamHandler.start {} retries) :=
  ⟨⟨rfl, by simp [StreamHandler.start]⟩, rfl, fun _ => ⟨rfl, rfl, rfl⟩, fun _ => rfl⟩

/-- The stream that delivers one byte at a time. -/
def byteByByte (_ : UInt16) (message : ServerMessage) : List Chunk :=
  (message.line ++ crlf).map fun c => ⟨[c], List.cons_ne_nil c [], by simp⟩

theorem delivers_byteByByte : DeliversLines byteByByte := by
  intro number message _
  simp [byteByByte, List.flatMap_map]

end Session

end ChatClient
