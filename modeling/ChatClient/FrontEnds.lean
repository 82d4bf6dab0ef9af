import ChatClient.FSMReactions
import ChatClient.TCPWire
import ChatClient.UDPWire

/-! The two front ends take the same lines from the user.

`UserMessage` is what a line can ask to be sent, `line` and `datagram` the two
ways it travels. Handlers that are alike turn every line into the same message,
or both into none, and stay alike. -/

namespace ChatClient

open Transition FSMValidate

/-- What the user has the client send. -/
inductive UserMessage where
  | auth (id displayName secret : Bytes)
  | join (channel displayName : Bytes)
  | message (displayName content : Bytes)
  | bye
  deriving DecidableEq

namespace UserMessage

/-- The line TCP sends it as. -/
def line : UserMessage → Bytes
  | auth id displayName secret =>
    text "AUTH " ++ id ++ text " AS " ++ displayName ++ text " USING " ++ secret ++
      TCPMessageValidator.crlf
  | join channel displayName =>
    text "JOIN " ++ channel ++ text " AS " ++ displayName ++ TCPMessageValidator.crlf
  | message displayName content =>
    text "MSG FROM " ++ displayName ++ text " IS " ++ content ++ TCPMessageValidator.crlf
  | bye => text "BYE" ++ TCPMessageValidator.crlf

/-- The type byte UDP sends it with. -/
def code : UserMessage → UInt8
  | auth _ _ _ => 0x02
  | join _ _ => 0x03
  | message _ _ => 0x04
  | bye => 0xFF

/-- Its fields, in the order both protocols have them. -/
def fields : UserMessage → List Bytes
  | auth id displayName secret => [id, displayName, secret]
  | join channel displayName => [channel, displayName]
  | message displayName content => [displayName, content]
  | bye => []

/-- The datagram UDP sends it as: every field with a NUL behind it. -/
def datagram (message : UserMessage) (id : UInt16) : Bytes :=
  header message.code id ++ Framing.join [0] message.fields

end UserMessage

/-- Two handlers that a line cannot tell apart. -/
structure Alike (tcp : TCPProtocolHandler) (udp : UDPProtocolHandler) : Prop where
  fsm : tcp.fsm = udp.fsm
  name : tcp.messageValidator.displayName = udp.messageValidator.displayName
  clear : udp.errorWhileWaiting = false

/-- Nothing is sent on either side, or the same message, whose fields are what is
read between the NULs of the datagram. -/
def SendsAlike (tcp udp : List Effect) (id : UInt16) : Prop :=
  (sent tcp = [] ∧ sent udp = []) ∨
    ∃ message : UserMessage, sent tcp = [message.line] ∧ sent udp = [message.datagram id] ∧
      ReadsBack (message.datagram id) message.fields

/-- Two calls that send alike and leave handlers that are alike. -/
def Agree (tcp : Option (Outcome TCPProtocolHandler)) (udp : Option (Outcome UDPProtocolHandler))
    (id : UInt16) : Prop :=
  ∃ tcpOutcome udpOutcome, tcp = some tcpOutcome ∧ udp = some udpOutcome ∧
    SendsAlike tcpOutcome.effects udpOutcome.effects id ∧
    Alike tcpOutcome.handler udpOutcome.handler

/-! ## The validators -/

section Validators
variable {tcp : TCPMessageValidator} {udp : UDPMessageValidator} {argument : Bytes} {id : UInt16}

private theorem rename_alike (name : tcp.displayName = udp.displayName) :
    (tcp.rename argument).2 = (udp.rename argument).2 ∧
      (tcp.rename argument).1.displayName = (udp.rename argument).1.displayName := by
  have checks : UDPMessageValidator.validateDname argument = TCPMessageValidator.validateDname argument :=
    rfl
  simp only [TCPMessageValidator.rename, UDPMessageValidator.rename, checks]
  cases TCPMessageValidator.validateDname argument with
  | true => exact ⟨rfl, rfl⟩
  | false => exact ⟨rfl, name⟩

/-- The arguments both validators take for an `/auth`. -/
structure AuthFields (argument id secret displayName : Bytes) : Prop where
  parts : splitMessage argument = [id, secret, displayName]
  id : TCPMessageValidator.validateId id = true
  secret : TCPMessageValidator.validateSecret secret = true
  name : TCPMessageValidator.validateDname displayName = true

theorem AuthFields.line {user secret name : Bytes} (fields : AuthFields argument user secret name) :
    tcp.authorizeValidate argument = (⟨name⟩, (UserMessage.auth user name secret).line, true) := by
  simp only [TCPMessageValidator.authorizeValidate, fields.parts, fields.id, fields.secret,
    fields.name, Bool.not_true, Bool.false_eq_true, ↓reduceIte]
  rfl

theorem AuthFields.datagram {user secret name : Bytes}
    (fields : AuthFields argument user secret name) :
    udp.authorizeValidate 0x02 id user name secret =
      (⟨name⟩, (UserMessage.auth user name secret).datagram id, true) := by
  have validId : UDPMessageValidator.validateId user = true := fields.id
  have validSecret : UDPMessageValidator.validateSecret secret = true := fields.secret
  have validName : UDPMessageValidator.validateDname name = true := fields.name
  simp [UDPMessageValidator.authorizeValidate, validId, validSecret, validName,
    UserMessage.datagram, UserMessage.code, UserMessage.fields]

private theorem AuthFields.readsBack {user secret name : Bytes}
    (fields : AuthFields argument user secret name) :
    ReadsBack ((UserMessage.auth user name secret).datagram id)
      (UserMessage.auth user name secret).fields := by
  refine readsBack_join ?_
  simp only [UserMessage.fields, List.forall_mem_cons]
  exact ⟨nul_not_mem_id fields.id, nul_not_mem_dname fields.name, nul_not_mem_secret fields.secret,
    by simp⟩

/-- TCP turns every other argument down. -/
theorem authorizeValidate_tcp_refused
    (other : ∀ user secret name, ¬ AuthFields argument user secret name) :
    (tcp.authorizeValidate argument).2.2 = false := by
  by_contra accepted
  obtain ⟨user, secret, name, parts, validId, validSecret, validName⟩ :=
    TCPMessageValidator.authorizeValidate_accepted (by simpa using accepted)
  exact other user secret name ⟨parts, validId, validSecret, validName⟩

/-- So does UDP, among those that have three parts. -/
theorem authorizeValidate_udp_refused {user secret name : Bytes}
    (parts : splitMessage argument = [user, secret, name])
    (other : ¬ AuthFields argument user secret name) :
    ∃ reason, udp.authorizeValidate 0x02 id user name secret = (udp, reason, false) := by
  unfold UDPMessageValidator.authorizeValidate
  split
  · exact ⟨_, rfl⟩
  · rename_i valid
    simp only [Bool.or_eq_true, Bool.not_eq_true', not_or, Bool.not_eq_false] at valid
    exact absurd ⟨parts, valid.1.1, valid.2, valid.1.2⟩ other

private theorem joinValidate_alike (name : tcp.displayName = udp.displayName) {channel : Bytes}
    (parts : splitMessage argument = [channel]) :
    (∃ reason other, tcp.joinValidate argument = (reason, false) ∧
        udp.joinValidate 0x03 id channel = (other, false)) ∨
      (tcp.joinValidate argument = ((UserMessage.join channel udp.displayName).line, true) ∧
        udp.joinValidate 0x03 id channel =
          ((UserMessage.join channel udp.displayName).datagram id, true)) := by
  have checks : UDPMessageValidator.validateId channel = TCPMessageValidator.validateId channel := rfl
  simp only [TCPMessageValidator.joinValidate, parts, UDPMessageValidator.joinValidate, checks]
  cases valid : TCPMessageValidator.validateId channel with
  | false => exact .inl ⟨_, _, rfl, rfl⟩
  | true =>
    refine .inr ⟨?_, ?_⟩
    · simp [UserMessage.line, name]
    · simp [UserMessage.datagram, UserMessage.code, UserMessage.fields]

private theorem joinValidate_tcp_refused (other : ¬ ∃ channel, splitMessage argument = [channel]) :
    tcp.joinValidate argument = (text "Invalid message format", false) := by
  unfold TCPMessageValidator.joinValidate
  split
  · rename_i channel parts
    exact absurd ⟨channel, parts⟩ other
  · rfl

private theorem messageValidate_alike (name : tcp.displayName = udp.displayName) :
    (∃ reason other, tcp.messageValidate argument = (reason, false) ∧
        udp.messageValidate 0x04 id argument = (other, false)) ∨
      (TCPMessageValidator.validateContent argument = true ∧
        tcp.messageValidate argument = ((UserMessage.message udp.displayName argument).line, true) ∧
        udp.messageValidate 0x04 id argument =
          ((UserMessage.message udp.displayName argument).datagram id, true)) := by
  have checks : UDPMessageValidator.validateContent argument =
    TCPMessageValidator.validateContent argument := rfl
  simp only [TCPMessageValidator.messageValidate, UDPMessageValidator.messageValidate, checks]
  cases valid : TCPMessageValidator.validateContent argument with
  | false => exact .inl ⟨_, _, rfl, rfl⟩
  | true =>
    refine .inr ⟨rfl, ?_, ?_⟩
    · simp [UserMessage.line, name]
    · simp [UserMessage.datagram, UserMessage.code, UserMessage.fields]

private theorem message_readsBack (reached : UDPMessageValidator.Reached udp)
    (valid : TCPMessageValidator.validateContent argument = true) :
    ReadsBack ((UserMessage.message udp.displayName argument).datagram id)
      (UserMessage.message udp.displayName argument).fields := by
  have unnamed : 0 ∉ udp.displayName := by
    rcases reached.named with none | validName
    · simp [none]
    · exact nul_not_mem_dname validName
  refine readsBack_join ?_
  simp only [UserMessage.fields, List.forall_mem_cons]
  exact ⟨unnamed, nul_not_mem_content valid, by simp⟩

end Validators

/-! ## One line -/

section Line
variable {tcp : TCPProtocolHandler} {udp : UDPProtocolHandler} {line argument : Bytes}
  (alike : Alike tcp udp)
include alike

/-- Two rejections are alike. -/
theorem Alike.rejected {fsm : FSMValidate} {reason other : Bytes} :
    Agree (some ({ tcp with fsm := fsm }.reject reason)) (some ({ udp with fsm := fsm }.reject other))
      udp.renamer3000 :=
  ⟨_, _, rfl, rfl, .inl ⟨rfl, rfl⟩, rfl, alike.name, alike.clear⟩

theorem Alike.processRename :
    Agree (some (tcp.processRename argument)) (some (udp.processRename argument)) udp.renamer3000 := by
  refine ⟨_, _, rfl, rfl, ?_⟩
  obtain ⟨accepts, name⟩ := @rename_alike _ _ argument alike.name
  unfold TCPProtocolHandler.processRename UDPProtocolHandler.processRename
  generalize tcp.messageValidator.rename argument = renamed at accepts name ⊢
  generalize udp.messageValidator.rename argument = other at accepts name ⊢
  obtain ⟨tcpValidator, accepted⟩ := renamed
  obtain ⟨udpValidator, _⟩ := other
  cases accepts
  cases accepted with
  | true => exact ⟨.inl ⟨rfl, rfl⟩, alike.fsm, name, alike.clear⟩
  | false => exact ⟨.inl ⟨rfl, rfl⟩, alike.fsm, name, alike.clear⟩

section Asked
variable {fsm : FSMValidate} {action reaction : Action}

/-- `/auth` accepts the same arguments and sends them in the same order. -/
theorem Alike.processAuth (asked : tcp.fsm.validateAction .authorizeUser = some (reaction, fsm))
    (decided : reaction = .any ∨ reaction = .warnClient) :
    Agree (tcp.processAuth argument) (udp.processAuth argument) udp.renamer3000 := by
  have same : udp.fsm.validateAction .authorizeUser = some (reaction, fsm) := alike.fsm ▸ asked
  simp only [TCPProtocolHandler.processAuth, UDPProtocolHandler.processAuth, asked, same,
    Option.bind_eq_bind, Option.bind_some, TCPMessageValidator.authorizeValidate_again]
  rcases decided with rfl | rfl
  · simp only [↓reduceIte]
    by_cases some : ∃ user secret name, AuthFields argument user secret name
    · obtain ⟨user, secret, name, fields⟩ := some
      simp only [fields.line, fields.parts, fields.datagram, ↓reduceIte]
      exact ⟨_, _, rfl, rfl, .inr ⟨.auth user name secret, rfl, rfl, fields.readsBack⟩, rfl, rfl,
        alike.clear⟩
    · have refused : ∀ user secret name, ¬ AuthFields argument user secret name :=
        fun user secret name fields => some ⟨user, secret, name, fields⟩
      have tcpRefused := @authorizeValidate_tcp_refused tcp.messageValidator _ refused
      simp only [tcpRefused, TCPMessageValidator.authorizeValidate_refused tcpRefused,
        Bool.false_eq_true, ↓reduceIte]
      split
      · rename_i user secret name parts
        obtain ⟨reason, udpRefused⟩ := @authorizeValidate_udp_refused udp.messageValidator _
          udp.renamer3000 _ _ _ parts (refused user secret name)
        simp only [udpRefused, Bool.false_eq_true, ↓reduceIte]
        exact alike.rejected
      · exact alike.rejected
  · exact alike.rejected

/-- So does `/join`, which takes one argument. -/
theorem Alike.processJoin (reached : UDPMessageValidator.Reached udp.messageValidator)
    (asked : tcp.fsm.validateAction .joinUser = some (reaction, fsm))
    (decided : reaction = .any ∨ reaction = .warnClient) :
    Agree (tcp.processJoin argument) (udp.processJoin argument) udp.renamer3000 := by
  have same : udp.fsm.validateAction .joinUser = some (reaction, fsm) := alike.fsm ▸ asked
  simp only [TCPProtocolHandler.processJoin, UDPProtocolHandler.processJoin, asked, same,
    Option.bind_eq_bind, Option.bind_some]
  rcases decided with rfl | rfl
  · simp only [↓reduceIte]
    by_cases single : ∃ channel, splitMessage argument = [channel]
    · obtain ⟨channel, parts⟩ := single
      simp only [parts]
      rcases @joinValidate_alike _ _ argument udp.renamer3000 alike.name channel parts with
        ⟨reason, other, refused, udpRefused⟩ | ⟨accepted, udpAccepted⟩
      · simp only [refused, udpRefused, Bool.false_eq_true, ↓reduceIte]
        exact alike.rejected
      · simp only [accepted, udpAccepted, ↓reduceIte]
        exact ⟨_, _, rfl, rfl, .inr ⟨_, rfl, rfl, join_readsBack reached udpAccepted⟩, rfl,
          alike.name, alike.clear⟩
    · simp only [joinValidate_tcp_refused single, Bool.false_eq_true, ↓reduceIte]
      split
      · rename_i channel parts
        exact absurd ⟨channel, parts⟩ single
      · exact alike.rejected
  · exact alike.rejected

/-- A text is checked and sent alike. -/
theorem Alike.processText (reached : UDPMessageValidator.Reached udp.messageValidator)
    (legal : tcp.fsm.Legal) :
    Agree (tcp.processText line) (udp.processText line) udp.renamer3000 := by
  unfold TCPProtocolHandler.processText UDPProtocolHandler.processText
  split
  · exact ⟨_, _, rfl, rfl, .inl ⟨rfl, rfl⟩, alike⟩
  obtain ⟨reaction, fsm, asked, -, decided⟩ := legal.user (.inr (.inr rfl))
  have same : udp.fsm.validateAction .messageUser = some (reaction, fsm) := alike.fsm ▸ asked
  simp only [asked, same, Option.bind_eq_bind, Option.bind_some]
  rcases decided with rfl | rfl
  · simp only [↓reduceIte]
    rcases @messageValidate_alike _ _ line udp.renamer3000 alike.name with
      ⟨reason, other, refused, udpRefused⟩ | ⟨valid, accepted, udpAccepted⟩
    · simp only [refused, udpRefused, Bool.false_eq_true, ↓reduceIte]
      exact alike.rejected
    · simp only [accepted, udpAccepted, ↓reduceIte]
      exact ⟨_, _, rfl, rfl, .inr ⟨_, rfl, rfl, message_readsBack reached valid⟩, rfl, alike.name,
        alike.clear⟩
  · exact alike.rejected

end Asked

/-- Handlers that are alike take a line alike. -/
theorem Alike.processUserInput (legal : tcp.fsm.Legal)
    (reached : UDPMessageValidator.Reached udp.messageValidator) :
    Agree (tcp.processUserInput line) (udp.processUserInput line) udp.renamer3000 := by
  have same : Agree (some ⟨tcp, [.printHelp], some .readyForInput⟩)
      (some ⟨udp, [.printHelp], some .readyForInput⟩) udp.renamer3000 :=
    ⟨_, _, rfl, rfl, .inl ⟨rfl, rfl⟩, alike⟩
  simp only [TCPProtocolHandler.processUserInput, UDPProtocolHandler.processUserInput, alike.clear,
    Bool.false_eq_true, ↓reduceIte]
  split
  · have reads : ReadsBack (UserMessage.bye.datagram udp.renamer3000) [] :=
      @readsBack_join [] 0xFF udp.renamer3000 (by simp)
    exact ⟨_, _, rfl, rfl, .inr ⟨.bye, rfl, rfl, reads⟩, alike.fsm, alike.name, alike.clear⟩
  split
  · obtain ⟨reaction, fsm, asked, -, decided⟩ := legal.user (.inl rfl)
    exact alike.processAuth asked decided
  split
  · obtain ⟨reaction, fsm, asked, -, decided⟩ := legal.user (.inr (.inl rfl))
    exact alike.processJoin reached asked decided
  split
  · exact alike.processRename
  split
  · exact same
  · exact alike.processText reached legal

end Line

/-! ## Sequences of lines -/

/-- The TCP handler as a machine that takes one line after the other. -/
def tcpTyping (h : TCPProtocolHandler) (line : Bytes) : Option (List Effect × TCPProtocolHandler) :=
  (h.processUserInput line).map fun outcome => (outcome.effects, outcome.handler)

/-- The UDP handler as such a machine. -/
def udpTyping (h : UDPProtocolHandler) (line : Bytes) : Option (List Effect × UDPProtocolHandler) :=
  (h.processUserInput line).map fun outcome => (outcome.effects, outcome.handler)

/-- Two lines are taken alike. -/
def TypedAlike (tcp : Transition.Turn TCPProtocolHandler Bytes (List Effect))
    (udp : Transition.Turn UDPProtocolHandler Bytes (List Effect)) : Prop :=
  SendsAlike tcp.output udp.output udp.before.renamer3000 ∧ Alike tcp.after udp.after

/-- Handlers that are alike and that runs lead to. -/
structure Twins (tcp : TCPProtocolHandler) (udp : UDPProtocolHandler) : Prop where
  alike : Alike tcp udp
  legal : tcp.fsm.Legal
  reached : UDPMessageValidator.Reached udp.messageValidator

/-- A line leaves twins. -/
theorem Twins.step {tcp : TCPProtocolHandler} {udp : UDPProtocolHandler} (twins : Twins tcp udp)
    (line : Bytes) : ∃ effects after udpEffects udpAfter,
      tcpTyping tcp line = some (effects, after) ∧
      udpTyping udp line = some (udpEffects, udpAfter) ∧
      TypedAlike ⟨tcp, line, effects, after⟩ ⟨udp, line, udpEffects, udpAfter⟩ ∧
      Twins after udpAfter := by
  obtain ⟨outcome, udpOutcome, ran, udpRan, sends, alike⟩ :=
    twins.alike.processUserInput twins.legal twins.reached
  refine ⟨outcome.effects, outcome.handler, udpOutcome.effects, udpOutcome.handler, ?_, ?_,
    ⟨sends, alike⟩, alike, ?_, ?_⟩
  · rw [tcpTyping, ran, Option.map_some]
  · rw [udpTyping, udpRan, Option.map_some]
  · exact twins.legal.consulted_user (TCPProtocolHandler.command_of_processUserInput ran).consulted
  · exact reached_of_processUserInput twins.reached udpRan

variable {server : SockAddr} {retries : UInt8} {history : List UDPTurn}
  {loop : StreamHandler UDPProtocolHandler}

/-- The handler of a UDP run and any TCP handler alike to it, reached in a run or
not, take every line, and every sequence of lines, alike. -/
theorem front_ends_agree (run : UDPRun server retries history loop) {tcp : TCPProtocolHandler}
    (alike : Alike tcp loop.protocolHandler) :
    (∀ line, Agree (tcp.processUserInput line) (loop.protocolHandler.processUserInput line)
      loop.protocolHandler.renamer3000) ∧
    ∀ lines, ∃ turns last udpTurns udpLast, exec tcpTyping tcp lines = some (turns, last) ∧
      exec udpTyping loop.protocolHandler lines = some (udpTurns, udpLast) ∧
      List.Forall₂ TypedAlike turns udpTurns ∧ Alike last udpLast := by
  have legal : tcp.fsm.Legal := alike.fsm ▸ udpRun_legal run
  have reached := udpRun_reached run
  have twins : Twins tcp loop.protocolHandler := ⟨alike, legal, reached⟩
  refine ⟨fun line => alike.processUserInput legal reached, fun lines => ?_⟩
  obtain ⟨turns, last, udpTurns, udpLast, ran, udpRan, all, twins⟩ :=
    exec_lockstep twins (fun line twins => Twins.step twins line) lines
  exact ⟨turns, last, udpTurns, udpLast, ran, udpRan, all, twins.alike⟩

/-- Two runs that both lead to OPEN under one name. -/
theorem front_ends_agree_opened : ∃ tcpHistory client history loop, TCPRun 3 tcpHistory client ∧
    UDPRun localServer 3 history loop ∧
    Alike client.protocolHandler.handler loop.protocolHandler ∧
    client.protocolHandler.handler.fsm.currentState = .opened ∧
    (∀ line, Agree (client.protocolHandler.handler.processUserInput line)
      (loop.protocolHandler.processUserInput line) loop.protocolHandler.renamer3000) ∧
    ∀ lines, ∃ turns last udpTurns udpLast,
      exec tcpTyping client.protocolHandler.handler lines = some (turns, last) ∧
      exec udpTyping loop.protocolHandler lines = some (udpTurns, udpLast) ∧
      List.Forall₂ TypedAlike turns udpTurns ∧ Alike last udpLast := by
  have ran : tcpSample [enters "/auth a b c", streams (piece "REPLY OK IS hi\r\n")] =
    some (_, _) := rfl
  have udpRan : sample [types "/auth a b c", arrives [0, 0, 0],
    arrives [1, 0, 0, 1, 0, 0, 0x68, 0x69, 0]] = some (_, _) := rfl
  exact ⟨_, _, _, _, Run.of_exec ran, Run.of_exec udpRan, ⟨rfl, rfl, rfl⟩, rfl,
    front_ends_agree (Run.of_exec udpRan) ⟨rfl, rfl, rfl⟩⟩

end ChatClient
