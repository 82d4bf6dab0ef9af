import ChatClient.FrontEnds
import ChatClient.TCPInjection
import ChatClient.UDPDelivery

/-! The secret of an `/auth` reaches nothing but the AUTH message.

Two users type the same lines but for the secrets of their `/auth`s, which are valid
both. Over TCP the two runs go through the very same states. Over UDP the AUTH stays in
`last_message`, from where it can only be sent again. Either way the two runs show the
same and send the same, the secrets in the AUTH messages apart. -/

namespace ChatClient

open Transition Calls FSMValidate

/-! ## Two runs -/

/-- Two lines that are the same `/auth` with secrets of their own. -/
def SecretsApart (line other : Bytes) : Prop :=
  ∃ id name secret secret', commandOf line = text "/AUTH" ∧ commandOf other = text "/AUTH" ∧
    AuthFields (argumentOf line) id secret name ∧ AuthFields (argumentOf other) id secret' name

/-- The same happens, a secret apart. -/
inductive EventsApart {Received : Type} : Event Received → Event Received → Prop where
  | same (event : Event Received) : EventsApart event event
  | auth {line other : Bytes} (apart : SecretsApart line other) :
      EventsApart (.poll (.stdin (some line))) (.poll (.stdin (some other)))

/-- The same is done, the secret in an AUTH message apart. -/
inductive EffectsApart : Effect → Effect → Prop where
  | same (effect : Effect) : EffectsApart effect effect
  | line (id name secret secret' : Bytes) :
      EffectsApart (.send (UserMessage.auth id name secret).line)
        (.send (UserMessage.auth id name secret').line)
  | datagram (address : SockAddr) (number : UInt16) (id name secret secret' : Bytes) :
      EffectsApart (.sendto address ((UserMessage.auth id name secret).datagram number))
        (.sendto address ((UserMessage.auth id name secret').datagram number))

private theorem effectsApart_refl (effects : List Effect) :
    List.Forall₂ EffectsApart effects effects := by
  induction effects with
  | nil => exact .nil
  | cons effect effects ih => exact .cons (.same effect) ih

/-- A line with a secret is a line, and not `/exit`. -/
theorem SecretsApart.lines {line other : Bytes} (apart : SecretsApart line other) :
    (line ≠ [] ∧ line ≠ text "/exit") ∧ (other ≠ [] ∧ other ≠ text "/exit") := by
  obtain ⟨_, _, _, _, command, command', -⟩ := apart
  have none : commandOf [] ≠ text "/AUTH" := by decide
  have exits : commandOf (text "/exit") ≠ text "/AUTH" := by decide
  refine ⟨⟨?_, ?_⟩, ?_, ?_⟩
  · rintro rfl
    exact none command
  · rintro rfl
    exact exits command
  · rintro rfl
    exact none command'
  · rintro rfl
    exact exits command'

section Loop
variable {H Received : Type} {related : H → H → Prop} {loop after : StreamHandler H} {h' : H}
  {event event' : Event Received} {report : Report Received}

/-- Two outcomes that differ in nothing but secrets. -/
structure OutcomesApart (related : H → H → Prop) (outcome other : Outcome H) : Prop where
  effects : List.Forall₂ EffectsApart outcome.effects other.effects
  returned : other.returned = outcome.returned
  handler : related outcome.handler other.handler

/-- A call and another one that comes to the same, secrets apart. -/
def CallsApart (related : H → H → Prop) (called other : Option (Outcome H)) : Prop :=
  ∀ outcome, called = some outcome → ∃ outcome', other = some outcome' ∧
    OutcomesApart related outcome outcome'

/-- A step and another one that comes to the same, secrets apart: only the handler
may differ in the loop it leaves. -/
def StepsApart (related : H → H → Prop) (step other : Option (Report Received × StreamHandler H)) :
    Prop :=
  ∀ report after, step = some (report, after) → ∃ report' handler,
    other = some (report', { after with protocolHandler := handler }) ∧
    List.Forall₂ EffectsApart report.effects report'.effects ∧ report'.returned = report.returned ∧
    related after.protocolHandler handler

/-- Two loops that are the same but for related handlers. -/
def LoopsApart (related : H → H → Prop) (loop other : StreamHandler H) : Prop :=
  ∃ handler, related loop.protocolHandler handler ∧ other = { loop with protocolHandler := handler }

/-- Two turns that differ in nothing but secrets. -/
structure TurnsApart (related : H → H → Prop) (turn other : Turn H Received) : Prop where
  effects : List.Forall₂ EffectsApart turn.output.effects other.output.effects
  returned : other.output.returned = turn.output.returned
  after : LoopsApart related turn.after other.after

/-- A handler that tells secrets apart nowhere but in what it sends. -/
structure KeepsSecrets [ProtocolHandler H Received] (related : H → H → Prop) : Prop where
  server : ∀ {h h'}, related h h' → ∀ received, CallsApart related
    (ProtocolHandler.processServerMessage h received) (ProtocolHandler.processServerMessage h' received)
  user : ∀ {h h'}, related h h' → ∀ line, CallsApart related
    (ProtocolHandler.processUserInput h line) (ProtocolHandler.processUserInput h' line)
  auth : ∀ {h h' line line'}, related h h' → SecretsApart line line' → CallsApart related
    (ProtocolHandler.processUserInput h line) (ProtocolHandler.processUserInput h' line')
  resend : ∀ {h h'}, related h h' → List.Forall₂ EffectsApart
    (ProtocolHandler.resendLastMessage h) (ProtocolHandler.resendLastMessage h')

/-- Steps without a call are the same. -/
theorem StepsApart.quiet {report : Report Received} {next : StreamHandler H}
    (handlers : related next.protocolHandler h') : StepsApart related (some (report, next))
      (some (report, { next with protocolHandler := h' })) := by
  rintro _ _ ⟨⟩
  exact ⟨report, h', rfl, effectsApart_refl _, rfl, handlers⟩

variable [ProtocolHandler H Received]

/-- A line handed over. -/
theorem StepsApart.userInput {line line' : Bytes}
    (calls : CallsApart related (ProtocolHandler.processUserInput loop.protocolHandler line)
      (ProtocolHandler.processUserInput h' line')) :
    StepsApart related (loop.userInput line)
      ({ loop with protocolHandler := h' }.userInput line') := by
  intro report after ran
  obtain ⟨outcome, called, rfl, rfl⟩ := called_of_userInput ran
  obtain ⟨outcome', called', apart⟩ := calls outcome called
  refine ⟨⟨.processUserInput line', outcome'.effects, outcome'.returned⟩, outcome'.handler, ?_,
    apart.effects, apart.returned, apart.handler⟩
  simp only [StreamHandler.userInput, called', StreamHandler.resume, apart.returned,
    Option.bind_eq_bind, Option.bind_some]

/-- Something received. -/
theorem StepsApart.serverMessage {received : Received}
    (calls : CallsApart related (ProtocolHandler.processServerMessage loop.protocolHandler received)
      (ProtocolHandler.processServerMessage h' received)) :
    StepsApart related (loop.serverMessage received)
      ({ loop with protocolHandler := h' }.serverMessage received) := by
  intro report after ran
  simp only [StreamHandler.serverMessage, Option.bind_eq_bind, Option.bind_eq_some_iff,
    Option.some.injEq, Prod.mk.injEq] at ran
  obtain ⟨outcome, called, rfl, rfl⟩ := ran
  obtain ⟨outcome', called', apart⟩ := calls outcome called
  refine ⟨⟨.processServerMessage received, outcome'.effects, outcome'.returned⟩, outcome'.handler, ?_,
    apart.effects, apart.returned, ?_⟩
  · by_cases waits : outcome.returned.getD .readyForInput = .waitingForConfirmation
    · simp [StreamHandler.serverMessage, called', StreamHandler.resume, apart.returned, waits]
    · simp [StreamHandler.serverMessage, called', StreamHandler.resume, apart.returned, waits]
  · split <;> exact apart.handler

variable (keeps : KeepsSecrets related)
  (handlers : related loop.protocolHandler h')
include keeps handlers

/-- What `poll` finds. -/
theorem StepsApart.dispatch {result result' : Poll Received}
    (events : EventsApart (.poll result) (.poll result')) :
    StepsApart related (loop.dispatch result)
      ({ loop with protocolHandler := h' }.dispatch result') := by
  cases events with
  | auth differs =>
    obtain ⟨⟨some, -⟩, some', -⟩ := differs.lines
    simp only [StreamHandler.dispatch, some, some', ↓reduceIte]
    split
    · exact .quiet handlers
    · exact .userInput (keeps.auth handlers differs)
  | same =>
    cases result with
    | failed =>
      refine .quiet ?_
      exact handlers
    | timedOut =>
      simp only [StreamHandler.dispatch]
      split
      · split
        · rintro _ _ ⟨⟩
          exact ⟨_, h', rfl, keeps.resend handlers, rfl, handlers⟩
        · refine .quiet ?_
          exact handlers
      · exact .quiet handlers
    | socket received => exact .serverMessage (keeps.server handlers received)
    | stdin line =>
      simp only [StreamHandler.dispatch]
      split
      · exact .quiet handlers
      cases line with
      | none => exact .userInput (keeps.user handlers _)
      | some line =>
        simp only
        split
        · exact .quiet handlers
        · exact .userInput (keeps.user handlers line)
    | other => exact .quiet handlers

/-- Every iteration comes to the same, secrets apart. -/
theorem StepsApart.iterate (events : EventsApart event event') :
    StepsApart related (loop.iterate event) ({ loop with protocolHandler := h' }.iterate event') := by
  have polls {result result' : Poll Received} (events : EventsApart (.poll result) (.poll result')) :
      StepsApart related (loop.iterate (.poll result))
        ({ loop with protocolHandler := h' }.iterate (.poll result')) := by
    simp only [StreamHandler.iterate]
    split
    · exact fun _ _ ran => by cases ran
    split
    · intro report after ran
      simp only [Option.bind_eq_bind, Option.bind_eq_some_iff, Option.some.injEq, Prod.mk.injEq] at ran
      obtain ⟨⟨report, middle⟩, entered, rfl, rfl⟩ := ran
      obtain ⟨report', handler, entered', effects, returned, handlers⟩ :=
        StepsApart.userInput (keeps.user handlers (text "/exit")) report middle entered
      exact ⟨report', handler, by rw [entered']; rfl, effects, returned, handlers⟩
    · exact .dispatch keeps handlers events
  cases events with
  | auth differs => exact polls (.auth differs)
  | same =>
    cases event with
    | sigint =>
      simp only [StreamHandler.iterate]
      split
      · exact fun _ _ ran => by cases ran
      · refine .quiet ?_
        exact handlers
    | poll result => exact polls (.same _)

omit handlers in
/-- So does every step of a run. -/
theorem LoopsApart.step {other : StreamHandler H} (apart : LoopsApart related loop other)
    (events : EventsApart event event') (ran : loop.iterate event = some (report, after)) :
    ∃ report' after', other.iterate event' = some (report', after') ∧
      TurnsApart related ⟨loop, event, report, after⟩ ⟨other, event', report', after'⟩ ∧
      LoopsApart related after after' := by
  obtain ⟨handler, handlers, rfl⟩ := apart
  obtain ⟨report', handler, ran', effects, returned, kept⟩ :=
    StepsApart.iterate keeps handlers events report after ran
  exact ⟨report', _, ran', ⟨effects, returned, handler, kept, rfl⟩, handler, kept, rfl⟩

omit handlers in
private theorem exec_apart {other final : StreamHandler H} {events events' : List (Event Received)}
    {turns : List (Turn H Received)} (apart : LoopsApart related loop other)
    (ran : exec StreamHandler.iterate loop events = some (turns, final))
    (differ : List.Forall₂ EventsApart events events') :
    ∃ turns' final', exec StreamHandler.iterate other events' = some (turns', final') ∧
      List.Forall₂ (TurnsApart related) turns turns' ∧ LoopsApart related final final' :=
  exec_follows apart (fun apart events ran => apart.step keeps events ran) ran differ

end Loop

section Calls
variable {H : Type} {related : H → H → Prop}

private theorem callsApart_refl (reflexive : ∀ h, related h h) (called : Option (Outcome H)) :
    CallsApart related called called :=
  fun outcome ran => ⟨outcome, ran, effectsApart_refl _, rfl, reflexive _⟩

/-- Two calls that return. -/
theorem CallsApart.returns {outcome outcome' : Outcome H}
    (apart : OutcomesApart related outcome outcome') :
    CallsApart related (some outcome) (some outcome') := Follows.some apart

/-- Two calls that go on from the same answer. -/
theorem CallsApart.bind {α : Type} {asked : Option α} {next next' : α → Option (Outcome H)}
    (goes : ∀ answer, asked = some answer → CallsApart related (next answer) (next' answer)) :
    CallsApart related (asked.bind next) (asked.bind next') := Follows.bind goes

/-- Two calls that branch on the same condition. -/
theorem CallsApart.ite {condition : Prop} [Decidable condition]
    {called called' refused refused' : Option (Outcome H)}
    (holds : condition → CallsApart related called called')
    (fails : ¬condition → CallsApart related refused refused') :
    CallsApart related (if condition then called else refused)
      (if condition then called' else refused') := Follows.ite holds fails

end Calls

/-! ## Over TCP -/

section TCP
variable {argument argument' id name secret secret' : Bytes}

/-- `/auth` sends the secret and keeps nothing of it. -/
theorem TCPProtocolHandler.processAuth_apart (h : TCPProtocolHandler)
    (fields : AuthFields argument id secret name) (fields' : AuthFields argument' id secret' name) :
    CallsApart Eq (h.processAuth argument) (h.processAuth argument') := by
  refine CallsApart.bind fun answer _ => ?_
  simp only [fields.line, fields'.line, ↓reduceIte]
  split
  · exact .returns ⟨.cons (.line id name secret secret') .nil, rfl, rfl⟩
  · exact callsApart_refl (fun _ => rfl) _

private theorem keepsSecrets_tcp : KeepsSecrets (@Eq TCPClient) where
  server := by
    rintro h _ rfl received
    exact callsApart_refl (fun _ => rfl) _
  user := by
    rintro h _ rfl line
    exact callsApart_refl (fun _ => rfl) _
  auth := by
    rintro h _ line line' rfl apart outcome ran
    obtain ⟨⟨-, noExit⟩, -, noExit'⟩ := apart.lines
    obtain ⟨id, name, secret, secret', command, command', fields, fields'⟩ := apart
    have branch : h.handler.processUserInput line = h.handler.processAuth (argumentOf line) := by
      simp only [TCPProtocolHandler.processUserInput, noExit, command, ↓reduceIte]
    have branch' : h.handler.processUserInput line' = h.handler.processAuth (argumentOf line') := by
      simp only [TCPProtocolHandler.processUserInput, noExit', command', ↓reduceIte]
    obtain ⟨inner, called, same⟩ := Option.bind_eq_some_iff.mp ran
    cases same
    rw [branch] at called
    obtain ⟨inner', called', apart⟩ := h.handler.processAuth_apart fields fields' inner called
    refine ⟨⟨{ h with handler := inner'.handler }, inner'.effects, inner'.returned⟩, ?_,
      apart.effects, apart.returned, congrArg (TCPClient.mk · h.buffer) apart.handler⟩
    simp only [ProtocolHandler.processUserInput, TCPClient.processUserInput, branch', called',
      Option.bind_eq_bind, Option.bind_some]
  resend := by
    rintro h _ rfl
    exact effectsApart_refl _

/-- What a TCP client executes from any state, it executes on the same events with other
valid secrets, through the very same states; and it shows the same and sends the same
but for the secrets in its AUTH lines. -/
theorem tcp_secrets_confined {loop final : StreamHandler TCPClient}
    {events events' : List (Event Recv)}
    {turns : List TCPTurn} (ran : exec StreamHandler.iterate loop events = some (turns, final))
    (apart : List.Forall₂ EventsApart events events') :
    ∃ turns', exec StreamHandler.iterate loop events' = some (turns', final) ∧
      List.Forall₂ (TurnsApart Eq) turns turns' := by
  obtain ⟨turns', _, ran', all, _, rfl, rfl⟩ :=
    exec_apart keepsSecrets_tcp ⟨_, rfl, rfl⟩ ran apart
  exact ⟨turns', ran', all⟩

private theorem secretsApart_b_d : SecretsApart (text "/auth a b c") (text "/Auth a d-1 c") :=
  ⟨text "a", text "c", text "b", text "d-1", rfl, rfl, ⟨rfl, rfl, rfl, rfl⟩, ⟨rfl, rfl, rfl, rfl⟩⟩

/-- The two log in and say the same: the AUTH lines differ, the MSG lines do not. -/
theorem tcp_secrets_confined_b_d : ∃ turns turns' final,
    tcpSample [enters "/auth a b c", streams (piece "REPLY OK IS hi\r\n"), enters "x"] =
      some (turns, final) ∧
    tcpSample [enters "/Auth a d-1 c", streams (piece "REPLY OK IS hi\r\n"), enters "x"] =
      some (turns', final) ∧
    List.Forall₂ (TurnsApart Eq) turns turns' ∧
    sentIn turns = [text "AUTH a AS c USING b\r\n", text "MSG FROM c IS x\r\n"] ∧
    sentIn turns' = [text "AUTH a AS c USING d-1\r\n", text "MSG FROM c IS x\r\n"] := by
  have ran : tcpSample [enters "/auth a b c", streams (piece "REPLY OK IS hi\r\n"), enters "x"] =
    some (_, _) := rfl
  have ran' : tcpSample [enters "/Auth a d-1 c", streams (piece "REPLY OK IS hi\r\n"), enters "x"] =
    some (_, _) := rfl
  obtain ⟨turns', same, apart⟩ := tcp_secrets_confined ran
    (.cons (.auth secretsApart_b_d) (.cons (.same _) (.cons (.same _) .nil)))
  cases ran'.symm.trans same
  exact ⟨_, _, _, ran, ran', apart, rfl, rfl⟩

end TCP

/-! ## Over UDP -/

/-- The same datagram, the secret of an AUTH apart. -/
inductive MessagesApart : Bytes → Bytes → Prop where
  | same (message : Bytes) : MessagesApart message message
  | auth (number : UInt16) (id name secret secret' : Bytes) :
      MessagesApart ((UserMessage.auth id name secret).datagram number)
        ((UserMessage.auth id name secret').datagram number)

/-- The same handler, the secret in `last_message` apart. -/
def HandlersApart (h h' : UDPProtocolHandler) : Prop :=
  ∃ message, MessagesApart h.lastMessage message ∧ h' = { h with lastMessage := message }

namespace UDPProtocolHandler

variable {h : UDPProtocolHandler} {last message line argument : Bytes}

private theorem handlersApart_refl (h : UDPProtocolHandler) : HandlersApart h h := ⟨_, .same _, rfl⟩

private theorem returns_kept {outcome other : Outcome UDPProtocolHandler}
    (apart : MessagesApart outcome.handler.lastMessage last) (effects : other.effects = outcome.effects)
    (returned : other.returned = outcome.returned)
    (handler : other.handler = { outcome.handler with lastMessage := last }) :
    CallsApart HandlersApart (some outcome) (some other) :=
  .returns ⟨effects ▸ effectsApart_refl _, returned, last, apart, handler⟩

private theorem returns_same (outcome : Outcome UDPProtocolHandler) :
    CallsApart HandlersApart (some outcome) (some outcome) :=
  callsApart_refl handlersApart_refl _

section Branches
variable (apart : MessagesApart h.lastMessage last)
include apart

private theorem sendErrorMessage_apart (error : Bytes) (confirmation : List Effect)
    (returned : Option ClientState) :
    CallsApart HandlersApart
      (some ⟨(h.sendErrorMessage error).1, confirmation ++ (h.sendErrorMessage error).2, returned⟩)
      (some ⟨({ h with lastMessage := last }.sendErrorMessage error).1,
        confirmation ++ ({ h with lastMessage := last }.sendErrorMessage error).2, returned⟩) := by
  by_cases waits : h.waitingForConfirmation = true
  · simp only [sendErrorMessage, waits, ↓reduceIte]
    exact returns_kept apart rfl rfl rfl
  · simp only [sendErrorMessage, waits]
    exact returns_same _

private theorem failWith_apart (confirmation : List Effect) (error : String) :
    CallsApart HandlersApart (some (h.failWith confirmation error))
      (some ({ h with lastMessage := last }.failWith confirmation error)) :=
  sendErrorMessage_apart apart _ confirmation _

private theorem processConfirm_apart : CallsApart HandlersApart (h.processConfirm message)
    ({ h with lastMessage := last }.processConfirm message) := by
  refine CallsApart.bind fun messageID _ => ?_
  refine CallsApart.ite (fun awaited => ?_) fun foreign => returns_kept apart rfl rfl rfl
  refine CallsApart.ite (fun ends => returns_kept apart rfl rfl rfl) fun goes => ?_
  refine CallsApart.ite (fun errorSent => returns_same _) fun noError => ?_
  exact CallsApart.ite (fun reply => returns_kept apart rfl rfl rfl)
    fun noReply => returns_kept apart rfl rfl rfl

private theorem settleReply_apart (messageID refID : UInt16) (shown : Effect)
    (ignored : ClientState) :
    CallsApart HandlersApart (some (h.settleReply messageID refID shown ignored))
      (some ({ h with lastMessage := last }.settleReply messageID refID shown ignored)) := by
  by_cases answers : refID = h.awaitedReplyId
  · simp only [settleReply, answers, ↓reduceIte]
    exact returns_kept apart rfl rfl rfl
  · simp only [settleReply, answers, ↓reduceIte]
    exact returns_kept apart rfl rfl rfl

private theorem concludeReply_apart (messageID refID : UInt16) (action : Action) (shown : Effect)
    (ignored : ClientState) (error : String) :
    CallsApart HandlersApart (h.concludeReply messageID refID action shown ignored error)
      ({ h with lastMessage := last }.concludeReply messageID refID action shown ignored error) := by
  refine CallsApart.bind fun answer _ => ?_
  refine CallsApart.ite (fun accepted => ?_) fun unaccepted => ?_
  · exact settleReply_apart (h := { h with fsm := answer.2 }) apart _ _ _ _
  · exact CallsApart.ite (fun refused => failWith_apart (h := { h with fsm := answer.2 }) apart _ _)
      fun undecided => returns_kept apart rfl rfl rfl

private theorem processReply_apart : CallsApart HandlersApart (h.processReply message)
    ({ h with lastMessage := last }.processReply message) := by
  refine CallsApart.ite (fun short => failWith_apart apart _ _) fun whole => ?_
  refine CallsApart.bind fun messageID _ => CallsApart.bind fun status _ =>
    CallsApart.bind fun refID _ => ?_
  refine CallsApart.ite (fun valid => ?_) fun invalid => failWith_apart apart _ _
  refine CallsApart.bind fun content _ => ?_
  refine CallsApart.ite (fun negative => concludeReply_apart apart _ _ _ _ _ _) fun other => ?_
  exact CallsApart.ite (fun positive => concludeReply_apart apart _ _ _ _ _ _)
    fun neither => failWith_apart apart _ _

private theorem processMessage_apart : CallsApart HandlersApart (h.processMessage message)
    ({ h with lastMessage := last }.processMessage message) := by
  refine CallsApart.ite (fun short => failWith_apart apart _ _) fun whole => ?_
  refine CallsApart.bind fun messageID _ => ?_
  refine CallsApart.ite (fun valid => ?_) fun invalid => failWith_apart apart _ _
  refine CallsApart.bind fun answer _ => ?_
  refine CallsApart.ite (fun accepted => ?_)
    fun refused => failWith_apart (h := { h with fsm := answer.2 }) apart _ _
  refine CallsApart.ite (fun repeated => returns_kept apart rfl rfl rfl) fun new => ?_
  exact CallsApart.bind fun dname _ => CallsApart.bind fun content _ =>
    returns_kept apart rfl rfl rfl

private theorem processError_apart : CallsApart HandlersApart (h.processError message)
    ({ h with lastMessage := last }.processError message) := by
  refine CallsApart.ite (fun short => failWith_apart apart _ _) fun whole => ?_
  refine CallsApart.bind fun messageID _ => ?_
  refine CallsApart.ite (fun valid => ?_) fun invalid => failWith_apart apart _ _
  refine CallsApart.bind fun answer _ => ?_
  refine CallsApart.ite (fun accepted => ?_)
    fun refused => failWith_apart (h := { h with fsm := answer.2 }) apart _ _
  refine CallsApart.ite (fun repeated => returns_same _) fun new => ?_
  exact CallsApart.bind fun dname _ => CallsApart.bind fun content _ => returns_same _

private theorem processBye_apart : CallsApart HandlersApart (h.processBye message)
    ({ h with lastMessage := last }.processBye message) := by
  refine CallsApart.ite (fun short => failWith_apart apart _ _) fun whole => ?_
  exact CallsApart.bind fun messageID _ => returns_kept apart rfl rfl rfl

private theorem processUnknown_apart : CallsApart HandlersApart (h.processUnknown message)
    ({ h with lastMessage := last }.processUnknown message) := by
  refine CallsApart.ite (fun short => failWith_apart apart _ _) fun whole => ?_
  exact CallsApart.bind fun messageID _ => failWith_apart apart _ _

private theorem processReceived_apart : CallsApart HandlersApart (h.processReceived message)
    ({ h with lastMessage := last }.processReceived message) := by
  refine CallsApart.bind fun firstByte _ => ?_
  refine CallsApart.ite (fun confirm => processConfirm_apart apart) fun _ => ?_
  refine CallsApart.ite (fun reply => processReply_apart apart) fun _ => ?_
  refine CallsApart.ite (fun msg => processMessage_apart apart) fun _ => ?_
  refine CallsApart.ite (fun err => processError_apart apart) fun _ => ?_
  exact CallsApart.ite (fun bye => processBye_apart apart) fun unknown => processUnknown_apart apart

private theorem processServerMessage_apart (received : Datagram) :
    CallsApart HandlersApart (h.processServerMessage received)
      ({ h with lastMessage := last }.processServerMessage received) := by
  cases received with
  | failed => exact returns_kept apart rfl rfl rfl
  | received fromAddr datagram =>
    intro outcome ran
    obtain ⟨inner, called, rfl⟩ := Option.map_eq_some_iff.mp ran
    obtain ⟨inner', called', differs⟩ :=
      processReceived_apart (h := { h with serverAddress := fromAddr }) apart inner called
    refine ⟨overrule inner', by rw [processServerMessage, called']; rfl, differs.effects, ?_,
      differs.handler⟩
    obtain ⟨message, -, same⟩ := differs.handler
    simp [overrule, same, differs.returned]

private theorem processAuth_apart : CallsApart HandlersApart (h.processAuth argument)
    ({ h with lastMessage := last }.processAuth argument) := by
  refine CallsApart.bind fun answer _ => ?_
  refine CallsApart.ite (fun accepted => ?_) fun unaccepted => ?_
  · rcases splitMessage argument with _ | ⟨username, _ | ⟨secret, _ | ⟨deename, _ | ⟨more, rest⟩⟩⟩⟩
    case cons.cons.cons.nil =>
      exact CallsApart.ite (fun valid => returns_same _) fun invalid => returns_kept apart rfl rfl rfl
    all_goals exact returns_kept apart rfl rfl rfl
  · exact CallsApart.ite (fun refused => returns_kept apart rfl rfl rfl)
      fun undecided => returns_kept apart rfl rfl rfl

private theorem processJoin_apart : CallsApart HandlersApart (h.processJoin argument)
    ({ h with lastMessage := last }.processJoin argument) := by
  refine CallsApart.bind fun answer _ => ?_
  refine CallsApart.ite (fun accepted => ?_) fun unaccepted => ?_
  · rcases splitMessage argument with _ | ⟨channel, _ | ⟨more, rest⟩⟩
    case cons.nil =>
      exact CallsApart.ite (fun valid => returns_same _) fun invalid => returns_kept apart rfl rfl rfl
    all_goals exact returns_kept apart rfl rfl rfl
  · exact CallsApart.ite (fun refused => returns_kept apart rfl rfl rfl)
      fun undecided => returns_kept apart rfl rfl rfl

private theorem processRename_apart : CallsApart HandlersApart (some (h.processRename argument))
    (some ({ h with lastMessage := last }.processRename argument)) := by
  cases valid : (h.messageValidator.rename argument).2 with
  | true =>
    simp only [processRename, valid, Bool.not_true, Bool.false_eq_true, ↓reduceIte]
    exact returns_kept apart rfl rfl rfl
  | false =>
    simp only [processRename, valid, Bool.not_false, ↓reduceIte]
    exact returns_kept apart rfl rfl rfl

private theorem processText_apart : CallsApart HandlersApart (h.processText line)
    ({ h with lastMessage := last }.processText line) := by
  refine CallsApart.ite (fun command => returns_kept apart rfl rfl rfl) fun text => ?_
  refine CallsApart.bind fun answer _ => ?_
  refine CallsApart.ite (fun accepted => ?_) fun unaccepted => ?_
  · exact CallsApart.ite (fun valid => returns_same _) fun invalid => returns_kept apart rfl rfl rfl
  · exact CallsApart.ite (fun refused => returns_kept apart rfl rfl rfl)
      fun undecided => returns_kept apart rfl rfl rfl

private theorem processUserInput_apart (line : Bytes) : CallsApart HandlersApart
    (h.processUserInput line)
    ({ h with lastMessage := last }.processUserInput line) := by
  refine CallsApart.ite (fun exits => returns_same _) fun stays => ?_
  refine CallsApart.ite (fun putOff => sendErrorMessage_apart apart _ [] _) fun none => ?_
  refine CallsApart.ite (fun auth => processAuth_apart apart) fun _ => ?_
  refine CallsApart.ite (fun join => processJoin_apart apart) fun _ => ?_
  refine CallsApart.ite (fun rename => processRename_apart apart) fun _ => ?_
  exact CallsApart.ite (fun help => returns_kept apart rfl rfl rfl) fun text => processText_apart apart

private theorem processUserInput_auth_apart {other : Bytes} (differ : SecretsApart line other) :
    CallsApart HandlersApart (h.processUserInput line)
      ({ h with lastMessage := last }.processUserInput other) := by
  obtain ⟨⟨-, noExit⟩, -, noExit'⟩ := differ.lines
  obtain ⟨id, name, secret, secret', command, command', fields, fields'⟩ := differ
  unfold processUserInput
  rw [if_neg noExit, if_neg noExit']
  refine CallsApart.ite (fun putOff => sendErrorMessage_apart apart _ [] _) fun none => ?_
  simp only [command, command', ↓reduceIte]
  refine CallsApart.bind fun answer _ => ?_
  simp only [fields.parts, fields.datagram, fields'.parts, fields'.datagram, ↓reduceIte]
  refine CallsApart.ite (fun accepted => ?_) fun unaccepted => ?_
  · exact .returns ⟨.cons (.datagram _ _ id name secret secret') .nil, rfl, _,
      .auth _ id name secret secret', rfl⟩
  · exact CallsApart.ite (fun refused => returns_kept apart rfl rfl rfl)
      fun undecided => returns_kept apart rfl rfl rfl

end Branches

end UDPProtocolHandler

private theorem keepsSecrets_udp : KeepsSecrets HandlersApart where
  server := by
    rintro h _ ⟨last, apart, rfl⟩ received
    exact UDPProtocolHandler.processServerMessage_apart apart received
  user := by
    rintro h _ ⟨last, apart, rfl⟩ line
    exact UDPProtocolHandler.processUserInput_apart apart line
  auth := by
    rintro h _ line line' ⟨last, apart, rfl⟩ differ
    exact UDPProtocolHandler.processUserInput_auth_apart apart differ
  resend := by
    rintro h _ ⟨last, apart, rfl⟩
    simp only [ProtocolHandler.resendLastMessage, UDPProtocolHandler.resendLastMessage,
      UDPProtocolHandler.sendMessage]
    generalize h.lastMessage = kept at apart ⊢
    cases apart with
    | same => exact effectsApart_refl _
    | auth number id name secret secret' => exact .cons (.datagram _ number id name secret secret') .nil

/-- What a UDP client executes from any state, it executes on the same events with other
valid secrets: every turn shows the same and sends the same but for the secrets in AUTH
datagrams, and of every state it leaves a secret is in `last_message` at most. -/
theorem udp_secrets_confined {loop final : StreamHandler UDPProtocolHandler}
    {events events' : List (Event UDPProtocolHandler.Datagram)} {turns : List UDPTurn}
    (ran : exec StreamHandler.iterate loop events = some (turns, final))
    (apart : List.Forall₂ EventsApart events events') :
    ∃ turns' final', exec StreamHandler.iterate loop events' = some (turns', final') ∧
      List.Forall₂ (TurnsApart HandlersApart) turns turns' ∧ LoopsApart HandlersApart final final' :=
  exec_apart keepsSecrets_udp ⟨_, UDPProtocolHandler.handlersApart_refl _, rfl⟩ ran apart

/-- The AUTH datagrams of the two, each sent twice. -/
theorem udp_secrets_confined_b_d : ∃ turns turns' final final',
    sample [types "/auth a b c", .poll .timedOut, arrives [0, 0, 0]] = some (turns, final) ∧
    sample [types "/Auth a d-1 c", .poll .timedOut, arrives [0, 0, 0]] = some (turns', final') ∧
    List.Forall₂ (TurnsApart HandlersApart) turns turns' ∧ LoopsApart HandlersApart final final' ∧
    allSent turns = List.replicate 2 ([2, 0, 0] ++ text "a\x00c\x00b\x00") ∧
    allSent turns' = List.replicate 2 ([2, 0, 0] ++ text "a\x00c\x00d-1\x00") := by
  have ran : sample [types "/auth a b c", .poll .timedOut, arrives [0, 0, 0]] = some (_, _) := rfl
  have ran' : sample [types "/Auth a d-1 c", .poll .timedOut, arrives [0, 0, 0]] = some (_, _) := rfl
  obtain ⟨turns', final', same, apart, ends⟩ := udp_secrets_confined ran
    (.cons (.auth secretsApart_b_d) (.cons (.same _) (.cons (.same _) .nil)))
  cases ran'.symm.trans same
  exact ⟨_, _, _, _, ran, ran', apart, ends, rfl, rfl⟩

end ChatClient
