import ChatClient.UDPRuns

/-! The order in which a CONFIRM, a REPLY and MSGs arrive after a JOIN. The CONFIRM
and the REPLY each clear `waiting_for_reply`, and only the CONFIRM clears
`waiting_for_confirmation`; `progress` is the handler as a function of which of
the two have come, so every interleaving ends in the same place. -/

namespace ChatClient

open Transition UDPProtocolHandler UDPMessageValidator FSMValidate

/-! ## Arrivals -/

/-- A MSG datagram whose fields decode. -/
structure MessageDatagram where
  bytes : RecvBuffer
  id : UInt16
  dname : Bytes
  content : Bytes
  type : bytes.val[0]? = some 0x04
  read : messageId bytes.val = some id
  body : parseAndValidate (bytes.val.drop 3) "msg" = ([dname, content], true)

/-- An order of the CONFIRM, the REPLY and the MSGs that keeps the MSGs in order. -/
structure Interleaves (confirm reply : RecvBuffer) (messages : List MessageDatagram)
    (arrivals : List RecvBuffer) : Prop where
  all : arrivals.Perm (confirm :: reply :: messages.map MessageDatagram.bytes)
  order : arrivals.filter (fun bytes => hasType 0x04 bytes.val) =
    messages.map MessageDatagram.bytes

/-- `process_server_message` as a machine over the datagrams that arrive. -/
def takes (h : UDPProtocolHandler) (datagram : Datagram) :
    Option (Outcome UDPProtocolHandler × UDPProtocolHandler) :=
  (h.processServerMessage datagram).map fun outcome => (outcome, outcome.handler)

/-- One call of that machine with its surroundings. -/
abbrev Taken := Transition.Turn UDPProtocolHandler Datagram (Outcome UDPProtocolHandler)

/-- The effects of some calls, in order. -/
def effectsOf (turns : List Taken) : List Effect := turns.flatMap fun turn => turn.output.effects

/-- Whether an effect displays a MSG. -/
def Effect.isMessage : Effect → Bool
  | .messageFromServer _ _ => true
  | _ => false

/-- The IDs of the datagrams among some arrivals that are no CONFIRMs. -/
def arrivalIds (arrivals : List RecvBuffer) : List UInt16 :=
  arrivals.filterMap fun bytes => if hasType 0x00 bytes.val then none else messageId bytes.val

/-- What the arrivals come to: the MSGs displayed once each in order, the reply
displayed once, every datagram but the CONFIRM confirmed once, nothing else sent,
and the client ready at the end. -/
structure Delivers (messages : List MessageDatagram) (shown : Effect) (arrivals : List RecvBuffer)
    (turns : List Taken) : Prop where
  displayed : (effectsOf turns).filter Effect.isMessage =
    messages.map fun m => .messageFromServer m.dname m.content
  replied : (effectsOf turns).filter (fun effect => effect.reply.isSome) = [shown]
  confirmed : sent (effectsOf turns) = (arrivalIds arrivals).map (header 0x00)
  ready : turns.getLast?.bind (fun turn => turn.output.returned) = some .readyForInput

/-! ## One arrival -/

section Progress
variable (h : UDPProtocolHandler) (fromAddr : SockAddr)

/-- The handler after a JOIN, once some datagrams with the given IDs arrived, the
CONFIRM and the REPLY among them or not. -/
def progress (confirmed replied : Bool) (ids : List UInt16) : UDPProtocolHandler :=
  { h with
    serverAddress := fromAddr
    receivedIds := h.receivedIds ++ ids
    awaitedConirmId := if confirmed then noId else h.awaitedConirmId
    awaitedReplyId := if replied then noId else h.awaitedReplyId
    waitingForReply := !(confirmed || replied)
    waitingForConfirmation := !confirmed }

/-- The handler has just sent a JOIN with an ID. -/
structure Joined (k : UInt16) : Prop where
  fsm : h.fsm = ⟨.opened, some .opened, [.any]⟩
  awaited : h.awaitedConirmId = k
  awaitedReply : h.awaitedReplyId = k
  waitingForReply : h.waitingForReply = true
  waiting : h.waitingForConfirmation = true
  sound : h.errorSent = false
  goes : h.awaitingOver = false

variable {h fromAddr} {x : UDPProtocolHandler} {k q : UInt16} {bytes : RecvBuffer}
  {confirmed replied : Bool} {ids : List UInt16} {content : Bytes} {action : Action}
  {shown : Effect} {ignored : ClientState}

private theorem takes_of_processReceived {inner : Outcome UDPProtocolHandler}
    (stands : { x with serverAddress := fromAddr } = h) (ran : h.processReceived bytes.val = some inner) :
    takes x (.received fromAddr bytes) = some (overrule inner, inner.handler) := by
  simp [takes, processServerMessage, stands, ran, overrule]

private theorem takes_confirm (joined : Joined h k)
    (stands : { x with serverAddress := fromAddr } = progress h fromAddr false replied ids)
    (type : bytes.val[0]? = some 0x00) (id : messageId bytes.val = some k) :
    takes x (.received fromAddr bytes) = some (⟨progress h fromAddr true replied ids, [],
      some (if replied then .readyForInput else .waitingForReply)⟩,
      progress h fromAddr true replied ids) := by
  have awaited : messageId bytes.val =
      some (progress h fromAddr false replied ids).awaitedConirmId := by
    simp [progress, id, joined.awaited]
  have ran := processReceived_confirm type awaited joined.goes joined.sound
  rw [takes_of_processReceived stands ran]
  cases replied <;> simp [overrule, progress]

private theorem takes_reply (joined : Joined h k)
    (stands : { x with serverAddress := fromAddr } = progress h fromAddr confirmed false ids)
    (decodes : DecodesReply bytes.val q k content action shown ignored) :
    takes x (.received fromAddr bytes) = some (⟨progress h fromAddr confirmed true (ids ++ [q]),
      [shown, (progress h fromAddr confirmed false ids).sendConfirmation q],
      some (if confirmed then .readyForInput else .waitingForConfirmation)⟩,
      progress h fromAddr confirmed true (ids ++ [q])) := by
  obtain ⟨_, _, result⟩ := decodes.result
  have asked : (progress h fromAddr confirmed false ids).fsm.validateAction action =
      some (.any, h.fsm) := by
    simp only [progress, joined.fsm]
    cases result <;> rfl
  rw [takes_of_processReceived stands (processReceived_reply decodes asked)]
  cases confirmed <;> simp [settleReply, overrule, progress, joined.awaitedReply, sendConfirmation,
    sendMessage]

private theorem takes_message {message : MessageDatagram} (joined : Joined h k)
    (stands : { x with serverAddress := fromAddr } = progress h fromAddr confirmed replied ids)
    (fresh : message.id ∉ h.receivedIds ++ ids) :
    takes x (.received fromAddr message.bytes) =
      some (⟨progress h fromAddr confirmed replied (ids ++ [message.id]),
        [(progress h fromAddr confirmed replied ids).sendConfirmation message.id,
          .messageFromServer message.dname message.content],
        some (if confirmed then .readyForInput else .waitingForConfirmation)⟩,
        progress h fromAddr confirmed replied (ids ++ [message.id])) := by
  have asked : (progress h fromAddr confirmed replied ids).fsm.validateAction .messageServer =
      some (.any, h.fsm) := by
    simp only [progress, joined.fsm]
    rfl
  have fresh : message.id ∉ (progress h fromAddr confirmed replied ids).receivedIds := fresh
  have ran := processReceived_message message.type message.read message.body asked
  rw [if_neg fresh] at ran
  rw [takes_of_processReceived stands ran]
  cases confirmed <;> simp [overrule, progress, sendConfirmation, sendMessage]

end Progress

/-! ## All arrivals -/

/-- What is still to arrive, given whether the CONFIRM and the REPLY have come. -/
inductive Remaining (confirm reply : RecvBuffer) :
    Bool → Bool → List MessageDatagram → List RecvBuffer → Prop where
  | none : Remaining confirm reply true true [] []
  | confirm {replied : Bool} {messages : List MessageDatagram} {arrivals : List RecvBuffer}
      (rest : Remaining confirm reply true replied messages arrivals) :
      Remaining confirm reply false replied messages (confirm :: arrivals)
  | reply {confirmed : Bool} {messages : List MessageDatagram} {arrivals : List RecvBuffer}
      (rest : Remaining confirm reply confirmed true messages arrivals) :
      Remaining confirm reply confirmed false messages (reply :: arrivals)
  | message {confirmed replied : Bool} {message : MessageDatagram}
      {messages : List MessageDatagram} {arrivals : List RecvBuffer}
      (rest : Remaining confirm reply confirmed replied messages arrivals) :
      Remaining confirm reply confirmed replied (message :: messages) (message.bytes :: arrivals)

section Arrivals
variable {confirm reply : RecvBuffer} {confirmed replied : Bool} {messages : List MessageDatagram}
  {arrivals : List RecvBuffer}

private theorem remaining_of_perm
    (all : arrivals.Perm ((if confirmed then [] else [confirm]) ++
      ((if replied then [] else [reply]) ++ messages.map MessageDatagram.bytes)))
    (order : arrivals.filter (fun bytes => hasType 0x04 bytes.val) =
      messages.map MessageDatagram.bytes) :
    Remaining confirm reply confirmed replied messages arrivals := by
  induction arrivals generalizing confirmed replied messages with
  | nil =>
    have none := List.nil_perm.mp all
    cases confirmed <;> cases replied <;> cases messages <;> simp at none
    exact .none
  | cons bytes arrivals ih =>
    by_cases isMessage : hasType 0x04 bytes.val = true
    · simp only [List.filter_cons, isMessage, ↓reduceIte] at order
      cases messages with
      | nil => cases order
      | cons message messages =>
        obtain ⟨rfl, later⟩ := List.cons.inj order
        refine .message (ih ?_ later)
        rw [List.map_cons, ← List.append_assoc] at all
        simpa using (all.trans List.perm_middle).cons_inv
    · simp only [List.filter_cons, isMessage, Bool.false_eq_true, ↓reduceIte] at order
      have member := all.subset (.head _)
      simp only [List.mem_append] at member
      rcases member with first | second | listed
      · cases confirmed with
        | true => cases first
        | false =>
          obtain rfl := List.mem_singleton.mp first
          exact .confirm (ih (by simpa using all) order)
      · cases replied with
        | true => cases second
        | false =>
          obtain rfl := List.mem_singleton.mp second
          refine .reply (ih ?_ order)
          simpa using (all.trans List.perm_middle).cons_inv
      · obtain ⟨message, -, rfl⟩ := List.mem_map.mp listed
        exact absurd (by simp [hasType, message.type]) isMessage

/-- The effects of what is still to arrive. -/
structure Brings (messages : List MessageDatagram) (shown : List Effect)
    (arrivals : List RecvBuffer) (turns : List Taken) : Prop where
  displayed : (effectsOf turns).filter Effect.isMessage =
    messages.map fun m => .messageFromServer m.dname m.content
  replied : (effectsOf turns).filter (fun effect => effect.reply.isSome) = shown
  confirmed : sent (effectsOf turns) = (arrivalIds arrivals).map (header 0x00)
  length : turns.length = arrivals.length
  ready : ∀ turn, turns.getLast? = some turn → turn.output.returned = some .readyForInput

variable {h x : UDPProtocolHandler} {fromAddr : SockAddr} {k q : UInt16} {ids : List UInt16}
  {content : Bytes} {action : Action} {shown : Effect} {ignored : ClientState}

@[simp] theorem effectsOf_cons {first : Taken} {turns : List Taken} :
    effectsOf (first :: turns) = first.output.effects ++ effectsOf turns := rfl

/-- A call in front of those that bring the rest. -/
theorem Brings.cons {first : Taken} {turns : List Taken} {rest whole : List MessageDatagram}
    {bytes : RecvBuffer} {later all : List Effect} (brings : Brings rest later arrivals turns)
    (displayed : first.output.effects.filter Effect.isMessage ++
      rest.map (fun m => .messageFromServer m.dname m.content) =
      whole.map fun m => .messageFromServer m.dname m.content)
    (replied : first.output.effects.filter (fun effect => effect.reply.isSome) ++ later = all)
    (confirmed : sent first.output.effects ++ (arrivalIds arrivals).map (header 0x00) =
      (arrivalIds (bytes :: arrivals)).map (header 0x00))
    (alone : arrivals = [] → first.output.returned = some .readyForInput) :
    Brings whole all (bytes :: arrivals) (first :: turns) := by
  refine ⟨?_, ?_, ?_, by simp [brings.length], ?_⟩
  · rw [effectsOf_cons, List.filter_append, brings.displayed, displayed]
  · rw [effectsOf_cons, List.filter_append, brings.replied, replied]
  · rw [effectsOf_cons, sent_append, brings.confirmed, confirmed]
  · intro turn last
    rw [List.getLast?_cons, Option.some.injEq] at last
    subst last
    cases final : turns.getLast? with
    | none =>
      have none := brings.length
      rw [List.getLast?_eq_none_iff.mp final] at none
      exact alone (List.length_eq_zero_iff.mp none.symm)
    | some turn => exact brings.ready turn final

private theorem arrivalIds_confirm (type : confirm.val[0]? = some 0x00) :
    arrivalIds (confirm :: arrivals) = arrivalIds arrivals := by
  simp [arrivalIds, hasType, type]

private theorem arrivalIds_cons {kind : UInt8} {bytes : RecvBuffer} {id : UInt16}
    (type : bytes.val[0]? = some kind) (other : kind ≠ 0x00) (read : messageId bytes.val = some id) :
    arrivalIds (bytes :: arrivals) = id :: arrivalIds arrivals := by
  simp [arrivalIds, hasType, type, other, read]

/-- Nothing remains only once both answers have come. -/
theorem Remaining.both (remaining : Remaining confirm reply confirmed replied messages []) :
    confirmed = true ∧ replied = true := by
  cases remaining
  exact ⟨rfl, rfl⟩

/-- From `x` the arrivals are taken one by one; they bring the MSGs and the replies
shown, and leave the handler that has both answers. -/
def Delivered (h x : UDPProtocolHandler) (fromAddr : SockAddr) (ids : List UInt16)
    (messages : List MessageDatagram) (shown : List Effect) (arrivals : List RecvBuffer) : Prop :=
  ∃ turns final, exec takes x (arrivals.map (.received fromAddr)) = some (turns, final) ∧
    { final with serverAddress := fromAddr } =
      progress h fromAddr true true (ids ++ arrivalIds arrivals) ∧
    (x.serverAddress = fromAddr ∨ arrivals ≠ [] → final.serverAddress = fromAddr) ∧
    Brings messages shown arrivals turns

/-- One arrival, whose ID is `new` unless it is a CONFIRM, and then the others. -/
theorem Delivered.cons {next : UDPProtocolHandler} {output : Outcome UDPProtocolHandler}
    {bytes : RecvBuffer} {new : List UInt16} {rest whole : List MessageDatagram}
    {later all : List Effect} (step : takes x (.received fromAddr bytes) = some (output, next))
    (delivered : Delivered h next fromAddr (ids ++ new) rest later arrivals)
    (address : next.serverAddress = fromAddr)
    (named : arrivalIds (bytes :: arrivals) = new ++ arrivalIds arrivals)
    (confirmed : sent output.effects = new.map (header 0x00))
    (displayed : output.effects.filter Effect.isMessage ++
      rest.map (fun m => .messageFromServer m.dname m.content) =
      whole.map fun m => .messageFromServer m.dname m.content)
    (replied : output.effects.filter (fun effect => effect.reply.isSome) ++ later = all)
    (alone : arrivals = [] → output.returned = some .readyForInput) :
    Delivered h x fromAddr ids whole all (bytes :: arrivals) := by
  obtain ⟨turns, final, ran, reached, stays, brings⟩ := delivered
  refine ⟨_ :: turns, final, exec_cons step ran, ?_, fun _ => stays (.inl address),
    brings.cons displayed replied ?_ alone⟩
  · rw [reached, named, List.append_assoc]
  · rw [confirmed, named, List.map_append]

/-- From any point of it, an interleaving ends with both answers taken. -/
theorem Remaining.delivers (remaining : Remaining confirm reply confirmed replied messages arrivals)
    (joined : Joined h k)
    (confirms : confirm.val[0]? = some 0x00) (confirmsId : messageId confirm.val = some k)
    (decodes : DecodesReply reply.val q k content action shown ignored)
    (distinct : (messages.map MessageDatagram.id).Nodup)
    (fresh : ∀ m ∈ messages, m.id ∉ h.receivedIds ++ ids ∧ m.id ≠ q)
    (stands : { x with serverAddress := fromAddr } = progress h fromAddr confirmed replied ids) :
    Delivered h x fromAddr ids messages (if replied then [] else [shown]) arrivals := by
  induction remaining generalizing x ids with
  | none =>
    refine ⟨[], x, rfl, by simpa [arrivalIds] using stands, by simp, ?_⟩
    constructor <;> simp [effectsOf, arrivalIds]
  | @confirm replied messages arrivals rest ih =>
    have step := takes_confirm joined stands confirms confirmsId
    rw [← List.append_nil ids] at step
    have later := @ih (progress h fromAddr true replied (ids ++ [])) (ids ++ []) distinct
      (by simpa using fresh) rfl
    refine .cons step later rfl (arrivalIds_confirm confirms) rfl rfl rfl ?_
    rintro rfl
    simp [rest.both]
  | @reply confirmed messages arrivals rest ih =>
    have step := takes_reply joined stands decodes
    have fresh (m : MessageDatagram) (member : m ∈ messages) :
        m.id ∉ h.receivedIds ++ (ids ++ [q]) ∧ m.id ≠ q := by
      simpa [and_assoc] using fresh m member
    have later := @ih (progress h fromAddr confirmed true (ids ++ [q])) (ids ++ [q]) distinct fresh rfl
    have named := @arrivalIds_cons arrivals _ _ _ decodes.type (by decide) decodes.id
    refine .cons step later rfl named ?_ ?_ ?_ ?_
    · obtain ⟨_, _, _ | _⟩ := decodes.result <;> rfl
    · obtain ⟨_, _, _ | _⟩ := decodes.result <;> rfl
    · obtain ⟨_, _, _ | _⟩ := decodes.result <;> rfl
    · rintro rfl
      simp [rest.both]
  | @message confirmed replied message messages arrivals rest ih =>
    obtain ⟨new, distinct⟩ := List.nodup_cons.mp distinct
    have step := takes_message joined stands (fresh message (.head _)).1
    have fresh (m : MessageDatagram) (member : m ∈ messages) :
        m.id ∉ h.receivedIds ++ (ids ++ [message.id]) ∧ m.id ≠ q := by
      have other : m.id ≠ message.id := fun same => new (same ▸ List.mem_map_of_mem member)
      simpa [and_assoc, other] using fresh m (.tail _ member)
    have later := @ih (progress h fromAddr confirmed replied (ids ++ [message.id]))
      (ids ++ [message.id]) distinct fresh rfl
    have named := @arrivalIds_cons arrivals _ _ _ message.type (by decide) message.read
    refine .cons step later rfl named rfl rfl rfl ?_
    rintro rfl
    simp [rest.both]

end Arrivals

/-! ## After a JOIN -/

section Runs
variable {server fromAddr : SockAddr} {retries : UInt8} {history : List UDPTurn} {turn : UDPTurn}
  {loop : StreamHandler UDPProtocolHandler} {join : Bytes} {k q : UInt16}

/-- A line that originates a JOIN leaves the handler waiting for both answers. -/
theorem UDPProtocolHandler.Command.joined {h : UDPProtocolHandler} {line : Bytes}
    {outcome : Outcome UDPProtocolHandler} (command : Command h line outcome) (legal : h.fsm.Legal)
    (sends : join ∈ issued outcome.effects) (type : hasType 0x03 join = true)
    (id : messageId join = some k) (goes : outcome.handler.awaitingOver = false)
    (sound : h.awaitingOver = false → h.errorSent = false) : Joined outcome.handler k := by
  cases command with
  | exit => cases goes
  | deferred =>
    have error := error_of_mem_sendErrorMessage sends
    simp only [hasType, decide_eq_true_eq] at error type
    cases error.symm.trans type
  | @requested _ _ _ code body _ _ kind asked =>
    rcases kind with ⟨rfl, rfl⟩ | ⟨rfl, rfl⟩
    · rw [sendRequest, issued_message (by simp)] at sends
      obtain rfl := List.mem_singleton.mp sends
      simp at type
    · rw [sendRequest, issued_message (by simp)] at sends
      obtain rfl := List.mem_singleton.mp sends
      rw [messageId_header, Option.some.injEq] at id
      exact ⟨(legal.spoken (.inr (.inl rfl)) asked).2.2, id, id, rfl, rfl, sound goes, goes⟩
  | spoken =>
    rw [sendRequest, issued_message (by simp)] at sends
    obtain rfl := List.mem_singleton.mp sends
    simp at type
  | rejected | renamed | helped | undecided => cases sends

private theorem joined_of_run (run : UDPRun server retries (history ++ [turn]) loop)
    (sends : join ∈ originated turn) (type : hasType 0x03 join = true)
    (id : messageId join = some k) (goes : loop.protocolHandler.awaitingOver = false) :
    Joined loop.protocolHandler k := by
  obtain ⟨before, ran⟩ := run.split
  obtain rfl : loop = turn.after := by simpa using run.final_eq
  obtain ⟨loop, event, report, after⟩ := turn
  have ran : loop.iterate event = some (report, after) := ran
  have goes : after.protocolHandler.awaitingOver = false := goes
  obtain ⟨reads, iteration⟩ := udpIteration_of_iterate ran
  cases iteration with
  | received called =>
    simp only [hasType, decide_eq_true_eq] at type
    rcases (receipt_of_processReceived called).originates sends with other | other <;>
      simp [hasType, type] at other
  | @command _ line _ _ called readable handler =>
    show Joined after.protocolHandler k
    rw [handler] at goes ⊢
    have command := command_of_processUserInput called
    refine command.joined (udpRun_legal before) sends type id goes fun ending => ?_
    by_contra failed
    have waits := (udpRun_failed before (by simpa [link] using failed)).resolve_right
      (by simpa [link] using ending)
    rcases readable with exits | ⟨-, -, noConfirm⟩
    · cases command with
      | exit => cases goes
      | _ => contradiction
    · exact absurd ((udpRun_linked before).gated.idle reads noConfirm) (by simp [waits])
  | lost | resend | giveUp => cases sends
  | idle silent => rcases silent with rfl | rfl <;> cases sends

/-- After a JOIN the order in which its CONFIRM, its REPLY and new MSGs arrive does
not matter: in any two orders everything is displayed and confirmed once, the
client is ready at the end, and the handlers agree up to the order of the IDs. -/
theorem join_answers_commute {confirm reply : RecvBuffer} {messages : List MessageDatagram}
    {content : Bytes} {action : Action} {shown : Effect} {ignored : ClientState}
    {first second : List RecvBuffer}
    (run : UDPRun server retries (history ++ [turn]) loop)
    (sends : join ∈ originated turn) (type : hasType 0x03 join = true)
    (id : messageId join = some k) (goes : loop.protocolHandler.awaitingOver = false)
    (confirms : confirm.val[0]? = some 0x00) (confirmsId : messageId confirm.val = some k)
    (decodes : DecodesReply reply.val q k content action shown ignored)
    (distinct : (messages.map MessageDatagram.id).Nodup)
    (fresh : ∀ m ∈ messages, m.id ≠ q ∧ m.id ∉ loop.protocolHandler.receivedIds)
    (one : Interleaves confirm reply messages first)
    (other : Interleaves confirm reply messages second) :
    ∃ turns final turns' final',
      exec takes loop.protocolHandler (first.map (.received fromAddr)) = some (turns, final) ∧
      exec takes loop.protocolHandler (second.map (.received fromAddr)) = some (turns', final') ∧
      Delivers messages shown first turns ∧ Delivers messages shown second turns' ∧
      { final' with receivedIds := final.receivedIds } = final ∧
      final'.receivedIds.Perm final.receivedIds := by
  have joined := joined_of_run run sends type id goes
  -- the receiving calls overwrite the server address, so they start as if it were there already
  have settles {arrivals : List RecvBuffer} (order : Interleaves confirm reply messages arrivals) :
      ∃ turns, exec takes loop.protocolHandler (arrivals.map (.received fromAddr)) =
        some (turns, progress loop.protocolHandler fromAddr true true (arrivalIds arrivals)) ∧
        Delivers messages shown arrivals turns := by
    have remaining : Remaining confirm reply false false messages arrivals :=
      remaining_of_perm (by simpa using order.all) order.order
    have nonempty : arrivals ≠ [] := by
      rintro rfl
      simpa using order.all
    obtain ⟨turns, final, ran, reached, address, brings⟩ := @Remaining.delivers _ _ _ _ _ _
      loop.protocolHandler loop.protocolHandler fromAddr _ _ [] _ _ _ _ remaining joined confirms
      confirmsId decodes distinct (fun m member => ⟨by simpa using (fresh m member).2,
        (fresh m member).1⟩) (by
          simp [progress, joined.waitingForReply, joined.waiting])
    have same : { final with serverAddress := fromAddr } = final := by
      rw [← address (.inr nonempty)]
    refine ⟨turns, ?_, brings.displayed, by simpa using brings.replied, brings.confirmed, ?_⟩
    · rw [ran, ← same, reached, List.nil_append]
    · cases last : turns.getLast? with
      | none =>
        have none := brings.length
        rw [List.getLast?_eq_none_iff.mp last] at none
        exact absurd (List.length_eq_zero_iff.mp none.symm) nonempty
      | some turn => simpa using brings.ready turn last
  obtain ⟨turns, ran, delivers⟩ := settles one
  obtain ⟨turns', ran', delivers'⟩ := settles other
  refine ⟨turns, _, turns', _, ran, ran', delivers, delivers', rfl, ?_⟩
  exact ((other.all.trans one.all.symm).filterMap _).append_left _

/-- The CONFIRM of a JOIN, its REPLY and a MSG, in two orders. -/
theorem join_answers_commute_join : ∃ (history : List UDPTurn)
    (loop : StreamHandler UDPProtocolHandler)
    (confirm reply msg : RecvBuffer) (turns turns' : List Taken) (final final' : UDPProtocolHandler),
    UDPRun localServer 3 history loop ∧
    exec takes loop.protocolHandler ([confirm, reply, msg].map (.received localServer)) =
      some (turns, final) ∧
    exec takes loop.protocolHandler ([msg, reply, confirm].map (.received localServer)) =
      some (turns', final') ∧
    { final' with receivedIds := final.receivedIds } = final := by
  have ran : sample [types "/auth a b c", arrives [0x00, 0, 0],
    arrives [0x01, 0, 5, 1, 0, 0, 0x6F, 0x6B, 0], types "/join d"] = some (_, _) := rfl
  let confirm : RecvBuffer := ⟨[0x00, 0, 1], by decide⟩
  let reply : RecvBuffer := ⟨[0x01, 0, 7, 1, 0, 1, 0x6F, 0x6B, 0], by decide⟩
  let msg : MessageDatagram :=
    ⟨⟨[0x04, 0, 8, 0x61, 0, 0x68, 0x69, 0], by decide⟩, 8, [0x61], [0x68, 0x69], rfl, rfl, rfl⟩
  have decodes : DecodesReply reply.val 7 1 [0x6F, 0x6B] .replyServer (.replySuccess [0x6F, 0x6B])
      .readyForInput := ⟨rfl, by decide, rfl, rfl, rfl, 1, rfl, .positive⟩
  obtain ⟨turns, final, turns', final', one, other, -, -, same, -⟩ :=
    @join_answers_commute localServer localServer 3 [_, _, _] _ _ [0x03, 0, 1, 0x64, 0, 0x63, 0] 1 7
      confirm reply [msg] _ _ _ _ [confirm, reply, msg.bytes] [msg.bytes, reply, confirm]
      (Run.of_exec ran) (by decide) rfl rfl rfl rfl rfl decodes (by simp) (by decide)
      ⟨.refl _, rfl⟩ ⟨by decide, rfl⟩
  exact ⟨_, _, _, _, _, turns, turns', final, final', Run.of_exec ran, one, other, same⟩

end Runs

end ChatClient
