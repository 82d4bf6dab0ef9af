import ChatClient.ClientOutput
import ChatClient.TCPSession
import ChatClient.UDPReception
import ChatClient.UDPReplies

/-! Two clients, and a server between them that passes on what is said.

`told` is what the user of one client has said, by the lines he typed and the name he
had then. Over TCP the server may send the MSG lines on as they are, in pieces of any
size; over UDP it says them again under IDs of its own, and both networks lose, repeat
and reorder. The other user is shown what was said, in order and each text once. -/

namespace ChatClient

open Transition Framing Delivery

/-- The text a turn sends, if it sends one: the name of the sender and the line. -/
def told {H Received : Type} (name : H → Bytes) (isText : Bytes → Bool) (turn : Turn H Received) :
    Option (Bytes × Bytes) :=
  match turn.output.call with
  | .processUserInput line =>
    if (sent turn.output.effects).any isText then some (name turn.before.protocolHandler, line)
    else none
  | _ => none

section Told
variable {H Received : Type} {name : H → Bytes} {isText : Bytes → Bool} {turn : Turn H Received}

private theorem told_of_silent (silent : (sent turn.output.effects).filter isText = []) :
    told name isText turn = none := by
  have quiet : (sent turn.output.effects).any isText = false := by
    simpa using List.filter_eq_nil_iff.mp silent
  unfold told
  split
  · simp [quiet]
  · rfl

private theorem told_of_spoken {line message : Bytes}
    (call : turn.output.call = .processUserInput line)
    (spoken : (sent turn.output.effects).filter isText = [message]) :
    told name isText turn = some (name turn.before.protocolHandler, line) := by
  have member : message ∈ (sent turn.output.effects).filter isText := by
    rw [spoken]
    exact .head _
  obtain ⟨held, is⟩ := List.mem_filter.mp member
  have speaks : (sent turn.output.effects).any isText = true := List.any_eq_true.mpr ⟨_, held, is⟩
  simp [told, call, speaks]

end Told

/-- What a text is shown as. -/
def shownAs (text : Bytes × Bytes) : Effect := .messageFromServer text.1 text.2

/-- A text travels under a name that is one word, and is printable. -/
structure Sayable (text : Bytes × Bytes) : Prop where
  name : IsDname text.1
  content : IsContent text.2

/-! ## Over TCP: the sender -/

section Sender
open TCPMessageValidator TCPProtocolHandler
variable {h : TCPProtocolHandler} {line : Bytes} {outcome : Outcome TCPProtocolHandler}
  {retries : UInt8} {history : List TCPTurn} {loop after : StreamHandler TCPClient}
  {event : Event Recv} {report : Report Recv}

/-- A MSG line. -/
def isTextLine (line : Bytes) : Bool := (text "MSG ").isPrefixOf line

/-- The line of a text, without its CRLF. -/
def textLine (said : Bytes × Bytes) : Bytes :=
  text "MSG FROM " ++ said.1 ++ text " IS " ++ said.2

/-- What the user has said over TCP. -/
def toldOverTCP (history : List TCPTurn) : List (Bytes × Bytes) :=
  history.filterMap (told (fun client => client.handler.messageValidator.displayName) isTextLine)

/-- Nothing the client answers a line with is a text. -/
theorem TCPProtocolHandler.Receipt.noText (receipt : Receipt h line outcome) :
    (sent outcome.effects).filter isTextLine = [] := by
  cases receipt with
  | reply reply => cases reply <;> rfl
  | shown | ignored | errorShown | bye | undecided | nameless => rfl
  | failed | unknown => rfl

/-- A line of the user sends no text, or is one itself. -/
theorem TCPProtocolHandler.Command.texts (command : Command h line outcome) :
    (sent outcome.effects).filter isTextLine = [] ∨
      (validateContent line = true ∧ (sent outcome.effects).filter isTextLine =
        [textLine (h.messageValidator.displayName, line) ++ crlf]) := by
  cases command with
  | exit | rejected | renamed | helped | undecided => exact .inl rfl
  | requested _ accepted =>
    cases accepted with
    | auth valid =>
      obtain ⟨id, secret, dname, parts, validId, validSecret, validName⟩ :=
        authorizeValidate_accepted (by rw [valid])
      simp only [authorizeValidate, parts, validId, validSecret, validName, Bool.not_true,
        Bool.false_eq_true, ↓reduceIte, Prod.mk.injEq] at valid
      obtain ⟨-, rfl, -⟩ := valid
      exact .inl rfl
    | join valid =>
      unfold joinValidate at valid
      split at valid
      · split at valid
        · cases valid
        · obtain ⟨rfl, -⟩ := Prod.mk.inj valid
          exact .inl rfl
      · cases valid
  | spoken _ _ valid =>
    obtain ⟨content, rfl⟩ := messageValidate_eq valid
    exact .inr ⟨content, rfl⟩

private theorem noText_of_handed {handed : List Handed} {errors : Nat}
    (called : ∀ line ∈ handed, line.before.processReceived line.line = some line.outcome) :
    (sent (List.replicate errors (Effect.perror (text "recv")) ++
      handed.flatMap fun line => line.outcome.effects)).filter isTextLine = [] := by
  rw [List.filter_eq_nil_iff]
  intro message member
  obtain ⟨effect, held, sends⟩ := List.mem_filterMap.mp member
  rcases List.mem_append.mp held with failed | shown
  · rw [List.eq_of_mem_replicate failed] at sends
    cases sends
  · obtain ⟨line, among, within⟩ := List.mem_flatMap.mp shown
    have quiet := (receipt_of_processReceived (called line among)).noText
    exact List.filter_eq_nil_iff.mp quiet message (List.mem_filterMap.mpr ⟨effect, within, sends⟩)

/-- What a turn has to do with texts: it sends none, or the line typed, which is one. -/
theorem tcp_text_of_iterate (run : TCPRun retries history loop)
    (ran : loop.iterate event = some (report, after)) :
    (∀ said ∈ toldOverTCP [⟨loop, event, report, after⟩], validateContent said.2 = true ∧
        Reached ⟨said.1⟩) ∧
      (sent report.effects).filter isTextLine =
        (toldOverTCP [⟨loop, event, report, after⟩]).map fun said => textLine said ++ crlf := by
  have settled := tcpRun_settled run
  have silent {report : Report Recv} (none : (sent report.effects).filter isTextLine = []) :
      (∀ said ∈ toldOverTCP [⟨loop, event, report, after⟩], validateContent said.2 = true ∧
          Reached ⟨said.1⟩) ∧
        (sent report.effects).filter isTextLine =
          (toldOverTCP [⟨loop, event, report, after⟩]).map fun said => textLine said ++ crlf := by
    rw [none, toldOverTCP, List.filterMap_cons_none (told_of_silent none)]
    exact ⟨by simp, rfl⟩
  obtain ⟨-, iteration⟩ := tcpIteration_of_iterate settled ran
  cases iteration with
  | lines hands taken => exact silent (noText_of_handed fun line among => (taken.mem settled line among).2)
  | closed => exact silent (by simp [sent, Effect.sent])
  | @command _ line outcome _ called =>
    rcases (command_of_processUserInput called).texts with none | ⟨content, one⟩
    · exact silent none
    · have said : toldOverTCP [⟨loop, event, ⟨.processUserInput line, outcome.effects,
          outcome.returned⟩, after⟩] =
          [(loop.protocolHandler.handler.messageValidator.displayName, line)] :=
        List.filterMap_cons_some (told_of_spoken rfl one)
      rw [said, one]
      refine ⟨fun said member => ?_, rfl⟩
      rw [List.mem_singleton.mp member]
      exact ⟨content, tcpRun_reached run⟩
  | idle calls quiet =>
    refine silent ?_
    rcases quiet with rfl | rfl <;> rfl

private theorem tcp_texts (run : TCPRun retries history loop) :
    (∀ said ∈ toldOverTCP history, validateContent said.2 = true ∧ Reached ⟨said.1⟩) ∧
      (sentIn history).filter isTextLine =
        (toldOverTCP history).map fun said => textLine said ++ crlf := by
  refine run.invariant (I := fun history _ =>
    (∀ said ∈ toldOverTCP history, validateContent said.2 = true ∧ Reached ⟨said.1⟩) ∧
      (sentIn history).filter isTextLine =
        (toldOverTCP history).map fun said => textLine said ++ crlf) ⟨by simp [toldOverTCP], rfl⟩ ?_
  rintro history loop event report after run ⟨valid, wire⟩ ran
  obtain ⟨validToo, wireToo⟩ := tcp_text_of_iterate run ran
  have whole : toldOverTCP (history ++ [⟨loop, event, report, after⟩]) =
      toldOverTCP history ++ toldOverTCP [⟨loop, event, report, after⟩] := List.filterMap_append
  rw [whole]
  refine ⟨fun said member => (List.mem_append.mp member).elim (valid said) (validToo said), ?_⟩
  rw [sentIn, List.flatMap_append, List.filter_append, List.map_append, ← wireToo, ← wire]
  simp [sentIn]

end Sender

/-! ## Over TCP: the receiver -/

section Receiver
open FSMValidate TCPMessageValidator TCPProtocolHandler Service
variable {h : TCPProtocolHandler} {said : Bytes × Bytes} {texts : List (Bytes × Bytes)}
  {chunks : List Chunk} {loop : StreamHandler TCPClient}

/-- A session in which a text is shown at once. -/
structure OpenToTexts (h : TCPProtocolHandler) : Prop where
  legal : h.fsm.Legal
  opened : h.fsm.currentState = .opened
  idle : h.waitingForReply = false

/-- A text is shown, and the session stays as open as it was. -/
theorem OpenToTexts.shows (ready : OpenToTexts h) (sayable : Sayable said) :
    ∃ outcome, h.processReceived (textLine said) = some outcome ∧ outcome.effects = [shownAs said] ∧
      outcome.returned = some .readyForInput ∧ OpenToTexts outcome.handler := by
  have spoken : SpokenLine "MSG" said.1 said.2 (textLine said) := by
    refine ⟨text "MSG", text "FROM", text "IS", rfl, rfl, rfl, sayable.name, sayable.content, ?_⟩
    simp only [textLine, List.append_assoc]
    rfl
  have command := keyword_of_spoken (by decide) spoken
  have asked := ready.legal.accepts_spoken ready.opened (.inl rfl)
  have legal := ready.legal.consulted_server (.inr ⟨_, _, .inl rfl, asked⟩)
  refine ⟨⟨{ h with fsm := ⟨.opened, some .opened, [.any]⟩ }, [shownAs said], some .readyForInput⟩,
    ?_, rfl, rfl, legal, rfl, ready.idle⟩
  rw [processReceived_of_message command]
  simp only [processMessage, asked, validateMessageServer_iff.mpr spoken, ready.idle,
    Option.bind_eq_bind, Option.bind_some, ↓reduceIte]
  rfl

/-- Lines of texts are all handed over, and show them. -/
theorem OpenToTexts.burst (ready : OpenToTexts h) (sayable : ∀ said ∈ texts, Sayable said) :
    (lineServer.burst h (texts.map textLine)).2 = [] ∧
      ((lineServer.burst h (texts.map textLine)).1.flatMap fun handed => handed.outcome.effects) =
        texts.map shownAs ∧
      (∀ handed ∈ (lineServer.burst h (texts.map textLine)).1, handed.state = .readyForInput) ∧
      OpenToTexts (lineServer.reached h (lineServer.burst h (texts.map textLine)).1) := by
  induction texts generalizing h with
  | nil => exact ⟨rfl, rfl, by simp [Server.burst], ready⟩
  | cons said texts ih =>
    obtain ⟨outcome, ran, effects, returned, next⟩ := ready.shows (sayable said (.head _))
    have state : Handed.state ⟨h, textLine said, outcome⟩ = .readyForInput := by
      simp [Handed.state, returned]
    obtain ⟨all, shown, states, reached⟩ := ih next fun said member => sayable said (.tail _ member)
    simp only [List.map_cons, Server.burst, act_eq ran, verdict_go, state, ↓reduceIte, next_eq,
      List.flatMap_cons, Server.reached_cons, List.forall_mem_cons]
    exact ⟨all, by rw [effects, shown]; rfl, ⟨trivial, states⟩, reached⟩

private theorem exec_texts (calm : loop.Calm) (goes : loop.state ≠ .over)
    (ready : OpenToTexts loop.protocolHandler.handler) (sayable : ∀ said ∈ texts, Sayable said)
    (begun : (feed crlf [] loop.protocolHandler.buffer).1 = [])
    (whole : feed crlf [] (loop.protocolHandler.buffer ++ chunks.flatMap Subtype.val) =
      (texts.map textLine, [])) :
    ∃ turns final, exec StreamHandler.iterate loop (chunks.map streams) = some (turns, final) ∧
      effectsIn turns = texts.map shownAs := by
  induction chunks generalizing loop texts with
  | nil =>
    -- nothing is left to read, and no line is complete
    rw [List.flatMap_nil, List.append_nil] at whole
    rw [whole] at begun
    rw [List.map_eq_nil_iff.mp begun]
    exact ⟨[], loop, rfl, rfl⟩
  | cons chunk chunks ih =>
    rw [List.flatMap_cons, ← List.append_assoc, feed_append, Prod.mk.injEq] at whole
    obtain ⟨now, later, rfl, first, rest⟩ := List.map_eq_append_iff.mp whole.1.symm
    have settled : Settled loop.protocolHandler.handler.fsm := .inl ready.legal
    obtain ⟨handed, client, hands, taken⟩ := handOver_defined settled chunk.val
    obtain ⟨all, shown, states, reached⟩ := ready.burst fun said member =>
      sayable said (List.mem_append_left later member)
    rw [first] at all shown states reached
    have lines := taken.lines
    rw [← lines] at shown states reached
    have left := taken.left
    rw [all] at left
    have remaining : feed crlf [] (client.buffer ++ chunks.flatMap Subtype.val) =
        (later.map textLine, []) := by
      rw [feed_append, left, List.nil_append]
      exact Prod.ext rest.symm whole.2
    obtain ⟨after, took, handler, state, next⟩ := calm.serve goes
      (@processServerMessage_chunk _ _ _ _ 0 chunk hands)
    have handler : after.protocolHandler = client := handler
    have returns : after.state = .readyForInput := by
      rw [state]
      cases last : handed.getLast? with
      | none => rfl
      | some line => exact states line (List.mem_of_getLast? last)
    rw [← taken.handler, ← handler] at reached
    rw [← handler] at left remaining
    obtain ⟨turns, final, ran, effects⟩ := ih next (by simp [returns]) reached
      (fun said member => sayable said (List.mem_append_right now member)) (by rw [left]) remaining
    refine ⟨_, final, exec_cons took ran, ?_⟩
    rw [List.map_append, ← effects, ← shown]
    rfl

end Receiver

section Relayed
open TCPMessageValidator
variable {retries retriesToo : UInt8} {speaking listening : List TCPTurn}
  {speaker listener : StreamHandler TCPClient} {chunks : List Chunk} {said : Bytes × Bytes}

/-- A text stays on one line. -/
theorem Sayable.unbroken (sayable : Sayable said) : Unbroken (textLine said) := by
  obtain ⟨named, -⟩ := validateDname_iff.mpr sayable.name
  simp only [textLine, unbroken_append]
  exact ⟨⟨⟨by decide, unbroken_of_validateDname named⟩, by decide⟩,
    unbroken_of_validateContent (validateContent_iff.mpr sayable.content)⟩

/-- **Over TCP.** The MSG lines of one client, in pieces of any size, show the user of
another in an open session what the user of the first has said, if his names were words. -/
theorem tcp_chat_relayed (speaks : TCPRun retries speaking speaker)
    (words : ∀ said ∈ toldOverTCP speaking, said.1 ≠ [] ∧ space ∉ said.1)
    (listens : TCPRun retriesToo listening listener) (goes : listener.state ≠ .over)
    (calm : listener.Calm)
    (opened : listener.protocolHandler.handler.fsm.currentState = .opened)
    (idle : listener.protocolHandler.handler.waitingForReply = false)
    (empty : listener.protocolHandler.buffer = [])
    (relays : chunks.flatMap Subtype.val = ((sentIn speaking).filter isTextLine).flatten) :
    ∃ turns final, exec StreamHandler.iterate listener (chunks.map streams) = some (turns, final) ∧
      effectsIn turns = (toldOverTCP speaking).map shownAs := by
  obtain ⟨valid, wire⟩ := tcp_texts speaks
  have sayable : ∀ said ∈ toldOverTCP speaking, Sayable said := by
    intro said member
    obtain ⟨some, whole⟩ := words said member
    obtain ⟨content, reached⟩ := valid said member
    have named := reached.named.resolve_left some
    exact ⟨validateDname_iff.mp ⟨named, whole⟩, validateContent_iff.mp content⟩
  have stream : chunks.flatMap Subtype.val = join crlf ((toldOverTCP speaking).map textLine) := by
    rw [relays, wire, join, List.flatMap_def, List.map_map]
    rfl
  refine exec_texts calm goes ⟨tcpRun_legal listens goes, opened, idle⟩ sayable ?_ ?_
  · rw [empty]
    rfl
  · rw [empty, List.nil_append, stream]
    refine feed_join crlf_ne_nil fun line member => ?_
    obtain ⟨said, held, rfl⟩ := List.mem_map.mp member
    exact @clean_of_not_mem _ crlf _ [0x0D] 0x0A rfl (by decide) (sayable said held).unbroken.2

/-- Two texts under two names, cut in the middle of a line. -/
theorem tcp_chat_relayed_renamed : ∃ speaking speaker listening listener turns final,
    TCPRun 3 speaking speaker ∧ TCPRun 3 listening listener ∧
    toldOverTCP speaking = [(text "c", text "hi  all"), (text "d", text "ho")] ∧
    exec StreamHandler.iterate listener (List.map streams [piece "MSG FROM c IS hi  all\r\nMSG F",
      piece "ROM d IS ho\r\n"]) = some (turns, final) ∧
    effectsIn turns = [.messageFromServer (text "c") (text "hi  all"),
      .messageFromServer (text "d") (text "ho")] := by
  have spoke : tcpSample [enters "/auth a b c", streams (piece "REPLY OK IS hi\r\n"),
    enters "hi  all", enters "/rename d", enters "ho"] = some (_, _) := rfl
  have listened : tcpSample [enters "/auth e b f", streams (piece "REPLY OK IS hi\r\n")] =
    some (_, _) := rfl
  obtain ⟨turns, final, ran, shown⟩ := @tcp_chat_relayed _ _ _ _ _ _
    [piece "MSG FROM c IS hi  all\r\nMSG F", piece "ROM d IS ho\r\n"] (Run.of_exec spoke)
    (by decide) (Run.of_exec listened) (by decide) ⟨rfl, by decide⟩ rfl rfl rfl rfl
  exact ⟨_, _, _, _, turns, final, Run.of_exec spoke, Run.of_exec listened, rfl, ran, shown⟩

end Relayed

/-! ## Over UDP: the sender -/

section Sender
open UDPProtocolHandler UDPMessageValidator
variable {h : UDPProtocolHandler} {line argument : Bytes} {outcome : Outcome UDPProtocolHandler}
  {server : SockAddr} {retries : UInt8} {history : List UDPTurn}
  {loop after : StreamHandler UDPProtocolHandler} {event : Event Datagram}
  {report : Report Datagram}

/-- What the user has said over UDP, under a name. -/
def toldOverUDP (history : List UDPTurn) : List (Bytes × Bytes) :=
  (history.filterMap (told (fun h => h.messageValidator.displayName) (hasType 0x04))).filter
    fun said => said.1 ≠ []

/-- The well-formed texts among some datagrams. -/
def textsIn (messages : List Bytes) : List (Bytes × Bytes) :=
  (messages.filter (hasType 0x04)).filterMap saidIn

/-- A line of the user sends no text, or is one itself. -/
theorem UDPProtocolHandler.Command.texts (command : Command h line outcome) :
    (sent outcome.effects).filter (hasType 0x04) = [] ∨
      (validateContent line = true ∧ (sent outcome.effects).filter (hasType 0x04) =
        [header 0x04 h.renamer3000 ++ h.messageValidator.displayName ++ [0] ++ line ++ [0]]) := by
  cases command with
  | exit => exact .inl (by simp [sendMessage])
  | deferred =>
    refine .inl (List.filter_eq_nil_iff.mpr fun m member => ?_)
    obtain ⟨effect, held, sends⟩ := List.mem_filterMap.mp member
    rw [mem_sendErrorMessage held] at sends
    cases sends
    simp [formErrorMessage_eq]
  | rejected | renamed | helped | undecided => exact .inl rfl
  | requested _ _ kind =>
    left
    rcases kind with ⟨rfl, -⟩ | ⟨rfl, -⟩
    · simp [sendRequest, sendMessage]
    · simp [sendRequest, sendMessage]
  | spoken _ _ _ carries content =>
    right
    refine ⟨content, ?_⟩
    rw [carries]
    simp [sendRequest, sendMessage]

private theorem saidIn_text {id : UInt16} {name : Bytes}
    (named : name = [] ∨ validateDname name = true)
    (valid : validateContent line = true) :
    saidIn (header 0x04 id ++ name ++ [0] ++ line ++ [0]) =
      if name = [] then none else some (name, line) := by
  have body : (header 0x04 id ++ name ++ [0] ++ line ++ [0]).drop 3 = name ++ [0] ++ line ++ [0] := by
    simp [header]
  rcases named with rfl | named
  · rw [if_pos rfl]
    cases read : saidIn (header 0x04 id ++ [] ++ [0] ++ line ++ [0]) with
    | none => rfl
    | some said =>
      obtain ⟨dname, content, rest, -, printed, -, -, whole⟩ :=
        parseAndValidate_msg_iff.mp (body ▸ saidIn_iff.mp read)
      cases dname with
      | nil => exact absurd printed.1 (by decide)
      | cons c dname =>
        obtain ⟨rfl, -⟩ := List.cons.inj whole
        exact absurd (printed.2.2 0 (.head _)).1 (by decide)
  · have some : name ≠ [] := by
      rintro rfl
      cases named
    rw [if_neg some]
    exact saidIn_iff.mpr (body ▸ parseAndValidate_message named valid)

private theorem texts_of_silent {turn : UDPTurn}
    (silent : (sent turn.output.effects).filter (hasType 0x04) = []) :
    textsIn (originated turn) = toldOverUDP [turn] := by
  have nothing : (issued turn.output.effects).filter (hasType 0x04) = [] := by
    rw [issued, List.filter_comm, silent]
    rfl
  rw [toldOverUDP, List.filterMap_cons_none (told_of_silent silent)]
  unfold originated
  split
  · rfl
  · rw [textsIn, nothing]
    rfl

private theorem texts_of_spoken {turn : UDPTurn} {id : UInt16} {name : Bytes}
    (call : turn.output.call = .processUserInput line)
    (under : turn.before.protocolHandler.messageValidator.displayName = name)
    (spoken : (sent turn.output.effects).filter (hasType 0x04) =
      [header 0x04 id ++ name ++ [0] ++ line ++ [0]])
    (named : name = [] ∨ validateDname name = true) (content : validateContent line = true) :
    textsIn (originated turn) = toldOverUDP [turn] := by
  have datagrams : (originated turn).filter (hasType 0x04) =
      [header 0x04 id ++ name ++ [0] ++ line ++ [0]] := by
    rw [originated, call, issued, List.filter_comm, spoken]
    simp
  rw [textsIn, datagrams, List.filterMap_cons, saidIn_text named content, toldOverUDP,
    List.filterMap_cons_some (told_of_spoken call spoken), under]
  by_cases none : name = []
  · simp [none]
  · simp [none]

/-- A datagram is answered with no text. -/
theorem UDPProtocolHandler.Receipt.noText {message : Bytes} (receipt : Receipt h message outcome) :
    (sent outcome.effects).filter (hasType 0x04) = [] := by
  refine List.filter_eq_nil_iff.mpr fun m member isText => ?_
  have own : hasType 0x00 m = false := by
    by_contra confirm
    rw [Bool.not_eq_false] at confirm
    exact absurd (hasType_inj confirm isText) (by decide)
  have issues : m ∈ issued outcome.effects := List.mem_filter.mpr ⟨member, by rw [own]; rfl⟩
  rcases receipt.originates issues with error | bye
  · exact absurd (hasType_inj error isText) (by decide)
  · exact absurd (hasType_inj bye isText) (by decide)

private theorem udp_text_of_iterate (run : UDPRun server retries history loop)
    (ran : loop.iterate event = some (report, after)) :
    textsIn (originated ⟨loop, event, report, after⟩) =
      toldOverUDP [⟨loop, event, report, after⟩] := by
  obtain ⟨-, iteration⟩ := udpIteration_of_iterate ran
  cases iteration with
  | received called => exact texts_of_silent (receipt_of_processReceived called).noText
  | command called =>
    rcases (command_of_processUserInput called).texts with none | ⟨content, one⟩
    · exact texts_of_silent none
    · exact texts_of_spoken rfl rfl one (udpRun_reached run).named content
  | resend => rfl
  | lost | giveUp => exact texts_of_silent rfl
  | idle quiet =>
    refine texts_of_silent ?_
    rcases quiet with rfl | rfl <;> rfl

private theorem udp_texts (run : UDPRun server retries history loop) :
    textsIn (allOriginated history) = toldOverUDP history := by
  refine run.invariant (I := fun history _ => textsIn (allOriginated history) = toldOverUDP history)
    rfl fun {history loop event report after} run same ran => ?_
  have told : toldOverUDP (history ++ [⟨loop, event, report, after⟩]) =
      toldOverUDP history ++ toldOverUDP [⟨loop, event, report, after⟩] := by
    rw [toldOverUDP, List.filterMap_append, List.filter_append]
    rfl
  rw [told, ← udp_text_of_iterate run ran, ← same, allOriginated_snoc, textsIn, List.filter_append,
    List.filterMap_append]
  rfl

end Sender

/-! ## Over UDP: both networks -/

section Networks
variable {server serverToo : SockAddr} {retries retriesToo : UInt8} {speaking listening : List UDPTurn}
  {speaker listener : StreamHandler UDPProtocolHandler} {peer : Peer} {voice : Speaker}
  {messages more : List Bytes}

private theorem textsIn_isPrefix (initial : messages <+: more) : textsIn messages <+: textsIn more :=
  (initial.filter _).filterMap _

/-- **Over UDP.** One client talks to the server and another listens to it, over networks
that lose, repeat and reorder. If the first talks in an orderly way and the server says to
the second what it has taken of its texts, in order, the user of the second is shown what
the user of the first has said, in order and each text once, as far as it goes, and all of
it when nothing is under way. -/
theorem udp_chat_relayed (speaks : Conversation server retries speaking speaker peer)
    (orderly : Orderly speaking)
    (listens : Listening serverToo retriesToo listening listener voice)
    (relays : voice.spoken <+: textsIn peer.taken) :
    allDisplayed listening <+: toldOverUDP speaking ∧
      (speaker.protocolHandler.waitingForConfirmation = false → voice.waits = false →
        voice.spoken = textsIn peer.taken → allDisplayed listening = toldOverUDP speaking) := by
  have ordered := InOrder.of_reaches (speaks.reaches orderly)
  have initial : peer.taken <+: allOriginated speaking := ordered.isPrefix
  rw [← udp_texts speaks.run]
  refine ⟨(listens.isPrefix.trans relays).trans (textsIn_isPrefix initial), ?_⟩
  intro confirmed silent all
  have taken : peer.taken = allOriginated speaking := ordered.complete confirmed
  rw [listens.complete silent, all, taken]

/-- A text taken from the one client and said to the other. -/
theorem udp_chat_relayed_hi : ∃ speaking speaker peer listening listener voice,
    Conversation localServer 3 speaking speaker peer ∧
    Listening localServer 3 listening listener voice ∧
    toldOverUDP speaking = [(text "c", text "hi")] ∧
    allDisplayed listening = [(text "c", text "hi")] ∧
    allDisplayed listening <+: toldOverUDP speaking := by
  have typed := @Conversation.start localServer 3 |>.turn (show StreamHandler.iterate _
    (types "/auth a b c") = some (_, _) from rfl) (by simp [received])
  have taken := @Conversation.arrival _ _ _ _ _ [0x02, 0, 0, 0x61, 0, 0x63, 0, 0x62, 0] typed
    (.head _)
  have confirmed := taken.turn (show StreamHandler.iterate _ (arrives [0x00, 0, 0]) =
    some (_, _) from rfl) fun m got => by cases got; exact .head _
  have replied := (@Conversation.speech _ _ _ _ _ [0x01, 0, 5, 1, 0, 0, 0x6F, 0x6B, 0] confirmed
    rfl).turn (show StreamHandler.iterate _ (arrives [0x01, 0, 5, 1, 0, 0, 0x6F, 0x6B, 0]) =
      some (_, _) from rfl) fun m got => by cases got; exact .tail _ (.head _)
  have spoke := replied.turn (show StreamHandler.iterate _ (types "hi") = some (_, _) from rfl)
    (by simp [received])
  have arrived := @Conversation.arrival _ _ _ _ _ [0x04, 0, 1, 0x63, 0, 0x68, 0x69, 0] spoke
    (.tail _ (.tail _ (.head _)))
  have said := @Listening.say _ _ _ _ _ [0x04, 0, 6, 0x63, 0, 0x68, 0x69, 0] (listening_opened rfl)
    rfl rfl rfl (by decide) (by decide)
  have heard := said.turn (show StreamHandler.iterate _
    (arrives [0x04, 0, 6, 0x63, 0, 0x68, 0x69, 0]) = some (_, _) from rfl)
    fun m got => by cases got; exact .inl (.head _)
  refine ⟨_, _, _, _, _, _, arrived, heard, rfl, rfl,
    (udp_chat_relayed arrived ?_ heard List.prefix_rfl).1⟩
  refine orderly_of_noBye (show _ = [_, _] from rfl) ?_ (by decide)
  rintro m (_ | ⟨_, _ | ⟨_, none⟩⟩)
  · rfl
  · rfl
  · cases none

end Networks

end ChatClient
