import ChatClient.TCPWire

/-! What the TCP client puts on the stream is read as the lines it sent.

Every line is put together from words of the code, fields that passed their
check, the display name, and in one place a name the server's own line carried.
None of these holds a CR or an LF, so the CRLF at the end of a line is the only
one in it. -/

namespace ChatClient

open Transition TCPMessageValidator TCPProtocolHandler Framing

variable {h : TCPProtocolHandler} {line : Bytes} {outcome : Outcome TCPProtocolHandler}
  {validator : TCPMessageValidator} {retries : UInt8} {history : List TCPTurn}
  {loop after : StreamHandler TCPClient} {event : Event Recv} {report : Report Recv}

/-- Bytes with neither of the two characters a CRLF is made of. -/
abbrev Unbroken (bytes : Bytes) : Prop := (0x0D : UInt8) ∉ bytes ∧ (0x0A : UInt8) ∉ bytes

/-- A message that ends in CRLF and holds no other CR and no other LF. -/
def OneLine (message : Bytes) : Prop := ∃ line, message = line ++ crlf ∧ Unbroken line

/-- Everything a run passes to `send_message`, in order. -/
def sentIn (history : List TCPTurn) : List Bytes :=
  history.flatMap fun turn => sent turn.output.effects

/-- Some effects send nothing but lines. -/
def SendsLines (effects : List Effect) : Prop := ∀ message ∈ sent effects, OneLine message

/-! ## The pieces of a line -/

theorem unbroken_append {first second : Bytes} :
    Unbroken (first ++ second) ↔ Unbroken first ∧ Unbroken second := by
  simp only [Unbroken, List.mem_append, not_or]
  exact and_and_and_comm

private theorem unbroken_of_checkField {limit : Nat} {allowed : UInt8 → Bool} {field : Bytes}
    (passes : checkField limit allowed field = true) (cr : allowed 0x0D = false)
    (lf : allowed 0x0A = false) : Unbroken field :=
  ⟨not_mem_of_checkField passes cr, not_mem_of_checkField passes lf⟩

private theorem unbroken_of_validateId {field : Bytes} (valid : validateId field = true) :
    Unbroken field :=
  unbroken_of_checkField valid rfl rfl

private theorem unbroken_of_validateSecret {field : Bytes} (valid : validateSecret field = true) :
    Unbroken field :=
  unbroken_of_checkField valid rfl rfl

theorem unbroken_of_validateContent {field : Bytes} (valid : validateContent field = true) :
    Unbroken field :=
  unbroken_of_checkField valid rfl rfl

theorem unbroken_of_validateDname {field : Bytes} (valid : validateDname field = true) :
    Unbroken field :=
  unbroken_of_checkField valid rfl rfl

private theorem unbroken_of_upper {word : Bytes} (unbroken : Unbroken (upper word)) :
    Unbroken word := by
  have stays {c : UInt8} (same : toupper c = c) (free : c ∉ upper word) : c ∉ word := by
    intro member
    exact free (List.mem_map.mpr ⟨c, member, same⟩)
  exact ⟨stays rfl unbroken.1, stays rfl unbroken.2⟩

private theorem unbroken_displayName (reached : Reached validator) :
    Unbroken validator.displayName := by
  rcases reached.named with none | valid
  · rw [none]
    decide
  · exact unbroken_of_validateDname valid

/-- The name answered to a MSG that fails its check: the client's own, or the one
the line gave, which has passed its check in capitals. -/
theorem unbroken_username (named : Unbroken validator.displayName) :
    Unbroken (validator.validateMessageServer line).1.2 := by
  unfold validateMessageServer
  split
  · split
    · exact named
    split
    · exact named
    · rename_i valid
      exact unbroken_of_upper (unbroken_of_validateDname (by simpa using valid))
  · exact named

/-! ## The lines -/

private theorem oneLine_bye : OneLine (text "BYE" ++ crlf) := ⟨_, rfl, by decide⟩

private theorem oneLine_error {user error : Bytes} (named : Unbroken user) (plain : Unbroken error) :
    OneLine (text "ERR FROM " ++ user ++ text " IS " ++ error ++ crlf) := by
  refine ⟨_, rfl, ?_⟩
  simp only [unbroken_append]
  exact ⟨⟨⟨by decide, named⟩, by decide⟩, plain⟩

private theorem oneLine_authorize {named : TCPMessageValidator} {argument request : Bytes}
    (accepted : validator.authorizeValidate argument = (named, request, true)) :
    OneLine request := by
  obtain ⟨id, secret, dname, parts, validId, validSecret, validName⟩ :=
    authorizeValidate_accepted (by rw [accepted])
  simp only [authorizeValidate, parts, validId, validSecret, validName, Bool.not_true,
    Bool.false_eq_true, ↓reduceIte, Prod.mk.injEq] at accepted
  obtain ⟨-, rfl, -⟩ := accepted
  refine ⟨_, rfl, ?_⟩
  simp only [unbroken_append]
  exact ⟨⟨⟨⟨⟨by decide, unbroken_of_validateId validId⟩, by decide⟩,
    unbroken_of_validateDname validName⟩, by decide⟩, unbroken_of_validateSecret validSecret⟩

private theorem oneLine_join {argument request : Bytes} (named : Unbroken validator.displayName)
    (accepted : validator.joinValidate argument = (request, true)) : OneLine request := by
  unfold joinValidate at accepted
  split at accepted
  · split at accepted
    · cases accepted
    · rename_i valid
      obtain ⟨rfl, -⟩ := Prod.mk.inj accepted
      refine ⟨_, rfl, ?_⟩
      simp only [unbroken_append]
      exact ⟨⟨⟨by decide, unbroken_of_validateId (by simpa using valid)⟩, by decide⟩, named⟩
  · cases accepted

private theorem oneLine_message {argument response : Bytes} (named : Unbroken validator.displayName)
    (accepted : validator.messageValidate argument = (response, true)) : OneLine response := by
  obtain ⟨valid, rfl⟩ := messageValidate_eq accepted
  refine ⟨_, rfl, ?_⟩
  simp only [unbroken_append]
  exact ⟨⟨⟨by decide, named⟩, by decide⟩, unbroken_of_validateContent valid⟩

/-! ## One call -/

private theorem sendsLines_nil : SendsLines [] := by
  intro message member
  cases member

private theorem sendsLines_append {first second : List Effect} :
    SendsLines (first ++ second) ↔ SendsLines first ∧ SendsLines second := by
  simp only [SendsLines, sent_append, List.mem_append, or_imp, forall_and]

private theorem sendsLines_send {message : Bytes} (oneLine : OneLine message) :
    SendsLines [.send message] := by
  intro other member
  rwa [List.mem_singleton.mp member]

private theorem sendsLines_quiet {effect : Effect} (quiet : effect.sent = none) : SendsLines
    [effect] := by
  intro message member
  rw [sent, List.filterMap_cons_none quiet] at member
  cases member

private theorem sendsLines_failWith {user : Bytes} {error : String} (named : Unbroken user)
    (plain : Unbroken (text error)) : SendsLines (h.failWith user error).effects := by
  intro message member
  rcases List.mem_cons.mp member with rfl | member
  · exact oneLine_error named plain
  · rw [List.mem_singleton.mp member]
    exact oneLine_bye

private theorem sendsLines_of_refusal {reaction : Action} {user : Bytes} {error : String}
    {returned : Option ClientState} (named : Unbroken user) (plain : Unbroken (text error))
    (ran : (if reaction = .errorUser then some (h.failWith user error)
      else some ⟨h, [], returned⟩) = some outcome) : SendsLines outcome.effects := by
  split at ran
  · cases ran
    exact sendsLines_failWith named plain
  · cases ran
    exact sendsLines_nil

private theorem sendsLines_processMessage (named : Unbroken h.messageValidator.displayName)
    (ran : h.processMessage line = some outcome) : SendsLines outcome.effects := by
  obtain ⟨⟨reaction, fsm⟩, -, ran⟩ := Option.bind_eq_some_iff.mp ran
  simp only at ran
  split at ran
  · split at ran
    · cases ran
      exact sendsLines_quiet rfl
    · cases ran
      exact sendsLines_failWith (unbroken_username named) (by decide)
  · exact sendsLines_of_refusal (by decide) (by decide) ran

private theorem sendsLines_processReply {action : Action} {display : Bytes → Effect}
    (named : Unbroken h.messageValidator.displayName)
    (quiet : ∀ content, (display content).sent = none)
    (ran : h.processReply line action display = some outcome) : SendsLines outcome.effects := by
  obtain ⟨⟨reaction, fsm⟩, -, ran⟩ := Option.bind_eq_some_iff.mp ran
  simp only at ran
  split at ran
  · split at ran
    · split at ran
      · cases ran
        exact sendsLines_quiet (quiet _)
      · cases ran
        exact sendsLines_nil
    · cases ran
      exact sendsLines_failWith named (by decide)
  · exact sendsLines_of_refusal named (by decide) ran

private theorem sendsLines_processError (named : Unbroken h.messageValidator.displayName)
    (ran : h.processError line = some outcome) : SendsLines outcome.effects := by
  obtain ⟨⟨reaction, fsm⟩, -, ran⟩ := Option.bind_eq_some_iff.mp ran
  simp only at ran
  split at ran
  · split at ran
    · cases ran
      exact (@sendsLines_append [_] _).mpr ⟨sendsLines_quiet rfl, sendsLines_send oneLine_bye⟩
    · cases ran
      exact sendsLines_failWith named (by decide)
  · exact sendsLines_of_refusal named (by decide) ran

private theorem sendsLines_processBye (named : Unbroken h.messageValidator.displayName)
    (ran : h.processBye = some outcome) : SendsLines outcome.effects := by
  obtain ⟨⟨reaction, fsm⟩, -, ran⟩ := Option.bind_eq_some_iff.mp ran
  simp only at ran
  split at ran
  · cases ran
    exact sendsLines_nil
  · exact sendsLines_of_refusal named (by decide) ran

private theorem sendsLines_processReceived (named : Unbroken h.messageValidator.displayName)
    (ran : h.processReceived line = some outcome) : SendsLines outcome.effects := by
  cases branchOfKeyword ran with
  | message _ ran => exact sendsLines_processMessage named ran
  | reply reply ran =>
    cases reply with
    | positive | negative => exact sendsLines_processReply named (fun _ => rfl) ran
  | nameless _ _ _ same =>
    rw [same]
    exact sendsLines_nil
  | error _ ran => exact sendsLines_processError named ran
  | bye _ ran => exact sendsLines_processBye named ran
  | unknown _ same =>
    -- the answer to an unknown command is shown before it goes out
    have answer : SendsLines (h.failWith h.messageValidator.displayName "Invalid command").effects :=
      sendsLines_failWith named (by decide)
    rw [same]
    exact (@sendsLines_append [_] _).mpr ⟨sendsLines_quiet rfl, answer⟩

/-- A line from the user is sent as one line, or not at all. -/
theorem TCPProtocolHandler.Command.sendsLines (command : Command h line outcome)
    (named : Unbroken h.messageValidator.displayName) : SendsLines outcome.effects := by
  cases command with
  | exit => exact sendsLines_send oneLine_bye
  | requested _ accepted =>
    cases accepted with
    | auth accepted => exact sendsLines_send (oneLine_authorize accepted)
    | join accepted => exact sendsLines_send (oneLine_join named accepted)
  | spoken _ _ accepted => exact sendsLines_send (oneLine_message named accepted)
  | rejected | helped => exact sendsLines_quiet rfl
  | renamed | undecided => exact sendsLines_nil

/-! ## Runs -/

/-- All the lines of a call are taken by the same validator. -/
theorem HandsOver.same_validator {client next : TCPClient} {chunk : Bytes} {handed : List Handed}
    (settled : client.handler.fsm.Settled) (taken : HandsOver client chunk handed next) :
    ∀ line ∈ handed, line.before.messageValidator = client.handler.messageValidator := by
  rw [taken.lines]
  refine burst_induction (Q := fun h handed =>
    ∀ line ∈ handed, line.before.messageValidator = h.messageValidator) settled (by simp) ?_
  intro h line outcome rest _ receipt ih other member
  rcases List.mem_cons.mp member with rfl | later
  · rfl
  · exact (ih other later).trans receipt.validator

private theorem sendsLines_of_iterate (run : TCPRun retries history loop)
    (ran : loop.iterate event = some (report, after)) : SendsLines report.effects := by
  have settled := tcpRun_settled run
  have named := unbroken_displayName (tcpRun_reached run)
  have errors (count : Nat) : SendsLines (List.replicate count (.perror (text "recv"))) := by
    intro message member
    simp [sent, Effect.sent] at member
  obtain ⟨-, iteration⟩ := tcpIteration_of_iterate settled ran
  cases iteration with
  | lines hands taken =>
    refine sendsLines_append.mpr ⟨errors _, fun message member => ?_⟩
    obtain ⟨effect, within, puts⟩ := List.mem_filterMap.mp member
    obtain ⟨line, handed, within⟩ := List.mem_flatMap.mp within
    have processed := (taken.mem settled line handed).2
    refine sendsLines_processReceived ?_ processed message (List.mem_filterMap.mpr ⟨_, within, puts⟩)
    rwa [taken.same_validator settled line handed]
  | closed => exact sendsLines_append.mpr ⟨errors _, sendsLines_quiet rfl⟩
  | command called => exact (command_of_processUserInput called).sendsLines named
  | idle _ silent =>
    rcases silent with rfl | rfl
    · exact sendsLines_nil
    · exact sendsLines_quiet rfl

private theorem cut_lines {messages : List Bytes} (lines : ∀ message ∈ messages, OneLine message) :
    ∃ frames : List Bytes, messages = frames.map (fun frame => frame ++ crlf) ∧
      cut crlf messages.flatten.length messages.flatten = (frames, []) := by
  have frames : ∃ frames : List Bytes, messages = frames.map (fun frame => frame ++ crlf) ∧
      ∀ frame ∈ frames, Unbroken frame := by
    induction messages with
    | nil => exact ⟨[], rfl, by simp⟩
    | cons message messages ih =>
      obtain ⟨frame, rfl, unbroken⟩ := lines _ (.head _)
      obtain ⟨frames, rfl, rest⟩ := ih fun other member => lines other (.tail _ member)
      exact ⟨frame :: frames, rfl, List.forall_mem_cons.mpr ⟨unbroken, rest⟩⟩
  obtain ⟨frames, rfl, unbroken⟩ := frames
  refine ⟨frames, rfl, ?_⟩
  rw [cut_eq_feed crlf_ne_nil (Nat.le_refl _), ← List.flatMap_def]
  have shape : crlf = [0x0D] ++ [0x0A] := rfl
  exact feed_join crlf_ne_nil fun frame member =>
    clean_of_not_mem shape (by decide) (unbroken frame member).2

/-- No line is injected: everything a run sends is one line each, and the loop that
finds and erases line ends takes exactly the sent messages off the stream. -/
theorem sent_line_by_line (run : TCPRun retries history loop) :
    (∀ message ∈ sentIn history, OneLine message) ∧
      ∃ lines : List Bytes, sentIn history = lines.map (fun line => line ++ crlf) ∧
        cut crlf (sentIn history).flatten.length (sentIn history).flatten = (lines, []) := by
  have lines : ∀ message ∈ sentIn history, OneLine message := by
    intro message member
    obtain ⟨turn, taken, puts⟩ := List.mem_flatMap.mp member
    obtain ⟨before, later, rfl⟩ := List.append_of_mem taken
    exact sendsLines_of_iterate run.split.1 run.split.2 message puts
  exact ⟨lines, cut_lines lines⟩

/-- The user tries carriage returns, and the server a content that fails its check
under a name of its own. -/
theorem sent_line_by_line_returns : ∃ history loop, TCPRun 3 history loop ∧
    sentIn history = [text "AUTH a AS c USING b\r\n", text "ERR FROM d IS Invalid message format\r\n",
      text "BYE\r\n"] ∧
    (∀ message ∈ sentIn history, OneLine message) ∧
    ∃ lines : List Bytes, sentIn history = lines.map (fun line => line ++ crlf) ∧
      cut crlf (sentIn history).flatten.length (sentIn history).flatten = (lines, []) := by
  have ran : tcpSample [enters "/auth a b c", streams (piece "REPLY OK IS hi\r\n"),
    enters "/join d\r", enters "hi\rBYE", streams (piece "MSG FROM d IS \r\r\n")] =
    some (_, _) := rfl
  exact ⟨_, _, Run.of_exec ran, by decide, sent_line_by_line (Run.of_exec ran)⟩

end ChatClient
