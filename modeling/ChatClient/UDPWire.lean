import ChatClient.Library.Separated
import ChatClient.UDPRuns

/-! The datagrams of one UDP client read by another.

Behind the header a datagram is a list of NUL-terminated fields, and no field
that passes its check holds a NUL, so the loop of `parse_and_validate` gives the
fields back. A MSG therefore shows what was said in every open session that has
not seen its ID, and its CONFIRM settles the sender. -/

namespace ChatClient

open Transition Calls UDPProtocolHandler UDPMessageValidator

/-! ## Fields -/

section Fields
variable {message response username deename secret channel dname content : Bytes}
  {fields : List Bytes} {code : UInt8} {id : UInt16} {validator : UDPMessageValidator}

/-- The word the loop of `parse_and_validate` has begun at the end of a body. -/
def leftover (message : Bytes) : Bytes := (Separated.scan 0 message).2

/-- The loop of `parse_and_validate` finds these fields behind the header, and
nothing after them. -/
def ReadsBack (datagram : Bytes) (fields : List Bytes) : Prop :=
  words (datagram.drop 3) = fields ∧ leftover (datagram.drop 3) = []

theorem words_eq_scan : words message = (Separated.scan 0 message).1 := rfl

/-- NUL-terminated fields without a NUL in them are read back. -/
theorem readsBack_join (free : ∀ field ∈ fields, 0 ∉ field) :
    ReadsBack (header code id ++ Framing.join [0] fields) fields := by
  have body : (header code id ++ Framing.join [0] fields).drop 3 = Framing.join [0] fields := rfl
  rw [ReadsBack, body, words_eq_scan, leftover, Separated.scan_join free]
  exact ⟨rfl, rfl⟩

theorem nul_not_mem_id (valid : validateId channel = true) : 0 ∉ channel :=
  not_mem_of_checkField valid rfl

theorem nul_not_mem_secret (valid : validateSecret secret = true) : 0 ∉ secret :=
  not_mem_of_checkField valid rfl

theorem nul_not_mem_dname (valid : validateDname dname = true) : 0 ∉ dname :=
  not_mem_of_checkField valid rfl

theorem nul_not_mem_content (valid : validateContent content = true) : 0 ∉ content :=
  not_mem_of_checkField valid rfl

private theorem auth_readsBack {named : UDPMessageValidator}
    (accepted : validator.authorizeValidate code id username deename secret =
      (named, response, true)) : ReadsBack response [username, deename, secret] := by
  obtain ⟨validId, validName, validSecret, -, rfl⟩ := authorizeValidate_eq accepted
  have free : ∀ field ∈ [username, deename, secret], 0 ∉ field := by
    simp [nul_not_mem_id validId, nul_not_mem_dname validName, nul_not_mem_secret validSecret]
  simpa using @readsBack_join _ code id free

/-- A JOIN carries the channel and the display name. -/
theorem join_readsBack (reached : Reached validator)
    (accepted : validator.joinValidate code id channel = (response, true)) :
    ReadsBack response [channel, validator.displayName] := by
  obtain ⟨validId, rfl⟩ := joinValidate_eq accepted
  have unnamed : 0 ∉ validator.displayName := by
    rcases reached.named with none | validName
    · simp [none]
    · exact nul_not_mem_dname validName
  have free : ∀ field ∈ [channel, validator.displayName], 0 ∉ field := by
    simp [nul_not_mem_id validId, unnamed]
  simpa using @readsBack_join _ code id free

/-- A MSG body passes as the name and the content it was built from. -/
theorem parseAndValidate_message (named : validateDname dname = true)
    (valid : validateContent content = true) :
    parseAndValidate (dname ++ [0] ++ content ++ [0]) "msg" = ([dname, content], true) := by
  have free : ∀ field ∈ [dname, content], 0 ∉ field := by
    simp [nul_not_mem_dname named, nul_not_mem_content valid]
  have body : dname ++ [0] ++ content ++ [0] = Framing.join [0] [dname, content] := by simp
  have found : words (Framing.join [0] [dname, content]) = [dname, content] := by
    rw [words_eq_scan, Separated.scan_join free]
  rw [body]
  simp only [parseAndValidate, found, named, valid, String.reduceEq, ↓reduceIte, Bool.not_true,
    Bool.false_eq_true, Bool.or_false]

private theorem length_message (named : validateDname dname = true)
    (valid : validateContent content = true) :
    (header 0x04 id ++ dname ++ [0] ++ content ++ [0]).length ≤ 1499 := by
  have short := (checkField_iff.mp named).2.1
  have bounded := (checkField_iff.mp valid).2.1
  simp only [header, List.length_append, List.length_cons, List.length_nil]
  omega

end Fields

/-! ## The validator of a run -/

section Validator
variable {h : UDPProtocolHandler} {outcome : Outcome UDPProtocolHandler} {line argument message : Bytes}
  {loop after : StreamHandler UDPProtocolHandler} {event : Event Datagram} {report : Report Datagram}
  {server : SockAddr} {retries : UInt8} {history : List UDPTurn}

@[simp] theorem sendErrorMessage_messageValidator {error : Bytes} :
    (h.sendErrorMessage error).1.messageValidator = h.messageValidator := by
  unfold sendErrorMessage
  split <;> rfl

/-- A datagram leaves the validator alone. -/
theorem UDPProtocolHandler.Receipt.validator (receipt : Receipt h message outcome) :
    outcome.handler.messageValidator = h.messageValidator := by
  cases receipt with
  | reply =>
    unfold settleReply
    split <;> rfl
  | failed => exact sendErrorMessage_messageValidator
  | byeConfirmed | errorConfirmed | confirmed | stray | repeated | shown | errorRepeated
  | errorShown | bye | undecided => rfl

private theorem reached_of_processAuth (reached : Reached h.messageValidator)
    (ran : h.processAuth argument = some outcome) : Reached outcome.handler.messageValidator := by
  have leads : Yields (h.processAuth argument) fun outcome =>
      Reached outcome.handler.messageValidator := by
    refine Yields.bind fun answer _ => .ite (fun accepted => ?_) fun unaccepted => ?_
    · rcases splitMessage argument with _ | ⟨username, _ | ⟨secret, _ | ⟨deename, _ | ⟨more, rest⟩⟩⟩⟩
      case cons.cons.cons.nil =>
        have next := reached.authorized 0x02 h.renamer3000 username deename secret
        exact .ite (fun valid => .some next) fun invalid => .some next
      all_goals exact .some reached
    · exact .ite (fun warned => .some reached) fun undecided => .some reached
  exact leads outcome ran

/-- A `/join` leaves the validator alone. -/
theorem processJoin_validator (ran : h.processJoin argument = some outcome) :
    outcome.handler.messageValidator = h.messageValidator := by
  have keeps : Yields (h.processJoin argument) fun outcome =>
      outcome.handler.messageValidator = h.messageValidator := by
    refine Yields.bind fun answer _ => .ite (fun accepted => ?_) fun unaccepted => ?_
    · rcases splitMessage argument with _ | ⟨channel, _ | ⟨more, rest⟩⟩
      case cons.nil => exact .ite (fun valid => .some rfl) fun invalid => .some rfl
      all_goals exact .some rfl
    · exact .ite (fun warned => .some rfl) fun undecided => .some rfl
  exact keeps outcome ran

/-- So does a text. -/
theorem processText_validator (ran : h.processText line = some outcome) :
    outcome.handler.messageValidator = h.messageValidator := by
  have keeps : Yields (h.processText line) fun outcome =>
      outcome.handler.messageValidator = h.messageValidator := by
    refine .ite (fun command => .some rfl) fun plain => Yields.bind fun answer _ => ?_
    refine .ite (fun accepted => ?_) fun unaccepted => ?_
    · exact .ite (fun valid => .some rfl) fun invalid => .some rfl
    · exact .ite (fun warned => .some rfl) fun undecided => .some rfl
  exact keeps outcome ran

/-- A line leads from one reached validator to another. -/
theorem reached_of_processUserInput (reached : Reached h.messageValidator)
    (ran : h.processUserInput line = some outcome) : Reached outcome.handler.messageValidator := by
  simp only [processUserInput] at ran
  split at ran
  · cases ran
    exact reached
  split at ran
  · cases ran
    simpa using reached
  cases dispatched_of_eq ran with
  | auth _ ran => exact reached_of_processAuth reached ran
  | join _ ran => rwa [processJoin_validator ran]
  | rename _ ran =>
    cases ran
    have next := reached.renamed (argumentOf line)
    simp only [processRename]
    split <;> exact next
  | help _ ran =>
    cases ran
    exact reached
  | plain _ _ _ _ ran => rwa [processText_validator ran]

private theorem reached_of_iterate (reached : Reached loop.protocolHandler.messageValidator)
    (ran : loop.iterate event = some (report, after)) :
    Reached after.protocolHandler.messageValidator := by
  obtain ⟨-, iteration⟩ := udpIteration_of_iterate ran
  cases iteration with
  | received called _ handler =>
    rw [handler, (receipt_of_processReceived called).validator]
    exact reached
  | command called _ handler =>
    rw [handler]
    exact reached_of_processUserInput reached called
  | lost handler | resend _ handler | giveUp _ handler | idle _ handler => rwa [handler]

/-- The validator of a run is one a sequence of calls can lead to. -/
theorem udpRun_reached (run : UDPRun server retries history loop) :
    Reached loop.protocolHandler.messageValidator :=
  run.invariant (I := fun _ loop => Reached loop.protocolHandler.messageValidator) .fresh
    fun _ reached ran => reached_of_iterate reached ran

end Validator

/-! ## The round trip -/

section RoundTrip
variable {dname content : Bytes} {id : UInt16}

/-- Every open session of a run that has not seen the ID shows the name and the
content of the datagram, and confirms it to whoever sent it. -/
def ShownOnce (id : UInt16) (dname content : Bytes) (datagram : RecvBuffer) : Prop :=
  ∀ {server : SockAddr} {retries : UInt8} {history : List UDPTurn}
    {loop : StreamHandler UDPProtocolHandler} (fromAddr : SockAddr),
    UDPRun server retries history loop → loop.protocolHandler.fsm.currentState = .opened →
    id ∉ loop.protocolHandler.receivedIds →
    ∃ outcome, loop.protocolHandler.processServerMessage (.received fromAddr datagram) = some outcome ∧
      outcome.effects = [.sendto fromAddr (header 0x00 id), .messageFromServer dname content]

/-- The datagram takes a sender that awaits the ID, and nothing more, out of its
wait. -/
def Settles (id : UInt16) (confirm : RecvBuffer) : Prop :=
  ∀ (sender : UDPProtocolHandler) (fromAddr : SockAddr), sender.awaitedConirmId = id →
    sender.waitingForConfirmation = true → sender.awaitingOver = false →
    sender.errorSent = false → sender.waitingForReply = false →
    sender.processServerMessage (.received fromAddr confirm) =
      some ⟨{ sender with
          serverAddress := fromAddr
          awaitedConirmId := noId
          waitingForConfirmation := false }, [], some .readyForInput⟩

/-- A datagram is processed from its sender's address, and the flag decides over
what that returned. -/
theorem processServerMessage_of_processReceived {h : UDPProtocolHandler} {fromAddr : SockAddr}
    {datagram : RecvBuffer} {inner : Outcome UDPProtocolHandler}
    (ran : { h with serverAddress := fromAddr }.processReceived datagram.val = some inner) :
    h.processServerMessage (.received fromAddr datagram) = some (overrule inner) := by
  simp [processServerMessage, ran]

private theorem shownOnce_message (named : validateDname dname = true)
    (valid : validateContent content = true) :
    ShownOnce id dname content
      ⟨header 0x04 id ++ dname ++ [0] ++ content ++ [0], length_message named valid⟩ := by
  intro server retries history loop fromAddr run opened fresh
  have body : parseAndValidate ((header 0x04 id ++ dname ++ [0] ++ content ++ [0]).drop 3) "msg" =
      ([dname, content], true) := parseAndValidate_message named valid
  have asked := (udpRun_legal run).accepts_spoken opened (.inl rfl)
  have identified : messageId (header 0x04 id ++ dname ++ [0] ++ content ++ [0]) = some id := by
    simp only [List.append_assoc, messageId_header]
  have processed : { loop.protocolHandler with serverAddress := fromAddr }.processReceived
      (header 0x04 id ++ dname ++ [0] ++ content ++ [0]) = some _ :=
    processReceived_message rfl identified body asked
  refine ⟨_, processServerMessage_of_processReceived processed, ?_⟩
  rw [if_neg fresh]
  rfl

private theorem settles_confirm (confirm : RecvBuffer) (read : confirm.val = header 0x00 id) :
    Settles id confirm := by
  intro sender fromAddr awaits _ goes sound idle
  have type : confirm.val[0]? = some 0x00 := by
    rw [read]
    rfl
  have identified : messageId confirm.val = some sender.awaitedConirmId := by
    rw [read, messageId_confirm, awaits]
  have processed : { sender with serverAddress := fromAddr }.processReceived confirm.val = some _ :=
    processReceived_confirm type identified goes sound
  rw [processServerMessage_of_processReceived processed]
  simp [overrule, idle]

/-- A MSG fits a datagram, is shown once wherever it arrives in an open session,
and its CONFIRM settles its sender; the fields of an AUTH and of a JOIN are read
back. -/
theorem datagrams_round_trip (id : UInt16) (named : validateDname dname = true)
    (valid : validateContent content = true) :
    (∃ datagram confirm : RecvBuffer,
      messageValidate ⟨dname⟩ 0x04 id content = (datagram.val, true) ∧
      confirm.val = header 0x00 id ∧ ShownOnce id dname content datagram ∧ Settles id confirm) ∧
    (∀ (validator after : UDPMessageValidator) (code : UInt8) (messageID : UInt16)
      (username deename secret response : Bytes),
      validator.authorizeValidate code messageID username deename secret = (after, response, true) →
      ReadsBack response [username, deename, secret]) ∧
    (∀ (validator : UDPMessageValidator) (code : UInt8) (messageID : UInt16)
      (channel response : Bytes), Reached validator →
      validator.joinValidate code messageID channel = (response, true) →
      ReadsBack response [channel, validator.displayName]) :=
  ⟨⟨_, ⟨header 0x00 id, by simp [header]⟩, messageValidate_eq valid, rfl,
      shownOnce_message named valid, settles_confirm _ rfl⟩,
    fun _ _ _ _ _ _ _ _ accepted => auth_readsBack accepted,
    fun _ _ _ _ _ reached accepted => join_readsBack reached accepted⟩

/-- A text that crosses into a session opened by an AUTH and its reply, and the
way back of its CONFIRM. -/
theorem datagrams_round_trip_hello : ∃ datagram confirm : RecvBuffer,
    messageValidate ⟨text "ann"⟩ 0x04 0x0102 (text "hi all") = (datagram.val, true) ∧
    confirm.val = [0x00, 1, 2] ∧
    (∃ history loop outcome, UDPRun localServer 3 history loop ∧
      loop.protocolHandler.processServerMessage (.received localServer datagram) = some outcome ∧
      outcome.effects =
        [.sendto localServer confirm.val, .messageFromServer (text "ann") (text "hi all")]) ∧
    ∃ outcome,
      processServerMessage
        { serverAddress := localServer, awaitedConirmId := 0x0102, waitingForConfirmation := true }
        (.received localServer confirm) = some outcome ∧
      outcome.handler.waitingForConfirmation = false ∧ outcome.returned = some .readyForInput := by
  obtain ⟨⟨datagram, confirm, built, read, shown, settles⟩, -⟩ :=
    @datagrams_round_trip (text "ann") (text "hi all") 0x0102 (by decide) (by decide)
  have ran : sample [types "/auth a b c", arrives [0x00, 0, 0],
    arrives [0x01, 0, 5, 1, 0, 0, 0x6F, 0x6B, 0]] = some (_, _) := rfl
  obtain ⟨outcome, called, effects⟩ := shown localServer (Run.of_exec ran) rfl (by decide)
  refine ⟨datagram, confirm, built, read, ⟨_, _, outcome, Run.of_exec ran, called, ?_⟩, ?_⟩
  · rw [effects, read]
  · exact ⟨_, settles _ localServer rfl rfl rfl rfl rfl, rfl, rfl⟩

end RoundTrip

end ChatClient
