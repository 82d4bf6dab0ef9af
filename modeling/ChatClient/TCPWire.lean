import ChatClient.TCPGrammar
import ChatClient.TCPRuns

/-! The MSG lines of one TCP client read by another.

`message_validate` puts single spaces between the fields of a line,
`validate_message_server` splits on every space and glues the tail together
again. Contents survive that whatever spaces they have. A display name survives
it exactly when it is one word, and `validate_dname` lets more than that pass. -/

namespace ChatClient

open Transition TCPMessageValidator

/-! ## Lines -/

section Lines
variable {line name content username : Bytes} {receiver validator : TCPMessageValidator}

/-- The line a text is sent as, its CRLF removed, is accepted with that text and
that name, whoever reads it. -/
def RoundTrips (validator : TCPMessageValidator) (content : Bytes) : Prop :=
  ∃ line, validator.messageValidate content = (line ++ crlf, true) ∧
    ∀ receiver : TCPMessageValidator,
      receiver.validateMessageServer line = ((content, validator.displayName), true)

private theorem validateMessageServer_message (named : validateDname name = true)
    (whole : space ∉ name)
    (valid : validateContent content = true) :
    receiver.validateMessageServer (text "MSG FROM " ++ name ++ text " IS " ++ content) =
      ((content, name), true) := by
  refine validateMessageServer_iff.mpr ⟨text "MSG", text "FROM", text "IS", rfl, rfl, rfl,
    validateDname_iff.mp ⟨named, whole⟩, validateContent_iff.mp valid, ?_⟩
  simp only [List.append_assoc]
  rfl

end Lines

/-! ## The validator of a run -/

section Validator
variable {h : TCPProtocolHandler} {outcome : Outcome TCPProtocolHandler} {line : Bytes}
  {loop after : StreamHandler TCPClient} {event : Event Recv} {report : Report Recv}
  {retries : UInt8} {history : List TCPTurn}

/-- A line from the user leads from one reached validator to another. -/
theorem TCPProtocolHandler.Command.reached (command : Command h line outcome)
    (reached : Reached h.messageValidator) : Reached outcome.handler.messageValidator := by
  cases command with
  | requested _ accepted =>
    cases accepted with
    | auth accepted => exact reached.authorized accepted
    | join => exact reached
  | renamed _ accepted => exact reached.renamed accepted
  | exit | rejected | spoken | helped | undecided => exact reached

/-- The lines of a call leave the validator alone. -/
theorem HandsOver.validator {client next : TCPClient} {chunk : Bytes} {handed : List Handed}
    (settled : client.handler.fsm.Settled) (taken : HandsOver client chunk handed next) :
    next.handler.messageValidator = client.handler.messageValidator := by
  rw [taken.handler, taken.lines]
  refine burst_induction (Q := fun h handed =>
    (lineServer.reached h handed).messageValidator = h.messageValidator) settled (fun _ => rfl) ?_
  intro h line outcome rest _ receipt ih
  rw [Service.Server.reached_cons]
  exact ih.trans receipt.validator

/-- The validator of a run is one that accepted commands lead to. -/
theorem tcpRun_reached (run : TCPRun retries history loop) :
    Reached loop.protocolHandler.handler.messageValidator := by
  refine run.invariant (I := fun _ loop => Reached loop.protocolHandler.handler.messageValidator)
    .fresh fun before reached ran => ?_
  obtain ⟨-, iteration⟩ := tcpIteration_of_iterate (tcpRun_settled before) ran
  cases iteration with
  | lines _ taken handler =>
    rw [handler, taken.validator (tcpRun_settled before)]
    exact reached
  | command called _ handler =>
    rw [handler]
    exact (TCPProtocolHandler.command_of_processUserInput called).reached reached
  | closed handler | idle _ _ handler => rwa [handler]

end Validator

/-! ## The round trip -/

section RoundTrip
variable {validator : TCPMessageValidator} {content : Bytes}

/-- A text is read back with its author's name exactly when that name is one
word. -/
theorem roundTrips_iff (reached : Reached validator) (valid : validateContent content = true) :
    RoundTrips validator content ↔ validator.displayName ≠ [] ∧ space ∉ validator.displayName := by
  have built : validator.messageValidate content =
      (text "MSG FROM " ++ validator.displayName ++ text " IS " ++ content ++ crlf, true) := by
    simp [messageValidate, valid]
  constructor
  · rintro ⟨line, -, accepted⟩
    obtain ⟨_, _, _, -, -, -, name, -⟩ := validateMessageServer_iff.mp (accepted {})
    exact name.ne_nil_and_whole
  · rintro ⟨some, whole⟩
    have named := reached.named.resolve_left some
    exact ⟨_, built, fun receiver => validateMessageServer_message named whole valid⟩

/-- A run in which the user takes a name and says something. -/
theorem roundTrips_iff_auth : ∃ history loop, TCPRun 3 history loop ∧
    history.flatMap (fun turn => sent turn.output.effects) =
      [text "AUTH a AS c USING b\r\n", text "MSG FROM c IS  hi  you \r\n"] ∧
    RoundTrips loop.protocolHandler.handler.messageValidator (text " hi  you ") := by
  have ran : tcpSample [enters "/auth a b c", streams (piece "REPLY OK IS hi\r\n"),
    enters " hi  you "] = some (_, _) := rfl
  exact ⟨_, _, Run.of_exec ran, by decide,
    (roundTrips_iff (tcpRun_reached (Run.of_exec ran)) (by decide)).mpr (by decide)⟩

/-- A name with a space in it is taken, and the line that carries it is turned
down. -/
theorem renamed_message_rejected : ∃ history loop, TCPRun 3 history loop ∧
    history.flatMap (fun turn => sent turn.output.effects) =
      [text "AUTH a AS c USING b\r\n", text "MSG FROM a b IS hi\r\n"] ∧
    (∀ receiver : TCPMessageValidator,
      (receiver.validateMessageServer (text "MSG FROM a b IS hi")).2 = false) ∧
    validateContent (text "hi") = true ∧
    ¬ RoundTrips loop.protocolHandler.handler.messageValidator (text "hi") := by
  have ran : tcpSample [enters "/auth a b c", streams (piece "REPLY OK IS hi\r\n"),
    enters "/rename a b", enters "hi"] = some (_, _) := rfl
  refine ⟨_, _, Run.of_exec ran, by decide, fun receiver => rfl, by decide, ?_⟩
  rintro ⟨line, -, accepted⟩
  obtain ⟨_, _, _, -, -, -, name, -⟩ := validateMessageServer_iff.mp (accepted {})
  exact name.ne_nil_and_whole.2 (by decide)

end RoundTrip

end ChatClient
