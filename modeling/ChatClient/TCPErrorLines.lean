import ChatClient.TCPLines

/-! The ERR lines the TCP client sends in OPEN.

An error branch puts a name of its own choice into its ERR. In OPEN that is the
client's display name but in one branch: a MSG whose content fails its check is
answered in the name it came with. Otherwise the ERR is read back as the client's. -/

namespace ChatClient

open Transition FSMValidate TCPMessageValidator TCPProtocolHandler

variable {retries : UInt8} {h : TCPProtocolHandler} {line user dname content : Bytes}
  {outcome : Outcome TCPProtocolHandler}

/-- The texts of the error branches that are reached in OPEN. -/
def openErrors : List String :=
  ["Invalid message format", "Invalid reply format", "Invalid error message", "Invalid command"]

/-- A line, as sent, is an ERR in the name of `dname`. -/
def SpeaksFor (dname message : Bytes) : Prop :=
  ∃ line error, message = line ++ crlf ∧ validateErrorServer line = ((error, dname), true)

/-- Every ERR that is sent is one of the client's. -/
def SpeaksForClient (h : TCPProtocolHandler) (outcome : Outcome TCPProtocolHandler) : Prop :=
  ∀ message ∈ sent outcome.effects, isErrorLine message = true →
    SpeaksFor h.messageValidator.displayName message

/-- A MSG of another name, whose content is none of the grammar. -/
def AnswersInItsName (own line : Bytes) : Prop :=
  ∃ dname content, SpokenWords "MSG" dname content line ∧ IsDname dname ∧ ¬ IsContent content ∧
    dname ≠ own

/-! ## The machine in OPEN -/

/-- In OPEN the machine agrees to whatever a line asks. -/
theorem FSMValidate.Legal.opened_agrees {fsm : FSMValidate} {action : Action} (legal : fsm.Legal)
    (opened : fsm.currentState = .opened) (line : LineAction action) :
    ∃ after, fsm.validateAction action = some (.any, after) := by
  cases legal with
  | opened =>
    rcases line with (rfl | rfl | rfl | rfl) | rfl
    all_goals exact ⟨_, rfl⟩
  | fresh | started | authorizing | requested | refused | faulted | closing => cases opened

/-! ## One ERR line -/

private theorem speaksFor_iff {own : Bytes} {error : String} (known : error ∈ openErrors)
    (named : IsDname user) :
    SpeaksFor own (text "ERR FROM " ++ user ++ text " IS " ++ text error ++ crlf) ↔ user = own := by
  have valid : ∀ error ∈ openErrors, validateContent (text error) = true := by decide
  have spoken : SpokenLine "ERR" user (text error)
      (text "ERR FROM " ++ user ++ text " IS " ++ text error) := by
    refine ⟨text "ERR", text "FROM", text "IS", by decide, by decide, by decide, named,
      validateContent_iff.mp (valid error known), ?_⟩
    have first : text "ERR FROM " = text "ERR" ++ [space] ++ text "FROM" ++ [space] := by decide
    have second : text " IS " = [space] ++ text "IS" ++ [space] := by decide
    rw [first, second]
    simp only [List.append_assoc]
  have decoded := validateErrorServer_iff.mpr spoken
  constructor
  · rintro ⟨line, told, same, accepted⟩
    obtain rfl := List.append_cancel_right same
    cases decoded.symm.trans accepted
    rfl
  · rintro rfl
    exact ⟨_, _, rfl, decoded⟩

/-- An error branch speaks for the client exactly when the name it puts in is the
client's. -/
theorem speaksForClient_failWith {fsm : FSMValidate} {error : String} (known : error ∈ openErrors)
    (named : IsDname user) :
    SpeaksForClient h ({ h with fsm := fsm }.failWith user error) ↔
      user = h.messageValidator.displayName := by
  rw [← speaksFor_iff known named]
  constructor
  · intro speaks
    exact speaks _ (.head _) (by simp only [List.append_assoc]; rfl)
  · intro speaks message member error
    rcases List.mem_cons.mp member with rfl | member
    · exact speaks
    · rw [List.mem_singleton.mp member] at error
      cases error

private theorem speaksForClient_of_none
    (none : ∀ message ∈ sent outcome.effects, isErrorLine message = false) :
    SpeaksForClient h outcome := by
  intro message member error
  rw [none message member] at error
  cases error

/-! ## The name of a MSG that fails -/

section Message
variable {validator : TCPMessageValidator} {response : Bytes}

/-- A MSG that fails its check is answered in the client's name, unless it fails only
in its content. -/
theorem name_of_failed (failed : validator.validateMessageServer line = ((response, user), false)) :
    user = validator.displayName ∨
      ∃ content, SpokenWords "MSG" user content line ∧ IsDname user ∧ ¬ IsContent content := by
  unfold validateMessageServer at failed
  split at failed
  · rename_i word frm name is first others words
    split at failed
    · cases failed
      exact .inl rfl
    rename_i keywords
    split at failed
    · cases failed
      exact .inl rfl
    rename_i named
    simp only [not_or, ne_eq, not_not] at keywords
    obtain ⟨isMsg, isFrom, isIs⟩ := keywords
    simp only [Prod.mk.injEq] at failed
    obtain ⟨⟨whole, rfl⟩, invalid⟩ := failed
    have spoken : SpokenWords "MSG" name (glued (first :: others)) line :=
      (spokenWords_iff (by decide)).mpr
        ⟨word, frm, is, first, others, words, isMsg, isFrom, isIs, rfl⟩
    have oneWord : space ∉ name := by
      obtain ⟨-, -, -, -, -, -, oneWord, -⟩ := spoken
      exact oneWord
    refine .inr ⟨glued (first :: others), spoken, ?_, fun valid => ?_⟩
    · exact validateDname_iff.mp ⟨validateDname_upper_iff.mp (by simpa using named), oneWord⟩
    · cases invalid.symm.trans (validateContent_iff.mpr valid)
  · cases failed
    exact .inl rfl

private theorem failed_of_content (spoken : SpokenWords "MSG" dname content line)
    (named : IsDname dname)
    (invalid : ¬ IsContent content) :
    validator.validateMessageServer line = ((content, dname), false) := by
  obtain ⟨word, frm, is, first, others, words, isMsg, isFrom, isIs, rfl⟩ :=
    (spokenWords_iff (by decide)).mp spoken
  have valid := validateDname_upper_iff.mpr (validateDname_iff.mpr named).1
  have refused : validateContent (glued (first :: others)) = false := by
    rw [← Bool.not_eq_true, validateContent_iff]
    exact invalid
  simp only [glued] at refused ⊢
  simp only [validateMessageServer, words, isMsg, isFrom, isIs, valid, refused, ne_eq,
    not_true_eq_false, or_self, Bool.not_true, Bool.false_eq_true, ↓reduceIte]

private theorem command_of_answersInItsName {own : Bytes} (answers : AnswersInItsName own line) :
    upper ((splitMessage line).headD []) = text "MSG" := by
  obtain ⟨dname, content, spoken, -⟩ := answers
  obtain ⟨word, frm, is, first, others, words, isMsg, -⟩ := (spokenWords_iff (by decide)).mp spoken
  rw [words]
  exact isMsg

end Message

/-! ## The branches in OPEN -/

section Branches
variable (legal : h.fsm.Legal) (opened : h.fsm.currentState = .opened)
  (named : IsDname h.messageValidator.displayName)
include legal opened named

private theorem speaks_message_iff (ran : h.processMessage line = some outcome) :
    SpeaksForClient h outcome ↔ ¬ AnswersInItsName h.messageValidator.displayName line := by
  obtain ⟨fsm, asked⟩ := legal.opened_agrees opened (.inl (.inl rfl))
  simp only [processMessage, asked, Option.bind_eq_bind, Option.bind_some, ↓reduceIte] at ran
  cases checked : h.messageValidator.validateMessageServer line with
  | mk fields success =>
  obtain ⟨response, user⟩ := fields
  simp only [checked] at ran
  cases success with
  | true =>
    cases ran
    refine iff_of_true (speaksForClient_of_none fun _ member => by cases member) ?_
    rintro ⟨dname, content, spoken, isName, invalid, -⟩
    cases checked.symm.trans (failed_of_content spoken isName invalid)
  | false =>
    cases ran
    rcases name_of_failed checked with own | ⟨content, spoken, isName, invalid⟩
    · rw [own, speaksForClient_failWith (by decide) named]
      refine iff_of_true rfl ?_
      rintro ⟨dname, content, spoken, isName, invalid, another⟩
      cases checked.symm.trans (failed_of_content spoken isName invalid)
      exact another own
    · rw [speaksForClient_failWith (by decide) isName]
      constructor
      · rintro same ⟨dname, content, spoken, isName, invalid, another⟩
        cases checked.symm.trans (failed_of_content spoken isName invalid)
        exact another same
      · intro own
        by_contra another
        exact own ⟨user, content, spoken, isName, invalid, another⟩

private theorem speaks_reply {action : Action} {display : Bytes → Effect}
    (reply : ReplyLine line action display)
    (ran : h.processReply line action display = some outcome) : SpeaksForClient h outcome := by
  obtain ⟨fsm, asked⟩ := legal.opened_agrees opened (Names.reply reply).lineAction
  have shows : ∀ content, (display content).sent = none := by
    intro content
    cases reply <;> rfl
  simp only [processReply, asked, Option.bind_eq_bind, Option.bind_some, ↓reduceIte] at ran
  split at ran
  · split at ran
    · cases ran
      exact speaksForClient_of_none (by simp [sent, shows])
    · cases ran
      exact speaksForClient_of_none (by simp)
  · cases ran
    exact (speaksForClient_failWith (by decide) named).mpr rfl

private theorem speaks_error (ran : h.processError line = some outcome) :
    SpeaksForClient h outcome := by
  obtain ⟨fsm, asked⟩ := legal.opened_agrees opened (.inl (.inr (.inr (.inr rfl))))
  simp only [processError, asked, Option.bind_eq_bind, Option.bind_some, ↓reduceIte] at ran
  split at ran
  · cases ran
    refine speaksForClient_of_none ?_
    intro message member
    rw [List.mem_singleton.mp member]
    rfl
  · cases ran
    exact (speaksForClient_failWith (by decide) named).mpr rfl

omit named in
private theorem speaks_bye (ran : h.processBye = some outcome) : SpeaksForClient h outcome := by
  obtain ⟨fsm, asked⟩ := legal.opened_agrees opened (.inr rfl)
  simp only [processBye, asked, Option.bind_eq_bind, Option.bind_some, ↓reduceIte] at ran
  cases ran
  exact speaksForClient_of_none (by simp)

omit legal opened in
private theorem speaks_unknown : SpeaksForClient h h.processUnknown :=
  (@speaksForClient_failWith h _ h.fsm "Invalid command" (by decide) named).mpr rfl

end Branches

/-- In OPEN every ERR is in the client's name unless a MSG of another name fails only
in its content. -/
theorem speaksForClient_iff (reached : ReachedHandler retries h)
    (opened : h.fsm.currentState = .opened) (named : IsDname h.messageValidator.displayName)
    (ran : h.processReceived line = some outcome) :
    SpeaksForClient h outcome ↔ ¬ AnswersInItsName h.messageValidator.displayName line := by
  have legal : h.fsm.Legal := by
    rcases settled_cases (reachedHandler_settled reached) with legal | closed
    · exact legal
    · cases opened.symm.trans closed.1
  -- Only a line of the MSG branch can be answered in another name.
  have others (own : SpeaksForClient h outcome)
      (noMessage : upper ((splitMessage line).headD []) ≠ text "MSG") :
      SpeaksForClient h outcome ↔ ¬ AnswersInItsName h.messageValidator.displayName line :=
    iff_of_true own fun answers => noMessage (command_of_answersInItsName answers)
  have differ : text "REPLY" ≠ text "MSG" ∧ text "ERR" ≠ text "MSG" ∧ text "BYE" ≠ text "MSG" := by
    decide
  cases branchOfKeyword ran with
  | message _ ran => exact speaks_message_iff legal opened named ran
  | reply reply ran =>
    apply others (speaks_reply legal opened named reply ran)
    cases reply with
    | positive command | negative command => exact fun same => differ.1 (command.symm.trans same)
  | nameless command _ _ same =>
    rw [same]
    apply iff_of_true (speaksForClient_of_none fun _ member => by cases member)
    exact fun answers => differ.1 (command.symm.trans (command_of_answersInItsName answers))
  | error command ran =>
    apply others (speaks_error legal opened named ran)
    exact fun same => differ.2.1 (command.symm.trans same)
  | bye command ran =>
    apply others (speaks_bye legal opened ran)
    exact fun same => differ.2.2 (command.symm.trans same)
  | unknown unnamed same =>
    apply others (same ▸ speaks_unknown named)
    exact fun command => unnamed _ (.message command)

/-- A REPLY that fails in OPEN is answered in the client's name. -/
theorem speaksForClient_iff_reply : ∃ history loop outcome, TCPRun 3 history loop ∧
    loop.protocolHandler.handler.processReceived (text "REPLY OK IS ") = some outcome ∧
    sent outcome.effects = [text "ERR FROM c IS Invalid reply format" ++ crlf, byeLine] ∧
    SpeaksForClient loop.protocolHandler.handler outcome := by
  have ran : tcpSample [enters "/auth a b c", streams (piece "REPLY OK IS hi\r\n")] =
    some (_, _) := rfl
  have strict : ¬ AnswersInItsName (text "c") (text "REPLY OK IS ") := fun answers =>
    absurd (command_of_answersInItsName answers) (by decide)
  refine ⟨_, _, _, Run.of_exec ran, rfl, rfl, ?_⟩
  have named : IsDname (text "c") := validateDname_iff.mp ⟨rfl, by decide⟩
  exact (speaksForClient_iff ⟨_, _, Run.of_exec ran, .inl rfl⟩ rfl named rfl).mpr strict

/-- A MSG of `bob` without a content is answered in the name of `bob`. -/
theorem failed_message_answered_in_its_name : ∃ history loop outcome, TCPRun 3 history loop ∧
    loop.protocolHandler.handler.fsm.currentState = .opened ∧
    IsDname loop.protocolHandler.handler.messageValidator.displayName ∧
    loop.protocolHandler.handler.processReceived (text "MSG FROM bob IS ") = some outcome ∧
    sent outcome.effects = [text "ERR FROM bob IS Invalid message format" ++ crlf, byeLine] ∧
    ¬ SpeaksForClient loop.protocolHandler.handler outcome := by
  have ran : tcpSample [enters "/auth a b c", streams (piece "REPLY OK IS hi\r\n")] =
    some (_, _) := rfl
  have named : IsDname (text "c") := validateDname_iff.mp ⟨rfl, by decide⟩
  have bob : IsDname (text "bob") := validateDname_iff.mp ⟨rfl, by decide⟩
  refine ⟨_, _, _, Run.of_exec ran, rfl, named, rfl, rfl, ?_⟩
  intro speaks
  have known : "Invalid message format" ∈ openErrors := by simp [openErrors]
  have own := (speaksForClient_failWith known bob).mp speaks
  exact absurd own (by decide)

end ChatClient
