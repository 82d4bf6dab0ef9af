import ChatClient.Bytes

/-! `TCPMessageValidator`: the lines the TCP client sends and the checks on the
lines it receives. -/

namespace ChatClient

/-- The validator's only state is the client's display name. -/
structure TCPMessageValidator where
  displayName : Bytes := []
  deriving DecidableEq, Repr

namespace TCPMessageValidator

variable (validator : TCPMessageValidator)

/-- The end of a line. -/
def crlf : Bytes := text "\r\n"

/-- `form_error_message`. -/
def formErrorMessage (message : Bytes) : Bytes :=
  text "ERR FROM " ++ validator.displayName ++ text " IS " ++ message ++ crlf

/-- `form_bye_message`. -/
def formByeMessage : Bytes := text "BYE" ++ crlf

/-- `validate_id`: 1*20 (ALPHA / DIGIT / "-"). -/
def validateId : Bytes → Bool := checkField 20 fun c => isalnum c || c = 0x2D

/-- `validate_secret`: 1*128 (ALPHA / DIGIT / "-"). -/
def validateSecret : Bytes → Bool := checkField 128 fun c => isalnum c || c = 0x2D

/-- `validate_content`: 1*1400 (VCHAR / SP). -/
def validateContent : Bytes → Bool := checkField 1400 fun c => isprint c || c = space

/-- `validate_dname`, which lets `isprint` decide and so admits spaces too. -/
def validateDname : Bytes → Bool := checkField 20 isprint

/-- `getDisplayName`. -/
def getDisplayName : Bytes := validator.displayName

/-- `authorize_validate`: the validator afterwards with the line, or with the text
of the refusal. The arguments come as user name, secret and display name. -/
def authorizeValidate (message : Bytes) : TCPMessageValidator × Bytes × Bool :=
  match splitMessage message with
  | [id, secret, dname] =>
    if !validateId id then (validator, text "Invalid ID format", false)
    else if !validateSecret secret then (validator, text "Invalid secret format", false)
    else if !validateDname dname then (validator, text "Invalid display name format", false)
    else
      ({ validator with displayName := dname },
        text "AUTH " ++ id ++ text " AS " ++ dname ++ text " USING " ++ secret ++ crlf, true)
  | _ => (validator, text "Invalid message format", false)

/-- `join_validate`. -/
def joinValidate (message : Bytes) : Bytes × Bool :=
  match splitMessage message with
  | [channel] =>
    if !validateId channel then (text "Invalid ID format", false)
    else (text "JOIN " ++ channel ++ text " AS " ++ validator.displayName ++ crlf, true)
  | _ => (text "Invalid message format", false)

/-- `message_validate`. -/
def messageValidate (message : Bytes) : Bytes × Bool :=
  if !validateContent message then (text "Invalid content format", false)
  else (text "MSG FROM " ++ validator.displayName ++ text " IS " ++ message ++ crlf, true)

/-- `rename`: the validator afterwards, and whether the name was accepted. -/
def rename (dname : Bytes) : TCPMessageValidator × Bool :=
  if !validateDname dname then (validator, false) else ({ validator with displayName := dname }, true)

/-- The words of a line's content glued together again, each with a space behind
it and the last space removed. Without a word `pop_back` is called on an empty
string, which is undefined. -/
def glue (parts : List Bytes) : Option Bytes :=
  if parts = [] then none else some ((parts.flatMap fun part => part ++ [space]).dropLast)

/-- `validate_reply`. -/
def validateReply (message : Bytes) : Option (Bytes × Bool) :=
  match splitMessage message with
  | reply :: okNok :: is :: content =>
    if upper reply ≠ text "REPLY" ∨ (upper okNok ≠ text "OK" ∧ upper okNok ≠ text "NOK") ∨
        upper is ≠ text "IS" then
      some (text "Invalid Reply Message Format", false)
    else do
      let content ← glue content
      some (content, validateContent content)
  | _ => some (text "Invalid Reply Message Format", false)

/-- `validate_message_server`: the content and the sender's name, or the reason
and the client's own name. The name is checked in capitals and returned as it
came. -/
def validateMessageServer (message : Bytes) : (Bytes × Bytes) × Bool :=
  match splitMessage message with
  | msg :: frm :: username :: is :: word :: words =>
    if upper msg ≠ text "MSG" ∨ upper frm ≠ text "FROM" ∨ upper is ≠ text "IS" then
      ((text "Invalid MSG Format", validator.displayName), false)
    else if !validateDname (upper username) then
      ((text "Invalid Username Format Received", validator.displayName), false)
    else
      let content := ((word :: words).flatMap fun part => part ++ [space]).dropLast
      ((content, username), validateContent content)
  | _ => ((text "Invalid MSG Format", validator.displayName), false)

/-- `validate_error_server`: the content and the sender's name, or the reason and
a space. -/
def validateErrorServer (message : Bytes) : (Bytes × Bytes) × Bool :=
  match splitMessage message with
  | err :: frm :: dname :: is :: word :: words =>
    if upper err ≠ text "ERR" ∨ upper frm ≠ text "FROM" ∨ upper is ≠ text "IS" then
      ((text "Invalid ERR Format", text " "), false)
    else if !validateDname dname then
      ((text "Invalid Username Format Received", text " "), false)
    else
      let content := ((word :: words).flatMap fun part => part ++ [space]).dropLast
      ((content, dname), validateContent content)
  | _ => ((text "Invalid ERR Format", text " "), false)

/-! ## The display name -/

variable {validator : TCPMessageValidator} {argument : Bytes}

/-- An `/auth` that is accepted has three arguments that pass, and takes the third
one as display name. -/
theorem authorizeValidate_accepted (accepted : (validator.authorizeValidate argument).2.2 = true) :
    ∃ id secret dname, splitMessage argument = [id, secret, dname] ∧ validateId id = true ∧
      validateSecret secret = true ∧ validateDname dname = true := by
  unfold authorizeValidate at accepted
  split at accepted
  · rename_i id secret dname parts
    split at accepted
    · cases accepted
    rename_i validId
    split at accepted
    · cases accepted
    rename_i validSecret
    split at accepted
    · cases accepted
    rename_i validName
    exact ⟨id, secret, dname, parts, by simpa using validId, by simpa using validSecret,
      by simpa using validName⟩
  · cases accepted

/-- The validator after an accepted `/auth`, and the line it sends. -/
theorem authorizeValidate_eq {named : TCPMessageValidator} {request : Bytes}
    (accepted : validator.authorizeValidate argument = (named, request, true)) :
    ∃ id secret dname, validateDname dname = true ∧ named.displayName = dname ∧
      request = text "AUTH " ++ id ++ text " AS " ++ dname ++ text " USING " ++ secret ++ crlf := by
  obtain ⟨id, secret, dname, parts, validId, validSecret, validName⟩ :=
    authorizeValidate_accepted (by rw [accepted])
  simp only [authorizeValidate, parts, validId, validSecret, validName, Bool.not_true,
    Bool.false_eq_true, ↓reduceIte, Prod.mk.injEq] at accepted
  obtain ⟨rfl, rfl, -⟩ := accepted
  exact ⟨id, secret, dname, validName, rfl, rfl⟩

/-- The line an accepted `/join` sends. -/
theorem joinValidate_eq {request : Bytes}
    (accepted : validator.joinValidate argument = (request, true)) :
    ∃ channel, request = text "JOIN " ++ channel ++ text " AS " ++ validator.displayName ++ crlf := by
  unfold joinValidate at accepted
  split at accepted
  · rename_i channel parts
    split at accepted
    · cases accepted
    · cases accepted
      exact ⟨channel, rfl⟩
  · cases accepted

/-- The line a text sends. -/
theorem messageValidate_eq {response : Bytes}
    (accepted : validator.messageValidate argument = (response, true)) :
    validateContent argument = true ∧
      response = text "MSG FROM " ++ validator.displayName ++ text " IS " ++ argument ++ crlf := by
  unfold messageValidate at accepted
  split at accepted
  · cases accepted
  · rename_i valid
    cases accepted
    exact ⟨by simpa using valid, rfl⟩

/-- An accepted `/rename` takes its argument as display name. -/
theorem rename_eq {renamed : TCPMessageValidator}
    (accepted : validator.rename argument = (renamed, true)) :
    validateDname argument = true ∧ renamed.displayName = argument := by
  unfold rename at accepted
  split at accepted
  · cases accepted
  · rename_i valid
    cases accepted
    exact ⟨by simpa using valid, rfl⟩

/-- An `/auth` that is turned down leaves the display name. -/
theorem authorizeValidate_refused (refused : (validator.authorizeValidate argument).2.2 = false) :
    (validator.authorizeValidate argument).1 = validator := by
  revert refused
  unfold authorizeValidate
  rcases splitMessage argument with _ | ⟨id, _ | ⟨secret, _ | ⟨dname, _ | ⟨more, rest⟩⟩⟩⟩
  case cons.cons.cons.nil =>
    dsimp only
    cases validateId id with
    | false => exact fun _ => rfl
    | true =>
    cases validateSecret secret with
    | false => exact fun _ => rfl
    | true =>
    cases validateDname dname with
    | false => exact fun _ => rfl
    | true =>
      intro refused
      cases refused
  all_goals exact fun _ => rfl

/-- The second pass over the arguments of an `/auth` finds what the first one
did. -/
theorem authorizeValidate_again (validator : TCPMessageValidator) (argument : Bytes) :
    (validator.authorizeValidate argument).1.authorizeValidate argument =
      validator.authorizeValidate argument := by
  cases outcome : (validator.authorizeValidate argument).2.2 with
  | false => rw [authorizeValidate_refused outcome]
  | true =>
    obtain ⟨id, secret, dname, parts, validId, validSecret, validName⟩ :=
      authorizeValidate_accepted outcome
    simp [authorizeValidate, parts, validId, validSecret, validName]

/-- A `/rename` that is turned down leaves the display name. -/
theorem rename_refused (refused : (validator.rename argument).2 = false) :
    (validator.rename argument).1 = validator := by
  unfold rename at refused ⊢
  split at refused
  · rename_i invalid
    rw [if_pos invalid]
  · cases refused

/-- The validators a sequence of accepted `/auth` and `/rename` leads to. -/
inductive Reached : TCPMessageValidator → Prop where
  | fresh : Reached {}
  | authorized {validator named : TCPMessageValidator} {argument request : Bytes}
      (reached : Reached validator)
      (accepted : validator.authorizeValidate argument = (named, request, true)) : Reached named
  | renamed {validator renamed : TCPMessageValidator} {argument : Bytes}
      (reached : Reached validator)
      (accepted : validator.rename argument = (renamed, true)) : Reached renamed

/-- The display name is empty, or it has passed its check. -/
theorem Reached.named (reached : Reached validator) :
    validator.displayName = [] ∨ validateDname validator.displayName = true := by
  cases reached with
  | fresh => exact .inl rfl
  | authorized _ accepted =>
    obtain ⟨_, _, dname, valid, named, -⟩ := authorizeValidate_eq accepted
    exact .inr (named ▸ valid)
  | renamed _ accepted =>
    obtain ⟨valid, named⟩ := rename_eq accepted
    exact .inr (named ▸ valid)

end TCPMessageValidator

end ChatClient
