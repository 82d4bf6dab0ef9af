import ChatClient.Bytes

/-! `UDPMessageValidator`: the datagrams the UDP client builds and the checks on
the bodies it receives. -/

namespace ChatClient

/-- The validator's only state is the client's display name. -/
structure UDPMessageValidator where
  displayName : Bytes := []
  deriving DecidableEq, Repr

namespace UDPMessageValidator

/-- `form_bye_message`. -/
def formByeMessage (messageID : UInt16) : Bytes := header 0xFF messageID

/-- `form_error_message`. -/
def formErrorMessage (messageID : UInt16) (dname error : Bytes) : Bytes :=
  header 0xFE messageID ++ dname ++ [0] ++ error ++ [0]

/-- `validate_id`: 1*20 (ALPHA / DIGIT / "-"). -/
def validateId : Bytes → Bool := checkField 20 fun c => isalnum c || c = 0x2D

/-- `validate_secret`: 1*128 (ALPHA / DIGIT / "-"). -/
def validateSecret : Bytes → Bool := checkField 128 fun c => isalnum c || c = 0x2D

/-- `validate_content`: 1*1400 (VCHAR / SP). -/
def validateContent : Bytes → Bool := checkField 1400 fun c => isprint c || c = space

/-- `validate_dname`, which lets `isprint` decide and so admits spaces too. -/
def validateDname : Bytes → Bool := checkField 20 isprint

variable (validator : UDPMessageValidator)

/-- `get_display_name`. -/
def getDisplayName : Bytes := validator.displayName

/-- `rename`: the validator afterwards, and whether the name was accepted. -/
def rename (name : Bytes) : UDPMessageValidator × Bool :=
  if validateDname name then ({ validator with displayName := name }, true) else (validator, false)

/-- `authorize_validate`: the validator afterwards with the datagram, or with the
text of the refusal. -/
def authorizeValidate (code : UInt8) (messageID : UInt16) (username deename secret : Bytes) :
    UDPMessageValidator × Bytes × Bool :=
  if !validateId username || !validateDname deename || !validateSecret secret then
    (validator, text "ERROR Invalid username, display name or secret", false)
  else
    let validator := { validator with displayName := deename }
    (validator, header code messageID ++ username ++ [0] ++ validator.displayName ++ [0] ++ secret ++ [0],
      true)

/-- `join_validate`. -/
def joinValidate (code : UInt8) (messageID : UInt16) (channel : Bytes) : Bytes × Bool :=
  if !validateId channel then (text "ERROR Invalid channel or display name while joining", false)
  else (header code messageID ++ channel ++ [0] ++ validator.displayName ++ [0], true)

/-- `message_validate`. -/
def messageValidate (code : UInt8) (messageID : UInt16) (content : Bytes) : Bytes × Bool :=
  if !validateContent content then (text "ERROR Invalid content", false)
  else (header code messageID ++ validator.displayName ++ [0] ++ content ++ [0], true)

/-- The loop of `parse_and_validate`: the words a NUL ends. What follows the last
NUL is dropped. -/
def words (message : Bytes) : List Bytes :=
  (message.foldl
    (fun (result, word) c => if c = 0 then (result ++ [word], []) else (result, word ++ [c]))
    (([] : List Bytes), ([] : Bytes))).1

/-- The result of every failed check. -/
def invalid : List Bytes × Bool := ([text "Invalid Arguments Provided"], false)

/-- `parse_and_validate`. -/
def parseAndValidate (message : Bytes) (type : String) : List Bytes × Bool :=
  let result := words message
  if type = "reply" then
    match result with
    | [content] => if !validateContent content then invalid else (result, true)
    | _ => invalid
  else if type = "msg" then
    match result with
    | [dname, content] =>
      if !validateDname dname || !validateContent content then invalid else (result, true)
    | _ => invalid
  else if type = "err" then
    match result with
    | [dname, content] =>
      if !validateDname dname || !validateContent content then invalid else (result, true)
    | _ => invalid
  else invalid

variable {message : Bytes} {result : List Bytes}

/-- An empty body never passes. -/
@[simp] theorem parseAndValidate_nil {type : String} : parseAndValidate [] type = invalid := by
  simp [parseAndValidate, words]

/-- A reply body that passes holds one word, its content. -/
theorem reply_parts (valid : parseAndValidate message "reply" = (result, true)) :
    ∃ content, result = [content] := by
  simp only [parseAndValidate, ↓reduceIte] at valid
  split at valid
  · rename_i content _
    split at valid
    · cases valid
    · cases valid
      exact ⟨content, by assumption⟩
  · cases valid

/-- A MSG or ERR body that passes holds two words, a name and a content. -/
theorem named_parts {type : String} (named : type = "msg" ∨ type = "err")
    (valid : parseAndValidate message type = (result, true)) :
    ∃ dname content, result = [dname, content] := by
  rcases named with rfl | rfl
  all_goals
    simp only [parseAndValidate, String.reduceEq, ↓reduceIte] at valid
    split at valid
    · rename_i dname content _
      split at valid
      · cases valid
      · cases valid
        exact ⟨dname, content, by assumption⟩
    · cases valid

/-! ## The datagrams that are built -/

section Built
variable {validator : UDPMessageValidator} {code : UInt8} {messageID : UInt16} {response : Bytes}

/-- The datagram an accepted `/auth` sends, and the display name it leaves. -/
theorem authorizeValidate_eq {named : UDPMessageValidator} {username deename secret : Bytes}
    (accepted : validator.authorizeValidate code messageID username deename secret =
      (named, response, true)) :
    validateId username = true ∧ validateDname deename = true ∧ validateSecret secret = true ∧
      named.displayName = deename ∧
      response = header code messageID ++ username ++ [0] ++ deename ++ [0] ++ secret ++ [0] := by
  unfold authorizeValidate at accepted
  split at accepted
  · cases accepted
  · rename_i valid
    cases accepted
    simp only [Bool.or_eq_true, Bool.not_eq_true', not_or, Bool.not_eq_false] at valid
    exact ⟨valid.1.1, valid.1.2, valid.2, rfl, rfl⟩

/-- The datagram an accepted `/join` sends. -/
theorem joinValidate_eq {channel : Bytes}
    (accepted : validator.joinValidate code messageID channel = (response, true)) :
    validateId channel = true ∧
      response = header code messageID ++ channel ++ [0] ++ validator.displayName ++ [0] := by
  unfold joinValidate at accepted
  split at accepted
  · cases accepted
  · rename_i valid
    cases accepted
    exact ⟨by simpa using valid, rfl⟩

/-- The datagram a text sends. -/
theorem messageValidate_eq {content : Bytes} (valid : validateContent content = true) :
    validator.messageValidate code messageID content =
      (header code messageID ++ validator.displayName ++ [0] ++ content ++ [0], true) := by
  simp [messageValidate, valid]

/-- The validators a sequence of calls can lead to. -/
inductive Reached : UDPMessageValidator → Prop where
  | fresh : Reached {}
  | authorized {validator : UDPMessageValidator} (code : UInt8) (messageID : UInt16)
      (username deename secret : Bytes) (reached : Reached validator) :
      Reached (validator.authorizeValidate code messageID username deename secret).1
  | renamed {validator : UDPMessageValidator} (name : Bytes) (reached : Reached validator) :
      Reached (validator.rename name).1

/-- The display name is empty, or it has passed its check. -/
theorem Reached.named (reached : Reached validator) :
    validator.displayName = [] ∨ validateDname validator.displayName = true := by
  induction reached with
  | fresh => exact .inl rfl
  | authorized _ _ _ _ _ _ ih =>
    unfold authorizeValidate
    split
    · exact ih
    · rename_i valid
      simp only [Bool.or_eq_true, Bool.not_eq_true', not_or, Bool.not_eq_false] at valid
      exact .inr valid.1.2
  | renamed _ _ ih =>
    unfold rename
    split
    · exact .inr ‹_›
    · exact ih

end Built

end UDPMessageValidator

end ChatClient
