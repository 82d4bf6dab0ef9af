import ChatClient.TCPGrammar

/-! The checks on the server's lines, subscript by subscript.

The three checks index the words of the line, capitalize some of them in place and
glue the rest together, to take the last space off again. Here every subscript and
the `pop_back` may be undefined. The checks for MSG and ERR never are. The one for
REPLY asks for three words where it needs four, so it is defined, and exact on the
grammar, for every line but a REPLY that ends with its last keyword. -/

namespace ChatClient

namespace TCPMessageValidator

variable (validator : TCPMessageValidator)

/-- `std::transform` of `parts[i]` to capitals, for one subscript after the other. -/
def capitalize (subscripts : List Nat) (parts : List Bytes) : Option (List Bytes) :=
  subscripts.foldlM (fun parts i => do
    let word ← parts[i]?
    some (parts.set i (upper word))) parts

/-- `content.pop_back()`, undefined on an empty string. -/
def popBack (content : Bytes) : Option Bytes :=
  if content = [] then none else some content.dropLast

/-- `content += parts[i] + " "`. -/
def appendWord (parts : List Bytes) (content : Bytes) (i : Nat) : Option Bytes := do
  let word ← parts[i]?
  some (content ++ (word ++ [space]))

/-- The loop from `parts[start]` on that glues the words together, and the `pop_back`
behind it. -/
def glueFrom (start : Nat) (parts : List Bytes) : Option Bytes := do
  let content ← (List.range' start (parts.length - start)).foldlM (appendWord parts) []
  popBack content

/-- `validate_reply`, subscript by subscript. -/
def validateReplyAt (message : Bytes) : Option (Bytes × Bool) := do
  let parts := splitMessage message
  if parts.length < 3 then
    some (text "Invalid Reply Message Format", false)
  else
    let parts ← capitalize [0, 1, 2] parts
    let reply ← parts[0]?
    let okNok ← parts[1]?
    let is ← parts[2]?
    if reply ≠ text "REPLY" ∨ (okNok ≠ text "OK" ∧ okNok ≠ text "NOK") ∨ is ≠ text "IS" then
      some (text "Invalid Reply Message Format", false)
    else
      let content ← glueFrom 3 parts
      some (content, validateContent content)

/-- `validate_message_server`, subscript by subscript. The name is set aside before
the words are capitalized, and checked afterwards. -/
def validateMessageServerAt (message : Bytes) : Option ((Bytes × Bytes) × Bool) := do
  let parts := splitMessage message
  if parts.length < 5 then
    some ((text "Invalid MSG Format", validator.displayName), false)
  else
    let username ← parts[2]?
    let parts ← capitalize [0, 1, 2, 3] parts
    let msg ← parts[0]?
    let frm ← parts[1]?
    let is ← parts[3]?
    if msg ≠ text "MSG" ∨ frm ≠ text "FROM" ∨ is ≠ text "IS" then
      some ((text "Invalid MSG Format", validator.displayName), false)
    else
      let capitals ← parts[2]?
      if !validateDname capitals then
        some ((text "Invalid Username Format Received", validator.displayName), false)
      else
        let content ← glueFrom 4 parts
        some ((content, username), validateContent content)

/-- `validate_error_server`, subscript by subscript. The name stays as it came. -/
def validateErrorServerAt (message : Bytes) : Option ((Bytes × Bytes) × Bool) := do
  let parts := splitMessage message
  if parts.length < 5 then
    some ((text "Invalid ERR Format", text " "), false)
  else
    let parts ← capitalize [0, 1, 3] parts
    let err ← parts[0]?
    let frm ← parts[1]?
    let is ← parts[3]?
    if err ≠ text "ERR" ∨ frm ≠ text "FROM" ∨ is ≠ text "IS" then
      some ((text "Invalid ERR Format", text " "), false)
    else
      let dname ← parts[2]?
      if !validateDname dname then
        some ((text "Invalid Username Format Received", text " "), false)
      else
        let content ← glueFrom 4 parts
        some ((content, dname), validateContent content)

/-! ## The subscripts -/

private theorem glueLoop_eq {parts rest : List Bytes} {start : Nat} (content : Bytes)
    (behind : parts.drop start = rest) :
    (List.range' start rest.length).foldlM (appendWord parts) content =
      some (content ++ rest.flatMap fun word => word ++ [space]) := by
  induction rest generalizing start content with
  | nil => simp
  | cons word others ih =>
    have here : parts[start]? = some word := by
      rw [← List.head?_drop, behind, List.head?_cons]
    have next : parts.drop (start + 1) = others := by
      rw [← List.tail_drop, behind, List.tail_cons]
    have appended : appendWord parts content start = some (content ++ (word ++ [space])) := by
      simp [appendWord, here]
    rw [List.length_cons, List.range'_succ, List.foldlM_cons, appended, Option.bind_eq_bind,
      Option.bind_some, ih _ next]
    simp

private theorem glueFrom_eq (start : Nat) (parts : List Bytes) :
    glueFrom start parts = glue (parts.drop start) := by
  have loop := glueLoop_eq [] (rfl : parts.drop start = parts.drop start)
  rw [List.length_drop] at loop
  rw [glueFrom, loop, Option.bind_eq_bind, Option.bind_some, List.nil_append, popBack, glue]
  -- Glued words are empty only when there are none, each having a space behind it.
  cases parts.drop start with
  | nil => rfl
  | cons word others => simp

/-- The check for a REPLY subscripts only words of the line. What may be undefined is
its `pop_back`. -/
theorem validateReplyAt_eq (message : Bytes) : validateReplyAt message = validateReply message := by
  unfold validateReplyAt validateReply
  rcases splitMessage message with _ | ⟨reply, _ | ⟨okNok, _ | ⟨is, content⟩⟩⟩
  · rfl
  · rfl
  · rfl
  · have enough : ¬ content.length + 1 + 1 + 1 < 3 := by omega
    simp [capitalize, glueFrom_eq, enough]

private theorem validateMessageServerAt_eq (message : Bytes) :
    validator.validateMessageServerAt message = some (validator.validateMessageServer message) := by
  unfold validateMessageServerAt validateMessageServer
  rcases splitMessage message with
    _ | ⟨msg, _ | ⟨frm, _ | ⟨username, _ | ⟨is, _ | ⟨word, words⟩⟩⟩⟩⟩
  · rfl
  · rfl
  · rfl
  · rfl
  · rfl
  · have enough : ¬ words.length + 1 + 1 + 1 + 1 + 1 < 5 := by omega
    simp only [capitalize, glueFrom_eq, glue, List.length_cons, enough, ↓reduceIte, List.foldlM_cons,
      List.foldlM_nil, List.getElem?_cons_zero, List.getElem?_cons_succ, List.set_cons_zero,
      List.set_cons_succ, Option.bind_eq_bind, Option.bind_some, Option.pure_def]
    split
    · rfl
    · split
      · rfl
      · rfl

/-- The check for an ERR subscripts only words of the line, and has a word to glue. -/
theorem validateErrorServerAt_eq (message : Bytes) :
    validateErrorServerAt message = some (validateErrorServer message) := by
  unfold validateErrorServerAt validateErrorServer
  rcases splitMessage message with
    _ | ⟨err, _ | ⟨frm, _ | ⟨dname, _ | ⟨is, _ | ⟨word, words⟩⟩⟩⟩⟩
  · rfl
  · rfl
  · rfl
  · rfl
  · rfl
  · have enough : ¬ words.length + 1 + 1 + 1 + 1 + 1 < 5 := by omega
    simp only [capitalize, glueFrom_eq, glue, List.length_cons, enough, ↓reduceIte, List.foldlM_cons,
      List.foldlM_nil, List.getElem?_cons_zero, List.getElem?_cons_succ, List.set_cons_zero,
      List.set_cons_succ, Option.bind_eq_bind, Option.bind_some, Option.pure_def]
    split
    · rfl
    · split
      · rfl
      · rfl

end TCPMessageValidator

open TCPMessageValidator

variable {line : Bytes}

/-! ## MSG and ERR -/

/-- A check on a line that is defined, and accepts the lines of the grammar with
their content and their name. -/
structure DecodesSpoken (kind : String) (line : Bytes)
    (checked : Option ((Bytes × Bytes) × Bool)) : Prop where
  defined : checked ≠ none
  accepts_iff : ∀ content dname,
    checked = some ((content, dname), true) ↔ SpokenLine kind dname content line

/-- The checks for MSG and ERR decode every line. -/
theorem spokenLines_decoded (validator : TCPMessageValidator) (line : Bytes) :
    DecodesSpoken "MSG" line (validator.validateMessageServerAt line) ∧
      DecodesSpoken "ERR" line (validateErrorServerAt line) := by
  rw [validateMessageServerAt_eq, validateErrorServerAt_eq]
  constructor
  · apply DecodesSpoken.mk (Option.some_ne_none _)
    intro content dname
    rw [Option.some_inj, validateMessageServer_iff]
  · apply DecodesSpoken.mk (Option.some_ne_none _)
    intro content dname
    rw [Option.some_inj, validateErrorServer_iff]

/-! ## REPLY -/

/-- The check for a REPLY is defined on the line, and accepts it as the grammar does,
with its content. -/
structure DecodesReplied (line : Bytes) : Prop where
  defined : validateReplyAt line ≠ none
  accepts_iff : ∀ content, validateReplyAt line = some (content, true) ↔ RepliedLine content line

/-- `REPLY SP (OK / NOK) SP IS` with nothing behind it, the keywords in any letter
case. -/
def BareReply (line : Bytes) : Prop :=
  ∃ word result is, upper word = text "REPLY" ∧
    (upper result = text "OK" ∨ upper result = text "NOK") ∧ upper is = text "IS" ∧
    line = word ++ [space] ++ result ++ [space] ++ is

private theorem emptyReply_iff : EmptyReply line ↔ BareReply line := by
  constructor
  · rintro ⟨word, result, is, words, isReply, isResult, isIs⟩
    refine ⟨word, result, is, isReply, isResult, isIs, ?_⟩
    have parts := (@splitMessage_eq_append_iff line [word, result] [is] (List.cons_ne_nil is [])).mp words
    simpa [glued] using parts.2.1
  · rintro ⟨word, result, is, isReply, isResult, isIs, rfl⟩
    refine ⟨word, result, is, ?_, isReply, isResult, isIs⟩
    have noSpace : space ∉ result := by
      rcases isResult with ok | nok
      · exact space_not_mem_of_upper ok (by decide)
      · exact space_not_mem_of_upper nok (by decide)
    have whole : space ∉ is := space_not_mem_of_upper isIs (by decide)
    apply (@splitMessage_eq_append_iff _ [word, result] [is] (List.cons_ne_nil is [])).mpr
    refine ⟨?_, by simp [glued], by simp [glued, List.splitOn_eq_singleton whole]⟩
    simp only [List.forall_mem_cons]
    exact ⟨space_not_mem_of_upper isReply (by decide), noSpace, by simp⟩

/-- The check for a REPLY decodes exactly the lines that are no bare REPLY. -/
theorem decodesReplied_iff : DecodesReplied line ↔ ¬ BareReply line := by
  rw [← emptyReply_iff]
  constructor
  · intro decoded bare
    apply decoded.defined
    rw [validateReplyAt_eq]
    exact validateReply_none_iff.mpr bare
  · intro shaped
    constructor
    · intro undefined
      rw [validateReplyAt_eq] at undefined
      exact shaped (validateReply_none_iff.mp undefined)
    · intro content
      rw [validateReplyAt_eq, validateReply_iff]

/-- `REPLY OK IS` leads to a `pop_back` on an empty string. -/
theorem bareReply_not_decoded : ¬ DecodesReplied (text "REPLY OK IS") := by
  intro decoded
  exact decoded.defined (by decide)

end ChatClient
