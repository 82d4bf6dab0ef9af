import ChatClient.UDPDecoders
import ChatClient.UserReturns

/-! What a line of the user does to the display name.

Two commands set it: `/rename` to its argument, and an accepted `/auth` to its third
one. Either check lets spaces pass, and without a space the argument of a command is
the whole line, so `/rename` takes names of several words, and a bare `/rename` makes
itself the name. Apart from these the name is always a word of the grammar. -/

namespace ChatClient

variable {line word rest name : Bytes}

/-! ## Commands and arguments -/

private theorem findSpace_append (whole : space ∉ word) :
    findSpace (word ++ [space] ++ rest) = some word.length := by
  have none : word.findIdx? (· = space) = none := by
    rw [List.findIdx?_eq_none_iff]
    intro c member
    have other : c ≠ space := by
      rintro rfl
      exact whole member
    simpa using other
  rw [findSpace, List.append_assoc, List.findIdx?_append, none]
  simp [List.findIdx?_cons]

/-- The word before the first space, in capitals, is the command, and what follows is
the argument. -/
theorem command_and_argument (whole : space ∉ word) :
    commandOf (word ++ [space] ++ rest) = upper word ∧
      argumentOf (word ++ [space] ++ rest) = rest := by
  constructor
  · rw [commandOf, findSpace_append whole]
    simp
  · rw [argumentOf, findSpace_append whole]
    simp

private theorem command_without_space (whole : space ∉ line) :
    commandOf line = upper line ∧ argumentOf line = line := by
  have none : findSpace line = none := by
    rw [findSpace, List.findIdx?_eq_none_iff]
    intro c member
    have other : c ≠ space := by
      rintro rfl
      exact whole member
    simpa using other
  constructor
  · rw [commandOf, none]
    simp
  · rw [argumentOf, none]

/-- A line gives a command and an argument when the argument follows the command, or
when the line is the bare command and its own argument. -/
theorem command_iff {command : Bytes} (free : space ∉ command) :
    commandOf line = command ∧ argumentOf line = name ↔
      (upper line = command ∧ name = line) ∨
        ∃ word, upper word = command ∧ line = word ++ [space] ++ name := by
  constructor
  · rintro ⟨is, given⟩
    by_cases spaced : space ∈ line
    · obtain ⟨word, rest, rfl, whole⟩ := List.eq_append_cons_of_mem spaced
      have shape : word ++ space :: rest = word ++ [space] ++ rest := by simp
      rw [shape] at is given ⊢
      obtain ⟨first, behind⟩ := @command_and_argument word rest whole
      rw [first] at is
      rw [behind] at given
      exact .inr ⟨word, is, by rw [given]⟩
    · obtain ⟨same, itself⟩ := command_without_space spaced
      exact .inl ⟨same ▸ is, given.symm.trans itself⟩
  · rintro (⟨bare, rfl⟩ | ⟨word, is, rfl⟩)
    · obtain ⟨same, itself⟩ := command_without_space (space_not_mem_of_upper bare free)
      exact ⟨same.trans bare, itself⟩
    · obtain ⟨first, behind⟩ := @command_and_argument word name (space_not_mem_of_upper is free)
      exact ⟨first.trans is, behind⟩

/-! ## New names -/

variable {before after id secret : Bytes} {effects : List Effect}

/-- `/RENAME SP NAME`, the command in any letter case. -/
def RenamesTo (line name : Bytes) : Prop :=
  ∃ word, upper word = text "/RENAME" ∧ line = word ++ [space] ++ name

/-- `/AUTH SP ID SP SECRET SP NAME`, the command in any letter case. -/
def AuthorizesAs (line name : Bytes) : Prop :=
  ∃ word id secret, upper word = text "/AUTH" ∧ space ∉ id ∧ space ∉ secret ∧
    line = word ++ [space] ++ id ++ [space] ++ secret ++ [space] ++ name

/-- If the name is another one afterwards, it is a name of the grammar, and the
argument of a `/rename` or the third one of an `/auth` that went out. -/
def NamesProperly (line before after : Bytes) (effects : List Effect) : Prop :=
  after ≠ before → IsDname after ∧
    (RenamesTo line after ∨ (AuthorizesAs line after ∧ sent effects ≠ []))

/-- A `/rename` to another name of several words, or one without any argument, which
stands for its own name. -/
def RenamesLoosely (line before : Bytes) : Prop :=
  ∃ name, name ≠ before ∧ ((upper line = text "/RENAME" ∧ name = line) ∨
    (RenamesTo line name ∧ PrintedName name ∧ space ∈ name))

/-- What a call does to the name. -/
inductive Naming (line before : Bytes) (effects : List Effect) : Bytes → Prop where
  | kept : Naming line before effects before
  | renamed (command : commandOf line = text "/RENAME")
      (valid : PrintedName (argumentOf line)) : Naming line before effects (argumentOf line)
  | authorized {id secret name : Bytes} (command : commandOf line = text "/AUTH")
      (parts : splitMessage (argumentOf line) = [id, secret, name]) (valid : PrintedName name)
      (sends : sent effects ≠ []) : Naming line before effects name

private theorem authorizesAs_of_parts (command : commandOf line = text "/AUTH")
    (parts : splitMessage (argumentOf line) = [id, secret, name]) :
    AuthorizesAs line name ∧ space ∉ name := by
  obtain ⟨free, shape, rest⟩ :=
    (@splitMessage_eq_append_iff (argumentOf line) [id, secret] [name] (List.cons_ne_nil name [])).mp parts
  have glue : glued [name] = name := by simp [glued]
  rw [glue] at shape rest
  have member : name ∈ name.splitOn space := by
    rw [rest]
    exact List.mem_singleton.mpr rfl
  refine ⟨?_, Separated.not_mem_of_mem_splitOn member⟩
  rcases (command_iff (by decide)).mp ⟨command, rfl⟩ with ⟨alone, bare⟩ | ⟨word, is, behind⟩
  · -- A bare `/auth` is one word, and has no three arguments.
    have one : splitMessage line = [line] :=
      splitMessage_eq_singleton_iff.mpr ⟨rfl, space_not_mem_of_upper alone (by decide)⟩
    rw [bare, one] at parts
    cases parts
  · refine ⟨word, id, secret, is, free id (by simp), free secret (by simp), ?_⟩
    rw [shape] at behind
    simpa using behind

private theorem printedName_of_bare (bare : upper line = text "/RENAME") : PrintedName line := by
  have capitals : TCPMessageValidator.validateDname (upper line) = true := by
    rw [bare]
    decide
  exact printedName_iff.mp (validateDname_upper_iff.mp capitals)

/-- A call names properly unless its line renames loosely, if a `/rename` that passes
takes effect. -/
theorem Naming.proper_iff (naming : Naming line before effects after)
    (renames : commandOf line = text "/RENAME" → PrintedName (argumentOf line) →
      after = argumentOf line) :
    NamesProperly line before after effects ↔ ¬ RenamesLoosely line before := by
  constructor
  · rintro proper ⟨name, another, loose⟩
    have given : (commandOf line = text "/RENAME" ∧ argumentOf line = name) ∧ PrintedName name := by
      rcases loose with ⟨bare, rfl⟩ | ⟨shaped, printed, -⟩
      · exact ⟨(command_iff (by decide)).mpr (.inl ⟨bare, rfl⟩), printedName_of_bare bare⟩
      · exact ⟨(command_iff (by decide)).mpr (.inr shaped), printed⟩
    obtain ⟨⟨command, rfl⟩, printed⟩ := given
    obtain rfl := renames command printed
    obtain ⟨isName, shaped⟩ := proper another
    rcases loose with ⟨bare, same⟩ | ⟨-, -, spaced⟩
    · have whole : space ∉ line := space_not_mem_of_upper bare (by decide)
      rcases shaped with ⟨word, -, behind⟩ | ⟨⟨word, id, secret, -, -, -, behind⟩, -⟩
      · exact whole (by rw [behind]; simp)
      · exact whole (by rw [behind]; simp)
    · exact isName.ne_nil_and_whole.2 spaced
  · intro strict another
    cases naming with
    | kept => exact absurd rfl another
    | renamed command valid =>
      rcases (command_iff (by decide)).mp ⟨command, rfl⟩ with ⟨bare, same⟩ | shaped
      · exact absurd ⟨_, another, .inl ⟨bare, same⟩⟩ strict
      · have whole : space ∉ argumentOf line := by
          intro spaced
          exact strict ⟨_, another, .inr ⟨shaped, valid, spaced⟩⟩
        exact ⟨isDname_iff_printedName.mpr ⟨valid, whole⟩, .inl shaped⟩
    | authorized command parts valid sends =>
      obtain ⟨shaped, whole⟩ := authorizesAs_of_parts command parts
      exact ⟨isDname_iff_printedName.mpr ⟨valid, whole⟩, .inr ⟨shaped, sends⟩⟩

private theorem naming_of_other {command : Bytes} (naming : Naming line before effects after)
    (is : commandOf line = command) (other : command ≠ text "/RENAME") :
    Naming line before effects after ∧
      (commandOf line = text "/RENAME" → PrintedName (argumentOf line) → after = argumentOf line) :=
  ⟨naming, fun renames => absurd (is.symm.trans renames) other⟩

private theorem naming_of_rename (validateDname : Bytes → Bool)
    (printed : validateDname (argumentOf line) = true ↔ PrintedName (argumentOf line))
    (command : commandOf line = text "/RENAME")
    (renames : after = if validateDname (argumentOf line) then argumentOf line else before) :
    Naming line before effects after ∧
      (commandOf line = text "/RENAME" → PrintedName (argumentOf line) → after = argumentOf line) := by
  by_cases valid : validateDname (argumentOf line) = true
  · rw [if_pos valid] at renames
    rw [renames]
    exact ⟨.renamed command (printed.mp valid), fun _ _ => rfl⟩
  · rw [if_neg valid] at renames
    rw [renames]
    exact ⟨.kept, fun _ passes => absurd (printed.mpr passes) valid⟩

/-! ## The handlers -/

section TCP
open Calls TCPProtocolHandler TCPMessageValidator
variable {h : TCPProtocolHandler} {outcome : Outcome TCPProtocolHandler}

private theorem tcp_naming_auth (command : commandOf line = text "/AUTH")
    (ran : h.processAuth (argumentOf line) = some outcome) :
    Naming line h.messageValidator.displayName outcome.effects
      outcome.handler.messageValidator.displayName := by
  simp only [processAuth, Option.bind_eq_bind, Option.bind_eq_some_iff, authorizeValidate_again] at ran
  obtain ⟨⟨reaction, fsm⟩, -, ran⟩ := ran
  split at ran
  · split at ran
    · rename_i accepted
      cases ran
      obtain ⟨id, secret, dname, parts, validId, validSecret, validName⟩ :=
        authorizeValidate_accepted accepted
      have named : (h.messageValidator.authorizeValidate (argumentOf line)).1.displayName = dname := by
        simp [authorizeValidate, parts, validId, validSecret, validName]
      simp only [named]
      exact .authorized command parts (printedName_iff.mp validName) (by simp)
    · rename_i refused
      cases ran
      rw [authorizeValidate_refused (by simpa using refused)]
      exact .kept
  split at ran
  · cases ran
    exact .kept
  · cases ran
    exact .kept

private theorem tcp_processJoin_validator (ran : h.processJoin rest = some outcome) :
    outcome.handler.messageValidator = h.messageValidator := by
  have keeps : Yields (h.processJoin rest) fun outcome =>
      outcome.handler.messageValidator = h.messageValidator := by
    refine Yields.bind fun answer _ => .ite (fun accepted => ?_) fun unaccepted => ?_
    · exact .ite (fun valid => .some rfl) fun invalid => .some rfl
    · exact .ite (fun warned => .some rfl) fun undecided => .some rfl
  exact keeps outcome ran

private theorem tcp_processText_validator (ran : h.processText line = some outcome) :
    outcome.handler.messageValidator = h.messageValidator := by
  have keeps : Yields (h.processText line) fun outcome =>
      outcome.handler.messageValidator = h.messageValidator := by
    refine .ite (fun command => .some rfl) fun plain => Yields.bind fun answer _ => ?_
    refine .ite (fun accepted => ?_) fun unaccepted => ?_
    · exact .ite (fun valid => .some rfl) fun invalid => .some rfl
    · exact .ite (fun warned => .some rfl) fun undecided => .some rfl
  exact keeps outcome ran

private theorem tcp_naming (ran : h.processUserInput line = some outcome) :
    Naming line h.messageValidator.displayName outcome.effects
        outcome.handler.messageValidator.displayName ∧
      (commandOf line = text "/RENAME" → PrintedName (argumentOf line) →
        outcome.handler.messageValidator.displayName = argumentOf line) := by
  simp only [TCPProtocolHandler.processUserInput] at ran
  split at ran
  · rename_i exits
    subst exits
    cases ran
    exact naming_of_other .kept rfl (by decide)
  cases dispatched_of_eq ran with
  | auth command ran => exact naming_of_other (tcp_naming_auth command ran) command (by decide)
  | join command ran =>
    rw [tcp_processJoin_validator ran]
    exact naming_of_other .kept command (by decide)
  | rename command ran =>
    cases ran
    apply naming_of_rename validateDname printedName_iff command
    unfold processRename rename
    by_cases valid : validateDname (argumentOf line) = true
    · simp [valid]
    · simp [valid, reject]
  | help command ran =>
    cases ran
    exact naming_of_other .kept command (by decide)
  | plain _ _ noRename _ ran =>
    rw [tcp_processText_validator ran]
    exact naming_of_other .kept rfl noRename

end TCP

section UDP
open UDPProtocolHandler UDPMessageValidator
variable {h : UDPProtocolHandler} {outcome : Outcome UDPProtocolHandler}

private theorem udp_naming_auth (command : commandOf line = text "/AUTH")
    (ran : h.processAuth (argumentOf line) = some outcome) :
    Naming line h.messageValidator.displayName outcome.effects
      outcome.handler.messageValidator.displayName := by
  simp only [processAuth, Option.bind_eq_bind, Option.bind_eq_some_iff] at ran
  obtain ⟨⟨reaction, fsm⟩, -, ran⟩ := ran
  split at ran
  · split at ran
    · rename_i username secret deename parts
      unfold authorizeValidate at ran
      split at ran
      · cases ran
        exact .kept
      · rename_i valid
        cases ran
        simp only [Bool.or_eq_true, Bool.not_eq_true', not_or, Bool.not_eq_false] at valid
        exact .authorized command parts (printedName_iff.mp valid.1.2)
          (by simp [sendRequest, UDPProtocolHandler.sendMessage])
    · cases ran
      exact .kept
  split at ran
  · cases ran
    exact .kept
  · cases ran
    exact .kept

/-- What a line does to the name, and that a `/rename` that passes takes effect, when no
error was put off. -/
theorem udp_naming (ran : h.processUserInput line = some outcome) :
    Naming line h.messageValidator.displayName outcome.effects
        outcome.handler.messageValidator.displayName ∧
      (h.errorWhileWaiting = false → commandOf line = text "/RENAME" → PrintedName (argumentOf line) →
        outcome.handler.messageValidator.displayName = argumentOf line) := by
  simp only [UDPProtocolHandler.processUserInput] at ran
  split at ran
  · rename_i exits
    subst exits
    cases ran
    exact ⟨.kept, fun _ command => absurd command (by decide)⟩
  split at ran
  · rename_i pending
    cases ran
    rw [sendErrorMessage_messageValidator]
    refine ⟨.kept, fun clear => ?_⟩
    cases pending.symm.trans clear
  apply And.imp_right fun renames (_ : h.errorWhileWaiting = false) => renames
  cases dispatched_of_eq ran with
  | auth command ran => exact naming_of_other (udp_naming_auth command ran) command (by decide)
  | join command ran =>
    rw [processJoin_validator ran]
    exact naming_of_other .kept command (by decide)
  | rename command ran =>
    cases ran
    apply naming_of_rename validateDname printedName_iff command
    unfold processRename rename
    by_cases valid : validateDname (argumentOf line) = true
    · simp [valid]
    · simp [valid, reject]
  | help command ran =>
    cases ran
    exact naming_of_other .kept command (by decide)
  | plain _ _ noRename _ ran =>
    rw [processText_validator ran]
    exact naming_of_other .kept rfl noRename

private theorem udp_kept_of_pending (pending : h.errorWhileWaiting = true)
    (ran : h.processUserInput line = some outcome) :
    outcome.handler.messageValidator = h.messageValidator := by
  simp only [UDPProtocolHandler.processUserInput] at ran
  split at ran
  · cases ran
    rfl
  · cases ran
    exact sendErrorMessage_messageValidator

private theorem udp_names_properly_iff (ran : h.processUserInput line = some outcome) :
    NamesProperly line h.messageValidator.displayName
        outcome.handler.messageValidator.displayName outcome.effects ↔
      ¬ (h.errorWhileWaiting = false ∧ RenamesLoosely line h.messageValidator.displayName) := by
  obtain ⟨naming, renames⟩ := udp_naming ran
  cases pending : h.errorWhileWaiting with
  | true =>
    refine iff_of_true (fun another => ?_) (by simp)
    exact absurd (congrArg UDPMessageValidator.displayName (udp_kept_of_pending pending ran)) another
  | false =>
    rw [naming.proper_iff (renames pending)]
    simp

end UDP

/-- Either handler names properly unless the line renames loosely. -/
theorem names_properly_iff {tcp : TCPProtocolHandler} {udp : UDPProtocolHandler}
    {shown : Outcome TCPProtocolHandler} {answered : Outcome UDPProtocolHandler} {typed : Bytes}
    (tcpRan : tcp.processUserInput line = some shown)
    (udpRan : udp.processUserInput typed = some answered) :
    (NamesProperly line tcp.messageValidator.displayName
        shown.handler.messageValidator.displayName shown.effects ↔
      ¬ RenamesLoosely line tcp.messageValidator.displayName) ∧
    (NamesProperly typed udp.messageValidator.displayName
        answered.handler.messageValidator.displayName answered.effects ↔
      ¬ (udp.errorWhileWaiting = false ∧ RenamesLoosely typed udp.messageValidator.displayName)) := by
  obtain ⟨naming, renames⟩ := tcp_naming tcpRan
  exact ⟨naming.proper_iff renames, udp_names_properly_iff udpRan⟩

/-- A `/rename` to a word of the grammar. -/
theorem names_properly_iff_bob : ∃ client loop shown answered,
    TCPRun 3 [] client ∧ UDPRun localServer 3 [] loop ∧
    client.protocolHandler.handler.processUserInput (text "/rename bob") = some shown ∧
    loop.protocolHandler.processUserInput (text "/rename bob") = some answered ∧
    shown.handler.messageValidator.displayName = text "bob" ∧
    NamesProperly (text "/rename bob") [] (text "bob") shown.effects ∧
    NamesProperly (text "/rename bob") [] (text "bob") answered.effects := by
  have strict : ¬ RenamesLoosely (text "/rename bob") [] := by
    rintro ⟨name, -, ⟨bare, -⟩ | ⟨shaped, -, spaced⟩⟩
    · exact absurd bare (by decide)
    · obtain ⟨-, rfl⟩ := (command_iff (by decide)).mpr (.inr shaped)
      exact absurd spaced (by decide)
  have tcpRan : ({} : TCPProtocolHandler).processUserInput (text "/rename bob") = some _ := rfl
  have udpRan : (UDPProtocolHandler.create localServer).processUserInput (text "/rename bob") =
    some _ := rfl
  have proper := names_properly_iff tcpRan udpRan
  exact ⟨_, _, _, _, .start, .start, tcpRan, udpRan, rfl, proper.1.mpr strict,
    proper.2.mpr fun loose => strict loose.2⟩

/-- A bare `/rename` names either client `/rename`, and one of two words is taken. -/
theorem loose_rename_taken : ∃ client loop shown answered,
    TCPRun 3 [] client ∧ UDPRun localServer 3 [] loop ∧
    client.protocolHandler.handler.processUserInput (text "/rename") = some shown ∧
    loop.protocolHandler.processUserInput (text "/rename a b") = some answered ∧
    shown.handler.messageValidator.displayName = text "/rename" ∧
    answered.handler.messageValidator.displayName = text "a b" ∧
    ¬ NamesProperly (text "/rename") [] (text "/rename") shown.effects ∧
    ¬ NamesProperly (text "/rename a b") [] (text "a b") answered.effects := by
  refine ⟨_, _, _, _, .start, .start, rfl, rfl, rfl, rfl, ?_, ?_⟩
  · intro proper
    obtain ⟨-, ⟨word, -, behind⟩ | ⟨-, sends⟩⟩ := proper (by decide)
    · exact absurd (congrArg List.length behind) (by simp; omega)
    · exact sends rfl
  · intro proper
    exact (proper (by decide)).1.ne_nil_and_whole.2 (by decide)

end ChatClient
