import ChatClient.TCPRuns
import ChatClient.UDPRuns

/-! Where the handlers' `process_user_input` ends. Either function is a chain of
branches without a `return` behind it. The state machine answers a user action
with one of the two reactions the branches test, so every command returns from
its branch; only the branch of a `/rename` that succeeds has no `return`. -/

namespace ChatClient

open Transition FSMValidate

/-- The event loop waits for the user's next line. -/
def ReadsStdin {H : Type} (loop : StreamHandler H) : Prop :=
  loop.state = .readyForInput ∧ loop.exited = false

/-- A call is defined and reaches a `return` statement. -/
def ReturnsExplicitly {H : Type} (result : Option (Outcome H)) : Prop :=
  ∃ outcome state, result = some outcome ∧ outcome.returned = some state

/-- A `/rename`, in any case, with a display name that passes the check. -/
def Renames (validateDname : Bytes → Bool) (line : Bytes) : Prop :=
  commandOf line = text "/RENAME" ∧ validateDname (argumentOf line) = true

theorem ReturnsExplicitly.defined {H : Type} {result : Option (Outcome H)}
    (returns : ReturnsExplicitly result) : ∃ outcome, result = some outcome := by
  obtain ⟨outcome, state, is, -⟩ := returns
  exact ⟨outcome, is⟩

private theorem returns_some {H : Type} {outcome : Outcome H} {state : ClientState}
    (returned : outcome.returned = some state) : ReturnsExplicitly (some outcome) :=
  ⟨outcome, state, rfl, returned⟩

private theorem returns_of_asked {H : Type} {fsm : FSMValidate} {action : Action}
    {next : Action × FSMValidate → Option (Outcome H)} (legal : fsm.Legal)
    (user : UserAction action) (accepted : ∀ after, ReturnsExplicitly (next (.any, after)))
    (rejected : ∀ after, ReturnsExplicitly (next (.warnClient, after))) :
    ReturnsExplicitly ((fsm.validateAction action).bind next) := by
  obtain ⟨reaction, after, asked, -, decided⟩ := legal.user user
  rw [asked, Option.bind_some]
  rcases decided with rfl | rfl
  · exact accepted after
  · exact rejected after

private theorem not_renames_exit {validateDname : Bytes → Bool} : ¬ Renames validateDname
    (text "/exit") := by
  rintro ⟨command, -⟩
  have other : commandOf (text "/exit") ≠ text "/RENAME" := by decide
  exact other command

private theorem Renames.ne_exit {validateDname : Bytes → Bool} {line : Bytes}
    (renames : Renames validateDname line) : line ≠ text "/exit" := by
  rintro rfl
  exact not_renames_exit renames

private theorem rename_ne : text "/RENAME" ≠ text "/AUTH" ∧ text "/RENAME" ≠ text "/JOIN" := by decide

section TCP
open TCPProtocolHandler TCPMessageValidator

variable {h : TCPProtocolHandler} {argument line : Bytes}

private theorem TCPProtocolHandler.processAuth_returns (legal : h.fsm.Legal) :
    ReturnsExplicitly (h.processAuth argument) := by
  apply returns_of_asked legal (.inl rfl)
  · intro after
    simp only [↓reduceIte]
    split <;> exact returns_some rfl
  · exact fun _ => returns_some rfl

private theorem TCPProtocolHandler.processJoin_returns (legal : h.fsm.Legal) :
    ReturnsExplicitly (h.processJoin argument) := by
  apply returns_of_asked legal (.inr (.inl rfl))
  · intro after
    simp only [↓reduceIte]
    split <;> exact returns_some rfl
  · exact fun _ => returns_some rfl

private theorem TCPProtocolHandler.processText_returns (legal : h.fsm.Legal) :
    ReturnsExplicitly (h.processText line) := by
  unfold processText
  split
  · exact returns_some rfl
  · apply returns_of_asked legal (.inr (.inr rfl))
    · intro after
      simp only [↓reduceIte]
      split <;> exact returns_some rfl
    · exact fun _ => returns_some rfl

/-- A `/rename` returns exactly when it is turned down. -/
theorem TCPProtocolHandler.processRename_returns_iff :
    ReturnsExplicitly (some (h.processRename argument)) ↔ ¬ validateDname argument = true := by
  cases valid : validateDname argument with
  | true =>
    simp only [processRename, rename, valid, Bool.not_true, Bool.false_eq_true, ↓reduceIte]
    simp [ReturnsExplicitly]
  | false =>
    simp only [processRename, rename, valid, Bool.not_false, ↓reduceIte]
    exact iff_of_true (returns_some rfl) (by decide)

private theorem tcp_returns_iff (legal : h.fsm.Legal) (line : Bytes) :
    ReturnsExplicitly (h.processUserInput line) ↔ ¬ Renames validateDname line := by
  have other {name : Bytes} (command : commandOf line = name) (differs : name ≠ text "/RENAME") :
      ¬ Renames validateDname line := by
    rintro ⟨renames, -⟩
    exact differs (command.symm.trans renames)
  unfold TCPProtocolHandler.processUserInput
  split
  · rename_i exits
    subst exits
    exact iff_of_true (returns_some rfl) not_renames_exit
  simp only
  split
  · exact iff_of_true (processAuth_returns legal) (other ‹_› (by decide))
  split
  · exact iff_of_true (processJoin_returns legal) (other ‹_› (by decide))
  split
  · rename_i command
    rw [processRename_returns_iff, Renames, and_iff_right command]
  rename_i noRename
  have plain : ¬ Renames validateDname line := fun renames => noRename renames.1
  split
  · exact iff_of_true (returns_some rfl) plain
  · exact iff_of_true (processText_returns legal) plain

/-- A legal machine answers whatever the user types. -/
theorem tcp_processUserInput_defined (legal : h.fsm.Legal) (line : Bytes) :
    ∃ outcome, h.processUserInput line = some outcome := by
  by_cases renames : Renames validateDname line
  · refine ⟨h.processRename (argumentOf line), ?_⟩
    simp only [TCPProtocolHandler.processUserInput, renames.ne_exit, renames.1, rename_ne, ↓reduceIte]
  · exact ((tcp_returns_iff legal line).mpr renames).defined

end TCP

section UDP
open UDPProtocolHandler UDPMessageValidator

variable {h : UDPProtocolHandler} {argument line : Bytes}

private theorem UDPProtocolHandler.processAuth_returns (legal : h.fsm.Legal) :
    ReturnsExplicitly (h.processAuth argument) := by
  apply returns_of_asked legal (.inl rfl)
  · intro after
    simp only [↓reduceIte]
    split
    · split <;> exact returns_some rfl
    · exact returns_some rfl
  · exact fun _ => returns_some rfl

private theorem UDPProtocolHandler.processJoin_returns (legal : h.fsm.Legal) :
    ReturnsExplicitly (h.processJoin argument) := by
  apply returns_of_asked legal (.inr (.inl rfl))
  · intro after
    simp only [↓reduceIte]
    split
    · split <;> exact returns_some rfl
    · exact returns_some rfl
  · exact fun _ => returns_some rfl

private theorem UDPProtocolHandler.processText_returns (legal : h.fsm.Legal) :
    ReturnsExplicitly (h.processText line) := by
  unfold processText
  split
  · exact returns_some rfl
  · apply returns_of_asked legal (.inr (.inr rfl))
    · intro after
      simp only [↓reduceIte]
      split <;> exact returns_some rfl
    · exact fun _ => returns_some rfl

/-- A `/rename` returns exactly when it is turned down. -/
theorem UDPProtocolHandler.processRename_returns_iff :
    ReturnsExplicitly (some (h.processRename argument)) ↔ ¬ validateDname argument = true := by
  cases valid : validateDname argument with
  | true =>
    simp only [processRename, rename, valid, Bool.not_true, Bool.false_eq_true, ↓reduceIte]
    simp [ReturnsExplicitly]
  | false =>
    simp only [processRename, rename, valid, Bool.false_eq_true, Bool.not_false, ↓reduceIte]
    exact iff_of_true (returns_some rfl) (by decide)

/-- Any line but a `/rename` that succeeds returns, and with an error put off every
line does. -/
theorem udp_returns_iff (legal : h.fsm.Legal) (line : Bytes) :
    ReturnsExplicitly (h.processUserInput line) ↔
      ¬ (h.errorWhileWaiting = false ∧ Renames validateDname line) := by
  have other {name : Bytes} (command : commandOf line = name) (differs : name ≠ text "/RENAME") :
      ¬ (h.errorWhileWaiting = false ∧ Renames validateDname line) := by
    rintro ⟨-, renames, -⟩
    exact differs (command.symm.trans renames)
  unfold UDPProtocolHandler.processUserInput
  split
  · rename_i exits
    subst exits
    exact iff_of_true (returns_some rfl) fun both => not_renames_exit both.2
  split
  · rename_i pending
    exact iff_of_true (returns_some rfl) fun both => by simp [both.1] at pending
  rename_i clear
  rw [Bool.not_eq_true] at clear
  simp only
  split
  · exact iff_of_true (processAuth_returns legal) (other ‹_› (by decide))
  split
  · exact iff_of_true (processJoin_returns legal) (other ‹_› (by decide))
  split
  · rename_i command
    rw [processRename_returns_iff, Renames, and_iff_right clear, and_iff_right command]
  rename_i noRename
  have plain : ¬ (h.errorWhileWaiting = false ∧ Renames validateDname line) :=
    fun both => noRename both.2.1
  split
  · exact iff_of_true (returns_some rfl) plain
  · exact iff_of_true (processText_returns legal) plain

/-- A legal machine answers whatever the user types. -/
theorem udp_processUserInput_defined (legal : h.fsm.Legal) (line : Bytes) :
    ∃ outcome, h.processUserInput line = some outcome := by
  by_cases renames : h.errorWhileWaiting = false ∧ Renames validateDname line
  · obtain ⟨clear, renames⟩ := renames
    refine ⟨h.processRename (argumentOf line), ?_⟩
    simp only [UDPProtocolHandler.processUserInput, renames.ne_exit, clear, renames.1, rename_ne,
      Bool.false_eq_true, ↓reduceIte]
  · exact ((udp_returns_iff legal line).mpr renames).defined

end UDP

variable {retries udpRetries : UInt8} {server : SockAddr} {tcpHistory : List TCPTurn}
  {client : StreamHandler TCPClient} {udpHistory : List UDPTurn}
  {loop : StreamHandler UDPProtocolHandler}

/-- In every state of either client in which stdin is read, a line reaches a `return`
if and only if it is no `/rename` that succeeds; over UDP it also does while an
error is put off. -/
theorem user_line_returns_iff (tcp : TCPRun retries tcpHistory client)
    (udp : UDPRun server udpRetries udpHistory loop) (line : Bytes) :
    (ReadsStdin client → (ReturnsExplicitly (client.protocolHandler.handler.processUserInput line) ↔
      ¬ Renames TCPMessageValidator.validateDname line)) ∧
    (ReadsStdin loop → (ReturnsExplicitly (loop.protocolHandler.processUserInput line) ↔
      ¬ (loop.protocolHandler.errorWhileWaiting = false ∧
        Renames UDPMessageValidator.validateDname line))) := by
  constructor
  · intro reads
    have goes : client.state ≠ .over := by simp [reads.1]
    exact tcp_returns_iff (tcpRun_legal tcp goes) line
  · intro _
    exact udp_returns_iff (udpRun_legal udp) line

/-- A text that either client takes in OPEN. -/
theorem user_line_returns_iff_opened : ∃ tcpHistory client udpHistory loop,
    TCPRun 3 tcpHistory client ∧ UDPRun localServer 3 udpHistory loop ∧
    ReadsStdin client ∧ ReadsStdin loop ∧
    ReturnsExplicitly (client.protocolHandler.handler.processUserInput (text "hi")) ∧
    ReturnsExplicitly (loop.protocolHandler.processUserInput (text "hi")) := by
  have tcp : tcpSample [enters "/auth a b c", streams (piece "REPLY OK IS hi\r\n")] =
    some (_, _) := rfl
  have udp : sample [types "/auth a b c", arrives [0x00, 0, 0],
    arrives [0x01, 0, 5, 1, 0, 0, 0x6F, 0x6B, 0]] = some (_, _) := rfl
  have plain {validateDname : Bytes → Bool} : ¬ Renames validateDname (text "hi") := by
    rintro ⟨command, -⟩
    have other : commandOf (text "hi") ≠ text "/RENAME" := by decide
    exact other command
  have returns := user_line_returns_iff (Run.of_exec tcp) (Run.of_exec udp) (text "hi")
  exact ⟨_, _, _, _, Run.of_exec tcp, Run.of_exec udp, ⟨rfl, rfl⟩, ⟨rfl, rfl⟩,
    (returns.1 ⟨rfl, rfl⟩).mpr plain, (returns.2 ⟨rfl, rfl⟩).mpr fun renames => plain renames.2⟩

/-- An accepted `/rename` runs off the end of either function. -/
theorem accepted_rename_runs_off : ∃ tcpHistory client udpHistory loop,
    TCPRun 3 tcpHistory client ∧ UDPRun localServer 3 udpHistory loop ∧
    ReadsStdin client ∧ ReadsStdin loop ∧
    ¬ ReturnsExplicitly (client.protocolHandler.handler.processUserInput (text "/rename bob")) ∧
    ¬ ReturnsExplicitly (loop.protocolHandler.processUserInput (text "/rename bob")) := by
  refine ⟨_, _, _, _, .start, .start, ⟨rfl, rfl⟩, ⟨rfl, rfl⟩, ?_, ?_⟩
  · rw [tcp_returns_iff .fresh]
    exact not_not.mpr ⟨by decide, by decide⟩
  · rw [udp_returns_iff .fresh]
    exact not_not.mpr ⟨rfl, by decide, by decide⟩

end ChatClient
