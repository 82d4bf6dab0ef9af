import ChatClient.UDPRuns

/-! Where `process_received` touches a datagram. The branches for REPLY, MSG, ERR, BYE
and unknown types look at the length before they read the header and copy the
content. The branch for a CONFIRM does not, and nothing makes sure that there is a
first byte. -/

namespace ChatClient

open Transition Calls UDPProtocolHandler UDPMessageValidator

variable {server : SockAddr} {retries : UInt8} {history : List UDPTurn}
  {loop : StreamHandler UDPProtocolHandler} {h : UDPProtocolHandler} {message other : Bytes}

/-- A place of a datagram: a byte that is read, or the start of a sub-vector that is
copied up to the end. -/
inductive Access where
  | byte (position : Nat)
  | copyFrom (start : Nat)
  deriving DecidableEq

/-- The place lies in the datagram; a copy may start at its end. -/
def Access.InBounds (message : Bytes) : Access → Prop
  | .byte position => position < message.length
  | .copyFrom start => start ≤ message.length

/-- The bytes of the message ID. -/
def idBytes : List Access := [.byte 1, .byte 2]

/-- What the branch of a type touches after the type byte. -/
def branchAccesses (firstByte : UInt8) (length : Nat) : List Access :=
  if firstByte = 0x00 then idBytes
  else if firstByte = 0x01 then
    if length < 6 then [] else idBytes ++ [.byte 3, .byte 4, .byte 5, .copyFrom 6]
  else if firstByte = 0x04 then
    if length < 3 then [] else idBytes ++ [.copyFrom 3]
  else if firstByte = 0xFE then
    if length < 4 then [] else idBytes ++ [.copyFrom 3]
  else
    -- BYE and unknown types
    if length < 3 then [] else idBytes

/-- What `process_received` touches, in order. When there is no first byte the branch
taken is not determined. -/
def accesses (message : Bytes) : List Access :=
  .byte 0 :: match message[0]? with
    | some firstByte => branchAccesses firstByte message.length
    | none => []

/-- Every byte read and every sub-vector copied lies in the datagram, so the call is
defined. -/
structure ParsesInBounds (h : UDPProtocolHandler) (message : Bytes) : Prop where
  within : ∀ access ∈ accesses message, access.InBounds message
  defined : ∃ outcome, h.processReceived message = some outcome

/-! ## What is not touched does not matter -/

/-- Two datagrams agree at a place. -/
def Access.Same (message other : Bytes) : Access → Prop
  | .byte position => message[position]? = other[position]?
  | .copyFrom start => message.drop start = other.drop start

private theorem readId_congr {position : Nat} (high : Access.Same message other (.byte position))
    (low : Access.Same message other (.byte (position + 1))) :
    readId message position = readId other position := by
  simp only [Access.Same] at high low
  rw [readId, readId, high, low]

/-- Two datagrams of one length that agree wherever the branch of a type touches one. -/
structure Agrees (firstByte : UInt8) (message other : Bytes) : Prop where
  length : message.length = other.length
  same : ∀ access ∈ branchAccesses firstByte message.length, access.Same message other

section Branches
variable {firstByte : UInt8}

theorem Agrees.id (agrees : Agrees firstByte message other)
    (reads : ∀ access ∈ idBytes, access ∈ branchAccesses firstByte message.length) :
    readId message 1 = readId other 1 := by
  apply readId_congr
  · exact agrees.same _ (reads (.byte 1) (.head _))
  · exact agrees.same _ (reads (.byte 2) (.tail _ (.head _)))

/-- A branch that copies the content from the fourth byte on. -/
theorem Agrees.content (agrees : Agrees firstByte message other)
    (copies : .copyFrom 3 ∈ branchAccesses firstByte message.length) :
    message.drop 3 = other.drop 3 :=
  agrees.same (.copyFrom 3) copies

private theorem processConfirm_congr (agrees : Agrees 0x00 message other) :
    h.processConfirm message = h.processConfirm other := by
  simp only [processConfirm, agrees.id (by simp [branchAccesses])]

private theorem processReply_congr (agrees : Agrees 0x01 message other) :
    h.processReply message = h.processReply other := by
  simp only [processReply, ← agrees.length]
  split
  · rfl
  · rename_i whole
    have status := agrees.same (.byte 3) (by simp [branchAccesses, whole])
    have refID : readId message 4 = readId other 4 :=
      readId_congr (agrees.same (.byte 4) (by simp [branchAccesses, whole]))
        (agrees.same (.byte 5) (by simp [branchAccesses, whole]))
    have content := agrees.same (.copyFrom 6) (by simp [branchAccesses, whole])
    simp only [Access.Same] at status content
    rw [agrees.id (by simp [branchAccesses, idBytes, whole]), status, refID, content]

private theorem processMessage_congr (agrees : Agrees 0x04 message other) :
    h.processMessage message = h.processMessage other := by
  simp only [processMessage, ← agrees.length]
  split
  · rfl
  · rename_i whole
    rw [agrees.id (by simp [branchAccesses, idBytes, whole]),
      agrees.content (by simp [branchAccesses, whole])]

private theorem processError_congr (agrees : Agrees 0xFE message other) :
    h.processError message = h.processError other := by
  simp only [processError, ← agrees.length]
  split
  · rfl
  · rename_i whole
    rw [agrees.id (by simp [branchAccesses, idBytes, whole]),
      agrees.content (by simp [branchAccesses, whole])]

/-- The branches for BYE and unknown types read the ID and no more. -/
theorem Agrees.id_of_rest (agrees : Agrees firstByte message other)
    (rest : firstByte ≠ 0x00 ∧ firstByte ≠ 0x01 ∧ firstByte ≠ 0x04 ∧ firstByte ≠ 0xFE)
    (whole : ¬ message.length < 3) : readId message 1 = readId other 1 := by
  apply agrees.id
  simp only [branchAccesses, rest, whole, ↓reduceIte]
  exact fun _ member => member

end Branches

/-- Datagrams of one length that agree wherever one is touched have one outcome:
`accesses` leaves out nothing the call depends on. -/
theorem processReceived_congr (length : message.length = other.length)
    (same : ∀ access ∈ accesses message, access.Same message other) :
    h.processReceived message = h.processReceived other := by
  have type : message[0]? = other[0]? := same (.byte 0) (.head _)
  cases first : message[0]? with
  | none => simp only [processReceived, ← type, first, Option.bind_eq_bind, Option.bind_none]
  | some firstByte =>
    have agrees : Agrees firstByte message other :=
      ⟨length, fun access member => same access (by simp [accesses, first, member])⟩
    simp only [processReceived, ← type, first, Option.bind_eq_bind, Option.bind_some]
    split
    · rename_i confirm
      exact processConfirm_congr (confirm ▸ agrees)
    split
    · rename_i reply
      exact processReply_congr (reply ▸ agrees)
    split
    · rename_i text
      exact processMessage_congr (text ▸ agrees)
    split
    · rename_i error
      exact processError_congr (error ▸ agrees)
    rename_i noConfirm noReply noText noError
    have rest := agrees.id_of_rest ⟨noConfirm, noReply, noText, noError⟩
    split
    · simp only [processBye, ← length]
      split
      · rfl
      · rw [rest ‹_›]
    · simp only [processUnknown, ← length]
      split
      · rfl
      · rw [rest ‹_›]

/-! ## Bounds -/

private theorem branch_within {firstByte : UInt8} (header : firstByte = 0x00 → 3 ≤ message.length) :
    ∀ access ∈ branchAccesses firstByte message.length, access.InBounds message := by
  have none : ∀ access ∈ ([] : List Access), access.InBounds message := by simp
  have idAnd {rest : List Access} (whole : 3 ≤ message.length)
      (within : ∀ access ∈ rest, access.InBounds message) :
      ∀ access ∈ idBytes ++ rest, access.InBounds message := by
    simp only [idBytes, List.cons_append, List.nil_append, List.forall_mem_cons, Access.InBounds]
    exact ⟨by omega, by omega, within⟩
  have copies {start : Nat} (inside : start ≤ message.length) :
      ∀ access ∈ [Access.copyFrom start], access.InBounds message := by
    simpa [Access.InBounds] using inside
  unfold branchAccesses
  split
  · rename_i confirm
    exact idAnd (header confirm) none
  split
  · split
    · exact none
    · rename_i whole
      refine idAnd (by omega) ?_
      simp only [List.forall_mem_cons, Access.InBounds]
      exact ⟨by omega, by omega, by omega, by omega, none⟩
  split
  · split
    · exact none
    · rename_i whole
      exact idAnd (by omega) (copies (by omega))
  split
  · split
    · exact none
    · rename_i whole
      exact idAnd (by omega) (copies (by omega))
  · split
    · exact none
    · rename_i whole
      exact idAnd (by omega) none

/-- All places lie in the datagram when there is a first byte and, for a CONFIRM, a
whole header. -/
theorem within_iff : (∀ access ∈ accesses message, access.InBounds message) ↔
    message ≠ [] ∧ (hasType 0x00 message = true → 3 ≤ message.length) := by
  constructor
  · intro within
    have first : 0 < message.length := within (.byte 0) (.head _)
    refine ⟨List.ne_nil_of_length_pos first, fun confirm => ?_⟩
    have type : message[0]? = some 0x00 := by simpa [hasType] using confirm
    have last : 2 < message.length :=
      within (.byte 2) (by simp [accesses, type, branchAccesses, idBytes])
    omega
  · rintro ⟨nonempty, header⟩ access member
    have first := List.length_pos_of_ne_nil nonempty
    have type : message[0]? = some message[0] := by simp
    rw [accesses, type] at member
    rcases List.mem_cons.mp member with rfl | branch
    · exact first
    · exact branch_within (fun confirm => header (by simp [hasType, confirm, type])) access branch

private theorem defined_of_within (legal : h.fsm.Legal)
    (within : ∀ access ∈ accesses message, access.InBounds message) :
    ∃ outcome, h.processReceived message = some outcome := by
  obtain ⟨nonempty, header⟩ := within_iff.mp within
  by_cases whole : 3 ≤ message.length
  · exact processReceived_defined legal whole
  have first := List.length_pos_of_ne_nil nonempty
  have type : message[0]? = some message[0] := by simp
  have noConfirm : message[0] ≠ 0x00 := by
    intro confirm
    exact whole (header (by simp [hasType, type, confirm]))
  have three : message.length < 3 := by omega
  have four : message.length < 4 := by omega
  have six : message.length < 6 := by omega
  simp only [processReceived, type, Option.bind_eq_bind, Option.bind_some, noConfirm, processReply,
    processMessage, processError, processBye, processUnknown, three, four, six, ↓reduceIte]
  refine Defined.ite (fun reply => .some _) fun _ => .ite (fun msg => .some _) fun _ => ?_
  exact .ite (fun err => .some _) fun _ => .ite (fun bye => .some _) fun unknown => .some _

/-- In every state a run reaches, a datagram is read within its bounds if and only if
it is not empty and, when it is a CONFIRM, has a whole header. -/
theorem parsesInBounds_iff (run : UDPRun server retries history loop) (fromAddr : SockAddr)
    (message : RecvBuffer) :
    ParsesInBounds { loop.protocolHandler with serverAddress := fromAddr } message.val ↔
      message.val ≠ [] ∧ (hasType 0x00 message.val = true → 3 ≤ message.val.length) := by
  rw [← within_iff]
  constructor
  · exact ParsesInBounds.within
  · intro within
    have legal := udpRun_legal run
    exact ⟨within, defined_of_within legal within⟩

/-- A MSG header after an AUTH. -/
theorem parsesInBounds_iff_auth : ∃ history loop, ∃ message : RecvBuffer,
    UDPRun localServer 3 history loop ∧ history.length = 1 ∧ message.val = [0x04, 0, 6] ∧
    (ParsesInBounds { loop.protocolHandler with serverAddress := localServer } message.val ↔
      message.val ≠ [] ∧ (hasType 0x00 message.val = true → 3 ≤ message.val.length)) := by
  have ran : sample [types "/auth a b c"] = some (_, _) := rfl
  exact ⟨_, _, ⟨[0x04, 0, 6], by decide⟩, Run.of_exec ran, rfl, rfl,
    parsesInBounds_iff (Run.of_exec ran) localServer _⟩

/-- A CONFIRM of one byte has its ID read past the end. -/
theorem short_confirm_overread : ∃ history loop, UDPRun localServer 3 history loop ∧
    history.length = 1 ∧ loop.state = .waitingForConfirmation ∧
    ¬ ParsesInBounds { loop.protocolHandler with serverAddress := localServer } [0x00] := by
  have ran : sample [types "/auth a b c"] = some (_, _) := rfl
  refine ⟨_, _, Run.of_exec ran, rfl, rfl, fun inBounds => ?_⟩
  have read := inBounds.within (.byte 1) (by decide)
  simp [Access.InBounds] at read

end ChatClient
