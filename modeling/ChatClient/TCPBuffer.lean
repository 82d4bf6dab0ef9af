import ChatClient.Library.Service
import ChatClient.TCPRules

/-! The inner loop of `process_server_message`: a call of a server that works off
the complete lines of its buffer. A settled state machine stays settled, so every
line is processed. -/

namespace ChatClient

open FSMValidate TCPMessageValidator TCPProtocolHandler Framing Service

variable {runOff : RunOff} {h : TCPProtocolHandler} {line : Bytes}
  {outcome : Outcome TCPProtocolHandler}

/-! ## The inner loop -/

/-- The handler as a server of lines. -/
def lineServer (runOff : RunOff := .ready) : Server TCPProtocolHandler Bytes Handed where
  act h line := ⟨h, line, (h.processReceived line).getD ⟨h, [], some .over⟩⟩
  next handed := handed.outcome.handler
  verdict handed :=
    if handed.leaves runOff then if handed.state = .over then .stop else .pause else .go

/-- The inner loop goes on after READY_FOR_INPUT only. -/
theorem Handed.state_of_stays {handed : Handed} (stays : handed.leaves runOff = false) :
    handed.state = .readyForInput := by
  unfold Handed.leaves at stays
  unfold Handed.state
  cases returned : handed.outcome.returned with
  | none => rfl
  | some state => simpa [returned] using stays

/-- Where calls that run off are good for READY_FOR_INPUT, the state decides. -/
theorem Handed.stays_iff {handed : Handed} :
    handed.leaves .ready = false ↔ handed.state = .readyForInput := by
  unfold Handed.leaves Handed.state
  cases handed.outcome.returned <;> simp

theorem verdict_go_iff {handed : Handed} :
    (lineServer runOff).verdict handed = .go ↔ handed.leaves runOff = false := by
  simp only [lineServer]
  cases leaves : handed.leaves runOff with
  | false => simp
  | true => by_cases ended : handed.state = .over <;> simp [ended]

@[simp] theorem verdict_go {handed : Handed} :
    lineServer.verdict handed = .go ↔ handed.state = .readyForInput :=
  verdict_go_iff.trans Handed.stays_iff

@[simp] theorem verdict_stop {handed : Handed} :
    (lineServer runOff).verdict handed = .stop ↔ handed.state = .over := by
  simp only [lineServer]
  cases leaves : handed.leaves runOff with
  | false => simp [Handed.state_of_stays leaves]
  | true => by_cases ended : handed.state = .over <;> simp [ended]

@[simp] theorem next_eq {handed : Handed} :
    (lineServer runOff).next handed = handed.outcome.handler := rfl

theorem act_eq (ran : h.processReceived line = some outcome) :
    (lineServer runOff).act h line = ⟨h, line, outcome⟩ := by
  simp [lineServer, ran]

/-- Every line handed over was processed in a settled state. -/
theorem mem_hand {lines : List Bytes} (settled : Settled h.fsm) :
    ∀ handed ∈ (lineServer runOff).hand h lines, Settled handed.before.fsm ∧
      handed.before.processReceived handed.line = some handed.outcome := by
  induction lines generalizing h with
  | nil => simp [Server.hand]
  | cons line lines ih =>
    obtain ⟨outcome, ran, kept⟩ := @processReceived_defined h line settled
    intro handed member
    rw [Server.hand, act_eq ran] at member
    rcases List.mem_cons.mp member with rfl | later
    · exact ⟨settled, ran⟩
    · split at later
      · cases later
      · exact ih kept handed later

theorem crlf_ne_nil : crlf ≠ [] := by decide

/-- The inner loop is one call of the server on the complete lines of the buffer;
the lines it does not get to and the line begun stay in the buffer. -/
theorem handLines_eq_burst {fuel : Nat} {buffer : Bytes} (settled : Settled h.fsm)
    (enough : buffer.length ≤ fuel) :
    ∃ rest, h.handLines runOff fuel buffer =
        some (((lineServer runOff).burst h (feed crlf [] buffer).1).1, rest) ∧
      feed crlf [] rest =
        (((lineServer runOff).burst h (feed crlf [] buffer).1).2, (feed crlf [] buffer).2) ∧
      join crlf (((lineServer runOff).burst h (feed crlf [] buffer).1).1.map Handed.line) ++ rest =
        buffer ∧
      Settled ((lineServer runOff).reached h
        ((lineServer runOff).burst h (feed crlf [] buffer).1).1).fsm := by
  induction fuel generalizing h buffer with
  | zero =>
    obtain rfl := List.length_eq_zero_iff.mp (Nat.le_zero.mp enough)
    exact ⟨[], rfl, rfl, rfl, settled⟩
  | succ fuel ih =>
    cases found : find crlf buffer with
    | none =>
      rw [feed_of_find_none found]
      exact ⟨buffer, by simp [handLines, found, Server.burst], feed_of_find_none found,
        by simp [Server.burst], settled⟩
    | some pos =>
      have shorter := length_drop_of_find crlf_ne_nil found
      have whole := split_of_find found
      have next : buffer.drop (pos + crlf.length) = buffer.drop (pos + 2) := rfl
      rw [feed_of_find crlf_ne_nil found]
      rw [next] at shorter whole ⊢
      obtain ⟨outcome, ran, kept⟩ := @processReceived_defined h (buffer.take pos) settled
      simp only [handLines, found, ran, Option.bind_eq_bind, Option.bind_some, Server.burst,
        act_eq ran, verdict_go_iff]
      cases stays : Handed.leaves runOff ⟨h, buffer.take pos, outcome⟩
      · have bound : (buffer.drop (pos + 2)).length ≤ fuel := by omega
        obtain ⟨rest, loop, fed, joined, settledAfter⟩ := ih kept bound
        refine ⟨rest, by simp [loop], by simpa using fed, ?_, ?_⟩
        · simp only [↓reduceIte, next_eq, List.map_cons, join_cons, List.append_assoc, joined]
          simpa using whole.symm
        · simpa using settledAfter
      · refine ⟨buffer.drop (pos + 2), by simp, by simp, ?_, ?_⟩
        · simpa using whole.symm
        · simpa using kept

/-! ## One call -/

variable {client after : TCPClient runOff} {chunk : Bytes} {handed : List Handed}

/-- A call hands over one burst of the complete lines, and the client keeps what
is behind it. -/
structure HandsOver (client : TCPClient runOff) (chunk : Bytes) (handed : List Handed)
    (after : TCPClient runOff) : Prop where
  lines : handed =
    ((lineServer runOff).burst client.handler (feed crlf [] (client.buffer ++ chunk)).1).1
  handler : after.handler = (lineServer runOff).reached client.handler handed
  left : feed crlf [] after.buffer =
    (((lineServer runOff).burst client.handler (feed crlf [] (client.buffer ++ chunk)).1).2,
      (feed crlf [] (client.buffer ++ chunk)).2)
  joined : join crlf (handed.map Handed.line) ++ after.buffer = client.buffer ++ chunk
  settled : Settled after.handler.fsm

theorem handOver_defined (settled : Settled client.handler.fsm) (chunk : Bytes) :
    ∃ handed after, client.handOver chunk = some (handed, after) ∧
      HandsOver client chunk handed after := by
  obtain ⟨rest, loop, left, joined, settledAfter⟩ :=
    handLines_eq_burst settled (Nat.le_refl (client.buffer ++ chunk).length)
  refine ⟨_, ⟨_, rest⟩, ?_, rfl, rfl, left, joined, settledAfter⟩
  simp only [TCPClient.handOver, loop, Option.bind_eq_bind, Option.bind_some]
  rfl

/-- The lines of a call were processed in settled states. -/
theorem HandsOver.mem (taken : HandsOver client chunk handed after)
    (settled : Settled client.handler.fsm) : ∀ line ∈ handed, Settled line.before.fsm ∧
      line.before.processReceived line.line = some line.outcome := by
  intro line member
  have whole := @Server.hand_eq_burst _ _ _ (lineServer runOff) client.handler
    (feed crlf [] (client.buffer ++ chunk)).1 []
  rw [← taken.lines] at whole
  exact mem_hand settled line (whole ▸ List.mem_append_left _ member)

/-- A property of the lines of a call, shown from the last line back. -/
theorem burst_induction {Q : TCPProtocolHandler → List Handed → Prop} {lines : List Bytes}
    (settled : Settled h.fsm) (nil : ∀ h, Q h [])
    (cons : ∀ h line outcome rest, Settled h.fsm → Receipt h line outcome →
      Q outcome.handler rest → Q h (⟨h, line, outcome⟩ :: rest)) :
    Q h ((lineServer runOff).burst h lines).1 := by
  refine (lineServer runOff).burst_induction (Q := fun h rest => Settled h.fsm → Q h rest)
    (fun h _ => nil h) (fun h line rest ih settled => ?_) settled
  obtain ⟨outcome, ran, kept⟩ := @processReceived_defined h line settled
  rw [act_eq ran] at ih ⊢
  exact cons h line outcome rest settled (receipt_of_processReceived ran) (ih kept)

/-- The state a call returns says whether a line closed the session. -/
theorem returned_over_iff :
    (handed.getLast?.map Handed.state).getD .readyForInput = .over ↔
      (lineServer runOff).stopped handed = true := by
  simp only [Server.stopped, verdict_stop]
  cases handed.getLast? <;> simp

/-- The inner loop goes on after every line of a call but the last. -/
theorem HandsOver.stays_before (taken : HandsOver client chunk handed after) {before : List Handed}
    {last : Handed} (shape : handed = before ++ [last]) :
    ∀ line ∈ before, line.leaves runOff = false := by
  rcases @Server.burst_cases _ _ _ (lineServer runOff) client.handler _ with
    ⟨all, -⟩ | ⟨first, final, same, all, -⟩
  · intro line member
    exact verdict_go_iff.mp (all line (taken.lines ▸ shape ▸ List.mem_append_left _ member))
  · obtain ⟨rfl, -⟩ := List.append_inj' (same.symm.trans (taken.lines.symm.trans shape)) rfl
    exact fun line member => verdict_go_iff.mp (all line member)

/-- A call that does not return OVER handed over no line that closed the session. -/
theorem HandsOver.goes (taken : HandsOver client chunk handed after)
    (goes : (handed.getLast?.map Handed.state).getD .readyForInput ≠ .over) :
    ∀ line ∈ handed, line.state ≠ .over := by
  intro line member
  rcases List.eq_nil_or_concat handed with rfl | ⟨before, last, shape⟩
  · cases member
  · rw [List.concat_eq_append] at shape
    have stays := taken.stays_before shape
    rw [shape] at goes member
    rcases List.mem_append.mp member with first | final
    · simp [Handed.state_of_stays (stays line first)]
    · rw [List.mem_singleton.mp final]
      simpa using goes

/-- A call that receives a chunk. -/
theorem processServerMessage_chunk {errors : Nat} {chunk : Chunk}
    (hands : client.handOver chunk.val = some (handed, after)) :
    client.processServerMessage ⟨errors, some chunk⟩ =
      some ⟨after, List.replicate errors (.perror (text "recv")) ++
        handed.flatMap fun line => line.outcome.effects,
        some ((handed.getLast?.map Handed.state).getD .readyForInput)⟩ := by
  simp [TCPClient.processServerMessage, hands]

end ChatClient
