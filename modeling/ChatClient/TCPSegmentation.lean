import ChatClient.TCPRuns

/-! How the server's bytes are cut into chunks.

`process_server_message` leaves its inner loop at a line for which something else
than READY_FOR_INPUT comes back, and only the next chunk brings it back to the
lines behind. A message that is displayed while a reply is awaited is such a line,
and so is one on which `process_received` runs off its end, if what comes back then
is no READY_FOR_INPUT. So the cutting matters exactly when such lines are not followed
by chunks enough, or when the session is closed after different parts of the stream.
All of this is for every `runOff`. -/

namespace ChatClient

open Transition FSMValidate TCPMessageValidator TCPProtocolHandler Framing Service

/-- What came of some chunks: the lines handed over with their outcomes, what was
displayed and sent, the client then, and whether the last call returned OVER. -/
structure Session (runOff : RunOff) where
  handed : List Handed := []
  effects : List Effect := []
  client : TCPClient runOff
  ended : Bool := false

namespace TCPClient

/-- One call of `process_server_message` for each chunk, up to the first that
returns OVER. -/
def receive {runOff : RunOff} (client : TCPClient runOff) : List Chunk → Option (Session runOff)
  | [] => some { client }
  | chunk :: chunks => do
    let (handed, _) ← client.handOver chunk.val
    let outcome ← client.processServerMessage { chunk }
    if outcome.returned = some .over then
      some { handed, effects := outcome.effects, client := outcome.handler, ended := true }
    else do
      let rest ← receive outcome.handler chunks
      some { rest with
        handed := handed ++ rest.handed
        effects := outcome.effects ++ rest.effects }

end TCPClient

/-- The bytes of some chunks. -/
def bytes (chunks : List Chunk) : Bytes := chunks.flatMap Subtype.val

/-- The lines each chunk completes, when `begun` is the line begun before. -/
def batches (begun : Bytes) : List Chunk → List (List Bytes)
  | [] => []
  | chunk :: chunks =>
    (feed crlf begun chunk.val).1 :: batches (feed crlf begun chunk.val).2 chunks

variable {runOff : RunOff} {h : TCPProtocolHandler} {client : TCPClient runOff} {chunk : Chunk}
  {chunks : List Chunk} {begun : Bytes} {handed : Handed}

@[simp] theorem bytes_cons : bytes (chunk :: chunks) = chunk.val ++ bytes chunks := by
  simp [bytes]

private theorem batches_flatten : (batches begun chunks).flatten =
    (feed crlf begun (bytes chunks)).1 := by
  induction chunks generalizing begun with
  | nil => rfl
  | cons chunk chunks ih =>
    rw [batches, List.flatten_cons, ih, bytes_cons, feed_append]

/-! ## The lines that interrupt the inner loop -/

/-- A message that is displayed while a reply is awaited. -/
def ShowsWhileWaiting (h : TCPProtocolHandler) (line : Bytes) : Prop :=
  h.waitingForReply = true ∧ h.fsm.currentState = .opened ∧
    upper ((splitMessage line).headD []) = text "MSG" ∧
    (h.messageValidator.validateMessageServer line).2 = true

instance {line : Bytes} : Decidable (ShowsWhileWaiting h line) := by
  unfold ShowsWhileWaiting
  infer_instance

/-- The lines that interrupt the inner loop: a message that is displayed while a reply
is awaited, and a line without a `return` for which no READY_FOR_INPUT comes back. -/
def Interrupts (runOff : RunOff) (h : TCPProtocolHandler) (line : Bytes) : Prop :=
  ShowsWhileWaiting h line ∨ (RunsOff h line ∧ runOff h line = true)

instance {line : Bytes} : Decidable (Interrupts runOff h line) := by
  unfold Interrupts
  infer_instance

/-- A settled machine accepts a message in OPEN only. -/
theorem FSMValidate.Settled.accepts_message {fsm after : FSMValidate} {reaction : Action}
    (settled : Settled fsm) (asked : fsm.validateAction .messageServer = some (reaction, after)) :
    reaction = .any ↔ fsm.currentState = .opened := by
  rcases settled with legal | ⟨previous, rfl⟩
  · constructor
    · rintro rfl
      exact (legal.spoken (.inl rfl) asked).1
    · intro opened
      cases asked.symm.trans (legal.accepts_spoken opened (.inl rfl))
      rfl
  · cases asked
    simp

variable {line : Bytes} {outcome : Outcome TCPProtocolHandler}

private theorem not_showsWhileWaiting (other : upper ((splitMessage line).headD []) ≠ text "MSG") :
    ¬ ShowsWhileWaiting h line := fun shows => other shows.2.2.1

private theorem TCPProtocolHandler.ReplyLine.not_message {action : Action} {display : Bytes → Effect}
    (reply : ReplyLine line action display) : upper ((splitMessage line).headD []) ≠ text "MSG" := by
  cases reply with
  | positive command | negative command =>
    rw [command]
    decide

private theorem TCPProtocolHandler.Names.message_or {action : Action} (names : Names line action) :
    action = .messageServer ∨ upper ((splitMessage line).headD []) ≠ text "MSG" := by
  cases names with
  | message => exact .inl rfl
  | reply reply => exact .inr reply.not_message
  | error command | bye command =>
    rw [command]
    exact .inr (by decide)

/-- A line the machine turns down or that fails its check is not displayed. -/
theorem TCPProtocolHandler.Names.not_shows {action reaction : Action} {fsm : FSMValidate}
    (names : Names line action) (settled : Settled h.fsm)
    (asked : h.fsm.validateAction action = some (reaction, fsm))
    (turned : reaction ≠ .any ∨ ¬ Passes h line action) : ¬ ShowsWhileWaiting h line := by
  rcases names.message_or with rfl | other
  · rintro ⟨-, opened, -, valid⟩
    rcases turned with refused | fails
    · exact refused ((settled.accepts_message asked).mpr opened)
    · exact fails valid
  · exact not_showsWhileWaiting other

/-- What is returned for a line, if anything: WAITING_FOR_REPLY for a message displayed
while a reply is awaited, and for no other line. -/
theorem TCPProtocolHandler.Receipt.interrupts (receipt : Receipt h line outcome)
    (settled : Settled h.fsm) :
    (outcome.returned = some .waitingForReply ∧ ShowsWhileWaiting h line) ∨
      (outcome.returned.getD .readyForInput ∈ [ClientState.readyForInput, .over] ∧
        ¬ ShowsWhileWaiting h line) := by
  cases receipt with
  | shown names asked valid =>
    have opened := (settled.accepts_message asked).mp rfl
    cases names with
    | message command =>
      cases waits : h.waitingForReply with
      | true => exact .inl ⟨rfl, waits, opened, command, by rw [valid]⟩
      | false => exact .inr ⟨by simp, fun shows => absurd (waits.symm.trans shows.1) (by decide)⟩
    | reply reply => cases reply
  | reply reply | ignored reply =>
    exact .inr ⟨by simp, not_showsWhileWaiting reply.not_message⟩
  | errorShown names | bye names =>
    have other := names.message_or.resolve_left (by simp)
    exact .inr ⟨by simp, not_showsWhileWaiting other⟩
  | failed names asked refused =>
    refine .inr ⟨by simp [failWith], names.not_shows settled asked ?_⟩
    rcases refused with rfl | ⟨-, fails⟩
    · exact .inl (by simp)
    · exact .inr fails
  | undecided names asked neither how =>
    refine .inr ⟨?_, names.not_shows settled asked (.inl neither.1)⟩
    rw [how]
    split <;> simp
  | nameless command =>
    refine .inr ⟨by simp, not_showsWhileWaiting ?_⟩
    rw [command]
    decide
  | unknown other =>
    exact .inr ⟨by simp [processUnknown], fun shows => other _ (.message shows.2.2.1)⟩

private theorem pausing_act (settled : Settled h.fsm) :
    (lineServer runOff).pausing ((lineServer runOff).act h line) =
      decide (Interrupts runOff h line) := by
  obtain ⟨outcome, ran, -⟩ := @processReceived_defined h line settled
  have ranOff := returned_iff settled ran
  rw [act_eq ran, Server.pausing]
  rcases (receipt_of_processReceived ran).interrupts settled with ⟨waits, shows⟩ | ⟨goes, hidden⟩
  · simp [lineServer, Handed.leaves, Handed.state, waits, Interrupts, shows]
  · cases returned : outcome.returned with
    | none =>
      have off := ranOff.mp returned
      by_cases leaves : runOff h line = true <;>
        simp [lineServer, Handed.leaves, Handed.state, returned, Interrupts, off, hidden, leaves]
    | some state =>
      have on : ¬ RunsOff h line := fun off => by simp [ranOff.mpr off] at returned
      simp only [returned, Option.getD_some, List.mem_cons, List.not_mem_nil, or_false] at goes
      rcases goes with rfl | rfl <;>
        simp [lineServer, Handed.leaves, Handed.state, returned, Interrupts, on, hidden]

/-! ## Receiving as serving -/

/-- The complete lines in the buffer. -/
def queued (client : TCPClient runOff) : List Bytes := (feed crlf [] client.buffer).1

/-- The line begun behind them. -/
def begunIn (client : TCPClient runOff) : Bytes := (feed crlf [] client.buffer).2

/-- What the server of lines does on the chunks. -/
def served (client : TCPClient runOff) (chunks : List Chunk) : List Handed × List Bytes :=
  (lineServer runOff).serve client.handler (queued client) (batches (begunIn client) chunks)

variable {after : TCPClient runOff} {hands : List Handed}

@[simp] theorem served_nil : served client [] = ([], queued client) := rfl

/-- A call is a burst of the queue and of the lines the chunk completes. -/
theorem HandsOver.call (taken : HandsOver client chunk.val hands after) :
    (lineServer runOff).burst client.handler (queued client ++ (feed crlf (begunIn client) chunk.val).1) =
      (hands, queued after) := by
  have lines := taken.lines
  have left := congrArg Prod.fst taken.left
  rw [feed_append] at lines left
  exact Prod.ext lines.symm left.symm

private theorem HandsOver.begunIn_eq (taken : HandsOver client chunk.val hands after) :
    begunIn after = (feed crlf (begunIn client) chunk.val).2 := by
  have left := congrArg Prod.snd taken.left
  rw [feed_append] at left
  exact left

/-- The chunks behind one that closes the session are not served. -/
theorem HandsOver.served_of_closed (taken : HandsOver client chunk.val hands after)
    (closes : (lineServer runOff).stopped hands = true) :
    served client (chunk :: chunks) = (hands, queued after) := by
  simp [served, batches, Server.serve, taken.call, closes]

private theorem HandsOver.served_of_open (taken : HandsOver client chunk.val hands after)
    (goes : ¬ (lineServer runOff).stopped hands = true) :
    served client (chunk :: chunks) =
      (hands ++ (served after chunks).1, (served after chunks).2) := by
  simp [served, batches, Server.serve, taken.call, goes, taken.begunIn_eq, taken.handler]

/-- A session is the server's work on the lines of the chunks, and the buffer
holds what it did not take. The first `read` chunks have been received. -/
structure Received (client : TCPClient runOff) (chunks : List Chunk) (session : Session runOff)
    (read : Nat) : Prop where
  handed : session.handed = (served client chunks).1
  effects : session.effects = session.handed.flatMap fun handed => handed.outcome.effects
  handler : session.client.handler = (lineServer runOff).reached client.handler session.handed
  ended : session.ended = (lineServer runOff).stopped session.handed
  left : queued session.client = (served client chunks).2
  joined : join crlf (session.handed.map Handed.line) ++ session.client.buffer =
    client.buffer ++ bytes (chunks.take read)
  all : session.ended = false → read = chunks.length
  closed : ∀ count, (lineServer runOff).stopped (served client (chunks.take count)).1 = true ↔
    session.ended = true ∧ read ≤ count

private theorem receive_defined (settled : Settled client.handler.fsm) (chunks : List Chunk) :
    ∃ session read, client.receive chunks = some session ∧ Received client chunks session read := by
  induction chunks generalizing client with
  | nil =>
    exact ⟨{ client }, 0, rfl, rfl, rfl, rfl, rfl, rfl, by simp [bytes], fun _ => rfl, by simp⟩
  | cons chunk chunks ih =>
    obtain ⟨hands, after, ran, taken⟩ := handOver_defined settled chunk.val
    simp only [TCPClient.receive, ran, processServerMessage_chunk ran, Option.bind_eq_bind,
      Option.bind_some, Option.some.injEq, @returned_over_iff runOff]
    by_cases closes : (lineServer runOff).stopped hands = true
    · refine ⟨_, 1, if_pos closes, ?_, by simp, taken.handler, closes.symm, ?_, ?_, by simp, ?_⟩
      · rw [taken.served_of_closed closes]
      · rw [taken.served_of_closed closes]
      · simpa [bytes] using taken.joined
      · intro count
        cases count with
        | zero => simp
        | succ count => simp [taken.served_of_closed closes, closes]
    · obtain ⟨session, read, received, rest⟩ := ih taken.settled
      rw [received]
      have stops : (lineServer runOff).stopped (hands ++ session.handed) =
          (lineServer runOff).stopped session.handed := by
        by_cases none : session.handed = []
        · simpa [none] using closes
        · exact Server.stopped_append none
      refine ⟨_, read + 1, if_neg closes, ?_, ?_, ?_, ?_, ?_, ?_, ?_, ?_⟩
      · rw [taken.served_of_open closes, ← rest.handed]
      · simp [rest.effects]
      · rw [rest.handler, taken.handler, Server.reached_append]
      · rw [rest.ended, stops]
      · rw [taken.served_of_open closes, ← rest.left]
      · rw [List.map_append, join_append, List.append_assoc, rest.joined, ← List.append_assoc,
          taken.joined, List.take_succ_cons, bytes_cons, List.append_assoc]
      · intro goes
        rw [List.length_cons, rest.all goes]
      · intro count
        cases count with
        | zero => simp
        | succ count =>
          rw [List.take_succ_cons, taken.served_of_open closes, Nat.add_le_add_iff_right,
            ← rest.closed count]
          by_cases none : (served after (chunks.take count)).1 = []
          · simpa [none] using closes
          · rw [Server.stopped_append none]

/-! ## Segmentation -/

/-- A line that interrupts the inner loop where it was handed over. -/
def Handed.interrupts (runOff : RunOff) (handed : Handed) : Bool :=
  decide (Interrupts runOff handed.before handed.line)

/-- The lines of the chunks, each processed right behind the one before it, and
dealt out to the chunks that complete them. -/
def dealt (runOff : RunOff) (h : TCPProtocolHandler) (chunks : List Chunk) : List (List Handed) :=
  (lineServer runOff).deal h (batches [] chunks)

/-- The chunks close the session: no line is late, and the last one ends it. -/
def Closes (runOff : RunOff) (h : TCPProtocolHandler) (chunks : List Chunk) : Prop :=
  InTime (Handed.interrupts runOff) (dealt runOff h chunks) ∧
    (lineServer runOff).stopped (dealt runOff h chunks).flatten = true

/-- The session is closed by so many chunks and by no fewer. -/
def ClosedBy (runOff : RunOff) (h : TCPProtocolHandler) (chunks : List Chunk) (count : Nat) : Prop :=
  Closes runOff h (chunks.take count) ∧ ∀ fewer < count, ¬ Closes runOff h (chunks.take fewer)

/-- In both cuttings every line that interrupts the inner loop is made up for by
a later chunk, and if they close the session they do so after the same bytes. -/
structure CutAlike (runOff : RunOff) (h : TCPProtocolHandler) (first second : List Chunk) : Prop where
  firstInTime : InTime (Handed.interrupts runOff) (dealt runOff h first)
  secondInTime : InTime (Handed.interrupts runOff) (dealt runOff h second)
  closedTogether : ∀ i j, ClosedBy runOff h first i → ClosedBy runOff h second j →
    bytes (first.take i) = bytes (second.take j)

/-- Every complete line has been processed, unless the session is over. -/
def Session.Drained (session : Session runOff) : Prop :=
  session.ended = true ∨ find crlf session.client.buffer = none

/-- The same lines were handed over, the same was displayed and sent, and the
handler and its buffer are the same. -/
structure Session.Same (first second : Session runOff) : Prop where
  lines : first.handed.map Handed.line = second.handed.map Handed.line
  effects : first.effects = second.effects
  fsm : first.client.handler.fsm = second.client.handler.fsm
  waitingForReply : first.client.handler.waitingForReply = second.client.handler.waitingForReply
  buffer : first.client.buffer = second.client.buffer

private theorem interrupts_of_hand {lines : List Bytes} (settled : Settled h.fsm) :
    ∀ handed ∈ (lineServer runOff).hand h lines,
      (lineServer runOff).pausing handed = handed.interrupts runOff := by
  intro handed member
  obtain ⟨kept, ran⟩ := mem_hand settled handed member
  have pausing := @pausing_act runOff _ handed.line kept
  rwa [act_eq ran] at pausing

private theorem dealt_flatten : (dealt runOff h chunks).flatten = (lineServer runOff).hand h
    (feed crlf [] (bytes chunks)).1 := by
  rw [dealt, Server.deal_flatten, batches_flatten]

private theorem queued_eq_nil_iff : queued client = [] ↔ find crlf client.buffer = none := by
  rw [queued]
  cases found : find crlf client.buffer with
  | none => simp [feed_of_find_none found]
  | some position => simp [feed_of_find crlf_ne_nil found]

section FromEmptyBuffer
variable {session : Session runOff} {read count : Nat}

private theorem served_all_iff (empty : client.buffer = []) :
    (served client chunks).1 = (dealt runOff client.handler chunks).flatten ↔
      (lineServer runOff).stopped (served client chunks).1 = true ∨ (served client chunks).2 = [] := by
  have queue : queued client = [] := by rw [queued, empty]; rfl
  have begun : begunIn client = [] := by rw [begunIn, empty]; rfl
  rw [served, queue, begun, dealt, Server.deal_flatten]
  exact Server.serve_eq_hand

private theorem inTime_iff (settled : Settled client.handler.fsm) (empty : client.buffer = []) :
    InTime (Handed.interrupts runOff) (dealt runOff client.handler chunks) ↔
      (served client chunks).1 = (dealt runOff client.handler chunks).flatten := by
  have agree : InTime (lineServer runOff).pausing (dealt runOff client.handler chunks) ↔
      InTime (Handed.interrupts runOff) (dealt runOff client.handler chunks) :=
    inTime_congr fun handed member => interrupts_of_hand settled handed (dealt_flatten ▸ member)
  have queue : queued client = [] := by rw [queued, empty]; rfl
  have begun : begunIn client = [] := by rw [begunIn, empty]; rfl
  rw [← agree, served, queue, begun, dealt, Server.deal_flatten]
  cases chunks with
  | nil => simp [batches, Server.serve, Server.hand, Server.deal, InTime]
  | cons chunk chunks =>
    exact (@Server.serve_eq_hand_iff _ _ _ (lineServer runOff) client.handler [] (feed crlf [] chunk.val).1
      (batches (feed crlf [] chunk.val).2 chunks)).symm

private theorem closes_iff (settled : Settled client.handler.fsm) (empty : client.buffer = []) :
    Closes runOff client.handler chunks ↔ (lineServer runOff).stopped (served client chunks).1 = true := by
  rw [Closes, inTime_iff settled empty]
  constructor
  · rintro ⟨whole, stops⟩
    rwa [whole]
  · intro stops
    have whole := (served_all_iff empty).mpr (.inl stops)
    exact ⟨whole, whole ▸ stops⟩

/-- Nothing is left unprocessed exactly when the chunks come in time. -/
theorem Received.drained_iff (received : Received client chunks session read)
    (settled : Settled client.handler.fsm) (empty : client.buffer = []) :
    session.Drained ↔ InTime (Handed.interrupts runOff) (dealt runOff client.handler chunks) := by
  rw [inTime_iff settled empty, served_all_iff empty, Session.Drained, received.ended,
    received.handed, ← queued_eq_nil_iff, received.left]

/-- The chunks received are those that close the session. -/
theorem Received.closedBy_iff (received : Received client chunks session read)
    (settled : Settled client.handler.fsm) (empty : client.buffer = []) :
    ClosedBy runOff client.handler chunks count ↔ session.ended = true ∧ read = count := by
  simp only [ClosedBy, closes_iff settled empty, received.closed]
  constructor
  · rintro ⟨⟨ended, enough⟩, fewer⟩
    have exact' : ¬ read < count := fun less => fewer read less ⟨ended, Nat.le_refl read⟩
    exact ⟨ended, by omega⟩
  · rintro ⟨ended, rfl⟩
    exact ⟨⟨ended, Nat.le_refl read⟩, fun fewer less => by omega⟩

end FromEmptyBuffer

variable {first second : List Chunk} {one two : Session runOff} {readOne readTwo : Nat}

/-- Sessions of chunks with the same bytes, all in time, handed over the same. -/
theorem Received.handed_eq (receivedOne : Received client first one readOne)
    (receivedTwo : Received client second two readTwo) (settled : Settled client.handler.fsm)
    (empty : client.buffer = []) (same : bytes first = bytes second)
    (alike : CutAlike runOff client.handler first second) : one.handed = two.handed := by
  rw [receivedOne.handed, receivedTwo.handed, (inTime_iff settled empty).mp alike.firstInTime,
    (inTime_iff settled empty).mp alike.secondInTime, dealt_flatten, dealt_flatten, same]

/-- Two cuttings of the same bytes have the same effect and leave no line behind
exactly when they are cut alike. -/
theorem Received.same_iff (receivedOne : Received client first one readOne)
    (receivedTwo : Received client second two readTwo) (settled : Settled client.handler.fsm)
    (empty : client.buffer = []) (same : bytes first = bytes second) :
    one.Same two ∧ one.Drained ∧ two.Drained ↔ CutAlike runOff client.handler first second := by
  have drainedOne := receivedOne.drained_iff settled empty
  have drainedTwo := receivedTwo.drained_iff settled empty
  have joinedOne := receivedOne.joined
  have joinedTwo := receivedTwo.joined
  rw [empty, List.nil_append] at joinedOne joinedTwo
  constructor
  · rintro ⟨alike, firstDrained, secondDrained⟩
    refine ⟨drainedOne.mp firstDrained, drainedTwo.mp secondDrained, ?_⟩
    intro i j closedOne closedTwo
    obtain ⟨-, rfl⟩ := (receivedOne.closedBy_iff settled empty).mp closedOne
    obtain ⟨-, rfl⟩ := (receivedTwo.closedBy_iff settled empty).mp closedTwo
    rw [← joinedOne, ← joinedTwo, alike.lines, alike.buffer]
  · intro alike
    have handed := receivedOne.handed_eq receivedTwo settled empty same alike
    have handler : one.client.handler = two.client.handler := by
      rw [receivedOne.handler, receivedTwo.handler, handed]
    have ended : one.ended = two.ended := by rw [receivedOne.ended, receivedTwo.ended, handed]
    have read : bytes (first.take readOne) = bytes (second.take readTwo) := by
      cases closed : one.ended with
      | true =>
        exact alike.closedTogether _ _ ((receivedOne.closedBy_iff settled empty).mpr ⟨closed, rfl⟩)
          ((receivedTwo.closedBy_iff settled empty).mpr ⟨ended ▸ closed, rfl⟩)
      | false =>
        rw [receivedOne.all closed, receivedTwo.all (ended ▸ closed), List.take_length,
          List.take_length, same]
    have buffer : one.client.buffer = two.client.buffer := by
      rw [← joinedOne, ← joinedTwo, handed] at read
      exact List.append_cancel_left read
    refine ⟨⟨by rw [handed], ?_, by rw [handler], by rw [handler], buffer⟩,
      drainedOne.mpr alike.firstInTime, drainedTwo.mpr alike.secondInTime⟩
    rw [receivedOne.effects, receivedTwo.effects, handed]

/-- Both cuttings have the same effect, and neither leaves a complete line behind. -/
def SegmentationIndependent (client : TCPClient runOff) (first second : List Chunk) : Prop :=
  ∃ one two, client.receive first = some one ∧ client.receive second = some two ∧
    one.Same two ∧ one.Drained ∧ two.Drained

variable {retries : UInt8} {history : List (TCPTurn runOff)} {loop : StreamHandler (TCPClient runOff)}

/-- From every state of a run with an empty buffer, two cuttings of a byte stream
into chunks make no difference exactly when they are cut alike. -/
theorem segmentationIndependent_iff_cutAlike (run : TCPRunIn runOff retries history loop)
    (empty : loop.protocolHandler.buffer = []) (same : bytes first = bytes second) :
    SegmentationIndependent loop.protocolHandler first second ↔
      CutAlike runOff loop.protocolHandler.handler first second := by
  have settled := tcpRun_settled run
  obtain ⟨one, _, ranOne, receivedOne⟩ := receive_defined settled first
  obtain ⟨two, _, ranTwo, receivedTwo⟩ := receive_defined settled second
  rw [← receivedOne.same_iff receivedTwo settled empty same]
  constructor
  · rintro ⟨one', two', ranOne', ranTwo', alike⟩
    cases ranOne.symm.trans ranOne'
    cases ranTwo.symm.trans ranTwo'
    exact alike
  · exact fun alike => ⟨one, two, ranOne, ranTwo, alike⟩

/-- A `/join` under way in an open session. -/
abbrev joining : List (Event Recv) :=
  [enters "/auth a b c", streams (piece "REPLY OK IS hi\r\n"), enters "/join d"]

/-- A message, a REPLY without a result and the reply behind them, in a build in which
the second one interrupts the loop as well, cut between the lines or within two. -/
theorem segmentationIndependent_iff_cutAlike_join :
    ∃ history loop, TCPRunIn (fun _ _ => true) 3 history loop ∧
      CutAlike (fun _ _ => true) loop.protocolHandler.handler
        [piece "MSG FROM e IS f\r\n", piece "REPLY\r\n", piece "REPLY OK IS g\r\n"]
        [piece "MSG FR", piece "OM e IS f\r\nREPLY", piece "\r\n", piece "REPLY OK IS g\r\n"] := by
  have ran : tcpSample joining (fun _ _ => true) = some (_, _) := rfl
  refine ⟨_, _, Run.of_exec ran, ?_⟩
  refine (segmentationIndependent_iff_cutAlike (Run.of_exec ran) rfl (by decide)).mp ?_
  exact ⟨_, _, rfl, rfl, ⟨rfl, rfl, rfl, rfl, rfl⟩, .inr rfl, .inr rfl⟩

/-- In one chunk the reply behind a message is left in the buffer. -/
theorem reply_left_behind_message : ∃ history loop, TCPRun 3 history loop ∧
    loop.protocolHandler.buffer = [] ∧
    bytes [piece "MSG FROM e IS f\r\nREPLY OK IS g\r\n"] =
      bytes [piece "MSG FROM e IS f\r\n", piece "REPLY OK IS g\r\n"] ∧
    ¬ SegmentationIndependent loop.protocolHandler
      [piece "MSG FROM e IS f\r\nREPLY OK IS g\r\n"]
      [piece "MSG FROM e IS f\r\n", piece "REPLY OK IS g\r\n"] := by
  have ran : tcpSample joining = some (_, _) := rfl
  refine ⟨_, _, Run.of_exec ran, rfl, by decide, ?_⟩
  rintro ⟨one, two, ranOne, ranTwo, alike, -, -⟩
  cases ranOne
  cases ranTwo
  exact absurd alike.waitingForReply (by decide)

end ChatClient
