import ChatClient.TCPRuns

/-! Reassembly of the TCP stream, whatever `process_received` does. The reader is
`process_server_message` alone, one statement at a time: it receives a chunk or
searches the buffer once, and all it hears of a line it hands over is the state
that comes back. Every run of the client is one of the reader's. -/

namespace ChatClient

open Transition FSMValidate TCPMessageValidator TCPProtocolHandler Framing

/-- `process_server_message` between two statements: the static buffer, and whether
control is in the inner loop or outside of the function. -/
structure LineReader where
  buffer : Bytes := []
  searching : Bool := false
  deriving DecidableEq, Repr

/-- What the reader hears: a chunk from `recv`, or, after a search that finds a
line, the state `process_received` returns for it. -/
inductive Heard where
  | received (chunk : { bytes : Bytes // bytes ≠ [] })
  | searched (answer : ClientState)

/-- What one statement does: the line it hands over, and the state the function
returns. -/
structure Advance where
  line : Option Bytes := none
  returned : Option ClientState := none
  deriving DecidableEq, Repr

/-- One statement: `buffer.append`, or one turn of the inner loop. -/
def LineReader.step (reader : LineReader) : Heard → Option (Advance × LineReader)
  | .received chunk =>
    if reader.searching then none else some ({}, ⟨reader.buffer ++ chunk.val, true⟩)
  | .searched answer =>
    if reader.searching then
      match find crlf reader.buffer with
      | none => some ({ returned := some .readyForInput }, { reader with searching := false })
      | some pos =>
        let message := reader.buffer.take pos
        let buffer := reader.buffer.drop (pos + 2)
        if answer ≠ .readyForInput then
          some ({ line := some message, returned := some answer }, ⟨buffer, false⟩)
        else some ({ line := some message }, ⟨buffer, true⟩)
    else none

/-- A statement of the reader with what it heard and did. -/
abbrev Statement := Transition.Turn LineReader Heard Advance

/-- The chunk a statement receives. -/
def Statement.chunk (statement : Statement) : Bytes :=
  match statement.input with
  | .received chunk => chunk.val
  | .searched _ => []

/-- The bytes received, in order. -/
def streamOf (history : List Statement) : Bytes := history.flatMap Statement.chunk

/-- The lines handed to `process_received`, in order. -/
def linesOf (history : List Statement) : List Bytes :=
  history.filterMap fun statement => statement.output.line

variable {history : List Statement} {reader after : LineReader} {heard : Heard} {advance : Advance}

@[simp] theorem linesOf_append {later : List Statement} :
    linesOf (history ++ later) = linesOf history ++ linesOf later := by
  simp [linesOf]

private theorem crlf_length : crlf.length = 2 := rfl

/-- Where the buffer holds no line the inner loop is left. -/
theorem LineReader.step_absent {buffer : Bytes} {answer : ClientState}
    (absent : find crlf buffer = none) : LineReader.step ⟨buffer, true⟩ (.searched answer) =
      some ({ returned := some .readyForInput }, ⟨buffer, false⟩) := by
  simp [step, absent]

/-- The first line of the buffer is handed over, and the answer decides whether the
inner loop goes on. -/
theorem LineReader.step_found {buffer : Bytes} {answer : ClientState} {pos : Nat}
    (found : find crlf buffer = some pos) : LineReader.step ⟨buffer, true⟩ (.searched answer) =
      some (⟨some (buffer.take pos), if answer = .readyForInput then none else some answer⟩,
        ⟨buffer.drop (pos + 2), decide (answer = .readyForInput)⟩) := by
  by_cases ready : answer = .readyForInput <;> simp [step, found, ready]

/-! ## Nothing lost, repeated or reordered -/

/-- The stream received is the lines handed over, each with its delimiter, and the
buffer behind them; no line holds a delimiter. -/
structure Reassembles (history : List Statement) (reader : LineReader) : Prop where
  whole : streamOf history = join crlf (linesOf history) ++ reader.buffer
  clean : ∀ line ∈ linesOf history, ¬ crlf <:+: line

/-- Every statement keeps the reader reassembling. -/
theorem Reassembles.step (reassembles : Reassembles history reader)
    (ran : reader.step heard = some (advance, after)) :
    Reassembles (history ++ [⟨reader, heard, advance, after⟩]) after := by
  obtain ⟨whole, clean⟩ := reassembles
  cases heard with
  | received chunk =>
    simp only [LineReader.step] at ran
    split at ran
    · cases ran
    · cases ran
      refine ⟨?_, by simpa [linesOf] using clean⟩
      have grown : streamOf history ++ chunk.val =
          join crlf (linesOf history) ++ (reader.buffer ++ chunk.val) := by
        rw [whole, List.append_assoc]
      simpa [streamOf, linesOf, Statement.chunk] using grown
  | searched answer =>
    obtain ⟨buffer, _ | _⟩ := reader
    · cases ran
    cases found : find crlf buffer with
    | none =>
      cases ran.symm.trans (LineReader.step_absent found)
      refine ⟨?_, ?_⟩
      · simpa [streamOf, linesOf, Statement.chunk] using whole
      · simpa [linesOf] using clean
    | some pos =>
      cases ran.symm.trans (LineReader.step_found found)
      have cut := split_of_find found
      have moved : streamOf history = join crlf (linesOf history ++ [buffer.take pos]) ++
          buffer.drop (pos + 2) := by
        rw [join_append, List.append_assoc, whole]
        congr 1
        simpa [crlf_length] using cut
      have fresh := not_infix_of_find crlf_ne_nil found
      refine ⟨?_, ?_⟩
      · simpa [streamOf, linesOf, Statement.chunk] using moved
      · intro handed member
        rw [linesOf_append, List.mem_append] at member
        rcases member with earlier | last
        · exact clean handed earlier
        · rwa [List.mem_singleton.mp last]

private theorem reassembles_of_run (run : Run LineReader.step {} history reader) :
    Reassembles history reader :=
  run.invariant (I := Reassembles) ⟨rfl, by simp [linesOf]⟩ fun _ kept ran => kept.step ran

/-! ## The inner loop ends -/

/-- Whatever the answers, the inner loop is left after one turn for each line the
buffer has room for, and one more at most. -/
theorem LineReader.search_ends (answers : Nat → ClientState) (buffer : Bytes) :
    ∃ turns ≤ buffer.length / 2 + 1, ∃ statements last,
      exec LineReader.step ⟨buffer, true⟩ ((List.range turns).map fun turn => .searched (answers turn)) =
        some (statements, last) ∧ last.searching = false := by
  -- along the buffer, which each line handed over makes shorter
  induction size : buffer.length using Nat.strongRecOn generalizing buffer answers with
  | ind length ih =>
    cases found : find crlf buffer with
    | none =>
      exact ⟨1, by omega, _, _, exec_cons (step_absent found) rfl, rfl⟩
    | some pos =>
      have sizes := congrArg List.length (split_of_find found)
      simp only [List.length_append, crlf_length] at sizes
      by_cases ready : answers 0 = .readyForInput
      · obtain ⟨turns, few, statements, last, ran, ended⟩ :=
          ih (buffer.drop (pos + 2)).length (by omega) (fun turn => answers (turn + 1))
            (buffer.drop (pos + 2)) rfl
        have took := @step_found _ (answers 0) _ found
        rw [ready] at took
        refine ⟨turns + 1, by omega, ?_⟩
        rw [List.range_succ_eq_map, List.map_cons, List.map_map, ready]
        exact ⟨_, last, exec_cons took ran, ended⟩
      · exact ⟨1, by omega, _, _, exec_cons (step_found found) rfl, by simp [ready]⟩

/-- The stream is reassembled at every point of every run of the reader, and its
inner loop ends on every buffer. -/
theorem stream_reassembled (run : Run LineReader.step {} history reader) :
    streamOf history = join crlf (linesOf history) ++ reader.buffer ∧
    (∀ line ∈ linesOf history, ¬ crlf <:+: line) ∧
    ∀ (answers : Nat → ClientState) (buffer : Bytes), ∃ turns ≤ buffer.length / 2 + 1,
      ∃ statements last, exec LineReader.step ⟨buffer, true⟩
        ((List.range turns).map fun turn => .searched (answers turn)) = some (statements, last) ∧
        last.searching = false :=
  ⟨(reassembles_of_run run).whole, (reassembles_of_run run).clean, LineReader.search_ends⟩

/-- Two delimiters cut across chunks, the second one behind a CR; every answer has the
function return early. -/
theorem stream_reassembled_overlapping : ∃ history, ∃ reader : LineReader,
    Run LineReader.step {} history reader ∧
    linesOf history = [text "a", text "b\r"] ∧ reader.buffer = text "\r\n" ∧
    streamOf history = join crlf (linesOf history) ++ reader.buffer ∧
    (∀ line ∈ linesOf history, ¬ crlf <:+: line) ∧
    ∀ (answers : Nat → ClientState) (buffer : Bytes), ∃ turns ≤ buffer.length / 2 + 1,
      ∃ statements last, exec LineReader.step ⟨buffer, true⟩
        ((List.range turns).map fun turn => .searched (answers turn)) = some (statements, last) ∧
        last.searching = false := by
  have ran : exec LineReader.step {} [.received ⟨text "a\r", by decide⟩, .searched .over,
    .received ⟨text "\nb\r\r", by decide⟩, .searched .waitingForReply,
    .received ⟨text "\n\r\n", by decide⟩, .searched .waitingForReply] = some (_, _) := rfl
  exact ⟨_, _, Run.of_exec ran, rfl, rfl, stream_reassembled (Run.of_exec ran)⟩

/-! ## The client reads so -/

variable {runOff : RunOff}

/-- The bytes a turn receives. -/
def receivedIn (turn : TCPTurn runOff) : Bytes :=
  match turn.output.call with
  | .processServerMessage ⟨_, some chunk⟩ => chunk.val
  | _ => []

/-- The inner loop of the handler is the reader's, the answers being what comes back
from `process_received`. -/
theorem handLines_reads {fuel : Nat} {h : TCPProtocolHandler} {buffer rest : Bytes}
    {handed : List Handed} (enough : buffer.length ≤ fuel)
    (hands : h.handLines runOff fuel buffer = some (handed, rest)) :
    ∃ heard statements, exec LineReader.step ⟨buffer, true⟩ heard = some (statements, ⟨rest, false⟩) ∧
      linesOf statements = handed.map Handed.line ∧ streamOf statements = [] := by
  induction fuel generalizing h buffer handed with
  | zero =>
    obtain rfl := List.length_eq_zero_iff.mp (Nat.le_zero.mp enough)
    cases hands
    exact ⟨[.searched .readyForInput], _, exec_cons (LineReader.step_absent rfl) rfl, rfl, rfl⟩
  | succ fuel ih =>
    cases found : find crlf buffer with
    | none =>
      simp only [handLines, found] at hands
      cases hands
      exact ⟨[.searched .readyForInput], _, exec_cons (LineReader.step_absent found) rfl, rfl, rfl⟩
    | some pos =>
      have shorter := length_drop_of_find crlf_ne_nil found
      rw [crlf_length] at shorter
      simp only [handLines, found, Option.bind_eq_bind, Option.bind_eq_some_iff] at hands
      obtain ⟨outcome, -, hands⟩ := hands
      split at hands
      · cases hands
        -- any other state stands for what has the loop left
        have took := @LineReader.step_found _ .waitingForReply _ found
        simp only [reduceCtorEq, ↓reduceIte, decide_false] at took
        exact ⟨[.searched _], _, exec_cons took rfl, rfl, rfl⟩
      · simp only [Option.bind_eq_some_iff] at hands
        obtain ⟨⟨more, left⟩, loop, same⟩ := hands
        cases same
        obtain ⟨heard, statements, ran, lines, stream⟩ := ih (by omega) loop
        refine ⟨.searched .readyForInput :: heard, _,
          exec_cons (LineReader.step_found found) ran, ?_, stream⟩
        simp only [linesOf, List.filterMap_cons, List.map_cons] at lines ⊢
        rw [lines]

private theorem handOver_reads {client after : TCPClient runOff} {chunk : Bytes}
    {handed : List Handed}
    (hands : client.handOver chunk = some (handed, after)) :
    ∃ heard statements, exec LineReader.step ⟨client.buffer ++ chunk, true⟩ heard =
        some (statements, ⟨after.buffer, false⟩) ∧
      linesOf statements = handed.map Handed.line ∧ streamOf statements = [] := by
  simp only [TCPClient.handOver, Option.bind_eq_bind, Option.bind_eq_some_iff] at hands
  obtain ⟨⟨lines, rest⟩, loop, same⟩ := hands
  cases same
  exact handLines_reads (Nat.le_refl _) loop

variable {retries : UInt8} {turns : List (TCPTurn runOff)} {turn : TCPTurn runOff}
  {loop : StreamHandler (TCPClient runOff)}

/-- Some run of the reader receives what the client received, hands over the same
lines and ends with the same buffer. -/
def ReadAlike (turns : List (TCPTurn runOff)) (loop : StreamHandler (TCPClient runOff)) : Prop :=
  ∃ statements, Run LineReader.step {} statements ⟨loop.protocolHandler.buffer, false⟩ ∧
    streamOf statements = turns.flatMap receivedIn ∧
    linesOf statements = (turns.flatMap handedIn).map Handed.line

/-- A turn that receives nothing leaves the reader alone. -/
theorem ReadAlike.quiet (alike : ReadAlike turns turn.before)
    (same : turn.after.protocolHandler.buffer = turn.before.protocolHandler.buffer)
    (nothing : receivedIn turn = []) (noLine : handedIn turn = []) :
    ReadAlike (turns ++ [turn]) turn.after := by
  obtain ⟨statements, reads, stream, lines⟩ := alike
  exact ⟨statements, same ▸ reads, by simp [stream, nothing], by simp [lines, noLine]⟩

/-- Every run of the client is a run of the reader. -/
theorem tcpRun_reads (run : TCPRunIn runOff retries turns loop) : ReadAlike turns loop := by
  refine run.invariant (I := ReadAlike) ⟨[], .start, rfl, rfl⟩ ?_
  intro turns loop event report after before alike ran
  obtain ⟨-, iteration⟩ := tcpIteration_of_iterate (tcpRun_settled before) ran
  cases iteration with
  | @lines errors chunk handed client _ hands taken handler =>
    obtain ⟨statements, reads, stream, lines⟩ := alike
    obtain ⟨heard, more, ran, lines', stream'⟩ := handOver_reads hands
    have took : LineReader.step ⟨loop.protocolHandler.buffer, false⟩
      (.received ⟨chunk.val, chunk.property.1⟩) = some (_, _) := rfl
    refine ⟨_, reads.exec_append (exec_cons took (handler ▸ ran)), ?_, ?_⟩
    · rw [streamOf, List.flatMap_append, List.flatMap_cons]
      simp only [streamOf] at stream stream'
      rw [stream, stream', List.flatMap_append, List.flatMap_singleton, List.append_nil]
      rfl
    · rw [linesOf, List.filterMap_append, List.filterMap_cons]
      simp only [linesOf] at lines lines'
      simp [lines, lines', handedIn_lines hands]
  | closed handler => exact alike.quiet (by rw [handler]) rfl rfl
  | command called reads handler => exact alike.quiet (by rw [handler]) rfl rfl
  | idle calls _ handler =>
    rcases calls with rfl | rfl <;> exact alike.quiet (by rw [handler]) rfl rfl

/-- The stream is reassembled all along the runs of the client. -/
theorem tcpRun_reassembled (run : TCPRunIn runOff retries turns loop) :
    turns.flatMap receivedIn =
        join crlf ((turns.flatMap handedIn).map Handed.line) ++ loop.protocolHandler.buffer ∧
      ∀ handed ∈ turns.flatMap handedIn, ¬ crlf <:+: handed.line := by
  obtain ⟨statements, reads, stream, lines⟩ := tcpRun_reads run
  obtain ⟨whole, clean⟩ := reassembles_of_run reads
  rw [stream, lines] at whole
  rw [lines] at clean
  exact ⟨whole, fun handed member => clean _ (List.mem_map_of_mem member)⟩

end ChatClient
