import Mathlib.Data.List.Infix

/-! A server that works off its queue in bursts.

Items arrive in batches, one batch before each call. A call takes items off the
queue until the server wants to pause after one or stops for good; what is left
waits for the next call. Handing the items over one by one, with no calls between
them, is `hand`: `serve` takes an initial part of it, and `serve_eq_hand_iff`
says when it takes all of it, namely when in every tail of the batches the pauses
before the last item are fewer than the calls. -/

namespace ChatClient.Service

/-- What the server wants to do after an item. -/
inductive Verdict where
  | go | pause | stop
  deriving DecidableEq, Repr

/-- What the server does with an item is kept as a record, which says in what
state the server is then and whether it goes on. -/
structure Server (σ α ρ : Type) where
  act : σ → α → ρ
  next : ρ → σ
  verdict : ρ → Verdict

/-- In every tail of the batches the pauses before the last record are fewer than
the batches. -/
def InTime {ρ : Type} (pausing : ρ → Bool) : List (List ρ) → Prop
  | [] => True
  | records :: later =>
    (records ++ later.flatten).dropLast.countP pausing ≤ later.length ∧ InTime pausing later

/-- Only what the predicate says of the records matters. -/
theorem inTime_congr {ρ : Type} {first second : ρ → Bool} {batches : List (List ρ)}
    (agree : ∀ record ∈ batches.flatten, first record = second record) :
    InTime first batches ↔ InTime second batches := by
  induction batches with
  | nil => rfl
  | cons records later ih =>
    have counts : (records ++ later.flatten).dropLast.countP first =
        (records ++ later.flatten).dropLast.countP second :=
      List.countP_congr fun record member => by
        rw [agree record (List.mem_of_mem_dropLast member)]
    simp only [InTime, counts]
    rw [ih fun record member => agree record (List.mem_append_right _ member)]

namespace Server

variable {σ α ρ : Type} (server : Server σ α ρ)

/-- One item after the other, until one stops the server. -/
def hand : σ → List α → List ρ
  | _, [] => []
  | state, item :: items =>
    let record := server.act state item
    record :: if server.verdict record = .stop then [] else hand (server.next record) items

/-- One call: the items up to one after which the server does not go on, and the
items left. -/
def burst : σ → List α → List ρ × List α
  | _, [] => ([], [])
  | state, item :: items =>
    let record := server.act state item
    if server.verdict record = .go then
      (record :: (burst (server.next record) items).1, (burst (server.next record) items).2)
    else ([record], items)

/-- The state after some records. -/
def reached (state : σ) (records : List ρ) : σ := (records.getLast?.map server.next).getD state

/-- The last record stopped the server. -/
def stopped (records : List ρ) : Bool := records.getLast?.any fun last => server.verdict last = .stop

/-- Calls, with a batch that arrives before each of them: all records, and the
items left in the queue. There are no more calls after a stop. -/
def serve : σ → List α → List (List α) → List ρ × List α
  | _, queue, [] => ([], queue)
  | state, queue, batch :: batches =>
    let call := server.burst state (queue ++ batch)
    if server.stopped call.1 then call
    else
      let rest := serve (server.reached state call.1) call.2 batches
      (call.1 ++ rest.1, rest.2)

/-- The records of `hand`, each with the batch its item came in. -/
def deal : σ → List (List α) → List (List ρ)
  | _, [] => []
  | state, batch :: batches =>
    let records := server.hand state batch
    records :: if server.stopped records then batches.map fun _ => []
      else deal (server.reached state records) batches

/-- The server wants to pause after a record. -/
def pausing (record : ρ) : Bool := server.verdict record = .pause

variable {server} {state : σ} {item : α} {items more queue left batch : List α} {record : ρ}
  {records : List ρ} {batches : List (List α)}

@[simp] theorem reached_nil : server.reached state [] = state := rfl

@[simp] theorem stopped_nil : server.stopped [] = false := rfl

@[simp] theorem reached_cons :
    server.reached state (record :: records) = server.reached (server.next record) records := by
  cases records with
  | nil => rfl
  | cons other records => simp [reached, List.getLast?_cons]

theorem stopped_cons : server.stopped (record :: records) =
    if records = [] then decide (server.verdict record = .stop) else server.stopped records := by
  cases records with
  | nil => rfl
  | cons other records => simp [stopped, List.getLast?_cons]

theorem reached_append {first second : List ρ} : server.reached state (first ++ second) =
    server.reached (server.reached state first) second := by
  induction first generalizing state with
  | nil => rfl
  | cons record first ih => simp [ih]

theorem stopped_append {first second : List ρ} (some : second ≠ []) :
    server.stopped (first ++ second) = server.stopped second := by
  simp [stopped, List.getLast?_append_of_ne_nil _ some]

/-- Only an empty sequence of items leaves no record. -/
theorem hand_eq_nil_iff : server.hand state items = [] ↔ items = [] := by
  cases items <;> simp [hand]

/-- Handing over goes on after the first items unless they stopped the server. -/
theorem hand_append : server.hand state (items ++ more) = server.hand state items ++
    if server.stopped (server.hand state items) then []
    else server.hand (server.reached state (server.hand state items)) more := by
  induction items generalizing state with
  | nil => simp [hand]
  | cons item items ih =>
    simp only [List.cons_append, hand]
    split
    · rename_i stop
      simp [stopped_cons, stop]
    · rename_i goes
      rw [ih]
      by_cases none : server.hand (server.next (server.act state item)) items = []
      · simp [none, stopped_cons, goes]
      · simp [stopped_cons, none]

/-- A call takes everything, or ends with a record after which the server does
not go on. -/
theorem burst_cases : (∀ record ∈ (server.burst state items).1, server.verdict record = .go) ∧
      (server.burst state items).2 = [] ∨
    ∃ before last, (server.burst state items).1 = before ++ [last] ∧
      (∀ record ∈ before, server.verdict record = .go) ∧ server.verdict last ≠ .go := by
  induction items generalizing state with
  | nil => exact .inl ⟨by simp [burst], rfl⟩
  | cons item items ih =>
    simp only [burst]
    split
    · rename_i goes
      rcases @ih (server.next (server.act state item)) with ⟨all, none⟩ | ⟨before, last, shape, all, ends⟩
      · exact .inl ⟨by simpa [goes] using all, none⟩
      · exact .inr ⟨server.act state item :: before, last, by simp [shape], by simpa [goes] using all, ends⟩
    · rename_i ends
      exact .inr ⟨[], _, rfl, by simp, ends⟩

/-- A property of the records of a call, shown from its last record back. -/
theorem burst_induction {Q : σ → List ρ → Prop} (nil : ∀ state, Q state [])
    (cons : ∀ state item records, Q (server.next (server.act state item)) records →
      Q state (server.act state item :: records)) : Q state (server.burst state items).1 := by
  induction items generalizing state with
  | nil => exact nil state
  | cons item items ih =>
    simp only [burst]
    split
    · exact cons _ _ _ ih
    · exact cons _ _ _ (nil _)

/-- What a call leaves is what handing over would do next. -/
theorem hand_eq_burst : server.hand state (items ++ more) = (server.burst state items).1 ++
    if server.stopped (server.burst state items).1 then []
    else server.hand (server.reached state (server.burst state items).1)
      ((server.burst state items).2 ++ more) := by
  induction items generalizing state with
  | nil => simp [burst]
  | cons item items ih =>
    simp only [List.cons_append, hand, burst]
    by_cases goes : server.verdict (server.act state item) = .go
    · simp only [goes, ↓reduceIte, reduceCtorEq, reached_cons, List.cons_append]
      rw [ih]
      by_cases none : (server.burst (server.next (server.act state item)) items).1 = []
      · simp [none, stopped_cons, goes]
      · simp [stopped_cons, none]
    · simp only [goes, ↓reduceIte, List.cons_append, List.nil_append, stopped_cons, reached_cons,
        reached_nil, decide_eq_true_eq]

/-- Serving takes an initial part of what handing over does. -/
theorem hand_eq_serve : server.hand state (queue ++ batches.flatten) =
    (server.serve state queue batches).1 ++
      if server.stopped (server.serve state queue batches).1 then []
      else server.hand (server.reached state (server.serve state queue batches).1)
        (server.serve state queue batches).2 := by
  induction batches generalizing state queue with
  | nil => simp [serve]
  | cons batch batches ih =>
    rw [List.flatten_cons, ← List.append_assoc, hand_eq_burst]
    simp only [serve]
    split
    · simp
    · rename_i goes
      rw [ih]
      by_cases none : (server.serve (server.reached state (server.burst state (queue ++ batch)).1)
          (server.burst state (queue ++ batch)).2 batches).1 = []
      · simp [none, goes]
      · rw [stopped_append none, reached_append, List.append_assoc]

/-- Serving takes everything exactly when it stopped or left nothing. -/
theorem serve_eq_hand : (server.serve state queue batches).1 =
      server.hand state (queue ++ batches.flatten) ↔
    server.stopped (server.serve state queue batches).1 = true ∨
      (server.serve state queue batches).2 = [] := by
  rw [hand_eq_serve]
  split
  · rename_i stop
    simp [stop]
  · rename_i goes
    rw [List.self_eq_append_right, hand_eq_nil_iff]
    simp [goes]

/-- Dealing the records out keeps them in order. -/
theorem deal_flatten : (server.deal state batches).flatten = server.hand state batches.flatten := by
  induction batches generalizing state with
  | nil => rfl
  | cons batch batches ih =>
    rw [deal, List.flatten_cons, List.flatten_cons, hand_append]
    split
    · simp
    · rw [ih]

/-! ## Serving in time -/

theorem pauses_eq_zero (goes : ∀ record ∈ records, server.verdict record = .go) :
    records.countP server.pausing = 0 :=
  List.countP_eq_zero.mpr fun record member => by simp [pausing, goes record member]

theorem pauses_dropLast_le {pausing : ρ → Bool} :
    records.dropLast.countP pausing ≤ records.countP pausing :=
  (List.dropLast_sublist records).countP_le

theorem dropLast_append {first second : List ρ} (some : second ≠ []) :
    (first ++ second).dropLast = first ++ second.dropLast :=
  List.dropLast_append_of_ne_nil some

/-- Empty batches are always in time. -/
theorem inTime_empty : InTime server.pausing (batches.map fun _ => ([] : List ρ)) := by
  induction batches with
  | nil => trivial
  | cons batch batches ih =>
    refine ⟨?_, ih⟩
    have nothing : (batches.map fun _ => ([] : List ρ)).flatten = [] := by simp
    rw [nothing]
    exact Nat.zero_le _

/-- A call that takes a batch without a pause leaves what comes later as it is. -/
theorem inTime_cons_of_go {first : List ρ} {later : List (List ρ)}
    (goes : ∀ record ∈ first, server.verdict record = .go) :
    InTime server.pausing (first :: records :: later) ↔ InTime server.pausing (records :: later) := by
  refine ⟨And.right, fun inTime => ⟨?_, inTime⟩⟩
  have bound := inTime.1
  rw [List.flatten_cons, List.length_cons]
  by_cases none : records ++ later.flatten = []
  · rw [none, List.append_nil]
    have := @pauses_dropLast_le _ first server.pausing
    rw [pauses_eq_zero goes] at this
    omega
  · rw [dropLast_append none, List.countP_append, pauses_eq_zero goes]
    omega

/-- A pause moves what is behind it to the next call. -/
theorem inTime_cons_of_pause {before behind : List ρ} {last : ρ} {later : List (List ρ)}
    (goes : ∀ record ∈ before, server.verdict record = .go) (pause : server.verdict last = .pause) :
    InTime server.pausing ((before ++ [last] ++ behind) :: records :: later) ↔
      InTime server.pausing ((behind ++ records) :: later) := by
  have one : (before ++ [last]).countP server.pausing = 1 := by
    rw [List.countP_append, pauses_eq_zero goes]
    simp [pausing, pause]
  simp only [InTime, List.flatten_cons, List.length_cons, List.append_assoc behind]
  by_cases none : behind ++ (records ++ later.flatten) = []
  · obtain ⟨rfl, rest⟩ := List.append_eq_nil_iff.mp none
    have first : (before ++ [last]).dropLast.countP server.pausing ≤ later.length + 1 := by
      have := @pauses_dropLast_le _ (before ++ [last]) server.pausing
      omega
    simp only [List.append_nil, rest, first]
    simp
  · rw [List.append_assoc (before ++ [last]), dropLast_append none, List.countP_append, one]
    constructor
    · rintro ⟨bound, -, inTime⟩
      exact ⟨by omega, inTime⟩
    · rintro ⟨bound, inTime⟩
      refine ⟨by omega, ?_, inTime⟩
      by_cases rest : records ++ later.flatten = []
      · rw [rest]
        exact Nat.zero_le _
      · rw [dropLast_append rest, List.countP_append] at bound
        omega

/-- A batch that a call has begun to work off. -/
theorem deal_of_burst (goes : server.stopped (server.burst state batch).1 = false) :
    server.deal state (batch :: batches) =
      ((server.burst state batch).1 ++ server.hand (server.reached state (server.burst state batch).1)
        (server.burst state batch).2) ::
      (server.deal (server.reached state (server.burst state batch).1)
        ((server.burst state batch).2 :: batches)).tail := by
  have shape := @hand_eq_burst _ _ _ server state batch []
  simp only [List.append_nil, goes, Bool.false_eq_true, ↓reduceIte] at shape
  simp only [deal, List.tail_cons, shape, List.cons.injEq, true_and]
  by_cases none : server.hand (server.reached state (server.burst state batch).1)
      (server.burst state batch).2 = []
  · simp [none, goes]
  · rw [stopped_append none, reached_append]

/-- Two batches that come together. -/
theorem deal_merge {second : List α} : ∃ records later,
    server.deal state (batch :: second :: batches) = server.hand state batch :: records :: later ∧
    server.deal state ((batch ++ second) :: batches) =
      (server.hand state batch ++ records) :: later := by
  simp only [deal, hand_append]
  cases stop : server.stopped (server.hand state batch) with
  | true => exact ⟨[], batches.map fun _ => [], by simp, by simp [stop]⟩
  | false =>
    refine ⟨_, _, rfl, ?_⟩
    simp only [Bool.false_eq_true, ↓reduceIte]
    by_cases none : server.hand (server.reached state (server.hand state batch)) second = []
    · simp [none, stop]
    · rw [stopped_append none, reached_append]

/-- The records of a call that went on or paused did not stop the server. -/
theorem not_stopped_of_go (goes : ∀ record ∈ records, server.verdict record = .go) :
    server.stopped records = false := by
  rcases List.eq_nil_or_concat records with rfl | ⟨before, last, rfl⟩
  · rfl
  · simp [stopped, goes last (by simp)]

/-- A call after which nothing stopped leaves the rest to the later calls. -/
theorem serve_eq_hand_of_burst
    (goes : server.stopped (server.burst state (queue ++ batch)).1 = false) :
    (server.serve state queue (batch :: batches)).1 =
        server.hand state (queue ++ (batch :: batches).flatten) ↔
      (server.serve (server.reached state (server.burst state (queue ++ batch)).1)
          (server.burst state (queue ++ batch)).2 batches).1 =
        server.hand (server.reached state (server.burst state (queue ++ batch)).1)
          ((server.burst state (queue ++ batch)).2 ++ batches.flatten) := by
  rw [List.flatten_cons, ← List.append_assoc, hand_eq_burst]
  simp [serve, goes]

/-- A stop within the first call leaves nothing to be late. -/
theorem inTime_of_stop {before : List ρ} {last : ρ}
    (shape : (server.burst state batch).1 = before ++ [last])
    (goes : ∀ record ∈ before, server.verdict record = .go) (stop : server.verdict last = .stop) :
    InTime server.pausing (server.deal state (batch :: batches)) := by
  have stopped : server.stopped (before ++ [last]) = true := by simp [Server.stopped, stop]
  have taken : server.hand state batch = before ++ [last] := by
    have all := @hand_eq_burst _ _ _ server state batch []
    simpa [shape, stopped] using all
  have nothing : (batches.map fun _ => ([] : List ρ)).flatten = [] := by simp
  rw [deal, taken, if_pos stopped]
  refine ⟨?_, inTime_empty⟩
  rw [nothing, List.append_nil, List.dropLast_concat, pauses_eq_zero goes]
  exact Nat.zero_le _

/-- A call that stops the server has taken everything, and nothing comes late. -/
theorem serve_eq_hand_iff_of_stop {before : List ρ} {last : ρ}
    (shape : (server.burst state (queue ++ batch)).1 = before ++ [last])
    (goes : ∀ record ∈ before, server.verdict record = .go) (stop : server.verdict last = .stop) :
    (server.serve state queue (batch :: batches)).1 =
        server.hand state (queue ++ (batch :: batches).flatten) ↔
      InTime server.pausing (server.deal state ((queue ++ batch) :: batches)) := by
  refine iff_of_true (serve_eq_hand.mpr (.inl ?_)) (inTime_of_stop shape goes stop)
  simp [serve, shape, stopped, stop]

/-- A single call takes everything unless it pauses with something behind. -/
theorem serve_eq_hand_iff_single : (server.serve state queue [batch]).1 =
      server.hand state (queue ++ [batch].flatten) ↔
    InTime server.pausing (server.deal state [queue ++ batch]) := by
  rcases @burst_cases _ _ _ server state (queue ++ batch) with
    ⟨all, none⟩ | ⟨before, last, shape, all, ends⟩
  · have goes := not_stopped_of_go all
    rw [serve_eq_hand_of_burst goes, deal_of_burst goes]
    have idle : (server.burst state (queue ++ batch)).1.dropLast.countP server.pausing ≤ 0 :=
      pauses_dropLast_le.trans (pauses_eq_zero all).le
    simpa [serve, none, hand, deal, InTime] using idle
  cases verdict : server.verdict last with
  | go => exact absurd verdict ends
  | stop => exact serve_eq_hand_iff_of_stop shape all verdict
  | pause =>
    have goes : server.stopped (server.burst state (queue ++ batch)).1 = false := by
      simp [shape, stopped, verdict]
    rw [serve_eq_hand_of_burst goes, deal_of_burst goes, shape]
    generalize (server.burst state (queue ++ batch)).2 = left
    simp only [serve, List.flatten_nil, List.append_nil, deal, List.tail_cons, List.map_nil,
      ite_self]
    rw [eq_comm]
    by_cases none : server.hand (server.reached state (before ++ [last])) left = []
    · simp [none, InTime, pauses_eq_zero all]
    · apply iff_of_false none
      intro inTime
      have bound := inTime.1
      rw [List.flatten_nil, List.append_nil, dropLast_append none, List.countP_append,
        List.countP_append] at bound
      simp [pausing, verdict] at bound

/-- The calls take everything exactly when the batches come in time. -/
theorem serve_eq_hand_iff : (server.serve state queue (batch :: batches)).1 =
      server.hand state (queue ++ (batch :: batches).flatten) ↔
    InTime server.pausing (server.deal state ((queue ++ batch) :: batches)) := by
  -- along the calls; each takes its whole queue, pauses on the way, or stops
  induction batches generalizing state queue batch with
  | nil => exact serve_eq_hand_iff_single
  | cons second batches ih =>
    rcases @burst_cases _ _ _ server state (queue ++ batch) with
      ⟨all, none⟩ | ⟨before, last, shape, all, ends⟩
    · have goes := not_stopped_of_go all
      rw [serve_eq_hand_of_burst goes, ih, deal_of_burst goes, none]
      generalize (server.burst state (queue ++ batch)).1 = taken at all
      simp only [List.nil_append, hand, List.append_nil, deal, stopped_nil, reached_nil,
        List.tail_cons, Bool.false_eq_true, ↓reduceIte]
      exact (inTime_cons_of_go all).symm
    cases verdict : server.verdict last with
    | go => exact absurd verdict ends
    | stop => exact serve_eq_hand_iff_of_stop shape all verdict
    | pause =>
      have goes : server.stopped (server.burst state (queue ++ batch)).1 = false := by
        simp [shape, stopped, verdict]
      rw [serve_eq_hand_of_burst goes, ih, deal_of_burst goes, shape]
      generalize (server.burst state (queue ++ batch)).2 = left
      obtain ⟨records, later, apart, together⟩ := @deal_merge _ _ _ server
        (server.reached state (before ++ [last])) left batches second
      rw [apart, together]
      exact (inTime_cons_of_pause all verdict).symm

end Server

end ChatClient.Service
