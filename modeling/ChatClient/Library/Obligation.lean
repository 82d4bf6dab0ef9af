import Mathlib.Data.List.Induction

/-! Obligations that stay open until something settles them by key.

A sender that waits for acknowledgements and a client that waits for answers
keep the same book: an item is issued, and it stays outstanding until a settling
event names its key. The book is a function of the events in order, so an item
issued after an event is never settled by it, and `mem_outstanding` reads
membership back as that statement about the event list. -/

namespace ChatClient.Obligation

/-- What may happen to the book: an item is issued, or a key is settled. -/
inductive Entry (μ κ : Type) where
  | issue (item : μ)
  | settle (key : κ)
  deriving DecidableEq

variable {μ κ : Type} [DecidableEq κ] {key : μ → κ} {item : μ} {opened : List μ}
  {entries earlier later : List (Entry μ κ)}

/-- One event: issuing adds the item at the end, settling removes every item
with the key. -/
def post (key : μ → κ) (opened : List μ) : Entry μ κ → List μ
  | .issue item => opened ++ [item]
  | .settle settled => opened.filter fun item => decide (key item ≠ settled)

/-- The items outstanding after the events, oldest first. -/
def outstanding (key : μ → κ) (entries : List (Entry μ κ)) : List μ :=
  entries.foldl (post key) []

@[simp] theorem outstanding_nil : outstanding key [] = [] := rfl

theorem outstanding_append :
    outstanding key (earlier ++ later) = later.foldl (post key) (outstanding key earlier) := by
  simp [outstanding, List.foldl_append]

@[simp] theorem outstanding_issue :
    outstanding key (entries ++ [.issue item]) = outstanding key entries ++ [item] := by
  simp [outstanding_append, post]

/-- Items issued one after the other all come at the end. -/
@[simp] theorem outstanding_issues {items : List μ} :
    outstanding key (entries ++ items.map .issue) = outstanding key entries ++ items := by
  induction items using List.reverseRecOn with
  | nil => simp
  | append_singleton items item ih =>
    rw [List.map_append, List.map_singleton, ← List.append_assoc, outstanding_issue, ih,
      List.append_assoc]

@[simp] theorem outstanding_settle {settled : κ} :
    outstanding key (entries ++ [.settle settled]) =
      (outstanding key entries).filter fun item => decide (key item ≠ settled) := by
  simp [outstanding_append, post]

/-- Keys settled one after the other take the items of any of them off. -/
@[simp] theorem outstanding_settles {keys : List κ} :
    outstanding key (entries ++ keys.map .settle) =
      (outstanding key entries).filter fun item => decide (key item ∉ keys) := by
  induction keys using List.reverseRecOn with
  | nil => rw [List.map_nil, List.append_nil, List.filter_eq_self.mpr (by simp)]
  | append_singleton keys settled ih =>
    rw [List.map_append, List.map_singleton, ← List.append_assoc, outstanding_settle, ih,
      List.filter_filter]
    refine List.filter_congr fun item _ => ?_
    simp [and_comm]

/-- Whether an item survives one event. -/
theorem mem_post {entry : Entry μ κ} :
    item ∈ post key opened entry ↔
      entry = .issue item ∨ (item ∈ opened ∧ entry ≠ .settle (key item)) := by
  cases entry with
  | issue issued =>
    simp only [post, List.mem_append, List.mem_singleton, Entry.issue.injEq, ne_eq, reduceCtorEq,
      not_false_eq_true, and_true]
    constructor
    · rintro (held | rfl)
      · exact .inr held
      · exact .inl rfl
    · rintro (rfl | held)
      · exact .inr rfl
      · exact .inl held
  | settle settled =>
    simp only [post, List.mem_filter, decide_eq_true_eq, reduceCtorEq, false_or, ne_eq,
      Entry.settle.injEq]
    exact and_congr_right fun _ => not_congr eq_comm

/-- An item is outstanding exactly when it was issued and its key has not been
settled since. -/
theorem mem_outstanding :
    item ∈ outstanding key entries ↔
      ∃ earlier later, entries = earlier ++ .issue item :: later ∧
        Entry.settle (key item) ∉ later := by
  induction entries using List.reverseRecOn with
  | nil => simp
  | append_singleton entries entry ih =>
    rw [outstanding_append, List.foldl_cons, List.foldl_nil, mem_post, ih]
    constructor
    · rintro (rfl | ⟨⟨earlier, later, rfl, unsettled⟩, other⟩)
      · exact ⟨entries, [], rfl, by simp⟩
      · exact ⟨earlier, later ++ [entry], by simp, by simp [unsettled, other.symm]⟩
    · rintro ⟨earlier, later, shape, unsettled⟩
      rcases List.eq_nil_or_concat later with rfl | ⟨rest, last, rfl⟩
      · obtain ⟨-, same⟩ := List.append_inj' shape rfl
        exact .inl (List.singleton_inj.mp same)
      · have shape : entries ++ [entry] = (earlier ++ .issue item :: rest) ++ [last] := by
          simpa using shape
        obtain ⟨rfl, same⟩ := List.append_inj' shape rfl
        cases same
        simp only [List.concat_eq_append, List.mem_append, List.mem_singleton, not_or] at unsettled
        exact .inr ⟨⟨earlier, rest, rfl, unsettled.1⟩, Ne.symm unsettled.2⟩

/-- Only issued items are ever outstanding. -/
theorem issued_of_outstanding (held : item ∈ outstanding key entries) :
    Entry.issue item ∈ entries := by
  obtain ⟨earlier, later, rfl, -⟩ := mem_outstanding.mp held
  simp

/-! ## Answers and what they answer

Where answers name no key, an answer takes whatever is open. `Pairs` is the
triple for it: a flag that is set only while something is open, some events, and
the flag after them. -/

section Answers
variable {α : Type} {asks answers : α → Bool} {events before after : List α} {event : α}
  {waits middle still : Bool}

/-- Something was asked and nothing has been answered since. -/
def Open (asks answers : α → Bool) (events : List α) : Prop :=
  ∃ before question after, events = before ++ question :: after ∧ asks question = true ∧
    ∀ event ∈ after, answers event = false

/-- Every answer comes while something is open. -/
def Answering (asks answers : α → Bool) (events : List α) : Prop :=
  ∀ before answer after, events = before ++ answer :: after → answers answer = true →
    Open asks answers before

/-- Something is open after an event when the event asks it, or when it was open and
is not answered. -/
theorem open_snoc : Open asks answers (events ++ [event]) ↔
    asks event = true ∨ (Open asks answers events ∧ answers event = false) := by
  constructor
  · rintro ⟨before, question, after, shape, asked, silent⟩
    rcases List.eq_nil_or_concat after with rfl | ⟨rest, last, rfl⟩
    · obtain ⟨-, same⟩ := List.append_inj' shape rfl
      cases same
      exact .inl asked
    · have shape : events ++ [event] = (before ++ question :: rest) ++ [last] := by simpa using shape
      obtain ⟨rfl, same⟩ := List.append_inj' shape rfl
      cases same
      refine .inr ⟨⟨before, question, rest, rfl, asked, fun other member => ?_⟩, ?_⟩
      · exact silent other (by simp [member])
      · exact silent event (by simp)
  · rintro (asked | ⟨⟨before, question, after, rfl, asked, silent⟩, quiet⟩)
    · exact ⟨events, event, [], rfl, asked, by simp⟩
    · refine ⟨before, question, after ++ [event], by simp, asked, fun other member => ?_⟩
      rcases List.mem_append.mp member with among | last
      · exact silent other among
      · rw [List.mem_singleton.mp last]
        exact quiet

theorem not_open_nil : ¬ Open asks answers [] := by
  rintro ⟨before, question, after, shape, -⟩
  simp at shape

@[simp] theorem answering_nil : Answering asks answers [] := by
  intro before answer after shape
  simp at shape

/-- One more event has to be no answer, or to come while something is open. -/
theorem answering_snoc : Answering asks answers (events ++ [event]) ↔
    Answering asks answers events ∧ (answers event = true → Open asks answers events) := by
  constructor
  · intro all
    refine ⟨fun before answer after shape => all before answer (after ++ [event]) ?_,
      all events event [] rfl⟩
    rw [shape, List.append_assoc, List.cons_append]
  · rintro ⟨all, last⟩ before answer after shape answered
    rcases List.eq_nil_or_concat after with rfl | ⟨rest, final, rfl⟩
    · obtain ⟨rfl, same⟩ := List.append_inj' shape rfl
      cases same
      exact last answered
    · have shape : events ++ [event] = (before ++ answer :: rest) ++ [final] := by simpa using shape
      exact all before answer rest (List.append_inj' shape rfl).1 answered

/-- There are no more answers than questions. -/
theorem Answering.count_le (answering : Answering asks answers events)
    (apart : ∀ event, asks event = true → answers event = false) :
    events.countP answers ≤ events.countP asks := by
  -- while something is open there is even one answer less
  have counts : events.countP answers ≤ events.countP asks ∧
      (Open asks answers events → events.countP answers < events.countP asks) := by
    induction events using List.reverseRecOn with
    | nil => exact ⟨Nat.le_refl _, fun opened => absurd opened not_open_nil⟩
    | append_singleton events event ih =>
      obtain ⟨earlier, last⟩ := answering_snoc.mp answering
      obtain ⟨most, fewer⟩ := ih earlier
      rw [List.countP_append, List.countP_append, List.countP_singleton, List.countP_singleton,
        open_snoc]
      by_cases asked : asks event = true
      · simp only [asked, apart event asked, ↓reduceIte, Bool.false_eq_true]
        omega
      · by_cases answered : answers event = true
        · have some := fewer (last answered)
          simp only [asked, answered, ↓reduceIte, Bool.false_eq_true, Bool.true_eq_false, and_false,
            or_self, false_implies, and_true]
          omega
        · simp only [asked, answered, ↓reduceIte, Bool.false_eq_true, false_or]
          exact ⟨most, fun opened => fewer opened.1⟩
  exact counts.1

/-- From a list in which the flag is set only while something is open, the events
lead to one of which the same holds, with the flag after them. -/
def Pairs (asks answers : α → Bool) (waits : Bool) (events : List α) (still : Bool) : Prop :=
  ∀ earlier, Answering asks answers earlier → (waits = true → Open asks answers earlier) →
    Answering asks answers (earlier ++ events) ∧
      (still = true → Open asks answers (earlier ++ events))

/-- Events that answer nothing leave the flag, or clear it. -/
theorem pairs_quiet (quiet : ∀ event ∈ events, answers event = false)
    (kept : still = true → waits = true) : Pairs asks answers waits events still := by
  induction events with
  | nil =>
    intro earlier answering opened
    rw [List.append_nil]
    exact ⟨answering, fun waited => opened (kept waited)⟩
  | cons event events ih =>
    intro earlier answering opened
    have silent := quiet event (.head _)
    have shape : earlier ++ event :: events = (earlier ++ [event]) ++ events := by simp
    rw [shape]
    refine ih (fun other member => quiet other (.tail _ member)) _ ?_ fun waited => ?_
    · exact answering_snoc.mpr ⟨answering, fun answered => by simp [silent] at answered⟩
    · exact open_snoc.mpr (.inr ⟨opened waited, silent⟩)

/-- A question sets the flag. -/
theorem pairs_question (asked : asks event = true) (silent : answers event = false) :
    Pairs asks answers waits [event] still := by
  intro earlier answering _
  refine ⟨answering_snoc.mpr ⟨answering, fun answered => ?_⟩, fun _ => open_snoc.mpr (.inl asked)⟩
  simp [silent] at answered

/-- An answer needs the flag and clears it. -/
theorem pairs_answer : Pairs asks answers true [event] false := by
  intro earlier answering opened
  exact ⟨answering_snoc.mpr ⟨answering, fun _ => opened rfl⟩, fun waited => nomatch waited⟩

/-- Triples compose. -/
theorem Pairs.append (first : Pairs asks answers waits before middle)
    (second : Pairs asks answers middle after still) :
    Pairs asks answers waits (before ++ after) still := by
  intro earlier answering opened
  obtain ⟨between, open'⟩ := first earlier answering opened
  rw [← List.append_assoc]
  exact second _ between open'

end Answers

end ChatClient.Obligation
