import Mathlib.Data.List.Forall2

/-! Runs of a deterministic partial machine, kept with every turn taken.

A machine is a step function that may refuse an input. A `Run` is the list of
its turns in order, so a property of a whole run can speak about what came
before each turn and about the states around it. `Throughout` is the form such
properties take here: at every turn, given the turns before it. -/

namespace ChatClient.Transition

/-- One turn: the state it started in, the input it consumed, what it put out
and the state it left. -/
structure Turn (σ ι ω : Type) where
  before : σ
  input : ι
  output : ω
  after : σ

variable {σ ι ω : Type} {step : σ → ι → Option (ω × σ)} {first state : σ}
  {history before later : List (Turn σ ι ω)} {turn : Turn σ ι ω}

/-- The runs of `step` from `first`: the turns taken, oldest first, and the
state reached. -/
inductive Run (step : σ → ι → Option (ω × σ)) (first : σ) : List (Turn σ ι ω) → σ → Prop where
  | start : Run step first [] first
  | turn {history : List (Turn σ ι ω)} {state after : σ} {input : ι} {output : ω}
      (run : Run step first history state) (ran : step state input = some (output, after)) :
      Run step first (history ++ [⟨state, input, output, after⟩]) after

/-- The turns taken on the inputs in order, when the machine refuses none. -/
def exec (step : σ → ι → Option (ω × σ)) : σ → List ι → Option (List (Turn σ ι ω) × σ)
  | state, [] => some ([], state)
  | state, input :: inputs => do
    let (output, after) ← step state input
    let (turns, final) ← exec step after inputs
    some (⟨state, input, output, after⟩ :: turns, final)

/-- One input, then the others. -/
theorem exec_cons {input : ι} {inputs : List ι} {output : ω} {after final : σ}
    {turns : List (Turn σ ι ω)} (took : step state input = some (output, after))
    (ran : exec step after inputs = some (turns, final)) :
    exec step state (input :: inputs) = some (⟨state, input, output, after⟩ :: turns, final) := by
  simp [exec, took, ran]

/-- What the machine executes after a run prolongs the run. -/
theorem Run.exec_append {inputs : List ι} {turns : List (Turn σ ι ω)} {final : σ}
    (run : Run step first history state) (ran : exec step state inputs = some (turns, final)) :
    Run step first (history ++ turns) final := by
  induction inputs generalizing history state turns with
  | nil =>
    cases ran
    simpa using run
  | cons input inputs ih =>
    simp only [exec, Option.bind_eq_bind, Option.bind_eq_some_iff, Option.some.injEq,
      Prod.mk.injEq] at ran
    obtain ⟨⟨output, after⟩, took, ⟨rest, last⟩, more, rfl, rfl⟩ := ran
    simpa using ih (run.turn took) more

/-- The turns executed are turns on the inputs. -/
theorem map_input_of_exec {inputs : List ι} {turns : List (Turn σ ι ω)} {final : σ}
    (ran : exec step state inputs = some (turns, final)) : turns.map Turn.input = inputs := by
  induction inputs generalizing state turns with
  | nil =>
    cases ran
    rfl
  | cons input inputs ih =>
    simp only [exec, Option.bind_eq_bind, Option.bind_eq_some_iff, Option.some.injEq,
      Prod.mk.injEq] at ran
    obtain ⟨⟨output, after⟩, took, ⟨later, last⟩, others, rfl, rfl⟩ := ran
    rw [List.map_cons, ih others]

/-- Executing inputs from the first state is a run. -/
theorem Run.of_exec {inputs : List ι} (ran : exec step first inputs = some (history, state)) :
    Run step first history state := by
  simpa using Run.start.exec_append ran

/-- Every turn of a run was taken from a state the turns before it reached. -/
theorem Run.split (run : Run step first (before ++ turn :: later) state) :
    Run step first before turn.before ∧
      step turn.before turn.input = some (turn.output, turn.after) := by
  generalize shape : before ++ turn :: later = history at run
  induction run generalizing later with
  | start => simp at shape
  | @turn history middle after input output run ran ih =>
    rcases List.eq_nil_or_concat later with rfl | ⟨rest, last, rfl⟩
    · obtain ⟨rfl, same⟩ := List.append_inj' shape rfl
      cases same
      exact ⟨run, ran⟩
    · have shape : (before ++ turn :: rest) ++ [last] = history ++ [⟨middle, input, output, after⟩] := by
        simpa using shape
      exact ih (List.append_inj' shape rfl).1

/-- The turns up to and including one of a run are a run to the state after it. -/
theorem Run.upto (run : Run step first (before ++ turn :: later) state) :
    Run step first (before ++ [turn]) turn.after :=
  run.split.1.turn run.split.2

/-- The turns after one of a run are a run from the state it left. -/
theorem Run.rest (run : Run step first (before ++ turn :: later) state) :
    Run step turn.after later state := by
  generalize shape : before ++ turn :: later = history at run
  induction run generalizing later with
  | start => simp at shape
  | @turn history middle after input output run ran ih =>
    rcases List.eq_nil_or_concat later with rfl | ⟨between, last, rfl⟩
    · obtain ⟨-, same⟩ := List.append_inj' shape rfl
      cases same
      exact .start
    · have shape : (before ++ turn :: between) ++ [last] = history ++ [⟨middle, input, output, after⟩] := by
        simpa using shape
      obtain ⟨earlier, same⟩ := List.append_inj' shape rfl
      cases same
      simpa using (ih earlier).turn ran

/-- The turns of a run determine the state it reaches. -/
theorem Run.final_eq (run : Run step first history state) :
    state = (history.getLast?.map Turn.after).getD first := by
  cases run with
  | start => rfl
  | turn run ran => simp

/-- When the machine refuses everything in the state after a turn, that turn is
the last one of its run. -/
theorem Run.last_of_stuck (run : Run step first (before ++ turn :: later) state)
    (stuck : ∀ input, step turn.after input = none) : later = [] := by
  cases later with
  | nil => rfl
  | cons next rest =>
    have taken : Run step first ((before ++ [turn]) ++ next :: rest) state := by simpa using run
    have same : next.before = turn.after :=
      taken.split.1.final_eq.trans run.upto.final_eq.symm
    have ran := taken.split.2
    rw [same, stuck] at ran
    cases ran

/-- A property of each turn, given the turns before it, all along a history. -/
def Throughout (holds : List (Turn σ ι ω) → Turn σ ι ω → Prop)
    (history : List (Turn σ ι ω)) : Prop :=
  ∀ before turn later, history = before ++ turn :: later → holds before turn

variable {holds asks : List (Turn σ ι ω) → Turn σ ι ω → Prop}

@[simp] theorem throughout_nil : Throughout holds [] := by
  intro before turn later shape
  simp at shape

/-- A history has the property throughout exactly when its last turn has it
after the others, which have it throughout. -/
@[simp] theorem throughout_snoc :
    Throughout holds (history ++ [turn]) ↔ Throughout holds history ∧ holds history turn := by
  constructor
  · intro all
    exact ⟨fun before earlier later shape => all before earlier (later ++ [turn]) (by simp [shape]),
      all history turn [] rfl⟩
  · rintro ⟨all, last⟩ before earlier later shape
    rcases List.eq_nil_or_concat later with rfl | ⟨rest, final, rfl⟩
    · obtain ⟨rfl, same⟩ := List.append_inj' shape rfl
      cases same
      exact last
    · have shape : history ++ [turn] = (before ++ earlier :: rest) ++ [final] := by simpa using shape
      exact all before earlier rest (List.append_inj' shape rfl).1

/-- The invariant rule: what holds at the start, and what every turn taken
from a state of a run keeps, holds of every run. -/
theorem Run.invariant {I : List (Turn σ ι ω) → σ → Prop}
    (run : Run step first history state) (start : I [] first)
    (keeps : ∀ {history state input output after}, Run step first history state →
      I history state → step state input = some (output, after) →
      I (history ++ [⟨state, input, output, after⟩]) after) : I history state := by
  induction run with
  | start => exact start
  | turn run ran ih => exact keeps run ih ran

/-- The invariant rule for runs whose turns all meet a condition. -/
theorem Run.invariant_of_throughout {I : List (Turn σ ι ω) → σ → Prop}
    (run : Run step first history state) (meets : Throughout asks history) (start : I [] first)
    (keeps : ∀ {history state input output after}, Run step first history state →
      I history state → step state input = some (output, after) →
      asks history ⟨state, input, output, after⟩ →
      I (history ++ [⟨state, input, output, after⟩]) after) : I history state := by
  induction run with
  | start => exact start
  | turn run ran ih =>
    obtain ⟨earlier, last⟩ := throughout_snoc.mp meets
    exact keeps run (ih earlier) ran last

/-- A property holds throughout every run as soon as it holds of every turn
taken from a reached state. -/
theorem Run.throughout (run : Run step first history state)
    (each : ∀ {before state input output after}, Run step first before state →
      step state input = some (output, after) → holds before ⟨state, input, output, after⟩) :
    Throughout holds history := by
  rintro before turn later rfl
  exact each run.split.1 run.split.2

/-- A property holds throughout every run whose turns all meet a condition, as soon
as it holds of every such turn that comes after such turns. -/
theorem Run.throughout_of_throughout (run : Run step first history state)
    (meets : Throughout asks history)
    (each : ∀ {before state input output after}, Run step first before state →
      step state input = some (output, after) → Throughout asks before →
      asks before ⟨state, input, output, after⟩ → holds before ⟨state, input, output, after⟩) :
    Throughout holds history := by
  induction run with
  | start => simp
  | turn run ran ih =>
    obtain ⟨earlier, last⟩ := throughout_snoc.mp meets
    exact throughout_snoc.mpr ⟨ih earlier, each run ran earlier last⟩

/-- Two properties hold throughout the same runs when they agree on every turn
whose predecessors have the second one. -/
theorem Run.throughout_iff (run : Run step first history state)
    (agree : ∀ {before state input output after}, Run step first before state →
      step state input = some (output, after) → Throughout asks before →
      (holds before ⟨state, input, output, after⟩ ↔ asks before ⟨state, input, output, after⟩)) :
    Throughout holds history ↔ Throughout asks history := by
  induction run with
  | start => simp
  | turn run ran ih =>
    simp only [throughout_snoc, ih]
    exact and_congr_right fun meets => agree run ran meets

/-! ## Two machines side by side -/

section Lockstep
variable {σ' ω' : Type} {step' : σ' → ι → Option (ω' × σ')} {related : σ → σ' → Prop}
  {agree : Turn σ ι ω → Turn σ' ι ω' → Prop}

/-- Two machines that take every input from related states to related states, in
turns that agree, do so on every sequence of inputs. -/
theorem exec_lockstep {state' : σ'} (start : related state state')
    (each : ∀ {state state'} input, related state state' →
      ∃ output after output' after', step state input = some (output, after) ∧
        step' state' input = some (output', after') ∧
        agree ⟨state, input, output, after⟩ ⟨state', input, output', after'⟩ ∧ related after after')
    (inputs : List ι) :
    ∃ turns final turns' final', exec step state inputs = some (turns, final) ∧
      exec step' state' inputs = some (turns', final') ∧ List.Forall₂ agree turns turns' ∧
      related final final' := by
  induction inputs generalizing state state' with
  | nil => exact ⟨[], state, [], state', rfl, rfl, .nil, start⟩
  | cons input inputs ih =>
    obtain ⟨output, after, output', after', took, took', agrees, kept⟩ := each input start
    obtain ⟨turns, final, turns', final', ran, ran', all, last⟩ := ih kept
    exact ⟨_, final, _, final', exec_cons took ran, exec_cons took' ran', .cons agrees all, last⟩

end Lockstep

/-! ## The same machine on other inputs -/

section Related
variable {σ' ι' ω' : Type} {step' : σ' → ι' → Option (ω' × σ')} {related : σ → σ' → Prop}
  {admits : ι → ι' → Prop} {agree : Turn σ ι ω → Turn σ' ι' ω' → Prop}

/-- A machine that can answer every turn of another, on any input admitted for that of
the turn, in a turn that agrees and from related states to related states, follows
everything the other executes. -/
theorem exec_follows {state' : σ'} {inputs : List ι} {inputs' : List ι'} {turns : List (Turn σ ι ω)}
    {final : σ} (start : related state state')
    (each : ∀ {state input output after state' input'}, related state state' → admits input input' →
      step state input = some (output, after) → ∃ output' after',
        step' state' input' = some (output', after') ∧
        agree ⟨state, input, output, after⟩ ⟨state', input', output', after'⟩ ∧ related after after')
    (ran : exec step state inputs = some (turns, final)) (admitted : List.Forall₂ admits inputs inputs') :
    ∃ turns' final', exec step' state' inputs' = some (turns', final') ∧
      List.Forall₂ agree turns turns' ∧ related final final' := by
  induction admitted generalizing state state' turns with
  | nil =>
    cases ran
    exact ⟨[], state', rfl, .nil, start⟩
  | cons allowed _ ih =>
    simp only [exec, Option.bind_eq_bind, Option.bind_eq_some_iff, Option.some.injEq,
      Prod.mk.injEq] at ran
    obtain ⟨⟨output, after⟩, took, ⟨later, last⟩, others, rfl, rfl⟩ := ran
    obtain ⟨output', after', took', agrees, kept⟩ := each start allowed took
    obtain ⟨turns', final', ran', all, ends⟩ := ih kept others
    exact ⟨_, final', exec_cons took' ran', .cons agrees all, ends⟩

end Related

/-! ## One machine carried by another -/

section Carried
variable {σ' ι' ω' : Type} {step' : σ' → ι' → Option (ω' × σ')} {related : σ → σ' → Prop}
  {carries : Turn σ ι ω → List (Turn σ' ι' ω') → Prop} {first' : σ'}

/-- When each turn a machine takes in a related state is carried by a block of turns
of another, every run is carried by a run, block by block. -/
theorem Run.carried (run : Run step first history state) (start : related first first')
    (each : ∀ {before state input output after state'}, Run step first before state →
      related state state' → step state input = some (output, after) →
      ∃ inputs block after', exec step' state' inputs = some (block, after') ∧
        carries ⟨state, input, output, after⟩ block ∧ related after after') :
    ∃ blocks state', Run step' first' blocks.flatten state' ∧
      List.Forall₂ carries history blocks ∧ related state state' := by
  induction run with
  | start => exact ⟨[], first', .start, .nil, start⟩
  | turn run ran ih =>
    obtain ⟨blocks, state', run', carried, kept⟩ := ih
    obtain ⟨inputs, block, after', ran', carries', related'⟩ := each run kept ran
    refine ⟨blocks ++ [block], after', ?_, ?_, related'⟩
    · rw [List.flatten_append, List.flatten_singleton]
      exact run'.exec_append ran'
    · exact List.rel_append carried (.cons carries' .nil)

end Carried

end ChatClient.Transition
