import Mathlib.Data.List.Basic

/-! Computations that may be undefined, an `Option` of a result, and what holds of them
branch by branch: of every result there is (`Yields`), that there is one (`Defined`),
and of the results of two computations (`Follows`). -/

namespace ChatClient.Calls

variable {α β γ : Type}

/-- Whatever the computation comes to satisfies `P`. -/
def Yields (called : Option α) (P : α → Prop) : Prop := ∀ result, called = some result → P result

/-- The computation comes to something. -/
def Defined (called : Option α) : Prop := ∃ result, called = some result

/-- Whatever the first computation comes to, the second comes to something related. -/
def Follows (related : α → β → Prop) (called : Option α) (other : Option β) : Prop :=
  ∀ result, called = some result → ∃ result', other = some result' ∧ related result result'

theorem Yields.some {P : α → Prop} {result : α} (holds : P result) : Yields (some result) P := by
  rintro _ ⟨⟩
  exact holds

theorem Yields.none {P : α → Prop} : Yields none P := by
  intro result ran
  cases ran

theorem Yields.ite {P : α → Prop} {condition : Prop} [Decidable condition] {taken other : Option α}
    (holds : condition → Yields taken P) (fails : ¬condition → Yields other P) :
    Yields (if condition then taken else other) P :=
  iteInduction (motive := fun called => Yields called P) holds fails

theorem Yields.bind {P : α → Prop} {asked : Option γ} {next : γ → Option α}
    (goes : ∀ answer, asked = .some answer → Yields (next answer) P) : Yields (asked.bind next) P := by
  cases asked with
  | none => exact fun _ ran => by cases ran
  | some answer => exact goes answer rfl

theorem Defined.some (result : α) : Defined (some result) := ⟨result, rfl⟩

theorem Defined.ite {condition : Prop} [Decidable condition] {taken other : Option α}
    (holds : condition → Defined taken) (fails : ¬condition → Defined other) :
    Defined (if condition then taken else other) :=
  iteInduction (motive := Defined) holds fails

theorem Follows.some {related : α → β → Prop} {result : α} {result' : β}
    (holds : related result result') : Follows related (some result) (some result') := by
  rintro _ ⟨⟩
  exact ⟨result', rfl, holds⟩

theorem Follows.ite {related : α → β → Prop} {condition : Prop} [Decidable condition]
    {taken other : Option α} {taken' other' : Option β}
    (holds : condition → Follows related taken taken')
    (fails : ¬condition → Follows related other other') :
    Follows related (if condition then taken else other) (if condition then taken' else other') := by
  by_cases decided : condition
  · rw [if_pos decided, if_pos decided]
    exact holds decided
  · rw [if_neg decided, if_neg decided]
    exact fails decided

theorem Follows.bind {related : α → β → Prop} {asked : Option γ} {next : γ → Option α}
    {next' : γ → Option β}
    (goes : ∀ answer, asked = .some answer → Follows related (next answer) (next' answer)) :
    Follows related (asked.bind next) (asked.bind next') := by
  cases asked with
  | none => exact fun _ ran => by cases ran
  | some answer => exact goes answer rfl

end ChatClient.Calls
