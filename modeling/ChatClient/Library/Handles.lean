import Mathlib.Data.List.Basic

/-! Resources that a program acquires, uses and gives back.

`after` runs some operations on the resources held and faults, with no result, on
the acquisition of one that is held and on the use or the release of one that is
not. What does not fault keeps the books of every resource (`balance`), so operations
that leave nothing held have released everything as often as they acquired it. -/

namespace ChatClient.Handles

variable {R : Type} [DecidableEq R] {r : R} {held rest : List R}

/-- What is done with a resource. -/
inductive Op (R : Type) where
  | acquire (r : R)
  | use (r : R)
  | release (r : R)
  deriving DecidableEq, Repr

/-- One operation on the resources held. -/
def step (held : List R) : Op R → Option (List R)
  | .acquire r => if r ∈ held then none else some (r :: held)
  | .use r => if r ∈ held then some held else none
  | .release r => if r ∈ held then some (held.erase r) else none

/-- The resources held after some operations. -/
def after : List R → List (Op R) → Option (List R)
  | held, [] => some held
  | held, op :: ops => (step held op).bind fun held => after held ops

variable {op : Op R} {ops more : List (Op R)}

@[simp] theorem after_nil : after held [] = some held := rfl

theorem after_append : after held (ops ++ more) =
    (after held ops).bind fun held => after held more := by
  induction ops generalizing held with
  | nil => rfl
  | cons op ops ih =>
    rw [List.cons_append, after, after]
    cases step held op with
    | none => rfl
    | some next => exact ih

/-- Operations one after the other. -/
theorem after_then (first : after held ops = some rest) : after held
    (ops ++ more) = after rest more := by
  rw [after_append, first]
  rfl

@[simp] theorem after_acquire (free : r ∉ held) :
    after held (.acquire r :: ops) = after (r :: held) ops := by
  rw [after, step, if_neg free]
  rfl

@[simp] theorem after_use (member : r ∈ held) : after held (.use r :: ops) = after held ops := by
  rw [after, step, if_pos member]
  rfl

@[simp] theorem after_release (member : r ∈ held) :
    after held (.release r :: ops) = after (held.erase r) ops := by
  rw [after, step, if_pos member]
  rfl

/-- What is not held cannot be given back. -/
theorem after_release_missing (missing : r ∉ held) : after held (.release r :: ops) = none := by
  rw [after, step, if_neg missing]
  rfl

/-- Uses of what is held change nothing. -/
theorem after_uses (uses : ∀ op ∈ ops, ∃ r ∈ held, op = .use r) : after held ops = some held := by
  induction ops with
  | nil => rfl
  | cons op ops ih =>
    obtain ⟨r, member, rfl⟩ := uses op (.head _)
    rw [after_use member]
    exact ih fun op within => uses op (.tail _ within)

/-- What one operation can do. -/
theorem step_cases {next : List R} (stepped : step held op = some next) :
    (∃ r, op = .acquire r ∧ r ∉ held ∧ next = r :: held) ∨
      (∃ r, op = .use r ∧ next = held) ∨
      (∃ r, op = .release r ∧ r ∈ held ∧ next = held.erase r) := by
  unfold step at stepped
  split at stepped
  · split at stepped
    · cases stepped
    · exact .inl ⟨_, rfl, ‹_›, (Option.some.inj stepped).symm⟩
  · split at stepped
    · exact .inr (.inl ⟨_, rfl, (Option.some.inj stepped).symm⟩)
    · cases stepped
  · split at stepped
    · exact .inr (.inr ⟨_, rfl, ‹_›, (Option.some.inj stepped).symm⟩)
    · cases stepped

/-- One operation keeps the books of every resource. -/
theorem balance_step {next : List R} (stepped : step held op = some next) (distinct : held.Nodup) :
    next.Nodup ∧ [op].count (.acquire r) + held.count r = [op].count (.release r) + next.count r := by
  rcases step_cases stepped with ⟨s, rfl, free, rfl⟩ | ⟨s, rfl, rfl⟩ | ⟨s, rfl, member, rfl⟩
  · refine ⟨List.nodup_cons.mpr ⟨free, distinct⟩, ?_⟩
    by_cases this : s = r
    · simp [this, Nat.add_comm]
    · simp [this]
  · exact ⟨distinct, by simp⟩
  · refine ⟨distinct.erase s, ?_⟩
    by_cases this : s = r
    · subst this
      have one := List.count_pos_iff.mpr member
      simp only [List.count_erase_self, List.count_singleton_self, List.count_singleton]
      simp
      omega
    · simp [this, List.count_erase_of_ne (fun same => this same.symm)]

/-- Without faults a resource is held at the end exactly as often as it was acquired, or held
before, and not released. -/
theorem balance (ran : after held ops = some rest) (distinct : held.Nodup) :
    ops.count (.acquire r) + held.count r = ops.count (.release r) + rest.count r := by
  induction ops generalizing held with
  | nil =>
    cases ran
    simp
  | cons op ops ih =>
    obtain ⟨next, stepped, ran⟩ := Option.bind_eq_some_iff.mp ran
    obtain ⟨nodup, first⟩ := balance_step (r := r) stepped distinct
    have later := ih ran nodup
    rw [← List.singleton_append, List.count_append, List.count_append]
    omega

/-- Everything is released as often as it is acquired. -/
def Balanced (ops : List (Op R)) : Prop := ∀ r, ops.count (.acquire r) = ops.count (.release r)

theorem balanced_of_after (ran : after [] ops = some []) : Balanced ops := by
  intro r
  simpa using balance (r := r) ran List.nodup_nil

end ChatClient.Handles
