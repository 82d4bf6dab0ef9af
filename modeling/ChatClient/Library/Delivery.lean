import Mathlib.Data.List.Infix
import Mathlib.Logic.Relation

/-! Stop-and-wait over a network that loses, repeats and reorders.

The sender issues one item at a time and waits for its acknowledgement; the
network may hand over any item ever issued, at any time and any number of times,
or never; the receiver takes an item when its key is new and acknowledges the key
either way. `InOrder` is the invariant: what was taken is what was issued, or
falls one short of it while the sender waits. -/

namespace ChatClient.Delivery

/-- What has passed between the two ends: the items issued and the items taken,
oldest first, the keys acknowledged, and whether the sender waits. -/
structure Channel (μ κ : Type) where
  issued : List μ := []
  waiting : Bool := false
  taken : List μ := []
  acknowledged : List κ := []

variable {μ κ : Type} {key : μ → κ} {channel after : Channel μ κ} {item : μ}

/-- No key is issued twice, only keys of taken items are acknowledged, and the
receiver is not behind, except by the item waited for. -/
structure InOrder (key : μ → κ) (channel : Channel μ κ) : Prop where
  distinct : (channel.issued.map key).Nodup
  answered : ∀ k ∈ channel.acknowledged, k ∈ channel.taken.map key
  behind : channel.taken = channel.issued ∨
    (channel.waiting = true ∧ ∃ last, channel.issued = channel.taken ++ [last])

namespace InOrder

/-- What was taken is an initial part of what was issued. -/
theorem isPrefix (ordered : InOrder key channel) : channel.taken <+: channel.issued := by
  rcases ordered.behind with same | ⟨-, last, shape⟩
  · rw [same]
  · exact ⟨[last], shape.symm⟩

/-- The receiver is behind by one item at most. -/
theorem length_le (ordered : InOrder key channel) :
    channel.issued.length ≤ channel.taken.length + 1 := by
  rcases ordered.behind with same | ⟨-, last, shape⟩
  · rw [same]
    omega
  · rw [shape, List.length_append, List.length_singleton]

/-- Nothing is missing when the sender does not wait. -/
theorem complete (ordered : InOrder key channel) (idle : channel.waiting = false) :
    channel.taken = channel.issued := by
  rcases ordered.behind with same | ⟨waits, -⟩
  · exact same
  · simp [idle] at waits

/-- The key of the last item is acknowledged only when everything was taken. -/
theorem taken_of_last (ordered : InOrder key channel) (last : channel.issued.getLast? = some item)
    (known : key item ∈ channel.taken.map key) : channel.taken = channel.issued := by
  rcases ordered.behind with same | ⟨-, other, shape⟩
  · exact same
  · have distinct := ordered.distinct
    rw [shape, List.getLast?_concat, Option.some.injEq] at last
    subst last
    rw [shape, List.map_append, List.map_singleton, List.nodup_append] at distinct
    exact absurd rfl (distinct.2.2 _ known _ (List.mem_singleton.mpr rfl))

end InOrder

variable [DecidableEq κ]

/-- The receiver is handed an item. -/
def Channel.deliver (key : μ → κ) (channel : Channel μ κ) (item : μ) : Channel μ κ :=
  { channel with
    taken := if key item ∈ channel.taken.map key then channel.taken else channel.taken ++ [item]
    acknowledged := channel.acknowledged ++ [key item] }

/-- The moves of the two ends and of the network between them. -/
inductive Step (key : μ → κ) (channel : Channel μ κ) : Channel μ κ → Prop where
  | issue {item : μ} (idle : channel.waiting = false) (fresh : key item ∉ channel.issued.map key) :
      Step key channel { channel with issued := channel.issued ++ [item], waiting := true }
  | deliver {item : μ} (carried : item ∈ channel.issued) :
      Step key channel (channel.deliver key item)
  | release {item : μ} (last : channel.issued.getLast? = some item)
      (answered : key item ∈ channel.acknowledged) :
      Step key channel { channel with waiting := false }

/-- The channels that moves lead to. -/
abbrev Reaches (key : μ → κ) : Channel μ κ → Prop := Relation.ReflTransGen (Step key) {}

namespace InOrder

/-- An item that was handed over is among the taken ones. -/
theorem deliver (ordered : InOrder key channel) (carried : item ∈ channel.issued) :
    InOrder key (channel.deliver key item) := by
  by_cases known : key item ∈ channel.taken.map key
  · simp only [Channel.deliver, known, ↓reduceIte]
    refine ⟨ordered.distinct, fun k member => ?_, ordered.behind⟩
    rcases List.mem_append.mp member with earlier | new
    · exact ordered.answered k earlier
    · rw [List.mem_singleton.mp new]
      exact known
  · simp only [Channel.deliver, known, ↓reduceIte]
    -- an item that is new can only be the one the receiver is behind by
    have behind : channel.issued = channel.taken ++ [item] := by
      rcases ordered.behind with same | ⟨-, last, shape⟩
      · rw [same] at known
        exact absurd (List.mem_map_of_mem carried) known
      · rw [shape, List.mem_append, List.mem_singleton] at carried
        rcases carried with earlier | rfl
        · exact absurd (List.mem_map_of_mem earlier) known
        · exact shape
    refine ⟨ordered.distinct, fun k member => ?_, .inl behind.symm⟩
    rw [List.map_append, List.mem_append, List.map_singleton]
    rcases List.mem_append.mp member with earlier | new
    · exact .inl (ordered.answered k earlier)
    · exact .inr new

/-- Every move keeps the order. -/
theorem move (ordered : InOrder key channel) (moved : Step key channel after) :
    InOrder key after := by
  cases moved with
  | @issue item idle fresh =>
    refine ⟨?_, ordered.answered, .inr ⟨rfl, item, ?_⟩⟩
    · rw [List.map_append, List.map_singleton, List.nodup_append]
      refine ⟨ordered.distinct, List.pairwise_singleton _ _, fun k held other last same => fresh ?_⟩
      rwa [← List.mem_singleton.mp last, ← same]
    · rw [ordered.complete idle]
  | deliver carried => exact ordered.deliver carried
  | release last answered =>
    exact ⟨ordered.distinct, ordered.answered,
      .inl (ordered.taken_of_last last (ordered.answered _ answered))⟩

/-- Every channel that moves lead to is in order. -/
theorem of_reaches (reaches : Reaches key channel) : InOrder key channel := by
  induction reaches with
  | refl => exact ⟨List.nodup_nil, by simp, .inl rfl⟩
  | tail _ moved ih => exact ih.move moved

/-- Handing the last item over once leaves nothing behind. -/
theorem complete_of_deliver (ordered : InOrder key channel)
    (last : channel.issued.getLast? = some item) :
    (channel.deliver key item).taken = channel.issued := by
  have kept := ordered.deliver (List.mem_of_getLast? last)
  refine kept.taken_of_last last (kept.answered _ ?_)
  simp [Channel.deliver]

end InOrder

end ChatClient.Delivery
