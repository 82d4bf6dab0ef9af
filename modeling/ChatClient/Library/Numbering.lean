import Mathlib.Data.List.Infix

/-! Items that carry consecutive 16-bit numbers.

The numbers wrap at 2^16, so a number says where an item stands only up to
multiples of that (`number_eq_iff`). -/

namespace ChatClient.Numbering

variable {α : Type} {numberOf : α → Option UInt16} {first : UInt16} {items more : List α} {item : α}

/-- Each item carries the number of its position, counted from `first` on. -/
def Consecutive (numberOf : α → Option UInt16) (first : UInt16) (items : List α) : Prop :=
  ∀ position item, items[position]? = some item →
    numberOf item = some (first + UInt16.ofNat position)

@[simp] theorem consecutive_nil : Consecutive numberOf first [] := by
  intro position item found
  simp at found

/-- The numbers can be compared with the positions. -/
theorem consecutive_of_map (same : items.map numberOf =
    (List.range items.length).map fun position => some (first + UInt16.ofNat position)) :
    Consecutive numberOf first items := by
  intro position item found
  obtain ⟨inside, rfl⟩ := List.getElem?_eq_some_iff.mp found
  have read := congrArg (fun numbers => numbers[position]?) same
  simpa [inside] using read

/-- One more item has the number of its position. -/
theorem consecutive_snoc : Consecutive numberOf first (items ++ [item]) ↔
    Consecutive numberOf first items ∧ numberOf item = some (first + UInt16.ofNat items.length) := by
  constructor
  · intro all
    refine ⟨fun position other found => all position other ?_, all items.length item (by simp)⟩
    rw [List.getElem?_append_left (List.getElem?_eq_some_iff.mp found).1]
    exact found
  · rintro ⟨all, last⟩ position other found
    by_cases inside : position < items.length
    · rw [List.getElem?_append_left inside] at found
      exact all position other found
    · rw [List.getElem?_append_right (by omega)] at found
      obtain ⟨at', same⟩ := List.getElem?_eq_some_iff.mp found
      simp only [List.length_singleton] at at'
      have here : position = items.length := by omega
      subst here
      simpa [← same] using last

/-- The first items are numbered as they were. -/
theorem Consecutive.of_append (all : Consecutive numberOf first (items ++ more)) :
    Consecutive numberOf first items := by
  intro position item found
  refine all position item ?_
  rw [List.getElem?_append_left (List.getElem?_eq_some_iff.mp found).1]
  exact found

/-- An item has as its number how many there are before it. -/
theorem Consecutive.number (all : Consecutive numberOf first (items ++ item :: more)) :
    numberOf item = some (first + UInt16.ofNat items.length) :=
  all items.length item (by simp)

/-- Two positions have one number exactly when they are a multiple of 2^16 apart. -/
theorem number_eq_iff {position distance : Nat} :
    first + UInt16.ofNat position = first + UInt16.ofNat (position + distance) ↔
      distance % UInt16.size = 0 := by
  rw [UInt16.add_right_inj, ← UInt16.toNat_inj, UInt16.toNat_ofNat', UInt16.toNat_ofNat',
    UInt16.size]
  omega

end ChatClient.Numbering
