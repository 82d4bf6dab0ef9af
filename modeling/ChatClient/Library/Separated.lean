import ChatClient.Library.Framing

/-! Words of a text, kept apart by a separator.

`scan` is the loop of a tokenizer: the words a separator ended so far and the
word begun after them. Together they are `List.splitOn` (`scan_splitOn`), so
separator-free words are read back (`scan_join`), and the parts of any text, put
together again, give the text (`glue_splitOn`), and a text is scanned into exactly
what it is made of (`scan_eq_iff`). Items written as words are told apart when their
first words are (`flatMap_injOn_of_heads`). -/

namespace ChatClient.Separated

open Framing

variable {α : Type} {separator : α} {word text : List α} {words : List (List α)}

/-- The separator behind the last word is the one that joining leaves out. -/
theorem dropLast_join : (join [separator] words).dropLast = [separator].intercalate words := by
  induction words with
  | nil => rfl
  | cons word words ih =>
    cases words with
    | nil => simp
    | cons next words =>
      have more : join [separator] (next :: words) ≠ [] := by simp
      rw [List.intercalate_cons_cons, ← ih, join_cons, List.dropLast_append_of_ne_nil more]

variable [DecidableEq α]

/-- One turn of the loop: a separator ends the word begun, anything else prolongs
it. -/
def next (separator : α) : List (List α) × List α → α → List (List α) × List α
  | (result, word), c => if c = separator then (result ++ [word], []) else (result, word ++ [c])

/-- The words a separator ends, and what follows the last separator. -/
def scan (separator : α) (text : List α) : List (List α) × List α :=
  text.foldl (next separator) ([], [])

/-- From the words ended and the word begun before, the loop yields them and the
parts of the text, the first of which prolongs that word. -/
theorem foldl_next (result : List (List α)) (word : List α) :
    (text.foldl (next separator) (result, word)).1 ++
      [(text.foldl (next separator) (result, word)).2] =
      result ++ (text.splitOn separator).modifyHead fun part => word ++ part := by
  induction text generalizing result word with
  | nil => simp
  | cons c text ih =>
    obtain ⟨part, parts, shape⟩ := List.exists_cons_of_ne_nil (List.splitOn_ne_nil separator text)
    rw [List.foldl_cons, List.splitOn_cons_eq_if_modifyHead]
    by_cases ends : c = separator
    · simp only [next, ends, ↓reduceIte, beq_self_eq_true, ih, shape, List.modifyHead_cons]
      simp
    · simp only [next, ends, ↓reduceIte, beq_iff_eq, ih, shape, List.modifyHead_cons]
      simp

/-- The words ended and the word begun are the parts of the text. -/
theorem scan_splitOn :
    (scan separator text).1 ++ [(scan separator text).2] = text.splitOn separator := by
  obtain ⟨part, parts, shape⟩ := List.exists_cons_of_ne_nil (List.splitOn_ne_nil separator text)
  have scanned := @foldl_next _ separator text _ [] []
  rw [shape] at scanned ⊢
  exact scanned

/-- Separator-free words, each with the separator behind it, are the parts of
what they make up, next to the rest. -/
theorem splitOn_join (free : ∀ word ∈ words, separator ∉ word) :
    (join [separator] words ++ text).splitOn separator = words ++ text.splitOn separator := by
  induction words with
  | nil => rfl
  | cons word words ih =>
    have first : join [separator] (word :: words) ++ text =
        word ++ separator :: (join [separator] words ++ text) := by simp
    rw [first, List.splitOn_append_cons_self_of_not_mem (free word (.head _)),
      ih fun word member => free word (.tail _ member), List.cons_append]

/-- Such words are read back, with nothing left over. -/
theorem scan_join (free : ∀ word ∈ words, separator ∉ word) :
    scan separator (join [separator] words) = (words, []) := by
  have parts := @scan_splitOn _ separator (join [separator] words) _
  have whole := @splitOn_join _ separator [] words _ free
  rw [List.append_nil, List.splitOn_nil] at whole
  obtain ⟨ended, begun⟩ := List.append_inj' (parts.trans whole) rfl
  exact Prod.ext ended (List.singleton_inj.mp begun)

/-- No part of a text holds the separator. -/
theorem not_mem_of_mem_splitOn (member : word ∈ text.splitOn separator) : separator ∉ word := by
  induction text generalizing word with
  | nil => simp_all
  | cons c text ih =>
    obtain ⟨part, parts, shape⟩ := List.exists_cons_of_ne_nil (List.splitOn_ne_nil separator text)
    rw [shape] at ih
    rw [List.splitOn_cons_eq_if_modifyHead, shape] at member
    by_cases ends : c = separator
    · rw [if_pos (by simpa using ends)] at member
      rcases List.mem_cons.mp member with rfl | member
      · exact List.not_mem_nil
      · exact ih member
    · rw [if_neg (by simpa using ends), List.modifyHead_cons] at member
      rcases List.mem_cons.mp member with rfl | member
      · have unlike : separator ≠ c := fun same => ends same.symm
        simpa [unlike] using ih (List.mem_cons_self ..)
      · exact ih (.tail _ member)

/-- The parts of a text, put together with the separator between them, are the
text. -/
theorem glue_splitOn : (join [separator] (text.splitOn separator)).dropLast = text := by
  rw [dropLast_join, List.intercalate_splitOn]

/-- Some words are the first parts of a text, others being left, exactly when they
hold no separator, each has one behind it, and the others are the parts of the
rest. -/
theorem splitOn_eq_append_iff {parts : List (List α)} (some : parts ≠ []) :
    text.splitOn separator = words ++ parts ↔ (∀ word ∈ words, separator ∉ word) ∧
      ∃ rest, text = join [separator] words ++ rest ∧ rest.splitOn separator = parts := by
  constructor
  · intro split
    have free : ∀ word ∈ words, separator ∉ word := by
      intro word member
      have part : word ∈ text.splitOn separator := by
        rw [split]
        exact List.mem_append_left _ member
      exact not_mem_of_mem_splitOn part
    have more : join [separator] parts ≠ [] := by
      obtain ⟨part, others, rfl⟩ := List.exists_cons_of_ne_nil some
      simp
    have whole : text = join [separator] words ++ (join [separator] parts).dropLast := by
      rw [← List.dropLast_append_of_ne_nil more, ← join_append, ← split, glue_splitOn]
    refine ⟨free, _, whole, ?_⟩
    rw [whole, splitOn_join free] at split
    exact List.append_cancel_left split
  · rintro ⟨free, rest, rfl, rfl⟩
    exact splitOn_join free

/-- The loop ends words and leaves a rest exactly when neither holds a separator and
the text is the words, each with one behind it, and the rest. -/
theorem scan_eq_iff {rest : List α} : scan separator text = (words, rest) ↔
    (∀ word ∈ words, separator ∉ word) ∧ separator ∉ rest ∧ text = join [separator] words ++ rest := by
  have scanned := @scan_splitOn _ separator text _
  constructor
  · intro found
    rw [found] at scanned
    obtain ⟨free, tail, shape, parts⟩ :=
      (splitOn_eq_append_iff (List.cons_ne_nil rest [])).mp scanned.symm
    have whole : tail = rest := by
      have glued := @glue_splitOn _ separator tail _
      rw [parts] at glued
      simpa using glued.symm
    have member : rest ∈ tail.splitOn separator := by
      rw [parts]
      exact List.mem_singleton.mpr rfl
    exact ⟨free, not_mem_of_mem_splitOn member, whole ▸ shape⟩
  · rintro ⟨free, apart, rfl⟩
    rw [splitOn_join free, List.splitOn_eq_singleton apart] at scanned
    obtain ⟨ended, begun⟩ := List.append_inj' scanned rfl
    exact Prod.ext ended (List.singleton_inj.mp begun)

/-- Separator-free words are determined by what they make up. -/
theorem join_injOn {others : List (List α)} (free : ∀ word ∈ words, separator ∉ word)
    (freeToo : ∀ word ∈ others, separator ∉ word)
    (same : join [separator] words = join [separator] others) : words = others := by
  have scanned := scan_join free
  rw [same, scan_join freeToo] at scanned
  exact (congrArg Prod.fst scanned).symm

omit [DecidableEq α] in
/-- A list is determined by the words its items are written as, one behind the other,
when no item is written as nothing and the first word tells which item it is. -/
theorem flatMap_injOn_of_heads {ι : Type} {code : ι → List (List α)} {domain : ι → Prop}
    (written : ∀ i, domain i → code i ≠ [])
    (heads : ∀ i j, domain i → domain j → (code i).head? = (code j).head? → i = j)
    {items others : List ι} (all : ∀ i ∈ items, domain i) (allToo : ∀ i ∈ others, domain i)
    (same : items.flatMap code = others.flatMap code) : items = others := by
  induction items generalizing others with
  | nil =>
    cases others with
    | nil => rfl
    | cons j others =>
      have none := (List.append_eq_nil_iff.mp (same.symm.trans List.flatMap_nil)).1
      exact absurd none (written j (allToo j (.head _)))
  | cons i items ih =>
    cases others with
    | nil =>
      have none := (List.append_eq_nil_iff.mp (same.trans List.flatMap_nil)).1
      exact absurd none (written i (all i (.head _)))
    | cons j others =>
      have one := heads i j (all i (.head _)) (allToo j (.head _)) (by
        have first := congrArg List.head? same
        rwa [List.flatMap_cons, List.flatMap_cons, List.head?_append_of_ne_nil _ (written i (all i (.head _))),
          List.head?_append_of_ne_nil _ (written j (allToo j (.head _)))] at first)
      subst one
      rw [ih (fun k member => all k (.tail _ member)) (fun k member => allToo k (.tail _ member))
        (List.append_cancel_left same)]

end ChatClient.Separated
