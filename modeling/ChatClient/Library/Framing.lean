import Mathlib.Data.List.Infix
import Mathlib.Data.List.Induction

/-! Frames of a stream, ended by a delimiter.

`find` is the search for the first occurrence of the delimiter, as a receiver
with a buffer performs it. `feed` reads the same frames one element at a time
from the frame begun so far, so that cutting the stream makes no difference to
it (`feed_append`). `feed_of_find` and `feed_of_find_none` say that searching the
buffer and cutting off what was found gives the frames of `feed`, and `cut_eq_feed`
that a receiver's loop does. Frames the delimiter can only end are read back
(`feed_join`). -/

namespace ChatClient.Framing

variable {α : Type} {delimiter frame rest more stream begun : List α} {position : Nat}

section Frames
variable [DecidableEq α]

/-- The position of the first occurrence of the delimiter. -/
def find (delimiter stream : List α) : Option Nat :=
  (List.range (stream.length + 1)).find? fun position => delimiter.isPrefixOf (stream.drop position)

/-- The frames that end in the input, and the frame begun after them, when
`begun` was begun before. -/
def feed (delimiter : List α) : List α → List α → List (List α) × List α
  | begun, [] => ([], begun)
  | begun, c :: input =>
    let grown := begun ++ [c]
    if delimiter <:+ grown then
      let (frames, last) := feed delimiter [] input
      (grown.take (grown.length - delimiter.length) :: frames, last)
    else feed delimiter grown input

end Frames

/-- Frames with their delimiters, one after the other. -/
def join (delimiter : List α) (frames : List (List α)) : List α :=
  frames.flatMap fun frame => frame ++ delimiter

@[simp] theorem join_nil : join delimiter [] = [] := rfl

@[simp] theorem join_cons {frames : List (List α)} :
    join delimiter (frame :: frames) = frame ++ delimiter ++ join delimiter frames := by
  simp [join]

@[simp] theorem join_append {first second : List (List α)} :
    join delimiter (first ++ second) = join delimiter first ++ join delimiter second := by
  simp [join]

/-- A frame in which, followed by the delimiter, nothing earlier ends like one. -/
def Clean (delimiter frame : List α) : Prop :=
  ∀ initial, initial <+: frame ++ delimiter → initial ≠ frame ++ delimiter → ¬ delimiter <:+ initial

/-- A frame without the last element of the delimiter is clean when the delimiter
has that element only once. -/
theorem clean_of_not_mem {opening : List α} {last : α} (shape : delimiter = opening ++ [last])
    (once : last ∉ opening) (free : last ∉ frame) : Clean delimiter frame := by
  rintro initial ⟨rest, whole⟩ proper ends
  have member : last ∈ initial := ends.subset (shape ▸ List.mem_append_right _ (.head _))
  rcases List.eq_nil_or_concat rest with rfl | ⟨begun, final, rfl⟩
  · exact proper (by simpa using whole)
  · rw [shape, ← List.append_assoc, List.concat_eq_append, ← List.append_assoc] at whole
    have before := (List.append_inj' whole rfl).1
    have inside : last ∈ frame ++ opening := before ▸ List.mem_append_left _ member
    exact (List.mem_append.mp inside).elim free once

variable [DecidableEq α]

/-- Cutting the input makes no difference. -/
theorem feed_append : feed delimiter begun (stream ++ more) =
    ((feed delimiter begun stream).1 ++ (feed delimiter (feed delimiter begun stream).2 more).1,
      (feed delimiter (feed delimiter begun stream).2 more).2) := by
  induction stream generalizing begun with
  | nil => simp [feed]
  | cons c stream ih =>
    simp only [List.cons_append, feed]
    split
    · simp [ih]
    · exact ih

/-- Without a delimiter in it the input only prolongs the frame begun. -/
theorem feed_open (unended : ¬ delimiter <:+: begun ++ stream) :
    feed delimiter begun stream = ([], begun ++ stream) := by
  induction stream generalizing begun with
  | nil => simp [feed]
  | cons c stream ih =>
    have split : begun ++ c :: stream = (begun ++ [c]) ++ stream := by simp
    rw [split] at unended ⊢
    have goes : ¬ delimiter <:+ begun ++ [c] := fun ends =>
      unended (ends.isInfix.trans (List.prefix_append _ _).isInfix)
    rw [feed, if_neg goes, ih unended]

/-- The input up to the first delimiter is a frame. -/
theorem feed_frame (ends : begun ++ stream = frame ++ delimiter)
    (first : ∀ initial, initial <+: frame ++ delimiter → initial ≠ frame ++ delimiter →
      ¬ delimiter <:+ initial) (some : stream ≠ []) :
    feed delimiter begun (stream ++ more) =
      (frame :: (feed delimiter [] more).1, (feed delimiter [] more).2) := by
  induction stream generalizing begun with
  | nil => exact absurd rfl some
  | cons c stream ih =>
    have split : begun ++ c :: stream = (begun ++ [c]) ++ stream := by simp
    rw [split] at ends
    rw [List.cons_append, feed]
    cases stream with
    | nil =>
      rw [List.append_nil] at ends
      rw [if_pos (ends ▸ List.suffix_append _ _), ends]
      simp
    | cons d stream =>
      have goes : ¬ delimiter <:+ begun ++ [c] := by
        refine first _ ⟨d :: stream, ends⟩ fun same => ?_
        rw [same] at ends
        simp at ends
      rw [if_neg goes]
      exact ih ends (by simp)

/-- What is found is the delimiter, and nothing earlier is. -/
theorem find_eq_some (found : find delimiter stream = some position) :
    delimiter <+: stream.drop position ∧
      ∀ earlier < position, ¬ delimiter <+: stream.drop earlier := by
  obtain ⟨here, -, first⟩ := List.find?_range_eq_some.mp found
  exact ⟨List.isPrefixOf_iff_prefix.mp here, fun earlier before there => by
    simpa [List.isPrefixOf_iff_prefix.mpr there] using first earlier before⟩

/-- Where nothing is found, no delimiter is. -/
theorem find_eq_none (absent : find delimiter stream = none) : ¬ delimiter <:+: stream := by
  rintro ⟨before, after, rfl⟩
  have searched := List.find?_range_eq_none.mp absent before.length
    (by simp only [List.length_append]; omega)
  rw [List.append_assoc, List.drop_left] at searched
  simp [List.isPrefixOf_iff_prefix.mpr (List.prefix_append delimiter after)] at searched

/-- The stream around what was found. -/
theorem split_of_find (found : find delimiter stream = some position) :
    stream = stream.take position ++ delimiter ++ stream.drop (position + delimiter.length) := by
  obtain ⟨rest, shape⟩ := (find_eq_some found).1
  have behind : stream.drop (position + delimiter.length) = rest := by
    rw [← List.drop_drop, ← shape, List.drop_left]
  rw [behind, List.append_assoc, shape, List.take_append_drop]

/-- The part before what was found holds no delimiter. -/
theorem not_infix_of_find (nonempty : delimiter ≠ [])
    (found : find delimiter stream = some position) :
    ¬ delimiter <:+: stream.take position := by
  rintro ⟨before, after, shape⟩
  have sizes := congrArg List.length shape
  have positive := List.length_pos_of_ne_nil nonempty
  simp only [List.length_append, List.length_take] at sizes
  refine (find_eq_some found).2 before.length (by omega) ?_
  rw [← List.take_append_drop position stream, ← shape, List.append_assoc, List.append_assoc,
    List.drop_left]
  exact List.prefix_append _ _

/-- What the search finds is the next frame. -/
theorem feed_of_find (nonempty : delimiter ≠ []) (found : find delimiter stream = some position) :
    feed delimiter [] stream =
      (stream.take position :: (feed delimiter [] (stream.drop (position + delimiter.length))).1,
        (feed delimiter [] (stream.drop (position + delimiter.length))).2) := by
  conv_lhs => rw [split_of_find found]
  refine feed_frame rfl ?_ (by simp [nonempty])
  rintro initial ⟨missing, shape⟩ shorter ⟨before, ends⟩
  subst ends
  have later : missing ≠ [] := fun none => by
    subst none
    exact shorter (by simpa using shape)
  have sizes := congrArg List.length shape
  have positive := List.length_pos_of_ne_nil later
  have inside : position ≤ stream.length := by
    by_contra outside
    have nothing := (find_eq_some found).1
    rw [List.drop_eq_nil_of_le (by omega)] at nothing
    exact nonempty (List.prefix_nil.mp nothing)
  simp only [List.length_append, List.length_take, Nat.min_eq_left inside] at sizes
  refine (find_eq_some found).2 before.length (by omega) ?_
  rw [split_of_find found, ← shape]
  simp [List.append_assoc]

/-- When nothing is found, the stream is the frame begun. -/
theorem feed_of_find_none (absent : find delimiter stream = none) :
    feed delimiter [] stream = ([], stream) := by
  have unended : ¬ delimiter <:+: [] ++ stream := by simpa using find_eq_none absent
  simpa using feed_open unended

/-- Cutting off what was found shortens the stream. -/
theorem length_drop_of_find (nonempty : delimiter ≠ [])
    (found : find delimiter stream = some position) :
    (stream.drop (position + delimiter.length)).length < stream.length := by
  have sizes := congrArg List.length (split_of_find found)
  have positive := List.length_pos_of_ne_nil nonempty
  simp only [List.length_append] at sizes
  omega

/-! ## The loop of a receiver -/

/-- A receiver works off its buffer: it searches, takes what it finds off with its
delimiter, and goes on with the rest. -/
def cut (delimiter : List α) : Nat → List α → List (List α) × List α
  | 0, buffer => ([], buffer)
  | fuel + 1, buffer =>
    match find delimiter buffer with
    | none => ([], buffer)
    | some position =>
      let (frames, rest) := cut delimiter fuel (buffer.drop (position + delimiter.length))
      (buffer.take position :: frames, rest)

/-- As each search shortens the buffer, its length is fuel enough. -/
theorem cut_eq_feed {fuel : Nat} (nonempty : delimiter ≠ []) (enough : stream.length ≤ fuel) :
    cut delimiter fuel stream = feed delimiter [] stream := by
  induction fuel generalizing stream with
  | zero =>
    obtain rfl := List.length_eq_zero_iff.mp (Nat.le_zero.mp enough)
    rfl
  | succ fuel ih =>
    rw [cut]
    cases found : find delimiter stream with
    | none => exact (feed_of_find_none found).symm
    | some position =>
      have shorter := length_drop_of_find nonempty found
      simp only [ih (by omega : (stream.drop (position + delimiter.length)).length ≤ fuel),
        feed_of_find nonempty found]

/-- Clean frames with their delimiters are read back, with nothing left over. -/
theorem feed_join {frames : List (List α)} (nonempty : delimiter ≠ [])
    (clean : ∀ frame ∈ frames, Clean delimiter frame) :
    feed delimiter [] (join delimiter frames) = (frames, []) := by
  induction frames with
  | nil => rfl
  | cons frame frames ih =>
    rw [join_cons, feed_frame (List.nil_append _) (clean frame (.head _)) (by simp [nonempty]),
      ih fun frame member => clean frame (.tail _ member)]

end ChatClient.Framing
