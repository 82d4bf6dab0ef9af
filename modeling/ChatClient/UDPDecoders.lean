import ChatClient.TCPGrammar
import ChatClient.UDPWire

/-! The bodies `parse_and_validate` accepts.

A body is to be a list of NUL-terminated fields. The loop drops what follows the
last NUL, and the check for a name lets spaces pass, so the bodies that have either
are accepted beyond the grammar, and no others. -/

namespace ChatClient

open UDPMessageValidator

variable {body dname content : Bytes} {result : List Bytes} {type : String}

/-! ## The grammar -/

/-- `DNAME NUL CONTENT NUL`. -/
def NamedBody (dname content body : Bytes) : Prop :=
  IsDname dname ∧ IsContent content ∧ body = dname ++ [0] ++ content ++ [0]

/-- `CONTENT NUL`. -/
def ContentBody (content body : Bytes) : Prop :=
  IsContent content ∧ body = content ++ [0]

/-- The bodies of the type that pass are those of the grammar, and their name and
content are returned. -/
def DecodesNamed (type : String) (body : Bytes) : Prop :=
  ∀ result, parseAndValidate body type = (result, true) ↔
    ∃ dname content, result = [dname, content] ∧ NamedBody dname content body

/-- The bodies of a REPLY that pass are those of the grammar, and their content is
returned. -/
def DecodesContent (body : Bytes) : Prop :=
  ∀ result, parseAndValidate body "reply" = (result, true) ↔
    ∃ content, result = [content] ∧ ContentBody content body

/-- Twenty visible characters or spaces at most, and one at least. -/
def PrintedName (dname : Bytes) : Prop :=
  1 ≤ dname.length ∧ dname.length ≤ 20 ∧ ∀ c ∈ dname, 0x20 ≤ c ∧ c ≤ 0x7E

/-- A name and a content, where the name has a space or bytes without a NUL follow. -/
def LooseNamed (body : Bytes) : Prop :=
  ∃ dname content rest, PrintedName dname ∧ IsContent content ∧ 0 ∉ rest ∧
    body = dname ++ [0] ++ content ++ [0] ++ rest ∧ (space ∈ dname ∨ rest ≠ [])

/-- A content, where bytes without a NUL follow. -/
def LooseContent (body : Bytes) : Prop :=
  ∃ content rest, IsContent content ∧ 0 ∉ rest ∧ body = content ++ [0] ++ rest ∧ rest ≠ []

/-! ## What passes -/

/-- The check for a name is `isprint` on each byte. -/
theorem printedName_iff : validateDname dname = true ↔ PrintedName dname := by
  rw [validateDname, checkField_iff, PrintedName, Nat.one_le_iff_ne_zero, ne_eq, ne_eq,
    List.length_eq_zero_iff]
  simp only [isprint_iff]

/-- A name of the grammar is a printed one without a space. -/
theorem isDname_iff_printedName : IsDname dname ↔ PrintedName dname ∧ space ∉ dname := by
  rw [← printedName_iff]
  exact validateDname_iff.symm

private theorem words_eq_iff {fields : List Bytes} : words body = fields ↔
    (∀ field ∈ fields, 0 ∉ field) ∧ ∃ rest, 0 ∉ rest ∧ body = Framing.join [0] fields ++ rest := by
  rw [words_eq_scan]
  constructor
  · rintro rfl
    obtain ⟨free, apart, shape⟩ := Separated.scan_eq_iff.mp (rfl : Separated.scan 0 body = _)
    exact ⟨free, _, apart, shape⟩
  · rintro ⟨free, rest, apart, shape⟩
    rw [Separated.scan_eq_iff.mpr ⟨free, apart, shape⟩]

/-- A MSG passes as a name and a content, whatever follows the last NUL. -/
theorem parseAndValidate_msg_iff : parseAndValidate body "msg" = (result, true) ↔
    ∃ dname content rest, result = [dname, content] ∧ PrintedName dname ∧ IsContent content ∧
      0 ∉ rest ∧ body = dname ++ [0] ++ content ++ [0] ++ rest := by
  have shape (dname content rest : Bytes) : dname ++ [0] ++ content ++ [0] ++ rest =
      Framing.join [0] [dname, content] ++ rest := by
    simp
  constructor
  · intro passed
    simp only [parseAndValidate, String.reduceEq, ↓reduceIte] at passed
    split at passed
    · rename_i dname content found
      split at passed
      · cases passed
      · rename_i valid
        cases passed
        simp only [Bool.or_eq_true, Bool.not_eq_true', not_or, Bool.not_eq_false] at valid
        obtain ⟨-, rest, apart, whole⟩ := words_eq_iff.mp found
        exact ⟨dname, content, rest, found, printedName_iff.mp valid.1,
          validateContent_iff.mp valid.2, apart, whole.trans (shape dname content rest).symm⟩
    · cases passed
  · rintro ⟨dname, content, rest, rfl, printed, valid, apart, rfl⟩
    have named := printedName_iff.mpr printed
    have filled : validateContent content = true := validateContent_iff.mpr valid
    have free : ∀ field ∈ [dname, content], 0 ∉ field := by
      simp [nul_not_mem_dname named, nul_not_mem_content filled]
    have found := words_eq_iff.mpr ⟨free, rest, apart, shape dname content rest⟩
    simp only [parseAndValidate, found, named, filled, String.reduceEq, ↓reduceIte, Bool.not_true,
      Bool.false_eq_true, Bool.or_false]

/-- An ERR is checked as a MSG is. -/
theorem parseAndValidate_err : parseAndValidate body "err" = parseAndValidate body "msg" := by
  simp [parseAndValidate]

/-- A REPLY passes as a content, whatever follows the last NUL. -/
theorem parseAndValidate_reply_iff : parseAndValidate body "reply" = (result, true) ↔
    ∃ content rest, result = [content] ∧ IsContent content ∧ 0 ∉ rest ∧
      body = content ++ [0] ++ rest := by
  have shape (content rest : Bytes) : content ++ [0] ++ rest =
      Framing.join [0] [content] ++ rest := by
    simp
  constructor
  · intro passed
    simp only [parseAndValidate, ↓reduceIte] at passed
    split at passed
    · rename_i content found
      split at passed
      · cases passed
      · rename_i valid
        cases passed
        have filled : validateContent content = true := by simpa using valid
        obtain ⟨-, rest, apart, whole⟩ := words_eq_iff.mp found
        exact ⟨content, rest, found, validateContent_iff.mp filled, apart,
          whole.trans (shape content rest).symm⟩
    · cases passed
  · rintro ⟨content, rest, rfl, valid, apart, rfl⟩
    have filled : validateContent content = true := validateContent_iff.mpr valid
    have free : ∀ field ∈ [content], 0 ∉ field := by
      simp [nul_not_mem_content filled]
    have found := words_eq_iff.mpr ⟨free, rest, apart, shape content rest⟩
    simp only [parseAndValidate, found, filled, ↓reduceIte, Bool.not_true, Bool.false_eq_true]

/-! ## What the grammar leaves out -/

private theorem decodesNamed_msg_iff : DecodesNamed "msg" body ↔ ¬ LooseNamed body := by
  constructor
  · rintro decoded ⟨dname, content, rest, printed, valid, apart, shape, loose⟩
    have passed := parseAndValidate_msg_iff.mpr ⟨dname, content, rest, rfl, printed, valid, apart, shape⟩
    obtain ⟨_, _, fields, name, -, whole⟩ := (decoded _).mp passed
    obtain ⟨rfl, rfl⟩ : dname = _ ∧ content = _ := by simpa using fields
    rcases loose with spaced | more
    · exact (isDname_iff_printedName.mp name).2 spaced
    · rw [shape] at whole
      exact more (by simpa using whole)
  · intro strict result
    rw [parseAndValidate_msg_iff]
    constructor
    · rintro ⟨dname, content, rest, fields, printed, valid, apart, shape⟩
      have ended : rest = [] := by
        by_contra more
        exact strict ⟨dname, content, rest, printed, valid, apart, shape, .inr more⟩
      have whole : space ∉ dname := by
        intro spaced
        exact strict ⟨dname, content, rest, printed, valid, apart, shape, .inl spaced⟩
      refine ⟨dname, content, fields, isDname_iff_printedName.mpr ⟨printed, whole⟩, valid, ?_⟩
      rw [shape, ended, List.append_nil]
    · rintro ⟨dname, content, fields, name, valid, shape⟩
      refine ⟨dname, content, [], fields, (isDname_iff_printedName.mp name).1, valid, by simp, ?_⟩
      rw [shape, List.append_nil]

private theorem decodesContent_iff : DecodesContent body ↔ ¬ LooseContent body := by
  constructor
  · rintro decoded ⟨content, rest, valid, apart, shape, more⟩
    have passed := parseAndValidate_reply_iff.mpr ⟨content, rest, rfl, valid, apart, shape⟩
    obtain ⟨_, fields, -, whole⟩ := (decoded _).mp passed
    obtain rfl : content = _ := by simpa using fields
    rw [shape] at whole
    exact more (by simpa using whole)
  · intro strict result
    rw [parseAndValidate_reply_iff]
    constructor
    · rintro ⟨content, rest, fields, valid, apart, shape⟩
      have ended : rest = [] := by
        by_contra more
        exact strict ⟨content, rest, valid, apart, shape, more⟩
      refine ⟨content, fields, valid, ?_⟩
      rw [shape, ended, List.append_nil]
    · rintro ⟨content, fields, valid, shape⟩
      refine ⟨content, [], fields, valid, by simp, ?_⟩
      rw [shape, List.append_nil]

/-- The bodies of each type are decoded exactly but for the loose ones. -/
theorem bodies_decoded_iff (body : Bytes) :
    (DecodesNamed "msg" body ↔ ¬ LooseNamed body) ∧ (DecodesNamed "err" body ↔ ¬ LooseNamed body) ∧
      (DecodesContent body ↔ ¬ LooseContent body) := by
  have same : DecodesNamed "err" body ↔ DecodesNamed "msg" body := by
    simp only [DecodesNamed, parseAndValidate_err]
  exact ⟨decodesNamed_msg_iff, same.trans decodesNamed_msg_iff, decodesContent_iff⟩

/-- A name of two words passes, and so do bytes behind the last NUL. -/
theorem loose_bodies_not_decoded :
    ¬ DecodesNamed "msg" (text "a b" ++ [0] ++ text "hi" ++ [0]) ∧
      ¬ DecodesNamed "err" (text "a" ++ [0] ++ text "hi" ++ [0] ++ text "x") ∧
      ¬ DecodesContent (text "hi" ++ [0] ++ text "x") := by
  refine ⟨?_, ?_, ?_⟩
  · intro decoded
    have passed : parseAndValidate (text "a b" ++ [0] ++ text "hi" ++ [0]) "msg" =
        ([text "a b", text "hi"], true) := by decide
    obtain ⟨_, _, fields, name, -⟩ := (decoded _).mp passed
    obtain ⟨rfl, -⟩ : text "a b" = _ ∧ text "hi" = _ := by simpa using fields
    exact name.ne_nil_and_whole.2 (by decide)
  · intro decoded
    have passed : parseAndValidate (text "a" ++ [0] ++ text "hi" ++ [0] ++ text "x") "err" =
        ([text "a", text "hi"], true) := by decide
    obtain ⟨_, _, fields, -, -, whole⟩ := (decoded _).mp passed
    obtain ⟨rfl, rfl⟩ : text "a" = _ ∧ text "hi" = _ := by simpa using fields
    exact absurd whole (by decide)
  · intro decoded
    have passed : parseAndValidate (text "hi" ++ [0] ++ text "x") "reply" = ([text "hi"], true) := by
      decide
    obtain ⟨_, fields, -, whole⟩ := (decoded _).mp passed
    obtain rfl : text "hi" = _ := by simpa using fields
    exact absurd whole (by decide)

end ChatClient
