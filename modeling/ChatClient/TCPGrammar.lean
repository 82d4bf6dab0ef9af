import ChatClient.Library.Separated
import ChatClient.TCPMessageValidator

/-! The lines of the grammar, and the server's lines the validators accept.

A line is accepted word by word: the keywords in any letter case, a name of one
word, and as content all that follows the last keyword, whatever spaces it has.
The checks for MSG, ERR and REPLY accept exactly the lines of the grammar and
return their fields. -/

namespace ChatClient

open TCPMessageValidator

/-! ## The grammar -/

/-- `1*20 VCHAR`. -/
def IsDname (dname : Bytes) : Prop :=
  1 ≤ dname.length ∧ dname.length ≤ 20 ∧ ∀ c ∈ dname, 0x21 ≤ c ∧ c ≤ 0x7E

/-- `1*1400 (VCHAR / SP)`. -/
def IsContent (content : Bytes) : Prop :=
  1 ≤ content.length ∧ content.length ≤ 1400 ∧ ∀ c ∈ content, 0x20 ≤ c ∧ c ≤ 0x7E

/-- `KIND SP FROM SP DNAME SP IS SP CONTENT`, the keywords in any letter case. -/
def SpokenLine (kind : String) (dname content line : Bytes) : Prop :=
  ∃ word frm is, upper word = text kind ∧ upper frm = text "FROM" ∧ upper is = text "IS" ∧
    IsDname dname ∧ IsContent content ∧
    line = word ++ [space] ++ frm ++ [space] ++ dname ++ [space] ++ is ++ [space] ++ content

/-- `KIND SP FROM SP WORD SP IS SP REST`, the keywords in any letter case, whatever the
word and the rest are. -/
def SpokenWords (kind : String) (dname content line : Bytes) : Prop :=
  ∃ word frm is, upper word = text kind ∧ upper frm = text "FROM" ∧ upper is = text "IS" ∧
    space ∉ dname ∧
    line = word ++ [space] ++ frm ++ [space] ++ dname ++ [space] ++ is ++ [space] ++ content

/-- `REPLY SP (OK / NOK) SP IS SP CONTENT`, the keywords in any letter case. -/
def RepliedLine (content line : Bytes) : Prop :=
  ∃ word result is, upper word = text "REPLY" ∧
    (upper result = text "OK" ∨ upper result = text "NOK") ∧ upper is = text "IS" ∧
    IsContent content ∧ line = word ++ [space] ++ result ++ [space] ++ is ++ [space] ++ content

/-- The lines a server may send. -/
inductive WellFormed (line : Bytes) : Prop where
  | message {dname content : Bytes} (spoken : SpokenLine "MSG" dname content line)
  | error {dname content : Bytes} (spoken : SpokenLine "ERR" dname content line)
  | reply {content : Bytes} (replied : RepliedLine content line)
  | bye (bye : upper line = text "BYE")

variable {line word dname content : Bytes} {kind : String} {validator : TCPMessageValidator}

/-! ## Fields -/

theorem isprint_iff {c : UInt8} : isprint c = true ↔ 0x20 ≤ c ∧ c ≤ 0x7E := by
  simp [isprint]

private theorem isprint_toupper {c : UInt8} (visible : isprint c = true) : isprint
    (toupper c) = true := by
  unfold toupper
  split
  · rename_i letter
    simp only [isprint, Bool.and_eq_true, decide_eq_true_eq, UInt8.le_iff_toNat_le] at letter ⊢
    simp only [UInt8.toNat_sub, UInt8.toNat_ofNat] at letter ⊢
    omega
  · exact visible

private theorem isprint_of_toupper {c : UInt8} (visible : isprint (toupper c) = true) :
    isprint c = true := by
  unfold toupper at visible
  split at visible
  · rename_i letter
    simp only [Bool.and_eq_true, decide_eq_true_eq, UInt8.le_iff_toNat_le, UInt8.toNat_ofNat] at letter
    simp only [isprint_iff, UInt8.le_iff_toNat_le, UInt8.toNat_ofNat]
    omega
  · exact visible

/-- The check for a content is the grammar's. -/
theorem validateContent_iff : validateContent content = true ↔ IsContent content := by
  rw [validateContent, checkField_iff, IsContent, Nat.one_le_iff_ne_zero, ne_eq, ne_eq,
    List.length_eq_zero_iff]
  refine and_congr_right fun _ => and_congr_right fun _ => forall₂_congr fun c _ => ?_
  rw [Bool.or_eq_true, isprint_iff, decide_eq_true_eq]
  refine or_iff_left_of_imp ?_
  rintro rfl
  decide

/-- The check for a name is the grammar's but for spaces. -/
theorem validateDname_iff : validateDname dname = true ∧ space ∉ dname ↔ IsDname dname := by
  rw [validateDname, checkField_iff, IsDname, Nat.one_le_iff_ne_zero, ne_eq, ne_eq,
    List.length_eq_zero_iff]
  constructor
  · rintro ⟨⟨some, short, visible⟩, whole⟩
    refine ⟨some, short, fun c member => ?_⟩
    have printed := isprint_iff.mp (visible c member)
    have noSpace : c ≠ space := by
      rintro rfl
      exact whole member
    simp only [space, ne_eq, ← UInt8.toNat_inj, UInt8.le_iff_toNat_le, UInt8.toNat_ofNat] at printed noSpace ⊢
    omega
  · rintro ⟨some, short, visible⟩
    refine ⟨⟨some, short, fun c member => ?_⟩, fun member => ?_⟩
    · have printed := visible c member
      simp only [isprint_iff, UInt8.le_iff_toNat_le, UInt8.toNat_ofNat] at printed ⊢
      omega
    · exact absurd (visible space member).1 (by decide)

/-- A name of the grammar is not empty, and one word. -/
theorem IsDname.ne_nil_and_whole (name : IsDname dname) : dname ≠ [] ∧ space ∉ dname :=
  ⟨List.ne_nil_of_length_pos name.1, (validateDname_iff.mpr name).2⟩

/-- The check in capitals is the check. -/
theorem validateDname_upper_iff : validateDname
    (upper dname) = true ↔ validateDname dname = true := by
  have same : ∀ c, isprint (toupper c) = true ↔ isprint c = true :=
    fun c => ⟨isprint_of_toupper, isprint_toupper⟩
  simp only [validateDname, checkField_iff, upper, List.length_map, List.forall_mem_map, same, ne_eq,
    List.map_eq_nil_iff]

/-- A word that is a keyword in capitals holds no space. -/
theorem space_not_mem_of_upper {keyword : Bytes} (is : upper word = keyword)
    (free : space ∉ keyword) : space ∉ word := by
  intro member
  have capital : toupper space = space := by decide
  have within := List.mem_map_of_mem (f := toupper) member
  rw [capital] at within
  exact free (is ▸ within)

/-! ## Lines as words -/

theorem splitMessage_eq_splitOn : splitMessage line = line.splitOn space := Separated.scan_splitOn

/-- The words of a line, glued together again. -/
def glued (words : List Bytes) : Bytes := (words.flatMap fun part => part ++ [space]).dropLast

/-- Some words are the first of a line, others being left, exactly when they hold no
space, a single one follows each, and the others make up the rest. -/
theorem splitMessage_eq_append_iff {words rest : List Bytes} (some : rest ≠ []) :
    splitMessage line = words ++ rest ↔ (∀ word ∈ words, space ∉ word) ∧
      line = Framing.join [space] words ++ glued rest ∧ (glued rest).splitOn space = rest := by
  rw [splitMessage_eq_splitOn, Separated.splitOn_eq_append_iff some]
  refine and_congr_right fun _ => ?_
  constructor
  · rintro ⟨tail, rfl, rfl⟩
    have whole : glued (tail.splitOn space) = tail := Separated.glue_splitOn
    rw [whole]
    exact ⟨rfl, rfl⟩
  · rintro ⟨shape, parts⟩
    exact ⟨_, shape, parts⟩

/-- Words lead a content exactly when they are the first words of the line and the
rest, glued together, is the content. -/
theorem leads_content_iff {words : List Bytes} :
    (line = Framing.join [space] words ++ content ∧ ∀ word ∈ words, space ∉ word) ↔
      ∃ first others, splitMessage line = words ++ first :: others ∧
        glued (first :: others) = content := by
  constructor
  · rintro ⟨rfl, oneWord⟩
    obtain ⟨first, others, parts⟩ :=
      List.exists_cons_of_ne_nil (List.splitOn_ne_nil space content)
    have whole : glued (first :: others) = content := parts ▸ Separated.glue_splitOn
    refine ⟨first, others, ?_, whole⟩
    apply (splitMessage_eq_append_iff (List.cons_ne_nil first others)).mpr
    rw [whole]
    exact ⟨oneWord, rfl, parts⟩
  · rintro ⟨first, others, words, whole⟩
    obtain ⟨oneWord, line, -⟩ :=
      (splitMessage_eq_append_iff (List.cons_ne_nil first others)).mp words
    exact ⟨whole ▸ line, oneWord⟩

/-- A line without a space is one word. -/
theorem splitMessage_eq_singleton_iff : splitMessage line = [word] ↔ word = line ∧ space ∉ line := by
  constructor
  · intro one
    have parts := (@splitMessage_eq_append_iff line [] _ (List.cons_ne_nil word [])).mp one
    have same : word = line := by simpa [glued] using parts.2.1.symm
    refine ⟨same, ?_⟩
    rw [splitMessage_eq_splitOn] at one
    have member : word ∈ line.splitOn space := by
      rw [one]
      exact List.mem_singleton.mpr rfl
    exact same ▸ Separated.not_mem_of_mem_splitOn member
  · rintro ⟨rfl, whole⟩
    rw [splitMessage_eq_splitOn, List.splitOn_eq_singleton whole]

/-- The keywords of a line, one word between them and whatever follows, word by
word. -/
theorem spokenWords_iff (free : space ∉ text kind) : SpokenWords kind dname content line ↔
    ∃ word frm is first others, splitMessage line = word :: frm :: dname :: is :: first :: others ∧
      upper word = text kind ∧ upper frm = text "FROM" ∧ upper is = text "IS" ∧
      glued (first :: others) = content := by
  have shape (word frm is : Bytes) : word ++ [space] ++ frm ++ [space] ++ dname ++ [space] ++ is ++
      [space] ++ content = Framing.join [space] [word, frm, dname, is] ++ content := by
    simp
  constructor
  · rintro ⟨word, frm, is, isKind, isFrom, isIs, whole, line⟩
    have oneWord : ∀ part ∈ [word, frm, dname, is], space ∉ part := by
      simp only [List.forall_mem_cons]
      exact ⟨space_not_mem_of_upper isKind free, space_not_mem_of_upper isFrom (by decide), whole,
        space_not_mem_of_upper isIs (by decide), by simp⟩
    obtain ⟨first, others, words, glues⟩ :=
      leads_content_iff.mp ⟨line.trans (shape word frm is), oneWord⟩
    exact ⟨word, frm, is, first, others, words, isKind, isFrom, isIs, glues⟩
  · rintro ⟨word, frm, is, first, others, words, isKind, isFrom, isIs, glues⟩
    obtain ⟨line, oneWord⟩ :=
      (@leads_content_iff _ _ [word, frm, dname, is]).mpr ⟨first, others, words, glues⟩
    exact ⟨word, frm, is, isKind, isFrom, isIs, oneWord dname (by simp),
      line.trans (shape word frm is).symm⟩

/-- A line of the grammar, word by word. -/
theorem spokenLine_iff (free : space ∉ text kind) : SpokenLine kind dname content line ↔
    ∃ word frm is first others, splitMessage line = word :: frm :: dname :: is :: first :: others ∧
      upper word = text kind ∧ upper frm = text "FROM" ∧ upper is = text "IS" ∧
      validateDname dname = true ∧ glued (first :: others) = content ∧
      validateContent content = true := by
  constructor
  · rintro ⟨word, frm, is, isKind, isFrom, isIs, name, valid, line⟩
    obtain ⟨named, whole⟩ := validateDname_iff.mpr name
    obtain ⟨word, frm, is, first, others, words, isKind, isFrom, isIs, glues⟩ :=
      (spokenWords_iff free).mp ⟨word, frm, is, isKind, isFrom, isIs, whole, line⟩
    exact ⟨word, frm, is, first, others, words, isKind, isFrom, isIs, named, glues,
      validateContent_iff.mpr valid⟩
  · rintro ⟨word, frm, is, first, others, words, isKind, isFrom, isIs, named, glues, valid⟩
    obtain ⟨word, frm, is, isKind, isFrom, isIs, whole, line⟩ :=
      (spokenWords_iff free).mpr ⟨word, frm, is, first, others, words, isKind, isFrom, isIs, glues⟩
    exact ⟨word, frm, is, isKind, isFrom, isIs, validateDname_iff.mp ⟨named, whole⟩,
      validateContent_iff.mp valid, line⟩

/-- The check for a MSG accepts the MSGs of the grammar, and returns their fields. -/
theorem validateMessageServer_iff :
    validator.validateMessageServer line = ((content, dname), true) ↔
      SpokenLine "MSG" dname content line := by
  rw [spokenLine_iff (by decide)]
  constructor
  · intro accepted
    unfold validateMessageServer at accepted
    split at accepted
    · rename_i word frm name is first others words
      split at accepted
      · cases accepted
      rename_i keywords
      split at accepted
      · cases accepted
      rename_i named
      simp only [not_or, ne_eq, not_not] at keywords
      simp only [Prod.mk.injEq] at accepted
      obtain ⟨⟨whole, rfl⟩, valid⟩ := accepted
      refine ⟨word, frm, is, first, others, words, keywords.1, keywords.2.1, keywords.2.2, ?_, whole,
        whole ▸ valid⟩
      exact validateDname_upper_iff.mp (by simpa using named)
    · cases accepted
  · rintro ⟨word, frm, is, first, others, words, isKind, isFrom, isIs, named, rfl, valid⟩
    have valid' := valid
    simp only [glued] at valid' ⊢
    simp only [validateMessageServer, words, isKind, isFrom, isIs, validateDname_upper_iff.mpr named, valid',
      ne_eq, not_true_eq_false, or_self, Bool.not_true, Bool.false_eq_true, ↓reduceIte]

/-- The check for an ERR accepts the ERRs of the grammar, and returns their fields. -/
theorem validateErrorServer_iff :
    validateErrorServer line = ((content, dname), true) ↔ SpokenLine "ERR" dname content line := by
  rw [spokenLine_iff (by decide)]
  constructor
  · intro accepted
    unfold validateErrorServer at accepted
    split at accepted
    · rename_i word frm name is first others words
      split at accepted
      · cases accepted
      rename_i keywords
      split at accepted
      · cases accepted
      rename_i named
      simp only [not_or, ne_eq, not_not] at keywords
      simp only [Prod.mk.injEq] at accepted
      obtain ⟨⟨whole, rfl⟩, valid⟩ := accepted
      exact ⟨word, frm, is, first, others, words, keywords.1, keywords.2.1, keywords.2.2,
        by simpa using named, whole, whole ▸ valid⟩
    · cases accepted
  · rintro ⟨word, frm, is, first, others, words, isKind, isFrom, isIs, named, rfl, valid⟩
    simp only [glued] at valid ⊢
    simp only [validateErrorServer, words, isKind, isFrom, isIs, named, valid, ne_eq,
      not_true_eq_false, or_self, Bool.not_true, Bool.false_eq_true, ↓reduceIte]

/-- A REPLY of the grammar, word by word. -/
theorem repliedLine_iff : RepliedLine content line ↔
    ∃ word result is first others, splitMessage line = word :: result :: is :: first :: others ∧
      upper word = text "REPLY" ∧ (upper result = text "OK" ∨ upper result = text "NOK") ∧
      upper is = text "IS" ∧ glued (first :: others) = content ∧ validateContent content = true := by
  have shape (word result is : Bytes) : word ++ [space] ++ result ++ [space] ++ is ++ [space] ++
      content = Framing.join [space] [word, result, is] ++ content := by
    simp
  constructor
  · rintro ⟨word, result, is, isReply, isResult, isIs, valid, line⟩
    have whole : space ∉ result := by
      rcases isResult with ok | nok
      · exact space_not_mem_of_upper ok (by decide)
      · exact space_not_mem_of_upper nok (by decide)
    have oneWord : ∀ part ∈ [word, result, is], space ∉ part := by
      simp only [List.forall_mem_cons]
      exact ⟨space_not_mem_of_upper isReply (by decide), whole,
        space_not_mem_of_upper isIs (by decide), by simp⟩
    obtain ⟨first, others, words, glues⟩ :=
      leads_content_iff.mp ⟨line.trans (shape word result is), oneWord⟩
    exact ⟨word, result, is, first, others, words, isReply, isResult, isIs, glues,
      validateContent_iff.mpr valid⟩
  · rintro ⟨word, result, is, first, others, words, isReply, isResult, isIs, glues, valid⟩
    obtain ⟨line, -⟩ :=
      (@leads_content_iff _ _ [word, result, is]).mpr ⟨first, others, words, glues⟩
    exact ⟨word, result, is, isReply, isResult, isIs, validateContent_iff.mp valid,
      line.trans (shape word result is).symm⟩

/-- A REPLY that ends with its last keyword: no content, and no space before it. -/
def EmptyReply (line : Bytes) : Prop :=
  ∃ word result is, splitMessage line = [word, result, is] ∧ upper word = text "REPLY" ∧
    (upper result = text "OK" ∨ upper result = text "NOK") ∧ upper is = text "IS"

private theorem keywords_iff {result is : Bytes} :
    ¬ (upper word ≠ text "REPLY" ∨ (upper result ≠ text "OK" ∧ upper result ≠ text "NOK") ∨
      upper is ≠ text "IS") ↔ upper word = text "REPLY" ∧
      (upper result = text "OK" ∨ upper result = text "NOK") ∧ upper is = text "IS" := by
  simp only [not_or, ne_eq, not_not, not_and_or]

/-- The check for a REPLY accepts the REPLYs of the grammar, and returns their
content. -/
theorem validateReply_iff :
    validateReply line = some (content, true) ↔ RepliedLine content line := by
  rw [repliedLine_iff]
  constructor
  · intro accepted
    unfold validateReply at accepted
    split at accepted
    · rename_i word result is rest words
      split at accepted
      · cases accepted
      rename_i keywords
      obtain ⟨isReply, isResult, isIs⟩ := keywords_iff.mp keywords
      cases rest with
      | nil => cases accepted
      | cons first others =>
        simp only [glue, List.cons_ne_nil, ↓reduceIte, Option.bind_eq_bind, Option.bind_some,
          Option.some.injEq, Prod.mk.injEq] at accepted
        obtain ⟨whole, valid⟩ := accepted
        exact ⟨word, result, is, first, others, words, isReply, isResult, isIs, whole, whole ▸ valid⟩
    · cases accepted
  · rintro ⟨word, result, is, first, others, words, isReply, isResult, isIs, rfl, valid⟩
    simp only [glued] at valid ⊢
    simp only [validateReply, words, keywords_iff.mpr ⟨isReply, isResult, isIs⟩, glue,
      List.cons_ne_nil, valid, Option.bind_eq_bind, Option.bind_some, ↓reduceIte]

/-- `pop_back` is called on an empty string for the REPLYs that end with their last
keyword, and for no other line. -/
theorem validateReply_none_iff : validateReply line = none ↔ EmptyReply line := by
  constructor
  · intro undefined
    unfold validateReply at undefined
    split at undefined
    · rename_i word result is rest words
      split at undefined
      · cases undefined
      rename_i keywords
      cases rest with
      | nil => exact ⟨word, result, is, words, keywords_iff.mp keywords⟩
      | cons first others =>
        simp [glue] at undefined
    · cases undefined
  · rintro ⟨word, result, is, words, keywords⟩
    simp only [validateReply, words, keywords_iff.mpr keywords, glue, Option.bind_eq_bind,
      Option.bind_none, ↓reduceIte]

end ChatClient
