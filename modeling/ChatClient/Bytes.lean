import Mathlib.Data.List.Basic

/-! The bytes both front ends work on. `std::string` and `std::vector<uint8_t>`
are byte lists here, the `<cctype>` classes are those of the C locale (false
from 0x80 on), and a message ID travels as two bytes, high byte first. -/

namespace ChatClient

/-- A `std::string` or a `std::vector<uint8_t>`. -/
abbrev Bytes := List UInt8

/-- The bytes of a string literal of the source. -/
def text (literal : String) : Bytes := literal.toList.map fun c => UInt8.ofNat c.toNat

/-- The space the commands and lines are split on. -/
def space : UInt8 := 0x20

/-- `isprint`: a visible character or a space. -/
def isprint (c : UInt8) : Bool := 0x20 ≤ c && c ≤ 0x7E

/-- `isalnum`: a letter or a digit. -/
def isalnum (c : UInt8) : Bool :=
  (0x30 ≤ c && c ≤ 0x39) || (0x41 ≤ c && c ≤ 0x5A) || (0x61 ≤ c && c ≤ 0x7A)

/-- `toupper`: a lower-case letter goes to its capital, the rest stays. -/
def toupper (c : UInt8) : UInt8 := if 0x61 ≤ c && c ≤ 0x7A then c - 0x20 else c

/-- `std::transform(word.begin(), word.end(), word.begin(), ::toupper)`. -/
def upper (word : Bytes) : Bytes := word.map toupper

/-- The shape of every field check: between one and `limit` bytes, all of the
class. -/
def checkField (limit : Nat) (allowed : UInt8 → Bool) (field : Bytes) : Bool :=
  !(field.length < 1 || limit < field.length) && field.all allowed

/-- What a field check that passes says. -/
theorem checkField_iff {limit : Nat} {allowed : UInt8 → Bool} {field : Bytes} :
    checkField limit allowed field = true ↔
      field ≠ [] ∧ field.length ≤ limit ∧ ∀ c ∈ field, allowed c = true := by
  simp only [checkField, Bool.and_eq_true, Bool.not_eq_true', Bool.or_eq_false_iff,
    decide_eq_false_iff_not, List.all_eq_true, Nat.not_lt, Nat.one_le_iff_ne_zero, and_assoc]
  exact and_congr_left fun _ => not_congr List.length_eq_zero_iff

/-- A byte the class excludes is in no field that passes. -/
theorem not_mem_of_checkField {limit : Nat} {allowed : UInt8 → Bool} {field : Bytes} {c : UInt8}
    (passes : checkField limit allowed field = true) (excluded : allowed c = false) : c ∉ field := by
  intro member
  have included := (checkField_iff.mp passes).2.2 c member
  rw [excluded] at included
  cases included

/-- `split_message` of either validator: the words between single spaces, empty
ones included. -/
def splitMessage (message : Bytes) : List Bytes :=
  let (result, word) := message.foldl
    (fun (result, word) c => if c = space then (result ++ [word], []) else (result, word ++ [c]))
    (([] : List Bytes), ([] : Bytes))
  result ++ [word]

/-- `message.find(' ')`: the position of the first space, when there is one. -/
def findSpace (message : Bytes) : Option Nat := message.findIdx? (· = space)

/-- `message.substr(0, pos)` of a command line, in capitals. -/
def commandOf (message : Bytes) : Bytes :=
  upper (message.take ((findSpace message).getD message.length))

/-- `message.substr(pos + 1)` of a command line. Without a space `pos` is
`npos`, the sum wraps to 0, and the argument is the whole line. -/
def argumentOf (message : Bytes) : Bytes :=
  match findSpace message with
  | some pos => message.drop (pos + 1)
  | none => message

private theorem toupper_slash {c : UInt8} (slash : toupper c = 0x2F) : c = 0x2F := by
  unfold toupper at slash
  split at slash
  · rename_i letter
    simp only [Bool.and_eq_true, decide_eq_true_eq, UInt8.le_iff_toNat_le] at letter
    have same := congrArg UInt8.toNat slash
    simp only [UInt8.toNat_sub, UInt8.toNat_ofNat] at same letter
    omega
  · exact slash

/-- A line that does not begin with a slash names no command. -/
theorem commandOf_ne {line name : Bytes} (plain : line.head? ≠ some 0x2F)
    (slash : name.head? = some 0x2F) : commandOf line ≠ name := by
  rintro rfl
  rw [commandOf, upper, List.head?_map, List.head?_take] at slash
  split at slash
  · cases slash
  · obtain ⟨c, head, capital⟩ := Option.map_eq_some_iff.mp slash
    exact plain (toupper_slash capital ▸ head)

/-! ## Message IDs -/

/-- `static_cast<uint8_t>(messageID >> 8)`. -/
def highByte (messageID : UInt16) : UInt8 := (messageID >>> 8).toUInt8

/-- `static_cast<uint8_t>(messageID & 0xFF)`. -/
def lowByte (messageID : UInt16) : UInt8 := (messageID &&& 0xFF).toUInt8

/-- `(high << 8) | low`, narrowed to `uint16_t`. -/
def idOfBytes (high low : UInt8) : UInt16 := (high.toUInt16 <<< 8) ||| low.toUInt16

/-- The number two bytes stand for, the high one first. -/
theorem toNat_idOfBytes (high low : UInt8) :
    (idOfBytes high low).toNat = high.toNat * 256 + low.toNat := by
  have highBound := high.toNat_lt
  have lowBound := low.toNat_lt
  have shifted : (high.toNat <<< 8) % 65536 = high.toNat <<< 8 := by
    rw [Nat.shiftLeft_eq]
    exact Nat.mod_eq_of_lt (by omega)
  simp only [idOfBytes, UInt16.toNat_or, UInt16.toNat_shiftLeft, UInt8.toNat_toUInt16,
    UInt16.reduceToNat, Nat.reducePow, Nat.reduceMod, shifted]
  rw [← Nat.shiftLeft_add_eq_or_of_lt lowBound, Nat.shiftLeft_eq]

private theorem toNat_highByte (messageID : UInt16) :
    (highByte messageID).toNat = messageID.toNat / 256 := by
  have bound := messageID.toNat_lt
  simp only [highByte, UInt16.toNat_toUInt8, UInt16.toNat_shiftRight, UInt16.reduceToNat,
    Nat.reduceMod, Nat.shiftRight_eq_div_pow]
  omega

private theorem toNat_lowByte (messageID : UInt16) :
    (lowByte messageID).toNat = messageID.toNat % 256 := by
  have low : messageID.toNat &&& 255 = messageID.toNat % 256 :=
    Nat.and_two_pow_sub_one_eq_mod messageID.toNat 8
  simp only [lowByte, UInt16.toNat_toUInt8, UInt16.toNat_and, UInt16.reduceToNat, low]
  omega

/-- Reading back the two bytes of an ID gives the ID. -/
@[simp] theorem idOfBytes_bytes (messageID : UInt16) :
    idOfBytes (highByte messageID) (lowByte messageID) = messageID := by
  apply UInt16.toNat_inj.mp
  rw [toNat_idOfBytes, toNat_highByte, toNat_lowByte]
  omega

/-- `(message[at] << 8) | message[at + 1]`; nothing when either byte lies past
the end of the vector, where the subscript is undefined. -/
def readId (message : Bytes) (position : Nat) : Option UInt16 := do
  let high ← message[position]?
  let low ← message[position + 1]?
  some (idOfBytes high low)

/-- The first three bytes of every datagram: its type and its message ID. -/
def header (type : UInt8) (messageID : UInt16) : Bytes :=
  [type, highByte messageID, lowByte messageID]

/-- The message ID in a datagram's header. -/
def messageId (message : Bytes) : Option UInt16 := readId message 1

@[simp] theorem messageId_header (type : UInt8) (id : UInt16) (body : Bytes) :
    messageId (header type id ++ body) = some id := by
  simp [messageId, readId, header]

/-- An ID can be read as soon as both of its bytes are there. -/
theorem readId_of_length {message : Bytes} {position : Nat} (whole : position + 1 < message.length) :
    ∃ id, readId message position = some id := by
  have first : position < message.length := by omega
  exact ⟨idOfBytes message[position] message[position + 1], by simp [readId, first, whole]⟩

/-- A datagram has a message ID as soon as it holds a whole header. -/
theorem messageId_of_length {message : Bytes} (whole : 3 ≤ message.length) :
    ∃ id, messageId message = some id :=
  readId_of_length whole

/-- A datagram with a message ID holds a whole header. -/
theorem length_of_messageId {message : Bytes} {id : UInt16} (read : messageId message = some id) :
    3 ≤ message.length := by
  simp only [messageId, readId, Option.bind_eq_bind, Option.bind_eq_some_iff] at read
  obtain ⟨_, _, _, low, -⟩ := read
  have := (List.getElem?_eq_some_iff.mp low).1
  omega

end ChatClient
