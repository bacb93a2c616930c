import Mathlib.Data.List.Basic

/-! # TextEncoder and TextDecoder

Text is encoded in UTF-8. The decoder never fails: what is no character becomes a
replacement character, and a byte order mark at the start is taken off.
-/

namespace Utf8

open List

def replacement : Char := '\uFFFD'
def byteOrderMark : Char := '\uFEFF'

def encodeChars (chars : List Char) : List UInt8 := chars.flatMap String.utf8EncodeChar

def encode (text : String) : List UInt8 := encodeChars text.toList

def isContinuation (byte : UInt8) : Bool := 0x80 ≤ byte ∧ byte ≤ 0xBF

/-- The second byte of a character of three bytes or four. -/
def continues (first second : UInt8) : Bool :=
  if first = 0xE0 then 0xA0 ≤ second ∧ second ≤ 0xBF
  else if first = 0xED then 0x80 ≤ second ∧ second ≤ 0x9F
  else if first = 0xF0 then 0x90 ≤ second ∧ second ≤ 0xBF
  else if first = 0xF4 then 0x80 ≤ second ∧ second ≤ 0x8F
  else 0xE0 < first ∧ first < 0xF4 ∧ isContinuation second

/-- The bytes that one replacement character stands for: the beginning of a character that could not go
    on, or a single byte. -/
def malformedLength : List UInt8 → Nat
  | first :: second :: rest =>
    if continues first second then
      match rest with
      | third :: _ => if 0xF0 ≤ first ∧ isContinuation third then 3 else 2
      | [] => 2
    else 1
  | _ => 1

def front (bytes : List UInt8) : Option Char := bytes.toByteArray.utf8DecodeChar? 0

theorem malformedLength_pos : 0 < malformedLength bytes := by
  unfold malformedLength
  split
  · split
    · split
      · split <;> omega
      · omega
    · omega
  · omega

def decodeChars : List UInt8 → List Char
  | [] => []
  | first :: rest =>
    match front (first :: rest) with
    | some char => char :: decodeChars ((first :: rest).drop char.utf8Size)
    | none => replacement :: decodeChars ((first :: rest).drop (malformedLength (first :: rest)))
termination_by bytes => bytes.length
decreasing_by
  · have some := char.utf8Size_pos
    simp only [length_drop, length_cons]
    omega
  · have some := @malformedLength_pos (first :: rest)
    simp only [length_drop, length_cons]
    omega

def byteOrderMarkBytes : List UInt8 := [0xEF, 0xBB, 0xBF]

/-- `TextDecoder.decode`, with the options it has by default. -/
def decode (bytes : List UInt8) : String :=
  if byteOrderMarkBytes.isPrefixOf bytes then .ofList (decodeChars (bytes.drop 3))
  else .ofList (decodeChars bytes)

variable {char : Char} {chars : List Char} {bytes rest : List UInt8} {text : String}

theorem decodeChars_front (found : front bytes = some char) :
    decodeChars bytes = char :: decodeChars (bytes.drop char.utf8Size) := by
  cases bytes with
  | nil => cases (show front [] = none from rfl).symm.trans found
  | cons =>
    rw [decodeChars]
    split
    next same => rw [found] at same; cases same; rfl
    next same => rw [found] at same; cases same

theorem front_encodeChar : front (String.utf8EncodeChar char ++ rest) = some char := by
  unfold front
  rw [toByteArray_append]
  exact ByteArray.utf8DecodeChar?_utf8EncodeChar_append

theorem decodeChars_encodeChars : decodeChars (encodeChars chars ++ rest) = chars ++ decodeChars rest := by
  induction chars with
  | nil => rfl
  | cons char chars ih =>
    rw [encodeChars, flatMap_cons, append_assoc, decodeChars_front front_encodeChar,
      drop_left' (String.length_utf8EncodeChar _)]
    exact congrArg (char :: ·) ih

theorem decodeChars_encode : decodeChars (encode text) = text.toList := by
  have read := @decodeChars_encodeChars text.toList []
  rw [append_nil] at read
  rw [encode, read, decodeChars, append_nil]

theorem encode_inj : encode text = encode other ↔ text = other := by
  constructor
  · intro same
    have chars := @decodeChars_encode text
    rw [same, decodeChars_encode] at chars
    exact (String.toList_inj.mp chars).symm
  · rintro rfl
    rfl

theorem length_decodeChars : (decodeChars bytes).length ≤ bytes.length := by
  induction bytes using decodeChars.induct with
  | case1 => simp [decodeChars]
  | case2 first rest char found ih =>
    have some := char.utf8Size_pos
    rw [decodeChars_front found]
    simp only [length_drop, length_cons] at ih ⊢
    omega
  | case3 first rest lost ih =>
    have some := @malformedLength_pos (first :: rest)
    rw [decodeChars, lost]
    simp only [length_drop, length_cons] at ih ⊢
    omega

def IsMarked (text : String) : Prop := text.toList.head? = some byteOrderMark

instance : Decidable (IsMarked text) := inferInstanceAs (Decidable (_ = _))

theorem encodeChar_byteOrderMark : String.utf8EncodeChar byteOrderMark = byteOrderMarkBytes := by decide

theorem decodeChars_marked (rest : List UInt8) :
    decodeChars (byteOrderMarkBytes ++ rest) = byteOrderMark :: decodeChars rest := by
  rw [← encodeChar_byteOrderMark, decodeChars_front front_encodeChar,
    drop_left' (String.length_utf8EncodeChar _)]

theorem isMarked_iff : IsMarked text ↔ byteOrderMarkBytes.isPrefixOf (encode text) := by
  rw [ isPrefixOf_iff_prefix]
  constructor
  · intro marked
    obtain ⟨chars, same⟩ := head?_eq_some_iff.mp marked
    rw [encode, encodeChars, same, flatMap_cons, encodeChar_byteOrderMark]
    exact prefix_append _ _
  · rintro ⟨rest, same⟩
    have read := @decodeChars_encode text
    rw [← same, decodeChars_marked] at read
    rw [IsMarked, ← read]
    rfl

theorem decode_encode (unmarked : ¬ IsMarked text) : decode (encode text) = text := by
  rw [isMarked_iff] at unmarked
  rw [decode, if_neg unmarked, decodeChars_encode, String.ofList_toList]

theorem length_decode : (decode bytes).toList.length ≤ (decodeChars bytes).length := by
  unfold decode
  split
  next marked =>
    obtain ⟨rest, same⟩ := isPrefixOf_iff_prefix.mp marked
    rw [String.toList_ofList, ← same, decodeChars_marked]
    exact Nat.le_succ _
  · simp

theorem decode_encode_marked (marked : IsMarked text) : decode (encode text) ≠ text := by
  intro same
  obtain ⟨rest, here⟩ := isPrefixOf_iff_prefix.mp (isMarked_iff.mp marked)
  have read := @decodeChars_encode text
  rw [← here, decodeChars_marked] at read
  have dropped : (byteOrderMarkBytes ++ rest).drop 3 = rest := rfl
  rw [decode, if_pos (isMarked_iff.mp marked), ← here, dropped] at same
  have lengths := congrArg (fun text : String => text.toList.length) same
  simp only [String.toList_ofList, ← read, length_cons] at lengths
  omega

theorem length_encodeChars_le : (encodeChars chars).length ≤ 4 * chars.length := by
  induction chars with
  | nil => simp [encodeChars]
  | cons char chars ih =>
    have most := char.utf8Size_le_four
    have head := String.length_utf8EncodeChar char
    simp only [encodeChars, flatMap_cons, length_append, length_cons] at ih ⊢
    omega

theorem take_encodeChars (chars : List Char) (k : Nat) :
    ∃ whole others j, chars = whole ++ others ∧ j ≤ 3 ∧ (encodeChars whole).length ≤ k ∧
      (encodeChars chars).take k = encodeChars whole ++ (encodeChars others).take j := by
  induction chars generalizing k with
  | nil => exact ⟨[], [], 0, rfl, by omega, Nat.zero_le k, by simp [encodeChars]⟩
  | cons char chars ih =>
    have head := String.length_utf8EncodeChar char
    have most := char.utf8Size_le_four
    by_cases short : k < char.utf8Size
    · exact ⟨[], char :: chars, k, rfl, by omega, Nat.zero_le k, rfl⟩
    · obtain ⟨whole, others, j, rfl, few, inside, same⟩ := ih (k - char.utf8Size)
      refine ⟨char :: whole, others, j, rfl, few, ?_, ?_⟩
      · simp only [encodeChars, flatMap_cons, length_append] at inside ⊢
        omega
      · rw [encodeChars, flatMap_cons, take_append, head, take_of_length_le (by omega)]
        change String.utf8EncodeChar char ++ (encodeChars (whole ++ others)).take _ = _
        rw [same, ← append_assoc]
        rfl

theorem length_of_decode_take (read : decode ((encode text).take k) = text) :
    (encode text).length ≤ k + 12 := by
  obtain ⟨whole, others, j, same, few, inside, cut⟩ := take_encodeChars text.toList k
  have long := @length_decode ((encode text).take k)
  rw [read, encode, cut, decodeChars_encodeChars, same] at long
  have last := @length_decodeChars ((encodeChars others).take j)
  rw [length_take] at last
  have others_ := @length_encodeChars_le others
  rw [encode, same]
  simp only [encodeChars, flatMap_append, length_append] at *
  omega

end Utf8
