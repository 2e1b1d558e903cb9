import DrivewayWatch.Text.Utf8
import Mathlib.Data.List.TakeWhile
import Mathlib.Tactic.Common

/-!
# Text written and read as bytes

Strict decoding undoes encoding: the bytes of a text spell this text.  So does
the decoding that leaves gaps where bytes spell nothing.  A character is taken
apart into digits to the base 64, and either decoder is followed through each
number of them.
-/

namespace DrivewayWatch.Text.Utf8

theorem toNat_ofNat_of_lt {n : Nat} (isByte : n < 256) :
    (UInt8.ofNat n).toNat = n :=
  UInt8.toNat_ofNat_of_lt' isByte

theorem continuation?_of_lt {low : Nat} (isLow : low < 64) :
    continuation? (UInt8.ofNat (low + 128)) = some low := by
  have value := toNat_ofNat_of_lt (show low + 128 < 256 by omega)
  rw [continuation?, value, if_pos (by simp; omega), Nat.add_sub_cancel]

theorem scalar?_toNat {least : Nat} {c : Char} (isLong : least ≤ c.toNat) :
    scalar? least c.toNat = some c := by
  have isValid : c.toNat.isValidChar := c.valid
  rw [scalar?, if_pos ⟨isLong, isValid⟩, Char.ofNat_toNat]

/-- A character is spelled by the digits of its code to the base 64, one in each
byte.  The first byte tells how many there are. -/
inductive IsSpelledBy (c : Char) : Bytes → Prop
  | one (isAscii : c.toNat < 0x80) : IsSpelledBy c [UInt8.ofNat c.toNat]
  | two {first second : Nat} (firstBound : first < 32)
      (secondBound : second < 64) (isLong : 0x80 ≤ c.toNat)
      (digits : c.toNat = first * 64 + second) :
      IsSpelledBy c [UInt8.ofNat (first + 192), UInt8.ofNat (second + 128)]
  | three {first second third : Nat} (firstBound : first < 16)
      (secondBound : second < 64) (thirdBound : third < 64)
      (isLong : 0x800 ≤ c.toNat)
      (digits : c.toNat = (first * 64 + second) * 64 + third) :
      IsSpelledBy c [UInt8.ofNat (first + 224), UInt8.ofNat (second + 128),
        UInt8.ofNat (third + 128)]
  | four {first second third fourth : Nat} (firstBound : first < 8)
      (secondBound : second < 64) (thirdBound : third < 64)
      (fourthBound : fourth < 64) (isLong : 0x10000 ≤ c.toNat)
      (digits : c.toNat =
        ((first * 64 + second) * 64 + third) * 64 + fourth) :
      IsSpelledBy c [UInt8.ofNat (first + 240), UInt8.ofNat (second + 128),
        UInt8.ofNat (third + 128), UInt8.ofNat (fourth + 128)]

theorem code_lt (c : Char) :
    c.toNat < 0xD800 ∨ 0xDFFF < c.toNat ∧ c.toNat < 0x110000 :=
  c.valid

theorem isSpelledBy_utf8EncodeChar (c : Char) :
    IsSpelledBy c (String.utf8EncodeChar c) := by
  have bound := code_lt c
  have value : c.val.toNat = c.toNat := rfl
  simp only [String.utf8EncodeChar, value]
  split
  · exact .one (by omega)
  · split
    · rw [Nat.mod_eq_of_lt (show c.toNat / 64 < 32 by omega)]
      exact .two (by omega) (by omega) (by omega) (by omega)
    · split
      · rw [Nat.mod_eq_of_lt (show c.toNat / 4096 < 16 by omega)]
        exact .three (by omega) (by omega) (by omega) (by omega) (by omega)
      · rw [Nat.mod_eq_of_lt (show c.toNat / 262144 < 8 by omega)]
        exact .four (by omega) (by omega) (by omega) (by omega) (by omega)
          (by omega)

theorem decode_append_of_isSpelledBy {c : Char} {bytes : Bytes}
    (spelled : IsSpelledBy c bytes) (rest : Bytes) :
    decode (bytes ++ rest) = (decode rest).map (c :: ·) := by
  cases spelled with
  | one isAscii =>
      have value := toNat_ofNat_of_lt (show c.toNat < 256 by omega)
      rw [List.singleton_append]
      conv_lhs => unfold decode
      simp only [value, if_pos isAscii, Char.ofNat_toNat]
  | @two first second firstBound secondBound isLong digits =>
      have value := toNat_ofNat_of_lt (show first + 192 < 256 by omega)
      rw [List.cons_append, List.singleton_append, decode]
      simp only [value, continuation?_of_lt secondBound, Nat.add_sub_cancel,
        Option.bind_eq_bind, Option.bind_some, ← digits, scalar?_toNat isLong]
      rw [if_neg (by omega), if_neg (by omega), if_pos (by omega),
        Option.map_eq_bind]
      rfl
  | @three first second third firstBound secondBound thirdBound isLong
      digits =>
      have value := toNat_ofNat_of_lt (show first + 224 < 256 by omega)
      rw [List.cons_append, List.cons_append, List.singleton_append, decode]
      simp only [value, continuation?_of_lt secondBound,
        continuation?_of_lt thirdBound, Nat.add_sub_cancel,
        Option.bind_eq_bind, Option.bind_some, ← digits, scalar?_toNat isLong]
      rw [if_neg (by omega), if_neg (by omega), if_neg (by omega),
        if_pos (by omega), Option.map_eq_bind]
      rfl
  | @four first second third fourth firstBound secondBound thirdBound
      fourthBound isLong digits =>
      have value := toNat_ofNat_of_lt (show first + 240 < 256 by omega)
      rw [List.cons_append, List.cons_append, List.cons_append,
        List.singleton_append, decode]
      simp only [value, continuation?_of_lt secondBound,
        continuation?_of_lt thirdBound, continuation?_of_lt fourthBound,
        Nat.add_sub_cancel, Option.bind_eq_bind, Option.bind_some, ← digits,
        scalar?_toNat isLong]
      rw [if_neg (by omega), if_neg (by omega), if_neg (by omega),
        if_neg (by omega), if_pos (by omega), Option.map_eq_bind]
      rfl

/-- Decoding undoes encoding. -/
@[simp]
theorem decode_encode (text : List Char) : decode (encode text) = some text := by
  induction text with
  | nil => rfl
  | cons c text ih =>
      have split : encode (c :: text) =
          String.utf8EncodeChar c ++ encode text :=
        List.flatMap_cons
      rw [split, decode_append_of_isSpelledBy (isSpelledBy_utf8EncodeChar c),
        ih, Option.map_some]

/-- A first byte takes the bytes that continue its character, and no more. -/
theorem units_several {c : Char} (rest : Bytes) (lead : Lead)
    {first second : UInt8} (others : Bytes) (notAscii : ¬ first.toNat < 0x80)
    (isLead : lead? first.toNat = some lead)
    (length : lead.following = others.length + 1)
    (within : lead.low ≤ second.toNat ∧ second.toNat ≤ lead.high)
    (continues : ∀ byte ∈ others, 0x80 ≤ byte.toNat ∧ byte.toNat ≤ 0xBF)
    (digits : (second :: others).foldl
      (fun code byte => code * 0x40 + (byte.toNat - 0x80)) lead.value =
        c.toNat) :
    units (first :: second :: (others ++ rest)) = some c :: units rest := by
  have isTaken : continued lead (second :: (others ++ rest)) =
      (second :: others).map UInt8.toNat := by
    simp only [continued, if_pos within, length, Nat.add_sub_cancel,
      List.take_left, List.map_cons]
    congr 1
    exact List.takeWhile_eq_self_iff.mpr (by simpa using continues)
  have isUnit : unit first.toNat (second :: (others ++ rest)) =
      (some c, others.length + 1) := by
    simp only [unit, if_neg notAscii, isLead, isTaken, List.length_map,
      List.length_cons, length, if_true, List.foldl_map, digits,
      Char.ofNat_toNat]
  rw [units]
  simp only [isUnit, List.drop_succ_cons, List.drop_left]

theorem units_append_of_isSpelledBy {c : Char} {bytes : Bytes}
    (spelled : IsSpelledBy c bytes) (rest : Bytes) :
    units (bytes ++ rest) = some c :: units rest := by
  cases spelled with
  | one isAscii =>
      have value := toNat_ofNat_of_lt (show c.toNat < 256 by omega)
      rw [List.singleton_append, units]
      simp only [unit, value, if_pos isAscii, Char.ofNat_toNat, List.drop_zero]
  | @two first second firstBound secondBound isLong digits =>
      have firstValue := toNat_ofNat_of_lt (show first + 192 < 256 by omega)
      have secondValue := toNat_ofNat_of_lt (show second + 128 < 256 by omega)
      have isLead : lead? (first + 192) = some ⟨1, first, 0x80, 0xBF⟩ := by
        rw [lead?, if_pos (by omega), Nat.add_sub_cancel]
      refine units_several rest ⟨1, first, 0x80, 0xBF⟩ [] (by omega)
        (by rw [firstValue, isLead]) rfl (by simp only [secondValue]; omega)
        (by simp) ?_
      simp only [List.foldl_cons, List.foldl_nil, secondValue, digits,
        Nat.add_sub_cancel]
  | @three first second third firstBound secondBound thirdBound isLong
      digits =>
      -- Surrogates are kept out by the range of the second byte.
      have noSurrogate := code_lt c
      have firstValue := toNat_ofNat_of_lt (show first + 224 < 256 by omega)
      have secondValue := toNat_ofNat_of_lt (show second + 128 < 256 by omega)
      have thirdValue := toNat_ofNat_of_lt (show third + 128 < 256 by omega)
      obtain ⟨low, high, isLead, within⟩ : ∃ low high,
          lead? (first + 224) = some ⟨2, first, low, high⟩ ∧
            low ≤ second + 128 ∧ second + 128 ≤ high := by
        rw [lead?, if_neg (by omega), if_pos (by omega), Nat.add_sub_cancel]
        exact ⟨_, _, rfl, by split <;> omega, by split <;> omega⟩
      refine units_several rest ⟨2, first, low, high⟩
        [UInt8.ofNat (third + 128)] (by omega) (by rw [firstValue, isLead]) rfl
        (by rw [secondValue]; exact within)
        (by simp only [List.forall_mem_singleton, thirdValue]; omega) ?_
      simp only [List.foldl_cons, List.foldl_nil, secondValue, thirdValue,
        digits, Nat.add_sub_cancel]
  | @four first second third fourth firstBound secondBound thirdBound
      fourthBound isLong digits =>
      have bound := code_lt c
      have firstValue := toNat_ofNat_of_lt (show first + 240 < 256 by omega)
      have secondValue := toNat_ofNat_of_lt (show second + 128 < 256 by omega)
      have thirdValue := toNat_ofNat_of_lt (show third + 128 < 256 by omega)
      have fourthValue := toNat_ofNat_of_lt (show fourth + 128 < 256 by omega)
      obtain ⟨low, high, isLead, within⟩ : ∃ low high,
          lead? (first + 240) = some ⟨3, first, low, high⟩ ∧
            low ≤ second + 128 ∧ second + 128 ≤ high := by
        rw [lead?, if_neg (by omega), if_neg (by omega), if_pos (by omega),
          Nat.add_sub_cancel]
        exact ⟨_, _, rfl, by split <;> omega, by split <;> omega⟩
      refine units_several rest ⟨3, first, low, high⟩
        [UInt8.ofNat (third + 128), UInt8.ofNat (fourth + 128)] (by omega)
        (by rw [firstValue, isLead]) rfl (by rw [secondValue]; exact within)
        (by
          simp only [List.forall_mem_cons, thirdValue, fourthValue]
          simp
          omega) ?_
      simp only [List.foldl_cons, List.foldl_nil, secondValue, thirdValue,
        fourthValue, digits, Nat.add_sub_cancel]

/-- A lenient reader takes a text for what it is. -/
@[simp]
theorem units_encode (text : List Char) :
    units (encode text) = text.map some := by
  induction text with
  | nil => simp [encode, units]
  | cons c text ih =>
      have split : encode (c :: text) =
          String.utf8EncodeChar c ++ encode text :=
        List.flatMap_cons
      rw [split, units_append_of_isSpelledBy (isSpelledBy_utf8EncodeChar c), ih,
        List.map_cons]

theorem decode_bytesOf (text : String) :
    decode (bytesOf text) = some text.toList :=
  decode_encode text.toList

/-- Every character takes a byte at least. -/
theorem length_le_length_encode (text : List Char) :
    text.length ≤ (encode text).length := by
  induction text with
  | nil => simp
  | cons c text ih =>
      have one : 0 < (String.utf8EncodeChar c).length := by
        rw [String.length_utf8EncodeChar]
        exact c.utf8Size_pos
      rw [encode] at ih ⊢
      rw [List.flatMap_cons, List.length_append, List.length_cons]
      omega

end DrivewayWatch.Text.Utf8
