import Mathlib.Data.List.Basic
import SdkFeed.Text.Utf8

/-! UTF-8 read back: the bytes of a text stand for its characters. -/
namespace SdkFeed.Text

theorem toList_loop (bytes : ByteArray) (i : Nat) (front : List UInt8) :
    ByteArray.toList.loop bytes i front = front.reverse ++ bytes.data.toList.drop i := by
  fun_induction ByteArray.toList.loop bytes i front with
  | case1 i front hInside ih =>
      have hLength : i < bytes.data.toList.length := by simpa using hInside
      have hByte : bytes.get! i = bytes.data.toList[i] := by
        cases bytes with
        | mk data => exact getElem!_pos data i hInside
      rw [ih, List.drop_eq_getElem_cons hLength, hByte]
      simp
  | case2 i front hOutside =>
      rw [List.drop_eq_nil_of_le (by simpa using Nat.le_of_not_lt hOutside), List.append_nil]

theorem toUTF8_toList (s : String) :
    s.toUTF8.toList = s.toList.flatMap String.utf8EncodeChar := by
  have hData (bytes : ByteArray) : bytes.toList = bytes.data.toList := by
    rw [ByteArray.toList, toList_loop]
    rfl
  rw [hData]
  conv => lhs; rw [← String.ofList_toList (s := s)]
  exact List.toList_data_toByteArray

section Sequence

variable {a b c d : UInt8} (acc : List Char) (rest : List UInt8)

theorem decodeUtf8From_one (hLead : a.toNat < 0x80) :
    decodeUtf8From acc (a :: rest) = decodeUtf8From (Char.ofNat a.toNat :: acc) rest := by
  have hPlain : a < 0x80 := UInt8.lt_iff_toNat_lt.mpr hLead
  rw [decodeUtf8From.eq_def]
  simp only [hPlain, if_true]

theorem decodeUtf8From_two (hLead : 0xC2 ≤ a.toNat ∧ a.toNat ≤ 0xDF)
    (hTail : isContinuation b = true) :
    decodeUtf8From acc (a :: b :: rest) =
      decodeUtf8From (assemble (a.toNat - 0xC0) [b] :: acc) rest := by
  have hLong : ¬a < 0x80 := by
    simp [UInt8.lt_iff_toNat_lt]
    omega
  have hTwo : 0xC2 ≤ a ∧ a ≤ 0xDF := by
    simpa [UInt8.le_iff_toNat_le] using hLead
  rw [decodeUtf8From.eq_def]
  simp [hLong, hTwo, hTail]

theorem decodeUtf8From_three (hLead : 0xE0 ≤ a.toNat ∧ a.toNat ≤ 0xEF)
    (hFirst : isContinuation b = true) (hSecond : isContinuation c = true)
    (hLeast : a.toNat = 0xE0 → 0xA0 ≤ b.toNat) (hGap : a.toNat = 0xED → b.toNat ≤ 0x9F) :
    decodeUtf8From acc (a :: b :: c :: rest) =
      decodeUtf8From (assemble (a.toNat - 0xE0) [b, c] :: acc) rest := by
  have hLong : ¬a < 0x80 := by
    simp [UInt8.lt_iff_toNat_lt]
    omega
  have hMore : ¬a ≤ 0xDF := by
    simp [UInt8.le_iff_toNat_le]
    omega
  have hThree : 0xE0 ≤ a ∧ a ≤ 0xEF := by
    simpa [UInt8.le_iff_toNat_le] using hLead
  have hRange : (¬a = 0xE0 ∨ 0xA0 ≤ b) ∧ (¬a = 0xED ∨ b ≤ 0x9F) := by
    simp [← UInt8.toNat_inj, UInt8.le_iff_toNat_le]
    omega
  rw [decodeUtf8From.eq_def]
  simp [hLong, hMore, hThree, hFirst, hSecond, hRange]

theorem decodeUtf8From_four (hLead : 0xF0 ≤ a.toNat ∧ a.toNat ≤ 0xF4)
    (hFirst : isContinuation b = true) (hSecond : isContinuation c = true)
    (hThird : isContinuation d = true) (hLeast : a.toNat = 0xF0 → 0x90 ≤ b.toNat)
    (hMost : a.toNat = 0xF4 → b.toNat ≤ 0x8F) :
    decodeUtf8From acc (a :: b :: c :: d :: rest) =
      decodeUtf8From (assemble (a.toNat - 0xF0) [b, c, d] :: acc) rest := by
  have hLong : ¬a < 0x80 := by
    simp [UInt8.lt_iff_toNat_lt]
    omega
  have hMore : ¬a ≤ 0xDF ∧ ¬a ≤ 0xEF := by
    simp [UInt8.le_iff_toNat_le]
    omega
  have hFour : 0xF0 ≤ a ∧ a ≤ 0xF4 := by
    simpa [UInt8.le_iff_toNat_le] using hLead
  have hRange : (¬a = 0xF0 ∨ 0x90 ≤ b) ∧ (¬a = 0xF4 ∨ b ≤ 0x8F) := by
    simp [← UInt8.toNat_inj, UInt8.le_iff_toNat_le]
    omega
  rw [decodeUtf8From.eq_def]
  simp [hLong, hMore, hFour, hFirst, hSecond, hThird, hRange]

end Sequence

/-- A byte that holds six bits behind the first byte of a character. -/
theorem toNat_tail (n : Nat) : (UInt8.ofNat (n % 64 + 128)).toNat = n % 64 + 128 := by
  rw [UInt8.toNat_ofNat']
  omega

theorem isContinuation_tail (n : Nat) : isContinuation (UInt8.ofNat (n % 64 + 128)) = true := by
  rw [isContinuation, Bool.and_eq_true, decide_eq_true_eq, decide_eq_true_eq, UInt8.le_iff_toNat_le,
    UInt8.le_iff_toNat_le, toNat_tail]
  show 128 ≤ n % 64 + 128 ∧ n % 64 + 128 ≤ 191
  omega

/-- A character read from its own bytes. -/
theorem decodeUtf8From_encode (acc : List Char) (c : Char) (rest : List UInt8) :
    decodeUtf8From acc (String.utf8EncodeChar c ++ rest) = decodeUtf8From (c :: acc) rest := by
  have hCode : Char.ofNat c.val.toNat = c := Char.ofNat_toNat c
  have hValid : c.val.toNat < 0xD800 ∨ 0xDFFF < c.val.toNat ∧ c.val.toNat < 0x110000 := c.valid
  unfold String.utf8EncodeChar
  generalize c.val.toNat = v at hCode hValid
  subst hCode
  have hLast := toNat_tail v
  have hMiddle := toNat_tail (v / 64)
  have hFirst := toNat_tail (v / 4096)
  dsimp only
  -- A code is the sum of what its bytes hold, each continuation six bits of it.
  split
  · have hLead : (UInt8.ofNat v).toNat = v := by
      rw [UInt8.toNat_ofNat']
      omega
    rw [List.singleton_append, decodeUtf8From_one _ _ (by omega), hLead]
  split
  · have hLead : (UInt8.ofNat (v / 64 % 32 + 192)).toNat = v / 64 + 192 := by
      rw [UInt8.toNat_ofNat']
      omega
    have hSum : assemble ((UInt8.ofNat (v / 64 % 32 + 192)).toNat - 0xC0)
        [UInt8.ofNat (v % 64 + 128)] = Char.ofNat v := by
      simp only [assemble, List.foldl_cons, List.foldl_nil, hLead, hLast]
      exact congrArg Char.ofNat (by omega)
    rw [List.cons_append, List.singleton_append,
      decodeUtf8From_two _ _ (by omega) (isContinuation_tail v), hSum]
  split
  · have hLead : (UInt8.ofNat (v / 4096 % 16 + 224)).toNat = v / 4096 + 224 := by
      rw [UInt8.toNat_ofNat']
      omega
    have hSum : assemble ((UInt8.ofNat (v / 4096 % 16 + 224)).toNat - 0xE0)
        [UInt8.ofNat (v / 64 % 64 + 128), UInt8.ofNat (v % 64 + 128)] = Char.ofNat v := by
      simp only [assemble, List.foldl_cons, List.foldl_nil, hLead, hMiddle, hLast]
      exact congrArg Char.ofNat (by omega)
    rw [List.cons_append, List.cons_append, List.singleton_append,
      decodeUtf8From_three _ _ (by omega) (isContinuation_tail (v / 64)) (isContinuation_tail v)
        (by omega) (by omega), hSum]
  · have hLead : (UInt8.ofNat (v / 262144 % 8 + 240)).toNat = v / 262144 + 240 := by
      rw [UInt8.toNat_ofNat']
      omega
    have hSum : assemble ((UInt8.ofNat (v / 262144 % 8 + 240)).toNat - 0xF0)
        [UInt8.ofNat (v / 4096 % 64 + 128), UInt8.ofNat (v / 64 % 64 + 128),
          UInt8.ofNat (v % 64 + 128)] = Char.ofNat v := by
      simp only [assemble, List.foldl_cons, List.foldl_nil, hLead, hFirst, hMiddle, hLast]
      exact congrArg Char.ofNat (by omega)
    rw [List.cons_append, List.cons_append, List.cons_append, List.singleton_append,
      decodeUtf8From_four _ _ (by omega) (isContinuation_tail (v / 4096))
        (isContinuation_tail (v / 64)) (isContinuation_tail v) (by omega) (by omega), hSum]

theorem decodeUtf8_toUTF8 (s : String) : decodeUtf8? s.toUTF8.toList = some s.toList := by
  have hFrom (acc chars : List Char) :
      decodeUtf8From acc (chars.flatMap String.utf8EncodeChar) = some (acc.reverse ++ chars) := by
    induction chars generalizing acc with
    | nil => simp [decodeUtf8From]
    | cons c rest ih =>
        rw [List.flatMap_cons, decodeUtf8From_encode, ih]
        simp
  rw [decodeUtf8?, toUTF8_toList, hFrom]
  rfl

end SdkFeed.Text
