import BlockAuthoring.Text.Newline
import BlockAuthoring.Text.Utf8
import Mathlib.Tactic.SplitIfs

/-!
# Texts and their bytes

A text is read back from its bytes, and a text without carriage returns keeps its line ends.
-/

namespace BlockAuthoring.Text

namespace Utf8

/-! ## One character -/

theorem decodeFrom_cons {position count share point : Nat} {b : UInt8} {bytes rest : List UInt8}
    (hfirst : following? b.toNat = some (count, share))
    (hrest : continued (secondRange b.toNat).1 (secondRange b.toNat).2 1 count share bytes
      = .ok (point, rest)) :
    decodeFrom position (b :: bytes)
      = (decodeFrom (position + 1 + count) rest).map (Char.ofNat point :: ·) := by
  rw [decodeFrom, hfirst]
  simp only
  split
  · rename_i herror
    rw [hrest] at herror
    cases herror
  · rename_i hok
    rw [hrest] at hok
    cases hok
    rfl

/-- A byte in range adds its six bits, and the bytes behind it are plain continuations. -/
theorem continued_cons {least greatest taken count point n : Nat} {bytes : List UInt8}
    (hn : n < 64) (h : least ≤ n + 128 ∧ n + 128 ≤ greatest) :
    continued least greatest taken (count + 1) point (UInt8.ofNat (n + 128) :: bytes)
      = continued 0x80 0xBF (taken + 1) count (point * 64 + n) bytes := by
  have hbyte : (UInt8.ofNat (n + 128)).toNat = n + 128 := by
    rw [UInt8.toNat_ofNat']
    omega
  rw [continued, hbyte, if_pos (by simpa using h), Nat.add_sub_cancel]

theorem continued_tail {taken count point n : Nat} {bytes : List UInt8} (hn : n < 64) :
    continued 0x80 0xBF taken (count + 1) point (UInt8.ofNat (n + 128) :: bytes)
      = continued 0x80 0xBF (taken + 1) count (point * 64 + n) bytes :=
  continued_cons hn (by omega)

/-- The second of several bytes is in the range that keeps out longer forms, surrogates and what
lies beyond the last plane. -/
theorem secondRange_of_two (v : Nat) :
    (secondRange (v / 64 % 32 + 192)).1 ≤ v % 64 + 128
      ∧ v % 64 + 128 ≤ (secondRange (v / 64 % 32 + 192)).2 := by
  unfold secondRange
  split_ifs <;> dsimp only <;> omega

theorem secondRange_of_three {v : Nat} (h : 0x7FF < v) (h' : v ≤ 0xFFFF)
    (hscalar : v < 0xD800 ∨ 0xDFFF < v) :
    (secondRange (v / 4096 % 16 + 224)).1 ≤ v / 64 % 64 + 128
      ∧ v / 64 % 64 + 128 ≤ (secondRange (v / 4096 % 16 + 224)).2 := by
  unfold secondRange
  split_ifs <;> dsimp only <;> omega

theorem secondRange_of_four {v : Nat} (h : 0xFFFF < v) (h' : v < 0x110000) :
    (secondRange (v / 262144 % 8 + 240)).1 ≤ v / 4096 % 64 + 128
      ∧ v / 4096 % 64 + 128 ≤ (secondRange (v / 262144 % 8 + 240)).2 := by
  unfold secondRange
  split_ifs <;> dsimp only <;> omega

/-- The scalar values: all code points but the surrogates. -/
theorem toNat_scalar (c : Char) : c.toNat < 0xD800 ∨ 0xDFFF < c.toNat ∧ c.toNat < 0x110000 :=
  c.valid

theorem toNat_ofNat {n : Nat} (h : n < 256) : (UInt8.ofNat n).toNat = n := by
  rw [UInt8.toNat_ofNat', Nat.mod_eq_of_lt h]

theorem following?_two {n : Nat} (h : 0xC2 ≤ n) (h' : n < 0xE0) :
    following? n = some (1, n - 0xC0) := by
  simp only [following?, if_neg (show ¬ n < 0x80 by omega), if_neg (show ¬ n < 0xC2 by omega),
    if_pos h']

theorem following?_three {n : Nat} (h : 0xE0 ≤ n) (h' : n < 0xF0) :
    following? n = some (2, n - 0xE0) := by
  simp only [following?, if_neg (show ¬ n < 0x80 by omega), if_neg (show ¬ n < 0xC2 by omega),
    if_neg (show ¬ n < 0xE0 by omega), if_pos h']

theorem following?_four {n : Nat} (h : 0xF0 ≤ n) (h' : n < 0xF5) :
    following? n = some (3, n - 0xF0) := by
  simp only [following?, if_neg (show ¬ n < 0x80 by omega), if_neg (show ¬ n < 0xC2 by omega),
    if_neg (show ¬ n < 0xE0 by omega), if_neg (show ¬ n < 0xF0 by omega), if_pos h']

/-- The bytes of a character: the first one announces the others, and all together write its code
point. -/
theorem encodeChar_continued (c : Char) (rest : List UInt8) :
    ∃ b bytes count share, String.utf8EncodeChar c ++ rest = b :: bytes
      ∧ following? b.toNat = some (count, share)
      ∧ continued (secondRange b.toNat).1 (secondRange b.toNat).2 1 count share bytes
        = .ok (c.toNat, rest) := by
  have hscalar := toNat_scalar c
  have hv : c.val.toNat = c.toNat := rfl
  unfold String.utf8EncodeChar
  simp only [hv]
  generalize c.toNat = v at hscalar
  split_ifs with hone htwo hthree <;> simp only [List.cons_append, List.nil_append]
  · have hb := toNat_ofNat (n := v) (by omega)
    refine ⟨_, _, 0, v, rfl, ?_, rfl⟩
    rw [hb, following?, if_pos (by omega)]
  · have hb := toNat_ofNat (n := v / 64 % 32 + 192) (by omega)
    refine ⟨_, _, _, _, rfl, (congrArg _ hb).trans (following?_two (by omega) (by omega)), ?_⟩
    rw [hb, continued_cons (by omega) (secondRange_of_two v), continued]
    congr 2
    omega
  · have hb := toNat_ofNat (n := v / 4096 % 16 + 224) (by omega)
    refine ⟨_, _, _, _, rfl, (congrArg _ hb).trans (following?_three (by omega) (by omega)), ?_⟩
    rw [hb, continued_cons (by omega) (secondRange_of_three (by omega) (by omega) (by omega)),
      continued_tail (by omega), continued]
    congr 2
    omega
  · have hb := toNat_ofNat (n := v / 262144 % 8 + 240) (by omega)
    refine ⟨_, _, _, _, rfl, (congrArg _ hb).trans (following?_four (by omega) (by omega)), ?_⟩
    rw [hb, continued_cons (by omega) (secondRange_of_four (by omega) (by omega)),
      continued_tail (by omega), continued_tail (by omega), continued]
    congr 2
    omega

/-! ## Texts -/

theorem encode_cons (c : Char) (text : List Char) :
    encode (c :: text) = String.utf8EncodeChar c ++ encode text := rfl

theorem decodeFrom_encode (position : Nat) (text : List Char) :
    decodeFrom position (encode text) = .ok text := by
  induction text generalizing position with
  | nil => rw [encode, List.flatMap_nil, decodeFrom]
  | cons c text ih =>
    obtain ⟨b, bytes, count, share, hbytes, hfirst, hrest⟩ := encodeChar_continued c (encode text)
    rw [encode_cons, hbytes, decodeFrom_cons hfirst hrest, ih, Char.ofNat_toNat]
    rfl

/-- A text is read back from its bytes. -/
theorem decode_encode (text : List Char) : decode (encode text) = .ok text :=
  decodeFrom_encode 0 text

/-- Bytes write no text if the first of them starts no character. -/
theorem decode_of_invalidStart {b : UInt8} {bytes : List UInt8} (h : following? b.toNat = none) :
    decode (b :: bytes) = .error ⟨0, 1, b, .invalidStart⟩ := by
  rw [decode, decodeFrom, h]

end Utf8

/-! ## Line ends -/

theorem normalizeNewlines_eq_self {text : List Char} (h : '\r' ∉ text) :
    normalizeNewlines text = text := by
  fun_induction normalizeNewlines text with
  | case1 => rfl
  | case2 => simp at h
  | case3 => simp at h
  | case4 c rest _ _ ih => rw [ih fun hr => h (List.mem_cons_of_mem c hr)]

end BlockAuthoring.Text
