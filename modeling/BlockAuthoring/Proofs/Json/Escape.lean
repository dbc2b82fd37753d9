import BlockAuthoring.Json.Printer
import BlockAuthoring.Json.Reader
import BlockAuthoring.Proofs.Text.Utf8
import Mathlib.Tactic.SplitIfs

/-!
# Strings between quotes

A string is written in printable ASCII and read back as it was, whatever its characters are: those
with an escape of their own, those of the basic plane as one code unit, and those beyond it as the
two units of a pair.
-/

namespace BlockAuthoring.Json

/-! ## Code units -/

theorem hexValue?_hexDigit {n : Nat} (h : n < 16) : hexValue? (hexDigit n) = some n := by
  have hall : ∀ m < 16, hexValue? (hexDigit m) = some m := by decide
  exact hall n h

theorem codeUnit?_hexDigits {n : Nat} (h : n < 0x10000) (rest : List Char) :
    codeUnit? (hexDigit (n / 4096 % 16) :: hexDigit (n / 256 % 16) :: hexDigit (n / 16 % 16)
      :: hexDigit (n % 16) :: rest) = some n := by
  simp only [codeUnit?, hexValue?_hexDigit (Nat.mod_lt _ (by decide : 0 < 16)), Option.bind_eq_bind,
    Option.bind_some, Option.pure_def]
  congr 1
  omega

/-- A code unit that opens no pair is read as it was written, unless the text ends with it. -/
theorem unicodeEscape_unit {n : Nat} (h : n < 0x10000) (hhigh : isHigh n = false)
    {rest : List Char} (hrest : rest ≠ []) :
    unicodeEscape ((unitEscape n).tail ++ rest) = .ok (n, rest) := by
  have hbehind : rest.isEmpty = false := by simpa using hrest
  simp only [unicodeEscape, unitEscape, List.tail_cons, List.cons_append, List.nil_append,
    List.drop_succ_cons, List.drop_zero, hbehind, codeUnit?_hexDigits h, hhigh, Bool.false_and,
    Bool.false_eq_true, if_false]
  split <;> rfl

/-- The two units of a pair are read as the one character they stand for. -/
theorem unicodeEscape_pair {n : Nat} (h : n < 0x100000) {rest : List Char} (hrest : rest ≠ []) :
    unicodeEscape ((unitEscape (0xD800 + n / 0x400)).tail
        ++ (unitEscape (0xDC00 + n % 0x400) ++ rest))
      = .ok (0x10000 + n, rest) := by
  have hhigh : isHigh (0xD800 + n / 0x400) = true := by
    simp only [isHigh, Bool.and_eq_true, decide_eq_true_eq]
    omega
  have hlow : isLow (0xDC00 + n % 0x400) = true := by
    simp only [isLow, Bool.and_eq_true, decide_eq_true_eq]
    omega
  have hlength : 0 < rest.length := List.length_pos_iff.mpr hrest
  have hpair : 0x10000 + (0xD800 + n / 0x400 - 0xD800) * 0x400 + (0xDC00 + n % 0x400 - 0xDC00)
      = 0x10000 + n := by omega
  simp only [unicodeEscape, unitEscape, List.tail_cons, List.cons_append, List.nil_append,
    List.drop_succ_cons, List.drop_zero, List.isEmpty_cons, Bool.false_eq_true, if_false,
    codeUnit?_hexDigits (show 0xD800 + n / 0x400 < 0x10000 by omega),
    codeUnit?_hexDigits (show 0xDC00 + n % 0x400 < 0x10000 by omega), hhigh, hlow, hpair,
    List.length_cons, Bool.true_and, decide_eq_true_eq]
  rw [if_pos (by omega)]
  rfl

/-! ## Characters -/

/-- The visible characters of ASCII and the blank. -/
def IsPrintable (c : Char) : Prop := 0x20 ≤ c.toNat ∧ c.toNat < 0x7F

instance : DecidablePred IsPrintable := fun c => by
  unfold IsPrintable
  infer_instance

/-- The four ways in which a character is written. -/
inductive Escaped (c : Char) : List Char → Prop where
  | letter (e : Char) (printable : IsPrintable e) (unit : e ≠ 'u')
      (means : simpleEscape? e = some c) : Escaped c ['\\', e]
  | plain (printable : IsPrintable c) (quote : c ≠ '"') (slash : c ≠ '\\') : Escaped c [c]
  | unit (plane : c.toNat < 0x10000) : Escaped c (unitEscape c.toNat)
  | pair (n : Nat) (offset : c.toNat = 0x10000 + n) :
      Escaped c (unitEscape (0xD800 + n / 0x400) ++ unitEscape (0xDC00 + n % 0x400))

theorem escaped_escapeChar (c : Char) : Escaped c (escapeChar c) := by
  unfold escapeChar
  split
  · exact .letter '"' (by decide) (by decide) rfl
  · exact .letter '\\' (by decide) (by decide) rfl
  · exact .letter 'n' (by decide) (by decide) rfl
  · exact .letter 'r' (by decide) (by decide) rfl
  · exact .letter 't' (by decide) (by decide) rfl
  · exact .letter 'b' (by decide) (by decide) rfl
  · exact .letter 'f' (by decide) (by decide) rfl
  · rename_i hquote hslash _ _ _ _ _
    dsimp only
    split_ifs with hprintable hplane
    · exact .plain (by simpa [IsPrintable] using hprintable) hquote hslash
    · exact .unit hplane
    · exact .pair (c.toNat - 0x10000) (by omega)

theorem pointChar_toNat (c : Char) : pointChar c.toNat = c := by
  have hscalar := Text.Utf8.toNat_scalar c
  have hnone : (isHigh c.toNat || isLow c.toNat) = false := by
    simp only [isHigh, isLow, Bool.or_eq_false_iff, Bool.and_eq_false_iff, decide_eq_false_iff_not]
    omega
  rw [pointChar, hnone, if_neg Bool.false_ne_true, Char.ofNat_toNat]

theorem printable_hexDigit {n : Nat} (h : n < 16) : IsPrintable (hexDigit n) := by
  have hall : ∀ m < 16, IsPrintable (hexDigit m) := by decide
  exact hall n h

theorem printable_unitEscape {n : Nat} : ∀ e ∈ unitEscape n, IsPrintable e := by
  have hdigit : ∀ m, IsPrintable (hexDigit (m % 16)) :=
    fun m => printable_hexDigit (Nat.mod_lt m (by decide))
  have hslash : IsPrintable '\\' := by decide
  have hu : IsPrintable 'u' := by decide
  simp only [unitEscape, List.forall_mem_cons, hdigit, hslash, hu, List.not_mem_nil, false_implies,
    implies_true, and_self]

theorem Escaped.printable {c : Char} {escape : List Char} (h : Escaped c escape) :
    ∀ e ∈ escape, IsPrintable e := by
  cases h with
  | letter e printable =>
    have hslash : IsPrintable '\\' := by decide
    simp [hslash, printable]
  | plain printable => simpa using printable
  | unit => exact printable_unitEscape
  | pair =>
    intro e he
    rcases List.mem_append.mp he with he | he <;> exact printable_unitEscape e he

/-! ## Reading -/

/-- What was read of a string, with one more code point in front. -/
def withPoint (n : Nat) (read : List Nat × List Char) : List Nat × List Char :=
  (n :: read.1, read.2)

theorem stringPoints_unit {opened : List Char} {fuel n : Nat} {digits behind : List Char}
    (h : unicodeEscape ('u' :: digits) = .ok (n, behind)) :
    stringPoints opened (fuel + 1) ('\\' :: 'u' :: digits)
      = (stringPoints opened fuel behind).map (withPoint n) := by
  rw [stringPoints, if_neg (by decide), if_neg (by decide), if_pos (by decide), h]
  cases hread : stringPoints opened fuel behind <;>
    simp [bind, Except.bind, pure, Except.pure, Except.map, withPoint, hread]

theorem stringPoints_simple {opened : List Char} {fuel : Nat} {e d : Char} {behind : List Char}
    (he : e ≠ 'u') (h : simpleEscape? e = some d) :
    stringPoints opened (fuel + 1) ('\\' :: e :: behind)
      = (stringPoints opened fuel behind).map (withPoint d.toNat) := by
  rw [stringPoints, if_neg (by decide), if_neg (by decide), if_pos (by decide), h]
  · cases stringPoints opened fuel behind <;> rfl
  · exact he

theorem stringPoints_plain {opened : List Char} {fuel : Nat} {c : Char} {behind : List Char}
    (hquote : c ≠ '"') (hslash : c ≠ '\\') (h : 0x1F < c.toNat) :
    stringPoints opened (fuel + 1) (c :: behind)
      = (stringPoints opened fuel behind).map (withPoint c.toNat) := by
  rw [stringPoints.eq_def]
  simp only [beq_eq_false_iff_ne.mpr hquote, beq_eq_false_iff_ne.mpr hslash, Bool.false_eq_true,
    if_false, if_neg (Nat.not_le.mpr h)]
  cases stringPoints opened fuel behind <;> rfl

/-- A character is read back behind its escape, and reading goes on with the next one. -/
theorem Escaped.stringPoints {c : Char} {escape : List Char} (h : Escaped c escape)
    (opened : List Char) (fuel : Nat) {rest : List Char} (hrest : rest ≠ []) :
    Json.stringPoints opened (fuel + 1) (escape ++ rest)
      = (Json.stringPoints opened fuel rest).map (withPoint c.toNat) := by
  have hscalar := Text.Utf8.toNat_scalar c
  cases h with
  | letter e _ hunit hmeans => exact stringPoints_simple hunit hmeans
  | plain hprintable hquote hslash =>
    obtain ⟨hlow, -⟩ := hprintable
    exact stringPoints_plain hquote hslash (by omega)
  | unit hplane =>
    have hhigh : isHigh c.toNat = false := by
      simp only [isHigh, Bool.and_eq_false_iff, decide_eq_false_iff_not]
      omega
    exact stringPoints_unit (unicodeEscape_unit hplane hhigh hrest)
  | pair n hoffset =>
    rw [hoffset, List.append_assoc]
    exact stringPoints_unit (unicodeEscape_pair (by omega) hrest)

theorem stringPoints_escaped (opened s : List Char) (rest : List Char) {fuel : Nat}
    (hfuel : s.length < fuel) :
    stringPoints opened fuel (s.flatMap escapeChar ++ '"' :: rest)
      = .ok (s.map Char.toNat, rest) := by
  induction s generalizing fuel with
  | nil =>
    cases fuel with
    | zero => exact absurd hfuel (Nat.not_lt_zero _)
    | succ fuel => rfl
  | cons c s ih =>
    cases fuel with
    | zero => exact absurd hfuel (Nat.not_lt_zero _)
    | succ fuel =>
      have hrest : s.flatMap escapeChar ++ '"' :: rest ≠ [] := by simp
      rw [List.flatMap_cons, List.append_assoc,
        (escaped_escapeChar c).stringPoints opened fuel hrest, ih (Nat.lt_of_succ_lt_succ hfuel)]
      rfl

theorem Escaped.length_pos {c : Char} {escape : List Char} (h : Escaped c escape) :
    0 < escape.length := by
  cases h <;> simp [unitEscape]

theorem length_le_length_escaped (s : List Char) : s.length ≤ (s.flatMap escapeChar).length := by
  induction s with
  | nil => exact Nat.le_refl 0
  | cons c s ih =>
    have hpos := (escaped_escapeChar c).length_pos
    rw [List.flatMap_cons, List.length_append, List.length_cons]
    omega

/-- A string is read back from behind its opening quote, up to its closing one. -/
theorem readString_escaped (s : String) (rest : List Char) :
    readString (s.toList.flatMap escapeChar ++ '"' :: rest) = .ok (s, rest) := by
  have hlength := length_le_length_escaped s.toList
  have hfuel : s.toList.length < (s.toList.flatMap escapeChar ++ '"' :: rest).length + 1 := by
    rw [List.length_append]
    omega
  have hpoints := stringPoints_escaped ('"' :: (s.toList.flatMap escapeChar ++ '"' :: rest))
    s.toList rest hfuel
  have hchars : (s.toList.map Char.toNat).map pointChar = s.toList := by
    simp only [List.map_map, Function.comp_def, pointChar_toNat, List.map_id']
  rw [readString, hpoints]
  simp only [bind, Except.bind, hchars, String.ofList_toList, pure, Except.pure]

/-- The quotes and what stands between them are printable. -/
theorem printable_quoted (s : String) : ∀ c ∈ quoted s, IsPrintable c := by
  have hquote : IsPrintable '"' := by decide
  intro c hc
  simp only [quoted, List.cons_append, List.mem_cons, List.mem_append, List.mem_flatMap,
    List.not_mem_nil, or_false] at hc
  rcases hc with rfl | ⟨d, -, hc⟩ | rfl
  · exact hquote
  · exact (escaped_escapeChar d).printable c hc
  · exact hquote

end BlockAuthoring.Json
