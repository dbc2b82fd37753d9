import BlockAuthoring.Text.Base64

/-!
# Base64 is read back

Three bytes are four letters of six bits each; what is left over at the end is filled up with
padding. Reading gives the bytes back, also where other characters stand between the letters.
-/

namespace BlockAuthoring.Text.Base64

/-! ## Writing -/

/-- The letters of the values from 0 to 63. -/
def alphabet : List Char :=
  "ABCDEFGHIJKLMNOPQRSTUVWXYZabcdefghijklmnopqrstuvwxyz0123456789+/".toList

/-- The letter of a value. -/
def letter (v : Nat) : Char := alphabet.getD v '='

/-- The letters of bytes. -/
def encode : List UInt8 → List Char
  | [] => []
  | [a] => [letter (a.toNat / 4), letter (a.toNat % 4 * 16), '=', '=']
  | [a, b] =>
    [letter (a.toNat / 4), letter (a.toNat % 4 * 16 + b.toNat / 16), letter (b.toNat % 16 * 4), '=']
  | a :: b :: c :: rest =>
    letter (a.toNat / 4) :: letter (a.toNat % 4 * 16 + b.toNat / 16)
      :: letter (b.toNat % 16 * 4 + c.toNat / 64) :: letter (c.toNat % 64) :: encode rest

/-! ## Letters -/

theorem letterValue?_letter {v : Nat} (h : v < 64) : letterValue? (letter v) = some v := by
  have hall : ∀ v < 64, letterValue? (letter v) = some v := by decide +kernel
  exact hall v h

theorem letterValue?_pad : letterValue? '=' = none := by decide

theorem letter_ne_pad {v : Nat} (h : v < 64) : (letter v == '=') = false := by
  rw [beq_eq_false_iff_ne]
  intro heq
  have hvalue := letterValue?_letter h
  rw [heq, letterValue?_pad] at hvalue
  cases hvalue

/-! ## Reading letters -/

variable {count v : Nat} {quad : Quad} {rest : List Char}

theorem decodeFrom_first (h : v < 64) (hquad : quad.letters = 0) :
    decodeFrom count quad (letter v :: rest) = decodeFrom count ⟨1, v, 0⟩ rest := by
  rw [decodeFrom, letter_ne_pad h, letterValue?_letter h]
  simp only [hquad, Bool.false_eq_true, if_false]

theorem decodeFrom_second (h : v < 64) (hquad : quad.letters = 1) :
    decodeFrom count quad (letter v :: rest)
      = (decodeFrom count ⟨2, v % 16, 0⟩ rest).map
          (UInt8.ofNat (quad.pending * 4 + v / 16) :: ·) := by
  rw [decodeFrom, letter_ne_pad h, letterValue?_letter h]
  simp only [hquad, Bool.false_eq_true, if_false]

theorem decodeFrom_third (h : v < 64) (hquad : quad.letters = 2) :
    decodeFrom count quad (letter v :: rest)
      = (decodeFrom count ⟨3, v % 4, 0⟩ rest).map
          (UInt8.ofNat (quad.pending * 16 + v / 4) :: ·) := by
  rw [decodeFrom, letter_ne_pad h, letterValue?_letter h]
  simp only [hquad, Bool.false_eq_true, if_false]

theorem decodeFrom_fourth (h : v < 64) (hquad : quad.letters = 3) :
    decodeFrom count quad (letter v :: rest)
      = (decodeFrom (count + 4) ⟨0, 0, 0⟩ rest).map
          (UInt8.ofNat (quad.pending * 64 + v) :: ·) := by
  rw [decodeFrom, letter_ne_pad h, letterValue?_letter h]
  simp only [hquad, Bool.false_eq_true, if_false]

/-- Padding that completes a quad ends the data. -/
theorem decodeFrom_pads (pending : Nat) :
    decodeFrom count ⟨2, pending, 0⟩ ['=', '='] = .ok [] := rfl

theorem decodeFrom_pad (pending : Nat) : decodeFrom count ⟨3, pending, 0⟩ ['='] = .ok [] := rfl

/-! ## Reading back -/

theorem ofNat_eq {n : Nat} {a : UInt8} (h : n = a.toNat) : UInt8.ofNat n = a := by
  rw [h, UInt8.ofNat_toNat]

theorem decodeFrom_encode (bytes : List UInt8) (count : Nat) :
    decodeFrom count ⟨0, 0, 0⟩ (encode bytes) = .ok bytes := by
  fun_induction encode bytes generalizing count with
  | case1 => rfl
  | case2 a =>
    have ha := a.toNat_lt
    have hbyte : UInt8.ofNat (a.toNat / 4 * 4 + a.toNat % 4 * 16 / 16) = a := ofNat_eq (by omega)
    rw [decodeFrom_first (by omega) rfl, decodeFrom_second (by omega) rfl, decodeFrom_pads, hbyte]
    rfl
  | case3 a b =>
    have ha := a.toNat_lt
    have hb := b.toNat_lt
    have hfirst : UInt8.ofNat (a.toNat / 4 * 4 + (a.toNat % 4 * 16 + b.toNat / 16) / 16) = a :=
      ofNat_eq (by omega)
    have hsecond : UInt8.ofNat ((a.toNat % 4 * 16 + b.toNat / 16) % 16 * 16
        + b.toNat % 16 * 4 / 4) = b := ofNat_eq (by omega)
    rw [decodeFrom_first (by omega) rfl, decodeFrom_second (by omega) rfl,
      decodeFrom_third (by omega) rfl, decodeFrom_pad, hfirst, hsecond]
    rfl
  | case4 a b c rest ih =>
    have ha := a.toNat_lt
    have hb := b.toNat_lt
    have hc := c.toNat_lt
    have hfirst : UInt8.ofNat (a.toNat / 4 * 4 + (a.toNat % 4 * 16 + b.toNat / 16) / 16) = a :=
      ofNat_eq (by omega)
    have hsecond : UInt8.ofNat ((a.toNat % 4 * 16 + b.toNat / 16) % 16 * 16
        + (b.toNat % 16 * 4 + c.toNat / 64) / 4) = b := ofNat_eq (by omega)
    have hthird : UInt8.ofNat ((b.toNat % 16 * 4 + c.toNat / 64) % 4 * 64 + c.toNat % 64) = c :=
      ofNat_eq (by omega)
    rw [decodeFrom_first (by omega) rfl, decodeFrom_second (by omega) rfl,
      decodeFrom_third (by omega) rfl, decodeFrom_fourth (by omega) rfl, ih, hfirst, hsecond,
      hthird]
    rfl

/-! ## Characters between the letters -/

/-- The character is a letter or padding. Reading skips all others. -/
def isData (c : Char) : Bool := c == '=' || (letterValue? c).isSome

theorem decodeFrom_filter (letters : List Char) (count : Nat) (quad : Quad) :
    decodeFrom count quad letters = decodeFrom count quad (letters.filter isData) := by
  induction letters generalizing count quad with
  | nil => rfl
  | cons c rest ih =>
    cases hdata : isData c with
    | false =>
      rw [isData, Bool.or_eq_false_iff] at hdata
      rw [List.filter_cons_of_neg (by simp [isData, hdata]), ← ih, decodeFrom, hdata.1]
      rw [Option.isSome_eq_false_iff, Option.isNone_iff_eq_none] at hdata
      rw [hdata.2]
      rfl
    | true =>
      rw [List.filter_cons_of_pos hdata, decodeFrom, decodeFrom]
      simp only [← ih]

/-- Bytes are written with letters and padding only. -/
theorem forall_mem_encode {P : Char → Prop} (hletter : ∀ v < 64, P (letter v)) (hpad : P '=')
    (bytes : List UInt8) : ∀ c ∈ encode bytes, P c := by
  fun_induction encode bytes with
  | case1 => simp
  | case2 a =>
    have ha := a.toNat_lt
    simp only [List.forall_mem_cons]
    exact ⟨hletter _ (by omega), hletter _ (by omega), hpad, hpad, by simp⟩
  | case3 a b =>
    have ha := a.toNat_lt
    have hb := b.toNat_lt
    simp only [List.forall_mem_cons]
    exact ⟨hletter _ (by omega), hletter _ (by omega), hletter _ (by omega), hpad, by simp⟩
  | case4 a b c rest ih =>
    have ha := a.toNat_lt
    have hb := b.toNat_lt
    have hc := c.toNat_lt
    simp only [List.forall_mem_cons]
    exact ⟨hletter _ (by omega), hletter _ (by omega), hletter _ (by omega),
      hletter _ (by omega), ih⟩

theorem filter_encode (bytes : List UInt8) : (encode bytes).filter isData = encode bytes := by
  have hletter : ∀ v < 64, isData (letter v) = true := fun v hv => by
    simp [isData, letterValue?_letter hv]
  have hpad : isData '=' = true := rfl
  exact List.filter_eq_self.mpr (forall_mem_encode hletter hpad bytes)

theorem ascii_encode (bytes : List UInt8) : ∀ c ∈ encode bytes, c.toNat < 0x80 :=
  forall_mem_encode (by decide +kernel) (by decide) bytes

/-- Bytes are read back from their letters, whatever stands between these. -/
theorem decode_eq_ok {letters : List Char} {bytes : List UInt8}
    (h : letters.filter isData = encode bytes) : decode letters = .ok bytes := by
  rw [decode, decodeFrom_filter, h, decodeFrom_encode]

/-- Reading skips the character, and texts that are read may have it. Blanks and line ends are such
characters. -/
def isGap (c : Char) : Bool := decide (c.toNat < 0x80) && !isData c

example : [' ', '\n', '\r', '\t'].all isGap = true := by decide

/-- The text has the letters in their order, with gaps of any length between them, in front of them
and behind them. -/
inductive Spread : List Char → List Char → Prop where
  | nothing : Spread [] []
  | letter (c : Char) {letters text : List Char} (rest : Spread letters text) :
      Spread (c :: letters) (c :: text)
  | gap {c : Char} (skipped : isGap c = true) {letters text : List Char}
      (rest : Spread letters text) : Spread letters (c :: text)

theorem isData_of_isGap {c : Char} (h : isGap c = true) : isData c = false := by
  rw [isGap, Bool.and_eq_true, Bool.not_eq_true'] at h
  exact h.2

namespace Spread

variable {letters text : List Char}

/-- The letters are what is left when the gaps are taken away. -/
theorem filter_eq (h : Spread letters text) (hletters : letters.filter isData = letters) :
    text.filter isData = letters := by
  induction h with
  | nothing => rfl
  | letter c _ ih =>
    rw [List.filter_eq_self, List.forall_mem_cons] at hletters
    rw [List.filter_cons_of_pos hletters.1, ih (List.filter_eq_self.mpr hletters.2)]
  | gap hgap _ ih =>
    rw [List.filter_cons_of_neg (by simp [isData_of_isGap hgap]), ih hletters]

theorem ascii (h : Spread letters text) (hletters : ∀ c ∈ letters, c.toNat < 0x80) :
    ∀ c ∈ text, c.toNat < 0x80 := by
  induction h with
  | nothing => simp
  | letter c _ ih =>
    rw [List.forall_mem_cons] at hletters ⊢
    exact ⟨hletters.1, ih hletters.2⟩
  | gap hgap _ ih =>
    rw [isGap, Bool.and_eq_true, decide_eq_true_eq] at hgap
    rw [List.forall_mem_cons]
    exact ⟨hgap.1, ih hletters⟩

/-- Every text of ASCII is its letters with gaps between them. -/
theorem of_ascii {text : List Char} (h : ∀ c ∈ text, c.toNat < 0x80) :
    Spread (text.filter isData) text := by
  induction text with
  | nil => exact .nothing
  | cons c text ih =>
    rw [List.forall_mem_cons] at h
    by_cases hdata : isData c = true
    · rw [List.filter_cons_of_pos hdata]
      exact .letter c (ih h.2)
    · rw [List.filter_cons_of_neg hdata]
      exact .gap (by simp [isGap, h.1, hdata]) (ih h.2)

end Spread

end BlockAuthoring.Text.Base64
