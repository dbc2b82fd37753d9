import BlockAuthoring.Text.Digit
import Mathlib.Data.List.Induction

/-!
# Decimal numbers

Numbers are written with the ten digits of ASCII and read with the digits of all scripts. What is
read is the number that the digits write; what is written is read back, and a number is smaller than
the power of ten that its digits count.
-/

namespace BlockAuthoring.Text

/-! ## Reading -/

/-- Digits write a number: the last of them counts ones, and those in front of it count tens. -/
inductive Writes : List Char → Nat → Prop where
  | nothing : Writes [] 0
  | digit {ds : List Char} {n : Nat} (front : Writes ds n) {c : Char} {v : Nat}
      (value : digitValue? c = some v) : Writes (ds ++ [c]) (10 * n + v)

theorem digitsValue_concat (ds : List Char) (c : Char) :
    digitsValue (ds ++ [c]) = 10 * digitsValue ds + (digitValue? c).getD 0 := by
  rw [digitsValue, List.foldl_append]
  rfl

/-- Digits, and nothing but digits, write the number that is read. -/
theorem writes_iff {ds : List Char} {n : Nat} :
    Writes ds n ↔ (∀ c ∈ ds, isDecimal c = true) ∧ digitsValue ds = n := by
  constructor
  · intro h
    induction h with
    | nothing => exact ⟨by simp, rfl⟩
    | digit _ hvalue ih =>
      obtain ⟨hdecimal, hfront⟩ := ih
      refine ⟨?_, by rw [digitsValue_concat, hfront, hvalue]; rfl⟩
      rw [List.forall_mem_append, List.forall_mem_singleton]
      exact ⟨hdecimal, by rw [isDecimal, hvalue]; rfl⟩
  · rintro ⟨hdecimal, rfl⟩
    induction ds using List.reverseRecOn with
    | nil => exact .nothing
    | append_singleton ds c ih =>
      rw [List.forall_mem_append, List.forall_mem_singleton] at hdecimal
      obtain ⟨v, hvalue⟩ := Option.isSome_iff_exists.mp hdecimal.2
      rw [digitsValue_concat, hvalue]
      exact .digit (ih hdecimal.1) hvalue

/-! ## Reading back -/

theorem digitValue?_of_isDigit {c : Char} (h : c.isDigit = true) :
    digitValue? c = some (c.toNat - 48) := by
  have hrange : ('0' ≤ c && c ≤ '9') = true := h
  rw [digitValue?, if_pos hrange]

theorem isDecimal_of_mem_toDigits {n : Nat} {c : Char} (h : c ∈ Nat.toDigits 10 n) :
    isDecimal c = true := by
  have hdigit := Nat.isDigit_of_mem_toDigits (by decide) (by decide) h
  rw [isDecimal, digitValue?_of_isDigit hdigit]
  rfl

/-- Digits are read back as the number they were written for. -/
theorem digitsValue_toDigits (n : Nat) : digitsValue (Nat.toDigits 10 n) = n := by
  have hagree : ∀ ds : List Char, (∀ c ∈ ds, c.isDigit = true) → ∀ start,
      ds.foldl (fun m c => 10 * m + (digitValue? c).getD 0) start
        = Nat.ofDigitChars 10 ds start := by
    intro ds hds
    induction ds with
    | nil => intro start; simp
    | cons c ds ih =>
      intro start
      rw [List.foldl_cons, Nat.ofDigitChars_cons, digitValue?_of_isDigit (hds c (by simp)),
        ih fun d hd => hds d (by simp [hd])]
      rfl
  rw [digitsValue, hagree _ fun c hc => Nat.isDigit_of_mem_toDigits (by decide) (by decide) hc]
  exact Nat.ofDigitChars_ten_toDigits

/-- Different numbers are written differently. -/
theorem toString_injective {m n : Nat} (h : toString m = toString n) : m = n := by
  have hdigits : Nat.toDigits 10 m = Nat.toDigits 10 n := by
    rw [← Nat.toList_repr, ← Nat.toList_repr, ← Nat.toString_eq_repr, h, Nat.toString_eq_repr]
  rw [← digitsValue_toDigits m, hdigits, digitsValue_toDigits]

/-- Digits start with a zero for zero alone. -/
theorem head_toDigits_ne_zero {n : Nat} (hn : 0 < n) :
    ∃ d ds, Nat.toDigits 10 n = d :: ds ∧ d ≠ '0' := by
  induction n using Nat.strongRecOn with
  | ind n ih =>
    by_cases hsmall : n < 10
    · have hall : ∀ m < 10, 0 < m → m.digitChar ≠ '0' := by decide
      exact ⟨n.digitChar, [], Nat.toDigits_of_lt_base hsmall, hall n hsmall hn⟩
    · obtain ⟨d, ds, hds, hd⟩ := ih (n / 10) (by omega) (by omega)
      refine ⟨d, ds ++ [(n % 10).digitChar], ?_, hd⟩
      rw [Nat.toDigits_eq_if (by decide), if_neg hsmall, hds]
      rfl

/-! ## Size -/

theorem digitValue?_lt {c : Char} {d : Nat} (h : digitValue? c = some d) : d < 10 := by
  unfold digitValue? at h
  split at h
  · rename_i hrange
    have hupper : c.toNat ≤ 57 := of_decide_eq_true (Bool.and_eq_true_iff.mp hrange).2
    simp only [Option.some.injEq] at h
    omega
  · split at h
    · cases h
    · obtain ⟨first, hfound, rfl⟩ := Option.map_eq_some_iff.mp h
      have hrun := List.find?_some hfound
      simp only [Bool.and_eq_true, decide_eq_true_eq] at hrun
      omega

/-- Nothing but nines write the number before a power of ten. -/
theorem digitsValue_nines (n : Nat) : digitsValue (List.replicate n '9') + 1 = Nat.pow 10 n := by
  induction n with
  | zero => rfl
  | succ n ih =>
    have hnine : (digitValue? '9').getD 0 = 9 := by decide
    have hpow : Nat.pow 10 (n + 1) = Nat.pow 10 n * 10 := rfl
    rw [List.replicate_succ', digitsValue_concat, hnine, hpow, ← ih]
    omega

/-- A number is smaller than the power of ten that its digits count, whatever was read before. -/
theorem digitsValue_lt (ds : List Char) : digitsValue ds < Nat.pow 10 ds.length := by
  suffices ∀ start k, start < Nat.pow 10 k →
      ds.foldl (fun n c => 10 * n + (digitValue? c).getD 0) start < Nat.pow 10 (k + ds.length) by
    have h := this 0 0 (by decide)
    rwa [Nat.zero_add] at h
  induction ds with
  | nil => exact fun start k h => h
  | cons c ds ih =>
    intro start k hstart
    have hdigit : (digitValue? c).getD 0 < 10 := by
      cases hc : digitValue? c with
      | none => decide
      | some d => exact digitValue?_lt hc
    have hnext : 10 * start + (digitValue? c).getD 0 < Nat.pow 10 (k + 1) := by
      have hpow : Nat.pow 10 (k + 1) = Nat.pow 10 k * 10 := rfl
      omega
    have hlength : k + (c :: ds).length = k + 1 + ds.length := by
      rw [List.length_cons]
      omega
    rw [hlength]
    exact ih _ _ hnext

/-- More digits count a larger power of ten. -/
theorem pow_ten_le {j k : Nat} (h : j ≤ k) : Nat.pow 10 j ≤ Nat.pow 10 k :=
  Nat.pow_le_pow_right (by decide) h

theorem length_toDigits_le_iff {n k : Nat} (hk : 0 < k) :
    (Nat.toDigits 10 n).length ≤ k ↔ n < Nat.pow 10 k :=
  Nat.length_toDigits_le_iff (by decide) hk

/-- Smaller numbers have no more digits. -/
theorem length_toDigits_le_of_le {m n k : Nat} (h : m ≤ n)
    (hn : (Nat.toDigits 10 n).length ≤ k) : (Nat.toDigits 10 m).length ≤ k := by
  have hk : 0 < k := Nat.lt_of_lt_of_le Nat.length_toDigits_pos hn
  rw [length_toDigits_le_iff hk] at hn ⊢
  exact Nat.lt_of_le_of_lt h hn

/-- The next number has at most one digit more. -/
theorem length_toDigits_succ_le {n k : Nat} (h : (Nat.toDigits 10 n).length < k) :
    (Nat.toDigits 10 (n + 1)).length ≤ k := by
  have hlength : 0 < (Nat.toDigits 10 n).length := Nat.length_toDigits_pos
  obtain ⟨j, rfl⟩ : ∃ j, k = j + 1 := ⟨k - 1, by omega⟩
  have hn : n < Nat.pow 10 j := (length_toDigits_le_iff (by omega)).mp (by omega)
  rw [length_toDigits_le_iff (by omega)]
  have hpow : Nat.pow 10 (j + 1) = Nat.pow 10 j * 10 := rfl
  omega

end BlockAuthoring.Text
