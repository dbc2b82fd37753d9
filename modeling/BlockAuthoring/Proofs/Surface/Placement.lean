import BlockAuthoring.Proofs.Surface.Occurrence

/-!
# Where a scan finds its matches

The matches of a scan stand in the order of the text, each of them behind the one before
(`pairwise_start_scan`). If no match of the pattern starts inside another one, the scan finds what
matches at any place of the text, and nothing else (`mem_scan_iff`). Together the two determine the
scan: there is one occurrence for each place where the pattern matches.
-/

namespace BlockAuthoring.Surface.Pattern

variable {p : Pattern} {text : List Char} {o : Occurrence}

/-- The pattern matches at a place of the text as an occurrence says. -/
def MatchesAt (p : Pattern) (text : List Char) (o : Occurrence) : Prop :=
  ∃ m, p (text.drop o.start) = some m ∧ o.stop = o.start + m.length ∧ o.captured = m.captured

/-! ## Order -/

/-- No match starts in front of the text, or among the characters that are still skipped. -/
theorem le_start_of_mem_scanFrom {skip position : Nat} (h : o ∈ p.scanFrom skip position text) :
    position + skip ≤ o.start := by
  induction text generalizing skip position with
  | nil => simp [scanFrom] at h
  | cons c rest ih =>
    cases skip with
    | succ n =>
      have hrest := ih h
      omega
    | zero =>
      rw [scanFrom] at h
      cases hm : p (c :: rest) with
      | none =>
        rw [hm] at h
        have hrest := ih h
        omega
      | some m =>
        rw [hm] at h
        rcases List.mem_cons.mp h with rfl | h
        · exact Nat.le_refl _
        · have hrest := ih h
          omega

theorem pairwise_start_scanFrom (p : Pattern) (skip position : Nat) (text : List Char) :
    (p.scanFrom skip position text).Pairwise (·.start < ·.start) := by
  induction text generalizing skip position with
  | nil => exact List.Pairwise.nil
  | cons c rest ih =>
    cases skip with
    | succ n => exact ih n _
    | zero =>
      rw [scanFrom]
      cases hm : p (c :: rest) with
      | none => exact ih 0 _
      | some m =>
        refine List.pairwise_cons.mpr ⟨fun later hlater => ?_, ih _ _⟩
        have hle := le_start_of_mem_scanFrom hlater
        show position < later.start
        omega

/-- Each match of a scan starts behind the one before. -/
theorem pairwise_start_scan (p : Pattern) (text : List Char) :
    (p.scan text).Pairwise (·.start < ·.start) := pairwise_start_scanFrom p 0 0 text

/-! ## Places -/

/-- The pattern matches as an occurrence says, in a text that starts at a position, and not before
`skip` of its characters. -/
def MatchesBehind (p : Pattern) (skip position : Nat) (text : List Char) (o : Occurrence) : Prop :=
  ∃ k, skip ≤ k ∧ o.start = position + k ∧ ∃ m, p (text.drop k) = some m
    ∧ o.stop = o.start + m.length ∧ o.captured = m.captured

/-- A match in the rest of a text is one in the text, a character further on. -/
theorem matchesBehind_succ_cons (c : Char) {skip position : Nat} :
    p.MatchesBehind (skip + 1) position (c :: text) o
      ↔ p.MatchesBehind skip (position + 1) text o := by
  constructor
  · rintro ⟨k, hk, hstart, hm⟩
    obtain ⟨j, rfl⟩ : ∃ j, k = j + 1 := ⟨k - 1, by omega⟩
    exact ⟨j, by omega, by omega, hm⟩
  · rintro ⟨k, hk, hstart, hm⟩
    exact ⟨k + 1, by omega, by omega, hm⟩

/-- A match is one at the front, or it starts behind the first character. -/
theorem matchesBehind_zero_iff {position : Nat} :
    p.MatchesBehind 0 position text o
      ↔ (∃ m, p text = some m ∧ o = ⟨position, position + m.length, m.captured⟩)
        ∨ p.MatchesBehind 1 position text o := by
  constructor
  · rintro ⟨k, -, hstart, m, hm, hstop, hcaptured⟩
    rcases Nat.eq_zero_or_pos k with rfl | hpos
    · obtain ⟨start, stop, captured⟩ := o
      dsimp only at hstart hstop hcaptured
      subst hstart hstop hcaptured
      exact .inl ⟨m, hm, rfl⟩
    · exact .inr ⟨k, hpos, hstart, m, hm, hstop, hcaptured⟩
  · rintro (⟨m, hm, rfl⟩ | ⟨k, -, hfound⟩)
    · exact ⟨0, Nat.le_refl 0, rfl, m, hm, rfl, rfl⟩
    · exact ⟨k, Nat.zero_le k, hfound⟩

/-- What a match covers hides no other one. -/
theorem Apart.matchesBehind_iff (h : p.Apart) {position : Nat} {m : Match} (hm : p text = some m) :
    p.MatchesBehind (m.length - 1 + 1) position text o ↔ p.MatchesBehind 1 position text o := by
  refine exists_congr fun k => and_congr_left ?_
  rintro ⟨-, m', hm', -⟩
  constructor
  · intro hk
    omega
  · intro hk
    by_contra hinside
    have hnone := h.apart text m hm k (by omega) (by omega)
    exact absurd (hnone.symm.trans hm') (by simp)

/-- What a scan finds in a text that starts at a position, when it still has to skip characters. -/
theorem mem_scanFrom_iff (h : p.Apart) {skip position : Nat} :
    o ∈ p.scanFrom skip position text ↔ p.MatchesBehind skip position text o := by
  induction text generalizing skip position with
  | nil => simp [scanFrom, MatchesBehind, h.nil]
  | cons c rest ih =>
    cases skip with
    | succ n =>
      rw [matchesBehind_succ_cons]
      exact ih
    | zero =>
      rw [scanFrom, matchesBehind_zero_iff]
      cases hm : p (c :: rest) with
      | none =>
        rw [ih, ← matchesBehind_succ_cons c]
        simp
      | some m =>
        rw [List.mem_cons, ih, ← matchesBehind_succ_cons c, h.matchesBehind_iff hm]
        simp

/-- If matches are apart, a scan finds the matches at all places. -/
theorem mem_scan_iff (h : p.Apart) : o ∈ p.scan text ↔ p.MatchesAt text o := by
  rw [scan, mem_scanFrom_iff h]
  constructor
  · rintro ⟨k, -, hstart, hm⟩
    obtain rfl : o.start = k := by omega
    exact hm
  · intro hm
    exact ⟨o.start, Nat.zero_le _, (Nat.zero_add _).symm, hm⟩

end BlockAuthoring.Surface.Pattern
