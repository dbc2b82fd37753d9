import Mathlib.Data.List.Infix
import BlockAuthoring.Surface.Catalog

/-!
# Where patterns occur

A scan goes through a text from left to right, takes as much as it can and goes on behind the
match. Here the patterns are read without a direction: what they match is said as a split of the
text, and an occurrence is a match at the front of some rest of it.

The scan skips the inside of a match. For patterns whose matches never overlap (`Apart`) nothing is
lost by that (`captures_eq`), and every pattern of the shape `before`, characters of a class,
`after` is such a pattern if the first character of `before` can stand nowhere else in a match.
-/

namespace BlockAuthoring.Surface

open Text

/-! ## Occurrences and scans -/

namespace Pattern

variable {p : Pattern}

theorem occurs_iff (text : List Char) :
    p.occurs text = true ↔ ∃ t, t <:+ text ∧ (p t).isSome = true := by
  induction text with
  | nil => simp [occurs]
  | cons c rest ih =>
    simp [occurs, ih, List.suffix_cons_iff, or_and_right, exists_or]

/-- No match of the pattern starts inside another one. -/
structure Apart (p : Pattern) : Prop where
  nil : p [] = none
  apart : ∀ text m, p text = some m → ∀ k, 0 < k → k < m.length → p (text.drop k) = none

/-- What the pattern captures at the front of a text. -/
def captured? (p : Pattern) (text : List Char) : Option (List Char) := (p text).map (·.captured)

/-- Rests of a text at whose front nothing matches add nothing. -/
theorem filterMap_tails_drop (text : List Char) (k : Nat)
    (h : ∀ i < k, p (text.drop i) = none) :
    text.tails.filterMap p.captured? = (text.drop k).tails.filterMap p.captured? := by
  induction k generalizing text with
  | zero => rfl
  | succ k ih =>
    cases text with
    | nil => rfl
    | cons c rest =>
      have hfront : p.captured? (c :: rest) = none := by
        simpa [captured?] using h 0 (by omega)
      rw [List.tails_cons, List.filterMap_cons, hfront, List.drop_succ_cons]
      exact ih rest fun i hi => by simpa using h (i + 1) (by omega)

/-- The scan, when it still has to skip characters, finds what matches in the text behind them. -/
theorem scanFrom_captured (h : p.Apart) (text : List Char) (skip position : Nat) :
    (p.scanFrom skip position text).map (·.captured)
      = (text.drop skip).tails.filterMap p.captured? := by
  induction text generalizing skip position with
  | nil => simp [scanFrom, captured?, h.nil]
  | cons c rest ih =>
    cases skip with
    | succ n =>
      -- Inside a match the scan only counts down.
      rw [scanFrom, ih]
      rfl
    | zero =>
      rw [scanFrom, List.drop_zero, List.tails_cons, List.filterMap_cons]
      cases hm : p (c :: rest) with
      | none => simp [captured?, hm, ih]
      | some m =>
        -- Nothing matches inside the match, so that skipping it loses nothing.
        have hinside : ∀ i < m.length - 1, p (rest.drop i) = none := by
          intro i hi
          simpa using h.apart _ m hm (i + 1) (by omega) (by omega)
        simp only [captured?, hm, Option.map_some, List.map_cons, ih]
        rw [← filterMap_tails_drop rest _ hinside]

/-- If matches are apart, the scan misses none of them. -/
theorem captures_eq (h : p.Apart) (text : List Char) :
    p.captures text = text.tails.filterMap p.captured? :=
  scanFrom_captured h text 0 0

/-- The first thing captured is what the first match captures, whether or not it overlaps others. -/
theorem head?_captures (hnil : p [] = none) {text : List Char} {k : Nat} {m : Match}
    (hbefore : ∀ i < k, p (text.drop i) = none) (hm : p (text.drop k) = some m) :
    (p.captures text).head? = some m.captured := by
  suffices ∀ position, ((p.scanFrom 0 position text).map (·.captured)).head? = some m.captured by
    exact this 0
  induction k generalizing text with
  | zero =>
    intro position
    cases text with
    | nil => exact absurd (hnil.symm.trans hm) (by simp)
    | cons c rest =>
      rw [List.drop_zero] at hm
      rw [scanFrom, hm]
      rfl
  | succ k ih =>
    intro position
    cases text with
    | nil => exact absurd (hnil.symm.trans hm) (by simp)
    | cons c rest =>
      have hfront : p (c :: rest) = none := hbefore 0 (by omega)
      rw [scanFrom, hfront]
      apply ih
      · intro i hi
        exact hbefore (i + 1) (by omega)
      · exact hm

/-- Nothing is captured where nothing matches. -/
theorem captures_eq_nil {text : List Char} (h : ∀ i, p (text.drop i) = none) :
    p.captures text = [] := by
  suffices ∀ position, p.scanFrom 0 position text = [] by
    rw [captures, scan, this 0, List.map_nil]
  induction text with
  | nil =>
    intro position
    rfl
  | cons c rest ih =>
    intro position
    have hfront : p (c :: rest) = none := h 0
    rw [scanFrom, hfront]
    apply ih
    intro i
    exact h (i + 1)

/-- What is captured comes from a place in the text, and what is captured at the places in front of
it comes earlier. -/
theorem exists_of_captures_eq (h : p.Apart) {text captured : List Char}
    {before after : List (List Char)} (hcaptures : p.captures text = before ++ captured :: after) :
    ∃ k, p.captured? (text.drop k) = some captured
      ∧ ∀ i < k, ∀ earlier, p.captured? (text.drop i) = some earlier → earlier ∈ before := by
  rw [captures_eq h] at hcaptures
  induction text generalizing before with
  | nil => simp [captured?, h.nil] at hcaptures
  | cons c rest ih =>
    rw [List.tails_cons, List.filterMap_cons] at hcaptures
    cases hfront : p.captured? (c :: rest) with
    | none =>
      rw [hfront] at hcaptures
      obtain ⟨k, hk, hearlier⟩ := ih hcaptures
      refine ⟨k + 1, hk, fun i hi earlier hi' => ?_⟩
      cases i with
      | zero => exact absurd (hfront.symm.trans hi') (by simp)
      | succ i => exact hearlier i (by omega) earlier hi'
    | some first =>
      rw [hfront] at hcaptures
      cases before with
      | nil =>
        cases hcaptures
        exact ⟨0, hfront, by simp⟩
      | cons first' before =>
        rw [List.cons_append, List.cons.injEq] at hcaptures
        obtain ⟨k, hk, hearlier⟩ := ih hcaptures.2
        refine ⟨k + 1, hk, fun i hi earlier hi' => ?_⟩
        cases i with
        | zero =>
          cases hfront.symm.trans hi'
          exact hcaptures.1 ▸ List.mem_cons_self
        | succ i => exact List.mem_cons_of_mem _ (hearlier i (by omega) earlier hi')

theorem mem_captures_iff (h : p.Apart) (text captured : List Char) :
    captured ∈ p.captures text ↔ ∃ t, t <:+ text ∧ p.captured? t = some captured := by
  rw [captures_eq h, List.mem_filterMap]
  simp only [List.mem_tails]

end Pattern

/-! ## What patterns match -/

theorem behind_eq_some_iff (w : String) (text rest : List Char) :
    behind w text = some rest ↔ text = w.toList ++ rest := by
  unfold behind
  rw [← String.length_toList]
  split
  · rename_i h
    obtain ⟨rest', rfl⟩ := List.isPrefixOf_iff_prefix.mp h
    simp [eq_comm]
  · rename_i h
    rw [List.isPrefixOf_iff_prefix] at h
    simp only [reduceCtorEq, false_iff]
    rintro rfl
    exact h (List.prefix_append _ _)

theorem behind_isSome_iff (w : String) (text : List Char) :
    (behind w text).isSome = true ↔ w.toList <+: text := by
  rw [Option.isSome_iff_exists, List.IsPrefix]
  simp only [behind_eq_some_iff, @eq_comm _ text]

/-- A word occurs where it stands in the text. -/
theorem word_occurs_iff (w : String) (text : List Char) :
    (word w).occurs text = true ↔ w.toList <:+: text := by
  have hfront : ∀ t, (word w t).isSome = (behind w t).isSome := by
    intro t
    unfold word
    cases behind w t <;> rfl
  simp only [Pattern.occurs_iff, hfront, behind_isSome_iff, List.infix_iff_prefix_suffix,
    and_comm]

/-! ## Words beside a separator -/

section Separators

variable {w left right : List Char} {c : Char}

theorem eq_nil_of_prefix_cons (h : w <+: c :: right) (hc : c ∉ w) : w = [] := by
  cases w with
  | nil => rfl
  | cons d w =>
    obtain ⟨rfl, -⟩ := List.cons_prefix_cons.mp h
    exact absurd List.mem_cons_self hc

/-- A word that goes up to a separator ends in front of it. -/
theorem prefix_of_prefix_append_cons (h : w <+: left ++ c :: right) (hc : c ∉ w) : w <+: left := by
  rcases List.prefix_or_prefix_of_prefix h (List.prefix_append left (c :: right)) with hshort | hlong
  · exact hshort
  · obtain ⟨more, rfl⟩ := hlong
    rw [List.prefix_append_right_inj] at h
    rw [List.mem_append, not_or] at hc
    rw [eq_nil_of_prefix_cons h hc.2, List.append_nil]

/-- A word without the separator stands on one side of it. -/
theorem infix_append_cons_iff (hc : c ∉ w) :
    w <:+: left ++ c :: right ↔ w <:+: left ∨ w <:+: right := by
  constructor
  · intro h
    rcases List.infix_append_iff.mp h with hleft | hright | ⟨w₁, w₂, rfl, hsuffix, hprefix⟩
    · exact .inl hleft
    · rcases List.infix_cons_iff.mp hright with hprefix | hinfix
      · exact .inr (eq_nil_of_prefix_cons hprefix hc ▸ List.nil_infix)
      · exact .inr hinfix
    · rw [List.mem_append, not_or] at hc
      rw [eq_nil_of_prefix_cons hprefix hc.2, List.append_nil]
      exact .inl hsuffix.isInfix
  · intro h
    rcases h with hleft | hright
    · exact List.infix_append_of_infix_left hleft
    · exact List.infix_append_of_infix_right (List.infix_cons hright)

end Separators

/-! ## Runs of a class -/

section Runs

variable {isIn : Char → Bool} {after : String} {a : Char} {tail : List Char}

/-- If `after` starts with a character outside the class, it stands behind the longest run of the
class iff it stands behind some run, and then this run is the longest. -/
theorem behind_run_iff (hafter : after.toList = a :: tail) (ha : isIn a = false)
    (ds text : List Char) :
    (text.takeWhile isIn = ds ∧ (behind after (text.drop ds.length)).isSome = true) ↔
      (∀ c ∈ ds, isIn c = true) ∧ ds ++ after.toList <+: text := by
  rw [behind_isSome_iff]
  constructor
  · rintro ⟨rfl, rest, hrest⟩
    obtain ⟨behind, hsplit⟩ := List.takeWhile_prefix (l := text) isIn
    have hbehind : behind = text.drop (text.takeWhile isIn).length := by
      simpa using congrArg (List.drop (text.takeWhile isIn).length) hsplit
    refine ⟨List.all_eq_true.mp List.all_takeWhile, rest, ?_⟩
    rw [List.append_assoc, hrest, ← hbehind, hsplit]
  · rintro ⟨hds, rest, rfl⟩
    refine ⟨?_, rest, by simp⟩
    rw [List.append_assoc, List.takeWhile_append_of_pos hds, hafter]
    simp [ha]

theorem spaced_isSome_iff {next : String} (hnext : next.toList = a :: tail)
    (ha : isSpace a = false) (w : String) (text : List Char) :
    (spaced w next text).isSome = true ↔
      ∃ blanks, (∀ c ∈ blanks, isSpace c = true)
        ∧ w.toList ++ blanks ++ next.toList <+: text := by
  have hstep : (spaced w next text).isSome = true ↔
      ∃ rest, behind w text = some rest
        ∧ (behind next (rest.drop (rest.takeWhile isSpace).length)).isSome = true := by
    unfold spaced
    cases behind w text with
    | none => simp
    | some rest => cases h : behind next (rest.drop (rest.takeWhile isSpace).length) <;> simp [h]
  rw [hstep]
  constructor
  · rintro ⟨rest, hw, hrest⟩
    obtain ⟨hblanks, hpre⟩ := (behind_run_iff hnext ha _ rest).mp ⟨rfl, hrest⟩
    rw [behind_eq_some_iff] at hw
    refine ⟨_, hblanks, ?_⟩
    rw [hw, List.append_assoc]
    exact (List.prefix_append_right_inj _).mpr hpre
  · rintro ⟨blanks, hblanks, rest, rfl⟩
    refine ⟨blanks ++ next.toList ++ rest, by simp [behind_eq_some_iff], ?_⟩
    obtain ⟨hrun, hbehind⟩ := (behind_run_iff hnext ha blanks (blanks ++ next.toList ++ rest)).mpr
      ⟨hblanks, List.prefix_append _ _⟩
    rwa [hrun]

theorem run_eq_none_of_head? {before : String} {b : Char} {bs text : List Char}
    (hbefore : before.toList = b :: bs) (hhead : text.head? ≠ some b) :
    run before isIn after text = none := by
  cases hb : behind before text with
  | none => simp [run, hb]
  | some rest =>
    rw [behind_eq_some_iff, hbefore] at hb
    exact absurd (by simp [hb]) hhead

/-- A run is all of the class behind `before`, with `after` behind it. -/
theorem run_eq_some_iff_behind (before : String) (text : List Char) (m : Match) :
    run before isIn after text = some m ↔
      ∃ rest, behind before text = some rest ∧ m.captured ≠ []
        ∧ (rest.takeWhile isIn = m.captured
          ∧ (behind after (rest.drop m.captured.length)).isSome = true)
        ∧ m.length = before.length + m.captured.length + after.length := by
  have hguard : ∀ (o : Option (List Char)) (found : Match),
      (o.bind fun _ => some found) = some m ↔ o.isSome = true ∧ found = m := by
    intro o found
    cases o <;> simp
  obtain ⟨length, captured⟩ := m
  cases hb : behind before text with
  | none => simp [run, hb]
  | some rest =>
    simp only [run, hb, List.isEmpty_iff, Option.pure_def, Option.bind_eq_bind,
      Option.bind_some, Option.ite_none_left_eq_some, hguard, Match.mk.injEq,
      Option.some.injEq, ne_eq, exists_eq_left']
    constructor
    · rintro ⟨hne, hbehind, hlength, rfl⟩
      exact ⟨hne, ⟨rfl, hbehind⟩, hlength.symm⟩
    · rintro ⟨hne, ⟨rfl, hbehind⟩, hlength⟩
      exact ⟨hne, hbehind, hlength.symm, rfl⟩

theorem run_eq_some_iff (hafter : after.toList = a :: tail) (ha : isIn a = false)
    (before : String) (text : List Char) (m : Match) :
    run before isIn after text = some m ↔
      m.captured ≠ [] ∧ (∀ c ∈ m.captured, isIn c = true)
        ∧ before.toList ++ m.captured ++ after.toList <+: text
        ∧ m.length = before.length + m.captured.length + after.length := by
  rw [run_eq_some_iff_behind]
  constructor
  · rintro ⟨rest, hw, hne, hrest, hlength⟩
    obtain ⟨hds, hpre⟩ := (behind_run_iff hafter ha _ rest).mp hrest
    rw [behind_eq_some_iff] at hw
    refine ⟨hne, hds, ?_, hlength⟩
    rw [hw, List.append_assoc]
    exact (List.prefix_append_right_inj _).mpr hpre
  · rintro ⟨hne, hds, ⟨rest, rfl⟩, hlength⟩
    refine ⟨m.captured ++ after.toList ++ rest, by simp [behind_eq_some_iff], hne, ?_, hlength⟩
    exact (behind_run_iff hafter ha _ _).mpr ⟨hds, List.prefix_append _ _⟩

/-- What a run captures at the front of a text is a part of the text. -/
theorem run_captured?_iff (hafter : after.toList = a :: tail) (ha : isIn a = false)
    (before : String) (text ds : List Char) :
    (run before isIn after).captured? text = some ds ↔
      ds ≠ [] ∧ (∀ c ∈ ds, isIn c = true) ∧ before.toList ++ ds ++ after.toList <+: text := by
  have hrun := run_eq_some_iff hafter ha before text
  rw [Pattern.captured?, Option.map_eq_some_iff]
  constructor
  · rintro ⟨m, hm, rfl⟩
    obtain ⟨hne, hds, hpre, -⟩ := (hrun m).mp hm
    exact ⟨hne, hds, hpre⟩
  · rintro ⟨hne, hds, hpre⟩
    exact ⟨⟨before.length + ds.length + after.length, ds⟩,
      (hrun _).mpr ⟨hne, hds, hpre, rfl⟩, rfl⟩

end Runs

/-- What stands around the runs of a class is told from the runs: `after` starts with a character
outside the class, and the first character of `before` is outside the class too and stands neither
further on in `before` nor in `after`. -/
structure Encloses (before : String) (isIn : Char → Bool) (after : String) : Prop where
  opening : ∃ b bs, before.toList = b :: bs ∧ isIn b = false ∧ b ∉ bs ∧ b ∉ after.toList
  closing : ∃ a tail, after.toList = a :: tail ∧ isIn a = false

namespace Encloses

variable {before after : String} {isIn : Char → Bool}

/-- No match starts inside another one, because only its first character opens a match. -/
theorem apart (h : Encloses before isIn after) : (run before isIn after).Apart := by
  obtain ⟨b, bs, hbefore, hb, hbs, hafter⟩ := h.opening
  obtain ⟨a, tail, htail, ha⟩ := h.closing
  refine ⟨run_eq_none_of_head? hbefore (by simp), ?_⟩
  intro text m hm k hpos hk
  obtain ⟨-, hds, ⟨rest, rfl⟩, hlength⟩ := (run_eq_some_iff htail ha before text m).mp hm
  apply run_eq_none_of_head? hbefore
  -- A second match would open with a character that the first one has in front only.
  intro hopen
  obtain ⟨j, rfl⟩ : ∃ j, k = j + 1 := ⟨k - 1, by omega⟩
  have hshort : j < (bs ++ m.captured ++ after.toList).length := by
    simp only [← String.length_toList, hbefore, List.length_cons, List.length_append] at hlength ⊢
    omega
  have hlonger : (bs ++ m.captured ++ after.toList ++ rest)[j]?
      = (bs ++ m.captured ++ after.toList)[j]? := List.getElem?_append_left hshort
  have hin : (bs ++ m.captured ++ after.toList)[j]? = some b := by
    rw [← hlonger]
    simpa [List.head?_drop, hbefore] using hopen
  rcases List.mem_append.mp (List.mem_of_getElem? hin) with hmem | hmem
  · rcases List.mem_append.mp hmem with hmem | hmem
    · exact absurd hmem hbs
    · exact absurd (hds b hmem) (by simp [hb])
  · exact absurd hmem hafter

theorem mem_captures_iff (h : Encloses before isIn after) (text ds : List Char) :
    ds ∈ (run before isIn after).captures text ↔
      ds ≠ [] ∧ (∀ c ∈ ds, isIn c = true)
        ∧ before.toList ++ ds ++ after.toList <:+: text := by
  obtain ⟨a, tail, htail, ha⟩ := h.closing
  rw [Pattern.mem_captures_iff h.apart]
  constructor
  · rintro ⟨t, ht, hcaptured⟩
    obtain ⟨hne, hds, hpre⟩ := (run_captured?_iff htail ha before t ds).mp hcaptured
    exact ⟨hne, hds, List.infix_iff_prefix_suffix.mpr ⟨t, hpre, ht⟩⟩
  · rintro ⟨hne, hds, hin⟩
    obtain ⟨t, hpre, ht⟩ := List.infix_iff_prefix_suffix.mp hin
    exact ⟨t, ht, (run_captured?_iff htail ha before t ds).mpr ⟨hne, hds, hpre⟩⟩

theorem occurs_iff (h : Encloses before isIn after) (text : List Char) :
    (run before isIn after).occurs text = true ↔
      ∃ ds, ds ∈ (run before isIn after).captures text := by
  rw [Pattern.occurs_iff]
  simp only [Pattern.mem_captures_iff h.apart, Option.isSome_iff_exists, Pattern.captured?,
    Option.map_eq_some_iff]
  constructor
  · rintro ⟨t, ht, m, hm⟩
    exact ⟨m.captured, t, ht, m, hm, rfl⟩
  · rintro ⟨ds, t, ht, m, hm, -⟩
    exact ⟨t, ht, m, hm⟩

end Encloses

/-! ## Arrows -/

theorem spacedArrow_isSome_iff (text : List Char) :
    (spacedArrow text).isSome = true ↔
      ∃ blanks, (∀ c ∈ blanks, isSpace c = true) ∧ blanks ++ "=>".toList <+: text := by
  have harrow : "=>".toList = '=' :: ['>'] := rfl
  have hrun := behind_run_iff harrow (show isSpace '=' = false by decide)
  unfold spacedArrow
  rw [Option.isSome_map]
  constructor
  · intro h
    exact ⟨_, (hrun _ text).mp ⟨rfl, h⟩⟩
  · rintro ⟨blanks, hblanks, hpre⟩
    obtain ⟨htake, h⟩ := (hrun blanks text).mpr ⟨hblanks, hpre⟩
    rwa [htake]

/-- An arrow behind a closing parenthesis is found as long as no line ends in front of it. -/
theorem lastArrow_isSome_iff (text : List Char) (offset : Nat) :
    (lastArrow offset text).isSome = true ↔
      ∃ line blanks, '\n' ∉ line ∧ (∀ c ∈ blanks, isSpace c = true)
        ∧ line ++ ')' :: blanks ++ "=>".toList <+: text := by
  induction text generalizing offset with
  | nil => simp [lastArrow]
  | cons c rest ih =>
    -- The arrow is looked for behind this character first; both ways a line must not end here.
    have hstep : (lastArrow offset (c :: rest)).isSome = true ↔
        c ≠ '\n' ∧ ((lastArrow (offset + 1) rest).isSome = true
          ∨ c = ')' ∧ (spacedArrow rest).isSome = true) := by
      rw [lastArrow]
      by_cases hline : c = '\n'
      · simp [hline]
      · by_cases hclose : c = ')' <;> simp [hline, hclose]
    rw [hstep, ih, spacedArrow_isSome_iff]
    constructor
    · rintro ⟨hc, ⟨line, blanks, hline, hblanks, hpre⟩ | ⟨rfl, blanks, hblanks, hpre⟩⟩
      · refine ⟨c :: line, blanks, by simp [hline, hc.symm], hblanks, ?_⟩
        exact List.cons_prefix_cons.mpr ⟨rfl, hpre⟩
      · exact ⟨[], blanks, by simp, hblanks, List.cons_prefix_cons.mpr ⟨rfl, hpre⟩⟩
    · rintro ⟨line, blanks, hline, hblanks, hpre⟩
      cases line with
      | nil =>
        obtain ⟨rfl, harrow⟩ := List.cons_prefix_cons.mp hpre
        exact ⟨by decide, .inr ⟨rfl, blanks, hblanks, harrow⟩⟩
      | cons d line =>
        obtain ⟨rfl, hrest⟩ := List.cons_prefix_cons.mp hpre
        rw [List.mem_cons, not_or] at hline
        exact ⟨Ne.symm hline.1, .inl ⟨line, blanks, hline.2, hblanks, hrest⟩⟩

end BlockAuthoring.Surface
