import BlockAuthoring.Proofs.Surface.Occurrence
import BlockAuthoring.Proofs.Text.Decimal
import BlockAuthoring.Proofs.Text.Title
import BlockAuthoring.Schema.Selector

/-!
# Places and labels

A positional selector is written with a decimal place and read back by a search for that place.
`FirstPlace` says which place a selector has without a search, and the search finds it
(`firstPlace_iff`). So the label of a selector is the one of its place; no label is empty, and only
the place in front of the first one shares its label with another.
-/

namespace BlockAuthoring

open Text Surface

namespace Selector

variable {selector digits : List Char}

/-! ## Reading a place -/

theorem place_encloses : Encloses "nth-child(" isDecimal ")" where
  opening := ⟨'n', "th-child(".toList, rfl, by decide, by decide, by decide⟩
  closing := ⟨')', [], rfl, by decide⟩

/-- A place with these digits stands behind so many characters of a selector. -/
def PlaceAt (selector : List Char) (k : Nat) (digits : List Char) : Prop :=
  digits ≠ [] ∧ (∀ c ∈ digits, isDecimal c = true)
    ∧ "nth-child(".toList ++ digits ++ ")".toList <+: selector.drop k

/-- The first place of a selector has these digits. -/
def FirstPlace (selector digits : List Char) : Prop :=
  ∃ k, PlaceAt selector k digits ∧ ∀ i < k, ∀ earlier, ¬ PlaceAt selector i earlier

theorem place_captured?_iff (k : Nat) :
    place.captured? (selector.drop k) = some digits ↔ PlaceAt selector k digits :=
  run_captured?_iff (show ")".toList = ')' :: [] from rfl) (by decide) "nth-child(" _ _

/-- What the search captures first is the first place. -/
theorem firstPlace_iff :
    FirstPlace selector digits ↔ (place.captures selector).head? = some digits := by
  constructor
  · rintro ⟨k, hplace, hbefore⟩
    obtain ⟨m, hm, rfl⟩ := Option.map_eq_some_iff.mp ((place_captured?_iff k).mpr hplace)
    apply Pattern.head?_captures place_encloses.apart.nil _ hm
    intro i hi
    rw [Option.eq_none_iff_forall_ne_some]
    intro earlier hearlier
    refine hbefore i hi earlier.captured ((place_captured?_iff i).mp ?_)
    exact Option.map_eq_some_iff.mpr ⟨earlier, hearlier, rfl⟩
  · intro h
    obtain ⟨after, hcaptures⟩ := List.head?_eq_some_iff.mp h
    rw [← List.nil_append (digits :: after)] at hcaptures
    obtain ⟨k, hk, hearlier⟩ := Pattern.exists_of_captures_eq place_encloses.apart hcaptures
    refine ⟨k, (place_captured?_iff k).mp hk, ?_⟩
    intro i hi earlier hplace
    exact absurd (hearlier i hi earlier ((place_captured?_iff i).mpr hplace)) (by simp)

/-- The first place is read, as long as it has no more digits than are converted. -/
theorem position?_of_firstPlace (h : FirstPlace selector digits)
    (hshort : digits.length ≤ maxDigits) :
    position? selector = .ok (some (digitsValue digits)) := by
  obtain ⟨more, hcaptures⟩ := List.head?_eq_some_iff.mp (firstPlace_iff.mp h)
  rw [position?, hcaptures]
  simp only [Number.digitsNumber, if_neg (Nat.not_lt.mpr hshort)]
  rfl

theorem position?_of_firstPlace_long (h : FirstPlace selector digits)
    (hlong : maxDigits < digits.length) : ∃ fault, position? selector = .error fault := by
  obtain ⟨more, hcaptures⟩ := List.head?_eq_some_iff.mp (firstPlace_iff.mp h)
  rw [position?, hcaptures]
  simp only [Number.digitsNumber, if_pos hlong]
  exact ⟨_, rfl⟩

/-! ## Writing a place -/

/-- Behind a tag the first place is the one that follows: a word opens none. -/
theorem firstPlace_behind {tag : List Char} (htag : ∀ c ∈ tag, isWord c = true)
    (hne : digits ≠ []) (hdigits : ∀ c ∈ digits, isDecimal c = true) (after : List Char) :
    FirstPlace (tag ++ ':' :: ("nth-child(".toList ++ digits ++ ")".toList ++ after)) digits := by
  refine ⟨tag.length + 1, ⟨hne, hdigits, ?_⟩, ?_⟩
  · rw [List.drop_length_add_append, List.drop_succ_cons, List.drop_zero]
    exact List.prefix_append _ _
  · intro i hi earlier hplace
    obtain ⟨-, -, hpre⟩ := hplace
    rw [List.drop_append_of_le_length (by omega), List.append_assoc] at hpre
    have hopening := (List.prefix_append _ _).trans hpre
    -- The opening has no colon, so it would stand inside the tag with its parenthesis.
    have hinside := prefix_of_prefix_append_cons hopening (by decide)
    have hparen : '(' ∈ tag := List.mem_of_mem_drop (hinside.mem (by decide))
    exact absurd (htag '(' hparen) (by decide)

theorem toList_child (i : Nat) (tag : String) :
    (child i tag).toList = tag.toList
      ++ ':' :: ("nth-child(".toList ++ Nat.toDigits 10 (i + 1) ++ ")".toList ++ []) := by
  have hplace : toString ((i : Int) + 1) = (i + 1).repr := rfl
  simp [child, hplace, Nat.toList_repr]

theorem firstPlace_child (i : Nat) {tag : String} (htag : ∀ c ∈ tag.toList, isWord c = true)
    (after : List Char) :
    FirstPlace ((child i tag).toList ++ after) (Nat.toDigits 10 (i + 1)) := by
  have h := firstPlace_behind htag Nat.toDigits_ne_nil
    (fun _ hc => isDecimal_of_mem_toDigits (n := i + 1) hc) after
  rw [toList_child]
  simpa using h

/-- The place that a selector was written for is read back, as long as it has no more digits than
are converted, and whatever stands behind it. -/
theorem position?_child {i : Nat} (hi : (Nat.toDigits 10 (i + 1)).length ≤ maxDigits)
    {tag : String} (htag : ∀ c ∈ tag.toList, isWord c = true) (after : List Char) :
    position? ((child i tag).toList ++ after) = .ok (some (i + 1)) := by
  rw [position?_of_firstPlace (firstPlace_child i htag after) hi, digitsValue_toDigits]

theorem child_eq (i : Nat) : child i = "div:nth-child(" ++ toString (i + 1) ++ ")" := by
  rw [← String.toList_inj, toList_child, String.toList_append, String.toList_append,
    Nat.toString_eq_repr, Nat.toList_repr, List.append_nil]
  rfl

/-- The selectors of different places are different. -/
theorem child_injective {i j : Nat} (h : child i = child j) : i = j := by
  rw [child_eq, child_eq, String.append_left_inj, String.append_right_inj] at h
  have hplace := toString_injective h
  omega

/-! ## Labels of places -/

/-- The labels of the table are not numbered. -/
theorem take_ne_of_mem_labels : ∀ l ∈ labels, l.toList.take 5 ≠ "Field".toList := by decide

theorem entryAt?_natCast {α : Type} (table : List α) (i : Nat) : entryAt? table i = table[i]? := by
  simp [entryAt?]

/-- The index in front of the table reads its end. -/
theorem entryAt?_neg_one {α : Type} (table : List α) : entryAt? table (-1) = table.getLast? := by
  cases table with
  | nil => rfl
  | cons a table => simp [entryAt?, List.getLast?_eq_getElem?]

theorem labelAt_succ (i : Nat) :
    labelAt (i + 1) = (labels[i]?).getD ("Field " ++ toString (i + 1)) := by
  have hindex : ((i + 1 : Nat) : Int) - 1 = i := by omega
  rw [labelAt, hindex, entryAt?_natCast]

theorem labelAt_zero : some (labelAt 0) = labels.getLast? := by
  have hindex : ((0 : Nat) : Int) - 1 = -1 := rfl
  rw [labelAt, hindex, entryAt?_neg_one]
  rfl

theorem labelAt_of_lt {i : Nat} (h : i < 5) : labels[i]? = some (labelAt (i + 1)) := by
  have hthere : i < labels.length := h
  rw [labelAt_succ, List.getElem?_eq_getElem hthere]
  rfl

theorem labelAt_of_le {i : Nat} (h : 5 ≤ i) : labelAt (i + 1) = "Field " ++ toString (i + 1) := by
  have hbehind : labels.length ≤ i := h
  rw [labelAt_succ, List.getElem?_eq_none hbehind]
  rfl

theorem labelAt_ne_of_lt_of_le {i j : Nat} (hi : i < 5) (hj : 5 ≤ j) :
    labelAt (i + 1) ≠ labelAt (j + 1) := by
  intro h
  refine take_ne_of_mem_labels _ (List.mem_of_getElem? (labelAt_of_lt hi)) ?_
  rw [h, labelAt_of_le hj, String.toList_append]
  rfl

/-- Places from the first one on have different labels. -/
theorem labelAt_succ_injective {i j : Nat} (h : labelAt (i + 1) = labelAt (j + 1)) : i = j := by
  by_cases hi : i < 5
  · by_cases hj : j < 5
    · have hsame : labels[i]? = labels[j]? := by rw [labelAt_of_lt hi, labelAt_of_lt hj, h]
      exact (List.getElem?_inj hi (show labels.Nodup by decide)).mp hsame
    · exact absurd h (labelAt_ne_of_lt_of_le hi (by omega))
  · by_cases hj : j < 5
    · exact absurd h.symm (labelAt_ne_of_lt_of_le hj (by omega))
    · rw [labelAt_of_le (by omega), labelAt_of_le (by omega), String.append_right_inj] at h
      have hplace := toString_injective h
      omega

/-- The place in front of the first one has the last label of the table, which is that of the fifth
place and of no other. -/
theorem labelAt_zero_eq_iff (i : Nat) : labelAt 0 = labelAt (i + 1) ↔ i = 4 := by
  have hfifth : labelAt 0 = labelAt (4 + 1) :=
    Option.some.inj (labelAt_zero.trans (labelAt_of_lt (i := 4) (by decide)))
  rw [hfifth]
  exact ⟨fun h => (labelAt_succ_injective h).symm, fun h => by rw [h]⟩

theorem labelAt_ne_empty (position : Nat) : labelAt position ≠ "" := by
  have hlabels : ∀ l ∈ labels, l ≠ "" := by decide
  cases position with
  | zero => exact hlabels _ (List.mem_of_getLast? labelAt_zero.symm)
  | succ n =>
    rw [labelAt_succ]
    cases hlabel : labels[n]? with
    | none => simp [← String.toList_inj]
    | some l => exact hlabels l (List.mem_of_getElem? hlabel)

/-! ## Labels of selectors -/

/-- Whatever a selector says: a label has a text. -/
theorem label_ne_empty {selector : String} {custom : Option String} {l : String}
    (h : label selector custom = .ok l) : l ≠ "" := by
  unfold label at h
  split at h
  · rename_i hcustom
    cases h
    cases custom with
    | none => cases hcustom
    | some wished => simpa using hcustom
  · cases hposition : position? selector.toList with
    | error fault =>
      rw [hposition] at h
      cases h
    | ok position =>
      rw [hposition] at h
      cases h
      dsimp only
      split
      · exact labelAt_ne_empty _
      · simp [← String.toList_inj, upper_ne_nil]
      · decide

/-- The label of a selector with a place is the author's, unless that is empty, or the one of the
place. -/
theorem label_of_position? {selector : String} {n : Nat}
    (h : position? selector.toList = .ok (some n)) (custom : Option String) :
    label selector custom = .ok ((custom.filter (· ≠ "")).getD (labelAt n)) := by
  rw [label, h]
  cases custom with
  | none => rfl
  | some l => by_cases hl : l = "" <;> simp [hl, Except.map, Option.filter]

theorem label_child {i : Nat} (hi : (Nat.toDigits 10 (i + 1)).length ≤ maxDigits)
    (custom : Option String) :
    label (child i) custom = .ok ((custom.filter (· ≠ "")).getD (labelAt (i + 1))) := by
  have hword : ∀ c ∈ "div".toList, isWord c = true := List.all_eq_true.mp (by decide)
  have hposition := position?_child hi hword []
  rw [List.append_nil] at hposition
  exact label_of_position? hposition custom

/-- There is no label for a place with more digits than are converted, unless the author has one. -/
theorem label_child_long {i : Nat} (hi : maxDigits < (Nat.toDigits 10 (i + 1)).length) :
    ∃ fault, label (child i) none = .error fault := by
  have hword : ∀ c ∈ "div".toList, isWord c = true := List.all_eq_true.mp (by decide)
  obtain ⟨fault, hfault⟩ := position?_of_firstPlace_long (firstPlace_child i hword []) hi
  rw [List.append_nil] at hfault
  exact ⟨fault, by rw [label, hfault]; rfl⟩

end Selector

end BlockAuthoring
