import BlockAuthoring.Proofs.Association
import BlockAuthoring.Proofs.Json.Printed
import BlockAuthoring.Proofs.Text.Decimal

/-!
# Printed values are read back

A value over several lines is read back as it was, its members in the same order, if it can be
written at all: it has no floating-point numbers, its whole numbers are no longer than what is
converted, and its objects have no key twice.
-/

namespace BlockAuthoring.Json

open Text Number

/-- A value that is read back from its text. -/
inductive Readable : Json → Prop where
  | null : Readable .null
  | bool (b : Bool) : Readable (.bool b)
  | int {n : Int} (short : (Nat.toDigits 10 n.natAbs).length ≤ maxDigits) : Readable (.int n)
  | string (s : String) : Readable (.string s)
  | array {items : List Json} (items_readable : ∀ v ∈ items, Readable v) : Readable (.array items)
  | object {members : List (String × Json)} (distinct : (members.map (·.1)).Nodup)
      (members_readable : ∀ m ∈ members, Readable m.2) : Readable (.object members)

/-! ## Whole numbers -/

/-- What follows a value inside a printed text. No number goes on there. -/
def EndsValue (rest : List Char) : Prop := ∃ c more, rest = c :: more ∧ (c = ',' ∨ c = '\n')

theorem spanDigits_append {ds rest : List Char} (hds : ∀ c ∈ ds, c.isDigit = true)
    (hrest : EndsValue rest) : spanDigits (ds ++ rest) = (ds, rest) := by
  obtain ⟨c, more, rfl, hc⟩ := hrest
  have hstop : c.isDigit = false := by rcases hc with rfl | rfl <;> rfl
  rw [spanDigits, List.takeWhile_append_of_pos hds, List.dropWhile_append_of_pos hds]
  simp [hstop]

theorem wholePart_toDigits (n : Nat) {rest : List Char} (hrest : EndsValue rest) :
    wholePart (Nat.toDigits 10 n ++ rest) = some (Nat.toDigits 10 n, rest) := by
  have hspan := spanDigits_append (fun c hc => Nat.isDigit_of_mem_toDigits (b := 10) (n := n)
    (by decide) (by decide) hc) hrest
  cases n with
  | zero => rfl
  | succ n =>
    obtain ⟨d, ds, hds, hd⟩ := head_toDigits_ne_zero (Nat.succ_pos n)
    rw [hds] at hspan ⊢
    rw [List.cons_append, wholePart]
    · rw [← List.cons_append, hspan]
    · intro more hmore
      exact hd (List.cons.inj hmore).1

/-- A numeral starts with a digit. -/
theorem exists_toDigits_eq_cons (n : Nat) :
    ∃ d ds, Nat.toDigits 10 n = d :: ds ∧ d.isDigit = true := by
  obtain ⟨d, ds, hds⟩ := List.exists_cons_of_ne_nil (Nat.toDigits_ne_nil (n := n) (b := 10))
  refine ⟨d, ds, hds, isDigit_of_mem (n := n) ?_⟩
  rw [hds]
  exact List.mem_cons_self

theorem signed_natAbs (n : Int) :
    (if decide (n < 0) = true then -(n.natAbs : Int) else (n.natAbs : Int)) = n := by
  by_cases h : n < 0
  · rw [if_pos (by simpa using h)]
    omega
  · rw [if_neg (by simpa using h)]
    omega

/-- A sign, if there is one, and digits are read as the number they write. -/
theorem readNumber_toString {n : Int} (hn : (Nat.toDigits 10 n.natAbs).length ≤ maxDigits)
    {rest : List Char} (hrest : EndsValue rest) :
    readNumber ((toString n).toList ++ rest) = .ok (.int n, rest) := by
  have hnumber : digitsNumber (Nat.toDigits 10 n.natAbs) = .ok n.natAbs := by
    rw [digitsNumber, if_neg (Nat.not_lt.mpr hn), digitsValue_toDigits]
  have hfraction : fractionPart rest = ([], rest) := by
    obtain ⟨c, more, rfl, rfl | rfl⟩ := hrest <;> rfl
  have hexponent : exponentPart rest = (none, rest) := by
    obtain ⟨c, more, rfl, rfl | rfl⟩ := hrest <;> rfl
  rw [toList_toString]
  unfold readNumber
  split
  rename_i negative body hsign
  obtain ⟨rfl, rfl⟩ : negative = decide (n < 0) ∧ body = Nat.toDigits 10 n.natAbs ++ rest := by
    by_cases hneg : n < 0
    · rw [if_pos hneg] at hsign
      cases hsign
      exact ⟨(decide_eq_true hneg).symm, rfl⟩
    · rw [if_neg hneg, List.nil_append] at hsign
      split at hsign
      · rename_i more hmore
        -- A digit is no sign.
        obtain ⟨d, ds, hds, hd⟩ := exists_toDigits_eq_cons n.natAbs
        rw [hds, List.cons_append] at hmore
        obtain ⟨rfl, -⟩ := List.cons.inj hmore
        cases hd
      · cases hsign
        exact ⟨(decide_eq_false hneg).symm, rfl⟩
  dsimp only
  rw [wholePart_toDigits n.natAbs hrest]
  dsimp only
  rw [hfraction]
  dsimp only
  rw [hexponent]
  dsimp only
  rw [hnumber]
  dsimp only
  rw [signed_natAbs]
  rfl

/-! ## Between values -/

/-- A character that a printed value starts with. -/
def OpensValue (c : Char) : Prop := IsPrintable c ∧ c ∉ [' ', ']', '\x7d']

instance : DecidablePred OpensValue := fun c => by
  unfold OpensValue
  infer_instance

theorem isBlank_eq_false {c : Char} (h : IsPrintable c) (hblank : c ≠ ' ') : isBlank c = false := by
  have hcontrol : ∀ d : Char, d.toNat < 0x20 → c ≠ d := by
    rintro d hd rfl
    exact Nat.not_le.mpr hd h.1
  simp [isBlank, hblank, hcontrol '\t' (by decide), hcontrol '\n' (by decide),
    hcontrol '\r' (by decide)]

theorem skipBlanks_cons {c : Char} (h : IsPrintable c) (hblank : c ≠ ' ') (rest : List Char) :
    skipBlanks (c :: rest) = c :: rest := by
  rw [skipBlanks, List.dropWhile_cons_of_neg (by simp [isBlank_eq_false h hblank])]

/-- A line break and its indentation are skipped. -/
theorem skipBlanks_lineBreak (level : Nat) (rest : List Char) :
    skipBlanks (lineBreak level ++ rest) = skipBlanks rest := by
  have hblanks : ∀ c ∈ lineBreak level, isBlank c = true := by
    intro c hc
    rcases List.mem_cons.mp hc with rfl | hc
    · rfl
    · rw [List.eq_of_mem_replicate hc]
      rfl
  rw [skipBlanks, List.dropWhile_append_of_pos hblanks]
  rfl

theorem opensValue_of_isDigit {c : Char} (h : c.isDigit = true) : OpensValue c := by
  have hrange : 48 ≤ c.toNat ∧ c.toNat ≤ 57 := by
    simpa [Char.isDigit, UInt32.le_iff_toNat_le] using h
  refine ⟨⟨by omega, by omega⟩, fun hmem => ?_⟩
  simp only [List.mem_cons, List.not_mem_nil, or_false] at hmem
  rcases hmem with rfl | rfl | rfl <;> cases h

theorem Readable.head_print {v : Json} (h : Readable v) (level : Nat) :
    ∃ c rest, print level v = c :: rest ∧ OpensValue c := by
  cases h with
  | null => exact ⟨_, _, rfl, by decide⟩
  | bool b => cases b <;> exact ⟨_, _, rfl, by decide⟩
  | @int n _ =>
    rw [print, toList_toString]
    by_cases hneg : n < 0
    · exact ⟨'-', _, by rw [if_pos hneg]; rfl, by decide⟩
    · obtain ⟨d, ds, hds, hd⟩ := exists_toDigits_eq_cons n.natAbs
      exact ⟨d, ds, by rw [if_neg hneg, hds]; rfl, opensValue_of_isDigit hd⟩
  | string s => exact ⟨_, _, rfl, by decide⟩
  | @array items _ =>
    cases items with
    | nil => exact ⟨_, _, rfl, by decide⟩
    | cons w items => exact ⟨'[', _, by rw [print]; rfl, by decide⟩
  | @object members _ _ =>
    cases members with
    | nil => exact ⟨_, _, rfl, by decide⟩
    | cons m members => exact ⟨'\x7b', _, by rw [print]; rfl, by decide⟩

/-! ## Values -/

/-- The value is read back from its text, wherever it stands, if a number cannot go on behind it. -/
def ReadsBack (v : Json) : Prop :=
  ∀ (level fuel : Nat) (rest : List Char), EndsValue rest → (print level v).length ≤ fuel →
    readValue fuel (print level v ++ rest) = .ok (v, rest)

theorem endsValue_lineBreak (level : Nat) (rest : List Char) :
    EndsValue (lineBreak level ++ rest) := ⟨'\n', _, rfl, .inr rfl⟩

theorem endsValue_comma (rest : List Char) : EndsValue (',' :: rest) := ⟨',', _, rfl, .inl rfl⟩

/-- What stands between an item and the closing bracket. -/
theorem endsValue_printItems (level outer : Nat) (items : List Json) (rest : List Char) :
    EndsValue (printItems level items ++ (lineBreak outer ++ rest)) := by
  cases items with
  | nil => exact endsValue_lineBreak outer rest
  | cons v items =>
    rw [printItems]
    exact endsValue_comma _

theorem endsValue_printMembers (level outer : Nat) (members : List (String × Json))
    (rest : List Char) : EndsValue (printMembers level members ++ (lineBreak outer ++ rest)) := by
  cases members with
  | nil => exact endsValue_lineBreak outer rest
  | cons m members =>
    rw [printMembers]
    exact endsValue_comma _

theorem readsBack_null : ReadsBack .null := by
  intro level fuel rest _ hfuel
  cases fuel with
  | zero => cases hfuel
  | succ fuel => rfl

theorem readsBack_bool (b : Bool) : ReadsBack (.bool b) := by
  intro level fuel rest _ hfuel
  cases b <;> cases fuel with
  | zero => cases hfuel
  | succ fuel => rfl

theorem readsBack_string (s : String) : ReadsBack (.string s) := by
  intro level fuel rest _ hfuel
  cases fuel with
  | zero => cases hfuel
  | succ fuel =>
    simp only [print, quoted, List.cons_append, List.append_assoc, List.nil_append]
    rw [readValue, readString_escaped]
    rfl

/-- Nothing that starts like a numeral starts with a word. -/
theorem find?_words_eq_none {d : Char} (hd : d.isDigit = true) (rest : List Char) :
    words.find? (·.1.isPrefixOf (d :: rest)) = none
      ∧ words.find? (·.1.isPrefixOf ('-' :: d :: rest)) = none := by
  have hne : ∀ c : Char, c.isDigit = false → (c == d) = false := by
    intro c hc
    rw [beq_eq_false_iff_ne]
    rintro rfl
    rw [hd] at hc
    cases hc
  constructor <;>
    simp [words, List.isPrefixOf, hne 'n' rfl, hne 't' rfl, hne 'f' rfl,
      hne 'N' rfl, hne 'I' rfl, hne '-' rfl]

theorem readValue_numeral {fuel : Nat} {c : Char} {rest : List Char}
    (hc : c.isDigit = true ∨ c = '-')
    (hwords : words.find? (·.1.isPrefixOf (c :: rest)) = none) :
    readValue (fuel + 1) (c :: rest) = readNumber (c :: rest) := by
  have hne : ∀ d : Char, d.isDigit = false → d ≠ '-' → c ≠ d := by
    rintro d hd hsign rfl
    rcases hc with hc | hc
    · rw [hc] at hd
      cases hd
    · exact hsign hc
  rw [readValue, hwords]
  · exact fun more h => hne '"' rfl (by decide) (List.cons.inj h).1
  · exact fun more h => hne '[' rfl (by decide) (List.cons.inj h).1
  · exact fun more h => hne '\x7b' rfl (by decide) (List.cons.inj h).1

theorem readsBack_int {n : Int} (hn : (Nat.toDigits 10 n.natAbs).length ≤ maxDigits) :
    ReadsBack (.int n) := by
  intro level fuel rest hrest hfuel
  rw [print] at hfuel ⊢
  rw [← readNumber_toString hn hrest]
  rw [toList_toString] at hfuel ⊢
  obtain ⟨d, ds, hds, hd⟩ := exists_toDigits_eq_cons n.natAbs
  rw [hds] at hfuel ⊢
  cases fuel with
  | zero => simp at hfuel
  | succ fuel =>
    by_cases hneg : n < 0
    · rw [if_pos hneg]
      exact readValue_numeral (.inr rfl) (find?_words_eq_none hd (ds ++ rest)).2
    · rw [if_neg hneg]
      exact readValue_numeral (.inl hd) (find?_words_eq_none hd (ds ++ rest)).1

/-! ## Arrays -/

/-- A value in front of a text is not taken for the end of what it is in. -/
theorem skipBlanks_print {v : Json} (h : Readable v) (level : Nat) (rest : List Char) :
    skipBlanks (print level v ++ rest) = print level v ++ rest := by
  obtain ⟨c, more, hprint, hprintable, hnot⟩ := h.head_print level
  rw [hprint, List.cons_append, skipBlanks_cons hprintable]
  rintro rfl
  exact hnot (by decide)

/-- The items of an array are read up to its closing bracket. -/
theorem readItems_print {v : Json} {items : List Json}
    (hitems : ∀ w ∈ v :: items, Readable w ∧ ReadsBack w) (level outer : Nat) (rest : List Char)
    {fuel : Nat} (hfuel : (print level v).length + (printItems level items).length < fuel) :
    readItems fuel (print level v ++ (printItems level items ++ (lineBreak outer ++ ']' :: rest)))
      = .ok (v :: items, rest) := by
  induction items generalizing v fuel with
  | nil =>
    cases fuel with
    | zero => cases hfuel
    | succ fuel =>
      have hv := (hitems v List.mem_cons_self).2 level fuel _
        (endsValue_printItems level outer [] (']' :: rest)) (by omega)
      rw [readItems, hv]
      simp only [bind, Except.bind, printItems, List.nil_append, skipBlanks_lineBreak]
      rw [skipBlanks_cons (by decide) (by decide)]
      rfl
  | cons w items ih =>
    cases fuel with
    | zero => cases hfuel
    | succ fuel =>
      rw [List.forall_mem_cons] at hitems
      have hlength : (printItems level (w :: items)).length
          = 1 + (lineBreak level).length + (print level w).length
            + (printItems level items).length := by
        simp only [printItems, List.length_append, List.length_cons]
        omega
      have hv := hitems.1.2 level fuel _ (endsValue_printItems level outer (w :: items) (']' :: rest))
        (by omega)
      have hw := (hitems.2 w List.mem_cons_self).1
      rw [readItems, hv]
      simp only [bind, Except.bind, printItems, List.cons_append, List.append_assoc]
      rw [skipBlanks_cons (by decide) (by decide)]
      simp only [skipBlanks_lineBreak]
      rw [skipBlanks_print hw, ih hitems.2 (by omega)]
      rfl

theorem readsBack_array {items : List Json} (hitems : ∀ w ∈ items, Readable w ∧ ReadsBack w) :
    ReadsBack (.array items) := by
  intro level fuel rest hrest hfuel
  cases fuel with
  | zero => cases items <;> simp [print] at hfuel
  | succ fuel =>
    cases items with
    | nil => rfl
    | cons v items =>
      have hv := (hitems v List.mem_cons_self).1
      obtain ⟨c, more, hhead, -, hopens⟩ := hv.head_print (level + 1)
      simp only [print, List.length_append, List.length_cons] at hfuel
      have hitemsFuel : (print (level + 1) v).length + (printItems (level + 1) items).length
          < fuel := by omega
      have hread := readItems_print hitems (level + 1) level rest hitemsFuel
      simp only [print, List.cons_append, List.append_assoc, List.nil_append]
      rw [readValue]
      simp only [skipBlanks_lineBreak, skipBlanks_print hv]
      split
      · -- The array is not empty: its first item opens no bracket that closes.
        rename_i behind hclose
        rw [hhead, List.cons_append] at hclose
        exact absurd (List.cons.inj hclose).1 (by rintro rfl; exact hopens (by decide))
      · rw [hread]
        rfl

/-! ## Objects -/

theorem fst_not_mem_of_nodup {m : String × Json} {found members : List (String × Json)}
    (h : ((found ++ m :: members).map (·.1)).Nodup) : m.1 ∉ found.map (·.1) := by
  rw [List.map_append, List.nodup_append] at h
  exact fun hmem => h.2.2 _ hmem _ (List.mem_map_of_mem List.mem_cons_self) rfl

theorem skipBlanks_quoted (s : String) (rest : List Char) :
    skipBlanks (quoted s ++ rest) = quoted s ++ rest :=
  skipBlanks_cons (by decide) (by decide) _

/-- A member is read: its key, and its value behind colon and blank. -/
theorem readMembers_member {m : String × Json} (hm : ReadsBack m.2) {found : List (String × Json)}
    (hkey : m.1 ∉ found.map (·.1)) {level fuel : Nat} {rest : List Char} (hrest : EndsValue rest)
    (hreadable : Readable m.2) (hfuel : (print level m.2).length ≤ fuel) :
    readMembers (fuel + 1) (quoted m.1 ++ (':' :: ' ' :: (print level m.2 ++ rest))) found
      = match skipBlanks rest with
        | '\x7d' :: behind => .ok (found ++ [m], behind)
        | ',' :: behind => readMembers fuel (skipBlanks behind) (found ++ [m])
        | rest => complain .expectingComma rest := by
  have hvalue : skipBlanks (' ' :: (print level m.2 ++ rest)) = print level m.2 ++ rest :=
    skipBlanks_print hreadable level rest
  simp only [quoted, List.cons_append, List.append_assoc, List.nil_append]
  rw [readMembers, readString_escaped]
  simp only [bind, Except.bind]
  rw [skipBlanks_cons (by decide) (by decide)]
  simp only [hvalue, hm level fuel rest hrest hfuel, setMember_of_not_mem hkey]
  rfl

/-- The members of an object are read up to its closing brace, behind those read before. -/
theorem readMembers_print {m : String × Json} {members found : List (String × Json)}
    (hmembers : ∀ n ∈ m :: members, Readable n.2 ∧ ReadsBack n.2)
    (hdistinct : ((found ++ m :: members).map (·.1)).Nodup) (level outer : Nat)
    (rest : List Char) {fuel : Nat}
    (hfuel : (print level m.2).length + (printMembers level members).length < fuel) :
    readMembers fuel (quoted m.1 ++ (':' :: ' ' :: (print level m.2
        ++ (printMembers level members ++ (lineBreak outer ++ '\x7d' :: rest))))) found
      = .ok (found ++ m :: members, rest) := by
  induction members generalizing m found fuel with
  | nil =>
    cases fuel with
    | zero => cases hfuel
    | succ fuel =>
      obtain ⟨hreadable, hreads⟩ := hmembers m List.mem_cons_self
      have hkey := fst_not_mem_of_nodup hdistinct
      rw [readMembers_member hreads hkey (endsValue_printMembers level outer [] _) hreadable
        (by omega), printMembers, List.nil_append, skipBlanks_lineBreak,
        skipBlanks_cons (by decide) (by decide)]
      rfl
  | cons n members ih =>
    cases fuel with
    | zero => cases hfuel
    | succ fuel =>
      obtain ⟨k, w⟩ := n
      obtain ⟨hreadable, hreads⟩ := hmembers m List.mem_cons_self
      have hkey := fst_not_mem_of_nodup hdistinct
      have hlength : (printMembers level ((k, w) :: members)).length
          = 1 + (lineBreak level).length + (quoted k).length + 2 + (print level w).length
            + (printMembers level members).length := by
        simp only [printMembers, List.length_append, List.length_cons]
        omega
      have hrestFuel : (print level w).length + (printMembers level members).length < fuel := by
        omega
      have hrest := ih (m := (k, w)) (fun u hu => hmembers u (List.mem_cons_of_mem m hu))
        (by simpa using hdistinct : (((found ++ [m]) ++ (k, w) :: members).map (·.1)).Nodup)
        hrestFuel
      rw [readMembers_member hreads hkey (endsValue_printMembers level outer _ _) hreadable
        (by omega)]
      simp only [printMembers, List.cons_append, List.append_assoc]
      rw [skipBlanks_cons (by decide) (by decide)]
      simp only [skipBlanks_lineBreak, skipBlanks_quoted, hrest]
      rw [List.append_assoc]
      rfl

theorem readsBack_object {members : List (String × Json)}
    (hdistinct : (members.map (·.1)).Nodup)
    (hmembers : ∀ m ∈ members, Readable m.2 ∧ ReadsBack m.2) : ReadsBack (.object members) := by
  intro level fuel rest hrest hfuel
  cases fuel with
  | zero => cases members <;> simp [print] at hfuel
  | succ fuel =>
    cases members with
    | nil => rfl
    | cons m members =>
      obtain ⟨k, v⟩ := m
      simp only [print, List.length_append, List.length_cons] at hfuel
      have hmembersFuel : (print (level + 1) v).length + (printMembers (level + 1) members).length
          < fuel := by omega
      have hread := readMembers_print hmembers
        (by simpa using hdistinct : ((([] : List (String × Json)) ++ (k, v) :: members).map
          (·.1)).Nodup) (level + 1) level rest hmembersFuel
      simp only [print, List.cons_append, List.append_assoc, List.nil_append]
      rw [readValue]
      simp only [skipBlanks_lineBreak, skipBlanks_quoted]
      split
      · rename_i behind hclose
        exact absurd (List.cons.inj hclose).1 (by decide)
      · rw [hread]
        rfl

/-- Whatever stands behind a readable value: it is read back. -/
theorem Readable.readsBack {v : Json} (h : Readable v) : ReadsBack v := by
  induction h with
  | null => exact readsBack_null
  | bool b => exact readsBack_bool b
  | int short => exact readsBack_int short
  | string s => exact readsBack_string s
  | array hreadable ih => exact readsBack_array fun w hw => ⟨hreadable w hw, ih w hw⟩
  | object hdistinct hreadable ih =>
    exact readsBack_object hdistinct fun m hm => ⟨hreadable m hm, ih m hm⟩

/-- A readable value is read back from its text, also with a line break at the end. -/
theorem Readable.parse_print {v : Json} (h : Readable v) :
    parse (print 0 v ++ ['\n']) = .ok v := by
  obtain ⟨c, rest, hhead, hprintable, -⟩ := h.head_print 0
  have hread : readValue (2 * (print 0 v ++ ['\n']).length + 2) (print 0 v ++ ['\n'])
      = .ok (v, ['\n']) := by
    refine h.readsBack 0 _ _ ⟨'\n', [], rfl, .inr rfl⟩ ?_
    rw [List.length_append]
    omega
  have htext : readText (print 0 v ++ ['\n']) = .ok v := by
    unfold readText
    split
    · rename_i mark hmark
      rw [hhead, List.cons_append] at hmark
      rw [(List.cons.inj hmark).1] at hprintable
      exact absurd hprintable (by decide)
    · rw [skipBlanks_print h, hread]
      rfl
  rw [parse, htext]

end BlockAuthoring.Json
