import BlockAuthoring.Proofs.Schema.Label

/-!
# Selectors are read back

The parts of a selector are looked for one by one, each anywhere in the text: a tag in front, the
first place, the first attribute in brackets, and three words. What is written for a tag and a place
is read as it was written all the same (`parse_written`), because a word holds none of the characters
that set the parts apart.

A selector that was not written here may have any text around its first place. Its label is the one
of the place, whatever that text is (`label_of_place`).
-/

namespace BlockAuthoring

open Text Surface

namespace Selector

variable {before name : List Char} {c : Char} {i : Nat} {tag : String}

/-! ## Tags and attributes -/

theorem tag?_behind (hne : tag ≠ "") (htag : ∀ c ∈ tag.toList, isWord c = true)
    (after : List Char) : tag? (tag.toList ++ ':' :: after) = some tag := by
  have hcolon : isWord ':' = false := by decide
  have hname : (tag.toList ++ ':' :: after).takeWhile isWord = tag.toList := by
    rw [List.takeWhile_append_of_pos htag, List.takeWhile_cons_of_neg (by simp [hcolon]),
      List.append_nil]
  simp only [tag?, hname, List.isEmpty_iff, String.toList_eq_nil_iff, hne, if_false,
    String.ofList_toList]

theorem bracketed_eq_none {text : List Char} (h : text.head? ≠ some '[') : bracketed text = none :=
  run_eq_none_of_head? (show "[".toList = '[' :: [] from rfl) h

/-- Without a bracket there is no attribute. -/
theorem attr?_eq_none {text : List Char} (h : '[' ∉ text) : attr? text = none := by
  rw [attr?, Pattern.captures_eq_nil]
  · rfl
  · intro k
    apply bracketed_eq_none
    intro hopen
    exact h (List.mem_of_mem_drop (List.mem_of_head? hopen))

/-- The attribute is what stands in the first brackets. -/
theorem attr?_behind (hbefore : '[' ∉ before) (hne : name ≠ []) (hname : ']' ∉ name)
    (after : List Char) : attr? (before ++ '[' :: (name ++ ']' :: after)) = some name := by
  have hmatch : bracketed ((before ++ '[' :: (name ++ ']' :: after)).drop before.length)
      = some ⟨1 + name.length + 1, name⟩ := by
    rw [List.drop_left]
    apply (run_eq_some_iff (show "]".toList = ']' :: [] from rfl) (by decide) "[" _ _).mpr
    refine ⟨hne, ?_, ?_, rfl⟩
    · intro d hd
      simp only [bne_iff_ne, ne_eq]
      intro heq
      exact hname (heq ▸ hd)
    · exact ⟨after, by simp⟩
  apply Pattern.head?_captures (bracketed_eq_none (by simp)) _ hmatch
  intro k hk
  apply bracketed_eq_none
  rw [List.head?_drop, List.getElem?_append_left hk]
  intro hopen
  exact hbefore (List.mem_of_getElem? hopen)

/-! ## Words -/

theorem not_mem_toDigits (h : c.isDigit = false) (n : Nat) : c ∉ Nat.toDigits 10 n := by
  intro hc
  have hdigit := Nat.isDigit_of_mem_toDigits (by decide) (by decide) hc
  simp [h] at hdigit

/-- A place adds no other characters to a tag than those of its form and digits. -/
theorem not_mem_place (hform : c ∉ "nth-child()".toList) (hdigit : c.isDigit = false) (n : Nat) :
    c ∉ "nth-child(".toList ++ Nat.toDigits 10 n ++ ")".toList ++ [] := by
  have hdigits := not_mem_toDigits hdigit n
  simp at hform ⊢
  tauto

theorem not_mem_child (htag : c ∉ tag.toList) (hcolon : c ≠ ':')
    (hform : c ∉ "nth-child()".toList) (hdigit : c.isDigit = false) (i : Nat) :
    c ∉ (child i tag).toList := by
  rw [toList_child, List.mem_append, List.mem_cons, not_or, not_or]
  exact ⟨htag, hcolon, not_mem_place hform hdigit (i + 1)⟩

/-- A word with a character that no place has stands in a selector iff it stands in the tag. -/
theorem infix_child_iff {w : List Char} (hcolon : ':' ∉ w) (hc : c ∈ w)
    (hform : c ∉ "nth-child()".toList) (hdigit : c.isDigit = false) (i : Nat) (tag : String) :
    w <:+: (child i tag).toList ↔ w <:+: tag.toList := by
  rw [toList_child, infix_append_cons_iff hcolon]
  constructor
  · intro h
    rcases h with htag | hplace
    · exact htag
    · exact absurd (hplace.mem hc) (not_mem_place hform hdigit (i + 1))
  · exact .inl

/-! ## What is written -/

theorem parse_of_position? {selector : String} {n : Nat}
    (h : position? selector.toList = .ok (some n)) :
    parse selector = .ok
      { tag := tag? selector.toList
        index := some ((n : Int) - 1)
        attr := (attr? selector.toList).map String.ofList
        isImage := (word "img").occurs selector.toList || (word "picture").occurs selector.toList
        isLink := (word "a[href]").occurs selector.toList } := by
  simp only [parse, h]
  rfl

theorem index_eq (i : Nat) : (((i + 1 : Nat) : Int) - 1) = i := by omega

/-- A selector for a tag and a place says the two, and nothing else. -/
theorem parse_child (hi : (Nat.toDigits 10 (i + 1)).length ≤ maxDigits) (hne : tag ≠ "")
    (htag : ∀ c ∈ tag.toList, isWord c = true) :
    parse (child i tag) = .ok
      { tag := some tag
        index := some i
        attr := none
        isImage := decide ("img".toList <:+: tag.toList ∨ "picture".toList <:+: tag.toList)
        isLink := false } := by
  have hposition := position?_child hi htag []
  rw [List.append_nil] at hposition
  have htag? : tag? (child i tag).toList = some tag := by
    rw [toList_child]
    exact tag?_behind hne htag _
  have hbracket : '[' ∉ (child i tag).toList := by
    apply not_mem_child _ (by decide) (by decide) (by decide)
    intro hmem
    exact absurd (htag '[' hmem) (by decide)
  have himage : ((word "img").occurs (child i tag).toList
      || (word "picture").occurs (child i tag).toList)
        = decide ("img".toList <:+: tag.toList ∨ "picture".toList <:+: tag.toList) := by
    rw [Bool.eq_iff_iff, Bool.or_eq_true, word_occurs_iff, word_occurs_iff, decide_eq_true_eq,
      infix_child_iff (c := 'm') (by decide) (by decide) (by decide) (by decide),
      infix_child_iff (c := 'p') (by decide) (by decide) (by decide) (by decide)]
  have hlink : (word "a[href]").occurs (child i tag).toList = false := by
    rw [Bool.eq_false_iff, ne_eq, word_occurs_iff]
    intro h
    exact hbracket (h.mem (by decide))
  rw [parse_of_position? hposition, htag?, attr?_eq_none hbracket, himage, hlink, index_eq]
  rfl

/-- A selector for an attribute of the image at a place says so. Only a link has an `f` in it. -/
theorem parse_imageAttr (hi : (Nat.toDigits 10 (i + 1)).length ≤ maxDigits)
    (attr : String) (hne : attr ≠ "") (hattr : ']' ∉ attr.toList) (hlink : 'f' ∉ attr.toList) :
    parse (child i "img" ++ ("[" ++ attr ++ "]")) = .ok
      { tag := some "img"
        index := some i
        attr := some attr
        isImage := true
        isLink := false } := by
  have htext : (child i "img" ++ ("[" ++ attr ++ "]")).toList
      = (child i "img").toList ++ '[' :: (attr.toList ++ ']' :: []) := by
    simp
  have himg : ∀ c ∈ "img".toList, isWord c = true := List.all_eq_true.mp (by decide)
  have hposition := position?_child hi himg ('[' :: (attr.toList ++ ']' :: []))
  rw [← htext] at hposition
  have htag? : tag? (child i "img" ++ ("[" ++ attr ++ "]")).toList = some "img" := by
    rw [htext, toList_child, List.append_assoc, List.cons_append]
    exact tag?_behind (by decide) himg _
  have hattr? : attr? (child i "img" ++ ("[" ++ attr ++ "]")).toList = some attr.toList := by
    rw [htext]
    apply attr?_behind _ _ hattr
    · exact not_mem_child (by decide) (by decide) (by decide) (by decide) i
    · simpa using hne
  have himage : (word "img").occurs (child i "img" ++ ("[" ++ attr ++ "]")).toList = true := by
    rw [word_occurs_iff, htext, toList_child]
    exact List.infix_append_of_infix_left (List.infix_append_of_infix_left List.infix_rfl)
  have hnone : (word "a[href]").occurs (child i "img" ++ ("[" ++ attr ++ "]")).toList = false := by
    rw [Bool.eq_false_iff, ne_eq, word_occurs_iff]
    intro h
    have hmem : 'f' ∈ (child i "img" ++ ("[" ++ attr ++ "]")).toList := h.mem (by decide)
    rw [htext, List.mem_append] at hmem
    rcases hmem with hchild | hbehind
    · exact not_mem_child (by decide) (by decide) (by decide) (by decide) i hchild
    · simp [hlink] at hbehind
  rw [parse_of_position? hposition, htag?, hattr?, himage, hnone, index_eq, Option.map_some,
    String.ofList_toList, Bool.true_or]

/-- **What is written is read back.** A selector for a tag of word characters and a place is read as
this tag and this place, with no attribute and for no link; it is one for an image iff the tag has
the name of one in it. The selectors for the source and the alternative text of the image at a place
are read as those. -/
theorem parse_written (i : Nat) (hi : (toString i).length < maxDigits) :
    (∀ tag : String, tag ≠ "" → (∀ c ∈ tag.toList, isWord c = true) →
      ∃ parts, parse (child i tag) = .ok parts ∧ parts.tag = some tag ∧ parts.index = some (i : Int)
        ∧ parts.attr = none ∧ parts.isLink = false
        ∧ (parts.isImage = true ↔
          "img".toList <:+: tag.toList ∨ "picture".toList <:+: tag.toList))
    ∧ parse (imageSource i) = .ok ⟨some "img", some i, some "src", true, false⟩
    ∧ parse (imageAlt i) = .ok ⟨some "img", some i, some "alt", true, false⟩ := by
  rw [Nat.toString_eq_repr, ← String.length_toList, Nat.toList_repr] at hi
  have hplace : (Nat.toDigits 10 (i + 1)).length ≤ maxDigits := length_toDigits_succ_le hi
  refine ⟨?_, ?_, ?_⟩
  · intro tag hne htag
    exact ⟨_, parse_child hplace hne htag, rfl, rfl, rfl, rfl, decide_eq_true_iff⟩
  · exact parse_imageAttr hplace "src" (by decide) (by decide) (by decide)
  · exact parse_imageAttr hplace "alt" (by decide) (by decide) (by decide)

/-- The place is written with a digit more than its index, and the tag has other letters around the
name of an image. -/
theorem parse_written_framed :
    (toString 99).length < maxDigits ∧ "framed_img2" ≠ ""
      ∧ (∀ c ∈ "framed_img2".toList, isWord c = true)
      ∧ (∃ parts, parse (child 99 "framed_img2") = .ok parts ∧ parts.tag = some "framed_img2"
        ∧ parts.index = some 99 ∧ parts.attr = none ∧ parts.isLink = false ∧ parts.isImage = true)
      ∧ parse (imageSource 99) = .ok ⟨some "img", some 99, some "src", true, false⟩
      ∧ parse (imageAlt 99) = .ok ⟨some "img", some 99, some "alt", true, false⟩ := by
  have hdigits : (toString 99).length < maxDigits := by decide +kernel
  have hword : ∀ c ∈ "framed_img2".toList, isWord c = true := List.all_eq_true.mp (by decide)
  obtain ⟨hchild, hsource, halt⟩ := parse_written 99 hdigits
  obtain ⟨parts, hparts, htag, hindex, hattr, hlink, himage⟩ :=
    hchild "framed_img2" (by decide) hword
  have himg : "img".toList <:+: "framed_img2".toList := by decide
  exact ⟨hdigits, by decide, hword, ⟨parts, hparts, htag, hindex, hattr, hlink,
    himage.mpr (.inl himg)⟩, hsource, halt⟩

/-! ## The label of a place -/

/-- The first place of a selector is this number, with no more digits than are converted. -/
def HasPlace (selector : String) (n : Nat) : Prop :=
  ∃ digits, FirstPlace selector.toList digits ∧ digits.length ≤ maxDigits ∧ Writes digits n

variable {selector : String} {n : Nat}

theorem hasPlace_of_captures (digits : List Char)
    (h : (place.captures selector.toList).head? = some digits) (hshort : digits.length ≤ maxDigits)
    (hdigits : (digits.all isDecimal && digitsValue digits == n) = true) : HasPlace selector n := by
  rw [Bool.and_eq_true, List.all_eq_true, beq_iff_eq] at hdigits
  exact ⟨digits, firstPlace_iff.mpr h, hshort, writes_iff.mpr hdigits⟩

theorem label_of_hasPlace (h : HasPlace selector n) {custom : Option String}
    (hcustom : custom.getD "" = "") : label selector custom = .ok (labelAt n) := by
  obtain ⟨digits, hfirst, hshort, hwrites⟩ := h
  have hposition := position?_of_firstPlace hfirst hshort
  rw [(writes_iff.mp hwrites).2] at hposition
  rw [label_of_position? hposition]
  cases custom with
  | none => rfl
  | some l =>
    rw [Option.getD_some] at hcustom
    rw [hcustom]
    rfl

/-- Two places have one label only if they are the same, or the one in front of the first place and
the fifth. -/
theorem eq_of_labelAt_eq {m n : Nat} (h : labelAt m = labelAt n) :
    m = n ∨ (m = 0 ∧ n = 5) ∨ (m = 5 ∧ n = 0) := by
  cases m with
  | zero =>
    cases n with
    | zero => exact .inl rfl
    | succ j =>
      have hj := (labelAt_zero_eq_iff j).mp h
      omega
  | succ i =>
    cases n with
    | zero =>
      have hi := (labelAt_zero_eq_iff i).mp h.symm
      omega
    | succ j =>
      have hij := labelAt_succ_injective h
      omega

/-- **The label of a place.** Whatever text stands around its first place: without an author's label
a selector has the label of the table at this place, or behind the table a numbered one. The place
in front of the first one has the last label of the table. So selectors with one label have the same
place, unless one of them has this place and the other one the fifth. -/
theorem label_of_place (selector : String) (n : Nat) (custom : Option String)
    (hplace : HasPlace selector n) (hcustom : custom.getD "" = "") :
    ∃ l, label selector custom = .ok l
      ∧ (1 ≤ n → n ≤ 5 → labels[n - 1]? = some l)
      ∧ (5 < n → l = "Field " ++ toString n)
      ∧ (n = 0 → labels.getLast? = some l)
      ∧ ∀ selector' n' custom', HasPlace selector' n' → custom'.getD "" = "" →
        label selector' custom' = .ok l → n = n' ∨ (n = 0 ∧ n' = 5) ∨ (n = 5 ∧ n' = 0) := by
  refine ⟨labelAt n, label_of_hasPlace hplace hcustom, ?_, ?_, ?_, ?_⟩
  · intro hfirst hlast
    obtain ⟨i, rfl⟩ : ∃ i, n = i + 1 := ⟨n - 1, by omega⟩
    exact labelAt_of_lt (by omega)
  · intro hbehind
    obtain ⟨i, rfl⟩ : ∃ i, n = i + 1 := ⟨n - 1, by omega⟩
    exact labelAt_of_le (by omega)
  · intro hzero
    rw [hzero]
    rfl
  · intro selector' n' custom' hplace' hcustom' hlabel
    rw [label_of_hasPlace hplace' hcustom', Except.ok.injEq] at hlabel
    exact eq_of_labelAt_eq hlabel.symm

/-- The first brackets hold no number, the digits of the place start with zeros, and behind it
stands another one. -/
theorem label_of_place_nested :
    HasPlace "ul:nth-child(2n+1) > li:nth-child(007) a:nth-child(1)" 7
      ∧ (some "" : Option String).getD "" = ""
      ∧ label "ul:nth-child(2n+1) > li:nth-child(007) a:nth-child(1)" (some "") = .ok "Field 7" := by
  have hplace : HasPlace "ul:nth-child(2n+1) > li:nth-child(007) a:nth-child(1)" 7 :=
    hasPlace_of_captures ['0', '0', '7'] (by decide +kernel) (by decide) (by decide)
  obtain ⟨l, hl, -, hbehind, -⟩ := label_of_place _ 7 (some "") hplace rfl
  refine ⟨hplace, rfl, ?_⟩
  rw [hl, hbehind (by decide)]
  rfl

/-- The place in front of the first one is not numbered: it has the label of the fifth. -/
theorem label_zero_eq_label_five :
    HasPlace "div:nth-child(0)" 0 ∧ label "div:nth-child(0)" = .ok "Link"
      ∧ HasPlace "div:nth-child(5)" 5 ∧ label "div:nth-child(5)" = .ok "Link" := by
  have hzero : HasPlace "div:nth-child(0)" 0 :=
    hasPlace_of_captures ['0'] (by decide +kernel) (by decide) (by decide)
  have hfive : HasPlace "div:nth-child(5)" 5 :=
    hasPlace_of_captures ['5'] (by decide +kernel) (by decide) (by decide)
  exact ⟨hzero, label_of_hasPlace hzero rfl, hfive, label_of_hasPlace hfive rfl⟩

end Selector

end BlockAuthoring
