import BlockAuthoring.Disk.Path
import Mathlib.Data.List.Infix

/-!
# Paths and their texts

Every path that is made out of texts is normal: no name in it is empty, a single dot, or holds a
slash. A normal path is read back from its text.
-/

namespace BlockAuthoring.Path

/-- The text names something in a folder, or leads out of it. -/
def IsFileName (name : String) : Prop := name ≠ "" ∧ name ≠ "." ∧ '/' ∉ name.toList

/-- The path has at most two leading slashes, and its names are names. -/
structure Normal (p : Path) : Prop where
  leading : p.leading ≤ 2
  names : ∀ name ∈ p.names, IsFileName name

/-! ## Parts between slashes -/

theorem slashParts_ne_nil (text : List Char) : slashParts text ≠ [] := by
  fun_induction slashParts text <;> simp

theorem slashParts_cons {c : Char} (hc : c ≠ '/') {rest part : List Char}
    {parts : List (List Char)} (h : slashParts rest = part :: parts) :
    slashParts (c :: rest) = (c :: part) :: parts := by
  rw [slashParts, h]
  exact hc

theorem slashParts_append {part : List Char} (hpart : '/' ∉ part) (rest : List Char) :
    slashParts (part ++ '/' :: rest) = part :: slashParts rest := by
  induction part with
  | nil => rfl
  | cons c part ih =>
    simp only [List.mem_cons, not_or] at hpart
    exact slashParts_cons (Ne.symm hpart.1) (ih hpart.2)

theorem slashParts_of_not_mem {part : List Char} (hpart : '/' ∉ part) :
    slashParts part = [part] := by
  induction part with
  | nil => rfl
  | cons c part ih =>
    simp only [List.mem_cons, not_or] at hpart
    exact slashParts_cons (Ne.symm hpart.1) (ih hpart.2)

theorem not_mem_of_mem_slashParts {text part : List Char} (h : part ∈ slashParts text) :
    '/' ∉ part := by
  fun_induction slashParts text generalizing part with
  | case1 => simp_all
  | case2 rest ih =>
    rcases List.mem_cons.mp h with rfl | h
    · simp
    · exact ih h
  | case3 c rest hc first parts hparts ih =>
    have hc' : c ≠ '/' := fun h => hc h
    rcases List.mem_cons.mp h with rfl | h
    · simp only [List.mem_cons, not_or]
      exact ⟨Ne.symm hc', ih (by simp [hparts])⟩
    · exact ih (by simp [hparts, h])
  | case4 c rest hc hparts ih => exact absurd hparts (slashParts_ne_nil rest)

/-- Joined with slashes, parts without a slash are found again. -/
theorem slashParts_intercalate {parts : List (List Char)} (hne : parts ≠ [])
    (h : ∀ part ∈ parts, '/' ∉ part) : slashParts (['/'].intercalate parts) = parts := by
  induction parts with
  | nil => exact absurd rfl hne
  | cons part parts ih =>
    rw [List.forall_mem_cons] at h
    cases parts with
    | nil => simpa using slashParts_of_not_mem h.1
    | cons next parts =>
      rw [List.intercalate_cons_cons, List.append_assoc, List.singleton_append,
        slashParts_append h.1, ih (by simp) h.2]

/-! ## Normal paths -/

theorem isName_iff (part : List Char) :
    isName part = true ↔ part ≠ [] ∧ part ≠ ['.'] := by
  simp [isName]

theorem normal_ofString (text : String) : (ofString text).Normal where
  leading := by
    simp only [ofString]
    split <;> omega
  names := by
    intro name hname
    simp only [ofString, List.mem_map, List.mem_filter, isName_iff] at hname
    obtain ⟨part, ⟨hpart, hempty, hdot⟩, rfl⟩ := hname
    refine ⟨?_, ?_, ?_⟩
    · simpa [← String.toList_inj] using hempty
    · simpa [← String.toList_inj] using hdot
    · simpa using not_mem_of_mem_slashParts hpart

theorem Normal.append {p q : Path} (hp : p.Normal) (hq : q.Normal) : (p.append q).Normal := by
  unfold Path.append
  split
  · exact hq
  · refine ⟨hp.leading, fun name hname => ?_⟩
    exact (List.mem_append.mp hname).elim (hp.names name) (hq.names name)

theorem Normal.join {p : Path} (hp : p.Normal) (text : String) : (p.join text).Normal :=
  hp.append (normal_ofString text)

/-- A text that starts with no slash has none in front. -/
theorem takeWhile_slash {text : List Char} (h : text.head? ≠ some '/') :
    text.takeWhile (· == '/') = [] := by
  cases text with
  | nil => rfl
  | cons c rest =>
    rw [List.takeWhile_cons_of_neg]
    simpa using h

theorem IsFileName.isName {name : String} (h : IsFileName name) : isName name.toList = true := by
  obtain ⟨hempty, hdot, -⟩ := h
  rw [isName_iff]
  refine ⟨by simpa using hempty, fun hchars => hdot ?_⟩
  rw [← String.toList_inj, hchars]
  rfl

theorem IsFileName.head?_ne {name : String} (h : IsFileName name) (rest : List Char) :
    (name.toList ++ rest).head? ≠ some '/' := by
  obtain ⟨hempty, -, hslash⟩ := h
  cases hname : name.toList with
  | nil => exact absurd (String.toList_eq_nil_iff.mp hname) hempty
  | cons c cs =>
    rw [hname] at hslash
    simp only [List.mem_cons, not_or] at hslash
    simpa using Ne.symm hslash.1

/-- A name is a path of one step. -/
theorem ofString_of_isFileName {name : String} (h : IsFileName name) :
    ofString name = ⟨0, [name]⟩ := by
  have hleading : name.toList.takeWhile (· == '/') = [] :=
    takeWhile_slash (by simpa using h.head?_ne [])
  simp [ofString, hleading, slashParts_of_not_mem h.2.2, h.isName]

theorem join_of_isFileName (p : Path) {name : String} (h : IsFileName name) :
    p.join name = ⟨p.leading, p.names ++ [name]⟩ := by
  rw [join, ofString_of_isFileName h]
  rfl

/-! ## Null bytes -/

@[simp] theorem name_child (p : Path) (name : String) : (p.child name).name = name := by
  rw [Path.name, child, List.getLastD_concat]

/-- Inside of one folder the order of paths is that of names. -/
theorem isBefore_child (p : Path) (name name' : String) :
    (p.child name).isBefore (p.child name') = decide (name < name') := by
  have hnames (names : List String) : names ++ [name] < names ++ [name'] ↔ name < name' := by
    induction names with
    | nil => simp [List.cons_lt_cons_iff]
    | cons first names ih => simp [ih]
  rw [isBefore, decide_eq_decide]
  by_cases habsolute : p.isAbsolute
  · have hparts (n : String) : (p.child n).parts
        = (String.ofList (List.replicate p.leading '/') :: p.names) ++ [n] := if_pos habsolute
    rw [hparts, hparts, hnames]
  · have hparts (n : String) : (p.child n).parts = p.names ++ [n] := if_neg habsolute
    rw [hparts, hparts, hnames]

theorem holdsNull_parent {p : Path} (h : p.holdsNull = false) : p.parent.holdsNull = false := by
  rw [holdsNull, List.any_eq_false] at h ⊢
  exact fun name hname => h name (List.mem_of_mem_dropLast hname)

theorem holdsNull_join {p : Path} {name : String} (hname : IsFileName name)
    (hbytes : holdsNullByte name = false) : (p.join name).holdsNull = p.holdsNull := by
  simp [holdsNull, join_of_isFileName p hname, hbytes]

/-! ## Reading a path back -/

/-- The slashes in front of a text open empty parts. -/
theorem slashParts_replicate (k : Nat) (rest : List Char) :
    slashParts (List.replicate k '/' ++ rest) = List.replicate k [] ++ slashParts rest := by
  induction k with
  | zero => rfl
  | succ k ih =>
    rw [List.replicate_succ, List.replicate_succ, List.cons_append, slashParts, ih]
    rfl

theorem takeWhile_replicate {k : Nat} {rest : List Char} (h : rest.head? ≠ some '/') :
    (List.replicate k '/' ++ rest).takeWhile (· == '/') = List.replicate k '/' := by
  rw [List.takeWhile_append_of_pos (by simp), takeWhile_slash h, List.append_nil]

/-- The text of the names of a path. -/
def joined (names : List String) : List Char := ['/'].intercalate (names.map String.toList)

theorem head?_joined {names : List String} (h : ∀ name ∈ names, IsFileName name) :
    (joined names).head? ≠ some '/' := by
  cases names with
  | nil => simp [joined]
  | cons name names =>
    have hname := h name List.mem_cons_self
    cases names with
    | nil => simpa [joined] using hname.head?_ne []
    | cons next names =>
      rw [joined, List.map_cons, List.map_cons, List.intercalate_cons_cons, List.append_assoc]
      exact hname.head?_ne _

theorem slashParts_joined {names : List String} (h : ∀ name ∈ names, IsFileName name) :
    ((slashParts (joined names)).filter isName).map String.ofList = names := by
  by_cases hne : names = []
  · subst hne
    rfl
  · have hslashes : ∀ part ∈ names.map String.toList, '/' ∉ part :=
      List.forall_mem_map.mpr fun name hname => (h name hname).2.2
    have hnames : ∀ part ∈ names.map String.toList, isName part = true :=
      List.forall_mem_map.mpr fun name hname => (h name hname).isName
    rw [joined, slashParts_intercalate (by simpa using hne) hslashes,
      List.filter_eq_self.mpr hnames, List.map_map]
    simp

theorem toList_toString {p : Path} (h : ¬ (p.leading = 0 ∧ p.names = [])) :
    p.toString.toList = List.replicate p.leading '/' ++ joined p.names := by
  have hnot : (decide (p.leading = 0) && p.names.isEmpty) = false := by
    simpa [Bool.and_eq_false_imp] using h
  rw [toString, hnot]
  simp [joined, String.toList_intercalate]

/-- A normal path is read back from its text. -/
theorem ofString_toString {p : Path} (hp : p.Normal) : ofString p.toString = p := by
  obtain ⟨leading, names⟩ := p
  by_cases hhere : leading = 0 ∧ names = []
  · obtain ⟨rfl, rfl⟩ := hhere
    decide
  · have hleading : leading ≤ 2 := hp.leading
    have hnames : ∀ name ∈ names, IsFileName name := hp.names
    have hempty : (List.replicate leading ([] : List Char)).filter isName = [] := by
      simp [isName]
    rw [ofString, toList_toString hhere, takeWhile_replicate (head?_joined hnames),
      slashParts_replicate, List.filter_append, hempty, List.nil_append,
      slashParts_joined hnames, List.length_replicate]
    congr 1
    dsimp only
    split <;> omega

theorem toString_ne_empty {p : Path} (hp : p.Normal) : p.toString ≠ "" := by
  intro hempty
  have hhere : p = here := by
    rw [← ofString_toString hp, hempty]
    decide
  rw [hhere] at hempty
  exact absurd hempty (by decide)

end BlockAuthoring.Path
