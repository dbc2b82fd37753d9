import BlockAuthoring.Analysis.Analyze
import BlockAuthoring.Proofs.Collecting
import BlockAuthoring.Proofs.Surface.Placement

/-!
# What a record says about its text

The analysis applies its rules one after another, and each rule may overrule the ones before. Here
the outcome is said at once, in terms of what stands somewhere in the text: a call that reads the
block as a configuration, a spread of the block's own children, an iteration, an index literal.

`Inferred` ties a record to these facts, and `analyzeSource_inferred` proves that the record of
every accepted source is tied to them.
-/

namespace BlockAuthoring.Analysis

open Text Surface

/-! ## The facts of a text -/

/-- The reader of configurations is called: its name, white space, an opening parenthesis. -/
def ReadsConfig (text : List Char) : Prop :=
  ∃ blanks, (∀ c ∈ blanks, isSpace c = true)
    ∧ "readBlockConfig".toList ++ blanks ++ "(".toList <:+: text

/-- All children of the block itself are spread into an array. -/
def SpreadsChildren (text : List Char) : Prop := "[...block.children]".toList <:+: text

/-- Something is iterated over. -/
def Iterates (text : List Char) : Prop := ".forEach".toList <:+: text

/-- An iteration takes an arrow function: behind its two parentheses, a closing one, white space
and the arrow follow before the line ends. -/
def IteratesWithArrow (text : List Char) : Prop :=
  ∃ line blanks, '\n' ∉ line ∧ (∀ c ∈ blanks, isSpace c = true)
    ∧ ".forEach((".toList ++ (line ++ ')' :: blanks ++ "=>".toList) <:+: text

/-- The attribute that names an item's model is mentioned. -/
def NamesModel (text : List Char) : Prop := "data-aue-model".toList <:+: text

/-- The children are indexed by a literal with these digits. -/
def IndexLiteral (text ds : List Char) : Prop :=
  ds ≠ [] ∧ (∀ c ∈ ds, isDecimal c = true)
    ∧ ".children[".toList ++ ds ++ "]".toList <:+: text

/-- The child with this index is reached into by a literal. -/
def ChildIndex (text : List Char) (i : Nat) : Prop :=
  ∃ ds, IndexLiteral text ds ∧ digitsValue ds = i

/-! ### The patterns find the facts -/

variable {text : List Char}

theorem readBlockConfig_occurs_iff (text : List Char) :
    readBlockConfig.occurs text = true ↔ ReadsConfig text := by
  have hparen : "(".toList = '(' :: [] := rfl
  simp only [Pattern.occurs_iff, readBlockConfig, spaced_isSome_iff hparen (by decide),
    ReadsConfig, List.infix_iff_prefix_suffix]
  constructor
  · rintro ⟨t, ht, blanks, hblanks, hpre⟩
    exact ⟨blanks, hblanks, t, hpre, ht⟩
  · rintro ⟨blanks, hblanks, t, hpre, ht⟩
    exact ⟨t, ht, blanks, hblanks, hpre⟩

theorem forEachArrow_occurs_iff (text : List Char) :
    forEachArrow.occurs text = true ↔ IteratesWithArrow text := by
  have hfront : ∀ t, (forEachArrow t).isSome = true ↔
      ∃ rest, behind ".forEach((" t = some rest ∧ (lastArrow 10 rest).isSome = true := by
    intro t
    unfold forEachArrow
    cases behind ".forEach((" t with
    | none => simp
    | some rest => cases h : lastArrow 10 rest <;> simp [h]
  simp only [Pattern.occurs_iff, hfront, behind_eq_some_iff, lastArrow_isSome_iff,
    IteratesWithArrow, List.infix_iff_prefix_suffix]
  constructor
  · rintro ⟨t, ht, rest, rfl, line, blanks, hline, hblanks, hpre⟩
    exact ⟨line, blanks, hline, hblanks, _, (List.prefix_append_right_inj _).mpr hpre, ht⟩
  · rintro ⟨line, blanks, hline, hblanks, t, ⟨tail, rfl⟩, ht⟩
    refine ⟨_, ht, line ++ ')' :: blanks ++ "=>".toList ++ tail, ?_, line, blanks, hline, hblanks,
      List.prefix_append _ _⟩
    simp

theorem indexAccess_encloses : Encloses ".children[" isDecimal "]" where
  opening := ⟨'.', "children[".toList, rfl, by decide, by decide, by decide⟩
  closing := ⟨']', [], rfl, by decide⟩

theorem mem_captures_indexAccess_iff (ds : List Char) :
    ds ∈ indexAccess.captures text ↔ IndexLiteral text ds :=
  indexAccess_encloses.mem_captures_iff text ds

theorem indexAccess_occurs_iff (text : List Char) :
    indexAccess.occurs text = true ↔ ∃ i, ChildIndex text i := by
  rw [indexAccess, indexAccess_encloses.occurs_iff]
  simp only [← indexAccess.eq_def, mem_captures_indexAccess_iff]
  constructor
  · rintro ⟨ds, hds⟩
    exact ⟨_, ds, hds, rfl⟩
  · rintro ⟨i, ds, hds, -⟩
    exact ⟨ds, hds⟩

theorem spreadAccess_encloses : Encloses "[..." isWord ".children]" where
  opening := ⟨'[', "...".toList, rfl, by decide, by decide, by decide⟩
  closing := ⟨'.', "children]".toList, rfl, by decide⟩

theorem spreadsBlock_iff : spreadsBlock text = true ↔ SpreadsChildren text := by
  rw [spreadsBlock, List.contains_iff_mem, spreadAccess,
    spreadAccess_encloses.mem_captures_iff]
  constructor
  · rintro ⟨-, -, hin⟩
    exact hin
  · intro hin
    exact ⟨by decide, List.all_eq_true.mp (by decide), hin⟩

theorem containerBySigns_iff (start : Bool) :
    containerBySigns start text = true ↔
      (∀ i, ¬ ChildIndex text i)
        ∧ (NamesModel text ∨ IteratesWithArrow text ∨ start = true) := by
  have hindex := indexAccess_occurs_iff text
  have hmodel := word_occurs_iff "data-aue-model" text
  have harrow := forEachArrow_occurs_iff text
  rw [← not_exists, ← hindex, NamesModel, ← hmodel, ← harrow]
  -- The index comes last in the table of signs, so that it decides whenever it is found.
  simp only [containerBySigns, containerSigns, List.foldl_cons, List.foldl_nil]
  cases indexAccess.occurs text <;> cases (word "data-aue-model").occurs text <;>
    cases forEachArrow.occurs text <;> simp

/-! ## Indices and columns -/

/-- Both searches find the same digits. -/
theorem firstDigits_matched {o : Occurrence} (ho : o ∈ indexAccess.scan text) :
    o.captured ≠ [] ∧ firstDigits (o.matched text) = o.captured := by
  obtain ⟨m, hm, hstop, hcaptured⟩ := (Pattern.mem_scan_iff indexAccess_encloses.apart).mp ho
  obtain ⟨hne, hdecimal, ⟨rest, hrest⟩, hlength⟩ :=
    (run_eq_some_iff (show "]".toList = ']' :: [] from rfl) (by decide) ".children[" _ m).mp hm
  have hmatched : o.matched text = ".children[".toList ++ (m.captured ++ "]".toList) := by
    have hall : (".children[".toList ++ m.captured ++ "]".toList).length = m.length := by
      rw [hlength]
      simp only [List.length_append, String.length_toList]
    rw [Occurrence.matched, hstop, Nat.add_sub_cancel_left, ← hrest, List.take_left' hall,
      List.append_assoc]
  have hfront : ∀ c ∈ ".children[".toList, (!isDecimal c) = true :=
    List.all_eq_true.mp (by decide)
  obtain ⟨d, ds, hds⟩ := List.exists_cons_of_ne_nil hne
  have hd : isDecimal d = true := hdecimal d (hds ▸ List.mem_cons_self)
  rw [hcaptured]
  refine ⟨hne, ?_⟩
  rw [firstDigits, hmatched, List.dropWhile_append_of_pos hfront, hds, List.cons_append,
    List.dropWhile_cons_of_neg (by simp [hd]), ← List.cons_append, ← hds,
    List.takeWhile_append_of_pos hdecimal]
  exact List.append_nil _

/-- So the indices are those of the digits that the pattern captures. -/
theorem childIndices_eq (text : List Char) :
    childIndices text = (indexAccess.captures text).mapM fun ds =>
      if maxDigits < ds.length then .error (.indexTooLong ds.length) else .ok (digitsValue ds) := by
  rw [childIndices, Pattern.captures, List.mapM_map]
  refine filterMapM_eq_mapM _ fun o ho => ?_
  obtain ⟨hne, hdigits⟩ := firstDigits_matched ho
  rw [indexIn?, hdigits]
  simp only [List.isEmpty_iff, hne, if_false, Function.comp_apply]
  by_cases hlong : maxDigits < o.captured.length
  · rw [if_pos hlong, if_pos hlong]
    rfl
  · rw [if_neg hlong, if_neg hlong]
    rfl

/-- Indices are read iff all of them are short enough, and then they are the values of the literals
in the order of the text. -/
theorem childIndices_eq_ok_iff (indices : List Nat) :
    childIndices text = .ok indices ↔
      (∀ ds, IndexLiteral text ds → ds.length ≤ maxDigits)
        ∧ indices = (indexAccess.captures text).map digitsValue := by
  have hstep : ∀ ds n, (if maxDigits < ds.length then
      Except.error (AnalysisError.indexTooLong ds.length) else .ok (digitsValue ds)) = .ok n ↔
        ds.length ≤ maxDigits ∧ digitsValue ds = n := by
    intro ds n
    split <;> simp <;> omega
  simp only [childIndices_eq, mapM_eq_ok_iff, hstep, List.forall₂_and_left,
    ← mem_captures_indexAccess_iff]
  rw [← List.forall₂_map_left_iff (R := Eq), List.forall₂_eq_eq_eq, @eq_comm _ indices]

theorem mem_childIndices_iff {indices : List Nat} (h : childIndices text = .ok indices) (i : Nat) :
    i ∈ indices ↔ ChildIndex text i := by
  obtain ⟨-, rfl⟩ := (childIndices_eq_ok_iff indices).mp h
  simp only [List.mem_map, mem_captures_indexAccess_iff, ChildIndex]

/-- The columns that the facts of a text call for. -/
inductive Columns (text : List Char) : Nat → Prop where
  | config (h : ReadsConfig text) : Columns text 2
  | indexed (h : ¬ ReadsConfig text) (most : Nat) (hmost : ChildIndex text most)
      (hle : ∀ i, ChildIndex text i → i ≤ most) : Columns text (most + 1)
  | plain (h : ¬ ReadsConfig text) (hnone : ∀ i, ¬ ChildIndex text i) : Columns text 1

theorem Columns.unique {m n : Nat} (hm : Columns text m) (hn : Columns text n) : m = n := by
  cases hm with
  | config h =>
    cases hn with
    | config _ => rfl
    | indexed h' _ _ _ => exact absurd h h'
    | plain h' _ => exact absurd h h'
  | indexed h most hmost hle =>
    cases hn with
    | config h' => exact absurd h' h
    | indexed _ most' hmost' hle' =>
      have := hle most' hmost'
      have := hle' most hmost
      omega
    | plain _ hnone => exact absurd hmost (hnone most)
  | plain h hnone =>
    cases hn with
    | config h' => exact absurd h' h
    | indexed _ most hmost _ => exact absurd hmost (hnone most)
    | plain _ _ => rfl

/-- The count that the analysis starts from is never larger than an index plus one. -/
theorem columns_of_indices (hconfig : ¬ ReadsConfig text) {indices : List Nat}
    (hindices : ∀ i, i ∈ indices ↔ ChildIndex text i) :
    Columns text (indices.foldl (fun most i => max most (i + 1)) 1) := by
  -- The fold is the maximum of one and of all indices plus one.
  rw [← List.foldl_map (f := (· + 1)) (g := max), List.foldl_max]
  cases hmost : (indices.map (· + 1)).max? with
  | none =>
    refine .plain hconfig fun i hi => ?_
    rw [List.max?_eq_none_iff, List.map_eq_nil_iff] at hmost
    exact absurd ((hindices i).mpr hi) (by simp [hmost])
  | some top =>
    obtain ⟨hmem, hle⟩ := List.max?_eq_some_iff.mp hmost
    obtain ⟨most, hin, rfl⟩ := List.mem_map.mp hmem
    have hcolumns : Columns text (most + 1) := by
      refine .indexed hconfig most ((hindices most).mp hin) fun i hi => ?_
      have := hle (i + 1) (List.mem_map.mpr ⟨i, (hindices i).mpr hi, rfl⟩)
      omega
    simpa using hcolumns

/-! ## The record -/

instance : Decidable (ReadsConfig text) :=
  decidable_of_iff (readBlockConfig.occurs text = true) (readBlockConfig_occurs_iff text)

instance : Decidable (SpreadsChildren text) :=
  inferInstanceAs (Decidable ("[...block.children]".toList <:+: text))

instance : Decidable (Iterates text) :=
  inferInstanceAs (Decidable (".forEach".toList <:+: text))

/-- What the facts of a text make of its record. -/
structure Inferred (text : List Char) (r : AnalysisRecord) : Prop where
  usesReadBlockConfig : r.usesReadBlockConfig = true ↔ ReadsConfig text
  type : r.expectedStructure.type =
    if ReadsConfig text then .configTable else if SpreadsChildren text then .table else .unknown
  rows : r.expectedStructure.rows =
    if ReadsConfig text ∨ (SpreadsChildren text ∧ Iterates text) then .multiple else .count 1
  columns : Columns text r.expectedStructure.columns
  isContainer : r.isContainer = true ↔
    (∀ i, ¬ ChildIndex text i)
      ∧ (NamesModel text ∨ IteratesWithArrow text
        ∨ (¬ ReadsConfig text ∧ SpreadsChildren text ∧ Iterates text))

/-- The facts leave nothing open. -/
theorem Inferred.unique {r r' : AnalysisRecord} (h : Inferred text r) (h' : Inferred text r') :
    r.expectedStructure = r'.expectedStructure ∧ r.isContainer = r'.isContainer
      ∧ r.usesReadBlockConfig = r'.usesReadBlockConfig := by
  refine ⟨?_, ?_, ?_⟩
  · have htype := h.type.trans h'.type.symm
    have hrows := h.rows.trans h'.rows.symm
    have hcolumns := h.columns.unique h'.columns
    cases hr : r.expectedStructure
    cases hr' : r'.expectedStructure
    simp_all
  · exact Bool.eq_iff_iff.mpr (h.isContainer.trans h'.isContainer.symm)
  · exact Bool.eq_iff_iff.mpr (h.usesReadBlockConfig.trans h'.usesReadBlockConfig.symm)

theorem recordOf_inferred {indices : List Nat} (h : childIndices text = .ok indices) :
    Inferred text (recordOf text indices) := by
  have hconfig := readBlockConfig_occurs_iff text
  have hiterates : (word ".forEach").occurs text = true ↔ Iterates text := word_occurs_iff _ _
  have hspread : (spreadsBlock text = true ∧ (!readBlockConfig.occurs text) = true) ↔
      ¬ ReadsConfig text ∧ SpreadsChildren text := by
    rw [Bool.not_eq_true', ← Bool.not_eq_true, hconfig, spreadsBlock_iff, and_comm]
  refine ⟨hconfig, ?_, ?_, ?_, ?_⟩
  · simp only [recordOf, Bool.and_eq_true, hconfig, hspread]
    by_cases hreads : ReadsConfig text <;> simp [hreads]
  · simp only [recordOf, Bool.or_eq_true, Bool.and_eq_true, hconfig, hspread, hiterates]
    by_cases hreads : ReadsConfig text <;> simp [hreads]
  · simp only [recordOf, hconfig]
    split
    · exact .config ‹_›
    · exact columns_of_indices ‹_› (mem_childIndices_iff h)
  · simp only [recordOf, containerBySigns_iff, Bool.and_eq_true, hspread, hiterates, and_assoc]

/-! ## Accepted sources -/

/-- A source without surrogates is nothing but its characters. -/
theorem eq_ofChars_of_noSurrogate {source : Script.Source}
    (h : ∀ c ∈ source, c.isSurrogate = false) :
    source = .ofChars (source.filterMap Script.CodePoint.char?) := by
  induction source with
  | nil => rfl
  | cons point rest ih =>
    obtain ⟨hpoint, hrest⟩ := List.forall_mem_cons.mp h
    cases point with
    | surrogate unit => cases hpoint
    | scalar c => exact congrArg (Script.CodePoint.scalar c :: ·) (ih hrest)

theorem eq_ofChars_of_accepted {source : Script.Source}
    (haccepted : (Script.moduleTree source).isOk = true) :
    source = .ofChars (source.filterMap Script.CodePoint.char?) := by
  apply eq_ofChars_of_noSurrogate
  cases hfirst : source.firstSurrogate with
  | none => exact List.findIdx?_eq_none_iff.mp (Option.map_eq_none_iff.mp hfirst)
  | some place =>
    rw [Script.moduleTree, hfirst] at haccepted
    cases haccepted

/-- The record of a source is that of its characters and of the child indices in them. -/
theorem exists_indices_of_analyzeSource {source : Script.Source} {r : AnalysisRecord}
    (h : analyzeSource source = .ok r) :
    ∃ indices, childIndices (source.filterMap Script.CodePoint.char?) = .ok indices
      ∧ r = recordOf (source.filterMap Script.CodePoint.char?) indices := by
  unfold analyzeSource at h
  split at h
  · cases h
  · unfold analyzeModule at h
    cases hindices : childIndices (source.filterMap Script.CodePoint.char?) with
    | error e => rw [hindices] at h; cases h
    | ok indices =>
      rw [hindices] at h
      cases h
      exact ⟨indices, rfl, rfl⟩

/-- **The record of an accepted source.** A source that passes the gate is nothing but its
characters. If its index literals have no more digits than are converted, it is analyzed, and the
shape of its table and whether it is a container follow from the facts of its text alone. -/
theorem analyzeSource_inferred (source : Script.Source) (text : List Char)
    (htext : source.filterMap Script.CodePoint.char? = text)
    (haccepted : (Script.moduleTree source).isOk = true)
    (hshort : ∀ ds, IndexLiteral text ds → ds.length ≤ maxDigits) :
    source = .ofChars text ∧ ∃ r, analyzeSource source = .ok r ∧ Inferred text r := by
  obtain ⟨root, hroot⟩ : ∃ root, Script.moduleTree source = .ok root := by
    cases htree : Script.moduleTree source with
    | error refusal => rw [htree] at haccepted; cases haccepted
    | ok root => exact ⟨root, rfl⟩
  constructor
  · rw [← htext]
    exact eq_ofChars_of_accepted haccepted
  · have hindices := (childIndices_eq_ok_iff _).mpr ⟨hshort, rfl⟩
    refine ⟨_, ?_, recordOf_inferred hindices⟩
    rw [analyzeSource, hroot, htext, analyzeModule, hindices]
    rfl

/-- The rows of a block are spread and iterated over, and the third child of each is taken. -/
def spreadText : List Char := "[...block.children].forEach(row => row.children[2]);".toList

theorem analyzeSource_spreadText :
    (Script.moduleTree (.ofChars spreadText)).isOk = true
      ∧ (∀ ds, IndexLiteral spreadText ds → ds.length ≤ maxDigits)
      ∧ (analyzeSource (.ofChars spreadText)).toOption.map (·.expectedStructure)
        = some ⟨.table, .multiple, 3⟩
      ∧ ∃ r, analyzeSource (.ofChars spreadText) = .ok r ∧ Inferred spreadText r := by
  have haccepted : (Script.moduleTree (.ofChars spreadText)).isOk = true := by decide +kernel
  have hshort : ∀ ds, IndexLiteral spreadText ds → ds.length ≤ maxDigits := by
    rintro ds ⟨-, -, hin⟩
    have hlength := hin.length_le
    have htext : spreadText.length ≤ maxDigits := by decide
    simp only [List.length_append] at hlength
    omega
  have htext : (Script.Source.ofChars spreadText).filterMap Script.CodePoint.char? = spreadText := by
    decide
  exact ⟨haccepted, hshort, by decide +kernel,
    (analyzeSource_inferred (.ofChars spreadText) spreadText htext haccepted hshort).2⟩

end BlockAuthoring.Analysis
