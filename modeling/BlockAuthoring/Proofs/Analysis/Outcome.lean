import BlockAuthoring.Proofs.Analysis.Inference
import BlockAuthoring.Proofs.Analysis.Reading
import BlockAuthoring.Proofs.Script.Comment

/-!
# How an analysis ends

A source that the gate accepts is analyzed, unless an index literal in it has more digits than are
converted. The gate does not look at the digits: it accepts such a literal even in a comment, where
the analysis reads it like any other.

`Outcome` lists the ends of an analysis, and `analyzeSource_outcome` proves that every source comes
to one of them.
-/

namespace BlockAuthoring

open Text Surface

/-! ## Sources without surrogates -/

namespace Script

theorem Source.firstSurrogate_ofChars (cs : List Char) : (ofChars cs).firstSurrogate = none := by
  have hnone : (ofChars cs).findIdx? CodePoint.isSurrogate = none := by
    simp [ofChars, CodePoint.isSurrogate]
  rw [firstSurrogate, hnone]
  rfl

theorem Source.filterMap_ofChars (cs : List Char) : (ofChars cs).filterMap CodePoint.char? = cs := by
  induction cs with
  | nil => rfl
  | cons c cs ih => exact congrArg (c :: ·) ih

theorem Source.ofChars_injective : Function.Injective ofChars :=
  Function.LeftInverse.injective filterMap_ofChars

theorem moduleTree_ofChars (cs : List Char) : moduleTree (.ofChars cs) = moduleOfText cs := by
  rw [moduleTree, Source.firstSurrogate_ofChars, Source.filterMap_ofChars]

end Script

/-- A script in a string is analyzed as the source of its characters. -/
theorem analyze_eq_analyzeSource (code : String) :
    analyze code = analyzeSource (.ofChars code.toList) := by
  rw [analyze, analyzeSource, Script.moduleTree_ofChars, Script.Source.filterMap_ofChars]

namespace Analysis

theorem analyzeSource_of_accepted {source : Script.Source} {indices : List Nat}
    (haccepted : (Script.moduleTree source).isOk = true)
    (hindices : childIndices (source.filterMap Script.CodePoint.char?) = .ok indices) :
    analyzeSource source
      = .ok (recordOf (source.filterMap Script.CodePoint.char?) indices) := by
  cases htree : Script.moduleTree source with
  | error refusal =>
    rw [htree] at haccepted
    cases haccepted
  | ok root =>
    rw [analyzeSource, htree, analyzeModule, hindices]
    rfl

theorem analyzeSource_ofChars {text : List Char} {indices : List Nat}
    (haccepted : (Script.moduleTree (.ofChars text)).isOk = true)
    (hindices : childIndices text = .ok indices) :
    analyzeSource (.ofChars text) = .ok (recordOf text indices) := by
  rw [← Script.Source.filterMap_ofChars text] at hindices
  rw [analyzeSource_of_accepted haccepted hindices, Script.Source.filterMap_ofChars]

/-- An accepted source is nothing but a text. There is a record of it if its index literals are
short enough, and every record of it is that of the child indices in the text. -/
theorem exists_text_of_accepted {source : Script.Source}
    (haccepted : (Script.moduleTree source).isOk = true) :
    ∃ text, source = .ofChars text
      ∧ ((∀ ds, IndexLiteral text ds → ds.length ≤ maxDigits) → ∃ r, analyzeSource source = .ok r)
      ∧ ∀ r, analyzeSource source = .ok r →
        ∃ indices, childIndices text = .ok indices ∧ r = recordOf text indices := by
  refine ⟨_, eq_ofChars_of_accepted haccepted, fun hshort => ?_,
    fun r => exists_indices_of_analyzeSource⟩
  have hindices := (childIndices_eq_ok_iff _).mpr ⟨hshort, rfl⟩
  exact ⟨_, analyzeSource_of_accepted haccepted hindices⟩

/-! ## The first literal that is too long -/

/-- The first index literal of a text that has more digits than are converted has this many. -/
inductive FirstTooLong (text : List Char) : Nat → Prop where
  | literal (before ds after : List Char)
      (htext : text = before ++ (".children[".toList ++ ds ++ "]".toList) ++ after)
      (hdecimal : ∀ c ∈ ds, isDecimal c = true) (hlong : maxDigits < ds.length)
      (hbefore : ∀ ds', IndexLiteral before ds' → ds'.length ≤ maxDigits) :
      FirstTooLong text ds.length

variable {text : List Char}

theorem indexAccess_captured?_iff (ds : List Char) :
    indexAccess.captured? text = some ds ↔
      ds ≠ [] ∧ (∀ c ∈ ds, isDecimal c = true)
        ∧ ".children[".toList ++ ds ++ "]".toList <+: text :=
  run_captured?_iff (show "]".toList = ']' :: [] from rfl) (by decide) ".children[" text ds

/-- Indices are not read only because of the first literal that is too long. -/
theorem firstTooLong_of_childIndices {e : AnalysisError} (h : childIndices text = .error e) :
    ∃ digits, e = .indexTooLong digits ∧ FirstTooLong text digits := by
  rw [childIndices_eq] at h
  obtain ⟨before, ds, after, hcaptures, hfails, hearlier⟩ := exists_of_mapM_eq_error h
  have hlong : maxDigits < ds.length ∧ e = .indexTooLong ds.length := by
    split at hfails <;> cases hfails
    exact ⟨‹_›, rfl⟩
  obtain ⟨k, hk, hin⟩ := Pattern.exists_of_captures_eq indexAccess_encloses.apart hcaptures
  obtain ⟨-, hdecimal, rest, hrest⟩ := (indexAccess_captured?_iff ds).mp hk
  have htext : text = text.take k ++ (".children[".toList ++ ds ++ "]".toList) ++ rest := by
    rw [List.append_assoc, hrest, List.take_append_drop]
  refine ⟨_, hlong.2, .literal _ ds rest htext hdecimal hlong.1 fun ds' hds' => ?_⟩
  -- A literal that lies in front is captured before this one, so it was converted.
  obtain ⟨hne, hdecimal', front, between, hfront⟩ := hds'
  have hplace : front.length < k := by
    have hlength := congrArg List.length hfront
    simp only [List.length_append, List.length_take] at hlength
    have hopening : 0 < ".children[".toList.length := by decide
    omega
  have hcaptured : indexAccess.captured? (text.drop front.length) = some ds' := by
    refine (indexAccess_captured?_iff ds').mpr ⟨hne, hdecimal', ?_⟩
    have hrest : text.drop front.length = ".children[".toList ++ ds' ++ "]".toList
        ++ (between ++ (".children[".toList ++ ds ++ "]".toList ++ rest)) := by
      rw [htext, ← hfront]
      simp only [List.append_assoc, List.drop_left]
    exact hrest ▸ List.prefix_append _ _
  obtain ⟨i, hconverted⟩ := hearlier ds' (hin _ hplace ds' hcaptured)
  by_contra hnot
  rw [if_pos (by omega)] at hconverted
  cases hconverted

/-! ## The ends of an analysis -/

/-- How the analysis of a source ends. -/
inductive Outcome (source : Script.Source) : Except AnalysisError AnalysisRecord → Prop where
  /-- The gate refuses the source. -/
  | refused (refusal : Script.Refusal) (hgate : Script.moduleTree source = .error refusal) :
      Outcome source (.error (.refused refusal))
  /-- The gate accepts the source, but an index literal in it is too long. -/
  | indexTooLong (text : List Char) (htext : source = .ofChars text)
      (hgate : (Script.moduleTree source).isOk = true) (digits : Nat)
      (hfirst : FirstTooLong text digits) : Outcome source (.error (.indexTooLong digits))
  /-- The gate accepts the source and every index literal is short enough. The record keeps to the
  bounds of its members: it is read from its JSON form as what it is. -/
  | analyzed (text : List Char) (htext : source = .ofChars text)
      (hgate : (Script.moduleTree source).isOk = true)
      (hshort : ∀ ds, IndexLiteral text ds → ds.length ≤ maxDigits) (r : AnalysisRecord)
      (hread : AnalysisRecord.shape r.toJson = .ok r) : Outcome source (.ok r)

/-- A record counts one row, or says that there may be many. -/
theorem Inferred.rows_cases {r : AnalysisRecord} (h : Inferred text r) :
    r.expectedStructure.rows = .multiple ∨ r.expectedStructure.rows = .count 1 := by
  rw [h.rows]
  split
  · exact .inl rfl
  · exact .inr rfl

/-- **Every analysis ends as listed.** A source that the gate accepts is analyzed, unless the first
index literal with more digits than are converted stops the analysis; and a source that the gate
refuses is refused for the reason of the gate. -/
theorem analyzeSource_outcome (source : Script.Source) : Outcome source (analyzeSource source) := by
  cases hgate : Script.moduleTree source with
  | error refusal =>
    rw [analyzeSource, hgate]
    exact .refused refusal hgate
  | ok root =>
    have haccepted : (Script.moduleTree source).isOk = true := by rw [hgate]; rfl
    obtain ⟨text, rfl⟩ : ∃ text, source = .ofChars text := ⟨_, eq_ofChars_of_accepted haccepted⟩
    have hanalyze : analyzeSource (.ofChars text) = analyzeModule text := by
      rw [analyzeSource, hgate, Script.Source.filterMap_ofChars]
    rw [hanalyze, analyzeModule]
    cases hindices : childIndices text with
    | error e =>
      obtain ⟨digits, rfl, hfirst⟩ := firstTooLong_of_childIndices hindices
      exact .indexTooLong text rfl haccepted digits hfirst
    | ok indices =>
      have hrows : (recordOf text indices).expectedStructure.rows ≠ .count 0 := by
        rcases (recordOf_inferred hindices).rows_cases with hrows | hrows <;> simp [hrows]
      exact .analyzed text rfl haccepted ((childIndices_eq_ok_iff indices).mp hindices).1 _
        (AnalysisRecord.shape_toJson hrows)

/-! ## A literal in a comment -/

/-- A comment that mentions a child, with these digits for its index. -/
def indexComment (ds : List Char) : List Char := "//.children[".toList ++ ds ++ "]".toList

/-- A comment that mentions the first child, with this many zeros for its index. -/
def zerosComment (n : Nat) : List Char := indexComment (List.replicate n '0')

section

variable {ds : List Char}

theorem moduleTree_indexComment (hdecimal : ∀ c ∈ ds, isDecimal c = true) :
    Script.moduleTree (.ofChars (indexComment ds)) = .ok .emptyProgram := by
  have hends : ∀ c, Script.Lexis.endsComment c = true → isDecimal c = false := by
    intro c hc
    simp only [Script.Lexis.endsComment, Script.Lexis.isLineEnd, Bool.or_eq_true, beq_iff_eq] at hc
    rcases hc with rfl | (rfl | hc) | hc
    · decide
    · decide
    · obtain rfl : c = '\u2028' := Char.toNat_inj.mp hc
      decide
    · obtain rfl : c = '\u2029' := Char.toNat_inj.mp hc
      decide
  have hline : ∀ c ∈ ".children[".toList ++ ds ++ "]".toList,
      Script.Lexis.endsComment c = false := by
    intro c hc
    by_contra hnot
    have hstop := eq_true_of_ne_false hnot
    rcases List.mem_append.mp hc with hc | hc
    · rcases List.mem_append.mp hc with hc | hc
      · have hall : ".children[".toList.all (!Script.Lexis.endsComment ·) = true := by decide
        simpa [hstop] using List.all_eq_true.mp hall c hc
      · exact absurd ((hdecimal c hc).symm.trans (hends c hstop)) (by decide)
    · have hall : "]".toList.all (!Script.Lexis.endsComment ·) = true := by decide
      simpa [hstop] using List.all_eq_true.mp hall c hc
  rw [Script.moduleTree_ofChars]
  exact Script.moduleOfText_comment hline

/-- The first literal in the comment is the one that it was made with. -/
theorem head?_captures_indexComment (hne : ds ≠ []) (hdecimal : ∀ c ∈ ds, isDecimal c = true) :
    (indexAccess.captures (indexComment ds)).head? = some ds := by
  have hliteral : indexAccess.captured? ((indexComment ds).drop 2) = some ds :=
    (indexAccess_captured?_iff _).mpr ⟨hne, hdecimal, List.prefix_rfl⟩
  obtain ⟨m, hm, hcaptured⟩ := Option.map_eq_some_iff.mp hliteral
  refine (Pattern.head?_captures indexAccess_encloses.apart.nil ?_ hm).trans
    (congrArg some hcaptured)
  have hopening : ".children[".toList = '.' :: "children[".toList := rfl
  intro i hi
  refine run_eq_none_of_head? hopening ?_
  have hslash : ((indexComment ds).drop i).head? = some '/' := by
    obtain rfl | rfl : i = 0 ∨ i = 1 := by omega
    · rfl
    · rfl
  simp [hslash]

/-- There is no other literal in it. -/
theorem eq_of_indexLiteral_indexComment (hdecimal : ∀ c ∈ ds, isDecimal c = true)
    {ds' : List Char} (h : IndexLiteral (indexComment ds) ds') : ds' = ds := by
  obtain ⟨-, hdecimal', before, after, htext⟩ := h
  have hclosing : "]".toList = [']'] := rfl
  have hends (digits rest : List Char) (hdigits : ∀ c ∈ digits, isDecimal c = true) :
      (digits ++ "]".toList ++ rest).takeWhile isDecimal = digits := by
    rw [hclosing, List.append_assoc, List.takeWhile_append_of_pos hdigits, List.singleton_append,
      List.takeWhile_cons_of_neg (by decide), List.append_nil]
  have hpoint : '.' ∉ "children[".toList ++ ds ++ "]".toList := by
    simp only [List.mem_append, not_or]
    exact ⟨⟨by decide, fun hmem => absurd (hdecimal '.' hmem) (by decide)⟩, by decide⟩
  match before with
  | [] => exact absurd (List.cons.inj htext).1 (by decide)
  | [_] => exact absurd (List.cons.inj (List.cons.inj htext).2).1 (by decide)
  | [_, _] =>
    have hrest : ds' ++ "]".toList ++ after = ds ++ "]".toList ++ [] :=
      (congrArg (List.drop 12) htext).trans (List.append_nil _).symm
    rw [← hends ds' after hdecimal', hrest, hends ds [] hdecimal]
  | _ :: _ :: _ :: more =>
    have hbehind : more ++ (".children[".toList ++ ds' ++ "]".toList) ++ after
        = "children[".toList ++ ds ++ "]".toList :=
      (List.cons.inj (List.cons.inj (List.cons.inj htext).2).2).2
    refine absurd ?_ hpoint
    rw [← hbehind]
    exact List.mem_append_left _ (List.mem_append_right _ (by simp))

theorem not_readsConfig_indexComment (hdecimal : ∀ c ∈ ds, isDecimal c = true) :
    ¬ ReadsConfig (indexComment ds) := by
  rintro ⟨blanks, -, hin⟩
  have hname : 'B' ∈ "readBlockConfig".toList ++ blanks ++ "(".toList :=
    List.mem_append_left _ (List.mem_append_left _ (by decide))
  rcases List.mem_append.mp (hin.mem hname) with hmem | hmem
  · rcases List.mem_append.mp hmem with hmem | hmem
    · exact absurd hmem (by decide)
    · exact absurd (hdecimal 'B' hmem) (by decide)
  · exact absurd hmem (by decide)

/-- A literal that is not too long decides the columns, also in a comment. -/
theorem exists_analyzeSource_indexComment (hne : ds ≠ [])
    (hdecimal : ∀ c ∈ ds, isDecimal c = true) (hshort : ds.length ≤ maxDigits) :
    ∃ r, analyzeSource (.ofChars (indexComment ds)) = .ok r
      ∧ r.expectedStructure.columns = digitsValue ds + 1 := by
  have honly : ∀ ds', IndexLiteral (indexComment ds) ds' → ds' = ds :=
    fun _ => eq_of_indexLiteral_indexComment hdecimal
  have hliteral : IndexLiteral (indexComment ds) ds :=
    ⟨hne, hdecimal, "//".toList, [], List.append_nil _⟩
  have hconfig := not_readsConfig_indexComment hdecimal
  obtain ⟨indices, hindices⟩ : ∃ indices, childIndices (indexComment ds) = .ok indices := by
    refine ⟨_, (childIndices_eq_ok_iff _).mpr ⟨fun ds' hds' => ?_, rfl⟩⟩
    rw [honly ds' hds']
    exact hshort
  refine ⟨recordOf (indexComment ds) indices, ?_, ?_⟩
  · rw [analyzeSource, moduleTree_indexComment hdecimal, Script.Source.filterMap_ofChars,
      analyzeModule, hindices]
    rfl
  · refine (recordOf_inferred hindices).columns.unique
      (.indexed hconfig _ ⟨ds, hliteral, rfl⟩ ?_)
    rintro i ⟨ds', hds', rfl⟩
    rw [honly ds' hds']

end

theorem childIndices_zerosComment {n : Nat} (h : maxDigits < n) :
    childIndices (zerosComment n) = .error (.indexTooLong n) := by
  have hne : List.replicate n '0' ≠ [] := by
    simpa [List.replicate_eq_nil_iff] using Nat.ne_of_gt (Nat.zero_lt_of_lt h)
  have hdecimal : ∀ c ∈ List.replicate n '0', isDecimal c = true := by
    intro c hc
    rw [List.eq_of_mem_replicate hc]
    decide
  obtain ⟨rest, hcaptures⟩ :=
    List.head?_eq_some_iff.mp (head?_captures_indexComment hne hdecimal)
  rw [childIndices_eq, zerosComment, hcaptures, List.mapM_cons, List.length_replicate, if_pos h]
  rfl

/-- The gate accepts a script whose analysis is given up. -/
theorem analyzeSource_zerosComment_fails :
    (Script.moduleTree (.ofChars (zerosComment 4301))).isOk = true
      ∧ analyzeSource (.ofChars (zerosComment 4301)) = .error (.indexTooLong 4301) := by
  have htree : Script.moduleTree (.ofChars (zerosComment 4301)) = .ok .emptyProgram :=
    moduleTree_indexComment fun c hc => by
      rw [List.eq_of_mem_replicate hc]
      decide
  have hindices : childIndices (zerosComment 4301) = .error (.indexTooLong 4301) :=
    childIndices_zerosComment (by decide)
  refine ⟨by rw [htree]; rfl, ?_⟩
  rw [analyzeSource, htree, Script.Source.filterMap_ofChars, analyzeModule, hindices]
  rfl

end Analysis

end BlockAuthoring
