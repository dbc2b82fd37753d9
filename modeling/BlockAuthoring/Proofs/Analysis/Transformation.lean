import BlockAuthoring.Analysis.Advice
import BlockAuthoring.Proofs.Analysis.Outcome
import Mathlib.Data.List.Nodup

/-!
# The elements a block creates

The record lists the transformations that a text performs, the warnings list them once more, and the
observer, the complexity and the suggestion are worked out from what was found. `Coherent` says how
these belong together, and what is listed is tied to the text itself.

A record on its own may be complex without any transformation, because nothing in it ties the
observer to them. The analysis never makes such a record.
-/

namespace BlockAuthoring

open Surface

namespace Surface

/-- An element with this tag is created: the tag stands in quotes, which need not be the same, as
the only argument of the call. -/
def Creates (text : List Char) (tag : String) : Prop :=
  ∃ opening closing, isQuote opening = true ∧ isQuote closing = true
    ∧ "createElement(".toList ++ (opening :: (tag.toList ++ [closing, ')'])) <:+: text

theorem Transformation.pattern_isSome_iff (t : Transformation) (text : List Char) :
    (t.pattern text).isSome = true ↔
      ∃ opening closing, isQuote opening = true ∧ isQuote closing = true
        ∧ "createElement(".toList ++ (opening :: (t.tag.toList ++ [closing, ')'])) <+: text := by
  have hcall (argument : List Char) := behind_eq_some_iff "createElement(" text argument
  constructor
  · intro h
    unfold pattern at h
    cases hargument : behind "createElement(" text with
    | none =>
      rw [hargument] at h
      cases h
    | some argument =>
      rw [hargument] at h
      obtain _ | ⟨opening, quoted⟩ := argument
      · cases h
      cases hopening : isQuote opening with
      | false => simp [hopening] at h
      | true =>
        cases htag : behind t.tag quoted with
        | none => simp [hopening, htag] at h
        | some rest =>
          simp only [hopening, htag, Option.bind_eq_bind, Option.bind_some, if_true] at h
          split at h
          · rename_i closing after
            refine ⟨opening, closing, hopening, by simpa using h, after, ?_⟩
            rw [(hcall _).mp hargument, (behind_eq_some_iff _ _ _).mp htag]
            simp
          · cases h
  · rintro ⟨opening, closing, hopening, hclosing, rest, hrest⟩
    have hargument := (hcall (opening :: (t.tag.toList ++ closing :: ')' :: rest))).mpr
      (by rw [← hrest, List.append_assoc, List.cons_append, List.append_assoc]; rfl)
    have htag := (behind_eq_some_iff t.tag _ (closing :: ')' :: rest)).mpr rfl
    simp [pattern, hargument, htag, hopening, hclosing]

/-- The pattern of a transformation finds the creation of its element. -/
theorem Transformation.occurs_iff (t : Transformation) (text : List Char) :
    t.pattern.occurs text = true ↔ Creates text t.tag := by
  simp only [Pattern.occurs_iff, t.pattern_isSome_iff, Creates, List.infix_iff_prefix_suffix]
  constructor
  · rintro ⟨front, hfront, opening, closing, hopening, hclosing, hpre⟩
    exact ⟨opening, closing, hopening, hclosing, front, hpre, hfront⟩
  · rintro ⟨opening, closing, hopening, hclosing, front, hpre, hfront⟩
    exact ⟨front, hfront, opening, closing, hopening, hclosing, hpre⟩

/-! ## The catalog -/

/-- The names of the transformations, in the order of the catalog. -/
def transformationNames : List String := transformations.map (·.name)

theorem nodup_transformationNames : transformationNames.Nodup := by decide

/-- Only one element can be created without an observer. -/
theorem needsObserver_iff :
    ∀ t ∈ transformations, t.needsObserver = true ↔ t.name ≠ "div->blockquote" := by decide

end Surface

namespace Analysis

variable {text : List Char}

theorem mem_transformationsIn_iff (t : Transformation) :
    t ∈ transformationsIn text ↔ t ∈ transformations ∧ Creates text t.tag := by
  rw [transformationsIn, List.mem_filter, t.occurs_iff]

theorem name_mem_transformationsIn_iff {t : Transformation} (ht : t ∈ transformations) :
    t.name ∈ (transformationsIn text).map (·.name) ↔ Creates text t.tag := by
  rw [List.mem_map]
  constructor
  · rintro ⟨t', ht', hname⟩
    obtain ⟨hin, hcreates⟩ := (mem_transformationsIn_iff t').mp ht'
    rwa [List.inj_on_of_nodup_map nodup_transformationNames hin ht hname] at hcreates
  · intro hcreates
    exact ⟨t, (mem_transformationsIn_iff t).mpr ⟨ht, hcreates⟩, rfl⟩

/-! ## What belongs together -/

/-- The warnings are reported for other changes than those in the catalog, too. -/
def replacements : List String := ["element-replacement", "innerHTML-replacement"]

/-- The transforms of the warnings, without the replacements. -/
theorem filter_mutationWarnings (text : List Char) :
    ((mutationWarnings text).map (·.transform)).filter (· ∉ replacements)
      = (transformationsIn text).map (·.name) := by
  have hcatalog : ∀ t ∈ transformationsIn text, t.name ∉ replacements := by
    have hall : ∀ t ∈ transformations, t.name ∉ replacements := by decide
    exact fun t ht => hall t ((mem_transformationsIn_iff t).mp ht).1
  have hfound : ((transformationsIn text).map (·.name)).filter (· ∉ replacements)
      = (transformationsIn text).map (·.name) := by
    simpa [List.filter_eq_self] using hcatalog
  have hreplaced : ∀ w : MutationWarning, w.transform ∈ replacements → ∀ found : Bool,
      ((if found then [w] else []).map (·.transform)).filter (· ∉ replacements) = [] := by
    intro w hw found
    cases found <;> simp [hw]
  rw [mutationWarnings, List.map_append, List.map_append, List.filter_append, List.filter_append,
    hreplaced _ (by decide), hreplaced _ (by decide), List.append_nil, List.append_nil,
    List.map_map]
  exact hfound

/-- Without transformations and observer, a record scores two points at most. -/
theorem complexity_ne_complex {r : AnalysisRecord} (hnone : r.domTransformations = [])
    (hobserver : r.requiresObserver = false) : r.complexity ≠ .complex := by
  have hpoints : Complexity.halfPoints r.signals ≤ 4 := by
    have hcontainer := r.isContainer.toNat_le
    have hvariants := r.hasVariants.toNat_le
    have hasync := r.hasAsync.toNat_le
    simp only [Complexity.halfPoints, AnalysisRecord.signals, hnone, hobserver, List.isEmpty_nil,
      Bool.not_true, Bool.toNat_false]
    omega
  rw [AnalysisRecord.complexity, Complexity.score, if_pos hpoints]
  split <;> simp

/-- The observer has to be ruled out as well, because in a record nothing ties it to the
transformations. -/
example : ({ recordOf [] [] with isContainer := true, requiresObserver := true, hasAsync := true } :
    AnalysisRecord).complexity = .complex := by decide +kernel

/-- How the members of a record, the warnings and the suggestion belong together. -/
structure Coherent (text : List Char) (r : AnalysisRecord) : Prop where
  inOrder : r.domTransformations.Sublist transformationNames
  nodup : r.domTransformations.Nodup
  created : ∀ t ∈ transformations, t.name ∈ r.domTransformations ↔ Creates text t.tag
  warned : ((mutationWarnings text).map (·.transform)).filter (· ∉ replacements)
    = r.domTransformations
  observer : r.requiresObserver = true ↔ ∃ name ∈ r.domTransformations, name ≠ "div->blockquote"
  complex : r.complexity = .complex → r.domTransformations ≠ []
  unsafeHtml : r.suggestion.useUnsafeHtml = true → r.domTransformations ≠ []

theorem recordOf_coherent (text : List Char) (indices : List Nat) :
    Coherent text (recordOf text indices) := by
  have hobserver : (recordOf text indices).requiresObserver = true ↔
      ∃ name ∈ (recordOf text indices).domTransformations, name ≠ "div->blockquote" := by
    simp only [recordOf, List.any_eq_true, List.mem_map, exists_exists_and_eq_and]
    refine exists_congr fun t => and_congr_right fun ht => ?_
    exact needsObserver_iff t ((mem_transformationsIn_iff t).mp ht).1
  have hcomplex : (recordOf text indices).complexity = .complex →
      (recordOf text indices).domTransformations ≠ [] := by
    intro hcomplex hnone
    refine complexity_ne_complex hnone ?_ hcomplex
    rw [← Bool.not_eq_true, hobserver, hnone]
    simp
  have hsublist : (recordOf text indices).domTransformations.Sublist transformationNames :=
    List.filter_sublist.map _
  refine ⟨hsublist, nodup_transformationNames.sublist hsublist,
    fun t ht => name_mem_transformationsIn_iff ht, filter_mutationWarnings text, hobserver,
    hcomplex, fun hunsafe => ?_⟩
  unfold AnalysisRecord.suggestion at hunsafe
  split at hunsafe
  · rename_i hcause
    rcases Bool.or_eq_true_iff.mp hcause with hmany | hcause
    · intro hnone
      simp [hnone] at hmany
    · exact hcomplex (by simpa using hcause)
  · cases hunsafe

/-- **Transformations, observer, complexity and suggestion belong together.** An accepted source is
analyzed, if its index literals are short enough; and whatever record comes of it, the record is
coherent. -/
theorem analyzeSource_coherent (source : Script.Source)
    (haccepted : (Script.moduleTree source).isOk = true) :
    ∃ text, source = .ofChars text
      ∧ ((∀ ds, IndexLiteral text ds → ds.length ≤ Text.maxDigits) →
        ∃ r, analyzeSource source = .ok r)
      ∧ ∀ r, analyzeSource source = .ok r → Coherent text r := by
  obtain ⟨text, htext, hexists, hrecord⟩ := exists_text_of_accepted haccepted
  refine ⟨text, htext, hexists, fun r hr => ?_⟩
  obtain ⟨indices, -, rfl⟩ := hrecord r hr
  exact recordOf_coherent text indices

/-- A list is made and emptied. -/
def listText : List Char := "document.createElement('ul').innerHTML = '';".toList

theorem analyzeSource_coherent_list :
    (Script.moduleTree (.ofChars listText)).isOk = true
      ∧ ∃ r, analyzeSource (.ofChars listText) = .ok r ∧ r.domTransformations = ["div->ul"]
        ∧ (mutationWarnings listText).map (·.transform) = ["div->ul", "innerHTML-replacement"]
        ∧ Coherent listText r := by
  have haccepted : (Script.moduleTree (.ofChars listText)).isOk = true := by decide +kernel
  have hrecord : analyzeSource (.ofChars listText) = .ok (recordOf listText []) :=
    analyzeSource_ofChars haccepted (by decide +kernel)
  obtain ⟨text, htext, -, hall⟩ := analyzeSource_coherent (.ofChars listText) haccepted
  obtain rfl := Script.Source.ofChars_injective htext
  exact ⟨haccepted, _, hrecord, by decide +kernel, by decide +kernel, hall _ hrecord⟩

end Analysis

end BlockAuthoring
