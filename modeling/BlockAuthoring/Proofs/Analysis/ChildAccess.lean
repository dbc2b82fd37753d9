import BlockAuthoring.Proofs.Analysis.Outcome
import BlockAuthoring.Proofs.Surface.Placement
import BlockAuthoring.Proofs.Text.Decimal
import Mathlib.Data.List.Sort

/-!
# How a block reaches into its children

A record lists the uses of children by a literal index, one for each place of the text where such a
literal stands, and behind them a single spread, if the block's own children are spread and the
block is not read as a configuration.

`Accesses` says so without a scan, and leaves nothing open (`Accesses.unique`);
`analyzeSource_accesses` proves it of the record of every accepted source.
-/

namespace BlockAuthoring.Analysis

open Text Surface

/-! ## Uses by index -/

/-- A child is used by a literal index: where in the text, counted in characters, and which one. -/
structure IndexUse where
  place : Nat
  index : Nat
  deriving DecidableEq, Repr

/-- An index literal stands at the place, and its digits write the index. -/
def IndexUse.StandsIn (u : IndexUse) (text : List Char) : Prop :=
  ∃ ds, ds ≠ [] ∧ Writes ds u.index
    ∧ ".children[".toList ++ ds ++ "]".toList <+: text.drop u.place

/-- The uses by index that a scan of the text finds. -/
def indexUses (text : List Char) : List IndexUse :=
  (indexAccess.scan text).map fun o => ⟨o.start, digitsValue o.captured⟩

variable {text : List Char}

theorem pairwise_place_indexUses (text : List Char) :
    (indexUses text).Pairwise (·.place < ·.place) :=
  List.pairwise_map.mpr (Pattern.pairwise_start_scan indexAccess text)

/-- The scan finds a use wherever an index literal stands. -/
theorem mem_indexUses_iff (u : IndexUse) : u ∈ indexUses text ↔ u.StandsIn text := by
  have hcaptured := @indexAccess_captured?_iff (text.drop u.place)
  rw [indexUses, List.mem_map]
  constructor
  · rintro ⟨o, ho, rfl⟩
    obtain ⟨m, hm, -, hcapture⟩ := (Pattern.mem_scan_iff indexAccess_encloses.apart).mp ho
    obtain ⟨hne, hdecimal, hpre⟩ := (hcaptured m.captured).mp
      (Option.map_eq_some_iff.mpr ⟨m, hm, rfl⟩)
    refine ⟨m.captured, hne, ?_, hpre⟩
    exact writes_iff.mpr ⟨hdecimal, by rw [hcapture]⟩
  · rintro ⟨ds, hne, hwrites, hpre⟩
    obtain ⟨hdecimal, hvalue⟩ := writes_iff.mp hwrites
    obtain ⟨m, hm, rfl⟩ := Option.map_eq_some_iff.mp ((hcaptured ds).mpr ⟨hne, hdecimal, hpre⟩)
    refine ⟨⟨u.place, u.place + m.length, m.captured⟩, ?_, ?_⟩
    · exact (Pattern.mem_scan_iff indexAccess_encloses.apart).mpr ⟨m, hm, rfl, rfl⟩
    · rw [hvalue]

/-- The indices are those of the uses, in the order of the text and with repetitions. -/
theorem childIndices_eq_indexUses {indices : List Nat} (h : childIndices text = .ok indices) :
    indices = (indexUses text).map (·.index) := by
  obtain ⟨-, rfl⟩ := (childIndices_eq_ok_iff indices).mp h
  simp [indexUses, Pattern.captures]

/-! ## Accesses -/

/-- These are the accesses that a text calls for: one for each use by index, in the order of the
text, and one spread at the end. -/
def Accesses (text : List Char) (accesses : List ChildrenAccess) : Prop :=
  ∃ uses : List IndexUse, uses.Pairwise (·.place < ·.place) ∧ (∀ u, u ∈ uses ↔ u.StandsIn text)
    ∧ accesses = uses.map (fun u => ⟨.indexAccess, some (u.index : Int)⟩)
      ++ if SpreadsChildren text ∧ ¬ ReadsConfig text then [⟨.spread, none⟩] else []

/-- A text calls for one list of accesses only. -/
theorem Accesses.unique {accesses accesses' : List ChildrenAccess} (h : Accesses text accesses)
    (h' : Accesses text accesses') : accesses = accesses' := by
  obtain ⟨uses, hplaces, hmem, rfl⟩ := h
  obtain ⟨uses', hplaces', hmem', rfl⟩ := h'
  have hasymm : Std.Asymm fun u v : IndexUse => u.place < v.place := ⟨fun _ _ => Nat.lt_asymm⟩
  have huses : uses = uses' := hplaces.eq_of_mem_iff hplaces' fun u => (hmem u).trans (hmem' u).symm
  rw [huses]

theorem recordOf_accesses {indices : List Nat} (h : childIndices text = .ok indices) :
    Accesses text (recordOf text indices).childrenAccessPatterns := by
  have hspread : (spreadsBlock text && !readBlockConfig.occurs text) = true ↔
      SpreadsChildren text ∧ ¬ ReadsConfig text := by
    rw [Bool.and_eq_true, spreadsBlock_iff, Bool.not_eq_true', ← Bool.not_eq_true,
      readBlockConfig_occurs_iff]
  refine ⟨indexUses text, pairwise_place_indexUses text, mem_indexUses_iff, ?_⟩
  simp only [recordOf, childIndices_eq_indexUses h, List.map_map, hspread]
  rfl

/-- **Every use of a child is listed once.** An accepted source is analyzed, if its index literals
are short enough. Whatever record comes of it, the record lists one access for each index literal,
in the order of the text and with the number that its digits write; then one spread, if the block's
own children are spread and no configuration is read; and nothing else. -/
theorem analyzeSource_accesses (source : Script.Source)
    (haccepted : (Script.moduleTree source).isOk = true) :
    ∃ text, source = .ofChars text
      ∧ ((∀ ds, IndexLiteral text ds → ds.length ≤ maxDigits) → ∃ r, analyzeSource source = .ok r)
      ∧ ∀ r, analyzeSource source = .ok r → Accesses text r.childrenAccessPatterns := by
  obtain ⟨text, htext, hexists, hrecord⟩ := exists_text_of_accepted haccepted
  refine ⟨text, htext, hexists, fun r hr => ?_⟩
  obtain ⟨indices, hindices, rfl⟩ := hrecord r hr
  exact recordOf_accesses hindices

/-- Children are used out of order and repeatedly, once by a digit of another script and in a
comment; and there are three spreads, two of them of the block's own children. -/
def mixedText : List Char :=
  ("[...block.children].map((row) => [...row.children].concat(row.children[10], row.children[2], "
    ++ "row.children[10])); // [...block.children] row.children[٣]").toList

theorem analyzeSource_accesses_mixed :
    (Script.moduleTree (.ofChars mixedText)).isOk = true
      ∧ (∀ ds, IndexLiteral mixedText ds → ds.length ≤ maxDigits)
      ∧ ∃ r, analyzeSource (.ofChars mixedText) = .ok r
        ∧ r.childrenAccessPatterns = [⟨.indexAccess, some 10⟩, ⟨.indexAccess, some 2⟩,
          ⟨.indexAccess, some 10⟩, ⟨.indexAccess, some 3⟩, ⟨.spread, none⟩]
        ∧ Accesses mixedText r.childrenAccessPatterns := by
  obtain ⟨haccepted, hindices, haccesses⟩ : (Script.moduleTree (.ofChars mixedText)).isOk = true
      ∧ childIndices mixedText = .ok [10, 2, 10, 3]
      ∧ (recordOf mixedText [10, 2, 10, 3]).childrenAccessPatterns
        = [⟨.indexAccess, some 10⟩, ⟨.indexAccess, some 2⟩, ⟨.indexAccess, some 10⟩,
          ⟨.indexAccess, some 3⟩, ⟨.spread, none⟩] := by
    -- The characters are spelled out once; reading them off the text costs most of the evaluation.
    delta mixedText
    simp only [String.reduceAppend, String.reduceToList]
    decide +kernel
  have hrecord : analyzeSource (.ofChars mixedText) = .ok (recordOf mixedText [10, 2, 10, 3]) :=
    analyzeSource_ofChars haccepted hindices
  obtain ⟨text, htext, -, hall⟩ := analyzeSource_accesses (.ofChars mixedText) haccepted
  obtain rfl := Script.Source.ofChars_injective htext
  exact ⟨haccepted, ((childIndices_eq_ok_iff _).mp hindices).1, _, hrecord, haccesses,
    hall _ hrecord⟩

end BlockAuthoring.Analysis
