import BlockAuthoring.Analysis.Reading
import BlockAuthoring.Proofs.Json.Spelling

/-!
# Written records are read

A record is read from its JSON form as what it was. The form tells the complexity of the record,
but nobody reads it there: whatever an object says of its complexity, or if it says nothing, the
same record is read, and the complexity of that record follows from the rest.
-/

namespace BlockAuthoring

open Json Shape Checked

namespace AnalysisRecord

/-- The members that have a second name. -/
def secondNames : List Key :=
  [⟨"expectedStructure", "expected_structure"⟩, ⟨"domTransformations", "dom_transformations"⟩,
   ⟨"isContainer", "is_container"⟩, ⟨"requiresObserver", "requires_observer"⟩,
   ⟨"childrenAccessPatterns", "children_access_patterns"⟩, ⟨"hasAsync", "has_async"⟩,
   ⟨"hasVariants", "has_variants"⟩, ⟨"usesReadBlockConfig", "uses_read_block_config"⟩,
   ⟨"configKeys", "config_keys"⟩]

end AnalysisRecord

open AnalysisRecord (secondNames)

/-! ## Reading back -/

theorem StructureType.lookup_name (t : StructureType) : vocabulary.lookup t.name = some t := by
  cases t <;> rfl

theorem AccessType.lookup_name (t : AccessType) : vocabulary.lookup t.name = some t := by
  cases t <;> rfl

/-- Every number of rows but zero is read, and so is the word for many. -/
theorem RowCount.reads {rows : RowCount} (h : rows ≠ .count 0) :
    Reads secondNames RowCount.shape rows.toJson rows := by
  cases rows with
  | count n =>
    have hn : 1 ≤ n := Nat.one_le_iff_ne_zero.mpr fun hzero => h (by rw [hzero])
    exact .orElse _ _ (.map _ (.integerFrom hn))
  | multiple => exact ⟨fun _ => rfl, rfl⟩

theorem ExpectedStructure.reads {s : ExpectedStructure} (h : s.rows ≠ .count 0) :
    Reads secondNames ExpectedStructure.shape s.toJson s := by
  obtain ⟨type, rows, columns⟩ := s
  refine .ofObject (by simp [NamedApart, otherName, secondNames]) fun v hv => ?_
  refine seq_ok (seq_ok (map_ok ?type) ?rows) ?columns
  case type => exact hv.defaulted rfl rfl (.word type.lookup_name)
  case rows => exact hv.defaulted rfl rfl (RowCount.reads h)
  case columns => exact hv.defaulted rfl rfl (.integerFrom (Nat.zero_le columns))

theorem ChildrenAccess.reads (a : ChildrenAccess) :
    Reads secondNames ChildrenAccess.shape a.toJson a := by
  obtain ⟨type, index⟩ := a
  refine .ofPresent (by simp [NamedApart, otherName, secondNames]) fun v hv => ?_
  exact seq_ok (map_ok (hv.required rfl rfl (.word type.lookup_name)))
    (hv.nullable rfl rfl .integer)

namespace AnalysisRecord

theorem reads {r : AnalysisRecord} (h : r.expectedStructure.rows ≠ .count 0) :
    Reads secondNames AnalysisRecord.shape r.toJson r := by
  obtain ⟨expected, transformations, isContainer, requiresObserver, accesses, hasAsync,
    hasVariants, usesReadBlockConfig, configKeys⟩ := r
  refine .ofObject (by simp [NamedApart, otherName, secondNames]) fun v hv => ?_
  refine seq_ok (seq_ok (seq_ok (seq_ok (seq_ok (seq_ok (seq_ok (seq_ok (map_ok
    ?expected) ?transformations) ?isContainer) ?requiresObserver) ?accesses) ?hasAsync)
    ?hasVariants) ?usesReadBlockConfig) ?configKeys
  case expected => exact hv.defaulted rfl rfl (ExpectedStructure.reads h)
  case transformations => exact hv.defaulted rfl rfl (.sequenceOf fun name _ => .text name)
  case isContainer => exact hv.defaulted rfl rfl (.flag isContainer)
  case requiresObserver => exact hv.defaulted rfl rfl (.flag requiresObserver)
  case accesses => exact hv.defaulted rfl rfl (.sequenceOf fun access _ => access.reads)
  case hasAsync => exact hv.defaulted rfl rfl (.flag hasAsync)
  case hasVariants => exact hv.defaulted rfl rfl (.flag hasVariants)
  case usesReadBlockConfig => exact hv.defaulted rfl rfl (.flag usesReadBlockConfig)
  case configKeys => exact hv.defaulted rfl rfl (.sequenceOf fun key _ => .text key)

theorem shape_toJson {r : AnalysisRecord} (h : r.expectedStructure.rows ≠ .count 0) :
    AnalysisRecord.shape r.toJson = .ok r := by
  rw [← respell_nothing secondNames r.toJson]
  exact (reads h).read _

end AnalysisRecord

/-! ## Complexity -/

/-- What is read of a member depends on the members that have one of its names. -/
theorem Json.AgreeBut.defaulted {α : Type} {name : String} {v w : Json} (h : AgreeBut name v w)
    {key : Key} (hwritten : key.written ≠ name) (hspelled : key.spelled ≠ name) (value : α)
    (shape : Shape α) : defaulted key value shape w = defaulted key value shape v := by
  simp only [Shape.defaulted, Key.find?, h.members _ hwritten, h.members _ hspelled]

namespace AnalysisRecord

/-- What an object says of its complexity is not read. -/
theorem shape_congr {v w : Json} (h : AgreeBut "complexity" v w) :
    AnalysisRecord.shape w = AnalysisRecord.shape v := by
  simp (disch := decide) only [AnalysisRecord.shape, members, h.isObject, h.defaulted]

/-- **Complexity is not stored.** A record with rows is read from its JSON form as what it was, and
the form tells its complexity. Whatever object a record is read from, the same record is read once
the complexity in it is set to anything or left out. -/
theorem complexity_rederived :
    (∀ r : AnalysisRecord, r.expectedStructure.rows ≠ .count 0 →
      AnalysisRecord.shape r.toJson = .ok r ∧ r.toJson.get "complexity" = .string r.complexity.name)
    ∧ ∀ entries r, AnalysisRecord.shape (.object entries) = .ok r →
      (∀ v, AnalysisRecord.shape (.object (setMember entries "complexity" v)) = .ok r)
      ∧ AnalysisRecord.shape (.object (entries.filter (·.1 != "complexity"))) = .ok r
      ∧ ∀ w, AgreeBut "complexity" (.object entries) w → AnalysisRecord.shape w = .ok r := by
  refine ⟨fun r hrows => ⟨shape_toJson hrows, rfl⟩, fun entries r hr => ?_⟩
  have hsame {w : Json} (hw : AgreeBut "complexity" (.object entries) w) :
      AnalysisRecord.shape w = .ok r := (shape_congr hw).trans hr
  exact ⟨fun v => hsame (agreeBut_setMember entries "complexity" v),
    hsame (agreeBut_filter entries "complexity"), fun w => hsame⟩

/-- A record with signals of all kinds, and with an access without an index. -/
def busyRecord : AnalysisRecord where
  expectedStructure := ⟨.configTable, .multiple, 2⟩
  domTransformations := ["div->ul"]
  isContainer := true
  requiresObserver := true
  childrenAccessPatterns := [⟨.indexAccess, some 1⟩, ⟨.spread, none⟩]
  hasAsync := false
  hasVariants := true
  usesReadBlockConfig := true
  configKeys := ["limit"]

theorem complexity_rederived_busyRecord :
    busyRecord.expectedStructure.rows ≠ .count 0
      ∧ AnalysisRecord.shape busyRecord.toJson = .ok busyRecord
      ∧ busyRecord.toJson.get "complexity" = .string "COMPLEX"
      ∧ ∃ entries, busyRecord.toJson = .object entries
        ∧ AnalysisRecord.shape (.object (setMember entries "complexity" (.string "SIMPLE")))
          = .ok busyRecord
        ∧ AnalysisRecord.shape (.object (entries.filter (·.1 != "complexity"))) = .ok busyRecord
        ∧ AnalysisRecord.shape (.object (("complexity", .null) :: entries)) = .ok busyRecord := by
  have hrows : busyRecord.expectedStructure.rows ≠ .count 0 := by decide
  obtain ⟨hback, hcomplexity⟩ := complexity_rederived.1 busyRecord hrows
  obtain ⟨hset, hleft, hagree⟩ := complexity_rederived.2 _ busyRecord hback
  refine ⟨hrows, hback, hcomplexity, _, rfl, hset _, hleft, hagree _ ⟨rfl, fun other hother => ?_⟩⟩
  rw [member?, member?, List.lookup_cons, beq_eq_false_iff_ne.mpr hother]

end AnalysisRecord

end BlockAuthoring
