import BlockAuthoring.Proofs.Analysis.Outcome
import BlockAuthoring.Proofs.Schema.Merging

/-!
# Schemas with items

The last container sign overrules the others, and it is the index literal: what is reached into by
index is no container. So without indices only a configuration is left to ask for a second column,
and the items of a container have one field, or two for a key and its value.
-/

namespace BlockAuthoring

open Text Analysis

namespace Analysis

variable {text : List Char} {r : AnalysisRecord}

/-- A container has one column, unless it is read as a configuration. -/
theorem Inferred.columns_of_isContainer (h : Inferred text r) (hcontainer : r.isContainer = true) :
    r.expectedStructure.columns = if ReadsConfig text then 2 else 1 := by
  have hnone : ∀ i, ¬ ChildIndex text i := (h.isContainer.mp hcontainer).1
  refine h.columns.unique ?_
  split
  · exact .config ‹_›
  · exact .plain ‹_› hnone

/-- The accesses by index that a record lists are those of its text. -/
theorem childIndex_of_indexAccess {indices : List Nat} (h : childIndices text = .ok indices)
    {a : ChildrenAccess} (ha : a ∈ (recordOf text indices).childrenAccessPatterns)
    (htype : a.type = .indexAccess) : ∃ i, ChildIndex text i := by
  rcases List.mem_append.mp ha with ha | ha
  · obtain ⟨i, hi, -⟩ := List.mem_map.mp ha
    exact ⟨i, (mem_childIndices_iff h i).mp hi⟩
  · split at ha
    · rw [List.mem_singleton.mp ha] at htype
      cases htype
    · cases ha

end Analysis

namespace Synthesis

variable {text : List Char} {name : String} {r : AnalysisRecord} {s : AuthoringSchema}
  {overrides : List (Option FieldOverride)}

/-- A model has one field for each column. -/
theorem length_fields_of_synthesize (h : synthesize name r overrides = .ok s) :
    ∀ m ∈ s.models, m.fields.length = r.expectedStructure.columns := by
  obtain ⟨-, fields, hfields, rfl⟩ := exists_fields_of_synthesize h
  rw [mapM_eq_ok_iff] at hfields
  simpa using hfields.length_eq.symm

/-- Only containers have an item definition, and it comes last. -/
theorem mem_definitions_item_iff (d : Definition) :
    (d ∈ definitions name r ∧ d.id = itemId name) ↔
      r.isContainer = true ∧ d = itemDefinition name r := by
  have hprimary : (primaryDefinition name r).id ≠ itemId name := itemId_ne name
  have hitem : (itemDefinition name r).id = itemId name := rfl
  unfold definitions
  constructor
  · rintro ⟨hd, hid⟩
    rcases List.mem_cons.mp hd with rfl | hd
    · exact absurd hid hprimary
    · split at hd
      · exact ⟨‹_›, List.mem_singleton.mp hd⟩
      · cases hd
  · rintro ⟨hcontainer, rfl⟩
    simp [hcontainer, hitem]

/-- The schema of a container of items: nothing is reached into by index, there is one column and
one field for the items, or two of both if the text is read as a configuration, and the items have
two rows iff there may be many rows. -/
structure ItemSchema (text : List Char) (name : String) (r : AnalysisRecord) (s : AuthoringSchema)
    (item : Definition) : Prop where
  noIndex : ∀ a ∈ r.childrenAccessPatterns, a.type ≠ .indexAccess
  primary : ∃ primary, s.definitions = [primary, item] ∧ primary.id = name
    ∧ primary.hints.columns = some (if ReadsConfig text then 2 else 1)
  model : ∃ m, s.models = [m] ∧ m.id = item.id
    ∧ m.fields.length = if ReadsConfig text then 2 else 1
  filter : ∃ f, s.filters = [f] ∧ f.id = name ∧ f.components = [item.id]
  rows : item.hints.rows = some (if r.expectedStructure.rows = .multiple then 2 else 1)

theorem itemSchema_of_isContainer {indices : List Nat} (hindices : childIndices text = .ok indices)
    (hcontainer : (recordOf text indices).isContainer = true)
    (h : synthesize name (recordOf text indices) overrides = .ok s) :
    ItemSchema text name (recordOf text indices) s
      (itemDefinition name (recordOf text indices)) := by
  have hinferred : Inferred text (recordOf text indices) := recordOf_inferred hindices
  have hcolumns := hinferred.columns_of_isContainer hcontainer
  have hlength := length_fields_of_synthesize h
  obtain ⟨-, fields, -, rfl⟩ := exists_fields_of_synthesize h
  constructor
  · intro a ha htype
    obtain ⟨i, hi⟩ := childIndex_of_indexAccess hindices ha htype
    exact (hinferred.isContainer.mp hcontainer).1 i hi
  · refine ⟨primaryDefinition name (recordOf text indices), ?_, rfl, ?_⟩
    · simp [definitions, hcontainer]
    · simp only [primaryDefinition, hcolumns]
      split <;> rfl
  · refine ⟨_, rfl, by simp [hcontainer, itemDefinition], ?_⟩
    rw [hlength _ List.mem_cons_self, hcolumns]
  · exact ⟨_, by simp [Synthesis.filters, hcontainer]; rfl, rfl, rfl⟩
  · simp only [itemDefinition, itemRows, beq_iff_eq]
    split <;> rfl

/-- Whether a schema has items, and what it looks like then. -/
structure Itemized (text : List Char) (name : String) (r : AnalysisRecord) (s : AuthoringSchema) :
    Prop where
  filter_iff : s.filters ≠ [] ↔ ∃ d ∈ s.definitions, d.id = itemId name
  item : ∀ d ∈ s.definitions, d.id = itemId name → ItemSchema text name r s d
  manyFields : ∀ m ∈ s.models, 3 ≤ m.fields.length →
    (∀ d ∈ s.definitions, d.id ≠ itemId name) ∧ s.filters = []

theorem itemized_of_synthesize {indices : List Nat} (hindices : childIndices text = .ok indices)
    (h : synthesize name (recordOf text indices) overrides = .ok s) :
    Itemized text name (recordOf text indices) s := by
  have hparts : s.definitions = definitions name (recordOf text indices)
      ∧ s.filters = filters name (recordOf text indices) := by
    obtain ⟨-, fields, -, rfl⟩ := exists_fields_of_synthesize h
    exact ⟨rfl, rfl⟩
  have hitems : ∀ d, (d ∈ s.definitions ∧ d.id = itemId name) ↔
      (recordOf text indices).isContainer = true
        ∧ d = itemDefinition name (recordOf text indices) := by
    rw [hparts.1]
    exact mem_definitions_item_iff
  have hiff : s.filters ≠ [] ↔ ∃ d ∈ s.definitions, d.id = itemId name := by
    simp only [hitems, exists_and_left, exists_eq, and_true, hparts.2, filters]
    split <;> simp_all
  have hitem : ∀ d ∈ s.definitions, d.id = itemId name →
      ItemSchema text name (recordOf text indices) s d := by
    intro d hd hid
    obtain ⟨hcontainer, rfl⟩ := (hitems d).mp ⟨hd, hid⟩
    exact itemSchema_of_isContainer hindices hcontainer h
  refine ⟨hiff, hitem, fun m hm hmany => ?_⟩
  have hno : ∀ d ∈ s.definitions, d.id ≠ itemId name := by
    intro d hd hid
    obtain ⟨m', hmodels, -, hlength⟩ := (hitem d hd hid).model
    rw [hmodels, List.mem_singleton] at hm
    rw [hm, hlength] at hmany
    split at hmany <;> omega
  refine ⟨hno, ?_⟩
  by_contra hne
  obtain ⟨d, hd, hid⟩ := hiff.mp hne
  exact hno d hd hid

/-- **Items have few fields.** For a name that is not blank, whatever the author's wishes are, the
schema of an accepted source has an item definition iff it has a filter. Then the source reaches
into nothing by index, and its items have one field, or two if it is read as a configuration; so
three fields are never those of an item. A container is never refused a schema. -/
theorem synthesize_items (source : Script.Source) (name : String)
    (overrides : List (Option FieldOverride))
    (haccepted : (Script.moduleTree source).isOk = true) (hname : isBlank name.toList = false) :
    ∃ text, source = .ofChars text ∧ ∀ r, analyzeSource source = .ok r →
      (r.isContainer = true → ∃ s, synthesize name r overrides = .ok s)
        ∧ ∀ s, synthesize name r overrides = .ok s → Itemized text name r s := by
  obtain ⟨text, htext, -, hrecord⟩ := exists_text_of_accepted haccepted
  refine ⟨text, htext, fun r hr => ?_⟩
  obtain ⟨indices, hindices, rfl⟩ := hrecord r hr
  refine ⟨fun hcontainer => ?_, fun s hs => itemized_of_synthesize hindices hs⟩
  refine ⟨_, synthesize_eq_ok hname ?_⟩
  rw [(recordOf_inferred hindices).columns_of_isContainer hcontainer]
  split <;> decide

/-- A configuration that names the model of an item. -/
def namedConfigText : List Char :=
  "readBlockConfig(block); name('data-aue-model');".toList

theorem synthesize_items_namedConfig :
    (Script.moduleTree (.ofChars namedConfigText)).isOk = true
      ∧ isBlank "cards".toList = false
      ∧ ∃ r s, analyzeSource (.ofChars namedConfigText) = .ok r
        ∧ synthesize "cards" r [] = .ok s ∧ s.filters ≠ [] ∧ Itemized namedConfigText "cards" r s := by
  have haccepted : (Script.moduleTree (.ofChars namedConfigText)).isOk = true := by
    decide +kernel
  have hname : isBlank "cards".toList = false := by decide
  have hindices : childIndices namedConfigText = .ok [] := by decide +kernel
  have hrecord : analyzeSource (.ofChars namedConfigText) = .ok (recordOf namedConfigText []) :=
    analyzeSource_ofChars haccepted hindices
  have hcontainer : (recordOf namedConfigText []).isContainer = true := by decide +kernel
  obtain ⟨text, htext, hall⟩ := synthesize_items (.ofChars namedConfigText) "cards" [] haccepted hname
  obtain rfl := Script.Source.ofChars_injective htext
  obtain ⟨hexists, hitemized⟩ := hall _ hrecord
  obtain ⟨s, hs⟩ := hexists hcontainer
  refine ⟨haccepted, hname, _, s, hrecord, hs, ?_, hitemized s hs⟩
  obtain ⟨-, fields, -, rfl⟩ := exists_fields_of_synthesize hs
  simp [filters, hcontainer]

end Synthesis

end BlockAuthoring
