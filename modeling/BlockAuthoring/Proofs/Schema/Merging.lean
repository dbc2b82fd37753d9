import BlockAuthoring.Proofs.Schema.Synthesis
import Mathlib.Data.List.Flatten
import Mathlib.Data.List.Nodup
import Mathlib.Data.List.Pairwise

/-!
# Merged schemas

The gathering files take in the definitions, models and filters of all blocks. Within the schema of
a block every reference leads to an id. Between blocks of different names only one thing can go
wrong: the id of a container's items may be the name of another block.
-/

namespace BlockAuthoring

open Text

/-- All that schemas hold, one behind the other, as the gathering files take it in. -/
def AuthoringSchema.merged (schemas : List AuthoringSchema) : AuthoringSchema where
  definitions := schemas.flatMap (·.definitions)
  models := schemas.flatMap (·.models)
  filters := schemas.flatMap (·.filters)

/-- The references in a schema lead to ids in it: the hints of a definition name the definition, the
model is that of the last definition, and a filter lets all definitions behind the first into it. -/
structure AuthoringSchema.Resolves (s : AuthoringSchema) : Prop where
  hints : ∀ d ∈ s.definitions, d.hints.name = some d.id
  model : ∃ m d, s.models = [m] ∧ s.definitions.getLast? = some d ∧ m.id = d.id
  filters : ∀ f ∈ s.filters, ∃ d items, s.definitions = d :: items ∧ f.id = d.id
    ∧ f.components = items.map (·.id)

namespace Synthesis

/-- What the schema of a block is made from. -/
structure Subject where
  name : String
  record : AnalysisRecord
  overrides : List (Option FieldOverride) := []

namespace Subject

variable {b : Subject} {s : AuthoringSchema}

/-- The schema of a block. -/
def schema (b : Subject) : Except SynthesisError AuthoringSchema :=
  synthesize b.name b.record b.overrides

/-- The ids of a block's definitions. -/
def ids (b : Subject) : List String :=
  b.name :: if b.record.isContainer then [itemId b.name] else []

/-! ## One block -/

/-- Of a schema that is made, only the fields of its model are still open. -/
theorem exists_fields_of_schema (h : b.schema = .ok s) : ∃ fields,
    s = ⟨definitions b.name b.record,
      [⟨if b.record.isContainer then itemId b.name else b.name, fields⟩],
      Synthesis.filters b.name b.record⟩ := by
  obtain ⟨-, fields, -, rfl⟩ := exists_fields_of_synthesize h
  exact ⟨fields, rfl⟩

theorem ids_eq (h : b.schema = .ok s) : s.definitions.map (·.id) = b.ids := by
  obtain ⟨fields, rfl⟩ := exists_fields_of_schema h
  unfold ids
  cases hcontainer : b.record.isContainer <;>
    simp [definitions, hcontainer, primaryDefinition, itemDefinition]

theorem resolves (h : b.schema = .ok s) : s.Resolves := by
  obtain ⟨fields, rfl⟩ := exists_fields_of_schema h
  cases hcontainer : b.record.isContainer with
  | false =>
    exact {
      hints := by simp [definitions, hcontainer, primaryDefinition]
      model := ⟨_, primaryDefinition b.name b.record, rfl, by simp [definitions, hcontainer], rfl⟩
      filters := by simp [Synthesis.filters, hcontainer] }
  | true =>
    exact {
      hints := by simp [definitions, hcontainer, primaryDefinition, itemDefinition]
      model := ⟨_, itemDefinition b.name b.record, rfl, by simp [definitions, hcontainer], rfl⟩
      filters := by
        simp [Synthesis.filters, definitions, hcontainer, primaryDefinition, itemDefinition] }

/-- Only a container has a filter, and it is called like the block. -/
theorem sublist_filters (h : b.schema = .ok s) : (s.filters.map (·.id)).Sublist [b.name] := by
  obtain ⟨fields, rfl⟩ := exists_fields_of_schema h
  cases hcontainer : b.record.isContainer <;> simp [Synthesis.filters, hcontainer]

end Subject

/-- The model of a schema is called like one of its definitions. -/
theorem sublist_models {s : AuthoringSchema} (h : s.Resolves) :
    (s.models.map (·.id)).Sublist (s.definitions.map (·.id)) := by
  obtain ⟨m, d, hmodels, hlast, hid⟩ := h.model
  rw [hmodels, List.map_singleton, hid, List.singleton_sublist]
  exact List.mem_map_of_mem (List.mem_of_getLast? hlast)

/-! ## Many blocks -/

section

variable {blocks : List Subject} {schemas : List AuthoringSchema}

/-- A block is called like the items of a container. -/
def Clash (blocks : List Subject) : Prop :=
  ∃ b ∈ blocks, ∃ b' ∈ blocks, b.record.isContainer = true ∧ b'.name = itemId b.name

theorem itemId_ne (name : String) : name ≠ itemId name := by
  intro h
  have hlength := congrArg String.length h
  simp [itemId] at hlength

theorem itemId_injective {name name' : String} (h : itemId name = itemId name') : name = name' := by
  have hchars := congrArg String.toList h
  simpa [itemId, String.toList_inj] using hchars

/-- What is taken in of each schema, when it is told from the blocks, comes in their order. -/
theorem flatMap_of_schemas {γ : Type} {f : AuthoringSchema → List γ} {g : Subject → List γ}
    (hmade : blocks.mapM Subject.schema = .ok schemas)
    (h : ∀ b s, b.schema = .ok s → f s = g b) : schemas.flatMap f = blocks.flatMap g := by
  rw [mapM_eq_ok_iff] at hmade
  induction hmade with
  | nil => rfl
  | cons hschema _ ih => rw [List.flatMap_cons, List.flatMap_cons, ih, h _ _ hschema]

theorem sublist_flatMap_of_schemas {γ : Type} {f : AuthoringSchema → List γ} {g : Subject → γ}
    (hmade : blocks.mapM Subject.schema = .ok schemas)
    (h : ∀ b s, b.schema = .ok s → (f s).Sublist [g b]) :
    (schemas.flatMap f).Sublist (blocks.map g) := by
  rw [mapM_eq_ok_iff] at hmade
  induction hmade with
  | nil => exact .slnil
  | cons hschema _ ih => exact (h _ _ hschema).append ih

/-- Blocks of different names share an id iff one of them is called like the items of the other. -/
theorem disjoint_ids_iff {b b' : Subject} (hne : b.name ≠ b'.name) : b.ids.Disjoint b'.ids ↔
    ¬ (b.record.isContainer = true ∧ b'.name = itemId b.name)
      ∧ ¬ (b'.record.isContainer = true ∧ b.name = itemId b'.name) := by
  have hitems : itemId b.name ≠ itemId b'.name := fun h => hne (itemId_injective h)
  unfold Subject.ids
  cases b.record.isContainer <;> cases b'.record.isContainer <;>
    simp [hne, hitems, eq_comm, and_comm]

/-- All ids are different iff no block is called like the items of a container. -/
theorem nodup_ids_iff (hnames : (blocks.map (·.name)).Nodup) :
    (blocks.flatMap Subject.ids).Nodup ↔ ¬ Clash blocks := by
  have hne : ∀ b ∈ blocks, ∀ b' ∈ blocks, b ≠ b' → b.name ≠ b'.name := by
    intro b hb b' hb' hbb' hname
    exact hbb' (List.inj_on_of_nodup_map hnames hb hb' hname)
  rw [List.nodup_flatMap]
  constructor
  · rintro ⟨-, hpairs⟩ ⟨b, hb, b', hb', hcontainer, hname⟩
    have hsymm : Std.Symm (Function.onFun List.Disjoint Subject.ids) :=
      ⟨fun _ _ h _ hin hin' => h hin' hin⟩
    have hbb' : b ≠ b' := by
      rintro rfl
      exact itemId_ne b.name hname
    have hdisjoint := hpairs.forall hb hb' hbb'
    exact ((disjoint_ids_iff (hne b hb b' hb' hbb')).mp hdisjoint).1 ⟨hcontainer, hname⟩
  · intro hclash
    constructor
    · intro b _
      unfold Subject.ids
      split <;> simp [itemId_ne]
    · refine (List.Nodup.of_map _ hnames).pairwise_of_forall_ne fun b hb b' hb' hbb' => ?_
      refine (disjoint_ids_iff (hne b hb b' hb' hbb')).mpr ⟨?_, ?_⟩
      · exact fun h => hclash ⟨b, hb, b', hb', h⟩
      · exact fun h => hclash ⟨b', hb', b, hb, h⟩

/-- What holds of the ids that schemas of different blocks bring together. -/
structure Gathered (blocks : List Subject) (schemas : List AuthoringSchema) : Prop where
  definitions : ((AuthoringSchema.merged schemas).definitions.map (·.id)).Nodup ↔ ¬ Clash blocks
  models : ¬ Clash blocks → ((AuthoringSchema.merged schemas).models.map (·.id)).Nodup
  filters : ((AuthoringSchema.merged schemas).filters.map (·.id)).Nodup
  resolves : ∀ s ∈ schemas, s.Resolves

/-- **Merged ids.** Blocks with names that are not blank have schemas, if their columns have no more
digits than are converted. However many blocks of different names there are, and whatever their
records and the author's wishes are: merged, their definitions have different ids iff no block is
called like the items of a container, and then so have their models. Their filters always have
different ids, and within each schema every reference leads to an id. -/
theorem merged_ids (hnames : (blocks.map (·.name)).Nodup) :
    ((∀ b ∈ blocks, isBlank b.name.toList = false
        ∧ (toString b.record.expectedStructure.columns).length ≤ maxDigits) →
      ∃ schemas, blocks.mapM Subject.schema = .ok schemas)
    ∧ ∀ schemas, blocks.mapM Subject.schema = .ok schemas → Gathered blocks schemas := by
  constructor
  · intro hblocks
    refine ⟨_, mapM_eq_ok_map (g := fun b => ⟨definitions b.name b.record,
      [modelAt b.name b.record b.overrides], filters b.name b.record⟩) blocks fun b hb => ?_⟩
    obtain ⟨hname, hcolumns⟩ := hblocks b hb
    rw [Nat.toString_eq_repr, ← String.length_toList, Nat.toList_repr] at hcolumns
    exact synthesize_eq_ok hname hcolumns
  · intro schemas hmade
    have hresolves : ∀ s ∈ schemas, s.Resolves := by
      intro s hs
      obtain ⟨b, -, hschema⟩ := exists_of_mem_mapM hmade hs
      exact b.resolves hschema
    have hdefinitions : ((AuthoringSchema.merged schemas).definitions.map (·.id)).Nodup
        ↔ ¬ Clash blocks := by
      rw [← nodup_ids_iff hnames, AuthoringSchema.merged, List.map_flatMap,
        flatMap_of_schemas hmade fun b s => Subject.ids_eq]
    refine ⟨hdefinitions, fun hclash => (hdefinitions.mpr hclash).sublist ?_, ?_, hresolves⟩
    · simp only [AuthoringSchema.merged, List.map_flatMap]
      exact .flatMap_right _ fun s hs => sublist_models (hresolves s hs)
    · refine List.Nodup.sublist ?_ hnames
      rw [AuthoringSchema.merged, List.map_flatMap]
      exact sublist_flatMap_of_schemas hmade fun b s => Subject.sublist_filters

/-- A container of cards, and a block of another name that is no container. -/
def cardsAnd (name : String) : List Subject :=
  let record : AnalysisRecord := { Analysis.recordOf [] [] with isContainer := false }
  [⟨"cards", { record with isContainer := true }, []⟩, ⟨name, record, []⟩]

/-- Cards and a hero have ids of their own, but a block may be called like the items of cards. -/
theorem merged_ids_cards :
    (((cardsAnd "hero").map (·.name)).Nodup
      ∧ ∃ schemas, (cardsAnd "hero").mapM Subject.schema = .ok schemas
        ∧ ((AuthoringSchema.merged schemas).definitions.map (·.id)).Nodup)
    ∧ ((cardsAnd "cards-item").map (·.name)).Nodup
      ∧ ∃ schemas, (cardsAnd "cards-item").mapM Subject.schema = .ok schemas
        ∧ ¬ ((AuthoringSchema.merged schemas).definitions.map (·.id)).Nodup := by
  have hcolumns (name : String) (hname : isBlank name.toList = false) :
      ∀ b ∈ cardsAnd name, isBlank b.name.toList = false
        ∧ (toString b.record.expectedStructure.columns).length ≤ maxDigits := by
    have hone : (toString 1).length ≤ maxDigits := by decide
    simp only [cardsAnd, List.forall_mem_cons]
    exact ⟨⟨by decide, hone⟩, ⟨hname, hone⟩, by simp⟩
  have hhero : ((cardsAnd "hero").map (·.name)).Nodup := by decide
  have hitem : ((cardsAnd "cards-item").map (·.name)).Nodup := by decide
  refine ⟨⟨hhero, ?_⟩, hitem, ?_⟩
  · obtain ⟨hexists, hall⟩ := merged_ids hhero
    obtain ⟨schemas, hmade⟩ := hexists (hcolumns "hero" (by decide))
    refine ⟨schemas, hmade, (hall schemas hmade).definitions.mpr ?_⟩
    simp [Clash, cardsAnd, itemId, ← String.toList_inj]
  · obtain ⟨hexists, hall⟩ := merged_ids hitem
    obtain ⟨schemas, hmade⟩ := hexists (hcolumns "cards-item" (by decide))
    refine ⟨schemas, hmade, fun hnodup => (hall schemas hmade).definitions.mp hnodup ?_⟩
    exact ⟨_, List.mem_cons_self, _, List.mem_cons_of_mem _ List.mem_cons_self, rfl, rfl⟩

end

end Synthesis

end BlockAuthoring
