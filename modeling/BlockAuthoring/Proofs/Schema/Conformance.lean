import BlockAuthoring.Proofs.Schema.Defects

/-!
# Reports and defects

The report on a schema is compared with the tables of demands: its errors are the defects of the
schema in their order, its warnings the fields without a label. Both come from one fact about each
kind of element and one about lists (`errors_ofItems`); that a valid schema is a well-formed one
and that the defects of an element are always reported follow from them.
-/

namespace BlockAuthoring

/-! ## Objects and arrays -/

namespace Json

theorem get_of_not_isObject {v : Json} (h : ¬ v.isObject = true) (key : String) :
    v.get key = .null := by
  cases v <;> first | rfl | exact absurd rfl h

theorem isObject_of_get {v : Json} {key : String} {items : List Json}
    (h : v.get key = .array items) : v.isObject = true := by
  by_cases hv : v.isObject = true
  · exact hv
  · simp [get_of_not_isObject hv] at h

theorem isArray_iff {v : Json} : v.isArray = true ↔ ∃ items, v = .array items := by
  cases v <;> simp [isArray]

end Json

namespace Report

variable {a b : Report} {path subject message : String} {check : Nat → Json → Report}

/-! ## Parts of a report -/

@[simp] theorem errors_append : (a ++ b).errors = a.errors ++ b.errors := rfl

@[simp] theorem warnings_append : (a ++ b).warnings = a.warnings ++ b.warnings := rfl

@[simp] theorem errors_error (kind : RemarkKind) :
    (error path message kind).errors = [⟨path, message, kind⟩] := rfl

@[simp] theorem warnings_error (kind : RemarkKind) :
    (error path message kind).warnings = [] := rfl

@[simp] theorem warnings_expect (holds : Bool) :
    (expect holds path message).warnings = [] := by
  cases holds <;> rfl

theorem isValid_iff : a.isValid = true ↔ a.errors = [] := List.isEmpty_iff

/-- The errors on a list are those on its items, the first of them under `k`. -/
theorem errors_ofItems_from (items : List Json) (k : Nat) :
    (ofItems check k items).errors
      = (items.zipIdx k).flatMap fun (v, i) => (check i v).errors := by
  induction items generalizing k with
  | nil => rfl
  | cons v rest ih =>
    simp only [ofItems, errors_append, ih, List.zipIdx_cons, List.flatMap_cons]

theorem warnings_ofItems_from (items : List Json) (k : Nat) :
    (ofItems check k items).warnings
      = (items.zipIdx k).flatMap fun (v, i) => (check i v).warnings := by
  induction items generalizing k with
  | nil => rfl
  | cons v rest ih =>
    simp only [ofItems, warnings_append, ih, List.zipIdx_cons, List.flatMap_cons]

theorem errors_ofItems (items : List Json) :
    (ofItems check 0 items).errors = eachItem (fun i v => (check i v).errors) items :=
  errors_ofItems_from items 0

theorem warnings_ofItems (items : List Json) :
    (ofItems check 0 items).warnings = eachItem (fun i v => (check i v).warnings) items :=
  warnings_ofItems_from items 0

/-! ## Demands -/

/-- A check that decides a demand complains exactly when the demand is not met. -/
theorem errors_expect {d : Demand} {v : Json} {holds : Bool} (h : d.met v ↔ holds = true) :
    (expect holds path (subject ++ d.complaint)).errors = d.unmet path subject v := by
  cases holds with
  | true => simp [expect, Demand.unmet, h]
  | false => simp [expect, Demand.unmet, h]

theorem met_filled {key complaint : String} {v : Json} :
    (Demand.filled key complaint).met v ↔ (v.get key).isTruthy = true := by
  simp only [Demand.filled, ← Json.isTruthy_eq_false_iff, Bool.not_eq_false]

theorem met_hinted {v : Json} : Demand.hinted.met v ↔ hasHints v = true := Iff.rfl

theorem ownDefects_of_not_isObject {demands : List Demand} {v : Json}
    (h : ¬ v.isObject = true) :
    ownDefects path subject demands v = [⟨path, subject ++ ": not an object", .invalidType⟩] :=
  if_neg h

/-! ## Elements -/

theorem errors_ofDefinition (i : Nat) (v : Json) :
    (ofDefinition i v).errors = definitionDefects i v := by
  simp only [ofDefinition, definitionDefects, indexed]
  by_cases h : v.isObject = true
  · simp only [if_pos h, ownDefects, definitionDemands, List.flatMap_cons, List.flatMap_nil,
      List.append_nil, errors_append, ← List.append_assoc]
    rw [← errors_expect (d := .filled "title" _) met_filled,
      ← errors_expect (d := .filled "id" _) met_filled,
      ← errors_expect met_hinted]
    rfl
  · rw [if_neg h, ownDefects_of_not_isObject h]
    rfl

theorem errors_ofFilter (i : Nat) (v : Json) : (ofFilter i v).errors = filterDefects i v := by
  simp only [ofFilter, filterDefects, indexed]
  by_cases h : v.isObject = true
  · simp only [if_pos h, ownDefects, filterDemands, List.flatMap_cons, List.flatMap_nil,
      List.append_nil, errors_append]
    rw [← errors_expect (d := .filled "id" _) met_filled,
      ← errors_expect (d := .listed "components" _) Iff.rfl]
    rfl
  · rw [if_neg h, ownDefects_of_not_isObject h]
    rfl

theorem indexed_fields (i j : Nat) :
    indexed (indexed "models" i ++ ".fields") j = fieldPath i j := by
  simp [indexed, fieldPath, ← String.toList_inj]

theorem errors_ofField (i j : Nat) (v : Json) : (ofField i j v).errors = fieldDefects i j v := by
  simp only [ofField, fieldDefects, indexed_fields]
  by_cases h : v.isObject = true
  · simp only [if_pos h, ownDefects, fieldDemands, List.flatMap_cons, List.flatMap_nil,
      List.append_nil, errors_append]
    rw [← errors_expect (d := .filled "component" _) met_filled,
      ← errors_expect (d := .filled "name" _) met_filled]
    cases (v.get "label").isTruthy <;> simp [fieldSubject, Demand.filled]
  · rw [if_neg h, ownDefects_of_not_isObject h]
    rfl

/-- The fields of a model are only looked at if they are a list; if not, that is one defect. -/
theorem errors_ofModel (i : Nat) (v : Json) : (ofModel i v).errors = modelDefects i v := by
  simp only [ofModel, modelDefects, indexed]
  by_cases h : v.isObject = true
  · simp only [if_pos h, ownDefects, modelDemands, List.flatMap_cons, List.flatMap_nil,
      List.append_nil, errors_append, List.append_assoc]
    rw [← errors_expect (d := .filled "id" _) met_filled]
    congr 1
    -- Fields that are no list are one defect of the model and have no defects of their own.
    cases hf : v.get "fields" with
    | array fields =>
      simp only [errors_ofItems, errors_ofField, itemsOf]
      simp [Demand.unmet, Demand.listed, hf, Json.isArray]
    | _ => simp [Demand.unmet, Demand.listed, hf, Json.isArray, itemsOf]
  · rw [if_neg h, ownDefects_of_not_isObject h, Json.get_of_not_isObject h]
    rfl

theorem errors_ofList {defects : Nat → Json → List Remark} (key : String) (v : Json)
    (h : ∀ i x, (check i x).errors = defects i x) :
    (ofList key check v).errors = listDefects key defects v := by
  unfold ofList listDefects Json.get
  cases hm : v.member? key with
  | none => rfl
  | some x =>
    cases x with
    | array items => simp only [Option.getD_some, errors_ofItems, h]
    | _ => rfl

theorem errors_ofSchema (v : Json) : (ofSchema v).errors = schemaDefects v := by
  unfold ofSchema schemaDefects
  split
  · rw [errors_append, errors_append, errors_ofList _ v errors_ofDefinition,
      errors_ofList _ v errors_ofModel, errors_ofList _ v errors_ofFilter]
  · rfl

/-! ## Warnings -/

theorem warnings_ofField (i j : Nat) (v : Json) :
    (ofField i j v).warnings = unlabelledField i j v := by
  simp only [ofField, unlabelledField, indexed_fields, ← Json.isTruthy_eq_false_iff]
  cases v.isObject with
  | false => rfl
  | true => cases (v.get "label").isTruthy <;> simp [fieldSubject]

theorem warnings_ofModel (i : Nat) (v : Json) :
    (ofModel i v).warnings =
      eachItem (unlabelledField i) (itemsOf (v.get "fields")) := by
  unfold ofModel
  by_cases h : v.isObject = true
  · simp only [if_pos h, warnings_append, warnings_expect, List.nil_append]
    cases v.get "fields" with
    | array fields => simp only [warnings_ofItems, warnings_ofField, itemsOf]
    | _ => rfl
  · rw [if_neg h, Json.get_of_not_isObject h]
    rfl

theorem warnings_ofDefinition (i : Nat) (v : Json) : (ofDefinition i v).warnings = [] := by
  unfold ofDefinition
  split <;> simp

theorem warnings_ofFilter (i : Nat) (v : Json) : (ofFilter i v).warnings = [] := by
  unfold ofFilter
  split <;> simp

theorem warnings_ofList (key : String) (v : Json) :
    (ofList key check v).warnings =
      eachItem (fun i x => (check i x).warnings) (itemsOf (v.get key)) := by
  unfold ofList
  cases v.get key with
  | array items => simp only [warnings_ofItems, itemsOf]
  | _ => rfl

theorem warnings_ofSchema (v : Json) : (ofSchema v).warnings = unlabelled v := by
  unfold ofSchema unlabelled
  by_cases h : v.isObject = true
  · simp only [if_pos h, warnings_append, warnings_ofList, warnings_ofDefinition,
      warnings_ofModel, warnings_ofFilter]
    simp
  · rw [if_neg h, Json.get_of_not_isObject h]
    rfl

/-! ## Well-formed schemas -/

/-- A definition has a title, an id and hints for the authoring plugin. -/
structure DefinitionFormed (v : Json) : Prop where
  object : v.isObject = true
  title : ¬ (v.get "title").SaysNothing
  id : ¬ (v.get "id").SaysNothing
  hints : ((v.get "plugins").get "da").isObject = true

/-- A field has a component and a name; nothing is asked of its label. -/
structure FieldFormed (v : Json) : Prop where
  object : v.isObject = true
  component : ¬ (v.get "component").SaysNothing
  name : ¬ (v.get "name").SaysNothing

/-- A model has an id and well-formed fields. -/
structure ModelFormed (v : Json) : Prop where
  object : v.isObject = true
  id : ¬ (v.get "id").SaysNothing
  fields : ∃ fields, v.get "fields" = .array fields ∧ ∀ f ∈ fields, FieldFormed f

/-- A filter has an id and components, which may be anything. -/
structure FilterFormed (v : Json) : Prop where
  object : v.isObject = true
  id : ¬ (v.get "id").SaysNothing
  components : (v.get "components").isArray = true

/-- A schema is an object with three lists of well-formed elements. -/
structure SchemaFormed (v : Json) : Prop where
  object : v.isObject = true
  definitions : ∃ items, v.get "definitions" = .array items ∧ ∀ d ∈ items, DefinitionFormed d
  models : ∃ items, v.get "models" = .array items ∧ ∀ m ∈ items, ModelFormed m
  filters : ∃ items, v.get "filters" = .array items ∧ ∀ f ∈ items, FilterFormed f

theorem ownDefects_eq_nil_iff {demands : List Demand} {v : Json} :
    ownDefects path subject demands v = [] ↔
      v.isObject = true ∧ ∀ d ∈ demands, d.met v := by
  unfold ownDefects
  by_cases h : v.isObject = true
  · simp [h, Demand.unmet]
  · simp [h]

theorem definitionDefects_eq_nil_iff (i : Nat) (v : Json) :
    definitionDefects i v = [] ↔ DefinitionFormed v := by
  rw [definitionDefects, ownDefects_eq_nil_iff]
  simp only [definitionDemands, List.forall_mem_cons]
  constructor
  · rintro ⟨h, ht, hi, hh, -⟩
    exact ⟨h, ht, hi, hh⟩
  · intro h
    exact ⟨h.object, h.title, h.id, h.hints, by simp⟩

theorem fieldDefects_eq_nil_iff (i j : Nat) (v : Json) :
    fieldDefects i j v = [] ↔ FieldFormed v := by
  rw [fieldDefects, ownDefects_eq_nil_iff]
  simp only [fieldDemands, List.forall_mem_cons]
  constructor
  · rintro ⟨h, hc, hn, -⟩
    exact ⟨h, hc, hn⟩
  · intro h
    exact ⟨h.object, h.component, h.name, by simp⟩

theorem filterDefects_eq_nil_iff (i : Nat) (v : Json) :
    filterDefects i v = [] ↔ FilterFormed v := by
  rw [filterDefects, ownDefects_eq_nil_iff]
  simp only [filterDemands, List.forall_mem_cons]
  constructor
  · rintro ⟨h, hi, hc, -⟩
    exact ⟨h, hi, hc⟩
  · intro h
    exact ⟨h.object, h.id, h.components, by simp⟩

/-- Nothing is said of a list iff nothing is said of any of its items. -/
theorem eachItem_eq_nil_iff {said : Nat → Json → List Remark} {P : Json → Prop}
    (h : ∀ i v, said i v = [] ↔ P v) (items : List Json) :
    eachItem said items = [] ↔ ∀ v ∈ items, P v := by
  suffices ∀ k, ((items.zipIdx k).flatMap fun (v, i) => said i v) = [] ↔ ∀ v ∈ items, P v from
    this 0
  induction items with
  | nil => simp
  | cons v rest ih =>
    intro k
    simp only [List.zipIdx_cons, List.flatMap_cons, List.append_eq_nil_iff, ih, h,
      List.forall_mem_cons]

theorem modelDefects_eq_nil_iff (i : Nat) (v : Json) :
    modelDefects i v = [] ↔ ModelFormed v := by
  rw [modelDefects, List.append_eq_nil_iff, ownDefects_eq_nil_iff,
    eachItem_eq_nil_iff (fieldDefects_eq_nil_iff i)]
  simp only [modelDemands, List.forall_mem_cons]
  constructor
  · rintro ⟨⟨h, hi, hl, -⟩, hf⟩
    obtain ⟨fields, hfields⟩ := Json.isArray_iff.mp hl
    rw [hfields] at hf
    exact ⟨h, hi, fields, hfields, hf⟩
  · rintro ⟨h, hi, fields, hfields, hf⟩
    refine ⟨⟨h, hi, Json.isArray_iff.mpr ⟨fields, hfields⟩, by simp⟩, ?_⟩
    rw [hfields]
    exact hf

theorem listDefects_eq_nil_iff {defects : Nat → Json → List Remark} {P : Json → Prop}
    (h : ∀ i v, defects i v = [] ↔ P v) (key : String) (v : Json) :
    listDefects key defects v = [] ↔ ∃ items, v.get key = .array items ∧ ∀ x ∈ items, P x := by
  unfold listDefects Json.get
  cases hm : v.member? key with
  | none => simp
  | some x =>
    cases x with
    | array items => simpa using eachItem_eq_nil_iff h items
    | _ => simp

theorem schemaDefects_eq_nil_iff (v : Json) : schemaDefects v = [] ↔ SchemaFormed v := by
  unfold schemaDefects
  by_cases h : v.isObject = true
  · rw [if_pos h, List.append_eq_nil_iff, List.append_eq_nil_iff,
      listDefects_eq_nil_iff definitionDefects_eq_nil_iff,
      listDefects_eq_nil_iff modelDefects_eq_nil_iff,
      listDefects_eq_nil_iff filterDefects_eq_nil_iff]
    constructor
    · rintro ⟨⟨hd, hm⟩, hf⟩
      exact ⟨h, hd, hm, hf⟩
    · intro hs
      exact ⟨⟨hs.definitions, hs.models⟩, hs.filters⟩
  · rw [if_neg h]
    exact iff_of_false (by simp) fun hs => h hs.object

/-! ## No element hides another one -/

/-- What is wrong with one element of a schema, wherever it stands. -/
inductive ElementDefects (v : Json) : List Remark → Prop
  | definition {items : List Json} {i : Nat} {d : Json}
      (list : v.get "definitions" = .array items) (item : items[i]? = some d) :
      ElementDefects v (definitionDefects i d)
  | model {items : List Json} {i : Nat} {m : Json}
      (list : v.get "models" = .array items) (item : items[i]? = some m) :
      ElementDefects v (modelDefects i m)
  | field {items fields : List Json} {i j : Nat} {m f : Json}
      (list : v.get "models" = .array items) (item : items[i]? = some m)
      (fieldList : m.get "fields" = .array fields) (field : fields[j]? = some f) :
      ElementDefects v (fieldDefects i j f)
  | filter {items : List Json} {i : Nat} {f : Json}
      (list : v.get "filters" = .array items) (item : items[i]? = some f) :
      ElementDefects v (filterDefects i f)

theorem infix_eachItem {said : Nat → Json → List Remark} {items : List Json} {i : Nat}
    {v : Json} (h : items[i]? = some v) : said i v <:+: eachItem said items := by
  have hm : (v, i) ∈ items.zipIdx := by
    rw [List.mem_zipIdx_iff_getElem?]
    exact h
  obtain ⟨before, after, hsplit⟩ := List.append_of_mem hm
  rw [eachItem, hsplit, List.flatMap_append, List.flatMap_cons, ← List.append_assoc]
  exact List.infix_append _ _ _

theorem infix_listDefects {defects : Nat → Json → List Remark} {key : String} {v x : Json}
    {items : List Json} {i : Nat} (hlist : v.get key = .array items)
    (hitem : items[i]? = some x) : defects i x <:+: listDefects key defects v := by
  unfold listDefects
  unfold Json.get at hlist
  cases hm : v.member? key with
  | none => simp [hm] at hlist
  | some y =>
    have hy : y = .array items := by simpa [hm] using hlist
    subst hy
    exact infix_eachItem hitem

/-- The defects of a model hold those of each of its fields. -/
theorem fieldDefects_isInfix {m f : Json} {fields : List Json} {i j : Nat}
    (hlist : m.get "fields" = .array fields) (hfield : fields[j]? = some f) :
    fieldDefects i j f <:+: modelDefects i m := by
  rw [modelDefects, hlist]
  exact (infix_eachItem hfield).trans (List.suffix_append _ _).isInfix

theorem ElementDefects.isInfix {v : Json} {ds : List Remark} (h : ElementDefects v ds) :
    ds <:+: schemaDefects v := by
  have hobject : v.isObject = true := by
    cases h <;> exact Json.isObject_of_get ‹_›
  rw [schemaDefects, if_pos hobject]
  have hmodels : listDefects "models" modelDefects v <:+:
      listDefects "definitions" definitionDefects v ++ listDefects "models" modelDefects v
        ++ listDefects "filters" filterDefects v := List.infix_append _ _ _
  cases h with
  | definition hl hi =>
    rw [List.append_assoc]
    exact (infix_listDefects hl hi).trans (List.prefix_append _ _).isInfix
  | model hl hi => exact (infix_listDefects hl hi).trans hmodels
  | field hl hi hfl hf =>
    exact ((fieldDefects_isInfix hfl hf).trans (infix_listDefects hl hi)).trans hmodels
  | filter hl hi => exact (infix_listDefects hl hi).trans (List.suffix_append _ _).isInfix

/-! ## Kinds of remarks -/

/-- A demand that is not met is no remark on a label. -/
theorem kind_of_mem_ownDefects {demands : List Demand} {v : Json} {e : Remark}
    (h : e ∈ ownDefects path subject demands v) : e.kind ≠ .missingLabel := by
  unfold ownDefects at h
  split at h
  · obtain ⟨d, -, he⟩ := List.mem_flatMap.mp h
    unfold Demand.unmet at he
    split at he
    · simp at he
    · rw [List.mem_singleton.mp he]
      simp
  · rw [List.mem_singleton.mp h]
    simp

theorem kind_of_mem_eachItem {said : Nat → Json → List Remark} {items : List Json} {e : Remark}
    (hsaid : ∀ i v, e ∈ said i v → e.kind ≠ .missingLabel) (h : e ∈ eachItem said items) :
    e.kind ≠ .missingLabel := by
  obtain ⟨⟨v, i⟩, -, he⟩ := List.mem_flatMap.mp h
  exact hsaid i v he

theorem kind_of_mem_modelDefects {i : Nat} {v : Json} {e : Remark} (h : e ∈ modelDefects i v) :
    e.kind ≠ .missingLabel := by
  rcases List.mem_append.mp h with h | h
  · exact kind_of_mem_ownDefects h
  · exact kind_of_mem_eachItem (fun _ _ => kind_of_mem_ownDefects) h

theorem kind_of_mem_listDefects {defects : Nat → Json → List Remark} {key : String} {v : Json}
    {e : Remark} (hdefects : ∀ i x, e ∈ defects i x → e.kind ≠ .missingLabel)
    (h : e ∈ listDefects key defects v) : e.kind ≠ .missingLabel := by
  unfold listDefects at h
  split at h
  · rw [List.mem_singleton.mp h]
    simp
  · rw [List.mem_singleton.mp h]
    simp
  · exact kind_of_mem_eachItem hdefects h
  · rw [List.mem_singleton.mp h]
    simp

/-- A missing label is never an error. -/
theorem kind_of_mem_schemaDefects {v : Json} {e : Remark} (h : e ∈ schemaDefects v) :
    e.kind ≠ .missingLabel := by
  unfold schemaDefects at h
  split at h
  · rcases List.mem_append.mp h with h | h
    · rcases List.mem_append.mp h with h | h
      · exact kind_of_mem_listDefects (fun _ _ => kind_of_mem_ownDefects) h
      · exact kind_of_mem_listDefects (fun _ _ => kind_of_mem_modelDefects) h
    · exact kind_of_mem_listDefects (fun _ _ => kind_of_mem_ownDefects) h
  · rw [List.mem_singleton.mp h]
    simp

/-! ## The report -/

/-- **The report on any value is exact**: its errors are the defects of the value in their order,
so that a value is valid iff it is a well-formed schema and the defects of each element are
reported whatever the others are like; its warnings are the fields without a label, one remark
each, and no label is ever an error. -/
theorem ofSchema_reports_defects (v : Json) :
    (ofSchema v).errors = schemaDefects v
      ∧ ((ofSchema v).isValid = true ↔ SchemaFormed v)
      ∧ (∀ ds, ElementDefects v ds → ds <:+: (ofSchema v).errors)
      ∧ (ofSchema v).warnings = unlabelled v
      ∧ ∀ e ∈ (ofSchema v).errors, e.kind ≠ .missingLabel := by
  have herrors := errors_ofSchema v
  refine ⟨herrors, ?_, ?_, warnings_ofSchema v, ?_⟩
  · rw [isValid_iff, herrors]
    exact schemaDefects_eq_nil_iff v
  · intro ds h
    rw [herrors]
    exact h.isInfix
  · intro e he
    rw [herrors] at he
    exact kind_of_mem_schemaDefects he

end Report

end BlockAuthoring
