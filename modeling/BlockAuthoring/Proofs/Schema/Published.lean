import BlockAuthoring.Proofs.Association
import BlockAuthoring.Schema.Model
import BlockAuthoring.Schema.Published
import Mathlib.Data.List.Forall2

/-!
# Schemas conform to the published document

What a document demands of a value: each keyword of a schema is a demand, and a value conforms if
it meets all of them. The JSON form of every authoring schema conforms to the document that is
published for it, whichever of its members have a value.
-/

namespace BlockAuthoring

/-! ## What a document demands -/

namespace Json

/-- The value is of the type of that name. -/
inductive HasType : String → Json → Prop where
  | null : HasType "null" .null
  | boolean (b : Bool) : HasType "boolean" (.bool b)
  | integer (n : Int) : HasType "integer" (.int n)
  /-- A floating-point number without a fraction is whole. -/
  | whole {x : Number.Binary64} {n : Int} (h : x.toInt? = some n) : HasType "integer" (.float x)
  | number (x : Number.Binary64) : HasType "number" (.float x)
  | wholeNumber (n : Int) : HasType "number" (.int n)
  | string (s : String) : HasType "string" (.string s)
  | array (items : List Json) : HasType "array" (.array items)
  | object (members : List (String × Json)) : HasType "object" (.object members)

/-- The keywords that demand nothing. -/
def silentKeywords : List String := ["title", "description", "default", "$defs"]

mutual

/-- The value conforms to a schema of a document: it meets every demand. -/
inductive Conforms (document : Json) : Json → Json → Prop where
  | intro {demands : List (String × Json)} {v : Json}
    (h : ∀ demand ∈ demands, Meets document demand.1 demand.2 v) :
    Conforms document (.object demands) v

/-- The value meets a demand: what a keyword and its argument say. Members are only demanded of
objects, and items of arrays. -/
inductive Meets (document : Json) : String → Json → Json → Prop where
  | type {name : String} {v : Json} (h : HasType name v) : Meets document "type" (.string name) v
  | properties {schemas : List (String × Json)} {v : Json}
    (h : ∀ key schema w, schemas.lookup key = some schema → v.member? key = some w →
      Conforms document schema w) : Meets document "properties" (.object schemas) v
  | required {keys : List String} {v : Json}
    (h : v.isObject = true → ∀ key ∈ keys, (v.member? key).isSome) :
    Meets document "required" (.strings keys) v
  | items {schema v : Json}
    (h : ∀ items, v = .array items → ∀ w ∈ items, Conforms document schema w) :
    Meets document "items" schema v
  | anyOf {schemas : List Json} {schema v : Json} (mem : schema ∈ schemas)
    (h : Conforms document schema v) : Meets document "anyOf" (.array schemas) v
  | ref {name : String} {schema v : Json}
    (named : (document.get "$defs").member? name = some schema) (h : Conforms document schema v) :
    Meets document "$ref" (.string ("#/$defs/" ++ name)) v
  | silent {keyword : String} {argument v : Json} (h : keyword ∈ silentKeywords) :
    Meets document keyword argument v

end

theorem Conforms.meets {document v : Json} {demands : List (String × Json)}
    (h : Conforms document (.object demands) v) :
    ∀ demand ∈ demands, Meets document demand.1 demand.2 v := by
  cases h with
  | intro h => exact h

theorem Meets.hasType {document v : Json} {name : String}
    (h : Meets document "type" (.string name) v) : HasType name v := by
  -- Literals as indices are no constructors: they are told apart by equations.
  generalize hkeyword : "type" = keyword at h
  generalize hargument : Json.string name = argument at h
  cases h with
  | type h =>
    cases hargument
    exact h
  | silent hkey =>
    subst hkeyword
    simp [silentKeywords] at hkey
  | _ => simp at hkeyword

theorem HasType.isObject {v : Json} (h : HasType "object" v) : v.isObject = true := by
  generalize hname : "object" = name at h
  cases h with
  | object members => rfl
  | _ => simp at hname

end Json

namespace Published

open Json

/-! ## Members -/

/-- The value meets the constraint of a form. -/
def ValueForm.Fits (form : ValueForm) (v : Json) : Prop :=
  ∀ demand ∈ form.constraint, Meets document demand.1 demand.2 v

theorem fits_string (s : String) : ValueForm.string.Fits (.string s) := by
  simpa [ValueForm.Fits, ValueForm.constraint, typed] using Meets.type (.string s)

theorem fits_integer (n : Int) : ValueForm.integer.Fits (.int n) := by
  simpa [ValueForm.Fits, ValueForm.constraint, typed] using Meets.type (.integer n)

theorem fits_boolean (b : Bool) : ValueForm.boolean.Fits (.bool b) := by
  simpa [ValueForm.Fits, ValueForm.constraint, typed] using Meets.type (.boolean b)

theorem fits_list {α : Type} {form : ValueForm} {write : α → Json} {xs : List α}
    (h : ∀ x ∈ xs, form.Fits (write x)) : (ValueForm.list form).Fits (.array (xs.map write)) := by
  have hitems : Meets document "items" (.object form.constraint) (.array (xs.map write)) := by
    refine .items fun items hitems w hw => .intro ?_
    cases hitems
    obtain ⟨x, hx, rfl⟩ := List.mem_map.mp hw
    exact h x hx
  simpa [ValueForm.Fits, ValueForm.constraint, typed] using ⟨hitems, Meets.type (.array _)⟩

/-- The document names each kind of objects. -/
theorem member?_defs {k : ObjectKind} (hk : k ∈ parts) :
    (document.get "$defs").member? k.name = some (.object k.toJson) := by
  simp only [parts, List.mem_cons, List.not_mem_nil, or_false] at hk
  rcases hk with rfl | rfl | rfl | rfl | rfl | rfl | rfl <;> rfl

/-- A value that fits the form of a member conforms to its description. -/
theorem Member.conforms {m : Member} {v : Json} (h : m.form.Fits v) :
    Conforms document m.toJson v := by
  have htitle (t : Json) : Meets document "title" t v := .silent (by decide)
  have hdefault (t : Json) : Meets document "default" t v := .silent (by decide)
  have hform : Conforms document (.object m.form.constraint) v := .intro h
  have htitled : Conforms document (.object (m.form.constraint ++ [("title", m.title)])) v := by
    refine .intro fun demand hdemand => ?_
    rcases List.mem_append.mp hdemand with hdemand | hdemand
    · exact h demand hdemand
    · rw [List.mem_singleton.mp hdemand]
      exact htitle _
  have hany (other : Json) : Meets document "anyOf"
      (.array [.object m.form.constraint, other]) v := .anyOf List.mem_cons_self hform
  unfold Member.toJson
  split
  · refine .intro ?_
    simpa using ⟨hany _, hdefault _, htitle _⟩
  · -- A reference has no title beside it.
    rename_i heq _
    rw [← heq]
    exact hform
  · exact htitled

/-- The entry of a member has its key; a value in it fits the form, and it has one if it has to. -/
structure Member.Admits (m : Member) (entry : String × Option Json) : Prop where
  key : m.key = entry.1
  there : m.presence = .required → entry.2.isSome
  fits : ∀ v ∈ entry.2, m.form.Fits v

theorem Member.admits_some {m : Member} {v : Json} (h : m.form.Fits v) :
    m.Admits (m.key, some v) where
  key := rfl
  there _ := rfl
  fits := by rintro _ ⟨⟩; exact h

theorem Member.admits_map {m : Member} {α : Type} {write : α → Json} {o : Option α}
    (hpresence : m.presence = .nullable) (h : ∀ x ∈ o, m.form.Fits (write x)) :
    m.Admits (m.key, o.map write) where
  key := rfl
  there hrequired := by rw [hpresence] at hrequired; cases hrequired
  fits := by
    intro v hv
    obtain ⟨x, hx, rfl⟩ := Option.map_eq_some_iff.mp hv
    exact h x hx

/-! ## Objects -/

variable {members : List Member} {entries : List (String × Option Json)}

theorem keys_eq (h : List.Forall₂ Member.Admits members entries) :
    members.map (·.key) = entries.map (·.1) := by
  induction h with
  | nil => rfl
  | cons hm _ ih => rw [List.map_cons, List.map_cons, hm.key, ih]

/-- What is found under a key conforms to what is said about that key. -/
theorem conforms_of_lookup (h : List.Forall₂ Member.Admits members entries) {key : String}
    {schema v : Json} (hschema : (members.map fun m => (m.key, m.toJson)).lookup key = some schema)
    (hv : (entries.lookup key).join = some v) : Conforms document schema v := by
  induction h with
  | nil => cases hschema
  | @cons m e members entries hm _ ih =>
    rw [List.map_cons, List.lookup_cons] at hschema
    rw [List.lookup_cons, ← hm.key] at hv
    cases hhere : key == m.key with
    | true =>
      rw [hhere] at hschema hv
      cases hschema
      exact m.conforms (hm.fits v hv)
    | false =>
      rw [hhere] at hschema hv
      exact ih hschema hv

/-- A required member is there. -/
theorem mem_keys_of_required (h : List.Forall₂ Member.Admits members entries) {m : Member}
    (hm : m ∈ members) (hrequired : m.presence = .required) :
    m.key ∈ (present entries).map (·.1) := by
  induction h with
  | nil => cases hm
  | @cons first e members entries hfirst _ ih =>
    obtain ⟨key, value⟩ := e
    cases hm with
    | head =>
      obtain ⟨v, rfl⟩ := Option.isSome_iff_exists.mp (hfirst.there hrequired)
      rw [hfirst.key]
      exact List.mem_cons_self
    | tail _ hm =>
      cases value with
      | none => exact ih hm
      | some v => exact List.mem_cons_of_mem _ (ih hm)

theorem nodup_keys {k : ObjectKind} (hk : k ∈ authoringSchema :: parts) :
    (k.members.map (·.key)).Nodup :=
  (by decide : ∀ k ∈ authoringSchema :: parts, (k.members.map (·.key)).Nodup) k hk

/-- An object whose members are all admitted meets the demands on its kind. -/
theorem ObjectKind.meets {k : ObjectKind} (hk : k ∈ authoringSchema :: parts)
    (h : List.Forall₂ Member.Admits k.members entries) :
    ∀ demand ∈ k.toJson, Meets document demand.1 demand.2 (.object (present entries)) := by
  have hproperties : Meets document "properties"
      (.object (k.members.map fun m => (m.key, m.toJson))) (.object (present entries)) := by
    refine .properties fun key schema v hschema hv => conforms_of_lookup h hschema ?_
    rw [← lookup_present entries (keys_eq h ▸ nodup_keys hk)]
    exact hv
  have hrequired : Meets document "required"
      (.strings ((k.members.filter (·.presence == .required)).map (·.key)))
      (.object (present entries)) := by
    refine .required fun _ key hkey => isSome_lookup_iff.mpr ?_
    obtain ⟨m, hm, rfl⟩ := List.mem_map.mp hkey
    obtain ⟨hmem, hpresence⟩ := List.mem_filter.mp hm
    exact mem_keys_of_required h hmem (LawfulBEq.eq_of_beq hpresence)
  intro demand hdemand
  simp only [ObjectKind.toJson, List.mem_append, List.mem_cons, List.not_mem_nil, or_false]
    at hdemand
  obtain ((rfl | rfl) | hdemand) | rfl | rfl := hdemand
  · exact .silent (by simp [silentKeywords])
  · exact hproperties
  · split at hdemand
    · cases hdemand
    · rw [List.mem_singleton.mp hdemand]
      exact hrequired
  · exact .silent (by simp [silentKeywords])
  · exact .type (.object _)

/-- An object of a kind that the document names fits where that kind is asked for. -/
theorem fits_object {k : ObjectKind} (hk : k ∈ parts)
    (h : List.Forall₂ Member.Admits k.members entries) :
    (ValueForm.kind k.name).Fits (.object (present entries)) := by
  have hconforms : Conforms document (.object k.toJson) (.object (present entries)) :=
    .intro (k.meets (List.mem_cons_of_mem _ hk) h)
  simpa [ValueForm.Fits, ValueForm.constraint] using Meets.ref (member?_defs hk) hconforms

end Published

open Json Published Published.Member

/-! ## Parts of a schema -/

theorem RenderingHints.fits (h : RenderingHints) : (ValueForm.kind "DaPlugin").Fits h.toJson := by
  refine fits_object (k := renderingHints) (by simp [parts]) (.cons ?name (.cons ?rows
    (.cons ?columns (.cons ?type (.cons ?unsafeHtml .nil)))))
  case name => exact admits_map rfl fun s _ => fits_string s
  case rows => exact admits_map rfl fun n _ => fits_integer n
  case columns => exact admits_map rfl fun n _ => fits_integer n
  case type => exact admits_map rfl fun s _ => fits_string s
  case unsafeHtml => exact admits_map rfl fun s _ => fits_string s

theorem Definition.fits (d : Definition) : (ValueForm.kind "Definition").Fits d.toJson := by
  have hplugins : (ValueForm.kind "Plugins").Fits (.object [("da", d.hints.toJson)]) :=
    fits_object (k := plugins) (by simp [parts]) (.cons (admits_some d.hints.fits) .nil)
  refine fits_object (k := definition) (by simp [parts]) (.cons ?title (.cons ?id (.cons ?plugins
    (.cons ?filter (.cons ?model .nil)))))
  case title => exact admits_some (fits_string d.title)
  case id => exact admits_some (fits_string d.id)
  case plugins => exact admits_some hplugins
  case filter => exact admits_map rfl fun s _ => fits_string s
  case model => exact admits_map rfl fun s _ => fits_string s

theorem FieldOption.fits (o : FieldOption) : (ValueForm.kind "FieldOption").Fits o.toJson :=
  fits_object (k := fieldOption) (by simp [parts])
    (.cons (admits_some (fits_string o.name)) (.cons (admits_some (fits_string o.value)) .nil))

theorem ModelField.fits (f : ModelField) : (ValueForm.kind "ModelField").Fits f.toJson := by
  refine fits_object (k := modelField) (by simp [parts]) (.cons ?component (.cons ?name
    (.cons ?value (.cons ?label (.cons ?valueType (.cons ?required (.cons ?description
    (.cons ?hidden (.cons ?multi (.cons ?options .nil))))))))))
  case component => exact admits_some (fits_string f.component)
  case name => exact admits_some (fits_string f.name)
  case value => exact admits_map rfl fun s _ => fits_string s
  case label => exact admits_map rfl fun s _ => fits_string s
  case valueType => exact admits_map rfl fun s _ => fits_string s
  case required => exact admits_map rfl fun b _ => fits_boolean b
  case description => exact admits_map rfl fun s _ => fits_string s
  case hidden => exact admits_map rfl fun b _ => fits_boolean b
  case multi => exact admits_map rfl fun b _ => fits_boolean b
  case options => exact admits_map rfl fun _ _ => fits_list fun option _ => option.fits

theorem ComponentModel.fits (m : ComponentModel) :
    (ValueForm.kind "ComponentModel").Fits m.toJson :=
  fits_object (k := componentModel) (by simp [parts])
    (.cons (admits_some (fits_string m.id))
      (.cons (admits_some (fits_list fun field _ => field.fits)) .nil))

theorem ComponentFilter.fits (f : ComponentFilter) :
    (ValueForm.kind "ComponentFilter").Fits f.toJson :=
  fits_object (k := componentFilter) (by simp [parts])
    (.cons (admits_some (fits_string f.id))
      (.cons (admits_some (fits_list fun name _ => fits_string name)) .nil))

/-! ## Schemas -/

namespace AuthoringSchema

theorem admits (s : AuthoringSchema) :
    List.Forall₂ Member.Admits authoringSchema.members [
      ("definitions", some (.array (s.definitions.map (·.toJson)))),
      ("models", some (.array (s.models.map (·.toJson)))),
      ("filters", some (.array (s.filters.map (·.toJson))))] := by
  refine .cons ?definitions (.cons ?models (.cons ?filters .nil))
  case definitions => exact admits_some (fits_list fun definition _ => definition.fits)
  case models => exact admits_some (fits_list fun model _ => model.fits)
  case filters => exact admits_some (fits_list fun filter _ => filter.fits)

/-- **Schemas conform to the published document.** Whatever is in a schema, its JSON form conforms
to the document that is published for schemas. -/
theorem toJson_conforms (s : AuthoringSchema) : Conforms document document s.toJson := by
  refine .intro fun demand hdemand => ?_
  rcases List.mem_cons.mp hdemand with rfl | hdemand
  · exact .silent (by simp [silentKeywords])
  · exact authoringSchema.meets List.mem_cons_self s.admits demand hdemand

/-- The document does demand something: only objects conform to it. -/
theorem isObject_of_conforms {v : Json} (h : Conforms document document v) :
    v.isObject = true := by
  have htype : Meets document "type" (.string "object") v :=
    h.meets ("type", .string "object") (by simp [authoringSchema, ObjectKind.toJson])
  exact htype.hasType.isObject

end AuthoringSchema

end BlockAuthoring
