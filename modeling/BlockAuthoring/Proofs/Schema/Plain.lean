import BlockAuthoring.Proofs.Json.Plain
import BlockAuthoring.Schema.Model

/-!
# Schemas are plain

The JSON form of a schema, and of each of its parts, has no key twice and no floating-point numbers.
-/

namespace BlockAuthoring

open Json

theorem RenderingHints.plain (h : RenderingHints) : Plain h.toJson :=
  .present (by simp) (by
    simp only [List.forall_mem_cons, List.not_mem_nil, false_implies, implies_true, and_true]
    exact ⟨.mem_map .string _, .mem_map .int _, .mem_map .int _, .mem_map .string _,
      .mem_map .string _⟩)

theorem Definition.plain (d : Definition) : Plain d.toJson :=
  .present (by simp) (by
    simp only [List.forall_mem_cons, List.not_mem_nil, false_implies, implies_true, and_true]
    have hplugins : Plain (.object [("da", d.hints.toJson)]) :=
      .object (by simp) (by simpa using d.hints.plain)
    exact ⟨.mem_some (.string _), .mem_some (.string _), .mem_some hplugins,
      .mem_map .string _, .mem_map .string _⟩)

theorem FieldOption.plain (o : FieldOption) : Plain o.toJson :=
  .object (by simp) (by simpa using ⟨.string o.name, .string o.value⟩)

theorem ModelField.plain (f : ModelField) : Plain f.toJson :=
  .present (by simp) (by
    simp only [List.forall_mem_cons, List.not_mem_nil, false_implies, implies_true, and_true]
    have hoptions : ∀ options : List FieldOption, Plain (.array (options.map (·.toJson))) :=
      fun options => .map options FieldOption.plain
    exact ⟨.mem_some (.string _), .mem_some (.string _), .mem_map .string _, .mem_map .string _,
      .mem_map .string _, .mem_map .bool _, .mem_map .string _, .mem_map .bool _,
      .mem_map .bool _, .mem_map hoptions _⟩)

theorem ComponentModel.plain (m : ComponentModel) : Plain m.toJson :=
  .object (by simp) (by simpa using ⟨.string m.id, .map m.fields ModelField.plain⟩)

theorem ComponentFilter.plain (f : ComponentFilter) : Plain f.toJson :=
  .object (by simp) (by simpa using ⟨.string f.id, .strings f.components⟩)

theorem AuthoringSchema.plain (s : AuthoringSchema) : Plain s.toJson :=
  .object (by simp) (by
    simpa using ⟨.map s.definitions Definition.plain, .map s.models ComponentModel.plain,
      .map s.filters ComponentFilter.plain⟩)

end BlockAuthoring
