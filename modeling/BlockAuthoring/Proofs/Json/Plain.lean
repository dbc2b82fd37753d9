import BlockAuthoring.Proofs.Json.RoundTrip

/-!
# Plain values

A plain value has no floating-point numbers and no key twice in an object. It is read back from its
text as soon as it can be written at all.
-/

namespace BlockAuthoring.Json

/-- A value without floating-point numbers, and without a key twice in an object. -/
inductive Plain : Json → Prop where
  | null : Plain .null
  | bool (b : Bool) : Plain (.bool b)
  | int (n : Int) : Plain (.int n)
  | string (s : String) : Plain (.string s)
  | array {items : List Json} (items_plain : ∀ v ∈ items, Plain v) : Plain (.array items)
  | object {members : List (String × Json)} (distinct : (members.map (·.1)).Nodup)
      (members_plain : ∀ m ∈ members, Plain m.2) : Plain (.object members)

/-! ## Writing -/

theorem areWritable_iff (items : List Json) :
    areWritable items = true ↔ ∀ v ∈ items, v.isWritable = true := by
  induction items with
  | nil => simp [areWritable]
  | cons v items ih => rw [areWritable, Bool.and_eq_true, ih, List.forall_mem_cons]

theorem haveWritable_iff (members : List (String × Json)) :
    haveWritable members = true ↔ ∀ m ∈ members, m.2.isWritable = true := by
  induction members with
  | nil => simp [haveWritable]
  | cons m members ih => rw [haveWritable, Bool.and_eq_true, ih, List.forall_mem_cons]

/-- A plain value that can be written can be read. -/
theorem Plain.readable {v : Json} (h : Plain v) (hw : v.isWritable = true) : Readable v := by
  induction h with
  | null => exact .null
  | bool b => exact .bool b
  | int n => exact .int (by simpa [isWritable] using hw)
  | string s => exact .string s
  | array _ ih =>
    rw [isWritable, areWritable_iff] at hw
    exact .array fun v hv => ih v hv (hw v hv)
  | object hdistinct _ ih =>
    rw [isWritable, haveWritable_iff] at hw
    exact .object hdistinct fun m hm => ih m hm (hw m hm)

/-! ## Building -/

theorem Plain.strings (ss : List String) : Plain (strings ss) :=
  .array (List.forall_mem_map.mpr fun s _ => .string s)

theorem Plain.map {α : Type} {write : α → Json} (xs : List α) (h : ∀ x, Plain (write x)) :
    Plain (.array (xs.map write)) :=
  .array (List.forall_mem_map.mpr fun x _ => h x)

theorem Plain.present {members : List (String × Option Json)}
    (hdistinct : (members.map (·.1)).Nodup)
    (hplain : ∀ m ∈ members, ∀ v ∈ m.2, Plain v) : Plain (.object (present members)) := by
  refine .object ((sublist_present members).nodup hdistinct) fun m hm => ?_
  obtain ⟨⟨key, value⟩, hmem, hvalue⟩ := List.mem_filterMap.mp hm
  obtain ⟨v, hv, rfl⟩ := Option.map_eq_some_iff.mp hvalue
  exact hplain _ hmem v hv

/-- A value of a kind that is always plain, or none. -/
theorem Plain.mem_map {α : Type} {write : α → Json} (h : ∀ x, Plain (write x)) (o : Option α) :
    ∀ v ∈ o.map write, Plain v := by
  intro v hv
  obtain ⟨x, -, rfl⟩ := Option.map_eq_some_iff.mp hv
  exact h x

theorem Plain.mem_some {v : Json} (h : Plain v) : ∀ w ∈ some v, Plain w := by
  rintro w ⟨⟩
  exact h

end BlockAuthoring.Json
