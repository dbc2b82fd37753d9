import BlockAuthoring.Json.Value

/-!
# Entries of keys

A key is found if some entry has it. Its entry is set in place if the key is there, else at the end:
then the key has the new value, and all others have what they had.
-/

namespace BlockAuthoring

variable {κ ν : Type} [BEq κ] [LawfulBEq κ]

theorem isSome_lookup_iff {entries : List (κ × ν)} {key : κ} :
    (entries.lookup key).isSome ↔ key ∈ entries.map (·.1) := by
  induction entries with
  | nil => simp
  | cons e entries ih =>
    rw [List.lookup_cons, List.map_cons, List.mem_cons, ← ih]
    by_cases h : key = e.1
    · simp [h]
    · simp [h, beq_eq_false_iff_ne.mpr h]

/-- If no key has two entries, the value that is found under a key is the one of its entry. -/
theorem lookup_eq_some_iff_mem {entries : List (κ × ν)} (h : (entries.map (·.1)).Nodup) {key : κ}
    {v : ν} : entries.lookup key = some v ↔ (key, v) ∈ entries := by
  induction entries with
  | nil => simp
  | cons e entries ih =>
    rw [List.map_cons, List.nodup_cons] at h
    rw [List.lookup_cons, List.mem_cons]
    by_cases hkey : key = e.1
    · subst hkey
      have hbehind : (e.1, v) ∉ entries := fun hmem => h.1 (List.mem_map.mpr ⟨_, hmem, rfl⟩)
      simp [hbehind, Prod.ext_iff, eq_comm]
    · rw [beq_eq_false_iff_ne.mpr hkey, ← ih h.2]
      simp [Prod.ext_iff, hkey]

/-- In which order the entries stand makes no difference. -/
theorem lookup_perm {entries entries' : List (κ × ν)} (h : (entries.map (·.1)).Nodup)
    (hperm : entries.Perm entries') (key : κ) : entries.lookup key = entries'.lookup key := by
  have h' : (entries'.map (·.1)).Nodup := (hperm.map _).nodup_iff.mp h
  ext v
  rw [lookup_eq_some_iff_mem h, lookup_eq_some_iff_mem h', hperm.mem_iff]

theorem lookup_map_replace (entries : List (κ × ν)) (key k : κ) (v : ν) :
    (entries.map fun e => if e.1 == key then (key, v) else e).lookup k
      = if k == key then (if entries.any (·.1 == key) then some v else none)
        else entries.lookup k := by
  induction entries with
  | nil => simp
  | cons e entries ih =>
    obtain ⟨key', v'⟩ := e
    rw [List.map_cons, List.lookup_cons, ih, List.any_cons]
    by_cases hthere : key' = key
    · subst hthere
      by_cases hk : k = key'
      · simp [hk]
      · simp [List.lookup_cons, beq_eq_false_iff_ne.mpr hk]
    · dsimp only
      rw [beq_eq_false_iff_ne.mpr hthere, Bool.false_or, if_neg Bool.false_ne_true, List.lookup_cons]
      by_cases hk : k = key
      · subst hk
        rw [beq_eq_false_iff_ne.mpr (Ne.symm hthere), beq_self_eq_true, if_pos rfl]
      · simp only [beq_eq_false_iff_ne.mpr hk, Bool.false_eq_true, if_false]

theorem lookup_append_entry {entries : List (κ × ν)} {key : κ} (h : ¬ entries.any (·.1 == key))
    (k : κ) (v : ν) :
    (entries ++ [(key, v)]).lookup k = if k == key then some v else entries.lookup k := by
  rw [List.lookup_append, List.lookup_cons, List.lookup_nil]
  by_cases hk : k = key
  · subst hk
    have hnone : entries.lookup k = none := by
      rw [List.lookup_eq_none_iff]
      intro e he
      simp only [List.any_eq_true, not_exists, not_and, Bool.not_eq_true] at h
      rw [bne, BEq.comm, h e he]
      rfl
    simp [hnone]
  · simp [beq_eq_false_iff_ne.mpr hk]

/-- What is found once an entry is set. -/
theorem lookup_set (entries : List (κ × ν)) (key k : κ) (v : ν) :
    (if entries.any (·.1 == key) then entries.map fun e => if e.1 == key then (key, v) else e
      else entries ++ [(key, v)]).lookup k
      = if k == key then some v else entries.lookup k := by
  split
  · rename_i hthere
    rw [lookup_map_replace, hthere, if_pos rfl]
  · rename_i hmissing
    exact lookup_append_entry hmissing k v

/-- Leaving out the entries of one key leaves the others. -/
theorem lookup_filter_ne (entries : List (κ × ν)) {key k : κ} (h : k ≠ key) :
    (entries.filter (·.1 != key)).lookup k = entries.lookup k := by
  induction entries with
  | nil => rfl
  | cons e entries ih =>
    by_cases hkey : e.1 = key
    · rw [List.filter_cons_of_neg (by simpa using hkey), ih, List.lookup_cons,
        beq_eq_false_iff_ne.mpr (hkey ▸ h)]
    · rw [List.filter_cons_of_pos (by simpa using hkey), List.lookup_cons, List.lookup_cons, ih]

/-! ## Members of objects -/

namespace Json

theorem lookup_setMember (members : List (String × Json)) (key k : String) (v : Json) :
    (setMember members key v).lookup k = if k == key then some v else members.lookup k :=
  lookup_set members key k v

theorem setMember_of_not_mem {members : List (String × Json)} {key : String}
    (h : key ∉ members.map (·.1)) (v : Json) : setMember members key v = members ++ [(key, v)] := by
  rw [setMember, if_neg]
  simpa using h

/-- The values are both objects or both none, and have the same members but perhaps for one. -/
structure AgreeBut (name : String) (v w : Json) : Prop where
  isObject : w.isObject = v.isObject
  members : ∀ other, other ≠ name → w.member? other = v.member? other

theorem agreeBut_setMember (members : List (String × Json)) (name : String) (v : Json) :
    AgreeBut name (.object members) (.object (setMember members name v)) where
  isObject := rfl
  members other hother := by
    rw [member?, member?, lookup_setMember, beq_eq_false_iff_ne.mpr hother, if_neg Bool.false_ne_true]

theorem agreeBut_filter (members : List (String × Json)) (name : String) :
    AgreeBut name (.object members) (.object (members.filter (·.1 != name))) where
  isObject := rfl
  members _ hother := lookup_filter_ne members hother

theorem present_map_some (members : List (String × Json)) :
    present (members.map fun m => (m.1, some m.2)) = members := by
  rw [present, List.filterMap_map]
  exact List.filterMap_some

/-- Leaving out members keeps their order. -/
theorem sublist_present (members : List (String × Option Json)) :
    ((present members).map (·.1)).Sublist (members.map (·.1)) := by
  induction members with
  | nil => exact .slnil
  | cons m members ih =>
    obtain ⟨key, value⟩ := m
    cases value with
    | none => exact ih.cons key
    | some v => exact ih.cons_cons key

/-- Members without a value are not there; the others are found under their keys. -/
theorem lookup_present (members : List (String × Option Json))
    (hdistinct : (members.map (·.1)).Nodup) (key : String) :
    (present members).lookup key = (members.lookup key).join := by
  induction members with
  | nil => rfl
  | cons m rest ih =>
    obtain ⟨k, value⟩ := m
    rw [List.map_cons, List.nodup_cons] at hdistinct
    cases value with
    | none =>
      have hskip : present ((k, none) :: rest) = present rest := rfl
      rw [hskip, ih hdistinct.2, List.lookup_cons]
      cases hkey : key == k with
      | false => rfl
      | true =>
        -- The keys are distinct: there is no second member behind the missing one.
        have hrest : rest.lookup key = none := by
          rw [List.lookup_eq_none_iff]
          intro m hm
          rw [LawfulBEq.eq_of_beq hkey, bne_iff_ne]
          rintro rfl
          exact hdistinct.1 (List.mem_map.mpr ⟨m, hm, rfl⟩)
        rw [hrest]
        rfl
    | some v =>
      have hkeep : present ((k, some v) :: rest) = (k, v) :: present rest := rfl
      rw [hkeep, List.lookup_cons, List.lookup_cons, ih hdistinct.2]
      cases key == k <;> rfl

theorem get_present (members : List (String × Option Json))
    (hdistinct : (members.map (·.1)).Nodup) (key : String) :
    (Json.object (present members)).get key = ((members.lookup key).join).getD .null := by
  rw [get, member?, lookup_present members hdistinct]

/-- Only objects have members. -/
theorem isObject_of_member? {v w : Json} {key : String} (h : v.member? key = some w) :
    v.isObject = true := by
  cases v <;> first | rfl | cases h

end Json

end BlockAuthoring
