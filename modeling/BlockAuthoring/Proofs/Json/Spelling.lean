import BlockAuthoring.Json.Shape
import BlockAuthoring.Proofs.Association
import Mathlib.Data.List.Pairwise

/-!
# Values in other spellings

Some members have a second name. In a written value, each of them may stand under either name. As
long as no two members of an object have a name in common, a shape reads a value in every spelling
as it reads the value itself: what is read of an object depends on what lies under its keys.
-/

namespace BlockAuthoring.Json

open Shape (Key)

/-! ## Spellings -/

/-- The other name of a member, by a table of names; a name that is not in the table stays. -/
def otherName (keys : List Key) (name : String) : String :=
  ((keys.find? (·.written == name)).map (·.spelled)).getD name

mutual

/-- A value in another spelling: the members whose places are chosen stand under their other
names. -/
def respell (keys : List Key) (chosen : List Step → Bool) : Json → Json
  | null => null
  | bool b => bool b
  | int n => int n
  | float x => float x
  | string s => string s
  | array items => array (respellItems keys chosen 0 items)
  | object members => object (respellMembers keys chosen members)

/-- Items in another spelling, the first of them at `index`. -/
def respellItems (keys : List Key) (chosen : List Step → Bool) (index : Nat) :
    List Json → List Json
  | [] => []
  | v :: rest =>
    respell keys (fun place => chosen (.item index :: place)) v
      :: respellItems keys chosen (index + 1) rest

/-- Members in another spelling. -/
def respellMembers (keys : List Key) (chosen : List Step → Bool) :
    List (String × Json) → List (String × Json)
  | [] => []
  | (name, v) :: rest =>
    (if chosen [.member name] then otherName keys name else name,
      respell keys (fun place => chosen (.member name :: place)) v)
      :: respellMembers keys chosen rest

end

variable {keys : List Key} {chosen : List Step → Bool}

mutual

/-- Where nothing is chosen, the spelling stays. -/
theorem respell_nothing (keys : List Key) : ∀ v : Json, v.respell keys (fun _ => false) = v
  | null | bool _ | int _ | float _ | string _ => by rw [respell]
  | array items => by rw [respell, respellItems_nothing keys 0 items]
  | object members => by rw [respell, respellMembers_nothing keys members]

theorem respellItems_nothing (keys : List Key) :
    ∀ (index : Nat) (items : List Json), respellItems keys (fun _ => false) index items = items
  | _, [] => by rw [respellItems]
  | index, v :: rest => by
    rw [respellItems, respell_nothing keys v, respellItems_nothing keys (index + 1) rest]

theorem respellMembers_nothing (keys : List Key) :
    ∀ members : List (String × Json), respellMembers keys (fun _ => false) members = members
  | [] => by rw [respellMembers]
  | (name, v) :: rest => by
    rw [respellMembers, respell_nothing keys v, respellMembers_nothing keys rest]
    rfl

end

theorem isNull_respell (v : Json) : (v.respell keys chosen).isNull = v.isNull := by
  cases v <;> rfl

/-! ## Finding members -/

/-- Two members have no name in common. -/
def NamedApart (keys : List Key) (a b : String) : Prop :=
  a ≠ b ∧ a ≠ otherName keys b ∧ otherName keys a ≠ b ∧ otherName keys a ≠ otherName keys b

instance (keys : List Key) : Std.Symm (NamedApart keys) :=
  ⟨fun _ _ h => ⟨h.1.symm, h.2.2.1.symm, h.2.1.symm, h.2.2.2.symm⟩⟩

/-- A member has no name but its two, whichever of them is chosen. -/
theorem beq_respelled_eq_false {name k : String} (h : name ≠ k) (hother : name ≠ otherName keys k)
    (c : Bool) : (name == if c then otherName keys k else k) = false := by
  rw [beq_eq_false_iff_ne]
  split
  · exact hother
  · exact h

/-- A name that none of the members have in any spelling is not found. -/
theorem lookup_respellMembers_of_forall_ne {members : List (String × Json)} {name : String}
    (h : ∀ m ∈ members, name ≠ m.1 ∧ name ≠ otherName keys m.1) :
    (respellMembers keys chosen members).lookup name = none := by
  induction members with
  | nil => rw [respellMembers, List.lookup_nil]
  | cons m rest ih =>
    obtain ⟨k, v⟩ := m
    rw [List.forall_mem_cons] at h
    rw [respellMembers, List.lookup_cons]
    simp only [beq_respelled_eq_false h.1.1 h.1.2, ih h.2]

/-- What lies under a key is found in every spelling. -/
theorem find?_respellMembers {members : List (String × Json)} {key : Key}
    (hkey : otherName keys key.written = key.spelled) (hdistinct : (members.map (·.1)).Nodup)
    (happart : ∀ m ∈ members, m.1 ≠ key.written → NamedApart keys key.written m.1) :
    key.find? (.object (respellMembers keys chosen members))
      = (members.lookup key.written).map
          (respell keys fun place => chosen (.member key.written :: place)) := by
  induction members with
  | nil => rw [respellMembers]; rfl
  | cons m rest ih =>
    obtain ⟨k, v⟩ := m
    rw [List.map_cons, List.nodup_cons] at hdistinct
    rw [List.forall_mem_cons] at happart
    simp only [Key.find?, member?, respellMembers, List.lookup_cons] at ih ⊢
    by_cases hk : k = key.written
    · subst hk
      -- The key is found here: under its first name, or else nothing else has that name.
      have hrest : ∀ m ∈ rest, NamedApart keys key.written m.1 := fun m hm =>
        happart.2 m hm fun heq => hdistinct.1 (List.mem_map.mpr ⟨m, hm, heq⟩)
      have hnone : (respellMembers keys chosen rest).lookup key.written = none :=
        lookup_respellMembers_of_forall_ne fun m hm => ⟨(hrest m hm).1, (hrest m hm).2.1⟩
      by_cases hchosen : chosen [.member key.written] = true
      · by_cases hsame : key.written = key.spelled
        · simp [hchosen, hkey, ← hsame]
        · simp [hchosen, hkey, beq_eq_false_iff_ne.mpr hsame, hnone]
      · simp [hchosen]
    · obtain ⟨hne, hne', hother, hother'⟩ := happart.1 hk
      rw [hkey] at hother hother'
      simp only [beq_respelled_eq_false hne hne', beq_respelled_eq_false hother hother',
        beq_eq_false_iff_ne.mpr hne]
      exact ih hdistinct.2 happart.2

/-- The value is an object with certain members in some spelling. Members without a value are not
there, but no other member has their names either. -/
structure Spells (keys : List Key) (members : List (String × Option Json)) (v : Json) : Prop where
  apart : (members.map (·.1)).Pairwise (NamedApart keys)
  spelling : ∃ chosen, v = (object (present members)).respell keys chosen

/-- What a member was written with is found in every spelling; where it has no value, nothing is
found. -/
theorem Spells.find? {members : List (String × Option Json)} {v : Json} {key : Key}
    {o : Option Json} (h : Spells keys members v)
    (hkey : otherName keys key.written = key.spelled)
    (hmember : members.lookup key.written = some o) :
    ∃ chosen, key.find? v = o.map (respell keys chosen) := by
  obtain ⟨happart, chosen, rfl⟩ := h
  have hdistinct : (members.map (·.1)).Nodup := happart.imp fun hab => hab.1
  have hsublist := sublist_present members
  have hwritten : key.written ∈ members.map (·.1) := by
    rw [← isSome_lookup_iff, hmember]
    rfl
  have hothers : ∀ m ∈ present members, m.1 ≠ key.written → NamedApart keys key.written m.1 :=
    fun m hm hne => happart.forall hwritten
      (hsublist.subset (List.mem_map_of_mem hm)) hne.symm
  refine ⟨fun place => chosen (.member key.written :: place), ?_⟩
  rw [respell, find?_respellMembers hkey (hsublist.nodup hdistinct) hothers,
    lookup_present members hdistinct, hmember]
  rfl

/-! ## Reading -/

namespace Shape

variable {α : Type} {shape : Shape α} {write : α → Json}

/-- The shape reads a value, which is not `null`, as `a` in every spelling. -/
structure Reads (keys : List Key) (shape : Shape α) (v : Json) (a : α) : Prop where
  read : ∀ chosen, shape (v.respell keys chosen) = .ok a
  notNull : v.isNull = false

namespace Reads

theorem text (s : String) : Reads keys text (.string s) s := ⟨fun _ => rfl, rfl⟩

theorem flag (b : Bool) : Reads keys flag (.bool b) b := ⟨fun _ => rfl, rfl⟩

theorem integer (n : Int) : Reads keys integer (.int n) n := ⟨fun _ => rfl, rfl⟩

theorem integerFrom {least n : Nat} (h : least ≤ n) :
    Reads keys (integerFrom least) (.int n) n where
  read _ := by
    have hleast : (least : Int) ≤ n := Int.ofNat_le.mpr h
    simp [respell, Shape.integerFrom, Shape.integer, hleast]
  notNull := rfl

theorem word {vocabulary : List (String × α)} {name : String} {a : α}
    (h : vocabulary.lookup name = some a) : Reads keys (word vocabulary) (.string name) a where
  read _ := by rw [respell, Shape.word, h]
  notNull := rfl

/-- What is read may be changed. -/
theorem map {β : Type} {v : Json} {a : α} (f : α → β) (h : Reads keys shape v a) :
    Reads keys (fun v => (shape v).map f) v (f a) where
  read chosen := by rw [h.read, Checked.map]
  notNull := h.notNull

/-- What the first of two forms fits is read by it. -/
theorem orElse {second : Shape α} {v : Json} {a : α} (name name' : String)
    (h : Reads keys shape v a) : Reads keys (orElse name shape name' second) v a where
  read chosen := by simp only [Shape.orElse, h.read]
  notNull := h.notNull

/-! ### Lists -/

theorem itemsFrom_respellItems {xs : List α} (h : ∀ x ∈ xs, Reads keys shape (write x) x)
    (index place : Nat) : itemsFrom shape index (respellItems keys chosen place (xs.map write))
      = .ok xs := by
  induction xs generalizing index place with
  | nil => rw [List.map_nil, respellItems, itemsFrom]
  | cons x xs ih =>
    rw [List.forall_mem_cons] at h
    rw [List.map_cons, respellItems, itemsFrom, h.1.read, ih h.2]
    rfl

theorem listOf {xs : List α} (h : ∀ x ∈ xs, Reads keys shape (write x) x) :
    Reads keys (listOf shape) (.array (xs.map write)) xs :=
  ⟨fun _ => itemsFrom_respellItems h 0 0, rfl⟩

theorem sequenceOf {xs : List α} (h : ∀ x ∈ xs, Reads keys shape (write x) x) :
    Reads keys (sequenceOf shape) (.array (xs.map write)) xs :=
  ⟨fun _ => itemsFrom_respellItems h 0 0, rfl⟩

/-! ### Objects -/

variable {read : Json → Checked α} {a : α} {members : List (String × Option Json)}

/-- An object is read by its members. -/
theorem ofPresent (happart : (members.map (·.1)).Pairwise (NamedApart keys))
    (h : ∀ v, Spells keys members v → read v = .ok a) :
    Reads keys (Shape.members read) (object (present members)) a :=
  ⟨fun chosen => h _ ⟨happart, chosen, rfl⟩, rfl⟩

/-- An object all of whose members have values. -/
theorem ofObject {entries : List (String × Json)}
    (happart : (entries.map (·.1)).Pairwise (NamedApart keys))
    (h : ∀ v, Spells keys (entries.map fun e => (e.1, some e.2)) v → read v = .ok a) :
    Reads keys (Shape.members read) (object entries) a := by
  rw [← present_map_some entries]
  refine ofPresent ?_ h
  rw [List.map_map]
  exact happart

end Reads

end Shape

/-! ### Members -/

namespace Spells

open Shape (Reads)

variable {α : Type} {shape : Shape α} {write : α → Json} {members : List (String × Option Json)}
  {key : Key} {v w : Json} {a value : α}

theorem required (h : Spells keys members v) (hkey : otherName keys key.written = key.spelled)
    (hmember : members.lookup key.written = some (some w)) (hread : Reads keys shape w a) :
    Shape.required key shape v = .ok a := by
  obtain ⟨chosen, hfind⟩ := h.find? hkey hmember
  simp only [Shape.required, hfind, Option.map_some, Option.getD_some, hread.read, Checked.under]

theorem defaulted (h : Spells keys members v) (hkey : otherName keys key.written = key.spelled)
    (hmember : members.lookup key.written = some (some w)) (hread : Reads keys shape w a) :
    Shape.defaulted key value shape v = .ok a := by
  obtain ⟨chosen, hfind⟩ := h.find? hkey hmember
  simp only [Shape.defaulted, hfind, Option.map_some, Option.getD_some, hread.read, Checked.under]

theorem nullable {o : Option α} (h : Spells keys members v)
    (hkey : otherName keys key.written = key.spelled)
    (hmember : members.lookup key.written = some (o.map write))
    (hread : ∀ x, Reads keys shape (write x) x) : Shape.nullable key shape v = .ok o := by
  obtain ⟨chosen, hfind⟩ := h.find? hkey hmember
  rw [Shape.nullable, Shape.defaulted, hfind]
  cases o with
  | none => rfl
  | some x =>
    simp only [Option.map_some, Option.getD_some, isNull_respell, (hread x).notNull,
      (hread x).read, Bool.false_eq_true, if_false, Checked.map, Checked.under]

end Spells

/-! ### Several parts -/

namespace Checked

variable {α β : Type} {f : α → β} {g : Checked (α → β)} {x : Checked α} {a : α}

theorem map_ok (hx : x = .ok a) : f <$> x = .ok (f a) := by
  rw [hx]
  rfl

theorem seq_ok (hg : g = .ok f) (hx : x = .ok a) : g <*> x = .ok (f a) := by
  rw [hg, hx]
  rfl

end Checked

end BlockAuthoring.Json
