import BlockAuthoring.Proofs.Project.Report
import Mathlib.Data.List.Nodup

/-!
# The pieces that a report lists

The checks of a report are an object: a truth value for a piece of its own, and an object of truth
values for the pieces of a group. Here they are read as a list of pieces. As long as the pieces that
are looked for can be told apart by their keys (`Piece.Apart`), noting them one after another loses
none of them, so that the checks list what was looked for and nothing else (`lists_notes`).
-/

namespace BlockAuthoring

/-- A piece of a project, as it is listed: by its name, in its group if it has one. -/
structure Piece where
  group : Option String
  name : String
  deriving DecidableEq, Repr

/-- The piece that a check looks for. -/
def SetupCheck.piece (c : SetupCheck) : Piece := ⟨c.group, c.name⟩

namespace Finding

/-- The piece that was looked for, and whether it is there. -/
def entry? : Finding → Option (Piece × Bool)
  | check c => some (c.piece, c.passed)
  | broken _ => none

/-- What is said where no piece could be looked for. -/
def broken? : Finding → Option String
  | check _ => none
  | broken complaint => some complaint

end Finding

/-! ## Reading the checks -/

/-- A truth value. -/
def Json.bool? : Json → Option Bool
  | bool b => some b
  | _ => none

/-- The pieces that are listed under a key, and whether they are there. -/
def piecesUnder (key : String) : Json → List (Piece × Bool)
  | .bool passed => [(⟨none, key⟩, passed)]
  | .object members => members.filterMap fun m => m.2.bool?.map ((⟨some key, m.1⟩ : Piece), ·)
  | _ => []

/-- The pieces that checks list. -/
def entriesOf (checks : List (String × Json)) : List (Piece × Bool) :=
  checks.flatMap fun m => piecesUnder m.1 m.2

/-- The pieces that a report lists among its checks. -/
def SetupReport.entries (r : SetupReport) : List (Piece × Bool) := entriesOf r.checks

theorem entriesOf_append (checks checks' : List (String × Json)) :
    entriesOf (checks ++ checks') = entriesOf checks ++ entriesOf checks' := List.flatMap_append

theorem entriesOf_single (key : String) (v : Json) : entriesOf [(key, v)] = piecesUnder key v :=
  List.flatMap_singleton ..

/-- A member of a group is listed. -/
theorem mem_piecesUnder_object {members : List (String × Json)} {key name : String} {b : Bool}
    (h : (name, .bool b) ∈ members) : (⟨some key, name⟩, b) ∈ piecesUnder key (.object members) :=
  List.mem_filterMap.mpr ⟨_, h, rfl⟩

/-- What stands in the middle may as well come last. -/
theorem perm_append_last {α : Type} (before group after : List α) (a : α) :
    (before ++ (group ++ [a] ++ after)).Perm (before ++ (group ++ after) ++ [a]) := by
  rw [List.append_assoc before]
  refine List.Perm.append_left before ?_
  rw [List.append_assoc, List.append_assoc]
  exact List.Perm.append_left group List.perm_append_comm

/-- Setting a member that is there, and there once, changes its value in its place. -/
theorem Json.setMember_of_split {before after : List (String × Json)} {key : String} {v : Json}
    (h : ((before ++ (key, v) :: after).map (·.1)).Nodup) (w : Json) :
    setMember (before ++ (key, v) :: after) key w = before ++ (key, w) :: after := by
  have hother : ∀ m ∈ before ++ after, m.1 ≠ key := by
    intro m hm heq
    rw [List.map_append, List.map_cons, List.nodup_middle, List.nodup_cons,
      ← List.map_append] at h
    exact h.1 (List.mem_map.mpr ⟨m, hm, heq⟩)
  rw [List.forall_mem_append] at hother
  have hkept : ∀ members : List (String × Json), (∀ m ∈ members, m.1 ≠ key) →
      members.map (fun m => if m.1 == key then (key, w) else m) = members := by
    intro members hmembers
    refine (List.map_congr_left fun m hm => ?_).trans (List.map_id members)
    rw [beq_eq_false_iff_ne.mpr (hmembers m hm)]
    rfl
  have hthere : (before ++ (key, v) :: after).any (·.1 == key) = true := by simp
  rw [setMember, if_pos hthere, List.map_append, List.map_cons, hkept _ hother.1, hkept _ hother.2,
    beq_self_eq_true, if_pos rfl]

/-! ## Pieces apart -/

/-- The pieces are told apart by their keys: they are not the same, and neither has the group of the
other for its name. -/
def Piece.Apart (p q : Piece) : Prop :=
  p ≠ q ∧ (p.group = none → q.group ≠ some p.name) ∧ (q.group = none → p.group ≠ some q.name)

instance (p q : Piece) : Decidable (p.Apart q) := inferInstanceAs (Decidable (_ ∧ _ ∧ _))

/-- A value that is noted under a key: a truth value, or a group with members. -/
inductive IsNote : Json → Prop where
  | single (passed : Bool) : IsNote (.bool passed)
  | group {members : List (String × Json)} (some_member : members ≠ [])
      (members_bool : ∀ m ∈ members, ∃ b, m.2 = .bool b) : IsNote (.object members)

/-- The checks list these pieces and no others, each key of them once. -/
structure Lists (checks : List (String × Json)) (entries : List (Piece × Bool)) : Prop where
  distinct : (checks.map (·.1)).Nodup
  notes : ∀ m ∈ checks, IsNote m.2
  listed : (entriesOf checks).Perm entries

namespace Lists

variable {checks : List (String × Json)} {entries : List (Piece × Bool)} {c : SetupCheck}

theorem nothing : Lists [] [] := ⟨List.nodup_nil, by simp, .nil⟩

theorem mem_entries (h : Lists checks entries) {key : String} {v : Json} (hkey : (key, v) ∈ checks)
    {e : Piece × Bool} (he : e ∈ piecesUnder key v) : e ∈ entries :=
  h.listed.mem_iff.mp (List.mem_flatMap.mpr ⟨_, hkey, he⟩)

/-- A key that no piece stands under is not there. -/
theorem key_not_mem (h : Lists checks entries) {key : String}
    (hsingle : ∀ e ∈ entries, e.1 ≠ ⟨none, key⟩) (hgroup : ∀ e ∈ entries, e.1.group ≠ some key) :
    key ∉ checks.map (·.1) := by
  intro hkey
  obtain ⟨⟨_, v⟩, hm, rfl⟩ := List.mem_map.mp hkey
  have hnote := h.notes _ hm
  dsimp only at hnote hm
  cases hnote with
  | single passed =>
    have hentry := h.mem_entries hm (List.mem_singleton.mpr rfl)
    exact hsingle _ hentry rfl
  | group hne hbool =>
    obtain ⟨⟨name, w⟩, hmember⟩ := List.exists_mem_of_ne_nil _ hne
    obtain ⟨b, hb⟩ := hbool _ hmember
    dsimp only at hb
    subst hb
    exact hgroup _ (h.mem_entries hm (mem_piecesUnder_object hmember)) rfl

/-- A name that no piece of a group has is not among its members. -/
theorem name_not_mem (h : Lists checks entries) {group : String} {members : List (String × Json)}
    (hgroup : (group, .object members) ∈ checks) {name : String}
    (hname : ∀ e ∈ entries, e.1 ≠ ⟨some group, name⟩) : name ∉ members.map (·.1) := by
  intro hthere
  obtain ⟨⟨_, w⟩, hm, rfl⟩ := List.mem_map.mp hthere
  have hnote := h.notes _ hgroup
  cases hnote with
  | group _ hbool =>
    obtain ⟨b, hb⟩ := hbool _ hm
    dsimp only at hb hname
    subst hb
    exact hname _ (h.mem_entries hgroup (mem_piecesUnder_object hm)) rfl

/-- Under a new key, pieces are added. -/
theorem add (h : Lists checks entries) {key : String} (hkey : key ∉ checks.map (·.1)) {v : Json}
    (hv : IsNote v) : Lists (Json.setMember checks key v) (entries ++ piecesUnder key v) := by
  rw [Json.setMember_of_not_mem hkey]
  constructor
  · rw [List.map_append, List.nodup_append]
    refine ⟨h.distinct, List.nodup_singleton _, ?_⟩
    intro k hk k' hk' heq
    rw [List.map_singleton, List.mem_singleton] at hk'
    rw [heq, hk'] at hk
    exact hkey hk
  · rw [List.forall_mem_append, List.forall_mem_singleton]
    exact ⟨h.notes, hv⟩
  · rw [entriesOf_append, entriesOf_single]
    exact h.listed.append_right _

/-- In a group that is there, a new member is added. -/
theorem extend (h : Lists checks entries) {group : String} {members : List (String × Json)}
    (hgroup : checks.lookup group = some (.object members)) {name : String}
    (hname : name ∉ members.map (·.1)) (b : Bool) :
    Lists (Json.setMember checks group (.object (Json.setMember members name (.bool b))))
      (entries ++ [(⟨some group, name⟩, b)]) := by
  obtain ⟨before, after, rfl, -⟩ := List.lookup_eq_some_iff.mp hgroup
  rw [Json.setMember_of_split h.distinct, Json.setMember_of_not_mem hname]
  have hsplit : ∀ v, entriesOf (before ++ (group, v) :: after)
      = entriesOf before ++ (piecesUnder group v ++ entriesOf after) := by
    intro v
    rw [List.append_cons, List.append_assoc, entriesOf_append, entriesOf_append, entriesOf_single]
  have hmore : piecesUnder group (.object (members ++ [(name, .bool b)]))
      = piecesUnder group (.object members) ++ [(⟨some group, name⟩, b)] := List.filterMap_append
  constructor
  · simpa using h.distinct
  · have hnotes := h.notes
    rw [List.forall_mem_append, List.forall_mem_cons] at hnotes ⊢
    refine ⟨hnotes.1, ?_, hnotes.2.2⟩
    cases hnotes.2.1 with
    | group hne hbool =>
      refine .group (by simp) ?_
      rw [List.forall_mem_append, List.forall_mem_singleton]
      exact ⟨hbool, b, rfl⟩
  · -- The new piece stands behind its group; in the list of all pieces it comes last.
    have hlisted := h.listed
    rw [hsplit] at hlisted ⊢
    rw [hmore]
    exact (perm_append_last _ _ _ _).trans (hlisted.append_right _)

/-- Noting a piece that is apart from all others lists it, too. -/
theorem note (h : Lists checks entries) (hapart : ∀ e ∈ entries, e.1.Apart c.piece) :
    Lists (Finding.noteIn checks (.check c)) (entries ++ [(c.piece, c.passed)]) := by
  have hpiece : c.piece = ⟨c.group, c.name⟩ := rfl
  cases hgroup : c.group with
  | none =>
    rw [hgroup] at hpiece
    have hkey : c.name ∉ checks.map (·.1) := by
      refine h.key_not_mem ?_ ?_
      · intro e he heq
        exact (hapart e he).1 (heq.trans hpiece.symm)
      · intro e he heq
        exact (hapart e he).2.2 (by rw [hpiece]) (by rw [hpiece]; exact heq)
    have hadd := h.add hkey (.single c.passed)
    rw [Finding.noteIn, hgroup, hpiece]
    exact hadd
  | some group =>
    rw [hgroup] at hpiece
    -- A piece of its own cannot have the name of the group.
    have hsingle : ∀ e ∈ entries, e.1 ≠ ⟨none, group⟩ := by
      intro e he heq
      refine (hapart e he).2.1 (by rw [heq]) ?_
      rw [hpiece, heq]
    rw [Finding.noteIn, hgroup, hpiece]
    dsimp only
    cases hlookup : checks.lookup group with
    | none =>
      have hkey : group ∉ checks.map (·.1) := by
        rw [← isSome_lookup_iff, hlookup]
        exact Bool.false_ne_true
      exact h.add hkey (.group (by simp) (by simp))
    | some v =>
      have hthere : (group, v) ∈ checks := by
        obtain ⟨before, after, rfl, -⟩ := List.lookup_eq_some_iff.mp hlookup
        simp
      cases h.notes _ hthere with
      | single passed =>
        exact absurd rfl (hsingle _ (h.mem_entries hthere (List.mem_singleton.mpr rfl)))
      | group _ _ =>
        have hname := h.name_not_mem hthere fun e he heq => (hapart e he).1 (heq.trans hpiece.symm)
        exact h.extend hlookup hname c.passed

end Lists

/-- If the pieces that are looked for are apart, they are listed one for one. -/
theorem lists_notes {checks : List (String × Json)} {entries : List (Piece × Bool)}
    (h : Lists checks entries) (fs : List Finding)
    (hapart : ((entries ++ fs.filterMap Finding.entry?).map (·.1)).Pairwise Piece.Apart) :
    Lists (fs.foldl Finding.noteIn checks) (entries ++ fs.filterMap Finding.entry?) := by
  induction fs generalizing checks entries with
  | nil => simpa using h
  | cons f fs ih =>
    cases f with
    | broken complaint => exact ih h hapart
    | check c =>
      have hentries : entries ++ (Finding.check c :: fs).filterMap Finding.entry?
          = entries ++ [(c.piece, c.passed)] ++ fs.filterMap Finding.entry? := by
        rw [List.append_assoc]
        rfl
      rw [hentries] at hapart ⊢
      refine ih (h.note fun e he => ?_) hapart
      rw [List.map_append, List.map_append, List.append_assoc] at hapart
      exact (List.pairwise_append.mp hapart).2.2 _ (List.mem_map_of_mem he) _ (by simp)

end BlockAuthoring
