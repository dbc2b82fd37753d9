import BlockAuthoring.Proofs.Disk.Storing
import BlockAuthoring.Proofs.Tool.Effect

/-!
# Steps that change the disk in one way

What some steps give does not depend on the session: they only change the disk, and always in the
same way. Then what may be swapped or repeated on the disk may be swapped or repeated as a step.
-/

namespace BlockAuthoring

namespace Act

open Disk (Stores)

variable {α β : Type} {around : Surroundings} {a : α} {b : β} {change change' : Disk → Disk → Prop}

/-- If the step succeeds, then it gives this and changes the disk in this way; and it succeeds
whenever the disk can be changed so. -/
structure Performs (x : Act α) (around : Surroundings) (a : α) (change : Disk → Disk → Prop) :
    Prop where
  only : ∀ s b s', x.runIn around s = (.ok b, s') → b = a ∧ change s.disk s'.disk
  able : ∀ s d', change s.disk d' → ∃ s', x.runIn around s = (.ok a, s') ∧ s'.disk = d'

theorem performs_pure (a : α) : Performs (pure a) around a Eq where
  only := by
    intro s b s' h
    obtain ⟨rfl, rfl⟩ := pure_eq_ok_iff.mp h
    exact ⟨rfl, rfl⟩
  able s d' h := ⟨s, rfl, h⟩

theorem performs_environment : Performs environment around around.environment Eq where
  only := by
    intro s b s' h
    cases h
    exact ⟨rfl, rfl⟩
  able s d' h := ⟨s, rfl, h⟩

theorem performs_log (line : LogLine) : Performs (log line) around () Eq where
  only := by
    intro s b s' h
    cases h
    exact ⟨rfl, rfl⟩
  able s d' h := ⟨{ s with log := s.log ++ [line] }, rfl, h⟩

theorem performs_ofExcept {ε : Type} {cause : ε → Failure} {result : Except ε α}
    (h : result = .ok a) : Performs (ofExcept cause result) around a Eq :=
  h ▸ performs_pure a

theorem Performs.bind {x : Act α} {f : α → Act β} (hx : Performs x around a change)
    (hf : Performs (f a) around b change') :
    Performs (x >>= f) around b fun d d'' => ∃ d', change d d' ∧ change' d' d'' where
  only := by
    intro s c s'' h
    obtain ⟨a', s', hfirst, hsecond⟩ := bind_eq_ok_iff.mp h
    obtain ⟨rfl, hchange⟩ := hx.only s a' s' hfirst
    obtain ⟨rfl, hchange'⟩ := hf.only s' c s'' hsecond
    exact ⟨rfl, s'.disk, hchange, hchange'⟩
  able := by
    rintro s d'' ⟨d', hchange, hchange'⟩
    obtain ⟨s', hfirst, rfl⟩ := hx.able s d' hchange
    obtain ⟨s'', hsecond, hdisk⟩ := hf.able s' d'' hchange'
    exact ⟨s'', bind_eq_ok_iff.mpr ⟨a, s', hfirst, hsecond⟩, hdisk⟩

theorem Performs.congr {x : Act α} (hx : Performs x around a change)
    (h : ∀ d d', change d d' ↔ change' d d') : Performs x around a change' := by
  have hsame : change = change' := funext fun d => funext fun d' => propext (h d d')
  exact hsame ▸ hx

/-- What comes before may leave the disk as it is. -/
theorem Performs.after {x : Act α} {f : α → Act β} (hx : Performs x around a Eq)
    (hf : Performs (f a) around b change) : Performs (x >>= f) around b change :=
  (hx.bind hf).congr fun d d' => by simp

/-- What comes behind may leave the disk as it is. -/
theorem Performs.before {x : Act α} {f : α → Act β} (hx : Performs x around a change)
    (hf : Performs (f a) around b Eq) : Performs (x >>= f) around b change :=
  (hx.bind hf).congr fun d d' => by simp

theorem performs_ensureFolders {p : Path} (hnull : p.holdsNull = false) :
    Performs (ensureFolders p) around () fun d d' => d.ensureFolders p = (.ok (), d') where
  only := by
    intro s b s' h
    rw [runIn_ensureFolders, hnull] at h
    cases hmade : s.disk.ensureFolders p with
    | mk result d =>
      rw [hmade] at h
      cases result <;> cases h
      exact ⟨rfl, rfl⟩
  able := by
    intro s d' h
    refine ⟨{ s with disk := d' }, ?_, rfl⟩
    rw [runIn_ensureFolders, hnull, h]
    rfl

theorem performs_writeText {p : Path} (hnull : p.holdsNull = false) (text : String) :
    Performs (writeText p text) around () fun d d' =>
      d.putFile p (Text.Utf8.encode text.toList) = .ok d' where
  only s _ s' h := ⟨rfl, (writeText_eq_ok h).2⟩
  able := by
    intro s d' h
    refine ⟨{ s with disk := d' }, ?_, rfl⟩
    rw [runIn_writeText, hnull, Disk.write_sound, h]
    rfl

theorem performs_writeJson {p : Path} (hnull : p.holdsNull = false) {v : Json}
    (hwritable : v.isWritable = true) :
    Performs (writeJson p v) around ()
      (Stores p.parent [(p, Text.Utf8.encode (writtenText v).toList)]) := by
  unfold writeJson
  rw [if_pos hwritable]
  refine ((performs_ensureFolders (Path.holdsNull_parent hnull)).bind
    (performs_writeText hnull _)).congr fun d d' => ?_
  simp only [Stores, Disk.putFiles_singleton]

/-- Changes that are made for one element after another. -/
def inTurn (change : α → Disk → Disk → Prop) : List α → Disk → Disk → Prop
  | [] => Eq
  | x :: xs => fun d d'' => ∃ d', change x d d' ∧ inTurn change xs d' d''

theorem performs_mapM {f : α → Act β} {g : α → β} {change : α → Disk → Disk → Prop} (xs : List α)
    (h : ∀ x ∈ xs, Performs (f x) around (g x) (change x)) :
    Performs (xs.mapM f) around (xs.map g) (inTurn change xs) := by
  induction xs with
  | nil =>
    rw [List.mapM_nil]
    exact performs_pure []
  | cons x xs ih =>
    obtain ⟨hx, hxs⟩ := List.forall_mem_cons.mp h
    rw [List.mapM_cons]
    exact hx.bind ((ih hxs).before (performs_pure _))

/-! ## In another order, and again -/

/-- If the steps succeed one behind the other, then they do so in the other order, too: they give
the same, and the disk holds the same. -/
def Commute (around : Surroundings) (s : Session) (x : Act α) (y : Act β) : Prop :=
  ∀ a b s₁ s₂, x.runIn around s = (.ok a, s₁) → y.runIn around s₁ = (.ok b, s₂) →
    ∃ s₁' s₂', y.runIn around s = (.ok b, s₁') ∧ x.runIn around s₁' = (.ok a, s₂')
      ∧ s₂.disk.Same s₂'.disk

/-- If the step succeeds, then it does so again: it gives the same, and the disk holds the same. -/
def Repeats (around : Surroundings) (s : Session) (x : Act α) : Prop :=
  ∀ a s₁, x.runIn around s = (.ok a, s₁) →
    ∃ s₂, x.runIn around s₁ = (.ok a, s₂) ∧ s₁.disk.Same s₂.disk

theorem Performs.commute {x : Act α} {y : Act β} {s : Session}
    (hx : Performs x around a change) (hy : Performs y around b change')
    (hswap : Disk.Swappable change change') : Commute around s x y := by
  intro a' b' s₁ s₂ hfirst hsecond
  obtain ⟨rfl, hchange⟩ := hx.only s a' s₁ hfirst
  obtain ⟨rfl, hchange'⟩ := hy.only s₁ b' s₂ hsecond
  obtain ⟨d, d', hother, hback, hsame⟩ := hswap _ _ _ hchange hchange'
  obtain ⟨s₁', hfirst', rfl⟩ := hy.able s d hother
  obtain ⟨s₂', hsecond', rfl⟩ := hx.able s₁' d' hback
  exact ⟨s₁', s₂', hfirst', hsecond', hsame⟩

theorem Performs.repeats {x : Act α} {s : Session} (hx : Performs x around a change)
    (hagain : Disk.Repeatable change) : Repeats around s x := by
  intro a' s₁ hrun
  obtain ⟨rfl, hchange⟩ := hx.only s a' s₁ hrun
  obtain ⟨d, hchange', hsame⟩ := hagain _ _ hchange
  obtain ⟨s₂, hrun', rfl⟩ := hx.able s₁ d hchange'
  exact ⟨s₂, hrun', hsame⟩

end Act

end BlockAuthoring
