import BlockAuthoring.Proofs.Disk.Change
import BlockAuthoring.Tool.Writing

/-!
# Steps of a session

What a step gives and the session behind it: a sequence succeeds iff its parts do one after
another, and a step that changes the disk only adds to it.
-/

namespace BlockAuthoring.Act

variable {α β : Type} {around : Surroundings} {s s' s'' : Session} {p : Path}

/-! ## Sequences -/

theorem runIn_bind (x : Act α) (f : α → Act β) :
    (x >>= f).runIn around s =
      match x.runIn around s with
      | (.ok a, s') => (f a).runIn around s'
      | (.error e, s') => (.error e, s') := by
  unfold runIn
  rw [ReaderT.run_bind, ExceptT.run_bind, StateT.run_bind]
  cases (x.run around).run.run s with
  | mk result s' => cases result <;> rfl

/-- A sequence succeeds iff its first part does, and the rest behind it. -/
theorem bind_eq_ok_iff {x : Act α} {f : α → Act β} {b : β} :
    (x >>= f).runIn around s = (.ok b, s'') ↔
      ∃ a s', x.runIn around s = (.ok a, s') ∧ (f a).runIn around s' = (.ok b, s'') := by
  rw [runIn_bind]
  cases x.runIn around s with
  | mk result s' => cases result <;> simp

theorem pure_eq_ok_iff {a b : α} :
    (pure a : Act α).runIn around s = (.ok b, s') ↔ a = b ∧ s = s' := by
  show (Except.ok a, s) = (.ok b, s') ↔ _
  simp

theorem throw_ne_ok {e : Failure} {a : α} :
    (throw e : Act α).runIn around s ≠ (.ok a, s') := by
  show (Except.error e, s) ≠ (.ok a, s')
  simp

theorem runIn_ofExcept {ε : Type} (cause : ε → Failure) (result : Except ε α) :
    (ofExcept cause result).runIn around s = (result.mapError cause, s) := by
  cases result <;> rfl

theorem ofExcept_eq_ok_iff {ε : Type} {cause : ε → Failure} {result : Except ε α} {a : α} :
    (ofExcept cause result).runIn around s = (.ok a, s') ↔ result = .ok a ∧ s = s' := by
  cases result with
  | ok b =>
    rw [ofExcept, pure_eq_ok_iff, Except.ok.injEq]
  | error e =>
    rw [ofExcept]
    simp [throw_ne_ok]

/-! ## Looking -/

theorem runIn_disk : disk.runIn around s = (.ok s.disk, s) := rfl

theorem runIn_handOver (p : Path) : (handOver p).runIn around s
    = (if p.holdsNull then .error .nullByte else .ok (), s) := by
  unfold handOver
  cases p.holdsNull <;> rfl

/-- Only a path without a null byte is handed to the system. -/
theorem handOver_eq_ok_iff :
    (handOver p).runIn around s = (.ok (), s') ↔ p.holdsNull = false ∧ s = s' := by
  rw [runIn_handOver]
  cases p.holdsNull <;> simp

theorem readText_eq_ok {text : String} (h : (readText p).runIn around s = (.ok text, s')) :
    s' = s ∧ s.disk.readText p = .ok text.toList := by
  obtain ⟨_, s₀, hhanded, h⟩ := bind_eq_ok_iff.mp h
  obtain ⟨-, rfl⟩ := handOver_eq_ok_iff.mp hhanded
  obtain ⟨d, s₁, hdisk, hrest⟩ := bind_eq_ok_iff.mp h
  cases hdisk
  obtain ⟨chars, s₂, hread, hresult⟩ := bind_eq_ok_iff.mp hrest
  obtain ⟨hchars, rfl⟩ := ofExcept_eq_ok_iff.mp hread
  obtain ⟨rfl, rfl⟩ := pure_eq_ok_iff.mp hresult
  exact ⟨rfl, by rw [String.toList_ofList, hchars]⟩

/-! ## Changing the disk -/

theorem ensureFolders_eq_ok {device : Device}
    (h : (ensureFolders p device).runIn around s = (.ok (), s')) :
    p.holdsNull = false ∧ s.disk.Grows s'.disk ∧ s'.disk.isFolder p = true := by
  obtain ⟨_, s₀, hhanded, h⟩ := bind_eq_ok_iff.mp h
  obtain ⟨hnull, rfl⟩ := handOver_eq_ok_iff.mp hhanded
  obtain ⟨d, s₁, hdisk, hrest⟩ := bind_eq_ok_iff.mp h
  cases hdisk
  obtain ⟨_, s₂, hset, hresult⟩ := bind_eq_ok_iff.mp hrest
  cases hset
  obtain ⟨hok, rfl⟩ := ofExcept_eq_ok_iff.mp hresult
  obtain ⟨hgrows, hfolder⟩ := Disk.ensureFolders_grows (d := s.disk) (p := p) rfl
  exact ⟨hnull, hgrows, hfolder hok⟩

theorem writeText_eq_ok {text : String} {device : Device}
    (h : (writeText p text device).runIn around s = (.ok (), s')) :
    p.holdsNull = false ∧ s.disk.putFile p (Text.Utf8.encode text.toList) = .ok s'.disk := by
  obtain ⟨_, s₀, hhanded, h⟩ := bind_eq_ok_iff.mp h
  obtain ⟨hnull, rfl⟩ := handOver_eq_ok_iff.mp hhanded
  obtain ⟨d, s₁, hdisk, hrest⟩ := bind_eq_ok_iff.mp h
  cases hdisk
  obtain ⟨_, s₂, hset, hresult⟩ := bind_eq_ok_iff.mp hrest
  cases hset
  obtain ⟨hok, rfl⟩ := ofExcept_eq_ok_iff.mp hresult
  exact ⟨hnull, Disk.putFile_of_write (Prod.ext hok rfl)⟩

/-- Only a value that can be written is written, and then its text is what the file holds. -/
theorem writeJson_eq_ok {v : Json} {device : Device}
    (h : (writeJson p v device).runIn around s = (.ok (), s')) :
    (v.isWritable = true ∧ p.holdsNull = false) ∧ s.disk.Grows s'.disk
      ∧ s'.disk.read p = .ok (Text.Utf8.encode (writtenText v).toList)
      ∧ s'.disk.isFile p = true := by
  obtain ⟨_, s₁, hfolders, hwrite⟩ := bind_eq_ok_iff.mp h
  obtain ⟨-, hgrows, -⟩ := ensureFolders_eq_ok hfolders
  cases hwritable : v.isWritable with
  | false =>
    rw [hwritable] at hwrite
    exact absurd hwrite throw_ne_ok
  | true =>
    rw [hwritable, if_pos rfl] at hwrite
    obtain ⟨hnull, hput⟩ := writeText_eq_ok hwrite
    obtain ⟨hgrows', hread, hfile⟩ := Disk.putFile_eq_ok hput
    exact ⟨⟨rfl, hnull⟩, hgrows.trans hgrows', hread, hfile⟩

/-- Steps that are taken for each element of a list add to the disk what each of them adds, as long
as that is not taken away again. -/
theorem mapM_grows {f : α → Act β} {P : α → Disk → Prop}
    (hstep : ∀ x s b s', (f x).runIn around s = (.ok b, s') → s.disk.Grows s'.disk ∧ P x s'.disk)
    (hkept : ∀ x d d', d.Grows d' → P x d → P x d') {xs : List α} {ys : List β}
    (h : (xs.mapM f).runIn around s = (.ok ys, s')) :
    s.disk.Grows s'.disk ∧ ∀ x ∈ xs, P x s'.disk := by
  induction xs generalizing s ys with
  | nil =>
    rw [List.mapM_nil, pure_eq_ok_iff] at h
    rw [h.2]
    exact ⟨.refl _, by simp⟩
  | cons x xs ih =>
    rw [List.mapM_cons] at h
    obtain ⟨y, s₁, hx, h⟩ := bind_eq_ok_iff.mp h
    obtain ⟨rest, s₂, hxs, h⟩ := bind_eq_ok_iff.mp h
    obtain ⟨-, rfl⟩ := pure_eq_ok_iff.mp h
    obtain ⟨hgrows, hP⟩ := hstep x s y s₁ hx
    obtain ⟨hgrows', hrest⟩ := ih hxs
    exact ⟨hgrows.trans hgrows', List.forall_mem_cons.mpr ⟨hkept x _ _ hgrows' hP, hrest⟩⟩

end BlockAuthoring.Act

namespace BlockAuthoring

/-! ## Small sessions -/

/-- Surroundings with no variable set and no service to be reached. -/
def Surroundings.offline : Surroundings :=
  { environment := [], service := fun _ => .unreachable "offline" }

/-- Surroundings whose models lie in a folder of another name. -/
def Surroundings.withModels (folder : String) : Surroundings :=
  { Surroundings.offline with environment := [("UE_MODELS_DIR", folder)] }

/-- A session in an empty project. -/
def Session.emptyProject : Session := { disk := ⟨[(["work"], .folder)], ["work"]⟩ }

/-- A run that succeeds gives something. -/
theorem exists_eq_ok_of_isOk {α : Type} {outcome : Except Failure α × Session}
    (h : outcome.1.isOk = true) : ∃ a, outcome = (.ok a, outcome.2) := by
  obtain ⟨result, s⟩ := outcome
  cases result with
  | ok a => exact ⟨a, rfl⟩
  | error e => cases h

/-- A run that does not succeed fails for some reason. -/
theorem exists_eq_error_of_isOk {α : Type} {outcome : Except Failure α × Session}
    (h : outcome.1.isOk = false) : ∃ e, outcome = (.error e, outcome.2) := by
  obtain ⟨result, s⟩ := outcome
  cases result with
  | ok a => cases h
  | error e => exact ⟨e, rfl⟩

end BlockAuthoring
