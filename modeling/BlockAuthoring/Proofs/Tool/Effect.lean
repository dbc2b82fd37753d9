import BlockAuthoring.Proofs.Disk.Frame
import BlockAuthoring.Proofs.Tool.Generation
import BlockAuthoring.Proofs.Tool.Keeping

/-!
# What steps do to the disk

Finding a code and making a schema only look at the disk. Writing a value makes the folders that its
file lies in and then the file. If that fails there may be new folders, but the file is touched only
where the device stops in the middle of it: then it holds some first bytes.
-/

namespace BlockAuthoring

/-- The failure is one of writing a file: something is in the way on the disk, the device refuses or
stops, the path has a null byte, or a number has more digits than are written. -/
inductive Failure.IsOfWriting : Failure → Prop where
  | disk (e : DiskError) : IsOfWriting (.file (.disk e))
  | path : IsOfWriting .nullByte
  | number : IsOfWriting .numberNotWritable

/-- The device stopped in the middle of the file at the path. -/
inductive Failure.BrokenOff (p : Path) : Failure → Prop where
  | device (fault : DeviceFault) : BrokenOff p (.file (.disk ⟨.brokenOff fault, p⟩))

namespace Act

variable {α : Type}

/-! ## Steps that only look -/

/-- The step leaves the disk as it is, and does not fail in writing. -/
def Looks (x : Act α) : Prop :=
  ∀ around s, (x.runIn around s).2.disk = s.disk
    ∧ ∀ e, (x.runIn around s).1 = .error e → ¬ e.IsOfWriting

end Act

/-- The disk is the same in both sessions. -/
def Session.SameDisk (s s' : Session) : Prop := s'.disk = s.disk

instance : IsPreorder Session Session.SameDisk where
  refl _ := rfl
  trans _ _ _ h h' := Eq.trans h' h

theorem BlockSource.not_isOfWriting_of_locationOf {v : Json} {e : Failure}
    (h : locationOf v = .error e) : ¬ e.IsOfWriting := by
  unfold locationOf at h
  dsimp only at h
  split at h
  · split at h
    · split at h <;> cases h
      nofun
    · cases h
      nofun
  · cases h
    nofun

theorem keptByFinding_sameDisk : KeptByFinding Session.SameDisk (¬ ·.IsOfWriting) where
  requests _ _ := rfl
  source _ := nofun
  location _ _ := BlockSource.not_isOfWriting_of_locationOf

theorem looks_meantCode (place : BlockPlace) (blockName : String) (code : Option String) :
    Act.Looks (meantCode place blockName code) :=
  keptByFinding_sameDisk.meantCode place blockName code

/-! ## Writing -/

namespace Act

variable {around : Surroundings} {s s' : Session} {p : Path}

theorem runIn_ensureFolders (p : Path) (device : Device) : (ensureFolders p device).runIn around s =
    if p.holdsNull then (.error .nullByte, s)
    else ((s.disk.ensureFolders p device).1.mapError fun e => .file (.disk e),
      { s with disk := (s.disk.ensureFolders p device).2 }) := by
  unfold ensureFolders
  rw [runIn_bind, runIn_handOver]
  cases p.holdsNull with
  | true => rfl
  | false =>
    dsimp only
    rw [if_neg Bool.false_ne_true, if_neg Bool.false_ne_true]
    dsimp only
    rw [runIn_bind, runIn_disk]
    dsimp only
    cases s.disk.ensureFolders p device with
    | mk result d => cases result <;> rfl

theorem runIn_writeText (p : Path) (text : String) (device : Device) :
    (writeText p text device).runIn around s =
      if p.holdsNull then (.error .nullByte, s)
      else
        ((s.disk.write p (Text.Utf8.encode text.toList) device).1.mapError fun e => .file (.disk e),
        { s with disk := (s.disk.write p (Text.Utf8.encode text.toList) device).2 }) := by
  unfold writeText
  rw [runIn_bind, runIn_handOver]
  cases p.holdsNull with
  | true => rfl
  | false =>
    dsimp only
    rw [if_neg Bool.false_ne_true, if_neg Bool.false_ne_true]
    dsimp only
    rw [runIn_bind, runIn_disk]
    dsimp only
    cases s.disk.write p (Text.Utf8.encode text.toList) device with
    | mk result d => cases result <;> rfl

/-- Making folders fails for a reason of writing. Whatever comes of it, there are new folders at
most, and none where the last one is there. -/
theorem ensureFolders_cases {device : Device} {result : Except Failure Unit}
    (h : (ensureFolders p device).runIn around s = (result, s')) :
    (∀ e, result = .error e → e.IsOfWriting) ∧ Disk.Writes p [] s.disk s'.disk
      ∧ (s.disk.isFolder p = true → s'.disk = s.disk) := by
  rw [runIn_ensureFolders] at h
  split at h
  · cases h
    refine ⟨fun e he => ?_, .refl p _, fun _ => rfl⟩
    cases he
    exact .path
  · have hthere := Disk.ensureFolders_of_isFolder (d := s.disk) (p := p) device
    cases hmade : s.disk.ensureFolders p device with
    | mk made d =>
      rw [hmade] at h hthere
      cases h
      refine ⟨fun e he => ?_, Disk.ensureFolders_writes hmade,
        fun hfolder => (Prod.mk.inj (hthere hfolder)).2⟩
      cases made with
      | ok _ => cases he
      | error e' =>
        cases he
        exact .disk e'

/-- How writing a file may end, and what it does to the disk. -/
inductive WritingEnds (p : Path) (bytes : List UInt8) (d : Disk) :
    Except Failure Unit → Disk → Prop where
  | written {d' : Disk} (writes : Disk.Writes p.parent [(p, bytes)] d d') :
      WritingEnds p bytes d (.ok ()) d'
  /-- The file is not touched. There may be new folders, but none where the file is to lie in one
  that is there. -/
  | failed {e : Failure} {d' : Disk} (cause : e.IsOfWriting)
      (folders : Disk.Writes p.parent [] d d') (there : d.isFolder p.parent = true → d' = d) :
      WritingEnds p bytes d (.error e) d'
  /-- Only the first bytes of the file arrive. -/
  | brokenOff {e : Failure} {arrived : List UInt8} {d' : Disk} (cause : e.BrokenOff p)
      (first : arrived <+: bytes) (writes : Disk.Writes p.parent [(p, arrived)] d d') :
      WritingEnds p bytes d (.error e) d'

/-- Behind its folders a file is written, or not touched, or broken off. -/
theorem writeText_ends {text : String} {device : Device} {d : Disk} {result : Except Failure Unit}
    (hfolders : Disk.Writes p.parent [] d s.disk)
    (hthere : d.isFolder p.parent = true → s.disk = d)
    (h : (writeText p text device).runIn around s = (result, s')) :
    WritingEnds p (Text.Utf8.encode text.toList) d result s'.disk := by
  rw [runIn_writeText] at h
  split at h
  · cases h
    exact .failed .path hfolders hthere
  · cases hwrite : s.disk.write p (Text.Utf8.encode text.toList) device with
    | mk made d' =>
      rw [hwrite] at h
      cases h
      rcases Disk.write_cases hwrite with
        ⟨rfl, hput⟩ | ⟨e, rfl, rfl⟩ | ⟨fault, arrived, rfl, hfirst, hput⟩
      · exact .written (hfolders.behindFolders (Disk.putFile_writes _ hput))
      · exact .failed (.disk e) hfolders hthere
      · exact .brokenOff (.device fault) hfirst (hfolders.behindFolders (Disk.putFile_writes _ hput))

/-- Writing a value writes its file, unless it cannot be written. -/
theorem writeJson_ends {v : Json} {device : Device} {result : Except Failure Unit}
    (h : (writeJson p v device).runIn around s = (result, s')) :
    WritingEnds p (Text.Utf8.encode (writtenText v).toList) s.disk result s'.disk := by
  unfold writeJson at h
  rw [runIn_bind] at h
  cases hmade : (ensureFolders p.parent device).runIn around s with
  | mk made s₁ =>
    obtain ⟨hcause, hfolders, hthere⟩ := ensureFolders_cases hmade
    rw [hmade] at h
    cases made with
    | error e =>
      cases h
      exact .failed (hcause e rfl) hfolders hthere
    | ok _ =>
      dsimp only at h
      split at h
      · exact writeText_ends hfolders hthere h
      · cases h
        exact .failed .number hfolders hthere

end Act

/-! ## Making a schema -/

/-- How an order may end that is started in a session, and what it does to the disk. -/
inductive GenerationOrder.Ends (o : GenerationOrder) (around : Surroundings) (s : Session) :
    Except Failure GenerationResult → Disk → Prop where
  /-- No schema is made. -/
  | refused {e : Failure} (cause : ¬ e.IsOfWriting) : Ends o around s (.error e) s.disk
  /-- The schema is only shown. -/
  | shown {r : GenerationResult} (preview : o.preview = true) : Ends o around s (.ok r) s.disk
  /-- The schema that is made for the code cannot be written, or not all of it. -/
  | failed {e : Failure} {code : String} {block : GeneratedBlock} {d' : Disk}
      (preview : o.preview = false)
      (found : ((meantCode o.place o.blockName o.code).runIn around s).1 = .ok code)
      (made : GeneratedBlock.ofCode o.blockName code o.wishes = .ok block)
      (ends : Act.WritingEnds (o.target around.environment)
        (Text.Utf8.encode (writtenText block.schema.toJson).toList) s.disk (.error e) d') :
      Ends o around s (.error e) d'
  | written {r : GenerationResult} {d' : Disk} (preview : o.preview = false)
      (writes : Disk.Writes (o.target around.environment).parent
        [(o.target around.environment, Text.Utf8.encode (writtenText r.block.schema.toJson).toList)]
        s.disk d') :
      Ends o around s (.ok r) d'

theorem GenerationOrder.run_ends (o : GenerationOrder) (device : Device) (around : Surroundings)
    (s : Session) :
    o.Ends around s ((o.run device).runIn around s).1 ((o.run device).runIn around s).2.disk := by
  unfold GenerationOrder.run
  rw [Act.runIn_bind]
  obtain ⟨hdisk, hcause⟩ := looks_meantCode o.place o.blockName o.code around s
  cases hfound : (meantCode o.place o.blockName o.code).runIn around s with
  | mk found s₁ =>
    rw [hfound] at hdisk hcause
    dsimp only at hdisk hcause ⊢
    cases found with
    | error e =>
      rw [hdisk]
      exact .refused (hcause e rfl)
    | ok code =>
      dsimp only
      rw [Act.runIn_bind]
      cases hmade : GeneratedBlock.ofCode o.blockName code o.wishes with
      | error e =>
        have hthrow : (Act.ofExcept Failure.generation (.error e) : Act GeneratedBlock).runIn
            around s₁ = (.error (.generation e), s₁) := rfl
        rw [hthrow, hdisk]
        exact .refused nofun
      | ok block =>
        have hpure : (Act.ofExcept Failure.generation (.ok block)).runIn around s₁
            = (.ok block, s₁) := rfl
        have hvalid : block.report.isValid = true := by
          rw [GeneratedBlock.report_ofCode hmade]
          rfl
        rw [hpure]
        cases hpreview : o.preview with
        | true =>
          show o.Ends around s (.ok ⟨block, none⟩) s₁.disk
          rw [hdisk]
          exact .shown hpreview
        | false =>
          have henv : Act.environment.runIn around s₁ = (.ok around.environment, s₁) := rfl
          simp only [hvalid, Bool.false_eq_true, if_false, if_true]
          rw [Act.runIn_bind, henv]
          dsimp only
          rw [Act.runIn_bind]
          cases hwritten : (writeJson (o.target around.environment) block.schema.toJson
              device).runIn around s₁ with
          | mk result s₂ =>
            have hends := Act.writeJson_ends hwritten
            rw [hdisk] at hends
            cases result with
            | error e => exact .failed hpreview (congrArg Prod.fst hfound) hmade hends
            | ok _ =>
              generalize hleft : s₂.disk = d' at hends
              cases hends with
              | written hwrites => exact .written hpreview (hleft ▸ hwrites)

end BlockAuthoring
