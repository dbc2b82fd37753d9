import BlockAuthoring.Proofs.Source.Folder
import BlockAuthoring.Proofs.Disk.Change
import BlockAuthoring.Proofs.Text.Utf8
import BlockAuthoring.Proofs.Tool.Session
import BlockAuthoring.Tool.BlockSource

/-!
# Reading blocks in a folder

Whatever lies in a folder of blocks, reading it gives what is asked for or says that there is no
such thing. A code whose bytes write no text is the one exception. Which codes there are is told by
the listing.
-/

namespace BlockAuthoring

/-! ## Code -/

section

variable {f : BlockFolder} {d : Disk} {name : String} {result : Except SourceFailure String}

/-- What reading the code of a block gives, by what lies where the code should be. -/
inductive BlockFolder.Reads (f : BlockFolder) (d : Disk) (name : String) :
    Except SourceFailure String → Prop where
  | text {bytes : List UInt8} {text : List Char} (lies : d.read (f.codePath name) = .ok bytes)
      (writes : Text.Utf8.decode bytes = .ok text) :
      Reads f d name (.ok (String.ofList (Text.normalizeNewlines text)))
  | noText {bytes : List UInt8} {fault : Text.Utf8.Fault}
      (lies : d.read (f.codePath name) = .ok bytes)
      (writes : Text.Utf8.decode bytes = .error fault) :
      Reads f d name (.error (.undecodable fault))
  | noFile {e : SourceError} (lies : d.isFile (f.codePath name) = false)
      (missing : e.isMissing = true) : Reads f d name (.error (.source e))

theorem BlockFolder.reads_code (f : BlockFolder) (d : Disk) (name : String) :
    f.Reads d name (f.code d name) := by
  unfold code
  dsimp only
  cases hfile : d.isFile (f.codePath name) with
  | false =>
    refine .noFile hfile ?_
    split <;> rfl
  | true =>
    obtain ⟨bytes, hread⟩ := Disk.isFile_iff_read.mp hfile
    simp only [Bool.not_true, Bool.false_eq_true, if_false, Disk.readText, hread]
    cases hdecode : Text.Utf8.decode bytes with
    | ok text => exact .text hread hdecode
    | error fault => exact .noText hread hdecode

/-- It is said that there is no such code iff there is no such file. -/
theorem BlockFolder.Reads.isMissing_iff (h : f.Reads d name result) :
    (∃ e, result = .error (.source e) ∧ e.isMissing = true)
      ↔ d.isFile (f.codePath name) = false := by
  cases h with
  | text hread _ => simp [Disk.isFile_iff_read.mpr ⟨_, hread⟩]
  | noText hread _ => simp [Disk.isFile_iff_read.mpr ⟨_, hread⟩]
  | noFile hfile hmissing => exact ⟨fun _ => hfile, fun _ => ⟨_, rfl, hmissing⟩⟩

end

/-! ## Operations -/

/-- A result or, if there is no such thing, a failure that says so. -/
inductive SourceError.GivesOrMisses {α : Type} : Except SourceError α → Prop where
  | gives (a : α) : GivesOrMisses (.ok a)
  | misses {e : SourceError} (missing : e.isMissing = true) : GivesOrMisses (.error e)

open SourceError (GivesOrMisses)

theorem BlockFolder.list_givesOrMisses (f : BlockFolder) (d : Disk) :
    GivesOrMisses (f.list d) := by
  unfold list
  split
  · exact .gives _
  · exact .misses rfl

theorem findBlock_givesOrMisses (name : String) (blocks : List BlockInfo) :
    GivesOrMisses (findBlock name blocks) := by
  unfold findBlock
  split
  · exact .gives _
  · exact .misses rfl

theorem BlockFolder.eq_info_of_mem_list {f : BlockFolder} {d : Disk} {blocks : List BlockInfo}
    {b : BlockInfo} (h : f.list d = .ok blocks) (hb : b ∈ blocks) : ∃ name, b = f.info d name := by
  unfold list at h
  split at h
  · cases h
    obtain ⟨name, -, rfl⟩ := List.mem_map.mp hb
    exact ⟨name, rfl⟩
  · cases h

namespace BlockSource

variable {f : BlockFolder} {around : Surroundings} {s : Session}

theorem runIn_list_folder : (folder f).list.runIn around s
    = ((f.list s.disk).mapError (.source <| .source ·), s) := by
  rw [list, Act.runIn_bind, Act.runIn_disk]
  exact Act.runIn_ofExcept _ _

theorem runIn_code_folder (name : String) : ((folder f).code name).runIn around s
    = ((f.code s.disk name).mapError .source, s) := by
  rw [code, Act.runIn_bind, Act.runIn_disk]
  exact Act.runIn_ofExcept _ _

theorem runIn_find_folder (name : String) : ((folder f).find name).runIn around s
    = (((f.list s.disk).bind (findBlock name)).mapError (.source <| .source ·), s) := by
  unfold find
  rw [Act.runIn_bind, runIn_list_folder]
  cases f.list s.disk with
  | error e => rfl
  | ok blocks => exact Act.runIn_ofExcept _ (findBlock name blocks)

/-- **Reading a folder ends.** Whatever lies in a folder, listing the blocks and looking for one
gives a result or says that there is no such thing. So does reading a code, by name or as listed,
unless its bytes write no text. No code is told of as there but missing, or the other way. -/
theorem reading_ends (f : BlockFolder) (around : Surroundings) (s : Session) :
    (∃ result, (folder f).list.runIn around s = (result.mapError (.source <| .source ·), s)
      ∧ GivesOrMisses result)
    ∧ (∀ name, ∃ result,
      ((folder f).find name).runIn around s = (result.mapError (.source <| .source ·), s)
        ∧ GivesOrMisses result)
    ∧ (∀ name, ∃ result, ((folder f).code name).runIn around s = (result.mapError .source, s)
      ∧ f.Reads s.disk name result)
    ∧ (∀ b, ∃ result, ((folder f).codeOf b).runIn around s = (result.mapError .source, s)
      ∧ f.Reads s.disk b.name.shown result)
    ∧ ∀ blocks, (folder f).list.runIn around s = (.ok blocks, s) → ∀ b ∈ blocks,
      (∃ e, ((folder f).codeOf b).runIn around s = (.error (.source (.source e)), s)
        ∧ e.isMissing = true) ↔ b.hasCode = false := by
  have hcode (name : String) : ∃ result,
      ((folder f).code name).runIn around s = (result.mapError .source, s)
        ∧ f.Reads s.disk name result := ⟨_, runIn_code_folder name, f.reads_code s.disk name⟩
  refine ⟨⟨_, runIn_list_folder, f.list_givesOrMisses s.disk⟩, fun name => ?_, hcode,
    fun b => hcode b.name.shown, fun blocks hlist b hb => ?_⟩
  · refine ⟨_, runIn_find_folder name, ?_⟩
    have hlist := f.list_givesOrMisses s.disk
    generalize f.list s.disk = result at hlist ⊢
    cases hlist with
    | gives blocks => exact findBlock_givesOrMisses name blocks
    | misses hmissing => exact .misses hmissing
  · obtain ⟨name', hinfo⟩ : ∃ name', b = f.info s.disk name' := by
      refine BlockFolder.eq_info_of_mem_list ?_ hb
      rw [runIn_list_folder] at hlist
      generalize f.list s.disk = result at hlist ⊢
      cases result <;> cases hlist
      rfl
    have hread := f.reads_code s.disk b.name.shown
    have hcodeOf : ((folder f).codeOf b).runIn around s
        = ((f.code s.disk b.name.shown).mapError .source, s) := runIn_code_folder b.name.shown
    have hcode : b.hasCode = s.disk.isFile (f.codePath b.name.shown) := by
      rw [hinfo]
      rfl
    rw [hcode, ← hread.isMissing_iff, hcodeOf]
    generalize f.code s.disk b.name.shown = result
    cases result <;> simp [Except.mapError]

/-- A session with a block whose code is a single byte beyond ASCII, and one without code. -/
def strayByteBlock : Session :=
  { disk := ⟨[(["work"], .folder), (["work", "blocks"], .folder),
      (["work", "blocks", "hero"], .folder), (["work", "blocks", "hero", "hero.js"], .file [0xFF]),
      (["work", "blocks", "cards"], .folder)], ["work"]⟩ }

theorem reading_ends_strayByte :
    ∃ blocks, (folder ⟨.ofString "blocks"⟩).list.runIn .offline strayByteBlock
        = (.ok blocks, strayByteBlock)
      ∧ BlockFolder.info ⟨.ofString "blocks"⟩ strayByteBlock.disk "hero" ∈ blocks
      ∧ ∀ b ∈ blocks, (∃ e, ((folder ⟨.ofString "blocks"⟩).codeOf b).runIn .offline strayByteBlock
        = (.error (.source (.source e)), strayByteBlock) ∧ e.isMissing = true)
          ↔ b.hasCode = false := by
  have hfolder : strayByteBlock.disk.isFolder (.ofString "blocks") = true := by decide
  have hlist : (folder ⟨.ofString "blocks"⟩).list.runIn .offline strayByteBlock
      = (.ok ((BlockFolder.blockNames ⟨.ofString "blocks"⟩ strayByteBlock.disk).map
        (BlockFolder.info ⟨.ofString "blocks"⟩ strayByteBlock.disk)), strayByteBlock) := by
    rw [runIn_list_folder, BlockFolder.list, if_pos hfolder]
    rfl
  obtain ⟨-, -, -, -, hlisted⟩ := reading_ends ⟨.ofString "blocks"⟩ .offline strayByteBlock
  have hhero : "hero" ∈ BlockFolder.blockNames ⟨.ofString "blocks"⟩ strayByteBlock.disk :=
    BlockFolder.mem_blockNames.mpr (by decide)
  exact ⟨_, hlist, List.mem_map_of_mem hhero, hlisted _ hlist⟩

/-- The code that is no text ends reading otherwise than a source may. -/
theorem code_strayByte_noText :
    ((folder ⟨.ofString "blocks"⟩).code "hero").runIn .offline strayByteBlock
      = (.error (.source (.undecodable ⟨0, 1, 0xFF, .invalidStart⟩)), strayByteBlock) := by
  have hread : strayByteBlock.disk.read (BlockFolder.codePath ⟨.ofString "blocks"⟩ "hero")
      = .ok [0xFF] := by decide
  have hfile := Disk.isFile_iff_read.mpr ⟨_, hread⟩
  have hdecode : Text.Utf8.decode [0xFF] = .error ⟨0, 1, 0xFF, .invalidStart⟩ :=
    Text.Utf8.decode_of_invalidStart rfl
  rw [runIn_code_folder]
  simp only [BlockFolder.code, hfile, Disk.readText, hread, hdecode, Bool.not_true,
    Bool.false_eq_true, if_false]
  rfl

end BlockSource

end BlockAuthoring
