import BlockAuthoring.Proofs.Source.Folder
import BlockAuthoring.Proofs.Source.Repository
import BlockAuthoring.Proofs.Source.Serving
import BlockAuthoring.Proofs.Text.Utf8

/-!
# Two sources of the same blocks

A folder and a repository that the service reads off the same folder give the same blocks in the same
order. They differ in two ways: a folder that has the name of a block's code counts as its code in
the repository only, and only reading from the disk turns every line end into a newline.
-/

namespace BlockAuthoring

open Asking

variable {f : BlockFolder} {r : Repository} {d : Disk} {l : List String} {service : Service}
  {name : String}

/-- A path leads somewhere iff it leads to a file or to a folder. -/
theorem Disk.isSome_find? (d : Disk) (p : Path) :
    (d.find? p).isSome = (d.isFile p || d.isFolder p) := by
  unfold Disk.isFile Disk.isFolder
  cases d.find? p with
  | none => rfl
  | some n => cases n <;> rfl

namespace Repository

/-! ## How far they agree -/

/-- The code of a block as the folder gives it, and what asking the repository gives: the text of
the file, but for line ends; or both say why there is none. -/
inductive AgreesOnCode (f : BlockFolder) (d : Disk) (service : Service) (name : String)
    (x : Asking String) : Prop where
  | file {bytes : List UInt8} {text : List Char}
    (lies : d.find? (f.codePath name) = some (.file bytes))
    (read : Text.Utf8.decode bytes = .ok text)
    (folder : f.code d name = .ok (String.ofList (Text.normalizeNewlines text)))
    (repository : Gives service x (.ok (String.ofList text))) : AgreesOnCode f d service name x
  | none {e e' : SourceError} (folder : f.code d name = .error (.source e))
    (repository : Gives service x (.error (.source e'))) : AgreesOnCode f d service name x

/-- What the folder tells of a block, and what the repository tells of it. -/
structure AgreesOn (r : Repository) (f : BlockFolder) (d : Disk) (service : Service) (name : String)
    (b : BlockInfo) : Prop where
  called : b.name = .string name
  path : b.path = r.blockPath name
  hasCode : b.hasCode = ((f.info d name).hasCode || d.isFolder (f.codePath name))
  hasStyle : b.hasStyle = ((f.info d name).hasStyle || d.isFolder (f.stylePath name))
  code : AgreesOnCode f d service name (r.code name)

/-- The path of a block's code. -/
def codePathOf (r : Repository) (name : String) : String := codePath (r.blockPath name) name

theorem agreesOnCode (hbase : r.baseUrl.toList.getLast? ≠ some '/') (hlies : f.LiesAt d l)
    (hserves : r.Serves service d l) (hblock : d.node? (l ++ [name]) = some .folder)
    (hreaches : r.Reaches (r.codePathOf name))
    (htexts : ∀ bytes, d.find? (f.codePath name) = some (.file bytes) →
      ∃ text, Text.Utf8.decode bytes = .ok text) :
    AgreesOnCode f d service name (r.code name) := by
  have hname := hlies.isEntryName hblock
  have hshows (request : Request)
      (hpath : request.address.plainPath = some (r.root ++ r.codePathOf name)) :
      (service request).Shows d (l ++ [name] ++ [BlockInfo.codeFile name]) := by
    rw [List.append_assoc]
    refine hserves request [name, BlockInfo.codeFile name] ?_ hpath
    simpa using ⟨hname, BlockFolder.isEntryName_codeFile hname⟩
  rcases gives_codeIn hbase hreaches hshows with ⟨bytes, hnode, hcode⟩ | ⟨hnode, e, hcode⟩
  · have hfind := (hlies.find?_codePath hblock).trans hnode
    obtain ⟨text, htext⟩ := htexts bytes hfind
    exact .file hfind htext (hlies.code_of_file hblock hnode htext) (hcode text htext)
  · exact .none (hlies.code_of_not_file hblock hnode) hcode

/-- **Both sources list the same blocks by name**, and agree on each of them. -/
theorem list_agrees (hbase : r.baseUrl.toList.getLast? ≠ some '/') (hlies : f.LiesAt d l)
    (hserves : r.Serves service d l) (hroot : r.Reaches r.blocksPath)
    (hreaches : ∀ name ∈ f.blockNames d, r.Reaches (r.codePathOf name))
    (htexts : ∀ name ∈ f.blockNames d, ∀ bytes, d.find? (f.codePath name) = some (.file bytes) →
      ∃ text, Text.Utf8.decode bytes = .ok text) :
    ∃ blocks, Gives service r.list (.ok blocks)
      ∧ blocks.map (·.name.shown) = f.blockNames d
      ∧ ∀ b ∈ blocks, ∃ name ∈ f.blockNames d, r.AgreesOn f d service name b := by
  have hblocks (name : String) (hblock : d.node? (l ++ [name]) = some .folder) :
      r.Reaches (r.blockPath name) :=
    (hreaches name (hlies.mem_blockNames_iff.mpr hblock)).outer
  obtain ⟨blocks, hgives, hnames, hentries⟩ :=
    gives_list hbase hserves hlies.tree hlies.folder hroot hblocks
  refine ⟨blocks, hgives, hnames.trans hlies.blockNames_eq.symm, fun b hb => ?_⟩
  obtain ⟨name, url, hblock, rfl⟩ := hentries b hb
  have hmem := hlies.mem_blockNames_iff.mpr hblock
  refine ⟨name, hmem, rfl, rfl, ?_, ?_,
    agreesOnCode hbase hlies hserves hblock (hreaches name hmem) (htexts name hmem)⟩
  · rw [entryOf, ← hlies.find?_codePath hblock, Disk.isSome_find?]
    rfl
  · rw [entryOf, ← hlies.find?_stylePath hblock, Disk.isSome_find?]
    rfl

/-! ## Where they agree -/

/-- What a listing is for: the name of a block, and which files it has. -/
def told (b : BlockInfo) : Json × Bool × Bool := (b.name, b.hasCode, b.hasStyle)

/-- Asking gives the text that is read from the disk, or both say why there is none. -/
inductive GivesAlike (service : Service) : Except SourceFailure String → Asking String → Prop where
  | text {text : String} {x : Asking String} (gives : Gives service x (.ok text)) :
    GivesAlike service (.ok text) x
  | none {e e' : SourceError} {x : Asking String} (gives : Gives service x (.error (.source e'))) :
    GivesAlike service (.error (.source e)) x

/-- Without carriage returns there is no difference between the texts. -/
theorem AgreesOnCode.givesAlike {x : Asking String} (h : AgreesOnCode f d service name x)
    (htexts : ∀ bytes, d.find? (f.codePath name) = some (.file bytes) →
      ∃ text, Text.Utf8.decode bytes = .ok text ∧ '\r' ∉ text) :
    GivesAlike service (f.code d name) x := by
  cases h with
  | @file bytes text hlies hread hfolder hrepository =>
    obtain ⟨text', htext', hreturn⟩ := htexts bytes hlies
    cases hread.symm.trans htext'
    rw [hfolder, Text.normalizeNewlines_eq_self hreturn]
    exact .text hrepository
  | none hfolder hrepository =>
    rw [hfolder]
    exact .none hrepository

/-- **The blocks do not depend on where they are read from**, as long as no folder has the name of a
block's code or style, and no code has a carriage return. -/
theorem folder_agrees_with_repository {env : Environment} {place : Location}
    (hr : r = ofLocation env place) (hlies : f.LiesAt d l) (hserves : r.Serves service d l)
    (hroot : r.Reaches r.blocksPath)
    (hreaches : ∀ name ∈ f.blockNames d, r.Reaches (r.codePathOf name))
    (hfiles : ∀ name ∈ f.blockNames d,
      d.isFolder (f.codePath name) = false ∧ d.isFolder (f.stylePath name) = false)
    (htexts : ∀ name ∈ f.blockNames d, ∀ bytes, d.find? (f.codePath name) = some (.file bytes) →
      ∃ text, Text.Utf8.decode bytes = .ok text ∧ '\r' ∉ text) :
    ∃ here there, f.list d = .ok here ∧ Gives service r.list (.ok there)
      ∧ here.map told = there.map told
      ∧ ∀ b ∈ there, ∃ name, b.name = .string name
        ∧ GivesAlike service (f.code d name) (r.code name) ∧ r.codeOf b = r.code name := by
  have hbase : r.baseUrl.toList.getLast? ≠ some '/' := hr ▸ getLast?_baseUrl env place
  obtain ⟨there, hgives, hnames, hagrees⟩ := list_agrees hbase hlies hserves hroot hreaches
    fun name hname bytes hbytes => (htexts name hname bytes hbytes).imp fun _ h => h.1
  have hlist : f.list d = .ok ((f.blockNames d).map (f.info d)) := by
    rw [BlockFolder.list, if_pos hlies.isFolder_path]
  refine ⟨_, there, hlist, hgives, ?_, fun b hb => ?_⟩
  · rw [← hnames, List.map_map, List.map_map]
    refine List.map_congr_left fun b hb => ?_
    obtain ⟨name, hname, hb⟩ := hagrees b hb
    obtain ⟨hcode, hstyle⟩ := hfiles name hname
    simp [told, hb.called, hb.hasCode, hb.hasStyle, hcode, hstyle, Json.shown, BlockFolder.info]
  · obtain ⟨name, hname, hb⟩ := hagrees b hb
    refine ⟨name, hb.called, hb.code.givesAlike (htexts name hname), ?_⟩
    rw [codeOf, hb.path, hb.called]
    rfl

/-! ## One block -/

/-- A project with one block, and in its folder something that has the name of its code. -/
def heroDisk (n : Node) : Disk where
  entries := [(["work"], .folder), (["work", "blocks"], .folder),
    (["work", "blocks", "hero"], .folder), (["work", "blocks", "hero", "hero.js"], n)]
  here := ["work"]

/-- The folder of blocks of a project. -/
def workBlocks : BlockFolder := ⟨⟨0, ["blocks"]⟩⟩

/-- The repository of a project. -/
def acmeSite : Repository := ofLocation [] { owner := "acme", name := "site" }

theorem workBlocks_liesAt (n : Node) : workBlocks.LiesAt (heroDisk n) ["work", "blocks"] where
  tree := {
    distinct := by simp [heroDisk]
    named := by simp [heroDisk, Path.IsEntryName, Path.IsFileName] }
  located := by simp [workBlocks, heroDisk, Disk.locate, Disk.follow, Disk.node?, Path.isAbsolute]
  folder := by simp [heroDisk, Disk.node?, List.lookup_cons]

theorem blockNames_workBlocks (n : Node) : workBlocks.blockNames (heroDisk n) = ["hero"] := by
  rw [(workBlocks_liesAt n).blockNames_eq]
  simp [heroDisk, Disk.namesAt, Disk.node?, BlockInfo.byName, List.lookup_cons]

theorem addressText_acmeSite (path : String) : acmeSite.addressText path
    = "https://api.github.com/repos/acme/site/contents/".toList ++ path.toList := by
  have hbase : acmeSite.baseUrl = "https://api.github.com" := by decide
  rw [addressText, hbase, String.toList_append]
  rfl

theorem acmeSite_reaches : acmeSite.Reaches (acmeSite.codePathOf "hero") where
  short := by rw [addressText_acmeSite]; decide
  plain := by
    have hall : (acmeSite.addressText (acmeSite.codePathOf "hero")).all
        (fun c => decide (Address.IsPlain c)) = true := by
      rw [addressText_acmeSite]
      decide
    exact fun c hc => of_decide_eq_true (List.all_eq_true.mp hall c hc)
  dotless := by unfold Address.Dotless; decide

theorem find?_codePath_hero (n : Node) :
    (heroDisk n).find? (workBlocks.codePath "hero") = some n := by
  rw [(workBlocks_liesAt n).find?_codePath (by simp [heroDisk, Disk.node?, List.lookup_cons])]
  simp [heroDisk, Disk.node?, List.lookup_cons, BlockInfo.codeFile]

theorem find?_stylePath_hero (n : Node) :
    (heroDisk n).find? (workBlocks.stylePath "hero") = none := by
  rw [(workBlocks_liesAt n).find?_stylePath (by simp [heroDisk, Disk.node?, List.lookup_cons])]
  simp [heroDisk, Disk.node?, List.lookup_cons, BlockInfo.styleFile]

theorem folder_agrees_with_repository_hero :
    let d := heroDisk (.file (Text.Utf8.encode "export default 1;\n".toList))
    let service := acmeSite.serving d ["work", "blocks"]
    ∃ here there, workBlocks.list d = .ok here ∧ Gives service acmeSite.list (.ok there)
      ∧ here.map told = there.map told
      ∧ ∀ b ∈ there, ∃ name, b.name = .string name
        ∧ GivesAlike service (workBlocks.code d name) (acmeSite.code name)
        ∧ acmeSite.codeOf b = acmeSite.code name := by
  have hsite : acmeSite = ofLocation [] { owner := "acme", name := "site" } := rfl
  refine folder_agrees_with_repository hsite (workBlocks_liesAt _) (serves_serving _ _ _)
    acmeSite_reaches.outer.outer ?_ ?_ ?_
  · rw [blockNames_workBlocks]
    simpa using acmeSite_reaches
  · rw [blockNames_workBlocks]
    simp [Disk.isFolder, find?_codePath_hero, find?_stylePath_hero]
  · rw [blockNames_workBlocks]
    simp only [List.mem_singleton, forall_eq, find?_codePath_hero, Option.some.injEq,
      Node.file.injEq]
    rintro _ rfl
    exact ⟨_, Text.Utf8.decode_encode _, by decide⟩

/-- A folder that has the name of a block's code: the repository says that the block has code, and
the folder says that it has none. -/
theorem listings_differ_where_code_is_folder :
    let d := heroDisk .folder
    ∃ b, Gives (acmeSite.serving d ["work", "blocks"]) acmeSite.list (.ok [b])
      ∧ workBlocks.list d = .ok [workBlocks.info d "hero"]
      ∧ b.hasCode = true ∧ (workBlocks.info d "hero").hasCode = false := by
  have hnames := blockNames_workBlocks .folder
  have hfind := find?_codePath_hero .folder
  obtain ⟨blocks, hgives, hcalled, hagrees⟩ := list_agrees (r := acmeSite) (getLast?_baseUrl _ _)
    (workBlocks_liesAt .folder) (serves_serving _ _ _) acmeSite_reaches.outer.outer
    (by rw [hnames]; simpa using acmeSite_reaches) (by rw [hnames]; simp [hfind])
  rw [hnames] at hcalled hagrees
  obtain ⟨b, rfl, -⟩ := List.map_eq_singleton_iff.mp hcalled
  obtain ⟨name, hname, hb⟩ := hagrees b List.mem_cons_self
  cases List.mem_singleton.mp hname
  have hfolder : (heroDisk .folder).isFolder (workBlocks.codePath "hero") = true := by
    rw [Disk.isFolder, hfind]
    rfl
  refine ⟨b, hgives, ?_, ?_, ?_⟩
  · rw [BlockFolder.list, if_pos (workBlocks_liesAt .folder).isFolder_path, hnames]
    rfl
  · rw [hb.hasCode, hfolder, Bool.or_true]
  · simp [BlockFolder.info, Disk.isFile, hfind]

end Repository

end BlockAuthoring
