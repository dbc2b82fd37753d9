import BlockAuthoring.Proofs.Project.Configuration
import BlockAuthoring.Proofs.Project.Pieces
import BlockAuthoring.Proofs.Tool.Generation

/-!
# Valid set-ups

When the set-up of a project is valid, and what a report says where it is not. Every piece that is
listed as missing is complained of once, with the weight and in the words that belong to the piece.
The only other complaints are those about a package file that cannot be used.

What can be found in any project is one fixed list (`catalogue`), but for what is there and what is
not. So that no two complaints are the same, and no two pieces get in each other's way, is a matter
of that list.
-/

namespace BlockAuthoring

open Text

/-! ## What belongs to a piece -/

/-- The pieces of their own that a set-up cannot do without. -/
def neededPieces : List String :=
  ["packageJson", "ueFolder", "ueModelsFolder", "ueScriptsFolder", "ueJs", "ueUtilsJs"]

/-- The groups whose pieces a set-up cannot do without. -/
def neededGroups : List String := ["dependencies", "baseConfigs", "templateConfigs"]

/-- What is said of a missing piece of its own. -/
def ownComplaints : List (String × String) :=
  [("packageJson", "package.json not found"),
    ("ueFolder", "ue/ directory not found"),
    ("ueModelsFolder", "ue/models/ directory not found"),
    ("ueBlocksFolder", "ue/models/blocks/ directory not found - no blocks instrumented yet"),
    ("ueScriptsFolder", "ue/scripts/ directory not found"),
    ("ueJs", "ue/scripts/ue.js not found"),
    ("ueUtilsJs", "ue/scripts/ue-utils.js not found"),
    ("huskyFolder", ".husky/ directory not found - git hooks not set up"),
    ("preCommitHook", "Pre-commit hook not found - automatic build on commit not enabled")]

/-- What is said before and behind the name of a missing piece of a group. -/
def groupComplaints : List (String × String × String) :=
  [("baseConfigs", "Base config ", " not found"),
    ("templateConfigs", "Template config ", " not found in ue/models/"),
    ("rootConfigs", "Consolidated config ", " not found in root - run build:json"),
    ("buildScripts", "Build script \"", "\" not found in package.json"),
    ("dependencies", "Required dependency \"", "\" not found in package.json")]

namespace Piece

/-- How much it matters that a piece is missing. -/
def weight (p : Piece) : Weight :=
  match p.group with
  | none => if p.name ∈ neededPieces then .error else .warning
  | some group => if group ∈ neededGroups then .error else .warning

/-- What is said of a missing piece. -/
def complaint (p : Piece) : String :=
  match p.group with
  | none => (ownComplaints.lookup p.name).getD ""
  | some group =>
    let around := (groupComplaints.lookup group).getD ("", "")
    around.1 ++ p.name ++ around.2

end Piece

/-- The pieces of a weight that are listed as missing. -/
def missing (weight : Weight) (entries : List (Piece × Bool)) : List Piece :=
  (entries.filter fun e => !e.2 && e.1.weight = weight).map (·.1)

theorem missing_cons (weight : Weight) (e : Piece × Bool) (entries : List (Piece × Bool)) :
    missing weight (e :: entries) = if !e.2 && e.1.weight = weight then
      e.1 :: missing weight entries else missing weight entries := by
  unfold missing
  rw [List.filter_cons]
  split
  · rfl
  · rfl

namespace Finding

/-- A finding has the weight of its piece, and says what is to be said of it. -/
def Worded : Finding → Prop
  | check c => c.weight = c.piece.weight ∧ c.complaint = c.piece.complaint
  | broken _ => True

instance : DecidablePred Worded
  | check _ => inferInstanceAs (Decidable (_ ∧ _))
  | broken _ => inferInstanceAs (Decidable True)

/-- The finding, as if the piece were missing. -/
def asMissing : Finding → Finding
  | check c => check { c with passed := false }
  | broken complaint => broken complaint

theorem text_asMissing (f : Finding) : f.asMissing.text = f.text := by cases f <;> rfl

theorem worded_asMissing {f : Finding} : f.asMissing.Worded ↔ f.Worded := by cases f <;> exact .rfl

/-- The piece that a finding is about. -/
def piece? (f : Finding) : Option Piece := f.entry?.map (·.1)

theorem piece?_asMissing (f : Finding) : f.asMissing.piece? = f.piece? := by cases f <;> rfl

theorem complaint?_check_iff {c : SetupCheck} :
    (check c).complaint? .error = none ↔ (c.weight = .error → c.passed = true) := by
  rw [complaint?]
  by_cases hpassed : c.passed = true <;> by_cases hweight : c.weight = .error <;>
    simp [hpassed, hweight]

/-- The complaints are texts of findings. -/
theorem complaints_sublist (fs : List Finding) (weight : Weight) :
    (fs.filterMap (·.complaint? weight)).Sublist (fs.map text) := by
  induction fs with
  | nil => exact .slnil
  | cons f fs ih =>
    cases hcomplaint : f.complaint? weight with
    | none =>
      rw [List.filterMap_cons_none hcomplaint]
      exact ih.cons _
    | some t =>
      rw [List.filterMap_cons_some hcomplaint, ← text_eq_of_complaint? hcomplaint]
      exact ih.cons_cons _

/-- Worded findings complain of the missing pieces, one for one, and of what is broken. -/
theorem complaints_perm {fs : List Finding} (h : ∀ f ∈ fs, f.Worded) (weight : Weight) :
    (fs.filterMap (·.complaint? weight)).Perm
      ((missing weight (fs.filterMap entry?)).map Piece.complaint
        ++ if weight = .error then fs.filterMap broken? else []) := by
  induction fs with
  | nil => simp [missing]
  | cons f fs ih =>
    rw [List.forall_mem_cons] at h
    have hrest := ih h.2
    cases f with
    | check c =>
      obtain ⟨hweight, hcomplaint⟩ : c.weight = c.piece.weight ∧ c.complaint = c.piece.complaint :=
        h.1
      by_cases hmissing : (!c.passed && decide (c.piece.weight = weight)) = true
      · have hsaid : (check c).complaint? weight = some c.piece.complaint := by
          rw [complaint?, hweight, if_pos hmissing, hcomplaint]
        have hentries : missing weight ((check c :: fs).filterMap entry?)
            = c.piece :: missing weight (fs.filterMap entry?) := by
          show missing weight ((c.piece, c.passed) :: _) = _
          rw [missing_cons, if_pos hmissing]
        rw [List.filterMap_cons_some hsaid, hentries]
        exact hrest.cons _
      · have hsilent : (check c).complaint? weight = none := by
          rw [complaint?, hweight, if_neg hmissing]
        have hentries : missing weight ((check c :: fs).filterMap entry?)
            = missing weight (fs.filterMap entry?) := by
          show missing weight ((c.piece, c.passed) :: _) = _
          rw [missing_cons, if_neg hmissing]
        rw [List.filterMap_cons_none hsilent, hentries]
        exact hrest
    | broken complaint =>
      by_cases herror : weight = .error
      · rw [if_pos herror] at hrest ⊢
        rw [List.filterMap_cons_some (b := complaint) (by rw [complaint?, if_pos herror])]
        exact (hrest.cons complaint).trans List.perm_middle.symm
      · rw [if_neg herror] at hrest ⊢
        rw [List.filterMap_cons_none (by rw [complaint?, if_neg herror])]
        exact hrest

end Finding

namespace Setup

/-! ## All that can be found -/

/-- What is said of a part of the package file that is no object. -/
def partFault (key : String) : Finding :=
  unusable ("\"" ++ key ++ "\" in package.json is not an object")

/-- All that can be found in a package file, with every piece missing. -/
def packageCatalogue : List Finding :=
  unusable "package.json is not an object"
    :: ([partFault "scripts"] ++ buildScripts.map (scriptCheck .null) ++ [partFault "dependencies"]
      ++ [partFault "devDependencies"] ++ dependencies.map (dependencyCheck .null .null))

/-- All that can be found among the hooks, with every piece missing. -/
def hookCatalogue : List Finding :=
  let hooks := Path.here.join ".husky"
  [folderCheck ⟨[], []⟩ hooks "huskyFolder" ".husky/ directory not found - git hooks not set up"
      .warning,
    fileCheck ⟨[], []⟩ (hooks.join "pre-commit") "preCommitHook"
      "Pre-commit hook not found - automatic build on commit not enabled" .warning]

/-- All that can be found in a project, with every piece missing. -/
def catalogue : List Finding := standing ⟨[], []⟩ .here ++ packageCatalogue ++ hookCatalogue

theorem worded_catalogue : ∀ f ∈ catalogue, f.Worded := by decide +kernel

theorem nodup_text_catalogue : (catalogue.map Finding.text).Nodup := by decide +kernel

theorem apart_catalogue : (catalogue.filterMap Finding.piece?).Pairwise Piece.Apart := by
  decide +kernel

section

variable {d : Disk} {root : Path}

theorem standing_asMissing :
    (standing d root).map Finding.asMissing = standing ⟨[], []⟩ .here := by
  rfl

theorem part_asMissing (package : Json) (key : String) :
    ((part package key).2.map Finding.asMissing).Sublist [partFault key] := by
  unfold part
  split
  · exact List.nil_sublist _
  · exact List.nil_sublist _
  · exact .refl _

theorem packageFindings_asMissing (package : Json) :
    ((packageFindings package).map Finding.asMissing).Sublist packageCatalogue := by
  unfold packageFindings packageCatalogue
  by_cases hform : package.isObject = true
  · rw [if_pos hform]
    simp only [List.map_append]
    refine .cons _ (.append (.append (.append (.append ?_ ?_) ?_) ?_) ?_)
    · exact part_asMissing package "scripts"
    · exact .refl _
    · exact part_asMissing package "dependencies"
    · exact part_asMissing package "devDependencies"
    · exact .refl _
  · rw [if_neg hform]
    exact .cons_cons _ (List.nil_sublist _)

theorem hookChecks_asMissing : ((hookChecks d root).map Finding.asMissing).Sublist hookCatalogue := by
  unfold hookChecks
  dsimp only
  split
  · exact .refl _
  · exact .cons_cons _ (List.nil_sublist _)

/-! ### Findings of the catalogue -/

section

variable {fs : List Finding}

/-- No two findings of the catalogue say the same. -/
theorem nodup_complaints (h : (fs.map Finding.asMissing).Sublist catalogue) (weight : Weight) :
    (fs.filterMap (·.complaint? weight)).Nodup := by
  have htexts : fs.map Finding.text = (fs.map Finding.asMissing).map Finding.text := by
    rw [List.map_map]
    exact List.map_congr_left fun f _ => (Finding.text_asMissing f).symm
  refine List.Nodup.sublist (Finding.complaints_sublist fs weight) ?_
  rw [htexts]
  exact nodup_text_catalogue.sublist (h.map _)

theorem worded_of_sublist (h : (fs.map Finding.asMissing).Sublist catalogue) :
    ∀ f ∈ fs, f.Worded := by
  intro f hf
  exact Finding.worded_asMissing.mp (worded_catalogue _ (h.subset (List.mem_map_of_mem hf)))

/-- What is found of the catalogue is listed, piece for piece. -/
theorem lists_of_sublist (h : (fs.map Finding.asMissing).Sublist catalogue) :
    Lists (fs.foldl Finding.noteIn []) (fs.filterMap Finding.entry?)
      ∧ ((fs.filterMap Finding.entry?).map (·.1)).Nodup := by
  have hpieces : (fs.filterMap Finding.entry?).map (·.1)
      = (fs.map Finding.asMissing).filterMap Finding.piece? := by
    rw [List.map_filterMap, List.filterMap_map]
    exact List.filterMap_congr fun f _ => (Finding.piece?_asMissing f).symm
  have hapart : ((fs.filterMap Finding.entry?).map (·.1)).Pairwise Piece.Apart := by
    rw [hpieces]
    exact apart_catalogue.sublist (h.filterMap _)
  exact ⟨lists_notes Lists.nothing fs hapart, hapart.imp fun hpq => hpq.1⟩

end

/-! ## Ready set-ups -/

/-- The file at a path is a text that reads as a JSON value. -/
def HoldsJson (d : Disk) (path : Path) (v : Json) : Prop :=
  ∃ text, d.readText path = .ok text ∧ Json.parse text = .ok v

/-- The package file asks for what a set-up needs. -/
structure Supplies (package : Json) : Prop where
  form : package.isObject = true
  parts : ∀ key ∈ packageParts,
    (package.get key).isNull = true ∨ (package.get key).isObject = true
  needed : ∀ name ∈ dependencies, ((package.get "dependencies").get name).isTruthy = true
    ∨ ((package.get "devDependencies").get name).isTruthy = true

/-- The folder of the scripts, where the check looks for it. -/
def scriptsFolder (root : Path) : Path := (root.join "ue").join "scripts"

/-- The folders and files that a set-up cannot do without are there. -/
structure Furnished (d : Disk) (root : Path) : Prop where
  folders : ∀ folder ∈ [root.join "ue", modelsFolder root, scriptsFolder root],
    d.isFolder folder = true
  configs : ∀ name ∈ Builtin.fileNames, d.isFile ((modelsFolder root).join name) = true
  scripts : ∀ name ∈ ["ue.js", "ue-utils.js"], d.isFile ((scriptsFolder root).join name) = true

/-- All that a set-up cannot do without is there. -/
structure Ready (d : Disk) (root : Path) : Prop where
  package : ∃ package, HoldsJson d (root.join "package.json") package ∧ Supplies package
  furnished : Furnished d root

/-- Nothing among these findings has to be mended. -/
def Faultless (fs : List Finding) : Prop := ∀ f ∈ fs, f.complaint? .error = none

theorem faultless_append {fs fs' : List Finding} :
    Faultless (fs ++ fs') ↔ Faultless fs ∧ Faultless fs' := List.forall_mem_append

theorem faultless_standing_iff : Faultless (standing d root) ↔
    d.isFile (root.join "package.json") = true ∧ Furnished d root := by
  have hall : Faultless (standing d root) ↔ d.isFile (root.join "package.json") = true
      ∧ (∀ folder ∈ [root.join "ue", modelsFolder root, scriptsFolder root],
        d.isFolder folder = true)
      ∧ (∀ name ∈ Builtin.fileNames, d.isFile ((modelsFolder root).join name) = true)
      ∧ ∀ name ∈ ["ue.js", "ue-utils.js"], d.isFile ((scriptsFolder root).join name) = true := by
    simp [Faultless, standing, folderChecks, configChecks, scriptChecks, groupChecks, folderCheck,
      fileCheck, Finding.complaint?_check_iff, Builtin.fileNames, Builtin.schemaFiles,
      Builtin.templateFiles, modelsFolder, scriptsFolder, and_assoc]
  rw [hall]
  constructor
  · rintro ⟨hpackage, hfolders, hconfigs, hscripts⟩
    exact ⟨hpackage, hfolders, hconfigs, hscripts⟩
  · rintro ⟨hpackage, hfolders, hconfigs, hscripts⟩
    exact ⟨hpackage, hfolders, hconfigs, hscripts⟩

theorem faultless_hookChecks : Faultless (hookChecks d root) := by
  unfold hookChecks Faultless
  dsimp only
  split <;> simp [folderCheck, fileCheck, Finding.complaint?_check_iff]

theorem faultless_part_iff {package : Json} {key : String} : Faultless (part package key).2 ↔
    (package.get key).isNull = true ∨ (package.get key).isObject = true := by
  unfold part
  cases package.get key <;> simp [Faultless, unusable, Finding.complaint?, Json.isNull, Json.isObject]

/-- What is looked up in a part of the package file is what its value has. -/
theorem get_part {package : Json} {key : String} (name : String)
    (h : (package.get key).isNull = true ∨ (package.get key).isObject = true) :
    (part package key).1.get name = (package.get key).get name := by
  unfold part
  cases hvalue : package.get key with
  | null => rfl
  | object members => rfl
  | _ => simp [hvalue, Json.isNull, Json.isObject] at h

theorem faultless_packageFindings_iff {package : Json} :
    Faultless (packageFindings package) ↔ Supplies package := by
  unfold packageFindings
  cases hform : package.isObject with
  | false =>
    rw [if_neg Bool.false_ne_true]
    refine iff_of_false ?_ ?_
    · simp [Faultless, unusable, Finding.complaint?]
    · intro h
      rw [h.form] at hform
      cases hform
  | true =>
    rw [if_pos rfl]
    dsimp only
    have hscripts : ∀ scripts, Faultless (buildScripts.map (scriptCheck scripts)) := by
      simp [Faultless, scriptCheck, Finding.complaint?_check_iff]
    have hdependencies : ∀ running building : Json,
        Faultless (dependencies.map (dependencyCheck running building)) ↔
          ∀ name ∈ dependencies, (running.get name).isTruthy = true
            ∨ (building.get name).isTruthy = true := by
      simp [Faultless, dependencyCheck, Finding.complaint?_check_iff]
    simp only [faultless_append, hscripts, hdependencies, faultless_part_iff, and_true]
    constructor
    · rintro ⟨⟨⟨hscript, hrunning⟩, hbuilding⟩, hneeded⟩
      refine ⟨hform, by simp [packageParts, hscript, hrunning, hbuilding], fun name hname => ?_⟩
      have := hneeded name hname
      rwa [get_part name hrunning, get_part name hbuilding] at this
    · rintro ⟨-, hparts, hneeded⟩
      have hrunning := hparts "dependencies" (by simp [packageParts])
      have hbuilding := hparts "devDependencies" (by simp [packageParts])
      refine ⟨⟨⟨hparts "scripts" (by simp [packageParts]), hrunning⟩, hbuilding⟩, ?_⟩
      intro name hname
      rw [get_part name hrunning, get_part name hbuilding]
      exact hneeded name hname

/-! ## What a report is made of -/

theorem HoldsJson.isFile {path : Path} {v : Json} (h : HoldsJson d path v) :
    d.isFile path = true := by
  obtain ⟨text, htext, -⟩ := h
  rw [Disk.isFile_iff_read]
  unfold Disk.readText at htext
  split at htext
  · cases htext
  · exact ⟨_, ‹_›⟩

theorem HoldsJson.unique {path : Path} {v w : Json} (hv : HoldsJson d path v)
    (hw : HoldsJson d path w) : v = w := by
  obtain ⟨text, htext, hparse⟩ := hv
  obtain ⟨text', htext', hparse'⟩ := hw
  cases htext.symm.trans htext'
  cases hparse.symm.trans hparse'
  rfl

/-- What is found in the package file, if there is one. -/
inductive Inside (d : Disk) (root : Path) : List Finding → Prop where
  | nothing (no_file : d.isFile (root.join "package.json") = false) : Inside d root []
  | package {package : Json} (held : HoldsJson d (root.join "package.json") package) :
    Inside d root (packageFindings package)

/-- What is found in a project. -/
def allFindings (d : Disk) (root : Path) (inside : List Finding) : List Finding :=
  standing d root ++ inside ++ hookChecks d root

theorem exists_checkSetup (h : d.isFile (root.join "package.json") = true →
      ∃ package, HoldsJson d (root.join "package.json") package) :
    ∃ inside, Inside d root inside ∧ checkSetup d root = .ok ⟨allFindings d root inside⟩ := by
  by_cases hfile : d.isFile (root.join "package.json") = true
  · obtain ⟨package, hheld⟩ := h hfile
    obtain ⟨bytes, hread⟩ := Disk.isFile_iff_read.mp hfile
    have hpackage : readPackage d (root.join "package.json") = .ok (packageFindings package) := by
      obtain ⟨text, htext, hparse⟩ := hheld
      rw [readPackage, htext]
      dsimp only
      rw [hparse]
    refine ⟨_, .package hheld, ?_⟩
    rw [checkSetup_of_read hread, hpackage]
    rfl
  · rw [Bool.not_eq_true] at hfile
    exact ⟨_, .nothing hfile, checkSetup_of_not_isFile hfile⟩

section

variable {inside : List Finding}

theorem Inside.asMissing (h : Inside d root inside) :
    (inside.map Finding.asMissing).Sublist packageCatalogue := by
  cases h with
  | nothing _ => exact List.nil_sublist _
  | package _ => exact packageFindings_asMissing _

theorem Inside.sublist_catalogue (h : Inside d root inside) :
    ((allFindings d root inside).map Finding.asMissing).Sublist catalogue := by
  rw [allFindings, List.map_append, List.map_append, standing_asMissing]
  exact ((List.Sublist.refl _).append h.asMissing).append hookChecks_asMissing

/-- Nothing has to be mended in a set-up that is ready, and in no other. -/
theorem Inside.faultless_iff (h : Inside d root inside) :
    Faultless (allFindings d root inside) ↔ Ready d root := by
  rw [allFindings, faultless_append, faultless_append, faultless_standing_iff]
  cases h with
  | nothing hfile =>
    refine iff_of_false ?_ ?_
    · rintro ⟨⟨⟨hpackage, -⟩, -⟩, -⟩
      rw [hfile] at hpackage
      cases hpackage
    · rintro ⟨⟨package, hheld, -⟩, -⟩
      rw [hheld.isFile] at hfile
      cases hfile
  | @package package hheld =>
    rw [faultless_packageFindings_iff]
    constructor
    · rintro ⟨⟨⟨-, hfurnished⟩, hsupplies⟩, -⟩
      exact ⟨⟨package, hheld, hsupplies⟩, hfurnished⟩
    · rintro ⟨⟨package', hheld', hsupplies⟩, hfurnished⟩
      cases hheld.unique hheld'
      exact ⟨⟨⟨hheld.isFile, hfurnished⟩, hsupplies⟩, faultless_hookChecks⟩

/-- The complaint is about a package file that is JSON and cannot be used. -/
def Malformed (d : Disk) (root : Path) (complaint : String) : Prop :=
  ∃ package detail, HoldsJson d (root.join "package.json") package ∧ Unusable package detail
    ∧ complaint = "Validation error: " ++ detail

theorem mem_broken_packageFindings_iff {package : Json} {t : String} :
    t ∈ (packageFindings package).filterMap Finding.broken? ↔
      ∃ detail, Unusable package detail ∧ t = "Validation error: " ++ detail := by
  rw [List.mem_filterMap]
  constructor
  · rintro ⟨f, hf, ht⟩
    cases ofPackage_of_mem_packageFindings package f hf with
    | script scripts name => cases ht
    | dependency running building name => cases ht
    | unusable detail =>
      cases ht
      exact ⟨detail, unusable_mem_packageFindings_iff.mp hf, rfl⟩
  · rintro ⟨detail, hdetail, rfl⟩
    exact ⟨_, unusable_mem_packageFindings_iff.mpr hdetail, rfl⟩

/-- Nothing is broken but the package file. -/
theorem Inside.mem_broken_iff (h : Inside d root inside) {t : String} :
    t ∈ (allFindings d root inside).filterMap Finding.broken? ↔ Malformed d root t := by
  have hstanding : (standing d root).filterMap Finding.broken? = [] := rfl
  have hhooks : (hookChecks d root).filterMap Finding.broken? = [] := by
    unfold hookChecks
    dsimp only
    split
    · rfl
    · rfl
  rw [allFindings, List.filterMap_append, List.filterMap_append, hstanding, hhooks, List.nil_append,
    List.append_nil]
  cases h with
  | nothing hfile =>
    refine iff_of_false List.not_mem_nil ?_
    rintro ⟨package, detail, hheld, -⟩
    rw [hheld.isFile] at hfile
    cases hfile
  | @package package hheld =>
    rw [mem_broken_packageFindings_iff]
    constructor
    · rintro ⟨detail, hdetail, ht⟩
      exact ⟨package, detail, hheld, hdetail, ht⟩
    · rintro ⟨package', detail, hheld', hdetail, ht⟩
      cases hheld.unique hheld'
      exact ⟨detail, hdetail, ht⟩

end

end

end Setup

/-! ## The verdict -/

/-- What a report says of a project. It lists every piece once. A piece that is listed as missing is
one error if the set-up cannot do without it, and else one warning; all other errors are about a
package file that cannot be used. -/
structure SetupReport.Verdict (d : Disk) (root : Path) (r : SetupReport) : Prop where
  valid_iff : r.isValid = true ↔ Setup.Ready d root
  pieces : (r.entries.map (·.1)).Nodup
  errors_nodup : r.errors.Nodup
  errors : ∃ malformed, (∀ t, t ∈ malformed ↔ Setup.Malformed d root t)
    ∧ r.errors.Perm ((missing .error r.entries).map Piece.complaint ++ malformed)
  warnings_nodup : r.warnings.Nodup
  warnings : r.warnings.Perm ((missing .warning r.entries).map Piece.complaint)
  total_errors : r.toJson.get "total_errors" = .int r.errors.length
  total_warnings : r.toJson.get "total_warnings" = .int r.warnings.length

theorem SetupReport.isValid_iff {r : SetupReport} :
    r.isValid = true ↔ Setup.Faultless r.findings := by
  rw [isValid, List.isEmpty_iff, errors, List.filterMap_eq_nil_iff]
  rfl

section

open Setup

/-- **Valid set-ups.** If the package file of a project is JSON, or there is none, the check gives a
report. The set-up is valid iff the package file is an object that asks for what is needed, and all
folders and files are there that a set-up cannot do without. -/
theorem checkSetup_verdict {d : Disk} {root : Path}
    (h : d.isFile (root.join "package.json") = true →
      ∃ package, HoldsJson d (root.join "package.json") package) :
    ∃ r, checkSetup d root = .ok r ∧ r.Verdict d root := by
  obtain ⟨inside, hinside, hr⟩ := exists_checkSetup h
  have hsublist := hinside.sublist_catalogue
  obtain ⟨⟨-, -, hlisted⟩, hnodup⟩ := lists_of_sublist hsublist
  have hmissing : ∀ weight,
      ((missing weight ((allFindings d root inside).filterMap Finding.entry?)).map
        Piece.complaint).Perm
      ((missing weight (SetupReport.entries ⟨allFindings d root inside⟩)).map Piece.complaint) :=
    fun weight => ((hlisted.symm.filter _).map _).map _
  have hcomplaints := Finding.complaints_perm (worded_of_sublist hsublist)
  refine ⟨_, hr, ?_⟩
  constructor
  · rw [SetupReport.isValid_iff]
    exact hinside.faultless_iff
  · exact (hlisted.map _).nodup_iff.mpr hnodup
  · exact nodup_complaints hsublist .error
  · exact ⟨_, fun t => hinside.mem_broken_iff,
      (hcomplaints .error).trans ((hmissing .error).append_right _)⟩
  · exact nodup_complaints hsublist .warning
  · have hwarnings := hcomplaints .warning
    rw [if_neg (by decide), List.append_nil] at hwarnings
    exact hwarnings.trans (hmissing .warning)
  · rfl
  · rfl

/-- A package file with an array for its scripts, a `null` for what it runs with, and no version of
one package that is needed. -/
def oddPackage : Json :=
  .object [("scripts", .array []), ("dependencies", .null), ("devDependencies",
    .object [("merge-json-cli", .string "1.0.4"), ("npm-run-all", .bool true),
      ("husky", .string "")])]

/-- A project with that package file, without a file for texts and without hooks. -/
def oddProject : Disk where
  entries :=
    [(["package.json"], .file (Utf8.encode (writtenText oddPackage).toList)),
      (["ue"], .folder), (["ue", "models"], .folder),
      (["ue", "models", "page.json"], .file []), (["ue", "models", "image.json"], .file []),
      (["ue", "models", "section.json"], .file []),
      (["ue", "models", "component-definition.json"], .file []),
      (["ue", "models", "component-models.json"], .file []),
      (["ue", "models", "component-filters.json"], .folder), (["ue", "scripts"], .folder),
      (["ue", "scripts", "ue.js"], .file []), (["ue", "scripts", "ue-utils.js"], .file [])]
  here := []

theorem holdsJson_oddProject : HoldsJson oddProject (Path.here.join "package.json") oddPackage := by
  have hplain : Json.Plain oddPackage := by
    refine .object (by decide) ?_
    simp only [List.forall_mem_cons, List.not_mem_nil, false_implies, implies_true, and_true]
    refine ⟨.array (by simp), .null, .object (by decide) ?_⟩
    simp only [List.forall_mem_cons, List.not_mem_nil, false_implies, implies_true, and_true]
    exact ⟨.string _, .bool _, .string _⟩
  have hreadable := hplain.readable rfl
  refine ⟨_, readText_writtenText rfl, ?_⟩
  rw [toList_writtenText]
  exact hreadable.parse_print

/-- A set-up that lacks a file for texts, a file to gather in, and a package. -/
theorem checkSetup_verdict_oddProject :
    (oddProject.isFile (Path.here.join "package.json") = true →
      ∃ package, HoldsJson oddProject (Path.here.join "package.json") package)
    ∧ ∃ r, checkSetup oddProject .here = .ok r ∧ r.Verdict oddProject .here :=
  ⟨fun _ => ⟨_, holdsJson_oddProject⟩, checkSetup_verdict fun _ => ⟨_, holdsJson_oddProject⟩⟩

end

end BlockAuthoring
