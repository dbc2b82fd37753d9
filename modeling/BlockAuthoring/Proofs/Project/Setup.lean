import BlockAuthoring.Proofs.Disk.Change
import BlockAuthoring.Proofs.Project.Report

/-!
# The package file of a project

What the package file of a project can do to the report on its set-up. Two of its faults end the
check: bytes that are no UTF-8, and a number with more digits than are converted. All others are
errors of the report, next to those about the other pieces.
-/

namespace BlockAuthoring

open Text

namespace Setup

/-! ## Faults of a package file -/

/-- The bytes of a package file write a text. -/
def WritesText (bytes : List UInt8) (text : List Char) : Prop :=
  (Utf8.decode bytes).map normalizeNewlines = .ok text

/-- The bytes of a package file end the check. -/
inductive EndsCheck (bytes : List UInt8) : PackageFault → Prop where
  | undecodable {fault : Utf8.Fault} (decoded : Utf8.decode bytes = .error fault) :
    EndsCheck bytes (.undecodable fault)
  | numberTooLong {text : List Char} {digits : Nat} (written : WritesText bytes text)
      (parsed : Json.parse text = .error (.tooManyDigits digits)) :
    EndsCheck bytes (.numberTooLong digits)

/-- The parts of a package file that are looked into. -/
def packageParts : List String := ["scripts", "dependencies", "devDependencies"]

/-- What is to be said of the value of a package file that cannot be used. -/
inductive Unusable (package : Json) : String → Prop where
  | notAnObject (form : package.isObject = false) : Unusable package "package.json is not an object"
  | part {key : String} (form : package.isObject = true) (looked : key ∈ packageParts)
      (there : (package.get key).isNull = false) (partForm : (package.get key).isObject = false) :
    Unusable package ("\"" ++ key ++ "\" in package.json is not an object")

/-- What is to be said of the bytes of a package file that are no JSON or cannot be used. -/
inductive Useless (bytes : List UInt8) : String → Prop where
  | notJson {text : List Char} {fault : Json.Fault} (written : WritesText bytes text)
      (parsed : Json.parse text = .error (.fault fault)) :
    Useless bytes ("could not read package.json: " ++ fault.message)
  | unusable {text : List Char} {package : Json} {detail : String}
      (written : WritesText bytes text) (parsed : Json.parse text = .ok package)
      (unusable : Unusable package detail) : Useless bytes detail

section

variable {bytes : List UInt8} {text : List Char} {fault : PackageFault} {detail : String}

theorem WritesText.unique {text' : List Char} (h : WritesText bytes text)
    (h' : WritesText bytes text') : text = text' := by
  cases h.symm.trans h'
  rfl

theorem not_writesText {f : Utf8.Fault} (h : Utf8.decode bytes = .error f) :
    ¬ WritesText bytes text := by
  rw [WritesText, h]
  rintro ⟨⟩

theorem endsCheck_of_undecodable {f : Utf8.Fault} (h : Utf8.decode bytes = .error f) :
    EndsCheck bytes fault ↔ fault = .undecodable f := by
  constructor
  · rintro (⟨h'⟩ | ⟨htext, -⟩)
    · cases h.symm.trans h'
      rfl
    · exact absurd htext (not_writesText h)
  · rintro rfl
    exact .undecodable h

theorem endsCheck_of_writesText (h : WritesText bytes text) :
    EndsCheck bytes fault ↔
      ∃ digits, Json.parse text = .error (.tooManyDigits digits) ∧ fault = .numberTooLong digits := by
  constructor
  · rintro (⟨hdecode⟩ | ⟨htext, hparse⟩)
    · exact absurd h (not_writesText hdecode)
    · cases h.unique htext
      exact ⟨_, hparse, rfl⟩
  · rintro ⟨digits, hparse, rfl⟩
    exact .numberTooLong h hparse

theorem useless_of_writesText (h : WritesText bytes text) :
    Useless bytes detail ↔
      (∃ fault, Json.parse text = .error (.fault fault)
        ∧ detail = "could not read package.json: " ++ fault.message)
      ∨ ∃ package, Json.parse text = .ok package ∧ Unusable package detail := by
  constructor
  · rintro (⟨htext, hparse⟩ | ⟨htext, hparse, hunusable⟩)
    · cases h.unique htext
      exact .inl ⟨_, hparse, rfl⟩
    · cases h.unique htext
      exact .inr ⟨_, hparse, hunusable⟩
  · rintro (⟨fault, hparse, rfl⟩ | ⟨package, hparse, hunusable⟩)
    · exact .notJson h hparse
    · exact .unusable h hparse hunusable

end

/-! ## Reading the package file -/

section

variable {d : Disk} {path : Path} {bytes : List UInt8}

theorem unusable_injective : Function.Injective unusable := by
  intro detail detail' h
  simpa [unusable] using h

theorem mem_part_iff {package : Json} {key : String} {f : Finding} :
    f ∈ (part package key).2 ↔ (package.get key).isNull = false
      ∧ (package.get key).isObject = false
      ∧ f = unusable ("\"" ++ key ++ "\" in package.json is not an object") := by
  unfold part
  cases package.get key <;> simp [Json.isNull, Json.isObject]

/-- What is said of a package file that cannot be used. -/
theorem unusable_mem_packageFindings_iff {package : Json} {detail : String} :
    unusable detail ∈ packageFindings package ↔ Unusable package detail := by
  unfold packageFindings
  cases hform : package.isObject with
  | false =>
    rw [if_neg Bool.false_ne_true, List.mem_singleton, unusable_injective.eq_iff]
    constructor
    · rintro rfl
      exact .notAnObject hform
    · rintro (_ | ⟨hobject, -⟩)
      · rfl
      · rw [hform] at hobject
        cases hobject
  | true =>
    have hparts : Unusable package detail ↔ ∃ key ∈ packageParts,
        unusable detail ∈ (part package key).2 := by
      constructor
      · rintro (hobject | ⟨-, hkey, hthere, hpart⟩)
        · rw [hform] at hobject
          cases hobject
        · exact ⟨_, hkey, mem_part_iff.mpr ⟨hthere, hpart, rfl⟩⟩
      · rintro ⟨key, hkey, hmem⟩
        obtain ⟨hthere, hpart, hdetail⟩ := mem_part_iff.mp hmem
        cases unusable_injective hdetail
        exact .part hform hkey hthere hpart
    have hscripts : ∀ scripts, unusable detail ∉ buildScripts.map (scriptCheck scripts) := by
      simp [unusable, scriptCheck]
    have hdependencies : ∀ running building,
        unusable detail ∉ dependencies.map (dependencyCheck running building) := by
      simp [unusable, dependencyCheck]
    rw [if_pos rfl, hparts]
    simp only [List.mem_append, hscripts, hdependencies, or_false, packageParts, List.mem_cons,
      List.not_mem_nil, exists_eq_or_imp, exists_eq_left, or_assoc]

/-- Reading a package file ends the check iff its bytes do. -/
theorem readPackage_eq_error_iff (hread : d.read path = .ok bytes) {fault : PackageFault} :
    readPackage d path = .error fault ↔ EndsCheck bytes fault := by
  unfold readPackage Disk.readText
  simp only [hread]
  cases hdecode : Utf8.decode bytes with
  | error f =>
    rw [endsCheck_of_undecodable hdecode]
    simp [eq_comm]
  | ok text =>
    have htext : WritesText bytes (normalizeNewlines text) := by
      rw [WritesText, hdecode]
      rfl
    rw [endsCheck_of_writesText htext]
    cases hparse : Json.parse (normalizeNewlines text) with
    | ok package => simp [hparse]
    | error e => cases e <;> simp [hparse, eq_comm]

/-- What is found in a package file is what is to be said of its bytes. -/
theorem unusable_mem_readPackage_iff (hread : d.read path = .ok bytes) {inside : List Finding}
    (hinside : readPackage d path = .ok inside) {detail : String} :
    unusable detail ∈ inside ↔ Useless bytes detail := by
  unfold readPackage Disk.readText at hinside
  simp only [hread] at hinside
  cases hdecode : Utf8.decode bytes with
  | error f =>
    rw [hdecode] at hinside
    cases hinside
  | ok text =>
    have htext : WritesText bytes (normalizeNewlines text) := by
      rw [WritesText, hdecode]
      rfl
    rw [hdecode] at hinside
    rw [useless_of_writesText htext]
    cases hparse : Json.parse (normalizeNewlines text) with
    | ok package =>
      simp only [hparse] at hinside
      cases hinside
      simp [unusable_mem_packageFindings_iff]
    | error e =>
      cases e with
      | fault fault =>
        simp only [hparse] at hinside
        cases hinside
        simp [unusable_injective.eq_iff]
      | tooManyDigits digits =>
        simp only [hparse] at hinside
        cases hinside

/-- A finding that a package file can give. -/
inductive OfPackage : Finding → Prop where
  | script (scripts : Json) (name : String) : OfPackage (scriptCheck scripts name)
  | dependency (running building : Json) (name : String) :
    OfPackage (dependencyCheck running building name)
  | unusable (detail : String) : OfPackage (unusable detail)

theorem ofPackage_of_mem_packageFindings (package : Json) :
    ∀ f ∈ packageFindings package, OfPackage f := by
  have hparts : ∀ key, ∀ f ∈ (part package key).2, OfPackage f := by
    intro key f hf
    rw [(mem_part_iff.mp hf).2.2]
    exact .unusable _
  have hscripts : ∀ scripts, ∀ f ∈ buildScripts.map (scriptCheck scripts), OfPackage f :=
    fun scripts => List.forall_mem_map.mpr fun name _ => .script scripts name
  have hdependencies : ∀ running building,
      ∀ f ∈ dependencies.map (dependencyCheck running building), OfPackage f :=
    fun running building => List.forall_mem_map.mpr fun name _ => .dependency running building name
  intro f hf
  unfold packageFindings at hf
  split at hf
  · simp only [List.mem_append] at hf
    obtain (((hf | hf) | hf) | hf) | hf := hf
    · exact hparts _ f hf
    · exact hscripts _ f hf
    · exact hparts _ f hf
    · exact hparts _ f hf
    · exact hdependencies _ _ f hf
  · rw [List.mem_singleton.mp hf]
    exact .unusable _

theorem ofPackage_of_readPackage {inside : List Finding} (h : readPackage d path = .ok inside) :
    ∀ f ∈ inside, OfPackage f := by
  have hsingle : ∀ detail, ∀ f ∈ [unusable detail], OfPackage f := by
    intro detail f hf
    rw [List.mem_singleton.mp hf]
    exact .unusable detail
  unfold readPackage at h
  split at h
  · cases h
    exact hsingle _
  · cases h
  · split at h <;> cases h
    · exact ofPackage_of_mem_packageFindings _
    · exact hsingle _

/-! ## The pieces around the package file -/

/-- What is looked for before the package file is read. -/
def standing (d : Disk) (root : Path) : List Finding :=
  fileCheck d (root.join "package.json") "packageJson" "package.json not found"
    :: folderChecks d root ++ configChecks d root ++ scriptChecks d root

/-- The finding is not worded like one about a useless package file. -/
def IsPiece (f : Finding) : Prop := f.text.toList.head? ≠ some 'V'

theorem isPiece_standing (root : Path) : ∀ f ∈ standing d root, IsPiece f := by
  simp [standing, folderChecks, configChecks, scriptChecks, groupChecks, folderCheck, fileCheck,
    IsPiece, Finding.text, or_imp, forall_and]

theorem isPiece_hookChecks (root : Path) : ∀ f ∈ hookChecks d root, IsPiece f := by
  unfold hookChecks IsPiece
  dsimp only
  split <;> simp [folderCheck, fileCheck, Finding.text]

theorem OfPackage.eq_unusable {f : Finding} (h : OfPackage f) (hpiece : ¬ IsPiece f) :
    ∃ detail, f = Setup.unusable detail := by
  cases h with
  | script scripts name => exact absurd (by simp [IsPiece, scriptCheck, Finding.text]) hpiece
  | dependency running building name =>
    exact absurd (by simp [IsPiece, dependencyCheck, Finding.text]) hpiece
  | unusable detail => exact ⟨detail, rfl⟩

end

end Setup

/-! ## The outcome -/

section

open Setup

variable {d : Disk} {root : Path} {r : SetupReport}

/-- A report on a project with a package file: what is found in the file stands between the other
pieces. -/
theorem checkSetup_of_read {bytes : List UInt8} (h : d.read (root.join "package.json") = .ok bytes) :
    checkSetup d root = (readPackage d (root.join "package.json")).map fun inside =>
      ⟨standing d root ++ inside ++ hookChecks d root⟩ := by
  rw [checkSetup, if_pos (Disk.isFile_iff_read.mpr ⟨bytes, h⟩)]
  rfl

/-- A report on a project without a package file. -/
theorem checkSetup_of_not_isFile (h : d.isFile (root.join "package.json") = false) :
    checkSetup d root = .ok ⟨standing d root ++ [] ++ hookChecks d root⟩ := by
  rw [checkSetup, h]
  rfl

/-- A report is made of what is found around the package file and in it. -/
theorem findings_of_checkSetup (h : checkSetup d root = .ok r) :
    ∃ inside, r.findings = standing d root ++ inside ++ hookChecks d root
      ∧ ∀ f ∈ inside, OfPackage f := by
  cases hfile : d.isFile (root.join "package.json") with
  | false =>
    rw [checkSetup_of_not_isFile hfile] at h
    cases h
    exact ⟨[], rfl, by simp⟩
  | true =>
    obtain ⟨bytes, hread⟩ := Disk.isFile_iff_read.mp hfile
    rw [checkSetup_of_read hread] at h
    cases hpackage : readPackage d (root.join "package.json") with
    | error fault =>
      rw [hpackage] at h
      cases h
    | ok inside =>
      rw [hpackage] at h
      cases h
      exact ⟨inside, rfl, ofPackage_of_readPackage hpackage⟩

/-- The report says that the package file is of no use iff that is found in it. -/
theorem unusable_mem_errors_iff {inside : List Finding}
    (hfindings : r.findings = standing d root ++ inside ++ hookChecks d root)
    (hinside : ∀ f ∈ inside, OfPackage f) (detail : String) :
    "Validation error: " ++ detail ∈ r.errors ↔ unusable detail ∈ inside := by
  rw [SetupReport.mem_errors_iff, hfindings]
  constructor
  · rintro ⟨f, hf, hcomplaint⟩
    have htext := Finding.text_eq_of_complaint? hcomplaint
    have hnot : ¬ IsPiece f := by
      rw [IsPiece, htext]
      simp
    rw [List.mem_append, List.mem_append] at hf
    obtain (hf | hf) | hf := hf
    · exact absurd (isPiece_standing root f hf) hnot
    · obtain ⟨detail', rfl⟩ := (hinside f hf).eq_unusable hnot
      have hdetail : unusable detail' = unusable detail := congrArg Finding.broken htext
      rwa [hdetail] at hf
    · exact absurd (isPiece_hookChecks root f hf) hnot
  · intro hmem
    exact ⟨unusable detail, by simp [hmem], rfl⟩

/-! ## What is noted -/

/-- The keys of what is found in the package file and behind it. -/
def laterKeys : List String := ["buildScripts", "dependencies", "huskyFolder", "preCommitHook"]

theorem key_mem_of_ofPackage {f : Finding} (h : OfPackage f) : ∀ k ∈ f.key, k ∈ laterKeys := by
  cases h <;> simp [laterKeys, scriptCheck, dependencyCheck, Setup.unusable, Finding.key]

theorem key_mem_of_hookChecks : ∀ f ∈ hookChecks d root, ∀ k ∈ f.key, k ∈ laterKeys := by
  unfold hookChecks
  dsimp only
  split <;> simp [laterKeys, folderCheck, fileCheck, Finding.key]

/-- Under all other keys, only what is found before the package file is noted. -/
theorem lookup_checks (h : checkSetup d root = .ok r) {k : String} (hk : k ∉ laterKeys) :
    r.checks.lookup k
      = (((standing d root).filter fun f => f.key = some k).foldl Finding.noteIn []).lookup k := by
  obtain ⟨inside, hfindings, hinside⟩ := findings_of_checkSetup h
  have hlater : (inside ++ hookChecks d root).filter (fun f => f.key = some k) = [] := by
    rw [List.filter_eq_nil_iff]
    intro f hf hkey
    rw [decide_eq_true_iff] at hkey
    obtain hf | hf := List.mem_append.mp hf
    · exact hk (key_mem_of_ofPackage (hinside f hf) k hkey)
    · exact hk (key_mem_of_hookChecks f hf k hkey)
  rw [SetupReport.checks, Finding.lookup_notes_filter r.findings rfl, hfindings, List.append_assoc,
    List.filter_append, hlater, List.append_nil]

/-! ## Faults of the package file -/

/-- **The package file and the report.** Checking the set-up of a project gives a report, whatever
is there of files and folders, unless the package file is no UTF-8 or holds a number with more
digits than are converted. A package file that is no JSON, no object, or has a part that is no
object is an error of the report, and no other error is worded like that. -/
theorem checkSetup_outcome (d : Disk) (root : Path) :
    (∀ fault, checkSetup d root = .error fault ↔
      ∃ bytes, d.read (root.join "package.json") = .ok bytes ∧ EndsCheck bytes fault)
    ∧ ∀ r, checkSetup d root = .ok r → ∀ detail, "Validation error: " ++ detail ∈ r.errors ↔
      ∃ bytes, d.read (root.join "package.json") = .ok bytes ∧ Useless bytes detail := by
  cases hfile : d.isFile (root.join "package.json") with
  | false =>
    have hnone : ¬ ∃ bytes, d.read (root.join "package.json") = .ok bytes := by
      rw [← Disk.isFile_iff_read, hfile]
      exact Bool.false_ne_true
    refine ⟨fun fault => iff_of_false ?_ fun ⟨bytes, hread, _⟩ => hnone ⟨bytes, hread⟩,
      fun r hr detail => ?_⟩
    · rw [checkSetup_of_not_isFile hfile]
      simp
    · rw [checkSetup_of_not_isFile hfile] at hr
      cases hr
      rw [unusable_mem_errors_iff rfl (by simp)]
      exact iff_of_false (by simp) fun ⟨bytes, hread, _⟩ => hnone ⟨bytes, hread⟩
  | true =>
    obtain ⟨bytes, hread⟩ := Disk.isFile_iff_read.mp hfile
    have hbytes : ∀ P : List UInt8 → Prop,
        (∃ bytes', d.read (root.join "package.json") = .ok bytes' ∧ P bytes') ↔ P bytes := by
      intro P
      rw [hread]
      simp
    simp only [hbytes, checkSetup_of_read hread]
    cases hpackage : readPackage d (root.join "package.json") with
    | error fault =>
      refine ⟨fun fault' => ?_, fun r hr => by cases hr⟩
      rw [← readPackage_eq_error_iff hread, hpackage]
      simp [Except.map]
    | ok inside =>
      refine ⟨fun fault => ?_, fun r hr detail => ?_⟩
      · rw [← readPackage_eq_error_iff hread, hpackage]
        simp [Except.map]
      · cases hr
        rw [unusable_mem_errors_iff rfl (ofPackage_of_readPackage hpackage),
          unusable_mem_readPackage_iff hread hpackage]

/-- A package file of one byte that starts no character. -/
theorem checkSetup_stops_at_strayByte :
    checkSetup ⟨[(["package.json"], .file [0xFF])], []⟩ .here
      = .error (.undecodable ⟨0, 1, 0xFF, .invalidStart⟩) := by
  have hread : Disk.read ⟨[(["package.json"], .file [0xFF])], []⟩ (Path.here.join "package.json")
      = .ok [0xFF] := rfl
  have hdecode : Utf8.decode [0xFF] = .error ⟨0, 1, 0xFF, .invalidStart⟩ := by
    rw [Utf8.decode, Utf8.decodeFrom]
    rfl
  rw [checkSetup_of_read hread, (readPackage_eq_error_iff hread).mpr (.undecodable hdecode)]
  rfl

end

end BlockAuthoring
