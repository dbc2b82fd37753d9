import BlockAuthoring.Proofs.Disk.Path
import BlockAuthoring.Proofs.Schema.Plain
import BlockAuthoring.Proofs.Schema.Synthesis
import BlockAuthoring.Proofs.Tool.Session
import BlockAuthoring.Tool.Checking

/-!
# Written schemas are read back

What is written for a block lies at the path that the result names. It is an ASCII text, it reads as
the schema of the result, and checking it gives the report of the result.
-/

namespace BlockAuthoring

open Json Text

/-! ## Texts of values -/

/-- A text as it is written to a file: in ASCII, with one newline at its end. -/
structure IsFileText (text : List Char) : Prop where
  ascii : ∀ c ∈ text, c.toNat < 0x80
  newline : ∃ lines, text = lines ++ ['\n'] ∧ lines.getLast? ≠ some '\n'

theorem toList_writtenText (v : Json) : (writtenText v).toList = print 0 v ++ ['\n'] := by
  simp [writtenText, pretty]

/-- The text of an object with members ends with its closing brace. -/
theorem getLast?_print_object (m : String × Json) (members : List (String × Json)) :
    (print 0 (.object (m :: members))).getLast? = some '\x7d' := by
  rw [print]
  exact List.getLast?_concat

theorem isFileText_writtenText {m : String × Json} {members : List (String × Json)} :
    IsFileText (writtenText (.object (m :: members))).toList where
  ascii := by
    intro c hc
    rw [toList_writtenText, List.mem_append, List.mem_singleton] at hc
    rcases hc with hc | rfl
    · rcases printed_print 0 _ c hc with ⟨-, hlt⟩ | rfl
      · omega
      · decide
    · decide
  newline := by
    refine ⟨_, toList_writtenText _, ?_⟩
    rw [getLast?_print_object]
    decide

/-- The text of a value is read from the file that it was written to. -/
theorem readText_writtenText {d : Disk} {p : Path} {v : Json}
    (hread : d.read p = .ok (Utf8.encode (writtenText v).toList)) :
    d.readText p = .ok (writtenText v).toList := by
  have hreturn : '\r' ∉ (writtenText v).toList := by
    intro hmem
    rw [toList_writtenText, List.mem_append, List.mem_singleton] at hmem
    rcases hmem with hmem | hmem
    · exact absurd (printed_print 0 v _ hmem) (by decide)
    · exact absurd hmem (by decide)
  rw [Disk.readText, hread]
  simp only [Utf8.decode_encode, normalizeNewlines_eq_self hreturn]

/-! ## Checking files -/

section

variable {s : Session}

/-- Checking a file is checking the value that its text writes. -/
theorem runIn_checkSchema_file (around : Surroundings) {path : String} {text : List Char}
    {v : Json} (hpath : path ≠ "") (hnull : (Path.ofString path).holdsNull = false)
    (hfile : s.disk.isFile (.ofString path) = true)
    (htext : s.disk.readText (.ofString path) = .ok text) (hparse : parse text = .ok v) :
    (checkSchema .null (some path)).runIn around s = (.ok (Report.ofSchema v), s) := by
  have hread : (Act.readText (.ofString path)).runIn around s = (.ok (String.ofList text), s) := by
    rw [Act.readText, Act.runIn_bind, Act.runIn_handOver, hnull]
    simp only [Bool.false_eq_true, if_false]
    rw [Act.runIn_bind, Act.runIn_disk]
    simp only [htext]
    rfl
  have hvalue : (readSchemaFile path).runIn around s = (.ok v, s) := by
    unfold readSchemaFile
    rw [Act.runIn_bind, Act.runIn_disk]
    simp only [hfile, if_true]
    rw [Act.runIn_bind, hread]
    simp only [String.toList_ofList, hparse]
    rfl
  have hempty : path.isEmpty = false := by simpa using hpath
  unfold checkSchema
  simp only [Json.isNull, hempty, Bool.not_true, Bool.false_eq_true, if_false]
  rw [Act.runIn_bind, hvalue]
  rfl

end

/-! ## Making schemas -/

namespace GeneratedBlock

variable {name code : String} {wishes : Json} {g : GeneratedBlock}

/-- What is made for a code is the record of the code, and a schema that synthesis gives for it. -/
theorem parts_of_ofCode (h : ofCode name code wishes = .ok g) :
    analyze code = .ok g.record
      ∧ ∃ overrides, synthesize name g.record overrides = .ok g.schema := by
  unfold ofCode at h
  obtain ⟨record, hrecord, h⟩ := bind_eq_ok_iff.mp h
  obtain ⟨items, -, h⟩ := bind_eq_ok_iff.mp h
  obtain ⟨overrides, -, h⟩ := bind_eq_ok_iff.mp h
  obtain ⟨schema, hschema, h⟩ := bind_eq_ok_iff.mp h
  cases h
  exact ⟨mapError_eq_ok_iff.mp hrecord, _, mapError_eq_ok_iff.mp hschema⟩

/-- The schema that is made for a code is complete: nothing is to be said of it. -/
theorem report_ofCode (h : ofCode name code wishes = .ok g) : g.report = {} := by
  obtain ⟨-, overrides, hschema⟩ := parts_of_ofCode h
  exact (AuthoringSchema.ofSchema_toJson_iff _).mpr (Synthesis.synthesize_complete hschema)

end GeneratedBlock

theorem GenerationOrder.normal_target (env : Environment) (o : GenerationOrder) :
    (o.target env).Normal := by
  have hdefault : (schemaPath env (.ofString o.place.projectPath) o.blockName).Normal :=
    (((Path.normal_ofString _).join _).join _).join _
  unfold GenerationOrder.target
  split
  · split
    · exact hdefault
    · exact Path.normal_ofString _
  · exact hdefault

section

variable {around : Surroundings} {s s' : Session} {o : GenerationOrder} {r : GenerationResult}

/-- An order that is not only to be shown succeeds by writing the schema of its block to its
target. -/
theorem GenerationOrder.run_eq_ok (hwrite : o.preview = false)
    (h : o.run.runIn around s = (.ok r, s')) :
    r.block.report = {} ∧ r.file = some (o.target around.environment) ∧ ∃ s₁ s₂,
      (writeJson (o.target around.environment) r.block.schema.toJson).runIn around s₁ = (.ok (), s₂)
        ∧ s'.disk = s₂.disk := by
  unfold GenerationOrder.run at h
  obtain ⟨code, s₁, -, h⟩ := Act.bind_eq_ok_iff.mp h
  obtain ⟨block, s₂, hblock, h⟩ := Act.bind_eq_ok_iff.mp h
  obtain ⟨hmade, rfl⟩ := Act.ofExcept_eq_ok_iff.mp hblock
  have hreport := GeneratedBlock.report_ofCode hmade
  have hvalid : block.report.isValid = true := by
    rw [hreport]
    rfl
  simp only [hwrite, hvalid, Bool.false_eq_true, if_false, if_true] at h
  obtain ⟨env, s₂, henv, h⟩ := Act.bind_eq_ok_iff.mp h
  cases henv
  obtain ⟨_, s₃, hwritten, h⟩ := Act.bind_eq_ok_iff.mp h
  obtain ⟨_, s₄, hlog, h⟩ := Act.bind_eq_ok_iff.mp h
  cases hlog
  cases h
  exact ⟨hreport, rfl, _, _, hwritten, rfl⟩

/-- The file at a path is what a result says of it: an ASCII text with one newline at its end, which
reads as the schema of the result. Checking the file gives the report of the result, which is valid
and without warnings. -/
structure GenerationResult.LiesAt (r : GenerationResult) (path : String) (s : Session) : Prop where
  named : r.toJson.get "file_path" = .string path
  text : ∃ text, s.disk.read (.ofString path) = .ok (Utf8.encode text) ∧ IsFileText text
    ∧ Json.parse text = .ok (r.toJson.get "json_config")
  checked : ∀ around, ∃ report, (checkSchema .null (some path)).runIn around s = (.ok report, s)
    ∧ report.toJson = r.toJson.get "validation"
    ∧ report.isValid = true ∧ report.errors = [] ∧ report.warnings = []

/-- **Written schemas are read back.** Whatever the project, the environment, the code and the
author's wishes are: if a schema is made and written, then it lies at the path of the result. -/
theorem GenerationOrder.run_reads_back (hwrite : o.preview = false)
    (hrun : o.run.runIn around s = (.ok r, s')) : ∃ path, r.LiesAt path s' := by
  obtain ⟨hreport, hfile, s₁, s₂, hwritten, hdisk⟩ := GenerationOrder.run_eq_ok hwrite hrun
  have hnormal := o.normal_target around.environment
  generalize o.target around.environment = target at hfile hwritten hnormal
  obtain ⟨⟨hwritable, hnull⟩, -, hread, hisFile⟩ := Act.writeJson_eq_ok hwritten
  have hreadable := r.block.schema.plain.readable hwritable
  have hpath := Path.ofString_toString hnormal
  rw [← hdisk, ← hpath] at hread hisFile
  rw [← hpath] at hnull
  have htext := readText_writtenText hread
  have hparse : Json.parse (writtenText r.block.schema.toJson).toList
      = .ok r.block.schema.toJson := by
    rw [toList_writtenText]
    exact hreadable.parse_print
  have hcheck := fun around => runIn_checkSchema_file around (Path.toString_ne_empty hnormal)
    hnull hisFile htext hparse
  obtain ⟨block, file⟩ := r
  subst hfile
  refine ⟨target.toString, rfl, ⟨_, hread, isFileText_writtenText, hparse⟩,
    fun around => ⟨block.report, hcheck around, rfl, ?_⟩⟩
  rw [hreport]
  exact ⟨rfl, rfl, rfl⟩

/-- An order with a name and a label beyond ASCII. -/
def crepeOrder : GenerationOrder :=
  { blockName := "crêpe-🥞", code := some "const [image] = block.children[1].children;"
    wishes := .array [.object [("label", .string "Füllung")]] }

theorem run_reads_back_crepeOrder :
    crepeOrder.preview = false ∧ ∃ r s' path,
      crepeOrder.run.runIn .offline .emptyProject = (.ok r, s') ∧ r.LiesAt path s' := by
  have hok : (crepeOrder.run.runIn .offline .emptyProject).1.isOk = true := by decide +kernel
  obtain ⟨r, hrun⟩ := exists_eq_ok_of_isOk hok
  obtain ⟨path, hpath⟩ := GenerationOrder.run_reads_back rfl hrun
  exact ⟨rfl, r, _, path, hrun, hpath⟩

end

end BlockAuthoring
