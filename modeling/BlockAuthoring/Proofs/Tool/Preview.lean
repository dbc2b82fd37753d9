import BlockAuthoring.Proofs.Analysis.Outcome
import BlockAuthoring.Proofs.Schema.Synthesis
import BlockAuthoring.Proofs.Tool.Session
import BlockAuthoring.Tool.Writing

/-!
# Previews of code

A code that is given is looked at by three parts of the library: the analysis tool tells its record,
a preview shows the schema that is made for it, and synthesis makes a schema for a record. Here a
preview is compared with the other two. It fails for the reason of the analysis and tells a part of
the same record, and its schema is the one that synthesis gives for the same wishes, as long as none
of them is `null`.
-/

namespace BlockAuthoring

variable {around around' : Surroundings} {s s' : Session} {o : GenerationOrder} {code : String}
  {r : AnalysisRecord}

/-! ## Runs on a code that is given -/

theorem runIn_analyzeBlock_code (place : BlockPlace) (asked : Option String) (code : String) :
    (analyzeBlock place asked (some code)).runIn around s
      = ((BlockAnalysis.ofCode asked code).mapError .analysis, s) :=
  Act.runIn_ofExcept Failure.analysis (BlockAnalysis.ofCode asked code)

/-- A preview leaves the session as it is. -/
theorem GenerationOrder.runIn_preview (hcode : o.code = some code) (hpreview : o.preview = true) :
    o.run.runIn around s =
      (((GeneratedBlock.ofCode o.blockName code o.wishes).mapError .generation).map (⟨·, none⟩),
        s) := by
  have hmeant : (meantCode o.place o.blockName o.code).runIn around s = (.ok code, s) := by
    rw [hcode]
    rfl
  unfold GenerationOrder.run
  rw [Act.runIn_bind, hmeant]
  dsimp only
  rw [Act.runIn_bind, Act.runIn_ofExcept]
  cases GeneratedBlock.ofCode o.blockName code o.wishes with
  | error e => rfl
  | ok g =>
    simp only [hpreview, if_true]
    rfl

/-! ## Made schemas -/

namespace GeneratedBlock

variable {name : String} {wishes : Json} {items : List Json}

theorem ofCode_of_refused {e : AnalysisError} (hanalyze : analyze code = .error e) :
    ofCode name code wishes = .error (.analysis e) := by
  rw [ofCode, hanalyze]
  rfl

theorem ofCode_of_unread {e : GenerationError} (hanalyze : analyze code = .ok r)
    (hitems : wishes.iterated = .ok items) (hread : readWishes items = .error e) :
    ofCode name code wishes = .error e := by
  rw [ofCode, hanalyze, hitems]
  show (readWishes items >>= _) = _
  rw [hread]
  rfl

/-- Once the wishes are read, the schema is all that may fail. -/
theorem ofCode_of_read {overrides : List FieldOverride} (hanalyze : analyze code = .ok r)
    (hitems : wishes.iterated = .ok items) (hread : readWishes items = .ok overrides) :
    ofCode name code wishes
      = ((synthesize name r (overrides.map some)).mapError GenerationError.synthesis).map
          (⟨name, r, ·⟩) := by
  rw [ofCode, hanalyze, hitems]
  show (readWishes items >>= _) = _
  rw [hread]
  show ((synthesize name r (overrides.map some)).mapError GenerationError.synthesis >>= _) = _
  cases synthesize name r (overrides.map some) <;> rfl

theorem ofCode_of_made {overrides : List FieldOverride} {schema : AuthoringSchema}
    (hanalyze : analyze code = .ok r) (hitems : wishes.iterated = .ok items)
    (hread : readWishes items = .ok overrides)
    (hschema : synthesize name r (overrides.map some) = .ok schema) :
    ofCode name code wishes = .ok ⟨name, r, schema⟩ := by
  rw [ofCode_of_read hanalyze hitems hread, hschema]
  rfl

theorem ofCode_of_unmade {overrides : List FieldOverride} {e : SynthesisError}
    (hanalyze : analyze code = .ok r) (hitems : wishes.iterated = .ok items)
    (hread : readWishes items = .ok overrides)
    (hschema : synthesize name r (overrides.map some) = .error e) :
    ofCode name code wishes = .error (.synthesis e) := by
  rw [ofCode_of_read hanalyze hitems hread, hschema]
  rfl

end GeneratedBlock

theorem Json.iterated_of_not_truthy {v : Json} (h : v.isTruthy = false) : v.iterated = .ok [] := by
  unfold Json.iterated
  rw [h]
  rfl

theorem Json.iterated_array (items : List Json) : (Json.array items).iterated = .ok items := by
  cases items with
  | nil => rfl
  | cons item items => rfl

/-! ## Previews and analyses -/

/-- The summary of a record: some of its members, under other names. -/
def summaryOf (record : Json) : Json :=
  .object [("complexity", record.get "complexity"), ("is_container", record.get "isContainer"),
    ("requires_observer", record.get "requiresObserver"),
    ("dom_transformations", record.get "domTransformations")]

/-- The hints of a definition. -/
def hintsOf (definition : Json) : Json := (definition.get "plugins").get "da"

/-- The result of an analysis and the result of a preview tell the same. -/
structure TellsAlike (analysis preview : Json) : Prop where
  summary : preview.get "analysis" = summaryOf (analysis.get "analysis")
  /-- The first model has a field for each column of the record. -/
  fields : ∃ model more fields,
    (preview.get "json_config").get "models" = .array (model :: more)
      ∧ model.get "fields" = .array fields
      ∧ ((analysis.get "analysis").get "expectedStructure").get "columns" = .int fields.length
  /-- The table that is suggested is the one of the first definition. -/
  table : (analysis.get "suggestion").get "useUnsafeHTML" = .bool false →
    ∃ definition more,
      (preview.get "json_config").get "definitions" = .array (definition :: more)
        ∧ (hintsOf definition).get "rows" = (analysis.get "suggestion").get "rows"
        ∧ (hintsOf definition).get "columns" = (analysis.get "suggestion").get "columns"

/-- How the analysis and the preview of a code end together. -/
inductive EndAlike : Except Failure BlockAnalysis → Except Failure GenerationResult → Prop where
  /-- Both fail for the same reason, in the same words. -/
  | refused (e : AnalysisError)
      (hwords : (Failure.generation (.analysis e)).message = (Failure.analysis e).message) :
      EndAlike (.error (.analysis e)) (.error (.generation (.analysis e)))
  | told (a : BlockAnalysis) (g : GenerationResult) (h : TellsAlike a.toJson g.toJson) :
      EndAlike (.ok a) (.ok g)

/-- Suggestion and definition find their rows by different rules. The rules agree on records with
one row or many. -/
theorem AnalysisRecord.suggestion_of_table
    (hrows : r.expectedStructure.rows = .multiple ∨ r.expectedStructure.rows = .count 1)
    (htable : r.suggestion.useUnsafeHtml = false) :
    r.suggestion.rows = Synthesis.primaryRows r
      ∧ r.suggestion.columns = r.expectedStructure.columns := by
  have hprimary : Synthesis.primaryRows r = 1 := by
    unfold Synthesis.primaryRows
    split
    · rename_i n _ _ hcount
      rcases hrows with hrows | hrows
      · cases hcount.symm.trans hrows
      · cases hcount.symm.trans hrows
        rfl
    · rfl
  unfold AnalysisRecord.suggestion at htable ⊢
  split at htable
  · cases htable
  · rename_i hsimple
    rw [if_neg hsimple, hprimary]
    refine ⟨?_, rfl⟩
    rcases hrows with hrows | hrows <;> simp only [hrows]

theorem tellsAlike_of_made (a : BlockAnalysis) (name : String) (file : Option Path)
    (hrows : a.record.expectedStructure.rows = .multiple
      ∨ a.record.expectedStructure.rows = .count 1) :
    TellsAlike a.toJson (GenerationResult.toJson ⟨⟨name, a.record,
      ⟨Synthesis.definitions name a.record, [Synthesis.modelAt name a.record []],
        Synthesis.filters name a.record⟩⟩, file⟩) := by
  refine ⟨rfl, ⟨_, _, _, rfl, rfl, ?fields⟩, fun htable => ?table⟩
  case fields =>
    show Json.int _ = .int _
    simp [Synthesis.modelAt]
  case table =>
    have hsimple : a.record.suggestion.useUnsafeHtml = false := Json.bool.inj htable
    obtain ⟨hsuggested, hcounted⟩ := AnalysisRecord.suggestion_of_table hrows hsimple
    refine ⟨_, _, rfl, ?rows, ?columns⟩
    case rows =>
      show Json.int _ = .int _
      rw [hsuggested]
    case columns =>
      show Json.int _ = .int _
      rw [hcounted]

/-- The one number of columns that has a digit more than are converted is told, but there is no
schema for it. -/
theorem told_without_schema (hanalyze : analyze code = .ok r)
    (hmost : r.expectedStructure.columns = Nat.pow 10 Text.maxDigits) {name : String}
    (hname : Text.isBlank name.toList = false) {wishes : Json} (hwishes : wishes.isTruthy = false)
    (asked : Option String) :
    (∃ a, BlockAnalysis.ofCode asked code = .ok a)
      ∧ ∃ fault, GeneratedBlock.ofCode name code wishes = .error (.synthesis (.selector fault)) := by
  have hlong : Text.maxDigits < (Nat.toDigits 10 r.expectedStructure.columns).length := by
    rw [hmost, ← Nat.not_le, Text.length_toDigits_le_iff (by decide)]
    exact Nat.lt_irrefl _
  obtain ⟨fault, hschema⟩ := Synthesis.synthesize_long hname hlong
  refine ⟨?_, fault, ?_⟩
  · rw [BlockAnalysis.ofCode, hanalyze]
    exact ⟨_, rfl⟩
  · exact GeneratedBlock.ofCode_of_unmade hanalyze (Json.iterated_of_not_truthy hwishes) rfl hschema

/-- **Previews agree with analyses.** Whatever code is given, a preview under a name that is not
blank and without wishes fails iff the analysis of the code fails, for the same reason, and else
both tell the same. Neither changes its session. The exception is the one number of columns that
has a digit more than are converted, which an index of nothing but nines calls for: it is told, but
there is no label for the last of its fields, and the preview fails. -/
theorem preview_agrees_with_analysis (hcode : o.code = some code) (hpreview : o.preview = true)
    (hwishes : o.wishes.isTruthy = false) (hname : ∃ c ∈ o.blockName.toList, Text.isSpace c = false)
    (place : BlockPlace) (asked : Option String) :
    ∃ analysis preview, (analyzeBlock place asked (some code)).runIn around s = (analysis, s)
      ∧ o.run.runIn around' s' = (preview, s')
      ∧ ((∀ r, analyze code = .ok r →
          r.expectedStructure.columns ≠ Nat.pow 10 Text.maxDigits) → EndAlike analysis preview)
      ∧ ∀ r, analyze code = .ok r → r.expectedStructure.columns = Nat.pow 10 Text.maxDigits →
        (∃ a, analysis = .ok a)
          ∧ ∃ fault, preview = .error (.generation (.synthesis (.selector fault))) := by
  refine ⟨_, _, runIn_analyzeBlock_code place asked code,
    GenerationOrder.runIn_preview hcode hpreview, ?_⟩
  have hblank : Text.isBlank o.blockName.toList = false := by
    obtain ⟨c, hc, hspace⟩ := hname
    exact List.all_eq_false.mpr ⟨c, hc, by simp [hspace]⟩
  cases hanalyze : analyze code with
  | error e =>
    rw [BlockAnalysis.ofCode, hanalyze, GeneratedBlock.ofCode_of_refused hanalyze]
    exact ⟨fun _ => .refused e rfl, nofun⟩
  | ok r =>
    refine ⟨fun hfew => ?alike, ?most⟩
    case alike =>
      have hsource : analyzeSource (.ofChars code.toList) = .ok r := by
        rw [← analyze_eq_analyzeSource, hanalyze]
      have hcolumns := (Synthesis.columns_of_analyzeSource hsource).resolve_right (hfew r rfl)
      have hrows : r.expectedStructure.rows = .multiple ∨ r.expectedStructure.rows = .count 1 := by
        obtain ⟨indices, hindices, rfl⟩ := Analysis.exists_indices_of_analyzeSource hsource
        exact (Analysis.recordOf_inferred hindices).rows_cases
      have hschema : synthesize o.blockName r [] = _ := Synthesis.synthesize_eq_ok hblank hcolumns
      rw [BlockAnalysis.ofCode, hanalyze,
        GeneratedBlock.ofCode_of_made hanalyze (Json.iterated_of_not_truthy hwishes) rfl hschema]
      exact .told _ _ (tellsAlike_of_made _ _ _ hrows)
    case most =>
      rintro _ ⟨⟩ hmost
      obtain ⟨⟨a, hmade⟩, fault, hfails⟩ := told_without_schema hanalyze hmost hblank hwishes asked
      rw [hmade, hfails]
      exact ⟨⟨a, rfl⟩, fault, rfl⟩

/-- A block that takes out the second of its children. -/
def pickCode : String := "block.children[1].remove();"

/-- A preview of such a block. -/
def pickOrder : GenerationOrder := { blockName := "news", code := some pickCode, preview := true }

theorem analyze_pickCode :
    ∃ r, analyze pickCode = .ok r ∧ r.expectedStructure.columns = 2 := by
  have hcolumns : (analyze pickCode).toOption.map (·.expectedStructure.columns) = some 2 := by
    decide +kernel
  cases hr : analyze pickCode with
  | error e =>
    rw [hr] at hcolumns
    cases hcolumns
  | ok r =>
    rw [hr] at hcolumns
    exact ⟨r, rfl, Option.some.inj hcolumns⟩

theorem preview_agrees_with_analysis_pickOrder :
    pickOrder.code = some pickCode ∧ pickOrder.preview = true
      ∧ pickOrder.wishes.isTruthy = false
      ∧ (∃ c ∈ pickOrder.blockName.toList, Text.isSpace c = false)
      ∧ ∃ a preview,
        (analyzeBlock {} none (some pickCode)).runIn .offline .emptyProject = (.ok a, .emptyProject)
        ∧ pickOrder.run.runIn .offline .emptyProject = (preview, .emptyProject)
        ∧ EndAlike (.ok a) preview := by
  have hname : ∃ c ∈ pickOrder.blockName.toList, Text.isSpace c = false :=
    ⟨'n', by decide, by decide⟩
  obtain ⟨r, hr, htwo⟩ := analyze_pickCode
  obtain ⟨analysis, preview, hanalysis, hpreview, halike, -⟩ : ∃ analysis preview,
      (analyzeBlock {} none (some pickCode)).runIn .offline .emptyProject
        = (analysis, .emptyProject)
      ∧ pickOrder.run.runIn .offline .emptyProject = (preview, .emptyProject) ∧ _ ∧ _ :=
    preview_agrees_with_analysis rfl rfl rfl hname {} none
  have hfew : ∀ r', analyze pickCode = .ok r' →
      r'.expectedStructure.columns ≠ Nat.pow 10 Text.maxDigits := by
    intro r' hr' hmany
    have hsame : r' = r := Except.ok.inj (hr'.symm.trans hr)
    have hpow : ∀ {n}, 1 ≤ n → Nat.pow 10 1 ≤ Nat.pow 10 n := Nat.pow_le_pow_right (by decide)
    have hten : Nat.pow 10 1 ≤ Nat.pow 10 Text.maxDigits := hpow (by decide)
    rw [hsame, htwo] at hmany
    rw [← hmany] at hten
    exact absurd hten (by decide)
  have hend := halike hfew
  rw [runIn_analyzeBlock_code, BlockAnalysis.ofCode, hr] at hanalysis
  cases hanalysis
  refine ⟨rfl, rfl, rfl, hname, _, preview, ?_, hpreview, hend⟩
  rw [runIn_analyzeBlock_code, BlockAnalysis.ofCode, hr]
  rfl

/-- A comment with an index of as many nines as there may be digits. -/
def ninesCode : String :=
  String.ofList (Analysis.indexComment (List.replicate Text.maxDigits '9'))

/-- The analysis of such a comment succeeds, and its preview does not. -/
theorem preview_fails_ninesCode :
    (∃ a, (analyzeBlock {} none (some ninesCode)).runIn .offline .emptyProject
        = (.ok a, .emptyProject))
      ∧ ∃ e, ({ pickOrder with code := some ninesCode } : GenerationOrder).run.runIn .offline
        .emptyProject = (.error e, .emptyProject) := by
  have hdecimal : ∀ c ∈ List.replicate Text.maxDigits '9', Text.isDecimal c = true := by
    intro c hc
    rw [List.eq_of_mem_replicate hc]
    decide
  have hne : List.replicate Text.maxDigits '9' ≠ [] :=
    fun hnil => absurd ((List.replicate_eq_nil_iff _).mp hnil) (by decide)
  have hshort : (List.replicate Text.maxDigits '9').length ≤ Text.maxDigits :=
    Nat.le_of_eq List.length_replicate
  obtain ⟨r, hsource, hcolumns⟩ :=
    Analysis.exists_analyzeSource_indexComment hne hdecimal hshort
  rw [Text.digitsValue_nines] at hcolumns
  have hanalyze : analyze ninesCode = .ok r := by
    rw [analyze_eq_analyzeSource, ninesCode, String.toList_ofList, hsource]
  have hblank : Text.isBlank pickOrder.blockName.toList = false := by decide
  obtain ⟨⟨a, hmade⟩, fault, hfails⟩ :=
    told_without_schema hanalyze hcolumns hblank (show pickOrder.wishes.isTruthy = false from rfl)
      none
  refine ⟨⟨a, ?_⟩, .generation (.synthesis (.selector fault)), ?_⟩
  · rw [runIn_analyzeBlock_code, hmade]
    rfl
  · exact (GenerationOrder.runIn_preview rfl rfl).trans (by rw [hfails]; rfl)

/-! ## Wishes -/

/-- A value, where `null` is spelled as an object that says nothing. -/
def Json.spelledOut (v : Json) : Json := if v.isNull then .object [] else v

namespace Synthesis

/-- What counts of the author's wishes is what they say for each field. -/
theorem synthesize_congr {overrides overrides' : List (Option FieldOverride)}
    (hlabel : ∀ i, wish overrides i (·.label) = wish overrides' i (·.label))
    (hcomponent : ∀ i, wish overrides i (·.component) = wish overrides' i (·.component))
    (name : String) (r : AnalysisRecord) :
    synthesize name r overrides = synthesize name r overrides' := by
  have hfield : field overrides = field overrides' := by
    funext i
    rw [field, field, hlabel i, hcomponent i]
  rw [synthesize, synthesize, model, model, hfield]

/-- An override that says nothing is as good as none. -/
theorem wish_spelledOut (part : FieldOverride → Option String) (hpart : part {} = none)
    (overrides : List (Option FieldOverride)) (i : Nat) :
    wish ((overrides.map (·.getD {})).map some) i part = wish overrides i part := by
  have hentry : (((overrides.map (·.getD {})).map some)[i]?).join.bind part
      = (overrides[i]?).join.bind part := by
    rw [List.map_map, List.getElem?_map]
    rcases overrides[i]? with _ | _ | o
    · rfl
    · exact hpart
    · rfl
  rw [wish, wish, hentry]

end Synthesis

variable {entries : List Json} {overrides : List (Option FieldOverride)}

/-- Overrides that are read one by one, each with its own entry. -/
theorem readOverrides_cons_eq_ok {v : Json} (h : readOverrides (v :: entries) = .ok overrides) :
    ∃ first rest, overrides = first :: rest ∧ readOverrides entries = .ok rest
      ∧ (v.isNull = true ∧ first = none
        ∨ v.isNull = false ∧ ∃ o, FieldOverride.shape v = .ok o ∧ first = some o) := by
  unfold readOverrides at h
  rw [List.mapM_cons] at h
  obtain ⟨first, hfirst, h⟩ := bind_eq_ok_iff.mp h
  obtain ⟨rest, hrest, h⟩ := bind_eq_ok_iff.mp h
  cases h
  refine ⟨first, rest, rfl, hrest, ?_⟩
  cases hnull : v.isNull with
  | true =>
    rw [hnull] at hfirst
    cases hfirst
    exact .inl ⟨rfl, rfl⟩
  | false =>
    rw [hnull] at hfirst
    cases hshape : FieldOverride.shape v with
    | ok o =>
      simp only [hshape] at hfirst
      cases hfirst
      exact .inr ⟨rfl, o, rfl, rfl⟩
    | issues found =>
      simp only [hshape] at hfirst
      cases hfirst

/-- Overrides that are read can be spelled out for the preview. -/
theorem readWishes_spelledOut (h : readOverrides entries = .ok overrides) :
    readWishes (entries.map Json.spelledOut) = .ok (overrides.map (·.getD {})) := by
  induction entries generalizing overrides with
  | nil =>
    cases h
    rfl
  | cons v entries ih =>
    obtain ⟨first, rest, rfl, hrest, hfirst⟩ := readOverrides_cons_eq_ok h
    have hread : FieldOverride.shape v.spelledOut = .ok (first.getD {}) := by
      rcases hfirst with ⟨hnull, rfl⟩ | ⟨hnull, o, hshape, rfl⟩
      · rw [Json.spelledOut, hnull]
        rfl
      · rw [Json.spelledOut, hnull]
        exact hshape
    have htail := ih hrest
    unfold readWishes at htail ⊢
    rw [List.map_cons, List.mapM_cons, htail, hread]
    rfl

/-- A preview takes no `null`, though synthesis does. -/
theorem readWishes_null (h : readOverrides entries = .ok overrides)
    (hnull : ∃ v ∈ entries, v.isNull = true) :
    readWishes entries = .error (.wish [⟨[], .notAnObject⟩]) := by
  induction entries generalizing overrides with
  | nil =>
    obtain ⟨v, hv, -⟩ := hnull
    cases hv
  | cons v entries ih =>
    obtain ⟨first, rest, -, hrest, hfirst⟩ := readOverrides_cons_eq_ok h
    unfold readWishes
    rw [List.mapM_cons]
    rcases hfirst with ⟨hv, -⟩ | ⟨hv, o, hshape, -⟩
    · cases v <;> cases hv
      rfl
    · have hlater : ∃ w ∈ entries, w.isNull = true := by
        obtain ⟨w, hw, hwnull⟩ := hnull
        rcases List.mem_cons.mp hw with rfl | hw
        · rw [hv] at hwnull
          cases hwnull
        · exact ⟨w, hw, hwnull⟩
      have htail := ih hrest hlater
      unfold readWishes at htail
      rw [hshape, htail]
      rfl

theorem synthesizeFrom_eq_ok {name : String} {schema : AuthoringSchema}
    (h : synthesizeFrom name r entries = .ok schema) :
    ∃ overrides, readOverrides entries = .ok overrides
      ∧ synthesize name r overrides = .ok schema := by
  unfold synthesizeFrom at h
  split at h
  · cases h
  · obtain ⟨overrides, hread, hschema⟩ := bind_eq_ok_iff.mp h
    exact ⟨overrides, hread, mapError_eq_ok_iff.mp hschema⟩

/-- A preview ends with this schema for this record. -/
def Shows (o : GenerationOrder) (r : AnalysisRecord) (schema : AuthoringSchema) : Prop :=
  ∀ around s, ∃ g, o.run.runIn around s = (.ok g, s)
    ∧ g.block.record = r ∧ g.toJson.get "json_config" = schema.toJson

theorem shows_spelledOut {schema : AuthoringSchema} (hcode : o.code = some code)
    (hpreview : o.preview = true) (hanalyze : analyze code = .ok r)
    (hschema : synthesizeFrom o.blockName r entries = .ok schema)
    (hwishes : o.wishes = .array (entries.map Json.spelledOut)) : Shows o r schema := by
  obtain ⟨overrides, hread, hmade⟩ := synthesizeFrom_eq_ok hschema
  have hsame := Synthesis.synthesize_congr
    (fun i => Synthesis.wish_spelledOut (·.label) rfl overrides i)
    (fun i => Synthesis.wish_spelledOut (·.component) rfl overrides i) o.blockName r
  have hblock := GeneratedBlock.ofCode_of_made hanalyze (Json.iterated_array _)
    (readWishes_spelledOut hread) (hsame.trans hmade)
  intro around s
  refine ⟨⟨⟨o.blockName, r, schema⟩, none⟩, ?_, rfl, rfl⟩
  rw [GenerationOrder.runIn_preview hcode hpreview, hwishes, hblock]
  rfl

/-- **Wishes mean the same in a preview and in synthesis**, as long as none of them is `null`. For
every list of entries that synthesis accepts, a preview shows the schema that synthesis gives. Only
an entry that is `null` stops the preview, and what synthesis makes of such a list is shown once
each `null` in it is spelled as an empty object. -/
theorem preview_shows_synthesis {schema : AuthoringSchema} (hcode : o.code = some code)
    (hpreview : o.preview = true) (hanalyze : analyze code = .ok r)
    (hwishes : o.wishes = .array entries)
    (hschema : synthesizeFrom o.blockName r entries = .ok schema) :
    ((∀ v ∈ entries, v.isNull = false) → Shows o r schema)
    ∧ ((∃ v ∈ entries, v.isNull = true) →
      (∀ around s, o.run.runIn around s
        = (.error (.generation (.wish [⟨[], .notAnObject⟩])), s))
      ∧ Shows { o with wishes := .array (entries.map Json.spelledOut) } r schema) := by
  refine ⟨fun hall => ?_, fun hnull => ⟨fun around s => ?_, ?_⟩⟩
  · have hkept : entries.map Json.spelledOut = entries := by
      refine (List.map_congr_left fun v hv => ?_).trans (List.map_id entries)
      rw [Json.spelledOut, hall v hv]
      rfl
    exact shows_spelledOut hcode hpreview hanalyze hschema (hkept.symm ▸ hwishes)
  · obtain ⟨overrides, hread, -⟩ := synthesizeFrom_eq_ok hschema
    have hrefused : GeneratedBlock.ofCode o.blockName code (.array entries) = _ :=
      GeneratedBlock.ofCode_of_unread hanalyze (Json.iterated_array entries)
        (readWishes_null hread hnull)
    rw [GenerationOrder.runIn_preview hcode hpreview, hwishes, hrefused]
    rfl
  · exact shows_spelledOut (o := { o with wishes := .array (entries.map Json.spelledOut) })
      hcode hpreview hanalyze hschema rfl

/-- A wish for the second field only. -/
def secondWish : List Json := [.null, .object [("label", .string "Füllung")]]

theorem preview_shows_synthesis_secondWish : ∃ r schema,
    analyze pickCode = .ok r ∧ synthesizeFrom "news" r secondWish = .ok schema
      ∧ (∃ v ∈ secondWish, v.isNull = true)
      ∧ (∀ around s,
        ({ pickOrder with wishes := .array secondWish } : GenerationOrder).run.runIn around s
          = (.error (.generation (.wish [⟨[], .notAnObject⟩])), s))
      ∧ Shows { pickOrder with wishes := .array (secondWish.map Json.spelledOut) } r schema := by
  obtain ⟨r, hr, htwo⟩ := analyze_pickCode
  have hread : readOverrides secondWish = .ok [none, some ⟨some "Füllung", none⟩] := by rfl
  obtain ⟨schema, hmade⟩ : ∃ schema,
      synthesize "news" r [none, some ⟨some "Füllung", none⟩] = .ok schema := by
    refine ⟨_, Synthesis.synthesize_eq_ok (by decide) ?_⟩
    rw [htwo]
    decide
  have hschema : synthesizeFrom "news" r secondWish = .ok schema := by
    rw [synthesizeFrom, if_neg (by decide), hread]
    exact congrArg (Except.mapError GenerationError.synthesis) hmade
  have hnull : ∃ v ∈ secondWish, v.isNull = true := ⟨.null, List.mem_cons_self, rfl⟩
  obtain ⟨-, hrefused⟩ := preview_shows_synthesis
    (o := { pickOrder with wishes := .array secondWish }) rfl rfl hr rfl hschema
  obtain ⟨hfails, hshows⟩ := hrefused hnull
  exact ⟨r, schema, hr, hschema, hnull, hfails, hshows⟩

/-- Synthesis accepts a wish that a preview refuses. -/
theorem preview_refuses_accepted_wish : ∃ r schema,
    analyze "" = .ok r ∧ synthesizeFrom "hero" r [.null] = .ok schema
      ∧ ({ blockName := "hero", code := some "", preview := true, wishes := .array [.null] } :
          GenerationOrder).run.runIn .offline .emptyProject
        = (.error (.generation (.wish [⟨[], .notAnObject⟩])), .emptyProject) := by
  have hr : analyze "" = .ok (Analysis.recordOf [] []) := by decide +kernel
  refine ⟨_, _, hr, rfl, ?_⟩
  rw [GenerationOrder.runIn_preview rfl rfl]
  rfl

end BlockAuthoring
