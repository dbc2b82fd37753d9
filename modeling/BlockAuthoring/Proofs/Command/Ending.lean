import BlockAuthoring.Command.Program
import BlockAuthoring.Proofs.Command.Printing
import BlockAuthoring.Proofs.Tool.Failing
import BlockAuthoring.Proofs.Tool.Repeating

/-!
# How commands end

The commands on blocks deal with the failures of their tools in different ways: some with all of
them, one only with what the system refuses. Each deals with all that its tool can fail with, but for
a null byte in the path of the models, and what a command then does is to log an error. Nobody deals
with what cannot be printed.
-/

namespace BlockAuthoring

/-- How a command ends that has logged these lines. No failure breaks it off. -/
inductive Outcome.Ends : Outcome → List LogLine → Prop where
  /-- All went well, and no line tells of an error. -/
  | done {lines : List LogLine} (output : String) (calm : ∀ line ∈ lines, line.severity ≠ .error) :
      Ends { exit := 0, output, escaped := none } lines
  /-- A tool has failed or found something wrong, and a line tells of it. -/
  | failed {lines : List LogLine} (told : ∃ line ∈ lines, line.severity = .error) :
      Ends { exit := 1, escaped := none } lines
  /-- The command line cannot be read. -/
  | misused {lines : List LogLine} (program : String) (e : UsageError)
      (calm : ∀ line ∈ lines, line.severity ≠ .error) :
      Ends { exit := 2, complaint := some (Usage.complaint program e), escaped := none } lines

/-- Lines before the others change nothing, if they tell of no error. -/
theorem Outcome.Ends.after {outcome : Outcome} {before lines : List LogLine}
    (hbefore : ∀ line ∈ before, line.severity ≠ .error) (h : outcome.Ends lines) :
    outcome.Ends (before ++ lines) := by
  cases h with
  | done output hcalm => exact .done output (List.forall_mem_append.mpr ⟨hbefore, hcalm⟩)
  | failed htold =>
    obtain ⟨line, hline, herror⟩ := htold
    exact .failed ⟨line, List.mem_append_right before hline, herror⟩
  | misused program e hcalm =>
    exact .misused program e (List.forall_mem_append.mpr ⟨hbefore, hcalm⟩)

namespace Run

variable {α : Type} {around : Surroundings} {s : Session}

/-- Started in this session, the command ends. -/
def EndsFrom (around : Surroundings) (s : Session) (x : Run Outcome) : Prop :=
  ∃ lines, ((x.run around).run s).2.log = s.log ++ lines ∧ ((x.run around).run s).1.Ends lines

/-! ## Ends -/

theorem ends_done (output : String) : EndsFrom around s (pure { exit := 0, output }) :=
  ⟨[], (List.append_nil s.log).symm, .done output nofun⟩

/-- Texts that the console has codes for are printed. -/
theorem ends_print {texts : List String} (h : ∀ text ∈ texts, around.console.Encodes text.toList) :
    EndsFrom around s (print (texts.map .ok)) := by
  show EndsFrom around s (pure (.printing around.console "" (texts.map .ok)))
  rw [Outcome.printing_map_ok h]
  exact ends_done _

theorem ends_misuse (program : String) (e : UsageError) :
    EndsFrom around s (pure (misuse program e)) :=
  ⟨[], (List.append_nil s.log).symm, .misused program e nofun⟩

theorem ends_fail (message : String) : EndsFrom around s (fail message) :=
  ⟨[⟨logger, .error, message⟩], rfl, .failed ⟨_, List.mem_singleton_self _, rfl⟩⟩

theorem ends_failOf {kinds : List FailureKind} {e : Failure} (h : kinds.contains e.kind = true)
    (intro : String) : EndsFrom around s (failOf kinds intro e) := by
  rw [failOf, if_pos h]
  exact ends_fail _

/-! ## Steps before the end -/

theorem EndsFrom.after {x : Run α} {f : α → Run Outcome}
    (hcalm : s.NoErrorUntil ((x.run around).run s).2)
    (h : EndsFrom around ((x.run around).run s).2 (f ((x.run around).run s).1)) :
    EndsFrom around s (x >>= f) := by
  obtain ⟨before, hbefore, hcalm⟩ := hcalm
  obtain ⟨lines, hlines, hends⟩ := h
  refine ⟨before ++ lines, ?_, hends.after hcalm⟩
  rw [← List.append_assoc, ← hbefore]
  exact hlines

/-- A tool may fail in some ways only. The command ends if it ends in each of these cases, and
behind whatever the tool gives. -/
theorem ends_attempt {act : Act α} {P : Failure → Prop} {f : Except Failure α → Run Outcome}
    (hact : s.NoErrorUntil (act.runIn around s).2 ∧ ∀ e, (act.runIn around s).1 = .error e → P e)
    (hok : ∀ a s', act.runIn around s = (.ok a, s') → EndsFrom around s' (f (.ok a)))
    (herror : ∀ e s', P e → EndsFrom around s' (f (.error e))) :
    EndsFrom around s (attempt act >>= f) := by
  obtain ⟨hcalm, hcause⟩ := hact
  refine EndsFrom.after hcalm ?_
  show EndsFrom around (act.runIn around s).2 (f (act.runIn around s).1)
  cases hrun : act.runIn around s with
  | mk result s' =>
    cases result with
    | ok a => exact hok a s' hrun
    | error e => exact herror e s' (hcause e (congrArg Prod.fst hrun))

theorem noErrorUntil_log {severity : Severity} (h : severity ≠ .error) (message logger : String) :
    s.NoErrorUntil (((log severity message logger).run around).run s).2 := by
  refine ⟨[⟨logger, severity, message⟩], rfl, fun line hline => ?_⟩
  rw [List.mem_singleton.mp hline]
  exact h

theorem log_logAll (severity : Severity) (messages : List String) :
    (((logAll severity messages).run around).run s).2.log
      = s.log ++ messages.map (⟨logger, severity, ·⟩) := by
  induction messages generalizing s with
  | nil => exact (List.append_nil _).symm
  | cons message messages ih =>
    have hrest : (((logAll severity (message :: messages)).run around).run s).2.log
        = s.log ++ [⟨logger, severity, message⟩] ++ messages.map (⟨logger, severity, ·⟩) := ih
    rw [hrest, List.append_assoc]
    rfl

theorem noErrorUntil_logAll {severity : Severity} (h : severity ≠ .error)
    (messages : List String) :
    s.NoErrorUntil (((logAll severity messages).run around).run s).2 :=
  ⟨_, log_logAll severity messages, List.forall_mem_map.mpr fun _ _ => h⟩

theorem ends_withUsage {go : Parsed → Run Outcome} (u : Usage) (args : List String)
    (h : ∀ p, u.parse args = .ok p → EndsFrom around s (go p)) :
    EndsFrom around s (withUsage u args go) := by
  unfold withUsage
  split
  · rename_i p hp
    exact h p hp
  · exact ends_done _
  · exact ends_misuse _ _

end Run

namespace Command

open Act
open Run (EndsFrom ends_done ends_print ends_misuse ends_fail ends_failOf ends_attempt ends_withUsage
  noErrorUntil_log noErrorUntil_logAll log_logAll)

variable {around : Surroundings} {s s' : Session}

/-! ## What is found -/

/-- The script that a command comes upon. -/
inductive ReadsScript (around : Surroundings) (s : Session) (args : List String) :
    String → String → Prop where
  | analyze {p : Parsed} {code : Option String} {text : String} {s₁ s₂ : Session}
      (parsed : analyzeUsage.parse args = .ok p)
      (named : (readNamed p "--file").runIn around s = (.ok code, s₁))
      (meant : (meantCode (place p) (p.words.head?.getD "") code).runIn around s₁
        = (.ok text, s₂)) : ReadsScript around s args "analyze" text
  | generate {p : Parsed} {text : String} {s' : Session}
      (parsed : generateUsage.parse args = .ok p)
      (meant : (meantCode (place p) (p.words.headD "") none).runIn around s = (.ok text, s')) :
      ReadsScript around s args "generate" text

/-- What a command comes upon can be printed, and no null byte stands in the path that it writes
to. -/
structure Presentable (around : Surroundings) (s : Session) (command : String)
    (args : List String) : Prop where
  /-- The blocks of a repository have texts for names. -/
  names : command = "list" → ∀ p l s', listUsage.parse args = .ok p →
    (listBlocks (place p)).runIn around s = (.ok l, s') →
    (place p).repository.isTruthy = true → ∀ b ∈ l.blocks, ∃ name, b.name = .string name
  /-- The console has codes for where blocks come from and for their names. -/
  encoded : command = "list" → ∀ p l s', listUsage.parse args = .ok p →
    (listBlocks (place p)).runIn around s = (.ok l, s') →
    around.console.Encodes l.source.toList
      ∧ ∀ b ∈ l.blocks, ∀ name, b.name = .string name → around.console.Encodes name.toList
  /-- Index literals have fewer digits than are converted. -/
  scripts : ∀ text, ReadsScript around s args command text → Analysis.ShortIndices text.toList
  models : command = "base-configs" → ∀ p, baseConfigsUsage.parse args = .ok p →
    (modelsPath around.environment (.ofString (project p))).holdsNull = false

/-! ## Listing -/

/-- The blocks of a folder have texts for names. -/
theorem name_of_listBlocks {place : BlockPlace} {l : BlockListing}
    (h : (listBlocks place).runIn around s = (.ok l, s'))
    (hfolder : place.repository.isTruthy = false) :
    ∀ b ∈ l.blocks, ∃ name, b.name = .string name := by
  obtain ⟨source, s₁, hresolve, hlisted⟩ := Act.bind_eq_ok_iff.mp h
  obtain ⟨blocks, s₂, hlist, hresult⟩ := Act.bind_eq_ok_iff.mp hlisted
  obtain ⟨rfl, -⟩ := pure_eq_ok_iff.mp hresult
  rw [BlockSource.runIn_resolve, BlockSource.ofPlace, if_neg (by simp [hfolder])] at hresolve
  cases hresolve
  rw [BlockSource.runIn_list_folder] at hlist
  intro b hb
  obtain ⟨name, rfl⟩ :=
    BlockFolder.eq_info_of_mem_list (mapError_eq_ok_iff.mp (congrArg Prod.fst hlist)) hb
  exact ⟨name, rfl⟩

theorem ends_runList {args : List String} (hshown : Presentable around s "list" args) :
    EndsFrom around s (runList args) := by
  refine ends_withUsage _ _ fun p hp =>
    ends_attempt (calm_listBlocks _ around s) (fun l s' hl => ?_) fun e s' _ => ends_fail _
  have hnames : ∀ b ∈ l.blocks, ∃ name, b.name = .string name := by
    cases hkind : (place p).repository.isTruthy with
    | true => exact hshown.names rfl p l s' hp hl hkind
    | false => exact name_of_listBlocks hl hkind
  obtain ⟨hsource, hencoded⟩ := hshown.encoded rfl p l s' hp hl
  obtain ⟨texts, htexts, htextsEncoded⟩ := exists_listingLines hsource fun b hb => by
    obtain ⟨name, hname⟩ := hnames b hb
    exact ⟨name, hname, hencoded b hb name hname⟩
  dsimp only
  rw [htexts]
  exact ends_print htextsEncoded

/-! ## Analyzing -/

theorem calm_readNamed (p : Parsed) (option : String) : Calm (readNamed p option) := by
  unfold readNamed
  split
  · exact (keeps_readText (fun _ => trivial) fun _ => trivial).bind fun _ => keeps_pure _
  · exact keeps_pure _

/-- Reading a file leaves the session as it was. -/
theorem session_of_readNamed {p : Parsed} {option : String} {text? : Option String}
    (h : (readNamed p option).runIn around s = (.ok text?, s')) : s' = s := by
  unfold readNamed at h
  split at h
  · obtain ⟨text, s₁, hread, hresult⟩ := Act.bind_eq_ok_iff.mp h
    obtain ⟨rfl, -⟩ := Act.readText_eq_ok hread
    exact (pure_eq_ok_iff.mp hresult).2.symm
  · exact (pure_eq_ok_iff.mp h).2.symm

/-- A value whose numbers are not too long is printed: its text is ASCII. -/
theorem ends_printJson {v : Json} (h : v.isWritable = true) :
    EndsFrom around s (printJson v) := by
  rw [printJson, if_pos h]
  have hencodes : ∀ text ∈ [v.pretty], around.console.Encodes text.toList :=
    List.forall_mem_singleton.mpr (encodes_pretty v)
  exact @ends_print around s [v.pretty] hencodes

theorem writable_of_analysisOf {args : List String} (hshown : Presentable around s "analyze" args)
    {p : Parsed} (hp : analyzeUsage.parse args = .ok p) {a : BlockAnalysis}
    (h : (analysisOf p p.words.head?).runIn around s = (.ok a, s')) : a.record.Writable := by
  obtain ⟨code, s₁, hnamed, hanalyze⟩ := Act.bind_eq_ok_iff.mp h
  unfold analyzeBlock at hanalyze
  dsimp only at hanalyze
  split at hanalyze
  · obtain ⟨_, _, hthrow, -⟩ := Act.bind_eq_ok_iff.mp hanalyze
    exact absurd hthrow throw_ne_ok
  · obtain ⟨text, s₂, hmeant, hresult⟩ := Act.bind_eq_ok_iff.mp hanalyze
    have hshort := hshown.scripts text (.analyze hp hnamed hmeant)
    have hmade := (ofExcept_eq_ok_iff.mp hresult).1
    rw [BlockAnalysis.ofCode] at hmade
    cases hrecord : analyze text with
    | error e =>
      rw [hrecord] at hmade
      cases hmade
    | ok r =>
      rw [hrecord] at hmade
      cases hmade
      exact writable_of_analyze hshort hrecord

theorem ends_runAnalyze {args : List String} (hshown : Presentable around s "analyze" args) :
    EndsFrom around s (runAnalyze args) := by
  refine ends_withUsage _ _ fun p hp => ?_
  dsimp only
  split
  · exact ends_misuse _ _
  · have hcalm : Calm (analysisOf p p.words.head?) :=
      (calm_readNamed p _).bind fun code => calm_analyzeBlock _ _ code
    refine ends_attempt (hcalm around s) (fun a s' ha => ?_) fun e s' _ => ends_fail _
    exact ends_printJson (writable_of_analysisOf hshown hp ha).summary

/-! ## Generating -/

theorem calm_generationOf (p : Parsed) : Calm (generationOf p) := by
  have hwishes : Calm (readWishesFile p) := by
    refine (calm_readNamed p _).bind fun text => ?_
    cases text with
    | some text => exact keeps_ofExcept fun _ _ => trivial
    | none => exact keeps_pure _
  exact hwishes.bind fun wishes => GenerationOrder.calm_run _

theorem isWritable_of_generationOf {args : List String}
    (hshown : Presentable around s "generate" args) {p : Parsed}
    (hp : generateUsage.parse args = .ok p) {r : GenerationResult}
    (h : (generationOf p).runIn around s = (.ok r, s')) :
    r.block.schema.toJson.isWritable = true := by
  obtain ⟨wishes, s₁, hwishes, hrun⟩ := Act.bind_eq_ok_iff.mp h
  have hsame : s₁ = s := by
    obtain ⟨text, s₂, hnamed, hparse⟩ := Act.bind_eq_ok_iff.mp hwishes
    cases session_of_readNamed hnamed
    cases text with
    | none => exact (pure_eq_ok_iff.mp hparse).2.symm
    | some text => exact (ofExcept_eq_ok_iff.mp hparse).2.symm
  rw [hsame, GenerationOrder.run_of_code_none rfl] at hrun
  obtain ⟨code, s₂, hmeant, hmade⟩ := Act.bind_eq_ok_iff.mp hrun
  obtain ⟨hblock, -⟩ := GenerationOrder.made_of_run rfl hmade
  obtain ⟨hrecord, overrides, hschema⟩ := GeneratedBlock.parts_of_ofCode hblock
  have hwritable := writable_of_analyze (hshown.scripts code (.generate hp hmeant)) hrecord
  exact hwritable.synthesize hschema

theorem ends_runGenerate {args : List String} (hshown : Presentable around s "generate" args) :
    EndsFrom around s (runGenerate args) := by
  refine ends_withUsage _ _ fun p hp =>
    ends_attempt (calm_generationOf p around s) (fun r s' hr => ?_) fun e s' _ => ends_fail _
  refine EndsFrom.after (noErrorUntil_logAll (by decide) _) ?_
  cases r.file with
  | none => exact ends_printJson (isWritable_of_generationOf hshown hp hr)
  | some path => exact EndsFrom.after (noErrorUntil_logAll (by decide) _) (ends_done _)

/-! ## Writing what every project needs -/

theorem ends_runBaseConfigs {args : List String}
    (hshown : Presentable around s "base-configs" args) :
    EndsFrom around s (runBaseConfigs args) := by
  refine ends_withUsage _ _ fun p hp =>
    ends_attempt (writeBaseConfigs_fails (hshown.models rfl p hp) p.words s) (fun c s' _ => ?_)
      fun e s' he => ?_
  · exact EndsFrom.after (noErrorUntil_logAll (by decide) _) (ends_done _)
  · exact ends_failOf (by rw [he]; rfl) _

/-! ## Checking -/

/-- If errors are found, the verdict is an error too. -/
theorem ends_tell (r : CheckResult) : EndsFrom around s (tell r) := by
  unfold tell
  cases herrors : r.errors with
  | nil =>
    refine EndsFrom.after (.refl s) (EndsFrom.after (noErrorUntil_logAll (by decide) _) ?_)
    exact EndsFrom.after (noErrorUntil_log (by decide) _ _) (ends_done "")
  | cons message messages =>
    let told (severity : Severity) (messages : List String) : List LogLine :=
      messages.map (⟨Run.logger, severity, ·⟩)
    let verdict : LogLine := ⟨Run.logger, .error, r.verdicts.2⟩
    refine ⟨told .error (message :: messages) ++ told .warning r.warnings ++ [verdict], ?_,
      .failed ⟨verdict, List.mem_append_right _ (List.mem_singleton_self _), rfl⟩⟩
    show (((Run.logAll .warning r.warnings).run around).run
        (((Run.logAll .error (message :: messages)).run around).run s).2).2.log ++ [verdict] = _
    rw [log_logAll, log_logAll, List.append_assoc, List.append_assoc, List.append_assoc]

theorem ends_runCheck (u : Usage) (args : List String) {check : Parsed → Act CheckResult}
    (h : ∀ p, (check p).FailsOnly (·.kind ≠ .other)) : EndsFrom around s (runCheck u args check) := by
  unfold runCheck
  split
  · exact ends_done _
  · exact ends_misuse _ _
  · split
    · refine ends_attempt (h _ around s) (fun r s' _ => ends_tell r) fun e s' he => ends_failOf ?_ _
      cases hkind : e.kind with
      | system => rfl
      | value => rfl
      | other => exact absurd hkind he
    · exact ends_misuse _ _

theorem ends_runValidate {args : List String} (hargs : args ≠ []) :
    EndsFrom around s (runValidate args) := by
  have hschema (rest : List String) : EndsFrom around s (runSchemaCheck rest) :=
    ends_runCheck _ _ fun p => (failsOnly_checkSchema _ _).bind fun _ => keeps_pure _
  have hsetup (rest : List String) : EndsFrom around s (runSetupCheck rest) :=
    ends_runCheck _ _ fun p => (failsOnly_checkProject _).bind fun _ => keeps_pure _
  unfold runValidate
  split
  · exact absurd rfl hargs
  · exact hschema _
  · exact hsetup _
  · exact ends_done _
  · exact ends_done _
  · exact hschema _

/-- **Commands end.** Whatever the arguments of a command on blocks are, and whatever lies on the
disk and comes from the service: as long as what the command comes upon can be printed, no failure
breaks it off. It ends with zero and has logged no error, or with one and has logged an error, or with
two because its line cannot be read. Only where nothing is said of what to validate, help is printed
and the command ends with one, without a line of the log. -/
theorem command_ends {command : String}
    (hcommand : command ∈ ["list", "analyze", "generate", "base-configs", "validate"])
    (args : List String) (hshown : Presentable around s command args) :
    ∃ outcome s' lines, ((runProgram (command :: args)).run around).run s = (outcome, s')
      ∧ s'.log = s.log ++ lines
      ∧ (outcome.Ends lines
        ∨ command = "validate" ∧ args = [] ∧ lines = []
          ∧ outcome = { exit := 1, output := validateHelp }) := by
  suffices h : EndsFrom around s (runProgram (command :: args)) ∨ command = "validate" ∧ args = [] by
    rcases h with ⟨lines, hlines, hends⟩ | ⟨rfl, rfl⟩
    · exact ⟨_, _, lines, rfl, hlines, .inl hends⟩
    · exact ⟨_, _, [], rfl, (List.append_nil _).symm, .inr ⟨rfl, rfl, rfl, rfl⟩⟩
  simp only [List.mem_cons, List.not_mem_nil, or_false] at hcommand
  rcases hcommand with rfl | rfl | rfl | rfl | rfl
  · exact .inl (ends_runList hshown)
  · exact .inl (ends_runAnalyze hshown)
  · exact .inl (ends_runGenerate hshown)
  · exact .inl (ends_runBaseConfigs hshown)
  · by_cases hargs : args = []
    · exact .inr ⟨rfl, hargs⟩
    · exact .inl (ends_runValidate hargs)

/-- A project whose only block has a letter beyond ASCII in its name. -/
def Session.crepe : Session :=
  { disk := ⟨[(["work"], .folder), (["work", "blocks"], .folder),
      (["work", "blocks", "crêpe"], .folder)], ["work"]⟩ }

/-- A console of ASCII, without a connection. -/
def plainTerminal : Surroundings := { Surroundings.offline with console := .ascii }

/-- Nothing is wrong with this project and these arguments but a letter in a name that the console
has no code for, and a null byte in the path of the project. -/
theorem commands_break_off :
    (((runProgram ["list"]).run plainTerminal).run Session.crepe).1
        = .brokenOff (.notPrintable ⟨"ascii", 4, ['ê'], "ordinal not in range(128)"⟩)
          "Local: blocks (1 blocks)\n"
      ∧ (((runProgram ["base-configs", "--project", "a\x00b"]).run .offline).run .emptyProject).1
        = .brokenOff .nullByte := by
  constructor <;> decide +kernel

theorem presentable_threeColumns : Presentable plainTerminal .threeColumns "list" [] where
  names := by
    intro _ p l s' hp _ hrepository
    have hline : listUsage.parse [] = .ok {} := by decide +kernel
    obtain rfl := Except.ok.inj (hline.symm.trans hp)
    exact absurd hrepository (by decide)
  encoded := by
    intro _ p l s' hp hl
    have hline : listUsage.parse [] = .ok {} := by decide +kernel
    obtain rfl := Except.ok.inj (hline.symm.trans hp)
    have hchecked : (((listBlocks (place {})).runIn plainTerminal .threeColumns).1.toOption.all
        fun l => l.source.toList.all plainTerminal.console.encodes
          && l.blocks.all fun b => b.isCalled "hero") = true := by decide +kernel
    rw [hl] at hchecked
    obtain ⟨hsource, hblocks⟩ := Bool.and_eq_true_iff.mp hchecked
    refine ⟨List.all_eq_true.mp hsource, fun b hb name hname => ?_⟩
    have hhero : b.isCalled "hero" = true := List.all_eq_true.mp hblocks b hb
    rw [BlockInfo.isCalled, hname] at hhero
    obtain rfl : name = "hero" := Option.some.inj (eq_of_beq hhero)
    exact Console.encodes_of_printed (.of_all (by decide))
  scripts := by
    intro text hreads
    generalize hcommand : "list" = command at hreads
    cases hreads with
    | analyze => exact absurd hcommand (by decide)
    | generate => exact absurd hcommand (by decide)
  models h := absurd h (by decide)

theorem command_ends_threeColumns :
    "list" ∈ ["list", "analyze", "generate", "base-configs", "validate"]
      ∧ Presentable plainTerminal .threeColumns "list" []
      ∧ ∃ outcome s' lines,
        ((runProgram ["list"]).run plainTerminal).run .threeColumns = (outcome, s')
          ∧ s'.log = Session.threeColumns.log ++ lines ∧ outcome.Ends lines ∧ outcome.exit = 0 := by
  have hcommand : "list" ∈ ["list", "analyze", "generate", "base-configs", "validate"] := by
    decide
  obtain ⟨outcome, s', lines, hrun, hlog, hends⟩ :=
    command_ends hcommand [] presentable_threeColumns
  have hexit : (((runProgram ["list"]).run plainTerminal).run .threeColumns).1.exit = 0 := by
    decide +kernel
  rw [hrun] at hexit
  rcases hends with hends | ⟨hvalidate, -⟩
  · exact ⟨hcommand, presentable_threeColumns, outcome, s', lines, hrun, hlog, hends, hexit⟩
  · exact absurd hvalidate (by decide)

/-- A service that lists a block without a name. -/
def nameless : Service := fun _ => .answer 200 "[\x7b\"type\": \"dir\", \"name\": null\x7d]"

/-- A name that is no text breaks a listing off. -/
example : (((runProgram ["list", "--github", "acme/site"]).run
    { environment := [], service := nameless }).run .emptyProject).1.escaped
      = some (.notFormatted "NoneType") := by decide +kernel

end Command

end BlockAuthoring
