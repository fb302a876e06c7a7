import ProgressActions.Proofs.Refusal
import ProgressActions.Proofs.Reports

/-!
# How the program ends

A command line that is accepted leads to one of four ends. Without a configuration there is no run. A
spec that does not stand for an action ends it before anything but logging is done. Where interrupts
cannot be handled, it ends once the signals of the program are blocked. Otherwise all records are moved,
and the exit status tells only whether errors were reported on the way, each of them about the labels of
a template.
-/

namespace ProgressActions

variable {μ : Type}

open Event

/-- The specs that the file of a run lists. -/
def Config.fileActions (read : FileReader) (home : String) (o : Options) : List String :=
  match path? read home o with
  | none => []
  | some path =>
    match readText read path with
    | .error _ => []
    | .ok text => (ofText? text).elim [] fun (c, _) ↦ c.actions

def Action.firstError? (specs : List String) : Option SpecError :=
  specs.findSome? fun spec ↦
    match parse spec with
    | .ok _ => none
    | .error cause => some cause

/-- Specs without an error all stand for actions. -/
theorem Action.map_parse_of_firstError? {specs : List String} (h : firstError? specs = none) :
    specs.map parse = (accepted specs).map .ok := by
  have haccepts : specs.filter accepts = specs := by
    refine List.filter_eq_self.2 fun spec hspec ↦ ?_
    have hnone := List.findSome?_eq_none_iff.1 h spec hspec
    unfold accepts
    cases hparse : parse spec with
    | ok action => rfl
    | error cause =>
      rw [hparse] at hnone
      cases hnone
  have hmap := map_parse_filter_accepts specs
  rwa [haccepts] at hmap

/-- The exit status tells whether any error was reported. -/
theorem Archive.exitCode_of_errors {a : Archive μ} {reports : List String}
    (h : a.errors = reports.length) : a.exitCode = if reports = [] then 0 else 2 := by
  rw [exitCode, h]
  cases reports with
  | nil => rfl
  | cons message rest => rfl

/-! ## Logging -/

/-- Between two worlds nothing happens but writes to the standard error. -/
def World.OnlyLogs (v w : World) : Prop :=
  ∃ notes, w.events = v.events ++ notes ∧ ∀ note ∈ notes, ∃ content, note = .write .stderr content

namespace World.OnlyLogs

variable {u v w : World}

theorem of_events (h : w.events = v.events) : v.OnlyLogs w := ⟨[], by simp [h], by simp⟩

theorem trans (hfirst : u.OnlyLogs v) (hsecond : v.OnlyLogs w) : u.OnlyLogs w := by
  obtain ⟨early, hbefore, hearly⟩ := hfirst
  obtain ⟨late, hafter, hlate⟩ := hsecond
  refine ⟨early ++ late, by rw [hafter, hbefore, List.append_assoc], fun note hnote ↦ ?_⟩
  exact (List.mem_append.1 hnote).elim (hearly note) (hlate note)

theorem write (w : World) (content : List UInt8) : w.OnlyLogs (w.write .stderr content).2 := by
  by_cases hcontent : content = []
  · rw [hcontent]
    exact of_events (write_nil w .stderr).2
  · rw [write_stderr hcontent]
    exact ⟨[.write .stderr content], events_record _ _, by simp⟩

theorem log (w : World) (moduleName message : String) : w.OnlyLogs (w.log moduleName message) :=
  write w _

theorem debug (w : World) (moduleName message : String) :
    w.OnlyLogs (w.debug moduleName message) := by
  unfold World.debug
  split
  · exact log w moduleName message
  · exact of_events rfl

theorem warnAbout (path : String) (keys : List String) (w : World) :
    w.OnlyLogs (Config.warnAbout path keys w) := by
  have hkeys (keys : List String) (v : World) : v.OnlyLogs (keys.foldl
      (fun w key ↦ (w.write .stderr (Text.bytes ("- " ++ key ++ "\n").toList)).2) v) := by
    induction keys generalizing v with
    | nil => exact of_events rfl
    | cons key rest ih => exact (write v _).trans (ih _)
  unfold Config.warnAbout
  split
  · exact of_events rfl
  · exact (log w "warning" _).trans (hkeys keys _)

/-- Loading a configuration does nothing but logging. -/
theorem load (read : FileReader) (home : String) (o : Options) (w : World) :
    w.OnlyLogs (Config.load read home o w).2 := by
  have hfile (path : String) : w.OnlyLogs (Config.ofFile read path w).2 := by
    unfold Config.ofFile
    split
    · exact of_events rfl
    · split
      · exact of_events rfl
      · exact (warnAbout path _ w).trans (debug _ "config" _)
  unfold Config.load
  split
  · exact of_events rfl
  · rename_i path _
    have hpath := hfile path
    split <;> rename_i hloaded <;> rw [hloaded] at hpath <;> exact hpath

/-- Whoever does not read the log sees no difference. -/
theorem selected_eq {kind : Event → Bool} (h : ∀ content, kind (.write .stderr content) = false)
    (hlogs : v.OnlyLogs w) : w.selected kind = v.selected kind := by
  obtain ⟨notes, hevents, hnotes⟩ := hlogs
  have hnone : notes.filter kind = [] := by
    refine List.filter_eq_nil_iff.2 fun note hnote ↦ ?_
    obtain ⟨content, rfl⟩ := hnotes note hnote
    exact Bool.eq_false_iff.1 (h content)
  simp [World.selected, hevents, hnone]

end World.OnlyLogs

/-- The specs of a run are those of its file and then those of its command line. -/
theorem Config.actions_of_load {read : FileReader} {home : String} {o : Options} {w : World}
    {c : Config} (h : (load read home o w).1 = .ok c) :
    c.actions = fileActions read home o ++ o.actions := by
  unfold load at h
  unfold fileActions
  cases hpath : path? read home o with
  | none =>
    rw [hpath] at h
    rw [(validate_eq_ok h).1]
    rfl
  | some path =>
    rw [hpath] at h
    unfold ofFile at h
    dsimp only at h ⊢
    cases htext : readText read path with
    | error cause =>
      rw [htext] at h
      cases h
    | ok text =>
      rw [htext] at h
      dsimp only at h ⊢
      cases hdecoded : ofText? text with
      | none =>
        rw [hdecoded] at h
        cases h
      | some decoded =>
        rw [hdecoded] at h
        rw [(validate_eq_ok h).1]
        rfl

namespace Run

/-! ## Compiling -/

/-- Whether an event is a line that an engine logs. -/
def IsEngineNote (event : Event) : Prop :=
  ∃ message, event = .write .stderr (Text.bytes (Log.line Session.engineModule message))

/-- A spec that is compiled leaves nothing but notes of the engine. -/
theorem events_compile (spec : String) (s : Session (Archive μ)) :
    ∃ notes, (s.compile spec).2.world.events = s.world.events ++ notes ∧
      ∀ note ∈ notes, IsEngineNote note := by
  unfold Session.compile
  cases s.engine.compile spec with
  | error cause => exact ⟨[], by simp, by simp⟩
  | ok engine =>
    refine ⟨_, World.events_debug s.world _ _, fun note hnote ↦ ?_⟩
    split at hnote
    · exact ⟨_, List.mem_singleton.1 hnote⟩
    · cases hnote

/-- Compiling stops at the first spec that does not stand for an action, and what the engine logs
about the others is all that happens. -/
theorem compileAll_of_firstError {specs : List String} {cause : SpecError} {s : Session (Archive μ)}
    (h : Action.firstError? specs = some cause) (hopen : s.engine.isSealed = false) :
    (compileAll specs s).1 = .error (.spec cause) ∧ (compileAll specs s).2.host = s.host ∧
      ∃ notes, (compileAll specs s).2.world.events = s.world.events ++ notes ∧
        ∀ note ∈ notes, IsEngineNote note := by
  induction specs generalizing s with
  | nil => cases h
  | cons spec rest ih =>
    cases hparse : Action.parse spec with
    | error first =>
      have hcause : first = cause := by simpa [Action.firstError?, hparse] using h
      rw [compileAll, Session.compile_of_parse_error hparse hopen, hcause]
      exact ⟨rfl, rfl, [], by simp, by simp⟩
    | ok action =>
      have hrest : Action.firstError? rest = some cause := by
        simpa [Action.firstError?, hparse] using h
      obtain ⟨hresult, hengine⟩ := Session.compile_of_parse hparse hopen
      have hstill : (s.compile spec).2.engine.isSealed = false := by
        rw [hengine]
        exact hopen
      have hstep : compileAll (spec :: rest) s = compileAll rest (s.compile spec).2 := by
        have hrun : s.compile spec = (.ok (), (s.compile spec).2) := Prod.ext hresult rfl
        rw [compileAll, hrun]
      obtain ⟨early, hbefore, hearly⟩ := events_compile spec s
      obtain ⟨hstop, hhost, late, hafter, hlate⟩ := ih hrest hstill
      rw [hstep]
      refine ⟨hstop, hhost.trans (Session.host_compile spec s), early ++ late, ?_, ?_⟩
      · rw [hafter, hbefore, List.append_assoc]
      · exact fun note hnote ↦ (List.mem_append.1 hnote).elim (hearly note) (hlate note)

/-! ## The ends of a run -/

variable [Launch.Place μ]

/-- A run that is refused for its first invalid spec. -/
structure Refusal (i : Invocation μ) (c : Config) (loaded : World) (cause : SpecError) : Prop where
  conclusion : i.run.conclusion = .refused (.spec cause)
  status : i.run.conclusion.status = 2
  /-- The message about the spec is the last of the log, after what the engine says about the specs
  before it. -/
  logged : ∃ notes,
    i.run.world.events =
      loaded.events ++ notes ++ [.write .stderr (Text.bytes (Log.line "error" cause.message))] ∧
      ∀ note ∈ notes, IsEngineNote note
  /-- From the first on, nothing has happened but logging. -/
  onlyLogs : i.world.OnlyLogs i.run.world
  /-- No record has been moved. -/
  host : (execute c i.interrupts (session i c loaded)).2.host = (session i c loaded).host

/-- Whether an event does no more than prepare a run: it is logged, or it blocks signals. -/
def isPreparation : Event → Bool
  | .write .stderr _ => true
  | .block _ => true
  | _ => false

/-- A run that gives up because interrupts cannot be handled. -/
structure Unguarded (i : Invocation μ) (c : Config) (loaded : World) (reason : String) : Prop where
  conclusion : i.run.conclusion = .unguarded reason
  status : i.run.conclusion.status = 1
  /-- The reason is the last that is said. -/
  told : ∃ early, i.run.world.events =
    early ++ [.write .stderr (Text.bytes (farewell (interruptComplaint reason)).toList)]
  /-- From the first on, nothing has happened but preparation. -/
  prepared : i.run.world.selected (!isPreparation ·) = i.world.selected (!isPreparation ·)
  /-- No record has been moved. -/
  host : (execute c i.interrupts (session i c loaded)).2.host = (session i c loaded).host

/-- A run that has moved all records, with the errors that were reported in it. -/
structure Completion (i : Invocation μ) (c : Config) (archive : Archive μ) (reports : List String) :
    Prop where
  conclusion : i.run.conclusion = .completed archive
  records : archive.records = c.blocks
  reported : i.run.world.selected isReport = i.world.selected isReport ++ reports.map .reportError
  status : i.run.conclusion.status = if reports = [] then 0 else 2
  /-- Each error is about the labels of a template in the program. So none is about a command that
  fails, a terminal that is missing or output that is lost. -/
  complaints : ∀ message ∈ reports, ∃ spec ∈ c.actions, ∃ action,
    Action.parse spec = .ok action ∧ message ∈ action.complaints

/-- The actions that the specs of a configuration stand for complain about what their own templates
give cause for. -/
theorem complaints_program {c : Config} {actions : List Action}
    (hparse : c.actions.map Action.parse = actions.map .ok) {message : String}
    (h : message ∈ actions.flatMap Action.complaints) :
    ∃ spec ∈ c.actions, ∃ action, Action.parse spec = .ok action ∧ message ∈ action.complaints := by
  obtain ⟨action, haction, hmessage⟩ := List.mem_flatMap.1 h
  have hmem : Except.ok action ∈ c.actions.map Action.parse := by
    rw [hparse]
    exact List.mem_map_of_mem haction
  obtain ⟨spec, hspec, heq⟩ := List.mem_map.1 hmem
  exact ⟨spec, hspec, action, heq, hmessage⟩

/-! ## From the command line to the end -/

def loading (i : Invocation μ) (o : Options) : Except ConfigError Config × World :=
  Config.load i.read i.home o { i.world with verbose := o.verbose }

omit [Launch.Place μ] in
/-- Until the configuration is loaded there is nothing but logging. -/
theorem onlyLogs_loading (i : Invocation μ) (o : Options) : i.world.OnlyLogs (loading i o).2 := by
  have hworld : i.world.OnlyLogs { i.world with verbose := o.verbose } := .of_events rfl
  exact hworld.trans (.load i.read i.home o _)

/-- Without a configuration there is no run. -/
theorem run_of_load_error {i : Invocation μ} {o : Options} {cause : ConfigError}
    (hparse : Options.parse i.arguments = .ok o) (hload : (loading i o).1 = .error cause) :
    i.run.conclusion = .unconfigured cause := by
  have hpair : loading i o = (.error cause, (loading i o).2) := Prod.ext hload rfl
  unfold loading at hpair
  rw [Invocation.run, hparse]
  dsimp only
  rw [hpair]

/-- A configuration that is loaded is executed. -/
theorem run_of_load {i : Invocation μ} {o : Options} {c : Config}
    (hparse : Options.parse i.arguments = .ok o) (hload : (loading i o).1 = .ok c) :
    i.run.conclusion = (execute c i.interrupts (session i c (loading i o).2)).1 ∧
      i.run.world = (execute c i.interrupts (session i c (loading i o).2)).2.world := by
  have hpair : loading i o = (.ok c, (loading i o).2) := Prod.ext hload rfl
  unfold loading at hpair ⊢
  rw [Invocation.run, hparse]
  dsimp only
  rw [hpair]
  exact ⟨rfl, rfl⟩

/-- The first invalid spec ends a run before anything but logging is done. -/
theorem refusal_of_firstError {i : Invocation μ} {o : Options} {c : Config} {cause : SpecError}
    (hparse : Options.parse i.arguments = .ok o) (hload : (loading i o).1 = .ok c)
    (hfirst : Action.firstError? c.actions = some cause) :
    Refusal i c (loading i o).2 cause := by
  obtain ⟨hconclusion, hworld⟩ := run_of_load hparse hload
  let first := session i c (loading i o).2
  obtain ⟨hresult, hhost, notes, hevents, hnotes⟩ :=
    compileAll_of_firstError (s := first) hfirst rfl
  have hexecute : execute c i.interrupts first = (.refused (.spec cause),
      (compileAll c.actions first).2.onWorld (·.log "error" cause.message)) := by
    have hpair : compileAll c.actions first = (.error (.spec cause), (compileAll c.actions first).2) :=
      Prod.ext hresult rfl
    rw [execute, hpair]
    rfl
  rw [hexecute] at hconclusion hworld
  have hlogged : i.run.world.events = (loading i o).2.events ++ notes ++
      [.write .stderr (Text.bytes (Log.line "error" cause.message))] := by
    calc i.run.world.events
        = ((compileAll c.actions first).2.world.log "error" cause.message).events :=
          congrArg World.events hworld
      _ = (compileAll c.actions first).2.world.events ++
            [.write .stderr (Text.bytes (Log.line "error" cause.message))] := by
          rw [World.log_eq, World.events_record]
      _ = _ := by rw [hevents]; rfl
  refine ⟨hconclusion, by rw [hconclusion]; rfl, ⟨notes, hlogged, hnotes⟩, ?_, ?_⟩
  · refine (onlyLogs_loading i o).trans ⟨_, hlogged.trans (List.append_assoc _ _ _), ?_⟩
    intro note hnote
    obtain hnote | hlast := List.mem_append.1 hnote
    · obtain ⟨message, hmessage⟩ := hnotes note hnote
      exact ⟨_, hmessage⟩
    · exact ⟨_, List.mem_singleton.1 hlast⟩
  · rw [hexecute]
    exact hhost

omit [Launch.Place μ] in
/-- What a run finds to do when its records are moved: its actions, or the bare echo. -/
theorem program_start {c : Config} {actions : List Action} (i : Invocation μ) (w : World)
    (hparse : c.actions.map Action.parse = actions.map .ok) :
    (start c i w).engine.program ⊆ actions ++ [.echo] := by
  have hcollected := collected_compileAll (i := i) (w := w) hparse
  have hprogram : (start c i w).engine.program = _ :=
    (Session.program_finishCompile hcollected.isSealed).2
  rw [hprogram, hcollected.program]
  split
  · exact List.Subset.refl _
  · exact List.subset_append_left actions [.echo]

/-- From its first session to its last, a run whose specs all parse reports complaints of its actions
only. -/
theorem reported_execute {c : Config} {actions : List Action} (i : Invocation μ) (w : World)
    (hparse : c.actions.map Action.parse = actions.map .ok)
    (hguard : i.interrupts = .ok ())
    (hcalm : (execute c i.interrupts (session i c w)).1 ≠ .crashed) :
    (session i c w).Reported (actions.flatMap Action.complaints)
      (execute c i.interrupts (session i c w)).2 := by
  let compiled := (compileAll c.actions (session i c w)).2
  have hcompiled : (session i c w).Reported (actions.flatMap Action.complaints) compiled :=
    .compileAll c.actions _
  have hready := hcompiled.trans (.finishCompile compiled)
  have hstart := (hready.trans (.debug "simulate" (announcement c) _)).trans
    (.of_kept (t := start c i w) rfl rfl)
  have hprogram : ∀ action ∈ (start c i w).engine.program,
      action.complaints ⊆ actions.flatMap Action.complaints := by
    intro action haction
    obtain hown | hecho := List.mem_append.1 (program_start i w hparse haction)
    · exact fun message hmessage ↦ List.mem_flatMap.2 ⟨action, hown, hmessage⟩
    · rw [List.mem_singleton.1 hecho]
      exact List.nil_subset _
  have hmoved := hstart.trans (.moveRecords (.ofMilliseconds c.delay) c.blocks hprogram)
  obtain ⟨-, hcompleted, -⟩ := completed_of_parse i w hparse hguard hcalm
  rw [hcompleted]
  exact (hmoved.trans (.finish _)).trans (.debug "simulate" _ _)

/-- With valid specs only, a run that cannot handle interrupts gives up before a record is moved. -/
theorem unguarded_of_error {i : Invocation μ} {o : Options} {c : Config} {reason : String}
    (hparse : Options.parse i.arguments = .ok o) (hload : (loading i o).1 = .ok c)
    (hvalid : Action.firstError? c.actions = none) (hguard : i.interrupts = .error reason) :
    Unguarded i c (loading i o).2 reason := by
  obtain ⟨hconclusion, hworld⟩ := run_of_load hparse hload
  let first := session i c (loading i o).2
  let ready := (compileAll c.actions first).2.finishCompile.2
  let line := Text.bytes (farewell (interruptComplaint reason)).toList
  have hexecute : execute c i.interrupts first =
      (.unguarded reason, ready.onWorld fun w ↦ (w.write .stderr line).2) := by
    obtain ⟨hproceed, -⟩ :=
      execute_eq_proceed i (loading i o).2 (Action.map_parse_of_firstError? hvalid)
    rw [hproceed, hguard]
    rfl
  have hready : Session.Quiet (!isPreparation ·) first ready :=
    (Session.Quiet.compileAll (fun _ ↦ rfl) c.actions first).trans
      (.finishCompile (fun _ ↦ rfl) (fun _ ↦ rfl) _)
  have hline : line ≠ [] := by
    have hhead : String.utf8EncodeChar 'E' ≠ [] := by decide
    simp [line, farewell, hhead]
  have htold : i.run.world = ready.world.record (.write .stderr line) := by
    rw [hworld, hexecute]
    exact congrArg Prod.snd (World.write_stderr hline ready.world)
  refine
    { conclusion := by rw [hconclusion, hexecute]
      status := by rw [hconclusion, hexecute]; rfl
      told := ⟨ready.world.events, by rw [htold, World.events_record]⟩
      prepared := ?_
      host := by rw [hexecute]; exact hready.host }
  calc i.run.world.selected (!isPreparation ·)
      = ready.world.selected (!isPreparation ·) := by
        rw [htold, World.selected_record_of_not rfl]
    _ = (loading i o).2.selected (!isPreparation ·) := hready.selected
    _ = i.world.selected (!isPreparation ·) := (onlyLogs_loading i o).selected_eq fun _ ↦ rfl

/-- With valid specs only, a run goes through all records, and errors are complaints about labels. -/
theorem completion_of_parse {i : Invocation μ} {o : Options} {c : Config}
    (hparse : Options.parse i.arguments = .ok o) (hload : (loading i o).1 = .ok c)
    (hvalid : Action.firstError? c.actions = none) (hguard : i.interrupts = .ok ())
    (hcalm : i.run.conclusion ≠ .crashed) :
    ∃ archive reports, Completion i c archive reports := by
  obtain ⟨hconclusion, hworld⟩ := run_of_load hparse hload
  have hspecs := Action.map_parse_of_firstError? hvalid
  rw [hconclusion] at hcalm
  obtain ⟨-, hexecute, hrecords⟩ := completed_of_parse i (loading i o).2 hspecs hguard hcalm
  obtain ⟨reports, hreports, hselected, herrors⟩ :=
    reported_execute i (loading i o).2 hspecs hguard hcalm
  have hloaded : (loading i o).2.selected isReport = i.world.selected isReport :=
    (onlyLogs_loading i o).selected_eq (calls_isReport.write .stderr)
  refine ⟨_, reports, hconclusion.trans (congrArg Prod.fst hexecute), hrecords, ?_, ?_,
    fun message hmessage ↦ ?_⟩
  · rw [hworld, ← hloaded]
    exact hselected
  · rw [hconclusion, hexecute]
    rw [hexecute] at herrors
    exact Archive.exitCode_of_errors (herrors.trans (Nat.zero_add _))
  · exact complaints_program hspecs (hreports hmessage)

/-! ## The outcome -/

/-- A run that is not completed has been refused, cannot handle interrupts, or has met with a fault. -/
theorem conclusion_of_load {i : Invocation μ} {o : Options} {c : Config}
    (hparse : Options.parse i.arguments = .ok o) (hload : (loading i o).1 = .ok c) :
    (∃ cause, i.run.conclusion = .refused (.spec cause)) ∨
      (∃ reason, i.run.conclusion = .unguarded reason) ∨
      i.run.conclusion = .crashed ∨ ∃ archive, i.run.conclusion = .completed archive := by
  cases hfirst : Action.firstError? c.actions with
  | some cause =>
    exact .inl ⟨cause, (refusal_of_firstError hparse hload hfirst).conclusion⟩
  | none =>
    cases hguard : i.interrupts with
    | error reason =>
      exact .inr (.inl ⟨reason, (unguarded_of_error hparse hload hfirst hguard).conclusion⟩)
    | ok _ =>
      refine .inr (.inr ?_)
      by_cases hcalm : i.run.conclusion = .crashed
      · exact .inl hcalm
      · obtain ⟨archive, _, hcompletion⟩ := completion_of_parse hparse hload hfirst hguard hcalm
        exact .inr ⟨archive, hcompletion.conclusion⟩

/-- How the program ends, for every command line that it accepts and everything that it finds. -/
theorem outcome_of_parse {i : Invocation μ} {o : Options}
    (hparse : Options.parse i.arguments = .ok o) :
    (∀ cause, (loading i o).1 = .error cause → i.run.conclusion.status = 1) ∧
      (∀ c, (loading i o).1 = .ok c →
        c.actions = Config.fileActions i.read i.home o ++ o.actions ∧
          (∀ cause, Action.firstError? c.actions = some cause →
            Refusal i c (loading i o).2 cause) ∧
          (Action.firstError? c.actions = none →
            (∀ reason, i.interrupts = .error reason → Unguarded i c (loading i o).2 reason) ∧
              (i.interrupts = .ok () → i.run.conclusion ≠ .crashed →
                ∃ archive reports, Completion i c archive reports))) ∧
      (∀ undertaking phase, i.run.conclusion ≠ .refused (.lifecycle undertaking phase)) ∧
      ∀ cause, i.run.conclusion ≠ .stopped cause := by
  have hends : (∃ cause, i.run.conclusion = .unconfigured cause) ∨
      (∃ cause, i.run.conclusion = .refused (.spec cause)) ∨
      (∃ reason, i.run.conclusion = .unguarded reason) ∨
      i.run.conclusion = .crashed ∨ ∃ archive, i.run.conclusion = .completed archive := by
    cases hload : (loading i o).1 with
    | error cause => exact .inl ⟨cause, run_of_load_error hparse hload⟩
    | ok c => exact .inr (conclusion_of_load hparse hload)
  refine ⟨fun cause hload ↦ ?_, fun c hload ↦ ⟨Config.actions_of_load hload, ?_, ?_⟩, ?_, ?_⟩
  · rw [run_of_load_error hparse hload]
    rfl
  · exact fun cause hfirst ↦ refusal_of_firstError hparse hload hfirst
  · exact fun hvalid ↦ ⟨fun reason ↦ unguarded_of_error hparse hload hvalid,
      completion_of_parse hparse hload hvalid⟩
  · intro undertaking phase hrefused
    rw [hrefused] at hends
    simp at hends
  · intro cause hstopped
    rw [hstopped] at hends
    simp at hends

/-- A missing terminal is no error, but a label that is not closed is one; and the first of two mistyped
specs ends a run. -/
theorem outcome_of_open_label :
    let i (specs : List String) : Invocation :=
      { arguments := (["-n", "1", "--checkpoint=1"] ++ specs.map ("--checkpoint-action=" ++ ·)).map
          fun word ↦ { content := word.toList }
        read := fun _ ↦ .error .missing
        home := ""
        terminal := .error "none"
        site := {} }
    let c (specs : List String) : Config := { interval := some 1, actions := specs, blocks := 1 }
    let unclosed := ["bell", "echo=%\x7b'\x7dT"]
    let mistyped := ["dot", "sleep=x", "dots"]
    (∃ archive reports, reports ≠ [] ∧ Completion (i unclosed) (c unclosed) archive reports) ∧
      ∃ loaded, Refusal (i mistyped) (c mistyped) loaded (.invalidTimeout "sleep=x") := by
  intro i c unclosed mistyped
  let o (specs : List String) : Options :=
    { checkpoint := some 1, actions := specs, blocks := some 1 }
  have hstatus : (i unclosed).run.conclusion.status = 2 := by decide +kernel
  have hcalm : (i unclosed).run.conclusion ≠ .crashed := by
    intro h
    rw [h] at hstatus
    exact absurd hstatus (by decide)
  have hunclosed : Options.parse (i unclosed).arguments = .ok (o unclosed) := by decide +kernel
  have hmistyped : Options.parse (i mistyped).arguments = .ok (o mistyped) := by decide +kernel
  obtain ⟨-, hcompletion, -⟩ := outcome_of_parse hunclosed
  obtain ⟨-, hrefusal, -⟩ := outcome_of_parse hmistyped
  obtain ⟨-, -, hcompleted⟩ := hcompletion (c unclosed) (by decide +kernel)
  obtain ⟨-, hrefused, -⟩ := hrefusal (c mistyped) (by decide +kernel)
  obtain ⟨-, hmoved⟩ := hcompleted (by decide +kernel)
  obtain ⟨archive, reports, hrun⟩ := hmoved rfl hcalm
  refine ⟨⟨archive, reports, fun hnone ↦ ?_, hrun⟩, _, hrefused _ (by decide +kernel)⟩
  have hzero := hrun.status
  rw [hstatus, if_pos hnone] at hzero
  exact absurd hzero (by decide)

end Run

end ProgressActions
