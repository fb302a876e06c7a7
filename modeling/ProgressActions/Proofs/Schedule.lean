import ProgressActions.Proofs.Agenda
import ProgressActions.Proofs.LifeCycle
import ProgressActions.Proofs.Track
import ProgressActions.Run

/-!
# The schedule of a whole run

A configuration fixes the schedule of a run: at which interval its program runs and which program
that is, how many ticks there are, and for each tick its direction and the totals that it finds. A run
that ends without a fault keeps to this schedule, whatever its actions do.
-/

namespace ProgressActions

variable {μ : Type}

/-- The interval that a run works at. It is zero if the program never runs. -/
def Config.workInterval (c : Config) : Nat :=
  if 0 < c.engineInterval then c.engineInterval else if c.actions = [] then 0 else defaultInterval

namespace Config

/-- Without an interval and without actions there is no work. -/
theorem workInterval_of_idle {c : Config} (hinterval : c.engineInterval = 0)
    (hactions : c.actions = []) : c.workInterval = 0 := by
  simp [workInterval, hinterval, hactions]

/-- With an interval or an action the settled interval counts. -/
theorem workInterval_of_work {c : Config} (h : 0 < c.engineInterval ∨ c.actions ≠ []) :
    c.workInterval = settledInterval c.engineInterval := by
  unfold workInterval settledInterval
  split
  · rfl
  · rw [if_neg (h.resolve_left ‹_›)]

end Config

/-! ## The program of a run -/

namespace Engine

/-- To append actions changes the program and its signals only. -/
theorem foldl_append_eq (actions : List Action) (e : Engine) :
    ∃ signals, actions.foldl append e =
      { e with
        phase := if actions = [] then e.phase else .compiling
        program := e.program ++ actions
        signals } := by
  induction actions generalizing e with
  | nil => exact ⟨e.signals, by simp⟩
  | cons action rest ih =>
    obtain ⟨signals, hrest⟩ := ih (e.append action)
    refine ⟨signals, ?_⟩
    rw [List.foldl_cons, hrest]
    simp [append]

end Engine

namespace Run

/-- Specs that parse are compiled into their actions, and the host takes no part in it. -/
theorem compileAll_of_parse {specs : List String} {actions : List Action} {s : Session (Archive μ)}
    (hparse : specs.map Action.parse = actions.map .ok) (hopen : s.engine.isSealed = false) :
    (compileAll specs s).1 = .ok () ∧
      (compileAll specs s).2.engine = actions.foldl Engine.append s.engine ∧
      (compileAll specs s).2.host = s.host := by
  induction specs generalizing actions s with
  | nil =>
    obtain rfl : actions = [] := by simpa using hparse.symm
    exact ⟨rfl, rfl, rfl⟩
  | cons spec rest ih =>
    cases actions with
    | nil => cases hparse
    | cons action later =>
      obtain ⟨hfirst, hlater⟩ := List.cons.inj hparse
      obtain ⟨hresult, hengine⟩ := Session.compile_of_parse hfirst hopen
      have hnext : (s.compile spec).2.engine.isSealed = false := by
        rw [hengine]
        exact hopen
      obtain ⟨hall, hengines, hhost⟩ := ih hlater hnext
      have hstep : compileAll (spec :: rest) s = compileAll rest (s.compile spec).2 := by
        have hrun : s.compile spec = (.ok (), (s.compile spec).2) := Prod.ext hresult rfl
        rw [compileAll, hrun]
      rw [hstep, List.foldl_cons, ← hengine]
      exact ⟨hall, hengines, hhost.trans (Session.host_compile spec s)⟩

structure Collected (c : Config) (actions : List Action) (e : Engine) : Prop where
  phase : e.phase = if actions = [] then .uninitialized else .compiling
  isSealed : e.isSealed = false
  interval : e.interval = c.engineInterval
  program : e.program = actions
  ticks : e.ticks = 0

/-- Specs that all stand for actions are collected in their order. -/
theorem collected_compileAll {c : Config} {i : Invocation μ} {w : World} {actions : List Action}
    (hparse : c.actions.map Action.parse = actions.map .ok) :
    Collected c actions (compileAll c.actions (session i c w)).2.engine := by
  obtain ⟨-, hengine, -⟩ := compileAll_of_parse (s := session i c w) hparse rfl
  obtain ⟨signals, hfold⟩ := Engine.foldl_append_eq actions (session i c w).engine
  rw [hengine, hfold]
  exact ⟨rfl, rfl, rfl, rfl, rfl⟩

/-- An engine that is ready for the records of a run. -/
structure Ready (c : Config) (actions : List Action) (e : Engine) : Prop where
  isSealed : e.isSealed = true
  ticks : e.ticks = 0
  idle : c.workInterval = 0 → e.phase = .uninitialized
  atWork : 0 < c.workInterval →
    e.phase = .running ∧ e.interval = c.workInterval ∧
      e.program = if actions = [] then [.echo] else actions

theorem Ready.running {c : Config} {actions : List Action} {e : Engine} (h : Ready c actions e)
    (hwork : 0 < c.workInterval) : e.AtWork := by
  obtain ⟨hphase, hinterval, -⟩ := h.atWork hwork
  exact ⟨hphase, h.isSealed, hinterval ▸ hwork⟩

theorem ready_start {c : Config} {actions : List Action} {e : Engine}
    (hwork : 0 < c.engineInterval ∨ c.actions ≠ []) (hinterval : e.interval = c.engineInterval)
    (hprogram : e.program = if actions = [] then [.echo] else actions) (hticks : e.ticks = 0) :
    Ready c actions e.start.complete := by
  have hsettled := c.workInterval_of_work hwork
  have hpositive := settledInterval_ne_zero c.engineInterval
  rw [Engine.start_eq]
  refine ⟨rfl, hticks, fun hidle ↦ absurd (hsettled.symm.trans hidle) hpositive, fun _ ↦ ?_⟩
  refine ⟨rfl, ?_, hprogram⟩
  change settledInterval e.interval = c.workInterval
  rw [hinterval, hsettled]

/-- A program that has been collected is made ready. -/
theorem finishCompile_of_collected {c : Config} {actions : List Action} {s : Session (Archive μ)}
    (hempty : c.actions = [] ↔ actions = []) (h : Collected c actions s.engine) :
    s.finishCompile.1 = .ok () ∧ s.finishCompile.2.host = s.host ∧
      Ready c actions s.finishCompile.2.engine := by
  by_cases hactions : actions = []
  · have hphase : s.engine.phase = .uninitialized := by rw [h.phase, if_pos hactions]
    rcases Nat.eq_zero_or_pos c.engineInterval with hzero | hpositive
    · have hidle := c.workInterval_of_idle hzero (hempty.2 hactions)
      have hinterval : s.engine.interval = 0 := h.interval.trans hzero
      rw [Session.finishCompile_of_not_lacksProgram (by simp [hphase])
        (by simp [Engine.lacksProgram, hinterval])]
      exact ⟨rfl, rfl, rfl, h.ticks, fun _ ↦ hphase, fun hwork ↦ by omega⟩
    · have hprogram : s.engine.program = [] := h.program.trans hactions
      have hlacks : s.engine.lacksProgram = true := by
        simp [Engine.lacksProgram, hphase, hprogram, h.interval, hpositive]
      rw [Session.finishCompile_of_lacksProgram h.isSealed hlacks]
      refine ⟨rfl, Session.host_compile "echo" s, ?_⟩
      rw [Session.engine_onEngine, Session.engine_start, (Session.compile_echo h.isSealed).2]
      exact ready_start (.inl hpositive) h.interval (by simp [hprogram, hactions]) h.ticks
  · have hphase : s.engine.phase = .compiling := by rw [h.phase, if_neg hactions]
    rw [Session.finishCompile_of_compiling hphase]
    refine ⟨rfl, rfl, ready_start (.inr (mt hempty.1 hactions)) h.interval ?_ h.ticks⟩
    rw [h.program, if_neg hactions]

end Run

/-! ## The ticks of a run -/

namespace Session

variable {σ : Type} [Host σ]

def tickOccasions : List Bool → Session σ → List (Occasion σ)
  | [], _ => []
  | isWrite :: rest, s => ⟨isWrite, s⟩ :: tickOccasions rest (s.tick isWrite).2

/-- An engine at work keeps track of a row of ticks, or crashes in one. -/
theorem track_tickAll {s : Session σ} (hwork : s.engine.AtWork) (flags : List Bool) :
    (s.tickAll flags).1 = .error .crash ∨
      (s.tickAll flags).1 = .ok () ∧ s.Track (s.tickOccasions flags) (s.tickAll flags).2 := by
  induction flags generalizing s with
  | nil => exact .inr ⟨rfl, .done s⟩
  | cons isWrite rest ih =>
    have hnext := (hwork.countOn 1).of_sameTask (sameTask_tick hwork isWrite)
    obtain hok | hcrash := tick_result_of_atWork hwork isWrite
    · have hrun : s.tick isWrite = (.ok (), (s.tick isWrite).2) := Prod.ext hok rfl
      have hstep : s.tickAll (isWrite :: rest) = (s.tick isWrite).2.tickAll rest := by
        rw [tickAll, hrun]
      rw [hstep, tickOccasions]
      exact (ih hnext).imp_right fun ⟨hall, htrack⟩ ↦ ⟨hall, .tick isWrite hok htrack⟩
    · have hrun : s.tick isWrite = (.error .crash, (s.tick isWrite).2) := Prod.ext hcrash rfl
      left
      rw [tickAll, hrun]

theorem tickAll_of_idle {s : Session σ} (hsealed : s.engine.isSealed = true)
    (hphase : s.engine.phase = .uninitialized) (flags : List Bool) :
    s.tickAll flags = (.ok (), s) := by
  induction flags with
  | nil => rfl
  | cons isWrite rest ih =>
    rw [tickAll, tick_of_idle hsealed hphase]
    exact ih

end Session

namespace Run

variable [Launch.Place μ]

/-- The ticks that the moving of records causes, each with the session that it finds. -/
def occasions (delay : Duration) : (blocks : Nat) → Session (Archive μ) → List (Occasion (Archive μ))
  | 0, _ => []
  | blocks + 1, s =>
    ({ s with host := s.host.transfer }).tickOccasions s.host.nextTicks ++
      occasions delay blocks ((moveRecord s).2.onWorld (·.pause delay))

theorem moveRecords_of_ok {delay : Duration} {blocks : Nat} {s : Session (Archive μ)}
    (h : (moveRecord s).1 = .ok ()) :
    moveRecords delay (blocks + 1) s =
      moveRecords delay blocks ((moveRecord s).2.onWorld (·.pause delay)) := by
  have hrun : moveRecord s = (.ok (), (moveRecord s).2) := Prod.ext h rfl
  rw [moveRecords, hrun]

/-- An engine at work keeps track of the records it is told of, or crashes at one. -/
theorem track_moveRecords {s : Session (Archive μ)} (hwork : s.engine.AtWork) (delay : Duration)
    (blocks : Nat) :
    (moveRecords delay blocks s).1 = .error .crash ∨
      (moveRecords delay blocks s).1 = .ok () ∧
        s.Track (occasions delay blocks s) (moveRecords delay blocks s).2 := by
  induction blocks generalizing s with
  | zero => exact .inr ⟨rfl, .done s⟩
  | succ blocks ih =>
    have hmoved : ({ s with host := s.host.transfer } : Session (Archive μ)).engine.AtWork := hwork
    obtain hcrash | ⟨hok, htrack⟩ := Session.track_tickAll hmoved s.host.nextTicks
    · have hrun : moveRecord s = (.error .crash, (moveRecord s).2) := Prod.ext hcrash rfl
      left
      rw [moveRecords, hrun]
    · have hnext : ((moveRecord s).2.onWorld (·.pause delay)).engine.AtWork :=
        (hmoved.countOn _).of_sameTask (htrack.sameTask hmoved)
      rw [moveRecords_of_ok hok, occasions]
      refine (ih hnext).imp_right fun ⟨hall, hrest⟩ ↦ ⟨hall, ?_⟩
      have htransfer : s.engine.SameTask ({ s with host := s.host.transfer } : Session (Archive μ)).engine :=
        .refl s.engine
      have hpause : (moveRecord s).2.engine.SameTask
          ((moveRecord s).2.onWorld (·.pause delay)).engine := .refl _
      exact .meanwhile htransfer (htrack.append (.meanwhile hpause hrest))

theorem moveRecords_of_idle {s : Session (Archive μ)} (hsealed : s.engine.isSealed = true)
    (hphase : s.engine.phase = .uninitialized) (delay : Duration) (blocks : Nat) :
    (moveRecords delay blocks s).1 = .ok () ∧ (moveRecords delay blocks s).2.engine = s.engine := by
  induction blocks generalizing s with
  | zero => exact ⟨rfl, rfl⟩
  | succ blocks ih =>
    have hmove : moveRecord s = (.ok (), { s with host := s.host.transfer }) :=
      Session.tickAll_of_idle (s := { s with host := s.host.transfer }) hsealed hphase _
    rw [moveRecords, hmove]
    exact ih (s := ({ s with host := s.host.transfer } : Session (Archive μ)).onWorld (·.pause delay))
      hsealed hphase

/-! ## The totals that the ticks find -/

theorem tally_tickAll (flags : List Bool) (s : Session (Archive μ)) :
    (s.tickAll flags).2.host.tally = s.host.tally := by
  induction flags generalizing s with
  | nil => rfl
  | cons isWrite rest ih =>
    have hfirst := Archive.admits_tally.tick isWrite s
    rw [Session.tickAll]
    split
    · rename_i next h
      rw [h] at hfirst
      exact (ih next).trans hfirst
    · exact hfirst

theorem map_tickOccasions (flags : List Bool) (s : Session (Archive μ)) :
    ((s.tickOccasions flags).map fun o ↦ (o.isWrite, o.found.host.tally)) =
      flags.map (·, s.host.tally) := by
  induction flags generalizing s with
  | nil => rfl
  | cons isWrite rest ih =>
    rw [Session.tickOccasions, List.map_cons, ih, List.map_cons]
    rw [Archive.admits_tally.tick isWrite s]

/-- A record that is moved is counted once. -/
theorem tally_moveRecord {s : Session (Archive μ)} {mode : Mode} {recordSize moved : Nat}
    (h : s.host.tally = .after mode recordSize moved) :
    (moveRecord s).2.host.tally = .after mode recordSize (moved + 1) := by
  unfold moveRecord
  rw [tally_tickAll]
  exact Archive.tally_transfer h

/-- The ticks follow the agenda of the archive. -/
theorem map_occasions {mode : Mode} {recordSize moved : Nat} (delay : Duration) (blocks : Nat)
    {s : Session (Archive μ)} (h : s.host.tally = .after mode recordSize moved) :
    ((occasions delay blocks s).map fun o ↦ (o.isWrite, o.found.host.tally)) =
      (mode.agenda moved blocks).map fun (isWrite, records) ↦
        (isWrite, .after mode recordSize records) := by
  induction blocks generalizing s moved with
  | zero => rfl
  | succ blocks ih =>
    have hmoved := Archive.tally_transfer h
    have hmode : s.host.mode = mode := congrArg Tally.mode h
    have hrecords : s.host.records = moved := congrArg Tally.records h
    rw [occasions, List.map_append, map_tickOccasions, Mode.agenda, List.map_append, List.map_map,
      Archive.nextTicks_eq, hmode, hrecords, hmoved]
    congr 1
    exact ih (tally_moveRecord h)

/-- The records that are moved are all counted. -/
theorem tally_moveRecords {mode : Mode} {recordSize moved : Nat} {delay : Duration} {blocks : Nat}
    {s : Session (Archive μ)} (h : s.host.tally = .after mode recordSize moved)
    (hok : (moveRecords delay blocks s).1 = .ok ()) :
    (moveRecords delay blocks s).2.host.tally = .after mode recordSize (moved + blocks) := by
  induction blocks generalizing s moved with
  | zero => exact h
  | succ blocks ih =>
    have hfirst : (moveRecord s).1 = .ok () := by
      rw [moveRecords] at hok
      split at hok
      · rename_i h
        rw [h]
      · exact hok
    have hnext : ((moveRecord s).2.onWorld (·.pause delay)).host.tally =
        .after mode recordSize (moved + 1) := tally_moveRecord h
    rw [moveRecords_of_ok hfirst] at hok ⊢
    rw [ih hnext hok, Nat.add_right_comm]
    rfl

/-! ## The end of a run -/

theorem ticks_finish {σ : Type} (s : Session σ) : s.finish.2.engine.ticks = s.engine.ticks := by
  obtain h | h := Session.engine_finish s
  · rw [h]
  · rw [h]

theorem process_of_crash {c : Config} {s : Session (Archive μ)}
    (h : (moveRecords (.ofMilliseconds c.delay) c.blocks (begun c s)).1 = .error .crash) :
    (process c s).1 = .crashed := by
  have hrun : moveRecords (.ofMilliseconds c.delay) c.blocks (begun c s) =
      (.error .crash, (moveRecords (.ofMilliseconds c.delay) c.blocks (begun c s)).2) :=
    Prod.ext h rfl
  rw [process, hrun]

/-- A run whose records are all moved is completed, unless its end is a fault. -/
theorem process_of_ok {c : Config} {s : Session (Archive μ)}
    (h : (moveRecords (.ofMilliseconds c.delay) c.blocks (begun c s)).1 = .ok ())
    (hcalm : (process c s).1 ≠ .crashed) :
    let last := (moveRecords (.ofMilliseconds c.delay) c.blocks (begun c s)).2.finish.2
    process c s = (.completed last.host, debug (summary last) last) := by
  have hrun : moveRecords (.ofMilliseconds c.delay) c.blocks (begun c s) =
      (.ok (), (moveRecords (.ofMilliseconds c.delay) c.blocks (begun c s)).2) := Prod.ext h rfl
  revert hcalm
  rw [process, hrun]
  generalize (moveRecords (.ofMilliseconds c.delay) c.blocks (begun c s)).2 = moved
  intro hcalm
  obtain hok | hcrash := Session.result_finish moved
  · have hfinish : moved.finish = (.ok (), moved.finish.2) := Prod.ext hok rfl
    dsimp only
    rw [hfinish]
    rfl
  · have hfinish : moved.finish = (.error .crash, moved.finish.2) := Prod.ext hcrash rfl
    dsimp only at hcalm
    rw [hfinish] at hcalm
    exact absurd rfl hcalm

/-! ## The schedule -/

/-- The ticks of a run keep to what its configuration lays down for a program. -/
structure Scheduled (c : Config) (program : List Action) (log : List (Occasion (Archive μ))) :
    Prop where
  /-- There are as many ticks as the records need. -/
  length : log.length = c.mode.ticksFor c.blocks
  /-- They are numbered from one on. -/
  numbers : ∀ j o, log[j]? = some o → o.number = j + 1
  /-- Each has the direction that its number asks for. -/
  directions : ∀ o ∈ log, o.isWrite = c.mode.directionAt o.number
  /-- Each finds the totals of the records moved by then, -/
  tallies : ∀ o ∈ log,
    o.found.host.tally = .after c.mode c.recordSize (c.mode.recordsAt o.number)
  /-- and so does every action of the program that it runs. -/
  stages : ∀ o ∈ log, ∀ found ∈ o.found.count.stages o.isWrite program,
    found.host.tally = .after c.mode c.recordSize (c.mode.recordsAt o.number)
  /-- Each succeeds: it carries out the whole program if it fires, and only counts otherwise. -/
  settle : ∀ o ∈ log, o.found.tick o.isWrite =
    (.ok (), if o.isFiring then o.found.count.carryOutAll o.isWrite program else o.found.count)
  /-- Those that fire are the multiples of the interval. -/
  firings : (log.filter Occasion.isFiring).map Occasion.number =
    (List.range (c.mode.ticksFor c.blocks / c.workInterval)).map fun i ↦ (i + 1) * c.workInterval

/-- A track from the start of a run on keeps to the schedule if it follows the agenda. -/
theorem scheduled_of_track {c : Config} {s t : Session (Archive μ)} {log : List (Occasion (Archive μ))}
    (htrack : s.Track log t) (hwork : s.engine.AtWork) (hticks : s.engine.ticks = 0)
    (hinterval : s.engine.interval = c.workInterval)
    (hagenda : (log.map fun o ↦ (o.isWrite, o.found.host.tally)) =
      (c.mode.agenda 0 c.blocks).map fun (isWrite, records) ↦
        (isWrite, .after c.mode c.recordSize records)) :
    Scheduled c s.engine.program log := by
  rw [Mode.agenda_zero, List.map_map] at hagenda
  have hlength : log.length = c.mode.ticksFor c.blocks := by
    simpa using congrArg List.length hagenda
  have hnumbers : ∀ j o, log[j]? = some o → o.number = j + 1 :=
    fun j o hj ↦ htrack.number_of_getElem? hwork hticks hj
  have hentry : ∀ o ∈ log, o.isWrite = c.mode.directionAt o.number ∧
      o.found.host.tally = .after c.mode c.recordSize (c.mode.recordsAt o.number) := by
    intro o ho
    obtain ⟨j, hj⟩ := List.mem_iff_getElem?.1 ho
    have hbound : j < c.mode.ticksFor c.blocks := hlength ▸ (List.getElem?_eq_some_iff.1 hj).1
    have hat := congrArg (·[j]?) hagenda
    simp only [List.getElem?_map, hj, Option.map_some, List.getElem?_range hbound,
      Function.comp_apply, Option.some.injEq, Prod.mk.injEq] at hat
    rwa [hnumbers j o hj]
  refine
    { length := hlength
      numbers := hnumbers
      directions := fun o ho ↦ (hentry o ho).1
      tallies := fun o ho ↦ (hentry o ho).2
      stages := fun o ho found hfound ↦ ?_
      settle := fun o ho ↦ ?_
      firings := ?_ }
  · exact (Archive.admits_tally.stages o.isWrite hfound).trans (hentry o ho).2
  · obtain ⟨j, hsame⟩ := htrack.sameTask_of_mem hwork ho
    have hprogram : o.found.engine.program = s.engine.program := hsame.program
    rw [htrack.tick_of_mem hwork ho, Occasion.settled, hprogram]
  · rw [htrack.map_number_firings hwork hticks, hlength, hinterval]

/-- The session in which the records of a run are moved. -/
def start (c : Config) (i : Invocation μ) (w : World) : Session (Archive μ) :=
  begun c (compileAll c.actions (session i c w)).2.finishCompile.2

/-- A run whose specs all parse goes on from the program that they make. -/
theorem execute_eq_proceed {c : Config} {actions : List Action} (i : Invocation μ) (w : World)
    (hparse : c.actions.map Action.parse = actions.map .ok) :
    execute c i.interrupts (session i c w) =
        proceed c i.interrupts (compileAll c.actions (session i c w)).2.finishCompile.2 ∧
      Ready c actions (start c i w).engine ∧
      (start c i w).host.tally = .after c.mode c.recordSize 0 := by
  obtain ⟨hcompiled, -, hhost⟩ := compileAll_of_parse (s := session i c w) hparse rfl
  have hempty : c.actions = [] ↔ actions = [] := by
    have hlength := congrArg List.length hparse
    rw [List.length_map, List.length_map] at hlength
    rw [← List.length_eq_zero_iff, ← List.length_eq_zero_iff, hlength]
  obtain ⟨hfinished, hkept, hready⟩ :=
    finishCompile_of_collected hempty (collected_compileAll (i := i) (w := w) hparse)
  have hrun : compileAll c.actions (session i c w) =
      (.ok (), (compileAll c.actions (session i c w)).2) := Prod.ext hcompiled rfl
  have hcompletion : (compileAll c.actions (session i c w)).2.finishCompile =
      (.ok (), (compileAll c.actions (session i c w)).2.finishCompile.2) := Prod.ext hfinished rfl
  refine ⟨?_, hready, ?_⟩
  · rw [execute, hrun]
    dsimp only
    rw [hcompletion]
  · have htally : (start c i w).host.tally =
        (compileAll c.actions (session i c w)).2.finishCompile.2.host.tally := rfl
    rw [htally, hkept, hhost]
    cases hmode : c.mode <;> simp [session, Archive.tally, Tally.after, hmode, Mode.recordsRead,
      Mode.recordsWritten]

/-- A run whose specs all parse and whose interrupts are handled moves all records and is completed,
unless there is a fault. -/
theorem completed_of_parse {c : Config} {actions : List Action} (i : Invocation μ) (w : World)
    (hparse : c.actions.map Action.parse = actions.map .ok)
    (hguard : i.interrupts = .ok ())
    (hcalm : (execute c i.interrupts (session i c w)).1 ≠ .crashed) :
    let moved := moveRecords (.ofMilliseconds c.delay) c.blocks (start c i w)
    let last := moved.2.finish.2
    moved.1 = .ok () ∧
      execute c i.interrupts (session i c w) = (.completed last.host, debug (summary last) last) ∧
      last.host.records = c.blocks := by
  intro moved last
  obtain ⟨hexecute, hready, htally⟩ := execute_eq_proceed i w hparse
  rw [hguard, proceed] at hexecute
  rw [hguard, hexecute] at hcalm ⊢
  have hmoved : moved.1 = .ok () := by
    rcases Nat.eq_zero_or_pos c.workInterval with hzero | hpositive
    · exact (moveRecords_of_idle hready.isSealed (hready.idle hzero) _ _).1
    · obtain hcrash | ⟨hok, -⟩ := track_moveRecords (hready.running hpositive)
        (.ofMilliseconds c.delay) c.blocks
      · exact absurd (process_of_crash hcrash) hcalm
      · exact hok
  refine ⟨hmoved, process_of_ok hmoved hcalm, ?_⟩
  calc last.host.records
      = moved.2.host.records :=
        congrArg Tally.records (Archive.admits_tally.session.finish _)
    _ = 0 + c.blocks := congrArg Tally.records (tally_moveRecords htally hmoved)
    _ = c.blocks := Nat.zero_add c.blocks

/-- A run of a configuration whose specs all parse and whose interrupts are handled moves all records
and keeps to its schedule, unless there is a fault. -/
theorem execute_of_parse {c : Config} {actions : List Action} (i : Invocation μ) (w : World)
    (hparse : c.actions.map Action.parse = actions.map .ok)
    (hguard : i.interrupts = .ok ())
    (hcalm : (execute c i.interrupts (session i c w)).1 ≠ .crashed) :
    let last := (moveRecords (.ofMilliseconds c.delay) c.blocks (start c i w)).2.finish.2
    execute c i.interrupts (session i c w) = (.completed last.host, debug (summary last) last) ∧
      last.host.records = c.blocks ∧
      (c.workInterval = 0 → last.engine.ticks = 0) ∧
      (0 < c.workInterval →
        last.engine.ticks = c.mode.ticksFor c.blocks ∧
        (start c i w).engine.program = (if actions = [] then [.echo] else actions) ∧
        Scheduled c (start c i w).engine.program
          (occasions (.ofMilliseconds c.delay) c.blocks (start c i w))) := by
  intro last
  obtain ⟨-, hready, htally⟩ := execute_eq_proceed i w hparse
  obtain ⟨hmoved, hcompleted, hrecords⟩ := completed_of_parse i w hparse hguard hcalm
  have hticks : last.engine.ticks =
      (moveRecords (.ofMilliseconds c.delay) c.blocks (start c i w)).2.engine.ticks :=
    ticks_finish _
  refine ⟨hcompleted, hrecords, fun hzero ↦ ?_, fun hpositive ↦ ?_⟩
  · have hidle := (moveRecords_of_idle hready.isSealed (hready.idle hzero)
      (.ofMilliseconds c.delay) c.blocks).2
    rw [hticks, hidle, hready.ticks]
  · have hwork := hready.running hpositive
    obtain ⟨-, hinterval, hprogram⟩ := hready.atWork hpositive
    obtain hcrash | ⟨-, htrack⟩ := track_moveRecords hwork (.ofMilliseconds c.delay) c.blocks
    · rw [hmoved] at hcrash
      cases hcrash
    · have hscheduled := scheduled_of_track htrack hwork hready.ticks hinterval
        (map_occasions (.ofMilliseconds c.delay) c.blocks htally)
      have hcount := (htrack.sameTask hwork).ticks
      refine ⟨?_, hprogram, hscheduled⟩
      rw [hticks, hcount, Engine.countOn, hready.ticks, Nat.zero_add, hscheduled.length]

/-- Three records that are deleted make five ticks, of which the second and the fourth fire. -/
theorem execute_of_three_deletions :
    let c : Config := { interval := some 2, actions := ["dot"], blocks := 3, mode := .delete }
    let i : Invocation :=
      { arguments := []
        read := fun _ ↦ .error .missing
        home := ""
        terminal := .error "none"
        site := {} }
    (start c i {}).engine.program = [.dot] ∧
      Scheduled c [.dot] (occasions (.ofMilliseconds c.delay) c.blocks (start c i {})) := by
  intro c i
  have hstatus : (execute c i.interrupts (session i c {})).1.status = 0 := by decide +kernel
  have hcalm : (execute c i.interrupts (session i c {})).1 ≠ .crashed := by
    intro h
    rw [h] at hstatus
    exact absurd hstatus (by decide)
  have hparse : c.actions.map Action.parse = [Action.dot].map .ok := by decide +kernel
  obtain ⟨-, -, -, hlaw⟩ := execute_of_parse i {} hparse rfl hcalm
  obtain ⟨-, hprogram, hscheduled⟩ := hlaw (by decide)
  rw [hprogram] at hscheduled
  exact ⟨hprogram, hscheduled⟩

end Run

end ProgressActions
