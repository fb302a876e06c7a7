import ProgressActions.Proofs.Isolation

/-!
# Totals are up to date when they are shown

An archive remembers what its timer last showed, and works out its totals from that. All that shows
totals has the archive look at the timer first: the totals directive, the built-in status line and the
action that prints totals. So nothing that a run shows or does depends on the time that was remembered
before, nor on how many errors had been counted; and the run adds the same number of errors to the
count.
-/

namespace ProgressActions

variable {μ : Type}

/-! ## Archives -/

namespace Archive

/-- Two archives that agree on a part of themselves, and that have counted equally many errors since
they had counted different numbers of them. -/
structure Level (part : Archive μ → Archive μ) (first second : Nat) (a b : Archive μ) : Prop where
  part_eq : part b = part a
  errors : ∃ count, a.errors = first + count ∧ b.errors = second + count

namespace Level

variable {first second : Nat} {a b : Archive μ}

/-- A record moved on both sides keeps them level. -/
theorem transfer (h : a.Level core first second b) :
    a.transfer.Level core first second b.transfer where
  part_eq := by
    have hcore (c : Archive μ) : c.transfer.core = c.core.transfer := by
      unfold Archive.transfer core
      cases c.mode <;> rfl
    rw [hcore, hcore, h.part_eq]
  errors := by
    rw [errors_transfer, errors_transfer]
    exact h.errors

variable [Launch.Place μ]

/-- Archives that agree on the time agree on all the rest too. -/
theorem core_of_timed (h : a.Level timed first second b) : a.Level core first second b :=
  ⟨Host.Steady.core_eq_of_timed_eq h.part_eq, h.errors⟩

/-- Archives that have just looked at the timer agree about the time. -/
theorem measure (h : a.Level core first second b) (moment : Duration) :
    (Host.measure moment b).1 = (Host.measure moment a).1 ∧
      (Host.measure moment a).2.Level timed first second (Host.measure moment b).2 := by
  obtain ⟨htime, htimed⟩ := Host.Steady.measure_eq h.part_eq moment
  exact ⟨htime, htimed, h.errors⟩

/-- Both archives count an error, and log the same about it. -/
theorem noteError (h : a.Level timed first second b) (message : String) :
    (Host.noteError message b).1 = (Host.noteError message a).1 ∧
      (Host.noteError message a).2.Level timed first second (Host.noteError message b).2 := by
  obtain ⟨count, ha, hb⟩ := h.errors
  have herrors (c : Archive μ) : (Host.noteError message c).2.errors = c.errors + 1 := rfl
  refine ⟨rfl, h.part_eq, count + 1, ?_, ?_⟩
  · rw [herrors, ha, Nat.add_assoc]
  · rw [herrors, hb, Nat.add_assoc]

theorem exec (h : a.Level core first second b) (command archive : String) (checkpoint : Nat) :
    (Host.exec command archive checkpoint b).1 = (Host.exec command archive checkpoint a).1 ∧
      (Host.exec command archive checkpoint a).2.Level core first second
        (Host.exec command archive checkpoint b).2 := by
  obtain ⟨hreport, hcore⟩ := Host.Steady.exec_eq h.part_eq command archive checkpoint
  exact ⟨hreport, hcore, h.errors⟩

end Level

end Archive

open Archive (core timed)

/-! ## Scenes -/

/-- Two scenes in the same world, with archives that are level. -/
structure Scene.Level (part : Archive μ → Archive μ) (first second : Nat) (s t : Scene (Archive μ)) :
    Prop where
  world : t.world = s.world
  lineReset : t.lineReset = s.lineReset
  host : s.host.Level part first second t.host

namespace Scene

variable {part : Archive μ → Archive μ} {first second : Nat}

/-- What is done on a stream depends on the world alone, which is the same. -/
theorem keeps_level (stream : Stream) : Scene.Keeps stream (Scene.Level part first second) where
  write text s t hst := by
    rw [Act.run_write, Act.run_write, hst.world]
    exact ⟨rfl, rfl, hst.lineReset, hst.host⟩
  flush s t hst := by
    rw [Act.run_flush, Act.run_flush, hst.world]
    exact ⟨rfl, rfl, hst.lineReset, hst.host⟩
  width s t hst := by
    rw [Act.run_width, Act.run_width, hst.world]
    exact ⟨rfl, hst⟩
  noteReturn _ _ hst := ⟨rfl, hst.world, rfl, hst.host⟩
  localTime?_eq hst := by rw [hst.world]

variable [Launch.Place μ]

/-- Archives that are level go the same way in every rendering. What they remember of the time is
looked at only after it was set anew. -/
theorem agrees_level (stream : Stream) :
    Scene.Agrees (σ := Archive μ) stream (Scene.Level core first second)
      (Scene.Level timed first second) where
  keeps_near := keeps_level stream
  keeps_close := keeps_level stream
  near_of_close hst := { hst with host := hst.host.core_of_timed }
  name_eq hst := Host.Steady.name_eq hst.host.part_eq
  localize_eq hst := Host.Steady.localize_eq hst.host.part_eq
  totals_eq hst := Host.Steady.totals_eq hst.host.part_eq
  report_eq hst := Host.Steady.report_eq hst.host.part_eq
  elapsed s t hst := by
    obtain ⟨htime, hhost⟩ := hst.host.measure s.world.passed
    rw [Act.run_elapsed, Act.run_elapsed, hst.world, htime]
    exact ⟨rfl, rfl, hst.lineReset, hhost⟩
  record event s t hst := by
    rw [Act.run_record, Act.run_record, hst.world]
    exact ⟨rfl, rfl, hst.lineReset, hst.host⟩
  reportError message s t hst := by
    obtain ⟨hline, hhost⟩ := hst.host.noteError message
    rw [Act.run_reportError, Act.run_reportError, hst.world, hline]
    exact ⟨rfl, rfl, hst.lineReset, hhost⟩

/-- A command runs the same way on archives that are level. -/
theorem lockstep_exec_level (command archive : String) (checkpoint : Nat) :
    Act.Lockstep (σ := Archive μ) (Scene.Level core first second) (Scene.Level core first second)
      (Act.exec command archive checkpoint) := by
  intro s t hst
  obtain ⟨hreport, hhost⟩ := hst.host.exec command archive checkpoint
  rw [Act.run_exec, Act.run_exec]
  dsimp only
  rw [hreport, hst.world]
  exact ⟨rfl, rfl, hst.lineReset, hhost⟩

end Scene

/-! ## Sessions -/

namespace Session

/-- Two sessions with the same engine in the same world, and archives that are level. -/
structure Level (first second : Nat) (s t : Session (Archive μ)) : Prop where
  engine : t.engine = s.engine
  world : t.world = s.world
  host : s.host.Level core first second t.host

namespace Level

variable {first second : Nat} {s t : Session (Archive μ)}

theorem onWorld (h : s.Level first second t) (f : World → World) :
    (s.onWorld f).Level first second (t.onWorld f) :=
  ⟨h.engine, congrArg f h.world, h.host⟩

theorem onEngine (h : s.Level first second t) (f : Engine → Engine) :
    (s.onEngine f).Level first second (t.onEngine f) :=
  ⟨congrArg f h.engine, h.world, h.host⟩

theorem debug (h : s.Level first second t) (message : String) :
    (s.debug message).Level first second (t.debug message) :=
  h.onWorld _

theorem scene (h : s.Level first second t) : s.scene.Level core first second t.scene :=
  ⟨h.world, rfl, h.host⟩

/-! ### Activities -/

variable {activity : Act (Archive μ) Unit}
  (hactivity : Act.Lockstep (Scene.Level core first second) (Scene.Level core first second) activity)

include hactivity

theorem attempt (h : s.Level first second t) :
    (t.attempt activity).1 = (s.attempt activity).1 ∧
      (s.attempt activity).2.Level first second (t.attempt activity).2 := by
  obtain ⟨houtcome, hafter⟩ := hactivity s.scene t.scene h.scene
  exact ⟨houtcome, h.engine, hafter.world, hafter.host⟩

/-- Both sessions note the same carriage returns. -/
theorem attemptOnTerminal (h : s.Level first second t) :
    (t.attemptOnTerminal activity).1 = (s.attemptOnTerminal activity).1 ∧
      (s.attemptOnTerminal activity).2.Level first second (t.attemptOnTerminal activity).2 := by
  obtain ⟨houtcome, hafter⟩ := hactivity s.scene t.scene h.scene
  refine ⟨houtcome, ?_, hafter.world, hafter.host⟩
  rw [engine_attemptOnTerminal, engine_attemptOnTerminal, h.engine,
    noticesReturn_congr houtcome hafter.lineReset]

omit hactivity in
theorem openTerminal (h : s.Level first second t) :
    s.openTerminal.Level first second t.openTerminal := by
  unfold Session.openTerminal
  rw [h.engine]
  split
  · split
    · exact (h.onEngine _).onWorld _
    · exact (h.onEngine _).onWorld _
  · exact h

omit hactivity in
theorem closeTerminal (h : s.Level first second t) :
    s.closeTerminal.Level first second t.closeTerminal := by
  unfold Session.closeTerminal
  dsimp only
  rw [h.engine]
  split
  · exact (h.onWorld _).onEngine _
  · exact h.onEngine _

theorem withTerminal (h : s.Level first second t) :
    (t.withTerminal activity).1 = (s.withTerminal activity).1 ∧
      (s.withTerminal activity).2.Level first second (t.withTerminal activity).2 := by
  have hready := h.openTerminal
  unfold Session.withTerminal
  dsimp only
  rw [hready.engine]
  split
  · exact hready.attemptOnTerminal hactivity
  · exact ⟨rfl, hready⟩

omit hactivity

theorem clearLine (h : s.Level first second t) :
    t.clearLine.1 = s.clearLine.1 ∧ s.clearLine.2.Level first second t.clearLine.2 := by
  obtain ⟨houtcome, hafter⟩ := h.attempt (.clearLine (Scene.keeps_level _))
  unfold Session.clearLine
  rcases hs : s.attempt Act.clearLine with ⟨(cause | _) | _, nextS⟩ <;>
    rcases ht : t.attempt Act.clearLine with ⟨(other | _) | _, nextT⟩ <;>
    rw [hs, ht] at houtcome hafter <;> cases houtcome
  · exact ⟨rfl, hafter.debug _⟩
  · exact ⟨rfl, hafter⟩
  · exact ⟨rfl, hafter⟩

theorem clearLines (h : s.Level first second t) (times : Nat) :
    (t.clearLines times).1 = (s.clearLines times).1 ∧
      (s.clearLines times).2.Level first second (t.clearLines times).2 := by
  induction times generalizing s t with
  | zero => exact ⟨rfl, h⟩
  | succ times ih =>
    obtain ⟨hresult, hafter⟩ := h.clearLine
    rw [Session.clearLines, Session.clearLines]
    rcases hs : s.clearLine with ⟨cause | _, clearedS⟩ <;>
      rcases ht : t.clearLine with ⟨other | _, clearedT⟩ <;>
      rw [hs, ht] at hresult hafter <;> cases hresult
    · exact ⟨rfl, hafter⟩
    · exact ih hafter

/-! ### Actions -/

variable [Launch.Place μ]

theorem perform (h : s.Level first second t) (isWrite : Bool) (action : Action) :
    (t.perform isWrite action).1 = (s.perform isWrite action).1 ∧
      (s.perform isWrite action).2.Level first second (t.perform isWrite action).2 := by
  unfold Session.perform
  dsimp only
  rw [h.engine]
  cases action with
  | dot => exact h.attempt (.put (Scene.keeps_level _) _)
  | bell => exact h.withTerminal (.put (Scene.keeps_level _) _)
  | echo => exact h.attempt (.echo (Scene.agrees_level _) _ _ _)
  | echoText template => exact h.attempt (.echo (Scene.agrees_level _) _ _ _)
  | ttyText template => exact h.withTerminal (.ttyText (Scene.agrees_level _) _ _ _)
  | sleep seconds => exact ⟨rfl, h.onWorld (·.pause (.ofSeconds seconds))⟩
  | exec command =>
    have harchive : Host.archive t.host = Host.archive s.host :=
      Host.Steady.archive_eq h.host.part_eq
    dsimp only
    rw [harchive]
    exact h.attempt (Scene.lockstep_exec_level _ _ _)
  | totals =>
    have hagrees : Scene.Agrees (σ := Archive μ) .stderr (Scene.Level core first second)
        (Scene.Level timed first second) := Scene.agrees_level _
    exact h.attempt (.mono (.freshTotals hagrees) hagrees.near_of_close)
  | wait signal => exact ⟨rfl, h.onWorld (·.record (.wait s.engine.signals.toList))⟩

theorem performAll (h : s.Level first second t) (isWrite : Bool) (program : List Action) :
    (t.performAll isWrite program).1 = (s.performAll isWrite program).1 ∧
      (s.performAll isWrite program).2.Level first second (t.performAll isWrite program).2 := by
  induction program generalizing s t with
  | nil => exact ⟨rfl, h⟩
  | cons action rest ih =>
    obtain ⟨houtcome, hnext⟩ := h.perform isWrite action
    rw [Session.performAll, Session.performAll]
    rcases hs : s.perform isWrite action with ⟨(cause | _) | _, nextS⟩ <;>
      rcases ht : t.perform isWrite action with ⟨(other | _) | _, nextT⟩ <;>
      rw [hs, ht] at houtcome hnext <;> cases houtcome
    · refine ih ?_
      unfold noteFailure
      rw [hnext.engine]
      exact hnext.debug _
    · exact ⟨rfl, hnext⟩
    · exact ih hnext

/-! ### Calls -/

theorem tick (h : s.Level first second t) (isWrite : Bool) :
    (t.tick isWrite).1 = (s.tick isWrite).1 ∧
      (s.tick isWrite).2.Level first second (t.tick isWrite).2 := by
  have hcounted := h.onEngine fun e ↦ { e with ticks := e.ticks + 1 }
  unfold Session.tick
  dsimp only
  rw [h.engine, hcounted.engine]
  split
  · exact ⟨rfl, h⟩
  split
  · exact ⟨rfl, h⟩
  split
  · exact hcounted.performAll isWrite _
  · exact ⟨rfl, hcounted⟩

omit [Launch.Place μ] in
theorem finish (h : s.Level first second t) :
    t.finish.1 = s.finish.1 ∧ s.finish.2.Level first second t.finish.2 := by
  unfold Session.finish
  rw [h.engine]
  split
  · exact ⟨rfl, h⟩
  · obtain ⟨hresult, hafter⟩ := h.clearLines (pendingClears s.engine)
    rcases hs : s.clearLines (pendingClears s.engine) with ⟨cause | _, clearedS⟩ <;>
      rcases ht : t.clearLines (pendingClears s.engine) with ⟨other | _, clearedT⟩ <;>
      rw [hs, ht] at hresult hafter <;> cases hresult
    · exact ⟨rfl, hafter⟩
    · exact ⟨rfl, hafter.closeTerminal⟩

end Level

end Session

/-! ## Runs on an archive -/

/-- What happens in a run on an archive. -/
inductive Haul where
  /-- A record is moved. The ticks that it causes are beats of their own. -/
  | transfer
  | beat (beat : Beat)
  deriving DecidableEq, Repr

namespace Session

variable [Launch.Place μ]

/-- What comes of a haul: its result and the session after it. -/
def haul (s : Session (Archive μ)) : Haul → Except Stop Unit × Session (Archive μ)
  | .transfer => (.ok (), { s with host := s.host.transfer })
  | .beat beat => s.beat beat

def hauls (s : Session (Archive μ)) (row : List Haul) : Session (Archive μ) :=
  row.foldl (fun s haul ↦ (s.haul haul).2) s

def haulResults : List Haul → Session (Archive μ) → List (Except Stop Unit)
  | [], _ => []
  | haul :: rest, s => (s.haul haul).1 :: haulResults rest (s.haul haul).2

variable {first second : Nat} {s t : Session (Archive μ)}

theorem Level.haul (h : s.Level first second t) (haul : Haul) :
    (t.haul haul).1 = (s.haul haul).1 ∧ (s.haul haul).2.Level first second (t.haul haul).2 := by
  cases haul with
  | transfer => exact ⟨rfl, h.engine, h.world, h.host.transfer⟩
  | beat beat =>
    cases beat with
    | tick isWrite => exact h.tick isWrite
    | finish => exact h.finish
    | advance time => exact ⟨rfl, h.onWorld (·.advance time)⟩

/-- A whole run keeps sessions level. -/
theorem Level.hauls (h : s.Level first second t) (row : List Haul) :
    t.haulResults row = s.haulResults row ∧ (s.hauls row).Level first second (t.hauls row) := by
  induction row generalizing s t with
  | nil => exact ⟨rfl, h⟩
  | cons haul rest ih =>
    obtain ⟨hresult, hafter⟩ := h.haul haul
    obtain ⟨hlater, hlast⟩ := ih hafter
    exact ⟨by rw [haulResults, haulResults, hresult, hlater], hlast⟩

/-- Totals are never stale. Whatever time an archive remembers from before and whatever number of errors
it has counted, a run on it comes to the same results, to the same engine, and to the same world with
all that has happened in it. The archive is the same afterwards but for the time that it remembers and
the number of errors, which has grown by as many. -/
theorem world_hauls_of_stale (s : Session (Archive μ)) (elapsed : Duration) (errors : Nat)
    (row : List Haul) :
    let t := { s with host := { s.host with elapsed, errors } }
    t.haulResults row = s.haulResults row ∧
      (t.hauls row).engine = (s.hauls row).engine ∧
      (t.hauls row).world = (s.hauls row).world ∧
      ∃ count,
        (s.hauls row).host.errors = s.host.errors + count ∧
          (t.hauls row).host =
            { (s.hauls row).host with
              elapsed := (t.hauls row).host.elapsed
              errors := errors + count } := by
  intro t
  have hlevel : s.Level s.host.errors errors t := ⟨rfl, rfl, rfl, 0, rfl, rfl⟩
  obtain ⟨hresults, hlast⟩ := hlevel.hauls row
  obtain ⟨count, hs, ht⟩ := hlast.host.errors
  refine ⟨hresults, hlast.engine, hlast.world, count, hs, ?_⟩
  have hcore := congrArg
    (fun a : Archive μ ↦ { a with elapsed := (t.hauls row).host.elapsed, errors := errors + count })
    hlast.host.part_eq
  have hsame : (t.hauls row).host =
      { (t.hauls row).host with
        elapsed := (t.hauls row).host.elapsed, errors := errors + count } := by rw [← ht]
  rw [hsame]
  exact hcore

end Session

end ProgressActions
