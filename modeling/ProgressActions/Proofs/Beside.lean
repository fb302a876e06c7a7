import ProgressActions.Archive.Host
import ProgressActions.Host.Scripted
import ProgressActions.Proofs.Lockstep
import ProgressActions.Proofs.Selection

/-!
# What is seen beside a stream

Two runs may differ on one stream: its sink has room for more bytes in one of them, or can be flushed.
Somebody who does not look at that stream, nor at the log and the questions to the host, sees worlds
that are alike. What is done on the stream leaves each world alike to what it was; what is done on any
other stream has the same outcome in both runs and leaves worlds that are alike again.

A rendering that is cut short asks less of its host. So hosts are compared without what a rendering
may change in them: the time they remember, and the errors they count. Just after a host has been
asked for the time, it agrees about that as well.
-/

namespace ProgressActions

variable {σ : Type}

/-! ## Worlds -/

/-- A stream that is not one of the process, and so may end in a sink of its own. -/
structure Stream.Private (stream : Stream) : Prop where
  ne_stdout : stream ≠ .stdout
  ne_stderr : stream ≠ .stderr

namespace Sinks

theorem get_set_congr {s t : Sinks} {stream : Stream} (h : t.get stream = s.get stream)
    (other : Stream) (sink : Sink) :
    (t.set other sink).get stream = (s.set other sink).get stream := by
  cases other <;> cases stream <;> first | rfl | exact h

end Sinks

namespace World

/-- What a world is without its sinks and its trace: the clock and the environment. -/
def setting (w : World) : World := { w with verbose := false, sinks := {}, trace := #[] }

/-- Whether an event is seen by somebody who does not look at a stream. -/
def isSeenBeside (stream : Stream) (event : Event) : Bool := !event.isLeftOn stream

/-- Two worlds that are alike for somebody who does not look at a stream. -/
structure AlikeBeside (stream : Stream) (v w : World) : Prop where
  setting : w.setting = v.setting
  sinks : ∀ other, other ≠ stream → w.sinks.get other = v.sinks.get other
  width : (w.sinks.get stream).width = (v.sinks.get stream).width
  seen : w.selected (isSeenBeside stream) = v.selected (isSeenBeside stream)

variable {stream other : Stream} {u v w : World}

/-- What an activity leaves on a stream is not seen beside it. -/
theorem isSeenBeside_of_isLeftOn {event : Event} (h : event.isLeftOn stream = true) :
    isSeenBeside stream event = false := by
  rw [isSeenBeside, h, Bool.not_true]

namespace AlikeBeside

theorem refl (stream : Stream) (w : World) : w.AlikeBeside stream w := ⟨rfl, fun _ _ ↦ rfl, rfl, rfl⟩

theorem symm (h : v.AlikeBeside stream w) : w.AlikeBeside stream v :=
  ⟨h.setting.symm, fun other hother ↦ (h.sinks other hother).symm, h.width.symm, h.seen.symm⟩

theorem trans (hfirst : u.AlikeBeside stream v) (hsecond : v.AlikeBeside stream w) :
    u.AlikeBeside stream w where
  setting := hsecond.setting.trans hfirst.setting
  sinks other hother := (hsecond.sinks other hother).trans (hfirst.sinks other hother)
  width := hsecond.width.trans hfirst.width
  seen := hsecond.seen.trans hfirst.seen

theorem columns (h : v.AlikeBeside stream w) : w.columns = v.columns := by
  have hsetting := congrArg World.columns h.setting
  exact hsetting

theorem passed (h : v.AlikeBeside stream w) : w.passed = v.passed := by
  have hsetting := congrArg World.passed h.setting
  exact hsetting

theorem localTime? (h : v.AlikeBeside stream w) : w.localTime? = v.localTime? := by
  have hsetting := congrArg World.localTime? h.setting
  exact hsetting

/-! ### What the onlooker does not see -/

theorem record_of_isLeftOn {event : Event} (h : event.isLeftOn stream = true) (w : World) :
    w.AlikeBeside stream (w.record event) :=
  { refl stream w with seen := selected_record_of_not (isSeenBeside_of_isLeftOn h) w }

theorem setting_write (w : World) (stream : Stream) (content : List UInt8) :
    (w.write stream content).2.setting = w.setting := by
  unfold World.write
  dsimp only
  split <;> rfl

/-- A write to the stream itself. -/
theorem write_self (w : World) (content : List UInt8) :
    w.AlikeBeside stream (w.write stream content).2 where
  setting := setting_write w stream content
  sinks other hother := by rw [sinks_write, Sinks.get_set_of_ne hother]
  width := by rw [sinks_write, Sinks.width_get_set_afterWrite]
  seen := selected_write (fun _ ↦ isSeenBeside_of_isLeftOn (by simp [Event.isLeftOn])) w

theorem log (w : World) (moduleName message : String) :
    w.AlikeBeside stream (w.log moduleName message) where
  setting := setting_write w .stderr _
  sinks other _ := by
    rw [World.log, sinks_write]
    rfl
  width := by
    rw [World.log, sinks_write]
    rfl
  seen := selected_write (fun _ ↦ isSeenBeside_of_isLeftOn (by simp [Event.isLeftOn])) w

theorem debug (w : World) (moduleName message : String) :
    w.AlikeBeside stream (w.debug moduleName message) := by
  unfold World.debug
  split
  · exact log w moduleName message
  · exact refl stream w

/-! ### What happens in both worlds -/

theorem record (h : v.AlikeBeside stream w) (event : Event) :
    (v.record event).AlikeBeside stream (w.record event) :=
  { h with seen := by rw [selected_record, selected_record, h.seen] }

theorem write_fst (h : v.AlikeBeside stream w) (hother : other ≠ stream) (content : List UInt8) :
    (w.write other content).1 = (v.write other content).1 := by
  unfold World.write
  rw [h.sinks other hother]

/-- A write to another stream. -/
theorem write (h : v.AlikeBeside stream w) (hother : other ≠ stream) (content : List UInt8) :
    (v.write other content).2.AlikeBeside stream (w.write other content).2 where
  setting := by rw [setting_write, setting_write, h.setting]
  sinks third hthird := by
    rw [sinks_write, sinks_write, h.sinks other hother]
    exact Sinks.get_set_congr (h.sinks third hthird) other _
  width := by
    rw [sinks_write, sinks_write, Sinks.width_get_set_afterWrite, Sinks.width_get_set_afterWrite,
      h.width]
  seen := by
    unfold World.write
    rw [h.sinks other hother]
    dsimp only
    split
    · exact h.seen
    · rw [selected_record, selected_record]
      exact congrArg (· ++ _) h.seen

theorem flush_fst (h : v.AlikeBeside stream w) (hother : other ≠ stream) :
    (w.flush other).1 = (v.flush other).1 := by
  unfold World.flush
  rw [h.sinks other hother]

theorem advance (h : v.AlikeBeside stream w) (time : Duration) :
    (v.advance time).AlikeBeside stream (w.advance time) :=
  { h with setting := congrArg (World.advance · time) h.setting }

theorem pause (h : v.AlikeBeside stream w) (time : Duration) :
    (v.pause time).AlikeBeside stream (w.pause time) := by
  unfold World.pause
  split
  · exact h
  · exact (h.record _).advance time

/-- What a command wrote goes to other streams than a private one. -/
theorem settled (h : v.AlikeBeside stream w) (hstream : stream.Private) (report : ScriptReport) :
    (Act.settled report v).AlikeBeside stream (Act.settled report w) := by
  have hshown := (h.write hstream.ne_stdout.symm report.stdout).write hstream.ne_stderr.symm
    report.stderr
  unfold Act.settled
  dsimp only
  split
  · exact ((log _ _ _).symm.trans hshown).trans (log _ _ _)
  · exact hshown

end AlikeBeside

end World

/-! ## Hosts -/

/-- A host that renderings leave alone but for the time it remembers and the errors it counts. -/
class Host.Steady (σ : Type) [Host σ] where
  /-- The host without the time it remembers and the errors it counts. -/
  core : σ → σ
  /-- The host without the errors it counts. -/
  timed : σ → σ
  core_eq_of_timed_eq : ∀ {a b : σ}, timed b = timed a → core b = core a
  name_eq : ∀ {a b : σ}, core b = core a → Host.name b = Host.name a
  localize_eq : ∀ {a b : σ}, core b = core a → Host.localize b = Host.localize a
  archive_eq : ∀ {a b : σ}, core b = core a → Host.archive b = Host.archive a
  totals_eq : ∀ {a b : σ}, timed b = timed a → Host.totals b = Host.totals a
  report_eq : ∀ {a b : σ}, timed b = timed a → Host.report b = Host.report a
  core_measure : ∀ moment (a : σ), core (Host.measure moment a).2 = core a
  core_noteError : ∀ message (a : σ), core (Host.noteError message a).2 = core a
  measure_eq : ∀ {a b : σ}, core b = core a → ∀ moment,
    (Host.measure moment b).1 = (Host.measure moment a).1 ∧
      timed (Host.measure moment b).2 = timed (Host.measure moment a).2
  timed_noteError : ∀ message (a : σ), timed (Host.noteError message a).2 = timed a
  exec_eq : ∀ {a b : σ}, core b = core a → ∀ command archive checkpoint,
    (Host.exec command archive checkpoint b).1 = (Host.exec command archive checkpoint a).1 ∧
      core (Host.exec command archive checkpoint b).2 =
        core (Host.exec command archive checkpoint a).2

/-- A host that answers by rote never changes. -/
instance ScriptedHost.steady : Host.Steady ScriptedHost where
  core := id
  timed := id
  core_eq_of_timed_eq h := h
  name_eq h := congrArg Host.name h
  localize_eq h := congrArg Host.localize h
  archive_eq h := congrArg Host.archive h
  totals_eq h := congrArg Host.totals h
  report_eq h := congrArg Host.report h
  core_measure _ _ := rfl
  core_noteError _ _ := rfl
  measure_eq h moment := ⟨congrArg (Prod.fst ∘ Host.measure moment) h, h⟩
  timed_noteError _ _ := rfl
  exec_eq h command archive checkpoint :=
    ⟨congrArg (Prod.fst ∘ Host.exec command archive checkpoint) h, h⟩

namespace Archive

variable {μ : Type}

/-- The archive without the errors it counts. -/
def timed (a : Archive μ) : Archive μ := { a with errors := 0 }

/-- The archive without the time it remembers and the errors it counts. -/
def core (a : Archive μ) : Archive μ := { a with elapsed := .zero, errors := 0 }

variable [Launch.Place μ]

/-- A command neither sees what is left out of the core, nor changes it. -/
theorem runScript_core (a : Archive μ) (script archive : String) (checkpoint : Nat) :
    a.core.runScript script archive checkpoint =
      ((a.runScript script archive checkpoint).1,
        (a.runScript script archive checkpoint).2.core) := rfl

theorem scriptReport_core (a : Archive μ) (script archive : String) (checkpoint : Nat) :
    a.core.scriptReport script archive checkpoint =
      ((a.scriptReport script archive checkpoint).1,
        (a.scriptReport script archive checkpoint).2.core) := by
  unfold scriptReport
  rw [runScript_core]

instance steady : Host.Steady (Archive μ) where
  core := core
  timed := timed
  core_eq_of_timed_eq {a b} h := (congrArg core h : b.timed.core = a.timed.core)
  name_eq _ := rfl
  localize_eq _ := rfl
  archive_eq {a b} h := (congrArg archiveName h : b.core.archiveName = a.core.archiveName)
  totals_eq {a b} h := (congrArg Host.totals h : Host.totals b.timed = Host.totals a.timed)
  report_eq {a b} h := (congrArg Host.report h : Host.report b.timed = Host.report a.timed)
  core_measure _ _ := rfl
  core_noteError _ _ := rfl
  measure_eq {a b} h moment := by
    have hcore := congrArg (fun archive ↦ timed (archive.measure moment)) h
    have helapsed := congrArg elapsed hcore
    exact ⟨helapsed, hcore⟩
  timed_noteError _ _ := rfl
  exec_eq {a b} h command archive checkpoint := by
    have hscript := congrArg (scriptReport · command archive checkpoint) h
    rw [scriptReport_core, scriptReport_core] at hscript
    exact Prod.ext_iff.1 hscript

end Archive

/-! ## Scenes -/

namespace Scene

/-- Two scenes that are alike for somebody who does not look at a stream. -/
structure AlikeBeside [Host σ] [Host.Steady σ] (stream : Stream) (s t : Scene σ) : Prop where
  world : s.world.AlikeBeside stream t.world
  host : Host.Steady.core t.host = Host.Steady.core s.host

/-- Two scenes in which an activity on another stream goes the same way, with hosts that agree on a
part of themselves. -/
structure Abreast (stream : Stream) (part : σ → σ) (s t : Scene σ) : Prop where
  world : s.world.AlikeBeside stream t.world
  host : part t.host = part s.host
  lineReset : t.lineReset = s.lineReset

variable [Host σ] [Host.Steady σ]

/-- What is done on a stream is not seen beside it. -/
theorem admits_alikeBeside (stream : Stream) :
    Scene.Admits stream fun s t : Scene σ ↦ s.AlikeBeside stream t where
  refl s := ⟨.refl stream s.world, rfl⟩
  trans hst htu := ⟨hst.world.trans htu.world, htu.host.trans hst.host⟩
  write s content := ⟨.write_self s.world content, rfl⟩
  flush s := ⟨.record_of_isLeftOn (by simp [Event.isLeftOn]) s.world, rfl⟩
  record s _ hinquiry :=
    ⟨.record_of_isLeftOn (Event.isLeftOn_of_isInquiry hinquiry stream) s.world, rfl⟩
  log s message := ⟨.log s.world "error" message, rfl⟩
  measure s := ⟨.refl stream s.world, Host.Steady.core_measure _ _⟩
  noteError s message := ⟨.refl stream s.world, Host.Steady.core_noteError message _⟩

end Scene

/-! ## What is done on another stream -/

namespace Scene

variable {stream other : Stream} {part : σ → σ}

/-- What is done on another stream goes the same way in both scenes. -/
theorem keeps_abreast (hother : other ≠ stream) :
    Scene.Keeps other (Scene.Abreast stream part) where
  write text s t hst := by
    rw [Act.run_write, Act.run_write, hst.world.write_fst hother]
    exact ⟨rfl, hst.world.write hother _, hst.host, hst.lineReset⟩
  flush s t hst := by
    rw [Act.run_flush, Act.run_flush, hst.world.flush_fst hother]
    exact ⟨rfl, hst.world.record _, hst.host, hst.lineReset⟩
  width s t hst := by
    rw [Act.run_width, Act.run_width, hst.world.sinks other hother, hst.world.columns]
    exact ⟨rfl, hst⟩
  noteReturn _ _ hst := ⟨rfl, hst.world, hst.host, rfl⟩
  localTime?_eq hst := hst.world.localTime?

variable [Host σ] [Host.Steady σ]

open Host.Steady

/-- A rendering on another stream goes the same way in both scenes, reports included. -/
theorem agrees_abreast (hother : other ≠ stream) :
    Scene.Agrees other (Scene.Abreast stream core) (Scene.Abreast (σ := σ) stream timed) where
  keeps_near := keeps_abreast hother
  keeps_close := keeps_abreast hother
  near_of_close hst := { hst with host := core_eq_of_timed_eq hst.host }
  name_eq hst := name_eq hst.host
  localize_eq hst := localize_eq hst.host
  totals_eq hst := totals_eq hst.host
  report_eq hst := report_eq hst.host
  elapsed s t hst := by
    obtain ⟨htime, hhost⟩ := measure_eq hst.host t.world.passed
    rw [Act.run_elapsed, Act.run_elapsed, ← hst.world.passed, htime]
    exact ⟨rfl, hst.world.record .askElapsed, hhost, hst.lineReset⟩
  record event _ _ hst := ⟨rfl, hst.world.record event, hst.host, hst.lineReset⟩
  reportError message s t hst := by
    have hnoted (line : Option String) (w : World) : w.AlikeBeside stream (Act.noted line w) := by
      unfold Act.noted
      split
      · exact .log w "error" _
      · exact .refl stream w
    rw [Act.run_reportError, Act.run_reportError]
    refine ⟨rfl, ?_, ?_, hst.lineReset⟩
    · exact ((hnoted _ _).symm.trans (hst.world.record _)).trans (hnoted _ _)
    · exact (timed_noteError message t.host).trans
        (hst.host.trans (timed_noteError message s.host).symm)

/-- A command runs the same way in both scenes. -/
theorem lockstep_exec (hstream : stream.Private) (command archive : String) (checkpoint : Nat) :
    Act.Lockstep (Scene.Abreast stream core) (Scene.Abreast stream core)
      (Act.exec (σ := σ) command archive checkpoint) := by
  intro s t hst
  obtain ⟨hreport, hhost⟩ := exec_eq hst.host command archive checkpoint
  rw [Act.run_exec, Act.run_exec]
  dsimp only
  rw [hreport]
  exact ⟨rfl, (hst.world.record _).settled hstream _, hhost, hst.lineReset⟩

end Scene

end ProgressActions
