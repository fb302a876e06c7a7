import ProgressActions.Proofs.Output

/-!
# What a program does to its host

A program changes its host only by what it asks of it: to look at the timer, to run a command, and to
take note of an error. A relation between hosts that admits these, and may be chained, holds across
every action, every tick and the end of a run.
-/

namespace ProgressActions

variable {σ : Type} [Host σ]

/-- A relation between hosts that can be chained and admits all that is asked of a host. -/
structure Host.Admits (P : σ → σ → Prop) : Prop where
  refl : ∀ host, P host host
  trans : ∀ {first second third}, P first second → P second third → P first third
  measure : ∀ moment host, P host (Host.measure moment host).2
  noteError : ∀ message host, P host (Host.noteError message host).2
  exec : ∀ command archive checkpoint host, P host (Host.exec command archive checkpoint host).2

namespace Host.Admits

variable {P : σ → σ → Prop} (hP : Host.Admits P)

include hP

/-- What a relation admits of hosts, it admits of sessions. -/
theorem session : Session.Admits fun s t : Session σ ↦ P s.host t.host where
  trans hfirst hsecond := hP.trans hfirst hsecond
  unseen {s t} _ hhost := by
    rw [hhost]
    exact hP.refl s.host
  output s _ _ := hP.refl s.host
  measure s := hP.measure s.world.passed s.host
  noteError s message := hP.noteError message s.host

theorem freshTotals (s : Scene σ) : P s.host (Act.freshTotals.run.run s).2.host := by
  unfold Act.freshTotals
  rw [Act.run_bind, Act.run_elapsed]
  dsimp only
  rw [Act.run_printTotals]
  dsimp only
  split
  · rw [Act.run_write]
    exact hP.measure s.world.passed s.host
  · exact hP.measure s.world.passed s.host

theorem perform (isWrite : Bool) (action : Action) (s : Session σ) :
    P s.host (s.perform isWrite action).2.host := by
  cases action with
  | sleep seconds =>
    rw [Session.perform_sleep, Session.host_onWorld]
    exact hP.refl s.host
  | exec command =>
    change P s.host
      ((Act.exec command (Host.archive s.host) s.engine.ticks).run.run s.scene).2.host
    rw [Act.run_exec]
    exact hP.exec command (Host.archive s.host) s.engine.ticks s.host
  | totals => exact hP.freshTotals s.scene
  | wait signal => exact hP.refl s.host
  | _ => exact hP.session.perform rfl isWrite s

theorem carryOut (isWrite : Bool) (action : Action) (s : Session σ) :
    P s.host (s.carryOut isWrite action).host := by
  have hperform := hP.perform isWrite action s
  obtain h | ⟨message, h⟩ := Session.carryOut_cases isWrite action s <;> rw [h]
  · exact hperform
  · exact hperform

theorem carryOutAll (isWrite : Bool) (program : List Action) (s : Session σ) :
    P s.host (s.carryOutAll isWrite program).host := by
  refine Session.carryOutAll_of_kept (P := fun t ↦ P s.host t.host) (fun action t ht ↦ ?_)
    (hP.refl s.host) program
  exact hP.trans ht (hP.carryOut isWrite action t)

/-- Each action of a program finds a related host. -/
theorem stages (isWrite : Bool) {program : List Action} {s found : Session σ}
    (hfound : found ∈ s.stages isWrite program) : P s.host found.host := by
  refine Session.of_mem_stages (P := fun t ↦ P s.host t.host) (fun action t ht ↦ ?_)
    (hP.refl s.host) hfound
  exact hP.trans ht (hP.carryOut isWrite action t)

theorem tick (isWrite : Bool) (s : Session σ) : P s.host (s.tick isWrite).2.host := by
  obtain ⟨-, -, -, htick⟩ | ⟨-, -, -, htick⟩ | ⟨-, htick⟩ := Session.tick_cases isWrite s
  · obtain ⟨walked, -, hsession, -⟩ := Session.performAll_walk isWrite s.engine.program s.count
    rw [htick, hsession]
    exact hP.carryOutAll isWrite walked s.count
  · rw [htick]
    exact hP.refl s.host
  · rw [htick]
    exact hP.refl s.host

end Host.Admits

end ProgressActions
