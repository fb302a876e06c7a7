import ProgressActions.Proofs.LifeCycle

/-!
# A complete program is final

Once the program of an engine is complete, nothing that is done with the engine changes its plan: the
phase, the interval, the program and the signals stay as they are. Completing the program again does
nothing at all, and every further spec is refused for the phase that the engine is in, whether it
could be read or not. All this holds as well for an engine that stays idle because it was given
neither an interval nor an action.
-/

namespace ProgressActions

namespace Engine

/-- An engine with the same plan as before: at most its ticks, its terminal and what the terminal is
opened with are different. -/
structure SamePlan (before after : Engine) : Prop where
  phase : after.phase = before.phase
  isSealed : after.isSealed = before.isSealed
  interval : after.interval = before.interval
  program : after.program = before.program
  signals : after.signals = before.signals

namespace SamePlan

theorem refl (e : Engine) : e.SamePlan e := ⟨rfl, rfl, rfl, rfl, rfl⟩

theorem trans {e f g : Engine} (hfirst : e.SamePlan f) (hsecond : f.SamePlan g) : e.SamePlan g where
  phase := hsecond.phase.trans hfirst.phase
  isSealed := hsecond.isSealed.trans hfirst.isSealed
  interval := hsecond.interval.trans hfirst.interval
  program := hsecond.program.trans hfirst.program
  signals := hsecond.signals.trans hfirst.signals

end SamePlan

/-- A complete engine keeps its plan on every turn. -/
theorem Turn.samePlan {given : Nat} {e f : Engine} (hturn : e.Turn f) (hlaw : e.LifeCycle given)
    (hsealed : e.isSealed = true) : e.SamePlan f := by
  have hopen (h : e.isSealed = false) : False := by
    rw [hsealed] at h
    cases h
  cases hturn with
  | append action h => exact (hopen h).elim
  | supply h => exact (hopen h).elim
  | start hphase => exact (hopen (hlaw.compiling_iff.1 hphase).2).elim
  | complete => exact ⟨rfl, hsealed.symm, rfl, rfl, rfl⟩
  | _ => exact ⟨rfl, rfl, rfl, rfl, rfl⟩

namespace LifeCycle

variable {given : Nat} {e : Engine}

/-- A complete program takes no more specs. -/
theorem not_compiling_of_isSealed (h : e.LifeCycle given) (hsealed : e.isSealed = true) :
    e.phase ≠ .compiling := by
  intro hcompiling
  have hopen := (h.compiling_iff.1 hcompiling).2
  rw [hsealed] at hopen
  cases hopen

/-- A complete engine is never in need of a program: one that is idle has no interval. -/
theorem not_lacksProgram_of_isSealed (h : e.LifeCycle given) (hsealed : e.isSealed = true) :
    e.lacksProgram = false := by
  cases hphase : e.phase with
  | uninitialized =>
    have hinterval := (h.of_uninitialized hphase).2.2 hsealed
    simp [lacksProgram, hinterval]
  | compiling => simp [lacksProgram, hphase]
  | running => simp [lacksProgram, hphase]

/-- A complete engine runs if it has a program, and is idle otherwise. -/
theorem phase_of_isSealed (h : e.LifeCycle given) (hsealed : e.isSealed = true) :
    e.phase = if e.program = [] then .uninitialized else .running := by
  by_cases hprogram : e.program = []
  · rw [if_pos hprogram]
    exact h.uninitialized_of_isSealed hsealed fun hrunning ↦
      (h.running_iff_isSealed.1 hrunning).2 hprogram
  · rw [if_neg hprogram]
    exact h.running_iff_isSealed.2 ⟨hsealed, hprogram⟩

end LifeCycle

theorem complete_of_isSealed {e : Engine} (h : e.isSealed = true) : e.complete = e := by
  unfold complete
  rw [← h]

end Engine

namespace Session

variable {σ : Type}

/-- Completing a complete program does nothing. -/
theorem finishCompile_of_lifeCycle {given : Nat} {s : Session σ} (hlaw : s.engine.LifeCycle given)
    (hsealed : s.engine.isSealed = true) : s.finishCompile = (.ok (), s) := by
  rw [finishCompile_of_not_lacksProgram (hlaw.not_compiling_of_isSealed hsealed)
    (hlaw.not_lacksProgram_of_isSealed hsealed), onEngine, Engine.complete_of_isSealed hsealed]

/-- Completing a program always works. -/
theorem result_finishCompile {given : Nat} {s : Session σ} (hlaw : s.engine.LifeCycle given) :
    s.finishCompile.1 = .ok () ∧ s.finishCompile.2.engine.isSealed = true := by
  cases hsealed : s.engine.isSealed with
  | true =>
    rw [finishCompile_of_lifeCycle hlaw hsealed]
    exact ⟨rfl, hsealed⟩
  | false =>
    by_cases hphase : s.engine.phase = .compiling
    · rw [finishCompile_of_compiling hphase]
      exact ⟨rfl, rfl⟩
    · cases hlacks : s.engine.lacksProgram with
      | true =>
        rw [finishCompile_of_lacksProgram hsealed hlacks]
        exact ⟨rfl, rfl⟩
      | false =>
        rw [finishCompile_of_not_lacksProgram hphase hlacks]
        exact ⟨rfl, rfl⟩

variable [Host σ]

/-- A complete engine keeps its plan through every row of calls. -/
theorem samePlan_steps {given : Nat} {s : Session σ} (hstage : s.engine.Stage given)
    (hsealed : s.engine.isSealed = true) (calls : List (Call σ)) :
    s.engine.SamePlan (s.steps calls).engine := by
  induction calls generalizing s with
  | nil => exact .refl s.engine
  | cons call rest ih =>
    have hturn := turn_next s call
    have hfirst := hturn.samePlan hstage.lifeCycle hsealed
    exact hfirst.trans (ih (hstage.turn hturn) (hfirst.isSealed.trans hsealed))

/-- A complete program is final. After any row of calls the program of an engine can be completed, by
which it runs or, without a program, stays idle. However the calls go on from there, the engine keeps
its plan; completing the program again succeeds and changes nothing in the engine, its surroundings or
its host; and every spec is refused for the phase that the engine is in, which changes nothing
either. -/
theorem final_of_finishCompile (given : Nat) (console : Console) (world : World) (host : σ)
    (before later : List (Call σ)) :
    let opened := (fresh given console world host).steps before
    let s := opened.next .finishCompile
    let t := s.steps later
    (opened.answer .finishCompile).1 = .ok () ∧
      s.engine.isSealed = true ∧
      s.engine.phase = (if s.engine.program = [] then .uninitialized else .running) ∧
      s.engine.SamePlan t.engine ∧
      t.answer .finishCompile = (.ok (), t) ∧
      ∀ spec, t.answer (.compile spec) =
        (.error (.refused (.lifecycle .compile t.engine.phase)), t) := by
  intro opened s t
  have hopened : opened.engine.Stage given := stage_steps_fresh given console world host before
  obtain ⟨hresult, hsealed⟩ := result_finishCompile hopened.lifeCycle
  have hs : s.engine.Stage given := hopened.turn (turn_next opened .finishCompile)
  have hplan : s.engine.SamePlan t.engine := samePlan_steps hs hsealed later
  have ht : t.engine.LifeCycle given := (stage_steps hs later).lifeCycle
  have hstill : t.engine.isSealed = true := hplan.isSealed.trans hsealed
  refine ⟨?_, hsealed, hs.lifeCycle.phase_of_isSealed hsealed, hplan, ?_, fun spec ↦ ?_⟩
  · rw [answer, hresult]
    rfl
  · rw [answer, finishCompile_of_lifeCycle ht hstill]
    rfl
  · rw [answer, compile_of_isSealed hstill]
    rfl

end Session

end ProgressActions
