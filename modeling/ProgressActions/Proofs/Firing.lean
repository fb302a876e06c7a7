import ProgressActions.Host.Scripted
import ProgressActions.Proofs.Deeds
import ProgressActions.Proofs.LifeCycle
import ProgressActions.Proofs.Track

/-!
# The firing law

Once its program is complete, an engine at work counts every tick, whatever other calls stand
between the ticks and whichever actions fail. It fires on the multiples of its interval, each time
with the number of the tick and the direction of the call, and each firing does the deeds of the
whole program. An engine that is complete without being at work ignores all ticks.
-/

namespace ProgressActions

namespace Call

variable {σ : Type}

def direction? : Call σ → Option Bool
  | tick isWrite => some isWrite
  | _ => none

theorem eq_tick_of_direction? {call : Call σ} {isWrite : Bool}
    (h : call.direction? = some isWrite) : call = .tick isWrite := by
  cases call with
  | tick given =>
    cases h
    rfl
  | _ => cases h

end Call

namespace Session

variable {σ : Type} [Host σ]

/-- The ticks among a row of calls, each with the session that it finds. -/
def occasions : List (Call σ) → Session σ → List (Occasion σ)
  | [], _ => []
  | call :: rest, s =>
    (call.direction?.map fun isWrite ↦ ⟨isWrite, s⟩).toList ++ occasions rest (s.next call)

/-- The ticks among a row of calls that run the program. -/
def firings (calls : List (Call σ)) (s : Session σ) : List (Occasion σ) :=
  (s.occasions calls).filter Occasion.isFiring

theorem firings_cons_of_not_tick {call : Call σ} (h : call.direction? = none)
    (rest : List (Call σ)) (s : Session σ) :
    s.firings (call :: rest) = (s.next call).firings rest := by
  rw [firings, occasions, h]
  rfl

/-- A tick is a firing if its number is due. -/
theorem firings_cons_tick (isWrite : Bool) (rest : List (Call σ)) (s : Session σ) :
    s.firings (.tick isWrite :: rest) =
      (if (Occasion.mk isWrite s).isFiring then [⟨isWrite, s⟩] else []) ++
        (s.next (.tick isWrite)).firings rest := by
  simp only [firings, occasions, Call.direction?, Option.map_some, Option.toList_some,
    List.filter_append, List.filter_cons, List.filter_nil]

theorem occasions_append (first second : List (Call σ)) (s : Session σ) :
    s.occasions (first ++ second) = s.occasions first ++ (s.steps first).occasions second := by
  induction first generalizing s with
  | nil => rfl
  | cons call rest ih => rw [List.cons_append, occasions, occasions, ih, List.append_assoc, steps_cons]

theorem firings_append (first second : List (Call σ)) (s : Session σ) :
    s.firings (first ++ second) = s.firings first ++ (s.steps first).firings second := by
  rw [firings, occasions_append, List.filter_append]
  rfl

/-- The directions of the ticks are those of the calls. -/
theorem map_isWrite_occasions (calls : List (Call σ)) (s : Session σ) :
    (s.occasions calls).map Occasion.isWrite = calls.filterMap Call.direction? := by
  induction calls generalizing s with
  | nil => rfl
  | cons call rest ih =>
    rw [occasions, List.map_append, ih]
    cases call <;> rfl

end Session

/-- The deeds of a program that a tick runs, action by action. -/
def Occasion.deeds {σ : Type} [Host σ] (program : List Action) (signals : List Signal)
    (o : Occasion σ) : List Event :=
  (program.zip (o.found.count.stages o.isWrite program)).flatMap fun (action, found) ↦
    action.deeds (Host.archive found.host) signals o.number

namespace Session

variable {σ : Type} [Host σ]

/-! ## Calls on an engine at work -/

/-- Only a tick changes the task of an engine at work. -/
theorem sameTask_next {s : Session σ} {call : Call σ} (hwork : s.engine.AtWork)
    (hcall : call.direction? = none) : s.engine.SameTask (s.next call).engine := by
  cases call with
  | compile spec =>
    change s.engine.SameTask (s.compile spec).2.engine
    rw [compile_of_isSealed hwork.isSealed]
    exact .refl _
  | finishCompile =>
    change s.engine.SameTask s.finishCompile.2.engine
    rw [finishCompile_of_not_lacksProgram (by simp [hwork.phase])
      (by simp [Engine.lacksProgram, hwork.phase])]
    exact ⟨rfl, hwork.isSealed.symm, rfl, rfl, rfl, rfl⟩
  | tick isWrite => cases hcall
  | finish =>
    change s.engine.SameTask s.finish.2.engine
    obtain hfinish | hfinish := engine_finish s
    · rw [hfinish]
      exact .refl _
    · rw [hfinish]
      exact ⟨rfl, rfl, rfl, rfl, rfl, rfl⟩
  | meanwhile world host terminal => exact ⟨rfl, rfl, rfl, rfl, rfl, rfl⟩

/-- A row of calls without a fault is a track. -/
theorem track_steps {s : Session σ} {calls : List (Call σ)} (hwork : s.engine.AtWork)
    (hcalm : .error .crash ∉ s.results calls) : s.Track (s.occasions calls) (s.steps calls) := by
  induction calls generalizing s with
  | nil => exact .done s
  | cons call rest ih =>
    rw [results, List.mem_cons, not_or] at hcalm
    obtain ⟨hfirst, hlater⟩ := hcalm
    cases hcall : call.direction? with
    | none =>
      have hsame := sameTask_next hwork hcall
      rw [occasions, hcall]
      exact .meanwhile hsame (ih (hwork.of_sameTask hsame) hlater)
    | some isWrite =>
      obtain rfl := Call.eq_tick_of_direction? hcall
      have hok : (s.tick isWrite).1 = .ok () :=
        (tick_result_of_atWork hwork isWrite).resolve_right fun h ↦ hfirst h.symm
      have hsame := sameTask_tick hwork isWrite
      exact .tick isWrite hok (ih ((hwork.countOn 1).of_sameTask hsame) hlater)

/-- A tick does the deeds of the program if it fires, and none otherwise. -/
theorem deeds_settled (o : Occasion σ) :
    o.settled.world.deeds =
      o.found.world.deeds ++
        if o.isFiring then o.deeds o.found.engine.program o.found.engine.signals.toList
        else [] := by
  unfold Occasion.settled
  split
  · rw [deeds_carryOutAll]
    rfl
  · exact (List.append_nil _).symm

/-- The deeds of a row of calls are those of its firings. -/
theorem deeds_steps {s : Session σ} {calls : List (Call σ)} (hwork : s.engine.AtWork)
    (hcalm : .error .crash ∉ s.results calls) :
    (s.steps calls).world.deeds =
      s.world.deeds ++
        (s.firings calls).flatMap (Occasion.deeds s.engine.program s.engine.signals.toList) := by
  induction calls generalizing s with
  | nil => simp [firings, occasions]
  | cons call rest ih =>
    rw [results, List.mem_cons, not_or] at hcalm
    obtain ⟨hfirst, hlater⟩ := hcalm
    cases hcall : call.direction? with
    | none =>
      have hsame := sameTask_next hwork hcall
      have hdeeds : (s.next call).world.deeds = s.world.deeds := by
        refine deeds_next_of_running hwork.isSealed hwork.phase fun isWrite h ↦ ?_
        rw [h] at hcall
        cases hcall
      rw [steps_cons, ih (hwork.of_sameTask hsame) hlater, hdeeds, hsame.program, hsame.signals,
        firings_cons_of_not_tick hcall]
    | some isWrite =>
      obtain rfl := Call.eq_tick_of_direction? hcall
      have hok : (s.tick isWrite).1 = .ok () :=
        (tick_result_of_atWork hwork isWrite).resolve_right fun h ↦ hfirst h.symm
      have hsame : (s.engine.countOn 1).SameTask (s.next (.tick isWrite)).engine :=
        sameTask_tick hwork isWrite
      have hprogram : (s.next (.tick isWrite)).engine.program = s.engine.program := hsame.program
      have hsignals : (s.next (.tick isWrite)).engine.signals = s.engine.signals := hsame.signals
      have hnext : s.next (.tick isWrite) = (Occasion.mk isWrite s).settled :=
        congrArg Prod.snd (tick_of_ok hwork hok)
      have hdeeds := deeds_settled (Occasion.mk isWrite s)
      rw [← hnext] at hdeeds
      rw [steps_cons, ih ((hwork.countOn 1).of_sameTask hsame) hlater, hdeeds, hprogram, hsignals,
        firings_cons_tick, List.flatMap_append, List.append_assoc]
      split <;> simp

/-! ## Completing a program -/

omit [Host σ] in
theorem finishCompile_of_open {s : Session σ} (hopen : s.engine.isSealed = false) :
    s.finishCompile.2.engine.isSealed = true ∧
      s.finishCompile.2.engine.ticks = s.engine.ticks := by
  obtain ⟨-, h⟩ | ⟨-, -, h⟩ | ⟨-, -, h⟩ | ⟨hsealed, -⟩ := finishCompile_cases s
  · rw [h]
    exact ⟨rfl, rfl⟩
  · rw [h]
    exact ⟨rfl, rfl⟩
  · rw [h]
    exact ⟨rfl, rfl⟩
  · rw [hopen] at hsealed
    cases hsealed

/-! ## Engines that are idle for good -/

/-- A complete engine that is idle remains so. -/
theorem idle_of_turn {e f : Engine} (hsealed : e.isSealed = true)
    (hphase : e.phase = .uninitialized) (h : e.Turn f) :
    f.isSealed = true ∧ f.phase = .uninitialized := by
  cases h with
  | stay => exact ⟨hsealed, hphase⟩
  | append action hopen => simp [hsealed] at hopen
  | complete => exact ⟨rfl, hphase⟩
  | start hcompiling => simp [hphase] at hcompiling
  | supply hopen => simp [hsealed] at hopen
  | tick => exact ⟨hsealed, hphase⟩
  | release => exact ⟨hsealed, hphase⟩
  | surround => exact ⟨hsealed, hphase⟩

/-- An idle engine does not even count. -/
theorem tick_of_mem_occasions_of_idle {s : Session σ} {calls : List (Call σ)}
    (hsealed : s.engine.isSealed = true) (hphase : s.engine.phase = .uninitialized)
    {o : Occasion σ} (ho : o ∈ s.occasions calls) :
    o.found.tick o.isWrite = (.ok (), o.found) := by
  induction calls generalizing s with
  | nil => cases ho
  | cons call rest ih =>
    rw [occasions, List.mem_append] at ho
    obtain ho | ho := ho
    · cases call with
      | tick isWrite =>
        obtain rfl : o = ⟨isWrite, s⟩ := by simpa [Call.direction?] using ho
        exact tick_of_idle hsealed hphase isWrite
      | _ => simp [Call.direction?] at ho
    · obtain ⟨hstill, hidle⟩ := idle_of_turn hsealed hphase (turn_next s call)
      exact ih hstill hidle ho

/-! ## The law -/

/-- A row of calls keeps to the schedule of the program that a session has completed. -/
structure OnSchedule (s : Session σ) (calls : List (Call σ)) : Prop where
  /-- The ticks are those that the calls ask for. -/
  directions : (s.occasions calls).map Occasion.isWrite = calls.filterMap Call.direction?
  /-- All of them succeed. -/
  succeed : ∀ o ∈ s.occasions calls, (o.found.tick o.isWrite).1 = .ok ()
  /-- All of them count. -/
  ticks : (s.steps calls).engine.ticks = (s.occasions calls).length
  /-- A tick that fires carries out the whole program; the others only count. -/
  settle : ∀ o ∈ s.occasions calls, (o.found.tick o.isWrite).2 =
    if o.isFiring then o.found.count.carryOutAll o.isWrite s.engine.program else o.found.count
  /-- Those that fire stand at the multiples of the interval. -/
  firings : (s.firings calls).map some =
    (List.range ((s.occasions calls).length / s.engine.interval)).map fun i ↦
      (s.occasions calls)[(i + 1) * s.engine.interval - 1]?
  /-- They bear the multiples of the interval as their numbers. -/
  numbers : (s.firings calls).map Occasion.number =
    (List.range ((s.occasions calls).length / s.engine.interval)).map fun i ↦
      (i + 1) * s.engine.interval
  /-- Each of them does all deeds of the program, and nothing else does any. -/
  deeds : (s.steps calls).world.deeds =
    s.world.deeds ++
      (s.firings calls).flatMap (Occasion.deeds s.engine.program s.engine.signals.toList)

/-- An engine at work keeps to the schedule as long as there is no fault. -/
theorem onSchedule_of_atWork {s : Session σ} {calls : List (Call σ)} (hwork : s.engine.AtWork)
    (hticks : s.engine.ticks = 0) (hcalm : .error .crash ∉ s.results calls) :
    s.OnSchedule calls := by
  have htrack := track_steps hwork hcalm
  have hcount := (htrack.sameTask hwork).ticks
  refine
    { directions := map_isWrite_occasions calls s
      succeed := fun o ho ↦ htrack.result_of_mem ho
      ticks := ?_
      settle := fun o ho ↦ ?_
      firings := htrack.firings hwork hticks
      numbers := htrack.map_number_firings hwork hticks
      deeds := deeds_steps hwork hcalm }
  · rw [hcount, Engine.countOn, hticks, Nat.zero_add]
  · obtain ⟨j, hsame⟩ := htrack.sameTask_of_mem hwork ho
    have hprogram : o.found.engine.program = s.engine.program := hsame.program
    rw [htrack.tick_of_mem hwork ho, Occasion.settled, hprogram]

/-- The firing law, from the moment that any program is completed: every later row of calls keeps to
the schedule if the engine is at work, and no tick changes anything if it is not. -/
theorem onSchedule_of_finishCompile (given : Nat) (console : Console) (world : World) (host : σ)
    (before later : List (Call σ))
    (hopen : ((fresh given console world host).steps before).engine.isSealed = false) :
    let s := ((fresh given console world host).steps before).next .finishCompile
    s.engine.isSealed = true ∧
      (s.engine.phase = .running → .error .crash ∉ s.results later → s.OnSchedule later) ∧
      (s.engine.phase ≠ .running →
        ∀ o ∈ s.occasions later, o.found.tick o.isWrite = (.ok (), o.found)) := by
  intro s
  have hbefore := (stage_steps_fresh given console world host before).lifeCycle
  have hlaw : s.engine.LifeCycle given := by
    have hstage := stage_steps_fresh given console world host (before ++ [.finishCompile])
    rw [steps_append] at hstage
    exact hstage.lifeCycle
  have hsealed : s.engine.isSealed = true := (finishCompile_of_open hopen).1
  have hticks : s.engine.ticks = 0 :=
    (finishCompile_of_open hopen).2.trans
      (hbefore.of_not_running (hbefore.not_running_of_open hopen)).1
  refine ⟨hsealed, fun hrunning hcalm ↦ ?_, fun hidle o ho ↦ ?_⟩
  · have hpositive := Nat.pos_of_ne_zero (hlaw.interval_of_running hrunning).2
    exact onSchedule_of_atWork ⟨hrunning, hsealed, hpositive⟩ hticks hcalm
  · have hphase := hlaw.uninitialized_of_isSealed hsealed hidle
    exact tick_of_mem_occasions_of_idle hsealed hphase ho

/-- A command that its host refuses stands in a program that keeps to its schedule. -/
theorem onSchedule_of_refused_exec :
    (((fresh 2 ⟨.listing, .diagnostics, .error "no terminal"⟩ {}
      ({ execError := some "refused" } : ScriptedHost)).steps [.compile "exec=true"]).next
        .finishCompile).OnSchedule [.tick true, .tick false, .finish, .tick true] := by
  have hlaw := onSchedule_of_finishCompile 2 ⟨.listing, .diagnostics, .error "no terminal"⟩ {}
    ({ execError := some "refused" } : ScriptedHost) [.compile "exec=true"]
    [.tick true, .tick false, .finish, .tick true] (by decide +kernel)
  exact hlaw.2.1 (by decide +kernel) (by decide +kernel)

end Session

end ProgressActions
