import ProgressActions.Proofs.Firing

/-!
# Signals are blocked before they are waited for

The signals of a program are blocked together when the engine is set to work, and the set never
changes afterwards. So the signal events of a run are that one block, followed by one wait on the
blocked set for each action that waits, in the order in which these actions are begun. This holds for
calls in any order, also where a program ends in a fault.
-/

namespace ProgressActions

open Event

def Event.isSignal : Event → Bool
  | block _ => true
  | wait _ => true
  | _ => false

theorem Event.silent_isSignal : Silent isSignal := by
  intro event h
  cases event <;> first | rfl | cases h

def waitsOn (set awaited : List Signal) : List Event := awaited.map fun _ ↦ .wait set

/-- The only deed of an action on signals is the wait it asks for. -/
theorem Action.filter_isSignal_deeds (action : Action) (archive : String) (signals : List Signal)
    (checkpoint : Nat) :
    (action.deeds archive signals checkpoint).filter Event.isSignal =
      waitsOn signals action.awaited?.toList := by
  cases action with
  | sleep seconds =>
    change List.filter Event.isSignal (if seconds = 0 then [] else _) = []
    split <;> rfl
  | _ => rfl

/-- The block and wait events so far. -/
def World.signalEvents (w : World) : List Event := w.selected Event.isSignal

/-- No turn of an engine takes an action out of its program. -/
theorem Engine.Turn.program_isPrefix {e f : Engine} (h : e.Turn f) : e.program <+: f.program := by
  cases h with
  | append action => exact List.prefix_append _ _
  | supply => exact List.prefix_append _ _
  | _ => exact List.prefix_refl _

namespace Session

variable {σ : Type} [Host σ]

/-- Calls only ever add to the program. -/
theorem program_isPrefix_steps (s : Session σ) (calls : List (Call σ)) :
    s.engine.program <+: (s.steps calls).engine.program := by
  induction calls generalizing s with
  | nil => exact List.prefix_refl _
  | cons call rest ih => exact (turn_next s call).program_isPrefix.trans (ih _)

/-- The signals that the actions of a row of calls wait for, each at its turn. -/
def awaitedBy (calls : List (Call σ)) (s : Session σ) : List Signal :=
  (s.actionsOf calls).filterMap Action.awaited?

/-! ## The signal events of a call -/

/-- A program waits for its signals in their order. -/
theorem signalEvents_carryOutAll (isWrite : Bool) (program : List Action) (s : Session σ) :
    (s.carryOutAll isWrite program).world.signalEvents =
      s.world.signalEvents ++
        waitsOn s.engine.signals.toList (program.filterMap Action.awaited?) := by
  induction program generalizing s with
  | nil => exact (List.append_nil _).symm
  | cons action rest ih =>
    have hfirst : (s.carryOut isWrite action).world.signalEvents = s.world.signalEvents ++ _ :=
      selected_carryOut silent_isSignal isWrite action s
    have hset := (sameWork_carryOut isWrite action s).signals
    rw [carryOutAll_cons, ih, hfirst, Action.filter_isSignal_deeds, hset, List.append_assoc]
    cases hawaited : action.awaited? with
    | none => rw [List.filterMap_cons_none hawaited]; rfl
    | some signal => rw [List.filterMap_cons_some hawaited]; rfl

/-- A tick waits once for each action with a wait that it begins. -/
theorem signalEvents_tick (isWrite : Bool) (s : Session σ) :
    (s.tick isWrite).2.world.signalEvents =
      s.world.signalEvents ++
        waitsOn s.engine.signals.toList
          ((s.callActions (.tick isWrite)).filterMap Action.awaited?) := by
  obtain htick | ⟨htick, hnone⟩ := tick_callActions isWrite s
  · rw [htick]
    exact signalEvents_carryOutAll isWrite _ s.count
  · rw [htick, hnone]
    exact (List.append_nil _).symm

/-! ## The order of the signal events -/

/-- A session records its signal events in order, after those that came before: the block when the
engine is set to work, and then the waits of the actions that were begun. -/
def BlocksFirst (before : List Event) (awaited : List Signal) (s : Session σ) : Prop :=
  (s.engine.phase ≠ .running → s.world.signalEvents = before ∧ awaited = []) ∧
    (s.engine.phase = .running →
      s.world.signalEvents = before ++ .block s.engine.signals.toList ::
        waitsOn s.engine.signals.toList awaited)

omit [Host σ] in
/-- As long as the engine is not at work there is no signal event. -/
theorem BlocksFirst.of_idle {before : List Event} {s : Session σ}
    (hidle : s.engine.phase ≠ .running) (h : s.world.signalEvents = before) :
    s.BlocksFirst before [] :=
  ⟨fun _ ↦ ⟨h, rfl⟩, fun hrunning ↦ absurd hrunning hidle⟩

omit [Host σ] in
/-- The engine is set to work, and its signals are blocked. -/
theorem BlocksFirst.start {before : List Event} {s : Session σ} (h : s.world.signalEvents = before) :
    (s.start.onEngine Engine.complete).BlocksFirst before [] := by
  refine ⟨fun hidle ↦ absurd rfl hidle, fun _ ↦ ?_⟩
  have hstart : s.start.world.signalEvents =
      s.world.signalEvents ++ [.block s.engine.signals.toList] :=
    selected_start (silent_isSignal.ignores .stderr).log s
  rwa [h] at hstart

omit [Host σ] in
theorem BlocksFirst.finishCompile {before : List Event} {s : Session σ}
    (hidle : s.engine.phase ≠ .running) (h : s.world.signalEvents = before) :
    s.finishCompile.2.BlocksFirst before [] := by
  by_cases hphase : s.engine.phase = .compiling
  · rw [finishCompile_of_compiling hphase]
    exact .start h
  cases hlacks : s.engine.lacksProgram with
  | false =>
    rw [finishCompile_of_not_lacksProgram hphase hlacks]
    exact .of_idle hidle h
  | true =>
    cases hsealed : s.engine.isSealed with
    | true =>
      rw [finishCompile_of_isSealed hsealed hlacks]
      exact .of_idle hidle h
    | false =>
      rw [finishCompile_of_lacksProgram hsealed hlacks]
      exact .start ((selected_compile (silent_isSignal.ignores .stderr).log "echo" s).trans h)

/-- An engine that does not run may be set to work by a call, and nothing else happens to its
signals. -/
theorem BlocksFirst.next_of_idle {before : List Event} {s : Session σ} (call : Call σ)
    (hidle : s.engine.phase ≠ .running) (h : s.world.signalEvents = before) :
    (s.next call).BlocksFirst before ((s.callActions call).filterMap Action.awaited?) := by
  cases call with
  | compile spec =>
    refine .of_idle ?_ ((selected_compile (silent_isSignal.ignores .stderr).log spec s).trans h)
    change (s.compile spec).2.engine.phase ≠ .running
    obtain hkept | ⟨action, -, happend⟩ := engine_compile_cases spec s
    · rwa [hkept]
    · rw [happend]
      exact Phase.noConfusion
  | finishCompile => exact .finishCompile hidle h
  | tick isWrite =>
    have hquiet : s.engine.isEnabled = false := by simp [Engine.isEnabled, hidle]
    have hnone : s.callActions (.tick isWrite) = [] := if_neg fun hfires ↦ by simp [hquiet] at hfires
    have htick : s.next (.tick isWrite) = s := by
      change (s.tick isWrite).2 = s
      unfold tick
      cases s.engine.isSealed <;> simp [hquiet]
    rw [hnone, htick]
    exact .of_idle hidle h
  | finish =>
    refine .of_idle ?_ (((admits_selected silent_isSignal).finish s).trans h)
    change s.finish.2.engine.phase ≠ .running
    obtain hfinish | hfinish := engine_finish s <;> rwa [hfinish]
  | meanwhile world host terminal => exact .of_idle hidle h

/-- Calls on an engine at work add waits only, and leave the set alone. -/
theorem BlocksFirst.next_of_atWork {before : List Event} {awaited : List Signal} {s : Session σ}
    (hwork : s.engine.AtWork) (h : s.BlocksFirst before awaited) (call : Call σ) :
    (s.next call).BlocksFirst before
      (awaited ++ (s.callActions call).filterMap Action.awaited?) := by
  have hnow := h.2 hwork.phase
  have hgoOn {next : Session σ} {more : List Signal} (hphase : next.engine.phase = .running)
      (hset : next.engine.signals = s.engine.signals)
      (hevents : next.world.signalEvents =
        s.world.signalEvents ++ waitsOn s.engine.signals.toList more) :
      next.BlocksFirst before (awaited ++ more) := by
    refine ⟨fun hidle ↦ absurd hphase hidle, fun _ ↦ ?_⟩
    rw [hevents, hset, hnow, waitsOn, waitsOn, waitsOn, List.map_append, List.append_assoc,
      List.cons_append]
  cases hcall : call.direction? with
  | none =>
    have hsame := sameTask_next hwork hcall
    have hnone : s.callActions call = [] := by
      cases call with
      | tick isWrite => cases hcall
      | _ => rfl
    rw [hnone]
    refine hgoOn (hsame.phase.trans hwork.phase) hsame.signals ?_
    have hquiet : ∀ isWrite, call ≠ .tick isWrite := by
      rintro isWrite rfl
      cases hcall
    exact (selected_next_of_running silent_isSignal hwork.isSealed hwork.phase hquiet).trans
      (List.append_nil _).symm
  | some isWrite =>
    obtain rfl := Call.eq_tick_of_direction? hcall
    have hsame := sameTask_tick hwork isWrite
    exact hgoOn (hsame.phase.trans hwork.phase) hsame.signals (signalEvents_tick isWrite s)

/-! ## The law -/

omit [Host σ] in
theorem atWork_of_stage {given : Nat} {s : Session σ} (h : s.engine.Stage given)
    (hrunning : s.engine.phase = .running) : s.engine.AtWork where
  phase := hrunning
  isSealed := (h.lifeCycle.running_iff_isSealed.1 hrunning).1
  interval_pos := Nat.pos_of_ne_zero (h.lifeCycle.interval_of_running hrunning).2

/-- One more call keeps to the order. -/
theorem BlocksFirst.next {given : Nat} {before : List Event} {awaited : List Signal}
    {s : Session σ} (hstage : s.engine.Stage given) (h : s.BlocksFirst before awaited)
    (call : Call σ) :
    (s.next call).BlocksFirst before
      (awaited ++ (s.callActions call).filterMap Action.awaited?) := by
  by_cases hrunning : s.engine.phase = .running
  · exact h.next_of_atWork (atWork_of_stage hstage hrunning) call
  · obtain ⟨hbefore, rfl⟩ := h.1 hrunning
    exact .next_of_idle call hrunning hbefore

/-- A row of calls keeps to the order. -/
theorem BlocksFirst.steps {given : Nat} {before : List Event} {awaited : List Signal}
    {s : Session σ} (hstage : s.engine.Stage given) (h : s.BlocksFirst before awaited)
    (calls : List (Call σ)) :
    (s.steps calls).BlocksFirst before (awaited ++ s.awaitedBy calls) := by
  induction calls generalizing s awaited with
  | nil => rwa [awaitedBy, actionsOf, List.filterMap_nil, List.append_nil]
  | cons call rest ih =>
    have hrest := ih (hstage.turn (turn_next s call)) (h.next hstage call)
    rwa [List.append_assoc, awaitedBy, ← List.filterMap_append] at hrest

/-- An engine that runs goes on running. -/
theorem running_steps {given : Nat} {s : Session σ} (hstage : s.engine.Stage given)
    (hrunning : s.engine.phase = .running) (calls : List (Call σ)) :
    (s.steps calls).engine.phase = .running := by
  induction calls generalizing s with
  | nil => exact hrunning
  | cons call rest ih =>
    have hwork := atWork_of_stage hstage hrunning
    refine ih (hstage.turn (turn_next s call)) ?_
    cases hcall : call.direction? with
    | none => exact (sameTask_next hwork hcall).phase.trans hrunning
    | some isWrite =>
      obtain rfl := Call.eq_tick_of_direction? hcall
      exact (sameTask_tick hwork isWrite).phase.trans hrunning

/-- Whatever is begun stands in the program, and stays there. -/
theorem mem_program_of_mem_actionsOf {s : Session σ} {calls : List (Call σ)} {action : Action}
    (h : action ∈ s.actionsOf calls) : action ∈ (s.steps calls).engine.program := by
  induction calls generalizing s with
  | nil => cases h
  | cons call rest ih =>
    rw [actionsOf, List.mem_append] at h
    obtain hnow | hlater := h
    · have hprefix : s.engine.program <+: ((s.next call).steps rest).engine.program :=
        (turn_next s call).program_isPrefix.trans (program_isPrefix_steps (s.next call) rest)
      exact hprefix.subset (mem_program_of_mem_callActions hnow)
    · exact ih hlater

/-- What is waited for is asked for by the program. -/
theorem wait_mem_program {s : Session σ} {calls : List (Call σ)} {signal : Signal}
    (h : signal ∈ s.awaitedBy calls) : .wait signal ∈ (s.steps calls).engine.program := by
  obtain ⟨action, hmem, hawaited⟩ := List.mem_filterMap.1 h
  have hwait : action = .wait signal := by
    cases action with
    | wait awaited =>
      cases hawaited
      rfl
    | _ => cases hawaited
  rw [← hwait]
  exact mem_program_of_mem_actionsOf hmem

/-- The law of the signals, for every row of calls on a fresh engine. If the engine is ever set to
work, its signals are blocked once, and this block comes before one wait for each action with a wait
that is begun; if it never is, there is no signal event at all. Each wait is on the set that was
blocked. This set holds the signals that the program waits for, so it is not empty at a wait, and the
signal of the action that waits is in it. -/
theorem signalEvents_steps_fresh (given : Nat) (console : Console) (world : World) (host : σ)
    (calls : List (Call σ)) :
    let first := fresh given console world host
    let s := first.steps calls
    let set := s.engine.signals.toList
    let awaited := first.awaitedBy calls
    ((∃ n, (first.steps (calls.take n)).engine.phase = .running) →
        s.world.signalEvents = world.signalEvents ++ .block set :: waitsOn set awaited) ∧
      ((∀ n, (first.steps (calls.take n)).engine.phase ≠ .running) →
        s.world.signalEvents = world.signalEvents ∧ awaited = []) ∧
      (∀ signal, signal ∈ set ↔ .wait signal ∈ s.engine.program) ∧
      ∀ signal ∈ awaited, set ≠ [] ∧ signal ∈ set := by
  intro first s set awaited
  have hstage : s.engine.Stage given := stage_steps_fresh given console world host calls
  have hstart : first.BlocksFirst world.signalEvents [] := .of_idle Phase.noConfusion rfl
  have hlaw : s.BlocksFirst world.signalEvents awaited :=
    hstart.steps (stage_steps_fresh given console world host []) calls
  have hset : ∀ signal, signal ∈ set ↔ .wait signal ∈ s.engine.program := fun signal ↦
    Signal.Mask.mem_toList.trans (hstage.lifeCycle.contains_iff signal)
  refine ⟨fun ⟨n, hrunning⟩ ↦ ?_, fun hnever ↦ ?_, hset, fun signal hawaited ↦ ?_⟩
  · apply hlaw.2
    have hlater :=
      running_steps (stage_steps_fresh given console world host _) hrunning (calls.drop n)
    rwa [← steps_append, List.take_append_drop] at hlater
  · apply hlaw.1
    have hend := hnever calls.length
    rwa [List.take_length] at hend
  · have hmem : signal ∈ set := (hset signal).2 (wait_mem_program hawaited)
    exact ⟨List.ne_nil_of_mem hmem, hmem⟩

end Session

end ProgressActions
