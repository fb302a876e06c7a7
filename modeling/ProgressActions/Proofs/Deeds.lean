import ProgressActions.Proofs.Selection

/-!
# The deeds of a program

Most events of a run are output. A few are deeds: the commands that a host is asked to run, the
pauses, the waits for signals, and the requests to print totals. Each action has its deeds laid
down, and none of them depends on what becomes of the output. So the deeds of a program are those of
its actions, one after the other, whichever of them fail; and whatever kind of events is read off a
trace, without output among it, an action adds just its deeds of that kind.
-/

namespace ProgressActions

def Event.isDeed : Event → Bool
  | sleep _ => true
  | wait _ => true
  | printTotals => true
  | exec _ _ _ => true
  | _ => false

theorem Event.silent_isDeed : Event.Silent Event.isDeed := by
  intro event h
  cases event <;> first | rfl | cases h

namespace Action

/-- The deeds of an action at a checkpoint, given the archive that its host is at and the signals
that its program waits for. -/
def deeds (archive : String) (signals : List Signal) (checkpoint : Nat) :
    Action → List Event
  | sleep seconds => if seconds = 0 then [] else [.sleep (.ofSeconds seconds)]
  | exec command => [.exec command archive checkpoint]
  | totals => [.printTotals]
  | wait _ => [.wait signals]
  | _ => []

/-- An action that only writes has no deeds. -/
theorem deeds_of_isOutput {action : Action} (h : action.isOutput = true) (archive : String)
    (signals : List Signal) (checkpoint : Nat) : action.deeds archive signals checkpoint = [] := by
  cases action <;> first | rfl | cases h

theorem filter_isDeed_deeds (action : Action) (archive : String) (signals : List Signal)
    (checkpoint : Nat) :
    (action.deeds archive signals checkpoint).filter Event.isDeed =
      action.deeds archive signals checkpoint := by
  cases action with
  | sleep seconds =>
    change List.filter Event.isDeed (if seconds = 0 then [] else _) = if seconds = 0 then [] else _
    split <;> rfl
  | _ => rfl

end Action

namespace World

def deeds (w : World) : List Event := w.events.filter Event.isDeed

variable {kind : Event → Bool}

theorem selected_advance (w : World) (time : Duration) :
    (w.advance time).selected kind = w.selected kind := rfl

/-- A pause leaves an event unless it has no length. -/
theorem selected_pause (w : World) (seconds : Nat) :
    (w.pause (.ofSeconds seconds)).selected kind =
      w.selected kind ++
        (if seconds = 0 then [] else [.sleep (.ofSeconds seconds)]).filter kind := by
  have hzero : (Duration.ofSeconds seconds).nanoseconds = 0 ↔ seconds = 0 := by
    change seconds * 1000000000 + 0 = 0 ↔ seconds = 0
    omega
  unfold pause
  by_cases h : seconds = 0
  · rw [if_pos (hzero.2 h), if_pos h, List.filter_nil, List.append_nil]
  · rw [if_neg (mt hzero.1 h), if_neg h, selected_advance, selected_record]

end World

namespace Session

open Event

variable {σ : Type} [Host σ] {kind : Event → Bool}

/-! ## Actions -/

theorem selected_freshTotals (h : Ignores kind .stdout) (s : Scene σ) :
    (Act.freshTotals.run.run s).2.world.selected kind =
      s.world.selected kind ++ [.printTotals].filter kind := by
  have hasked : (s.world.record .askElapsed).selected kind = s.world.selected kind :=
    World.selected_record_of_not (h _ (by rfl)) _
  have hprint : ((s.world.record .askElapsed).record .printTotals).selected kind =
      s.world.selected kind ++ [.printTotals].filter kind := by
    rw [World.selected_record, hasked]
  unfold Act.freshTotals
  rw [Act.run_bind, Act.run_elapsed]
  dsimp only
  rw [Act.run_printTotals]
  dsimp only
  split
  · rw [Act.run_write]
    exact (World.selected_write (fun _ ↦ h _ (by rfl)) _).trans hprint
  · exact hprint

/-- An action that is not output adds its deeds. -/
theorem selected_perform_of_not_isOutput (h : Ignores kind .stdout) {action : Action}
    (haction : action.isOutput = false) (isWrite : Bool) (s : Session σ) :
    (s.perform isWrite action).2.world.selected kind =
      s.world.selected kind ++
        (action.deeds (Host.archive s.host) s.engine.signals.toList s.engine.ticks).filter kind := by
  cases action with
  | sleep seconds => exact World.selected_pause s.world seconds
  | exec command =>
    change ((Act.exec command (Host.archive s.host) s.engine.ticks).run.run
      s.scene).2.world.selected kind = _
    rw [Act.run_exec]
    dsimp only
    rw [World.selected_settled h.log fun _ ↦ h _ (by rfl)]
    exact World.selected_record _ _
  | totals => exact selected_freshTotals h s.scene
  | wait signal => exact World.selected_record _ _
  | _ => cases haction

/-- An action does its deeds, whatever becomes of it. -/
theorem selected_perform (h : Silent kind) (isWrite : Bool) (action : Action) (s : Session σ) :
    (s.perform isWrite action).2.world.selected kind =
      s.world.selected kind ++
        (action.deeds (Host.archive s.host) s.engine.signals.toList s.engine.ticks).filter kind := by
  cases haction : action.isOutput with
  | true =>
    rw [(admits_selected h).perform haction, Action.deeds_of_isOutput haction, List.filter_nil,
      List.append_nil]
  | false => exact selected_perform_of_not_isOutput (h.ignores .stdout) haction isWrite s

/-- Whatever fails in it, an action does its own deeds and no others. -/
theorem selected_carryOut (h : Silent kind) (isWrite : Bool) (action : Action) (s : Session σ) :
    (s.carryOut isWrite action).world.selected kind =
      s.world.selected kind ++
        (action.deeds (Host.archive s.host) s.engine.signals.toList s.engine.ticks).filter kind := by
  rw [← selected_perform h isWrite action s]
  obtain hcarry | ⟨message, hcarry⟩ := carryOut_cases isWrite action s <;> rw [hcarry]
  exact (admits_selected h).debug engineModule message _

/-! ## Programs -/

/-- The deeds of a program, action by action. -/
theorem deeds_carryOutAll (isWrite : Bool) (program : List Action) (s : Session σ) :
    (s.carryOutAll isWrite program).world.deeds =
      s.world.deeds ++ (program.zip (s.stages isWrite program)).flatMap fun (action, found) ↦
        action.deeds (Host.archive found.host) s.engine.signals.toList s.engine.ticks := by
  induction program generalizing s with
  | nil => simp
  | cons action rest ih =>
    have hsame := sameWork_carryOut isWrite action s
    have hfirst : (s.carryOut isWrite action).world.deeds = s.world.deeds ++ _ :=
      selected_carryOut silent_isDeed isWrite action s
    rw [carryOutAll_cons, ih, hfirst, Action.filter_isDeed_deeds, hsame.signals, hsame.ticks, stages,
      List.zip_cons_cons, List.flatMap_cons, List.append_assoc]

/-! ## Calls -/

/-- Only a tick does deeds once a program is complete and at work. -/
theorem selected_next_of_running (h : Silent kind) {s : Session σ} {call : Call σ}
    (hsealed : s.engine.isSealed = true) (hrunning : s.engine.phase = .running)
    (hcall : ∀ isWrite, call ≠ .tick isWrite) :
    (s.next call).world.selected kind = s.world.selected kind := by
  cases call with
  | compile spec =>
    change (s.compile spec).2.world.selected kind = _
    rw [compile_of_isSealed hsealed]
  | finishCompile =>
    change s.finishCompile.2.world.selected kind = _
    rw [finishCompile_of_not_lacksProgram (by simp [hrunning])
      (by simp [Engine.lacksProgram, hrunning])]
    rfl
  | tick isWrite => exact absurd rfl (hcall isWrite)
  | finish => exact (admits_selected h).finish s
  | meanwhile world host terminal => rfl

/-- At work, only ticks have deeds. -/
theorem deeds_next_of_running {s : Session σ} {call : Call σ} (hsealed : s.engine.isSealed = true)
    (hrunning : s.engine.phase = .running) (hcall : ∀ isWrite, call ≠ .tick isWrite) :
    (s.next call).world.deeds = s.world.deeds :=
  selected_next_of_running silent_isDeed hsealed hrunning hcall

end Session

end ProgressActions
