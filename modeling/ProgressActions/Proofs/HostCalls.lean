import ProgressActions.Proofs.Moves
import ProgressActions.Proofs.Selection

/-!
# Calls on the host

What a host is asked for can be read off the trace. Among the moves of an activity, each call on the
host leaves just one event of that kind, and output leaves none. What an engine does on its own account,
as when it opens the terminal or keeps its log, is no call at all.
-/

namespace ProgressActions

/-- A kind of events that holds nothing but calls on the host. -/
def Event.Calls (kind : Event → Bool) : Prop :=
  ∀ event : Event, event.isHostCall = false → kind event = false

theorem Event.calls_isHostCall : Event.Calls Event.isHostCall := fun _ h ↦ h

open Event

variable {σ : Type} {kind : Event → Bool}

/-- Output is no call on the host. -/
theorem Event.Calls.write (h : Calls kind) (stream : Stream) (content : List UInt8) :
    kind (.write stream content) = false := h _ rfl

def Move.call? : Move → Option Event
  | .askElapsed => some .askElapsed
  | .askTotals labels separator => some (.askTotals labels separator)
  | .printTotals => some .printTotals
  | .exec command archive checkpoint => some (.exec command archive checkpoint)
  | .reportError message => some (.reportError message)
  | _ => none

def Move.IsQuiet (m : Move) : Prop := m.call? = none

theorem Move.isQuiet_write (stream : Stream) (content : List UInt8) :
    (Move.write stream content).IsQuiet := rfl

theorem Move.isQuiet_flush (stream : Stream) : (Move.flush stream).IsQuiet := rfl

namespace Scene

variable [Host σ]

/-- A move leaves the call that it is. -/
theorem selected_move (h : Calls kind) (s : Scene σ) (m : Move) :
    (s.move m).world.selected kind = s.world.selected kind ++ m.call?.toList.filter kind := by
  have hquiet {w : World} (hw : w.selected kind = s.world.selected kind) :
      w.selected kind = s.world.selected kind ++ [].filter kind := by
    rw [hw, List.filter_nil, List.append_nil]
  cases m with
  | write stream content => exact hquiet (World.selected_write (h.write stream) s.world)
  | flush stream => exact hquiet (World.selected_record_of_not (h _ rfl) s.world)
  | exec command archive checkpoint =>
    exact (World.selected_settled (h.write .stderr) (h.write .stdout) _ _).trans (World.selected_record _ _)
  | reportError message =>
    exact (World.selected_noted (h.write .stderr) _ _).trans (World.selected_record _ _)
  | returnLine => exact hquiet rfl
  | _ => exact World.selected_record _ _

/-- A row of moves leaves its calls, one after the other. -/
theorem selected_moves (h : Calls kind) (row : List Move) (s : Scene σ) :
    (s.moves row).world.selected kind =
      s.world.selected kind ++ (row.filterMap Move.call?).filter kind := by
  induction row generalizing s with
  | nil => simp
  | cons m rest ih =>
    rw [moves_cons, ih, selected_move h, List.append_assoc, ← List.filter_append]
    cases hcall : m.call? <;> simp [hcall]

end Scene

namespace Act

variable {α β : Type} [Host σ]

/-- What an activity asks of its host is settled once only quiet moves are to come. -/
theorem selected_bind_of_isQuiet (h : Calls kind) {first : Act σ α} {second : α → Act σ β}
    (hquiet : ∀ a, MadeOf Move.IsQuiet (second a)) (s : Scene σ) :
    ((first >>= second).run.run s).2.world.selected kind =
      (first.run.run s).2.world.selected kind := by
  rw [run_bind]
  rcases first.run.run s with ⟨cause | a, next⟩
  · rfl
  · obtain ⟨row, hrow, hnext⟩ := (hquiet a).exists_moves next
    have hnone : row.filterMap Move.call? = [] := List.filterMap_eq_nil_iff.2 hrow
    dsimp only
    rw [hnext, Scene.selected_moves h, hnone, List.filter_nil, List.append_nil]

end Act

namespace Session

theorem selected_openTerminal_of_calls (h : Calls kind) (s : Session σ) :
    s.openTerminal.world.selected kind = s.world.selected kind := by
  unfold openTerminal
  split
  · split
    · exact World.selected_record_of_not (h _ rfl) _
    · exact (World.selected_debug (h.write .stderr) _ _ _).trans
        (World.selected_record_of_not (h _ rfl) _)
  · rfl

theorem selected_closeTerminal_of_calls (h : Calls kind) (s : Session σ) :
    s.closeTerminal.world.selected kind = s.world.selected kind := by
  unfold closeTerminal
  cases s.engine.slot with
  | opened =>
    exact (World.selected_record_of_not (h _ rfl) _).trans
      (World.selected_record_of_not (h _ rfl) _)
  | _ => rfl

/-- A note of a failure is no call on the host. -/
theorem selected_carryOut_of_calls [Host σ] (h : Calls kind) (isWrite : Bool) (action : Action)
    (s : Session σ) :
    (s.carryOut isWrite action).world.selected kind =
      (s.perform isWrite action).2.world.selected kind := by
  obtain hcarry | ⟨message, hcarry⟩ := carryOut_cases isWrite action s
  · rw [hcarry]
  · rw [hcarry]
    exact World.selected_debug (h.write .stderr) _ _ _

end Session

end ProgressActions
