import ProgressActions.Host.Scripted
import ProgressActions.Proofs.Account
import ProgressActions.Proofs.Isolation
import ProgressActions.Proofs.Moves

/-!
# A terminal that cannot be had

A program that misses the terminal does what it would do without its actions there: each of them is
passed over, at most after an attempt to open the terminal that is noted in the log. Two runs, one of
the whole program and one of the program without these actions, go side by side. They have the same
results and hosts, and worlds that differ only in the attempts that the one run makes and the other
does not.
-/

namespace ProgressActions

namespace Event

def isOpening : Event → Bool
  | openTerminal _ => true
  | _ => false

/-- From a common start, a long row of events is a short one with failed attempts to open the terminal
in between, each followed by a notice. The short row goes on without any attempt. -/
inductive Misses (notice start : List Event) : List Event → List Event → Prop where
  | start : Misses notice start start start
  | both {long short : List Event} (h : Misses notice start long short) (event : Event)
      (hevent : event.isOpening = false) : Misses notice start (long ++ [event]) (short ++ [event])
  | miss {long short : List Event} (h : Misses notice start long short) :
      Misses notice start (long ++ .openTerminal false :: notice) short

namespace Misses

variable {notice start long short : List Event}

theorem append (h : Misses notice start long short) {row : List Event}
    (hrow : row.filter isOpening = []) : Misses notice start (long ++ row) (short ++ row) := by
  induction row generalizing long short with
  | nil => simpa only [List.append_nil] using h
  | cons event rest ih =>
    rw [List.filter_eq_nil_iff] at hrow
    have hevent : event.isOpening = false := by simpa using hrow event List.mem_cons_self
    have hrest : rest.filter isOpening = [] :=
      List.filter_eq_nil_iff.2 fun other hother ↦ hrow other (List.mem_cons_of_mem _ hother)
    have hall := ih (h.both event hevent) hrest
    simpa only [List.append_assoc, List.singleton_append] using hall

/-- Whoever sees neither the attempts nor the notices sees no difference. -/
theorem filter_eq (h : Misses notice start long short) {kind : Event → Bool}
    (hmiss : kind (.openTerminal false) = false) (hnotice : notice.filter kind = []) :
    long.filter kind = short.filter kind := by
  induction h with
  | start => rfl
  | both _ event _ ih => rw [List.filter_append, List.filter_append, ih]
  | miss _ ih => rw [List.filter_append, List.filter_cons_of_neg (by simp [hmiss]), hnotice, ih,
      List.append_nil]

/-- If the notices store nothing on a stream, the two rows store the same there. -/
theorem contents_eq (h : Misses notice start long short) {stream : Stream}
    (hnotice : Event.contents stream notice = []) :
    Event.contents stream long = Event.contents stream short := by
  induction h with
  | start => rfl
  | both _ event _ ih => rw [contents_append, contents_append, ih]
  | miss _ ih =>
    have hmiss : Event.contents stream (.openTerminal false :: notice) = [] := hnotice
    rw [contents_append, hmiss, ih, List.append_nil]

/-- The short row has the attempts of the start only. -/
theorem filter_isOpening (h : Misses notice start long short) :
    short.filter isOpening = start.filter isOpening := by
  induction h with
  | start => rfl
  | both _ event hevent ih => rw [List.filter_append, ih, List.filter_cons_of_neg (by simp [hevent]),
      List.filter_nil, List.append_nil]
  | miss _ ih => exact ih

end Misses

end Event

open Event

namespace World

theorem verbose_write (w : World) (stream : Stream) (content : List UInt8) :
    (w.write stream content).2.verbose = w.verbose := by
  unfold write
  dsimp only
  split <;> rfl

theorem verbose_debug (w : World) (moduleName message : String) :
    (w.debug moduleName message).verbose = w.verbose := by
  unfold debug
  split
  · exact verbose_write w .stderr _
  · rfl

theorem verbose_pause (w : World) (time : Duration) : (w.pause time).verbose = w.verbose := by
  unfold pause
  split <;> rfl

theorem verbose_settled (report : ScriptReport) (w : World) :
    (Act.settled report w).verbose = w.verbose := by
  have hshown : ((w.write .stdout report.stdout).2.write .stderr report.stderr).2.verbose =
      w.verbose := by rw [verbose_write, verbose_write]
  unfold Act.settled
  dsimp only
  split
  · exact (verbose_write _ .stderr _).trans hshown
  · exact hshown

theorem verbose_noted (line : Option String) (w : World) :
    (Act.noted line w).verbose = w.verbose := by
  cases line with
  | none => rfl
  | some text => exact verbose_write w .stderr _

/-- What is logged about a failed attempt to open the terminal, if anything is. -/
def missNotice (reason : String) (verbose : Bool) : List Event :=
  if verbose then
    [.write .stderr (Text.bytes (Log.line "tty" ("cannot open terminal: " ++ reason)))]
  else []

/-- A notice is seen on the standard error only, and only among debug messages. -/
theorem contents_missNotice {stream : Stream} {verbose : Bool}
    (h : stream ≠ .stderr ∨ verbose = false) (reason : String) :
    Event.contents stream (missNotice reason verbose) = [] := by
  unfold missNotice
  split
  · rename_i hverbose
    have hstream : .stderr ≠ stream := (h.resolve_right (by simp [hverbose])).symm
    simp [Event.contents, contentOn, hstream]
  · rfl

/-- Two worlds that differ in failed attempts to open the terminal, which the second one lacks. -/
structure Missed (notice start : List Event) (v w : World) : Prop where
  forget : w.forget = v.forget
  events : Misses notice start v.events w.events

namespace Missed

variable {notice start : List Event} {v w : World}

/-- The same things happen in both worlds, none of them an attempt. -/
theorem preceded (h : v.Missed notice start w) {after : World}
    (hquiet : after.selected isOpening = []) :
    (after.preceded v.trace).Missed notice start (after.preceded w.trace) := by
  refine ⟨rfl, ?_⟩
  rw [events_preceded, events_preceded]
  exact h.events.append hquiet

/-- A change that neither looks at the trace nor tries the terminal, in both worlds. -/
theorem change (h : v.Missed notice start w) {f : World → World}
    (hblind : ∀ earlier w, f (w.preceded earlier) = (f w).preceded earlier)
    (hquiet : (f v.forget).selected isOpening = []) :
    (f v).Missed notice start (f w) := by
  have hv : f v = (f v.forget).preceded v.trace := by rw [← hblind, preceded_forget]
  have hw : f w = (f v.forget).preceded w.trace := by rw [← hblind, ← h.forget, preceded_forget]
  rw [hv, hw]
  exact h.preceded hquiet

/-- A failed attempt in the first world. -/
theorem attempt {reason : String} (h : v.Missed (missNotice reason v.verbose) start w) :
    ((v.record (.openTerminal false)).debug "tty" ("cannot open terminal: " ++ reason)).Missed
      (missNotice reason v.verbose) start w where
  forget := by
    rw [h.forget]
    unfold debug
    split
    · rw [log_eq]
      rfl
    · rfl
  events := by
    have hevents : ((v.record (.openTerminal false)).debug "tty"
        ("cannot open terminal: " ++ reason)).events =
          v.events ++ .openTerminal false :: missNotice reason v.verbose := by
      rw [events_debug, events_record, List.append_assoc]
      rfl
    rw [hevents]
    exact h.events.miss

end Missed

end World

variable {σ : Type}

/-! ## Moves -/

namespace Scene

variable [Host σ]

/-- No move of an activity changes how much is logged. -/
theorem verbose_moves (row : List Move) (s : Scene σ) :
    (s.moves row).world.verbose = s.world.verbose := by
  apply moves_of_kept (fun _ ↦ True) (fun t ↦ t.world.verbose = _) _
    (fun _ _ ↦ trivial) rfl
  intro t m _ ht
  cases m with
  | write stream content => exact (World.verbose_write t.world stream content).trans ht
  | exec command archive checkpoint => exact (World.verbose_settled _ _).trans ht
  | reportError message => exact (World.verbose_noted _ _).trans ht
  | _ => exact ht

/-- No move tries the terminal. -/
theorem selected_moves_isOpening (row : List Move) (s : Scene σ) :
    (s.moves row).world.selected isOpening = s.world.selected isOpening := by
  apply moves_of_kept (fun _ ↦ True) (fun t ↦ t.world.selected isOpening = _) _
    (fun _ _ ↦ trivial) rfl
  intro t m _ ht
  have hrecord (event : Event) (h : isOpening event = false) :
      (t.world.record event).selected isOpening = s.world.selected isOpening :=
    (World.selected_record_of_not h _).trans ht
  cases m with
  | write stream content => exact (World.selected_write (fun _ ↦ rfl) t.world).trans ht
  | flush stream => exact hrecord _ rfl
  | askElapsed => exact hrecord _ rfl
  | askTotals labels separator => exact hrecord _ rfl
  | printTotals => exact hrecord _ rfl
  | exec command archive checkpoint =>
    exact (World.selected_settled (fun _ ↦ rfl) (fun _ ↦ rfl) _ _).trans (hrecord _ rfl)
  | reportError message =>
    exact (World.selected_noted (fun _ ↦ rfl) _ _).trans (hrecord _ rfl)
  | returnLine => exact ht

end Scene

/-! ## Sessions -/

namespace Session

/-- A session whose terminal is not open and cannot be opened. -/
structure Shut (reason : String) (verbose isDirty : Bool) (s : Session σ) : Prop where
  terminal : s.engine.console.terminal = .error reason
  slot : s.engine.slot ≠ .opened
  verbose : s.world.verbose = verbose
  isDirty : s.engine.isDirty = isDirty

/-- Two sessions side by side: the terminal of the first is missing, and the program of the second is
spared the actions on it. -/
structure Spared (reason : String) (verbose isDirty : Bool) (start : List Event)
    (s t : Session σ) : Prop where
  shut : s.Shut reason verbose isDirty
  slot : t.engine.slot ≠ .opened
  engine : t.engine =
    { s.engine with
      program := s.engine.program.filter (!·.usesTerminal)
      slot := t.engine.slot }
  world : s.world.Missed (World.missNotice reason verbose) start t.world
  host : t.host = s.host

variable {reason : String} {verbose isDirty : Bool} {start : List Event} {s t : Session σ}

/-- An action on a terminal that is missing is passed over. -/
theorem Shut.withTerminal (h : s.Shut reason verbose isDirty) (activity : Act σ Unit) :
    s.withTerminal activity = (.ok (), s.openTerminal) := by
  have hshut : s.openTerminal.engine.slot ≠ .opened := by
    have hslot := h.slot
    rw [engine_openTerminal]
    cases hcase : s.engine.slot with
    | unopened => simp [TerminalSlot.settle, h.terminal]
    | opened => exact absurd hcase hslot
    | unavailable => simp [TerminalSlot.settle]
  unfold Session.withTerminal
  exact if_neg hshut

namespace Spared

variable (h : s.Spared reason verbose isDirty start t)

include h

theorem console : t.engine.console = s.engine.console := by rw [h.engine]

theorem ticks : t.engine.ticks = s.engine.ticks := by rw [h.engine]

theorem signals : t.engine.signals = s.engine.signals := by rw [h.engine]

omit h in
/-- What the first session does at its terminal ends where an attempt to open it ends. -/
theorem openTerminal (h : s.Spared reason verbose isDirty start t) :
    s.openTerminal.Spared reason verbose isDirty start t := by
  obtain ⟨hterminal, hslot, rfl, hdirty⟩ := h.shut
  cases hcase : s.engine.slot with
  | unopened =>
    have hopen : s.openTerminal =
        (s.onEngine ({ · with slot := .unavailable })).onWorld fun w ↦
          (w.record (.openTerminal false)).debug "tty" ("cannot open terminal: " ++ reason) := by
      simp only [Session.openTerminal, hcase, hterminal]
    rw [hopen]
    have hkept : ((s.world.record (.openTerminal false)).debug "tty"
        ("cannot open terminal: " ++ reason)).verbose = s.world.verbose :=
      World.verbose_debug _ _ _
    exact
      { shut := ⟨hterminal, by simp [Session.onEngine, Session.onWorld], hkept, hdirty⟩
        slot := h.slot
        engine := h.engine
        world := h.world.attempt
        host := h.host }
  | opened => exact absurd hcase hslot
  | unavailable =>
    have hopen : s.openTerminal = s := by simp only [Session.openTerminal, hcase]
    rw [hopen]
    exact h

/-- The end of a run lets go of nothing. -/
theorem closeTerminal : s.closeTerminal.Spared reason verbose isDirty start t.closeTerminal := by
  have hclose {r : Session σ} (hslot : r.engine.slot ≠ .opened) :
      r.closeTerminal = r.onEngine ({ · with slot := .unopened }) := by
    unfold Session.closeTerminal
    cases hcase : r.engine.slot <;> first | rfl | exact absurd hcase hslot
  rw [hclose h.shut.slot, hclose h.slot]
  exact
    { h with
      shut := { h.shut with slot := by simp [Session.onEngine] }
      slot := by simp [Session.onEngine]
      engine := by
        change { t.engine with slot := .unopened } = _
        rw [h.engine]
        rfl }

/-! ### What both sessions do -/

theorem onWorld (f : World → World)
    (hblind : ∀ earlier w, f (w.preceded earlier) = (f w).preceded earlier)
    (hquiet : (f s.world.forget).selected isOpening = [])
    (hverbose : (f s.world).verbose = s.world.verbose) :
    (s.onWorld f).Spared reason verbose isDirty start (t.onWorld f) :=
  { h with
    shut := { h.shut with verbose := hverbose.trans h.shut.verbose }
    world := h.world.change hblind hquiet }

theorem pause (time : Duration) :
    (s.onWorld (·.pause time)).Spared reason verbose isDirty start (t.onWorld (·.pause time)) := by
  have hquiet : (s.world.forget.pause time).selected isOpening = [] :=
    World.selected_pause_of_not rfl s.world.forget
  exact h.onWorld (·.pause time) (fun earlier w ↦ w.pause_preceded earlier time) hquiet
    (World.verbose_pause _ _)

theorem debug (message : String) :
    (s.debug message).Spared reason verbose isDirty start (t.debug message) := by
  have hquiet : (s.world.forget.debug engineModule message).selected isOpening = [] :=
    World.selected_debug (fun _ ↦ rfl) _ _ _
  exact h.onWorld _ (fun earlier w ↦ w.debug_preceded earlier engineModule message) hquiet
    (World.verbose_debug _ _ _)

variable [Host σ]

/-- An activity goes the same way in both sessions. -/
theorem attempt {activity : Act σ Unit} (hmoves : Act.MadeOf (fun _ ↦ True) activity) :
    (t.attempt activity).1 = (s.attempt activity).1 ∧
      (s.attempt activity).2.Spared reason verbose isDirty start (t.attempt activity).2 := by
  let bare : Scene σ := { world := s.world.forget, host := s.host }
  have hs : s.scene = bare.preceded s.world.trace := by
    simp only [scene, Scene.preceded, bare, World.preceded_forget]
  have ht : t.scene = bare.preceded t.world.trace := by
    simp only [scene, Scene.preceded, bare, ← h.world.forget, ← h.host, World.preceded_forget]
  obtain ⟨outcome, row, -, hrun⟩ := hmoves bare
  have hsrun : s.attempt activity =
      (outcome, s.after ((bare.moves row).preceded s.world.trace)) := by
    rw [Session.attempt, hs, hrun]
  have htrun : t.attempt activity =
      (outcome, t.after ((bare.moves row).preceded t.world.trace)) := by
    rw [Session.attempt, ht, hrun]
  have hquiet : (bare.moves row).world.selected isOpening = [] :=
    Scene.selected_moves_isOpening row bare
  rw [hsrun, htrun]
  refine ⟨rfl, ?_⟩
  exact
    { shut := { h.shut with verbose := (Scene.verbose_moves row bare).trans h.shut.verbose }
      slot := h.slot
      engine := h.engine
      world := h.world.preceded hquiet
      host := rfl }

/-- An action that is not on the terminal goes the same way in both sessions. -/
theorem perform {action : Action} (haction : action.usesTerminal = false) (isWrite : Bool) :
    (t.perform isWrite action).1 = (s.perform isWrite action).1 ∧
      (s.perform isWrite action).2.Spared reason verbose isDirty start
        (t.perform isWrite action).2 := by
  have hrenders (stream : Stream) : Move.Renders stream fun _ ↦ True :=
    ⟨fun _ ↦ trivial, trivial, trivial, fun _ _ ↦ trivial, trivial⟩
  cases action with
  | dot =>
    unfold Session.perform
    dsimp only
    rw [h.console]
    exact h.attempt (.put (fun _ ↦ trivial) trivial _)
  | echo =>
    unfold Session.perform
    dsimp only
    rw [h.console, h.ticks]
    exact h.attempt (.echo (hrenders _) _ _ fun _ _ _ ↦ trivial)
  | echoText template =>
    unfold Session.perform
    dsimp only
    rw [h.console, h.ticks]
    exact h.attempt (.echo (hrenders _) _ _ fun _ _ _ ↦ trivial)
  | sleep seconds =>
    rw [perform_sleep, perform_sleep]
    exact ⟨rfl, h.pause _⟩
  | exec command =>
    unfold Session.perform
    dsimp only
    rw [h.host, h.ticks]
    exact h.attempt (.exec trivial)
  | totals => exact h.attempt (.freshTotals trivial trivial fun _ ↦ trivial)
  | wait signal =>
    have hquiet : (s.world.forget.record (.wait s.engine.signals.toList)).selected isOpening = [] :=
      World.selected_record_of_not rfl _
    unfold Session.perform
    dsimp only
    rw [h.signals]
    exact ⟨rfl, h.onWorld (·.record (.wait s.engine.signals.toList))
      (fun earlier w ↦ w.record_preceded earlier _) hquiet rfl⟩
  | _ => cases haction

/-- An action on the terminal is passed over in the first session. -/
theorem perform_of_usesTerminal {action : Action} (haction : action.usesTerminal = true)
    (isWrite : Bool) :
    (s.perform isWrite action).1 = .ok () ∧
      (s.perform isWrite action).2.Spared reason verbose isDirty start t := by
  have hpassed : s.perform isWrite action = (.ok (), s.openTerminal) := by
    cases action with
    | bell => exact h.shut.withTerminal _
    | ttyText template => exact h.shut.withTerminal _
    | _ => cases haction
  rw [hpassed]
  exact ⟨rfl, h.openTerminal⟩

/-- An action on the terminal leaves no more than a failed attempt and its notice. -/
theorem carryOut_of_usesTerminal {action : Action} (haction : action.usesTerminal = true)
    (isWrite : Bool) : (s.carryOut isWrite action).Spared reason verbose isDirty start t := by
  obtain ⟨hresult, hafter⟩ := h.perform_of_usesTerminal haction isWrite
  have hcarry : s.carryOut isWrite action = (s.perform isWrite action).2 := by
    rw [carryOut]
    split
    · rename_i hperform
      rw [hperform] at hresult
      cases hresult
    · rename_i hperform
      rw [hperform]
  rw [hcarry]
  exact hafter

theorem carryOut {action : Action} (haction : action.usesTerminal = false) (isWrite : Bool) :
    (s.carryOut isWrite action).Spared reason verbose isDirty start
      (t.carryOut isWrite action) := by
  obtain ⟨hresult, hafter⟩ := h.perform haction isWrite
  unfold Session.carryOut
  rcases hs : s.perform isWrite action with ⟨(cause | _) | _, nextS⟩ <;>
    rcases ht : t.perform isWrite action with ⟨(other | _) | _, nextT⟩ <;>
    rw [hs, ht] at hresult hafter <;> cases hresult
  · have hnote : nextT.noteFailure action cause = nextT.debug
        (action.name ++ " action failed at #" ++ toString nextS.engine.ticks ++ ": " ++
          cause.message) := by
      rw [noteFailure, hafter.ticks]
    dsimp only
    rw [hnote]
    exact hafter.debug _
  · exact hafter
  · exact hafter

/-! ### Programs and calls -/

theorem performAll (isWrite : Bool) (program : List Action) :
    (t.performAll isWrite (program.filter (!·.usesTerminal))).1 =
        (s.performAll isWrite program).1 ∧
      (s.performAll isWrite program).2.Spared reason verbose isDirty start
        (t.performAll isWrite (program.filter (!·.usesTerminal))).2 := by
  induction program generalizing s t with
  | nil => exact ⟨rfl, h⟩
  | cons action rest ih =>
    cases haction : action.usesTerminal with
    | true =>
      obtain ⟨hresult, -⟩ := h.perform_of_usesTerminal haction isWrite
      have hwalk : s.performAll isWrite (action :: rest) =
          (s.carryOut isWrite action).performAll isWrite rest := by
        obtain ⟨hcrash, -⟩ | ⟨-, hwalk⟩ := performAll_cons isWrite action rest s
        · rw [hresult] at hcrash
          cases hcrash
        · exact hwalk
      rw [List.filter_cons_of_neg (by simp [haction]), hwalk]
      exact ih (h.carryOut_of_usesTerminal haction isWrite)
    | false =>
      have hresult := (h.perform haction isWrite).1
      have hafter := h.carryOut haction isWrite
      rw [List.filter_cons_of_pos (by simp [haction])]
      obtain ⟨hs, hwalkS⟩ | ⟨hs, hwalkS⟩ := performAll_cons isWrite action rest s <;>
        obtain ⟨ht, hwalkT⟩ | ⟨ht, hwalkT⟩ :=
          performAll_cons isWrite action (rest.filter (!·.usesTerminal)) t <;>
        rw [hwalkS, hwalkT]
      · exact ⟨rfl, hafter⟩
      · exact absurd (hresult.trans hs) ht
      · exact absurd (hresult.symm.trans ht) hs
      · exact ih hafter

omit [Host σ] in
theorem count : s.count.Spared reason verbose isDirty start t.count :=
  { h with
    shut := ⟨h.shut.terminal, h.shut.slot, h.shut.verbose, h.shut.isDirty⟩
    engine := by
      change { t.engine with ticks := t.engine.ticks + 1 } = _
      rw [h.engine]
      rfl }

theorem tick (isWrite : Bool) :
    (t.tick isWrite).1 = (s.tick isWrite).1 ∧
      (s.tick isWrite).2.Spared reason verbose isDirty start (t.tick isWrite).2 := by
  have hcount := h.count
  have hsealed : t.engine.isSealed = s.engine.isSealed := by rw [h.engine]
  have hphase : t.engine.phase = s.engine.phase := by rw [h.engine]
  have henabled : t.engine.isEnabled = s.engine.isEnabled := by rw [h.engine]; rfl
  have hdue : t.count.engine.isDue = s.count.engine.isDue := by rw [hcount.engine]; rfl
  have hprogram : t.engine.program = s.engine.program.filter (!·.usesTerminal) := by rw [h.engine]
  have htick (r : Session σ) : r.tick isWrite =
      if r.engine.isSealed = false then (.error (.refused (.lifecycle .tick r.engine.phase)), r)
      else if r.engine.isEnabled = false then (.ok (), r)
      else if r.count.engine.isDue then r.count.performAll isWrite r.engine.program
      else (.ok (), r.count) := rfl
  rw [htick t, htick s, hsealed, hphase, henabled, hdue, hprogram]
  split
  · exact ⟨rfl, h⟩
  split
  · exact ⟨rfl, h⟩
  split
  · exact hcount.performAll isWrite s.engine.program
  · exact ⟨rfl, hcount⟩

omit [Host σ] in
theorem finish : t.finish.1 = s.finish.1 ∧
    s.finish.2.Spared reason verbose isDirty start t.finish.2 := by
  have hinterval : t.engine.interval = s.engine.interval := by rw [h.engine]
  have hfinish {r : Session σ} (hslot : r.engine.slot ≠ .opened) :
      r.finish = if r.engine.interval = 0 then (.ok (), r) else (.ok (), r.closeTerminal) := by
    have hpending : pendingClears r.engine = 0 := by simp [pendingClears, hslot]
    rw [Session.finish, hpending]
    rfl
  rw [hfinish h.shut.slot, hfinish h.slot, hinterval]
  split
  · exact ⟨rfl, h⟩
  · exact ⟨rfl, h.closeTerminal⟩

/-- A beat has the same result with and without the terminal. -/
theorem beat (beat : Beat) :
    (t.beat beat).1 = (s.beat beat).1 ∧
      (s.beat beat).2.Spared reason verbose isDirty start (t.beat beat).2 := by
  cases beat with
  | tick isWrite => exact h.tick isWrite
  | finish => exact h.finish
  | advance time => exact ⟨rfl, h.onWorld (·.advance time) (fun _ _ ↦ rfl) rfl rfl⟩

/-- A row of beats has the same results with and without the terminal. -/
theorem beats (row : List Beat) :
    t.beatResults row = s.beatResults row ∧
      (s.beats row).Spared reason verbose isDirty start (t.beats row) := by
  induction row generalizing s t with
  | nil => exact ⟨rfl, h⟩
  | cons beat rest ih =>
    obtain ⟨hresult, hafter⟩ := h.beat beat
    obtain ⟨hresults, hlast⟩ := ih hafter
    refine ⟨?_, hlast⟩
    rw [beatResults, beatResults, hresult, hresults]

end Spared

/-- The session with a program that has no actions on the terminal. -/
def withoutTerminal (s : Session σ) : Session σ :=
  s.onEngine fun e ↦ { e with program := e.program.filter (!·.usesTerminal) }

/-- At the beginning the two sessions differ in the program only. -/
theorem spared_withoutTerminal (hterminal : s.engine.console.terminal = .error reason)
    (hslot : s.engine.slot ≠ .opened) :
    s.Spared reason s.world.verbose s.engine.isDirty s.world.events s.withoutTerminal where
  shut := ⟨hterminal, hslot, rfl, rfl⟩
  slot := hslot
  engine := rfl
  world := ⟨rfl, .start⟩
  host := rfl

/-- A missing terminal is as good as a program without actions on it. Ticks, ends of the run and the
passing of time have the same results with and without these actions, faults included. At every moment
the trace of the one run is the trace of the other, in which nothing is an attempt to open the terminal,
with failed attempts and the notices about them in between; so all streams hold the same, apart from
the notices on the standard error, and the hosts have had the same calls and are the same. A carriage
return on the terminal that has not been noted is never noted. -/
theorem missing_terminal_eq_without_terminal [Host σ] {s : Session σ} {reason : String}
    (hterminal : s.engine.console.terminal = .error reason) (hslot : s.engine.slot ≠ .opened)
    (row : List Beat) :
    s.withoutTerminal.beatResults row = s.beatResults row ∧
      ∀ n,
        let u := s.beats (row.take n)
        let v := s.withoutTerminal.beats (row.take n)
        let notice := World.missNotice reason s.world.verbose
        Misses notice s.world.events u.world.events v.world.events ∧
        v.world.selected isOpening = s.world.selected isOpening ∧
        (∀ kind : Event → Bool, kind (.openTerminal false) = false → notice.filter kind = [] →
          v.world.selected kind = u.world.selected kind) ∧
        (∀ stream, stream ≠ .stderr ∨ s.world.verbose = false →
          v.world.contents stream = u.world.contents stream) ∧
        v.world.selected isHostCall = u.world.selected isHostCall ∧
        v.host = u.host ∧
        u.engine.isDirty = s.engine.isDirty ∧ v.engine.isDirty = s.engine.isDirty := by
  have hstart := spared_withoutTerminal hterminal hslot
  refine ⟨(hstart.beats row).1, fun n ↦ ?_⟩
  intro u v notice
  have hlast : u.Spared reason s.world.verbose s.engine.isDirty s.world.events v :=
    (hstart.beats (row.take n)).2
  have hkind (kind : Event → Bool) (hmiss : kind (.openTerminal false) = false)
      (hnotice : notice.filter kind = []) : v.world.selected kind = u.world.selected kind :=
    (hlast.world.events.filter_eq hmiss hnotice).symm
  have hcalls : notice.filter isHostCall = [] := by
    unfold notice World.missNotice
    split <;> rfl
  have hcontents (stream : Stream) (hstream : stream ≠ .stderr ∨ s.world.verbose = false) :
      v.world.contents stream = u.world.contents stream :=
    (hlast.world.events.contents_eq (World.contents_missNotice hstream reason)).symm
  have hdirty : v.engine.isDirty = u.engine.isDirty := by rw [hlast.engine]
  exact ⟨hlast.world.events, hlast.world.events.filter_isOpening, hkind, hcontents, hkind _ rfl hcalls, hlast.host,
    hlast.shut.isDirty, hdirty.trans hlast.shut.isDirty⟩

/-- A bell and a status line that nobody gets make two attempts to open the terminal, and nothing
else. -/
theorem missing_terminal_of_bell_and_status :
    let s := (fresh 1 ⟨.listing, .diagnostics, .error "no terminal"⟩ {} ({} : ScriptedHost)).steps
      [.compile "bell", .compile "echo=%T", .compile "ttyout=%c", .compile "dot", .finishCompile]
    let row : List Beat := [.tick true, .finish, .advance (.ofSeconds 1), .tick false]
    s.withoutTerminal.engine.program = [.echoText "%T", .dot] ∧
      s.withoutTerminal.beatResults row = s.beatResults row ∧
      (s.beats row).world.selected isOpening = [.openTerminal false, .openTerminal false] ∧
      (s.withoutTerminal.beats row).world.events =
        (s.beats row).world.events.filter (!isOpening ·) := by
  intro s row
  have hterminal : s.engine.console.terminal = .error "no terminal" := by decide +kernel
  have hslot : s.engine.slot ≠ .opened := by decide +kernel
  have hlaw := missing_terminal_eq_without_terminal hterminal hslot row
  obtain ⟨-, huntried, hkind, -⟩ := hlaw.2 4
  have hnone : s.world.selected isOpening = [] := by decide +kernel
  rw [hnone, World.selected, List.filter_eq_nil_iff] at huntried
  have hkept : (s.withoutTerminal.beats row).world.events.filter (!isOpening ·) =
      (s.withoutTerminal.beats row).world.events :=
    List.filter_eq_self.2 fun event hevent ↦ by simpa using huntried event hevent
  have hseen := hkind (!isOpening ·) rfl (by decide +kernel)
  exact ⟨by decide +kernel, hlaw.1, by decide +kernel, hkept.symm.trans hseen⟩

end Session

end ProgressActions
