import Mathlib.Data.List.Basic
import Mathlib.Data.List.Induction
import Mathlib.Data.Option.Basic
import ProgressActions.Proofs.Call

/-!
# Ticks on record

A track records the ticks of an engine at work, each with the session that it found. Between two
ticks anything may happen that leaves the engine's task alone. The ticks count up one by one, so the
program runs on those whose number is a multiple of the interval, and on no other.
-/

namespace ProgressActions

/-- An engine whose program is complete and runs. -/
structure Engine.AtWork (e : Engine) : Prop where
  phase : e.phase = .running
  isSealed : e.isSealed = true
  interval_pos : 0 < e.interval

namespace Engine

def countOn (ticks : Nat) (e : Engine) : Engine := { e with ticks := e.ticks + ticks }

theorem AtWork.isEnabled {e : Engine} (h : e.AtWork) : e.isEnabled = true := by
  simp [Engine.isEnabled, h.phase, h.interval_pos]

/-- An engine with the same task is at work too. -/
theorem AtWork.of_sameTask {e f : Engine} (h : e.AtWork) (hsame : e.SameTask f) : f.AtWork where
  phase := hsame.phase.trans h.phase
  isSealed := hsame.isSealed.trans h.isSealed
  interval_pos := hsame.interval ▸ h.interval_pos

theorem AtWork.countOn {e : Engine} (h : e.AtWork) (ticks : Nat) : (e.countOn ticks).AtWork :=
  ⟨h.phase, h.isSealed, h.interval_pos⟩

theorem SameTask.countOn {e f : Engine} (h : e.SameTask f) (ticks : Nat) :
    (e.countOn ticks).SameTask (f.countOn ticks) :=
  ⟨h.phase, h.isSealed, h.interval, h.program, h.signals, congrArg (· + ticks) h.ticks⟩

theorem countOn_countOn (first second : Nat) (e : Engine) :
    (e.countOn first).countOn second = e.countOn (second + first) := by
  unfold countOn
  rw [Nat.add_assoc, Nat.add_comm first second]

end Engine

/-- A tick, and the session that it found. -/
structure Occasion (σ : Type) where
  isWrite : Bool
  found : Session σ

namespace Occasion

variable {σ : Type}

/-- The number that the tick brings the count to. -/
def number (o : Occasion σ) : Nat := o.found.engine.ticks + 1

def isFiring (o : Occasion σ) : Bool := o.number % o.found.engine.interval == 0

/-- The session after the program, carried out from end to end if the tick fires. -/
def settled [Host σ] (o : Occasion σ) : Session σ :=
  if o.isFiring then o.found.count.carryOutAll o.isWrite o.found.engine.program else o.found.count

end Occasion

namespace Session

variable {σ : Type} [Host σ]

/-! ## One tick -/

/-- At work, every tick is counted, and it carries out the program if it is due. -/
theorem tick_of_atWork {s : Session σ} (h : s.engine.AtWork) (isWrite : Bool) :
    s.tick isWrite =
      if (Occasion.mk isWrite s).isFiring then s.count.performAll isWrite s.engine.program
      else (.ok (), s.count) := by
  unfold tick
  rw [if_neg (by simp [h.isSealed]), if_neg (by simp [h.isEnabled])]
  rfl

/-- A tick counts, and leaves the rest of the task alone. -/
theorem sameTask_tick {s : Session σ} (h : s.engine.AtWork) (isWrite : Bool) :
    (s.engine.countOn 1).SameTask (s.tick isWrite).2.engine := by
  rw [tick_of_atWork h]
  split
  · obtain ⟨walked, -, hsession, -⟩ := performAll_walk isWrite s.engine.program s.count
    rw [hsession]
    exact (sameWork_carryOutAll isWrite walked s.count).toSameTask
  · exact .refl _

/-- Only a fault keeps a tick from success. -/
theorem tick_result_of_atWork {s : Session σ} (h : s.engine.AtWork) (isWrite : Bool) :
    (s.tick isWrite).1 = .ok () ∨ (s.tick isWrite).1 = .error .crash := by
  rw [tick_of_atWork h]
  split
  · obtain ⟨-, -, -, ⟨hresult, -⟩ | hcrash⟩ := performAll_walk isWrite s.engine.program s.count
    · exact .inl hresult
    · exact .inr hcrash
  · exact .inl rfl

/-- A tick that succeeds has carried out the whole program, or had no need to. -/
theorem tick_of_ok {s : Session σ} {isWrite : Bool} (h : s.engine.AtWork)
    (hok : (s.tick isWrite).1 = .ok ()) :
    s.tick isWrite = (.ok (), (Occasion.mk isWrite s).settled) := by
  unfold Occasion.settled
  rw [tick_of_atWork h] at hok ⊢
  split
  · rename_i hfiring
    rw [if_pos hfiring] at hok
    exact performAll_of_ne_crash (by simp [hok])
  · rfl

/-- An engine that is complete and idle ignores a tick. -/
theorem tick_of_idle {s : Session σ} (hsealed : s.engine.isSealed = true)
    (hphase : s.engine.phase = .uninitialized) (isWrite : Bool) :
    s.tick isWrite = (.ok (), s) := by
  simp [tick, hsealed, Engine.isEnabled, hphase]

/-! ## Tracks -/

/-- The ticks on the way from one session to another, all of them successful. -/
inductive Track : Session σ → List (Occasion σ) → Session σ → Prop where
  | done (s : Session σ) : Track s [] s
  | tick {s t : Session σ} {log : List (Occasion σ)} (isWrite : Bool)
      (hok : (s.tick isWrite).1 = .ok ()) (hrest : Track (s.tick isWrite).2 log t) :
      Track s (⟨isWrite, s⟩ :: log) t
  | meanwhile {s t u : Session σ} {log : List (Occasion σ)} (hsame : s.engine.SameTask t.engine)
      (hrest : Track t log u) : Track s log u

namespace Track

variable {s t u : Session σ} {log more : List (Occasion σ)}

theorem append (hfirst : Track s log t) (hsecond : Track t more u) :
    Track s (log ++ more) u := by
  induction hfirst with
  | done s => exact hsecond
  | tick isWrite hok _ ih => exact .tick isWrite hok (ih hsecond)
  | meanwhile hsame _ ih => exact .meanwhile hsame (ih hsecond)

/-- The last session has the task of the first, with all ticks of the track counted. -/
theorem sameTask (h : Track s log t) (hwork : s.engine.AtWork) :
    (s.engine.countOn log.length).SameTask t.engine := by
  induction h with
  | done s => exact .refl _
  | tick isWrite _ _ ih =>
    have hstep := sameTask_tick hwork isWrite
    have hrest := ih ((hwork.countOn 1).of_sameTask hstep)
    rw [List.length_cons, ← Engine.countOn_countOn]
    exact (hstep.countOn _).trans hrest
  | meanwhile hsame _ ih => exact (hsame.countOn _).trans (ih (hwork.of_sameTask hsame))

/-- So has each session that a tick finds, with the ticks before it counted. -/
theorem sameTask_found (h : Track s log t) (hwork : s.engine.AtWork) {j : Nat} {o : Occasion σ}
    (hj : log[j]? = some o) : (s.engine.countOn j).SameTask o.found.engine := by
  induction h generalizing j with
  | done s => cases hj
  | tick isWrite _ _ ih =>
    cases j with
    | zero =>
      cases hj
      exact .refl _
    | succ j =>
      have hstep := sameTask_tick hwork isWrite
      have hrest := ih ((hwork.countOn 1).of_sameTask hstep) hj
      rw [← Engine.countOn_countOn]
      exact (hstep.countOn j).trans hrest
  | meanwhile hsame _ ih => exact (hsame.countOn j).trans (ih (hwork.of_sameTask hsame) hj)

/-- Every tick on a track has succeeded. -/
theorem result_of_mem (h : Track s log t) {o : Occasion σ} (ho : o ∈ log) :
    (o.found.tick o.isWrite).1 = .ok () := by
  induction h with
  | done s => cases ho
  | tick isWrite hok _ ih =>
    cases ho with
    | head => exact hok
    | tail _ hmem => exact ih hmem
  | meanwhile _ _ ih => exact ih ho

/-- Every tick on a track finds the task it was given. -/
theorem sameTask_of_mem (h : Track s log t) (hwork : s.engine.AtWork) {o : Occasion σ}
    (ho : o ∈ log) : ∃ j, (s.engine.countOn j).SameTask o.found.engine := by
  obtain ⟨j, hj⟩ := List.mem_iff_getElem?.1 ho
  exact ⟨j, h.sameTask_found hwork hj⟩

/-- Each tick carries out the whole program if it fires, and only counts otherwise. -/
theorem tick_of_mem (h : Track s log t) (hwork : s.engine.AtWork) {o : Occasion σ}
    (ho : o ∈ log) : o.found.tick o.isWrite = (.ok (), o.settled) := by
  obtain ⟨j, hsame⟩ := h.sameTask_of_mem hwork ho
  exact tick_of_ok ((hwork.countOn j).of_sameTask hsame) (h.result_of_mem ho)

end Track

end Session

/-! ## Multiples of the interval -/

/-- The entries of a list at the positions that are multiples of a number, counted from one. -/
theorem map_some_filter_of_dvd {α : Type} {p : α → Bool} {period : Nat} (hperiod : 0 < period)
    (l : List α) (hp : ∀ j a, l[j]? = some a → (p a = true ↔ period ∣ j + 1)) :
    (l.filter p).map some =
      (List.range (l.length / period)).map fun i ↦ l[(i + 1) * period - 1]? := by
  induction l using List.reverseRecOn with
  | nil => simp
  | append_singleton l a ih =>
    have hbefore : ∀ j b, l[j]? = some b → (p b = true ↔ period ∣ j + 1) := by
      intro j b hj
      apply hp j b
      rw [List.getElem?_append_left (List.getElem?_eq_some_iff.1 hj).1, hj]
    have hlast : p a = true ↔ period ∣ l.length + 1 := hp l.length a (by simp)
    have hkeep : ∀ i ∈ List.range (l.length / period),
        (l ++ [a])[(i + 1) * period - 1]? = l[(i + 1) * period - 1]? := by
      intro i hi
      have hle : (i + 1) * period ≤ l.length :=
        (Nat.le_div_iff_mul_le hperiod).1 (List.mem_range.1 hi)
      have hpos : 0 < (i + 1) * period := Nat.mul_pos i.succ_pos hperiod
      exact List.getElem?_append_left (by omega)
    rw [List.filter_append, List.map_append, ih hbefore, List.length_append, List.length_singleton]
    by_cases hdvd : period ∣ l.length + 1
    · have hquotient := Nat.succ_div_of_dvd hdvd
      have hposition : (l.length / period + 1) * period - 1 = l.length := by
        rw [← hquotient, Nat.div_mul_cancel hdvd]
        rfl
      rw [hquotient, List.range_succ, List.map_append, List.map_congr_left hkeep]
      simp [hlast.2 hdvd, hposition]
    · have hnone : p a = false := by simpa using mt hlast.1 hdvd
      rw [Nat.succ_div_of_not_dvd hdvd, List.map_congr_left hkeep]
      simp [hnone]

namespace Session.Track

variable {σ : Type} [Host σ] {s t : Session σ} {log : List (Occasion σ)}

/-- The ticks on a track are numbered from one. -/
theorem number_of_getElem? (h : Track s log t) (hwork : s.engine.AtWork)
    (hticks : s.engine.ticks = 0) {j : Nat} {o : Occasion σ} (hj : log[j]? = some o) :
    o.number = j + 1 := by
  have hcount : o.found.engine.ticks = s.engine.ticks + j := (h.sameTask_found hwork hj).ticks
  rw [Occasion.number, hcount, hticks, Nat.zero_add]

/-- The ticks that fire are the multiples of the interval. -/
theorem isFiring_iff (h : Track s log t) (hwork : s.engine.AtWork) (hticks : s.engine.ticks = 0)
    {j : Nat} {o : Occasion σ} (hj : log[j]? = some o) :
    o.isFiring = true ↔ s.engine.interval ∣ j + 1 := by
  have hinterval : o.found.engine.interval = s.engine.interval :=
    (h.sameTask_found hwork hj).interval
  rw [Occasion.isFiring, h.number_of_getElem? hwork hticks hj, hinterval, beq_iff_eq,
    Nat.dvd_iff_mod_eq_zero]

/-- The firings are the ticks at the multiples of the interval. -/
theorem firings (h : Track s log t) (hwork : s.engine.AtWork) (hticks : s.engine.ticks = 0) :
    (log.filter Occasion.isFiring).map some =
      (List.range (log.length / s.engine.interval)).map fun i ↦
        log[(i + 1) * s.engine.interval - 1]? :=
  map_some_filter_of_dvd hwork.interval_pos log fun _ _ hj ↦ h.isFiring_iff hwork hticks hj

/-- The numbers of the firings are the multiples of the interval. -/
theorem map_number_firings (h : Track s log t) (hwork : s.engine.AtWork)
    (hticks : s.engine.ticks = 0) :
    (log.filter Occasion.isFiring).map Occasion.number =
      (List.range (log.length / s.engine.interval)).map fun i ↦ (i + 1) * s.engine.interval := by
  have hnumbers : ∀ i ∈ List.range (log.length / s.engine.interval),
      (log[(i + 1) * s.engine.interval - 1]?).map Occasion.number =
        some ((i + 1) * s.engine.interval) := by
    intro i hi
    have hle : (i + 1) * s.engine.interval ≤ log.length :=
      (Nat.le_div_iff_mul_le hwork.interval_pos).1 (List.mem_range.1 hi)
    have hpos : 0 < (i + 1) * s.engine.interval := Nat.mul_pos i.succ_pos hwork.interval_pos
    obtain ⟨o, ho⟩ : ∃ o, log[(i + 1) * s.engine.interval - 1]? = some o :=
      ⟨_, List.getElem?_eq_getElem (by omega)⟩
    rw [ho, Option.map_some, h.number_of_getElem? hwork hticks ho]
    exact congrArg some (by omega)
  apply List.map_injective_iff.2 (Option.some_injective Nat)
  calc ((log.filter Occasion.isFiring).map Occasion.number).map some
      = ((log.filter Occasion.isFiring).map some).map (Option.map Occasion.number) := by
        simp
    _ = _ := by
        rw [h.firings hwork hticks, List.map_map, List.map_map]
        exact List.map_congr_left hnumbers

end Session.Track

end ProgressActions
