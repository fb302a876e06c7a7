import ProgressActions.Archive.Host
import ProgressActions.Host.Scripted
import ProgressActions.Proofs.Fault

/-!
# Programs that meet no fault

Whether a template can be at fault shows in its text: it is tame if no padding goes beyond what can be
written at once, and no time pattern has a form that can only be read. A program of tame templates
meets no fault, as long as no window is wider than what can be written at once either. The law of faults
says both: exactly when a tick is a fault, and that the ticks of tame programs never are.
-/

namespace ProgressActions

open Template

/-! ## Tame templates -/

namespace Template

/-- Whether a piece can be no fault in a window that is not too wide. -/
def Piece.isTame : Piece → Bool
  | .directive '*' argument => (argument.bind (Text.word? ·.value)).all (· ≤ maxPadding)
  | .directive 't' argument =>
    (Calendar.parsePattern? (timePattern argument)).all fun items ↦ !items.contains .unwritable
  | _ => true

def isTame (template : List Char) : Bool := (pieces template).all Piece.isTame

theorem isTame_statusTemplate : isTame statusTemplate = true := by
  decide +kernel

theorem isTame_writeMessage : isTame writeMessage.toList = true := by
  decide +kernel

theorem isTame_readMessage : isTame readMessage.toList = true := by
  decide +kernel

theorem all_isTame_inlined {row : List Piece} (h : row.all Piece.isTame = true) :
    (inlined row).all Piece.isTame = true := by
  simp only [inlined, List.all_flatMap, List.all_eq_true] at h ⊢
  intro piece hmem inner hinner
  have hpiece := h piece hmem
  split at hinner
  · exact List.all_eq_true.1 isTame_statusTemplate inner hinner
  · rw [List.mem_singleton] at hinner
    rwa [hinner]

variable {σ : Type}

/-- A tame piece is at fault in a wide window only. -/
theorem Visit.Fault.wide {visit : Visit σ} (h : visit.Fault) (htame : visit.piece.isTame = true) :
    maxPadding < visit.scene.world.window visit.job.stream := by
  cases h with
  | @padding job argument column scene hwide =>
    have hall : (argument.bind (Text.word? ·.value)).all (· ≤ maxPadding) = true := htame
    unfold paddingTarget at hwide
    cases hgiven : argument.bind (Text.word? ·.value) with
    | none =>
      rw [hgiven] at hwide
      exact Nat.lt_of_lt_of_le hwide (Nat.sub_le _ _)
    | some n =>
      rw [hgiven] at hall hwide
      have hfits : n ≤ maxPadding := of_decide_eq_true hall
      exact absurd (Nat.lt_of_lt_of_le hwide (Nat.sub_le n column)) (Nat.not_lt.2 hfits)
  | @pattern job argument column scene items hknown hpattern hitem =>
    have hall : ((Calendar.parsePattern? (timePattern argument)).all fun items ↦
        !items.contains .unwritable) = true := htame
    rw [hpattern] at hall
    have hnone : .unwritable ∉ items := by simpa using hall
    exact absurd hitem hnone

variable [Host σ]

/-- A rendering comes to pieces of its own row only, all of them on its stream and in front of the
same window. -/
theorem of_mem_visits {job : Job} {row : List Piece} {column : Nat} {s : Scene σ} {visit : Visit σ}
    (h : visit ∈ visits job row column s) :
    visit.piece ∈ row ∧ visit.job = job ∧
      visit.scene.world.window job.stream = s.world.window job.stream := by
  induction row generalizing column s with
  | nil => cases h
  | cons piece rest ih =>
    have hadmits := Scene.admits_sameWindows (σ := σ) job.stream
    have hkept : s.world.SameWindows
        ((renderPiece job (renderUnknown job 'c') piece column).run.run s).2.world :=
      Act.Within.renderPiece hadmits (fun _ s ↦ .refl s.world) column s
    rw [visits, List.mem_cons] at h
    obtain rfl | hlater := h
    · exact ⟨List.mem_cons_self, rfl, rfl⟩
    · rcases hrun : (renderPiece job (renderUnknown job 'c') piece column).run.run s
        with ⟨cause | last, next⟩
      · rw [hrun] at hlater
        cases hlater
      · rw [hrun] at hlater hkept
        obtain ⟨hmem, hjob, hwindow⟩ := ih hlater
        exact ⟨List.mem_cons_of_mem _ hmem, hjob, hwindow.trans (hkept.window job.stream)⟩

/-- A tame template meets no fault in a window that is not too wide. -/
theorem not_fault_of_isTame {job : Job} {template : List Char} (htame : isTame template = true)
    {column : Nat} {s : Scene σ} (hnarrow : s.world.window job.stream ≤ maxPadding) :
    ∀ visit ∈ textVisits job template column s, ¬ visit.Fault := by
  intro visit hmem hfault
  obtain ⟨hpiece, hjob, hwindow⟩ := of_mem_visits hmem
  have htame : visit.piece.isTame = true := List.all_eq_true.1 (all_isTame_inlined htame) _ hpiece
  have hwide := hfault.wide htame
  rw [hjob, hwindow] at hwide
  exact absurd hwide (Nat.not_lt.2 hnarrow)

example : ["%u %T%\x7b72\x7d*", "%\x7b65536\x7d*", "%\x7b%#z\x7dt"].map (isTame ·.toList) =
    [true, false, false] := by
  decide +kernel

end Template

/-! ## Windows of actions -/

namespace World.SameWindows

theorem debug (w : World) (moduleName message : String) :
    w.SameWindows (w.debug moduleName message) := by
  unfold World.debug
  split
  · exact .write w .stderr _
  · exact .refl w

theorem pause (w : World) (time : Duration) : w.SameWindows (w.pause time) := by
  unfold World.pause
  split
  · exact .refl w
  · exact (World.SameWindows.record w (.sleep time)).trans ⟨rfl, fun _ ↦ rfl⟩

theorem settled (report : ScriptReport) (w : World) : w.SameWindows (Act.settled report w) := by
  have hshown := (World.SameWindows.write w .stdout report.stdout).trans
    (.write (w.write .stdout report.stdout).2 .stderr report.stderr)
  unfold Act.settled
  dsimp only
  split
  · exact hshown.trans (.write _ .stderr _)
  · exact hshown

end World.SameWindows

namespace Act.Within

variable {σ : Type} [Host σ]

theorem sameWindows_exec (command archive : String) (checkpoint : Nat) :
    (Act.exec (σ := σ) command archive checkpoint).Within fun s t ↦
      s.world.SameWindows t.world := by
  intro s
  rw [run_exec]
  exact (World.SameWindows.record s.world (.exec command archive checkpoint)).trans
    (.settled _ _)

/-- To bring the totals up to date changes no window. -/
theorem sameWindows_freshTotals :
    (Act.freshTotals (σ := σ)).Within fun s t ↦ s.world.SameWindows t.world := by
  have hadmits := Scene.admits_sameWindows (σ := σ) .stderr
  refine bind hadmits (elapsed hadmits) fun _ ↦ ?_
  refine bind hadmits (fun s ↦ .record s.world .printTotals) fun _ ↦ ?_
  refine bind hadmits (get hadmits) fun s ↦ ?_
  split
  · exact write hadmits _
  · exact throw hadmits _

end Act.Within

/-! ## Tame programs -/

def Action.isTame : Action → Bool
  | echoText template => Template.isTame template.toList
  | ttyText template => Template.isTame template.toList
  | _ => true

variable {σ : Type}

/-- A host that words the messages of bare echoes tamely, whatever its state. -/
structure Host.Tame (σ : Type) [Host σ] : Prop where
  write : ∀ host : σ, Template.isTame (Host.localize host writeMessage).toList = true
  read : ∀ host : σ, Template.isTame (Host.localize host readMessage).toList = true

/-- An archive is tame on every machine. -/
theorem Archive.tame {μ : Type} [Launch.Place μ] : Host.Tame (Archive μ) where
  write _ := isTame_writeMessage
  read _ := isTame_readMessage

/-- A session with no window that is too wide to be padded at once, nor the terminal's if it is opened
later. -/
structure Session.Narrow (s : Session σ) : Prop where
  window : ∀ stream, s.world.window stream ≤ maxPadding
  terminal : ∀ sink, s.engine.console.terminal = .ok sink →
    resolveWidth sink.width s.world.columns ≤ maxPadding

namespace Session.Narrow

variable {s t : Session σ}

theorem of_sameWindows (h : s.Narrow) (hconsole : t.engine.console = s.engine.console)
    (hwindows : s.world.SameWindows t.world) : t.Narrow where
  window stream := by
    rw [hwindows.window]
    exact h.window stream
  terminal sink hsink := by
    rw [hwindows.columns]
    exact h.terminal sink (hconsole ▸ hsink)

theorem onWorld (h : s.Narrow) (f : World → World) (hf : s.world.SameWindows (f s.world)) :
    (s.onWorld f).Narrow :=
  h.of_sameWindows rfl hf

theorem openTerminal (h : s.Narrow) : s.openTerminal.Narrow := by
  unfold Session.openTerminal
  split
  · split
    · rename_i sink hsink
      refine ⟨fun stream ↦ ?_, h.terminal⟩
      by_cases hstream : stream = .terminal
      · rw [hstream]
        exact h.terminal sink hsink
      · change resolveWidth ((s.world.sinks.set .terminal sink).get stream).width
          s.world.columns ≤ maxPadding
        rw [Sinks.get_set_of_ne hstream]
        exact h.window stream
    · exact h.of_sameWindows rfl
        ((World.SameWindows.record s.world (.openTerminal false)).trans (.debug _ "tty" _))
  · exact h

theorem count (h : s.Narrow) : s.count.Narrow := h.of_sameWindows rfl (.refl s.world)

variable {activity : Act σ Unit}

theorem attempt (h : s.Narrow)
    (hwithin : activity.Within fun before after ↦ before.world.SameWindows after.world) :
    (s.attempt activity).2.Narrow :=
  h.of_sameWindows rfl (hwithin s.scene)

theorem withTerminal (h : s.Narrow)
    (hwithin : activity.Within fun before after ↦ before.world.SameWindows after.world) :
    (s.withTerminal activity).2.Narrow := by
  unfold Session.withTerminal
  dsimp only
  split
  · exact h.openTerminal.of_sameWindows rfl (hwithin s.openTerminal.scene)
  · exact h.openTerminal

variable [Host σ]

/-- An action changes no window, except that it may open the one of the terminal. -/
theorem perform (h : s.Narrow) (isWrite : Bool) (action : Action) :
    (s.perform isWrite action).2.Narrow := by
  have hreturn (before : Scene σ) :
      before.world.SameWindows { before with lineReset := true }.world := .refl before.world
  have hadmits (stream : Stream) := Scene.admits_sameWindows (σ := σ) stream
  cases action with
  | dot => exact h.attempt (.put (hadmits _) _)
  | bell => exact h.withTerminal (.put (hadmits _) _)
  | echo => exact h.attempt (.echo hreturn (hadmits _) isWrite _ none)
  | echoText template => exact h.attempt (.echo hreturn (hadmits _) isWrite _ (some template))
  | ttyText template => exact h.withTerminal (.ttyText hreturn (hadmits _) isWrite _ template)
  | sleep seconds =>
    rw [perform_sleep]
    exact h.onWorld (·.pause (.ofSeconds seconds)) (.pause s.world (.ofSeconds seconds))
  | exec command => exact h.attempt (.sameWindows_exec command _ _)
  | totals => exact h.attempt .sameWindows_freshTotals
  | wait signal => exact h.of_sameWindows rfl (.record s.world (.wait s.engine.signals.toList))

theorem carryOut (h : s.Narrow) (isWrite : Bool) (action : Action) :
    (s.carryOut isWrite action).Narrow := by
  have hperform := h.perform isWrite action
  obtain hcarry | ⟨message, hcarry⟩ := carryOut_cases isWrite action s <;> rw [hcarry]
  · exact hperform
  · exact hperform.of_sameWindows rfl (.debug _ engineModule message)

theorem carryOutAll (h : s.Narrow) (isWrite : Bool) (program : List Action) :
    (s.carryOutAll isWrite program).Narrow :=
  carryOutAll_of_kept (fun action _ ht ↦ ht.carryOut isWrite action) h program

/-- Each action of a program finds narrow windows. -/
theorem stages (h : s.Narrow) {isWrite : Bool} {program : List Action} {found : Session σ}
    (hfound : found ∈ s.stages isWrite program) : found.Narrow :=
  of_mem_stages (fun action _ ht ↦ ht.carryOut isWrite action) h hfound

end Session.Narrow

namespace Session

variable [Host σ] {s : Session σ}

/-- A tame template in a narrow window comes to no piece at fault. -/
theorem not_fault_of_mem_echoVisits {stream : Stream} {isWrite : Bool} {checkpoint : Nat}
    {template : Option String} {scene : Scene σ}
    (htame : Template.isTame (echoedText isWrite scene.host template) = true)
    (hnarrow : scene.world.window stream ≤ maxPadding) :
    ∀ visit ∈ echoVisits stream isWrite checkpoint template scene, ¬ visit.Fault := by
  have hkept : scene.world.SameWindows
      ((Act.write stream (Host.name scene.host ++ ": ").toList).run.run scene).2.world :=
    Act.Within.write (Scene.admits_sameWindows stream) _ scene
  unfold echoVisits
  dsimp only
  split
  · rename_i next hwrite
    rw [hwrite] at hkept
    exact not_fault_of_isTame htame (Nat.le_trans (Nat.le_of_eq (hkept.window stream)) hnarrow)
  · exact fun visit hvisit ↦ absurd hvisit List.not_mem_nil

/-- A tame action meets no fault. -/
theorem not_fault_of_mem_actionVisits (hhost : Host.Tame σ) {action : Action}
    (htame : action.isTame = true) (hnarrow : s.Narrow) (isWrite : Bool) :
    ∀ visit ∈ s.actionVisits isWrite action, ¬ visit.Fault := by
  have hnone : ∀ visit ∈ ([] : List (Visit σ)), ¬ visit.Fault :=
    fun visit hvisit ↦ absurd hvisit List.not_mem_nil
  cases action with
  | echo =>
    refine not_fault_of_mem_echoVisits ?_ (hnarrow.window s.engine.console.diagnostics)
    cases isWrite with
    | true => exact hhost.write s.host
    | false => exact hhost.read s.host
  | echoText template =>
    exact not_fault_of_mem_echoVisits htame (hnarrow.window s.engine.console.diagnostics)
  | ttyText template =>
    rw [actionVisits]
    split
    · exact not_fault_of_isTame htame (hnarrow.openTerminal.window .terminal)
    · exact hnone
  | _ => exact hnone

/-- A tick on a program of tame actions meets no fault. -/
theorem not_fault_of_mem_tickVisits (hhost : Host.Tame σ)
    (htame : s.engine.program.all Action.isTame = true) (hnarrow : s.Narrow) (isWrite : Bool) :
    ∀ visit ∈ s.tickVisits isWrite, ¬ visit.Fault := by
  intro visit hvisit
  unfold tickVisits at hvisit
  split at hvisit
  · obtain ⟨⟨action, found⟩, hpair, hvisit⟩ := List.mem_flatMap.1 hvisit
    obtain ⟨hbegun, hstage⟩ := List.of_mem_zip hpair
    have haction : action.isTame = true :=
      List.all_eq_true.1 htame action (mem_program_of_mem_begun hbegun)
    exact not_fault_of_mem_actionVisits hhost haction (hnarrow.count.stages hstage) isWrite visit
      hvisit
  · cases hvisit

/-- A complete program of tame actions, in front of windows that are not too wide. -/
structure Tame (s : Session σ) : Prop extends Narrow s where
  isSealed : s.engine.isSealed = true
  program : s.engine.program.all Action.isTame = true

namespace Tame

/-- A tame session in narrow windows does not crash. -/
theorem tick_eq_ok (hhost : Host.Tame σ) (h : s.Tame) (isWrite : Bool) :
    (s.tick isWrite).1 = .ok () := by
  obtain hresult | hcrash := tick_of_isSealed h.isSealed isWrite
  · exact hresult
  · obtain ⟨visit, hvisit, hfault⟩ := (tick_eq_crash_iff isWrite s).1 hcrash
    exact absurd hfault
      (not_fault_of_mem_tickVisits hhost h.program h.toNarrow isWrite visit hvisit)

theorem tick (h : s.Tame) (isWrite : Bool) : (s.tick isWrite).2.Tame := by
  obtain hrun | hidle := tick_callActions isWrite s
  · have hsame := sameWork_carryOutAll isWrite (s.callActions (.tick isWrite)) s.count
    rw [hrun]
    exact {
      toNarrow := h.toNarrow.count.carryOutAll isWrite _
      isSealed := hsame.isSealed.trans h.isSealed
      program := by
        rw [hsame.program]
        exact h.program }
  · rw [hidle.1]
    exact h

end Tame

/-- A complete program of tame actions goes on for any number of records, whatever fails on the
way. -/
theorem tickAll_of_tame (hhost : Host.Tame σ) (h : s.Tame) (row : List Bool) :
    (s.tickAll row).1 = .ok () := by
  induction row generalizing s with
  | nil => rfl
  | cons isWrite rest ih =>
    have hresult := h.tick_eq_ok hhost isWrite
    have hnext := h.tick isWrite
    rw [tickAll]
    split
    · rename_i next htick
      rw [htick] at hnext
      exact ih hnext
    · rename_i hstopped
      exact (hstopped (s.tick isWrite).2 (Prod.ext hresult rfl)).elim

/-- The law of faults. A tick on a complete program succeeds, whatever fails in it, unless it comes to
a piece of a template that is at fault; and so does every rendering end with a column or a failure. A
program of tame actions comes to no such piece, however many records there are. -/
theorem faultLaw (given : Nat) (console : Console) (world : World) (host : σ)
    (calls : List (Call σ)) (isWrite : Bool)
    (hsealed : ((fresh given console world host).steps calls).engine.isSealed = true) :
    let s := (fresh given console world host).steps calls
    ((s.tick isWrite).1 = .ok () ↔ ∀ visit ∈ s.tickVisits isWrite, ¬ visit.Fault) ∧
      ((s.tick isWrite).1 = .error .crash ↔ ∃ visit ∈ s.tickVisits isWrite, visit.Fault) ∧
      (∀ (job : Template.Job) (template : List Char) (column : Nat) (scene : Scene σ),
        ((∃ last, ((render job template column).run.run scene).1 = .ok last) ∨
          ∃ cause, ((render job template column).run.run scene).1 = .error (.failure cause)) ↔
            ∀ visit ∈ textVisits job template column scene, ¬ visit.Fault) ∧
      (Host.Tame σ → s.Tame → ∀ row, (s.tickAll row).1 = .ok ()) := by
  intro s
  have hcrash := tick_eq_crash_iff isWrite s
  refine ⟨?_, hcrash, fun job template column scene ↦ ?_, tickAll_of_tame⟩
  · have hcalm : (s.tick isWrite).1 = .ok () ↔ ¬ (s.tick isWrite).1 = .error .crash := by
      obtain h | h := tick_of_isSealed (s := s) hsealed isWrite <;> simp [h]
    rw [hcalm, hcrash]
    simp
  · have hcalm := not_congr (render_eq_crash_iff job template column scene)
    simp only [not_exists, not_and] at hcalm
    rw [← hcalm]
    rcases ((render job template column).run.run scene).1 with (cause | _) | last <;> simp

/-- A time that is padded, and another that is echoed: the tick comes to both kinds of pieces that can be
at fault and succeeds, and so do all ticks after it. -/
theorem tick_of_padded_time :
    let a : Archive := { archiveName := "a.tar", mode := .write, recordSize := 512, site := {} }
    let s := (fresh 1 ⟨.listing, .diagnostics, .ok {}⟩ {} a).steps
      [.compile "ttyout=%\x7b%H:%M\x7dt%\x7b30\x7d*", .compile "echo=%t", .finishCompile]
    (s.tickVisits true).map (·.piece) = pieces "%\x7b%H:%M\x7dt%\x7b30\x7d*%t".toList ∧
      (s.tick true).1 = .ok () ∧ ∀ row, (s.tickAll row).1 = .ok () := by
  intro a s
  have hsealed : s.engine.isSealed = true := by decide +kernel
  have htame : s.Tame :=
    { window := fun stream ↦ by cases stream <;> decide +kernel
      terminal := fun sink hsink ↦ by cases hsink; decide +kernel
      isSealed := hsealed
      program := by decide +kernel }
  obtain ⟨hcalm, -, -, hall⟩ := faultLaw 1 ⟨.listing, .diagnostics, .ok {}⟩ {} a
    [.compile "ttyout=%\x7b%H:%M\x7dt%\x7b30\x7d*", .compile "echo=%t", .finishCompile] true hsealed
  refine ⟨by decide +kernel, hcalm.2 ?_, hall Archive.tame htame⟩
  exact not_fault_of_mem_tickVisits Archive.tame htame.program htame.toNarrow true

/-- Two programs that are accepted, and whose first tick is a fault: one asks for too many blanks, the
other for a form of the time that can only be read. -/
theorem crash_of_accepted_program :
    let first := fresh 1 ⟨.listing, .diagnostics, .ok {}⟩ {} ({} : ScriptedHost)
    (first.compile "ttyout=%\x7b65536\x7d*").1 = .ok () ∧
      ((first.steps [.compile "ttyout=%\x7b65536\x7d*", .finishCompile]).tick true).1 =
        .error .crash ∧
      (first.compile "echo=%\x7b%#z\x7dt").1 = .ok () ∧
      ((first.steps [.compile "echo=%\x7b%#z\x7dt", .finishCompile]).tick true).1 =
        .error .crash := by
  decide +kernel

end Session

end ProgressActions
