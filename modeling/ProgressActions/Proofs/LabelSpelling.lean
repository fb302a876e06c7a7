import ProgressActions.Host.Scripted
import ProgressActions.Proofs.HostCalls
import ProgressActions.Proofs.LabelGrammar
import ProgressActions.Proofs.Scan
import ProgressActions.Proofs.SpecGrammar

/-!
# Labels in a spec

A label passes three readers on its way from a spec to the host: the payload of the spec is unquoted,
the argument of the directive is captured, and the labels in it are split. Each of them gives a
backslash a meaning of its own. Put behind backslashes and quotes for one reader after the other, any
three labels arrive as they are.
-/

namespace ProgressActions

namespace Text

/-- A text in double quotes, with a backslash before each double quote and each backslash in it. -/
def quoted (text : List Char) : List Char := '"' :: escape ['\\', '"'] text ++ ['"']

end Text

open Text

namespace Template

/-! ## Labels -/

/-- Between double quotes, quotes and backslashes that are escaped stand for themselves. -/
theorem run_escape (text : List Char) : Label.Run (escape ['\\', '"'] text) text := by
  induction text with
  | nil => exact .nil
  | cons c text ih =>
    rw [escape_cons]
    by_cases hc : c ∈ ['\\', '"']
    · rw [if_pos hc]
      exact .escaped c ih
    · have hplain : c ≠ '\\' ∧ c ≠ '"' := by simpa using hc
      rw [if_neg hc]
      exact .plain hplain.2 hplain.1 ih

/-- A text between double quotes is a word for it. -/
theorem word_quoted (text : List Char) : Label.Word (quoted text) text := by
  simpa [quoted] using Label.Word.cons (.double (run_escape text)) .nil

namespace Labels

/-- Labels in double quotes, with commas between them. -/
def quoted (l : Labels) : List Char :=
  Text.quoted l.read.toList ++ ',' :: Text.quoted l.written.toList ++
    ',' :: Text.quoted l.deleted.toList

/-- A template of nothing but totals with some labels. -/
def template (l : Labels) : List Char :=
  '%' :: '\x7b' :: escape ['\\', '}'] l.quoted ++ ['}', 'T']

/-- Quoted labels are split into themselves. -/
theorem splitLabels_quoted (l : Labels) :
    splitLabels l.quoted = .ok [l.read, l.written, l.deleted] := by
  have hsome : l.quoted ≠ [] := by simp [quoted, Text.quoted]
  have hwords : Label.Words l.quoted [l.read.toList, l.written.toList, l.deleted.toList] := by
    rw [quoted, List.append_assoc, List.cons_append]
    exact .cons (word_quoted _) (.cons (word_quoted _) (.last (word_quoted _)))
  rw [splitLabels_of_words hwords hsome (by simp)]
  simp

/-- The template is read as the one directive that it was written for. -/
theorem pieces_template (l : Labels) :
    pieces l.template =
      [.directive 'T' (some ⟨l.quoted, escape ['\\', '}'] l.quoted⟩)] := by
  have hcapture := Argument.capture?_escape l.quoted ['T']
  rw [template, List.cons_append, List.cons_append, pieces_argument hcapture, pieces_nil]

end Labels

end Template

/-! ## Calls on the host -/

namespace Act

open Event Template

variable {σ α β : Type} [Host σ]

/-- To show totals is one question to the host. -/
theorem selected_totals (stream : Stream) (labels : Labels) (separator : Char) (s : Scene σ) :
    ((totals stream labels separator).run.run s).2.world.selected isHostCall =
      s.world.selected isHostCall ++ [.askTotals labels separator] := by
  have hasked : (s.world.record (.askTotals labels separator)).selected isHostCall =
      s.world.selected isHostCall ++ [.askTotals labels separator] :=
    World.selected_record _ _
  rw [← hasked]
  unfold totals
  refine selected_bind_of_isQuiet calls_isHostCall (fun _ ↦ .get_bind (fun _ _ ↦ rfl) fun t ↦ ?_) s
  split
  · exact .emit (Move.isQuiet_write stream) _
  · exact .throw _

/-- A rendering of totals with labels asks for the time, and then for totals with these labels. -/
theorem selected_render_template (job : Template.Job) (l : Labels) (column : Nat) (s : Scene σ) :
    ((render job l.template column).run.run s).2.world.selected isHostCall =
      s.world.selected isHostCall ++ [.askElapsed, .askTotals l ','] := by
  let argument : Argument := ⟨l.quoted, escape ['\\', '}'] l.quoted⟩
  have hlabels : totalsLabels (σ := σ) (some argument) = pure l := by
    simp only [totalsLabels, argument, Labels.splitLabels_quoted, Labels.ofWords]
  have hasked : (s.world.record .askElapsed).selected isHostCall =
      s.world.selected isHostCall ++ [.askElapsed] := World.selected_record _ _
  have hdirective : ((renderDirective job (renderStatus job) 'T' (some argument) column).run.run
      s).2.world.selected isHostCall =
        s.world.selected isHostCall ++ [.askElapsed, .askTotals l ','] := by
    simp only [renderDirective, hlabels, pure_bind]
    rw [run_bind, run_elapsed]
    dsimp only
    rw [selected_bind_of_isQuiet calls_isHostCall fun _ ↦ .pure _, selected_totals]
    dsimp only
    rw [hasked, List.append_assoc]
    rfl
  have hflush : ∀ last : Nat, MadeOf Move.IsQuiet (do
      flush job.stream
      pure last : Act σ Nat) := fun last ↦ .bind (.flush (Move.isQuiet_flush _)) fun _ ↦ .pure last
  have hend : ∀ last : Nat, MadeOf Move.IsQuiet (renderPieces (σ := σ) job (renderStatus job) [] last) :=
    fun last ↦ .pure last
  rw [render, selected_bind_of_isQuiet calls_isHostCall hflush, renderText, Labels.pieces_template, renderPieces,
    selected_bind_of_isQuiet calls_isHostCall hend]
  exact hdirective

/-- An echo of totals asks for them if its diagnostics take the opening of the line. -/
theorem selected_echo_template {stream : Stream} (isWrite : Bool) (checkpoint : Nat) (l : Labels)
    {s : Scene σ} (hroom : (s.world.sinks.get stream).room = none) :
    ((echo stream isWrite checkpoint (some (String.ofList l.template))).run.run
      s).2.world.selected isHostCall =
        s.world.selected isHostCall ++ [.askElapsed, .askTotals l ','] := by
  have hfits : ∀ content, (s.world.write stream content).1 = true := fun content ↦ by
    simp [World.write, Sink.fits, hroom]
  have hput : ∀ last : Nat, MadeOf Move.IsQuiet (put (σ := σ) stream ['\n']) := fun _ ↦
    .put (Move.isQuiet_write stream) (Move.isQuiet_flush stream) _
  rw [echo, run_bind, run_get]
  dsimp only
  rw [run_bind, run_write, if_pos (hfits _)]
  dsimp only
  rw [pure_bind, selected_bind_of_isQuiet calls_isHostCall hput, String.toList_ofList, selected_render_template]
  exact congrArg (· ++ _) (World.selected_write (fun _ ↦ rfl) s.world)

end Act

namespace Session

open Event Template

variable {σ : Type} [Host σ]

/-- Arbitrary labels reach the host. Put in double quotes, joined by commas, escaped as an argument of
a directive and quoted as a payload, they make a spec of an echo and of a text on the terminal. Each
time such an action is carried out, on diagnostics that take everything or on a terminal that is open,
the host is asked for totals once, with just these labels, and no error is reported. -/
theorem labels_reach_host (l : Labels) :
    let text := String.ofList l.template
    Action.parse (Action.quotedSpec "echo" l.template) = .ok (.echoText text) ∧
      Action.parse (Action.quotedSpec "ttyout" l.template) = .ok (.ttyText text) ∧
      ∀ (found : Session σ) (isWrite : Bool),
        ((found.world.sinks.get found.engine.console.diagnostics).room = none →
          (found.carryOut isWrite (.echoText text)).world.selected isHostCall =
            found.world.selected isHostCall ++ [.askElapsed, .askTotals l ',']) ∧
        (found.openTerminal.engine.slot = .opened →
          (found.carryOut isWrite (.ttyText text)).world.selected isHostCall =
            found.world.selected isHostCall ++ [.askElapsed, .askTotals l ',']) := by
  refine ⟨Action.parse_quotedSpec_echo l.template, Action.parse_quotedSpec_ttyout l.template,
    fun found isWrite ↦ ⟨fun hroom ↦ ?_, fun hopened ↦ ?_⟩⟩
  · rw [selected_carryOut_of_calls calls_isHostCall]
    exact Act.selected_echo_template isWrite found.engine.ticks l (s := found.scene) hroom
  · have hperform : (found.perform isWrite (.ttyText (String.ofList l.template))).2.world =
        ((Act.ttyText isWrite found.engine.ticks (String.ofList l.template)).run.run
          found.openTerminal.scene).2.world := by
      change (found.withTerminal _).2.world = _
      unfold withTerminal
      dsimp only
      rw [if_pos hopened]
      rfl
    have hscene : found.openTerminal.scene.world.selected isHostCall =
        found.world.selected isHostCall :=
      selected_openTerminal_of_calls calls_isHostCall found
    rw [selected_carryOut_of_calls calls_isHostCall, hperform, ← hscene, Act.ttyText,
      Act.selected_bind_of_isQuiet calls_isHostCall fun _ ↦ .pure _, String.toList_ofList,
      Act.selected_render_template]

/-- Labels that hold all that has a meaning to one of the readers, or nothing at all. -/
theorem labels_reach_host_of_special_characters :
    let l : Template.Labels :=
      { read := "a\"b,c\\d%", written := "", deleted := "'\x7b\x7d\r" }
    let s := (fresh 1 ⟨.listing, .diagnostics, .ok {}⟩ {} ({} : ScriptedHost)).steps
      [.compile (Action.quotedSpec "echo" l.template), .finishCompile]
    s.engine.program = [.echoText (String.ofList l.template)] ∧
      (s.carryOut true (.echoText (String.ofList l.template))).world.selected isHostCall =
        [.askElapsed, .askTotals l ','] ∧
      (s.carryOut true (.ttyText (String.ofList l.template))).world.selected isHostCall =
        [.askElapsed, .askTotals l ','] := by
  intro l s
  obtain ⟨-, -, hreach⟩ := labels_reach_host (σ := ScriptedHost) l
  have hnone : s.world.selected isHostCall = [] := by decide +kernel
  have hecho := (hreach s true).1 (by decide +kernel)
  have htext := (hreach s true).2 (by decide +kernel)
  rw [hnone] at hecho htext
  exact ⟨by decide +kernel, hecho, htext⟩

end Session

end ProgressActions
