import ProgressActions.Host.Scripted
import ProgressActions.Proofs.Schedule

/-!
# Refusals

A call that is refused has no effect: neither the engine, nor the world with its trace, nor the host
is another afterwards. So the refused calls of a run may be left out of it. In particular, what specs
make of an engine is settled by those that parse.
-/

namespace ProgressActions

variable {σ : Type}

namespace Action

/-- Whether a spec stands for an action. -/
def accepts (spec : String) : Bool := (parse spec).toOption.isSome

def accepted (specs : List String) : List Action := specs.filterMap fun spec ↦ (parse spec).toOption

/-- The actions are those that the accepted specs stand for, in their order. -/
theorem map_parse_filter_accepts (specs : List String) :
    (specs.filter accepts).map parse = (accepted specs).map .ok := by
  induction specs with
  | nil => rfl
  | cons spec rest ih =>
    unfold accepts accepted at ih ⊢
    cases hparse : parse spec with
    | error cause => simpa [hparse, Except.toOption] using ih
    | ok action => simpa [hparse, Except.toOption] using ih

end Action

namespace Session

/-- What an open engine answers to a spec. -/
def verdict (spec : String) : Except Stop Unit :=
  match Action.parse spec with
  | .ok _ => .ok ()
  | .error cause => .error (.refused (.spec cause))

/-- A spec that does not parse changes nothing. -/
theorem compile_of_parse_error {s : Session σ} {spec : String} {cause : SpecError}
    (hparse : Action.parse spec = .error cause) (hopen : s.engine.isSealed = false) :
    s.compile spec = (.error (.spec cause), s) := by
  have hcompile : s.engine.compile spec = .error (.spec cause) := by
    simp [Engine.compile, hopen, hparse]
  rw [compile, hcompile]

/-- A spec that is refused leaves the session as it was. -/
theorem compile_of_error {s : Session σ} {spec : String} {cause : EngineError}
    (h : (s.compile spec).1 = .error cause) : (s.compile spec).2 = s := by
  unfold compile at h ⊢
  cases hcompile : s.engine.compile spec with
  | error other => rfl
  | ok engine =>
    rw [hcompile] at h
    cases h

theorem finishCompile_of_error {s : Session σ} {cause : EngineError}
    (h : s.finishCompile.1 = .error cause) : s.finishCompile.2 = s := by
  by_cases hphase : s.engine.phase = .compiling
  · rw [finishCompile_of_compiling hphase] at h
    cases h
  cases hlacks : s.engine.lacksProgram with
  | false =>
    rw [finishCompile_of_not_lacksProgram hphase hlacks] at h
    cases h
  | true =>
    cases hsealed : s.engine.isSealed with
    | true => rw [finishCompile_of_isSealed hsealed hlacks]
    | false =>
      rw [finishCompile_of_lacksProgram hsealed hlacks] at h
      cases h

/-! ## Specs and completion -/

/-- What the completion of a program makes of the program. -/
theorem program_finishCompile {s : Session σ} (hopen : s.engine.isSealed = false) :
    s.finishCompile.1 = .ok () ∧
      s.finishCompile.2.engine.program =
        if s.engine.lacksProgram then s.engine.program ++ [.echo] else s.engine.program := by
  cases hlacks : s.engine.lacksProgram with
  | true =>
    rw [finishCompile_of_lacksProgram hopen hlacks, engine_onEngine, engine_start,
      (compile_echo hopen).2]
    exact ⟨rfl, rfl⟩
  | false =>
    by_cases hphase : s.engine.phase = .compiling
    · rw [finishCompile_of_compiling hphase]
      exact ⟨rfl, rfl⟩
    · rw [finishCompile_of_not_lacksProgram hphase hlacks]
      exact ⟨rfl, rfl⟩

variable [Host σ]

/-- An open engine takes every spec that stands for an action. -/
theorem answer_compile_of_parse {s : Session σ} {spec : String} {action : Action}
    (hparse : Action.parse spec = .ok action) (hopen : s.engine.isSealed = false) :
    (s.answer (.compile spec)).1 = .ok () ∧
      (s.next (.compile spec)).engine = s.engine.append action := by
  obtain ⟨hresult, hengine⟩ := compile_of_parse hparse hopen
  have hanswer : (s.answer (.compile spec)).1 = (s.compile spec).1.mapError .refused := rfl
  rw [hanswer, hresult]
  exact ⟨rfl, hengine⟩

/-- An open engine refuses a spec with the error of its parse. -/
theorem answer_compile_of_parse_error {s : Session σ} {spec : String} {cause : SpecError}
    (hparse : Action.parse spec = .error cause) (hopen : s.engine.isSealed = false) :
    s.answer (.compile spec) = (.error (.refused (.spec cause)), s) := by
  rw [answer, compile_of_parse_error hparse hopen]
  rfl

/-- Specs that are compiled into an open engine leave their actions in it, and those that do not parse
may be left out. -/
theorem steps_compile (specs : List String) {s : Session σ} (hopen : s.engine.isSealed = false) :
    s.results (specs.map .compile) = specs.map verdict ∧
      s.steps (specs.map .compile) = s.steps ((specs.filter Action.accepts).map .compile) ∧
      (s.steps (specs.map .compile)).engine =
        (Action.accepted specs).foldl Engine.append s.engine := by
  induction specs generalizing s with
  | nil => exact ⟨rfl, rfl, rfl⟩
  | cons spec rest ih =>
    rw [List.map_cons, List.map_cons, results, steps_cons]
    cases hparse : Action.parse spec with
    | error cause =>
      have hanswer := answer_compile_of_parse_error hparse hopen
      have hnext : s.next (.compile spec) = s := congrArg Prod.snd hanswer
      obtain ⟨hresults, hsteps, hengine⟩ := ih hopen
      rw [hanswer, hnext]
      refine ⟨?_, ?_, ?_⟩
      · simp only [hresults, verdict, hparse]
      · simpa [Action.accepts, hparse, Except.toOption] using hsteps
      · simpa [Action.accepted, hparse, Except.toOption] using hengine
    | ok action =>
      obtain ⟨hresult, happend⟩ := answer_compile_of_parse hparse hopen
      have hstill : (s.next (.compile spec)).engine.isSealed = false := by
        rw [happend]
        exact hopen
      obtain ⟨hresults, hsteps, hengine⟩ := ih hstill
      refine ⟨?_, ?_, ?_⟩
      · simp only [hresult, hresults, verdict, hparse]
      · simpa [Action.accepts, hparse, Except.toOption] using hsteps
      · rw [hengine, happend]
        simp [Action.accepted, hparse, Except.toOption]

/-! ## Every call -/

omit [Host σ] in
theorem error_of_mapError {result : Except EngineError Unit} {cause : EngineError}
    (h : result.mapError Stop.refused = .error (.refused cause)) : result = .error cause := by
  cases result with
  | ok _ => cases h
  | error other =>
    cases h
    rfl

/-- A call that is refused changes nothing. -/
theorem next_of_refused {s : Session σ} {call : Call σ} {cause : EngineError}
    (h : (s.answer call).1 = .error (.refused cause)) : s.next call = s := by
  cases call with
  | compile spec => exact compile_of_error (error_of_mapError h)
  | finishCompile => exact finishCompile_of_error (error_of_mapError h)
  | tick isWrite =>
    have hresult : (s.tick isWrite).1 = .error (.refused cause) := h
    obtain ⟨-, -, -, htick⟩ | ⟨-, -, -, htick⟩ | ⟨-, hkept⟩ := tick_cases isWrite s
    · obtain ⟨_, -, -, ⟨hok, -⟩ | hcrash⟩ := performAll_walk isWrite s.engine.program s.count
      · rw [htick, hok] at hresult
        cases hresult
      · rw [htick, hcrash] at hresult
        cases hresult
    · rw [htick] at hresult
      cases hresult
    · exact hkept
  | finish =>
    have hresult : s.finish.1 = .error (.refused cause) := h
    obtain hok | hcrash := result_finish s
    · rw [hok] at hresult
      cases hresult
    · rw [hcrash] at hresult
      cases hresult
  | meanwhile world host terminal => cases h

/-- Whether a call came to a refusal. -/
def isRefused : Except Stop Unit → Bool
  | .error (.refused _) => true
  | _ => false

/-- A row of calls without those that are refused. -/
def unrefused : List (Call σ) → Session σ → List (Call σ)
  | [], _ => []
  | call :: rest, s =>
    if isRefused (s.answer call).1 then unrefused rest (s.next call)
    else call :: unrefused rest (s.next call)

/-- A refused call leaves the session as it was. -/
theorem next_of_isRefused {s : Session σ} {call : Call σ} (h : isRefused (s.answer call).1 = true) :
    s.next call = s := by
  unfold isRefused at h
  split at h
  · exact next_of_refused ‹_›
  · cases h

/-- The refused calls of a row may be left out of it. -/
theorem steps_unrefused (calls : List (Call σ)) (s : Session σ) :
    s.steps (s.unrefused calls) = s.steps calls ∧
      s.results (s.unrefused calls) = (s.results calls).filter (!isRefused ·) := by
  induction calls generalizing s with
  | nil => exact ⟨rfl, rfl⟩
  | cons call rest ih =>
    obtain ⟨hsteps, hresults⟩ := ih (s.next call)
    rw [unrefused, results, steps_cons]
    split
    · rename_i hrefused
      rw [next_of_isRefused hrefused] at hsteps hresults ⊢
      exact ⟨hsteps, by simp [hresults, hrefused]⟩
    · rename_i hheard
      rw [steps_cons, results, hsteps, hresults]
      exact ⟨rfl, by simp [hheard]⟩

theorem results_append (first second : List (Call σ)) (s : Session σ) :
    s.results (first ++ second) = s.results first ++ (s.steps first).results second := by
  induction first generalizing s with
  | nil => rfl
  | cons call rest ih => simp only [List.cons_append, results, steps_cons, ih]

/-! ## From the first call on -/

omit [Host σ] in
theorem program_fold_append (actions : List Action) (given : Nat) (console : Console)
    (world : World) (host : σ) :
    let e := actions.foldl Engine.append (fresh given console world host).engine
    e.program = actions ∧ e.isSealed = false ∧
      (e.lacksProgram = true ↔ actions = [] ∧ 0 < given) := by
  intro e
  obtain ⟨signals, hfold⟩ :=
    Engine.foldl_append_eq actions (fresh given console world host).engine
  have hphase : e.phase = if actions = [] then .uninitialized else .compiling :=
    congrArg Engine.phase hfold
  have hinterval : e.interval = given := congrArg Engine.interval hfold
  have hprogram : e.program = actions := congrArg Engine.program hfold
  refine ⟨hprogram, congrArg Engine.isSealed hfold, ?_⟩
  rw [Engine.lacksProgram, hphase, hinterval, hprogram]
  cases actions <;> simp

/-- Refusals have no effect. After any row of calls, whatever the surroundings and the host, a call
that is refused leaves the whole session as it was, and a row may be run without its refused calls.
In particular the specs that are compiled into a new engine before its program is completed are each
answered by themselves; those that do not parse may be left out; and the program consists of the
actions that the others stand for, or of the bare echo if there are none and an interval is given. -/
theorem refusals_steps_fresh (given : Nat) (console : Console) (world : World) (host : σ) :
    let first := fresh given console world host
    (∀ (calls : List (Call σ)) (call : Call σ) (cause : EngineError),
      ((first.steps calls).answer call).1 = .error (.refused cause) →
        (first.steps calls).next call = first.steps calls) ∧
    (∀ calls : List (Call σ), first.steps (first.unrefused calls) = first.steps calls) ∧
    ∀ specs : List String,
      let accepted := specs.filter Action.accepts
      let actions := Action.accepted specs
      let sealed := first.steps (specs.map .compile ++ [.finishCompile])
      accepted.map Action.parse = actions.map .ok ∧
        first.results (specs.map .compile ++ [.finishCompile]) = specs.map verdict ++ [.ok ()] ∧
        sealed = first.steps (accepted.map .compile ++ [.finishCompile]) ∧
        sealed.engine.program =
          if actions = [] then if 0 < given then [.echo] else [] else actions := by
  intro first
  refine ⟨fun calls call cause h ↦ next_of_refused h, fun calls ↦ (steps_unrefused calls first).1,
    fun specs ↦ ?_⟩
  intro accepted actions sealed
  have hopen : first.engine.isSealed = false := rfl
  obtain ⟨hresults, hsteps, hengine⟩ := steps_compile specs hopen
  obtain ⟨hprogram, hstill, hlacks⟩ := program_fold_append actions given console world host
  rw [← hengine] at hprogram hstill hlacks
  obtain ⟨hfinished, hsupplied⟩ := program_finishCompile hstill
  refine ⟨Action.map_parse_filter_accepts specs, ?_, ?_, ?_⟩
  · rw [results_append, hresults]
    have hlast : (first.steps (specs.map .compile)).results [.finishCompile] =
        [(first.steps (specs.map .compile)).finishCompile.1.mapError .refused] := rfl
    rw [hlast, hfinished]
    rfl
  · change first.steps (specs.map .compile ++ [.finishCompile]) = _
    rw [steps_append, steps_append, hsteps]
  · have hsealed : sealed = (first.steps (specs.map .compile)).finishCompile.2 :=
      steps_append first _ _
    rw [hsealed, hsupplied, hprogram]
    simp only [hlacks]
    cases actions <;> simp

/-- A tick that comes too early is refused, and three of five specs may as well not be there. -/
theorem refusals_of_mistyped_specs :
    let first := fresh 3 ⟨.listing, .diagnostics, .ok {}⟩ {} ({} : ScriptedHost)
    let early := first.steps [.compile "dot"]
    let specs := ["dot", "dots", "sleep=x", "echo=%u", "wait=NONE"]
    (early.answer (.tick true)).1 = .error (.refused (.lifecycle .tick .compiling)) ∧
      early.next (.tick true) = early ∧
      (first.steps (specs.map .compile ++ [.finishCompile])).engine.program =
        [.dot, .echoText "%u"] := by
  intro first early specs
  obtain ⟨hrefusal, -, hspecs⟩ :=
    refusals_steps_fresh 3 ⟨.listing, .diagnostics, .ok {}⟩ {} ({} : ScriptedHost)
  have htick : (early.answer (.tick true)).1 =
      .error (.refused (.lifecycle .tick .compiling)) := by decide +kernel
  have hactions : Action.accepted specs = [.dot, .echoText "%u"] := by decide +kernel
  have hprogram := (hspecs specs).2.2.2
  rw [hactions] at hprogram
  exact ⟨htick, hrefusal [.compile "dot"] (.tick true) _ htick, hprogram⟩

end Session

end ProgressActions
