import ProgressActions.Proofs.Deeds
import ProgressActions.Proofs.Outcome

/-!
# What the commands of a run are told

A command finds the variables of its archive, whatever else is set around it. Nothing that happens in a
run changes the size of the archive's records. So each command that runs is told how many blocks there
are in a record by one and the same number.
-/

namespace ProgressActions

variable {μ : Type}

open Event

/-! ## Variables -/

namespace Launch

theorem lookup_filter_of_ne {name other : Octets} (h : name ≠ other) (environment : Environment) :
    (environment.filter (·.1 != other)).lookup name = environment.lookup name := by
  induction environment with
  | nil => rfl
  | cons v rest ih =>
    rw [List.filter_cons, List.lookup_cons]
    split
    · rw [List.lookup_cons, ih]
    · rename_i hother
      have hv : v.1 = other := by simpa using hother
      rw [ih, beq_false_of_ne (hv ▸ h)]

/-- The variable that is set last prevails. -/
theorem lookup_extend_append (environment further : Environment) (v : Octets × Octets)
    (name : Octets) :
    (extend environment (further ++ [v])).lookup name =
      if name = v.1 then some v.2 else (extend environment further).lookup name := by
  unfold extend
  rw [List.foldl_append, List.foldl_cons, List.foldl_nil, List.lookup_cons]
  by_cases h : name = v.1
  · rw [if_pos h, h, beq_self_eq_true]
  · rw [if_neg h, beq_false_of_ne h, lookup_filter_of_ne h]

end Launch

namespace Octets

/-- A text of ASCII characters stands for itself. -/
theorem ofBytes_bytes_of_ascii {text : List Char} (h : ∀ c ∈ text, c.toNat < 128) :
    ofBytes (Text.bytes text) = text := by
  induction text with
  | nil => rfl
  | cons c rest ih =>
    obtain ⟨hc, hrest⟩ := List.forall_mem_cons.1 h
    have hsize : c.utf8Size = 1 := by
      rw [Char.utf8Size_eq_one_iff, UInt32.le_iff_toNat_le]
      exact Nat.le_of_lt_succ hc
    have hcode : (Char.ofNat c.val.toUInt8.toNat) = c := by
      have hlow : c.val.toUInt8.toNat = c.toNat := by
        rw [UInt32.toNat_toUInt8]
        exact Nat.mod_eq_of_lt (Nat.lt_trans hc (by decide))
      rw [hlow, Char.ofNat_toNat]
    calc ofBytes (Text.bytes (c :: rest))
        = Char.ofNat c.val.toUInt8.toNat :: ofBytes (Text.bytes rest) := by
          rw [Text.bytes_cons, String.utf8EncodeChar_eq_singleton hsize]
          rfl
      _ = c :: rest := by rw [hcode, ih hrest]

end Octets

namespace Archive

theorem toNat_lt_of_mem_numeral {n : Nat} {d : Char} (h : d ∈ Text.numeral n) : d.toNat < 128 := by
  have hdigit := Nat.isDigit_of_mem_toDigits (by decide) le_rfl h
  simp only [Char.isDigit, Bool.and_eq_true, decide_eq_true_eq, UInt32.le_iff_toNat_le] at hdigit
  exact Nat.lt_of_le_of_lt hdigit.2 (by decide)

/-- The number of blocks in a record, as commands find it. -/
theorem lookup_blockingFactor [Launch.Place μ] (a : Archive μ) (script archive : String)
    (checkpoint : Nat) :
    (a.scriptCommand script archive checkpoint).environment.lookup "TAR_BLOCKING_FACTOR".toList =
      some (Text.numeral (a.recordSize / blockSize)) := by
  unfold scriptCommand
  let octets (text : String) : Octets := Octets.ofBytes (Text.bytes text.toList)
  have hvariables : a.scriptEnvironment archive checkpoint =
      [(octets "TAR_VERSION", octets programVersion), (octets "TAR_ARCHIVE", octets archive),
        (octets "TAR_CHECKPOINT", octets (String.ofList (Text.numeral checkpoint)))] ++
        [(octets "TAR_BLOCKING_FACTOR",
          octets (String.ofList (Text.numeral (a.recordSize / blockSize))))] ++
        [(octets "TAR_SUBCOMMAND", octets a.mode.subcommand)] ++
        [(octets "TAR_FORMAT", octets "gnu")] := rfl
  have hnumeral : octets (String.ofList (Text.numeral (a.recordSize / blockSize))) =
      Text.numeral (a.recordSize / blockSize) := by
    dsimp only [octets]
    rw [String.toList_ofList]
    exact Octets.ofBytes_bytes_of_ascii fun d hd ↦ toNat_lt_of_mem_numeral hd
  -- the variables that are set later have other names
  have hformat : "TAR_BLOCKING_FACTOR".toList ≠ octets "TAR_FORMAT" := by decide
  have hsubcommand : "TAR_BLOCKING_FACTOR".toList ≠ octets "TAR_SUBCOMMAND" := by decide
  have hname : "TAR_BLOCKING_FACTOR".toList = octets "TAR_BLOCKING_FACTOR" := by decide
  rw [hvariables, Launch.lookup_extend_append, if_neg hformat, Launch.lookup_extend_append,
    if_neg hsubcommand, Launch.lookup_extend_append, if_pos hname, hnumeral]

end Archive

/-! ## The sessions that commands run in -/

def Event.isExec : Event → Bool
  | exec _ _ _ => true
  | _ => false

theorem Event.silent_isExec : Silent Event.isExec := by
  intro event h
  cases event <;> first | rfl | cases h

/-- The only command among the deeds of an action is its own. -/
theorem Action.exists_of_mem_deeds {action : Action} {archive : String} {signals : List Signal}
    {checkpoint : Nat} {event : Event} (h : event ∈ action.deeds archive signals checkpoint)
    (hexec : event.isExec = true) : ∃ command, event = .exec command archive checkpoint := by
  cases action with
  | exec command => exact ⟨command, List.mem_singleton.1 h⟩
  | sleep seconds =>
    change event ∈ if seconds = 0 then [] else [Event.sleep (.ofSeconds seconds)] at h
    split at h
    · cases h
    · rw [List.mem_singleton.1 h] at hexec
      cases hexec
  | totals =>
    rw [List.mem_singleton.1 h] at hexec
    cases hexec
  | wait signal =>
    rw [List.mem_singleton.1 h] at hexec
    cases hexec
  | _ => cases h

namespace Session

/-- All commands that run between two sessions are run by sessions of a list. -/
def RunsFrom (found : List (Session (Archive μ))) (s t : Session (Archive μ)) : Prop :=
  ∀ event ∈ t.world.selected isExec, event ∈ s.world.selected isExec ∨
    ∃ f ∈ found, ∃ command, event = .exec command f.host.archiveName f.engine.ticks

namespace RunsFrom

variable {found more : List (Session (Archive μ))} {s t u : Session (Archive μ)}

theorem of_selected_eq (h : t.world.selected isExec = s.world.selected isExec) :
    RunsFrom found s t := fun _ hevent ↦ .inl (h ▸ hevent)

theorem mono (h : found ⊆ more) (hfound : RunsFrom found s t) : RunsFrom more s t := by
  intro event hevent
  obtain hold | ⟨f, hf, hcommand⟩ := hfound event hevent
  · exact .inl hold
  · exact .inr ⟨f, h hf, hcommand⟩

theorem trans (hfirst : RunsFrom found s t) (hsecond : RunsFrom found t u) :
    RunsFrom found s u := by
  intro event hevent
  obtain hold | hnew := hsecond event hevent
  · exact hfirst event hold
  · exact .inr hnew

variable [Launch.Place μ]

/-- An action runs a command of its own session, if it runs any. -/
theorem carryOut (isWrite : Bool) (action : Action) (s : Session (Archive μ)) :
    RunsFrom [s] s (s.carryOut isWrite action) := by
  intro event hevent
  rw [selected_carryOut silent_isExec] at hevent
  obtain hold | hdeed := List.mem_append.1 hevent
  · exact .inl hold
  · obtain ⟨hdeed, hexec⟩ := List.mem_filter.1 hdeed
    exact .inr ⟨s, List.mem_singleton_self s, Action.exists_of_mem_deeds hdeed hexec⟩

theorem performAll (isWrite : Bool) (program : List Action) (s : Session (Archive μ)) :
    RunsFrom (s.stages isWrite program) s (s.performAll isWrite program).2 := by
  induction program generalizing s with
  | nil => exact of_selected_eq rfl
  | cons action rest ih =>
    have hfirst := (carryOut isWrite action s).mono
      (List.cons_subset_cons s (List.nil_subset (stages isWrite rest (s.carryOut isWrite action))))
    obtain ⟨-, hcrash⟩ | ⟨-, hgoOn⟩ := performAll_cons isWrite action rest s
    · rw [hcrash]
      exact hfirst
    · rw [hgoOn]
      exact hfirst.trans ((ih _).mono (List.subset_cons_self s _))

end RunsFrom

end Session

namespace Occasion

variable [Launch.Place μ]

/-- The sessions that the actions of a program find when a tick runs it. -/
def stages (o : Occasion (Archive μ)) : List (Session (Archive μ)) :=
  if o.found.count.engine.isDue then o.found.count.stages o.isWrite o.found.engine.program else []

end Occasion

namespace Session.RunsFrom

variable [Launch.Place μ]

theorem tick (isWrite : Bool) (s : Session (Archive μ)) :
    RunsFrom (Occasion.stages ⟨isWrite, s⟩) s (s.tick isWrite).2 := by
  obtain ⟨-, -, hdue, htick⟩ | ⟨-, -, -, htick⟩ | ⟨-, htick⟩ := tick_cases isWrite s
  · rw [htick, Occasion.stages, if_pos hdue]
    exact performAll isWrite s.engine.program s.count
  · rw [htick]
    exact of_selected_eq rfl
  · rw [htick]
    exact of_selected_eq rfl

theorem tickAll (flags : List Bool) (s : Session (Archive μ)) :
    RunsFrom ((s.tickOccasions flags).flatMap Occasion.stages) s (s.tickAll flags).2 := by
  induction flags generalizing s with
  | nil => exact of_selected_eq rfl
  | cons isWrite rest ih =>
    rw [tickOccasions, List.flatMap_cons]
    have hfirst := (tick isWrite s).mono (List.subset_append_left _
      (((s.tick isWrite).2.tickOccasions rest).flatMap Occasion.stages))
    rw [Session.tickAll]
    split
    · rename_i next h
      rw [h] at hfirst ⊢
      exact hfirst.trans ((ih next).mono (List.subset_append_right _ _))
    · exact hfirst

end Session.RunsFrom

namespace Run

open Session (RunsFrom)

/-- Compiling runs no command. -/
theorem quiet_compiled (c : Config) (i : Invocation μ) (w : World) :
    Session.Quiet isExec (session i c w) (compileAll c.actions (session i c w)).2.finishCompile.2 :=
  (Session.Quiet.compileAll (fun _ ↦ rfl) c.actions _).trans
    (.finishCompile (fun _ ↦ rfl) (fun _ ↦ rfl) _)

/-- A run begins with records of the configured size. -/
theorem recordSize_start (c : Config) (i : Invocation μ) (w : World) :
    (start c i w).host.recordSize = c.recordSize := by
  have hready := quiet_compiled c i w
  calc (start c i w).host.recordSize
      = (compileAll c.actions (session i c w)).2.finishCompile.2.host.recordSize := rfl
    _ = (session i c w).host.recordSize := congrArg Archive.recordSize hready.host
    _ = c.recordSize := rfl

/-- A run that gives up only says so. -/
theorem runsFrom_giveUp {found : List (Session (Archive μ))} (conclusion : Conclusion μ)
    (message : String) (s : Session (Archive μ)) : RunsFrom found s (giveUp conclusion message s).2 :=
  .of_selected_eq (World.selected_write (fun _ ↦ rfl) s.world)

theorem runsFrom_concludeStop {found : List (Session (Archive μ))} (s : Session (Archive μ)) (stop : Stop) :
    RunsFrom found s (concludeStop s stop).2 := by
  cases stop with
  | refused cause => exact runsFrom_giveUp _ _ s
  | crash => exact .of_selected_eq rfl

variable [Launch.Place μ]

/-- The commands that run for a record are those of its ticks. -/
theorem runsFrom_moveRecord (s : Session (Archive μ)) :
    RunsFrom ((({ s with host := s.host.transfer } : Session (Archive μ)).tickOccasions
      s.host.nextTicks).flatMap Occasion.stages) s (moveRecord s).2 :=
  RunsFrom.trans (.of_selected_eq rfl) (RunsFrom.tickAll s.host.nextTicks _)

/-- The commands that run are those of the ticks of all records. -/
theorem runsFrom_moveRecords (delay : Duration) (blocks : Nat) (s : Session (Archive μ)) :
    RunsFrom ((occasions delay blocks s).flatMap Occasion.stages) s
      (moveRecords delay blocks s).2 := by
  induction blocks generalizing s with
  | zero => exact .of_selected_eq rfl
  | succ blocks ih =>
    rw [occasions, List.flatMap_append]
    have hfirst := (runsFrom_moveRecord s).mono (List.subset_append_left _
      ((occasions delay blocks ((moveRecord s).2.onWorld (·.pause delay))).flatMap Occasion.stages))
    rw [moveRecords]
    split
    · rename_i next h
      rw [h] at hfirst ⊢
      exact (hfirst.trans (.of_selected_eq (World.selected_pause_of_not rfl next.world))).trans
        ((ih _).mono (List.subset_append_right _ _))
    · exact hfirst

/-- The sessions that the actions of a run find, one after the other. -/
def stages (c : Config) (s : Session (Archive μ)) : List (Session (Archive μ)) :=
  (occasions (.ofMilliseconds c.delay) c.blocks s).flatMap Occasion.stages

/-- Once the records are moved, no commands run any more. -/
theorem runsFrom_process (c : Config) (s : Session (Archive μ)) :
    RunsFrom (stages c (begun c s)) s (process c s).2 := by
  have hbegun : RunsFrom [] s (begun c s) :=
    .of_selected_eq ((Session.admits_selected silent_isExec).debug "simulate" (announcement c) s)
  have hmoved := (hbegun.mono (List.nil_subset _)).trans
    (runsFrom_moveRecords (.ofMilliseconds c.delay) c.blocks (begun c s))
  have hfinish (t : Session (Archive μ)) : RunsFrom (stages c (begun c s)) t t.finish.2 :=
    .of_selected_eq ((Session.admits_selected silent_isExec).finish t)
  unfold process
  split
  · rename_i last h
    rw [h] at hmoved
    exact hmoved
  · rename_i moved last _ h
    rw [h] at hmoved
    have hend := hmoved.trans (hfinish last)
    split
    · rename_i stop next hstop
      rw [hstop] at hend
      exact hend.trans (runsFrom_concludeStop next stop)
    · rename_i next hok
      rw [hok] at hend
      split
      · exact hend.trans (runsFrom_concludeStop next _)
      · exact hend.trans (.of_selected_eq
          ((Session.admits_selected silent_isExec).debug "simulate" (summary next) next))

/-- Every command of a run is run by one of the sessions that its actions find. -/
theorem runsFrom_execute (c : Config) (i : Invocation μ) (w : World) :
    RunsFrom (stages c (start c i w)) (session i c w)
      (execute c i.interrupts (session i c w)).2 := by
  have hcompiled : Session.Quiet isExec (session i c w) _ :=
    .compileAll (fun _ ↦ rfl) c.actions (session i c w)
  have hready := quiet_compiled c i w
  unfold execute
  split
  · rename_i cause next h
    rw [h] at hcompiled
    exact .of_selected_eq
      ((World.selected_log (fun _ ↦ rfl) next.world _ _).trans hcompiled.selected)
  · rename_i compiled h
    rw [h] at hready
    dsimp only at hready ⊢
    split
    · rename_i cause next hrefused
      rw [hrefused] at hready
      exact (RunsFrom.of_selected_eq hready.selected).trans (runsFrom_giveUp _ _ next)
    · rename_i ready hok
      have hstart : start c i w = begun c ready := by rw [start, h, hok]
      rw [hok] at hready
      refine (RunsFrom.of_selected_eq hready.selected).trans ?_
      unfold proceed
      split
      · exact runsFrom_giveUp _ _ ready
      · rw [hstart]
        exact runsFrom_process c ready

/-! ## The size of records -/

theorem recordSize_tickAll (flags : List Bool) (s : Session (Archive μ)) :
    (s.tickAll flags).2.host.recordSize = s.host.recordSize :=
  congrArg Tally.recordSize (tally_tickAll flags s)

/-- Every tick of a run finds records of the size that the run began with. -/
theorem recordSize_of_mem_occasions {delay : Duration} {blocks : Nat} {s : Session (Archive μ)}
    {o : Occasion (Archive μ)} (h : o ∈ occasions delay blocks s) :
    o.found.host.recordSize = s.host.recordSize := by
  induction blocks generalizing s with
  | zero => cases h
  | succ blocks ih =>
    rw [occasions] at h
    obtain hnow | hlater := List.mem_append.1 h
    · have hentry := List.mem_map_of_mem
        (f := fun o : Occasion (Archive μ) ↦ (o.isWrite, o.found.host.tally)) hnow
      rw [map_tickOccasions] at hentry
      obtain ⟨flag, -, heq⟩ := List.mem_map.1 hentry
      calc o.found.host.recordSize
          = s.host.transfer.recordSize := congrArg (fun pair ↦ pair.2.recordSize) heq.symm
        _ = s.host.recordSize := s.host.recordSize_transfer
    · calc o.found.host.recordSize
          = ((moveRecord s).2.onWorld (·.pause delay)).host.recordSize := ih hlater
        _ = s.host.transfer.recordSize := recordSize_tickAll s.host.nextTicks _
        _ = s.host.recordSize := s.host.recordSize_transfer

/-- Each action of a run finds records of the size that the run began with. -/
theorem recordSize_of_mem_stages {c : Config} {s found : Session (Archive μ)} (h : found ∈ stages c s) :
    found.host.recordSize = s.host.recordSize := by
  obtain ⟨o, ho, hfound⟩ := List.mem_flatMap.1 h
  unfold Occasion.stages at hfound
  split at hfound
  · calc found.host.recordSize
        = o.found.host.recordSize :=
          congrArg Tally.recordSize (Archive.admits_tally.stages o.isWrite hfound)
      _ = s.host.recordSize := recordSize_of_mem_occasions ho
  · cases hfound

end Run

end ProgressActions
