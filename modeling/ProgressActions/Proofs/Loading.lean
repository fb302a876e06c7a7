import ProgressActions.Config.Load
import ProgressActions.Proofs.Settings

/-!
# Which settings prevail

The command line comes first, then the file, then the defaults; only the actions of both are carried out,
those of the file before those of the command line. The size of records is checked last, when it is
settled: so the command line may put right what the file has wrong, or the other way round.
-/

namespace ProgressActions.Config

/-- Settings of which each is that of the command line if it makes one, else that of the document if
it makes one, and else the default. -/
structure Effective (g : Given) (o : Options) (c : Config) : Prop where
  interval : c.interval = o.checkpoint.or g.interval
  archive : c.archive = (o.archive.or g.archive).getD "archive.tar"
  blocks : c.blocks = (o.blocks.or g.blocks).getD 100
  recordSize : c.recordSize = (o.recordSize.or g.recordSize).getD 10240
  mode : c.mode = (o.mode.or g.mode).getD .write
  delay : c.delay = (o.delay.or g.delay).getD 0
  /-- The actions of the document come before those of the command line. -/
  actions : c.actions = g.actions.getD [] ++ o.actions

/-- The command line is put over the file, and the file over the defaults. -/
theorem effective_override (g : Given) (o : Options) : Effective g o ((g.over {}).override o) where
  interval := congrArg o.checkpoint.or (Option.or_none)
  archive := Option.getD_or.symm
  blocks := Option.getD_or.symm
  recordSize := Option.getD_or.symm
  mode := Option.getD_or.symm
  delay := Option.getD_or.symm
  actions := rfl

/-! ## Loading -/

/-- The text that settings are loaded from. A file that is missing counts as empty, unless the command
line asks for it. -/
inductive Source (read : FileReader) (home : String) (o : Options) : List Char → Prop where
  | file {path : String} {text : List Char} (hpath : path? read home o = some path)
      (htext : readText read path = .ok text) : Source read home o text
  | missing (hpath : path? read home o = none) : Source read home o []

theorem ofText?_nil : ofText? [] = some ({}, []) := rfl

/-- Loading decodes the text, lets the command line override it, and checks the outcome. -/
theorem load_of_source {read : FileReader} {home : String} {o : Options} {text : List Char}
    {file : Config} {ignored : List String} (hsource : Source read home o text)
    (hfile : ofText? text = some (file, ignored)) (w : World) :
    (load read home o w).1 = (file.override o).validate := by
  unfold load
  cases hsource with
  | file hpath htext =>
    rw [hpath]
    dsimp only
    rw [ofFile, htext]
    dsimp only
    rw [hfile]
  | missing hpath =>
    rw [hpath]
    cases ofText?_nil.symm.trans hfile
    rfl

/-- The check admits the positive multiples of the size of a block. -/
theorem isValid_iff {c : Config} : c.isValid = true ↔ 0 < c.recordSize ∧ 512 ∣ c.recordSize := by
  rw [isValid, Bool.and_eq_true, decide_eq_true_iff, beq_iff_eq, Nat.dvd_iff_mod_eq_zero]
  rfl

/-- Records of whole blocks are valid. -/
theorem validate_of_isValid {c : Config} (h : 0 < c.recordSize ∧ 512 ∣ c.recordSize) :
    c.validate = .ok c := if_pos (isValid_iff.2 h)

theorem validate_of_not_isValid {c : Config} (h : ¬(0 < c.recordSize ∧ 512 ∣ c.recordSize)) :
    c.validate = .error (.recordSize c.recordSize) := if_neg (mt isValid_iff.1 h)

/-- Whatever has been loaded has passed the check. -/
theorem recordSize_of_load {read : FileReader} {home : String} {o : Options} {w : World} {c : Config}
    (h : (load read home o w).1 = .ok c) : 0 < c.recordSize ∧ 512 ∣ c.recordSize := by
  unfold load at h
  split at h
  · obtain ⟨rfl, hvalid⟩ := validate_eq_ok h
    exact isValid_iff.1 hvalid
  · split at h
    · cases h
    · obtain ⟨rfl, hvalid⟩ := validate_eq_ok h
      exact isValid_iff.1 hvalid

end ProgressActions.Config
