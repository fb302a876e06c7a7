import Mathlib
import ProgressActions.Proofs.CommandVariables
import ProgressActions.Proofs.Loading

/-!
# The configuration that takes effect

From a document and a command line to what the commands of a run are told. Each setting is settled on its
own, keys that are not known are reported and otherwise of no effect, and the size of records is checked
once it is settled. So a run that begins has records of whole blocks, and its commands are told of how
many.
-/

namespace ProgressActions

variable {μ : Type}

/-- Whether the commands of an archive are told how many blocks make up records of a size: each script is
run by carrying out a command with a variable that says so. -/
def Archive.TellsBlocks [Launch.Place μ] (a : Archive μ) (size : Nat) : Prop :=
  ∀ archive checkpoint,
    (∀ script, (a.runScript script archive checkpoint).1 =
      ((a.scriptCommand script archive checkpoint).carryOut shellPath a.site).1) ∧
      ∃ factor,
        (∀ script, (a.scriptCommand script archive checkpoint).environment.lookup
          "TAR_BLOCKING_FACTOR".toList = some (Text.numeral factor)) ∧
          factor * 512 = size ∧ 512 ≤ size

/-- Records of whole blocks are told about as they are. -/
theorem Archive.tellsBlocks_of_dvd [Launch.Place μ] {a : Archive μ}
    (h : 0 < a.recordSize ∧ 512 ∣ a.recordSize) : a.TellsBlocks a.recordSize := by
  intro archive checkpoint
  refine ⟨fun _ ↦ rfl, a.recordSize / blockSize, ?_, ?_, ?_⟩
  · exact fun script ↦ a.lookup_blockingFactor script archive checkpoint
  · exact Nat.div_mul_cancel h.2
  · exact Nat.le_of_dvd h.1 h.2

namespace Config

/-- What becomes of a document that decodes, and of the paths that it is reported to have. -/
structure Treatment (text : List Char) (root : Toml.Entries) (g : Given) (file : Config)
    (ignored : List String) : Prop where
  parsed : Toml.parse text = some root
  /-- Each setting is read from the node that stands for it, whatever else there is. -/
  given : given? root = some g
  /-- The command line prevails over the document, and the document over the defaults. -/
  effective : ∀ o : Options, Effective g o (file.override o)
  reported : ignored = reportedPaths root
  /-- Where no point of time stands for a table, the keys that are not known are all that is reported. -/
  unknown : (∀ table ∈ sections, root.get? table.1 ≠ some .moment) → ignored = unknownPaths root
  /-- With other keys that are not known, only what is reported is different. -/
  undisturbed : ∀ changed other, Toml.parse changed = some other → DifferInUnknown root other →
    ofText? changed = some (file, reportedPaths other)
  /-- A run has the settings with the command line over them if the size of records that takes effect
  is a positive multiple of the size of a block. -/
  loads : ∀ read home o w, Source read home o text →
    0 < (file.override o).recordSize ∧ 512 ∣ (file.override o).recordSize →
      (load read home o w).1 = .ok (file.override o)
  /-- Otherwise there is no run. -/
  fails : ∀ read home o w, Source read home o text →
    ¬(0 < (file.override o).recordSize ∧ 512 ∣ (file.override o).recordSize) →
      (load read home o w).1 = .error (.recordSize (file.override o).recordSize)

variable [Launch.Place μ]

/-- What is told of the size of records in a run with settings that have been loaded. -/
structure Told (i : Invocation μ) (c : Config) (loaded : World) : Prop where
  /-- Each action finds an archive that tells its commands the number of blocks in a record. -/
  factor : ∀ found ∈ Run.stages c (Run.start c i loaded), found.host.TellsBlocks c.recordSize
  /-- Each command that runs is launched from such an archive. -/
  commands : ∀ command archive checkpoint,
    Event.exec command archive checkpoint ∈ i.run.world.events →
      Event.exec command archive checkpoint ∈ i.world.events ∨
        ∃ found ∈ Run.stages c (Run.start c i loaded),
          found.host.archiveName = archive ∧ found.engine.ticks = checkpoint

theorem reportedPaths_of_no_moment {root : Toml.Entries} (hkeys : (root.map Prod.fst).Nodup)
    (h : ∀ table ∈ sections, root.get? table.1 ≠ some .moment) :
    reportedPaths root = unknownPaths root := by
  unfold reportedPaths unknownPaths pathsOf
  apply List.flatMap_congr
  intro (name, node) hentry
  dsimp only
  split
  · rename_i keys hname
    have hnode : root.get? name = some node := Toml.lookup_of_mem hkeys hentry
    have hmoment : node ≠ .moment := by
      rintro rfl
      exact h (name, keys) (Toml.mem_of_lookup hname) hnode
    have hnone : momentKeys node = [] := by
      unfold momentKeys
      split
      · contradiction
      · rfl
    rw [hnone, List.append_nil]
  · rfl

/-- A document that decodes is treated as it should be. -/
theorem treatment_of_ofText? {text : List Char} {file : Config} {ignored : List String}
    (h : ofText? text = some (file, ignored)) :
    ∃ root g, Treatment text root g file ignored := by
  obtain ⟨root, hroot, -⟩ := Option.bind_eq_some_iff.1 h
  have hdecoded := h
  rw [ofText?_eq hroot] at hdecoded
  obtain ⟨g, hgiven, heq⟩ := Option.map_eq_some_iff.1 hdecoded
  obtain ⟨rfl, rfl⟩ := Prod.mk.inj heq
  refine
    ⟨root, g,
      { parsed := hroot
        given := hgiven
        effective := effective_override g
        reported := rfl
        unknown := reportedPaths_of_no_moment (Toml.unambiguous_parse hroot).keys
        undisturbed := fun changed other hother hdiffer ↦ ?_
        loads := fun read home o w hsource hvalid ↦ ?_
        fails := fun read home o w hsource hinvalid ↦ ?_ }⟩
  · rw [ofText?_of_differInUnknown hroot hother hdiffer, h]
    rfl
  · rw [load_of_source hsource h, validate_of_isValid hvalid]
  · rw [load_of_source hsource h, validate_of_not_isValid hinvalid]

/-- A run whose configuration is loaded tells its commands of whole blocks. -/
theorem told_of_loading {i : Invocation μ} {o : Options} {c : Config}
    (hparse : Options.parse i.arguments = .ok o) (hload : (Run.loading i o).1 = .ok c) :
    Told i c (Run.loading i o).2 where
  factor found hfound := by
    have hsize : found.host.recordSize = c.recordSize :=
      (Run.recordSize_of_mem_stages hfound).trans (Run.recordSize_start c i _)
    rw [← hsize]
    exact Archive.tellsBlocks_of_dvd (hsize ▸ recordSize_of_load hload)
  commands command archive checkpoint hevent := by
    obtain ⟨-, hworld⟩ := Run.run_of_load hparse hload
    have hlast : Event.exec command archive checkpoint ∈ i.run.world.selected Event.isExec :=
      List.mem_filter.2 ⟨hevent, rfl⟩
    rw [hworld] at hlast
    obtain hearlier | ⟨found, hfound, name, heq⟩ := Run.runsFrom_execute c i _ _ hlast
    · left
      have hloaded : (Run.loading i o).2.selected Event.isExec = i.world.selected Event.isExec :=
        (Run.onlyLogs_loading i o).selected_eq fun _ ↦ rfl
      change _ ∈ (Run.loading i o).2.selected Event.isExec at hearlier
      rw [hloaded] at hearlier
      exact (List.mem_filter.1 hearlier).1
    · obtain ⟨-, harchive, hnumber⟩ := Event.exec.inj heq
      exact .inr ⟨found, hfound, harchive.symm, hnumber.symm⟩

/-- The configuration that takes effect, from the document and the command line to the commands. -/
theorem effective_configuration :
    (∀ text file ignored, ofText? text = some (file, ignored) →
      ∃ root g, Treatment text root g file ignored) ∧
    ∀ (i : Invocation μ) o c, Options.parse i.arguments = .ok o → (Run.loading i o).1 = .ok c →
      Told i c (Run.loading i o).2 :=
  ⟨fun _ _ _ ↦ treatment_of_ofText?, fun _ _ _ ↦ told_of_loading⟩

/-- New keys are reported only, and a command line puts a size of records right. -/
theorem effective_configuration_of_new_keys :
    let read : FileReader := fun path ↦
      if path = defaultPath then .ok (Text.bytes "[simulate]\nrecord_size = 1000\n".toList)
      else .error .missing
    let i : Invocation :=
      { arguments := ["-n", "2", "--checkpoint=1", "--record-size=1024"].map
          fun word ↦ { content := word.toList }
        read
        home := ""
        terminal := .error "none"
        site := {} }
    let c : Config := { interval := some 1, blocks := 2, recordSize := 1024 }
    ofText? "[new]\n[checkpoint]\ncolour = true\n[simulate]\nmode = 'read'\nmood = ''\n".toList =
        some ({ mode := .read }, ["new", "checkpoint.colour", "simulate.mood"]) ∧
      (load read "" { recordSize := some 1024 } {}).1 = .ok { recordSize := 1024 } ∧
      (load read "" {} {}).1 = .error (.recordSize 1000) ∧
      ∃ loaded, (Run.stages c (Run.start c i loaded)).length = 2 ∧
        ∀ found ∈ Run.stages c (Run.start c i loaded), found.host.TellsBlocks 1024 := by
  intro read i c
  obtain ⟨htreatment, htold⟩ := effective_configuration (μ := Launch.Site)
  have hpath (size : Option Nat) : path? read "" { recordSize := size } = some defaultPath := rfl
  have hfile (size : Option Nat) :
      Source read "" { recordSize := size } "[simulate]\nrecord_size = 1000\n".toList :=
    .file (hpath size) (by decide +kernel)
  obtain ⟨_, _, hsized⟩ := htreatment "[simulate]\nrecord_size = 1000\n".toList
    { recordSize := 1000 } [] (by decide +kernel)
  refine ⟨?_, ?_, ?_, ?_⟩
  · have hparse : Toml.parse "[simulate]\nmode = 'read'\n".toList =
        some [("simulate", .table .header [("mode", .text "read")])] := by cbv
    have hother : Toml.parse
        "[new]\n[checkpoint]\ncolour = true\n[simulate]\nmode = 'read'\nmood = ''\n".toList =
        some [("new", .table .header []), ("checkpoint", .table .header [("colour", .boolean true)]),
          ("simulate", .table .header [("mode", .text "read"), ("mood", .text "")])] := by cbv
    obtain ⟨root, g, htext⟩ := htreatment "[simulate]\nmode = 'read'\n".toList
      { mode := .read } [] (by decide +kernel)
    cases hparse.symm.trans htext.parsed
    refine (htext.undisturbed _ _ hother ?_).trans rfl
    refine List.forall_mem_cons.2 ⟨.made ?_, List.forall_mem_singleton.2 (.table ?_)⟩
    · simp [checkpointKeys, Toml.Entries.get?]
    · simp [archiveKeys, Toml.Entries.get?, List.lookup_cons]
  · exact hsized.loads _ _ _ _ (hfile (some 1024)) (by decide)
  · exact hsized.fails _ _ _ _ (hfile none) (by decide)
  · have hload : (Run.loading i { blocks := some 2, checkpoint := some 1, recordSize := some 1024 }).1 =
        .ok c := by decide +kernel
    have hrun := htold i _ c (by decide +kernel) hload
    exact ⟨_, by decide +kernel, hrun.factor⟩

/-- A point of time that stands for a table is reported to have a key. -/
theorem ignored_ne_unknownPaths :
    ¬∀ text root file ignored, Toml.parse text = some root →
      ofText? text = some (file, ignored) → ignored = unknownPaths root := by
  intro hexact
  have hparse : Toml.parse "checkpoint = 1979-05-27\n".toList = some [("checkpoint", .moment)] := by
    cbv
  have hdecoded : ofText? "checkpoint = 1979-05-27\n".toList =
      some ({}, ["checkpoint.$__toml_private_datetime"]) := by decide +kernel
  exact absurd (hexact _ _ _ _ hparse hdecoded) (by decide)

end Config

end ProgressActions
