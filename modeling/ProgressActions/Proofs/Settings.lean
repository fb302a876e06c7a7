import ProgressActions.Config.Decode
import ProgressActions.Proofs.UniqueKeys

/-!
# What a document sets

A document is read entry by entry, in the order in which it has them. Since no key is given twice and
no setting gets in the way of another, this order does not matter: each setting can be read on its own,
from the node under its key. Keys that are not known are skipped, and all of them are reported.
-/

namespace ProgressActions.Config

open Toml

/-! ## Changes in any order -/

/-- A change of settings that may be refused. -/
abbrev Update := Config → Option Config

namespace Update

def next (f g : Update) : Update := fun c ↦ (f c).bind g

/-- Changes that may be made in either order. -/
def Commutes (f g : Update) : Prop := f.next g = g.next f

/-- Updates can be grouped in any way. -/
theorem next_assoc (f g h : Update) : (f.next g).next h = f.next (g.next h) := by
  funext c
  exact Option.bind_assoc (f c) g h

@[simp] theorem some_next (f : Update) : next some f = f := rfl

@[simp] theorem next_some (f : Update) : next f some = f := by
  funext c
  unfold next
  cases f c <;> rfl

namespace Commutes

variable {f g h : Update}

theorem symm (hfg : f.Commutes g) : g.Commutes f := Eq.symm hfg

theorem some (g : Update) : Commutes some g := by
  unfold Commutes
  rw [some_next, next_some]

theorem none (g : Update) : Commutes (fun _ ↦ none) g := by
  funext c
  unfold Update.next
  cases g c <;> rfl

theorem next (hfh : f.Commutes h) (hgh : g.Commutes h) : (f.next g).Commutes h := by
  calc (f.next g).next h
      = f.next (g.next h) := next_assoc f g h
    _ = f.next (h.next g) := congrArg f.next hgh
    _ = (f.next h).next g := (next_assoc f h g).symm
    _ = (h.next f).next g := congrArg (Update.next · g) hfh
    _ = h.next (f.next g) := next_assoc h f g

end Commutes

end Update

namespace Setter

/-- The change that a setter makes for a node, whatever it reports. -/
def update (set : Setter) (node : Node) : Update := fun c ↦ (set node c).map Prod.fst

/-- The change that a setter makes for a node, if there is one. -/
def updateAny (set : Setter) (node? : Option Node) : Update := node?.elim some set.update

def Reports (set : Setter) (paths : Node → List String) : Prop :=
  ∀ node c, set node c = (set.update node c).map (·, paths node)

/-- It is enough that the updates of every node commute. -/
theorem Commutes.updateAny {set : Setter} {g : Update}
    (h : ∀ node, (set.update node).Commutes g) (node? : Option Node) :
    (set.updateAny node?).Commutes g := by
  cases node? with
  | none => exact .some g
  | some node => exact h node

end Setter

namespace Setting

/-- Settings with different keys whose changes do not get in each other's way. -/
structure Independent (s t : Setting) : Prop where
  keys : s.1 ≠ t.1
  updates : ∀ m n, (Setter.update s.2 m).Commutes (Setter.update t.2 n)

variable {α β : Type}

/-- A setting is changed to what its node says. -/
theorem update_setting (key : String) (read? : Node → Option α) (change : α → Config → Config)
    (node : Node) :
    Setter.update (setting key read? change).2 node = fun c ↦ (read? node).map (change · c) := by
  funext c
  exact Option.map_map Prod.fst _ (read? node)

/-- A setting has no unknown keys of its own. -/
theorem reports_setting (key : String) (read? : Node → Option α) (change : α → Config → Config) :
    Setter.Reports (setting key read? change).2 fun _ ↦ [] := by
  intro node c
  rw [update_setting]
  exact (Option.map_map (·, []) (change · c) (read? node)).symm

theorem independent_setting {first second : String} {readFirst? : Node → Option α}
    {readSecond? : Node → Option β} {changeFirst : α → Config → Config}
    {changeSecond : β → Config → Config} (hkeys : first ≠ second)
    (hchanges : ∀ v w c, changeFirst v (changeSecond w c) = changeSecond w (changeFirst v c)) :
    Independent (setting first readFirst? changeFirst) (setting second readSecond? changeSecond) where
  keys := hkeys
  updates m n := by
    rw [update_setting, update_setting]
    funext c
    unfold Update.next
    cases readFirst? m <;> cases readSecond? n <;> simp [hchanges]

end Setting

/-- No two settings of a document get in each other's way. -/
theorem pairwise_independent :
    (checkpointSettings ++ archiveSettings).Pairwise Setting.Independent := by
  simp only [checkpointSettings, archiveSettings, List.cons_append, List.nil_append,
    List.pairwise_cons, List.forall_mem_cons]
  repeat' apply And.intro
  all_goals first
    | exact List.forall_mem_nil _
    | exact List.Pairwise.nil
    | exact Setting.independent_setting (by decide) fun _ _ _ ↦ rfl

/-! ## Settings one by one -/

/-- The changes of all settings in turn, each for the node under its key. -/
def settle : List Setting → (String → Option Node) → Update
  | [], _ => some
  | (key, set) :: rest, node? => (Setter.updateAny set (node? key)).next (settle rest node?)

section

variable {settings : List Setting} {f g : String → Option Node}

theorem settle_congr (h : ∀ s ∈ settings, f s.1 = g s.1) : settle settings f = settle settings g := by
  induction settings with
  | nil => rfl
  | cons s rest ih =>
    obtain ⟨hs, hrest⟩ := List.forall_mem_cons.1 h
    rw [settle, settle, hs, ih hrest]

/-- Without nodes nothing is changed. -/
theorem settle_none (settings : List Setting) : settle settings (fun _ ↦ none) = some := by
  induction settings with
  | nil => rfl
  | cons s rest ih => exact ih

/-- One node more is one change more, which may as well be made first. -/
theorem settle_insert {key : String} {set : Setter} {node : Node}
    (hind : settings.Pairwise Setting.Independent) (hset : settings.lookup key = some set)
    (hnode : f key = some node) (hnone : g key = none) (hsame : ∀ other ≠ key, f other = g other) :
    settle settings f = (set.update node).next (settle settings g) := by
  induction settings with
  | nil => cases hset
  | cons s rest ih =>
    obtain ⟨name, first⟩ := s
    obtain ⟨hfirst, hrest⟩ := List.pairwise_cons.1 hind
    rw [settle, settle]
    by_cases hname : key = name
    · subst hname
      obtain rfl : first = set := by simpa using hset
      have hlater : settle rest f = settle rest g :=
        settle_congr fun t ht ↦ hsame t.1 (hfirst t ht).keys.symm
      rw [hnode, hnone, hlater]
      rfl
    · have hlookup : rest.lookup key = some set := by
        rwa [List.lookup_cons, beq_false_of_ne hname] at hset
      have hmem : (key, set) ∈ rest := mem_of_lookup hlookup
      have hcommutes : (Setter.updateAny first (g name)).Commutes (set.update node) :=
        Setter.Commutes.updateAny (fun m ↦ (hfirst _ hmem).updates m node) (g name)
      calc (Setter.updateAny first (f name)).next (settle rest f)
          = (Setter.updateAny first (g name)).next ((set.update node).next (settle rest g)) := by
            rw [hsame name (Ne.symm hname), ih hrest hlookup]
        _ = ((Setter.updateAny first (g name)).next (set.update node)).next (settle rest g) :=
            (Update.next_assoc _ _ _).symm
        _ = ((set.update node).next (Setter.updateAny first (g name))).next (settle rest g) := by
            rw [hcommutes]
        _ = (set.update node).next ((Setter.updateAny first (g name)).next (settle rest g)) :=
            Update.next_assoc _ _ _

/-- A key that is known leads to its setter, and puts itself in front of the paths that this reports. -/
theorem setEntries_known {key : String} {set : Setter} (node : Node) (rest : Entries) (c : Config)
    (h : settings.lookup key = some set) :
    setEntries settings ((key, node) :: rest) c = (set node c).bind fun own ↦
      (setEntries settings rest own.1).map fun all ↦
        (all.1, own.2.map (key ++ "." ++ ·) ++ all.2) := by
  rw [setEntries, h]
  dsimp only
  cases set node c with
  | none => rfl
  | some own => exact Option.map_eq_bind.symm

/-- The change that an entry of a table makes. -/
def entryUpdate (settings : List Setting) (entry : String × Node) : Update :=
  (settings.lookup entry.1).elim some (Setter.update · entry.2)

/-- The change that all entries of a table make, whatever is reported. -/
def entriesUpdate (settings : List Setting) (entries : Entries) : Update :=
  fun c ↦ (setEntries settings entries c).map Prod.fst

/-- Entries are read in their order. -/
theorem entriesUpdate_cons (settings : List Setting) (entry : String × Node) (rest : Entries) :
    entriesUpdate settings (entry :: rest) =
      (entryUpdate settings entry).next (entriesUpdate settings rest) := by
  obtain ⟨key, node⟩ := entry
  funext c
  unfold entriesUpdate entryUpdate Update.next Setter.update
  cases hset : settings.lookup key with
  | none =>
    rw [setEntries_unknown node rest c hset]
    exact Option.map_map _ _ _
  | some set =>
    rw [setEntries_known node rest c hset]
    dsimp only [Option.elim]
    cases set node c with
    | none => rfl
    | some own => exact Option.map_map _ _ _

/-- In whichever order a table has its entries, each setting gets the node under its key. -/
theorem entriesUpdate_eq_settle (hind : settings.Pairwise Setting.Independent) {entries : Entries}
    (hkeys : (entries.map Prod.fst).Nodup) :
    entriesUpdate settings entries = settle settings entries.get? := by
  induction entries with
  | nil =>
    have hnone : settle settings (Entries.get? []) = some := settle_none settings
    rw [hnone]
    rfl
  | cons entry rest ih =>
    obtain ⟨key, node⟩ := entry
    obtain ⟨hnew, hrest⟩ := List.nodup_cons.1 hkeys
    have hnone : Entries.get? rest key = none := lookup_eq_none_iff_not_mem.2 hnew
    have hnode : Entries.get? ((key, node) :: rest) key = some node := List.lookup_cons_self
    have hsame : ∀ other ≠ key, Entries.get? ((key, node) :: rest) other = Entries.get? rest other := by
      intro other hother
      rw [Entries.get?, List.lookup_cons, beq_false_of_ne hother]
      rfl
    rw [entriesUpdate_cons, ih hrest, entryUpdate]
    cases hset : settings.lookup key with
    | none =>
      apply settle_congr
      intro s hs
      have hother : s.1 ≠ key := by
        rintro rfl
        simpa using List.lookup_eq_none_iff.1 hset s hs
      exact (hsame s.1 hother).symm
    | some set => exact (settle_insert hind hset hnode hnone hsame).symm

/-- The change that values in order make. -/
theorem setInOrder_cons (s : Setting) (rest : List Setting) (node : Node) (nodes : List Node) :
    setInOrder (s :: rest) (node :: nodes) =
      (Setter.update s.2 node).next (setInOrder rest nodes) := by
  funext c
  unfold Update.next Setter.update
  rw [setInOrder]
  cases s.2 node c <;> rfl

/-- In an array, each setting gets the node at the place of its key. -/
theorem setInOrder_eq_settle (hkeys : (settings.map Prod.fst).Nodup) (nodes : List Node) :
    setInOrder settings nodes =
      settle settings fun key ↦ nodes[(settings.map Prod.fst).idxOf key]? := by
  induction settings generalizing nodes with
  | nil => rfl
  | cons s rest ih =>
    obtain ⟨hnew, hrest⟩ := List.nodup_cons.1 hkeys
    cases nodes with
    | nil =>
      exact (settle_none (s :: rest)).symm
    | cons node nodes =>
      have hlater : settle rest (fun key ↦ nodes[(rest.map Prod.fst).idxOf key]?) =
          settle rest fun key ↦ (node :: nodes)[((s :: rest).map Prod.fst).idxOf key]? := by
        apply settle_congr
        intro t ht
        have hne : s.1 ≠ t.1 := by
          intro heq
          exact hnew (heq ▸ List.mem_map_of_mem ht)
        rw [List.map_cons, List.idxOf_cons, beq_false_of_ne hne, cond_false,
          List.getElem?_cons_succ]
      rw [setInOrder_cons, ih hrest, hlater, settle, List.map_cons, List.idxOf_cons_self]
      rfl

end

/-! ## Tables of settings -/

/-- The nodes of settings by their keys, from the node of their table. A table in an array has them at
the places of the keys, and a point of time has none. -/
def sectionNodes? (keys : List String) : Node → Option (String → Option Node)
  | .table _ entries => some (Entries.get? entries)
  | .array items => some fun key ↦ items[keys.idxOf key]?
  | .tables items => some fun key ↦ (items.map (.table .header ·))[keys.idxOf key]?
  | .moment => some fun _ ↦ none
  | _ => none

def unknownKeys (keys : List String) : Node → List String
  | .table _ entries => (entries.map Prod.fst).filter (· ∉ keys)
  | _ => []

/-- The key that a point of time seems to have. -/
def momentKeys : Node → List String
  | .moment => [momentKey]
  | _ => []

section

variable {settings : List Setting}

theorem update_setTable_array (items : List Node) :
    Setter.update (setTable settings) (.array items) = setInOrder settings items := by
  funext c
  exact (Option.map_map Prod.fst (·, []) _).trans (congrFun Option.map_id _)

theorem update_setTable_tables (items : List Entries) :
    Setter.update (setTable settings) (.tables items) =
      setInOrder settings (items.map (.table .header ·)) := by
  funext c
  exact (Option.map_map Prod.fst (·, []) _).trans (congrFun Option.map_id _)

/-- A table is read as its settings, in whatever order they stand. -/
theorem update_setTable (hind : settings.Pairwise Setting.Independent) {node : Node}
    (hnode : node.Unambiguous) :
    Setter.update (setTable settings) node = fun c ↦
      (sectionNodes? (settings.map Prod.fst) node).bind fun node? ↦ settle settings node? c := by
  have hkeys : (settings.map Prod.fst).Nodup :=
    List.pairwise_map.2 (hind.imp Setting.Independent.keys)
  cases node with
  | table form entries =>
    exact entriesUpdate_eq_settle hind (Entries.Unambiguous.of_table hnode).keys
  | array items =>
    rw [update_setTable_array, setInOrder_eq_settle hkeys]
    rfl
  | tables items =>
    rw [update_setTable_tables, setInOrder_eq_settle hkeys]
    rfl
  | moment => exact (settle_none settings).symm
  | _ => rfl

section

variable {g : Update} (h : ∀ s ∈ settings, ∀ node, (Setter.update s.2 node).Commutes g)

include h

theorem commutes_entriesUpdate (entries : Entries) :
    (entriesUpdate settings entries).Commutes g := by
  induction entries with
  | nil => exact .some g
  | cons entry rest ih =>
    rw [entriesUpdate_cons]
    refine Update.Commutes.next ?_ ih
    unfold entryUpdate
    cases hset : settings.lookup entry.1 with
    | none => exact .some g
    | some set => exact h (entry.1, set) (mem_of_lookup hset) entry.2

theorem commutes_setInOrder (nodes : List Node) :
    Update.Commutes (setInOrder settings nodes) g := by
  induction settings generalizing nodes with
  | nil => exact .some g
  | cons s rest ih =>
    obtain ⟨hs, hrest⟩ := List.forall_mem_cons.1 h
    cases nodes with
    | nil => exact .some g
    | cons node nodes =>
      rw [setInOrder_cons]
      exact (hs node).next (ih hrest nodes)

/-- What does not get in the way of the settings of a table does not get in the way of the table. -/
theorem commutes_setTable (node : Node) : (Setter.update (setTable settings) node).Commutes g := by
  cases node with
  | table form entries => exact commutes_entriesUpdate h entries
  | array items =>
    rw [update_setTable_array]
    exact commutes_setInOrder h items
  | tables items =>
    rw [update_setTable_tables]
    exact commutes_setInOrder h _
  | moment => exact .some g
  | _ => exact .none g

end

/-- The path of a key that is no setting, or the paths that the setter of one reports below it. -/
def entryPaths (keys : List String) (paths : String → Node → List String) (entry : String × Node) :
    List String :=
  if entry.1 ∈ keys then (paths entry.1 entry.2).map (entry.1 ++ "." ++ ·) else [entry.1]

/-- The keys that are reported are those that are not known. -/
theorem flatMap_entryPaths (keys : List String) (entries : Entries) :
    entries.flatMap (entryPaths keys fun _ _ ↦ []) = (entries.map Prod.fst).filter (· ∉ keys) := by
  induction entries with
  | nil => rfl
  | cons entry rest ih =>
    rw [List.flatMap_cons, ih, List.map_cons, List.filter_cons, entryPaths]
    by_cases hkey : entry.1 ∈ keys <;> simp [hkey]

/-- What a table reports is the business of its entries alone. -/
theorem setEntries_eq (paths : String → Node → List String)
    (hpaths : ∀ s ∈ settings, Setter.Reports s.2 (paths s.1)) (entries : Entries) (c : Config) :
    setEntries settings entries c =
      (entriesUpdate settings entries c).map
        (·, entries.flatMap (entryPaths (settings.map Prod.fst) paths)) := by
  induction entries generalizing c with
  | nil => rfl
  | cons entry rest ih =>
    obtain ⟨key, node⟩ := entry
    rw [entriesUpdate_cons, List.flatMap_cons]
    unfold entryUpdate Update.next
    cases hset : settings.lookup key with
    | none =>
      have hentry : entryPaths (settings.map Prod.fst) paths (key, node) = [key] :=
        if_neg (lookup_eq_none_iff_not_mem.1 hset)
      rw [setEntries_unknown node rest c hset, ih, Option.map_map, hentry]
      rfl
    | some set =>
      have hmem : (key, set) ∈ settings := mem_of_lookup hset
      have hentry : entryPaths (settings.map Prod.fst) paths (key, node) =
          (paths key node).map (key ++ "." ++ ·) := if_pos (List.mem_map_of_mem hmem)
      have hreport : set node c = (set.update node c).map (·, paths key node) :=
        hpaths _ hmem node c
      rw [setEntries_known node rest c hset, hreport, hentry]
      dsimp only [Option.elim]
      cases set.update node c with
      | none => rfl
      | some next =>
        dsimp only [Option.map, Option.bind]
        rw [ih]
        exact Option.map_map _ _ _

/-- A table of plain settings reports its other keys, and a point of time the one that it seems to
have. -/
theorem reports_setTable (hplain : ∀ s ∈ settings, Setter.Reports s.2 fun _ ↦ []) :
    Setter.Reports (setTable settings) fun node ↦
      unknownKeys (settings.map Prod.fst) node ++ momentKeys node := by
  intro node c
  cases node with
  | table form entries =>
    rw [setTable, setEntries_eq (fun _ _ ↦ []) hplain, flatMap_entryPaths]
    exact congrArg (fun paths ↦ (entriesUpdate settings entries c).map (·, paths))
      (List.append_nil _).symm
  | array items =>
    rw [update_setTable_array]
    rfl
  | tables items =>
    rw [update_setTable_tables]
    rfl
  | _ => rfl

end

/-- All settings of a document are plain: none has anything to report. -/
theorem reports_settings :
    ∀ s ∈ checkpointSettings ++ archiveSettings, Setter.Reports s.2 fun _ ↦ [] := by
  simp only [checkpointSettings, archiveSettings, List.cons_append, List.nil_append,
    List.forall_mem_cons]
  repeat' apply And.intro
  all_goals first
    | exact List.forall_mem_nil _
    | exact Setting.reports_setting _ _ _

/-! ## Documents -/

def checkpointKeys : List String := ["interval", "actions"]

def archiveKeys : List String := ["archive", "blocks", "record_size", "mode", "delay_ms"]

/-- The tables that a document is known to have, with their keys. -/
def sections : List (String × List String) :=
  [("checkpoint", checkpointKeys), ("simulate", archiveKeys)]

/-- The paths of keys in a document: of keys of the root that are no tables of settings, and of some keys
in those tables. -/
def pathsOf (inner : List String → Node → List String) (root : Entries) : List String :=
  root.flatMap fun (name, node) ↦
    match sections.lookup name with
    | some keys => (inner keys node).map (name ++ "." ++ ·)
    | none => [name]

def unknownPaths (root : Entries) : List String := pathsOf unknownKeys root

/-- The paths that are reported: of all keys that are not known, and of the key that a point of time in
the place of a table seems to have. -/
def reportedPaths (root : Entries) : List String :=
  pathsOf (fun keys node ↦ unknownKeys keys node ++ momentKeys node) root

/-- The settings that a document makes. What it does not mention is left open. -/
structure Given where
  interval : Option Nat := none
  actions : Option (List String) := none
  archive : Option String := none
  blocks : Option Nat := none
  recordSize : Option Nat := none
  mode : Option Mode := none
  delay : Option Nat := none
  deriving DecidableEq, Repr

/-- Settings with those of a document in their place. -/
def Given.over (g : Given) (c : Config) : Config where
  interval := g.interval.or c.interval
  actions := g.actions.getD c.actions
  archive := g.archive.getD c.archive
  blocks := g.blocks.getD c.blocks
  recordSize := g.recordSize.getD c.recordSize
  mode := g.mode.getD c.mode
  delay := g.delay.getD c.delay

/-- The nodes of the settings in a table of a document. Without the table there are none. -/
def nodes? (root : Entries) (name : String) (keys : List String) : Option (String → Option Node) :=
  match root.get? name with
  | some node => sectionNodes? keys node
  | none => some fun _ ↦ none

/-- Reads the settings that a document makes, each on its own: the node that stands for it, if there is
one, has to be of its kind. -/
def given? (root : Entries) : Option Given := do
  let checkpoint ← nodes? root "checkpoint" checkpointKeys
  let interval ← (checkpoint "interval").mapM count?
  let actions ← (checkpoint "actions").mapM texts?
  let simulate ← nodes? root "simulate" archiveKeys
  let archive ← (simulate "archive").mapM text?
  let blocks ← (simulate "blocks").mapM count?
  let recordSize ← (simulate "record_size").mapM count?
  let mode ← (simulate "mode").mapM mode?
  let delay ← (simulate "delay_ms").mapM count?
  pure { interval, actions, archive, blocks, recordSize, mode, delay }

theorem settle_setting {α : Type} (key : String) (read? : Node → Option α)
    (change : α → Config → Config) (rest : List Setting) (node? : String → Option Node) (c : Config) :
    settle (setting key read? change :: rest) node? c =
      ((node? key).mapM read?).bind fun value ↦
        settle rest node? (value.elim c (change · c)) := by
  change (Setter.updateAny (setting key read? change).2 (node? key) c).bind (settle rest node?) = _
  cases node? key with
  | none => rfl
  | some node =>
    change (Setter.update (setting key read? change).2 node c).bind (settle rest node?) = _
    rw [Setting.update_setting]
    change ((read? node).map (change · c)).bind _ = ((read? node).map some).bind _
    cases read? node <;> rfl

theorem settle_checkpointSettings (node? : String → Option Node) (c : Config) :
    settle checkpointSettings node? c = (do
      let interval ← (node? "interval").mapM count?
      let actions ← (node? "actions").mapM texts?
      pure (Given.over { interval, actions } c)) := by
  unfold checkpointSettings
  simp only [settle_setting]
  refine Option.bind_congr fun interval _ ↦ Option.bind_congr fun actions _ ↦ ?_
  cases interval <;> cases actions <;> rfl

theorem settle_archiveSettings (node? : String → Option Node) (c : Config) :
    settle archiveSettings node? c = (do
      let archive ← (node? "archive").mapM text?
      let blocks ← (node? "blocks").mapM count?
      let recordSize ← (node? "record_size").mapM count?
      let mode ← (node? "mode").mapM mode?
      let delay ← (node? "delay_ms").mapM count?
      pure (Given.over { archive, blocks, recordSize, mode, delay } c)) := by
  unfold archiveSettings
  simp only [settle_setting]
  refine Option.bind_congr fun archive _ ↦ Option.bind_congr fun blocks _ ↦
    Option.bind_congr fun recordSize _ ↦ Option.bind_congr fun mode _ ↦
    Option.bind_congr fun delay _ ↦ ?_
  cases archive <;> cases blocks <;> cases recordSize <;> cases mode <;> cases delay <;> rfl

/-- The tables of a document do not get in each other's way either. -/
theorem independent_documentSettings : documentSettings.Pairwise Setting.Independent := by
  obtain ⟨-, -, hcross⟩ := List.pairwise_append.1 pairwise_independent
  refine List.pairwise_pair.2 ⟨by decide, ?_⟩
  intro m n
  apply commutes_setTable
  intro s hs m
  apply Update.Commutes.symm
  apply commutes_setTable
  intro t ht n
  exact ((hcross s hs t ht).updates m n).symm

/-- A section that is missing changes nothing, and any other is read as a table. -/
theorem updateAny_section {settings : List Setting} (hind : settings.Pairwise Setting.Independent)
    {root : Entries} (hroot : root.Unambiguous) (name : String) :
    Setter.updateAny (setTable settings) (root.get? name) = fun c ↦
      (nodes? root name (settings.map Prod.fst)).bind fun node? ↦ settle settings node? c := by
  unfold nodes? Setter.updateAny
  cases hnode : root.get? name with
  | none =>
    funext c
    exact (congrFun (settle_none settings) c).symm
  | some node => exact update_setTable hind (hroot.get? hnode)

/-- The tables of a document may be read in either order. -/
theorem entriesUpdate_documentSettings {root : Entries} (hroot : root.Unambiguous) :
    entriesUpdate documentSettings root =
      (Setter.updateAny (setTable checkpointSettings) (root.get? "checkpoint")).next
        (Setter.updateAny (setTable archiveSettings) (root.get? "simulate")) := by
  rw [entriesUpdate_eq_settle independent_documentSettings hroot.keys, documentSettings, settle,
    settle, settle, Update.next_some]

/-- What a document reports is laid down by its keys. -/
theorem ofText?_eq_update {text : List Char} {root : Entries} (h : Toml.parse text = some root) :
    ofText? text = (entriesUpdate documentSettings root {}).map (·, reportedPaths root) := by
  obtain ⟨hplainCheckpoint, hplainArchive⟩ := List.forall_mem_append.1 reports_settings
  let paths (name : String) (node : Node) : List String :=
    (sections.lookup name).elim [] fun keys ↦ unknownKeys keys node ++ momentKeys node
  have hpaths : ∀ s ∈ documentSettings, Setter.Reports s.2 (paths s.1) := by
    refine List.forall_mem_cons.2 ⟨reports_setTable hplainCheckpoint, ?_⟩
    exact List.forall_mem_singleton.2 (reports_setTable hplainArchive)
  have hreported : root.flatMap (entryPaths (documentSettings.map Prod.fst) paths) =
      reportedPaths root := by
    unfold reportedPaths pathsOf
    apply congrArg (fun path ↦ root.flatMap path)
    funext (name, node)
    unfold entryPaths
    dsimp only [paths]
    cases hkeys : sections.lookup name with
    | none => exact if_neg (lookup_eq_none_iff_not_mem.1 hkeys)
    | some keys => exact if_pos (List.mem_map_of_mem (f := Prod.fst) (mem_of_lookup hkeys))
  calc ofText? text
      = setEntries documentSettings root {} := by
        rw [ofText?, h]
        rfl
    _ = (entriesUpdate documentSettings root {}).map
        (·, root.flatMap (entryPaths (documentSettings.map Prod.fst) paths)) :=
        setEntries_eq paths hpaths root {}
    _ = (entriesUpdate documentSettings root {}).map (·, reportedPaths root) := by rw [hreported]

/-- A document is decoded by reading each of its settings on its own. -/
theorem ofText?_eq {text : List Char} {root : Entries} (h : Toml.parse text = some root) :
    ofText? text = (given? root).map fun g ↦ (g.over {}, reportedPaths root) := by
  have hroot := unambiguous_parse h
  obtain ⟨hcheckpoint, harchive, -⟩ := List.pairwise_append.1 pairwise_independent
  have hupdate : entriesUpdate documentSettings root {} = (given? root).map (·.over {}) := by
    rw [entriesUpdate_documentSettings hroot, updateAny_section hcheckpoint hroot,
      updateAny_section harchive hroot]
    unfold Update.next given?
    simp only [settle_checkpointSettings, settle_archiveSettings, Option.bind_eq_bind,
      Option.pure_def, Option.bind_assoc, Option.bind_some, Option.map_bind, Function.comp_def,
      Option.map_some]
    rfl
  rw [ofText?_eq_update h, hupdate, Option.map_map]
  rfl

/-! ## Keys that are not known -/

/-- Nodes of a table of settings with the same nodes under the keys that are known. Under other keys
the second may have anything, and it may have been made for their sake. -/
inductive SameSettings (keys : List String) : Option Node → Option Node → Prop where
  | same (node? : Option Node) : SameSettings keys node? node?
  | table {form other : Form} {entries further : Entries}
      (h : ∀ key ∈ keys, further.get? key = entries.get? key) :
      SameSettings keys (some (.table form entries)) (some (.table other further))
  | made {form : Form} {further : Entries} (h : ∀ key ∈ keys, further.get? key = none) :
      SameSettings keys none (some (.table form further))

/-- Documents that differ at most in keys that are not known, be it in the root or in the tables of
settings. -/
def DifferInUnknown (root other : Entries) : Prop :=
  ∀ table ∈ sections, SameSettings table.2 (root.get? table.1) (other.get? table.1)

theorem updateAny_of_sameSettings {settings : List Setting}
    (hind : settings.Pairwise Setting.Independent) {root other : Entries}
    (hroot : root.Unambiguous) (hother : other.Unambiguous) {name : String}
    (h : SameSettings (settings.map Prod.fst) (root.get? name) (other.get? name)) :
    Setter.updateAny (setTable settings) (other.get? name) =
      Setter.updateAny (setTable settings) (root.get? name) := by
  funext c
  rw [updateAny_section hind hroot, updateAny_section hind hother]
  unfold nodes?
  generalize root.get? name = node? at h
  generalize other.get? name = further? at h
  cases h with
  | same => rfl
  | table hkeys =>
    exact congrFun (settle_congr fun s hs ↦ hkeys s.1 (List.mem_map_of_mem hs)) c
  | made hkeys =>
    exact congrFun (settle_congr fun s hs ↦ hkeys s.1 (List.mem_map_of_mem hs)) c

/-- Keys that are not known change nothing but what is reported. -/
theorem ofText?_of_differInUnknown {text changed : List Char} {root other : Entries}
    (hroot : Toml.parse text = some root) (hother : Toml.parse changed = some other)
    (h : DifferInUnknown root other) :
    ofText? changed = (ofText? text).map fun (c, _) ↦ (c, reportedPaths other) := by
  obtain ⟨hcheckpoint, harchive, -⟩ := List.pairwise_append.1 pairwise_independent
  obtain ⟨hsameCheckpoint, hsimulate⟩ := List.forall_mem_cons.1 h
  have hsameArchive := List.forall_mem_singleton.1 hsimulate
  have hr := unambiguous_parse hroot
  have ho := unambiguous_parse hother
  rw [ofText?_eq_update hroot, ofText?_eq_update hother, entriesUpdate_documentSettings hr,
    entriesUpdate_documentSettings ho, updateAny_of_sameSettings hcheckpoint hr ho hsameCheckpoint,
    updateAny_of_sameSettings harchive hr ho hsameArchive, Option.map_map]
  rfl

end ProgressActions.Config
