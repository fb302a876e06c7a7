import ProgressActions.Toml.Document

/-!
# No key is given twice

In a document every table has each of its keys once, however the table came to be and however deeply
it is nested. All ways to add to a table refuse a key that is there already, or change what stands
under it in its place. So it does not matter from which end a table is searched.
-/

namespace ProgressActions.Toml

/-! ## Lists with keys -/

section

variable {β : Type} {row : List (String × β)} {key : String}

theorem mem_of_lookup {b : β} (h : row.lookup key = some b) : (key, b) ∈ row := by
  obtain ⟨before, after, rfl, -⟩ := List.lookup_eq_some_iff.1 h
  simp

theorem lookup_eq_none_iff_not_mem : row.lookup key = none ↔ key ∉ row.map Prod.fst := by
  rw [List.lookup_eq_none_iff, List.mem_map]
  constructor
  · rintro h ⟨entry, hentry, rfl⟩
    simpa using h entry hentry
  · intro h entry hentry
    simpa using fun hkey : key = entry.1 ↦ h ⟨entry, hentry, hkey.symm⟩

/-- Where keys are unique, every entry is found by its key. -/
theorem lookup_of_mem {b : β} (hkeys : (row.map Prod.fst).Nodup) (h : (key, b) ∈ row) :
    row.lookup key = some b := by
  induction row with
  | nil => cases h
  | cons entry rest ih =>
    obtain ⟨hnew, hrest⟩ := List.nodup_cons.1 hkeys
    rw [List.lookup_cons]
    obtain rfl | hlater := List.mem_cons.1 h
    · rw [beq_self_eq_true]
    · have hne : key ≠ entry.1 := by
        rintro rfl
        exact hnew (List.mem_map.2 ⟨_, hlater, rfl⟩)
      rw [beq_false_of_ne hne]
      exact ih hrest hlater

end

/-! ## Nodes without ambiguity -/

/-- A node whose tables have each of their keys once. -/
inductive Node.Unambiguous : Node → Prop where
  | text (content : String) : Unambiguous (.text content)
  | integer (value : Int) : Unambiguous (.integer value)
  | float : Unambiguous .float
  | boolean (value : Bool) : Unambiguous (.boolean value)
  | moment : Unambiguous .moment
  | array {items : List Node} (hitems : ∀ item ∈ items, Unambiguous item) :
      Unambiguous (.array items)
  | table {form : Form} {entries : List (String × Node)} (hkeys : (entries.map Prod.fst).Nodup)
      (hnodes : ∀ entry ∈ entries, Unambiguous entry.2) : Unambiguous (.table form entries)
  | tables {items : List (List (String × Node))}
      (hkeys : ∀ entries ∈ items, (entries.map Prod.fst).Nodup)
      (hnodes : ∀ entries ∈ items, ∀ entry ∈ entries, Unambiguous entry.2) :
      Unambiguous (.tables items)

namespace Entries

/-- Entries with different keys, and without ambiguity below them. -/
structure Unambiguous (e : Entries) : Prop where
  keys : (e.map Prod.fst).Nodup
  nodes : ∀ entry ∈ e, entry.2.Unambiguous

variable {e : Entries} {key : String} {node : Node}

theorem mem_set {entry : String × Node} (h : entry ∈ e.set key node) :
    entry = (key, node) ∨ entry ∈ e := by
  induction e with
  | nil => exact .inl (List.mem_singleton.1 h)
  | cons first rest ih =>
    obtain ⟨name, old⟩ := first
    unfold set at h
    split at h
    · rename_i hname
      rw [hname] at h
      exact (List.mem_cons.1 h).imp_right (List.mem_cons_of_mem _)
    · obtain hfirst | hrest := List.mem_cons.1 h
      · exact .inr (hfirst ▸ List.mem_cons_self)
      · exact (ih hrest).imp_right (List.mem_cons_of_mem _)

theorem nodup_keys_set (h : (e.map Prod.fst).Nodup) :
    ((e.set key node).map Prod.fst).Nodup := by
  induction e with
  | nil => exact List.nodup_cons.2 ⟨List.not_mem_nil, List.nodup_nil⟩
  | cons first rest ih =>
    obtain ⟨name, old⟩ := first
    obtain ⟨hfirst, hrest⟩ := List.nodup_cons.1 h
    unfold set
    split
    · exact List.nodup_cons.2 ⟨hfirst, hrest⟩
    · rename_i hname
      have hnew : name ∉ (Entries.set rest key node).map Prod.fst := by
        intro hmem
        obtain ⟨entry, hentry, hkey⟩ := List.mem_map.1 hmem
        obtain rfl | hold := mem_set hentry
        · exact hname hkey.symm
        · exact hfirst (List.mem_map.2 ⟨entry, hold, hkey⟩)
      exact List.nodup_cons.2 ⟨hnew, ih hrest⟩

namespace Unambiguous

theorem nil : Unambiguous [] := ⟨List.nodup_nil, by simp⟩

theorem table (h : e.Unambiguous) (form : Form) : (Node.table form e).Unambiguous :=
  .table h.keys h.nodes

theorem of_table {form : Form} (h : (Node.table form e).Unambiguous) : e.Unambiguous := by
  cases h with
  | table hkeys hnodes => exact ⟨hkeys, hnodes⟩

theorem tables {items : List Entries} (h : ∀ e ∈ items, e.Unambiguous) :
    (Node.tables items).Unambiguous :=
  .tables (fun e he ↦ (h e he).keys) fun e he ↦ (h e he).nodes

theorem of_tables {items : List Entries} (h : (Node.tables items).Unambiguous) :
    ∀ e ∈ items, e.Unambiguous := by
  cases h with
  | tables hkeys hnodes => exact fun e he ↦ ⟨hkeys e he, hnodes e he⟩

/-- A new table at the end of a list of tables. -/
theorem tables_append {items : List Entries} (h : ∀ e ∈ items, e.Unambiguous)
    (he : e.Unambiguous) : (Node.tables (items ++ [e])).Unambiguous := by
  apply tables
  intro inner hinner
  obtain hold | hnew := List.mem_append.1 hinner
  · exact h inner hold
  · rw [List.mem_singleton.1 hnew]
    exact he

/-- The nodes of a table without ambiguity are without ambiguity. -/
theorem get? (h : e.Unambiguous) (hget : e.get? key = some node) : node.Unambiguous :=
  h.nodes _ (mem_of_lookup hget)

theorem set (h : e.Unambiguous) (hnode : node.Unambiguous) : (e.set key node).Unambiguous where
  keys := nodup_keys_set h.keys
  nodes := by
    intro entry hentry
    obtain rfl | hold := mem_set hentry
    · exact hnode
    · exact h.nodes entry hold

/-- A new key at the end. -/
theorem append (h : e.Unambiguous) (hnew : key ∉ e.map Prod.fst) (hnode : node.Unambiguous) :
    Unambiguous (e ++ [(key, node)]) where
  keys := by
    have hapart : ∀ name ∈ e.map Prod.fst, ∀ other ∈ [key], name ≠ other := by
      intro name hname other hother
      rw [List.mem_singleton.1 hother]
      exact ne_of_mem_of_not_mem hname hnew
    rw [List.map_append]
    exact List.nodup_append.2 ⟨h.keys, by simp, hapart⟩
  nodes := by
    intro entry hentry
    obtain hold | hnew := List.mem_append.1 hentry
    · exact h.nodes entry hold
    · rw [List.mem_singleton.1 hnew]
      exact hnode

theorem erase (h : e.Unambiguous) (key : String) : (e.erase key).Unambiguous where
  keys := h.keys.sublist (List.filter_sublist.map Prod.fst)
  nodes entry hentry := h.nodes entry (List.mem_filter.1 hentry).1

end Unambiguous

theorem not_mem_keys_erase (e : Entries) (key : String) : key ∉ (e.erase key).map Prod.fst := by
  simp [erase]

end Entries

/-! ## Growth -/

open Entries (Unambiguous)

/-- Whether a change leaves no ambiguity where there was none. -/
def Change.Keeps (change : Change) : Prop :=
  ∀ ⦃form e next⦄, e.Unambiguous → change form e = some next → next.Unambiguous

/-- A change inside of a table is no more ambiguous than the change itself. -/
theorem Change.Keeps.changeAt {way : Descent} {change : Change} (h : change.Keeps)
    (path : List String) : Change.Keeps (changeAt way change path) := by
  induction path with
  | nil => exact h
  | cons key path ih =>
    intro form e next he hnext
    rw [Toml.changeAt] at hnext
    split at hnext
    · obtain ⟨inner, hinner, rfl⟩ := Option.map_eq_some_iff.1 hnext
      exact he.set ((ih .nil hinner).table way.made)
    · rename_i inner hget
      split at hnext
      · obtain ⟨grown, hgrown, rfl⟩ := Option.map_eq_some_iff.1 hnext
        exact he.set ((ih (.of_table (he.get? hget)) hgrown).table _)
      · cases hnext
    · rename_i items hget
      have hitems := Unambiguous.of_tables (he.get? hget)
      split at hnext
      · rename_i last hlast
        obtain ⟨grown, hgrown, rfl⟩ := Option.map_eq_some_iff.1 hnext
        have hgrows := ih (hitems last (List.mem_of_getLast? hlast)) hgrown
        have hbefore : ∀ inner ∈ items.dropLast, Entries.Unambiguous inner := by
          intro inner hinner
          exact hitems inner (List.dropLast_subset _ hinner)
        exact he.set (Unambiguous.tables_append hbefore hgrows)
      · cases hnext
    · cases hnext

theorem Change.Keeps.addDotted {node : Node} (hnode : node.Unambiguous) (way : Descent)
    (path : List String) (key : String) : Change.Keeps (addDotted way path key node) := by
  apply Change.Keeps.changeAt
  intro form e next he hnext
  dsimp only at hnext
  split at hnext
  · cases hnext
  · unfold addEntry at hnext
    split at hnext
    · rename_i hget
      cases hnext
      exact he.append (lookup_eq_none_iff_not_mem.1 hget) hnode
    · cases hnext

theorem Change.Keeps.openTable (key : String) : Change.Keeps (openTable key) := by
  intro form e next he hnext
  unfold Toml.openTable at hnext
  split at hnext
  · rename_i hget
    cases hnext
    exact he.append (lookup_eq_none_iff_not_mem.1 hget) (Unambiguous.nil.table .header)
  · rename_i inner hget
    cases hnext
    have hinner : Entries.Unambiguous inner := .of_table (he.get? hget)
    exact (he.erase key).append (Entries.not_mem_keys_erase e key) (hinner.table .header)
  · cases hnext

theorem Change.Keeps.openNextTable (key : String) : Change.Keeps (openNextTable key) := by
  intro form e next he hnext
  unfold Toml.openNextTable at hnext
  split at hnext
  · rename_i hget
    cases hnext
    exact he.append (lookup_eq_none_iff_not_mem.1 hget)
      (Unambiguous.tables_append (List.forall_mem_nil _) .nil)
  · rename_i items hget
    cases hnext
    exact he.set (Unambiguous.tables_append (Unambiguous.of_tables (he.get? hget)) .nil)
  · cases hnext

/-! ## Values -/

/-- What every step keeps is kept by a row of steps that all succeed. -/
theorem foldlM_of_kept {α β : Type} {P : β → Prop} {step : β → α → Option β} {row : List α}
    (hkept : ∀ a ∈ row, ∀ b next, P b → step b a = some next → P next) {b last : β} (hb : P b)
    (hlast : row.foldlM step b = some last) : P last := by
  induction row generalizing b with
  | nil =>
    cases hlast
    exact hb
  | cons a rest ih =>
    obtain ⟨hfirst, hrest⟩ := List.forall_mem_cons.1 hkept
    rw [List.foldlM_cons] at hlast
    obtain ⟨next, hnext, hlast⟩ := Option.bind_eq_some_iff.1 hlast
    exact ih hrest (hfirst b next hb hnext) hlast

theorem unambiguous_inlineTable {entries : List (List String × String × Node)} {node : Node}
    (h : ∀ entry ∈ entries, entry.2.2.Unambiguous) (hnode : inlineTable? entries = some node) :
    node.Unambiguous := by
  obtain ⟨table, htable, rfl⟩ := Option.map_eq_some_iff.1 hnode
  have hkept : ∀ entry ∈ entries, ∀ e next : Entries, e.Unambiguous →
      addDotted .braces entry.1 entry.2.1 entry.2.2 .inline e = some next → next.Unambiguous := by
    intro entry hentry e next he hnext
    exact Change.Keeps.addDotted (h entry hentry) .braces entry.1 entry.2.1 he hnext
  have htable := foldlM_of_kept hkept Unambiguous.nil htable
  exact htable.table .inline

theorem unambiguous_numberOrMoment {text after : List Char} {node : Node}
    (h : numberOrMoment text = some (node, after)) : node.Unambiguous := by
  unfold numberOrMoment at h
  split at h
  · cases h
    exact .moment
  · split at h
    · cases h
      exact .float
    · obtain ⟨_, -, heq⟩ := Option.map_eq_some_iff.1 h
      cases heq
      exact .integer _

theorem unambiguous_word {text after : List Char} {node : Node}
    (h : word text = some (node, after)) : node.Unambiguous := by
  unfold word at h
  split at h
  · cases h
    exact .boolean true
  · cases h
    exact .boolean false
  · obtain ⟨_, -, heq⟩ := Option.map_eq_some_iff.1 h
    cases heq
    exact .float

/-- Whether reading with so many steps yields nodes without ambiguity only. -/
structure ReadsUnambiguous (limit : Nat) : Prop where
  value : ∀ {depth text node after}, value limit depth text = some (node, after) → node.Unambiguous
  arrayItems : ∀ {depth text items after}, arrayItems limit depth text = some (items, after) →
    ∀ item ∈ items, item.Unambiguous
  inlineEntries : ∀ {depth text entries after},
    inlineEntries limit depth text = some (entries, after) →
      ∀ entry ∈ entries, entry.2.2.Unambiguous

namespace ReadsUnambiguous

variable {limit depth : Nat} {text after : List Char} (ih : ReadsUnambiguous limit)

include ih

theorem value_succ {node : Node} (h : Toml.value (limit + 1) depth text = some (node, after)) :
    node.Unambiguous := by
  cases text with
  | nil =>
    unfold Toml.value at h
    cases h
  | cons c rest =>
    unfold Toml.value at h
    -- one reader for each kind of value, told apart by the first character
    split at h
    · obtain ⟨_, -, heq⟩ := Option.map_eq_some_iff.1 h
      cases heq
      exact .text _
    split at h
    · split at h
      · cases h
      · obtain ⟨_, hitems, heq⟩ := Option.map_eq_some_iff.1 h
        cases heq
        exact .array (ih.arrayItems hitems)
    split at h
    · split at h
      · cases h
      · dsimp only at h
        split at h
        · obtain ⟨_, hempty, h⟩ := Option.bind_eq_some_iff.1 h
          obtain ⟨_, hnode, heq⟩ := Option.bind_eq_some_iff.1 h
          cases hempty
          cases heq
          exact unambiguous_inlineTable (List.forall_mem_nil _) hnode
        · obtain ⟨_, hentries, h⟩ := Option.bind_eq_some_iff.1 h
          obtain ⟨_, hnode, heq⟩ := Option.bind_eq_some_iff.1 h
          cases heq
          exact unambiguous_inlineTable (ih.inlineEntries hentries) hnode
    split at h
    · exact unambiguous_numberOrMoment h
    · exact unambiguous_word h

theorem arrayItems_succ {items : List Node}
    (h : Toml.arrayItems (limit + 1) depth text = some (items, after)) :
    ∀ item ∈ items, item.Unambiguous := by
  unfold Toml.arrayItems at h
  split at h
  · cases h
    exact List.forall_mem_nil _
  · obtain ⟨⟨item, afterItem⟩, hitem, h⟩ := Option.bind_eq_some_iff.1 h
    dsimp only at h
    split at h
    · cases h
      exact List.forall_mem_singleton.2 (ih.value hitem)
    · obtain ⟨_, hitems, heq⟩ := Option.bind_eq_some_iff.1 h
      cases heq
      exact List.forall_mem_cons.2 ⟨ih.value hitem, ih.arrayItems hitems⟩
    · cases h

theorem inlineEntries_succ {entries : List (List String × String × Node)}
    (h : Toml.inlineEntries (limit + 1) depth text = some (entries, after)) :
    ∀ entry ∈ entries, entry.2.2.Unambiguous := by
  unfold Toml.inlineEntries at h
  obtain ⟨_, -, h⟩ := Option.bind_eq_some_iff.1 h
  obtain ⟨_, -, h⟩ := Option.bind_eq_some_iff.1 h
  obtain ⟨⟨node, afterNode⟩, hnode, h⟩ := Option.bind_eq_some_iff.1 h
  dsimp only at h
  split at h
  · cases h
    exact List.forall_mem_singleton.2 (ih.value hnode)
  · obtain ⟨_, hentries, heq⟩ := Option.bind_eq_some_iff.1 h
    cases heq
    exact List.forall_mem_cons.2 ⟨ih.value hnode, ih.inlineEntries hentries⟩
  · cases h

end ReadsUnambiguous

/-- Whatever the limit on nesting is, a value is read without ambiguity. -/
theorem readsUnambiguous (limit : Nat) : ReadsUnambiguous limit := by
  induction limit with
  | zero => constructor <;> intros <;> contradiction
  | succ limit ih => exact ⟨ih.value_succ, ih.arrayItems_succ, ih.inlineEntries_succ⟩

/-! ## Documents -/

/-- A statement whose value is without ambiguity. -/
def Statement.Unambiguous : Statement → Prop
  | .entry _ _ node => node.Unambiguous
  | _ => True

theorem unambiguous_headerStatement (make : List String → String → Statement) {brackets : Nat}
    {text after : List Char} {s : Statement} (hmake : ∀ path name, (make path name).Unambiguous)
    (h : headerStatement make brackets text = some (s, after)) : s.Unambiguous := by
  unfold headerStatement at h
  obtain ⟨⟨⟨path, name⟩, afterKey⟩, -, h⟩ := Option.bind_eq_some_iff.1 h
  dsimp only at h
  split at h <;> obtain ⟨_, -, h⟩ := Option.bind_eq_some_iff.1 h
  all_goals
    obtain ⟨_, -, heq⟩ := Option.bind_eq_some_iff.1 h
    cases heq
    exact hmake path name

theorem unambiguous_statement {text after : List Char} {s : Statement}
    (h : statement text = some (s, after)) : s.Unambiguous := by
  unfold statement at h
  split at h
  · exact unambiguous_headerStatement .rowHeader (fun _ _ ↦ trivial) h
  · exact unambiguous_headerStatement .header (fun _ _ ↦ trivial) h
  · obtain ⟨_, -, h⟩ := Option.bind_eq_some_iff.1 h
    obtain ⟨_, -, h⟩ := Option.bind_eq_some_iff.1 h
    obtain ⟨_, hnode, h⟩ := Option.bind_eq_some_iff.1 h
    obtain ⟨_, -, heq⟩ := Option.bind_eq_some_iff.1 h
    cases heq
    exact (readsUnambiguous _).value hnode

theorem unambiguous_statements {limit : Nat} {text : List Char} {all : List Statement}
    (h : statements limit text = some all) : ∀ s ∈ all, s.Unambiguous := by
  induction limit generalizing text all with
  | zero => cases h
  | succ limit ih =>
    unfold statements at h
    split at h
    · cases h
      exact List.forall_mem_nil _
    · exact ih h
    · obtain ⟨_, -, h⟩ := Option.bind_eq_some_iff.1 h
      exact ih h
    · obtain ⟨_, hfirst, h⟩ := Option.bind_eq_some_iff.1 h
      obtain ⟨_, hrest, heq⟩ := Option.bind_eq_some_iff.1 h
      cases heq
      exact List.forall_mem_cons.2 ⟨unambiguous_statement hfirst, ih hrest⟩

/-- A statement keeps a draft without ambiguity. -/
theorem unambiguous_add {d next : Draft} {s : Statement} (hs : s.Unambiguous)
    (hd : d.root.Unambiguous) (h : d.add s = some next) : next.root.Unambiguous := by
  cases s with
  | header path name =>
    obtain ⟨root, hroot, heq⟩ := Option.bind_eq_some_iff.1 h
    cases heq
    exact (Change.Keeps.openTable name).changeAt path hd hroot
  | rowHeader path name =>
    obtain ⟨root, hroot, heq⟩ := Option.bind_eq_some_iff.1 h
    cases heq
    exact (Change.Keeps.openNextTable name).changeAt path hd hroot
  | entry path name node =>
    obtain ⟨root, hroot, heq⟩ := Option.bind_eq_some_iff.1 h
    cases heq
    exact (Change.Keeps.addDotted hs .dotted path name).changeAt d.path hd hroot

/-- No table of a document has a key twice. -/
theorem unambiguous_parse {text : List Char} {root : Entries} (h : parse text = some root) :
    root.Unambiguous := by
  obtain ⟨all, hall, h⟩ := Option.bind_eq_some_iff.1 h
  obtain ⟨draft, hdraft, heq⟩ := Option.bind_eq_some_iff.1 h
  cases heq
  have hkept : ∀ s ∈ all, ∀ d next : Draft, d.root.Unambiguous → d.add s = some next →
      next.root.Unambiguous := by
    intro s hs d next hd hnext
    exact unambiguous_add (unambiguous_statements hall s hs) hd hnext
  exact foldlM_of_kept (P := fun d : Draft ↦ d.root.Unambiguous) hkept .nil hdraft

end ProgressActions.Toml
