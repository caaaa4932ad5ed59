/-
# What a listing gives

A directory lists what stands in it, each name once, but a reader gets the name of an entry only where the
directory is not damaged, `names_entries`. All errors in one listing are the same, `eq_of_error_mem`, and
none of them says that there is no such entry, `present_of_error_mem`.

A host may list the entries of a directory in any order. In a tree that is the order of its rows, and
nothing but a listing depends on it: `Reordered` says that two file systems have the same nodes at the
same places and the same damage, and then every path leads to the same in both. What a directory lists is
the same up to order.
-/
import Mathlib.Data.List.Perm.Basic
import SingleRoot.Proofs.Host.Writing

namespace SingleRoot.Host

namespace Entry

/-- The name of an entry that can be read. -/
def name? : Entry → Option Name
  | .ok name => some name
  | .error _ => none

/-- The fault of one that cannot. -/
def fault? : Entry → Option Fault
  | .ok _ => none
  | .error fault => some fault

theorem names_map_ok (names : List Name) : (names.map .ok).filterMap name? = names := by
  rw [List.filterMap_map]
  exact List.filterMap_some

theorem mem_names_iff {entries : List Entry} {name : Name} :
    name ∈ entries.filterMap name? ↔ .ok name ∈ entries := by
  rw [List.mem_filterMap]
  constructor
  · rintro ⟨_ | read, among, same⟩
    · cases same
    · cases same
      exact among
  · exact fun among => ⟨_, among, rfl⟩

variable {entries : List Entry} {names : List Name} {fault : Fault}

/-- All entries are read if they all can be. -/
theorem mapM_id_eq_ok_iff : entries.mapM id = .ok names ↔ entries = names.map .ok := by
  induction entries generalizing names with
  | nil => cases names <;> simp [pure, Except.pure]
  | cons entry rest ih =>
    rw [List.mapM_cons]
    cases entry with
    | error fault => cases names <;> simp [bind, Except.bind]
    | ok name =>
      cases names with
      | nil => cases rest.mapM id <;> simp [bind, Except.bind, pure, Except.pure]
      | cons first others =>
        rw [List.map_cons, List.cons.injEq, ← ih]
        cases rest.mapM id <;> simp [bind, Except.bind, pure, Except.pure]

theorem error_mem_of_mapM_id (stops : entries.mapM id = .error fault) : .error fault ∈ entries := by
  induction entries with
  | nil => cases stops
  | cons entry rest ih =>
    rw [List.mapM_cons] at stops
    cases entry with
    | error other =>
      cases stops
      exact List.mem_cons_self
    | ok name =>
      cases reads : rest.mapM id with
      | error other =>
        simp only [reads, id, bind, Except.bind] at stops
        cases stops
        exact List.mem_cons_of_mem _ (ih reads)
      | ok others => simp [reads, bind, Except.bind, pure, Except.pure] at stops

/-- Entries that fail alike make the whole reading fail like each of them. -/
theorem mapM_id_of_alike (among : .error fault ∈ entries)
    (alike : ∀ other, .error other ∈ entries → other = fault) : entries.mapM id = .error fault := by
  cases reads : entries.mapM id with
  | ok names =>
    rw [mapM_id_eq_ok_iff.1 reads] at among
    simp at among
  | error other => rw [alike other (error_mem_of_mapM_id reads)]

theorem exists_names_of_sound (sound : ∀ fault, .error fault ∉ entries) :
    ∃ names : List Name, entries = names.map .ok := by
  cases reads : entries.mapM id with
  | error fault => exact absurd (error_mem_of_mapM_id reads) (sound fault)
  | ok names => exact ⟨names, mapM_id_eq_ok_iff.1 reads⟩

end Entry

/-- In a table that has each place once, the order of the rows does not matter to what is looked up. -/
theorem Tree.lookup_of_perm {rows reordered : List (Location × Node)} (perm : rows.Perm reordered)
    (once : (rows.map Prod.fst).Nodup) (location : Location) :
    reordered.lookup location = rows.lookup location := by
  induction perm with
  | nil => rfl
  | cons row _ ih =>
    rw [List.lookup_cons, List.lookup_cons, ih (List.nodup_cons.1 once).2]
  | swap first second rest =>
    obtain ⟨place, node⟩ := first
    obtain ⟨other, stood⟩ := second
    have differ : place ≠ other := by
      rintro rfl
      simp at once
    simp only [List.lookup_cons]
    by_cases here : location = place
    · subst here
      simp [beq_eq_false_iff_ne.2 differ]
    · simp [beq_eq_false_iff_ne.2 here]
  | trans former _ ih ihToo =>
    rw [ihToo ((former.map Prod.fst).nodup_iff.1 once), ih once]

namespace Tree

/-- The rows of some entries of a directory. -/
def entryRows (tree : Tree) (directory : Location) (names : List Name) : List (Location × Node) :=
  names.filterMap fun name =>
    (tree.node? (name :: directory)).map fun node => (name :: directory, node)

/-- The tree in which a directory lists some of its entries before all others, in the given order. -/
def listingFirst (tree : Tree) (directory : Location) (names : List Name) : Tree :=
  { tree with rows := tree.entryRows directory names ++ tree.rows }

variable {tree other : Tree} {directory place : Location} {names : List Name} {name : Name}
  {fault : Fault}

/-! ## Damaged directories -/

theorem readEntry_eq_ok_iff {read : Name} :
    tree.readEntry directory name = .ok read ↔ read = name ∧ tree.damage? directory name = none := by
  rw [readEntry]
  cases tree.damage? directory name <;> simp [eq_comm]

theorem readEntry_eq_error_iff :
    tree.readEntry directory name = .error fault ↔ tree.damage? directory name = some fault := by
  rw [readEntry]
  cases tree.damage? directory name <;> simp

theorem error_mem_entries (among : .error fault ∈ tree.entries directory) :
    ∃ damage, tree.damaged.lookup directory = some damage ∧ fault = .system damage.errno := by
  obtain ⟨name, _, spoilt⟩ := List.mem_map.1 among
  rw [readEntry_eq_error_iff] at spoilt
  obtain ⟨damage, there, here⟩ := Option.bind_eq_some_iff.1 spoilt
  obtain ⟨_, same⟩ := Option.ite_none_right_eq_some.1 here
  exact ⟨damage, there, (Option.some.inj same).symm⟩

theorem present_of_error_mem (among : .error fault ∈ tree.entries directory) :
    fault ≠ .system .noSuchEntry := by
  obtain ⟨damage, _, rfl⟩ := error_mem_entries among
  exact fun same => damage.present (Fault.system.inj same)

/-- A damaged directory fails alike for all entries that cannot be read. -/
theorem eq_of_error_mem {faultToo : Fault} (among : .error fault ∈ tree.entries directory)
    (amongToo : .error faultToo ∈ tree.entries directory) : faultToo = fault := by
  obtain ⟨damage, there, rfl⟩ := error_mem_entries among
  obtain ⟨damageToo, thereToo, rfl⟩ := error_mem_entries amongToo
  cases there.symm.trans thereToo
  rfl

theorem entries_of_sound (sound : ∀ name, tree.damage? directory name = none) :
    tree.entries directory = (tree.children directory).map .ok := by
  rw [entries, List.map_inj_left]
  exact fun name _ => readEntry_eq_ok_iff.2 ⟨rfl, sound name⟩

theorem readEntry_congr (damage : ∀ name, other.damage? place name = tree.damage? directory name) :
    other.readEntry place = tree.readEntry directory := by
  funext name
  rw [readEntry, readEntry, damage]

theorem perm_entries (children : (other.children place).Perm (tree.children directory))
    (damage : ∀ name, other.damage? place name = tree.damage? directory name) :
    (other.entries place).Perm (tree.entries directory) := by
  rw [entries, entries, readEntry_congr damage]
  exact children.map _

theorem names_entries (tree : Tree) (directory : Location) :
    (tree.entries directory).filterMap Entry.name? =
      (tree.children directory).filter fun name => (tree.damage? directory name).isNone := by
  rw [entries, List.filterMap_map, ← List.filterMap_eq_filter]
  congr 1
  funext name
  rw [Function.comp_apply, readEntry, Option.guard]
  cases tree.damage? directory name <;> rfl

/-- No name is read twice. -/
theorem nodup_names (tree : Tree) (directory : Location) :
    ((tree.entries directory).filterMap Entry.name?).Nodup := by
  rw [names_entries]
  exact (nodup_children tree directory).filter _

/-! ## Orders of the entries -/

theorem stands_of_mem_entryRows {location : Location} {node : Node}
    (among : (location, node) ∈ tree.entryRows directory names) :
    tree.node? location = some node := by
  obtain ⟨name, _, row⟩ := List.mem_filterMap.1 among
  obtain ⟨_, stands, same⟩ := Option.map_eq_some_iff.1 row
  cases same
  exact stands

theorem filterMap_entryRows (stands : ∀ name ∈ names, (tree.node? (name :: directory)).isSome) :
    ((tree.entryRows directory names).filterMap fun row => entryName? directory row.1) = names := by
  induction names with
  | nil => rfl
  | cons name rest ih =>
    obtain ⟨here, later⟩ := List.forall_mem_cons.1 stands
    obtain ⟨node, there⟩ := Option.isSome_iff_exists.1 here
    have rows : tree.entryRows directory (name :: rest) =
        (name :: directory, node) :: tree.entryRows directory rest := by
      simp [entryRows, there]
    rw [rows, List.filterMap_cons, ih later]
    simp [entryName?]

/-- Rows that are put in front and say what stands there anyway change nothing. -/
theorem node?_listingFirst (location : Location) :
    (tree.listingFirst directory names).node? location = tree.node? location := by
  cases location with
  | nil => rfl
  | cons name parent =>
    rw [node?_cons, listingFirst, List.lookup_append]
    cases found : (tree.entryRows directory names).lookup (name :: parent) with
    | none => rfl
    | some node =>
      obtain ⟨_, _, split, _⟩ := List.lookup_eq_some_iff.1 found
      rw [stands_of_mem_entryRows (split ▸ List.mem_append_right _ List.mem_cons_self)]
      rfl

theorem eraseDups_of_nodup (distinct : names.Nodup) : names.eraseDups = names := by
  induction names with
  | nil => rfl
  | cons name rest ih =>
    obtain ⟨fresh, distinctRest⟩ := List.nodup_cons.1 distinct
    have others : rest.filter (fun other => !other == name) = rest := by
      rw [List.filter_eq_self]
      intro other among
      have differ : other ≠ name := fun same => fresh (same ▸ among)
      simp [differ]
    rw [List.eraseDups_cons, others, ih distinctRest]

/-- A directory may list its names in any order. -/
theorem children_listingFirst (perm : names.Perm (tree.children directory)) :
    (tree.listingFirst directory names).children directory = names := by
  have front := filterMap_entryRows fun name among => mem_children.1 (perm.mem_iff.1 among)
  have later : (tree.rows.filterMap fun row => entryName? directory row.1).removeAll names = [] := by
    rw [List.removeAll, List.filter_eq_nil_iff]
    intro name among
    have listed : name ∈ tree.children directory := by
      rwa [children, List.mem_eraseDups]
    simpa using perm.mem_iff.2 listed
  rw [children, listingFirst, List.filterMap_append, front, List.eraseDups_append, later,
    eraseDups_of_nodup (perm.nodup_iff.2 (nodup_children tree directory)), List.eraseDups_nil,
    List.append_nil]

/-- An order of the entries comes from an order of the names. -/
theorem exists_perm_children {order : List Entry} (perm : order.Perm (tree.entries directory)) :
    ∃ names, names.Perm (tree.children directory) ∧
      (tree.listingFirst directory names).entries directory = order := by
  have each : List.Forall₂ (fun entry name => entry = tree.readEntry directory name)
      (tree.entries directory) (tree.children directory) :=
    List.forall₂_map_left_iff.2 (List.forall₂_same.2 fun _ _ => rfl)
  obtain ⟨names, reads, ordered⟩ := List.perm_comp_forall₂ perm each
  refine ⟨names, ordered, ?_⟩
  have read : order = names.map (tree.readEntry directory) := by
    rw [← List.forall₂_eq_eq_eq, List.forall₂_map_right_iff]
    exact reads
  rw [read, entries, children_listingFirst ordered]
  rfl

end Tree

namespace FileSystem

/-- The same host, except that its directories may list their entries in another order. -/
structure Reordered (files other : FileSystem) : Prop where
  caller : other.caller = files.caller
  workingDirectory : other.workingDirectory = files.workingDirectory
  node? : ∀ location, other.tree.node? location = files.tree.node? location
  damage : ∀ directory name, other.tree.damage? directory name = files.tree.damage? directory name

theorem list_eq_ok_iff {files : FileSystem} {path : HostPath} {entries : List Entry} :
    files.list path = .ok entries ↔
      ∃ location permissions, files.find path = .ok (location, .directory permissions) ∧
        files.caller.may permissions.read = true ∧ entries = files.tree.entries location := by
  rw [list]
  cases files.find path with
  | error fault => simp [bind, Except.bind]
  | ok found =>
    obtain ⟨location, node⟩ := found
    cases node with
    | file _ _ => simp [bind, Except.bind]
    | link _ => simp [bind, Except.bind]
    | directory permissions =>
      cases readable : files.caller.may permissions.read with
      | false =>
        simp only [bind, Except.bind, readable, Bool.false_eq_true, if_false, reduceCtorEq, false_iff]
        rintro ⟨_, _, same, granted, _⟩
        cases same
        simp [readable] at granted
      | true =>
        simp only [bind, Except.bind, readable, if_true, Except.ok.injEq, Prod.mk.injEq,
          Node.directory.injEq]
        constructor
        · rintro rfl
          exact ⟨location, permissions, ⟨rfl, rfl⟩, readable, rfl⟩
        · rintro ⟨_, _, ⟨rfl, rfl⟩, _, rfl⟩
          rfl

/-- A directory cannot be listed as a whole, and why. -/
inductive FailsToList (files : FileSystem) (path : HostPath) (fault : Fault) : Prop
  /-- It cannot be opened for that. -/
  | closed (unlisted : files.list path = .error fault)
  /-- Some of its entries cannot be read. -/
  | damaged {entries : List Entry} (lists : files.list path = .ok entries)
      (among : .error fault ∈ entries)

/-- A directory can be listed as a whole or cannot. -/
theorem lists_or_fails (files : FileSystem) (path : HostPath) :
    (∃ names : List Name, files.list path = .ok (names.map .ok)) ∨
      ∃ fault, files.FailsToList path fault := by
  cases listed : files.list path with
  | error fault => exact .inr ⟨fault, .closed listed⟩
  | ok entries =>
    by_cases fails : ∃ fault, .error fault ∈ entries
    · obtain ⟨fault, among⟩ := fails
      exact .inr ⟨fault, .damaged listed among⟩
    · obtain ⟨names, rfl⟩ := Entry.exists_names_of_sound fun fault among => fails ⟨fault, among⟩
      exact .inl ⟨names, rfl⟩

/-- No name is read twice in a listing. -/
theorem nodup_of_list {files : FileSystem} {path : HostPath} {entries : List Entry}
    (lists : files.list path = .ok entries) : (entries.filterMap Entry.name?).Nodup := by
  obtain ⟨location, _, _, _, rfl⟩ := list_eq_ok_iff.1 lists
  exact Tree.nodup_names files.tree location

/-- The rows of a table that has each place once may be put in any order. -/
theorem reordered_of_perm {files : FileSystem} {rows : List (Location × Node)}
    (perm : files.tree.rows.Perm rows) (once : (files.tree.rows.map Prod.fst).Nodup) :
    files.Reordered (files.withTree { files.tree with rows }) := by
  refine ⟨rfl, rfl, fun location => ?_, fun _ _ => rfl⟩
  cases location with
  | nil => rfl
  | cons name parent => exact Tree.lookup_of_perm perm once (name :: parent)

namespace Reordered

variable {files other : FileSystem} {manner : Manner}

theorem walkFrom_eq (same : files.Reordered other)
    (detour : Location → List Step → Except Errno Landing) (location : Location)
    (steps : List Step) :
    other.walkFrom manner detour location steps = files.walkFrom manner detour location steps := by
  induction steps generalizing location with
  | nil => rw [walkFrom, walkFrom, same.node?]
  | cons step rest ih => simp only [walkFrom, same.node?, same.caller, ih]

theorem walk_eq (same : files.Reordered other) (links : Nat) (location : Location)
    (steps : List Step) :
    other.walk manner links location steps = files.walk manner links location steps := by
  induction links generalizing location steps with
  | zero => exact same.walkFrom_eq _ location steps
  | succ links ih =>
    have detours : other.walk manner links = files.walk manner links := by
      funext start inner
      exact ih start inner
    rw [walk, walk, detours, same.walkFrom_eq]

/-- A path leads to the same, whatever the order of the listings. -/
theorem resolve_eq (same : files.Reordered other) (path : HostPath) :
    other.resolve manner path = files.resolve manner path := by
  rw [resolve, resolve, start, start, same.workingDirectory, same.walk_eq]

theorem find_eq (same : files.Reordered other) (path : HostPath) :
    other.find path = files.find path := by
  rw [find, find, same.resolve_eq]

theorem findLink_eq (same : files.Reordered other) (path : HostPath) :
    other.findLink path = files.findLink path := by
  rw [findLink, findLink, same.resolve_eq]

theorem canonical_eq (same : files.Reordered other) (path : HostPath) :
    other.canonical path = files.canonical path := by
  rw [canonical, canonical, same.find_eq]

/-- A directory lists the same entries, in some order. -/
theorem perm_of_list (same : files.Reordered other) {path : HostPath} {entries : List Entry}
    (lists : files.list path = .ok entries) :
    ∃ reordered, other.list path = .ok reordered ∧ reordered.Perm entries := by
  obtain ⟨location, permissions, found, readable, rfl⟩ := list_eq_ok_iff.1 lists
  refine ⟨other.tree.entries location, ?_, ?_⟩
  · rw [list_eq_ok_iff, same.find_eq, same.caller]
    exact ⟨location, permissions, found, readable, rfl⟩
  · refine Tree.perm_entries ?_ (same.damage location)
    rw [List.perm_ext_iff_of_nodup (Tree.nodup_children _ _) (Tree.nodup_children _ _)]
    intro name
    rw [Tree.mem_children, Tree.mem_children, same.node?]

/-- A directory that cannot be listed cannot be listed in another order, for the same reason. -/
theorem list_eq_error (same : files.Reordered other) {path : HostPath} {fault : Fault}
    (unlisted : files.list path = .error fault) : other.list path = .error fault := by
  rw [list] at unlisted
  rw [list, same.find_eq, same.caller]
  cases found : files.find path with
  | error fault =>
    rw [found] at unlisted
    exact unlisted
  | ok place =>
    obtain ⟨location, node⟩ := place
    rw [found] at unlisted
    cases node with
    | file _ _ => exact unlisted
    | link _ => exact unlisted
    | directory permissions =>
      simp only [bind, Except.bind] at unlisted ⊢
      split at unlisted
      · cases unlisted
      · rename_i unreadable
        rw [if_neg unreadable]
        exact unlisted

end Reordered

/-- Every order of the entries of a directory is the order in which some host lists them that is the same
otherwise. -/
theorem exists_reordered {files : FileSystem} {path : HostPath} {entries order : List Entry}
    (lists : files.list path = .ok entries) (perm : order.Perm entries) :
    ∃ other, files.Reordered other ∧ other.list path = .ok order := by
  obtain ⟨location, permissions, found, readable, rfl⟩ := list_eq_ok_iff.1 lists
  obtain ⟨names, _, rfl⟩ := Tree.exists_perm_children perm
  have same : files.Reordered (files.withTree (files.tree.listingFirst location names)) :=
    ⟨rfl, rfl, Tree.node?_listingFirst, fun _ _ => rfl⟩
  refine ⟨_, same, list_eq_ok_iff.2 ⟨location, permissions, ?_, readable, rfl⟩⟩
  rw [same.find_eq, found]

end FileSystem
end SingleRoot.Host
