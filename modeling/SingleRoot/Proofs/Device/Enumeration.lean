/-
# Virtual functions as they are listed

A record lists virtual functions in an order, and the directory of its function has a numbered link for
each of them. An enumeration goes the other way: it takes the entries in whatever order the host lists
them, follows those that are numbered links, and sorts what it finds by number. This module shows that
it comes back to the list of the record, without the functions that do not exist, which it counts.

Up to order the entries are the rows of the list, `perm_rows`, because a directory lists each name once
and a name tells its number. Sorting then restores the order, since no two rows have the same number.
-/
import Mathlib.Data.List.Basic
import SingleRoot.Proofs.Device.Standing

namespace SingleRoot.Device

open Host

namespace Handle

variable {files : FileSystem} {root : Location} {handle : Handle} {record : Inventory.Record}

/-- The name that the absolute path of a location ends in. -/
theorem fileName?_absolutePath {name : Name} (plain : PlainName name) (parent : Location) :
    (FileSystem.absolutePath (name :: parent)).fileName? = some name := by
  obtain ⟨nonempty, notDot, notDoubleDot, free⟩ := plain
  have bytes : (FileSystem.absolutePath (name :: parent)).bytes =
      (parent.reverse.flatMap fun above => slash :: above) ++ slash :: name := by
    simp [FileSystem.absolutePath]
  have component : HostPath.Component.ofStretch? name = some (.name name) := by
    simp [HostPath.Component.ofStretch?, nonempty, notDot, notDoubleDot]
  rw [HostPath.fileName?, HostPath.components, bytes, HostPath.stretches_append_slash,
    HostPath.stretches_of_notMem free]
  simp [component]

/-- What an enumeration reports does not change its result. -/
theorem result_enumerate (handle : Handle) (machine : Machine) :
    (handle.enumerate.run machine).1 = handle.virtualFunctions machine.files := by
  rw [Handle.enumerate, Action.run_bind, Action.run_ask]
  cases handle.virtualFunctions machine.files with
  | error error => rfl
  | ok enumeration =>
    -- What is left of the enumeration reports and counts, which succeeds on every machine.
    apply Action.Succeeds.bind
    · exact .forIn (fun entry => (Action.Succeeds.note _).bind fun _ => .count _ _) _
    · intro _
      exact (Action.Succeeds.note _).bind fun _ => .pure _

/-- Sorting by number restores a list in which every number is larger than the one before. -/
theorem mergeSort_eq_of_perm {listed found : List (UInt32 × Handle)}
    (ascending : listed.Pairwise fun first second => first.1 < second.1)
    (perm : found.Perm listed) :
    (found.mergeSort fun first second => first.1 ≤ second.1) = listed := by
  -- two entries of the same number are the same, so that there is only one way to sort them
  have same : ∀ ⦃first⦄, first ∈ listed → ∀ ⦃second⦄, second ∈ listed →
      first.1 = second.1 → first = second := by
    refine List.Pairwise.forall_of_forall_of_flip (fun _ _ _ => rfl) ?_ ?_
    · exact ascending.imp fun less equal => absurd equal (UInt32.ne_of_lt less)
    · exact ascending.imp fun less equal => absurd equal.symm (UInt32.ne_of_lt less)
  have sorted : (found.mergeSort fun first second => first.1 ≤ second.1).Pairwise
      fun first second => decide (first.1 ≤ second.1) = true := by
    refine List.pairwise_mergeSort (fun first second third former latter => ?_)
      (fun first second => ?_) found
    · rw [decide_eq_true_eq] at former latter ⊢
      exact UInt32.le_trans former latter
    · rw [Bool.or_eq_true, decide_eq_true_eq, decide_eq_true_eq]
      exact UInt32.le_total first.1 second.1
  have restored := (List.mergeSort_perm found fun first second => first.1 ≤ second.1).trans perm
  refine List.Perm.eq_of_pairwise (fun first second among amongToo less more => ?_) sorted
    (ascending.imp fun less => decide_eq_true (UInt32.le_of_lt less)) restored
  rw [decide_eq_true_eq] at less more
  exact same (restored.mem_iff.1 among) amongToo (UInt32.le_antisymm less more)

/-- Whether the function of an address stands below the directory of all functions. -/
def present (files : FileSystem) (root : Location) (address : String) : Bool :=
  (files.tree.node? (Text.toBytes address :: root)).isSome

/-- What becomes of the link to a function. -/
def outcome (files : FileSystem) (root : Location) (layout : Layout) (address : String) :
    Except EntryDefect Handle :=
  if present files root address then .ok ⟨address, layout⟩
  else .error (.unresolved (.system .noSuchEntry))

namespace Stands

variable (rooted : Rooted handle.layout files root) (valid : Pci.isAddressText handle.address = true)
  (stands : Stands files root handle record)

section Links

variable {index : Nat} {address : String}
  (listed : record.virtualFunctions[index]? = some address)
  (spelled : IsNameText address)

include stands listed

/-- The index of a function that is listed is one that a count can have. -/
theorem small : index < UInt32.size :=
  Nat.lt_of_lt_of_le (List.getElem?_eq_some_iff.1 listed).1 stands.counted

include rooted valid spelled

/-- A numbered link leads to the function that is listed under its number, if it exists. -/
theorem followEntry_eq :
    handle.followEntry files (virtualFunctionName index) =
      outcome files root handle.layout address := by
  obtain ⟨_, found, _, searchable⟩ := stands.found rooted valid
  obtain ⟨_, _, inside⟩ := FileSystem.find_eq_ok_iff.1 found
  obtain ⟨⟨target, there⟩, landing, ends, leads⟩ := stands.linked index address listed
  have linkSpelled := isNameText_virtualFunction (stands.small listed)
  have plain : PlainName (virtualFunctionName index) := linkSpelled.plainName
  have accepted : (handle.directory.join ⟨virtualFunctionName index⟩).refusal? = none := by
    rw [FileSystem.resolve_eq] at ends
    cases refused : (handle.directory.join ⟨virtualFunctionName index⟩).refusal? with
    | none => rfl
    | some fault => simp [refused] at ends
  have entry : files.entryIn (handle.home root) (virtualFunctionName index) = .ok (.link target) :=
    FileSystem.entryIn_eq_ok_iff.2 ⟨_, inside, searchable, linkSpelled.length_le, there⟩
  have seen : files.findLink (handle.directory.join ⟨virtualFunctionName index⟩) =
      .ok (.link target) := by
    rw [FileSystem.findLink_entry found plain accepted, entry]
    rfl
  have holds := FileSystem.holds_of_resolve ends
  have path : handle.directory / (⟨virtualFunctionName index⟩ : HostPath) =
      handle.directory.join ⟨virtualFunctionName index⟩ := rfl
  unfold followEntry
  dsimp only
  rw [path, seen, FileSystem.canonical, FileSystem.find, ends, outcome, present, ← leads]
  cases landing with
  | vacant parent name =>
    have vacant : files.tree.node? (name :: parent) = none := holds
    simp [Landing.location, vacant, bind, Except.bind]
  | present location node =>
    have present : files.tree.node? location = some node := holds
    have place : location = Text.toBytes address :: root := leads
    subst place
    simp [Landing.location, present, bind, Except.bind, pure, Except.pure,
      fileName?_absolutePath spelled.plainName]

end Links

section Lists

/-- The rows of the list of virtual functions: each with its index. -/
def rows (record : Inventory.Record) : List (String × Nat) :=
  record.virtualFunctions.zipIdx

theorem mem_rows {record : Inventory.Record} {address : String} {index : Nat} :
    (address, index) ∈ rows record ↔ record.virtualFunctions[index]? = some address :=
  List.mk_mem_zipIdx_iff_getElem?

theorem pairwise_rows (record : Inventory.Record) :
    (rows record).Pairwise fun first second => first.2 < second.2 := by
  apply List.pairwise_map.1
  change ((rows record).map Prod.snd).Pairwise (· < ·)
  rw [rows, List.zipIdx_map_snd]
  exact List.pairwise_lt_range'

include stands

/-- The numbered entries of the directory are the links to the functions that are listed. -/
theorem perm_numbered :
    ((files.tree.children (handle.home root)).filter fun name => (entryIndex? name).isSome).Perm
      ((rows record).map fun row => virtualFunctionName row.2) := by
  have small {row : String × Nat} (among : row ∈ rows record) : row.2 < UInt32.size :=
    stands.small (mem_rows.1 among)
  have distinct : ((rows record).map fun row => virtualFunctionName row.2).Nodup := by
    rw [List.Nodup, List.pairwise_map]
    apply (pairwise_rows record).imp_of_mem
    intro _ _ among amongToo less same
    exact Nat.ne_of_lt less ((virtualFunctionName_inj (small among) (small amongToo)).1 same)
  rw [List.perm_ext_iff_of_nodup ((Tree.nodup_children _ _).filter _) distinct]
  intro name
  rw [List.mem_filter, Tree.mem_children, List.mem_map]
  constructor
  · rintro ⟨there, indexed⟩
    obtain ⟨index, inside, rfl⟩ := stands.numbered name there indexed
    exact ⟨(record.virtualFunctions[index], index),
      mem_rows.2 (List.getElem?_eq_getElem inside), rfl⟩
  · rintro ⟨⟨address, index⟩, among, rfl⟩
    obtain ⟨⟨target, there⟩, _⟩ := stands.linked index address (mem_rows.1 among)
    exact ⟨by simp [there], by simp [entryIndex?_virtualFunctionName (small among)]⟩

end Lists

section Surveys

/-- What a survey makes of a row. -/
def surveyed (files : FileSystem) (root : Location) (layout : Layout) (row : String × Nat) :
    Except Skip (UInt32 × Handle) :=
  match outcome files root layout row.1 with
  | .ok function => .ok (UInt32.ofNat row.2, function)
  | .error defect => .error (.unresolved (virtualFunctionName row.2) defect)

/-- The function of a row with its number, if it exists. -/
def located (files : FileSystem) (root : Location) (layout : Layout) (row : String × Nat) :
    Option (UInt32 × Handle) :=
  if present files root row.1 then some (UInt32.ofNat row.2, ⟨row.1, layout⟩) else none

variable (spelled : ∀ address ∈ record.virtualFunctions, IsNameText address)

include rooted valid stands spelled

/-- Up to order, a survey of the directory goes through the rows. -/
theorem perm_results :
    (((files.tree.children (handle.home root)).map .ok).filterMap (handle.visitEntry files)).Perm
      ((rows record).map (surveyed files root handle.layout)) := by
  have numbered : (files.tree.children (handle.home root)).filterMap
        (handle.visitEntry files ∘ .ok) =
      ((files.tree.children (handle.home root)).filter fun name =>
        (entryIndex? name).isSome).filterMap (handle.visitEntry files ∘ .ok) := by
    rw [List.filterMap_filter]
    congr 1
    funext name
    rw [Function.comp_apply, visitEntry]
    cases entryIndex? name <;> rfl
  rw [List.filterMap_map, numbered]
  refine (stands.perm_numbered.filterMap _).trans (.of_eq ?_)
  rw [List.filterMap_map, ← List.filterMap_eq_map]
  apply List.filterMap_congr
  intro row among
  have listed := mem_rows.1 (show (row.1, row.2) ∈ rows record from among)
  have follows := stands.followEntry_eq rooted valid listed
    (spelled row.1 (List.mem_of_getElem? listed))
  simp only [Function.comp_apply, visitEntry, entryIndex?_virtualFunctionName (stands.small listed),
    follows, Option.map_some]
  rfl

omit rooted valid spelled in
/-- The functions that exist are listed by ascending numbers. -/
theorem pairwise_located :
    ((rows record).filterMap (located files root handle.layout)).Pairwise
      fun first second => first.1 < second.1 := by
  have ordered : (rows record).Pairwise fun first second =>
      UInt32.ofNat first.2 < UInt32.ofNat second.2 := by
    apply (pairwise_rows record).imp_of_mem
    intro _ _ among amongToo less
    have small := stands.small (mem_rows.1 among)
    have smallToo := stands.small (mem_rows.1 amongToo)
    rw [UInt32.lt_iff_toNat_lt, UInt32.toNat_ofNat_of_lt' small, UInt32.toNat_ofNat_of_lt' smallToo]
    exact less
  apply ordered.filterMap _
  intro first second less row found other foundToo
  simp only [located, Option.ite_none_right_eq_some, Option.some.injEq] at found foundToo
  rw [← found.2, ← foundToo.2]
  exact less

/-- What is found, sorted by number, is in the order of the list. -/
theorem functions_survey :
    (handle.survey files ((files.tree.children (handle.home root)).map .ok)).functions =
      (rows record).filterMap (located files root handle.layout) := by
  have found : ((rows record).map (surveyed files root handle.layout)).filterMap Except.toOption =
      (rows record).filterMap (located files root handle.layout) := by
    rw [List.filterMap_map]
    congr 1
    funext row
    simp only [Function.comp_apply, surveyed, outcome, located]
    cases present files root row.1 <;> rfl
  have perm := (stands.perm_results rooted valid spelled).filterMap Except.toOption
  rw [found] at perm
  exact mergeSort_eq_of_perm stands.pairwise_located perm

/-- What is skipped is what does not exist. -/
theorem length_skipped_survey :
    (handle.survey files ((files.tree.children (handle.home root)).map .ok)).skipped.length =
      (record.virtualFunctions.filter fun address => !present files root address).length := by
  have perm := (stands.perm_results rooted valid spelled).filterMap Skip.ofResult?
  have missing : (fun result => (Skip.ofResult? result).isSome) ∘
      surveyed files root handle.layout =
        (fun address => !present files root address) ∘ Prod.fst := by
    funext row
    simp only [Function.comp_apply, surveyed, outcome]
    cases present files root row.1 <;> rfl
  apply perm.length_eq.trans
  rw [List.length_filterMap_eq_countP, List.countP_map, missing, ← List.countP_map, rows,
    List.zipIdx_map_fst, List.countP_eq_length_filter]

/-- An enumeration lists the functions that exist in the order of the record and counts the others. -/
theorem virtualFunctions_eq :
    ∃ enumeration, handle.virtualFunctions files = .ok enumeration ∧
      enumeration.addresses = record.virtualFunctions.filter (present files root) ∧
      enumeration.skipped.length =
        (record.virtualFunctions.filter fun address => !present files root address).length := by
  obtain ⟨_, found, readable, _⟩ := stands.found rooted valid
  have lists : files.list handle.directory =
      .ok ((files.tree.children (handle.home root)).map .ok) :=
    FileSystem.list_eq_ok_iff.2 ⟨_, _, found, readable, (Tree.entries_of_sound stands.sound).symm⟩
  refine ⟨handle.survey files ((files.tree.children (handle.home root)).map .ok), ?_, ?_,
    stands.length_skipped_survey rooted valid spelled⟩
  · rw [virtualFunctions, lists]
  · have addresses : (fun row : String × Nat =>
        ((located files root handle.layout row).map Prod.snd).map Handle.address) =
          Option.guard (present files root) ∘ Prod.fst := by
      funext row
      simp only [located, Option.guard, Function.comp_apply]
      split <;> rfl
    rw [Enumeration.addresses, Enumeration.handles, stands.functions_survey rooted valid spelled,
      List.map_filterMap, List.map_filterMap, addresses, ← List.filterMap_map, rows,
      List.zipIdx_map_fst, List.filterMap_eq_filter]

end Surveys

end Stands

end Handle

end SingleRoot.Device
