/-
# What an enumeration makes of a directory

An enumeration looks at the entries of a directory that are numbered: their names are the stem of a
virtual function and a numeral. `IsEntryName` says so by a grammar, and `Leads` says when such an entry
leads to a function, without the steps in which the enumeration finds out. `Enumeration.Exact` then says
what comes of a listing: each numbered entry either gives one handle or is skipped, the handles are in the
order of the numbers, and besides an entry is skipped where the listing has an error instead of a name.

The proof keeps the names of the entries next to what they lead to, in `leading`. That list and the names
that are skipped divide the numbered entries, and sorting the list by number gives the handles. If no two
entries have the same number, there is only one way to sort them, and the order of the listing is lost.
-/
import Mathlib.Data.List.Forall2
import SingleRoot.Proofs.Device.Enumeration
import SingleRoot.Proofs.Device.Report
import SingleRoot.Proofs.Host.Listing
import SingleRoot.Proofs.Text.Encoding
import SingleRoot.Proofs.Text.Numerals

namespace SingleRoot.Device

open Host

/-! ## Numbered entries -/

/-- The names of the entries with an index: the stem of a virtual function and a numeral of a count. -/
def IsEntryName (name : Name) (index : Nat) : Prop :=
  ∃ numeral, name = Text.encode (virtualFunctionStem.toList ++ numeral) ∧
    Text.IsNumeral numeral index ∧ index < UInt32.size

/-- The index of an entry is read after the stem. -/
theorem entryIndex?_eq (name : Name) :
    entryIndex? name = (Text.decode? name).bind fun characters =>
      if virtualFunctionStem.toList.isPrefixOf characters then
        Text.word? (characters.drop virtualFunctionStem.toList.length)
      else none := by
  unfold entryIndex?
  cases Text.decode? name with
  | none => rfl
  | some characters =>
    simp only [Option.bind_eq_bind, Option.bind_some, guard]
    split <;> rfl

theorem entryIndex?_eq_some_iff {name : Name} {index : UInt32} :
    entryIndex? name = some index ↔ IsEntryName name index.toNat := by
  rw [entryIndex?_eq]
  constructor
  · intro indexed
    obtain ⟨characters, decodes, indexed⟩ := Option.bind_eq_some_iff.1 indexed
    obtain ⟨starts, indexed⟩ := Option.ite_none_right_eq_some.1 indexed
    obtain ⟨numeral, split⟩ := List.isPrefixOf_iff_prefix.1 starts
    rw [← split, List.drop_left] at indexed
    refine ⟨numeral, ?_, Text.word?_eq_some_iff.1 indexed, index.toNat_lt⟩
    rw [split]
    exact Text.decode?_eq_some_iff.1 decodes
  · rintro ⟨numeral, rfl, reads, _⟩
    have starts : virtualFunctionStem.toList.isPrefixOf
        (virtualFunctionStem.toList ++ numeral) = true :=
      List.isPrefixOf_iff_prefix.2 (List.prefix_append _ _)
    rw [Text.decode?_encode, Option.bind_some, if_pos starts, List.drop_left]
    exact Text.word?_eq_some_iff.2 reads

theorem isEntryName_iff {name : Name} {index : Nat} :
    IsEntryName name index ↔ (entryIndex? name).map UInt32.toNat = some index := by
  constructor
  · intro named
    have small : index < UInt32.size := named.elim fun _ spelled => spelled.2.2
    have same : (UInt32.ofNat index).toNat = index := UInt32.toNat_ofNat_of_lt' small
    rw [← same] at named
    rw [entryIndex?_eq_some_iff.2 named, Option.map_some, same]
  · intro indexed
    obtain ⟨read, reads, rfl⟩ := Option.map_eq_some_iff.1 indexed
    exact entryIndex?_eq_some_iff.1 reads

/-- An entry is numbered when its name has an index. -/
def IsNumbered (name : Name) : Prop :=
  ∃ index, IsEntryName name index

theorem isSome_entryIndex?_iff {name : Name} : (entryIndex? name).isSome = true ↔ IsNumbered name := by
  simp only [IsNumbered, isEntryName_iff]
  cases entryIndex? name <;> simp

instance (name : Name) : Decidable (IsNumbered name) :=
  decidable_of_iff _ isSome_entryIndex?_iff

theorem decide_isNumbered (name : Name) : decide (IsNumbered name) = (entryIndex? name).isSome := by
  rw [Bool.eq_iff_iff, decide_eq_true_iff, isSome_entryIndex?_iff]

/-- The numbered ones among some entries. -/
def numbered (names : List Name) : List Name :=
  names.filter fun name => IsNumbered name

/-- No two of the entries have the same number. -/
def NumberedApart (names : List Name) : Prop :=
  ∀ first ∈ names, ∀ second ∈ names, ∀ index,
    IsEntryName first index → IsEntryName second index → first = second

theorem numberedApart_iff {names : List Name} :
    NumberedApart names ↔ ∀ first ∈ names, ∀ second ∈ names,
      (entryIndex? first).isSome = true → entryIndex? first = entryIndex? second →
        first = second := by
  constructor
  · intro apart first among second amongToo indexed same
    obtain ⟨index, indexed⟩ := Option.isSome_iff_exists.1 indexed
    exact apart first among second amongToo index.toNat (entryIndex?_eq_some_iff.1 indexed)
      (entryIndex?_eq_some_iff.1 (same ▸ indexed))
  · intro apart first among second amongToo index named namedToo
    obtain ⟨read, reads, value⟩ := Option.map_eq_some_iff.1 (isEntryName_iff.1 named)
    obtain ⟨readToo, readsToo, valueToo⟩ := Option.map_eq_some_iff.1 (isEntryName_iff.1 namedToo)
    have same : read = readToo := UInt32.toNat_inj.1 (value.trans valueToo.symm)
    refine apart first among second amongToo ?_ ?_
    · rw [reads]
      rfl
    · rw [reads, readsToo, same]

instance (names : List Name) : Decidable (NumberedApart names) :=
  decidable_of_iff _ numberedApart_iff.symm

/-! ## Entries that are skipped -/

namespace Skip

/-- The name of an entry that is skipped, if it could be read. -/
def name? : Skip → Option Name
  | unreadable _ => none
  | unresolved name _ => some name

/-- Why it could not be read. -/
def fault? : Skip → Option Fault
  | unreadable fault => some fault
  | unresolved _ _ => none

theorem length_eq (skipped : List Skip) :
    skipped.length = (skipped.filterMap name?).length + (skipped.filterMap fault?).length := by
  induction skipped with
  | nil => rfl
  | cons skip rest ih =>
    cases skip with
    | unreadable fault =>
      simp only [List.filterMap_cons, name?, fault?, List.length_cons]
      omega
    | unresolved name defect =>
      simp only [List.filterMap_cons, name?, fault?, List.length_cons]
      omega

end Skip

/-! ## Entries that lead to a function -/

namespace Handle

variable {handle function : Handle} {files other : FileSystem} {name : Name} {names : List Name}
  {entries : List Entry}

/-- An entry leads to a function: it is a link, its target can be found, and the path of what is found
ends in the address of the function. -/
def Leads (handle : Handle) (files : FileSystem) (name : Name) (function : Handle) : Prop :=
  (∃ target, files.findLink (handle.directory / (⟨name⟩ : HostPath)) = .ok (.link target)) ∧
  ∃ resolved, files.canonical (handle.directory / (⟨name⟩ : HostPath)) = .ok resolved ∧
    resolved.fileName? = some (Text.toBytes function.address) ∧ function.layout = handle.layout

theorem followEntry_eq_ok_iff :
    handle.followEntry files name = .ok function ↔ handle.Leads files name function := by
  unfold followEntry Leads
  dsimp only
  cases files.findLink (handle.directory / (⟨name⟩ : HostPath)) with
  | error fault => simp [bind, Except.bind]
  | ok node =>
    cases node with
    | directory _ => simp [bind, Except.bind]
    | file _ _ => simp [bind, Except.bind]
    | link target =>
      cases files.canonical (handle.directory / (⟨name⟩ : HostPath)) with
      | error fault => simp [bind, Except.bind]
      | ok resolved =>
        obtain ⟨address, layout⟩ := function
        simp only [bind, Except.bind, mapError_ok, Except.ok.injEq, Node.link.injEq,
          exists_eq', true_and, exists_eq_left']
        cases resolved.fileName? with
        | none => simp [throw, throwThe, MonadExceptOf.throw]
        | some last =>
          rw [Option.bind_some]
          cases reads : Text.ofBytes? last with
          | none =>
            have unread : last ≠ Text.toBytes address := by
              rintro rfl
              simp at reads
            simp [throw, throwThe, MonadExceptOf.throw, unread]
          | some text =>
            obtain rfl := Text.ofBytes?_eq_some_iff.1 reads
            simp [pure, Except.pure, Text.toBytes_inj, eq_comm]

/-! ## The rows of a survey -/

/-- The entries that lead to a function, in the order of the listing, each with its index and the
function. -/
def leading (handle : Handle) (files : FileSystem) (names : List Name) :
    List (Name × UInt32 × Handle) :=
  names.filterMap fun name => (entryIndex? name).bind fun index =>
    (handle.followEntry files name).toOption.map fun function => (name, index, function)

/-- Rows in the order of their indices. -/
def byIndex (rows : List (Name × UInt32 × Handle)) : List (Name × UInt32 × Handle) :=
  rows.mergeSort fun first second => first.2.1 ≤ second.2.1

theorem functions_eq_mergeSort :
    (handle.survey files entries).functions =
      ((handle.leading files (entries.filterMap Entry.name?)).map Prod.snd).mergeSort
        fun first second => first.1 ≤ second.1 := by
  have found : (entries.filterMap (handle.visitEntry files)).filterMap Except.toOption =
      (handle.leading files (entries.filterMap Entry.name?)).map Prod.snd := by
    rw [leading, List.map_filterMap, List.filterMap_filterMap, List.filterMap_filterMap]
    congr 1
    funext entry
    cases entry with
    | error fault => rfl
    | ok name =>
      rw [visitEntry, Entry.name?, Option.bind_some]
      cases entryIndex? name with
      | none => rfl
      | some index => cases handle.followEntry files name <;> rfl
  rw [← found]
  rfl

/-- The functions that are found are those of the sorted rows. -/
theorem functions_eq :
    (handle.survey files entries).functions =
      (byIndex (handle.leading files (entries.filterMap Entry.name?))).map Prod.snd := by
  rw [functions_eq_mergeSort, byIndex]
  symm
  apply List.map_mergeSort
  intro _ _ _ _
  rfl

/-- Whether an entry leads anywhere, as the enumeration finds out. -/
def leads (handle : Handle) (files : FileSystem) (name : Name) : Bool :=
  (handle.followEntry files name).isOk

theorem leads_iff :
    handle.leads files name = true ↔ ∃ function, handle.Leads files name function := by
  rw [leads]
  simp only [← followEntry_eq_ok_iff]
  cases handle.followEntry files name <;> simp [Except.isOk, Except.toBool]

/-- The entries in the rows are the numbered ones that lead somewhere. -/
theorem map_fst_leading :
    (handle.leading files names).map Prod.fst = (numbered names).filter (handle.leads files) := by
  rw [leading, List.map_filterMap, numbered, List.filter_filter, ← List.filterMap_eq_filter]
  congr 1
  funext name
  rw [Option.guard, decide_isNumbered, leads]
  cases entryIndex? name with
  | none => simp
  | some index => cases handle.followEntry files name <;> rfl

/-- The names that are skipped are the numbered ones that lead nowhere. -/
theorem names_skipped :
    (handle.survey files entries).skipped.filterMap Skip.name? =
      (numbered (entries.filterMap Entry.name?)).filter fun name => !handle.leads files name := by
  have skipped : (handle.survey files entries).skipped =
      (entries.filterMap (handle.visitEntry files)).filterMap Skip.ofResult? := rfl
  rw [skipped, List.filterMap_filterMap, List.filterMap_filterMap, numbered, List.filter_filter,
    ← List.filterMap_eq_filter, List.filterMap_filterMap]
  congr 1
  funext entry
  cases entry with
  | error fault => rfl
  | ok name =>
    rw [visitEntry, Entry.name?, Option.bind_some, Option.guard, decide_isNumbered, leads]
    cases entryIndex? name with
    | none => simp
    | some index => cases handle.followEntry files name <;> rfl

/-- Besides, the entries are skipped of which the listing does not tell the name. -/
theorem faults_skipped :
    (handle.survey files entries).skipped.filterMap Skip.fault? =
      entries.filterMap Entry.fault? := by
  have skipped : (handle.survey files entries).skipped =
      (entries.filterMap (handle.visitEntry files)).filterMap Skip.ofResult? := rfl
  rw [skipped, List.filterMap_filterMap, List.filterMap_filterMap]
  congr 1
  funext entry
  cases entry with
  | error fault => rfl
  | ok name =>
    rw [visitEntry]
    cases entryIndex? name with
    | none => rfl
    | some index => cases handle.followEntry files name <;> rfl

-- an entry of another form is left alone, but one without a name is not
example (handle : Handle) (files : FileSystem) :
    (handle.survey files [.error (.system .inputOutput), .ok (Text.toBytes "uevent")]).skipped =
      [.unreadable (.system .inputOutput)] := by
  rfl

/-- Every numbered entry is in a row or is skipped. -/
theorem perm_rows_skipped (handle : Handle) (files : FileSystem) (entries : List Entry) :
    ((handle.leading files (entries.filterMap Entry.name?)).map Prod.fst ++
      (handle.survey files entries).skipped.filterMap Skip.name?).Perm
        (numbered (entries.filterMap Entry.name?)) := by
  rw [map_fst_leading, names_skipped]
  exact List.filter_append_perm (handle.leads files) _

theorem mem_leading {name : Name} {index : UInt32} {function : Handle}
    (among : (name, index, function) ∈ handle.leading files names) :
    name ∈ names ∧ entryIndex? name = some index ∧ handle.Leads files name function := by
  obtain ⟨listed, there, row⟩ := List.mem_filterMap.1 among
  obtain ⟨number, indexed, row⟩ := Option.bind_eq_some_iff.1 row
  obtain ⟨followed, follows, same⟩ := Option.map_eq_some_iff.1 row
  cases same
  refine ⟨there, indexed, followEntry_eq_ok_iff.1 ?_⟩
  cases answered : handle.followEntry files name with
  | error defect => simp [answered, Except.toOption] at follows
  | ok found =>
    simp only [answered, Except.toOption, Option.some.injEq] at follows
    rw [follows]

/-! ## What comes of a listing -/

theorem perm_byIndex (rows : List (Name × UInt32 × Handle)) : (byIndex rows).Perm rows :=
  List.mergeSort_perm _ _

theorem pairwise_byIndex (rows : List (Name × UInt32 × Handle)) :
    (byIndex rows).Pairwise fun first second => first.2.1 ≤ second.2.1 := by
  have sorted : (byIndex rows).Pairwise fun first second =>
      decide (first.2.1 ≤ second.2.1) = true := by
    apply List.pairwise_mergeSort
    · intro first second third former latter
      rw [decide_eq_true_eq] at former latter ⊢
      exact UInt32.le_trans former latter
    · intro first second
      rw [Bool.or_eq_true, decide_eq_true_eq, decide_eq_true_eq]
      exact UInt32.le_total first.2.1 second.2.1
  exact sorted.imp of_decide_eq_true

end Handle

/-- An enumeration is exact for a listing: some entries have been followed, each to one handle, and all
other numbered entries have been skipped and lead nowhere. Each error in the listing is another entry that
has been skipped. -/
structure Enumeration.Exact (enumeration : Enumeration) (handle : Handle) (files : FileSystem)
    (entries : List Entry) (followed : List Name) : Prop where
  divides : (followed ++ enumeration.skipped.filterMap Skip.name?).Perm
    (numbered (entries.filterMap Entry.name?))
  leads : List.Forall₂ (handle.Leads files) followed enumeration.handles
  skips : ∀ name ∈ enumeration.skipped.filterMap Skip.name?, ∀ function,
    ¬ handle.Leads files name function
  unread : enumeration.skipped.filterMap Skip.fault? = entries.filterMap Entry.fault?
  ordered : followed.Pairwise fun first second =>
    ∀ low high, IsEntryName first low → IsEntryName second high → low ≤ high

/-- Two enumerations tell their caller the same. -/
def Enumeration.Agrees (one other : Enumeration) : Prop :=
  one.handles = other.handles ∧ one.skipped.length = other.skipped.length

namespace Handle

variable {handle function : Handle} {files other : FileSystem} {name : Name}
  {names : List Name} {entries otherEntries : List Entry}

theorem exact_survey (handle : Handle) (files : FileSystem) (entries : List Entry) :
    (handle.survey files entries).Exact handle files entries
      ((byIndex (handle.leading files (entries.filterMap Entry.name?))).map Prod.fst) := by
  have rows {row : Name × UInt32 × Handle}
      (among : row ∈ byIndex (handle.leading files (entries.filterMap Entry.name?))) :=
    mem_leading ((perm_byIndex _).mem_iff.1 among)
  refine ⟨?_, ?_, ?_, faults_skipped, ?_⟩
  · exact (((perm_byIndex _).map _).append_right _).trans (perm_rows_skipped handle files entries)
  · rw [Enumeration.handles, functions_eq, List.map_map, List.forall₂_map_left_iff,
      List.forall₂_map_right_iff, List.forall₂_same]
    intro row among
    exact (rows among).2.2
  · intro name skipped function leads
    rw [names_skipped] at skipped
    have nowhere := (List.mem_filter.1 skipped).2
    simp [leads_iff.2 ⟨function, leads⟩] at nowhere
  · rw [List.pairwise_map]
    apply (pairwise_byIndex _).imp_of_mem
    intro first second among amongToo ascending low high named namedToo
    rw [isEntryName_iff, (rows among).2.1] at named
    rw [isEntryName_iff, (rows amongToo).2.1] at namedToo
    cases named
    cases namedToo
    exact ascending

/-- A numbered entry gives one handle or is skipped, and so is an entry that cannot be read. -/
theorem length_leading (handle : Handle) (files : FileSystem) (entries : List Entry) :
    (handle.leading files (entries.filterMap Entry.name?)).length +
        (handle.survey files entries).skipped.length =
      (numbered (entries.filterMap Entry.name?)).length +
        (entries.filterMap Entry.fault?).length := by
  have lengths := (perm_rows_skipped handle files entries).length_eq
  rw [List.length_append, List.length_map] at lengths
  rw [Skip.length_eq, faults_skipped, ← lengths, Nat.add_assoc]

theorem length_handles :
    (handle.survey files entries).handles.length =
      (handle.leading files (entries.filterMap Entry.name?)).length := by
  rw [Enumeration.handles, functions_eq, List.length_map, List.length_map,
    (perm_byIndex _).length_eq]

/-! ## What the result depends on -/

/-- The entries that are not numbered give no rows. -/
theorem leading_numbered (files : FileSystem) (names : List Name) :
    handle.leading files (numbered names) = handle.leading files names := by
  rw [leading, leading, numbered, List.filterMap_filter]
  congr 1
  funext name
  rw [decide_isNumbered]
  cases entryIndex? name <;> rfl

/-- The rows depend on where the numbered entries lead. -/
theorem leading_congr
    (follows : ∀ name ∈ numbered names, ∀ function,
      handle.Leads other name function ↔ handle.Leads files name function) :
    handle.leading other names = handle.leading files names := by
  rw [← leading_numbered other, ← leading_numbered files, leading, leading]
  apply List.filterMap_congr
  intro name among
  have same : (handle.followEntry other name).toOption =
      (handle.followEntry files name).toOption := by
    apply Option.ext
    intro function
    have alike := follows name among function
    rw [← followEntry_eq_ok_iff, ← followEntry_eq_ok_iff] at alike
    revert alike
    cases handle.followEntry other name <;> cases handle.followEntry files name <;>
      simp [Except.toOption]
  rw [same]

/-- The same rows in the same order give the same enumeration. -/
theorem agrees_of_numbered_eq
    (listed : numbered (otherEntries.filterMap Entry.name?) = numbered (entries.filterMap Entry.name?))
    (unread : (otherEntries.filterMap Entry.fault?).length = (entries.filterMap Entry.fault?).length)
    (follows : ∀ name ∈ numbered (entries.filterMap Entry.name?), ∀ function,
      handle.Leads other name function ↔ handle.Leads files name function) :
    (handle.survey other otherEntries).Agrees (handle.survey files entries) := by
  have rows : handle.leading other (otherEntries.filterMap Entry.name?) =
      handle.leading files (entries.filterMap Entry.name?) := by
    rw [← leading_numbered other, listed, leading_numbered]
    exact leading_congr follows
  have one := length_leading handle other otherEntries
  have two := length_leading handle files entries
  rw [rows, listed, unread] at one
  refine ⟨?_, by omega⟩
  rw [Enumeration.handles, Enumeration.handles, functions_eq, functions_eq, rows]

/-- If no two entries have the same number, the functions are listed by ascending numbers. -/
theorem pairwise_functions (distinct : (entries.filterMap Entry.name?).Nodup)
    (apart : NumberedApart (entries.filterMap Entry.name?)) :
    (handle.survey files entries).functions.Pairwise fun first second => first.1 < second.1 := by
  have numbers : (entries.filterMap Entry.name?).Pairwise fun first second => ∀ index,
      entryIndex? first = some index → entryIndex? second ≠ some index := by
    apply distinct.imp_of_mem
    intro first second among amongToo differ index indexed indexedToo
    exact differ (apart first among second amongToo _ (entryIndex?_eq_some_iff.1 indexed)
      (entryIndex?_eq_some_iff.1 indexedToo))
  have listed : (handle.leading files (entries.filterMap Entry.name?)).Pairwise fun first second =>
      first.2.1 ≠ second.2.1 := by
    apply numbers.filterMap
    intro first second differ row found rowToo foundToo same
    obtain ⟨index, indexed, found⟩ := Option.bind_eq_some_iff.1 found
    obtain ⟨indexToo, indexedToo, foundToo⟩ := Option.bind_eq_some_iff.1 foundToo
    obtain ⟨_, _, rfl⟩ := Option.map_eq_some_iff.1 found
    obtain ⟨_, _, rfl⟩ := Option.map_eq_some_iff.1 foundToo
    cases same
    exact differ _ indexed indexedToo
  have sorted := ((perm_byIndex _).pairwise_iff Ne.symm).2 listed
  rw [functions_eq, List.pairwise_map]
  apply ((pairwise_byIndex _).and sorted).imp
  rintro first second ⟨ascending, differ⟩
  exact UInt32.lt_of_le_of_ne ascending differ

/-- The same rows in any order give the same enumeration, if no two entries have the same number. -/
theorem agrees_of_perm (distinct : (entries.filterMap Entry.name?).Nodup)
    (apart : NumberedApart (entries.filterMap Entry.name?)) (listed : otherEntries.Perm entries)
    (follows : ∀ name ∈ numbered (entries.filterMap Entry.name?), ∀ function,
      handle.Leads other name function ↔ handle.Leads files name function) :
    (handle.survey other otherEntries).Agrees (handle.survey files entries) := by
  have rows : (handle.leading other (otherEntries.filterMap Entry.name?)).Perm
      (handle.leading files (entries.filterMap Entry.name?)) := by
    rw [← leading_congr follows]
    exact (listed.filterMap _).filterMap _
  have one := length_leading handle other otherEntries
  have two := length_leading handle files entries
  have among := ((listed.filterMap Entry.name?).filter fun name => decide (IsNumbered name)).length_eq
  have unread := (listed.filterMap Entry.fault?).length_eq
  rw [rows.length_eq] at one
  refine ⟨?_, by simp only [numbered] at one two; omega⟩
  have found : ((handle.leading other (otherEntries.filterMap Entry.name?)).map Prod.snd).Perm
      (handle.survey files entries).functions := by
    rw [functions_eq]
    exact (rows.trans (perm_byIndex _).symm).map _
  rw [Enumeration.handles, Enumeration.handles, functions_eq_mergeSort,
    mergeSort_eq_of_perm (pairwise_functions distinct apart) found]

theorem leads_of_reordered (same : files.Reordered other) :
    handle.Leads other name function ↔ handle.Leads files name function := by
  rw [Leads, Leads, same.findLink_eq, same.canonical_eq]

/-- The result of an enumeration of a directory that can be listed. -/
theorem enumerate_of_list (machine : Machine)
    (lists : machine.files.list handle.directory = .ok entries) :
    (handle.enumerate.run machine).1 = .ok (handle.survey machine.files entries) := by
  rw [result_enumerate, virtualFunctions, lists]

/-- An enumeration is exact and ordered, and neither the entries that are not numbered nor the order of the
listing matter to it. Where all entries can be read, what is found and what is skipped add up to the
numbered entries; each entry that cannot be read is one more that is skipped. -/
theorem enumerate_exact (handle : Handle) (machine : Machine) :
    (∀ fault, machine.files.list handle.directory = .error fault →
      (handle.enumerate.run machine).1 = .error (.io handle.address handle.directory fault)) ∧
    ∀ entries, machine.files.list handle.directory = .ok entries →
      (entries.filterMap Entry.name?).Nodup ∧
      ∃ enumeration followed, (handle.enumerate.run machine).1 = .ok enumeration ∧
        enumeration.Exact handle machine.files entries followed ∧
        enumeration.handles.length + enumeration.skipped.length =
          (numbered (entries.filterMap Entry.name?)).length +
            (entries.filterMap Entry.fault?).length ∧
        (∀ (other : Machine) (otherEntries : List Entry),
          other.files.list handle.directory = .ok otherEntries →
          numbered (otherEntries.filterMap Entry.name?) = numbered (entries.filterMap Entry.name?) →
          (otherEntries.filterMap Entry.fault?).length = (entries.filterMap Entry.fault?).length →
          (∀ name ∈ numbered (entries.filterMap Entry.name?), ∀ function,
            handle.Leads other.files name function ↔ handle.Leads machine.files name function) →
          ∃ again, (handle.enumerate.run other).1 = .ok again ∧ again.Agrees enumeration) ∧
        (NumberedApart (entries.filterMap Entry.name?) →
          ∀ other : Machine, machine.files.Reordered other.files →
          ∃ again, (handle.enumerate.run other).1 = .ok again ∧ again.Agrees enumeration) := by
  constructor
  · intro fault unlisted
    rw [result_enumerate, virtualFunctions, unlisted]
  intro entries lists
  have distinct := FileSystem.nodup_of_list lists
  refine ⟨distinct, handle.survey machine.files entries, _, enumerate_of_list machine lists,
    exact_survey handle machine.files entries, ?_, ?_, ?_⟩
  · rw [length_handles, length_leading]
  · intro other otherEntries listsToo listed unread follows
    exact ⟨_, enumerate_of_list other listsToo, agrees_of_numbered_eq listed unread follows⟩
  · intro apart other same
    obtain ⟨reordered, listsToo, perm⟩ := same.perm_of_list lists
    exact ⟨_, enumerate_of_list other listsToo,
      agrees_of_perm distinct apart perm fun _ _ _ => leads_of_reordered same⟩

end Handle

/-! ## A directory in disorder -/

namespace Sample

/-- An entry of the function's directory. -/
def entry (name : String) : Location :=
  place ["devices", address, name]

/-- A function with three virtual functions, listed from the last to the first. One is reached by way of
another link; one entry leads nowhere, one is no link, and one cannot be read. The last two entries are not
numbered. -/
def disorder : FileSystem :=
  ⟨{ rows := [(place ["devices"], .directory .newDirectory),
      (place ["devices", address], .directory .newDirectory),
      (entry "virtfn10", .link (.ofText "../0000:01:01.2")),
      (entry "virtfn9", .link (.ofText "../0000:01:01.1")),
      (entry "virtfn5", .link (.ofText "../0000:01:01.0")),
      (entry "virtfn+3", .link (.ofText "first")),
      (entry "virtfn2", .link (.ofText "../0000:01:01.3")),
      (entry "virtfn007", .file .newFile []),
      (entry "first", .link (.ofText "../0000:01:01.0")),
      (entry "virtfn4294967296", .link (.ofText "../0000:01:01.2")),
      (place ["devices", "0000:01:01.0"], .directory .newDirectory),
      (place ["devices", "0000:01:01.1"], .directory .newDirectory),
      (place ["devices", "0000:01:01.2"], .directory .newDirectory)]
     damaged := [(place ["devices", address], failing (Text.toBytes "virtfn5"))] },
    [], .owner⟩

/-- The same host, listed the other way round. -/
def turned : FileSystem :=
  disorder.withTree { disorder.tree with rows := disorder.tree.rows.reverse }

/-- What a reader gets of the entries, as they are listed. -/
def entries : List Entry :=
  [.ok (Text.toBytes "virtfn10"), .ok (Text.toBytes "virtfn9"), .error (.system .inputOutput)] ++
    ["virtfn+3", "virtfn2", "virtfn007", "first", "virtfn4294967296"].map fun name =>
      .ok (Text.toBytes name)

end Sample

open Sample in
/-- Both ways the functions come in the order of their numbers, and three entries are skipped. -/
theorem enumerate_exact_sample :
    disorder.list (Handle.directory ⟨address, layout⟩) = .ok entries ∧
      NumberedApart (entries.filterMap Entry.name?) ∧ disorder.Reordered turned ∧
      ∃ enumeration followed, (Handle.enumerate ⟨address, layout⟩ |>.run (.start disorder)).1 =
          .ok enumeration ∧
        enumeration.Exact ⟨address, layout⟩ disorder entries followed ∧
        enumeration.addresses = ["0000:01:01.0", "0000:01:01.1", "0000:01:01.2"] ∧
        enumeration.skipped.length = 3 ∧
        ∃ again, (Handle.enumerate ⟨address, layout⟩ |>.run (.start turned)).1 = .ok again ∧
          again.Agrees enumeration := by
  have lists : disorder.list (Handle.directory ⟨address, layout⟩) = .ok entries := by
    decide +kernel
  have apart : NumberedApart (entries.filterMap Entry.name?) := by
    decide +kernel
  have same : disorder.Reordered turned :=
    FileSystem.reordered_of_perm (List.reverse_perm _).symm (by decide +kernel)
  have skipped : (Handle.survey ⟨address, layout⟩ disorder entries).skipped.length = 3 := by
    decide +kernel
  -- Merge sort does not evaluate, so the sorted list is given and compared with what is listed.
  have functions : (Handle.survey ⟨address, layout⟩ disorder entries).functions =
      [(3, ⟨"0000:01:01.0", layout⟩), (9, ⟨"0000:01:01.1", layout⟩),
        (10, ⟨"0000:01:01.2", layout⟩)] := by
    rw [Handle.functions_eq_mergeSort]
    refine Handle.mergeSort_eq_of_perm ?_ ?_
    · decide
    · decide +kernel
  obtain ⟨_, listed⟩ := Handle.enumerate_exact ⟨address, layout⟩ (.start disorder)
  obtain ⟨_, enumeration, followed, enumerates, exact_, _, _, reorders⟩ := listed entries lists
  obtain ⟨again, enumeratesToo, agrees⟩ := reorders apart (.start turned) same
  cases (Handle.enumerate_of_list (.start disorder) lists).symm.trans enumerates
  exact ⟨lists, apart, same, _, followed, enumerates, exact_,
    congrArg (fun found => (found.map (·.2)).map (·.address)) functions, skipped, again,
    enumeratesToo, agrees⟩

end SingleRoot.Device
