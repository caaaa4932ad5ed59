/-
# Functions on two sites

A function below one site is asked the same as the function of the same address below another site, where
the same tree stands. The answers are the same, but for the root of the site in the paths that errors
report, `DeviceError.rebase`.

Most queries follow paths and read files, and for them it is enough that the sites share their tree. Two of
them use a listing, whose order is the host's affair. The network interface is the least name of a listing,
which does not depend on the order. Virtual functions are sorted by the numbers of their entries, so that
the order matters only among entries with the same number, `mergeSort_eq_of_filter`, and that order is what
`Mirrors` asks for besides.
-/
import SingleRoot.Proofs.Device.Confinement
import SingleRoot.Proofs.Device.Interface
import SingleRoot.Proofs.Host.Relocation

namespace SingleRoot

open Host

/-! ## Listings after a write -/

/-- What is put in a free place is listed last in its directory. -/
theorem Host.Tree.children_put {tree : Tree} {directory parent : Location} {name : Name} {node : Node} :
    (tree.put (name :: parent) node).children directory =
      if parent = directory ∧ tree.node? (name :: parent) = none then
        tree.children directory ++ [name]
      else tree.children directory := by
  cases stands : tree.node? (name :: parent) with
  | some old =>
    rw [Tree.children_put_of_isSome (by simp) (by simp [stands])]
    simp
  | none =>
    have free : (tree.rows.lookup (name :: parent)).isSome = false := by
      rw [← Tree.node?_cons, stands]
      rfl
    rw [Tree.put, if_neg (by simp [free])]
    by_cases here : parent = directory
    · subst here
      have fresh : name ∉ tree.children parent := by
        rw [Tree.mem_children, stands]
        simp
      rw [Tree.children, List.mem_eraseDups] at fresh
      have listed : [(name :: parent, node)].filterMap (fun row => Tree.entryName? parent row.1) =
          [name] := by
        simp [Tree.entryName?]
      rw [if_pos ⟨rfl, rfl⟩, Tree.children, Tree.children, List.filterMap_append, listed,
        List.eraseDups_append, List.removeAll]
      simp [fresh, List.eraseDups_cons]
    · rw [if_neg (by simp [here]), Tree.children, Tree.children]
      simp [Tree.entryName?, here]

namespace Device

/-! ## Numbered entries in two listings -/

/-- The name of a numbered entry is plain. -/
theorem plainName_of_entryIndex? {name : Name} {index : UInt32}
    (indexed : entryIndex? name = some index) : PlainName name := by
  obtain ⟨numeral, rfl, ⟨digits, spelled, _, allDigits, _⟩, _⟩ := entryIndex?_eq_some_iff.1 indexed
  have stem : Text.encode virtualFunctionStem.toList = [0x76, 0x69, 0x72, 0x74, 0x66, 0x6e] := by
    decide +kernel
  have bytes : Text.encode (virtualFunctionStem.toList ++ numeral) =
      [0x76, 0x69, 0x72, 0x74, 0x66, 0x6e] ++ Text.encode numeral := by
    rw [← stem, Text.encode, List.flatMap_append]
    rfl
  refine ⟨by simp [bytes], by simp [bytes, dot], by simp [bytes, doubleDot], ?_⟩
  have letter : '/' ∉ numeral := by
    have notDigit : '/' ∉ digits := fun among => absurd (allDigits _ among) (by decide)
    rcases spelled with rfl | rfl
    · exact notDigit
    · simp [notDigit]
  rw [bytes, List.mem_append, not_or]
  refine ⟨by decide, fun among => letter ?_⟩
  have text : Text.encode numeral = Text.toBytes (String.ofList numeral) := by
    rw [Text.toBytes, String.toList_ofList]
  rw [text, Text.mem_toBytes_iff (by decide), String.toList_ofList] at among
  exact among

section Sorting

variable {α : Type} {rows others : List (UInt32 × α)}

/-- The order in which rows are sorted. -/
def before (first second : UInt32 × α) : Bool :=
  first.1 ≤ second.1

theorem before_trans (first second third : UInt32 × α) (former : before first second = true)
    (latter : before second third = true) : before first third = true := by
  rw [before, decide_eq_true_eq] at former latter ⊢
  exact UInt32.le_trans former latter

theorem before_total (first second : UInt32 × α) :
    (before first second || before second first) = true := by
  rw [Bool.or_eq_true, before, before, decide_eq_true_eq, decide_eq_true_eq]
  exact UInt32.le_total first.1 second.1

/-- Sorting keeps the order of rows with the same number. -/
theorem filter_mergeSort (rows : List (UInt32 × α)) (index : UInt32) :
    (rows.mergeSort before).filter (·.1 = index) = rows.filter (·.1 = index) := by
  have alike : (rows.filter (·.1 = index)).Pairwise fun first second => before first second = true := by
    apply List.pairwise_of_forall_mem_list
    intro first among second amongToo
    have number := (List.mem_filter.1 among).2
    have numberToo := (List.mem_filter.1 amongToo).2
    rw [decide_eq_true_eq] at number numberToo
    rw [before, number, numberToo, decide_eq_true_eq]
    exact UInt32.le_refl index
  have kept := (List.sublist_mergeSort before_trans before_total alike List.filter_sublist).filter
    (·.1 = index)
  rw [List.filter_filter, funext fun row => Bool.and_self _] at kept
  exact (kept.eq_of_length (((List.mergeSort_perm rows before).filter _).length_eq.symm)).symm

/-- Rows that are sorted are determined by the rows of each number. -/
theorem eq_of_sorted (sorted : rows.Pairwise fun first second => before first second = true)
    (sortedToo : others.Pairwise fun first second => before first second = true)
    (same : ∀ index, rows.filter (·.1 = index) = others.filter (·.1 = index)) : rows = others := by
  induction rows generalizing others with
  | nil =>
    cases others with
    | nil => rfl
    | cons other rest => simpa using same other.1
  | cons row rest ih =>
    cases others with
    | nil => simpa using same row.1
    | cons other restToo =>
      obtain ⟨ahead, tail⟩ := List.pairwise_cons.1 sorted
      obtain ⟨aheadToo, tailToo⟩ := List.pairwise_cons.1 sortedToo
      -- Each of the two first rows has its number in the other list, where nothing is smaller.
      have least : row.1 ≤ other.1 := by
        have among : other ∈ row :: rest := by
          refine (List.mem_filter.1 (?_ : other ∈ (row :: rest).filter (·.1 = other.1))).1
          rw [same]
          simp
        rcases List.mem_cons.1 among with rfl | among
        · exact UInt32.le_refl _
        · exact of_decide_eq_true (ahead other among)
      have leastToo : other.1 ≤ row.1 := by
        have among : row ∈ other :: restToo := by
          refine (List.mem_filter.1 (?_ : row ∈ (other :: restToo).filter (·.1 = row.1))).1
          rw [← same]
          simp
        rcases List.mem_cons.1 among with rfl | among
        · exact UInt32.le_refl _
        · exact of_decide_eq_true (aheadToo row among)
      have number : row.1 = other.1 := UInt32.le_antisymm least leastToo
      have first := same row.1
      rw [List.filter_cons_of_pos (by simp), List.filter_cons_of_pos (by simp [number])] at first
      obtain ⟨rfl, _⟩ := List.cons.inj first
      refine congrArg (row :: ·) (ih tail tailToo fun index => ?_)
      have there := same index
      simp only [List.filter_cons] at there
      split at there
      · exact (List.cons.inj there).2
      · exact there

/-- Sorting by number forgets all of the order but that of rows with the same number. -/
theorem mergeSort_eq_of_filter
    (same : ∀ index, rows.filter (·.1 = index) = others.filter (·.1 = index)) :
    rows.mergeSort before = others.mergeSort before := by
  apply eq_of_sorted (List.pairwise_mergeSort before_trans before_total rows)
    (List.pairwise_mergeSort before_trans before_total others)
  intro index
  rw [filter_mergeSort, filter_mergeSort, same]

end Sorting

namespace Handle

/-- The function that an entry leads to, with its number. -/
def located (handle : Handle) (files : FileSystem) (name : Name) : Option (UInt32 × Handle) :=
  (entryIndex? name).bind fun index =>
    (handle.followEntry files name).toOption.map fun function => (index, function)

theorem map_snd_leading (handle : Handle) (files : FileSystem) (names : List Name) :
    (handle.leading files names).map Prod.snd = names.filterMap (located handle files) := by
  rw [Handle.leading, List.map_filterMap]
  congr 1
  funext name
  rw [located]
  cases entryIndex? name with
  | none => rfl
  | some index => cases handle.followEntry files name <;> rfl

theorem filter_located (handle : Handle) (files : FileSystem) (names : List Name) (index : UInt32) :
    (names.filterMap (located handle files)).filter (·.1 = index) =
      (names.filter fun name => entryIndex? name = some index).filterMap (located handle files) := by
  rw [List.filter_filterMap, List.filterMap_filter]
  congr 1
  funext name
  rw [located]
  cases indexed : entryIndex? name with
  | none => simp
  | some number =>
    by_cases same : number = index
    · subst same
      cases handle.followEntry files name <;> simp [Except.toOption]
    · cases handle.followEntry files name <;> simp [Except.toOption, same]

end Handle

/-! ## What is the same below another root -/

/-- Two enumerations have found functions of the same addresses in the same order, and have skipped as many
entries as each other. -/
def Enumeration.Alike (found other : Enumeration) : Prop :=
  other.addresses = found.addresses ∧ other.skipped.length = found.skipped.length

/-- An error with another root in the path that it reports. -/
def DeviceError.rebase (root other : HostPath) : DeviceError → DeviceError
  | .io address path fault => .io address (root.rebase other path) fault
  | .parse address path content => .parse address (root.rebase other path) content
  | .resolution address path reason => .resolution address (root.rebase other path) reason
  | error => error

end Device

namespace Host.Site

open Device

/-- The function of an address below a site. -/
def function (site : Site) (address : String) : Handle :=
  ⟨address, .below site.root⟩

/-- A numbered function, moved to a site. -/
def moved (site : Site) (row : UInt32 × Handle) : UInt32 × Handle :=
  (row.1, site.function row.2.address)

/-- The names that lead from a site to the directory of a function. -/
def directoryNames (address : String) : List Name :=
  [Text.toBytes "devices", Text.toBytes address]

/-- The names that lead from a site to an entry of a function's directory. -/
def entryNames (address : String) (name : Name) : List Name :=
  [Text.toBytes "devices", Text.toBytes address, name]

/-- The names that lead from a site to an entry of a driver's directory. -/
def driverNames (driver name : String) : List Name :=
  [Text.toBytes "drivers", Text.toBytes driver, Text.toBytes name]

theorem directory_function (site : Site) (address : String) :
    (site.function address).directory = site.root.descend (directoryNames address) :=
  rfl

theorem entry_function (site : Site) (address name : String) :
    (site.function address).entry name = site.root.descend (entryNames address (Text.toBytes name)) :=
  rfl

-- A site can be looked at where everything is given.
instance (site : Site) (files : FileSystem) (permissions : Permissions) :
    Decidable (site.IsPlain files permissions) :=
  decidable_of_iff (files.find site.root = .ok (site.place, .directory permissions) ∧
      files.arrive linkLimit (files.start site.root) site.root.way = .ok (site.place, linkLimit) ∧
      files.caller.may permissions.search = true)
    ⟨fun ⟨found, direct, searchable⟩ => ⟨found, direct, searchable⟩,
      fun ⟨found, direct, searchable⟩ => ⟨found, direct, searchable⟩⟩

/-- The same tree stands at two sites, and its directories list the entries of one number in the same
order. -/
structure Mirrors (here there : Site) (files other : FileSystem) : Prop
    extends Shares here there files other where
  listing : ∀ below, below ≠ [] → ∀ index,
    (other.tree.children (below ++ there.place)).filter (fun name => entryIndex? name = some index) =
      (files.tree.children (below ++ here.place)).filter fun name => entryIndex? name = some index

namespace Mirrors

variable {here there : Site} {files other after afterToo : FileSystem}

/-- Two sites with the same rows below them mirror each other. -/
theorem of_inside {permissions permissionsToo : Permissions} (caller : other.caller = files.caller)
    (plain : here.IsPlain files permissions) (plainToo : there.IsPlain other permissionsToo)
    (writes : files.caller.may permissionsToo.write = files.caller.may permissions.write)
    (same : other.tree.inside there.place = files.tree.inside here.place)
    (encloses : files.encloses here.place = true) : Mirrors here there files other where
  caller := caller
  roots := ⟨permissions, permissionsToo, plain, plainToo, writes⟩
  content := fun below filled => by
    rw [← Tree.node?_inside _ _ filled, same, Tree.node?_inside _ _ filled]
  damage := fun below _ name => by
    rw [← Tree.damage?_inside, same, Tree.damage?_inside]
  enclosed := .of_encloses encloses
  listing := fun below _ index => by
    rw [← Tree.children_inside, same, Tree.children_inside]

/-- The names of one number are read in the same order. -/
theorem names_listed (mirrors : Mirrors here there files other) {below : List Name}
    (filled : below ≠ []) (index : UInt32) :
    ((other.tree.entries (below ++ there.place)).filterMap Entry.name?).filter
        (fun name => entryIndex? name = some index) =
      ((files.tree.entries (below ++ here.place)).filterMap Entry.name?).filter
        fun name => entryIndex? name = some index := by
  rw [Tree.names_entries, Tree.names_entries]
  simp only [mirrors.damage below filled]
  rw [List.filter_comm, mirrors.listing below filled index, List.filter_comm]

/-- What is put in the tree is listed in the same order. -/
theorem of_gains (mirrors : Mirrors here there files other)
    (gains : Shares.Gains here there files other after afterToo) : Mirrors here there after afterToo := by
  refine ⟨gains.shares, fun below filled index => ?_⟩
  obtain ⟨name, parent, node, put, putToo⟩ := gains.put
  have stands := mirrors.content (name :: parent) (by simp)
  rw [List.cons_append, List.cons_append] at stands
  rw [put, putToo, Tree.children_put, Tree.children_put, stands]
  have same {site : Location} : parent ++ site = below ++ site ↔ parent = below :=
    List.append_left_inj site
  simp only [same]
  split
  · rw [List.filter_append, List.filter_append, mirrors.listing below filled]
  · exact mirrors.listing below filled index

end Mirrors

/-! ## Queries -/

namespace Shares

variable {here there : Site} {files other : FileSystem} {address name : String} {names : List Name}

/-- A path down from one site is reported from the other with its own root. -/
theorem rebase_descend (shares : Shares here there files other) (filled : names ≠ [])
    (plain : ∀ name ∈ names, PlainName name) :
    here.root.rebase there.root (here.root.descend names) = there.root.descend names := by
  obtain ⟨_, _, one, two, _⟩ := shares.roots
  have accepted := HostPath.refusal?_eq_none_iff.1 (FileSystem.find_eq_ok_iff.1 one.found).1
  have acceptedToo := HostPath.refusal?_eq_none_iff.1 (FileSystem.find_eq_ok_iff.1 two.found).1
  exact HostPath.rebase_descend accepted.2.1 acceptedToo.2.1 filled plain

/-- A count is read alike. -/
theorem readCount (shares : Shares here there files other)
    (fits : Fits here there (entryNames address (Text.toBytes name))) :
    Corresponds (DeviceError.rebase here.root there.root) Eq
      ((here.function address).readCount name files) ((there.function address).readCount name other) := by
  unfold Handle.readCount
  dsimp only
  rw [entry_function, entry_function, shares.readText_eq fits,
    ← shares.rebase_descend fits.filled fits.plain]
  cases files.readText (here.root.descend (entryNames address (Text.toBytes name))) with
  | error fault => exact .error (DeviceError.io address _ fault)
  | ok text =>
    dsimp only
    cases Text.word? (Text.trim text.toList) with
    | none => exact .error (DeviceError.parse address _ _)
    | some count => exact .ok rfl

theorem linkName_eq (shares : Shares here there files other) (fits : Fits here there names) :
    Handle.linkName (there.root.descend names) other =
      Handle.linkName (here.root.descend names) files := by
  rw [Handle.linkName, Handle.linkName, shares.readLink_eq fits]

/-- A defect of a link is reported alike. -/
theorem rebase_linkError (shares : Shares here there files other) (fits : Fits here there names)
    (defect : LinkDefect) :
    ((here.function address).linkError (here.root.descend names) defect).rebase here.root there.root =
      (there.function address).linkError (there.root.descend names) defect := by
  rw [Handle.linkError, DeviceError.rebase, shares.rebase_descend fits.filled fits.plain]
  rfl

theorem boundDriver (shares : Shares here there files other)
    (fits : Fits here there (entryNames address (Text.toBytes driverEntry))) :
    Corresponds (DeviceError.rebase here.root there.root) Eq
      ((here.function address).boundDriver files) ((there.function address).boundDriver other) := by
  have found := shares.findLink fits
  have named : Corresponds id Eq
      (Handle.linkName (here.root.descend (entryNames address (Text.toBytes driverEntry))) files)
      (Handle.linkName (there.root.descend (entryNames address (Text.toBytes driverEntry))) other) := by
    rw [shares.linkName_eq fits]
    exact .refl _
  unfold Handle.boundDriver
  dsimp only
  rw [entry_function, entry_function]
  generalize files.findLink _ = one, other.findLink _ = two at found ⊢
  cases found with
  | error fault =>
    dsimp only [id]
    split
    · exact .ok rfl
    · exact .of_reason (by rw [DeviceError.rebase, shares.rebase_descend fits.filled fits.plain]; rfl)
  | ok _ => exact (named.mapError (shares.rebase_linkError fits)).map (congrArg some)

theorem iommuGroup (shares : Shares here there files other)
    (fits : Fits here there (entryNames address (Text.toBytes iommuGroupEntry))) :
    Corresponds (DeviceError.rebase here.root there.root) Eq
      ((here.function address).iommuGroup files) ((there.function address).iommuGroup other) := by
  rw [Handle.iommuGroup_eq, Handle.iommuGroup_eq, entry_function, entry_function,
    shares.linkName_eq fits]
  cases Handle.linkName (here.root.descend (entryNames address (Text.toBytes iommuGroupEntry))) files with
  | error defect => exact .of_reason (shares.rebase_linkError fits defect)
  | ok name =>
    dsimp only
    cases Text.word? name.toList with
    | none => exact .of_reason (shares.rebase_linkError fits _)
    | some group => exact .ok rfl

theorem netInterface (shares : Shares here there files other)
    (fits : Fits here there (entryNames address (Text.toBytes netEntry))) :
    Corresponds (DeviceError.rebase here.root there.root) Eq
      ((here.function address).netInterface files) ((there.function address).netInterface other) := by
  have listed := shares.list fits
  unfold Handle.netInterface
  dsimp only
  rw [entry_function, entry_function]
  generalize files.list _ = one, other.list _ = two at listed ⊢
  cases listed with
  | error fault =>
    dsimp only [id]
    split
    · exact .error _
    · exact .of_reason (by rw [DeviceError.rebase, shares.rebase_descend fits.filled fits.plain]; rfl)
  | ok listed =>
    obtain ⟨below, filled, rfl, rfl⟩ := listed
    dsimp only
    have read := shares.mapM_entries filled
    generalize (files.tree.entries (below ++ here.place)).mapM id = one,
      (other.tree.entries (below ++ there.place)).mapM id = two at read ⊢
    cases read with
    | error fault =>
      exact .of_reason (by rw [DeviceError.rebase, shares.rebase_descend fits.filled fits.plain]; rfl)
    | ok perm =>
      dsimp only
      have least := leastName?_congr fun _ => (perm.filter Text.isText).mem_iff.symm
      rw [least]
      generalize (leastName? _).bind Text.ofBytes? = least
      cases least with
      | none => exact .error _
      | some name => exact .ok rfl

/-- An entry that leads to a function leads to the function of the same address. -/
theorem followEntry (shares : Shares here there files other) {entry : Name}
    (fits : Fits here there (entryNames address entry)) :
    ((there.function address).followEntry other entry).toOption =
      ((here.function address).followEntry files entry).toOption.map
        fun found => there.function found.address := by
  have found := shares.findLink fits
  have leads := shares.canonical fits
  unfold Handle.followEntry
  dsimp only
  rw [show (here.function address).directory / (⟨entry⟩ : HostPath) =
      here.root.descend (entryNames address entry) from rfl,
    show (there.function address).directory / (⟨entry⟩ : HostPath) =
      there.root.descend (entryNames address entry) from rfl]
  generalize files.findLink _ = one, other.findLink _ = two at found ⊢
  generalize files.canonical _ = path, other.canonical _ = pathToo at leads ⊢
  cases found with
  | error fault => rfl
  | ok same =>
    obtain rfl | ⟨_, _, rfl, rfl⟩ := same
    · rename_i node
      cases node with
      | directory _ => rfl
      | file _ _ => rfl
      | link target =>
        cases leads with
        | error fault => rfl
        | ok leads =>
          obtain ⟨below, filled, plain, rfl, rfl⟩ := leads
          obtain ⟨name, parent, rfl⟩ := List.exists_cons_of_ne_nil filled
          have plainName := plain name List.mem_cons_self
          simp only [bind, Except.bind, mapError_ok, List.cons_append,
            Handle.fileName?_absolutePath plainName, Option.bind_some]
          cases Text.ofBytes? name <;> rfl
    · rfl

/-- The names that lead to the numbered entries of a function are no longer than the hosts accept. -/
def EntriesFit (here there : Site) (address : String) (names : List Name) : Prop :=
  ∀ name ∈ names, (entryIndex? name).isSome = true →
    Shares.Fits here there (entryNames address name)

/-- A directory is surveyed alike. -/
theorem survey (shares : Shares here there files other) {entries entriesToo : List Entry}
    (perm : entriesToo.Perm entries)
    (listing : ∀ index,
      (entriesToo.filterMap Entry.name?).filter (fun name => entryIndex? name = some index) =
        (entries.filterMap Entry.name?).filter fun name => entryIndex? name = some index)
    (fits : EntriesFit here there address (entries.filterMap Entry.name?)) :
    ((here.function address).survey files entries).Alike
      ((there.function address).survey other entriesToo) := by
  have rows (index : UInt32) :
      ((entriesToo.filterMap Entry.name?).filterMap
          ((there.function address).located other)).filter (·.1 = index) =
        (((entries.filterMap Entry.name?).filterMap
          ((here.function address).located files)).map there.moved).filter (·.1 = index) := by
    have keeps : (fun row : UInt32 × Handle => decide (row.1 = index)) ∘ there.moved =
        fun row => decide (row.1 = index) := rfl
    rw [Handle.filter_located, listing, List.filter_map, keeps, Handle.filter_located,
      List.map_filterMap]
    apply List.filterMap_congr
    intro name among
    obtain ⟨among, indexed⟩ := List.mem_filter.1 among
    rw [decide_eq_true_eq] at indexed
    rw [Handle.located, Handle.located, shares.followEntry (fits name among (by rw [indexed]; rfl)), indexed]
    cases (here.function address).followEntry files name <;> rfl
  have found : ((there.function address).survey other entriesToo).functions =
      ((here.function address).survey files entries).functions.map there.moved := by
    rw [Handle.functions_eq_mergeSort, Handle.functions_eq_mergeSort, Handle.map_snd_leading,
      Handle.map_snd_leading]
    have sorted := @List.map_mergeSort _ _ before before there.moved
      ((entries.filterMap Entry.name?).filterMap ((here.function address).located files))
      fun _ _ _ _ => rfl
    exact (mergeSort_eq_of_filter rows).trans sorted.symm
  constructor
  · rw [Enumeration.addresses, Enumeration.handles, found]
    simp [Enumeration.addresses, Enumeration.handles, moved, function]
  · have one := Handle.length_leading (here.function address) files entries
    have two := Handle.length_leading (there.function address) other entriesToo
    rw [← Handle.length_handles, Enumeration.handles, List.length_map] at one two
    have numbered : (numbered (entriesToo.filterMap Entry.name?)).length =
        (numbered (entries.filterMap Entry.name?)).length :=
      ((perm.filterMap _).filter _).length_eq
    have unread := (perm.filterMap Entry.fault?).length_eq
    rw [found, List.length_map] at two
    omega

end Shares

/-- The virtual functions of a function are found alike. -/
theorem Mirrors.virtualFunctions {here there : Site} {files other : FileSystem} {address : String}
    (mirrors : Mirrors here there files other)
    (fits : Shares.Fits here there (directoryNames address))
    (short : ∀ entries, files.list (here.function address).directory = .ok entries →
      Shares.EntriesFit here there address (entries.filterMap Entry.name?)) :
    Corresponds (DeviceError.rebase here.root there.root) Enumeration.Alike
      ((here.function address).virtualFunctions files)
      ((there.function address).virtualFunctions other) := by
  have listed := mirrors.list fits
  rw [directory_function] at short
  unfold Handle.virtualFunctions
  rw [directory_function, directory_function]
  generalize files.list _ = one, other.list _ = two at listed short ⊢
  cases listed with
  | error fault =>
    exact .of_reason (by rw [DeviceError.rebase, mirrors.rebase_descend fits.filled fits.plain]; rfl)
  | ok listed =>
    obtain ⟨below, filled, rfl, rfl⟩ := listed
    exact .ok (mirrors.toShares.survey (mirrors.perm_entries filled) (mirrors.names_listed filled)
      (short _ rfl))

end Host.Site
end SingleRoot
