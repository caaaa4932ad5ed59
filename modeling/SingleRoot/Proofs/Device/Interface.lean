/-
# The network interface of a function

A function shows its network interfaces as the entries of a directory, and the query answers one of them:
the least of the names that are text. `InterfaceTold` lists the ways in which that directory can be found,
with the answer to each, and does so without the search through the names. A directory of which an entry
cannot be read is one that cannot be listed. `interface_told` shows that the query answers just that. The
answer depends on which texts are listed and on how the listing fails, so the order of the listing is lost,
and so are the names that are no text. As a host may list its entries in every order,
`FileSystem.exists_reordered`, the statement about the order covers all orders of the entries.
-/
import SingleRoot.Device.Query
import SingleRoot.Proofs.Device.Links
import SingleRoot.Proofs.Device.Report
import SingleRoot.Proofs.Host.Listing

namespace SingleRoot.Device

open Host

/-! ## The least of some names -/

section Names

variable {names others : List Name}

theorem leastName?_eq_none_iff : leastName? names = none ↔ names = [] := by
  cases names with
  | nil => simp [leastName?]
  | cons name rest =>
    rw [leastName?]
    split <;> simp

theorem least_of_leastName? {least : Name} (found : leastName? names = some least) :
    least ∈ names ∧ ∀ name ∈ names, least ≤ name := by
  induction names generalizing least with
  | nil => cases found
  | cons name rest ih =>
    rw [leastName?] at found
    cases later : leastName? rest with
    | none =>
      simp only [later, Option.some.injEq] at found
      subst found
      simp [leastName?_eq_none_iff.1 later]
    | some other =>
      obtain ⟨among, least⟩ := ih later
      simp only [later, Option.some.injEq] at found
      subst found
      split
      · rename_i less
        exact ⟨List.mem_cons_of_mem _ among, List.forall_mem_cons.2 ⟨List.le_of_lt less, least⟩⟩
      · rename_i more
        refine ⟨List.mem_cons_self, List.forall_mem_cons.2 ⟨List.le_refl _, fun name there => ?_⟩⟩
        exact List.le_trans (List.not_lt.1 more) (least name there)

/-- The search finds the name that is among the names and is not above any of them. -/
theorem leastName?_eq_some_iff {least : Name} :
    leastName? names = some least ↔ least ∈ names ∧ ∀ name ∈ names, least ≤ name := by
  constructor
  · exact least_of_leastName?
  · rintro ⟨among, below⟩
    cases found : leastName? names with
    | none =>
      rw [leastName?_eq_none_iff.1 found] at among
      cases among
    | some other =>
      obtain ⟨amongToo, belowToo⟩ := least_of_leastName? found
      rw [List.le_antisymm (belowToo least among) (below other amongToo)]

/-- The least name depends on which names there are, and neither on their order nor on their number. -/
theorem leastName?_congr (same : ∀ name, name ∈ others ↔ name ∈ names) :
    leastName? others = leastName? names := by
  apply Option.ext
  intro least
  simp only [leastName?_eq_some_iff, same]

theorem mem_filter_isText_iff {name : Name} :
    name ∈ names.filter Text.isText ↔ ∃ text : String, Text.toBytes text ∈ names ∧ name = Text.toBytes text := by
  rw [List.mem_filter, Text.isText_iff]
  constructor
  · rintro ⟨among, text, rfl⟩
    exact ⟨text, among, rfl⟩
  · rintro ⟨text, among, rfl⟩
    exact ⟨among, text, rfl⟩

/-- The search through the names that are text finds the least text. -/
theorem leastText_eq_some_iff {text : String} :
    (leastName? (names.filter Text.isText)).bind Text.ofBytes? = some text ↔
      Text.toBytes text ∈ names ∧
        ∀ other : String, Text.toBytes other ∈ names → Text.toBytes text ≤ Text.toBytes other := by
  simp only [Option.bind_eq_some_iff, Text.ofBytes?_eq_some_iff, exists_eq_right,
    leastName?_eq_some_iff, mem_filter_isText_iff]
  constructor
  · rintro ⟨⟨_, among, same⟩, below⟩
    cases Text.toBytes_inj.1 same
    exact ⟨among, fun other listed => below _ ⟨other, listed, rfl⟩⟩
  · rintro ⟨among, below⟩
    refine ⟨⟨text, among, rfl⟩, ?_⟩
    rintro _ ⟨other, listed, rfl⟩
    exact below other listed

/-- It finds nothing exactly if no name is text. -/
theorem leastText_eq_none_iff :
    (leastName? (names.filter Text.isText)).bind Text.ofBytes? = none ↔
      ∀ text : String, Text.toBytes text ∉ names := by
  constructor
  · intro nothing text among
    cases found : leastName? (names.filter Text.isText) with
    | none =>
      have listed := mem_filter_isText_iff.2 ⟨text, among, rfl⟩
      rw [leastName?_eq_none_iff.1 found] at listed
      cases listed
    | some least =>
      obtain ⟨other, _, rfl⟩ := mem_filter_isText_iff.1 (leastName?_eq_some_iff.1 found).1
      rw [found, Option.bind_some, Text.ofBytes?_toBytes] at nothing
      cases nothing
  · intro other
    have empty : names.filter Text.isText = [] := by
      rw [List.eq_nil_iff_forall_not_mem]
      intro name listed
      obtain ⟨text, among, _⟩ := mem_filter_isText_iff.1 listed
      exact other text among
    rw [empty]
    rfl

end Names

namespace Handle

variable {handle : Handle} {files other : FileSystem} {names : List Name}
  {entries otherEntries : List Entry}

/-! ## The query -/

/-- A directory of which all entries can be read. -/
theorem netInterface_of_list (lists : files.list (handle.entry netEntry) = .ok (names.map .ok)) :
    handle.netInterface files =
      match (leastName? (names.filter Text.isText)).bind Text.ofBytes? with
      | some name => .ok name
      | none => .error (.notFound handle.address interfaceResource) := by
  unfold netInterface
  dsimp only
  rewrite [lists]
  dsimp only
  rewrite [Entry.mapM_id_eq_ok_iff.2 rfl]
  rfl

/-- A directory that cannot be listed as a whole. -/
theorem netInterface_of_fails {fault : Fault}
    (fails : files.FailsToList (handle.entry netEntry) fault) :
    handle.netInterface files =
      .error (if fault = .system .noSuchEntry then .notFound handle.address interfaceResource
        else .io handle.address (handle.entry netEntry) fault) := by
  unfold netInterface
  dsimp only
  cases fails with
  | closed unlisted =>
    rewrite [unlisted]
    simp only [FileSystem.isAbsence_iff_of_list unlisted]
  | @damaged entries lists among =>
    rewrite [lists]
    dsimp only
    obtain ⟨location, _, _, _, rfl⟩ := FileSystem.list_eq_ok_iff.1 lists
    rw [Entry.mapM_id_of_alike among fun _ => Tree.eq_of_error_mem among,
      if_neg (Tree.present_of_error_mem among)]

/-- Reporting a network interface changes neither the answer nor the files. -/
theorem run_reportNetInterface (handle : Handle) (machine : Machine) :
    ∃ after, after.files = machine.files ∧
      handle.reportNetInterface.run machine = (handle.netInterface machine.files, after) := by
  rw [reportNetInterface, Action.run_bind, Action.run_ask]
  cases handle.netInterface machine.files with
  | error error => exact ⟨machine, rfl, rfl⟩
  | ok interface =>
    exact ⟨{ machine with
      journal := machine.journal ++ [.interfaceRead handle.address interface] }, rfl, rfl⟩

theorem result_reportNetInterface (handle : Handle) (machine : Machine) :
    (handle.reportNetInterface.run machine).1 = handle.netInterface machine.files := by
  obtain ⟨_, _, ran⟩ := run_reportNetInterface handle machine
  rw [ran]

/-! ## What is told -/

/-- What the query for the network interface answers, by what is found in the place of the interfaces. -/
inductive InterfaceTold (handle : Handle) (files : FileSystem) : Except DeviceError String → Prop
  /-- Of the listed names that are text, the least by its bytes is told. -/
  | named {names : List Name} {interface : String}
      (lists : files.list (handle.entry netEntry) = .ok (names.map .ok))
      (among : Text.toBytes interface ∈ names)
      (least : ∀ other : String, Text.toBytes other ∈ names →
        Text.toBytes interface ≤ Text.toBytes other) :
      InterfaceTold handle files (.ok interface)
  /-- Where no text is listed, there is no interface. -/
  | nameless {names : List Name} (lists : files.list (handle.entry netEntry) = .ok (names.map .ok))
      (noText : ∀ text : String, Text.toBytes text ∉ names) :
      InterfaceTold handle files (.error (.notFound handle.address interfaceResource))
  /-- Nor is there one where the directory is absent. -/
  | absent (fails : files.FailsToList (handle.entry netEntry) (.system .noSuchEntry)) :
      InterfaceTold handle files (.error (.notFound handle.address interfaceResource))
  /-- A directory that cannot be listed for another reason is a fault of the host. -/
  | unlisted {fault : Fault} (fails : files.FailsToList (handle.entry netEntry) fault)
      (other : fault ≠ .system .noSuchEntry) :
      InterfaceTold handle files (.error (.io handle.address (handle.entry netEntry) fault))

theorem interfaceTold_netInterface (handle : Handle) (files : FileSystem) :
    handle.InterfaceTold files (handle.netInterface files) := by
  rcases files.lists_or_fails (handle.entry netEntry) with ⟨names, lists⟩ | ⟨fault, fails⟩
  · rw [netInterface_of_list lists]
    cases found : (leastName? (names.filter Text.isText)).bind Text.ofBytes? with
    | none => exact .nameless lists (leastText_eq_none_iff.1 found)
    | some interface =>
      obtain ⟨among, least⟩ := leastText_eq_some_iff.1 found
      exact .named lists among least
  · rw [netInterface_of_fails fails]
    split
    · rename_i absence
      subst absence
      exact .absent fails
    · rename_i present
      exact .unlisted fails present

theorem InterfaceTold.eq {answer : Except DeviceError String}
    (told : handle.InterfaceTold files answer) : handle.netInterface files = answer := by
  cases told with
  | named lists among least =>
    rw [netInterface_of_list lists, leastText_eq_some_iff.2 ⟨among, least⟩]
  | nameless lists noText => rw [netInterface_of_list lists, leastText_eq_none_iff.2 noText]
  | absent fails => rw [netInterface_of_fails fails, if_pos rfl]
  | unlisted fails other => rw [netInterface_of_fails fails, if_neg other]

/-! ## What the answer depends on -/

/-- Directories that list the same texts and fail alike give the same answer. -/
theorem netInterface_congr (lists : files.list (handle.entry netEntry) = .ok entries)
    (listsToo : other.list (handle.entry netEntry) = .ok otherEntries)
    (texts : ∀ text : String,
      .ok (Text.toBytes text) ∈ otherEntries ↔ .ok (Text.toBytes text) ∈ entries)
    (faults : ∀ fault, .error fault ∈ otherEntries ↔ .error fault ∈ entries) :
    handle.netInterface other = handle.netInterface files := by
  by_cases fails : ∃ fault, .error fault ∈ entries
  · obtain ⟨fault, among⟩ := fails
    rw [netInterface_of_fails (.damaged lists among),
      netInterface_of_fails (.damaged listsToo ((faults fault).2 among))]
  · have sound : ∀ fault, .error fault ∉ entries := fun fault among => fails ⟨fault, among⟩
    obtain ⟨names, rfl⟩ := Entry.exists_names_of_sound sound
    obtain ⟨otherNames, rfl⟩ := Entry.exists_names_of_sound fun fault among =>
      sound fault ((faults fault).1 among)
    have same (text : String) : Text.toBytes text ∈ otherNames ↔ Text.toBytes text ∈ names := by
      simpa using texts text
    have least : leastName? (otherNames.filter Text.isText) =
        leastName? (names.filter Text.isText) := by
      apply leastName?_congr
      intro name
      simp only [mem_filter_isText_iff, same]
    rw [netInterface_of_list listsToo, netInterface_of_list lists, least]

/-- The order of the listing does not matter, be there one or not. -/
theorem netInterface_of_reordered (same : files.Reordered other) :
    handle.netInterface other = handle.netInterface files := by
  cases listed : files.list (handle.entry netEntry) with
  | error fault =>
    rw [netInterface_of_fails (.closed listed),
      netInterface_of_fails (.closed (same.list_eq_error listed))]
  | ok entries =>
    obtain ⟨reordered, listsToo, perm⟩ := same.perm_of_list listed
    exact netInterface_congr listed listsToo (fun _ => perm.mem_iff) fun _ => perm.mem_iff

/-- The query answers exactly what the listing tells: the least text in it, whatever the order in which the
entries are listed and whatever names there are that are no text, and otherwise why there is none. -/
theorem interface_told (handle : Handle) (machine : Machine) :
    (∀ answer, (handle.reportNetInterface.run machine).1 = answer ↔
      handle.InterfaceTold machine.files answer) ∧
    (∀ other : Machine, machine.files.Reordered other.files →
      (handle.reportNetInterface.run other).1 = (handle.reportNetInterface.run machine).1) ∧
    ∀ entries, machine.files.list (handle.entry netEntry) = .ok entries →
      (∀ order : List Entry, order.Perm entries →
        ∃ files, machine.files.Reordered files ∧ files.list (handle.entry netEntry) = .ok order) ∧
      ∀ (other : Machine) (otherEntries : List Entry),
        other.files.list (handle.entry netEntry) = .ok otherEntries →
        (∀ text : String,
          .ok (Text.toBytes text) ∈ otherEntries ↔ .ok (Text.toBytes text) ∈ entries) →
        (∀ fault, .error fault ∈ otherEntries ↔ .error fault ∈ entries) →
        (handle.reportNetInterface.run other).1 = (handle.reportNetInterface.run machine).1 := by
  simp only [result_reportNetInterface]
  refine ⟨fun answer => ⟨?_, InterfaceTold.eq⟩, fun other same => netInterface_of_reordered same,
    fun entries lists => ⟨fun order perm => FileSystem.exists_reordered lists perm, ?_⟩⟩
  · rintro rfl
    exact interfaceTold_netInterface handle machine.files
  · intro other otherEntries listsToo texts faults
    exact netInterface_congr lists listsToo texts faults

end Handle

/-! ## A directory of interfaces -/

namespace Sample

/-- A name that is no text, and less than all names of interfaces. -/
def noise : Name := [0x61, 0xFF]

/-- An entry of the directory of interfaces. -/
def interfacePlace (name : Name) : Location :=
  name :: place ["devices", address, "net"]

/-- A function with two interfaces, the greater one listed first, and an entry whose name is no text. -/
def interfaces : FileSystem :=
  ⟨{ rows := [(place ["devices"], .directory .newDirectory),
      (place ["devices", address], .directory .newDirectory),
      (place ["devices", address, "net"], .directory .newDirectory),
      (interfacePlace (Text.toBytes "ens1f1"), .directory .newDirectory),
      (interfacePlace noise, .directory .newDirectory),
      (interfacePlace (Text.toBytes "ens1f0"), .directory .newDirectory)] },
    [], .owner⟩

/-- The same host, listed the other way round. -/
def turnedInterfaces : FileSystem :=
  interfaces.withTree { interfaces.tree with rows := interfaces.tree.rows.reverse }

/-- The host without the entry whose name is no text. -/
def plainInterfaces : FileSystem :=
  interfaces.withTree (interfaces.tree.remove (interfacePlace noise))

/-- The host that fails to read that entry. -/
def spoiltInterfaces : FileSystem :=
  interfaces.withTree (interfaces.tree.spoil (place ["devices", address, "net"]) (failing noise))

end Sample

open Sample in
/-- The function answers with the lesser of its two interfaces, in both orders and also when the third entry
has been removed, but not when it cannot be read. -/
theorem interface_told_sample :
    let handle : Handle := ⟨address, layout⟩
    let entries : List Entry := [Text.toBytes "ens1f1", noise, Text.toBytes "ens1f0"].map .ok
    let texts : List Entry := [Text.toBytes "ens1f1", Text.toBytes "ens1f0"].map .ok
    interfaces.list (handle.entry netEntry) = .ok entries ∧
      interfaces.Reordered turnedInterfaces ∧
      plainInterfaces.list (handle.entry netEntry) = .ok texts ∧
      handle.InterfaceTold interfaces (.ok "ens1f0") ∧
      (handle.reportNetInterface.run (.start turnedInterfaces)).1 = .ok "ens1f0" ∧
      (handle.reportNetInterface.run (.start plainInterfaces)).1 = .ok "ens1f0" ∧
      handle.InterfaceTold spoiltInterfaces
        (.error (.io address (handle.entry netEntry) (.system .inputOutput))) ∧
      ∃ files, interfaces.Reordered files ∧
        files.list (handle.entry netEntry) = .ok entries.reverse := by
  intro handle entries texts
  have lists : interfaces.list (handle.entry netEntry) = .ok entries := by
    decide +kernel
  have turned : interfaces.Reordered turnedInterfaces :=
    FileSystem.reordered_of_perm (List.reverse_perm _).symm (by decide +kernel)
  have listsPlain : plainInterfaces.list (handle.entry netEntry) = .ok texts := by
    decide +kernel
  have answers : (handle.reportNetInterface.run (.start interfaces)).1 = .ok "ens1f0" := by
    decide +kernel
  have same (text : String) : .ok (Text.toBytes text) ∈ texts ↔ .ok (Text.toBytes text) ∈ entries := by
    have other : Text.toBytes text ≠ noise := by
      intro spells
      have reads := Text.isText_toBytes text
      rw [spells] at reads
      revert reads
      decide
    simp [texts, entries, other]
  obtain ⟨tells, reorders, listings⟩ := Handle.interface_told handle (.start interfaces)
  obtain ⟨orders, congruent⟩ := listings entries lists
  refine ⟨lists, turned, listsPlain, (tells _).1 answers, ?_, ?_, ?_,
    orders _ (List.reverse_perm entries)⟩
  · exact (reorders (.start turnedInterfaces) turned).trans answers
  · exact (congruent (.start plainInterfaces) texts listsPlain same (by simp [texts, entries])).trans
      answers
  · exact ((Handle.interface_told handle (.start spoiltInterfaces)).1 _).1 (by decide +kernel)

end SingleRoot.Device
