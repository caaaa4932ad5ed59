/-
# What an opening guarantees

A handle that has been opened has a well-formed address, and something stands under that address below the
devices root. The functions of an enumeration come with handles that nobody has opened: each bears the last
name of the place where a numbered link of the directory leads, wherever that place is. This module says
when these handles meet what an opening guarantees of one, and so could have been opened themselves.

They do as long as the links lead to the devices root: then the last name is one of its entries. A link may
lead out of it, to a place with any name. The handle then has that name for its address, which need be no
address, or none that the devices root knows.
-/
import SingleRoot.Proofs.Device.Confinement
import SingleRoot.Proofs.Host.Parents

namespace SingleRoot.Device.Handle

open Host

variable {handle function : Handle} {files : FileSystem} {machine : Machine}
  {enumeration : Enumeration}

/-- What an opening on a host comes to. -/
theorem ofAddress_cases (files : FileSystem) (layout : Layout) (address : String) :
    Handle.ofAddress files layout address =
      if Pci.isAddressText address = false then .error (.invalidAddress address)
      else if files.holds (layout.deviceDirectory address) then .ok ⟨address, layout⟩
      else .error (.notFound address deviceResource) := by
  rw [Handle.ofAddress, checkAddress]
  cases Pci.isAddressText address <;> rfl

/-- What an opening guarantees of its handle. -/
structure Openable (handle : Handle) (files : FileSystem) : Prop where
  valid : Pci.isAddressText handle.address = true
  present : files.holds handle.directory = true

/-- An opening guarantees this and asks for nothing else. -/
theorem openable_iff :
    handle.Openable files ↔ Handle.ofAddress files handle.layout handle.address = .ok handle := by
  rw [ofAddress_cases]
  constructor
  · rintro ⟨valid, present⟩
    rw [if_neg (by simp [valid])]
    exact if_pos present
  · intro opens
    split at opens
    · cases opens
    rename_i valid
    split at opens
    · exact ⟨by simpa using valid, ‹_›⟩
    · cases opens

/-! ## Where the links lead -/

/-- A numbered entry of the function's directory is a link, and it leads to a place. -/
structure LinksTo (handle : Handle) (files : FileSystem) (name : Name) (place : Location) : Prop where
  listed : ∃ entries, files.list handle.directory = .ok entries ∧ .ok name ∈ entries
  numbered : IsNumbered name
  linked : ∃ target, files.findLink (handle.directory / (⟨name⟩ : HostPath)) = .ok (.link target)
  found : ∃ node, files.find (handle.directory / (⟨name⟩ : HostPath)) = .ok (place, node)

/-- The path of a place ends in an address. -/
def EndsIn (place : Location) (address : String) : Prop :=
  (FileSystem.absolutePath place).fileName? = some (Text.toBytes address)

instance (place : Location) (address : String) : Decidable (EndsIn place address) :=
  inferInstanceAs (Decidable (_ = _))

theorem mem_survey_iff {entries : List Entry} :
    function ∈ (handle.survey files entries).handles ↔
      ∃ name, .ok name ∈ entries ∧ IsNumbered name ∧ handle.Leads files name function := by
  simp only [← Entry.mem_names_iff]
  rw [Enumeration.handles, functions_eq, List.map_map, List.mem_map]
  constructor
  · rintro ⟨⟨name, index, _⟩, among, rfl⟩
    obtain ⟨there, indexed, leads⟩ := mem_leading ((perm_byIndex _).mem_iff.1 among)
    exact ⟨name, there, isSome_entryIndex?_iff.1 (by simp [indexed]), leads⟩
  · rintro ⟨name, there, numbered, leads⟩
    obtain ⟨index, indexed⟩ := Option.isSome_iff_exists.1 (isSome_entryIndex?_iff.2 numbered)
    refine ⟨(name, index, function), (perm_byIndex _).mem_iff.2 ?_, rfl⟩
    apply List.mem_filterMap.2
    refine ⟨name, there, ?_⟩
    rw [indexed, followEntry_eq_ok_iff.2 leads]
    rfl

/-- The functions of an enumeration are those that bear the names of the places where the numbered links
lead. -/
theorem mem_handles_iff (enumerated : (handle.enumerate.run machine).1 = .ok enumeration) :
    function ∈ enumeration.handles ↔ function.layout = handle.layout ∧
      ∃ name place, handle.LinksTo machine.files name place ∧ EndsIn place function.address := by
  rw [result_enumerate, virtualFunctions] at enumerated
  cases lists : machine.files.list handle.directory with
  | error fault => simp [lists] at enumerated
  | ok entries =>
    simp only [lists, Except.ok.injEq] at enumerated
    subst enumerated
    rw [mem_survey_iff]
    constructor
    · rintro ⟨name, among, numbered, linked, resolved, resolves, ends, layout⟩
      obtain ⟨place, node, found, rfl⟩ := FileSystem.canonical_eq_ok_iff.1 resolves
      exact ⟨layout, name, place, ⟨⟨entries, lists, among⟩, numbered, linked, node, found⟩, ends⟩
    · rintro ⟨layout, name, place, ⟨⟨others, listsToo, among⟩, numbered, linked, node, found⟩, ends⟩
      cases lists.symm.trans listsToo
      exact ⟨name, among, numbered, linked, _,
        FileSystem.canonical_eq_ok_iff.2 ⟨place, node, found, rfl⟩, ends, layout⟩

/-! ## Entries of the devices root -/

variable {root : Location} {address : String} {node : Node} {permissions : Permissions}

/-- A directory below the devices root can be opened under its address, if another one could: the root is
known to be searchable then, and the paths of both are of one length. -/
theorem openable_of_stands (opened : handle.Openable files)
    (rooted : files.find handle.layout.devicesRoot = .ok (root, node))
    (valid : Pci.isAddressText address = true)
    (stands : files.tree.node? (Text.toBytes address :: root) = some (.directory permissions)) :
    Openable ⟨address, handle.layout⟩ files := by
  have spelled := Pci.isNameText_of_isAddressText valid
  have spelledToo := Pci.isNameText_of_isAddressText opened.valid
  obtain ⟨⟨place, there⟩, found⟩ := FileSystem.holds_iff.1 opened.present
  obtain ⟨accepted, location, links, granted, arrives, inside, searchable⟩ :=
    FileSystem.entered_of_resolve spelledToo.plainName (FileSystem.resolve_of_find found)
  have atRoot : location = root := by
    obtain ⟨_, arrivesToo⟩ := FileSystem.arrive_way rooted
    cases arrives.symm.trans arrivesToo
    rfl
  subst atRoot
  have entry : files.entryIn location (Text.toBytes address) = .ok (.directory permissions) :=
    FileSystem.entryIn_eq_ok_iff.2 ⟨granted, inside, searchable, spelled.length_le, stands⟩
  have acceptedToo : (handle.layout.devicesRoot.join ⟨Text.toBytes address⟩).refusal? = none := by
    have sameLength := HostPath.length_join_eq handle.layout.devicesRoot spelled.plainName
      spelledToo.plainName (by rw [Pci.length_toBytes valid, Pci.length_toBytes opened.valid])
    obtain ⟨clean, _, short⟩ := HostPath.refusal?_eq_none_iff.1 accepted
    apply spelled.refusal?_join
    · intro among
      exact clean ((HostPath.zero_mem_join _ spelledToo.plainName).2 (.inl among))
    · exact sameLength ▸ short
  have foundToo := FileSystem.find_entry rooted spelled.plainName acceptedToo entry (by simp)
  exact ⟨valid, FileSystem.holds_iff.2 ⟨_, foundToo⟩⟩

/-- The handles of an enumeration could have been opened exactly as far as the numbered links lead to
places with names that are addresses and that the devices root has. Every link to a directory of the devices
root with such a name is among them. -/
theorem openable_of_enumerate (opened : handle.Openable machine.files)
    (enumerated : (handle.enumerate.run machine).1 = .ok enumeration) :
    ((∀ function ∈ enumeration.handles, function.Openable machine.files) ↔
      ∀ name place address, handle.LinksTo machine.files name place → EndsIn place address →
        Pci.isAddressText address = true ∧
          machine.files.holds (handle.layout.deviceDirectory address) = true) ∧
    (∀ function ∈ enumeration.handles, function.layout = handle.layout ∧
      ∃ name place, handle.LinksTo machine.files name place ∧ EndsIn place function.address) ∧
    ∀ name root there address permissions,
      handle.LinksTo machine.files name (Text.toBytes address :: root) →
      machine.files.find handle.layout.devicesRoot = .ok (root, there) →
      machine.files.tree.node? (Text.toBytes address :: root) = some (.directory permissions) →
      Pci.isAddressText address = true →
      ⟨address, handle.layout⟩ ∈ enumeration.handles ∧
        Openable ⟨address, handle.layout⟩ machine.files := by
  refine ⟨⟨?_, ?_⟩, fun function among => (mem_handles_iff enumerated).1 among, ?_⟩
  · intro all name place address links ends
    have among : (⟨address, handle.layout⟩ : Handle) ∈ enumeration.handles :=
      (mem_handles_iff enumerated).2 ⟨rfl, name, place, links, ends⟩
    exact ⟨(all _ among).valid, (all _ among).present⟩
  · intro known function among
    obtain ⟨layout, name, place, links, ends⟩ := (mem_handles_iff enumerated).1 among
    obtain ⟨valid, present⟩ := known name place function.address links ends
    refine ⟨valid, ?_⟩
    rw [directory, layout]
    exact present
  · intro name root there address permissions links rooted stands valid
    have ends : EndsIn (Text.toBytes address :: root) address :=
      fileName?_absolutePath (Pci.isNameText_of_isAddressText valid).plainName root
    exact ⟨(mem_handles_iff enumerated).2 ⟨rfl, name, _, links, ends⟩,
      openable_of_stands opened rooted valid stands⟩

end SingleRoot.Device.Handle

namespace SingleRoot.Device

open Host

open Sample in
/-- A link to an entry of the devices root gives a handle that could have been opened. -/
theorem openable_of_enumerate_sample :
    Handle.Openable ⟨address, layout⟩ disorder ∧
      ∃ enumeration, (Handle.enumerate ⟨address, layout⟩ |>.run (.start disorder)).1 =
          .ok enumeration ∧
        ⟨"0000:01:01.1", layout⟩ ∈ enumeration.handles ∧
        Handle.Openable ⟨"0000:01:01.1", layout⟩ disorder := by
  have opened : Handle.Openable ⟨address, layout⟩ disorder := ⟨by decide, by decide +kernel⟩
  have lists : disorder.list (Handle.directory ⟨address, layout⟩) = .ok entries := by
    decide +kernel
  have links : Handle.LinksTo ⟨address, layout⟩ disorder (Text.toBytes "virtfn9")
      (Text.toBytes "0000:01:01.1" :: place ["devices"]) :=
    ⟨⟨entries, lists, by decide⟩, by decide +kernel, ⟨.ofText "../0000:01:01.1", by decide +kernel⟩,
      .directory .newDirectory, by decide +kernel⟩
  have enumerated := Handle.enumerate_of_list (.start disorder) lists
  have opens := Handle.openable_of_enumerate opened enumerated
  have listed := opens.2.2 _ _ (.directory .newDirectory) _ .newDirectory links (by decide +kernel)
    (by decide +kernel) (by decide)
  exact ⟨opened, _, enumerated, listed⟩

namespace Sample

/-- A function with two virtual functions that stand outside the devices root, one of them under a name that
is no address. -/
def stray : FileSystem :=
  ⟨{ rows := [(place ["devices"], .directory .newDirectory),
      (place ["devices", address], .directory .newDirectory),
      (entry "virtfn0", .link (.ofText "../../elsewhere/0000:01:10.0")),
      (entry "virtfn1", .link (.ofText "../../elsewhere/function")),
      (place ["elsewhere"], .directory .newDirectory),
      (place ["elsewhere", "0000:01:10.0"], .directory .newDirectory),
      (place ["elsewhere", "function"], .directory .newDirectory)] },
    [], .owner⟩

end Sample

open Sample in
/-- An enumeration hands out handles that no opening would give. -/
theorem enumerated_not_openable :
    Handle.Openable ⟨address, layout⟩ stray ∧
      ∃ enumeration, (Handle.enumerate ⟨address, layout⟩ |>.run (.start stray)).1 =
          .ok enumeration ∧
        ⟨"0000:01:10.0", layout⟩ ∈ enumeration.handles ∧
        ¬ Handle.Openable ⟨"0000:01:10.0", layout⟩ stray ∧
        ⟨"function", layout⟩ ∈ enumeration.handles ∧
        ¬ Handle.Openable ⟨"function", layout⟩ stray := by
  have lists : stray.list (Handle.directory ⟨address, layout⟩) =
      .ok (["virtfn0", "virtfn1"].map fun name => .ok (Text.toBytes name)) := by
    decide +kernel
  have enumerated := Handle.enumerate_of_list (.start stray) lists
  have first : Handle.LinksTo ⟨address, layout⟩ stray (Text.toBytes "virtfn0")
      (place ["elsewhere", "0000:01:10.0"]) :=
    ⟨⟨_, lists, by decide⟩, by decide +kernel, ⟨.ofText "../../elsewhere/0000:01:10.0", by decide +kernel⟩,
      .directory .newDirectory, by decide +kernel⟩
  have second : Handle.LinksTo ⟨address, layout⟩ stray (Text.toBytes "virtfn1")
      (place ["elsewhere", "function"]) :=
    ⟨⟨_, lists, by decide⟩, by decide +kernel, ⟨.ofText "../../elsewhere/function", by decide +kernel⟩,
      .directory .newDirectory, by decide +kernel⟩
  refine ⟨⟨by decide, by decide +kernel⟩, _, enumerated, ?_, ?_, ?_, ?_⟩
  · exact (Handle.mem_handles_iff enumerated).2 ⟨rfl, _, _, first, by decide +kernel⟩
  · intro opened
    have absent : stray.holds (Handle.directory ⟨"0000:01:10.0", layout⟩) = false := by
      decide +kernel
    exact Bool.false_ne_true (absent.symm.trans opened.present)
  · exact (Handle.mem_handles_iff enumerated).2 ⟨rfl, _, _, second, by decide +kernel⟩
  · intro opened
    exact absurd opened.valid (by decide)

end SingleRoot.Device
