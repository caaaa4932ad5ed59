/-
# What a link tells

Two queries are answered by a link in the directory of the function: the driver and the IOMMU group. What
the link leads to does not matter to them, only its target as it is written. This module lists the ways in
which such a link can be found, with what each query then answers, and shows that the queries answer just
that. The name of a target is told by its bytes, see `SingleRoot.Proofs.Host.Endings`.
-/
import SingleRoot.Proofs.Device.Driver
import SingleRoot.Proofs.Host.Endings
import SingleRoot.Proofs.Text.Encoding
import SingleRoot.Proofs.Text.Numerals

namespace SingleRoot

open Host

namespace Host

/-- The name that the target of a link ends in, which is text. -/
def HostPath.EndsIn (target : HostPath) (name : String) : Prop :=
  PlainName (Text.toBytes name) ∧ target.EndsWith (Text.toBytes name)

/-- A name is read off a target exactly if the target ends in it. -/
theorem HostPath.bind_fileName?_eq_some_iff {target : HostPath} {name : String} :
    target.fileName?.bind Text.ofBytes? = some name ↔ target.EndsIn name := by
  simp only [Option.bind_eq_some_iff, Text.ofBytes?_eq_some_iff, exists_eq_right,
    HostPath.fileName?_eq_some_iff, HostPath.EndsIn]

/-- A walk fails with an error number, and a path that never reaches the host with a NUL byte. Of these only
one fault says that nothing is there. -/
theorem Fault.isAbsence_iff_of_walk {α : Type} {path : HostPath} {walked : Except Errno α}
    {fault : Fault}
    (failed : (match path.refusal? with
      | some fault => Except.error fault
      | none => walked.mapError Fault.system) = .error fault) :
    fault.isAbsence = true ↔ fault = .system .noSuchEntry := by
  have kinds : fault = .nulInPath ∨ ∃ errno, fault = .system errno := by
    cases refused : path.refusal? with
    | some other =>
      rw [refused] at failed
      cases failed
      rw [HostPath.refusal?] at refused
      split at refused
      · cases refused
        exact .inl rfl
      split at refused
      · cases refused
        exact .inr ⟨_, rfl⟩
      split at refused
      · cases refused
        exact .inr ⟨_, rfl⟩
      · cases refused
    | none =>
      rw [refused] at failed
      cases walked with
      | ok found => simp at failed
      | error errno =>
        cases failed
        exact .inr ⟨errno, rfl⟩
  rcases kinds with rfl | ⟨errno, rfl⟩
  · decide
  · simp [Fault.isAbsence]

theorem FileSystem.isAbsence_iff_of_findLink {files : FileSystem} {path : HostPath} {fault : Fault}
    (unseen : files.findLink path = .error fault) :
    fault.isAbsence = true ↔ fault = .system .noSuchEntry := by
  rw [findLink_eq] at unseen
  exact Fault.isAbsence_iff_of_walk unseen

theorem FileSystem.isAbsence_iff_of_list {files : FileSystem} {path : HostPath} {fault : Fault}
    (unlisted : files.list path = .error fault) :
    fault.isAbsence = true ↔ fault = .system .noSuchEntry := by
  rw [list] at unlisted
  cases found : files.find path with
  | error other =>
    rw [found] at unlisted
    cases unlisted
    rw [find_eq] at found
    exact Fault.isAbsence_iff_of_walk found
  | ok place =>
    -- What is found and cannot be listed is there.
    obtain ⟨location, node⟩ := place
    rw [found] at unlisted
    simp only [bind, Except.bind] at unlisted
    split at unlisted
    · split at unlisted
      · cases unlisted
      · cases unlisted
        decide
    · cases unlisted
      decide

end Host

namespace Device

/-- What is wrong with what stands in the place of a link that should have a name. -/
inductive Defective : Node → LinkDefect → Prop
  | noLink {node : Node} (other : ∀ target, node ≠ .link target) :
      Defective node (.unreadable (.system .invalidArgument))
  | climbing {target : HostPath} (ends : target.EndsWith doubleDot) :
      Defective (.link target) (.nameless target)
  | bare {target : HostPath} (bare : target.IsBare) : Defective (.link target) (.nameless target)
  | garbled {target : HostPath} {name : Name} (plain : PlainName name) (ends : target.EndsWith name)
      (noText : ∀ text, name ≠ Text.toBytes text) : Defective (.link target) (.nameless target)

namespace Handle

variable {handle : Handle} {files : FileSystem} {path target : HostPath}

/-- A link is defective exactly if no name that is text can be read off its target. -/
theorem defective_link_iff {defect : LinkDefect} :
    Defective (.link target) defect ↔
      target.fileName?.bind Text.ofBytes? = none ∧ defect = .nameless target := by
  constructor
  · intro defective
    cases defective with
    | noLink other => exact absurd rfl (other target)
    | climbing ends => simp [HostPath.fileName?_eq_none_iff.2 (.inl ends)]
    | bare bare => simp [HostPath.fileName?_eq_none_iff.2 (.inr bare)]
    | @garbled _ name plain ends noText =>
      rw [HostPath.fileName?_eq_some_iff.2 ⟨plain, ends⟩, Option.bind_some]
      refine ⟨Option.eq_none_iff_forall_ne_some.2 ?_, rfl⟩
      intro text reads
      exact noText text (Text.ofBytes?_eq_some_iff.1 reads)
  · rintro ⟨nameless, rfl⟩
    cases named : target.fileName? with
    | none =>
      rcases HostPath.fileName?_eq_none_iff.1 named with ends | bare
      · exact .climbing ends
      · exact .bare bare
    | some name =>
      obtain ⟨plain, ends⟩ := HostPath.fileName?_eq_some_iff.1 named
      rw [named, Option.bind_some] at nameless
      apply Defective.garbled plain ends
      rintro text rfl
      rw [Text.ofBytes?_toBytes] at nameless
      cases nameless

/-- The name of a link is what its target ends in. -/
theorem linkName_eq_ok_iff_endsIn {name : String} :
    linkName path files = .ok name ↔
      ∃ target, files.findLink path = .ok (.link target) ∧ target.EndsIn name := by
  simp only [← HostPath.bind_fileName?_eq_some_iff]
  exact linkName_eq_ok_iff

/-- What is seen and has no name has one of the defects. -/
theorem linkName_eq_error_iff {node : Node} {defect : LinkDefect}
    (seen : files.findLink path = .ok node) :
    linkName path files = .error defect ↔ Defective node defect := by
  rw [linkName, FileSystem.readLink, seen]
  cases node with
  | directory permissions =>
    constructor
    · rintro ⟨⟩
      exact .noLink (by simp)
    · rintro ⟨⟩
      rfl
  | file permissions content =>
    constructor
    · rintro ⟨⟩
      exact .noLink (by simp)
    · rintro ⟨⟩
      rfl
  | link target =>
    rw [defective_link_iff]
    simp only [bind, Except.bind]
    cases target.fileName?.bind Text.ofBytes? with
    | some name => simp
    | none => simp [eq_comm]

/-! ## The driver -/

/-- What the query for the driver answers, by what stands in the place of its link. -/
inductive DriverTold (handle : Handle) (files : FileSystem) :
    Except DeviceError (Option String) → Prop
  /-- Without a link the function has no driver. -/
  | unbound
      (absent : files.findLink (handle.entry driverEntry) = .error (.system .noSuchEntry)) :
      DriverTold handle files (.ok none)
  /-- The link names the driver, whether the driver is there or not. -/
  | bound {target : HostPath} {driver : String}
      (linked : files.findLink (handle.entry driverEntry) = .ok (.link target))
      (ends : target.EndsIn driver) : DriverTold handle files (.ok (some driver))
  /-- A look that fails in another way is a fault of the host. -/
  | unseen {fault : Fault}
      (unseen : files.findLink (handle.entry driverEntry) = .error fault)
      (other : fault ≠ .system .noSuchEntry) :
      DriverTold handle files (.error (.io handle.address (handle.entry driverEntry) fault))
  /-- What is seen there and has no name resolves to no driver. -/
  | defective {node : Node} {defect : LinkDefect}
      (seen : files.findLink (handle.entry driverEntry) = .ok node)
      (defective : Defective node defect) :
      DriverTold handle files
        (.error (.resolution handle.address (handle.entry driverEntry) defect.reason))

theorem driverTold_boundDriver (handle : Handle) (files : FileSystem) :
    handle.DriverTold files (handle.boundDriver files) := by
  rw [boundDriver_eq]
  cases looked : files.findLink (handle.entry driverEntry) with
  | error fault =>
    dsimp only
    split
    · rename_i absence
      rw [FileSystem.isAbsence_iff_of_findLink looked] at absence
      subst absence
      exact .unbound looked
    · rename_i present
      rw [FileSystem.isAbsence_iff_of_findLink looked] at present
      exact .unseen looked present
  | ok node =>
    cases named : linkName (handle.entry driverEntry) files with
    | ok name =>
      obtain ⟨target, linked, ends⟩ := linkName_eq_ok_iff_endsIn.1 named
      exact .bound linked ends
    | error defect => exact .defective looked ((linkName_eq_error_iff looked).1 named)

theorem DriverTold.eq {answer : Except DeviceError (Option String)}
    (told : handle.DriverTold files answer) : handle.boundDriver files = answer := by
  rw [boundDriver_eq]
  cases told with
  | unbound absent =>
    rw [absent]
    rfl
  | bound linked ends =>
    rw [linked, linkName_eq_ok_iff_endsIn.2 ⟨_, linked, ends⟩]
    rfl
  | unseen unseen other =>
    rw [unseen]
    exact if_neg fun absence => other ((FileSystem.isAbsence_iff_of_findLink unseen).1 absence)
  | defective seen defective =>
    rw [seen, (linkName_eq_error_iff seen).2 defective]
    rfl

/-! ## The IOMMU group -/

/-- What the query for the IOMMU group answers, by what stands in the place of its link. -/
inductive GroupTold (handle : Handle) (files : FileSystem) : Except DeviceError UInt32 → Prop
  /-- The link is named for the number of the group. -/
  | grouped {target : HostPath} {numeral : String} {group : UInt32}
      (linked : files.findLink (handle.entry iommuGroupEntry) = .ok (.link target))
      (ends : target.EndsIn numeral) (spells : Text.IsNumeral numeral.toList group.toNat) :
      GroupTold handle files (.ok group)
  /-- The link has a name that is no number, or the number is too large. -/
  | misnamed {target : HostPath} {name : String}
      (linked : files.findLink (handle.entry iommuGroupEntry) = .ok (.link target))
      (ends : target.EndsIn name)
      (other : ∀ group : UInt32, ¬ Text.IsNumeral name.toList group.toNat) :
      GroupTold handle files (.error (.resolution handle.address (handle.entry iommuGroupEntry)
        (LinkDefect.notANumber name).reason))
  /-- A link that cannot be seen resolves to no group, be it absent or not. -/
  | unseen {fault : Fault}
      (unseen : files.findLink (handle.entry iommuGroupEntry) = .error fault) :
      GroupTold handle files (.error (.resolution handle.address (handle.entry iommuGroupEntry)
        (LinkDefect.unreadable fault).reason))
  /-- What is seen there and has no name resolves to no group. -/
  | defective {node : Node} {defect : LinkDefect}
      (seen : files.findLink (handle.entry iommuGroupEntry) = .ok node)
      (defective : Defective node defect) :
      GroupTold handle files
        (.error (.resolution handle.address (handle.entry iommuGroupEntry) defect.reason))

theorem groupTold_iommuGroup (handle : Handle) (files : FileSystem) :
    handle.GroupTold files (handle.iommuGroup files) := by
  cases looked : files.findLink (handle.entry iommuGroupEntry) with
  | error fault =>
    rw [iommuGroup_of_defect (linkName_of_unseen looked)]
    exact .unseen looked
  | ok node =>
    cases named : linkName (handle.entry iommuGroupEntry) files with
    | error defect =>
      rw [iommuGroup_of_defect named]
      exact .defective looked ((linkName_eq_error_iff looked).1 named)
    | ok name =>
      obtain ⟨target, linked, ends⟩ := linkName_eq_ok_iff_endsIn.1 named
      rw [iommuGroup_of_named named]
      cases reads : Text.word? name.toList with
      | some group => exact .grouped linked ends (Text.word?_eq_some_iff.1 reads)
      | none =>
        apply GroupTold.misnamed linked ends
        intro group spells
        cases reads.symm.trans (Text.word?_eq_some_iff.2 spells)

theorem GroupTold.eq {answer : Except DeviceError UInt32} (told : handle.GroupTold files answer) :
    handle.iommuGroup files = answer := by
  cases told with
  | grouped linked ends spells =>
    rw [iommuGroup_of_named (linkName_eq_ok_iff_endsIn.2 ⟨_, linked, ends⟩),
      Text.word?_eq_some_iff.2 spells]
  | @misnamed _ name linked ends other =>
    have unread : Text.word? name.toList = none := by
      apply Option.eq_none_iff_forall_ne_some.2
      intro group reads
      exact other group (Text.word?_eq_some_iff.1 reads)
    rw [iommuGroup_of_named (linkName_eq_ok_iff_endsIn.2 ⟨_, linked, ends⟩), unread]
    rfl
  | unseen unseen => exact iommuGroup_of_defect (linkName_of_unseen unseen)
  | defective seen defective =>
    exact iommuGroup_of_defect ((linkName_eq_error_iff seen).2 defective)

/-- Both queries answer exactly what their link tells. -/
theorem links_told (handle : Handle) (files : FileSystem) :
    (∀ answer, handle.boundDriver files = answer ↔ handle.DriverTold files answer) ∧
      ∀ answer, handle.iommuGroup files = answer ↔ handle.GroupTold files answer := by
  constructor
  · intro answer
    constructor
    · rintro rfl
      exact driverTold_boundDriver handle files
    · exact DriverTold.eq
  · intro answer
    constructor
    · rintro rfl
      exact groupTold_iommuGroup handle files
    · exact GroupTold.eq

end Handle
end Device
end SingleRoot
