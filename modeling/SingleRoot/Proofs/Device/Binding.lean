/-
# What a rebind does to bindings

The link to a function's driver belongs to the kernel: a rebind never writes it, it only asks the kernel
to. This module says what the kernel has to do at each point of a rebind for the links to mean what they
should (`Serves`), and shows that the result of the rebind then tells which driver the function is bound
to afterwards, and that no other function is affected (`binding_of_rebind`).

Two things carry the proof. The files that a rebind writes have other names than the link, so its own
writes leave every link alone (`spares_of_tried`); this is where it matters that none of those files is
a link itself. And the own link is followed through the phases: it stays until the release, is gone from
then on, and can only come back as a link to the wanted driver.
-/
import SingleRoot.Proofs.Device.Report

namespace SingleRoot.Device

open Host

/-- The handles in use on one host, and the location of the directory of each address. Different
addresses have different directories, and handles with the same address do not differ in whether the
path to the link is one that the host accepts. -/
structure Housing where
  inUse : Handle → Prop
  home : String → Location
  apart : ∀ {first second : Handle}, inUse first → inUse second →
    home first.address = home second.address → first.address = second.address
  alike : ∀ {first second : Handle}, inUse first → inUse second → first.address = second.address →
    (first.entry driverEntry).refusal? = (second.entry driverEntry).refusal?

namespace Housing

section Definitions

variable (housing : Housing)

/-- The directories are where they are said to be. -/
def HoldsIn (files : FileSystem) : Prop :=
  ∀ handle, housing.inUse handle → ∃ permissions,
    files.find handle.directory = .ok (housing.home handle.address, .directory permissions)

/-- A change leaves the directories alone, and all links to drivers but the one in `own`. -/
structure Spares (own : Location) (before after : FileSystem) : Prop where
  caller : after.caller = before.caller
  workingDirectory : after.workingDirectory = before.workingDirectory
  homes : ∀ handle, housing.inUse handle →
    after.find handle.directory = before.find handle.directory
  others : ∀ handle, housing.inUse handle → housing.home handle.address ≠ own →
    after.tree.node? (Handle.driverName :: housing.home handle.address) =
      before.tree.node? (Handle.driverName :: housing.home handle.address)

end Definitions

/-- The handles of one layout on some addresses. -/
def under (layout : Layout) (addresses : String → Prop) (home : String → Location)
    (apart : ∀ first second, addresses first → addresses second → home first = home second →
      first = second) : Housing where
  inUse handle := handle.layout = layout ∧ addresses handle.address
  home := home
  apart used usedToo together := apart _ _ used.2 usedToo.2 together
  alike := by
    rintro ⟨address, first⟩ ⟨other, second⟩ used usedToo same
    have layouts : first = second := used.1.trans usedToo.1.symm
    have addresses : address = other := same
    rw [layouts, addresses]

/-- The driver that a node names, if it is a link. -/
def named? : Node → Option String
  | .link target => target.fileName?.bind Text.ofBytes?
  | _ => none

/-- The link in a directory names a driver. -/
def Linked (tree : Tree) (place : Location) (driver : String) : Prop :=
  (tree.node? (Handle.driverName :: place)).bind named? = some driver

/-- The link in a directory, or whatever else stands in its place, is as it was. -/
def Kept (place : Location) (before after : Tree) : Prop :=
  after.node? (Handle.driverName :: place) = before.node? (Handle.driverName :: place)

/-- A change leaves the directories and all links to drivers alone. -/
structure Rests (housing : Housing) (before after : FileSystem) : Prop where
  caller : after.caller = before.caller
  workingDirectory : after.workingDirectory = before.workingDirectory
  homes : ∀ handle, housing.inUse handle →
    after.find handle.directory = before.find handle.directory
  links : ∀ handle, housing.inUse handle →
    Kept (housing.home handle.address) before.tree after.tree

/-- What the kernel does to the link of a function that is being bound to a driver: it takes the link
away when the function is released, it may make the new link once the function is restricted, and
otherwise it leaves the link alone. -/
def Serves (driver : String) (own : Location) (disturbance : Disturbance) : Prop :=
  match disturbance.point with
  | .afterUnbind => disturbance.left.node? (Handle.driverName :: own) = none
  | .before .bind => Kept own disturbance.found disturbance.left ∨ Linked disturbance.left own driver
  | .before _ => Kept own disturbance.found disturbance.left

instance (tree : Tree) (place : Location) (driver : String) :
    Decidable (Linked tree place driver) :=
  inferInstanceAs (Decidable (_ = _))

instance (place : Location) (before after : Tree) : Decidable (Kept place before after) :=
  inferInstanceAs (Decidable (_ = _))

instance (driver : String) (own : Location) (disturbance : Disturbance) :
    Decidable (Serves driver own disturbance) :=
  match disturbance with
  | ⟨.afterUnbind, _, _⟩ => inferInstanceAs (Decidable (_ = _))
  | ⟨.before .bind, _, _⟩ => inferInstanceAs (Decidable (_ ∨ _))
  | ⟨.before .unbind, _, _⟩ => inferInstanceAs (Decidable (Kept _ _ _))
  | ⟨.before .override, _, _⟩ => inferInstanceAs (Decidable (Kept _ _ _))

/-- What is expected while `handle` is bound to a driver: of what the kernel does at the points that
are reached, and of the files that are written, none of which is a link. -/
structure Lawful (housing : Housing) (handle : Handle) (driver : String) (files : FileSystem)
    (hooks : List Disturbance) (made : List Attempt) : Prop where
  spares : ∀ disturbance ∈ hooks, housing.Spares (housing.home handle.address)
    (files.withTree disturbance.found) (files.withTree disturbance.left)
  serves : ∀ disturbance ∈ hooks, Serves driver (housing.home handle.address) disturbance
  noLinks : ∀ disturbance ∈ hooks, ∀ attempt ∈ made, ∀ target,
    (files.withTree disturbance.left).findLink attempt.path ≠ .ok (.link target)

variable {housing : Housing} {handle : Handle} {driver : String} {own : Location}

theorem linked_iff {tree : Tree} {place : Location} :
    Linked tree place driver ↔
      ∃ target, tree.node? (Handle.driverName :: place) = some (.link target) ∧
        target.fileName?.bind Text.ofBytes? = some driver := by
  rw [Linked]
  cases tree.node? (Handle.driverName :: place) with
  | none => simp
  | some node => cases node <;> simp [named?]

/-! ## Changes that spare the others -/

@[simp] theorem spares_refl (files : FileSystem) : housing.Spares own files files :=
  ⟨rfl, rfl, fun _ _ => rfl, fun _ _ _ => rfl⟩

theorem Rests.spares {before after : FileSystem} (rests : housing.Rests before after) :
    housing.Spares own before after :=
  ⟨rests.caller, rests.workingDirectory, rests.homes, fun handle used _ => rests.links handle used⟩

theorem Spares.trans {first second third : FileSystem} (former : housing.Spares own first second)
    (latter : housing.Spares own second third) : housing.Spares own first third where
  caller := latter.caller.trans former.caller
  workingDirectory := latter.workingDirectory.trans former.workingDirectory
  homes handle used := (latter.homes handle used).trans (former.homes handle used)
  others handle used away := (latter.others handle used away).trans (former.others handle used away)

theorem Spares.holdsIn {before after : FileSystem} (spares : housing.Spares own before after)
    (holds : housing.HoldsIn before) : housing.HoldsIn after := by
  intro handle used
  rw [spares.homes handle used]
  exact holds handle used

/-- What is spared differs from where it came from in its tree only. -/
theorem Spares.eq_withTree {before after : FileSystem} (spares : housing.Spares own before after) :
    after = before.withTree after.tree := by
  obtain ⟨tree, workingDirectory, caller⟩ := after
  obtain ⟨rfl, rfl⟩ := And.intro spares.caller spares.workingDirectory
  rfl

/-- A file of another name than the link is written without touching a link or a directory. -/
theorem spares_of_tried {base : HostPath} {name : Name} (plain : PlainName name)
    (other : name ≠ Handle.driverName) {content : String} {fault? : Option Fault}
    {before after : Machine} (tried : before.Tried (base.join ⟨name⟩) content fault? after)
    (noLink : ∀ target, before.files.findLink (base.join ⟨name⟩) ≠ .ok (.link target))
    (holds : housing.HoldsIn before.files) :
    housing.Spares own before.files after.files ∧ Kept own before.files.tree after.files.tree := by
  rcases tried.files with same | ⟨landing, ends, change⟩
  · rw [same]
    exact ⟨spares_refl _, rfl⟩
  · obtain ⟨parent, written⟩ := FileSystem.location_of_produce plain ends noLink
    have kept (place : Location) : Kept place before.files.tree after.files.tree := by
      apply change.elsewhere
      rw [written]
      intro same
      exact other (List.cons.inj same).1.symm
    refine ⟨⟨change.caller, change.workingDirectory, fun handle used => ?_, fun _ _ _ => kept _⟩,
      kept own⟩
    obtain ⟨permissions, found⟩ := holds handle used
    rw [found]
    exact change.find_directory_iff.2 found

theorem findLink_link_of_tried {path base : HostPath} {name : Name} (plain : PlainName name)
    {content : String} {fault? : Option Fault} {before after : Machine}
    (tried : before.Tried path content fault? after) {target : HostPath} :
    after.files.findLink (base.join ⟨name⟩) = .ok (.link target) ↔
      before.files.findLink (base.join ⟨name⟩) = .ok (.link target) := by
  rcases tried.files with same | ⟨landing, _, change⟩
  · rw [same]
  · exact change.findLink_link_iff plain

/-! ## The link through the phases -/

section Phases

variable {first : FileSystem} {before middle after : Machine} {fate further : Prop}

/-- A part of a rebind that began with the files `first`: as long as everything is lawful, it spares the
others and leads to what `fate` says. -/
def Leads (housing : Housing) (handle : Handle) (driver : String) (first : FileSystem)
    (before after : Machine) (fate : Prop) : Prop :=
  ∃ hooks made, after.disturbances = before.disturbances ++ hooks ∧
    after.attempts = before.attempts ++ made ∧
    (Lawful housing handle driver first hooks made →
      housing.Spares (housing.home handle.address) first before.files →
      housing.Spares (housing.home handle.address) first after.files ∧ fate)

theorem Lawful.mono {files : FileSystem} {hooks fewerHooks : List Disturbance}
    {made fewerMade : List Attempt} (lawful : Lawful housing handle driver files hooks made)
    (points : fewerHooks ⊆ hooks) (writes : fewerMade ⊆ made) :
    Lawful housing handle driver files fewerHooks fewerMade where
  spares disturbance among := lawful.spares disturbance (points among)
  serves disturbance among := lawful.serves disturbance (points among)
  noLinks disturbance among attempt made :=
    lawful.noLinks disturbance (points among) attempt (writes made)

theorem Leads.trans (former : Leads housing handle driver first before middle fate)
    (latter : Leads housing handle driver first middle after further) :
    Leads housing handle driver first before after (fate ∧ further) := by
  obtain ⟨hooks, made, points, writes, leads⟩ := former
  obtain ⟨moreHooks, moreMade, morePoints, moreWrites, leadsOn⟩ := latter
  refine ⟨hooks ++ moreHooks, made ++ moreMade, ?_, ?_, fun lawful sofar => ?_⟩
  · rw [morePoints, points, List.append_assoc]
  · rw [moreWrites, writes, List.append_assoc]
  · have lawfulHere := lawful.mono (List.subset_append_left _ _) (List.subset_append_left _ _)
    have lawfulThere := lawful.mono (List.subset_append_right _ _) (List.subset_append_right _ _)
    obtain ⟨spared, fate⟩ := leads lawfulHere sofar
    obtain ⟨sparedToo, further⟩ := leadsOn lawfulThere spared
    exact ⟨sparedToo, fate, further⟩

theorem Leads.imp (leads : Leads housing handle driver first before after fate)
    (consequence : housing.Spares (housing.home handle.address) first after.files → fate → further) :
    Leads housing handle driver first before after further := by
  obtain ⟨hooks, made, points, writes, leads⟩ := leads
  refine ⟨hooks, made, points, writes, ?_⟩
  intro lawful sofar
  obtain ⟨spared, fate⟩ := leads lawful sofar
  exact ⟨spared, consequence spared fate⟩

theorem leads_of_untouched (untouched : before.Untouched after) :
    Leads housing handle driver first before after
      (Kept (housing.home handle.address) before.files.tree after.files.tree) := by
  refine ⟨[], [], by simp [untouched.disturbances], by simp [untouched.attempts], ?_⟩
  intro _ sofar
  rw [untouched.files]
  exact ⟨sofar, rfl⟩

/-- The kernel serves, wherever it gets the opportunity. -/
theorem spares_of_stirred {kernel : Interference} {point : Point} {made : List Attempt}
    (stirred : before.Stirred kernel point after)
    (lawful : Lawful housing handle driver first
      [⟨point, before.files.tree, after.files.tree⟩] made)
    (sofar : housing.Spares (housing.home handle.address) first before.files) :
    housing.Spares (housing.home handle.address) first after.files ∧
      Serves driver (housing.home handle.address)
        ⟨point, before.files.tree, after.files.tree⟩ := by
  have here : after.files = first.withTree after.files.tree := by
    have reached := stirred.files
    rw [sofar.eq_withTree] at reached
    rw [reached]
    rfl
  refine ⟨?_, lawful.serves _ (List.mem_singleton_self _)⟩
  have spares := lawful.spares _ (List.mem_singleton_self _)
  rw [← sofar.eq_withTree, ← here] at spares
  exact sofar.trans spares

theorem leads_of_stirred {kernel : Interference} {point : Point}
    (stirred : before.Stirred kernel point after) :
    Leads housing handle driver first before after
      (Serves driver (housing.home handle.address)
        ⟨point, before.files.tree, after.files.tree⟩) :=
  ⟨[⟨point, before.files.tree, after.files.tree⟩], [], stirred.disturbances,
    by simp [stirred.attempts], spares_of_stirred stirred⟩

theorem Serves.of_kept {point : Point} {found left later : Tree}
    (serves : Serves driver own ⟨point, found, left⟩) (kept : Kept own left later) :
    Serves driver own ⟨point, found, later⟩ := by
  cases point with
  | afterUnbind => exact kept.trans serves
  | before stage =>
    cases stage with
    | unbind => exact kept.trans serves
    | override => exact kept.trans serves
    | bind =>
      rcases serves with stayed | linked
      · exact .inl (kept.trans stayed)
      · obtain ⟨target, stands, named⟩ := linked_iff.1 linked
        exact .inr (linked_iff.2 ⟨target, kept.trans stands, named⟩)

variable (holds : housing.HoldsIn first)
include holds

/-- The write of a stage leaves the link as the kernel has left it before. -/
theorem leads_of_attempted {kernel : Interference} {stage : Stage} {base : HostPath} {name : Name}
    (plain : PlainName name) (other : name ≠ Handle.driverName) {content : String}
    {fault? : Option Fault} {waiting : Machine}
    (attempted : Handle.Attempted kernel stage (base.join ⟨name⟩) content fault? before waiting
      after) :
    Leads housing handle driver first before after
      (Serves driver (housing.home handle.address)
        ⟨.before stage, before.files.tree, after.files.tree⟩) := by
  obtain ⟨stirred, tried⟩ := attempted
  refine ⟨[⟨.before stage, before.files.tree, waiting.files.tree⟩],
    [⟨base.join ⟨name⟩, Text.toBytes content, fault?⟩], ?_, ?_, fun lawful sofar => ?_⟩
  · rw [tried.disturbances, stirred.disturbances]
  · rw [tried.attempts, stirred.attempts]
  · obtain ⟨spared, serves⟩ := spares_of_stirred stirred lawful sofar
    have noLinks := lawful.noLinks _ (List.mem_singleton_self _) _ (List.mem_singleton_self _)
    rw [← spared.eq_withTree] at noLinks
    obtain ⟨sparedToo, kept⟩ := spares_of_tried plain other tried noLinks (spared.holdsIn holds)
    exact ⟨spared.trans sparedToo, serves.of_kept kept⟩

variable {kernel : Interference} {current : Option String}

/-- A release that succeeds removes the link, if there was anything to release the function from. -/
theorem leads_of_release
    (release : Handle.Release handle kernel driver current before (.ok ()) after) :
    Leads housing handle driver first before after
      (current = none ∧ Kept (housing.home handle.address) before.files.tree after.files.tree ∨
        (∃ former, current = some former) ∧
          after.files.tree.node? (Handle.driverName :: housing.home handle.address) = none) := by
  cases release with
  | unneeded =>
    exact (leads_of_untouched (Machine.untouched_refl _)).imp fun _ kept => .inl ⟨rfl, kept⟩
  | done attempted stirred untouched =>
    have written : Leads housing handle driver first before _ _ :=
      leads_of_attempted holds (by decide) (by decide) attempted
    refine ((written.trans (leads_of_stirred stirred)).trans
      (leads_of_untouched untouched)).imp ?_
    rintro _ ⟨⟨_, gone⟩, kept⟩
    exact .inr ⟨⟨_, rfl⟩, Eq.trans kept gone⟩

/-- A release that is refused leaves the link. -/
theorem leads_of_unreleased {error : DeviceError}
    (release : Handle.Release handle kernel driver current before (.error error) after) :
    Leads housing handle driver first before after
      (Kept (housing.home handle.address) before.files.tree after.files.tree) := by
  cases release with
  | refused attempted => exact leads_of_attempted holds (by decide) (by decide) attempted

/-- A restriction leaves the link, however it ends. -/
theorem leads_of_restriction {restricted : Bool} {result : Except DeviceError Unit}
    (restriction : Handle.Restriction handle kernel driver current restricted before result after) :
    Leads housing handle driver first before after
      (Kept (housing.home handle.address) before.files.tree after.files.tree) := by
  cases restriction with
  | unknown lacks => exact leads_of_untouched (Machine.untouched_refl _)
  | refused offers attempted => exact leads_of_attempted holds (by decide) (by decide) attempted
  | done offers attempted => exact leads_of_attempted holds (by decide) (by decide) attempted

/-- The bind write and what follows it leave the link, or the kernel makes the new one. -/
theorem leads_of_bind {restricted : Bool} {fault? : Option Fault} {waiting written : Machine}
    (attempted : Handle.Attempted kernel .bind (handle.bindFile driver) handle.address fault?
      before waiting written)
    (lifting : Handle.Lifting handle restricted written after) :
    Leads housing handle driver first before after
      (Serves driver (housing.home handle.address)
        ⟨.before .bind, before.files.tree, after.files.tree⟩) := by
  cases lifting with
  | unneeded untouched =>
    have bound : Leads housing handle driver first before _ _ :=
      leads_of_attempted holds (by decide) (by decide) attempted
    apply (bound.trans (leads_of_untouched untouched)).imp
    rintro _ ⟨serves, kept⟩
    exact serves.of_kept kept
  | @tried cleared _ _ tried =>
    -- the override is cleared without another word to the kernel, so that it is no link because it
    -- was none when the kernel last had its opportunity
    obtain ⟨stirred, bound⟩ := attempted
    refine ⟨[⟨.before .bind, before.files.tree, waiting.files.tree⟩],
      [⟨handle.bindFile driver, Text.toBytes handle.address, fault?⟩,
        ⟨handle.overrideFile, Text.toBytes "\n", cleared⟩], ?_, ?_, fun lawful sofar => ?_⟩
    · rw [tried.disturbances, bound.disturbances, stirred.disturbances]
    · rw [tried.attempts, bound.attempts, stirred.attempts, List.append_assoc]
      rfl
    · obtain ⟨spared, serves⟩ := spares_of_stirred stirred lawful sofar
      have noLinks := lawful.noLinks _ (List.mem_singleton_self _)
      rw [← spared.eq_withTree] at noLinks
      obtain ⟨sparedToo, kept⟩ := spares_of_tried (by decide) (by decide) bound
        (noLinks _ List.mem_cons_self) (spared.holdsIn holds)
      have noLink : ∀ target, written.files.findLink handle.overrideFile ≠ .ok (.link target) := by
        intro target linked
        have linkedBefore := (findLink_link_of_tried (by decide) bound).1 linked
        exact noLinks _ (List.mem_cons_of_mem _ List.mem_cons_self) target linkedBefore
      obtain ⟨sparedAgain, keptToo⟩ := spares_of_tried (by decide) (by decide) tried noLink
        ((spared.trans sparedToo).holdsIn holds)
      exact ⟨(spared.trans sparedToo).trans sparedAgain, (serves.of_kept kept).of_kept keptToo⟩

theorem leads_of_grant {restricted : Bool} {result : Except DeviceError Unit}
    (grant : Handle.Grant handle kernel driver current restricted before result after) :
    Leads housing handle driver first before after
      (Serves driver (housing.home handle.address)
        ⟨.before .bind, before.files.tree, after.files.tree⟩) := by
  cases grant with
  | bound attempted lifting => exact leads_of_bind holds attempted lifting
  | boundByKernel attempted bound lifting => exact leads_of_bind holds attempted lifting
  | refused attempted unbound lifting => exact leads_of_bind holds attempted lifting

end Phases

/-! ## From the link to the answer of the query -/

section Answers

variable {first later : FileSystem} {asked : Handle}

/-- Where one handle gets to the entry of the link, all handles with its address do, and as long as the
directories are spared. -/
theorem reached_later {current : Option String} (holds : housing.HoldsIn first)
    (used : housing.inUse handle) (usedToo : housing.inUse asked)
    (same : asked.address = handle.address) (answered : handle.boundDriver first = .ok current)
    (spares : housing.Spares own first later) :
    ∃ permissions,
      later.find asked.directory = .ok (housing.home handle.address, .directory permissions) ∧
        (asked.entry driverEntry).refusal? = none ∧
        later.caller.may permissions.search = true := by
  obtain ⟨permissions, found⟩ := holds handle used
  obtain ⟨accepted, _, directory, searchable⟩ := Handle.reached_of_boundDriver found answered
  cases directory
  obtain ⟨other, foundToo⟩ := holds asked usedToo
  rw [same] at foundToo
  obtain ⟨_, _, stands⟩ := FileSystem.find_eq_ok_iff.1 found
  obtain ⟨_, _, standsToo⟩ := FileSystem.find_eq_ok_iff.1 foundToo
  cases stands.symm.trans standsToo
  refine ⟨permissions, (spares.homes asked usedToo).trans foundToo, ?_, ?_⟩
  · rw [housing.alike usedToo used same]
    exact accepted
  · rw [spares.caller]
    exact searchable

theorem boundDriver_of_linked {current : Option String} (holds : housing.HoldsIn first)
    (used : housing.inUse handle) (usedToo : housing.inUse asked)
    (same : asked.address = handle.address) (answered : handle.boundDriver first = .ok current)
    (spares : housing.Spares own first later)
    (linked : Linked later.tree (housing.home handle.address) driver) :
    asked.boundDriver later = .ok (some driver) := by
  obtain ⟨permissions, found, accepted, searchable⟩ :=
    reached_later holds used usedToo same answered spares
  obtain ⟨target, stands, named⟩ := linked_iff.1 linked
  exact Handle.boundDriver_of_link found accepted searchable stands named

theorem boundDriver_of_gone {current : Option String} (holds : housing.HoldsIn first)
    (used : housing.inUse handle) (usedToo : housing.inUse asked)
    (same : asked.address = handle.address) (answered : handle.boundDriver first = .ok current)
    (spares : housing.Spares own first later)
    (gone : later.tree.node? (Handle.driverName :: housing.home handle.address) = none) :
    asked.boundDriver later = .ok none := by
  obtain ⟨permissions, found, accepted, searchable⟩ :=
    reached_later holds used usedToo same answered spares
  exact Handle.boundDriver_of_vacant found accepted searchable gone

/-- As long as its directory and its link are spared, a function stays bound as it is. -/
theorem boundDriver_of_kept (holds : housing.HoldsIn first) (used : housing.inUse asked)
    (spares : housing.Spares own first later)
    (kept : Kept (housing.home asked.address) first.tree later.tree) :
    asked.boundDriver later = asked.boundDriver first := by
  obtain ⟨permissions, found⟩ := holds asked used
  exact Handle.boundDriver_congr spares.caller found (spares.homes asked used) kept

end Answers

/-! ## Whole rebinds -/

/-- What the kernel does once a rebind has returned: it links the function to the driver if the rebind
succeeded, and otherwise leaves the link alone. -/
structure Settles (housing : Housing) (handle : Handle) (driver : String)
    (result : Except DeviceError Unit) (after settled : FileSystem) : Prop where
  spares : housing.Spares (housing.home handle.address) after settled
  links : result = .ok () → Linked settled.tree (housing.home handle.address) driver
  keeps : result ≠ .ok () → Kept (housing.home handle.address) after.tree settled.tree

/-- What the result of a rebind foretells about the bound driver, given what the query answered
earlier. -/
def Foretold (driver : String) (earlier later : Except DeviceError (Option String)) :
    Except DeviceError Unit → Prop
  | .ok () => later = .ok (some driver)
  | .error (.bindFailure _ _ _ (some _) _) => later = .ok none
  | .error _ => later = earlier

/-- What a result means for the link: it is gone if the error says from which driver the function has
been released, and any other error leaves it as it was. -/
def Fate (place : Location) (handle : Handle) (first later : FileSystem) :
    Except DeviceError Unit → Prop
  | .ok () => ∃ current, handle.boundDriver first = .ok current
  | .error (.bindFailure _ _ _ (some _) _) =>
    (∃ current, handle.boundDriver first = .ok current) ∧
      later.tree.node? (Handle.driverName :: place) = none
  | .error _ => Kept place first.tree later.tree

variable {kernel : Interference} {before after : Machine} {result : Except DeviceError Unit}

theorem leads_of_course (holds : housing.HoldsIn before.files) (used : housing.inUse handle)
    (course : Handle.Course handle kernel driver before result after) :
    Leads housing handle driver before.files before after
      (Fate (housing.home handle.address) handle before.files after.files result) := by
  cases course with
  | misnamed misnamed => exact leads_of_untouched (Machine.untouched_refl _)
  | @unknown error _ named unknown =>
    apply (leads_of_untouched (Machine.untouched_refl _)).imp
    intro _ kept
    cases error with
    | bindFailure _ _ _ previous _ => exact absurd unknown Handle.boundDriver_ne_bindFailure
    | _ => exact kept
  | unneeded named bound untouched =>
    exact (leads_of_untouched untouched).imp fun _ _ => ⟨_, bound⟩
  | unreleased named bound other release =>
    obtain ⟨former, fault, rfl, rfl, _⟩ := release.refusal
    exact leads_of_unreleased holds release
  | unrestricted named bound other release restriction =>
    obtain ⟨fault, rfl, _⟩ := restriction.refusal
    apply ((leads_of_release holds release).trans (leads_of_restriction holds restriction)).imp
    rintro _ ⟨⟨rfl, keptBefore⟩ | ⟨⟨former, rfl⟩, gone⟩, kept⟩
    · exact Eq.trans kept keptBefore
    · exact ⟨⟨_, bound⟩, Eq.trans kept gone⟩
  | granted named bound other release restriction grant =>
    refine (((leads_of_release holds release).trans
      (leads_of_restriction holds restriction)).trans (leads_of_grant holds grant)).imp ?_
    rintro spared ⟨⟨released, kept⟩, served⟩
    rcases grant.outcome with ⟨fault?, cleared, _, _, ⟨rfl, _⟩ | ⟨fault, _, rfl, unbound⟩⟩
    · exact ⟨_, bound⟩
    · have stayed := served.resolve_right fun linked => unbound
        (boundDriver_of_linked holds used used rfl bound spared linked)
      rcases released with ⟨rfl, keptBefore⟩ | ⟨⟨former, rfl⟩, gone⟩
      · exact Eq.trans stayed (Eq.trans kept keptBefore)
      · exact ⟨⟨_, bound⟩, Eq.trans stayed (Eq.trans kept gone)⟩

/-- The result of a lawful rebind foretells what a query on the function answers afterwards, and the
answers for all other functions are as before. -/
theorem binding_of_rebind (holds : housing.HoldsIn before.files) (used : housing.inUse handle)
    (ran : (handle.rebind kernel driver).run before = (result, after))
    (lawful : Lawful housing handle driver before.files
      (after.disturbances.drop before.disturbances.length)
      (after.attempts.drop before.attempts.length))
    {settled : FileSystem} (settles : Settles housing handle driver result after.files settled) :
    housing.HoldsIn settled ∧
      ∀ asked, housing.inUse asked →
        if asked.address = handle.address then
          Foretold driver (asked.boundDriver before.files) (asked.boundDriver settled) result
        else asked.boundDriver settled = asked.boundDriver before.files := by
  obtain ⟨hooks, made, points, writes, leads⟩ := leads_of_course holds used (Handle.course_of_run ran)
  rw [points, writes, List.drop_left, List.drop_left] at lawful
  obtain ⟨spared, fate⟩ := leads lawful (spares_refl _)
  have spares := spared.trans settles.spares
  refine ⟨spares.holdsIn holds, ?_⟩
  intro asked usedToo
  split
  · rename_i same
    cases result with
    | ok _ =>
      obtain ⟨current, answered⟩ := fate
      exact boundDriver_of_linked holds used usedToo same answered spares (settles.links rfl)
    | error error =>
      have stays := settles.keeps (by simp)
      have unchanged (kept : Kept (housing.home handle.address) before.files.tree after.files.tree) :
          asked.boundDriver settled = asked.boundDriver before.files := by
        rw [← same] at kept stays
        exact boundDriver_of_kept holds usedToo spares (Eq.trans stays kept)
      cases error with
      | bindFailure _ _ _ previous _ =>
        cases previous with
        | none => exact unchanged fate
        | some former =>
          obtain ⟨⟨current, answered⟩, gone⟩ := fate
          exact boundDriver_of_gone holds used usedToo same answered spares (Eq.trans stays gone)
      | _ => exact unchanged fate
  · rename_i different
    have away : housing.home asked.address ≠ housing.home handle.address :=
      fun together => different (housing.apart usedToo used together)
    exact boundDriver_of_kept holds usedToo spares (spares.others asked usedToo away)

end Housing
end SingleRoot.Device
