/-
# What several writes leave

A call makes several writes one after another, along paths that lead to different files. `Imprinted` says what
they leave behind: each file that has been written holds its last content, and everything else in the tree is
as it was before all of them. That a later write does not hit the file of an earlier one is known from where
the paths led at the beginning, because no write leads a path to a new place.

An imprint grows with each write along another path, `Imprinted.write`, and a file in it can be written once
more, `Imprinted.rewrite`.
-/
import SingleRoot.Proofs.Host.Destinations

namespace SingleRoot.Host.FileSystem

/-- Two paths lead to no common file, neither to one that is there nor to one that could be made. -/
def Apart (files : FileSystem) (first second : HostPath) : Prop :=
  ∀ place ∈ files.destinations first, place ∈ files.destinations second →
    ∃ permissions, files.tree.node? place = some (.directory permissions)

/-- A content has been written along a path to a place. The path led there before; a file stood there and has
kept its permissions, or it is new. -/
structure Marked (before : FileSystem) (mark : HostPath × Bytes) (place : Location)
    (after : FileSystem) : Prop where
  leads : place ∈ before.destinations mark.1
  stands : ∃ permissions, after.find mark.1 = .ok (place, .file permissions mark.2) ∧
    before.caller.may permissions.write = true ∧
    (before.tree.node? place = none ∧ permissions = .newFile ∨
      ∃ old, before.tree.node? place = some (.file permissions old))

/-- Contents have been written along some paths, each to a place of its own, and nothing else has changed. -/
structure Imprinted (before : FileSystem) (marks : List (HostPath × Bytes)) (after : FileSystem) :
    Prop where
  caller : after.caller = before.caller
  workingDirectory : after.workingDirectory = before.workingDirectory
  destinations : ∀ path, ∀ place ∈ after.destinations path, place ∈ before.destinations path
  marked : ∀ mark ∈ marks, ∃ place, before.Marked mark place after
  apart : marks.Pairwise fun first second =>
    ∀ place, before.Marked first place after → ¬ before.Marked second place after
  elsewhere : ∀ location, (∀ mark ∈ marks, ¬ before.Marked mark location after) →
    after.tree.node? location = before.tree.node? location
  damage : ∀ directory name, after.tree.damage? directory name = before.tree.damage? directory name

variable {before middle after : FileSystem} {marks : List (HostPath × Bytes)}
  {mark : HostPath × Bytes} {path away : HostPath} {place other : Location} {content old : Bytes}

/-! ## Marks -/

theorem Marked.place_eq (one : before.Marked mark place after)
    (two : before.Marked (mark.1, content) other after) : place = other := by
  obtain ⟨_, found, _⟩ := one.stands
  obtain ⟨_, foundToo, _⟩ := two.stands
  cases found.symm.trans foundToo
  rfl

/-- No directory has stood where a content has been written. -/
theorem Marked.no_directory (marked : before.Marked mark place after) {permissions : Permissions} :
    before.tree.node? place ≠ some (.directory permissions) := by
  intro inside
  obtain ⟨_, _, _, ⟨free, _⟩ | ⟨_, stood⟩⟩ := marked.stands
  · cases free.symm.trans inside
  · cases stood.symm.trans inside

/-- A mark outlasts a write to another place. -/
theorem Marked.kept (marked : before.Marked mark other middle)
    (change : middle.FileWritten place content after) (away : other ≠ place) :
    before.Marked mark other after := by
  obtain ⟨permissions, found, writable, stood⟩ := marked.stands
  refine ⟨marked.leads, permissions, ?_, writable, stood⟩
  rw [change.find_file found, if_neg away]

instance (files : FileSystem) (first second : HostPath) : Decidable (files.Apart first second) :=
  have (place : Location) :
      Decidable (∃ permissions, files.tree.node? place = some (.directory permissions)) :=
    match files.tree.node? place with
    | some (.directory permissions) => .isTrue ⟨permissions, rfl⟩
    | some (.file _ _) | some (.link _) | none => .isFalse (by simp)
  inferInstanceAs (Decidable (∀ place ∈ _, _ → _))

/-- What a write leaves at its place. -/
theorem placed_of_write (wrote : before.write path content = .ok after) :
    ∃ place permissions, place ∈ before.destinations path ∧ before.FileWritten place content after ∧
      after.find path = .ok (place, .file permissions content) ∧
      before.caller.may permissions.write = true := by
  obtain ⟨landing, ends, change⟩ := fileWritten_of_write wrote
  obtain ⟨permissions, stands, writable⟩ := granted_of_write wrote ends
  exact ⟨landing.location, permissions, mem_destinations_of_resolve ends, change,
    find_of_landing ends change stands, writable⟩

/-- A write does not bring into being what another path leads to. -/
theorem holds_of_apart (apart : before.Apart path away)
    (wrote : before.write path content = .ok after) : after.holds away = before.holds away := by
  rw [Bool.eq_iff_iff, holds_iff, holds_iff]
  obtain ⟨landing, ends, change⟩ := fileWritten_of_write wrote
  constructor
  · rintro ⟨⟨place, node⟩, found⟩
    obtain ⟨accepted, ⟨left, arrives⟩, stands⟩ := find_eq_ok_iff.1 found
    have elsewhere : place ≠ landing.location := by
      rintro rfl
      obtain ⟨_, inside⟩ := apart _ (mem_destinations_of_resolve ends)
        (change.destinations_back (mem_destinations_of_find found))
      exact change.no_directory (change.directory_iff.2 inside)
    rw [change.start] at arrives
    have arrived := (change.arrive_back arrives).resolve_right fun here => elsewhere here.1
    rw [change.elsewhere place elsewhere] at stands
    exact ⟨_, find_eq_ok_iff.2 ⟨accepted, ⟨left, arrived⟩, stands⟩⟩
  · rintro ⟨_, found⟩
    obtain ⟨now, _, foundNow⟩ := change.find found
    exact ⟨_, foundNow⟩

namespace Imprinted

theorem refl (files : FileSystem) : files.Imprinted [] files :=
  ⟨rfl, rfl, fun _ _ => id, by simp, .nil, fun _ _ => rfl, fun _ _ => rfl⟩

/-- Marks that outlast a change, with whatever contents, are as distinct as before it. -/
theorem distinct_of_kept (imprinted : before.Imprinted marks middle)
    (renew : HostPath × Bytes → HostPath × Bytes)
    (kept : ∀ mark ∈ marks, ∀ place, before.Marked mark place middle →
      before.Marked (renew mark) place after) :
    (marks.map renew).Pairwise fun first second =>
      ∀ place, before.Marked first place after → ¬ before.Marked second place after := by
  rw [List.pairwise_map]
  apply imprinted.apart.imp_of_mem
  intro first second amongFirst amongSecond distinct place now nowToo
  obtain ⟨one, was⟩ := imprinted.marked first amongFirst
  obtain ⟨two, wasToo⟩ := imprinted.marked second amongSecond
  cases (kept first amongFirst one was).place_eq now
  cases (kept second amongSecond two wasToo).place_eq nowToo
  exact distinct _ was wasToo

/-- A write along one more path adds its mark. -/
theorem write (imprinted : before.Imprinted marks middle)
    (apart : ∀ mark ∈ marks, before.Apart mark.1 path)
    (wrote : middle.write path content = .ok after) :
    before.Imprinted (marks ++ [(path, content)]) after := by
  obtain ⟨place, permissions, led, change, found, writable⟩ := placed_of_write wrote
  have leads := imprinted.destinations path place led
  have away {mark : HostPath × Bytes} (among : mark ∈ marks) {other : Location}
      (marked : before.Marked mark other middle) : other ≠ place := by
    rintro rfl
    obtain ⟨_, inside⟩ := apart mark among other marked.leads leads
    exact marked.no_directory inside
  have kept (mark : HostPath × Bytes) (among : mark ∈ marks) (other : Location)
      (marked : before.Marked mark other middle) : before.Marked mark other after :=
    marked.kept change (away among marked)
  have untouched : middle.tree.node? place = before.tree.node? place :=
    imprinted.elsewhere place fun mark among marked => away among marked rfl
  have new : before.Marked (path, content) place after := by
    refine ⟨leads, permissions, found, imprinted.caller ▸ writable, ?_⟩
    obtain ⟨_, _, stands⟩ := find_eq_ok_iff.1 found
    rw [← untouched]
    rcases change.here with ⟨free, now⟩ | ⟨same, old, stood, now⟩
    · cases stands.symm.trans now
      exact .inl ⟨free, rfl⟩
    · cases stands.symm.trans now
      exact .inr ⟨old, stood⟩
  refine ⟨change.caller.trans imprinted.caller,
    change.workingDirectory.trans imprinted.workingDirectory, ?_, ?_, ?_, ?_,
    fun directory name =>
      (damage?_of_write wrote directory name).trans (imprinted.damage directory name)⟩
  · intro path place leads
    exact imprinted.destinations path place (change.destinations_back leads)
  · intro mark among
    rcases List.mem_append.1 among with among | here
    · obtain ⟨other, marked⟩ := imprinted.marked mark among
      exact ⟨other, kept mark among other marked⟩
    · cases List.mem_singleton.1 here
      exact ⟨place, new⟩
  · rw [List.pairwise_append]
    refine ⟨?_, List.pairwise_singleton _ _, ?_⟩
    · simpa using imprinted.distinct_of_kept id kept
    · intro mark among last here other marked markedToo
      cases List.mem_singleton.1 here
      obtain ⟨one, was⟩ := imprinted.marked mark among
      cases (kept mark among one was).place_eq marked
      cases new.place_eq markedToo
      exact away among was rfl
  · intro location unmarked
    have elsewhere : location ≠ place := by
      rintro rfl
      exact unmarked _ (by simp) new
    rw [change.elsewhere location elsewhere]
    apply imprinted.elsewhere
    intro mark among marked
    exact unmarked mark (by simp [among]) (kept mark among location marked)

/-- Two paths of an imprint do not lead to one place. -/
theorem place_ne (imprinted : before.Imprinted marks after) {one two : HostPath × Bytes}
    (among : one ∈ marks) (amongToo : two ∈ marks) (distinct : one ≠ two)
    (marked : before.Marked one place after) (markedToo : before.Marked two other after) :
    place ≠ other := by
  rintro rfl
  obtain ⟨i, inList, rfl⟩ := List.getElem_of_mem among
  obtain ⟨j, inListToo, rfl⟩ := List.getElem_of_mem amongToo
  have apart := List.pairwise_iff_getElem.1 imprinted.apart
  have order : i ≠ j := by
    rintro rfl
    exact distinct rfl
  rcases Nat.lt_or_gt_of_ne order with less | more
  · exact apart i j inList inListToo less place marked markedToo
  · exact apart j i inListToo inList more place markedToo marked

/-- A file that has been written can be written once more. -/
theorem rewrite (imprinted : before.Imprinted marks middle) (among : (path, old) ∈ marks)
    (content : Bytes) :
    ∃ after, middle.write path content = .ok after ∧
      before.Imprinted (marks.map fun mark => if mark.1 = path then (path, content) else mark)
        after := by
  obtain ⟨place, marked⟩ := imprinted.marked _ among
  obtain ⟨permissions, found, writable, stood⟩ := marked.stands
  obtain ⟨_, _, stands⟩ := find_eq_ok_iff.1 found
  obtain ⟨after, wrote, change⟩ :
      ∃ after, middle.write path content = .ok after ∧ middle.FileWritten place content after :=
    ⟨_, write_of_find found (imprinted.caller.symm ▸ writable) content,
      fileWritten_put (.inr ⟨old, stands⟩)⟩
  have new : before.Marked (path, content) place after := by
    refine ⟨marked.leads, permissions, ?_, writable, stood⟩
    rw [change.find_file found, if_pos rfl]
  have kept (mark : HostPath × Bytes) (amongToo : mark ∈ marks) (other : Location)
      (markedToo : before.Marked mark other middle) :
      before.Marked (if mark.1 = path then (path, content) else mark) other after := by
    by_cases same : mark.1 = path
    · subst same
      cases marked.place_eq markedToo
      rw [if_pos rfl]
      exact new
    · rw [if_neg same]
      have distinct : mark ≠ (path, old) := fun equal => same (congrArg Prod.fst equal)
      exact markedToo.kept change (imprinted.place_ne amongToo among distinct markedToo marked)
  refine ⟨after, wrote, change.caller.trans imprinted.caller,
    change.workingDirectory.trans imprinted.workingDirectory, ?_, ?_, ?_, ?_,
    fun directory name =>
      (damage?_of_write wrote directory name).trans (imprinted.damage directory name)⟩
  · intro path place leads
    exact imprinted.destinations path place (change.destinations_back leads)
  · rw [List.forall_mem_map]
    intro mark amongToo
    obtain ⟨other, markedToo⟩ := imprinted.marked mark amongToo
    exact ⟨other, kept mark amongToo other markedToo⟩
  · exact imprinted.distinct_of_kept _ kept
  · intro location unmarked
    have elsewhere : location ≠ place := by
      rintro rfl
      exact unmarked _ (List.mem_map.2 ⟨_, among, if_pos rfl⟩) new
    rw [change.elsewhere location elsewhere]
    apply imprinted.elsewhere
    intro mark amongToo markedToo
    exact unmarked _ (List.mem_map.2 ⟨mark, amongToo, rfl⟩) (kept mark amongToo location markedToo)

end Imprinted

end SingleRoot.Host.FileSystem
