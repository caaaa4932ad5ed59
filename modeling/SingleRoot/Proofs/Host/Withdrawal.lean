/-
# Taking a link away

What a path leads to depends on what stands in the tree and not on what is missing, so a path that leads
somewhere still does when more is there, `Within.find`. A path that does not need a link leads to the same
place before the link is taken away and after.

A directory that `Receives` a file lets a write along the entry succeed, and goes on to do so whatever file is
written.
-/
import SingleRoot.Proofs.Host.Destinations
import SingleRoot.Proofs.Host.Parents

namespace SingleRoot.Host

/-- What is left when a place and everything below it have been taken away. -/
theorem Tree.node?_remove {place : Location} (filled : place ≠ []) (tree : Tree) (other : Location) :
    (tree.remove place).node? other = if place <:+ other then none else tree.node? other := by
  cases other with
  | nil => simp [filled]
  | cons name parent =>
    rw [node?_cons, node?_cons, remove]
    induction tree.rows with
    | nil => simp
    | cons row rest ih =>
      obtain ⟨location, node⟩ := row
      grind

namespace FileSystem

/-! ## Trees with more in them -/

/-- All that stands in one tree stands in the other, too. -/
structure Within (former latter : FileSystem) : Prop where
  caller : latter.caller = former.caller
  workingDirectory : latter.workingDirectory = former.workingDirectory
  keeps : ∀ location node, former.tree.node? location = some node →
    latter.tree.node? location = some node

namespace Within

variable {former latter : FileSystem} {location : Location} {step : Step} {footing : Footing}
  {name : Name}

theorem entryIn (within : former.Within latter) {node : Node}
    (stands : former.entryIn location name = .ok node) : latter.entryIn location name = .ok node := by
  rw [entryIn_eq_ok_iff] at stands ⊢
  obtain ⟨permissions, inside, searchable, short, there⟩ := stands
  rw [within.caller]
  exact ⟨permissions, within.keeps _ _ inside, searchable, short, within.keeps _ _ there⟩

theorem stepFrom (within : former.Within latter)
    (leads : former.stepFrom location step = .ok footing) :
    latter.stepFrom location step = .ok footing := by
  obtain ⟨permissions, inside⟩ := inside_of_stepFrom leads
  cases step with
  | enter name =>
    rw [stepFrom_enter] at leads ⊢
    cases entry : former.entryIn location name with
    | error errno => simp [entry, Except.map] at leads
    | ok node =>
      rw [within.entryIn entry, ← entry]
      exact leads
  | settle | stay | ascend =>
    rw [FileSystem.stepFrom, inside] at leads
    rw [FileSystem.stepFrom, within.keeps _ _ inside, within.caller]
    exact leads

/-- The induction is on the steps; what is to be known of links comes from outside. -/
theorem arriveFrom (within : former.Within latter) {links : Nat}
    {one two : Location → List Step → Except Errno (Location × Nat)}
    (there : ∀ {location steps place}, one location steps = .ok place → two location steps = .ok place)
    {steps : List Step} {place : Location × Nat}
    (arrives : former.arriveFrom links one location steps = .ok place) :
    latter.arriveFrom links two location steps = .ok place := by
  induction steps generalizing location with
  | nil => exact arrives
  | cons step rest ih =>
    rw [FileSystem.arriveFrom] at arrives ⊢
    cases leads : former.stepFrom location step with
    | error errno => simp [leads] at arrives
    | ok footing =>
      rw [leads] at arrives
      rw [within.stepFrom leads]
      cases footing with
      | «at» next => exact ih arrives
      | detour start inner => exact there arrives

theorem arrive (within : former.Within latter) {links : Nat} {steps : List Step}
    {place : Location × Nat} (arrives : former.arrive links location steps = .ok place) :
    latter.arrive links location steps = .ok place := by
  induction links generalizing location steps place with
  | zero => exact within.arriveFrom (by simp) arrives
  | succ links ih => exact within.arriveFrom ih arrives

theorem start (within : former.Within latter) (path : HostPath) : latter.start path = former.start path := by
  rw [FileSystem.start, FileSystem.start, within.workingDirectory]

/-- A path leads where it has led when more is there. -/
theorem find (within : former.Within latter) {path : HostPath} {place : Location} {node : Node}
    (found : former.find path = .ok (place, node)) : latter.find path = .ok (place, node) := by
  rw [find_eq_ok_iff] at found ⊢
  obtain ⟨accepted, ⟨left, arrives⟩, stands⟩ := found
  rw [within.start]
  exact ⟨accepted, ⟨left, within.arrive arrives⟩, within.keeps _ _ stands⟩

theorem findLink (within : former.Within latter) {base : HostPath} (plain : PlainName name) {node : Node}
    (found : former.findLink (base.join ⟨name⟩) = .ok node) :
    latter.findLink (base.join ⟨name⟩) = .ok node := by
  rw [findLink_join base plain] at found ⊢
  cases accepted : (base.join ⟨name⟩).refusal? with
  | some fault => simp [accepted] at found
  | none =>
    rw [accepted] at found
    rw [within.start]
    cases arrives : former.arrive linkLimit (former.start base) base.way with
    | error errno => simp [arrives, Except.bind] at found
    | ok place =>
      rw [arrives] at found
      rw [within.arrive arrives]
      exact mapError_eq_ok.2 (within.entryIn (mapError_eq_ok.1 found))

end Within

/-! ## A tree without a link -/

/-- A link has been taken away, and whatever is below it. -/
structure Withdrawn (before : FileSystem) (link : Location) (after : FileSystem) : Prop where
  caller : after.caller = before.caller
  workingDirectory : after.workingDirectory = before.workingDirectory
  tree : ∀ other,
    after.tree.node? other = if link <:+ other then none else before.tree.node? other

/-- The files without what stands at a place. -/
def without (files : FileSystem) (link : Location) : FileSystem :=
  files.withTree (files.tree.remove link)

variable {files before after bare full : FileSystem} {link place parent : Location} {name : Name}
  {content : Bytes}

theorem withdrawn_without (files : FileSystem) (filled : link ≠ []) :
    files.Withdrawn link (files.without link) :=
  ⟨rfl, rfl, files.tree.node?_remove filled⟩

namespace Withdrawn

theorem vacant (gone : before.Withdrawn link after) : after.tree.node? link = none := by
  rw [gone.tree, if_pos List.suffix_rfl]

theorem within (gone : before.Withdrawn link after) : after.Within before where
  caller := gone.caller.symm
  workingDirectory := gone.workingDirectory.symm
  keeps location node stands := by
    rw [gone.tree] at stands
    split at stands
    · cases stands
    · exact stands

/-- What stands after the link has been taken away is not below it. -/
theorem not_suffix (gone : before.Withdrawn link after) {node : Node}
    (stands : after.tree.node? place = some node) : ¬ link <:+ place := by
  intro below
  rw [gone.tree, if_pos below] at stands
  cases stands

/-- The link is not on the way to another entry of a directory that is still there. -/
theorem not_suffix_cons (gone : before.Withdrawn link after) {node : Node}
    (stands : after.tree.node? parent = some node) (other : link ≠ name :: parent) :
    ¬ link <:+ name :: parent := by
  rw [List.suffix_cons_iff]
  exact not_or.2 ⟨other, gone.not_suffix stands⟩

/-- Whether the file is written or the link taken away first makes no difference. -/
theorem fileWritten (gone : before.Withdrawn link bare) (change : before.FileWritten place content full)
    (goneToo : full.Withdrawn link after) (away : ¬ link <:+ place) :
    bare.FileWritten place content after where
  caller := by rw [goneToo.caller, change.caller, gone.caller]
  workingDirectory := by rw [goneToo.workingDirectory, change.workingDirectory, gone.workingDirectory]
  here := by
    rw [gone.tree, goneToo.tree, if_neg away, if_neg away]
    exact change.here
  elsewhere other there := by
    rw [gone.tree, goneToo.tree, change.elsewhere other there]

end Withdrawn

/-! ## Directories that receive a file -/

/-- A file that may be written stands at a place. -/
def Rewritable (files : FileSystem) (place : Location) : Prop :=
  ∃ granted old, files.tree.node? place = some (.file granted old) ∧
    files.caller.may granted.write = true

/-- A directory can be given a file of a name: it may be searched, and a file that may be written stands
there already, or nothing does and the directory may be written. -/
def Receives (files : FileSystem) (parent : Location) (name : Name) : Prop :=
  ∃ permissions, files.tree.node? parent = some (.directory permissions) ∧
    files.caller.may permissions.search = true ∧
    (files.tree.node? (name :: parent) = none ∧ files.caller.may permissions.write = true ∨
      files.Rewritable (name :: parent))

instance (files : FileSystem) (place : Location) : Decidable (files.Rewritable place) :=
  match stands : files.tree.node? place with
  | some (.file granted _) =>
    decidable_of_iff (files.caller.may granted.write = true) (by simp [Rewritable, stands])
  | some (.directory _) | some (.link _) | none => .isFalse (by simp [Rewritable, stands])

instance (files : FileSystem) (parent : Location) (name : Name) :
    Decidable (files.Receives parent name) :=
  match inside : files.tree.node? parent with
  | some (.directory permissions) =>
    decidable_of_iff (files.caller.may permissions.search = true ∧
      (files.tree.node? (name :: parent) = none ∧ files.caller.may permissions.write = true ∨
        files.Rewritable (name :: parent))) (by simp [Receives, inside])
  | some (.file _ _) | some (.link _) | none => .isFalse (by simp [Receives, inside])

theorem Rewritable.written {other : Location} (rewritable : before.Rewritable other)
    (change : before.FileWritten place content after) : after.Rewritable other := by
  obtain ⟨granted, old, stands, writable⟩ := rewritable
  rw [← change.caller] at writable
  by_cases here : other = place
  · subst here
    rcases change.here with ⟨free, _⟩ | ⟨kept, former, stood, now⟩
    · cases free.symm.trans stands
    · cases stood.symm.trans stands
      exact ⟨granted, content, now, writable⟩
  · exact ⟨granted, old, (change.elsewhere other here).trans stands, writable⟩

/-- Where a write makes a file, it can be written again. -/
theorem FileWritten.free_or_rewritable {other : Location}
    (change : before.FileWritten place content after) (free : before.tree.node? other = none) :
    after.tree.node? other = none ∨ after.Rewritable other := by
  by_cases here : other = place
  · subst here
    right
    rcases change.here with ⟨_, now⟩ | ⟨_, _, stood, _⟩
    · exact ⟨_, _, now, by simp [Caller.may, Permissions.newFile]⟩
    · cases free.symm.trans stood
  · exact .inl ((change.elsewhere other here).trans free)

theorem Rewritable.of_withdrawn (gone : before.Withdrawn link bare) (rewritable : bare.Rewritable place) :
    before.Rewritable place := by
  obtain ⟨granted, old, stands, writable⟩ := rewritable
  exact ⟨granted, old, gone.within.keeps _ _ stands, gone.caller ▸ writable⟩

section Entry

variable {base : HostPath} {node : Node}

/-- An entry that is free, or a file, is no link. -/
theorem noLink_of_free_or_rewritable (found : files.find base = .ok (parent, node))
    (plain : PlainName name)
    (room : files.tree.node? (name :: parent) = none ∨ files.Rewritable (name :: parent))
    (target : HostPath) : files.findLink (base.join ⟨name⟩) ≠ .ok (.link target) := by
  intro linked
  have accepted : (base.join ⟨name⟩).refusal? = none := by
    cases accepted : (base.join ⟨name⟩).refusal? with
    | none => rfl
    | some fault => simp [findLink_join base plain, accepted] at linked
  rw [findLink_entry found plain accepted, mapError_eq_ok] at linked
  obtain ⟨_, _, _, _, stands⟩ := entryIn_eq_ok_iff.1 linked
  rcases room with free | ⟨_, _, stood, _⟩
  · cases free.symm.trans stands
  · cases stood.symm.trans stands

theorem Rewritable.write (rewritable : files.Rewritable (name :: parent))
    (found : files.find base = .ok (parent, node)) {permissions : Permissions}
    (inside : files.tree.node? parent = some (.directory permissions))
    (searchable : files.caller.may permissions.search = true) (plain : PlainName name)
    (short : name.length ≤ longestName) (accepted : (base.join ⟨name⟩).refusal? = none)
    (content : Bytes) :
    ∃ after, files.write (base.join ⟨name⟩) content = .ok after ∧
      files.FileWritten (name :: parent) content after := by
  obtain ⟨granted, old, stands, writable⟩ := rewritable
  have entry : files.entryIn parent name = .ok (.file granted old) :=
    entryIn_eq_ok_iff.2 ⟨permissions, inside, searchable, short, stands⟩
  have foundFile := find_entry found plain accepted entry (by simp)
  exact ⟨_, write_of_find foundFile writable content, fileWritten_put (.inr ⟨old, stands⟩)⟩

end Entry

namespace Receives

theorem written (receives : before.Receives parent name)
    (change : before.FileWritten place content after) : after.Receives parent name := by
  obtain ⟨permissions, inside, searchable, room⟩ := receives
  refine ⟨permissions, change.directory_iff.2 inside, change.caller ▸ searchable, ?_⟩
  rcases room with ⟨free, writable⟩ | rewritable
  · rw [change.caller]
    exact (change.free_or_rewritable free).imp_left fun free => ⟨free, writable⟩
  · exact .inr (rewritable.written change)

/-- A directory that receives a file without the link does so with it. -/
theorem of_withdrawn (gone : before.Withdrawn link bare) (other : link ≠ name :: parent)
    (receives : bare.Receives parent name) : before.Receives parent name := by
  obtain ⟨permissions, inside, searchable, room⟩ := receives
  rw [gone.tree, if_neg (gone.not_suffix_cons inside other), gone.caller] at room
  exact ⟨permissions, gone.within.keeps _ _ inside, gone.caller ▸ searchable,
    room.imp_right (Rewritable.of_withdrawn gone)⟩

variable {base : HostPath} {node : Node}

theorem noLink (receives : files.Receives parent name) (found : files.find base = .ok (parent, node))
    (plain : PlainName name) (target : HostPath) :
    files.findLink (base.join ⟨name⟩) ≠ .ok (.link target) := by
  obtain ⟨permissions, inside, searchable, room⟩ := receives
  exact noLink_of_free_or_rewritable found plain (room.imp_left And.left) target

theorem write (receives : files.Receives parent name) (found : files.find base = .ok (parent, node))
    (plain : PlainName name) (short : name.length ≤ longestName)
    (accepted : (base.join ⟨name⟩).refusal? = none) (content : Bytes) :
    ∃ after, files.write (base.join ⟨name⟩) content = .ok after ∧
      files.FileWritten (name :: parent) content after := by
  obtain ⟨permissions, inside, searchable, ⟨free, writable⟩ | rewritable⟩ := receives
  · obtain ⟨links, arrives⟩ := arrive_way found
    have ends : files.resolve .produce (base.join ⟨name⟩) = .ok (.vacant parent name) := by
      rw [resolve_eq, accepted, start_join base plain, HostPath.steps_join base plain,
        walk_append (by simp) (by simp), arrives]
      apply mapError_eq_ok.2
      show files.walk .produce links parent [.enter name] = _
      cases links with
      | zero => exact walkFrom_vacant inside searchable short free
      | succ links => exact walkFrom_vacant inside searchable short free
    refine ⟨_, ?_, fileWritten_put (.inl ⟨free, rfl⟩)⟩
    rw [FileSystem.write, ends]
    simp [bind, Except.bind, inside, writable]
  · exact rewritable.write found inside searchable plain short accepted content

end Receives

/-- A walk that ends with a name has found the name short enough. -/
theorem short_of_arrive {links : Nat} {location : Location} {arrived : Location × Nat}
    (arrives : files.arrive links location [.enter name] = .ok arrived) :
    name.length ≤ longestName := by
  cases entry : files.entryIn location name with
  | ok node =>
    obtain ⟨_, _, _, short, _⟩ := entryIn_eq_ok_iff.1 entry
    exact short
  | error errno =>
    have stuck : files.stepFrom location (.enter name) = .error errno := by
      rw [stepFrom_enter, entry]
      rfl
    cases links with
    | zero => simp [arrive, arriveFrom, stuck] at arrives
    | succ links => simp [arrive, arriveFrom, stuck] at arrives

/-- A write to an entry of an entry succeeds only where the host accepts both the name and the path. -/
theorem short_of_write {upper : HostPath} {inner : Name} (plainParent : PlainName name)
    (plain : PlainName inner)
    (wrote : files.write ((upper.join ⟨name⟩).join ⟨inner⟩) content = .ok after) :
    name.length ≤ longestName ∧ ((upper.join ⟨name⟩).join ⟨inner⟩).refusal? = none := by
  obtain ⟨landing, ends, _⟩ := fileWritten_of_write wrote
  obtain ⟨accepted, location, links, permissions, arrives, _⟩ := entered_of_resolve plain ends
  refine ⟨?_, accepted⟩
  rw [HostPath.way_join upper plainParent, arrive_append] at arrives
  cases reached : files.arrive linkLimit (files.start (upper.join ⟨name⟩)) upper.way with
  | error errno => simp [reached, Except.bind] at arrives
  | ok place =>
    rw [reached] at arrives
    exact short_of_arrive arrives

end FileSystem
end SingleRoot.Host
