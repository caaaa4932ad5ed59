/-
# What a write leaves alone

A walk takes no step from a file. After a write it therefore arrives where it arrived before; all that
a new file adds is an end for walks that had none. Directories and links are found exactly as before
the write, while a file that is found may have another content.
-/
import SingleRoot.Proofs.Host.Writing

namespace SingleRoot.Host.FileSystem.FileWritten

variable {before after : FileSystem} {written : Location} {content : Bytes}

theorem start (change : before.FileWritten written content after) (path : HostPath) :
    after.start path = before.start path := by
  rw [FileSystem.start, FileSystem.start, change.workingDirectory]

/-- Whatever is no file stands after a write where it stood before, and nothing else of its kind
does. -/
theorem node?_iff (change : before.FileWritten written content after) {location : Location}
    {node : Node} (noFile : ∀ permissions old, node ≠ .file permissions old) :
    after.tree.node? location = some node ↔ before.tree.node? location = some node := by
  by_cases here : location = written
  · subst here
    rcases change.here with ⟨free, now⟩ | ⟨permissions, old, stood, now⟩
    · rw [free, now]
      have other := noFile .newFile content
      grind
    · rw [stood, now]
      have other := noFile permissions content
      have former := noFile permissions old
      grind
  · rw [change.elsewhere location here]

theorem directory_iff (change : before.FileWritten written content after) {location : Location}
    {permissions : Permissions} :
    after.tree.node? location = some (.directory permissions) ↔
      before.tree.node? location = some (.directory permissions) :=
  change.node?_iff (by simp)

theorem entryIn_link_iff (change : before.FileWritten written content after)
    {directory : Location} {name : Name} {node : Node}
    (noFile : ∀ permissions old, node ≠ .file permissions old) :
    after.entryIn directory name = .ok node ↔ before.entryIn directory name = .ok node := by
  rw [entryIn_eq_ok_iff, entryIn_eq_ok_iff, change.caller]
  simp only [change.node?_iff noFile, change.directory_iff]

theorem entryIn_file (change : before.FileWritten written content after)
    {directory : Location} {name : Name} {permissions : Permissions} {old : Bytes}
    (stands : before.entryIn directory name = .ok (.file permissions old)) :
    ∃ now, after.entryIn directory name = .ok (.file permissions now) := by
  obtain ⟨parent, inside, searchable, short, there⟩ := entryIn_eq_ok_iff.1 stands
  have insideAfter := change.directory_iff.2 inside
  by_cases here : name :: directory = written
  · rcases change.here with ⟨free, _⟩ | ⟨kept, former, stood, now⟩
    · simp [here, free] at there
    · rw [here, stood] at there
      cases there
      exact ⟨content, entryIn_eq_ok_iff.2
        ⟨parent, insideAfter, change.caller ▸ searchable, short, here ▸ now⟩⟩
  · exact ⟨old, entryIn_eq_ok_iff.2 ⟨parent, insideAfter, change.caller ▸ searchable, short,
      (change.elsewhere _ here).trans there⟩⟩

theorem entryIn_file_back (change : before.FileWritten written content after)
    {directory : Location} {name : Name} {permissions : Permissions} {now : Bytes}
    (stands : after.entryIn directory name = .ok (.file permissions now)) :
    (∃ old, before.entryIn directory name = .ok (.file permissions old)) ∨
      (name :: directory = written ∧ before.tree.node? written = none) := by
  obtain ⟨parent, inside, searchable, short, there⟩ := entryIn_eq_ok_iff.1 stands
  have insideBefore := change.directory_iff.1 inside
  by_cases here : name :: directory = written
  · rcases change.here with ⟨free, _⟩ | ⟨kept, former, stood, current⟩
    · exact .inr ⟨here, free⟩
    · rw [here, current] at there
      cases there
      exact .inl ⟨former, entryIn_eq_ok_iff.2
        ⟨parent, insideBefore, change.caller ▸ searchable, short, here ▸ stood⟩⟩
  · exact .inl ⟨now, entryIn_eq_ok_iff.2 ⟨parent, insideBefore, change.caller ▸ searchable, short,
      (change.elsewhere _ here).symm.trans there⟩⟩

/-- A step that does not enter an entry depends on the directory that it is taken from. -/
theorem stepFrom_iff_of_stay (change : before.FileWritten written content after)
    {location : Location} {step : Step} {footing : Footing} (stays : ∀ name, step ≠ .enter name) :
    after.stepFrom location step = .ok footing ↔ before.stepFrom location step = .ok footing := by
  have agree {permissions : Permissions}
      (inside : before.tree.node? location = some (.directory permissions)) :
      after.stepFrom location step = before.stepFrom location step := by
    rw [FileSystem.stepFrom, FileSystem.stepFrom, change.caller, inside,
      change.directory_iff.2 inside]
    cases step with
    | enter name => exact absurd rfl (stays name)
    | settle => rfl
    | stay => rfl
    | ascend => rfl
  constructor
  · intro leads
    obtain ⟨_, inside⟩ := inside_of_stepFrom leads
    rw [← agree (change.directory_iff.1 inside)]
    exact leads
  · intro leads
    obtain ⟨_, inside⟩ := inside_of_stepFrom leads
    rw [agree inside]
    exact leads

theorem stepFrom (change : before.FileWritten written content after) {location : Location}
    {step : Step} {footing : Footing} (leads : before.stepFrom location step = .ok footing) :
    after.stepFrom location step = .ok footing := by
  cases step with
  | settle => exact (change.stepFrom_iff_of_stay (by simp)).2 leads
  | stay => exact (change.stepFrom_iff_of_stay (by simp)).2 leads
  | ascend => exact (change.stepFrom_iff_of_stay (by simp)).2 leads
  | enter name =>
    rw [stepFrom_enter] at leads ⊢
    cases entry : before.entryIn location name with
    | error errno => simp [entry, Except.map] at leads
    | ok node =>
      rw [entry] at leads
      cases node with
      | file permissions old =>
        obtain ⟨now, entryAfter⟩ := change.entryIn_file entry
        rw [entryAfter]
        exact leads
      | directory _ =>
        rw [(change.entryIn_link_iff (by simp)).2 entry]
        exact leads
      | link _ =>
        rw [(change.entryIn_link_iff (by simp)).2 entry]
        exact leads

theorem stepFrom_back (change : before.FileWritten written content after) {location : Location}
    {step : Step} {footing : Footing} (leads : after.stepFrom location step = .ok footing) :
    before.stepFrom location step = .ok footing ∨
      (footing = .at written ∧ before.tree.node? written = none) := by
  cases step with
  | settle => exact .inl ((change.stepFrom_iff_of_stay (by simp)).1 leads)
  | stay => exact .inl ((change.stepFrom_iff_of_stay (by simp)).1 leads)
  | ascend => exact .inl ((change.stepFrom_iff_of_stay (by simp)).1 leads)
  | enter name =>
    rw [stepFrom_enter] at leads ⊢
    cases entry : after.entryIn location name with
    | error errno => simp [entry, Except.map] at leads
    | ok node =>
      rw [entry] at leads
      cases node with
      | file permissions now =>
        cases leads
        rcases change.entryIn_file_back entry with ⟨old, entryBefore⟩ | ⟨here, free⟩
        · rw [entryBefore]
          exact .inl rfl
        · exact .inr ⟨congrArg Footing.at here, free⟩
      | directory _ =>
        rw [(change.entryIn_link_iff (by simp)).1 entry]
        exact .inl leads
      | link _ =>
        rw [(change.entryIn_link_iff (by simp)).1 entry]
        exact .inl leads

theorem arriveFrom (change : before.FileWritten written content after) {links : Nat}
    {former latter : Location → List Step → Except Errno (Location × Nat)}
    (there : ∀ {location steps place}, former location steps = .ok place →
      latter location steps = .ok place)
    {location : Location} {steps : List Step} {place : Location × Nat}
    (arrives : before.arriveFrom links former location steps = .ok place) :
    after.arriveFrom links latter location steps = .ok place := by
  induction steps generalizing location with
  | nil => exact arrives
  | cons step steps ih =>
    rw [FileSystem.arriveFrom] at arrives ⊢
    cases leads : before.stepFrom location step with
    | error errno => simp [leads] at arrives
    | ok footing =>
      rw [leads] at arrives
      rw [change.stepFrom leads]
      cases footing with
      | «at» next => exact ih arrives
      | detour start inner => exact there arrives

/-- A way that could be gone before a write can be gone after it. -/
theorem arrive (change : before.FileWritten written content after) {links : Nat}
    {location : Location} {steps : List Step} {place : Location × Nat}
    (arrives : before.arrive links location steps = .ok place) :
    after.arrive links location steps = .ok place := by
  induction links generalizing location steps place with
  | zero => exact change.arriveFrom (by simp) arrives
  | succ links ih => exact change.arriveFrom ih arrives

theorem arriveFrom_back (change : before.FileWritten written content after) {links : Nat}
    {former latter : Location → List Step → Except Errno (Location × Nat)}
    (there : ∀ {location steps place}, latter location steps = .ok place →
      former location steps = .ok place ∨
        (place.1 = written ∧ before.tree.node? written = none))
    {location : Location} {steps : List Step} {place : Location × Nat}
    (arrives : after.arriveFrom links latter location steps = .ok place) :
    before.arriveFrom links former location steps = .ok place ∨
      (place.1 = written ∧ before.tree.node? written = none) := by
  induction steps generalizing location with
  | nil => exact .inl arrives
  | cons step steps ih =>
    rw [FileSystem.arriveFrom] at arrives
    cases leads : after.stepFrom location step with
    | error errno => simp [leads] at arrives
    | ok footing =>
      rw [leads] at arrives
      rcases change.stepFrom_back leads with leadsBefore | ⟨rfl, free⟩
      · rw [FileSystem.arriveFrom, leadsBefore]
        cases footing with
        | «at» next => exact ih arrives
        | detour start inner => exact there arrives
      · cases steps with
        | nil =>
          cases arrives
          exact .inr ⟨rfl, free⟩
        | cons further rest =>
          -- the new file stands here, and no step can be taken from a file
          change after.arriveFrom links latter written (further :: rest) = .ok place at arrives
          rw [FileSystem.arriveFrom] at arrives
          cases leads : after.stepFrom written further with
          | error errno => simp [leads] at arrives
          | ok footing =>
            obtain ⟨permissions, inside⟩ := inside_of_stepFrom leads
            have insideBefore := change.directory_iff.1 inside
            simp [free] at insideBefore

/-- A way that can be gone after a write could be gone before it, unless it ends at a file that is
new. -/
theorem arrive_back (change : before.FileWritten written content after) {links : Nat}
    {location : Location} {steps : List Step} {place : Location × Nat}
    (arrives : after.arrive links location steps = .ok place) :
    before.arrive links location steps = .ok place ∨
      (place.1 = written ∧ before.tree.node? written = none) := by
  induction links generalizing location steps place with
  | zero => exact change.arriveFrom_back (by simp) arrives
  | succ links ih => exact change.arriveFrom_back ih arrives

/-- What a path leads to is found after a write where it was found before. -/
theorem find (change : before.FileWritten written content after) {path : HostPath}
    {location : Location} {node : Node} (found : before.find path = .ok (location, node)) :
    ∃ now, after.tree.node? location = some now ∧ after.find path = .ok (location, now) := by
  obtain ⟨accepted, ⟨links, arrives⟩, stands⟩ := find_eq_ok_iff.1 found
  have arrivesAfter := change.arrive arrives
  rw [← change.start] at arrivesAfter
  have stays : ∃ now, after.tree.node? location = some now := by
    by_cases here : location = written
    · subst here
      rcases change.here with ⟨_, now⟩ | ⟨_, _, _, now⟩
      · exact ⟨_, now⟩
      · exact ⟨_, now⟩
    · exact ⟨node, (change.elsewhere location here).trans stands⟩
  obtain ⟨now, standsAfter⟩ := stays
  exact ⟨now, standsAfter, find_eq_ok_iff.2 ⟨accepted, ⟨links, arrivesAfter⟩, standsAfter⟩⟩

/-- A file is found after a write where it was found before, with its old content unless it is the file
that has been written. -/
theorem find_file (change : before.FileWritten written content after) {path : HostPath}
    {location : Location} {permissions : Permissions} {old : Bytes}
    (found : before.find path = .ok (location, .file permissions old)) :
    after.find path =
      .ok (location, .file permissions (if location = written then content else old)) := by
  obtain ⟨now, stands, foundAfter⟩ := change.find found
  obtain ⟨_, _, stood⟩ := find_eq_ok_iff.1 found
  rw [foundAfter]
  by_cases here : location = written
  · subst here
    rw [if_pos rfl]
    rcases change.here with ⟨free, _⟩ | ⟨kept, former, standing, current⟩
    · simp [free] at stood
    · cases stood.symm.trans standing
      cases stands.symm.trans current
      rfl
  · rw [if_neg here]
    rw [change.elsewhere location here, stood] at stands
    cases stands
    rfl

/-- A directory is found after a write exactly where it was found before. -/
theorem find_directory_iff (change : before.FileWritten written content after) {path : HostPath}
    {location : Location} {permissions : Permissions} :
    after.find path = .ok (location, .directory permissions) ↔
      before.find path = .ok (location, .directory permissions) := by
  constructor
  · intro found
    obtain ⟨accepted, ⟨links, arrives⟩, stands⟩ := find_eq_ok_iff.1 found
    rw [change.start] at arrives
    rcases change.arrive_back arrives with arrivesBefore | ⟨rfl, free⟩
    · exact find_eq_ok_iff.2 ⟨accepted, ⟨links, arrivesBefore⟩, change.directory_iff.1 stands⟩
    · have stoodBefore := change.directory_iff.1 stands
      simp [free] at stoodBefore
  · intro found
    obtain ⟨now, standsAfter, foundAfter⟩ := change.find found
    obtain ⟨_, _, stands⟩ := find_eq_ok_iff.1 found
    rw [change.directory_iff.2 stands] at standsAfter
    cases standsAfter
    exact foundAfter

/-- A write makes no link and unmakes none. -/
theorem findLink_link_iff (change : before.FileWritten written content after) {base : HostPath}
    {name : Name} (plain : PlainName name) {target : HostPath} :
    after.findLink (base.join ⟨name⟩) = .ok (.link target) ↔
      before.findLink (base.join ⟨name⟩) = .ok (.link target) := by
  rw [findLink_join base plain, findLink_join base plain, change.start]
  cases (base.join ⟨name⟩).refusal? with
  | some fault => simp
  | none =>
    simp only [mapError_eq_ok]
    constructor
    · intro seen
      cases arrives : after.arrive linkLimit (before.start base) base.way with
      | error errno => simp [arrives, Except.bind] at seen
      | ok place =>
        simp only [arrives, Except.bind] at seen
        rcases change.arrive_back arrives with arrivesBefore | ⟨here, free⟩
        · simpa only [arrivesBefore, Except.bind] using
            (change.entryIn_link_iff (by simp)).1 seen
        · have seenBefore := (change.entryIn_link_iff (by simp)).1 seen
          obtain ⟨_, inside, _⟩ := entryIn_eq_ok_iff.1 seenBefore
          simp [here, free] at inside
    · intro seen
      cases arrives : before.arrive linkLimit (before.start base) base.way with
      | error errno => simp [arrives, Except.bind] at seen
      | ok place =>
        simp only [arrives, Except.bind] at seen
        simpa only [change.arrive arrives, Except.bind] using
          (change.entryIn_link_iff (by simp)).2 seen

end SingleRoot.Host.FileSystem.FileWritten
