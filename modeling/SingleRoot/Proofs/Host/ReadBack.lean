/-
# Reading what was written

A walk that is going to write goes the way of a look, except that it may end at a name that is still free.
Once the file is there, a look along the same path goes on to it. So what a write has written is what its
path leads to from then on, also where the path goes through a link that led nowhere before.
-/
import SingleRoot.Proofs.Host.Keeping

namespace SingleRoot.Host.FileSystem

variable {before after : FileSystem} {content : Bytes}

/-- A walk that ends with the entering of a name has looked for that name in a directory. -/
theorem entered_of_walkFrom {files : FileSystem} {manner : Manner}
    {detour : Location → List Step → Except Errno Landing} {location : Location} {name : Name}
    {landing : Landing}
    (ends : files.walkFrom manner detour location [.enter name] = .ok landing) :
    ∃ permissions, files.tree.node? location = some (.directory permissions) ∧
      files.caller.may permissions.search = true ∧ name.length ≤ longestName := by
  rw [walkFrom] at ends
  cases inside : files.tree.node? location with
  | none => simp [inside] at ends
  | some node =>
    cases node with
    | file _ _ => simp [inside] at ends
    | link _ => simp [inside] at ends
    | directory permissions =>
      simp only [inside] at ends
      split at ends
      · cases ends
      rename_i searchable
      split at ends
      · cases ends
      split at ends
      · cases ends
      rename_i short
      exact ⟨permissions, rfl, by simpa using searchable, Nat.le_of_not_lt short⟩

namespace FileWritten

variable {landing : Landing}

theorem stands {written : Location} (change : before.FileWritten written content after) :
    ∃ permissions, after.tree.node? written = some (.file permissions content) := by
  rcases change.here with ⟨_, now⟩ | ⟨permissions, _, _, now⟩
  · exact ⟨_, now⟩
  · exact ⟨permissions, now⟩

/-- After a write the steps of its walk lead to the file. The induction is on the steps; what is to be
known of links comes from outside. -/
theorem arriveFrom_written (change : before.FileWritten landing.location content after)
    {links : Nat} {former : Location → List Step → Except Errno Landing}
    {latter : Location → List Step → Except Errno (Location × Nat)}
    (there : ∀ {location steps}, former location steps = .ok landing →
      ∃ left, latter location steps = .ok (landing.location, left))
    {location : Location} {steps : List Step}
    (ends : before.walkFrom .produce former location steps = .ok landing) :
    ∃ left, after.arriveFrom links latter location steps = .ok (landing.location, left) := by
  induction steps generalizing location with
  | nil =>
    rw [walkFrom] at ends
    split at ends
    · cases ends
      exact ⟨links, rfl⟩
    · cases ends
  | cons step rest ih =>
    rw [FileSystem.arriveFrom]
    rcases walkFrom_cons_eq_ok ends with
      ⟨next, leads, ends⟩ | ⟨start, inner, leads, ends⟩ | ⟨rfl, _, ⟨name, rfl, at_⟩, _⟩
    · rw [change.stepFrom leads]
      exact ih ends
    · rw [change.stepFrom leads]
      exact there ends
    · -- the walk has ended at a name, under which the file stands now
      obtain ⟨permissions, inside, searchable, short⟩ := entered_of_walkFrom ends
      obtain ⟨granted, now⟩ := change.stands
      have entry : after.entryIn location name = .ok (.file granted content) := by
        rw [entryIn_eq_ok_iff, change.caller]
        exact ⟨permissions, change.directory_iff.2 inside, searchable, short, at_ ▸ now⟩
      rw [stepFrom_enter, entry, at_]
      exact ⟨links, rfl⟩

theorem arrive_written (change : before.FileWritten landing.location content after) {links : Nat}
    {location : Location} {steps : List Step}
    (ends : before.walk .produce links location steps = .ok landing) :
    ∃ left, after.arrive links location steps = .ok (landing.location, left) := by
  induction links generalizing location steps with
  | zero => exact change.arriveFrom_written (by simp) ends
  | succ links ih => exact change.arriveFrom_written ih ends

end FileWritten

/-- After a write its path leads to the place of the write. -/
theorem find_of_landing {path : HostPath} {landing : Landing} {node : Node}
    (ends : before.resolve .produce path = .ok landing)
    (change : before.FileWritten landing.location content after)
    (stands : after.tree.node? landing.location = some node) :
    after.find path = .ok (landing.location, node) := by
  rw [resolve_eq] at ends
  cases accepted : path.refusal? with
  | some fault => simp [accepted] at ends
  | none =>
    rw [accepted] at ends
    have arrives := change.arrive_written (mapError_eq_ok.1 ends)
    rw [← change.start] at arrives
    exact find_eq_ok_iff.2 ⟨accepted, arrives, stands⟩

/-- What has been written is what the path leads to afterwards. -/
theorem find_of_write {path : HostPath} (written : before.write path content = .ok after) :
    ∃ location permissions, after.find path = .ok (location, .file permissions content) := by
  obtain ⟨landing, ends, change⟩ := fileWritten_of_write written
  obtain ⟨permissions, stands⟩ := change.stands
  exact ⟨landing.location, permissions, find_of_landing ends change stands⟩

end SingleRoot.Host.FileSystem
