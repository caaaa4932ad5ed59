/-
# What an entry says about its directory

A walk that gets as far as the last name of a path has been in the directory before it. So an access to an
entry, of whatever kind, succeeds only where the directory is there and may be searched, and a path that has
lost its directory has lost all its entries with it.
-/
import SingleRoot.Proofs.Host.ReadBack

namespace SingleRoot.Host

namespace HostPath

variable {name : Name}

theorem bytes_join_ne_nil (base : HostPath) (plain : PlainName name) : (base.join ⟨name⟩).bytes ≠ [] := by
  have longer := length_lt_join base plain
  intro empty
  simp [empty] at longer

theorem steps_join_eq_way (base : HostPath) (plain : PlainName name) :
    (base.join ⟨name⟩).steps = (base.join ⟨name⟩).way := by
  rw [steps_join base plain, way_join base plain]

/-- What is no path to the host cannot be continued to one by a plain name, unless it is empty. -/
theorem refusal?_of_join {base : HostPath} (plain : PlainName name) (filled : base.bytes ≠ [])
    (accepted : (base.join ⟨name⟩).refusal? = none) : base.refusal? = none := by
  obtain ⟨clean, _, short⟩ := refusal?_eq_none_iff.1 accepted
  refine refusal?_eq_none_iff.2 ⟨?_, filled, ?_⟩
  · intro among
    exact clean ((zero_mem_join base plain).2 (.inl among))
  · exact Nat.le_trans (Nat.le_of_lt (length_lt_join base plain)) short

end HostPath

namespace FileSystem

variable {files : FileSystem} {manner : Manner} {base upper : HostPath} {name parent : Name}
  {landing : Landing}

/-- A walk to an entry arrives in a directory that may be searched. -/
theorem entered_of_resolve (plain : PlainName name)
    (ends : files.resolve manner (base.join ⟨name⟩) = .ok landing) :
    (base.join ⟨name⟩).refusal? = none ∧
      ∃ location links permissions,
        files.arrive linkLimit (files.start base) base.way = .ok (location, links) ∧
        files.tree.node? location = some (.directory permissions) ∧
        files.caller.may permissions.search = true := by
  rw [resolve_eq, start_join base plain, HostPath.steps_join base plain,
    walk_append (by simp) (by simp)] at ends
  cases accepted : (base.join ⟨name⟩).refusal? with
  | some fault => simp [accepted] at ends
  | none =>
    rw [accepted] at ends
    refine ⟨rfl, ?_⟩
    cases arrives : files.arrive linkLimit (files.start base) base.way with
    | error errno => simp [arrives, Except.bind] at ends
    | ok place =>
      obtain ⟨location, links⟩ := place
      simp only [arrives, Except.bind, mapError_eq_ok] at ends
      have entered : ∃ permissions, files.tree.node? location = some (.directory permissions) ∧
          files.caller.may permissions.search = true ∧ name.length ≤ longestName := by
        cases links with
        | zero => exact entered_of_walkFrom ends
        | succ links => exact entered_of_walkFrom ends
      obtain ⟨permissions, inside, searchable, _⟩ := entered
      exact ⟨location, links, permissions, rfl, inside, searchable⟩

/-- Where an access to an entry succeeds, the path without the entry leads to a directory. -/
theorem find_of_resolve_entry (plainParent : PlainName parent) (plain : PlainName name)
    (ends : files.resolve manner ((upper.join ⟨parent⟩).join ⟨name⟩) = .ok landing) :
    ∃ location permissions, files.find (upper.join ⟨parent⟩) = .ok (location, .directory permissions) ∧
      files.caller.may permissions.search = true := by
  obtain ⟨accepted, location, links, permissions, arrives, inside, searchable⟩ :=
    entered_of_resolve plain ends
  refine ⟨location, permissions, ?_, searchable⟩
  rw [find_eq_ok_iff, HostPath.steps_join_eq_way upper plainParent]
  exact ⟨HostPath.refusal?_of_join plain (HostPath.bytes_join_ne_nil upper plainParent) accepted,
    ⟨links, arrives⟩, inside⟩

/-- Where a path leads nowhere, its entries cannot be looked at either, and for the same reason. -/
theorem findLink_of_lost {fault : Fault} (plainParent : PlainName parent) (plain : PlainName name)
    (accepted : ((upper.join ⟨parent⟩).join ⟨name⟩).refusal? = none)
    (lost : files.find (upper.join ⟨parent⟩) = .error fault) :
    files.findLink ((upper.join ⟨parent⟩).join ⟨name⟩) = .error fault := by
  rw [findLink_join _ plain, accepted]
  rw [find_eq, HostPath.refusal?_of_join plain (HostPath.bytes_join_ne_nil upper plainParent) accepted,
    HostPath.steps_join_eq_way upper plainParent] at lost
  revert lost
  cases files.arrive linkLimit (files.start (upper.join ⟨parent⟩)) (upper.join ⟨parent⟩).way with
  | error errno => simp [Except.bind]
  | ok place =>
    simp only [Except.bind, standing, entryIn]
    cases files.tree.node? place.1 <;> simp

end FileSystem
end SingleRoot.Host
