/-
# What a write does

A write changes one file and leaves everything else as it was. `FileWritten` says so of two file
systems, by the location of the file, and `fileWritten_of_write` shows that every write that succeeds
is such a change. What follows from it for paths is in `SingleRoot.Proofs.Host.Keeping`.

A write goes to the place where a read of the same path finds its file. That is less plain than it
seems, because a walk that is going to make a file refuses to settle in a directory that it would have
to make.
-/
import SingleRoot.Proofs.Host.Arrival

namespace SingleRoot.Host

/-- The place that the end of a walk is about. -/
def Landing.location : Landing → Location
  | .present location _ => location
  | .vacant parent name => name :: parent

namespace Tree

variable {tree : Tree} {location other : Location} {node : Node}

theorem lookup_replace (rows : List (Location × Node)) :
    (rows.map fun row => if row.1 = location then (location, node) else row).lookup other =
      if other = location then (rows.lookup other).map fun _ => node else rows.lookup other := by
  induction rows with
  | nil => simp
  | cons row rest ih =>
    obtain ⟨first, stood⟩ := row
    by_cases here : first = location
    · subst here
      by_cases sought : other = first
      · simp [sought]
      · simp [sought, ih, List.lookup_cons, beq_eq_false_iff_ne.2 sought]
    · by_cases sought : other = first
      · simp [sought, here]
      · simp [here, ih, List.lookup_cons, beq_eq_false_iff_ne.2 sought]

/-- Putting a node somewhere sets what stands there and nothing else. -/
theorem node?_put (notRoot : location ≠ []) :
    (tree.put location node).node? other =
      if other = location then some node else tree.node? other := by
  obtain ⟨name, parent, rfl⟩ := List.exists_cons_of_ne_nil notRoot
  cases other with
  | nil => simp
  | cons first above =>
    rw [node?_cons, node?_cons, put]
    by_cases stood : (tree.rows.lookup (name :: parent)).isSome
    · rw [if_pos stood]
      obtain ⟨old, found⟩ := Option.isSome_iff_exists.1 stood
      rw [lookup_replace]
      by_cases sought : first :: above = name :: parent
      · rw [if_pos sought, if_pos sought, sought, found]
        rfl
      · rw [if_neg sought, if_neg sought]
    · rw [if_neg stood]
      have free : tree.rows.lookup (name :: parent) = none :=
        Option.not_isSome_iff_eq_none.1 stood
      rw [List.lookup_append]
      by_cases sought : first :: above = name :: parent
      · rw [if_pos sought, sought, free]
        simp
      · rw [if_neg sought, List.lookup_cons, beq_eq_false_iff_ne.2 sought]
        simp

/-- What a directory lists is what stands in it. -/
theorem mem_children {directory : Location} {name : Name} :
    name ∈ tree.children directory ↔ (tree.node? (name :: directory)).isSome := by
  rw [children, List.mem_eraseDups, List.mem_filterMap, node?_cons, List.lookup_isSome_iff]
  constructor
  · rintro ⟨⟨place, node⟩, among, named⟩
    refine ⟨(place, node), among, ?_⟩
    cases place with
    | nil => simp [entryName?] at named
    | cons first parent =>
      simp only [entryName?, Option.ite_none_right_eq_some, Option.some.injEq] at named
      simp [named.1, named.2]
  · rintro ⟨⟨place, node⟩, among, same⟩
    refine ⟨(place, node), among, ?_⟩
    have stands : name :: directory = place := by simpa using same
    simp [← stands, entryName?]

theorem nodup_eraseDups (names : List Name) : names.eraseDups.Nodup := by
  cases names with
  | nil => simp
  | cons name rest =>
    rw [List.eraseDups_cons]
    refine List.nodup_cons.2 ⟨?_, nodup_eraseDups _⟩
    intro among
    have other := (List.mem_filter.1 (List.mem_eraseDups.1 among)).2
    simp at other
termination_by names.length
decreasing_by
  have shorter := List.length_filter_le (fun other => !other == name) rest
  simp only [List.length_cons]
  omega

/-- A directory lists a name once. -/
theorem nodup_children (tree : Tree) (directory : Location) : (tree.children directory).Nodup :=
  nodup_eraseDups _

/-- Replacing what stands somewhere changes no listing. -/
theorem children_put_of_isSome {directory : Location} (notRoot : location ≠ [])
    (stood : (tree.node? location).isSome) :
    (tree.put location node).children directory = tree.children directory := by
  obtain ⟨name, parent, rfl⟩ := List.exists_cons_of_ne_nil notRoot
  rw [node?_cons] at stood
  rw [put, if_pos stood, children, children, List.filterMap_map]
  congr 2
  funext row
  by_cases here : row.1 = name :: parent <;> simp [here]

end Tree

namespace FileSystem

variable {files : FileSystem} {manner : Manner}

/-! ## What a walk ends with -/

/-- What the end of a walk says about the tree. -/
def Holds (files : FileSystem) : Landing → Prop
  | .present location node => files.tree.node? location = some node
  | .vacant parent name => files.tree.node? (name :: parent) = none

/-- The ways in which a step can be the start of a walk that ends somewhere: it leads on to a
location, it leads into a link, or the walk ends with it, at a free name or at a link. -/
theorem walkFrom_cons_eq_ok {detour : Location → List Step → Except Errno Landing}
    {location : Location} {step : Step} {rest : List Step} {landing : Landing}
    (ends : files.walkFrom manner detour location (step :: rest) = .ok landing) :
    (∃ next, files.stepFrom location step = .ok (.at next) ∧
      files.walkFrom manner detour next rest = .ok landing) ∨
    (∃ start steps, files.stepFrom location step = .ok (.detour start steps) ∧
      detour start (steps ++ rest) = .ok landing) ∨
    (rest = [] ∧ files.Holds landing ∧
      (∃ name, step = .enter name ∧ landing.location = name :: location) ∧
      (manner.followLast = true → ∃ name, landing = .vacant location name)) := by
  revert ends
  rw [walkFrom, stepFrom]
  cases files.tree.node? location with
  | none => simp
  | some node =>
    cases node with
    | file _ _ => simp
    | link _ => simp
    | directory permissions =>
      cases step with
      | settle => exact fun ends => .inl ⟨location, rfl, ends⟩
      | stay =>
        dsimp only
        split
        · exact fun ends => .inl ⟨location, rfl, ends⟩
        · simp
      | ascend =>
        dsimp only
        split
        · exact fun ends => .inl ⟨location.tail, rfl, ends⟩
        · simp
      | enter name =>
        dsimp only
        split
        · simp
        split
        · simp
        split
        · simp
        cases entry : files.tree.node? (name :: location) with
        | none =>
          dsimp only
          split
          · rename_i ended
            intro ends
            cases ends
            exact .inr (.inr ⟨by simpa using ended, entry, ⟨name, rfl, rfl⟩, fun _ => ⟨name, rfl⟩⟩)
          · simp
        | some next =>
          cases next with
          | link target =>
            dsimp only
            split
            · rename_i ended
              intro ends
              cases ends
              exact .inr (.inr ⟨by simp_all, entry, ⟨name, rfl, rfl⟩, by simp_all⟩)
            · exact fun ends => .inr (.inl ⟨_, _, rfl, ends⟩)
          | directory _ => exact fun ends => .inl ⟨_, rfl, ends⟩
          | file _ _ => exact fun ends => .inl ⟨_, rfl, ends⟩

theorem holds_of_walkFrom {detour : Location → List Step → Except Errno Landing}
    (there : ∀ {location steps landing}, detour location steps = .ok landing → files.Holds landing)
    {location : Location} {steps : List Step} {landing : Landing}
    (ends : files.walkFrom manner detour location steps = .ok landing) :
    files.Holds landing := by
  induction steps generalizing location with
  | nil =>
    rw [walkFrom] at ends
    revert ends
    cases stands : files.tree.node? location with
    | none => simp
    | some node =>
      intro ends
      cases ends
      exact stands
  | cons step steps ih =>
    rcases walkFrom_cons_eq_ok ends with ⟨next, _, ends⟩ | ⟨start, inner, _, ends⟩ | ⟨_, holds, _⟩
    · exact ih ends
    · exact there ends
    · exact holds

/-- A walk tells the truth about the place where it ends. -/
theorem holds_of_walk {links : Nat} {location : Location} {steps : List Step} {landing : Landing}
    (ends : files.walk manner links location steps = .ok landing) : files.Holds landing := by
  induction links generalizing location steps landing with
  | zero => exact holds_of_walkFrom (by simp) ends
  | succ links ih => exact holds_of_walkFrom ih ends

theorem holds_of_resolve {path : HostPath} {landing : Landing}
    (ends : files.resolve manner path = .ok landing) : files.Holds landing := by
  rw [resolve_eq] at ends
  revert ends
  cases path.refusal? with
  | some fault => simp
  | none =>
    cases walked : files.walk manner linkLimit (files.start path) path.steps with
    | error errno => simp
    | ok other =>
      intro ends
      cases ends
      exact holds_of_walk walked

/-- What a path names stands somewhere. -/
theorem stands_of_findLink {path : HostPath} {node : Node}
    (found : files.findLink path = .ok node) :
    ∃ location, files.tree.node? location = some node := by
  obtain ⟨location, ends⟩ := resolve_of_findLink found
  exact ⟨location, holds_of_resolve ends⟩

/-! ## Walks that end at a file -/

/-- A step that leads anywhere is taken from a directory. -/
theorem inside_of_stepFrom {location : Location} {step : Step} {footing : Footing}
    (leads : files.stepFrom location step = .ok footing) :
    ∃ permissions, files.tree.node? location = some (.directory permissions) := by
  rw [stepFrom] at leads
  cases stands : files.tree.node? location with
  | none => simp [stands] at leads
  | some node =>
    cases node with
    | directory permissions => exact ⟨permissions, rfl⟩
    | file _ _ => simp [stands] at leads
    | link _ => simp [stands] at leads

/-- A step does the same in every walk that follows links to the end, a walk that is going to make
something being stopped only where a directory would have to be made. -/
theorem walkFrom_of_stepFrom {detour : Location → List Step → Except Errno Landing}
    {location : Location} {step : Step} {rest : List Step} {footing : Footing}
    (follows : manner.followLast = true)
    (unsettled : (∀ name, step ≠ .enter name) ∨ (manner.create && rest == [.settle]) = false)
    (leads : files.stepFrom location step = .ok footing) :
    files.walkFrom manner detour location (step :: rest) =
      match footing with
      | .at next => files.walkFrom manner detour next rest
      | .detour start steps => detour start (steps ++ rest) := by
  obtain ⟨permissions, inside⟩ := inside_of_stepFrom leads
  rw [stepFrom, inside] at leads
  rw [walkFrom, inside]
  cases step with
  | settle =>
    cases leads
    rfl
  | stay =>
    dsimp only at leads ⊢
    split at leads
    · cases leads
      rw [if_pos ‹_›]
    · cases leads
  | ascend =>
    dsimp only at leads ⊢
    split at leads
    · cases leads
      rw [if_pos ‹_›]
    · cases leads
  | enter name =>
    have free := unsettled.resolve_left fun never => never name rfl
    simp only [follows, free, Bool.not_true, Bool.and_false, Bool.false_eq_true, if_false]
    dsimp only at leads
    split at leads
    · cases leads
    rw [if_neg ‹_›]
    split at leads
    · cases leads
    rw [if_neg ‹_›]
    revert leads
    cases files.tree.node? (name :: location) with
    | none => simp
    | some node =>
      cases node <;>
      · intro leads
        cases leads
        rfl

theorem directory_of_walkFrom_settle {detour : Location → List Step → Except Errno Landing}
    {location place : Location} {node : Node}
    (ends : files.walkFrom manner detour location [.settle] = .ok (.present place node)) :
    ∃ permissions, node = .directory permissions := by
  rw [walkFrom] at ends
  cases stands : files.tree.node? location with
  | none => simp [stands] at ends
  | some other =>
    cases other with
    | file _ _ => simp [stands] at ends
    | link _ => simp [stands] at ends
    | directory permissions =>
      simp only [stands, walkFrom, Except.ok.injEq, Landing.present.injEq] at ends
      exact ⟨permissions, ends.2.symm⟩

/-- A look that settles ends in a directory. -/
theorem directory_of_settle {links : Nat} {location place : Location} {steps : List Step}
    {node : Node}
    (ends : files.walk .look links location (steps ++ [.settle]) = .ok (.present place node)) :
    ∃ permissions, node = .directory permissions := by
  rw [walk_append (by simp) (by simp [Manner.look])] at ends
  cases arrives : files.arrive links location steps with
  | error errno => simp [arrives, Except.bind] at ends
  | ok arrived =>
    obtain ⟨there, left⟩ := arrived
    simp only [arrives, Except.bind] at ends
    cases left with
    | zero => exact directory_of_walkFrom_settle ends
    | succ left => exact directory_of_walkFrom_settle ends

theorem walkFrom_produce {place : Location} {permissions : Permissions} {content : Bytes}
    {former latter : Location → List Step → Except Errno Landing}
    (there : ∀ {location steps},
      former location steps = .ok (.present place (.file permissions content)) →
        latter location steps = .ok (.present place (.file permissions content)))
    (unsettled : ∀ location steps,
      former location (steps ++ [.settle]) ≠ .ok (.present place (.file permissions content)))
    {location : Location} {steps : List Step}
    (ends : files.walkFrom .look former location steps =
      .ok (.present place (.file permissions content))) :
    files.walkFrom .produce latter location steps =
      .ok (.present place (.file permissions content)) := by
  induction steps generalizing location with
  | nil => exact ends
  | cons step rest ih =>
    obtain ⟨next, leads, ends⟩ | ⟨start, steps, leads, ends⟩ | ⟨_, _, _, vacant⟩ :=
      walkFrom_cons_eq_ok ends
    · by_cases settles : rest = [.settle]
      · subst settles
        obtain ⟨_, directory⟩ := directory_of_walkFrom_settle ends
        cases directory
      · rw [walkFrom_of_stepFrom rfl (.inr (by simp [settles])) leads]
        exact ih ends
    · by_cases settles : rest = [.settle]
      · subst settles
        exact absurd ends (unsettled start steps)
      · rw [walkFrom_of_stepFrom rfl (.inr (by simp [settles])) leads]
        exact there ends
    · obtain ⟨_, free⟩ := vacant rfl
      cases free

/-- Where a look finds a file, a walk that is going to make one finds it too. -/
theorem walk_produce {links : Nat} {location place : Location} {steps : List Step}
    {permissions : Permissions} {content : Bytes}
    (ends : files.walk .look links location steps =
      .ok (.present place (.file permissions content))) :
    files.walk .produce links location steps =
      .ok (.present place (.file permissions content)) := by
  induction links generalizing location steps with
  | zero => exact walkFrom_produce (by simp) (by simp) ends
  | succ links ih =>
    refine walkFrom_produce ih ?_ ends
    intro start steps settled
    obtain ⟨_, directory⟩ := directory_of_settle settled
    cases directory

theorem resolve_produce {path : HostPath} {location : Location} {permissions : Permissions}
    {content : Bytes} (found : files.find path = .ok (location, .file permissions content)) :
    files.resolve .produce path = .ok (.present location (.file permissions content)) := by
  rw [find, resolve_eq] at found
  rw [resolve_eq]
  revert found
  cases path.refusal? with
  | some fault => simp [bind, Except.bind]
  | none =>
    cases walked : files.walk .look linkLimit (files.start path) path.steps with
    | error errno => simp [bind, Except.bind]
    | ok landing =>
      intro found
      cases landing with
      | vacant _ _ => simp [bind, Except.bind] at found
      | present place node =>
        cases found
        exact mapError_eq_ok.2 (walk_produce walked)

/-! ## What a write does -/

/-- One file has been written: what stood at its location was a file or nothing, a file with the
content stands there now, and everything else is as it was. -/
structure FileWritten (before : FileSystem) (location : Location) (content : Bytes)
    (after : FileSystem) : Prop where
  caller : after.caller = before.caller
  workingDirectory : after.workingDirectory = before.workingDirectory
  here : (before.tree.node? location = none ∧
      after.tree.node? location = some (.file .newFile content)) ∨
    ∃ permissions old, before.tree.node? location = some (.file permissions old) ∧
      after.tree.node? location = some (.file permissions content)
  elsewhere : ∀ other, other ≠ location → after.tree.node? other = before.tree.node? other

theorem fileWritten_put {location : Location} {permissions : Permissions} {content : Bytes}
    (room : files.tree.node? location = none ∧ permissions = .newFile ∨
      ∃ old, files.tree.node? location = some (.file permissions old)) :
    files.FileWritten location content
      (files.withTree (files.tree.put location (.file permissions content))) := by
  have notRoot : location ≠ [] := by
    rintro rfl
    simp at room
  refine ⟨rfl, rfl, ?_, fun other away => ?_⟩
  · rcases room with ⟨free, rfl⟩ | ⟨old, stood⟩
    · exact .inl ⟨free, by simp [withTree, Tree.node?_put notRoot]⟩
    · exact .inr ⟨permissions, old, stood, by simp [withTree, Tree.node?_put notRoot]⟩
  · simp [withTree, Tree.node?_put notRoot, away]

/-- A write that succeeds has written the file that its path leads to. -/
theorem fileWritten_of_write {path : HostPath} {content : Bytes} {after : FileSystem}
    (written : files.write path content = .ok after) :
    ∃ landing, files.resolve .produce path = .ok landing ∧
      files.FileWritten landing.location content after := by
  rw [write] at written
  cases ends : files.resolve .produce path with
  | error fault => simp [ends, bind, Except.bind] at written
  | ok landing =>
    refine ⟨landing, rfl, ?_⟩
    have holds := holds_of_resolve ends
    rw [ends] at written
    cases landing with
    | present location node =>
      cases node with
      | directory _ => simp [bind, Except.bind] at written
      | link _ => simp [bind, Except.bind] at written
      | file permissions old =>
        simp only [bind, Except.bind] at written
        split at written
        · cases written
          exact fileWritten_put (.inr ⟨old, holds⟩)
        · cases written
    | vacant parent name =>
      simp only [bind, Except.bind] at written
      split at written
      · split at written
        · cases written
          exact fileWritten_put (.inl ⟨holds, rfl⟩)
        · cases written
      · cases written

/-- A write that succeeds has put a file in the tree and done nothing else. -/
theorem put_of_write {path : HostPath} {content : Bytes} {after : FileSystem}
    (written : files.write path content = .ok after) :
    ∃ location permissions,
      after = files.withTree (files.tree.put location (.file permissions content)) := by
  rw [write] at written
  cases ends : files.resolve .produce path with
  | error fault => simp [ends, bind, Except.bind] at written
  | ok landing =>
    simp only [ends, bind, Except.bind] at written
    split at written
    · split at written
      · cases written
        exact ⟨_, _, rfl⟩
      · cases written
    · cases written
    · cases written
    · split at written
      · split at written
        · cases written
          exact ⟨_, _, rfl⟩
        · cases written
      · cases written

/-- A write damages no directory and mends none. -/
theorem damage?_of_write {path : HostPath} {content : Bytes} {after : FileSystem}
    (written : files.write path content = .ok after) (directory : Location) (name : Name) :
    after.tree.damage? directory name = files.tree.damage? directory name := by
  obtain ⟨location, permissions, rfl⟩ := put_of_write written
  exact files.tree.damage?_put location _ directory name

/-- A write that succeeds leaves a file that may be written again. -/
theorem granted_of_write {path : HostPath} {content : Bytes} {after : FileSystem} {landing : Landing}
    (written : files.write path content = .ok after)
    (ends : files.resolve .produce path = .ok landing) :
    ∃ permissions, after.tree.node? landing.location = some (.file permissions content) ∧
      files.caller.may permissions.write = true := by
  have holds := holds_of_resolve ends
  rw [write, ends] at written
  cases landing with
  | present location node =>
    cases node with
    | directory _ => simp [bind, Except.bind] at written
    | link _ => simp [bind, Except.bind] at written
    | file permissions old =>
      simp only [bind, Except.bind] at written
      split at written
      · cases written
        have notRoot : location ≠ [] := by
          rintro rfl
          cases holds
        exact ⟨permissions, by simp [Landing.location, withTree, Tree.node?_put notRoot], ‹_›⟩
      · cases written
  | vacant parent name =>
    simp only [bind, Except.bind] at written
    split at written
    · split at written
      · cases written
        refine ⟨.newFile, by simp [Landing.location, withTree, Tree.node?_put], ?_⟩
        simp [Caller.may, Permissions.newFile]
      · cases written
    · cases written

theorem stepFrom_enter (location : Location) (name : Name) :
    files.stepFrom location (.enter name) = (files.entryIn location name).map fun node =>
      match node with
      | .link target => .detour (if target.isAbsolute then [] else location) target.steps
      | _ => .at (name :: location) := by
  rw [stepFrom, entryIn]
  cases files.tree.node? location with
  | none => rfl
  | some node =>
    cases node with
    | file _ _ => rfl
    | link _ => rfl
    | directory permissions =>
      dsimp only
      split
      · rfl
      split
      · rfl
      cases files.tree.node? (name :: location) with
      | none => rfl
      | some next => cases next <;> rfl

/-- In a directory that a path leads to, nothing is found where an entry cannot be looked at. -/
theorem find_entry_error {base : HostPath} {location : Location} {name : Name} {parent : Node}
    {errno : Errno} (found : files.find base = .ok (location, parent)) (plain : PlainName name)
    (accepted : (base.join ⟨name⟩).refusal? = none)
    (fails : files.entryIn location name = .error errno) :
    files.find (base.join ⟨name⟩) = .error (.system errno) := by
  obtain ⟨links, arrives⟩ := arrive_way found
  have step : files.stepFrom location (.enter name) = .error errno := by
    rw [stepFrom_enter, fails]
    rfl
  have stops : files.arrive links location [.enter name] = .error errno := by
    cases links <;> simp [arrive, arriveFrom, step]
  rw [find_eq, accepted, start_join base plain, HostPath.steps_join base plain, arrive_append,
    arrives]
  dsimp only [Except.bind]
  rw [stops]
  rfl

/-- A walk whose only step goes into an entry that is no link ends at that entry. -/
theorem location_of_enter {links : Nat} {location : Location} {name : Name} {landing : Landing}
    (noLink : ∀ target, files.entryIn location name ≠ .ok (.link target))
    (ends : files.walk manner links location [.enter name] = .ok landing) :
    landing.location = name :: location := by
  have last {detour : Location → List Step → Except Errno Landing}
      (ends : files.walkFrom manner detour location [.enter name] = .ok landing) :
      landing.location = name :: location := by
    obtain ⟨next, leads, ends⟩ | ⟨start, steps, leads, _⟩ | ⟨_, _, ⟨other, same, at_⟩, _⟩ :=
      walkFrom_cons_eq_ok ends
    · have stays : next = name :: location := by
        rw [stepFrom_enter] at leads
        cases entry : files.entryIn location name with
        | error errno => simp [entry, Except.map] at leads
        | ok node => cases node <;> simp_all [Except.map]
      subst stays
      rw [walkFrom] at ends
      revert ends
      cases files.tree.node? (name :: location) with
      | none => simp
      | some node =>
        intro ends
        cases ends
        rfl
    · rw [stepFrom_enter] at leads
      cases entry : files.entryIn location name with
      | error errno => simp [entry, Except.map] at leads
      | ok node => cases node <;> simp_all [Except.map]
    · cases same
      exact at_
  cases links with
  | zero => exact last ends
  | succ links => exact last ends

/-- A write into an entry that is no link takes place in a directory, under the name of the
entry. -/
theorem location_of_produce {base : HostPath} {name : Name} (plain : PlainName name)
    {landing : Landing} (ends : files.resolve .produce (base.join ⟨name⟩) = .ok landing)
    (noLink : ∀ target, files.findLink (base.join ⟨name⟩) ≠ .ok (.link target)) :
    ∃ parent, landing.location = name :: parent := by
  rw [resolve_eq, start_join base plain, HostPath.steps_join base plain,
    walk_append (by simp) (by simp)] at ends
  have seen := files.findLink_join base plain
  revert ends seen
  cases (base.join ⟨name⟩).refusal? with
  | some fault => simp
  | none =>
    cases files.arrive linkLimit (files.start base) base.way with
    | error errno => simp [Except.bind]
    | ok place =>
      intro ends seen
      refine ⟨place.1, location_of_enter ?_ (mapError_eq_ok.1 ends)⟩
      intro target linked
      apply noLink target
      rw [seen]
      exact mapError_eq_ok.2 linked

/-- A file that is found and may be written takes what is written to it. -/
theorem write_of_find {path : HostPath} {location : Location} {permissions : Permissions}
    {old : Bytes} (found : files.find path = .ok (location, .file permissions old))
    (writable : files.caller.may permissions.write = true) (content : Bytes) :
    files.write path content =
      .ok (files.withTree (files.tree.put location (.file permissions content))) := by
  rw [write, resolve_produce found]
  simp [bind, Except.bind, writable]

theorem read_eq_ok_iff {path : HostPath} {content : Bytes} :
    files.read path = .ok content ↔
      ∃ location permissions, files.find path = .ok (location, .file permissions content) ∧
        files.caller.may permissions.read = true := by
  rw [read]
  cases files.find path with
  | error fault => simp [bind, Except.bind]
  | ok found =>
    obtain ⟨location, node⟩ := found
    cases node with
    | link _ => simp [bind, Except.bind]
    | directory permissions =>
      simp only [bind, Except.bind]
      split <;> simp
    | file permissions held =>
      cases readable : files.caller.may permissions.read with
      | false =>
        simp only [bind, Except.bind, readable, Bool.false_eq_true, if_false, reduceCtorEq, false_iff]
        rintro ⟨_, _, same, granted⟩
        cases same
        simp [readable] at granted
      | true =>
        simp only [bind, Except.bind, readable, if_true, Except.ok.injEq, Prod.mk.injEq,
          Node.file.injEq]
        constructor
        · rintro rfl
          exact ⟨location, permissions, ⟨rfl, rfl, rfl⟩, readable⟩
        · rintro ⟨_, _, ⟨_, _, same⟩, _⟩
          exact same

end FileSystem
end SingleRoot.Host
