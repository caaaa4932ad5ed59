/-
# Where a walk arrives

A walk along a directory and then into one of its entries is a walk in two parts. The first part only
arrives somewhere: every link in it is followed and nothing may be missing, so it means the same for
every manner of walking. This module separates the two parts, `walk_append`, and then says of each
access to the host what it finds in terms of where the first part arrives: `find_eq` for looking and
`findLink_join` for looking at an entry by its name.

A step in the first part has few outcomes, which `stepFrom` lists once. The inductions follow the two
recursions of a walk, the outer one on the links that may still be followed and the inner one on the
steps; what the outer one has to say about links enters the inner one as a hypothesis on the detour.
-/
import SingleRoot.Host.Files
import SingleRoot.Proofs.Host.Path

namespace SingleRoot.Host

section Answers

variable {ε ε' α : Type} {f : ε → ε'}

@[simp] theorem mapError_error (error : ε) :
    (Except.error error : Except ε α).mapError f = .error (f error) :=
  rfl

@[simp] theorem mapError_ok (value : α) : (Except.ok value : Except ε α).mapError f = .ok value :=
  rfl

@[simp] theorem mapError_eq_ok {answer : Except ε α} {value : α} :
    answer.mapError f = .ok value ↔ answer = .ok value := by
  cases answer <;> simp

end Answers

/-- Why a path never reaches the host, if it does not. -/
def HostPath.refusal? (path : HostPath) : Option Fault :=
  if path.bytes.contains 0 then some .nulInPath
  else if path.bytes.isEmpty then some (.system .noSuchEntry)
  else if longestPath < path.bytes.length then some (.system .nameTooLong)
  else none

/-- The host accepts a path. -/
theorem HostPath.refusal?_eq_none_iff {path : HostPath} :
    path.refusal? = none ↔ 0 ∉ path.bytes ∧ path.bytes ≠ [] ∧ path.bytes.length ≤ longestPath := by
  rw [refusal?]
  by_cases zero : 0 ∈ path.bytes
  · simp [zero]
  · by_cases empty : path.bytes = []
    · simp [empty]
    · by_cases long : longestPath < path.bytes.length
      · simp [zero, empty, long, Nat.not_le_of_lt long]
      · simp [zero, empty, long, Nat.le_of_not_lt long]

/-- What a look makes of the end of a walk: a free name is nothing found. -/
def Landing.found : Landing → Except Errno (Location × Node)
  | .present location node => .ok (location, node)
  | .vacant _ _ => .error .noSuchEntry

/-- Where one step leads that is not the last of its walk: to a location, or into a link, whose own
steps are then taken from a start. -/
inductive Footing where
  | at (location : Location)
  | detour (start : Location) (steps : List Step)

namespace FileSystem

section Definitions

variable (files : FileSystem)

/-- Take one step that is not the last of its walk. -/
def stepFrom (location : Location) (step : Step) : Except Errno Footing :=
  match files.tree.node? location with
  | some (.directory permissions) =>
    match step with
    | .settle => .ok (.at location)
    | .stay =>
      if files.caller.may permissions.search then .ok (.at location) else .error .accessDenied
    | .ascend =>
      if files.caller.may permissions.search then .ok (.at location.tail) else .error .accessDenied
    | .enter name =>
      if !files.caller.may permissions.search then .error .accessDenied
      else if longestName < name.length then .error .nameTooLong
      else match files.tree.node? (name :: location) with
        | none => .error .noSuchEntry
        | some (.link target) =>
          .ok (.detour (if target.isAbsolute then [] else location) target.steps)
        | some _ => .ok (.at (name :: location))
  | some _ => .error .notDirectory
  | none => .error .noSuchEntry

/-- Take steps that are followed by others. The result is the location from which the walk goes on
and the number of links it may still follow. -/
def arriveFrom (links : Nat) (detour : Location → List Step → Except Errno (Location × Nat)) :
    Location → List Step → Except Errno (Location × Nat)
  | location, [] => .ok (location, links)
  | location, step :: rest =>
    match files.stepFrom location step with
    | .error errno => .error errno
    | .ok (.at next) => arriveFrom links detour next rest
    | .ok (.detour start steps) => detour start (steps ++ rest)

/-- Take steps that are followed by others, following at most the given number of links. -/
def arrive : Nat → Location → List Step → Except Errno (Location × Nat)
  | 0 => files.arriveFrom 0 fun _ _ => .error .tooManyLinks
  | links + 1 => files.arriveFrom (links + 1) (arrive links)

end Definitions

variable {files : FileSystem}

/-! ## A walk in two parts -/

variable {manner : Manner} {rest : List Step}

/-- A step that others follow does the same in every walk. -/
theorem walkFrom_cons (detour : Location → List Step → Except Errno Landing)
    (filled : rest ≠ []) (unsettled : (manner.create && rest == [.settle]) = false)
    (location : Location) (step : Step) :
    files.walkFrom manner detour location (step :: rest) =
      match files.stepFrom location step with
      | .error errno => .error errno
      | .ok (.at next) => files.walkFrom manner detour next rest
      | .ok (.detour start steps) => detour start (steps ++ rest) := by
  have more : rest.isEmpty = false := by simpa using filled
  rw [walkFrom, stepFrom]
  cases files.tree.node? location with
  | none => rfl
  | some node =>
    cases node with
    | file _ _ => rfl
    | link _ => rfl
    | directory permissions =>
      cases step with
      | settle => rfl
      | stay =>
        dsimp only
        split <;> rfl
      | ascend =>
        dsimp only
        split <;> rfl
      | enter name =>
        simp only [unsettled, more, Bool.false_eq_true, if_false, Bool.false_and]
        split
        · rfl
        split
        · rfl
        cases files.tree.node? (name :: location) with
        | none => rfl
        | some next => cases next <;> rfl

theorem walkFrom_append {links : Nat}
    {detour : Location → List Step → Except Errno Landing}
    {inner : Location → List Step → Except Errno (Location × Nat)}
    (filled : rest ≠ []) (unsettled : (manner.create && rest == [.settle]) = false)
    (here : ∀ location, files.walkFrom manner detour location rest =
      files.walk manner links location rest)
    (there : ∀ location steps, detour location (steps ++ rest) =
      (inner location steps).bind fun place => files.walk manner place.2 place.1 rest)
    (location : Location) (steps : List Step) :
    files.walkFrom manner detour location (steps ++ rest) =
      (files.arriveFrom links inner location steps).bind fun place =>
        files.walk manner place.2 place.1 rest := by
  induction steps generalizing location with
  | nil => exact here location
  | cons step steps ih =>
    have unsettledHere : (manner.create && (steps ++ rest) == [.settle]) = false := by
      cases steps with
      | nil => exact unsettled
      | cons first others => simp [filled]
    rw [List.cons_append, walkFrom_cons detour (by simp [filled]) unsettledHere, arriveFrom]
    split
    · rfl
    · exact ih _
    · rw [← List.append_assoc, there]

/-- A walk that does not end with its first steps arrives somewhere and goes on from there. -/
theorem walk_append (filled : rest ≠ []) (unsettled : (manner.create && rest == [.settle]) = false)
    (links : Nat) (location : Location) (steps : List Step) :
    files.walk manner links location (steps ++ rest) =
      (files.arrive links location steps).bind fun place =>
        files.walk manner place.2 place.1 rest := by
  induction links generalizing location steps with
  | zero =>
    exact walkFrom_append filled unsettled (fun _ => rfl) (fun _ _ => rfl) location steps
  | succ links ih =>
    exact walkFrom_append filled unsettled (fun _ => rfl) ih location steps

theorem arriveFrom_append {links : Nat} {later : List Step}
    {detour : Location → List Step → Except Errno (Location × Nat)}
    (here : ∀ location, files.arriveFrom links detour location later =
      files.arrive links location later)
    (there : ∀ location steps, detour location (steps ++ later) =
      (detour location steps).bind fun place => files.arrive place.2 place.1 later)
    (location : Location) (steps : List Step) :
    files.arriveFrom links detour location (steps ++ later) =
      (files.arriveFrom links detour location steps).bind fun place =>
        files.arrive place.2 place.1 later := by
  induction steps generalizing location with
  | nil => exact here location
  | cons step steps ih =>
    rw [List.cons_append, arriveFrom, arriveFrom]
    split
    · rfl
    · exact ih _
    · rw [← List.append_assoc, there]

/-- Arriving can be broken off and taken up again. -/
theorem arrive_append (links : Nat) (location : Location) (steps later : List Step) :
    files.arrive links location (steps ++ later) =
      (files.arrive links location steps).bind fun place =>
        files.arrive place.2 place.1 later := by
  induction links generalizing location steps with
  | zero => exact arriveFrom_append (fun _ => rfl) (fun _ _ => rfl) location steps
  | succ links ih => exact arriveFrom_append (fun _ => rfl) ih location steps

/-! ## What a look finds -/

/-- What stands at a location. -/
def standing (files : FileSystem) (location : Location) : Except Errno (Location × Node) :=
  match files.tree.node? location with
  | some node => .ok (location, node)
  | none => .error .noSuchEntry

/-- For a look the last step of a walk is like every other. -/
theorem found_walkFrom_cons (detour : Location → List Step → Except Errno Landing)
    (location : Location) (step : Step) (rest : List Step) :
    (files.walkFrom .look detour location (step :: rest)).bind Landing.found =
      match files.stepFrom location step with
      | .error errno => .error errno
      | .ok (.at next) => (files.walkFrom .look detour next rest).bind Landing.found
      | .ok (.detour start steps) => (detour start (steps ++ rest)).bind Landing.found := by
  rw [walkFrom, stepFrom]
  cases files.tree.node? location with
  | none => rfl
  | some node =>
    cases node with
    | file _ _ => rfl
    | link _ => rfl
    | directory permissions =>
      cases step with
      | settle => rfl
      | stay =>
        dsimp only
        split <;> rfl
      | ascend =>
        dsimp only
        split <;> rfl
      | enter name =>
        simp only [Manner.look, Bool.false_and, Bool.and_false, Bool.not_true, Bool.false_eq_true, if_false]
        split
        · rfl
        split
        · rfl
        cases files.tree.node? (name :: location) with
        | none => cases rest <;> rfl
        | some next => cases next <;> rfl

theorem found_walkFrom {links : Nat} {detour : Location → List Step → Except Errno Landing}
    {inner : Location → List Step → Except Errno (Location × Nat)}
    (there : ∀ location steps, (detour location steps).bind Landing.found =
      (inner location steps).bind fun place => files.standing place.1)
    (location : Location) (steps : List Step) :
    (files.walkFrom .look detour location steps).bind Landing.found =
      (files.arriveFrom links inner location steps).bind fun place =>
        files.standing place.1 := by
  induction steps generalizing location with
  | nil =>
    rw [walkFrom, arriveFrom]
    simp only [Except.bind, standing]
    cases files.tree.node? location <;> rfl
  | cons step steps ih =>
    rw [found_walkFrom_cons, arriveFrom]
    split
    · rfl
    · exact ih _
    · exact there _ _

/-- A look finds what stands where its walk arrives. -/
theorem found_walk (links : Nat) (location : Location) (steps : List Step) :
    (files.walk .look links location steps).bind Landing.found =
      (files.arrive links location steps).bind fun place => files.standing place.1 := by
  induction links generalizing location steps with
  | zero => exact found_walkFrom (fun _ _ => rfl) location steps
  | succ links ih => exact found_walkFrom ih location steps

theorem resolve_eq (path : HostPath) :
    files.resolve manner path =
      match path.refusal? with
      | some fault => .error fault
      | none => (files.walk manner linkLimit (files.start path) path.steps).mapError .system := by
  rw [resolve, HostPath.refusal?]
  cases path.bytes.contains 0 with
  | true => rfl
  | false =>
    cases path.bytes.isEmpty with
    | true => rfl
    | false => by_cases long : longestPath < path.bytes.length <;> simp [long]

/-- What is found at the end of a path is what a walk of the path ends with. -/
theorem resolve_of_find {path : HostPath} {location : Location} {node : Node}
    (found : files.find path = .ok (location, node)) :
    files.resolve .look path = .ok (.present location node) := by
  rw [find] at found
  cases ends : files.resolve .look path with
  | error fault => simp [ends, bind, Except.bind] at found
  | ok landing =>
    rw [ends] at found
    cases landing with
    | vacant _ _ => simp [bind, Except.bind] at found
    | present _ _ =>
      cases found
      rfl

theorem resolve_of_findLink {path : HostPath} {node : Node} (found : files.findLink path = .ok node) :
    ∃ location, files.resolve .lookAtLink path = .ok (.present location node) := by
  rw [findLink] at found
  cases ends : files.resolve .lookAtLink path with
  | error fault => simp [ends, bind, Except.bind] at found
  | ok landing =>
    rw [ends] at found
    cases landing with
    | vacant _ _ => simp [bind, Except.bind] at found
    | present location _ =>
      cases found
      exact ⟨location, rfl⟩

/-- What a path leads to stands where the walk of the path arrives. -/
theorem find_eq (path : HostPath) :
    files.find path =
      match path.refusal? with
      | some fault => .error fault
      | none =>
        ((files.arrive linkLimit (files.start path) path.steps).bind fun place =>
          files.standing place.1).mapError .system := by
  rw [find, resolve_eq, ← found_walk]
  cases path.refusal? with
  | some fault => rfl
  | none =>
    cases files.walk .look linkLimit (files.start path) path.steps with
    | error errno => rfl
    | ok landing => cases landing <;> rfl

theorem find_eq_ok_iff {path : HostPath} {location : Location} {node : Node} :
    files.find path = .ok (location, node) ↔
      path.refusal? = none ∧
        (∃ links, files.arrive linkLimit (files.start path) path.steps = .ok (location, links)) ∧
        files.tree.node? location = some node := by
  rw [find_eq]
  cases path.refusal? with
  | some fault => simp
  | none =>
    cases files.arrive linkLimit (files.start path) path.steps with
    | error errno => simp [Except.bind]
    | ok place =>
      obtain ⟨arrived, links⟩ := place
      simp only [Except.bind, standing]
      constructor
      · intro found
        cases stands : files.tree.node? arrived with
        | none => simp [stands] at found
        | some other =>
          simp only [stands, mapError_ok, Except.ok.injEq, Prod.mk.injEq] at found
          obtain ⟨rfl, rfl⟩ := found
          exact ⟨trivial, ⟨links, rfl⟩, stands⟩
      · rintro ⟨_, ⟨_, arrives⟩, stands⟩
        cases arrives
        simp [stands]

theorem holds_iff {path : HostPath} :
    files.holds path = true ↔ ∃ found, files.find path = .ok found := by
  rw [holds]
  cases files.find path <;> simp [Except.isOk, Except.toBool]

theorem canonical_eq_ok_iff {path resolved : HostPath} :
    files.canonical path = .ok resolved ↔
      ∃ place node, files.find path = .ok (place, node) ∧ resolved = absolutePath place := by
  rw [canonical]
  cases files.find path with
  | error fault => simp [bind, Except.bind]
  | ok found =>
    simp only [bind, Except.bind, pure, Except.pure, Except.ok.injEq]
    constructor
    · rintro rfl
      exact ⟨found.1, found.2, rfl, rfl⟩
    · rintro ⟨_, _, rfl, rfl⟩
      rfl

/-! ## Entries of a directory -/

/-- What stands in a directory under a name, a link not followed. -/
def entryIn (files : FileSystem) (directory : Location) (name : Name) : Except Errno Node :=
  match files.tree.node? directory with
  | some (.directory permissions) =>
    if !files.caller.may permissions.search then .error .accessDenied
    else if longestName < name.length then .error .nameTooLong
    else match files.tree.node? (name :: directory) with
      | some node => .ok node
      | none => .error .noSuchEntry
  | some _ => .error .notDirectory
  | none => .error .noSuchEntry

theorem entryIn_eq_ok_iff {directory : Location} {name : Name} {node : Node} :
    files.entryIn directory name = .ok node ↔
      ∃ permissions, files.tree.node? directory = some (.directory permissions) ∧
        files.caller.may permissions.search = true ∧ name.length ≤ longestName ∧
        files.tree.node? (name :: directory) = some node := by
  rw [entryIn]
  cases files.tree.node? directory with
  | none => simp
  | some parent =>
    cases parent with
    | file _ _ => simp
    | link _ => simp
    | directory permissions =>
      dsimp only
      cases searchable : files.caller.may permissions.search with
      | false => simp [searchable]
      | true =>
        by_cases long : longestName < name.length
        · simp [long, Nat.not_le_of_lt long]
        · cases files.tree.node? (name :: directory) <;>
            simp [long, Nat.le_of_not_lt long, searchable]

/-- The last step into an entry follows no link when the walk looks at links. -/
theorem found_walk_lookAtLink (links : Nat) (location : Location) (name : Name) :
    (files.walk .lookAtLink links location [.enter name]).bind Landing.found =
      (files.entryIn location name).map fun node => (name :: location, node) := by
  have last (detour : Location → List Step → Except Errno Landing) :
      (files.walkFrom .lookAtLink detour location [.enter name]).bind Landing.found =
        (files.entryIn location name).map fun node => (name :: location, node) := by
    rw [walkFrom, entryIn]
    cases files.tree.node? location with
    | none => rfl
    | some node =>
      cases node with
      | file _ _ => rfl
      | link _ => rfl
      | directory permissions =>
        simp only [Manner.lookAtLink, Bool.false_and, Bool.false_eq_true, if_false]
        split
        · rfl
        split
        · rfl
        cases entry : files.tree.node? (name :: location) with
        | none => rfl
        | some next =>
          cases next with
          | link _ => rfl
          | directory _ => simp [walkFrom, entry, Except.bind, Landing.found, Except.map]
          | file _ _ => simp [walkFrom, entry, Except.bind, Landing.found, Except.map]
  cases links with
  | zero => exact last _
  | succ links => exact last _

theorem findLink_eq (path : HostPath) :
    files.findLink path =
      match path.refusal? with
      | some fault => .error fault
      | none =>
        (((files.walk .lookAtLink linkLimit (files.start path) path.steps).bind
          Landing.found).map Prod.snd).mapError .system := by
  rw [findLink, resolve_eq]
  cases path.refusal? with
  | some fault => rfl
  | none =>
    cases files.walk .lookAtLink linkLimit (files.start path) path.steps with
    | error errno => rfl
    | ok landing => cases landing <;> rfl

variable {name : Name}

theorem start_join (base : HostPath) (plain : PlainName name) :
    files.start (base.join ⟨name⟩) = files.start base := by
  rw [start, start, HostPath.isAbsolute_join base plain]

/-- What a path names, if it continues another by a plain name. -/
theorem findLink_join (base : HostPath) (plain : PlainName name) :
    files.findLink (base.join ⟨name⟩) =
      match (base.join ⟨name⟩).refusal? with
      | some fault => .error fault
      | none =>
        ((files.arrive linkLimit (files.start base) base.way).bind fun place =>
          files.entryIn place.1 name).mapError .system := by
  rw [findLink_eq, start_join base plain, HostPath.steps_join base plain,
    walk_append (by simp) (by simp [Manner.lookAtLink])]
  cases (base.join ⟨name⟩).refusal? with
  | some fault => rfl
  | none =>
    cases files.arrive linkLimit (files.start base) base.way with
    | error errno => rfl
    | ok place =>
      change (((files.walk .lookAtLink place.2 place.1 [.enter name]).bind
        Landing.found).map Prod.snd).mapError Fault.system = _
      rw [found_walk_lookAtLink]
      cases entry : files.entryIn place.1 name <;>
        simp [Except.map, Except.bind, entry]

/-- The last step of an arrival takes it into an entry that is no link. -/
theorem arrive_entry {links : Nat} {location : Location} {node : Node}
    (stands : files.entryIn location name = .ok node) (noLink : ∀ target, node ≠ .link target) :
    files.arrive links location [.enter name] = .ok (name :: location, links) := by
  obtain ⟨permissions, parent, searchable, short, there⟩ := entryIn_eq_ok_iff.1 stands
  have footing : files.stepFrom location (.enter name) = .ok (.at (name :: location)) := by
    cases node with
    | link target => exact absurd rfl (noLink target)
    | directory _ => simp [stepFrom, parent, searchable, Nat.not_lt_of_le short, there]
    | file _ _ => simp [stepFrom, parent, searchable, Nat.not_lt_of_le short, there]
  cases links <;> simp [arrive, arriveFrom, footing]

theorem arrive_settle {links : Nat} {location arrived : Location} {left : Nat}
    (arrives : files.arrive links location [.settle] = .ok (arrived, left)) :
    arrived = location ∧ left = links := by
  have settled {inner : Location → List Step → Except Errno (Location × Nat)}
      (arrives : files.arriveFrom links inner location [.settle] = .ok (arrived, left)) :
      arrived = location ∧ left = links := by
    rw [arriveFrom, stepFrom] at arrives
    revert arrives
    cases files.tree.node? location with
    | none => simp
    | some node =>
      cases node <;> simp [arriveFrom]
      rintro rfl rfl
      exact ⟨rfl, rfl⟩
  cases links with
  | zero => exact settled arrives
  | succ links => exact settled arrives

/-- Where a path leads, the way of the path arrives. -/
theorem arrive_way {path : HostPath} {location : Location} {node : Node}
    (found : files.find path = .ok (location, node)) :
    ∃ links, files.arrive linkLimit (files.start path) path.way = .ok (location, links) := by
  obtain ⟨_, ⟨links, arrives⟩, _⟩ := find_eq_ok_iff.1 found
  rcases path.steps_eq with same | longer
  · exact ⟨links, same ▸ arrives⟩
  · rw [longer, arrive_append] at arrives
    revert arrives
    cases files.arrive linkLimit (files.start path) path.way with
    | error errno => simp [Except.bind]
    | ok place =>
      intro arrives
      obtain ⟨rfl, rfl⟩ := arrive_settle arrives
      exact ⟨place.2, rfl⟩

variable {base : HostPath} {location : Location}

/-- In a directory that a path leads to, a look at an entry sees what stands there. -/
theorem findLink_entry {node : Node} (found : files.find base = .ok (location, node))
    (plain : PlainName name) (accepted : (base.join ⟨name⟩).refusal? = none) :
    files.findLink (base.join ⟨name⟩) = (files.entryIn location name).mapError .system := by
  obtain ⟨links, arrives⟩ := arrive_way found
  rw [findLink_join base plain, accepted, arrives]
  rfl

/-- An entry that is no link is found where it stands. -/
theorem find_entry {parent node : Node} (found : files.find base = .ok (location, parent))
    (plain : PlainName name) (accepted : (base.join ⟨name⟩).refusal? = none)
    (stands : files.entryIn location name = .ok node) (noLink : ∀ target, node ≠ .link target) :
    files.find (base.join ⟨name⟩) = .ok (name :: location, node) := by
  obtain ⟨links, arrives⟩ := arrive_way found
  obtain ⟨_, _, _, _, there⟩ := entryIn_eq_ok_iff.1 stands
  rw [find_eq_ok_iff, start_join base plain, HostPath.steps_join base plain, arrive_append, arrives]
  exact ⟨accepted, ⟨links, arrive_entry stands noLink⟩, there⟩

/-- Whether a path names a link. -/
def namesLink (files : FileSystem) (path : HostPath) : Bool :=
  match files.findLink path with
  | .ok (.link _) => true
  | _ => false

theorem findLink_ne_link {path : HostPath} (free : files.namesLink path = false) (target : HostPath) :
    files.findLink path ≠ .ok (.link target) := by
  intro linked
  rw [namesLink, linked] at free
  cases free

/-- What a path names and is no link, the path also leads to. -/
theorem find_of_findLink {node : Node} (plain : PlainName name)
    (seen : files.findLink (base.join ⟨name⟩) = .ok node) (noLink : ∀ target, node ≠ .link target) :
    ∃ parent, files.find (base.join ⟨name⟩) = .ok (name :: parent, node) := by
  rw [findLink_join base plain] at seen
  cases accepted : (base.join ⟨name⟩).refusal? with
  | some fault => simp [accepted] at seen
  | none =>
    rw [accepted] at seen
    cases arrives : files.arrive linkLimit (files.start base) base.way with
    | error errno => simp [arrives, Except.bind] at seen
    | ok place =>
      obtain ⟨parent, links⟩ := place
      have stands : files.entryIn parent name = .ok node := by
        cases entry : files.entryIn parent name with
        | error errno => simp [arrives, entry, Except.bind] at seen
        | ok other =>
          simp only [arrives, entry, Except.bind, mapError_ok, Except.ok.injEq] at seen
          rw [seen]
      obtain ⟨_, _, _, _, there⟩ := entryIn_eq_ok_iff.1 stands
      refine ⟨parent, ?_⟩
      rw [find_eq_ok_iff, start_join base plain, HostPath.steps_join base plain, arrive_append,
        arrives]
      exact ⟨accepted, ⟨links, arrive_entry stands noLink⟩, there⟩

end FileSystem
end SingleRoot.Host
