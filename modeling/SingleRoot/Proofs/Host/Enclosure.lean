/-
# Trees that links do not leave

A tree below a place can be looked at from there without ever seeing what stands around it, if its links
keep inside. `Enclosed` says that they do: no link is absolute, no way through a link climbs above the
place, and what a link leads to stands below the place and is not the place itself. The ways that the host
goes are walks with a limited number of links, so the first of these is said by a recursion like that of
`arrive`, `stays`.

Names only lead down. A walk by names that starts inside therefore stays inside, `stays_entering`, and ends
below the place, `below_of_arrive_entering`. A file that is written inside opens no way out,
`Enclosed.of_fileWritten`, since no step is taken from a file.
-/
import SingleRoot.Proofs.Host.Keeping

namespace SingleRoot.Host

/-! ## Names that steps enter -/

/-- Steps that enter only plain names. -/
def PlainSteps (steps : List Step) : Prop :=
  ∀ name, .enter name ∈ steps → PlainName name

/-- The steps down through some entries. -/
def entering (names : List Name) : List Step :=
  names.map .enter

theorem plainSteps_entering {names : List Name} (plain : ∀ name ∈ names, PlainName name) :
    PlainSteps (entering names) := by
  intro name among
  obtain ⟨other, there, same⟩ := List.mem_map.1 among
  cases same
  exact plain name there

/-- The names that a path enters are plain. -/
theorem HostPath.plainSteps_steps (path : HostPath) : PlainSteps path.steps := by
  intro name among
  have among : Step.enter name ∈ path.way := by
    rcases path.steps_eq with same | longer
    · exact same ▸ among
    · simpa [longer] using among
  obtain ⟨stretch, there, means⟩ := List.mem_filterMap.1 among
  rw [Step.ofStretch?] at means
  split at means
  · cases means
  rename_i filled
  split at means
  · cases means
  rename_i notDot
  split at means
  · cases means
  rename_i notDoubleDot
  cases means
  exact ⟨filled, notDot, notDoubleDot, fun inside => (mem_of_mem_stretches there inside).2 rfl⟩

/-- A location below a place: plain names lead down to it from there, at least one. -/
def Below (place location : Location) : Prop :=
  ∃ below, below ≠ [] ∧ (∀ name ∈ below, PlainName name) ∧ location = below ++ place

namespace FileSystem

/-! ## Ways that stay below a place -/

section Definitions

variable (files : FileSystem) (place : Location)

/-- Whether steps that are taken from a location never climb from the place. -/
def staysFrom (detour : Location → List Step → Bool) : Location → List Step → Bool
  | _, [] => true
  | location, step :: rest =>
    !(step == .ascend && location == place) &&
      match files.stepFrom location step with
      | .error _ => true
      | .ok (.at next) => staysFrom detour next rest
      | .ok (.detour start steps) => detour start (steps ++ rest)

/-- Whether a walk never climbs from the place while it follows at most the given number of links. -/
def stays : Nat → Location → List Step → Bool
  | 0 => files.staysFrom place fun _ _ => true
  | links + 1 => files.staysFrom place (stays links)

/-- The links in the tree below a place keep inside. -/
structure Enclosed : Prop where
  relative : ∀ name below target,
    files.tree.node? (name :: (below ++ place)) = some (.link target) → target.isAbsolute = false
  /-- Following a link never leads above the place. -/
  stays : ∀ name below target,
    files.tree.node? (name :: (below ++ place)) = some (.link target) →
      files.stays place linkLimit (below ++ place) [.enter name] = true
  /-- What a link leads to stands strictly below the place. -/
  ends : ∀ name below target,
    files.tree.node? (name :: (below ++ place)) = some (.link target) →
      ∀ arrived links, files.arrive linkLimit (below ++ place) [.enter name] = .ok (arrived, links) →
        arrived ≠ place

end Definitions

variable {files : FileSystem} {place location arrived : Location} {steps later : List Step}
  {links more left : Nat} {name : Name}

theorem staysFrom_append
    {detour : Location → List Step → Bool}
    {inner : Location → List Step → Except Errno (Location × Nat)}
    (here : ∀ location, files.staysFrom place detour location later =
      files.stays place links location later)
    (there : ∀ {location steps}, detour location (steps ++ later) = true ↔
      detour location steps = true ∧ ∀ arrived left, inner location steps = .ok (arrived, left) →
        files.stays place left arrived later = true) :
    files.staysFrom place detour location (steps ++ later) = true ↔
      files.staysFrom place detour location steps = true ∧
        ∀ arrived left, files.arriveFrom links inner location steps = .ok (arrived, left) →
          files.stays place left arrived later = true := by
  induction steps generalizing location with
  | nil =>
    rw [List.nil_append, here]
    simp [staysFrom, arriveFrom]
  | cons step steps ih =>
    rw [List.cons_append, staysFrom, staysFrom, arriveFrom, Bool.and_eq_true, Bool.and_eq_true,
      and_assoc]
    refine and_congr_right fun _ => ?_
    cases files.stepFrom location step with
    | error errno => simp
    | ok footing =>
      cases footing with
      | «at» next => exact ih
      | detour start inside =>
        dsimp only
        rw [← List.append_assoc]
        exact there

/-- A walk in two parts stays below a place if both parts do. -/
theorem stays_append :
    files.stays place links location (steps ++ later) = true ↔
      files.stays place links location steps = true ∧
        ∀ arrived left, files.arrive links location steps = .ok (arrived, left) →
          files.stays place left arrived later = true := by
  induction links generalizing location steps with
  | zero => exact staysFrom_append (fun _ => rfl) (by simp)
  | succ links ih => exact staysFrom_append (fun _ => rfl) ih

theorem staysFrom_mono {former latter : Location → List Step → Bool}
    (there : ∀ {location steps}, former location steps = true → latter location steps = true)
    (stays : files.staysFrom place former location steps = true) :
    files.staysFrom place latter location steps = true := by
  induction steps generalizing location with
  | nil => rfl
  | cons step steps ih =>
    rw [staysFrom, Bool.and_eq_true] at stays ⊢
    refine ⟨stays.1, ?_⟩
    replace stays := stays.2
    revert stays
    cases files.stepFrom location step with
    | error errno => exact id
    | ok footing =>
      cases footing with
      | «at» next => exact ih
      | detour start inside => exact there

/-- A walk that may follow fewer links does not get farther. -/
theorem stays_of_le (fewer : links ≤ more) (stays : files.stays place more location steps = true) :
    files.stays place links location steps = true := by
  induction more generalizing links location steps with
  | zero =>
    obtain rfl := Nat.le_zero.1 fewer
    exact stays
  | succ more ih =>
    cases links with
    | zero => exact staysFrom_mono (fun _ => rfl) stays
    | succ links => exact staysFrom_mono (ih (Nat.le_of_succ_le_succ fewer)) stays

theorem arriveFrom_of_le {former latter : Location → List Step → Except Errno (Location × Nat)}
    (there : ∀ {location steps arrived left}, former location steps = .ok (arrived, left) →
      ∃ left, latter location steps = .ok (arrived, left))
    (arrives : files.arriveFrom links former location steps = .ok (arrived, left)) :
    ∃ left, files.arriveFrom more latter location steps = .ok (arrived, left) := by
  induction steps generalizing location with
  | nil =>
    cases arrives
    exact ⟨more, rfl⟩
  | cons step steps ih =>
    rw [arriveFrom] at arrives ⊢
    revert arrives
    cases files.stepFrom location step with
    | error errno => simp
    | ok footing =>
      cases footing with
      | «at» next => exact ih
      | detour start inside => exact there

/-- A walk that may follow more links arrives at the same place. -/
theorem arrive_of_le (fewer : links ≤ more)
    (arrives : files.arrive links location steps = .ok (arrived, left)) :
    ∃ left, files.arrive more location steps = .ok (arrived, left) := by
  induction more generalizing links location steps arrived left with
  | zero =>
    obtain rfl := Nat.le_zero.1 fewer
    exact ⟨left, arrives⟩
  | succ more ih =>
    cases links with
    | zero => exact arriveFrom_of_le (by simp) arrives
    | succ links => exact arriveFrom_of_le (ih (Nat.le_of_succ_le_succ fewer)) arrives

/-- A step into an entry leads there or into the link that stands there. -/
theorem footing_of_enter {footing : Footing}
    (leads : files.stepFrom location (.enter name) = .ok footing) :
    footing = .at (name :: location) ∨
      ∃ target, files.tree.node? (name :: location) = some (.link target) ∧
        footing = .detour (if target.isAbsolute then [] else location) target.steps := by
  rw [stepFrom_enter] at leads
  cases entry : files.entryIn location name with
  | error errno => simp [entry, Except.map] at leads
  | ok node =>
    obtain ⟨_, _, _, _, stands⟩ := entryIn_eq_ok_iff.1 entry
    rw [entry] at leads
    cases node with
    | link target =>
      cases leads
      exact .inr ⟨target, stands, rfl⟩
    | directory _ | file _ _ =>
      cases leads
      exact .inl rfl

theorem arrived_of_enter (arrives : files.arrive links location [.enter name] = .ok (arrived, left)) :
    arrived = name :: location ∨
      ∃ target, files.tree.node? (name :: location) = some (.link target) := by
  cases leads : files.stepFrom location (.enter name) with
  | error errno => cases links <;> simp [arrive, arriveFrom, leads] at arrives
  | ok footing =>
    obtain rfl | ⟨target, stands, _⟩ := footing_of_enter leads
    · cases links <;> simp_all [arrive, arriveFrom]
    · exact .inr ⟨target, stands⟩

/-! ## Walks in an enclosed tree -/

namespace Enclosed

variable {below : List Name}

/-- A step that does not climb from the place leads to a location in the tree, or into a link and goes on
from where it stands. -/
theorem stepFrom_cases (enclosed : files.Enclosed place) {step : Step} {footing : Footing}
    (keeps : (step == .ascend && below ++ place == place) = false)
    (plain : ∀ name ∈ below, PlainName name) (enters : ∀ name, step = .enter name → PlainName name)
    (leads : files.stepFrom (below ++ place) step = .ok footing) :
    (∃ next, footing = .at (next ++ place) ∧ ∀ name ∈ next, PlainName name) ∨
    ∃ target : HostPath, footing = .detour (below ++ place) target.steps := by
  cases step with
  | settle =>
    obtain ⟨permissions, inside⟩ := inside_of_stepFrom leads
    simp only [stepFrom, inside, Except.ok.injEq] at leads
    exact .inl ⟨below, leads.symm, plain⟩
  | stay =>
    obtain ⟨permissions, inside⟩ := inside_of_stepFrom leads
    simp only [stepFrom, inside] at leads
    split at leads
    · cases leads
      exact .inl ⟨below, rfl, plain⟩
    · cases leads
  | ascend =>
    obtain ⟨permissions, inside⟩ := inside_of_stepFrom leads
    simp only [stepFrom, inside] at leads
    split at leads
    · cases leads
      cases below with
      | nil => simp at keeps
      | cons name below =>
        exact .inl ⟨below, rfl, (List.forall_mem_cons.1 plain).2⟩
    · cases leads
  | enter name =>
    obtain rfl | ⟨target, stands, rfl⟩ := footing_of_enter leads
    · exact .inl ⟨name :: below, rfl, List.forall_mem_cons.2 ⟨enters name rfl, plain⟩⟩
    · exact .inr ⟨target, by simp [enclosed.relative name below target stands]⟩

theorem arriveFrom_inside (enclosed : files.Enclosed place)
    {detour : Location → List Step → Except Errno (Location × Nat)}
    {inner : Location → List Step → Bool}
    (there : ∀ {below steps arrived left}, (∀ name ∈ below, PlainName name) → PlainSteps steps →
      inner (below ++ place) steps = true → detour (below ++ place) steps = .ok (arrived, left) →
        ∃ next, arrived = next ++ place ∧ (∀ name ∈ next, PlainName name) ∧ left ≤ links)
    (plain : ∀ name ∈ below, PlainName name) (enters : PlainSteps steps)
    (stays : files.staysFrom place inner (below ++ place) steps = true)
    (arrives : files.arriveFrom links detour (below ++ place) steps = .ok (arrived, left)) :
    ∃ next, arrived = next ++ place ∧ (∀ name ∈ next, PlainName name) ∧ left ≤ links := by
  induction steps generalizing below with
  | nil =>
    cases arrives
    exact ⟨below, rfl, plain, Nat.le_refl _⟩
  | cons step steps ih =>
    rw [arriveFrom] at arrives
    rw [staysFrom, Bool.and_eq_true, Bool.not_eq_true'] at stays
    obtain ⟨keeps, stays⟩ := stays
    have later : PlainSteps steps := fun name among => enters name (List.mem_cons_of_mem _ among)
    cases leads : files.stepFrom (below ++ place) step with
    | error errno => simp [leads] at arrives
    | ok footing =>
      rw [leads] at arrives stays
      obtain ⟨next, rfl, plainNext⟩ | ⟨target, rfl⟩ := enclosed.stepFrom_cases keeps plain
        (fun name same => enters name (same ▸ List.mem_cons_self)) leads
      · exact ih plainNext later stays arrives
      · refine there plain ?_ stays arrives
        intro name among
        rcases List.mem_append.1 among with among | among
        · exact target.plainSteps_steps name among
        · exact later name among

/-- A walk that stays in the tree arrives in the tree, with no more links than it had. -/
theorem arrive_inside (enclosed : files.Enclosed place) (plain : ∀ name ∈ below, PlainName name)
    (enters : PlainSteps steps) (stays : files.stays place links (below ++ place) steps = true)
    (arrives : files.arrive links (below ++ place) steps = .ok (arrived, left)) :
    ∃ next, arrived = next ++ place ∧ (∀ name ∈ next, PlainName name) ∧ left ≤ links := by
  induction links generalizing below steps arrived left with
  | zero => exact enclosed.arriveFrom_inside (by simp) plain enters stays arrives
  | succ links ih =>
    refine enclosed.arriveFrom_inside ?_ plain enters stays arrives
    intro below steps arrived left plain enters stays arrives
    obtain ⟨next, there, plainNext, fewer⟩ := ih plain enters stays arrives
    exact ⟨next, there, plainNext, Nat.le_succ_of_le fewer⟩

/-- A single step into an entry stays in the tree. -/
theorem stays_enter (enclosed : files.Enclosed place) (few : links ≤ linkLimit) (name : Name)
    (below : List Name) : files.stays place links (below ++ place) [.enter name] = true := by
  cases leads : files.stepFrom (below ++ place) (.enter name) with
  | error errno => cases links <;> simp [FileSystem.stays, staysFrom, leads]
  | ok footing =>
    obtain rfl | ⟨target, stands, rfl⟩ := footing_of_enter leads
    · cases links <;> simp [FileSystem.stays, staysFrom, leads]
    · exact stays_of_le few (enclosed.stays name below target stands)

/-- A walk by names stays in the tree. -/
theorem stays_entering (enclosed : files.Enclosed place) (few : links ≤ linkLimit)
    {names : List Name} (plainNames : ∀ name ∈ names, PlainName name)
    (plain : ∀ name ∈ below, PlainName name) :
    files.stays place links (below ++ place) (entering names) = true := by
  induction names generalizing below links with
  | nil => cases links <;> rfl
  | cons name names ih =>
    have here : PlainSteps [.enter name] :=
      plainSteps_entering fun _ among => plainNames _ (List.mem_singleton.1 among ▸ List.mem_cons_self)
    have enters := enclosed.stays_enter few name below
    refine stays_append.2 ⟨enters, ?_⟩
    intro arrived left arrives
    obtain ⟨next, rfl, plainNext, fewer⟩ := enclosed.arrive_inside plain here enters arrives
    exact ih (Nat.le_trans fewer few) (List.forall_mem_cons.1 plainNames).2 plainNext

/-- A walk by names ends below the place. -/
theorem below_of_arrive_entering (enclosed : files.Enclosed place) (few : links ≤ linkLimit)
    {names : List Name} (filled : names ≠ []) (plainNames : ∀ name ∈ names, PlainName name)
    (plain : ∀ name ∈ below, PlainName name)
    (arrives : files.arrive links (below ++ place) (entering names) = .ok (arrived, left)) :
    Below place arrived := by
  obtain ⟨front, last, rfl⟩ : ∃ front last, names = front ++ [last] :=
    ⟨_, _, (List.dropLast_concat_getLast filled).symm⟩
  have plainFront : ∀ name ∈ front, PlainName name :=
    fun name among => plainNames name (List.mem_append_left _ among)
  have plainLast : PlainSteps [.enter last] :=
    @plainSteps_entering [last] fun name among => plainNames name (List.mem_append_right _ among)
  have inside := enclosed.stays_entering few plainFront plain
  rw [entering, List.map_append, arrive_append] at arrives
  cases before : files.arrive links (below ++ place) (front.map .enter) with
  | error errno => simp [before, Except.bind] at arrives
  | ok between =>
    obtain ⟨middle, remaining⟩ := between
    simp only [before, Except.bind] at arrives
    obtain ⟨next, rfl, plainNext, fewer⟩ :=
      enclosed.arrive_inside plain (plainSteps_entering plainFront) inside before
    have few : remaining ≤ linkLimit := Nat.le_trans fewer few
    have enters := enclosed.stays_enter few last next
    obtain ⟨final, rfl, plainFinal, _⟩ := enclosed.arrive_inside plainNext plainLast enters arrives
    refine ⟨final, ?_, plainFinal, rfl⟩
    rintro rfl
    -- Only a link could lead back to the place, and none does.
    obtain leads | ⟨target, stands⟩ := arrived_of_enter arrives
    · have lengths := congrArg List.length leads
      simp only [List.nil_append, List.length_cons, List.length_append] at lengths
      omega
    · obtain ⟨_, arrives⟩ := arrive_of_le few arrives
      exact enclosed.ends last next target stands place _ arrives rfl

end Enclosed

/-! ## Writing into an enclosed tree -/

namespace FileWritten

variable {before after : FileSystem} {written : Location} {content : Bytes}

theorem staysFrom (change : before.FileWritten written content after) (away : written ≠ place)
    {former latter : Location → List Step → Bool}
    (there : ∀ {location steps}, former location steps = true → latter location steps = true)
    (stays : before.staysFrom place former location steps = true) :
    after.staysFrom place latter location steps = true := by
  induction steps generalizing location with
  | nil => rfl
  | cons step steps ih =>
    rw [FileSystem.staysFrom, Bool.and_eq_true] at stays ⊢
    refine ⟨stays.1, ?_⟩
    cases leads : after.stepFrom location step with
    | error errno => rfl
    | ok footing =>
      obtain leadsBefore | ⟨rfl, free⟩ := change.stepFrom_back leads
      · replace stays := stays.2
        rw [leadsBefore] at stays
        cases footing with
        | «at» next => exact ih stays
        | detour start inside => exact there stays
      · -- the new file stands here, and no step can be taken from a file
        cases steps with
        | nil => rfl
        | cons further rest =>
          have stops : ∃ errno, after.stepFrom written further = .error errno := by
            cases leads : after.stepFrom written further with
            | error errno => exact ⟨errno, rfl⟩
            | ok footing =>
              obtain ⟨permissions, inside⟩ := inside_of_stepFrom leads
              have insideBefore := change.directory_iff.1 inside
              simp [free] at insideBefore
          obtain ⟨errno, stops⟩ := stops
          simp [FileSystem.staysFrom, away, stops]

/-- A walk that stays below a place does so after a write elsewhere. -/
theorem stays (change : before.FileWritten written content after) (away : written ≠ place)
    (stays : before.stays place links location steps = true) :
    after.stays place links location steps = true := by
  induction links generalizing location steps with
  | zero => exact change.staysFrom away (fun _ => rfl) stays
  | succ links ih => exact change.staysFrom away ih stays

end FileWritten

/-- A tree stays enclosed when a file in it is written. -/
theorem Enclosed.of_fileWritten {before after : FileSystem} {written : Location} {content : Bytes}
    (enclosed : before.Enclosed place) (change : before.FileWritten written content after)
    (away : written ≠ place) : after.Enclosed place := by
  have stood {location : Location} {target : HostPath}
      (stands : after.tree.node? location = some (.link target)) :=
    (change.node?_iff (by simp)).1 stands
  refine ⟨?_, ?_, ?_⟩
  · intro name below target stands
    exact enclosed.relative name below target (stood stands)
  · intro name below target stands
    exact change.stays away (enclosed.stays name below target (stood stands))
  · intro name below target stands arrived links arrives
    obtain arrivesBefore | ⟨here, _⟩ := change.arrive_back arrives
    · exact enclosed.ends name below target (stood stands) arrived links arrivesBefore
    · exact fun same => away (here.symm.trans same)

/-! ## Rows of an enclosed tree -/

/-- Whether the links in the rows of the tree below a place keep inside. -/
def encloses (files : FileSystem) (place : Location) : Bool :=
  files.tree.rows.all fun
    | (name :: parent, .link target) =>
      !place.isSuffixOf parent || !target.isAbsolute &&
        files.stays place linkLimit parent [.enter name] &&
        match files.arrive linkLimit parent [.enter name] with
        | .error _ => true
        | .ok (arrived, _) => arrived != place
    | _ => true

/-- A tree is enclosed if its rows are. -/
theorem Enclosed.of_encloses {files : FileSystem} {place : Location}
    (encloses : files.encloses place = true) : files.Enclosed place := by
  have checked {name : Name} {below : List Name} {target : HostPath}
      (stands : files.tree.node? (name :: (below ++ place)) = some (.link target)) :
      (target.isAbsolute = false ∧ files.stays place linkLimit (below ++ place) [.enter name] = true) ∧
        ∀ arrived left, files.arrive linkLimit (below ++ place) [.enter name] = .ok (arrived, left) →
          arrived ≠ place := by
    obtain ⟨front, back, split, _⟩ := List.lookup_eq_some_iff.1 stands
    have keeps := List.all_eq_true.1 encloses (name :: (below ++ place), .link target) (by simp [split])
    have suffix : place.isSuffixOf (below ++ place) = true := by simp [List.isSuffixOf_iff_suffix]
    simp only [suffix, Bool.not_true, Bool.false_or, Bool.and_eq_true, Bool.not_eq_true'] at keeps
    refine ⟨keeps.1, fun arrived left arrives => ?_⟩
    simpa [arrives] using keeps.2
  exact ⟨fun _ _ _ stands => (checked stands).1.1, fun _ _ _ stands => (checked stands).1.2,
    fun _ _ _ stands arrived links arrives => (checked stands).2 arrived links arrives⟩

end FileSystem

namespace Tree

/-- The names that lead down to a location from a place, if it stands there. -/
def below? (place location : Location) : Option (List Name) :=
  if place.isSuffixOf location then some (location.take (location.length - place.length)) else none

/-- The rows of a table that are about what is below a place, as it is seen from there. -/
def rowsBelow {α : Type} (place : Location) (rows : List (Location × α)) : List (Location × α) :=
  rows.filterMap fun row => (below? place row.1).map fun below => (below, row.2)

/-- What stands below a place, as a tree of its own. -/
def inside (tree : Tree) (place : Location) : Tree :=
  ⟨rowsBelow place tree.rows, rowsBelow place tree.damaged⟩

theorem below?_eq_some_iff {place location : Location} {below : List Name} :
    below? place location = some below ↔ location = below ++ place := by
  rw [below?]
  constructor
  · intro stands
    split at stands
    · rename_i suffix
      obtain ⟨front, rfl⟩ := List.isSuffixOf_iff_suffix.1 suffix
      cases stands
      simp
    · cases stands
  · rintro rfl
    simp [List.isSuffixOf_iff_suffix]

theorem below?_ne_some {place location : Location} (away : below? place location = none)
    (below : List Name) : location ≠ below ++ place := by
  intro stands
  rw [below?_eq_some_iff.2 stands] at away
  cases away

theorem lookup_rowsBelow {α : Type} (rows : List (Location × α)) (place : Location)
    (below : List Name) : (rowsBelow place rows).lookup below = rows.lookup (below ++ place) := by
  induction rows with
  | nil => rfl
  | cons row rest ih =>
    simp only [rowsBelow] at ih ⊢
    cases stands : below? place row.1 with
    | none =>
      have away : (below ++ place == row.1) = false :=
        beq_false_of_ne fun same => below?_ne_some stands below same.symm
      rw [List.filterMap_cons, stands, Option.map_none, List.lookup_cons, away]
      exact ih
    | some other =>
      have here := below?_eq_some_iff.1 stands
      have same : (below ++ place == row.1) = (below == other) := by
        rw [here, Bool.eq_iff_iff, beq_iff_eq, beq_iff_eq, List.append_left_inj]
      rw [List.filterMap_cons, stands, Option.map_some, List.lookup_cons, List.lookup_cons, same, ih]

theorem node?_inside (tree : Tree) (place : Location) {below : List Name} (filled : below ≠ []) :
    (tree.inside place).node? below = tree.node? (below ++ place) := by
  obtain ⟨name, parent, rfl⟩ := List.exists_cons_of_ne_nil filled
  exact lookup_rowsBelow tree.rows place (name :: parent)

theorem damage?_inside (tree : Tree) (place : Location) (below : List Name) (name : Name) :
    (tree.inside place).damage? below name = tree.damage? (below ++ place) name := by
  rw [damage?, damage?, inside, lookup_rowsBelow]

theorem children_inside (tree : Tree) (place : Location) (below : List Name) :
    (tree.inside place).children below = tree.children (below ++ place) := by
  rw [children, children, inside, rowsBelow, List.filterMap_filterMap]
  congr 2
  funext row
  cases stands : below? place row.1 with
  | none =>
    cases located : row.1 with
    | nil => rfl
    | cons name parent =>
      have away : parent ≠ below ++ place := by
        rintro rfl
        exact below?_ne_some stands (name :: below) located
      simp [entryName?, away]
  | some other =>
    rw [below?_eq_some_iff.1 stands]
    cases other with
    | nil =>
      cases place with
      | nil => rfl
      | cons first parent =>
        have deeper : parent ≠ below ++ first :: parent := by
          intro same
          have lengths := congrArg List.length same
          simp at lengths
          omega
        simp [entryName?, deeper]
    | cons name parent => simp [entryName?]

end Tree

end SingleRoot.Host
