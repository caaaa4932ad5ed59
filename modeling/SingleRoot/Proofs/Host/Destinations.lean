/-
# The places a path leads to

A path leads to the place where its walk arrives, and a write along it ends at a place too, which may still be
free. On a host as it should be the two are one place if both exist; they are listed together here because a
walk may also arrive where nothing stands, at a working directory that is gone, and a file may be made there
later.

A write leads no path to a new place: wherever a path leads after it, it has led before, `leads_back`. What
the write has changed is an end for walks that had none. Like the walk itself the proof has two inductions,
the outer one on the links that may still be followed and the inner one on the steps, once for walks that
arrive and once for walks that write.
-/
import SingleRoot.Proofs.Host.Enclosure
import SingleRoot.Proofs.Host.ReadBack

namespace SingleRoot.Host.FileSystem

/-- Where some steps lead: a walk arrives there, or a walk that is going to write ends there. -/
def Leads (files : FileSystem) (links : Nat) (location : Location) (steps : List Step)
    (place : Location) : Prop :=
  (∃ left, files.arrive links location steps = .ok (place, left)) ∨
    ∃ landing, files.walk .produce links location steps = .ok landing ∧ landing.location = place

/-- The places that a path leads to. -/
def destinations (files : FileSystem) (path : HostPath) : List Location :=
  if path.refusal?.isSome then []
  else
    (files.arrive linkLimit (files.start path) path.steps).toOption.toList.map Prod.fst ++
      (files.walk .produce linkLimit (files.start path) path.steps).toOption.toList.map
        Landing.location

theorem mem_destinations_iff {files : FileSystem} {path : HostPath} {place : Location} :
    place ∈ files.destinations path ↔
      path.refusal? = none ∧ files.Leads linkLimit (files.start path) path.steps place := by
  have listed {ε α : Type} {answer : Except ε α} {f : α → Location} :
      place ∈ answer.toOption.toList.map f ↔ ∃ value, answer = .ok value ∧ f value = place := by
    cases answer <;> simp [Except.toOption, eq_comm]
  rw [destinations, Leads]
  cases path.refusal? with
  | some fault => simp
  | none =>
    simp only [Option.isSome_none, Bool.false_eq_true, if_false, List.mem_append, listed, true_and]
    constructor
    · rintro (⟨⟨arrived, left⟩, arrives, rfl⟩ | written)
      · exact .inl ⟨left, arrives⟩
      · exact .inr written
    · rintro (⟨left, arrives⟩ | written)
      · exact .inl ⟨_, arrives, rfl⟩
      · exact .inr written

variable {files : FileSystem} {path : HostPath} {location place : Location}

theorem mem_destinations_of_find {node : Node} (found : files.find path = .ok (place, node)) :
    place ∈ files.destinations path := by
  obtain ⟨accepted, arrives, _⟩ := find_eq_ok_iff.1 found
  exact mem_destinations_iff.2 ⟨accepted, .inl arrives⟩

theorem mem_destinations_of_resolve {landing : Landing}
    (ends : files.resolve .produce path = .ok landing) :
    landing.location ∈ files.destinations path := by
  rw [resolve_eq] at ends
  cases accepted : path.refusal? with
  | some fault => simp [accepted] at ends
  | none =>
    rw [accepted] at ends
    exact mem_destinations_iff.2 ⟨accepted, .inr ⟨landing, mapError_eq_ok.1 ends, rfl⟩⟩

/-- A look ends where its walk arrives. -/
theorem walk_of_arrive {links left : Nat} {steps : List Step} {node : Node}
    (arrives : files.arrive links location steps = .ok (place, left))
    (stands : files.tree.node? place = some node) :
    files.walk .look links location steps = .ok (.present place node) := by
  have found := @found_walk files links location steps
  rw [arrives] at found
  simp only [Except.bind, standing, stands] at found
  cases ends : files.walk .look links location steps with
  | error errno => simp [ends] at found
  | ok landing =>
    rw [ends] at found
    cases landing with
    | vacant _ _ => cases found
    | present _ _ =>
      cases found
      rfl

/-! ## The end of a walk that writes -/

/-- In a directory that may be searched, a walk that is going to write can end at a free name. -/
theorem walkFrom_vacant {detour : Location → List Step → Except Errno Landing} {name : Name}
    {permissions : Permissions} (inside : files.tree.node? location = some (.directory permissions))
    (searchable : files.caller.may permissions.search = true) (short : name.length ≤ longestName)
    (free : files.tree.node? (name :: location) = none) :
    files.walkFrom .produce detour location [.enter name] = .ok (.vacant location name) := by
  rw [walkFrom, inside]
  simp [searchable, Nat.not_lt_of_le short, free]

/-- A walk that is going to write and gets anywhere has not been stopped before a name that would have to be
a directory. -/
theorem unsettled_of_walkFrom {manner : Manner}
    {detour : Location → List Step → Except Errno Landing} {step : Step} {rest : List Step}
    {landing : Landing} (ends : files.walkFrom manner detour location (step :: rest) = .ok landing) :
    (∀ name, step ≠ .enter name) ∨ (manner.create && rest == [.settle]) = false := by
  cases step with
  | settle | stay | ascend => exact .inl (by simp)
  | enter name =>
    right
    rw [walkFrom] at ends
    cases settles : manner.create && rest == [.settle] with
    | false => rfl
    | true =>
      simp only [settles, if_true] at ends
      split at ends
      · split at ends <;> cases ends
      · cases ends
      · cases ends

namespace FileWritten

variable {before after : FileSystem} {written : Location} {content : Bytes}

/-- What stands at the place of a write is a file. -/
theorem no_directory (change : before.FileWritten written content after) {permissions : Permissions} :
    after.tree.node? written ≠ some (.directory permissions) := by
  obtain ⟨_, now⟩ := change.stands
  intro inside
  cases now.symm.trans inside

/-- No step leads on from a file that has been written. -/
theorem no_step (change : before.FileWritten written content after) {step : Step} {footing : Footing} :
    after.stepFrom written step ≠ .ok footing := by
  intro leads
  obtain ⟨_, inside⟩ := inside_of_stepFrom leads
  exact change.no_directory inside

/-- What is free after a write has been free before. -/
theorem free_back (change : before.FileWritten written content after) {location : Location}
    (free : after.tree.node? location = none) : before.tree.node? location = none := by
  by_cases here : location = written
  · subst here
    obtain ⟨_, now⟩ := change.stands
    cases free.symm.trans now
  · exact (change.elsewhere location here).symm.trans free

/-- A step that leads to a new file is the entering of its name, and a walk that writes could end with it
before. -/
theorem vacant_of_stepFrom (change : before.FileWritten written content after)
    {detour : Location → List Step → Except Errno Landing} {step : Step}
    (leads : after.stepFrom location step = .ok (.at written))
    (led : ¬ before.stepFrom location step = .ok (.at written)) :
    ∃ landing, before.walkFrom .produce detour location [step] = .ok landing ∧
      landing.location = written := by
  cases step with
  | settle | stay | ascend => exact absurd ((change.stepFrom_iff_of_stay (by simp)).1 leads) led
  | enter name =>
    obtain ⟨_, free⟩ := (change.stepFrom_back leads).resolve_left led
    obtain here | ⟨_, _, other⟩ := footing_of_enter leads
    · cases here
      rw [stepFrom_enter] at leads
      cases entry : after.entryIn location name with
      | error errno => simp [entry, Except.map] at leads
      | ok node =>
        obtain ⟨permissions, inside, searchable, short, _⟩ := entryIn_eq_ok_iff.1 entry
        exact ⟨_, walkFrom_vacant (change.directory_iff.1 inside) (change.caller ▸ searchable) short free,
          rfl⟩
    · cases other

/-- Where a walk ends that writes after a write, it has led before. The induction is on the steps; what is to
be known of links comes from outside. -/
theorem leads_walkFrom_back (change : before.FileWritten written content after) {links : Nat}
    {former latter : Location → List Step → Except Errno Landing}
    {arrivals : Location → List Step → Except Errno (Location × Nat)}
    (there : ∀ {location steps landing}, latter location steps = .ok landing →
      (∃ left, arrivals location steps = .ok (landing.location, left)) ∨
        ∃ earlier, former location steps = .ok earlier ∧ earlier.location = landing.location)
    {location : Location} {steps : List Step} {landing : Landing}
    (ends : after.walkFrom .produce latter location steps = .ok landing) :
    (∃ left, before.arriveFrom links arrivals location steps = .ok (landing.location, left)) ∨
      ∃ earlier, before.walkFrom .produce former location steps = .ok earlier ∧
        earlier.location = landing.location := by
  induction steps generalizing location with
  | nil =>
    rw [walkFrom] at ends
    split at ends
    · cases ends
      exact .inl ⟨links, rfl⟩
    · cases ends
  | cons step rest ih =>
    have unsettled := unsettled_of_walkFrom ends
    obtain ⟨next, leads, ends⟩ | ⟨start, inner, leads, ends⟩ | ⟨rfl, holds, ⟨name, rfl, at_⟩, vacant⟩ :=
      walkFrom_cons_eq_ok ends
    · by_cases led : before.stepFrom location step = .ok (.at next)
      · obtain ⟨left, arrives⟩ | ⟨earlier, ended, same⟩ := ih ends
        · refine .inl ⟨left, ?_⟩
          rw [FileSystem.arriveFrom, led]
          exact arrives
        · refine .inr ⟨earlier, ?_, same⟩
          rw [walkFrom_of_stepFrom rfl unsettled led]
          exact ended
      · -- the walk has come to the new file and can only end there
        obtain ⟨here, _⟩ := (change.stepFrom_back leads).resolve_left led
        cases here
        cases rest with
        | nil =>
          rw [walkFrom] at ends
          split at ends
          · cases ends
            exact .inr (change.vacant_of_stepFrom leads led)
          · cases ends
        | cons further others =>
          obtain ⟨_, onward, _⟩ | ⟨_, _, onward, _⟩ | ⟨rfl, _, ⟨_, rfl, _⟩, _⟩ :=
            walkFrom_cons_eq_ok ends
          · exact absurd onward change.no_step
          · exact absurd onward change.no_step
          · obtain ⟨_, inside, _⟩ := entered_of_walkFrom ends
            exact absurd inside change.no_directory
    · have led : before.stepFrom location step = .ok (.detour start inner) :=
        (change.stepFrom_back leads).resolve_right (by simp)
      obtain ⟨left, arrives⟩ | ⟨earlier, ended, same⟩ := there ends
      · refine .inl ⟨left, ?_⟩
        rw [FileSystem.arriveFrom, led]
        exact arrives
      · refine .inr ⟨earlier, ?_, same⟩
        rw [walkFrom_of_stepFrom rfl unsettled led]
        exact ended
    · -- the walk has ended at a name that is free, and so has been free before
      obtain ⟨permissions, inside, searchable, short⟩ := entered_of_walkFrom ends
      obtain ⟨_, rfl⟩ := vacant rfl
      cases at_
      exact .inr ⟨_, walkFrom_vacant (change.directory_iff.1 inside) (change.caller ▸ searchable) short
        (change.free_back holds), rfl⟩

/-- Where a walk ends that writes after a write, it has led before. -/
theorem leads_walk_back (change : before.FileWritten written content after) {links : Nat}
    {location : Location} {steps : List Step} {landing : Landing}
    (ends : after.walk .produce links location steps = .ok landing) :
    before.Leads links location steps landing.location := by
  induction links generalizing location steps landing with
  | zero => exact change.leads_walkFrom_back (by simp) ends
  | succ links ih => exact change.leads_walkFrom_back ih ends

/-- Wherever steps lead after a write, they have led before. -/
theorem leads_back (change : before.FileWritten written content after) {links : Nat}
    {location place : Location} {steps : List Step} (leads : after.Leads links location steps place) :
    before.Leads links location steps place := by
  rcases leads with ⟨left, arrives⟩ | ⟨landing, ends, rfl⟩
  · rcases change.arrive_back arrives with arrived | ⟨rfl, _⟩
    · exact .inl ⟨left, arrived⟩
    · -- the walk arrives at a file, and a walk that writes finds the same file
      obtain ⟨permissions, stands⟩ := change.stands
      exact change.leads_walk_back (walk_produce (walk_of_arrive arrives stands))
  · exact change.leads_walk_back ends

/-- A write leads no path to a new place. -/
theorem destinations_back (change : before.FileWritten written content after) {path : HostPath}
    {place : Location} (leads : place ∈ after.destinations path) :
    place ∈ before.destinations path := by
  rw [mem_destinations_iff] at leads ⊢
  rw [change.start] at leads
  exact ⟨leads.1, change.leads_back leads.2⟩

end FileWritten

end SingleRoot.Host.FileSystem
