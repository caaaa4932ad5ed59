/-
# What a call counts and warns of

A call reports and counts while it works. Most of what it reports is for those who want to follow it; the
events that ask for attention are its warnings. `Booked` says what has been counted and warned of between
two machines, one after the other, so that the books of a call are those of its parts in a row. Most parts
are *quiet*: they count nothing and warn of nothing.
-/
import SingleRoot.Proofs.Device.Effects

namespace SingleRoot.Device

open Host

namespace Event

/-- The event asks for attention. -/
def IsWarning (event : Event) : Prop :=
  event.severity = .warn

instance (event : Event) : Decidable event.IsWarning :=
  inferInstanceAs (Decidable (event.severity = .warn))

end Event

namespace Tally

/-- Count one thing after another. -/
def addAll (tally : Tally) (counted : List (Counter × Nat)) : Tally :=
  counted.foldl (fun tally row => tally.add row.1 row.2) tally

theorem addAll_append (tally : Tally) (counted further : List (Counter × Nat)) :
    tally.addAll (counted ++ further) = (tally.addAll counted).addAll further :=
  List.foldl_append

end Tally

namespace Machine

/-- The warnings in the journal. -/
def warnings (machine : Machine) : List Event :=
  machine.journal.filter fun event => event.IsWarning

/-- What has been counted and warned of between two machines. -/
structure Booked (counted : List (Counter × Nat)) (warned : List Event) (before after : Machine) :
    Prop where
  tally : after.tally = before.tally.addAll counted
  warnings : after.warnings = before.warnings ++ warned

variable {before middle after : Machine}

theorem booked_refl (machine : Machine) : Booked [] [] machine machine :=
  ⟨rfl, (List.append_nil _).symm⟩

theorem Booked.trans {counted further : List (Counter × Nat)} {warned moreWarned : List Event}
    (first : Booked counted warned before middle) (second : Booked further moreWarned middle after) :
    Booked (counted ++ further) (warned ++ moreWarned) before after := by
  constructor
  · rw [second.tally, first.tally, Tally.addAll_append]
  · rw [second.warnings, first.warnings, List.append_assoc]

theorem booked_note (machine : Machine) {event : Event} (calm : ¬ event.IsWarning) :
    Booked [] [] machine { machine with journal := machine.journal ++ [event] } := by
  constructor
  · rfl
  · simp [Machine.warnings, calm]

theorem booked_warning (machine : Machine) {event : Event} (warning : event.IsWarning) :
    Booked [] [event] machine { machine with journal := machine.journal ++ [event] } := by
  constructor
  · rfl
  · simp [Machine.warnings, warning]

theorem booked_count (machine : Machine) (counter : Counter) (amount : Nat) :
    Booked [(counter, amount)] [] machine
      { machine with tally := machine.tally.add counter amount } :=
  ⟨rfl, (List.append_nil _).symm⟩

theorem booked_disturb (machine : Machine) (kernel : Interference) (point : Point) :
    Booked [] [] machine (machine.disturb kernel point) :=
  ⟨rfl, (List.append_nil _).symm⟩

theorem booked_write (machine : Machine) (path : HostPath) (content : Bytes) :
    Booked [] [] machine (machine.write path content).2 := by
  rw [write]
  split
  · exact ⟨rfl, (List.append_nil _).symm⟩
  · exact ⟨rfl, (List.append_nil _).symm⟩

end Machine

/-! ## Quiet calls -/

/-- A call that counts nothing and warns of nothing, however it ends. -/
def Action.Quiet {α : Type} (call : Action α) : Prop :=
  ∀ machine : Machine, machine.Booked [] [] (call.run machine).2

namespace Action.Quiet

variable {α β : Type}

theorem pure (value : α) : Quiet (Pure.pure value) := Machine.booked_refl

theorem throw (error : DeviceError) : Quiet (MonadExcept.throw error : Action α) :=
  Machine.booked_refl

theorem ask (query : FileSystem → Except DeviceError α) : Quiet (Action.ask query) :=
  Machine.booked_refl

theorem get : Quiet MonadState.get := Machine.booked_refl

theorem note {event : Event} (calm : ¬ event.IsWarning) : Quiet (Action.note event) :=
  fun machine => machine.booked_note calm

theorem reach (kernel : Interference) (point : Point) : Quiet (Action.reach kernel point) :=
  fun machine => machine.booked_disturb kernel point

theorem write (path : HostPath) (content : String) : Quiet (Action.write path content) :=
  fun machine => machine.booked_write path _

theorem of_run {call : Action α} {result : Except DeviceError α} {before after : Machine}
    (quiet : Quiet call) (ran : call.run before = (result, after)) : before.Booked [] [] after :=
  Within.of_run (Machine.Booked [] []) quiet ran

theorem bind {part : Action α} {rest : α → Action β} (first : Quiet part)
    (second : ∀ value, Quiet (rest value)) : Quiet (part >>= rest) :=
  Within.bind (Machine.Booked [] []) (fun _ _ _ => .trans) first second

theorem map (f : α → β) {part : Action α} (quiet : Quiet part) : Quiet (f <$> part) := by
  intro machine
  rw [run_map]
  exact quiet machine

end Action.Quiet

end SingleRoot.Device
