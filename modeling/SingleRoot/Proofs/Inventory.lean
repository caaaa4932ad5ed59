/-
# The numbers of an inventory

What a rebind and a provisioning do to the numbers of virtual functions in an inventory: the one changes
none, and the other changes one, which it takes from zero or to zero.
-/
import SingleRoot.Inventory

namespace SingleRoot.Inventory

open Device

variable {inventory next : Inventory} {address other : String} {count former : UInt32}

/-- What is registered stays registered. -/
theorem isSome_record?_register {record : Record} (held : (inventory.record? other).isSome) :
    ((inventory.register address record).record? other).isSome := by
  rw [record?_register]
  split
  · rfl
  · exact held

theorem configured_eq_ok_iff :
    inventory.configured address = .ok count ↔
      ∃ record, inventory.record? address = some record ∧ record.configured = count := by
  simp only [configured, find]
  cases inventory.record? address <;> simp [bind, Except.bind, pure, Except.pure]

/-- A provisioning sets one number, which it takes from zero or to zero. -/
theorem configured_of_provision (provisioned : inventory.provision other count = .ok next) :
    ∃ record, inventory.record? other = some record ∧
      (record.configured = count ∨ record.configured = 0 ∨ count = 0) ∧
      next = inventory.register other { record with configured := count } := by
  simp only [provision, find] at provisioned
  cases held : inventory.record? other with
  | none => simp [held, bind, Except.bind] at provisioned
  | some record =>
    simp only [held, bind, Except.bind] at provisioned
    split at provisioned
    · cases provisioned
    · rename_i allowed
      cases provisioned
      refine ⟨record, rfl, ?_, rfl⟩
      by_cases same : record.configured = count
      · exact .inl same
      · by_cases zero : record.configured = 0
        · exact .inr (.inl zero)
        · exact .inr (.inr (Decidable.byContradiction fun filled => allowed ⟨same, zero, filled⟩))

/-- A rebind of a registered device succeeds, whatever the driver is called. -/
theorem rebind_eq {record : Record} (held : inventory.record? address = some record) (driver : String) :
    inventory.rebind address driver =
      .ok (inventory.register address { record with driver := some driver }) := by
  simp only [rebind, find, held]
  rfl

/-- A device that is registered has the driver of its record. -/
theorem boundDriver_register (inventory : Inventory) (address : String) (record : Record) :
    (inventory.register address record).boundDriver address = .ok record.driver := by
  simp only [boundDriver, find, record?_register]
  rfl

/-- A rebind changes no number. -/
theorem configured_of_rebind {driver : String} (bound : inventory.rebind other driver = .ok next) :
    next.configured address = inventory.configured address := by
  simp only [rebind, find] at bound
  cases held : inventory.record? other with
  | none => simp [held, bind, Except.bind] at bound
  | some record =>
    simp only [held, bind, Except.bind, pure, Except.pure, Except.ok.injEq] at bound
    subst bound
    simp only [configured, find, record?_register]
    by_cases here : address = other
    · subst here
      simp [held, bind, Except.bind, pure, Except.pure]
    · simp [here]

/-- What a provisioning of a registered device does. -/
theorem provision_eq {record : Record} (held : inventory.record? address = some record) :
    inventory.provision address count =
      if record.configured ≠ count ∧ record.configured ≠ 0 ∧ count ≠ 0 then
        .error (.alreadyProvisioned address record.configured count)
      else .ok (inventory.register address { record with configured := count }) := by
  simp only [provision, find, held, bind, Except.bind]
  split <;> rfl

/-- From any number of a registered device, a provisioning from zero or to zero succeeds. -/
theorem provision_through_zero {record : Record} (held : inventory.record? address = some record)
    (throughZero : record.configured = 0 ∨ count = 0) :
    inventory.provision address count =
      .ok (inventory.register address { record with configured := count }) := by
  rw [provision_eq held, if_neg]
  rintro ⟨_, filled, wanted⟩
  exact throughZero.elim filled wanted

theorem reset_not_refused (inventory : Inventory) (address named : String)
    (configured requested : UInt32) :
    inventory.provision address 0 ≠ .error (.alreadyProvisioned named configured requested) := by
  simp only [provision, find]
  cases inventory.record? address with
  | none => simp [bind, Except.bind]
  | some record => simp [bind, Except.bind, pure, Except.pure]

end SingleRoot.Inventory
