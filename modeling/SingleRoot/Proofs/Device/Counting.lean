/-
# What a call counts

The counters move only with what a call has achieved: a rebind counts one if it was more than a look at
the driver, a provisioning counts the functions that it has written, and an enumeration counts the entries
that it has skipped, those of which it cannot even read the name among them. A call that fails counts
nothing. Each is told from the machine that the call meets and from its result, however the kernel
interferes.
-/
import SingleRoot.Proofs.Device.Confinement

namespace SingleRoot

open Host

namespace Device.Handle

variable {handle : Handle} {kernel : Interference} {driver : String} {count : UInt32}
  {before after : Machine}

/-- A rebind counts one if it succeeds and the function was not bound to the driver already. -/
theorem tally_of_rebind {result : Except DeviceError Unit}
    (ran : (handle.rebind kernel driver).run before = (result, after)) :
    after.tally = before.tally.addAll
      (if handle.boundDriver before.files = .ok (some driver) then []
        else bindsCounted driver result) := by
  cases passage_of_run ran with
  | misnamed misnamed => split <;> rfl
  | unknown named unknown => split <;> rfl
  | unneeded named bound =>
    rw [if_pos bound]
    rfl
  | @unreleased current error _ named bound other releases =>
    rw [((quiet_release _ _ _ _).of_run releases).tally]
    split <;> rfl
  | @unrestricted current error released _ named bound other releases restricts =>
    have quiet := ((quiet_release _ _ _ _).of_run releases).trans
      ((quiet_restriction _ _ _ _ _).of_run restricts)
    rw [quiet.tally]
    split <;> rfl
  | @granted current _ released restrained _ named bound other releases restricts grants =>
    have quiet := ((quiet_release _ _ _ _).of_run releases).trans
      ((quiet_restriction _ _ _ _ _).of_run restricts)
    obtain ⟨_, _, _, _, _, _, _, booked⟩ := lifted_of_grant grants
    rw [(quiet.trans booked).tally, if_neg ?_]
    · rfl
    · rw [bound]
      intro same
      exact other (Except.ok.inj same)

/-- What a change of the number of functions counts when it has been written. -/
def provisionCounted (count : UInt32) : Except DeviceError Unit → List (Counter × Nat)
  | .ok _ => [(.functionsProvisioned, count.toNat)]
  | .error _ => []

/-- A provisioning counts its functions if it succeeds and the number was not there already. -/
theorem tally_of_provision {result : Except DeviceError Unit}
    (ran : (handle.provision count).run before = (result, after)) :
    after.tally = before.tally.addAll
      (if handle.configured before.files = .ok count then [] else provisionCounted count result) := by
  rw [provision, Action.run_bind, Action.run_ask] at ran
  cases held : handle.configured before.files with
  | error error =>
    rw [held] at ran
    cases ran
    rfl
  | ok configured =>
    simp only [held] at ran
    by_cases same : configured = count
    · rw [if_pos same] at ran
      cases ran
      rw [if_pos (congrArg _ same)]
      rfl
    · rw [if_neg same] at ran
      rw [if_neg fun there => same (Except.ok.inj there)]
      split at ran
      · cases ran
        rfl
      · simp only [Action.run_bind, Action.run_write] at ran
        have quiet := before.booked_write (handle.entry configuredEntry)
          (Text.toBytes (Text.decimal count.toNat))
        cases wrote : before.write (handle.entry configuredEntry)
            (Text.toBytes (Text.decimal count.toNat)) with
        | mk fault? written =>
          rw [wrote] at ran quiet
          cases fault? with
          | some fault =>
            cases ran
            exact quiet.tally
          | none =>
            cases ran
            exact congrArg (fun tally => tally.add .functionsProvisioned count.toNat) quiet.tally

/-- Entries that are skipped are reported and counted one by one. -/
theorem run_skipping (address : String) (skipped : List Skip) (before : Machine) :
    (forIn skipped PUnit.unit fun skip _ => do
        Action.note (skip.event address)
        Action.count .entriesSkipped 1
        pure (ForInStep.yield PUnit.unit) : Action PUnit).run before =
      (.ok PUnit.unit, { before with
        journal := before.journal ++ skipped.map (Skip.event address)
        tally := before.tally.addAll (List.replicate skipped.length (.entriesSkipped, 1)) }) := by
  induction skipped generalizing before with
  | nil =>
    rw [List.map_nil, List.append_nil]
    rfl
  | cons skip rest ih =>
    rw [List.forIn_cons]
    -- the loop goes on with the machine that its first round has left
    refine (ih { before with
      journal := before.journal ++ [skip.event address]
      tally := before.tally.add .entriesSkipped 1 }).trans ?_
    rw [List.append_assoc]
    rfl

/-- An enumeration reports each entry that it skips, whether it has a name or not, and counts it. Then it
reports its result, and leaves all else as it was. -/
theorem run_enumerate {enumeration : Enumeration}
    (found : handle.virtualFunctions before.files = .ok enumeration) :
    handle.enumerate.run before = (.ok enumeration, { before with
      journal := before.journal ++ (enumeration.skipped.map (Skip.event handle.address) ++
        [.enumerated handle.address enumeration.functions.length enumeration.skipped.length])
      tally := before.tally.addAll
        (List.replicate enumeration.skipped.length (.entriesSkipped, 1)) }) := by
  rw [enumerate, Action.run_bind, Action.run_ask, found]
  dsimp only
  rw [Action.run_bind, run_skipping, ← List.append_assoc]
  rfl

/-- What an enumeration counts: the entries that it has skipped. -/
def enumerateCounted : Except DeviceError Enumeration → List (Counter × Nat)
  | .ok enumeration => List.replicate enumeration.skipped.length (.entriesSkipped, 1)
  | .error _ => []

theorem tally_of_enumerate {result : Except DeviceError Enumeration}
    (ran : handle.enumerate.run before = (result, after)) :
    after.tally = before.tally.addAll (enumerateCounted result) := by
  cases found : handle.virtualFunctions before.files with
  | error error =>
    rw [enumerate, Action.run_bind, Action.run_ask, found] at ran
    cases ran
    rfl
  | ok enumeration =>
    cases (run_enumerate found).symm.trans ran
    rfl

/-- Of a listing, an enumeration counts every numbered entry that leads nowhere and every entry that cannot
be read. -/
theorem tally_of_listing {entries : List Entry}
    (lists : before.files.list handle.directory = .ok entries) :
    (handle.enumerate.run before).2.tally = before.tally.addAll (List.replicate
      (((numbered (entries.filterMap Entry.name?)).filter fun name =>
          !handle.leads before.files name).length +
        (entries.filterMap Entry.fault?).length) (.entriesSkipped, 1)) := by
  have found : handle.virtualFunctions before.files = .ok (handle.survey before.files entries) := by
    rw [virtualFunctions, lists]
  rw [run_enumerate found, Skip.length_eq, names_skipped, faults_skipped]

end Device.Handle

end SingleRoot
