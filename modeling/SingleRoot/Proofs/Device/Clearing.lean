/-
# The override is cleared again

A rebind that can restrict the function to its new driver does so by setting the override, and an override
that stays behind would hold the function to that driver for good. `Cleared` says how a rebind ends that
has set the override: it attempts the bind write and then clears the override, and nothing else after
that. Whether it could clear it shows in its warnings and not in its result, which is settled by what came
before. A rebind that has not set the override is `Spared`: it does not come back to the file.
-/
import SingleRoot.Proofs.Device.Report
import SingleRoot.Proofs.Host.ReadBack

namespace SingleRoot.Device

open Host

namespace Handle

section Definitions

variable (handle : Handle) (driver : String)

/-- The write that sets the override, with its fault if it has one. -/
def setting (fault? : Option Fault) : Attempt :=
  ⟨handle.overrideFile, Text.toBytes driver, fault?⟩

/-- The write that gives the function to its new driver. -/
def binding (fault? : Option Fault) : Attempt :=
  ⟨handle.bindFile driver, Text.toBytes handle.address, fault?⟩

/-- The write that clears the override. -/
def clearing (fault? : Option Fault) : Attempt :=
  ⟨handle.overrideFile, Text.toBytes "\n", fault?⟩

/-- A rebind has set the override and has cleared it again, or has tried to. Before its last write the
files were `written`. -/
structure Cleared (made earlier : List Attempt) (bindFault? clearFault? : Option Fault)
    (written : FileSystem) (before : Machine) (result : Except DeviceError Unit) (after : Machine) :
    Prop where
  attempts : made = earlier ++
    [handle.setting driver none, handle.binding driver bindFault?, handle.clearing clearFault?]
  earlier : ∀ attempt ∈ earlier, attempt.path ≠ handle.overrideFile
  cleared : clearFault? = none →
    written.write handle.overrideFile (Text.toBytes "\n") = .ok after.files
  kept : ∀ fault, clearFault? = some fault →
    written.write handle.overrideFile (Text.toBytes "\n") = .error fault ∧ after.files = written
  /-- The override that has been cleared holds an empty line, and whoever may read it reads that. -/
  reads : clearFault? = none → ∃ location permissions,
    after.files.find handle.overrideFile =
        .ok (location, .file permissions (Text.toBytes "\n")) ∧
      (after.files.caller.may permissions.read = true →
        after.files.read handle.overrideFile = .ok (Text.toBytes "\n"))
  /-- The only warning is about an override that could not be cleared. -/
  warnings : after.warnings = before.warnings ++ handle.uncleared clearFault?
  /-- The result does not depend on what becomes of the last write. -/
  result : result = handle.verdict driver (handle.seenDriver before.files) bindFault? written

/-- A rebind has not set the override: it has not attempted to, or it has failed and stopped. -/
def Spared (made : List Attempt) : Prop :=
  ∃ earlier : List Attempt, (∀ attempt ∈ earlier, attempt.path ≠ handle.overrideFile) ∧
    (made = earlier ∨ ∃ fault, made = earlier ++ [handle.setting driver (some fault)])

end Definitions

variable {handle : Handle} {kernel : Interference} {driver : String} {made : List Attempt}

theorem setting_notMem_of_spared (spared : handle.Spared driver made) :
    handle.setting driver none ∉ made := by
  obtain ⟨earlier, away, rfl | ⟨fault, rfl⟩⟩ := spared
  · intro among
    exact away _ among rfl
  · intro among
    rcases List.mem_append.1 among with among | among
    · exact away _ among rfl
    · simp [setting] at among

/-- A release does not touch the override. -/
theorem overrideFile_ne_of_mem_releasing {current : Option String} :
    ∀ attempt ∈ handle.releasing current, attempt.path ≠ handle.overrideFile := by
  intro attempt among same
  obtain ⟨former, _, rfl⟩ := List.mem_map.1 among
  exact overrideFile_ne_unbindFile handle former same.symm

section Runs

variable {before after : Machine} {result : Except DeviceError Unit}

/-- A grant that follows a restriction attempts the bind write, clears the override and answers. -/
theorem cleared_of_grant {current : Option String} {first restrained : Machine}
    (seen : handle.seenDriver first.files = current)
    (quiet : first.Booked [] [] restrained)
    (attempts : restrained.attempts =
      first.attempts ++ (handle.releasing current ++ [handle.setting driver none]))
    (grants : (handle.grant kernel driver current true).run restrained = (result, after)) :
    ∃ made, after.attempts = first.attempts ++ made ∧
      ∃ earlier bindFault? clearFault? written,
        handle.Cleared driver made earlier bindFault? clearFault? written first result after := by
  obtain ⟨bindFault?, clearFault?, waiting, written, attempted, lifted, answered, booked⟩ :=
    lifted_of_grant grants
  cases lifted with
  | tried tried =>
    refine ⟨_, ?_, handle.releasing current, bindFault?, clearFault?, written.files,
      { attempts := rfl
        earlier := overrideFile_ne_of_mem_releasing
        cleared := tried.made
        kept := tried.failed
        reads := fun unhindered => ?_
        warnings := ?_
        result := seen ▸ answered }⟩
    · rw [tried.attempts, attempted.attempts, attempts]
      simp [binding, clearing]
    · obtain ⟨location, permissions, found⟩ := FileSystem.find_of_write (tried.made unhindered)
      exact ⟨location, permissions, found, fun readable =>
        FileSystem.read_eq_ok_iff.2 ⟨location, permissions, found, readable⟩⟩
    · exact (quiet.trans booked).warnings

/-- Every rebind has cleared the override, or it has not set it. -/
theorem cleared_or_spared (ran : (handle.rebind kernel driver).run before = (result, after)) :
    ∃ made, after.attempts = before.attempts ++ made ∧
      (after.warnings = before.warnings ∧ handle.Spared driver made ∨
        ∃ earlier bindFault? clearFault? written,
          handle.Cleared driver made earlier bindFault? clearFault? written before result after) := by
  -- three ways end before anything is written
  have idle {ended : Machine} (attempts : ended.attempts = before.attempts)
      (quiet : before.Booked [] [] ended) :
      ∃ made, ended.attempts = before.attempts ++ made ∧
        (ended.warnings = before.warnings ∧ handle.Spared driver made ∨
          ∃ earlier bindFault? clearFault? written,
            handle.Cleared driver made earlier bindFault? clearFault? written before result ended) :=
    ⟨[], by simp [attempts], .inl ⟨by simp [quiet.warnings], [], by simp, .inl rfl⟩⟩
  cases passage_of_run ran with
  | misnamed misnamed => exact idle rfl before.booked_refl
  | unknown named unknown => exact idle rfl before.booked_refl
  | unneeded named bound =>
    exact idle rfl (before.booked_note (by simp [Event.IsWarning, Event.severity]))
  | @unreleased current error _ named bound other releases =>
    obtain ⟨former, fault, _, _, attempts⟩ := (release_of_run releases).refusal
    have quiet := (quiet_release _ _ _ _).of_run releases
    refine ⟨_, attempts, .inl ⟨by simp [quiet.warnings], _, ?_, .inl rfl⟩⟩
    intro attempt among
    cases List.mem_singleton.1 among
    exact (overrideFile_ne_unbindFile handle former).symm
  | @unrestricted current error released _ named bound other releases restricts =>
    obtain ⟨restricted, restriction, _⟩ := restriction_of_run restricts
    obtain ⟨fault, _, attempts⟩ := restriction.refusal
    have quiet := ((quiet_release _ _ _ _).of_run releases).trans
      ((quiet_restriction _ _ _ _ _).of_run restricts)
    refine ⟨handle.releasing current ++ [handle.setting driver (some fault)], ?_,
      .inl ⟨by simp [quiet.warnings], _, overrideFile_ne_of_mem_releasing, .inr ⟨fault, rfl⟩⟩⟩
    rw [attempts, (release_of_run releases).attempts, List.append_assoc]
    rfl
  | @granted current _ released restrained _ named bound other releases restricts grants =>
    obtain ⟨restricted, restriction, offered⟩ := restriction_of_run restricts
    have quiet := ((quiet_release _ _ _ _).of_run releases).trans
      ((quiet_restriction _ _ _ _ _).of_run restricts)
    have attempts := restriction.attempts
    rw [(release_of_run releases).attempts, List.append_assoc] at attempts
    rw [← offered rfl] at grants
    -- whether the function was restricted is settled before the grant, and the kernel cannot change it
    cases restricted with
    | true =>
      have seen : handle.seenDriver before.files = current := by
        rw [seenDriver, bound]
        rfl
      obtain ⟨made, made_, cleared⟩ := cleared_of_grant seen quiet attempts grants
      exact ⟨made, made_, .inr cleared⟩
    | false =>
      obtain ⟨bindFault?, clearFault?, waiting, written, attempted, lifted, _, booked⟩ :=
        lifted_of_grant grants
      cases lifted with
      | unneeded untouched =>
        refine ⟨handle.releasing current ++ [handle.binding driver bindFault?], ?_, .inl ⟨?_, _, ?_,
          .inl rfl⟩⟩
        · rw [untouched.attempts, attempted.attempts, attempts]
          simp [restraining, binding]
        · simpa [uncleared] using (quiet.trans booked).warnings
        · intro attempt among
          rcases List.mem_append.1 among with among | among
          · exact overrideFile_ne_of_mem_releasing attempt among
          · cases List.mem_singleton.1 among
            exact (overrideFile_ne_bindFile handle driver).symm

end Runs

/-- An override that a rebind has set does not stay behind unnoticed. -/
theorem override_cleared_of_rebind (handle : Handle) (kernel : Interference) (driver : String)
    (before : Machine) :
    ∃ made, ((handle.rebind kernel driver).run before).2.attempts = before.attempts ++ made ∧
      (handle.setting driver none ∈ made →
        ∃ earlier bindFault? clearFault? written,
          handle.Cleared driver made earlier bindFault? clearFault? written before
            ((handle.rebind kernel driver).run before).1
            ((handle.rebind kernel driver).run before).2) ∧
      (handle.setting driver none ∉ made →
        handle.Spared driver made ∧
          ((handle.rebind kernel driver).run before).2.warnings = before.warnings) := by
  cases ran : (handle.rebind kernel driver).run before with
  | mk result after =>
    obtain ⟨made, attempts, ⟨warnings, spared⟩ | cleared⟩ := cleared_or_spared ran
    · exact ⟨made, attempts, fun set_ => absurd set_ (setting_notMem_of_spared spared),
        fun _ => ⟨spared, warnings⟩⟩
    · refine ⟨made, attempts, fun _ => cleared, fun unset => ?_⟩
      obtain ⟨earlier, bindFault?, clearFault?, written, cleared⟩ := cleared
      exact absurd (by simp [cleared.attempts]) unset

end Handle

namespace Sample

/-- A kernel that makes the override unwritable as soon as it has been set. -/
def sealing : Interference
  | .before .bind, tree =>
    tree.put (place ["devices", address, "driver_override"])
      (.file ⟨true, false, false⟩ (Text.toBytes "vfio-pci"))
  | _, tree => tree

end Sample

open Sample in
/-- On the sample neither the bind write nor the clearing succeeds: the error is about the former, the
warning about the latter. -/
theorem override_cleared_of_rebind_sample :
    ∃ made earlier written,
      (Handle.mk address layout).Cleared "vfio-pci" made earlier (some (.system .accessDenied))
        (some (.system .accessDenied)) written (.start files)
        (((Handle.mk address layout).rebind sealing "vfio-pci").run (.start files)).1
        (((Handle.mk address layout).rebind sealing "vfio-pci").run (.start files)).2 ∧
      (((Handle.mk address layout).rebind sealing "vfio-pci").run (.start files)).2.warnings =
        [.overrideNotCleared address (.system .accessDenied)] := by
  obtain ⟨made, attempts, cleared, _⟩ :=
    Handle.override_cleared_of_rebind ⟨address, layout⟩ sealing "vfio-pci" (.start files)
  have made_ : made = [⟨(Handle.mk address layout).unbindFile "ixgbe", Text.toBytes address, none⟩] ++
      [(Handle.mk address layout).setting "vfio-pci" none,
        (Handle.mk address layout).binding "vfio-pci" (some (.system .accessDenied)),
        (Handle.mk address layout).clearing (some (.system .accessDenied))] := by
    have recorded : (((Handle.mk address layout).rebind sealing "vfio-pci").run
        (.start files)).2.attempts = _ := attempts
    refine recorded.symm.trans ?_
    decide +kernel
  obtain ⟨earlier, bindFault?, clearFault?, written, cleared⟩ := cleared (by simp [made_])
  have ends := cleared.attempts.symm.trans made_
  obtain ⟨_, last⟩ := List.append_inj' ends rfl
  simp only [List.cons.injEq, Handle.binding, Handle.clearing, Attempt.mk.injEq, true_and,
    and_true] at last
  obtain ⟨rfl, rfl⟩ := last
  exact ⟨made, earlier, written, cleared, cleared.warnings⟩

end SingleRoot.Device
