/-
# Calls on two sites at once

The same call is made of a function below one site and of the function of the same address below another,
while the same tree stands at both. What others do to the two trees in the meantime is free, as long as it
is the same inside the tree: `SameInside` asks of each of the interruptions of one call, and of the one
that it meets in the other call, that they leave the same tree if they have found the same tree. Then the
two calls are parallel: they end alike, up to the roots of the paths in errors, and they leave the same
tree and the same counts.

That is shown for the parts of which calls consist, and carried over to calls by `Parallel.bind`. The second
of two calls is known to be parallel only from where the first has ended, so that the interruptions of the
first have to be told apart from those of the second. A call that goes on from the machine it is given
makes that possible, and a parallel call therefore is required to be of that kind.
-/
import SingleRoot.Device.Provision
import SingleRoot.Device.Rebind
import SingleRoot.Proofs.Device.Interruptions
import SingleRoot.Proofs.Device.Mirror

namespace SingleRoot.Device

open Host Site

/-! ## The same interruptions -/

/-- Others have done the same inside the tree of the two sites. -/
def SameInside (here there : Site) (one two : List Interruption) : Prop :=
  ∀ pair ∈ one.zip two, Mirrors here there pair.1.found pair.2.found →
    Mirrors here there pair.1.left pair.2.left

namespace SameInside

variable {here there : Site} {one two more moreToo : List Interruption}

theorem mem_zip_append {α : Type} {one two : List α} (more moreToo : List α) {pair : α × α}
    (among : pair ∈ one.zip two) : pair ∈ (one ++ more).zip (two ++ moreToo) := by
  induction one generalizing two with
  | nil => simp at among
  | cons first one ih =>
    cases two with
    | nil => simp at among
    | cons second two =>
      rcases List.mem_cons.1 among with rfl | among
      · exact List.mem_cons_self
      · exact List.mem_cons_of_mem _ (ih among)

theorem of_prefix (same : SameInside here there more moreToo) (begins : one <+: more)
    (beginsToo : two <+: moreToo) : SameInside here there one two := by
  obtain ⟨rest, rfl⟩ := begins
  obtain ⟨restToo, rfl⟩ := beginsToo
  exact fun pair among => same pair (mem_zip_append rest restToo among)

theorem of_append (same : SameInside here there (one ++ more) (two ++ moreToo))
    (lengths : two.length = one.length) : SameInside here there more moreToo := by
  intro pair among
  apply same
  rw [List.zip_append lengths.symm]
  exact List.mem_append_right _ among

end SameInside

/-! ## Parallel calls -/

/-- Two machines are alike: the same tree stands at the two sites, and the same has been counted. -/
structure Machine.Alike (here there : Site) (machine other : Machine) : Prop where
  files : Mirrors here there machine.files other.files
  tally : other.tally = machine.tally

/-- Two calls have ended alike: if others have done the same inside the tree in the meantime, the outcomes
are the same up to the roots of paths in errors, the machines are alike, and both calls have been
interrupted as often. -/
def EndedAlike {α β : Type} (here there : Site) (values : α → β → Prop) (machine machineToo : Machine)
    (ended : Except DeviceError α × Machine) (endedToo : Except DeviceError β × Machine) : Prop :=
  SameInside here there (machine.interruptions ended.2) (machineToo.interruptions endedToo.2) →
    Corresponds (DeviceError.rebase here.root there.root) values ended.1 endedToo.1 ∧
      ended.2.Alike here there endedToo.2 ∧
      (machineToo.interruptions endedToo.2).length = (machine.interruptions ended.2).length

/-- Two calls run in parallel on two machines. -/
def Action.RunParallel {α β : Type} (here there : Site) (values : α → β → Prop) (call : Action α)
    (other : Action β) (machine machineToo : Machine) : Prop :=
  EndedAlike here there values machine machineToo (call.run machine) (other.run machineToo)

/-- Two calls are parallel if they run in parallel on all machines that are alike. -/
structure Action.Parallel {α β : Type} (here there : Site) (values : α → β → Prop) (call : Action α)
    (other : Action β) : Prop where
  continues : call.Continues
  continuesToo : other.Continues
  runs : ∀ machine machineToo : Machine, machine.Alike here there machineToo →
    call.RunParallel here there values other machine machineToo

/-- A call is followed by another that may depend on how the first one ended. -/
theorem Action.RunParallel.bind {here there : Site} {α β γ δ : Type} {values : α → β → Prop}
    {further : γ → δ → Prop} {part : Action α} {partToo : Action β} {rest : α → Action γ}
    {restToo : β → Action δ} {machine machineToo : Machine}
    (parts : part.Continues) (partsToo : partToo.Continues)
    (rests : ∀ value, (rest value).Continues) (restsToo : ∀ value, (restToo value).Continues)
    (first : part.RunParallel here there values partToo machine machineToo)
    (second : ∀ {value valueToo}, (part.run machine).1 = .ok value → values value valueToo →
      (rest value).Parallel here there further (restToo valueToo)) :
    (part >>= rest).RunParallel here there further (partToo >>= restToo) machine machineToo := by
  replace parts := parts machine
  replace partsToo := partsToo machineToo
  rw [RunParallel, run_bind, run_bind]
  rw [RunParallel] at first
  generalize part.run machine = one at parts first second ⊢
  generalize partToo.run machineToo = two at partsToo first ⊢
  obtain ⟨outcome, middle⟩ := one
  obtain ⟨outcomeToo, middleToo⟩ := two
  -- Of each side, what has happened in the first call is the beginning of what has happened at all.
  cases outcome with
  | error failure =>
    cases outcomeToo with
    | error failureToo =>
      intro same
      obtain ⟨ends, alike, lengths⟩ := first same
      cases ends with
      | error => exact ⟨.error failure, alike, lengths⟩
    | ok valueToo =>
      intro same
      have begins := partsToo.interruptions_trans (restsToo valueToo middleToo)
      cases (first (same.of_prefix List.prefix_rfl ⟨_, begins.symm⟩)).1
  | ok value =>
    have begins := parts.interruptions_trans (rests value middle)
    cases outcomeToo with
    | error failureToo =>
      intro same
      cases (first (same.of_prefix ⟨_, begins.symm⟩ List.prefix_rfl)).1
    | ok valueToo =>
      have beginsToo := partsToo.interruptions_trans (restsToo valueToo middleToo)
      intro same
      obtain ⟨ends, alike, lengths⟩ :=
        first (same.of_prefix ⟨_, begins.symm⟩ ⟨_, beginsToo.symm⟩)
      dsimp only at same begins beginsToo ⊢
      rw [begins, beginsToo] at same ⊢
      cases ends with
      | ok values =>
        obtain ⟨ends, alike, lengthsToo⟩ :=
          (second rfl values).runs middle middleToo alike (same.of_append lengths)
        exact ⟨ends, alike, by rw [List.length_append, List.length_append, lengths, lengthsToo]⟩

namespace Action.Parallel

variable {here there : Site} {α β γ δ : Type} {values : α → β → Prop} {further : γ → δ → Prop}
  {part : Action α} {partToo : Action β}

/-- Calls that only look are not interrupted. -/
theorem of_looks (looks : part.LeavesUntouched) (looksToo : partToo.LeavesUntouched)
    (same : ∀ machine machineToo : Machine, machine.Alike here there machineToo →
      Corresponds (DeviceError.rebase here.root there.root) values (part.run machine).1
          (partToo.run machineToo).1 ∧
        (partToo.run machineToo).2.tally = (part.run machine).2.tally) :
    Parallel here there values part partToo := by
  refine ⟨looks.continues, looksToo.continues, fun machine machineToo alike _ => ?_⟩
  obtain ⟨ends, tally⟩ := same machine machineToo alike
  have untouched := looks machine
  have untouchedToo := looksToo machineToo
  refine ⟨ends, ⟨?_, tally⟩, ?_⟩
  · rw [untouched.files, untouchedToo.files]
    exact alike.files
  · simp [Machine.interruptions, untouched.disturbances, untouchedToo.disturbances]

theorem pure {value : α} {valueToo : β} (same : values value valueToo) :
    Parallel here there values (Pure.pure value) (Pure.pure valueToo) :=
  of_looks (.pure _) (.pure _) fun _ _ alike => ⟨.ok same, alike.tally⟩

theorem throw {failure failureToo : DeviceError}
    (same : failure.rebase here.root there.root = failureToo) :
    Parallel here there values (MonadExcept.throw failure) (MonadExcept.throw failureToo) :=
  of_looks (.throw _) (.throw _) fun _ _ alike => ⟨.of_reason same, alike.tally⟩

theorem get : Parallel here there (Machine.Alike here there) MonadState.get MonadState.get :=
  of_looks .get .get fun _ _ alike => ⟨.ok alike, alike.tally⟩

theorem note (event eventToo : Event) :
    Parallel here there Eq (Action.note event) (Action.note eventToo) :=
  of_looks (.note _) (.note _) fun _ _ alike => ⟨.ok rfl, alike.tally⟩

theorem count (counter : Counter) (amount : Nat) :
    Parallel here there Eq (Action.count counter amount) (Action.count counter amount) :=
  of_looks (.count _ _) (.count _ _) fun _ _ alike =>
    ⟨.ok rfl, congrArg (·.add counter amount) alike.tally⟩

theorem ask {query : FileSystem → Except DeviceError α} {queryToo : FileSystem → Except DeviceError β}
    (same : ∀ files other, Mirrors here there files other →
      Corresponds (DeviceError.rebase here.root there.root) values (query files) (queryToo other)) :
    Parallel here there values (Action.ask query) (Action.ask queryToo) :=
  of_looks (.ask _) (.ask _) fun _ _ alike => ⟨same _ _ alike.files, alike.tally⟩

/-- The two kernels have one opportunity each. -/
theorem reach (kernel kernelToo : Interference) (point : Point) :
    Parallel here there Eq (Action.reach kernel point) (Action.reach kernelToo point) := by
  refine ⟨.reach kernel point, .reach kernelToo point, fun machine machineToo alike => ?_⟩
  rw [RunParallel, run_reach, run_reach, EndedAlike]
  rw [Machine.interruptions_disturb, Machine.interruptions_disturb]
  intro same
  exact ⟨.ok rfl, ⟨same _ List.mem_cons_self alike.files, alike.tally⟩, rfl⟩

/-- A write to the path of the same names ends alike. -/
theorem write {names : List Name} (fits : Shares.Fits here there names) (content : String) :
    Parallel here there Eq (Action.write (here.root.descend names) content)
      (Action.write (there.root.descend names) content) := by
  refine ⟨.write _ _, .write _ _, fun machine machineToo alike _ => ?_⟩
  have written := alike.files.write fits (Text.toBytes content)
  rw [run_write, run_write, Machine.write, Machine.write]
  generalize machine.files.write _ _ = one, machineToo.files.write _ _ = two at written ⊢
  cases written with
  | error fault => exact ⟨.ok rfl, ⟨alike.files, alike.tally⟩, by simp [Machine.interruptions]⟩
  | ok gains =>
    exact ⟨.ok rfl, ⟨alike.files.of_gains gains, alike.tally⟩, by simp [Machine.interruptions]⟩

theorem bind {rest : α → Action γ} {restToo : β → Action δ}
    (first : Parallel here there values part partToo)
    (rests : ∀ value, (rest value).Continues) (restsToo : ∀ value, (restToo value).Continues)
    (second : ∀ {value valueToo}, values value valueToo →
      Parallel here there further (rest value) (restToo valueToo)) :
    Parallel here there further (part >>= rest) (partToo >>= restToo) :=
  ⟨first.continues.bind rests, first.continuesToo.bind restsToo, fun machine machineToo alike =>
    (first.runs machine machineToo alike).bind first.continues first.continuesToo rests restsToo
      fun _ same => second same⟩

/-- Two calls are followed by calls that are parallel after the same value. -/
theorem andThen {part partToo : Action α} {rest : α → Action γ} {restToo : α → Action δ}
    (first : Parallel here there Eq part partToo)
    (second : ∀ value, Parallel here there further (rest value) (restToo value)) :
    Parallel here there further (part >>= rest) (partToo >>= restToo) :=
  first.bind (fun value => (second value).continues) (fun value => (second value).continuesToo)
    fun same => same ▸ second _

theorem map {f : α → γ} {g : β → δ} (first : Parallel here there values part partToo)
    (keeps : ∀ {value valueToo}, values value valueToo → further (f value) (g valueToo)) :
    Parallel here there further (f <$> part) (g <$> partToo) := by
  rw [← bind_pure_comp, ← bind_pure_comp]
  exact first.bind (fun _ => (LeavesUntouched.pure _).continues)
    (fun _ => (LeavesUntouched.pure _).continues) fun same => .pure (keeps same)

theorem observe (first : Parallel here there values part partToo) :
    Parallel here there (Corresponds (DeviceError.rebase here.root there.root) values)
      (Action.observe part) (Action.observe partToo) := by
  refine ⟨first.continues, first.continuesToo, fun machine machineToo alike same => ?_⟩
  obtain ⟨ends, after⟩ := first.runs machine machineToo alike same
  exact ⟨.ok ends, after⟩

/-- Two loops with as many rounds are parallel if their rounds are. -/
theorem forIn {round : α → Action Unit} {roundToo : β → Action Unit}
    (rounds : ∀ value valueToo, Parallel here there Eq (round value) (roundToo valueToo))
    {rows : List α} {rowsToo : List β} (lengths : rowsToo.length = rows.length) :
    Parallel here there Eq
      (forIn rows PUnit.unit fun value _ => do
        round value
        Pure.pure (ForInStep.yield PUnit.unit))
      (forIn rowsToo PUnit.unit fun value _ => do
        roundToo value
        Pure.pure (ForInStep.yield PUnit.unit)) := by
  induction rows generalizing rowsToo with
  | nil =>
    obtain rfl := List.length_eq_zero_iff.1 lengths
    exact pure rfl
  | cons row rest ih =>
    cases rowsToo with
    | nil => cases lengths
    | cons rowToo restToo =>
      rw [List.forIn_cons, List.forIn_cons, bind_assoc, bind_assoc]
      apply (rounds row rowToo).andThen
      intro _
      rw [pure_bind, pure_bind]
      exact ih (Nat.succ.inj lengths)

end Action.Parallel

/-! ## Calls of a function -/

namespace Handle

open Device.Action (Continues LeavesUntouched Parallel RunParallel)

variable {here there : Site} {address driver : String}

section Rebind

variable (kernel kernelToo : Interference)

theorem parallel_writeStage (stage : Stage) (previous : Option String) {names : List Name}
    (fits : Shares.Fits here there names) (content : String) :
    Parallel here there Eq
      ((here.function address).writeStage kernel driver stage previous (here.root.descend names) content)
      ((there.function address).writeStage kernelToo driver stage previous (there.root.descend names)
        content) := by
  apply (Parallel.note _ _).andThen
  intro _
  apply (Parallel.reach kernel kernelToo _).andThen
  intro _
  apply (Parallel.write fits content).andThen
  intro fault?
  cases fault? with
  | none => exact .pure rfl
  | some fault => exact .throw rfl

theorem parallel_release {current : Option String}
    (fits : ∀ name, current = some name → Shares.Fits here there (driverNames name unbindEntry)) :
    Parallel here there Eq ((here.function address).release kernel driver current)
      ((there.function address).release kernelToo driver current) := by
  cases current with
  | none => exact .pure rfl
  | some name =>
    apply (parallel_writeStage kernel kernelToo .unbind none (fits name rfl) address).andThen
    intro _
    apply (Parallel.reach kernel kernelToo _).andThen
    intro _
    exact .note _ _

theorem parallel_clearOverride (wasSet : Bool)
    (fits : Shares.Fits here there (entryNames address (Text.toBytes overrideEntry))) :
    Parallel here there Eq ((here.function address).clearOverride wasSet)
      ((there.function address).clearOverride wasSet) := by
  cases wasSet with
  | false => exact .pure rfl
  | true =>
    apply (Parallel.write fits "\n").andThen
    intro fault?
    cases fault? with
    | none => exact .pure rfl
    | some fault => exact .note _ _

theorem parallel_concludeRebind (previous : Option String) :
    Parallel here there Eq ((here.function address).concludeRebind driver previous)
      ((there.function address).concludeRebind driver previous) :=
  (Parallel.count _ _).andThen fun _ => .note _ _

theorem isBoundTo_eq {files other : FileSystem} (shares : Shares here there files other)
    (fits : Shares.Fits here there (entryNames address (Text.toBytes driverEntry))) :
    (there.function address).isBoundTo driver other = (here.function address).isBoundTo driver files := by
  have bound := shares.boundDriver fits
  rw [isBoundTo, isBoundTo]
  generalize (here.function address).boundDriver files = one,
    (there.function address).boundDriver other = two at bound ⊢
  cases bound with
  | error failure => rfl
  | ok same => rw [same]

theorem parallel_reconsider {current : Option String} (restricted bound : Bool) (failure : DeviceError)
    (overrides : Shares.Fits here there (entryNames address (Text.toBytes overrideEntry))) :
    Parallel here there Eq
      ((here.function address).reconsider driver current restricted failure bound)
      ((there.function address).reconsider driver current restricted
        (failure.rebase here.root there.root) bound) := by
  have clears := @parallel_clearOverride here there address restricted overrides
  cases bound with
  | false => exact clears.andThen fun _ => .throw rfl
  | true =>
    apply (Parallel.note _ _).andThen
    intro _
    exact clears.andThen fun _ => parallel_concludeRebind current

/-- The bind write, the look at the driver when it fails, and the override that is cleared on every way
out. -/
theorem parallel_grant {current : Option String} (restricted : Bool)
    (looks : Shares.Fits here there (entryNames address (Text.toBytes driverEntry)))
    (overrides : Shares.Fits here there (entryNames address (Text.toBytes overrideEntry)))
    (binds : Shares.Fits here there (driverNames driver bindEntry)) :
    Parallel here there Eq ((here.function address).grant kernel driver current restricted)
      ((there.function address).grant kernelToo driver current restricted) := by
  rw [grant_eq_settle, grant_eq_settle]
  apply (parallel_writeStage kernel kernelToo .bind current binds address).observe.bind
    (continues_settle current restricted) (continues_settle current restricted)
  intro outcome outcomeToo ended
  cases ended with
  | ok _ =>
    exact (parallel_clearOverride restricted overrides).andThen fun _ => parallel_concludeRebind current
  | error failure =>
    apply Parallel.get.bind (fun _ => continues_reconsider _ _ _ _) (fun _ => continues_reconsider _ _ _ _)
    intro machine machineToo alike
    rw [isBoundTo_eq alike.files.toShares looks]
    exact parallel_reconsider restricted _ failure overrides

theorem parallel_acquire {current : Option String}
    (looks : Shares.Fits here there (entryNames address (Text.toBytes driverEntry)))
    (overrides : Shares.Fits here there (entryNames address (Text.toBytes overrideEntry)))
    (binds : Shares.Fits here there (driverNames driver bindEntry)) :
    Parallel here there Eq ((here.function address).acquire kernel driver current)
      ((there.function address).acquire kernelToo driver current) := by
  refine ⟨continues_acquire _, continues_acquire _, fun machine machineToo alike => ?_⟩
  have restricts : machineToo.files.holds (there.function address).overrideFile =
      machine.files.holds (here.function address).overrideFile := alike.files.holds_eq overrides
  rw [RunParallel, run_acquire, run_acquire, restricts]
  generalize machine.files.holds (here.function address).overrideFile = restricted
  have restricting : Parallel here there Eq
      (if restricted then (here.function address).writeStage kernel driver .override current
        (here.function address).overrideFile driver else pure ())
      (if restricted then (there.function address).writeStage kernelToo driver .override current
        (there.function address).overrideFile driver else pure ()) := by
    split
    · exact parallel_writeStage kernel kernelToo .override current overrides driver
    · exact .pure rfl
  exact (restricting.andThen fun _ => parallel_grant kernel kernelToo restricted looks overrides
    binds).runs machine machineToo alike

/-- A rebind ends alike. -/
theorem parallel_rebind {machine machineToo : Machine} (alike : machine.Alike here there machineToo)
    (looks : isDriverName driver = true →
      Shares.Fits here there (entryNames address (Text.toBytes driverEntry)))
    (writes : isDriverName driver = true → ∀ current,
      (here.function address).boundDriver machine.files = .ok current → current ≠ some driver →
        Shares.Fits here there (entryNames address (Text.toBytes overrideEntry)) ∧
        Shares.Fits here there (driverNames driver bindEntry) ∧
        ∀ name, current = some name → Shares.Fits here there (driverNames name unbindEntry)) :
    ((here.function address).rebind kernel driver).RunParallel here there Eq
      ((there.function address).rebind kernelToo driver) machine machineToo := by
  unfold rebind
  split
  · exact (Parallel.throw rfl).runs machine machineToo alike
  · rename_i named
    replace named : isDriverName driver = true := by simpa using named
    have rests (handle : Handle) (kernel : Interference) (current : Option String) : Continues
        (if current = some driver then Action.note (.alreadyBound handle.address driver)
        else do
          handle.release kernel driver current
          handle.acquire kernel driver current) := by
      split
      · exact (LeavesUntouched.note _).continues
      · exact (continues_release _).bind fun _ => continues_acquire _
    have asked : Parallel here there Eq (Action.ask (here.function address).boundDriver)
        (Action.ask (there.function address).boundDriver) :=
      .ask fun _ _ mirrors => mirrors.boundDriver (looks named)
    refine RunParallel.bind asked.continues asked.continuesToo (rests _ _) (rests _ _)
      (asked.runs machine machineToo alike) ?_
    rintro current _ bound rfl
    rw [Action.run_ask] at bound
    split
    · exact .note _ _
    · rename_i other
      obtain ⟨overrides, binds, unbinds⟩ := writes named current bound other
      exact (parallel_release kernel kernelToo unbinds).andThen fun _ =>
        parallel_acquire kernel kernelToo (looks named) overrides binds

end Rebind

/-- A provisioning ends alike. -/
theorem parallel_provision {machine machineToo : Machine} (alike : machine.Alike here there machineToo)
    (count : UInt32) (fits : Shares.Fits here there (entryNames address (Text.toBytes configuredEntry))) :
    ((here.function address).provision count).RunParallel here there Eq
      ((there.function address).provision count) machine machineToo := by
  have rebased := alike.files.rebase_descend fits.filled fits.plain
  have read : Parallel here there Eq (Action.ask (here.function address).configured)
      (Action.ask (there.function address).configured) :=
    .ask fun _ _ mirrors => mirrors.readCount fits
  refine (read.andThen fun configured => ?_).runs machine machineToo alike
  split
  · exact .note _ _
  split
  · exact .throw rfl
  apply (Parallel.write fits _).andThen
  intro fault?
  cases fault? with
  | none => exact (Parallel.count _ _).andThen fun _ => .note _ _
  | some fault =>
    apply Parallel.throw
    rw [entry_function, DeviceError.rebase, rebased]
    rfl

/-- An enumeration ends alike. -/
theorem parallel_enumerate {machine machineToo : Machine} (alike : machine.Alike here there machineToo)
    (fits : Shares.Fits here there (directoryNames address))
    (short : ∀ entries, machine.files.list (here.function address).directory = .ok entries →
      Shares.EntriesFit here there address (entries.filterMap Entry.name?)) :
    (here.function address).enumerate.RunParallel here there Enumeration.Alike
      (there.function address).enumerate machine machineToo := by
  have asks (handle : Handle) : (Action.ask handle.virtualFunctions).LeavesUntouched := .ask _
  have reports (handle : Handle) (found : Enumeration) : LeavesUntouched (do
      for skip in found.skipped do
        Action.note (skip.event handle.address)
        Action.count .entriesSkipped 1
      Action.note (.enumerated handle.address found.functions.length found.skipped.length)
      return found) :=
    .bind (.forIn (fun _ => (LeavesUntouched.note _).bind fun _ => .count _ _) _) fun _ =>
      (LeavesUntouched.note _).bind fun _ => .pure _
  refine RunParallel.bind (asks _).continues (asks _).continues (fun found => (reports _ found).continues)
    (fun found => (reports _ found).continues)
    (fun _ => ⟨alike.files.virtualFunctions fits short, alike, by simp [Machine.interruptions]⟩) ?_
  rintro found foundToo _ same
  have rounds (skip skipToo : Skip) :
      Parallel here there Eq
        (do Action.note (skip.event address); Action.count .entriesSkipped 1)
        (do Action.note (skipToo.event address); Action.count .entriesSkipped 1) :=
    (Parallel.note _ _).andThen fun _ => .count _ _
  apply (Parallel.forIn rounds same.2).andThen
  intro _
  apply (Parallel.note _ _).andThen
  intro _
  exact .pure same

/-- A look at the network interface ends alike. -/
theorem parallel_reportNetInterface
    (fits : Shares.Fits here there (entryNames address (Text.toBytes netEntry))) :
    Parallel here there Eq (here.function address).reportNetInterface
      (there.function address).reportNetInterface :=
  (Parallel.ask fun _ _ mirrors => mirrors.netInterface fits).andThen fun _ =>
    (Parallel.note _ _).andThen fun _ => .pure rfl

end Handle

end SingleRoot.Device
