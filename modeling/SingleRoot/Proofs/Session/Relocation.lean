/-
# Sessions on two sites

One session works below a site and another below a second site, where the same tree stands. Both are called
in the same way, and on both hosts others are at work, before each call and, as the kernel, during a rebind.
All that they do is a list of interruptions, and it is free as long as it is the same inside the tree.

Then the two sessions cannot be told apart, `relocated_of_run`: they answer the same, but for the root of the
site in reported paths, they count the same, and in the end the same tree stands at both sites. Only the
length of a root could be noticed, since a host refuses paths that are too long; so no call may hand its host
such a path, `HostSession.Fits`. What is carried along a run is `HostSession.Alike`: handles of the same
names are on functions of the same addresses. These addresses are plain names, because they have been checked
or found at the end of a path.
-/
import SingleRoot.Proofs.Device.Parallel
import SingleRoot.Proofs.Device.Report
import SingleRoot.Proofs.Session.Confinement

namespace SingleRoot.Session

open Device Host Site

/-! ## What a session does besides editing -/

/-- A call of a session on a host. -/
inductive HostCall where
  | openHandle (role : Role) (address name : String)
  | ask (name : String) (request : Request) (storeAs : Option String)

/-- A call as a command. -/
def HostCall.command : HostCall → HostCommand
  | .openHandle role address name => .openHandle role address name
  | .ask name request storeAs => .ask name request storeAs

/-- A call with what others do to the tree: before it, and while it is at work. -/
structure Visit where
  change : Tree → Tree
  kernel : Interference
  call : HostCall

namespace HostSession

variable (layout : Layout)

/-- The session as the call of a visit meets it. -/
def meets (session : HostSession) (visit : Visit) : HostSession :=
  let files := session.machine.files
  { session with machine :=
    { session.machine with files := files.withTree (visit.change files.tree) } }

/-- What the call of a visit answers, and the session after it. -/
def visit (session : HostSession) (visit : Visit) : Answer HostReply × HostSession :=
  (session.meets visit).step layout visit.kernel visit.call.command

/-- What the calls of some visits answer, and the session after them. -/
def run (session : HostSession) : List Visit → List (Answer HostReply) × HostSession
  | [] => ([], session)
  | visit :: rest =>
    let (answer, after) := session.visit layout visit
    let (answers, final) := after.run rest
    (answer :: answers, final)

end HostSession

/-! ## Paths that are handed to the host -/

/-- The paths that a request hands to the host. -/
def Request.paths (handle : Handle) (files : FileSystem) : Request → List HostPath
  | .address | .directory => []
  | .netInterface => [handle.entry netEntry]
  | .iommuGroup => [handle.entry iommuGroupEntry]
  | .driver => [handle.entry driverEntry]
  | .capacity => [handle.entry capacityEntry]
  | .configured | .provision _ => [handle.entry configuredEntry]
  | .virtualFunctions =>
    handle.directory :: match files.list handle.directory with
      | .error _ => []
      | .ok entries =>
        ((entries.filterMap Entry.name?).filter fun name => (entryIndex? name).isSome).map fun name =>
          handle.directory / (⟨name⟩ : HostPath)
  | .rebind wanted =>
    if !isDriverName wanted then []
    else handle.entry driverEntry :: match handle.boundDriver files with
      | .error _ => []
      | .ok current =>
        if current = some wanted then []
        else handle.overrideFile :: handle.bindFile wanted :: current.toList.map handle.unbindFile

/-- The paths that a call hands to the host. -/
def HostCall.paths (layout : Layout) (session : HostSession) : HostCall → List HostPath
  | .openHandle _ address _ =>
    if Pci.isAddressText address then [layout.deviceDirectory address] else []
  | .ask name request _ =>
    match session.handles.find? name with
    | none => []
    | some (role, handle) =>
      if role.offers request then request.paths handle session.machine.files else []

/-- None of some paths is too long for the host. -/
def Short (paths : List HostPath) : Prop :=
  ∀ path ∈ paths, path.bytes.length ≤ longestPath

instance (paths : List HostPath) : Decidable (Short paths) :=
  inferInstanceAs (Decidable (∀ path ∈ paths, _))

/-- No call of some visits hands the host a path that is too long. -/
def HostSession.Fits (layout : Layout) : HostSession → List Visit → Prop
  | _, [] => True
  | session, visit :: rest =>
    Short (visit.call.paths layout (session.meets visit)) ∧
      Fits layout (session.visit layout visit).2 rest

instance (layout : Layout) : (session : HostSession) → (visits : List Visit) →
    Decidable (session.Fits layout visits)
  | _, [] => .isTrue trivial
  | session, visit :: rest =>
    have := instDecidableFits layout (session.visit layout visit).2 rest
    inferInstanceAs (Decidable (_ ∧ _))

/-- What others do, one thing after another, while a session goes through some visits. -/
def HostSession.interruptions (layout : Layout) : HostSession → List Visit → List Interruption
  | _, [] => []
  | session, visit :: rest =>
    let met := session.meets visit
    let after := (session.visit layout visit).2
    ⟨session.machine.files, met.machine.files⟩ ::
      (met.machine.interruptions after.machine ++ after.interruptions layout rest)

/-! ## Answers below another root -/

/-- A reply with another root in the path that it gives. -/
def Reply.rebase (root other : HostPath) : Reply → Reply
  | .path given => .path (root.rebase other given)
  | others => others

/-- An answer with another root in the paths that it reports. -/
def Answer.rebase (root other : HostPath) : Answer HostReply → Answer HostReply
  | .reply (.ofFunction given) => .reply (.ofFunction (given.rebase root other))
  | .failure error => .failure (error.rebase root other)
  | others => others

section Requests

variable {here there : Site} {address driver : String}

/-- The names that calls continue paths with are plain. -/
theorem plainName_of_mem : ∀ name ∈ [capacityEntry, configuredEntry, netEntry, iommuGroupEntry,
    driverEntry, overrideEntry, unbindEntry, bindEntry, "devices", "drivers"],
    PlainName (Text.toBytes name) := by
  decide +kernel

/-- Paths to entries of a function's directory. -/
theorem fits_entry {name : Name} (plain : PlainName (Text.toBytes address)) (plainName : PlainName name)
    {paths pathsToo : List HostPath} (short : Short paths) (shortToo : Short pathsToo)
    (among : here.root.descend (entryNames address name) ∈ paths)
    (amongToo : there.root.descend (entryNames address name) ∈ pathsToo) :
    Shares.Fits here there (entryNames address name) := by
  refine ⟨List.cons_ne_nil _ _, ?_, short _ among, shortToo _ amongToo⟩
  simp only [entryNames, List.forall_mem_cons]
  exact ⟨plainName_of_mem _ (by simp), plain, plainName, by simp⟩

/-- Paths to entries of a driver's directory. -/
theorem fits_driver {name : String} (plain : PlainName (Text.toBytes driver))
    (plainName : PlainName (Text.toBytes name)) {paths pathsToo : List HostPath} (short : Short paths)
    (shortToo : Short pathsToo) (among : here.root.descend (driverNames driver name) ∈ paths)
    (amongToo : there.root.descend (driverNames driver name) ∈ pathsToo) :
    Shares.Fits here there (driverNames driver name) := by
  refine ⟨List.cons_ne_nil _ _, ?_, short _ among, shortToo _ amongToo⟩
  simp only [driverNames, List.forall_mem_cons]
  exact ⟨plainName_of_mem _ (by simp), plain, plainName, by simp⟩

theorem plainNames_directory (plain : PlainName (Text.toBytes address)) :
    ∀ name ∈ directoryNames address, PlainName name := by
  simp only [directoryNames, List.forall_mem_cons]
  exact ⟨plainName_of_mem _ (by simp), plain, by simp⟩

/-- Paths to the directory of a function. -/
theorem fits_directory (plain : PlainName (Text.toBytes address)) {paths pathsToo : List HostPath}
    (short : Short paths) (shortToo : Short pathsToo)
    (among : (here.function address).directory ∈ paths)
    (amongToo : (there.function address).directory ∈ pathsToo) :
    Shares.Fits here there (directoryNames address) :=
  ⟨List.cons_ne_nil _ _, plainNames_directory plain, short _ among, shortToo _ amongToo⟩

open Device.Action (Continues LeavesUntouched Parallel RunParallel)

variable {kernel kernelToo : Interference} {machine machineToo : Machine}

theorem parallel_rebind_of_short {driver : String} (plain : PlainName (Text.toBytes address))
    (alike : machine.Alike here there machineToo)
    (short : Short ((Request.rebind driver).paths (here.function address) machine.files))
    (shortToo : Short ((Request.rebind driver).paths (there.function address) machineToo.files)) :
    ((here.function address).rebind kernel driver).RunParallel here there Eq
      ((there.function address).rebind kernelToo driver) machine machineToo := by
  cases named : isDriverName driver with
  | false =>
    have never {P : Prop} (given : isDriverName driver = true) : P := by
      rw [named] at given
      cases given
    exact Handle.parallel_rebind kernel kernelToo alike never never
  | true =>
    have plainDriver := (isDriverName_iff.1 named).1
    simp only [Request.paths, named, Bool.not_true, Bool.false_eq_true, if_false] at short shortToo
    have looks : Shares.Fits here there (entryNames address (Text.toBytes driverEntry)) :=
      fits_entry plain (plainName_of_mem _ (by simp)) short shortToo List.mem_cons_self
        List.mem_cons_self
    refine Handle.parallel_rebind kernel kernelToo alike (fun _ => looks) fun _ current bound other => ?_
    have boundToo : (there.function address).boundDriver machineToo.files = .ok current := by
      have bounds := alike.files.boundDriver looks
      rw [bound] at bounds
      obtain ⟨_, boundToo, rfl⟩ := bounds.exists_of_ok
      exact boundToo
    simp only [bound, boundToo, if_neg other] at short shortToo
    refine ⟨?_, ?_, ?_⟩
    · exact fits_entry plain (plainName_of_mem _ (by simp)) short shortToo
        (List.mem_cons_of_mem _ List.mem_cons_self) (List.mem_cons_of_mem _ List.mem_cons_self)
    · exact fits_driver plainDriver (plainName_of_mem _ (by simp)) short shortToo
        (List.mem_cons_of_mem _ (List.mem_cons_of_mem _ List.mem_cons_self))
        (List.mem_cons_of_mem _ (List.mem_cons_of_mem _ List.mem_cons_self))
    · rintro name rfl
      exact fits_driver (Handle.plainName_of_boundDriver bound) (plainName_of_mem _ (by simp)) short
        shortToo (List.mem_append_right [_, _, _] List.mem_cons_self)
        (List.mem_append_right [_, _, _] List.mem_cons_self)

theorem parallel_enumerate_of_short (plain : PlainName (Text.toBytes address))
    (alike : machine.Alike here there machineToo)
    (short : Short (Request.virtualFunctions.paths (here.function address) machine.files))
    (shortToo : Short (Request.virtualFunctions.paths (there.function address) machineToo.files)) :
    (here.function address).enumerate.RunParallel here there Enumeration.Alike
      (there.function address).enumerate machine machineToo := by
  simp only [Request.paths] at short shortToo
  have fits := fits_directory plain short shortToo List.mem_cons_self List.mem_cons_self
  refine Handle.parallel_enumerate alike fits fun entries lists name among indexed => ?_
  have listed := alike.files.list fits
  rw [← directory_function, ← directory_function, lists] at listed
  obtain ⟨entriesToo, listsToo, below, filled, rfl, rfl⟩ := listed.exists_of_ok
  have amongToo := ((alike.files.perm_entries filled).filterMap Entry.name?).mem_iff.2 among
  obtain ⟨index, named⟩ := Option.isSome_iff_exists.1 indexed
  simp only [lists, listsToo] at short shortToo
  refine fits_entry plain (plainName_of_entryIndex? named) short shortToo ?_ ?_
  · exact List.mem_cons_of_mem _ (List.mem_map.2 ⟨name, List.mem_filter.2 ⟨among, indexed⟩, rfl⟩)
  · exact List.mem_cons_of_mem _ (List.mem_map.2 ⟨name, List.mem_filter.2 ⟨amongToo, indexed⟩, rfl⟩)

/-- A request is answered alike. -/
theorem parallel_respond {request : Request} (plain : PlainName (Text.toBytes address))
    (alike : machine.Alike here there machineToo)
    (short : Short (request.paths (here.function address) machine.files))
    (shortToo : Short (request.paths (there.function address) machineToo.files)) :
    (HostSession.respond kernel (here.function address) request).RunParallel here there
      (fun reply replyToo => replyToo = reply.rebase here.root there.root)
      (HostSession.respond kernelToo (there.function address) request) machine machineToo := by
  have entry {name : String} (named : PlainName (Text.toBytes name))
      (short : Short [(here.function address).entry name])
      (shortToo : Short [(there.function address).entry name]) :=
    fits_entry plain named short shortToo List.mem_cons_self List.mem_cons_self
  have replies (reply : Reply) : (pure reply : Action Reply).Continues :=
    (LeavesUntouched.pure reply).continues
  cases request with
  | address =>
    have replied : Parallel here there (fun reply replyToo => replyToo = reply.rebase here.root there.root)
        (pure (Reply.text address)) (pure (Reply.text address)) := .pure rfl
    exact replied.runs _ _ alike
  | directory =>
    refine (Parallel.pure ?_).runs _ _ alike
    exact congrArg Reply.path
      (alike.files.rebase_descend (List.cons_ne_nil _ _) (plainNames_directory plain)).symm
  | netInterface =>
    have fits := entry (plainName_of_mem netEntry (by simp)) short shortToo
    exact ((Handle.parallel_reportNetInterface fits).map fun same => same ▸ rfl).runs _ _ alike
  | iommuGroup =>
    have fits := entry (plainName_of_mem iommuGroupEntry (by simp)) short shortToo
    have asked := Parallel.ask fun _ _ mirrors => mirrors.iommuGroup fits
    exact (asked.map fun same => same ▸ rfl).runs _ _ alike
  | driver =>
    have fits := entry (plainName_of_mem driverEntry (by simp)) short shortToo
    have asked := Parallel.ask fun _ _ mirrors => mirrors.boundDriver fits
    exact (asked.map fun same => same ▸ rfl).runs _ _ alike
  | capacity =>
    have fits := entry (plainName_of_mem capacityEntry (by simp)) short shortToo
    have asked := Parallel.ask fun _ _ mirrors => mirrors.readCount fits
    exact (asked.map fun same => same ▸ rfl).runs _ _ alike
  | configured =>
    have fits := entry (plainName_of_mem configuredEntry (by simp)) short shortToo
    have asked := Parallel.ask fun _ _ mirrors => mirrors.readCount fits
    exact (asked.map fun same => same ▸ rfl).runs _ _ alike
  | provision count =>
    have fits := entry (plainName_of_mem configuredEntry (by simp)) short shortToo
    exact (Handle.parallel_provision alike count fits).bind (Handle.continues_provision _)
      (Handle.continues_provision _) (fun _ => replies _) (fun _ => replies _) fun _ _ => .pure rfl
  | rebind driver =>
    exact (parallel_rebind_of_short plain alike short shortToo).bind Handle.continues_rebind
      Handle.continues_rebind (fun _ => replies _) (fun _ => replies _) fun _ _ => .pure rfl
  | virtualFunctions =>
    apply (parallel_enumerate_of_short plain alike short shortToo).bind
      (leavesUntouched_enumerate _).continues (leavesUntouched_enumerate _).continues
      (fun _ => replies _) (fun _ => replies _)
    rintro found foundToo _ ⟨addresses, skipped⟩
    apply Parallel.pure
    rw [addresses, skipped]
    rfl

/-- What is opened on the two sites: functions of the same address. -/
def Opens (here there : Site) (address : String) (handle handleToo : Handle) : Prop :=
  handle = here.function address ∧ handleToo = there.function address ∧
    PlainName (Text.toBytes address)

theorem corresponds_ofAddress {files other : FileSystem} (mirrors : Mirrors here there files other)
    (fits : Pci.isAddressText address = true → Shares.Fits here there (directoryNames address)) :
    Corresponds (DeviceError.rebase here.root there.root) (Opens here there address)
      (Handle.ofAddress files (.below here.root) address)
      (Handle.ofAddress other (.below there.root) address) := by
  unfold Handle.ofAddress
  rw [checkAddress]
  cases valid : Pci.isAddressText address with
  | false => exact .error (DeviceError.invalidAddress address)
  | true =>
    have plain : PlainName (Text.toBytes address) := (Pci.isNameText_of_isAddressText valid).plainName
    have holds := mirrors.holds_eq (fits valid)
    rw [← directory_function, ← directory_function] at holds
    show Corresponds _ _
      (if files.holds (here.function address).directory then .ok (here.function address)
        else .error (DeviceError.notFound address deviceResource))
      (if other.holds (there.function address).directory then .ok (there.function address)
        else .error (DeviceError.notFound address deviceResource))
    rw [holds]
    split
    · exact .ok ⟨rfl, rfl, plain⟩
    · exact .error (DeviceError.notFound address deviceResource)

/-- A function is opened alike. -/
theorem parallel_openAs (role : Role)
    (fits : Pci.isAddressText address = true → Shares.Fits here there (directoryNames address)) :
    (HostSession.openAs (.below here.root) role address).Parallel here there (Opens here there address)
      (HostSession.openAs (.below there.root) role address) := by
  have opened := Parallel.ask fun _ _ mirrors => corresponds_ofAddress mirrors fits
  have reports (handle : Handle) : LeavesUntouched (do
      Action.note (.opened address handle.directory)
      return handle) :=
    (LeavesUntouched.note _).bind fun _ => .pure _
  have factory := opened.bind (fun handle => (reports handle).continues)
    (fun handle => (reports handle).continues) fun same =>
      (Parallel.note _ _).andThen fun _ => .pure same
  cases role with
  | physical | configurable => exact factory
  | _ => exact opened

end Requests

/-! ## Sessions that are alike -/

/-- Functions of the same addresses have the same names and roles. -/
def SameHandles (here there : Site) (handles handlesToo : Handles Handle) : Prop :=
  ∃ addresses : Handles String, handles = addresses.map here.function ∧
    handlesToo = addresses.map there.function ∧
    addresses.All fun address => PlainName (Text.toBytes address)

namespace SameHandles

variable {here there : Site} {handles handlesToo : Handles Handle} {name : String}

theorem find?_eq_none (same : SameHandles here there handles handlesToo)
    (unknown : handles.find? name = none) : handlesToo.find? name = none := by
  obtain ⟨addresses, rfl, rfl, _⟩ := same
  rw [Handles.find?_map, Option.map_eq_none_iff] at unknown ⊢
  exact unknown

theorem find?_eq_some {role : Role} {handle : Handle} (same : SameHandles here there handles handlesToo)
    (known : handles.find? name = some (role, handle)) :
    ∃ address, handle = here.function address ∧ PlainName (Text.toBytes address) ∧
      handlesToo.find? name = some (role, there.function address) := by
  obtain ⟨addresses, rfl, rfl, plains⟩ := same
  rw [Handles.find?_map, Option.map_eq_some_iff] at known
  obtain ⟨⟨_, address⟩, known, equal⟩ := known
  cases equal
  exact ⟨address, rfl, plains.find? known, by rw [Handles.find?_map, known]; rfl⟩

theorem store {role : Role} {address : String} (same : SameHandles here there handles handlesToo)
    (plain : PlainName (Text.toBytes address)) :
    SameHandles here there (handles.store name role (here.function address))
      (handlesToo.store name role (there.function address)) := by
  obtain ⟨addresses, rfl, rfl, plains⟩ := same
  exact ⟨addresses.store name role address, Handles.store_map _ _ _ _ _, Handles.store_map _ _ _ _ _,
    plains.store name role plain⟩

/-- What is remembered of the same reply is the same. -/
theorem remember {address : String} {storeAs : Option String} {reply : Reply}
    (same : SameHandles here there handles handlesToo)
    (plain : ∀ address ∈ reply.addresses, PlainName (Text.toBytes address)) :
    SameHandles here there (HostSession.remember handles (here.function address) storeAs reply)
      (HostSession.remember handlesToo (there.function address) storeAs
        (reply.rebase here.root there.root)) := by
  cases reply with
  | functions addresses skipped =>
    cases storeAs with
    | none => exact same
    | some stem =>
      obtain ⟨older, rfl, rfl, plains⟩ := same
      exact ⟨older.storeAll stem addresses, Handles.storeAll_map _ _ _ _, Handles.storeAll_map _ _ _ _,
        plains.storeAll stem plain⟩
  | done | text _ | count _ | driver _ | path _ => exact same

end SameHandles

/-- Two sessions are alike: their machines are, and they have opened the same functions under the same
names. -/
structure HostSession.Alike (here there : Site) (session other : HostSession) : Prop where
  machine : session.machine.Alike here there other.machine
  handles : SameHandles here there session.handles other.handles

/-- A session goes on from a call that has ended: it answers, and it keeps the handles of a success. -/
def HostSession.conclude {α : Type} (session : HostSession) (answer : α → Reply)
    (keep : α → Handles Handle) : Except DeviceError α × Machine → Answer HostReply × HostSession
  | (.ok value, machine) => (.reply (.ofFunction (answer value)), ⟨machine, keep value⟩)
  | (.error error, machine) => (.failure error, { session with machine })

namespace HostSession

variable {session : HostSession} {layout : Layout} {kernel : Interference} {role : Role}
  {handle : Handle} {address name : String} {request : Request} {storeAs : Option String}

theorem step_openHandle :
    session.step layout kernel (.openHandle role address name) =
      session.conclude (fun handle => .text handle.address)
        (fun handle => session.handles.store name role handle)
        ((openAs layout role address).run session.machine) := by
  rw [step]
  generalize (openAs layout role address).run session.machine = ended
  obtain ⟨_ | handle, after⟩ := ended <;> rfl

theorem step_ask_eq (known : session.handles.find? name = some (role, handle))
    (offered : role.offers request = true) :
    session.step layout kernel (.ask name request storeAs) =
      session.conclude id (remember session.handles handle storeAs)
        ((respond kernel handle request).run session.machine) := by
  rw [step_ask known offered]
  generalize (respond kernel handle request).run session.machine = ended
  obtain ⟨_ | reply, after⟩ := ended <;> rfl

end HostSession

section Runs

variable {here there : Site} {session other : HostSession}

/-- How the same call may have ended in two sessions. -/
def Advance (here there : Site) (session other : HostSession)
    (ended endedToo : Answer HostReply × HostSession) : Prop :=
  SameInside here there (session.machine.interruptions ended.2.machine)
      (other.machine.interruptions endedToo.2.machine) →
    endedToo.1 = ended.1.rebase here.root there.root ∧ ended.2.Alike here there endedToo.2 ∧
      (other.machine.interruptions endedToo.2.machine).length =
        (session.machine.interruptions ended.2.machine).length

/-- Sessions go on alike from calls that have ended alike, if they answer the same and remember the same. -/
theorem advance_of_ended {α β : Type} {values : α → β → Prop} {one : Except DeviceError α × Machine}
    {two : Except DeviceError β × Machine} {answer : α → Reply} {answerToo : β → Reply}
    {keep : α → Handles Handle} {keepToo : β → Handles Handle} (alike : session.Alike here there other)
    (ended : EndedAlike here there values session.machine other.machine one two)
    (goes : ∀ {value valueToo}, one.1 = .ok value → values value valueToo →
      answerToo valueToo = (answer value).rebase here.root there.root ∧
        SameHandles here there (keep value) (keepToo valueToo)) :
    Advance here there session other (session.conclude answer keep one)
      (other.conclude answerToo keepToo two) := by
  obtain ⟨outcome, after⟩ := one
  obtain ⟨outcomeToo, afterToo⟩ := two
  cases outcome with
  | error failure =>
    cases outcomeToo with
    | error failureToo =>
      intro same
      obtain ⟨ends, machines, lengths⟩ := ended same
      cases ends
      exact ⟨rfl, ⟨machines, alike.handles⟩, lengths⟩
    | ok valueToo =>
      intro same
      cases (ended same).1
  | ok value =>
    cases outcomeToo with
    | error failureToo =>
      intro same
      cases (ended same).1
    | ok valueToo =>
      intro same
      obtain ⟨ends, machines, lengths⟩ := ended same
      cases ends with
      | ok values =>
        obtain ⟨answers, handles⟩ := goes rfl values
        exact ⟨congrArg (Answer.reply ∘ HostReply.ofFunction) answers, ⟨machines, handles⟩, lengths⟩

theorem advance_openHandle {role : Role} {address name : String} {kernel kernelToo : Interference}
    (alike : session.Alike here there other)
    (short : Short ((HostCall.openHandle role address name).paths (.below here.root) session))
    (shortToo : Short ((HostCall.openHandle role address name).paths (.below there.root) other)) :
    Advance here there session other
      (session.step (.below here.root) kernel (.openHandle role address name))
      (other.step (.below there.root) kernelToo (.openHandle role address name)) := by
  have opened := @parallel_openAs here there address role fun valid => by
    simp only [HostCall.paths, valid, if_true] at short shortToo
    exact fits_directory (Pci.isNameText_of_isAddressText valid).plainName short shortToo
      List.mem_cons_self List.mem_cons_self
  rw [HostSession.step_openHandle, HostSession.step_openHandle]
  refine advance_of_ended alike (opened.runs _ _ alike.machine) ?_
  rintro _ _ _ ⟨rfl, rfl, plain⟩
  exact ⟨rfl, alike.handles.store plain⟩

theorem advance_ask {name : String} {request : Request} {storeAs : Option String}
    {kernel kernelToo : Interference} (alike : session.Alike here there other)
    (short : Short ((HostCall.ask name request storeAs).paths (.below here.root) session))
    (shortToo : Short ((HostCall.ask name request storeAs).paths (.below there.root) other)) :
    Advance here there session other
      (session.step (.below here.root) kernel (.ask name request storeAs))
      (other.step (.below there.root) kernelToo (.ask name request storeAs)) := by
  cases known : session.handles.find? name with
  | none =>
    rw [HostSession.step_ask_unknown known,
      HostSession.step_ask_unknown (alike.handles.find?_eq_none known)]
    exact fun _ => ⟨rfl, alike, by simp [Machine.interruptions]⟩
  | some found =>
    obtain ⟨role, handle⟩ := found
    obtain ⟨address, rfl, plain, knownToo⟩ := alike.handles.find?_eq_some known
    cases offered : role.offers request with
    | false =>
      rw [HostSession.step_ask_unoffered known offered, HostSession.step_ask_unoffered knownToo offered]
      exact fun _ => ⟨rfl, alike, by simp [Machine.interruptions]⟩
    | true =>
      simp only [HostCall.paths, known, knownToo, offered, if_true] at short shortToo
      have responded := @parallel_respond here there address kernel kernelToo _ _ _ plain alike.machine
        short shortToo
      rw [HostSession.step_ask_eq known offered, HostSession.step_ask_eq knownToo offered]
      refine advance_of_ended alike responded ?_
      rintro reply _ replied rfl
      refine ⟨rfl, alike.handles.remember ?_⟩
      cases reply with
      | functions addresses skipped =>
        exact fun address among => (grounded_of_respond (Prod.ext replied rfl) address among).plain
      | done | text _ | count _ | driver _ | path _ => simp [Reply.addresses]

/-- A call is answered alike, and the sessions are alike again. -/
theorem advance_step {kernel kernelToo : Interference} {call : HostCall}
    (alike : session.Alike here there other)
    (short : Short (call.paths (.below here.root) session))
    (shortToo : Short (call.paths (.below there.root) other)) :
    Advance here there session other (session.step (.below here.root) kernel call.command)
      (other.step (.below there.root) kernelToo call.command) := by
  cases call with
  | openHandle role address name => exact advance_openHandle alike short shortToo
  | ask name request storeAs => exact advance_ask alike short shortToo

/-- Sessions that are alike stay so through all visits. -/
theorem alike_run {visits visitsToo : List Visit} (alike : session.Alike here there other)
    (calls : visitsToo.map Visit.call = visits.map Visit.call)
    (same : SameInside here there (session.interruptions (.below here.root) visits)
      (other.interruptions (.below there.root) visitsToo))
    (fits : session.Fits (.below here.root) visits)
    (fitsToo : other.Fits (.below there.root) visitsToo) :
    (other.run (.below there.root) visitsToo).1 =
        (session.run (.below here.root) visits).1.map (Answer.rebase here.root there.root) ∧
      (session.run (.below here.root) visits).2.Alike here there
        (other.run (.below there.root) visitsToo).2 := by
  induction visits generalizing session other visitsToo with
  | nil =>
    obtain rfl := List.map_eq_nil_iff.1 calls
    exact ⟨rfl, alike⟩
  | cons visit rest ih =>
    cases visitsToo with
    | nil => cases calls
    | cons visitToo restToo =>
      obtain ⟨change, kernel, _⟩ := visit
      obtain ⟨changeToo, kernelToo, call⟩ := visitToo
      obtain ⟨rfl, later⟩ := List.cons.inj calls
      obtain ⟨short, fits⟩ := fits
      obtain ⟨shortToo, fitsToo⟩ := fitsToo
      -- Before the call others have been at work, and during it the kernel is.
      have met : (session.meets ⟨change, kernel, call⟩).Alike here there
          (other.meets ⟨changeToo, kernelToo, call⟩) :=
        ⟨⟨same _ List.mem_cons_self alike.machine.files, alike.machine.tally⟩, alike.handles⟩
      replace same := @SameInside.of_append _ _ [_] [_] _ _ same rfl
      obtain ⟨answers, after, lengths⟩ := advance_step met short shortToo
        (same.of_prefix (List.prefix_append _ _) (List.prefix_append _ _))
      obtain ⟨others, final⟩ := ih after later (same.of_append lengths) fits fitsToo
      refine ⟨?_, final⟩
      simp only [HostSession.run, List.map_cons]
      exact congrArg₂ List.cons answers others

/-- Whatever is called, and whatever others do in the meantime, as long as it is the same inside the tree:
the answers are the same up to the root, the same is counted, and the trees stay the same. -/
theorem relocated_of_run {files filesToo : FileSystem} {visits visitsToo : List Visit}
    (mirrors : Mirrors here there files filesToo)
    (calls : visitsToo.map Visit.call = visits.map Visit.call)
    (same : SameInside here there
      ((HostSession.start files).interruptions (.below here.root) visits)
      ((HostSession.start filesToo).interruptions (.below there.root) visitsToo))
    (fits : HostSession.Fits (.below here.root) (.start files) visits)
    (fitsToo : HostSession.Fits (.below there.root) (.start filesToo) visitsToo) :
    let one := (HostSession.start files).run (.below here.root) visits
    let two := (HostSession.start filesToo).run (.below there.root) visitsToo
    two.1 = one.1.map (Answer.rebase here.root there.root) ∧
      two.2.machine.tally = one.2.machine.tally ∧
      Mirrors here there one.2.machine.files two.2.machine.files := by
  have start : (HostSession.start files).Alike here there (.start filesToo) :=
    ⟨⟨mirrors, rfl⟩, .none, rfl, rfl, by simp [Handles.All, Handles.none]⟩
  obtain ⟨answers, final⟩ := alike_run start calls same fits fitsToo
  exact ⟨answers, final.machine.tally, final.machine.files⟩

end Runs

/-! ## A host and a test -/

namespace Sample

open Device.Sample (place address)

/-- Where a host keeps its metadata. -/
def usual : Site := ⟨.ofText "/sys/bus/pci", place ["sys", "bus", "pci"]⟩

/-- Where a test keeps it. -/
def scratch : Site := ⟨.ofText "/tmp/scratch", place ["tmp", "scratch"]⟩

/-- A function that is bound to one driver, and another driver. -/
def content : List (Location × Node) :=
  [(place ["devices"], .directory .newDirectory),
    (place ["devices", address], .directory .newDirectory),
    (place ["devices", address, "driver"], .link (.ofText "../../drivers/ixgbe")),
    (place ["devices", address, "driver_override"], .file .newFile []),
    (place ["drivers"], .directory .newDirectory),
    (place ["drivers", "ixgbe"], .directory .newDirectory),
    (place ["drivers", "ixgbe", "unbind"], .file .newFile []),
    (place ["drivers", "vfio-pci"], .directory .newDirectory),
    (place ["drivers", "vfio-pci", "bind"], .file ⟨true, false, false⟩ [])]

/-- The content at a site, among other things. -/
def hosted (site : Site) (around : List (Location × Node)) : FileSystem :=
  ⟨{ rows := around ++ content.map fun row => (row.1 ++ site.place, row.2) }, [], .owner⟩

/-- The host. -/
def system : FileSystem :=
  hosted usual [(place ["sys"], .directory .newDirectory),
    (place ["sys", "bus"], .directory .newDirectory),
    (place ["sys", "bus", "pci"], .directory .newDirectory)]

/-- The place of the test, beside a link that leads nowhere near. -/
def bench : FileSystem :=
  hosted scratch [(place ["tmp"], .directory .newDirectory), (place ["sys"], .link (.ofText "/proc")),
    (place ["tmp", "scratch"], .directory .newDirectory)]

/-- The kernel takes the link away when the function is released, and makes the new one before the
bind write, which then fails. -/
def kernelAt (site : Site) : Interference
  | .afterUnbind, tree => tree.remove (place ["devices", address, "driver"] ++ site.place)
  | .before .bind, tree =>
    tree.put (place ["devices", address, "driver"] ++ site.place)
      (.link (.ofText "../../drivers/vfio-pci"))
  | _, tree => tree

/-- A virtual function comes up. -/
def growAt (site : Site) (tree : Tree) : Tree :=
  (tree.put (place ["devices", "0000:01:10.0"] ++ site.place) (.directory .newDirectory)).put
    (place ["devices", address, "virtfn0"] ++ site.place) (.link (.ofText "../0000:01:10.0"))

/-- The function is bound to the other driver, and then a virtual function is found, which is in no
group. -/
def visitsAt (site : Site) : List Visit :=
  [⟨id, .none, .openHandle .direct address "pf"⟩,
    ⟨id, .none, .ask "pf" .directory none⟩,
    ⟨id, kernelAt site, .ask "pf" (.rebind "vfio-pci") none⟩,
    ⟨growAt site, .none, .ask "pf" .virtualFunctions (some "vf")⟩,
    ⟨id, .none, .ask "vf0" .iommuGroup none⟩]

/-- What is answered at a site. -/
def answersAt (site : Site) : List (Answer HostReply) :=
  let devices := (Layout.below site.root).devicesRoot
  [.reply (.ofFunction (.text address)), .reply (.ofFunction (.path (devices / address))),
    .reply (.ofFunction .done), .reply (.ofFunction (.functions ["0000:01:10.0"] 0)),
    .failure (.resolution "0000:01:10.0" (devices / "0000:01:10.0" / "iommu_group")
      "No such file or directory (os error 2)")]

/-- What can be computed of two mirrors whose sites are all open. -/
def Resembles (files other : FileSystem) : Prop :=
  other.caller = files.caller ∧ usual.IsPlain files .newDirectory ∧
    scratch.IsPlain other .newDirectory ∧
    other.tree.inside scratch.place = files.tree.inside usual.place ∧
    files.encloses usual.place = true

instance (files other : FileSystem) : Decidable (Resembles files other) :=
  inferInstanceAs (Decidable (_ ∧ _))

theorem Resembles.mirrors {files other : FileSystem} (resembles : Resembles files other) :
    Mirrors usual scratch files other := by
  obtain ⟨caller, plain, plainToo, same, encloses⟩ := resembles
  exact .of_inside caller plain plainToo rfl same encloses

end Sample

open Sample in
theorem relocated_of_run_sample :
    Mirrors usual scratch system bench ∧
      SameInside usual scratch
        ((HostSession.start system).interruptions (.below usual.root) (visitsAt usual))
        ((HostSession.start bench).interruptions (.below scratch.root) (visitsAt scratch)) ∧
      ((HostSession.start system).run (.below usual.root) (visitsAt usual)).1 = answersAt usual ∧
      ((HostSession.start bench).run (.below scratch.root) (visitsAt scratch)).1 =
        answersAt scratch ∧
      Mirrors usual scratch
        ((HostSession.start system).run (.below usual.root) (visitsAt usual)).2.machine.files
        ((HostSession.start bench).run (.below scratch.root) (visitsAt scratch)).2.machine.files := by
  have mirrors : Mirrors usual scratch system bench := Resembles.mirrors (by decide +kernel)
  have same : SameInside usual scratch
      ((HostSession.start system).interruptions (.below usual.root) (visitsAt usual))
      ((HostSession.start bench).interruptions (.below scratch.root) (visitsAt scratch)) := by
    have left : ∀ pair ∈
        ((HostSession.start system).interruptions (.below usual.root) (visitsAt usual)).zip
          ((HostSession.start bench).interruptions (.below scratch.root) (visitsAt scratch)),
        Resembles pair.1.left pair.2.left := by
      decide +kernel
    exact fun pair among _ => (left pair among).mirrors
  have fits : HostSession.Fits (.below usual.root) (.start system) (visitsAt usual) := by
    decide +kernel
  have fitsToo : HostSession.Fits (.below scratch.root) (.start bench) (visitsAt scratch) := by
    decide +kernel
  have calls : (visitsAt scratch).map Visit.call = (visitsAt usual).map Visit.call := by
    simp only [visitsAt, List.map_cons, List.map_nil]
  obtain ⟨answers, _, after⟩ := relocated_of_run mirrors calls same fits fitsToo
  have answered : ((HostSession.start system).run (.below usual.root) (visitsAt usual)).1 =
      answersAt usual := by
    decide +kernel
  refine ⟨mirrors, same, answered, ?_, after⟩
  rw [answers, answered]
  decide +kernel

end SingleRoot.Session
