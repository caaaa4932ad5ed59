/-
# The counters over a whole run

What is counted can be told from what was asked and how it was answered. `Request.counted` says what a
request adds to the tally: the number of functions that a provisioning has written, one for each rebind
that was more than a look at the driver, one for each entry that an enumeration has skipped, and nothing
in all other cases, failures among them. Every move adds just that, whatever the kernel does meanwhile,
and so the totals at the end of a run are the sums over its moves.
-/
import Mathlib.Algebra.GroupWithZero.Nat
import SingleRoot.Proofs.Device.Counting
import SingleRoot.Proofs.Session.Turns

namespace SingleRoot

open Host

/-! ## Totals -/

namespace Device.Tally

/-- What is counted of one counter. -/
def amount (counter : Counter) (counted : List (Counter × Nat)) : Nat :=
  (counted.map fun row => if row.1 = counter then row.2 else 0).sum

@[simp] theorem amount_nil (counter : Counter) : amount counter [] = 0 := rfl

@[simp] theorem amount_singleton (counter other : Counter) (number : Nat) :
    amount counter [(other, number)] = if other = counter then number else 0 := rfl

@[simp] theorem amount_replicate (counter other : Counter) (times : Nat) :
    amount counter (List.replicate times (other, 1)) = if other = counter then times else 0 := by
  rw [amount, List.map_replicate, List.sum_replicate_nat]
  split <;> simp

/-- The total of a counter grows by what is counted of it. -/
theorem total_addAll (tally : Tally) (counted : List (Counter × Nat)) (counter : Counter) :
    (tally.addAll counted).total counter = tally.total counter + amount counter counted := by
  induction counted generalizing tally with
  | nil => rfl
  | cons row rest ih =>
    have first : tally.addAll (row :: rest) = (tally.add row.1 row.2).addAll rest := rfl
    rw [first, ih, total_add, amount, amount, List.map_cons, List.sum_cons, Nat.add_assoc]
    simp only [eq_comm]

end Device.Tally

/-! ## What a request counts -/

namespace Session

open Device

variable {kernel : Interference} {handle : Handle} {machine after : Machine}

/-- What a request counts that finds the files of a host and ends with a result. -/
def Request.counted (handle : Handle) (files : FileSystem) :
    Request → Except DeviceError Reply → List (Counter × Nat)
  | .provision count, .ok _ =>
    if handle.configured files = .ok count then [] else [(.functionsProvisioned, count.toNat)]
  | .rebind wanted, .ok _ =>
    if handle.boundDriver files = .ok (some wanted) then [] else [(.driverBinds wanted, 1)]
  | .virtualFunctions, .ok (.functions _ skipped) => List.replicate skipped (.entriesSkipped, 1)
  | _, _ => []

/-- The requests that can count anything. -/
def Request.counts : Request → Bool
  | .provision _ | .rebind _ | .virtualFunctions => true
  | _ => false

theorem quiet_respond (kernel : Interference) (handle : Handle) {request : Request}
    (silent : request.counts = false) : (HostSession.respond kernel handle request).Quiet := by
  cases request with
  | address => exact .pure _
  | netInterface =>
    apply Action.Quiet.map
    apply (Action.Quiet.ask _).bind
    intro interface
    exact (Action.Quiet.note (by simp [Event.IsWarning, Event.severity])).bind fun _ => .pure _
  | iommuGroup => exact .map _ (.ask _)
  | driver => exact .map _ (.ask _)
  | rebind driver => cases silent
  | capacity => exact .map _ (.ask _)
  | configured => exact .map _ (.ask _)
  | provision count => cases silent
  | directory => exact .pure _
  | virtualFunctions => cases silent

theorem counted_of_silent {request : Request} (silent : request.counts = false)
    (files : FileSystem) (result : Except DeviceError Reply) :
    request.counted handle files result = [] := by
  cases request <;> first | rfl | cases silent

theorem counted_of_failure {request : Request} (files : FileSystem) (error : DeviceError) :
    request.counted handle files (.error error) = [] := by
  cases request <;> rfl

/-- Every request adds to the tally what it counts. -/
theorem tally_of_respond {request : Request} {result : Except DeviceError Reply}
    (ran : (HostSession.respond kernel handle request).run machine = (result, after)) :
    after.tally = machine.tally.addAll (request.counted handle machine.files result) := by
  -- most requests are quiet; three are looked at one by one
  cases counting : request.counts with
  | false =>
    rw [counted_of_silent counting, ((quiet_respond kernel handle counting).of_run ran).tally]
  | true =>
    cases request with
    | rebind driver =>
      obtain ⟨outcome, bound, rfl⟩ := outcome_of_effect ran
      rw [Handle.tally_of_rebind bound]
      cases outcome with
      | error error =>
        rw [Handle.bindsCounted]
        split <;> rfl
      | ok _ => rfl
    | provision count =>
      obtain ⟨outcome, provisioned, rfl⟩ := outcome_of_effect ran
      rw [Handle.tally_of_provision provisioned]
      cases outcome with
      | error error =>
        rw [Handle.provisionCounted]
        split <;> rfl
      | ok _ => rfl
    | virtualFunctions =>
      rw [HostSession.respond, Action.run_bind] at ran
      cases enumerated : handle.enumerate.run machine with
      | mk outcome ended =>
        rw [enumerated] at ran
        have counts := Handle.tally_of_enumerate enumerated
        cases outcome with
        | error error =>
          cases ran
          exact counts
        | ok enumeration =>
          cases ran
          exact counts
    | _ => cases counting

/-! ## What a move counts -/

/-- The total of a counter. -/
def World.total (world : World) (counter : Counter) : Nat :=
  world.host.machine.tally.total counter

namespace Move

variable (move : Move)

/-- The handle that has been asked on the host, what for, and its reply, unless the request has failed. -/
def served : Option (Handle × Request × Reply) :=
  match move.asked, move.answer with
  | some (handle, request), .reply (.ofFunction reply) => some (handle, request, reply)
  | _, _ => none

/-- How many functions a move has provisioned: as many as were asked for, unless they were there. -/
def provisioned : Nat :=
  match move.served with
  | some (handle, .provision count, _) =>
    if handle.configured move.met.machine.files = .ok count then 0 else count.toNat
  | _ => 0

/-- Whether a move has bound a function to a driver, to which it was not bound already. -/
def binds (driver : String) : Bool :=
  match move.served with
  | some (handle, .rebind wanted, _) =>
    wanted = driver ∧ handle.boundDriver move.met.machine.files ≠ .ok (some wanted)
  | _ => false

/-- How many entries a move has skipped. -/
def skipped : Nat :=
  match move.served with
  | some (_, .virtualFunctions, .functions _ skipped) => skipped
  | _ => 0

/-- Everything that a move has counted. -/
def counted : List (Counter × Nat) :=
  match move.served with
  | some (handle, request, reply) => request.counted handle move.met.machine.files (.ok reply)
  | none => []

/-- A move is not to count anything if it fails, or if it is no provisioning, no rebind and no
enumeration on the host. -/
def Uncounted : Prop :=
  (∃ error, move.answer = .failure error) ∨
    ∀ handle request, move.asked = some (handle, request) → request.counts = false

theorem tally_met : move.met.machine.tally = move.world.host.machine.tally := by
  obtain ⟨world, turn⟩ := move
  cases turn <;> rfl

/-- Every move adds to the tally what it has counted. -/
theorem tally_after :
    move.after.host.machine.tally = move.world.host.machine.tally.addAll move.counted := by
  rw [← move.tally_met, counted, served]
  obtain aside | ⟨handle, request, answered⟩ := move_cases move
  · rw [aside.unasked, aside.quiet.tally]
  · obtain ⟨kernel, result, ran, answer⟩ := answered.ran
    rw [answered.asked, answer, tally_of_respond ran]
    cases result with
    | ok reply => rfl
    | error error =>
      rw [counted_of_failure]
      rfl

variable {move}

/-- A move that is not to count anything leaves the whole tally as it was. -/
theorem tally_of_uncounted (uncounted : move.Uncounted) :
    move.after.host.machine.tally = move.world.host.machine.tally := by
  have nothing : move.counted = [] := by
    rw [counted]
    cases given : move.served with
    | none => rfl
    | some row =>
      obtain ⟨handle, request, reply⟩ := row
      rw [served] at given
      split at given
      · rename_i asked answer
        cases given
        rcases uncounted with ⟨error, failed⟩ | silent
        · cases answer.symm.trans failed
        · exact counted_of_silent (silent handle request asked) _ _
      · cases given
  rw [move.tally_after, nothing]
  rfl

/-! ### The three counters -/

/-- What a move adds to each counter. -/
theorem amount_counted (move : Move) (counter : Counter) :
    Tally.amount counter move.counted =
      match counter with
      | .functionsProvisioned => move.provisioned
      | .driverBinds driver => if move.binds driver then 1 else 0
      | .entriesSkipped => move.skipped := by
  cases served : move.served with
  | none => cases counter <;> simp [counted, provisioned, binds, skipped, served]
  | some row =>
    obtain ⟨handle, request, reply⟩ := row
    have counted_ : move.counted = request.counted handle move.met.machine.files (.ok reply) := by
      rw [counted, served]
    rw [counted_]
    cases request with
    | provision count =>
      by_cases there : handle.configured move.met.machine.files = .ok count
      · cases counter <;> simp [Request.counted, provisioned, binds, skipped, served, there]
      · cases counter <;> simp [Request.counted, provisioned, binds, skipped, served, there]
    | rebind wanted =>
      by_cases bound : handle.boundDriver move.met.machine.files = .ok (some wanted)
      · cases counter <;> simp [Request.counted, provisioned, binds, skipped, served, bound]
      · cases counter <;> simp [Request.counted, provisioned, binds, skipped, served, bound]
    | virtualFunctions =>
      cases reply <;> cases counter <;>
        simp [Request.counted, provisioned, binds, skipped, served]
    | _ => cases counter <;> simp [Request.counted, provisioned, binds, skipped, served]

end Move

/-! ## What a run counts -/

/-- Over a run every counter grows by what the moves have counted of it. -/
theorem total_run (world : World) (turns : List Turn) (counter : Counter) :
    (world.run turns).total counter = world.total counter +
      ((moves world turns).map fun move => Tally.amount counter move.counted).sum := by
  induction turns generalizing world with
  | nil => rfl
  | cons turn rest ih =>
    have first : (Move.after ⟨world, turn⟩).total counter =
        world.total counter + Tally.amount counter (Move.counted ⟨world, turn⟩) := by
      rw [World.total, Move.tally_after, Tally.total_addAll]
      rfl
    rw [World.run, ih, first, moves, List.map_cons, List.sum_cons, Nat.add_assoc]

/-- A provisioning that succeeds has written the number, unless it was there. -/
theorem attempts_of_provision {move : Move} {count : UInt32} {reply : Reply}
    (served : move.served = some (handle, .provision count, reply)) :
    move.after.host.machine.attempts = move.met.machine.attempts ++
      if handle.configured move.met.machine.files = .ok count then []
      else [⟨handle.entry configuredEntry, Text.toBytes (Text.decimal count.toNat), none⟩] := by
  rw [Move.served] at served
  split at served
  · rename_i given request answer asked replied
    cases served
    obtain aside | ⟨other, request, answered⟩ := move_cases move
    · cases aside.unasked.symm.trans asked
    · cases answered.asked.symm.trans asked
      obtain ⟨kernel, result, ran, answers⟩ := answered.ran
      obtain ⟨outcome, provisioned, rfl⟩ := outcome_of_effect ran
      obtain ⟨made, attempts, _, succeeds⟩ := (Handle.provisioning_of_run provisioned).attempts
      cases outcome with
      | error error => cases replied.symm.trans answers
      | ok _ => rw [attempts, succeeds rfl]
  · cases served

/-- Over a run of any length, whatever the world does meanwhile, the counters tell what has been achieved:
how many functions have been provisioned, how often functions have been bound to each driver, and how
many entries have been skipped. What fails is not counted, nor is anything else that is done. -/
theorem totals_account_for_run (files : FileSystem) (inventory : Inventory) (turns : List Turn) :
    ((World.start files inventory).run turns).total .functionsProvisioned =
        ((moves (.start files inventory) turns).map Move.provisioned).sum ∧
      (∀ driver, ((World.start files inventory).run turns).total (.driverBinds driver) =
        (moves (.start files inventory) turns).countP fun move => move.binds driver) ∧
      ((World.start files inventory).run turns).total .entriesSkipped =
        ((moves (.start files inventory) turns).map Move.skipped).sum ∧
      (∀ move ∈ moves (.start files inventory) turns, move.Uncounted →
        move.after.host.machine.tally = move.world.host.machine.tally) ∧
      ∀ move ∈ moves (.start files inventory) turns, ∀ handle count reply,
        move.served = some (handle, .provision count, reply) →
        move.after.host.machine.attempts = move.met.machine.attempts ++
          if handle.configured move.met.machine.files = .ok count then []
          else [⟨handle.entry configuredEntry, Text.toBytes (Text.decimal count.toNat), none⟩] := by
  have begins (counter : Counter) : (World.start files inventory).total counter = 0 := rfl
  refine ⟨?_, ?_, ?_, fun _ _ => Move.tally_of_uncounted, fun _ _ _ _ _ => attempts_of_provision⟩
  · rw [total_run, begins, Nat.zero_add]
    simp only [Move.amount_counted]
  · intro driver
    rw [total_run, begins, Nat.zero_add]
    simp only [Move.amount_counted]
    generalize moves (.start files inventory) turns = made
    induction made with
    | nil => rfl
    | cons move rest ih => rw [List.map_cons, List.sum_cons, ih, List.countP_cons, Nat.add_comm]
  · rw [total_run, begins, Nat.zero_add]
    simp only [Move.amount_counted]

end Session
end SingleRoot
