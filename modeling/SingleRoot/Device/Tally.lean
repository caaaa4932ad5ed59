/-
# Counters

What device management counts: virtual functions requested, successful rebinds by driver, and
entries that an enumeration had to skip. A tally keeps the total of each counter that has been
touched. A counter that was touched only by zero is there with the total zero, and one that was
never touched is not there, though its total is zero as well.
-/

namespace SingleRoot.Device

/-- Something that is counted. -/
inductive Counter where
  | functionsProvisioned
  | driverBinds (driver : String)
  | entriesSkipped
  deriving DecidableEq, Repr

namespace Counter

/-- The name under which virtual functions requested are exported. -/
def functionsProvisionedName : String := "sriov_vfs_provisioned_total"

/-- The name under which rebinds are exported; the driver is a label. -/
def driverBindsName : String := "sriov_driver_binds_total"

/-- The name under which skipped entries are exported. -/
def entriesSkippedName : String := "sriov_vf_entries_skipped_total"

/-- The name of a counter with its label. -/
def label : Counter → String
  | functionsProvisioned => functionsProvisionedName
  | driverBinds driver => driverBindsName ++ "\x7bdriver=" ++ driver ++ "\x7d"
  | entriesSkipped => entriesSkippedName

/-- What each exported counter means. -/
def descriptions : List (String × String) :=
  [(functionsProvisionedName, "Virtual functions requested through sriov_numvfs writes"),
   (driverBindsName, "Successful driver rebinds (by driver)"),
   (entriesSkippedName,
    "virtfn entries skipped during enumeration because they were unreadable or did not resolve")]

end Counter

/-- The totals of the counters that have been touched, in the order of their first use. -/
structure Tally where
  totals : List (Counter × Nat)
  deriving DecidableEq, Repr

namespace Tally

/-- The tally in which nothing has been counted. -/
def zero : Tally := ⟨[]⟩

instance : Inhabited Tally := ⟨zero⟩

/-- The total of a counter. -/
def total (tally : Tally) (counter : Counter) : Nat :=
  (tally.totals.lookup counter).getD 0

/-- Increase a counter among the totals, adding it if it has not been touched before. -/
def increase (counter : Counter) (amount : Nat) : List (Counter × Nat) → List (Counter × Nat)
  | [] => [(counter, amount)]
  | (other, total) :: rest =>
    if other = counter then (other, total + amount) :: rest
    else (other, total) :: increase counter amount rest

/-- Increase a counter. -/
def add (tally : Tally) (counter : Counter) (amount : Nat) : Tally :=
  ⟨increase counter amount tally.totals⟩

/-! ## Totals after counting -/

@[simp] theorem total_zero (counter : Counter) : zero.total counter = 0 := rfl

theorem lookup_increase (counter other : Counter) (amount : Nat)
    (totals : List (Counter × Nat)) :
    ((increase counter amount totals).lookup other).getD 0 =
      (totals.lookup other).getD 0 + if other = counter then amount else 0 := by
  induction totals with
  | nil => by_cases same : other = counter <;> grind [increase]
  | cons row rest ih =>
    obtain ⟨first, total⟩ := row
    by_cases here : first = counter <;> by_cases sought : other = first <;>
      grind [increase]

/-- Counting changes one total and no other. -/
theorem total_add (tally : Tally) (counter other : Counter) (amount : Nat) :
    (tally.add counter amount).total other =
      tally.total other + if other = counter then amount else 0 :=
  lookup_increase counter other amount tally.totals

end Tally

end SingleRoot.Device
