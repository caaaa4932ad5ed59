/-
# Labels

Names with values. Each name has one value and the order in which they were given means nothing,
so the rows are kept in the order of the names and two maps of labels are equal when they hold the
same.
-/

namespace SingleRoot.Descriptor

/-- Labels with their values, in the order of the labels. -/
structure Labels where
  rows : List (String × String)
  sorted : rows.Pairwise fun first second => first.1 < second.1
  deriving DecidableEq, Repr

namespace Labels

/-- No labels. -/
def empty : Labels := ⟨[], .nil⟩

instance : Inhabited Labels := ⟨empty⟩

/-- Set the value of a label among the rows. -/
def setRow (label value : String) : List (String × String) → List (String × String)
  | [] => [(label, value)]
  | (other, old) :: rest =>
    if label = other then (label, value) :: rest
    else if label < other then (label, value) :: (other, old) :: rest
    else (other, old) :: setRow label value rest

theorem mem_setRow {label value : String} {rows : List (String × String)}
    {row : String × String} (member : row ∈ setRow label value rows) :
    row = (label, value) ∨ row ∈ rows := by
  induction rows with
  | nil => simpa [setRow] using member
  | cons first rest ih => grind [setRow]

theorem sorted_setRow (label value : String) {rows : List (String × String)}
    (sorted : rows.Pairwise fun first second => first.1 < second.1) :
    (setRow label value rows).Pairwise fun first second => first.1 < second.1 := by
  induction rows with
  | nil => exact List.pairwise_singleton ..
  | cons first rest ih =>
    obtain ⟨other, old⟩ := first
    obtain ⟨ahead, tail⟩ := List.pairwise_cons.1 sorted
    unfold setRow
    split
    · next same => exact List.pairwise_cons.2 ⟨fun row member => same ▸ ahead row member, tail⟩
    · split
      · next before =>
        refine List.pairwise_cons.2 ⟨fun row member => ?_, sorted⟩
        rcases List.mem_cons.1 member with rfl | member
        · exact before
        · exact String.lt_trans before (ahead row member)
      · next different notBefore =>
        refine List.pairwise_cons.2 ⟨fun row member => ?_, ih tail⟩
        rcases mem_setRow member with rfl | member
        · exact Std.lt_of_le_of_ne (String.not_lt.1 notBefore) (Ne.symm different)
        · exact ahead row member

/-- Set the value of a label; an older value is forgotten. -/
def insert (labels : Labels) (label value : String) : Labels :=
  ⟨setRow label value labels.rows, sorted_setRow label value labels.sorted⟩

end Labels

end SingleRoot.Descriptor
