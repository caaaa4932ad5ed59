/-
# How values are spelled in a tree, and read again

A tree spells a value when the value can be read off it without any choice. A string is a scalar, labels
are a mapping with a row for each label, a list is a sequence, and a record is a mapping from the names of
its fields. Of a record much is left open: the order of the entries, which of the fields are left out that
hold their defaults, and what stands under names that the record does not know.

What reads such a value is shown for each of these by a lemma of its own. For records there is one,
`reads_record`, for all schemas. It follows the entries in the order of the text. A schema `Follows` a
description of its record when it fills in each field alone and leaves the others as they were; the draft of
a record is then determined by the names that have been met, in whatever order that was.
-/
import Mathlib.Data.List.Forall2
import Mathlib.Data.List.Nodup
import SingleRoot.Descriptor.Decoding

namespace SingleRoot.Descriptor

open Markup

/-! ## Reading without aliases -/

/-- A part of a document that can be read and in which no alias is followed. -/
def Decoding.Yields {α : Type} (part : Decoding α) (value : α) : Prop :=
  ∀ followed, part followed = .ok (value, followed)

namespace Decoding.Yields

variable {α β : Type} {part : Decoding α} {value : α}

theorem pure (value : α) : Yields (Pure.pure value) value := fun _ => rfl

theorem bind {rest : α → Decoding β} {final : β} (first : Yields part value)
    (second : Yields (rest value) final) : Yields (part >>= rest) final := by
  intro followed
  show (part followed).bind (fun read => rest read.1 read.2) = _
  rw [first followed]
  exact second followed

theorem map (f : α → β) (first : Yields part value) : Yields (f <$> part) (f value) := by
  rw [← bind_pure_comp]
  exact first.bind (pure _)

theorem placed (path : TreePath) (mark : Mark) (first : Yields part value) :
    Yields (Decoding.placed path mark part) value := by
  intro followed
  rw [Decoding.placed, first followed]
  rfl

end Decoding.Yields

open Decoding (Yields)

/-- What reads a value off a node, wherever it stands. -/
def Decoder.Reads {α : Type} (decoder : Decoder α) (node : Node) (value : α) : Prop :=
  ∀ aliases path, Yields (decoder aliases path node) value

/-! ## Strings -/

/-- A node that spells a string is a scalar without a tag. -/
inductive Spells (text : String) : Node → Prop
  | scalar (mark : Mark) (anchor : Option Nat) (isPlain : Bool) :
      Spells text (.scalar mark anchor none text isPlain)

theorem reads_text {text : String} {node : Node} (spelled : Spells text node) (wanted : Wanted) :
    (decodeText wanted).Reads node text := by
  obtain ⟨mark, anchor, isPlain⟩ := spelled
  intro aliases path
  exact (Yields.pure _).bind ((Yields.pure text).placed path mark)

/-! ## Lists -/

/-- A node that spells a list is a sequence of nodes that spell its members. -/
inductive SpellsList {α : Type} (spells : α → Node → Prop) (values : List α) : Node → Prop
  | sequence (mark : Mark) (anchor : Option Nat) {items : List Node}
      (members : List.Forall₂ spells values items) :
      SpellsList spells values (.sequence mark anchor items)

theorem reads_items {α : Type} {spells : α → Node → Prop} {decoder : Decoder α} {values : List α}
    {items : List Node} (members : List.Forall₂ spells values items)
    (reads : ∀ value node, spells value node → decoder.Reads node value) (aliases : Aliases)
    (path : TreePath) (index : Nat) : Yields (decodeItems decoder aliases path index items) values := by
  induction members generalizing index with
  | nil => exact .pure []
  | cons member _ ih => exact (reads _ _ member _ _).bind ((ih _).bind (.pure _))

theorem reads_sequence {α : Type} {spells : α → Node → Prop} {decoder : Decoder α}
    {values : List α} {node : Node} (spelled : SpellsList spells values node)
    (reads : ∀ value node, spells value node → decoder.Reads node value) :
    (decodeSequence decoder).Reads node values := by
  obtain ⟨mark, anchor, members⟩ := spelled
  intro aliases path
  exact (Yields.pure _).bind ((reads_items members reads aliases path 0).placed path mark)

/-! ## Labels -/

/-- A node that spells labels is a mapping with an entry for each of them, in any order. -/
inductive SpellsLabels (labels : Labels) : Node → Prop
  | mapping (mark : Mark) (anchor : Option Nat) {rows : List (String × String)}
      {entries : List (Node × Node)} (perm : rows.Perm labels.rows)
      (spelled : List.Forall₂ (fun row entry => Spells row.1 entry.1 ∧ Spells row.2 entry.2) rows
        entries) :
      SpellsLabels labels (.mapping mark anchor entries)

namespace Labels

/-- A new label adds one row. -/
theorem perm_setRow {label value : String} {rows : List (String × String)}
    (fresh : ∀ row ∈ rows, label ≠ row.1) :
    (setRow label value rows).Perm ((label, value) :: rows) := by
  induction rows with
  | nil => exact .refl _
  | cons row rest ih =>
    obtain ⟨here, later⟩ := List.forall_mem_cons.1 fresh
    rw [setRow, if_neg here]
    split
    · exact .refl _
    · exact ((ih later).cons row).trans (.swap _ _ _)

/-- Labels are determined by their rows in any order. -/
theorem eq_of_perm {first second : Labels} (perm : first.rows.Perm second.rows) : first = second := by
  obtain ⟨rows, sorted⟩ := first
  obtain ⟨otherRows, otherSorted⟩ := second
  have same : rows = otherRows := by
    refine perm.eq_of_pairwise ?_ sorted otherSorted
    intro row other _ _ less more
    exact absurd (String.lt_trans less more) (String.lt_irrefl _)
  subst same
  rfl

end Labels

theorem reads_labelRows {rows : List (String × String)} {entries : List (Node × Node)}
    (spelled : List.Forall₂ (fun row entry => Spells row.1 entry.1 ∧ Spells row.2 entry.2) rows
      entries) (aliases : Aliases) (path : TreePath) (labels : Labels)
    (distinct : (rows ++ labels.rows).Pairwise fun first second => first.1 ≠ second.1) :
    ∃ all, all.rows.Perm (rows ++ labels.rows) ∧
      Yields (decodeLabelRows aliases path labels entries) all := by
  induction spelled generalizing labels with
  | nil => exact ⟨labels, .refl _, .pure labels⟩
  | @cons row entry rest entries here _ ih =>
    obtain ⟨named, valued⟩ := here
    obtain ⟨ahead, tail⟩ := List.pairwise_cons.1 distinct
    have added : (labels.insert row.1 row.2).rows.Perm (row :: labels.rows) :=
      Labels.perm_setRow fun other among => ahead other (List.mem_append_right _ among)
    have moved : (rest ++ (labels.insert row.1 row.2).rows).Perm (row :: (rest ++ labels.rows)) :=
      (added.append_left rest).trans List.perm_middle
    have apart := (moved.pairwise_iff Ne.symm).2
      (List.pairwise_cons.2 ⟨ahead, tail⟩)
    obtain ⟨all, perm, yields⟩ := ih (labels.insert row.1 row.2) apart
    refine ⟨all, perm.trans moved, ?_⟩
    exact (reads_text named _ _ _).bind ((reads_text valued _ _ _).bind yields)

theorem reads_labels {labels : Labels} {node : Node} (spelled : SpellsLabels labels node) :
    decodeLabels.Reads node labels := by
  obtain ⟨mark, anchor, perm, spelled⟩ := spelled
  intro aliases path
  have distinct : labels.rows.Pairwise fun first second => first.1 ≠ second.1 :=
    labels.sorted.imp fun less same => absurd (same ▸ less) (String.lt_irrefl _)
  obtain ⟨all, permAll, yields⟩ := reads_labelRows spelled aliases path .empty (by
    simpa [Labels.empty] using (perm.pairwise_iff Ne.symm).2 distinct)
  have same : all = labels := by
    apply Labels.eq_of_perm
    simpa [Labels.empty] using permAll.trans (by simpa [Labels.empty] using perm)
  subst same
  exact (Yields.pure _).bind (yields.placed path mark)

/-! ## Records -/

/-- A field of a record as a tree spells it. -/
structure Field where
  name : String
  /-- The field holds what a record holds where the field is left out. -/
  IsDefault : Prop
  /-- A node spells what the field holds. -/
  Spells : Node → Prop

/-- The entries for some fields, in the order of the fields. A field with its default may be left
out. -/
inductive Written : List Field → List (Node × Node) → Prop
  | nothing : Written [] []
  | leftOut {field : Field} {fields : List Field} {entries : List (Node × Node)}
      (isDefault : field.IsDefault) (others : Written fields entries) :
      Written (field :: fields) entries
  | given {field : Field} {fields : List Field} {key value : Node} {entries : List (Node × Node)}
      (named : Spells field.name key) (spelled : field.Spells value)
      (others : Written fields entries) : Written (field :: fields) ((key, value) :: entries)

/-- An entry under a name that no field has. The text does not break off inside its value. -/
def IsStray (fields : List Field) (entry : Node × Node) : Prop :=
  ∃ name, Spells name entry.1 ∧ (∀ field ∈ fields, name ≠ field.name) ∧ entry.2.failure? = none

/-- A node that spells a record is a mapping of its fields and of anything under other names, in
any order. -/
inductive SpellsRecord (fields : List Field) : Node → Prop
  | mapping (mark : Mark) (anchor : Option Nat) {written strays entries : List (Node × Node)}
      (writes : Written fields written) (others : ∀ entry ∈ strays, IsStray fields entry)
      (perm : entries.Perm (written ++ strays)) : SpellsRecord fields (.mapping mark anchor entries)

namespace Written

variable {fields : List Field} {entries : List (Node × Node)}

/-- Where nothing is written all fields have their defaults. -/
theorem isDefault_of_nil (written : Written fields []) : ∀ field ∈ fields, field.IsDefault := by
  generalize none : ([] : List (Node × Node)) = entries at written
  induction written with
  | nothing => exact fun _ among => absurd among List.not_mem_nil
  | leftOut isDefault _ ih => exact List.forall_mem_cons.2 ⟨isDefault, ih none⟩
  | given _ _ _ => cases none

/-- An entry that is written is that of one of the fields, and the others are those of the other
fields. -/
theorem take {entry : Node × Node} (written : Written fields entries) (among : entry ∈ entries) :
    ∃ field otherFields otherEntries, fields.Perm (field :: otherFields) ∧
      entries.Perm (entry :: otherEntries) ∧ Written otherFields otherEntries ∧
      Spells field.name entry.1 ∧ field.Spells entry.2 := by
  induction written with
  | nothing => exact absurd among List.not_mem_nil
  | @leftOut first _ _ isDefault _ ih =>
    obtain ⟨field, fields, entries, permFields, permEntries, others, spelled⟩ := ih among
    exact ⟨field, first :: fields, entries, (permFields.cons first).trans (.swap _ _ _), permEntries,
      others.leftOut isDefault, spelled⟩
  | @given first _ key value _ named spelled others ih =>
    rcases List.mem_cons.1 among with rfl | among
    · exact ⟨first, _, _, .refl _, .refl _, others, named, spelled⟩
    · obtain ⟨field, fields, entries, permFields, permEntries, rest, found⟩ := ih among
      exact ⟨field, first :: fields, (key, value) :: entries,
        (permFields.cons first).trans (.swap _ _ _), (permEntries.cons _).trans (.swap _ _ _),
        rest.given named spelled, found⟩

end Written

/-- A schema reads the fields of a record one by one. Its draft is determined by the names of the
fields that have been met, and the record is complete when the others have their defaults. -/
structure Schema.Follows {Draft Result : Type} (schema : Schema Draft Result) (fields : List Field)
    (draft : (String → Bool) → Draft) (result : Result) : Prop where
  distinct : fields.Pairwise fun first second => first.name ≠ second.name
  blank : schema.blank = draft fun _ => false
  unknown : ∀ name, (∀ field ∈ fields, name ≠ field.name) → schema.field name = none
  known : ∀ field ∈ fields, ∀ met : String → Bool, met field.name = false →
    ∀ node, field.Spells node → ∃ fill filler, schema.field field.name = some fill ∧
      Yields (fill (draft met)) filler ∧
      filler.Reads node (draft fun name => name == field.name || met name)
  finish : ∀ met : String → Bool, (∀ field ∈ fields, met field.name = false → field.IsDefault) →
    schema.finish (draft met) = .ok result

/-- A field that has not been met is filled in with what is read. -/
theorem exists_filler {Draft Result α : Type} {schema : Schema Draft Result} {name : String}
    {present : Draft → Bool} {decoder : Decoder α} {set : Draft → α → Draft} {draft filled : Draft}
    {node : Node} {value : α} (found : schema.field name = some (fillIn name present decoder set))
    (unmet : present draft = false) (reads : decoder.Reads node value)
    (fills : set draft value = filled) :
    ∃ fill filler, schema.field name = some fill ∧ Yields (fill draft) filler ∧
      filler.Reads node filled := by
  refine ⟨_, fun aliases path node => set draft <$> decoder aliases path node, found, ?_, ?_⟩
  · rw [fillIn, unmet]
    exact .pure _
  · exact fun aliases path => fills ▸ (reads aliases path).map (set draft)

namespace Schema.Follows

variable {Draft Result : Type} {schema : Schema Draft Result} {fields : List Field}
  {draft : (String → Bool) → Draft} {result : Result}

theorem yields_decodeFields (follows : schema.Follows fields draft result) (aliases : Aliases)
    (path : TreePath) {entries written strays : List (Node × Node)} {left : List Field}
    {met : String → Bool} (writes : Written left written)
    (others : ∀ entry ∈ strays, IsStray fields entry) (perm : entries.Perm (written ++ strays))
    (known : ∀ field ∈ left, field ∈ fields ∧ met field.name = false)
    (distinct : left.Pairwise fun first second => first.name ≠ second.name)
    (rest : ∀ field ∈ fields, met field.name = false → field ∈ left) :
    ∃ all : String → Bool, (∀ field ∈ fields, all field.name = false → field.IsDefault) ∧
      Yields (schema.decodeFields aliases path (draft met) entries) (draft all) := by
  induction entries generalizing written strays left met with
  | nil =>
    obtain ⟨rfl, -⟩ := List.append_eq_nil_iff.1 perm.nil_eq.symm
    exact ⟨met, fun field among unmet => writes.isDefault_of_nil field (rest field among unmet),
      .pure _⟩
  | cons entry entries ih =>
    rcases List.mem_append.1 (perm.subset List.mem_cons_self) with among | among
    · obtain ⟨field, later, writtenLater, permFields, permWritten, writes, named, spelled⟩ :=
        writes.take among
      obtain ⟨member, unmet⟩ := known field (permFields.mem_iff.2 List.mem_cons_self)
      obtain ⟨fill, filler, found, fills, reads⟩ := follows.known field member met unmet _ spelled
      obtain ⟨apart, distinct⟩ :=
        List.pairwise_cons.1 ((permFields.pairwise_iff Ne.symm).1 distinct)
      have permRest : entries.Perm (writtenLater ++ strays) :=
        (perm.trans (permWritten.append_right strays)).cons_inv
      obtain ⟨all, complete, yields⟩ := @ih writtenLater strays later
        (fun name => name == field.name || met name) writes others permRest
        (fun other among => by
          obtain ⟨member, unmet⟩ := known other (permFields.mem_iff.2 (List.mem_cons_of_mem _ among))
          simp [member, unmet, (apart other among).symm])
        distinct
        (fun other member unmet => by
          rw [Bool.or_eq_false_iff, beq_eq_false_iff_ne] at unmet
          have among := permFields.mem_iff.1 (rest other member unmet.2)
          exact (List.mem_cons.1 among).resolve_left fun same => unmet.1 (same ▸ rfl))
      refine ⟨all, complete, (reads_text named _ _ _).bind ?_⟩
      rw [found]
      exact fills.bind ((reads _ _).bind yields)
    · obtain ⟨name, named, unknown, whole⟩ := others entry among
      obtain ⟨before, after, rfl⟩ := List.append_of_mem among
      have permRest : entries.Perm (written ++ (before ++ after)) := by
        refine (perm.trans ?_).cons_inv
        exact (List.perm_middle.append_left written).trans List.perm_middle
      obtain ⟨all, complete, yields⟩ := ih writes
        (fun other among => others other (by
          rw [List.mem_append] at among ⊢
          exact among.imp_right (List.mem_cons_of_mem _))) permRest known distinct rest
      refine ⟨all, complete, (reads_text named _ _ _).bind ?_⟩
      rw [follows.unknown name unknown, whole]
      exact (Yields.pure _).bind yields

/-- A record is read off a node that spells its fields. -/
theorem reads (follows : schema.Follows fields draft result) {node : Node}
    (spelled : SpellsRecord fields node) : schema.decode.Reads node result := by
  obtain ⟨mark, anchor, writes, others, perm⟩ := spelled
  intro aliases path
  let unmet : String → Bool := fun _ => false
  have known : ∀ field ∈ fields, field ∈ fields ∧ unmet field.name = false :=
    fun _ among => ⟨among, rfl⟩
  obtain ⟨all, complete, yields⟩ := follows.yields_decodeFields aliases path writes others perm
    known follows.distinct fun _ among _ => among
  have concludes : Yields (schema.conclude (draft all)) result := by
    rw [Schema.conclude, follows.finish all complete]
    exact .pure result
  rw [← follows.blank] at yields
  exact (Yields.pure _).bind ((yields.bind concludes).placed path mark)

end Schema.Follows

/-! ## What may be absent -/

/-- A node that spells something that may be absent spells it as a mapping, or spells nothing. -/
inductive SpellsOptional {α : Type} (spells : α → Node → Prop) : Option α → Node → Prop
  | absent (mark : Mark) (anchor : Option Nat) {text : String}
      (nothing : text = "" ∨ Value.isNull text = true) :
      SpellsOptional spells none (.scalar mark anchor none text true)
  | present {value : α} {mark : Mark} {anchor : Option Nat} {entries : List (Node × Node)}
      (spelled : spells value (.mapping mark anchor entries)) :
      SpellsOptional spells (some value) (.mapping mark anchor entries)

theorem reads_optional {α : Type} {spells : α → Node → Prop} {decoder : Decoder α}
    {value : Option α} {node : Node} (spelled : SpellsOptional spells value node)
    (reads : ∀ value node, spells value node → decoder.Reads node value) :
    (decodeOptional decoder).Reads node value := by
  intro aliases path
  cases spelled with
  | @absent mark anchor text nothing =>
    rw [← String.isEmpty_iff, ← Bool.or_eq_true_iff] at nothing
    have absent : Yields (isAbsent (.scalar mark anchor none text true)) true := by
      rw [isAbsent, nothing]
      exact .pure true
    exact (Yields.pure _).bind (absent.bind (.pure none))
  | present spelled =>
    exact (Yields.pure _).bind ((Yields.pure false).bind ((reads _ _ spelled _ _).bind (.pure _)))

end SingleRoot.Descriptor
