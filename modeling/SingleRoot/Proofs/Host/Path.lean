/-
# Paths that end in a plain name

Nearly every path that is looked at or written here is a directory continued by the name of an entry.
This module says what that continuation means for a walk: the steps of such a path are the way of the
directory and one more step into the entry. It also says that a path determines the name it ends in,
so that files of different names never have the same path.
-/
import SingleRoot.Host.Walk

namespace SingleRoot.Host

/-- A name that is one component of a path and leads down: not empty, neither of the two dots, and
without a slash. -/
def PlainName (name : Name) : Prop :=
  name ≠ [] ∧ name ≠ dot ∧ name ≠ doubleDot ∧ slash ∉ name

instance (name : Name) : Decidable (PlainName name) :=
  inferInstanceAs (Decidable (_ ∧ _))

namespace HostPath

theorem stretches_ne_nil (bytes : Bytes) : stretches bytes ≠ [] := by
  induction bytes with
  | nil => simp [stretches]
  | cons byte rest ih =>
    by_cases here : byte = slash
    · simp [stretches, here]
    · rw [stretches, if_neg here]
      split <;> simp

/-- A slash ends a stretch, whatever stands around it. -/
theorem stretches_append_slash (front back : Bytes) :
    stretches (front ++ slash :: back) = stretches front ++ stretches back := by
  induction front with
  | nil => simp [stretches]
  | cons byte rest ih =>
    by_cases here : byte = slash
    · simp [stretches, here, ih]
    · obtain ⟨first, others, split⟩ := List.exists_cons_of_ne_nil (stretches_ne_nil rest)
      simp [stretches, here, ih, split]

theorem stretches_of_notMem {bytes : Bytes} (free : slash ∉ bytes) :
    stretches bytes = [bytes] := by
  induction bytes with
  | nil => rfl
  | cons byte rest ih =>
    have here : byte ≠ slash := fun same => free (by simp [same])
    have later : slash ∉ rest := fun among => free (by simp [among])
    simp [stretches, here, ih later]

/-- The steps of a path apart from a slash at its end. -/
def way (path : HostPath) : List Step :=
  (stretches path.bytes).filterMap Step.ofStretch?

/-- A walk goes the way of its path and then may have to settle. -/
theorem steps_eq (path : HostPath) : path.steps = path.way ∨ path.steps = path.way ++ [.settle] := by
  rw [steps]
  split
  · exact .inr rfl
  · exact .inl rfl

variable {name : Name}

theorem ofStretch?_of_plain (plain : PlainName name) : Step.ofStretch? name = some (.enter name) := by
  obtain ⟨nonempty, notDot, notDoubleDot, _⟩ := plain
  simp [Step.ofStretch?, nonempty, notDot, notDoubleDot]

theorem not_isAbsolute_of_plain (plain : PlainName name) : (⟨name⟩ : HostPath).isAbsolute = false := by
  obtain ⟨nonempty, _, _, free⟩ := plain
  cases name with
  | nil => exact absurd rfl nonempty
  | cons byte rest =>
    have here : byte ≠ slash := fun same => free (by simp [same])
    simp [isAbsolute, here]

/-- Continuing a path by a plain name puts a slash between the two where there is none. -/
theorem bytes_join (base : HostPath) (plain : PlainName name) :
    (base.join ⟨name⟩).bytes = base.bytes ++ name ∧
        (base.bytes = [] ∨ ∃ front, base.bytes = front ++ [slash]) ∨
      (base.bytes ≠ [] ∧ (base.join ⟨name⟩).bytes = base.bytes ++ slash :: name) := by
  rcases List.eq_nil_or_concat base.bytes with empty | ⟨front, last, ends⟩
  · simp [join, empty]
  · have filled : base.bytes ≠ [] := by simp [ends]
    by_cases closed : last = slash
    · left
      simp [join, not_isAbsolute_of_plain plain, ends, closed]
    · right
      simp [join, not_isAbsolute_of_plain plain, ends, closed]

/-- The way of a path that is continued by a plain name is longer by one entry. -/
theorem way_join (base : HostPath) (plain : PlainName name) :
    (base.join ⟨name⟩).way = base.way ++ [.enter name] := by
  have entered := ofStretch?_of_plain plain
  have single := stretches_of_notMem plain.2.2.2
  have blank : Step.ofStretch? [] = none := rfl
  rcases bytes_join base plain with ⟨joined, empty | ⟨front, ends⟩⟩ | ⟨_, joined⟩
  · simp [way, joined, empty, single, entered, stretches, blank]
  · simp [way, joined, ends, stretches_append_slash, single, entered, stretches, blank]
  · simp [way, joined, stretches_append_slash, single, entered]

/-- A path that ends in a plain name does not ask its walk to settle. -/
theorem steps_join (base : HostPath) (plain : PlainName name) :
    (base.join ⟨name⟩).steps = base.way ++ [.enter name] := by
  obtain ⟨front, last, ends⟩ :=
    (List.eq_nil_or_concat name).resolve_left plain.1
  have open_ : last ≠ slash := fun same => plain.2.2.2 (by simp [ends, same])
  have notClosed : (base.join ⟨name⟩).bytes.getLast? ≠ some slash := by
    rcases bytes_join base plain with ⟨joined, _⟩ | ⟨_, joined⟩
    · rw [joined]
      simp [ends, open_]
    · rw [joined]
      simp [ends, open_, List.getLast?_cons]
  have steps : (base.join ⟨name⟩).steps = (base.join ⟨name⟩).way := by
    simp [HostPath.steps, way, notClosed]
  rw [steps, way_join base plain]

theorem isAbsolute_join (base : HostPath) (plain : PlainName name) :
    (base.join ⟨name⟩).isAbsolute = base.isAbsolute := by
  have relative : name.head? ≠ some slash := by
    simpa [isAbsolute] using not_isAbsolute_of_plain plain
  rcases bytes_join base plain with ⟨joined, empty | ⟨front, ends⟩⟩ | ⟨filled, joined⟩
  · simp [isAbsolute, joined, empty, relative]
  · simp [isAbsolute, joined, ends]
  · obtain ⟨byte, rest, split⟩ := List.exists_cons_of_ne_nil filled
    simp [isAbsolute, joined, split]

/-- A path determines the plain name it ends in. -/
theorem eq_of_join_eq {first second : HostPath} {other : Name} (plain : PlainName name)
    (plainOther : PlainName other) (same : first.join ⟨name⟩ = second.join ⟨other⟩) :
    name = other := by
  have ways := congrArg way same
  rw [way_join first plain, way_join second plainOther] at ways
  have lasts := congrArg List.getLast? ways
  simpa using lasts

theorem length_lt_join (base : HostPath) (plain : PlainName name) :
    base.bytes.length < (base.join ⟨name⟩).bytes.length := by
  have filled : 0 < name.length := List.length_pos_iff.2 plain.1
  rcases bytes_join base plain with ⟨joined, _⟩ | ⟨_, joined⟩
  · simpa [joined] using filled
  · simp [joined]

/-- Plain names of one length continue a path to one length. -/
theorem length_join_eq {other : Name} (base : HostPath) (plain : PlainName name)
    (plainOther : PlainName other) (same : name.length = other.length) :
    (base.join ⟨name⟩).bytes.length = (base.join ⟨other⟩).bytes.length := by
  simp only [join, not_isAbsolute_of_plain plain, not_isAbsolute_of_plain plainOther]
  split
  · exact same
  split
  · simp [same]
  · simp [same]

theorem zero_mem_join (base : HostPath) (plain : PlainName name) :
    0 ∈ (base.join ⟨name⟩).bytes ↔ 0 ∈ base.bytes ∨ 0 ∈ name := by
  have separate : (0 : UInt8) ≠ slash := by decide
  rcases bytes_join base plain with ⟨joined, _⟩ | ⟨_, joined⟩
  · simp [joined]
  · simp [joined, separate]

/-! ## Components -/

theorem mem_of_mem_stretches {bytes stretch : Bytes} {byte : UInt8}
    (among : stretch ∈ stretches bytes) (inside : byte ∈ stretch) : byte ∈ bytes ∧ byte ≠ slash := by
  induction bytes generalizing stretch with
  | nil =>
    cases List.mem_singleton.1 among
    cases inside
  | cons first rest ih =>
    rw [stretches] at among
    by_cases here : first = slash
    · rw [if_pos here] at among
      rcases List.mem_cons.1 among with rfl | among
      · cases inside
      · exact ⟨List.mem_cons_of_mem _ (ih among inside).1, (ih among inside).2⟩
    · rw [if_neg here] at among
      obtain ⟨opening, others, split⟩ := List.exists_cons_of_ne_nil (stretches_ne_nil rest)
      rw [split] at among
      rw [split] at ih
      rcases List.mem_cons.1 among with rfl | among
      · rcases List.mem_cons.1 inside with rfl | inside
        · exact ⟨List.mem_cons_self, here⟩
        · have later := ih List.mem_cons_self inside
          exact ⟨List.mem_cons_of_mem _ later.1, later.2⟩
      · have later := ih (List.mem_cons_of_mem _ among) inside
        exact ⟨List.mem_cons_of_mem _ later.1, later.2⟩

/-- The name that a path ends in is a stretch of it, and a plain one. -/
theorem plainName_of_fileName? {path : HostPath} (ends : path.fileName? = some name) :
    PlainName name ∧ ∀ byte ∈ name, byte ∈ path.bytes := by
  have last : path.components.getLast? = some (.name name) := by
    rw [fileName?] at ends
    split at ends
    · cases ends
      assumption
    · cases ends
  have among := List.mem_of_getLast? last
  rw [components, List.mem_append] at among
  have stretch : ∃ stretch ∈ stretches path.bytes,
      Component.ofStretch? stretch = some (.name name) := by
    rcases among with among | among
    · split at among
      · simp at among
      · split at among
        · simp at among
        · simp at among
    · exact List.mem_filterMap.1 among
  obtain ⟨stretch, there, means⟩ := stretch
  rw [Component.ofStretch?] at means
  split at means
  · cases means
  rename_i filled
  split at means
  · cases means
  rename_i other
  cases means
  obtain ⟨nonempty, notDot⟩ := not_or.1 filled
  refine ⟨⟨nonempty, notDot, other, ?_⟩, ?_⟩
  · intro inside
    exact (mem_of_mem_stretches there inside).2 rfl
  · intro byte inside
    exact (mem_of_mem_stretches there inside).1

/-- Continuing a path by a plain name does not change whether it begins with a dot. -/
theorem head?_stretches_join (base : HostPath) (plain : PlainName name) :
    (stretches (base.join ⟨name⟩).bytes).head? = some dot ↔
      (stretches base.bytes).head? = some dot := by
  have single := stretches_of_notMem plain.2.2.2
  have head {bytes : Bytes} (later : List Bytes) :
      (stretches bytes ++ later).head? = (stretches bytes).head? := by
    obtain ⟨first, others, split⟩ := List.exists_cons_of_ne_nil (stretches_ne_nil bytes)
    rw [split]
    rfl
  rcases bytes_join base plain with ⟨joined, empty | ⟨front, ends⟩⟩ | ⟨_, joined⟩
  · have other : name ≠ dot := plain.2.1
    have nothing : ([] : Bytes) ≠ dot := by decide
    simp [joined, empty, single, stretches, other, nothing]
  · rw [joined, ends, List.append_assoc, List.singleton_append, stretches_append_slash, head,
      stretches_append_slash, head]
  · rw [joined, stretches_append_slash, head]

/-- The components of a path that is continued by a plain name are those of the path and the name. -/
theorem components_join (base : HostPath) (plain : PlainName name) :
    (base.join ⟨name⟩).components = base.components ++ [.name name] := by
  have component : Component.ofStretch? name = some (.name name) := by
    simp [Component.ofStretch?, plain.1, plain.2.1, plain.2.2.1]
  have single := stretches_of_notMem plain.2.2.2
  have blank : Component.ofStretch? [] = none := rfl
  have parts : (stretches (base.join ⟨name⟩).bytes).filterMap Component.ofStretch? =
      (stretches base.bytes).filterMap Component.ofStretch? ++ [.name name] := by
    rcases bytes_join base plain with ⟨joined, empty | ⟨front, ends⟩⟩ | ⟨_, joined⟩
    · simp [joined, empty, single, component, stretches, blank]
    · simp [joined, ends, stretches_append_slash, single, component, stretches, blank]
    · simp [joined, stretches_append_slash, single, component]
  rw [components, components, parts, isAbsolute_join base plain, List.append_assoc]
  simp only [head?_stretches_join base plain]

/-- A plain name is a path of one component. -/
theorem components_of_plain (plain : PlainName name) :
    (⟨name⟩ : HostPath).components = [.name name] := by
  have joined : (⟨[]⟩ : HostPath).join ⟨name⟩ = ⟨name⟩ := by
    simp [join]
  rw [← joined, components_join ⟨[]⟩ plain]
  rfl

end HostPath
end SingleRoot.Host
