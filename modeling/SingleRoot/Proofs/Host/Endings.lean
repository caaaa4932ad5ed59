/-
# What a path ends in

The name of a path is found by taking the path apart at its slashes. This module says the same by the
bytes of the path as they are written, without taking it apart. At the end of a path slashes mean nothing,
and neither does a dot after a slash; what stands before them, back to the slash before it, is the last
part of the path. A path has a name exactly if that part is a plain name. Otherwise the part is a double
dot, or there is none.

The bridge between the two is `stretches_eq_cons_iff`: it says how a path begins when its first stretch is
known. The inductions are on the stretches, with that lemma for the step.
-/
import SingleRoot.Proofs.Host.Path

namespace SingleRoot.Host.HostPath

/-! ## Endings by bytes -/

/-- Bytes that mean nothing at the end of a path: slashes, and dots after a slash. -/
inductive Idle : Bytes → Prop
  | done : Idle []
  | slash {rest : Bytes} (later : Idle rest) : Idle (slash :: rest)
  | dot {rest : Bytes} (later : Idle rest) : Idle (slash :: dot ++ rest)

/-- Bytes after which a new part of a path begins. -/
def Opens (front : Bytes) : Prop :=
  front = [] ∨ ∃ upper, front = upper ++ [slash]

/-- The last part of a path, apart from what means nothing after it. -/
def EndsWith (path : HostPath) (part : Bytes) : Prop :=
  ∃ front rest, path.bytes = front ++ part ++ rest ∧ Opens front ∧ Idle rest

/-- A path without any part but a dot at its beginning. -/
def IsBare (path : HostPath) : Prop :=
  ∃ start rest, path.bytes = start ++ rest ∧ (start = [] ∨ start = dot) ∧ Idle rest

/-! ## Taking a path apart -/

variable {bytes part name : Bytes} {before after : List Bytes} {path : HostPath}

theorem notMem_of_mem_stretches (among : part ∈ stretches bytes) : slash ∉ part :=
  fun inside => (mem_of_mem_stretches among inside).2 rfl

theorem stretches_part_append (free : slash ∉ part) (later : Bytes) :
    stretches (part ++ slash :: later) = part :: stretches later := by
  rw [stretches_append_slash, stretches_of_notMem free]
  rfl

/-- The first stretch of a path is all of it, or is followed by a slash and the other stretches. -/
theorem stretches_eq_cons_iff :
    stretches bytes = part :: after ↔
      slash ∉ part ∧
        (after = [] ∧ bytes = part ∨ ∃ later, bytes = part ++ slash :: later ∧
          stretches later = after) := by
  constructor
  · intro split
    have free : slash ∉ part := notMem_of_mem_stretches (split ▸ List.mem_cons_self)
    refine ⟨free, ?_⟩
    by_cases more : slash ∈ bytes
    · obtain ⟨first, later, opens, notBefore⟩ := List.eq_append_cons_of_mem more
      rw [opens, stretches_part_append notBefore] at split
      obtain ⟨same, rest⟩ := List.cons.inj split
      exact .inr ⟨later, same ▸ opens, rest⟩
    · rw [stretches_of_notMem more] at split
      obtain ⟨same, rest⟩ := List.cons.inj split
      exact .inl ⟨rest.symm, same⟩
  · rintro ⟨free, ⟨rfl, rfl⟩ | ⟨later, rfl, rfl⟩⟩
    · exact stretches_of_notMem free
    · exact stretches_part_append free later

/-- Stretches that mean nothing. -/
def Meaningless (parts : List Bytes) : Prop :=
  ∀ part ∈ parts, Component.ofStretch? part = none

theorem ofStretch?_eq_none_iff :
    Component.ofStretch? part = none ↔ part = [] ∨ part = dot := by
  rw [Component.ofStretch?]
  split
  · simpa
  · split <;> simp_all

theorem ofStretch?_eq_parent_iff :
    Component.ofStretch? part = some .parent ↔ part = doubleDot := by
  rw [Component.ofStretch?]
  split
  · rename_i idle
    rcases idle with rfl | rfl <;> decide
  · split <;> simp_all

theorem ofStretch?_eq_name_iff :
    Component.ofStretch? part = some (.name name) ↔
      part = name ∧ name ≠ [] ∧ name ≠ dot ∧ name ≠ doubleDot := by
  rw [Component.ofStretch?]
  split
  · grind
  · split <;> grind

theorem ofStretch?_cases {component : Component} (means : Component.ofStretch? part = some component) :
    component = .parent ∨ ∃ name, component = .name name := by
  rw [Component.ofStretch?] at means
  split at means
  · cases means
  · split at means
    · cases means
      exact .inl rfl
    · cases means
      exact .inr ⟨part, rfl⟩

/-- What means nothing at the end of a path is taken apart into stretches that mean nothing. -/
theorem stretches_of_idle {rest : Bytes} (idle : Idle rest) (free : slash ∉ part) :
    ∃ parts, stretches (part ++ rest) = part :: parts ∧ Meaningless parts := by
  induction idle generalizing part with
  | done =>
    rw [List.append_nil]
    exact ⟨[], stretches_of_notMem free, by simp [Meaningless]⟩
  | @slash rest _ ih =>
    obtain ⟨parts, split, meaningless⟩ := @ih [] (by simp)
    refine ⟨[] :: parts, ?_, List.forall_mem_cons.2 ⟨rfl, meaningless⟩⟩
    rw [stretches_part_append free]
    exact congrArg _ split
  | @dot rest _ ih =>
    obtain ⟨parts, split, meaningless⟩ := @ih Host.dot (by decide)
    refine ⟨Host.dot :: parts, ?_, List.forall_mem_cons.2 ⟨rfl, meaningless⟩⟩
    rw [List.cons_append, stretches_part_append free, split]

/-- Stretches that mean nothing come from bytes that mean nothing. -/
theorem idle_of_stretches (split : stretches bytes = part :: after) (meaningless : Meaningless after) :
    ∃ rest, bytes = part ++ rest ∧ Idle rest := by
  induction after generalizing bytes part with
  | nil =>
    obtain ⟨_, ⟨_, rfl⟩ | ⟨later, _, none⟩⟩ := stretches_eq_cons_iff.1 split
    · exact ⟨[], (List.append_nil _).symm, .done⟩
    · exact absurd none (stretches_ne_nil later)
  | cons next parts ih =>
    obtain ⟨_, ⟨none, _⟩ | ⟨later, rfl, others⟩⟩ := stretches_eq_cons_iff.1 split
    · cases none
    · obtain ⟨means, rest⟩ := List.forall_mem_cons.1 meaningless
      obtain ⟨rest, rfl, idle⟩ := ih others rest
      refine ⟨slash :: (next ++ rest), rfl, ?_⟩
      rcases ofStretch?_eq_none_iff.1 means with rfl | rfl
      · exact .slash idle
      · exact .dot idle

/-- After bytes that open a part the stretches of the path are those of what follows. -/
theorem stretches_of_opens {front : Bytes} (opens : Opens front) (rest : Bytes) :
    ∃ parts, stretches (front ++ rest) = parts ++ stretches rest := by
  rcases opens with rfl | ⟨upper, rfl⟩
  · exact ⟨[], rfl⟩
  · exact ⟨stretches upper, by rw [List.append_assoc, List.singleton_append, stretches_append_slash]⟩

/-- Before a stretch that is not the first, bytes stand that open it. -/
theorem opens_of_stretches (split : stretches bytes = before ++ part :: after) :
    ∃ front rest, bytes = front ++ rest ∧ Opens front ∧ stretches rest = part :: after := by
  induction before generalizing bytes with
  | nil => exact ⟨[], bytes, rfl, .inl rfl, split⟩
  | cons first parts ih =>
    obtain ⟨_, ⟨none, _⟩ | ⟨later, rfl, others⟩⟩ := stretches_eq_cons_iff.1 split
    · simp at none
    · obtain ⟨front, rest, rfl, opens, ends⟩ := ih others
      refine ⟨first ++ slash :: front, rest, by simp, .inr ?_, ends⟩
      rcases opens with rfl | ⟨upper, rfl⟩
      · exact ⟨first, rfl⟩
      · exact ⟨first ++ slash :: upper, by simp⟩

/-- The last part of a path is the stretch after which all stretches mean nothing. -/
theorem endsWith_iff (free : slash ∉ part) :
    path.EndsWith part ↔
      ∃ before after, stretches path.bytes = before ++ part :: after ∧ Meaningless after := by
  constructor
  · rintro ⟨front, rest, spelled, opens, idle⟩
    obtain ⟨after, ends, meaningless⟩ := stretches_of_idle idle free
    obtain ⟨before, split⟩ := stretches_of_opens opens (part ++ rest)
    refine ⟨before, after, ?_, meaningless⟩
    rw [spelled, List.append_assoc, split, ends]
  · rintro ⟨before, after, split, meaningless⟩
    obtain ⟨front, rest, spelled, opens, ends⟩ := opens_of_stretches split
    obtain ⟨idle, rfl, isIdle⟩ := idle_of_stretches ends meaningless
    exact ⟨front, idle, by rw [spelled, List.append_assoc], opens, isIdle⟩

/-- A path is bare if none of its stretches means anything. -/
theorem isBare_iff : path.IsBare ↔ Meaningless (stretches path.bytes) := by
  constructor
  · rintro ⟨start, rest, spelled, bare, idle⟩
    have free : slash ∉ start := by
      rcases bare with rfl | rfl <;> decide
    obtain ⟨after, split, meaningless⟩ := stretches_of_idle idle free
    rw [spelled, split]
    exact List.forall_mem_cons.2 ⟨ofStretch?_eq_none_iff.2 bare, meaningless⟩
  · intro meaningless
    obtain ⟨start, after, split⟩ := List.exists_cons_of_ne_nil (stretches_ne_nil path.bytes)
    rw [split] at meaningless
    obtain ⟨bare, later⟩ := List.forall_mem_cons.1 meaningless
    obtain ⟨rest, spelled, idle⟩ := idle_of_stretches split later
    exact ⟨start, rest, spelled, ofStretch?_eq_none_iff.1 bare, idle⟩

/-! ## The name of a path -/

/-- What the last part of a path stands for. -/
def lastComponent? (path : HostPath) : Option Component :=
  ((stretches path.bytes).filterMap Component.ofStretch?).getLast?

theorem lastComponent?_eq_none_iff : path.lastComponent? = none ↔ path.IsBare := by
  rw [lastComponent?, List.getLast?_eq_none_iff, List.filterMap_eq_nil_iff, isBare_iff, Meaningless]

theorem lastComponent?_eq_some_iff {component : Component} :
    path.lastComponent? = some component ↔
      ∃ part, slash ∉ part ∧ Component.ofStretch? part = some component ∧ path.EndsWith part := by
  rw [lastComponent?, List.getLast?_eq_some_iff]
  constructor
  · rintro ⟨earlier, means⟩
    obtain ⟨former, latter, split, _, means⟩ := List.filterMap_eq_append_iff.1 means
    obtain ⟨skipped, part, after, rfl, _, last, later⟩ := List.filterMap_eq_cons_iff.1 means
    have free : slash ∉ part := by
      apply notMem_of_mem_stretches
      show part ∈ stretches path.bytes
      simp [split]
    refine ⟨part, free, last, (endsWith_iff free).2 ⟨former ++ skipped, after, ?_, ?_⟩⟩
    · rw [split, List.append_assoc]
    · exact List.filterMap_eq_nil_iff.1 later
  · rintro ⟨part, free, last, ends⟩
    obtain ⟨before, after, split, meaningless⟩ := (endsWith_iff free).1 ends
    refine ⟨before.filterMap Component.ofStretch?, ?_⟩
    rw [split, List.filterMap_append, List.filterMap_cons_some last,
      List.filterMap_eq_nil_iff.2 meaningless]

theorem lastComponent?_eq_parent_iff :
    path.lastComponent? = some .parent ↔ path.EndsWith doubleDot := by
  rw [lastComponent?_eq_some_iff]
  simp only [ofStretch?_eq_parent_iff]
  constructor
  · rintro ⟨part, _, rfl, ends⟩
    exact ends
  · intro ends
    exact ⟨doubleDot, by decide, rfl, ends⟩

theorem lastComponent?_eq_name_iff :
    path.lastComponent? = some (.name name) ↔ PlainName name ∧ path.EndsWith name := by
  rw [lastComponent?_eq_some_iff]
  simp only [ofStretch?_eq_name_iff]
  constructor
  · rintro ⟨part, free, ⟨rfl, nonempty, notDot, notDoubleDot⟩, ends⟩
    exact ⟨⟨nonempty, notDot, notDoubleDot, free⟩, ends⟩
  · rintro ⟨⟨nonempty, notDot, notDoubleDot, free⟩, ends⟩
    exact ⟨name, free, ⟨rfl, nonempty, notDot, notDoubleDot⟩, ends⟩

/-- The name of a path is its last part, and never the place where it begins. -/
theorem fileName?_eq (path : HostPath) :
    path.fileName? =
      match path.lastComponent? with
      | some (.name name) => some name
      | _ => none := by
  rw [fileName?, components, List.getLast?_append, lastComponent?]
  cases ((stretches path.bytes).filterMap Component.ofStretch?).getLast? with
  | some component => rfl
  | none =>
    dsimp only [Option.none_or]
    split
    · rename_i named
      split at named
      · cases named
      · split at named <;> cases named
    · rfl

/-- A path has a name exactly if its last part is a plain name. -/
theorem fileName?_eq_some_iff : path.fileName? = some name ↔ PlainName name ∧ path.EndsWith name := by
  rw [← lastComponent?_eq_name_iff, fileName?_eq]
  split <;> simp_all

example : (HostPath.ofText "../drivers//vfio-pci/./").fileName? = some (Text.toBytes "vfio-pci") := by
  decide +kernel

/-- A path has no name exactly if its last part is a double dot, or it has none. -/
theorem fileName?_eq_none_iff : path.fileName? = none ↔ path.EndsWith doubleDot ∨ path.IsBare := by
  rw [← lastComponent?_eq_parent_iff, ← lastComponent?_eq_none_iff, fileName?_eq]
  cases last : path.lastComponent? with
  | none => simp
  | some component =>
    obtain ⟨part, _, means, _⟩ := lastComponent?_eq_some_iff.1 last
    rcases ofStretch?_cases means with rfl | ⟨name, rfl⟩
    · simp
    · simp

end SingleRoot.Host.HostPath
