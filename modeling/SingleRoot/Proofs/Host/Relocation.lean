/-
# The same tree at another place

A tree that links do not leave can stand at several places, and the host gives the same answers about it
wherever it stands. A `Site` is a place together with a path that leads there, and two sites share their
tree, `Shares`, if the same nodes stand below both. Around the sites everything may differ, and so may the
working directories and the order in which directories list their entries.

A path down from a site is the path of the site continued by some names, `descend`. Its walk goes straight
to the site and takes the names from there, `walk_descend`. From there on the walks on the two sides go the
same way, `Shares.walk`, because a step depends only on what stands in the tree, `walkFrom_opens`, and no
step leaves the tree. So what the host reads, lists and resolves at the end corresponds, and what it writes
goes to the same place in the tree.
-/
import SingleRoot.Host.Layout
import SingleRoot.Proofs.Host.Enclosure
import SingleRoot.Proofs.Host.Listing

namespace SingleRoot.Host

/-! ## Paths down from a root -/

namespace HostPath

/-- The path down from a root through some entries. -/
def descend (root : HostPath) (names : List Name) : HostPath :=
  names.foldl (fun base name => base.join ⟨name⟩) root

/-- The path with which a root is replaced by another. A path that does not lead below the root stays as
it is. -/
def rebase (root other path : HostPath) : HostPath :=
  let front := (root.join ⟨[]⟩).bytes
  if front.isPrefixOf path.bytes then other.join ⟨path.bytes.drop front.length⟩ else path

variable {root : HostPath} {names : List Name} {name : Name}

theorem descend_cons (root : HostPath) (name : Name) (names : List Name) :
    root.descend (name :: names) = (root.join ⟨name⟩).descend names :=
  rfl

theorem descend_concat (root : HostPath) (names : List Name) (name : Name) :
    root.descend (names ++ [name]) = (root.descend names).join ⟨name⟩ := by
  simp [descend]

theorem way_descend (plain : ∀ name ∈ names, PlainName name) :
    (root.descend names).way = root.way ++ entering names := by
  induction names generalizing root with
  | nil => simp [descend, entering]
  | cons name names ih =>
    obtain ⟨here, later⟩ := List.forall_mem_cons.1 plain
    have ways := @ih (root.join ⟨name⟩) later
    rw [way_join root here, List.append_assoc] at ways
    exact ways

/-- A path down through plain names does not ask its walk to settle. -/
theorem steps_descend (filled : names ≠ []) (plain : ∀ name ∈ names, PlainName name) :
    (root.descend names).steps = root.way ++ entering names := by
  obtain ⟨front, last, rfl⟩ : ∃ front last, names = front ++ [last] :=
    ⟨_, _, (List.dropLast_concat_getLast filled).symm⟩
  have plainFront : ∀ name ∈ front, PlainName name :=
    fun name among => plain name (List.mem_append_left _ among)
  have plainLast : PlainName last := plain last (by simp)
  rw [descend_concat, steps_join _ plainLast, way_descend plainFront, entering, entering,
    List.map_append, List.append_assoc]
  rfl

theorem isAbsolute_descend (plain : ∀ name ∈ names, PlainName name) :
    (root.descend names).isAbsolute = root.isAbsolute := by
  induction names generalizing root with
  | nil => rfl
  | cons name names ih =>
    obtain ⟨here, later⟩ := List.forall_mem_cons.1 plain
    exact (@ih (root.join ⟨name⟩) later).trans (isAbsolute_join root here)

theorem zero_mem_descend (plain : ∀ name ∈ names, PlainName name) :
    0 ∈ (root.descend names).bytes ↔ 0 ∈ root.bytes ∨ ∃ name ∈ names, 0 ∈ name := by
  induction names generalizing root with
  | nil => simp [descend]
  | cons name names ih =>
    obtain ⟨here, later⟩ := List.forall_mem_cons.1 plain
    rw [descend_cons, ih later, zero_mem_join root here, or_assoc]
    simp

theorem length_le_descend (plain : ∀ name ∈ names, PlainName name) :
    root.bytes.length ≤ (root.descend names).bytes.length := by
  induction names generalizing root with
  | nil => exact Nat.le_refl _
  | cons name names ih =>
    obtain ⟨here, later⟩ := List.forall_mem_cons.1 plain
    exact Nat.le_trans (Nat.le_of_lt (length_lt_join root here)) (ih later)

/-- Of a path that is not too long, the names decide whether the host refuses it. -/
theorem refusal?_descend (accepted : root.refusal? = none) (plain : ∀ name ∈ names, PlainName name)
    (fits : (root.descend names).bytes.length ≤ longestPath) :
    (root.descend names).refusal? = if ∃ name ∈ names, 0 ∈ name then some .nulInPath else none := by
  obtain ⟨clean, filled, _⟩ := refusal?_eq_none_iff.1 accepted
  have zeros := @zero_mem_descend root names plain
  split
  · rename_i zero
    rw [refusal?, if_pos (by simpa using zeros.2 (.inr zero))]
  · rename_i noZero
    refine refusal?_eq_none_iff.2 ⟨fun zero => (zeros.1 zero).elim clean noZero, ?_, fits⟩
    have longer := @length_le_descend root names plain
    intro empty
    rw [empty] at longer
    exact filled (List.length_eq_zero_iff.1 (Nat.le_zero.1 longer))

/-! ## Paths below another root -/

/-- A path that has been continued by a plain name does not end in a slash. -/
theorem getLast?_join_ne (base : HostPath) (plain : PlainName name) :
    (base.join ⟨name⟩).bytes.getLast? ≠ some slash := by
  obtain ⟨front, last, ends⟩ := (List.eq_nil_or_concat name).resolve_left plain.1
  have open_ : last ≠ slash := fun same => plain.2.2.2 (by simp [ends, same])
  rcases bytes_join base plain with ⟨joined, _⟩ | ⟨_, joined⟩
  · rw [joined]
    simp [ends, open_]
  · rw [joined]
    simp [ends, open_, List.getLast?_cons]

/-- What stands behind the root in the bytes of a path down from it. -/
def trail : List Name → Bytes
  | [] => []
  | name :: names => name ++ names.flatMap (slash :: ·)

/-- A path that does not end in a slash is continued by a slash and a name. -/
theorem bytes_descend_of_open (filled : root.bytes ≠ []) (opens : root.bytes.getLast? ≠ some slash)
    (plain : ∀ name ∈ names, PlainName name) :
    (root.descend names).bytes = root.bytes ++ names.flatMap (slash :: ·) := by
  induction names generalizing root with
  | nil => simp [descend]
  | cons name names ih =>
    obtain ⟨here, later⟩ := List.forall_mem_cons.1 plain
    have joined : (root.join ⟨name⟩).bytes = root.bytes ++ slash :: name := by
      obtain ⟨_, empty | ⟨front, closed⟩⟩ | ⟨_, joined⟩ := bytes_join root here
      · exact absurd empty filled
      · simp [closed] at opens
      · exact joined
    rw [descend_cons, ih (by simp [joined]) (getLast?_join_ne root here) later, joined]
    simp

theorem bytes_join_nil {more : Bytes} (filled : root.bytes ≠ [])
    (relative : (⟨more⟩ : HostPath).isAbsolute = false) :
    (root.join ⟨more⟩).bytes = (root.join ⟨[]⟩).bytes ++ more := by
  have blank : (⟨[]⟩ : HostPath).isAbsolute = false := rfl
  by_cases closed : root.bytes.getLast? = some slash
  · simp [join, filled, relative, blank, closed]
  · simp [join, filled, relative, blank, closed]

/-- The bytes of a path down from a root are those of the root, a slash, and the trail. -/
theorem bytes_descend (filled : root.bytes ≠ []) (some_ : names ≠ [])
    (plain : ∀ name ∈ names, PlainName name) :
    (root.descend names).bytes = (root.join ⟨[]⟩).bytes ++ trail names := by
  obtain ⟨name, names, rfl⟩ := List.exists_cons_of_ne_nil some_
  obtain ⟨here, later⟩ := List.forall_mem_cons.1 plain
  have longer := length_lt_join root here
  have filledToo : (root.join ⟨name⟩).bytes ≠ [] := fun empty => by simp [empty] at longer
  rw [descend_cons, bytes_descend_of_open filledToo (getLast?_join_ne root here) later,
    bytes_join_nil filled (not_isAbsolute_of_plain here), trail, List.append_assoc]

/-- Below a root every path down is replaced by the one with the same names below the other root. -/
theorem rebase_descend {other : HostPath} (filled : root.bytes ≠ []) (filledToo : other.bytes ≠ [])
    (some_ : names ≠ []) (plain : ∀ name ∈ names, PlainName name) :
    rebase root other (root.descend names) = other.descend names := by
  have bytes := bytes_descend filled some_ plain
  have bytesToo := bytes_descend filledToo some_ plain
  have relative : (⟨trail names⟩ : HostPath).isAbsolute = false := by
    obtain ⟨name, names, rfl⟩ := List.exists_cons_of_ne_nil some_
    have here := plain name List.mem_cons_self
    obtain ⟨byte, rest, rfl⟩ := List.exists_cons_of_ne_nil here.1
    exact (not_isAbsolute_of_plain here : (⟨byte :: rest⟩ : HostPath).isAbsolute = false)
  rw [rebase]
  simp only [bytes, List.isPrefixOf_iff_prefix, List.prefix_append, if_true, List.drop_left]
  rw [← bytes_join_nil filledToo relative] at bytesToo
  cases joined : other.join ⟨trail names⟩
  cases descends : other.descend names
  simp_all

end HostPath

/-! ## Answers that correspond -/

/-- Two answers correspond: both have failed, the one for the reason of the other, or both have given
values that go together. -/
inductive Corresponds {ε ε' α β : Type} (reason : ε → ε') (values : α → β → Prop) :
    Except ε α → Except ε' β → Prop
  | error (error : ε) : Corresponds reason values (.error error) (.error (reason error))
  | ok {one : α} {other : β} (same : values one other) :
      Corresponds reason values (.ok one) (.ok other)

namespace Corresponds

variable {ε ε' δ δ' α β γ γ' : Type} {reason : ε → ε'} {values : α → β → Prop}
  {one : Except ε α} {other : Except ε' β}

theorem of_reason {failure : ε} {failureToo : ε'} (same : reason failure = failureToo) :
    Corresponds reason values (.error failure) (.error failureToo) :=
  same ▸ .error failure

theorem map {further : γ → γ' → Prop} {f : α → γ} {g : β → γ'}
    (keeps : ∀ {a b}, values a b → further (f a) (g b)) (same : Corresponds reason values one other) :
    Corresponds reason further (one.map f) (other.map g) := by
  cases same with
  | error error => exact .error error
  | ok same => exact .ok (keeps same)

theorem bind {further : γ → γ' → Prop} {rest : α → Except ε γ} {restToo : β → Except ε' γ'}
    (same : Corresponds reason values one other)
    (later : ∀ {a b}, one = .ok a → values a b → Corresponds reason further (rest a) (restToo b)) :
    Corresponds reason further (one >>= rest) (other >>= restToo) := by
  cases same with
  | error error => exact .error error
  | ok same => exact later rfl same

theorem mapError {reasonToo : δ → δ'} {f : ε → δ} {g : ε' → δ'}
    (commutes : ∀ error, reasonToo (f error) = g (reason error))
    (same : Corresponds reason values one other) :
    Corresponds reasonToo values (one.mapError f) (other.mapError g) := by
  cases same with
  | error error =>
    rw [mapError_error, mapError_error, ← commutes]
    exact .error _
  | ok same => exact .ok same

theorem exists_of_ok {value : α} (same : Corresponds reason values (.ok value) other) :
    ∃ valueToo, other = .ok valueToo ∧ values value valueToo := by
  cases same with
  | ok same => exact ⟨_, rfl, same⟩

/-- Answers without anything to replace are the same. -/
theorem eq {one other : Except ε α} (same : Corresponds id Eq one other) : one = other := by
  cases same with
  | error error => rfl
  | ok same => rw [same]

theorem refl (answer : Except ε α) : Corresponds id Eq answer answer := by
  cases answer with
  | error error => exact .error error
  | ok value => exact .ok rfl

end Corresponds

/-! ## Two sites of one tree -/

/-- A directory by its path and by its place. -/
structure Site where
  root : HostPath
  place : Location

namespace Site

/-- The directory of a site is a plain one: it can be searched, and its path leads there without the help
of a link. -/
structure IsPlain (site : Site) (files : FileSystem) (permissions : Permissions) : Prop where
  found : files.find site.root = .ok (site.place, .directory permissions)
  direct : files.arrive linkLimit (files.start site.root) site.root.way = .ok (site.place, linkLimit)
  searchable : files.caller.may permissions.search = true

/-- The same enclosed tree stands at two sites, with the same damage. What stands around the sites is
arbitrary, and so is the order in which directories are listed. -/
structure Shares (here there : Site) (files other : FileSystem) : Prop where
  caller : other.caller = files.caller
  /-- Both directories are plain, and if one can be written to then so can the other. -/
  roots : ∃ permissions permissionsToo, here.IsPlain files permissions ∧
    there.IsPlain other permissionsToo ∧
      files.caller.may permissionsToo.write = files.caller.may permissions.write
  content : ∀ below, below ≠ [] →
    other.tree.node? (below ++ there.place) = files.tree.node? (below ++ here.place)
  damage : ∀ below, below ≠ [] → ∀ name,
    other.tree.damage? (below ++ there.place) name = files.tree.damage? (below ++ here.place) name
  enclosed : files.Enclosed here.place

/-- Two walks have ended at the same place in the tree, or at the two sites. -/
inductive Lands (here there : Site) : Landing → Landing → Prop
  | root (permissions permissionsToo : Permissions) :
      Lands here there (.present here.place (.directory permissions))
        (.present there.place (.directory permissionsToo))
  | present {below : List Name} (filled : below ≠ []) (node : Node) :
      Lands here there (.present (below ++ here.place) node) (.present (below ++ there.place) node)
  | vacant (below : List Name) (name : Name) :
      Lands here there (.vacant (below ++ here.place) name) (.vacant (below ++ there.place) name)

end Site

namespace FileSystem

/-- Whether steps can be taken from a location; there must be a directory, and the answer is whether it
can be searched. -/
def opens (files : FileSystem) (location : Location) : Except Errno Bool :=
  match files.tree.node? location with
  | some (.directory permissions) => .ok (files.caller.may permissions.search)
  | some _ => .error .notDirectory
  | none => .error .noSuchEntry

variable {files : FileSystem} {manner : Manner}

/-- A step of a walk depends on whether steps can be taken from its location, and on what stands in the
entry that it enters. -/
theorem walkFrom_opens (detour : Location → List Step → Except Errno Landing)
    (location : Location) (step : Step) (rest : List Step) :
    files.walkFrom manner detour location (step :: rest) =
      match files.opens location with
      | .error errno => .error errno
      | .ok searchable =>
        match step with
        | .settle => files.walkFrom manner detour location rest
        | .stay =>
          if searchable then files.walkFrom manner detour location rest else .error .accessDenied
        | .ascend =>
          if searchable then files.walkFrom manner detour location.tail rest
          else .error .accessDenied
        | .enter name =>
          if !searchable then .error .accessDenied
          else if manner.create && rest == [.settle] then .error .isDirectory
          else if longestName < name.length then .error .nameTooLong
          else match files.tree.node? (name :: location) with
            | none => if rest.isEmpty then .ok (.vacant location name) else .error .noSuchEntry
            | some (.link target) =>
              if rest.isEmpty && !manner.followLast then
                .ok (.present (name :: location) (.link target))
              else detour (if target.isAbsolute then [] else location) (target.steps ++ rest)
            | some _ => files.walkFrom manner detour (name :: location) rest := by
  rw [walkFrom, opens]
  cases files.tree.node? location with
  | none => rfl
  | some node => cases node <;> rfl

theorem stepFrom_opens (location : Location) (step : Step) :
    files.stepFrom location step =
      match files.opens location with
      | .error errno => .error errno
      | .ok searchable =>
        match step with
        | .settle => .ok (.at location)
        | .stay => if searchable then .ok (.at location) else .error .accessDenied
        | .ascend => if searchable then .ok (.at location.tail) else .error .accessDenied
        | .enter name =>
          if !searchable then .error .accessDenied
          else if longestName < name.length then .error .nameTooLong
          else match files.tree.node? (name :: location) with
            | none => .error .noSuchEntry
            | some (.link target) =>
              .ok (.detour (if target.isAbsolute then [] else location) target.steps)
            | some _ => .ok (.at (name :: location)) := by
  rw [stepFrom, opens]
  cases files.tree.node? location with
  | none => rfl
  | some node => cases node <;> rfl

end FileSystem

namespace Site.IsPlain

variable {site : Site} {files : FileSystem} {permissions : Permissions} {names : List Name}
  {manner : Manner}

theorem start_descend (plainNames : ∀ name ∈ names, PlainName name) :
    files.start (site.root.descend names) = files.start site.root := by
  rw [FileSystem.start, FileSystem.start, HostPath.isAbsolute_descend plainNames]

/-- The walk of a path down from a plain directory takes its names from there. -/
theorem walk_descend (plain : site.IsPlain files permissions) (filled : names ≠ [])
    (plainNames : ∀ name ∈ names, PlainName name) :
    files.walk manner linkLimit (files.start (site.root.descend names))
        (site.root.descend names).steps =
      files.walk manner linkLimit site.place (entering names) := by
  have unsettled : (manner.create && entering names == [.settle]) = false := by
    cases names with
    | nil => exact absurd rfl filled
    | cons name names => simp [entering]
  rw [start_descend plainNames, HostPath.steps_descend filled plainNames,
    FileSystem.walk_append (by simpa [entering] using filled) unsettled, plain.direct]
  rfl

/-- In an enclosed tree a path down leads below the site. -/
theorem below_of_find (plain : site.IsPlain files permissions) (enclosed : files.Enclosed site.place)
    (filled : names ≠ []) (plainNames : ∀ name ∈ names, PlainName name) {location : Location}
    {node : Node} (found : files.find (site.root.descend names) = .ok (location, node)) :
    Below site.place location := by
  obtain ⟨_, ⟨links, arrives⟩, _⟩ := FileSystem.find_eq_ok_iff.1 found
  rw [start_descend plainNames, HostPath.steps_descend filled plainNames, FileSystem.arrive_append,
    plain.direct] at arrives
  exact @FileSystem.Enclosed.below_of_arrive_entering _ _ _ _ _ [] enclosed (Nat.le_refl _) _ filled
    plainNames (List.forall_mem_nil _) arrives

/-- A directory stays plain when a file is written. -/
theorem of_fileWritten {after : FileSystem} {written : Location} {content : Bytes}
    (plain : site.IsPlain files permissions) (change : files.FileWritten written content after) :
    site.IsPlain after permissions := by
  refine ⟨change.find_directory_iff.2 plain.found, ?_, change.caller ▸ plain.searchable⟩
  rw [change.start]
  exact change.arrive plain.direct

end Site.IsPlain

namespace Site.Shares

variable {here there : Site} {files other : FileSystem} {manner : Manner} {links : Nat}
  {below : List Name} {steps : List Step}

theorem opens_eq (shares : Shares here there files other) (below : List Name) :
    other.opens (below ++ there.place) = files.opens (below ++ here.place) := by
  cases below with
  | nil =>
    obtain ⟨permissions, permissionsToo, plain, plainToo, _⟩ := shares.roots
    obtain ⟨_, _, stands⟩ := FileSystem.find_eq_ok_iff.1 plain.found
    obtain ⟨_, _, standsToo⟩ := FileSystem.find_eq_ok_iff.1 plainToo.found
    simp [FileSystem.opens, stands, standsToo, plain.searchable, plainToo.searchable]
  | cons name below =>
    rw [FileSystem.opens, FileSystem.opens, shares.content _ (by simp), shares.caller]

theorem walkFrom (shares : Shares here there files other)
    {former latter : Location → List Step → Except Errno Landing}
    {inner : Location → List Step → Bool}
    (detours : ∀ {below steps}, inner (below ++ here.place) steps = true →
      Corresponds id (Lands here there) (former (below ++ here.place) steps)
        (latter (below ++ there.place) steps))
    (stays : files.staysFrom here.place inner (below ++ here.place) steps = true) :
    Corresponds id (Lands here there) (files.walkFrom manner former (below ++ here.place) steps)
      (other.walkFrom manner latter (below ++ there.place) steps) := by
  induction steps generalizing below with
  | nil =>
    rw [FileSystem.walkFrom, FileSystem.walkFrom]
    cases below with
    | nil =>
      obtain ⟨permissions, permissionsToo, plain, plainToo, _⟩ := shares.roots
      obtain ⟨_, _, stands⟩ := FileSystem.find_eq_ok_iff.1 plain.found
      obtain ⟨_, _, standsToo⟩ := FileSystem.find_eq_ok_iff.1 plainToo.found
      rw [List.nil_append, List.nil_append, stands, standsToo]
      exact .ok (.root permissions permissionsToo)
    | cons name below =>
      rw [shares.content _ (by simp)]
      cases files.tree.node? (name :: below ++ here.place) with
      | none => exact .error _
      | some node => exact .ok (.present (by simp) node)
  | cons step rest ih =>
    rw [FileSystem.walkFrom_opens, FileSystem.walkFrom_opens, shares.opens_eq below]
    rw [FileSystem.staysFrom, Bool.and_eq_true, Bool.not_eq_true', FileSystem.stepFrom_opens] at stays
    obtain ⟨keeps, stays⟩ := stays
    cases opens : files.opens (below ++ here.place) with
    | error errno => exact .error _
    | ok searchable =>
      rw [opens] at stays
      cases step with
      | settle => exact ih stays
      | stay =>
        cases searchable with
        | false => exact .error _
        | true => exact ih stays
      | ascend =>
        cases searchable with
        | false => exact .error _
        | true =>
          cases below with
          | nil => simp at keeps
          | cons name below => exact ih stays
      | enter name =>
        have entry := shares.content (name :: below) (by simp)
        rw [List.cons_append, List.cons_append] at entry
        cases searchable with
        | false => exact .error _
        | true =>
          simp only [Bool.not_true, Bool.false_eq_true, if_false] at stays ⊢
          split
          · exact .error _
          split
          · exact .error _
          rename_i short
          rw [if_neg short] at stays
          rw [entry]
          cases stands : files.tree.node? (name :: (below ++ here.place)) with
          | none =>
            dsimp only
            split
            · exact .ok (.vacant below name)
            · exact .error _
          | some node =>
            rw [stands] at stays
            cases node with
            | directory permissions => exact @ih (name :: below) stays
            | file permissions content => exact @ih (name :: below) stays
            | link target =>
              have relative := shares.enclosed.relative name below target stands
              simp only [relative, Bool.false_eq_true, if_false] at stays ⊢
              split
              · exact .ok (@Lands.present here there (name :: below) (by simp) (.link target))
              · exact detours stays

theorem walk (shares : Shares here there files other)
    (stays : files.stays here.place links (below ++ here.place) steps = true) :
    Corresponds id (Lands here there) (files.walk manner links (below ++ here.place) steps)
      (other.walk manner links (below ++ there.place) steps) := by
  induction links generalizing below steps with
  | zero => exact shares.walkFrom (fun _ => .error _) stays
  | succ links ih => exact shares.walkFrom ih stays

variable {names : List Name}

/-- The paths of the same names below two roots are accepted by both hosts. -/
structure Fits (here there : Site) (names : List Name) : Prop where
  filled : names ≠ []
  plain : ∀ name ∈ names, PlainName name
  short : (here.root.descend names).bytes.length ≤ longestPath
  shortToo : (there.root.descend names).bytes.length ≤ longestPath

/-- A path down from one site leads where the path of the same names leads from the other. -/
theorem resolve (shares : Shares here there files other) (fits : Fits here there names) :
    Corresponds id (Lands here there) (files.resolve manner (here.root.descend names))
      (other.resolve manner (there.root.descend names)) := by
  obtain ⟨permissions, permissionsToo, plain, plainToo, _⟩ := shares.roots
  have accepted := (FileSystem.find_eq_ok_iff.1 plain.found).1
  have acceptedToo := (FileSystem.find_eq_ok_iff.1 plainToo.found).1
  rw [FileSystem.resolve_eq, FileSystem.resolve_eq,
    HostPath.refusal?_descend accepted fits.plain fits.short,
    HostPath.refusal?_descend acceptedToo fits.plain fits.shortToo]
  have stays := @FileSystem.Enclosed.stays_entering _ _ _ [] shares.enclosed (Nat.le_refl _) _
    fits.plain (List.forall_mem_nil _)
  split
  · exact .error _
  · rw [plain.walk_descend fits.filled fits.plain, plainToo.walk_descend fits.filled fits.plain]
    exact (shares.walk stays).mapError fun _ => rfl

/-! ## What is found -/

/-- What a path leads to is below the site, and the same stands there on the other side. -/
theorem find (shares : Shares here there files other) (fits : Fits here there names) :
    Corresponds id
      (fun one two => ∃ below, below ≠ [] ∧ (∀ name ∈ below, PlainName name) ∧
        one.1 = below ++ here.place ∧ two.1 = below ++ there.place ∧ one.2 = two.2)
      (files.find (here.root.descend names)) (other.find (there.root.descend names)) := by
  obtain ⟨permissions, _, plain, _, _⟩ := shares.roots
  apply (shares.resolve fits).bind
  intro one two resolved lands
  cases lands with
  | vacant below name => exact .error _
  | root permissions permissionsToo =>
    have found : files.find (here.root.descend names) =
        .ok (here.place, .directory permissions) := by
      rw [FileSystem.find, resolved]
      rfl
    obtain ⟨below, filled, _, same⟩ :=
      plain.below_of_find shares.enclosed fits.filled fits.plain found
    exact absurd (List.self_eq_append_left.1 same) filled
  | @present below filled node =>
    have found : files.find (here.root.descend names) = .ok (below ++ here.place, node) := by
      rw [FileSystem.find, resolved]
      rfl
    obtain ⟨names, _, plainNames, same⟩ :=
      plain.below_of_find shares.enclosed fits.filled fits.plain found
    rw [← List.append_cancel_right same] at plainNames
    exact .ok ⟨below, filled, plainNames, rfl, rfl, rfl⟩

theorem holds_eq (shares : Shares here there files other) (fits : Fits here there names) :
    other.holds (there.root.descend names) = files.holds (here.root.descend names) := by
  rw [FileSystem.holds, FileSystem.holds]
  generalize finds : files.find (here.root.descend names) = one
  generalize findsToo : other.find (there.root.descend names) = two
  cases finds ▸ findsToo ▸ shares.find fits <;> rfl

theorem read_eq (shares : Shares here there files other) (fits : Fits here there names) :
    other.read (there.root.descend names) = files.read (here.root.descend names) := by
  symm
  apply Corresponds.eq
  apply (shares.find fits).bind
  rintro ⟨location, node⟩ ⟨locationToo, nodeToo⟩ _ ⟨_, _, _, _, _, same⟩
  dsimp only at same ⊢
  rw [← same, shares.caller]
  cases node <;> exact .refl _

/-- A file holds the same text. -/
theorem readText_eq (shares : Shares here there files other) (fits : Fits here there names) :
    other.readText (there.root.descend names) = files.readText (here.root.descend names) := by
  rw [FileSystem.readText, FileSystem.readText, shares.read_eq fits]

/-- A path names the same, or a directory. -/
theorem findLink (shares : Shares here there files other) (fits : Fits here there names) :
    Corresponds id
      (fun node nodeToo => nodeToo = node ∨
        ∃ permissions permissionsToo, node = .directory permissions ∧ nodeToo = .directory permissionsToo)
      (files.findLink (here.root.descend names)) (other.findLink (there.root.descend names)) := by
  apply (shares.resolve fits).bind
  intro one two _ lands
  cases lands with
  | vacant below name => exact .error _
  | root permissions permissionsToo => exact .ok (.inr ⟨permissions, permissionsToo, rfl, rfl⟩)
  | present filled node => exact .ok (.inl rfl)

theorem readLink_eq (shares : Shares here there files other) (fits : Fits here there names) :
    other.readLink (there.root.descend names) = files.readLink (here.root.descend names) := by
  symm
  apply Corresponds.eq
  apply (shares.findLink fits).bind
  rintro node nodeToo _ (rfl | ⟨_, _, rfl, rfl⟩)
  · exact .refl _
  · exact .error _

/-- What is listed is a directory below the site. -/
theorem list (shares : Shares here there files other) (fits : Fits here there names) :
    Corresponds id
      (fun listed listedToo => ∃ below, below ≠ [] ∧
        listed = files.tree.entries (below ++ here.place) ∧
          listedToo = other.tree.entries (below ++ there.place))
      (files.list (here.root.descend names)) (other.list (there.root.descend names)) := by
  apply (shares.find fits).bind
  rintro ⟨location, node⟩ ⟨locationToo, nodeToo⟩ _ ⟨below, filled, _, rfl, rfl, same⟩
  dsimp only at same ⊢
  cases same
  cases node with
  | file _ _ => exact .error _
  | link _ => exact .error _
  | directory permissions =>
    dsimp only
    rw [shares.caller]
    split
    · exact .ok ⟨below, filled, rfl, rfl⟩
    · exact .error _

theorem perm_children (shares : Shares here there files other) (below : List Name) :
    (other.tree.children (below ++ there.place)).Perm (files.tree.children (below ++ here.place)) := by
  rw [List.perm_ext_iff_of_nodup (Tree.nodup_children _ _) (Tree.nodup_children _ _)]
  intro name
  have entry := shares.content (name :: below) (by simp)
  rw [List.cons_append, List.cons_append] at entry
  rw [Tree.mem_children, Tree.mem_children, entry]

theorem perm_entries (shares : Shares here there files other) (filled : below ≠ []) :
    (other.tree.entries (below ++ there.place)).Perm (files.tree.entries (below ++ here.place)) :=
  Tree.perm_entries (shares.perm_children below) (shares.damage below filled)

/-- All entries of a directory are read on both sides, or fail to be read alike. -/
theorem mapM_entries (shares : Shares here there files other) (filled : below ≠ []) :
    Corresponds id (fun names namesToo => namesToo.Perm names)
      ((files.tree.entries (below ++ here.place)).mapM id)
      ((other.tree.entries (below ++ there.place)).mapM id) := by
  have perm := shares.perm_entries filled
  cases reads : (files.tree.entries (below ++ here.place)).mapM id with
  | error fault =>
    have among := Entry.error_mem_of_mapM_id reads
    rw [Entry.mapM_id_of_alike (perm.mem_iff.2 among) fun _ amongToo =>
      Tree.eq_of_error_mem among (perm.mem_iff.1 amongToo)]
    exact .error fault
  | ok names =>
    rw [Entry.mapM_id_eq_ok_iff] at reads
    rw [reads] at perm
    obtain ⟨namesToo, readsToo⟩ := Entry.exists_names_of_sound fun fault among => by
      simpa using perm.mem_iff.1 among
    rw [Entry.mapM_id_eq_ok_iff.2 readsToo]
    rw [readsToo] at perm
    have names := perm.filterMap Entry.name?
    rw [Entry.names_map_ok, Entry.names_map_ok] at names
    exact .ok names

/-- A path stands for places of which the names below the sites are the same. -/
theorem canonical (shares : Shares here there files other) (fits : Fits here there names) :
    Corresponds id
      (fun path pathToo => ∃ below, below ≠ [] ∧ (∀ name ∈ below, PlainName name) ∧
        path = FileSystem.absolutePath (below ++ here.place) ∧
          pathToo = FileSystem.absolutePath (below ++ there.place))
      (files.canonical (here.root.descend names)) (other.canonical (there.root.descend names)) := by
  apply (shares.find fits).bind
  rintro ⟨location, node⟩ ⟨locationToo, nodeToo⟩ _ ⟨below, filled, plain, rfl, rfl, _⟩
  exact .ok ⟨below, filled, plain, rfl, rfl⟩

/-! ## What is written -/

variable {content : Bytes} {after afterToo : FileSystem}

/-- The sites still share their tree when the same file has been written on both sides. -/
theorem of_fileWritten (shares : Shares here there files other) (filled : below ≠ [])
    (change : files.FileWritten (below ++ here.place) content after)
    (changeToo : other.FileWritten (below ++ there.place) content afterToo)
    (damage : ∀ directory name, after.tree.damage? directory name = files.tree.damage? directory name)
    (damageToo : ∀ directory name,
      afterToo.tree.damage? directory name = other.tree.damage? directory name) :
    Shares here there after afterToo := by
  have away : below ++ here.place ≠ here.place :=
    fun same => filled (List.append_left_eq_self.1 same)
  refine ⟨?_, ?_, ?_, fun place filledToo name => ?_, ?_⟩
  · rw [changeToo.caller, change.caller, shares.caller]
  · obtain ⟨permissions, permissionsToo, plain, plainToo, writes⟩ := shares.roots
    exact ⟨permissions, permissionsToo, plain.of_fileWritten change, plainToo.of_fileWritten changeToo,
      change.caller ▸ writes⟩
  · intro place filledToo
    have stood := shares.content place filledToo
    by_cases same : place = below
    · subst same
      obtain ⟨free, now⟩ | ⟨permissions, old, stands, now⟩ := change.here <;>
        obtain ⟨freeToo, nowToo⟩ | ⟨permissionsToo, oldToo, standsToo, nowToo⟩ := changeToo.here
      · rw [now, nowToo]
      · simp [free, standsToo] at stood
      · simp [freeToo, stands] at stood
      · rw [standsToo, stands] at stood
        cases stood
        rw [now, nowToo]
    · have differs {site : Location} : place ++ site ≠ below ++ site :=
        fun equal => same (List.append_cancel_right equal)
      rw [change.elsewhere _ differs, changeToo.elsewhere _ differs, stood]
  · rw [damage, damageToo, shares.damage place filledToo]
  · exact shares.enclosed.of_fileWritten change away

/-- The sites still share their tree, in which something has been put. -/
structure Gains (here there : Site) (files other after afterToo : FileSystem) : Prop where
  shares : Shares here there after afterToo
  put : ∃ name below node, after.tree = files.tree.put (name :: (below ++ here.place)) node ∧
    afterToo.tree = other.tree.put (name :: (below ++ there.place)) node

/-- What is written goes to the same place in the tree. -/
theorem write (shares : Shares here there files other) (fits : Fits here there names)
    (content : Bytes) :
    Corresponds id (Gains here there files other)
      (files.write (here.root.descend names) content)
      (other.write (there.root.descend names) content) := by
  apply (shares.resolve fits).bind
  intro one two resolved lands
  have holds := FileSystem.holds_of_resolve resolved
  cases lands with
  | root permissions permissionsToo => exact .error _
  | @present below filled node =>
    have holdsToo := (shares.content below filled).trans holds
    cases node with
    | directory _ => exact .error _
    | link _ => exact .error _
    | file permissions old =>
      dsimp only
      rw [shares.caller]
      split
      · obtain ⟨name, parent, rfl⟩ := List.exists_cons_of_ne_nil filled
        exact .ok ⟨shares.of_fileWritten filled (FileSystem.fileWritten_put (.inr ⟨old, holds⟩))
          (FileSystem.fileWritten_put (.inr ⟨old, holdsToo⟩)) (files.tree.damage?_put _ _)
          (other.tree.damage?_put _ _), name, parent, _, rfl, rfl⟩
      · exact .error _
  | vacant below name =>
    have holdsToo := (shares.content (name :: below) (by simp)).trans holds
    have gains : Gains here there files other
        (files.withTree (files.tree.put (name :: (below ++ here.place)) (.file .newFile content)))
        (other.withTree (other.tree.put (name :: (below ++ there.place)) (.file .newFile content))) :=
      ⟨shares.of_fileWritten (List.cons_ne_nil name below)
        (FileSystem.fileWritten_put (.inl ⟨holds, rfl⟩))
        (FileSystem.fileWritten_put (.inl ⟨holdsToo, rfl⟩)) (files.tree.damage?_put _ _)
        (other.tree.damage?_put _ _), name, below, _, rfl, rfl⟩
    dsimp only
    cases below with
    | nil =>
      obtain ⟨permissions, permissionsToo, plain, plainToo, writes⟩ := shares.roots
      obtain ⟨_, _, stands⟩ := FileSystem.find_eq_ok_iff.1 plain.found
      obtain ⟨_, _, standsToo⟩ := FileSystem.find_eq_ok_iff.1 plainToo.found
      simp only [List.nil_append, stands, standsToo, shares.caller, writes] at gains ⊢
      split
      · exact .ok gains
      · exact .error _
    | cons first rest =>
      rw [shares.content _ (by simp), shares.caller]
      cases files.tree.node? (first :: rest ++ here.place) with
      | none => exact .error _
      | some node =>
        cases node with
        | file _ _ => exact .error _
        | link _ => exact .error _
        | directory permissions =>
          dsimp only
          split
          · exact .ok gains
          · exact .error _

end Site.Shares

end SingleRoot.Host
