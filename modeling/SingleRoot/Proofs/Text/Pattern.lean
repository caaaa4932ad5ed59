/-
# Patterns of text

A pattern is a sequence of parts: runs of so many characters from given ranges, and the two anchors that hold
where a text begins and where it ends. It occurs in a text if its parts match there one after another,
wherever that may be. A run does not look beyond the characters that it takes, but the anchors do, so that
`Pattern.Matches` speaks of a match together with all that stands before and after it.

Between its two anchors a pattern has no choice of where to match. It then occurs in exactly the texts that
can be cut into its runs, `Pattern.occursIn_anchored_iff`.
-/
import Mathlib.Data.List.Forall2

namespace SingleRoot.Text

/-- So many characters, each from one of some ranges. -/
structure Run where
  count : Nat
  ranges : List (Char × Char)

namespace Run

/-- The run of one given character. -/
def exactly (c : Char) : Run :=
  ⟨1, [(c, c)]⟩

/-- Some characters make up a run. -/
def Spells (run : Run) (characters : List Char) : Prop :=
  characters.length = run.count ∧
    ∀ c ∈ characters, ∃ range ∈ run.ranges, range.1 ≤ c ∧ c ≤ range.2

theorem spells_exactly_iff {c : Char} {characters : List Char} :
    (exactly c).Spells characters ↔ characters = [c] := by
  constructor
  · rintro ⟨single, inRange⟩
    obtain ⟨other, rfl⟩ := List.length_eq_one_iff.1 single
    obtain ⟨range, among, low, high⟩ := inRange other List.mem_cons_self
    cases List.mem_singleton.1 among
    rw [Char.le_antisymm high low]
  · rintro rfl
    refine ⟨rfl, fun other among => ⟨(c, c), List.mem_cons_self, ?_⟩⟩
    cases List.mem_singleton.1 among
    exact ⟨Char.le_refl _, Char.le_refl _⟩

end Run

/-- A text is cut into stretches, one for each run. -/
def CutInto (text : List Char) (runs : List Run) : Prop :=
  ∃ stretches, List.Forall₂ Run.Spells runs stretches ∧ text = stretches.flatten

theorem cutInto_nil_iff {text : List Char} : CutInto text [] ↔ text = [] := by
  constructor
  · rintro ⟨stretches, none, rfl⟩
    cases none
    rfl
  · rintro rfl
    exact ⟨[], .nil, rfl⟩

theorem cutInto_cons_iff {text : List Char} {run : Run} {runs : List Run} :
    CutInto text (run :: runs) ↔
      ∃ first rest, text = first ++ rest ∧ run.Spells first ∧ CutInto rest runs := by
  constructor
  · rintro ⟨stretches, each, rfl⟩
    cases each with
    | cons spells later => exact ⟨_, _, List.flatten_cons, spells, _, later, rfl⟩
  · rintro ⟨first, _, rfl, spells, stretches, later, rfl⟩
    exact ⟨first :: stretches, .cons spells later, rfl⟩

/-- A part of a pattern. -/
inductive Part where
  /-- The text begins here. -/
  | start
  /-- The text ends here. -/
  | finish
  | run (run : Run)

/-- The parts of a pattern, in their order. -/
abbrev Pattern := List Part

namespace Pattern

/-- A pattern matches some characters of a text, between those before and those after them. -/
inductive Matches : Pattern → List Char → List Char → List Char → Prop
  | nil {before after : List Char} : Matches [] before [] after
  /-- The first anchor takes no characters and asks that none stand before. -/
  | start {parts : Pattern} {matched after : List Char} (rest : Matches parts [] matched after) :
      Matches (.start :: parts) [] matched after
  /-- The other one asks that none are left. -/
  | finish {parts : Pattern} {before : List Char} (rest : Matches parts before [] []) :
      Matches (.finish :: parts) before [] []
  /-- A run takes the characters that make it up, and they stand before what follows. -/
  | run {run : Run} {parts : Pattern} {before first matched after : List Char}
      (spells : run.Spells first) (rest : Matches parts (before ++ first) matched after) :
      Matches (.run run :: parts) before (first ++ matched) after

/-- A pattern matches somewhere in a text. -/
def OccursIn (pattern : Pattern) (text : List Char) : Prop :=
  ∃ before matched after, text = before ++ matched ++ after ∧ pattern.Matches before matched after

/-- The pattern of some runs from the beginning to the end of a text. -/
def anchored (runs : List Run) : Pattern :=
  .start :: (runs.map .run ++ [.finish])

variable {runs : List Run} {before matched after text : List Char}

/-- Runs up to the end of a text match what can be cut into them, whatever stands before. -/
theorem matches_runs_iff :
    Matches (runs.map .run ++ [.finish]) before matched after ↔
      CutInto matched runs ∧ after = [] := by
  induction runs generalizing before matched with
  | nil =>
    rw [cutInto_nil_iff]
    constructor
    · intro match_
      cases match_ with
      | finish rest => exact ⟨rfl, rfl⟩
    · rintro ⟨rfl, rfl⟩
      exact .finish .nil
  | cons run later ih =>
    rw [cutInto_cons_iff]
    constructor
    · intro match_
      cases match_ with
      | run spells rest =>
        obtain ⟨cut, ends⟩ := ih.1 rest
        exact ⟨⟨_, _, rfl, spells, cut⟩, ends⟩
    · rintro ⟨⟨first, rest, rfl, spells, cut⟩, ends⟩
      exact .run spells (ih.2 ⟨cut, ends⟩)

/-- An anchored pattern occurs in the texts that can be cut into its runs, and in no others. -/
theorem occursIn_anchored_iff : (anchored runs).OccursIn text ↔ CutInto text runs := by
  constructor
  · rintro ⟨before, matched, after, rfl, match_⟩
    cases match_ with
    | start rest =>
      obtain ⟨cut, rfl⟩ := matches_runs_iff.1 rest
      simpa using cut
  · intro cut
    refine ⟨[], text, [], by simp, .start ?_⟩
    exact matches_runs_iff.2 ⟨cut, rfl⟩

end Pattern

end SingleRoot.Text
