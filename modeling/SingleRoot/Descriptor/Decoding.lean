/-
# Reading a tree by a schema

A descriptor is read out of the tree of a document. This module supplies the readers that
descriptors are made of: for strings, sequences, maps of labels, records and things that may be left
out. Each takes a node at a place and gives a value or the first thing that does not fit, in the
order of the text.

Any scalar is a string, whatever its text would otherwise mean. A plain scalar without any text
stands for a collection or a record that is empty. Fields that a record does not know are passed
over, but the text must not break off inside them. An alias is read as the node that it stands for,
at the place of the alias in the tree.
-/
import SingleRoot.Descriptor.Labels
import SingleRoot.Descriptor.Misfit
import SingleRoot.Markup.Node
import SingleRoot.Markup.Value

namespace SingleRoot.Descriptor

open Markup

/-- What the aliases of a document stand for, and how often they may be followed. -/
structure Aliases where
  targets : List (Nat × Node)
  limit : Nat
  deriving Repr

namespace Aliases

/-- Aliases may be followed so many times for each event of a document. -/
def followsPerEvent : Nat := 100

/-- The aliases of a document. Of two nodes with the same number an alias means the later one. -/
def ofDocument (document : Document) : Aliases :=
  ⟨document.root.anchored.reverse, followsPerEvent * document.events⟩

/-- The node that an alias stands for. -/
def target? (aliases : Aliases) (number : Nat) : Option Node := aliases.targets.lookup number

end Aliases

/-- Reading from a document: the number of aliases that have been followed is kept. -/
abbrev Decoding (α : Type) := StateT Nat (Except DecodeError) α

/-- What reads a value from a node at a place in the tree. -/
abbrev Decoder (α : Type) := Aliases → TreePath → Node → Decoding α

namespace Decoding

/-- Report that something does not fit. -/
def refuse (misfit : Misfit) : Decoding α := throw (.unfit misfit none)

/-- Give a misfit the place where it was found, if it has none. -/
def withPlace (place : Place) : DecodeError → DecodeError
  | .unfit misfit none => .unfit misfit (some place)
  | error => error

/-- Read a part that has a place of its own. -/
def placed (path : TreePath) (mark : Mark) (part : Decoding α) : Decoding α :=
  fun followed => (part followed).mapError (withPlace ⟨path, mark⟩)

/-- Follow an alias. -/
def follow (aliases : Aliases) (number : Nat) : Decoding Node := do
  modify (· + 1)
  if aliases.limit < (← get) then throw .repetition
  match aliases.target? number with
  | some node => return node
  | none => throw .repetition

/-- A node, or what it stands for if it is an alias. An alias never stands for another. -/
def resolve (aliases : Aliases) : Node → Decoding Node
  | .reference _ number => follow aliases number
  | node => return node

end Decoding

open Decoding

/-- Why a scalar does not fit where something else than a string is wanted. A tag of a common kind
of value decides what the scalar is, and other tags do not count unless they make it a string. -/
def scalarMisfit (tag : Option Tag) (text : String) (isPlain : Bool) (wanted : Wanted) : Misfit :=
  let found (value : Value) : Misfit := .wrongKind value.describe wanted
  let meant (value : Option Value) (kind : Wanted) : Misfit :=
    match value with
    | some value => found value
    | none => .wrongText text kind
  let untagged := found (if isPlain then .ofPlain text else .string text)
  match tag with
  | none => untagged
  | some tag =>
    if tag = Tag.common "bool" then meant ((Value.boolean? text).map .boolean) .boolean
    else if tag = Tag.common "int" then meant ((Value.integer? text.toList).map .integer) .integer
    else if tag = Tag.common "float" then meant ((Value.fraction? text).map .fraction) .fraction
    else if tag = Tag.common "null" then
      meant (if Value.isNull text then some .null else none) .null
    else if tag.head? = Tag.nonSpecific.head? then untagged
    else found (.string text)

/-- Report a node that is of another kind than the one wanted. -/
def refuseNode (wanted : Wanted) : Node → Decoding α
  | .cut failure => throw (.malformed failure)
  | .scalar _ _ tag text isPlain => refuse (scalarMisfit tag text isPlain wanted)
  | .sequence _ _ _ => refuse (.wrongKind "sequence" wanted)
  | .mapping _ _ _ => refuse (.wrongKind "map" wanted)
  | .reference _ _ => throw .repetition

/-- The place in the text where a node begins. -/
def startOf : Node → Mark
  | .reference mark _ | .scalar mark _ _ _ _ | .sequence mark _ _ | .mapping mark _ _ => mark
  | .cut _ => .start

/-- The text of a scalar. -/
def decodeText (wanted : Wanted) : Decoder String := fun aliases path node => do
  let node ← resolve aliases node
  placed path (startOf node) <| match node with
    | .scalar _ _ _ text _ => return text
    | node => refuseNode wanted node

/-- A string. -/
def decodeString : Decoder String := decodeText .string

/-- The items of a sequence, from a given index on. -/
def decodeItems (item : Decoder α) (aliases : Aliases) (path : TreePath) :
    Nat → List Node → Decoding (List α)
  | _, [] => return []
  | index, node :: rest => do
    let first ← item aliases (.item index :: path) node
    return first :: (← decodeItems item aliases path (index + 1) rest)

/-- A sequence. -/
def decodeSequence (item : Decoder α) : Decoder (List α) := fun aliases path node => do
  let node ← resolve aliases node
  placed path (startOf node) <| match node with
    | .sequence _ _ items => decodeItems item aliases path 0 items
    | .scalar _ _ _ "" true => return []
    | node => refuseNode .sequence node

/-- The step to the value of a key. -/
def stepTo : Node → PathStep
  | .scalar _ _ _ text _ => .field text
  | _ => .unnamed

/-- Add labels to others. -/
def decodeLabelRows (aliases : Aliases) (path : TreePath) :
    Labels → List (Node × Node) → Decoding Labels
  | labels, [] => return labels
  | labels, (key, value) :: rest => do
    let label ← decodeText .string aliases path key
    let text ← decodeString aliases (stepTo key :: path) value
    decodeLabelRows aliases path (labels.insert label text) rest

/-- Labels. Where a label is given twice the later value counts. -/
def decodeLabels : Decoder Labels := fun aliases path node => do
  let node ← resolve aliases node
  placed path (startOf node) <| match node with
    | .mapping _ _ entries => decodeLabelRows aliases path .empty entries
    | .scalar _ _ _ "" true => return .empty
    | node => refuseNode .map node

/-- Whether a node stands for nothing. A scalar that is tagged so must also spell it. -/
def isAbsent : Node → Decoding Bool
  | .cut failure => throw (.malformed failure)
  | .scalar _ _ tag text true =>
    match tag with
    | none => return text.isEmpty || Value.isNull text
    | some tag =>
      if tag ≠ Tag.common "null" then return false
      else if Value.isNull text then return true
      else refuse (.wrongText text .null)
  | _ => return false

/-- Something that may be left out. -/
def decodeOptional (decoder : Decoder α) : Decoder (Option α) := fun aliases path node => do
  let node ← resolve aliases node
  if ← isAbsent node then return none
  else return some (← decoder aliases path node)

/-! ## Records -/

/-- How a record is read: with a draft in which fields are filled in as they are met. -/
structure Schema (Draft : Type) (Result : Type) where
  name : String
  /-- The draft without any field. -/
  blank : Draft
  /-- How the field of a name is filled in, if the record knows it. -/
  field : String → Option (Draft → Decoding (Decoder Draft))
  /-- The record of a complete draft, or the field that it lacks. -/
  finish : Draft → Except Misfit Result

/-- Fill in a field that has not been met before. -/
def fillIn (name : String) (present : Draft → Bool) (decoder : Decoder α) (set : Draft → α → Draft)
    (draft : Draft) : Decoding (Decoder Draft) :=
  if present draft then refuse (.duplicateField name)
  else return fun aliases path node => set draft <$> decoder aliases path node

/-- The field of a draft, which must have been met. -/
def require (name : String) : Option α → Except Misfit α
  | some value => .ok value
  | none => .error (.missingField name)

namespace Schema

/-- Fill in the fields of a record. -/
def decodeFields (schema : Schema Draft Result) (aliases : Aliases) (path : TreePath) :
    Draft → List (Node × Node) → Decoding Draft
  | draft, [] => return draft
  | draft, (key, value) :: rest => do
    let name ← decodeText .fieldName aliases path key
    match schema.field name with
    | some fill =>
      let decoder ← fill draft
      let draft ← decoder aliases (stepTo key :: path) value
      decodeFields schema aliases path draft rest
    | none =>
      if let some failure := value.failure? then throw (.malformed failure)
      decodeFields schema aliases path draft rest

/-- The record of a complete draft. -/
def conclude (schema : Schema Draft Result) (draft : Draft) : Decoding Result :=
  match schema.finish draft with
  | .ok result => return result
  | .error misfit => refuse misfit

/-- A record. -/
def decode (schema : Schema Draft Result) : Decoder Result := fun aliases path node => do
  let node ← resolve aliases node
  placed path (startOf node) <| match node with
    | .mapping _ _ entries => do
      schema.conclude (← schema.decodeFields aliases path schema.blank entries)
    | .scalar _ _ _ "" true => schema.conclude schema.blank
    | node => refuseNode (.record schema.name) node

end Schema

/-- Read the document of a text that holds nothing else. What does not fit is reported before what
is wrong after it. -/
def decodeDocument (decoder : Decoder α) (document : Document) : Except DecodeError α := do
  let (value, _) ← (decoder (.ofDocument document) [] document.root).run 0
  match document.failure with
  | some failure => .error (.malformed failure)
  | none => if document.hasMore then .error .severalDocuments else return value

end SingleRoot.Descriptor
