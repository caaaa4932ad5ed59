/-
# Documents that are no descriptors

Why a text does not hold what is wanted. It may not be a document, or be more than one. Or the
document does not fit: a node is of another kind than the one wanted at its place, or a record
lacks a field or has it twice. A misfit is reported with its place in the tree and in the text.
-/
import SingleRoot.Markup.Failure
import SingleRoot.Text.Quoted

namespace SingleRoot.Descriptor

open Markup

/-- A step from a collection to one of its parts. -/
inductive PathStep where
  | field (name : String)
  | item (index : Nat)
  /-- The value of a key that is not written out where it stands. -/
  | unnamed
  deriving DecidableEq, Repr

/-- A place in a tree, as the steps that lead there, the last one first. -/
abbrev TreePath := List PathStep

/-- A place in a tree as reports show it. The root has no text of its own. -/
def TreePath.shown : TreePath → String
  | [] => ""
  | .item index :: around => TreePath.shown around ++ "[" ++ Text.decimal index ++ "]"
  | .field name :: around => parent around ++ name
  | .unnamed :: around => parent around ++ "?"
where
  /-- What stands before a step that is not an item. -/
  parent (around : TreePath) : String :=
    if around.isEmpty then "" else TreePath.shown around ++ "."

/-- What is wanted at a place. -/
inductive Wanted where
  | string
  | sequence
  | map
  | fieldName
  | record (name : String)
  | boolean
  | integer
  | fraction
  | null
  deriving DecidableEq, Repr

/-- How a report names what is wanted. -/
def Wanted.text : Wanted → String
  | string => "a string"
  | sequence => "a sequence"
  | map => "a map"
  | fieldName => "field identifier"
  | record name => "struct " ++ name
  | boolean => "a boolean"
  | integer => "an integer"
  | fraction => "a float"
  | null => "null"

/-- Why a node does not fit. -/
inductive Misfit where
  /-- It is of another kind. -/
  | wrongKind (found : String) (wanted : Wanted)
  /-- Its tag announces a kind of value that its text does not spell. -/
  | wrongText (found : String) (wanted : Wanted)
  | missingField (name : String)
  | duplicateField (name : String)
  deriving DecidableEq, Repr

/-- The text of a misfit. -/
def Misfit.text : Misfit → String
  | wrongKind found wanted => "invalid type: " ++ found ++ ", expected " ++ wanted.text
  | wrongText found wanted =>
    "invalid value: string " ++ Text.quote found ++ ", expected " ++ wanted.text
  | missingField name => "missing field \x60" ++ name ++ "\x60"
  | duplicateField name => "duplicate field \x60" ++ name ++ "\x60"

/-- A place in a tree and in the text. -/
structure Place where
  path : TreePath
  mark : Mark
  deriving DecidableEq, Repr

/-- Why a text does not hold what is wanted. -/
inductive DecodeError where
  | malformed (failure : Failure)
  /-- A node does not fit. Its place is not known until a part of the tree that has one is left. -/
  | unfit (misfit : Misfit) (place : Option Place)
  /-- Aliases stand for more than any reasonable document repeats. -/
  | repetition
  | severalDocuments
  deriving DecidableEq, Repr

/-- The text of an error. -/
def DecodeError.message : DecodeError → String
  | malformed failure => failure.message
  | unfit misfit none => misfit.text
  | unfit misfit (some place) =>
    let path := place.path.shown
    (if path.isEmpty then "" else path ++ ": ") ++ misfit.text ++ place.mark.shown
  | repetition => "repetition limit exceeded"
  | severalDocuments =>
    "deserializing from YAML containing more than one document is not supported"

end SingleRoot.Descriptor
