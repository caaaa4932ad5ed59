/-
# Events

The tokens of a document describe a tree. Events are that tree as it is met from left to right: a
collection is an event for its start, the events of its parts and an event for its end. A node that
may be left out, such as the value of a key without one, is an empty plain scalar.

A text can break off in the middle of a document. Its events are those up to the place where
something is wrong.
-/
import SingleRoot.Markup.Token

namespace SingleRoot.Markup

/-- What a node may be given besides its content. -/
structure Properties where
  anchor : Option (List Char)
  tag : Option Tag
  deriving DecidableEq, Repr

/-- No properties. -/
def Properties.none : Properties := ⟨.none, .none⟩

/-- What is met on the way through a document. -/
inductive Event where
  | reference (name : List Char)
  | scalar (properties : Properties) (text : String) (isPlain : Bool)
  | sequenceStart (properties : Properties)
  | sequenceEnd
  | mappingStart (properties : Properties)
  | mappingEnd
  deriving DecidableEq, Repr

/-- A node that has been left out. -/
def Event.empty : Event := .scalar .none "" true

/-- An event and the place where it begins. -/
structure PlacedEvent where
  event : Event
  mark : Mark
  deriving DecidableEq, Repr

end SingleRoot.Markup
