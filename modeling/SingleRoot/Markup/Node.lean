/-
# Nodes

The tree that a document describes. A node may be given an anchor, and an alias elsewhere then
stands for it. Anchors are numbered as they are met. An anchor name that is met again gets a new
number, which is the number of names met before it; so two nodes can have the same number, and the
alias means the later one.

Where the text of a document breaks off, its tree ends in a node that holds the failure.
-/
import SingleRoot.Markup.Event.Grammar
import SingleRoot.Markup.Token.Lexer

namespace SingleRoot.Markup

/-- A part of a document. -/
inductive Node where
  | reference (mark : Mark) (target : Nat)
  | scalar (mark : Mark) (anchor : Option Nat) (tag : Option Tag) (text : String) (isPlain : Bool)
  | sequence (mark : Mark) (anchor : Option Nat) (items : List Node)
  | mapping (mark : Mark) (anchor : Option Nat) (entries : List (Node × Node))
  /-- The text breaks off here. -/
  | cut (failure : Failure)
  deriving Repr

namespace Node

instance : Inhabited Node := ⟨scalar .start none none "" true⟩

mutual

/-- The failure that a node ends in, if the text breaks off inside it. -/
def failure? : Node → Option Failure
  | reference _ _ | scalar _ _ _ _ _ => none
  | sequence _ _ items => failureInItems? items
  | mapping _ _ entries => failureInEntries? entries
  | cut failure => some failure

/-- The failure that some nodes end in. -/
def failureInItems? : List Node → Option Failure
  | [] => none
  | item :: rest => item.failure?.or (failureInItems? rest)

/-- The failure that some pairs of nodes end in. -/
def failureInEntries? : List (Node × Node) → Option Failure
  | [] => none
  | (key, value) :: rest => key.failure?.or (value.failure?.or (failureInEntries? rest))

end

mutual

/-- The nodes with an anchor that a node holds, itself included, in the order of the text. -/
def anchored : Node → List (Nat × Node)
  | reference _ _ | cut _ => []
  | scalar mark anchor tag text isPlain =>
    anchor.toList.map (·, scalar mark anchor tag text isPlain)
  | sequence mark anchor items =>
    anchor.toList.map (·, sequence mark anchor items) ++ anchoredInItems items
  | mapping mark anchor entries =>
    anchor.toList.map (·, mapping mark anchor entries) ++ anchoredInEntries entries

/-- The nodes with an anchor that some nodes hold. -/
def anchoredInItems : List Node → List (Nat × Node)
  | [] => []
  | item :: rest => item.anchored ++ anchoredInItems rest

/-- The nodes with an anchor that some pairs of nodes hold. -/
def anchoredInEntries : List (Node × Node) → List (Nat × Node)
  | [] => []
  | (key, value) :: rest => key.anchored ++ (value.anchored ++ anchoredInEntries rest)

end

end Node

/-! ## From events to nodes -/

/-- A collection of which only some parts are known, the last one first. -/
inductive Unfinished where
  | sequence (mark : Mark) (anchor : Option Nat) (items : List Node)
  | mapping (mark : Mark) (anchor : Option Nat) (entries : List (Node × Node)) (key : Option Node)
  deriving Repr

namespace Unfinished

/-- Add the next part. -/
def add (node : Node) : Unfinished → Unfinished
  | sequence mark anchor items => sequence mark anchor (node :: items)
  | mapping mark anchor entries none => mapping mark anchor entries (some node)
  | mapping mark anchor entries (some key) => mapping mark anchor ((key, node) :: entries) none

/-- The collection that has no further parts. -/
def finish : Unfinished → Node
  | sequence mark anchor items => .sequence mark anchor items.reverse
  | mapping mark anchor entries _ => .mapping mark anchor entries.reverse

/-- The collection in which the text breaks off. -/
def breakOff (failure : Failure) : Unfinished → Node
  | sequence mark anchor items => .sequence mark anchor (items.reverse ++ [.cut failure])
  | mapping mark anchor entries key =>
    let last := match key with
      | none => (.cut failure, .cut failure)
      | some key => (key, .cut failure)
    .mapping mark anchor (entries.reverse ++ [last])

end Unfinished

/-- A document as far as it is known. -/
structure Sketch where
  /-- The tree, once it is complete. -/
  root : Option Node
  /-- The collections that are not complete, innermost first. -/
  unfinished : List Unfinished
  /-- The names that anchors have been given, with the numbers they stand for now. -/
  names : List (List Char × Nat)
  deriving Repr

namespace Sketch

/-- Nothing is known. -/
def empty : Sketch := ⟨none, [], []⟩

/-- Add a complete node. -/
def add (sketch : Sketch) (node : Node) : Sketch :=
  match sketch.unfinished with
  | [] => { sketch with root := some node }
  | inner :: outer => { sketch with unfinished := inner.add node :: outer }

/-- Begin a collection. -/
def begin (sketch : Sketch) (collection : Unfinished) : Sketch :=
  { sketch with unfinished := collection :: sketch.unfinished }

/-- Complete the innermost collection. -/
def finish (sketch : Sketch) : Sketch :=
  match sketch.unfinished with
  | [] => sketch
  | inner :: outer => ({ sketch with unfinished := outer }).add inner.finish

/-- Number an anchor. -/
def number (sketch : Sketch) (anchor : Option (List Char)) : Option Nat × Sketch :=
  match anchor with
  | none => (none, sketch)
  | some name =>
    let number := sketch.names.length
    let others := sketch.names.filter (·.1 != name)
    (some number, { sketch with names := (name, number) :: others })

/-- Add what an event says. An alias that means nothing breaks the document off. -/
def meet (sketch : Sketch) (met : PlacedEvent) : Reading Sketch :=
  match met.event with
  | .reference name =>
    match sketch.names.lookup name with
    | some target => .ok (sketch.add (.reference met.mark target))
    | none => .failAlone .unknownAnchor met.mark
  | .scalar properties text isPlain =>
    let (anchor, sketch) := sketch.number properties.anchor
    .ok (sketch.add (.scalar met.mark anchor properties.tag text isPlain))
  | .sequenceStart properties =>
    let (anchor, sketch) := sketch.number properties.anchor
    .ok (sketch.begin (.sequence met.mark anchor []))
  | .mappingStart properties =>
    let (anchor, sketch) := sketch.number properties.anchor
    .ok (sketch.begin (.mapping met.mark anchor [] none))
  | .sequenceEnd | .mappingEnd => .ok sketch.finish

/-- The tree of a document that breaks off. -/
def breakOff (sketch : Sketch) (failure : Failure) : Node :=
  match sketch.root with
  | some root => root
  | none =>
    match sketch.unfinished with
    | [] => .cut failure
    | inner :: outer =>
      outer.foldl (fun node around => (around.add node).breakOff failure) (inner.breakOff failure)

end Sketch

/-- The first document of a text. -/
structure Document where
  root : Node
  /-- What is wrong with the text, if that shows before the document has ended. -/
  failure : Option Failure
  /-- Whether anything but the end of the text follows the document. -/
  hasMore : Bool
  /-- How many events the tree has been made of. -/
  events : Nat
  deriving Repr

namespace Document

/-- The document in which some events are met, then a failure or the end. -/
def ofEvents (failure : Option Failure) (hasMore : Bool) :
    Nat → Sketch → List PlacedEvent → Document
  | events, sketch, [] =>
    let root := match failure with
      | some failure => sketch.breakOff failure
      | none => sketch.root.getD default
    ⟨root, failure, hasMore, events⟩
  | events, sketch, met :: rest =>
    match sketch.meet met with
    | .ok sketch => ofEvents failure hasMore (events + 1) sketch rest
    | .error failure => ⟨sketch.breakOff failure, some failure, true, events⟩

/-- The first document of a text. -/
def ofText (text : String) : Document :=
  let transcript := Transcript.ofTokens (Tokens.ofText text)
  ofEvents transcript.failure transcript.hasMore 0 .empty transcript.events

end Document

end SingleRoot.Markup
