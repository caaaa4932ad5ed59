/-
# From tokens to events

The grammar of documents. A reader keeps a list of goals: what is left to be met, the nearest
first. In each step the first goal looks at the next tokens, passes over some of them, and may meet
an event and put new goals in its place. There is no failure of its own in running out of tokens:
what comes after the tokens of a broken text is the failure that broke it.
-/
import SingleRoot.Markup.Event

namespace SingleRoot.Markup

/-- What is left to be met in a document, from one kind of place to the next. -/
inductive Goal where
  /-- What follows the start indicator of a document. -/
  | content
  | documentEnd
  /-- A node; `block` says whether block collections are possible, and `indentless` whether a
  block sequence is possible whose dashes are not indented. -/
  | node (block indentless : Bool)
  /-- The rest of a block sequence that began at a place. -/
  | blockSequence (start : Mark)
  /-- The rest of a block sequence that is not indented. -/
  | indentlessSequence
  /-- The rest of a block mapping that began at a place, from a key on. -/
  | blockMapping (start : Mark)
  /-- The value of a key in a block mapping. -/
  | blockValue
  /-- The rest of a flow sequence that began at a place. -/
  | flowSequence (start : Mark) (isFirst : Bool)
  /-- The key of a mapping that is written as an entry of a flow sequence. -/
  | pairKey
  /-- Its value. -/
  | pairValue
  /-- Its end. -/
  | pairEnd
  /-- The rest of a flow mapping that began at a place, from a key on. -/
  | flowMapping (start : Mark) (isFirst : Bool)
  /-- The value of a key in a flow mapping. -/
  | flowValue
  /-- The value of a key in a flow mapping that was written without any. -/
  | flowNoValue
  deriving DecidableEq, Repr

/-- The handles that abbreviate tags in a document. -/
abbrev Handles := List (List Char × Bytes)

namespace Handles

/-- The handles that need not be introduced. -/
def usual : Handles := [(['!'], Text.toBytes "!"), (['!', '!'], Tag.commonStem)]

/-- The tag that a shorthand stands for. -/
def expand? (handles : Handles) (shorthand : Tag.Shorthand) : Option Tag :=
  match shorthand.handle with
  | none => some shorthand.suffix
  | some handle => (handles.lookup handle).map (· ++ shorthand.suffix)

end Handles

/-- A step from one place to the next: what is met, and what is left to be met there. -/
structure Step where
  event : Option PlacedEvent
  goals : List Goal
  tokens : Tokens

namespace Step

/-- Nothing is met. -/
def silent (goals : List Goal) (tokens : Tokens) : Reading Step := .ok ⟨none, goals, tokens⟩

/-- Something is met. -/
def meet (event : Event) (mark : Mark) (goals : List Goal) (tokens : Tokens) : Reading Step :=
  .ok ⟨some ⟨event, mark⟩, goals, tokens⟩

/-- A node that has been left out is met. -/
def meetEmpty (mark : Mark) (goals : List Goal) (tokens : Tokens) : Reading Step :=
  meet .empty mark goals tokens

end Step

namespace Goal

/-! ## Nodes -/

/-- The properties of a node as they are written, with the place where the tag begins. -/
structure Prelude where
  anchor : Option (List Char)
  tag : Option (Tag.Shorthand × Mark)

/-- Read the properties of a node, an anchor and a tag in either order. -/
def readPrelude (tokens : Tokens) : Reading (Prelude × Tokens) := do
  let first ← tokens.head
  match first.token with
  | .anchor name =>
    let second ← tokens.tail.head
    match second.token with
    | .tag shorthand => return (⟨some name, some (shorthand, second.start)⟩, tokens.tail.tail)
    | _ => return (⟨some name, none⟩, tokens.tail)
  | .tag shorthand =>
    let second ← tokens.tail.head
    match second.token with
    | .anchor name => return (⟨some name, some (shorthand, first.start)⟩, tokens.tail.tail)
    | _ => return (⟨none, some (shorthand, first.start)⟩, tokens.tail)
  | _ => return (⟨none, none⟩, tokens)

/-- The properties of a node with the handles written out. -/
def expandPrelude (handles : Handles) (start : Mark) (written : Prelude) : Reading Properties :=
  match written.tag with
  | none => .ok ⟨written.anchor, none⟩
  | some (shorthand, mark) =>
    match handles.expand? shorthand with
    | some tag => .ok ⟨written.anchor, some tag⟩
    | none => .fail .undefinedHandle mark .node start

/-- Meet a node that is no alias. -/
def stepContent (handles : Handles) (block indentless : Bool) (start : Mark) (tokens : Tokens) :
    Reading Step := do
  let (written, tokens) ← readPrelude tokens
  let next ← tokens.head
  let properties ← expandPrelude handles start written
  match next.token, block, indentless with
  | .blockEntry, _, true => Step.meet (.sequenceStart properties) start [indentlessSequence] tokens
  | .scalar text isPlain, _, _ =>
    Step.meet (.scalar properties text isPlain) start [] tokens.tail
  | .flowSequenceStart, _, _ =>
    Step.meet (.sequenceStart properties) start [flowSequence next.start true] tokens.tail
  | .flowMappingStart, _, _ =>
    Step.meet (.mappingStart properties) start [flowMapping next.start true] tokens.tail
  | .blockSequenceStart, true, _ =>
    Step.meet (.sequenceStart properties) start [blockSequence next.start] tokens.tail
  | .blockMappingStart, true, _ =>
    Step.meet (.mappingStart properties) start [blockMapping next.start] tokens.tail
  | _, _, _ =>
    if properties.anchor.isSome || properties.tag.isSome then
      Step.meet (.scalar properties "" true) start [] tokens
    else
      .fail .missingContent next.start (if block then .blockNode else .flowNode) start

/-- Meet a node. -/
def stepNode (handles : Handles) (block indentless : Bool) (tokens : Tokens) : Reading Step := do
  let first ← tokens.head
  match first.token with
  | .reference name => Step.meet (.reference name) first.start [] tokens.tail
  | _ => stepContent handles block indentless first.start tokens

/-- Meet the node after an indicator, which ends at a place. The node has been left out if one of
the given tokens follows. -/
def stepOptional (node : Goal) (isEnd : Token → Bool) (mark : Mark) (goals : List Goal)
    (tokens : Tokens) : Reading Step := do
  let next ← tokens.head
  if isEnd next.token then Step.meetEmpty mark goals tokens
  else Step.silent (node :: goals) tokens

/-- Meet the node after an indicator; if it has been left out its place is that of the token that
follows. -/
def stepOptionalHere (node : Goal) (isEnd : Token → Bool) (goals : List Goal) (tokens : Tokens) :
    Reading Step := do
  stepOptional node isEnd (← tokens.head).start goals tokens

/-! ## Block collections -/

/-- The tokens before which an entry of a block sequence has been left out. -/
def endsBlockEntry : Token → Bool
  | .blockEntry | .blockEnd => true
  | _ => false

/-- The same for a sequence that is not indented. -/
def endsIndentlessEntry : Token → Bool
  | .blockEntry | .key | .value | .blockEnd => true
  | _ => false

/-- The tokens before which a key or a value of a block mapping has been left out. -/
def endsBlockPart : Token → Bool
  | .key | .value | .blockEnd => true
  | _ => false

/-- Meet an entry of a block sequence, or its end. -/
def stepBlockSequence (start : Mark) (tokens : Tokens) : Reading Step := do
  let next ← tokens.head
  match next.token with
  | .blockEntry =>
    stepOptional (node true false) endsBlockEntry next.stop [blockSequence start] tokens.tail
  | .blockEnd => Step.meet .sequenceEnd next.start [] tokens.tail
  | _ => .fail .missingDash next.start .blockSequence start

/-- Meet an entry of a block sequence that is not indented, or its end. -/
def stepIndentlessSequence (tokens : Tokens) : Reading Step := do
  let next ← tokens.head
  match next.token with
  | .blockEntry =>
    stepOptional (node true false) endsIndentlessEntry next.stop [indentlessSequence] tokens.tail
  | _ => Step.meet .sequenceEnd next.start [] tokens

/-- Meet a key of a block mapping, or its end. -/
def stepBlockMapping (start : Mark) (tokens : Tokens) : Reading Step := do
  let next ← tokens.head
  match next.token with
  | .key =>
    stepOptional (node true true) endsBlockPart next.stop [blockValue, blockMapping start]
      tokens.tail
  | .blockEnd => Step.meet .mappingEnd next.start [] tokens.tail
  | _ => .fail .missingKey next.start .blockMapping start

/-- Meet a value of a block mapping. -/
def stepBlockValue (tokens : Tokens) : Reading Step := do
  let next ← tokens.head
  match next.token with
  | .value => stepOptional (node true true) endsBlockPart next.stop [] tokens.tail
  | _ => Step.meetEmpty next.start [] tokens

/-! ## Flow collections -/

/-- The tokens before which the value of a mapping in a flow sequence has been left out. -/
def endsPairValue : Token → Bool
  | .flowEntry | .flowSequenceEnd => true
  | _ => false

/-- The tokens before which the value of a flow mapping has been left out. -/
def endsFlowValue : Token → Bool
  | .flowEntry | .flowMappingEnd => true
  | _ => false

/-- Pass over the comma between two entries. -/
def passComma (problem : Problem) (construct : Construct) (start : Mark) (isFirst : Bool)
    (tokens : Tokens) : Reading Tokens := do
  if isFirst then return tokens
  else
    let next ← tokens.head
    match next.token with
    | .flowEntry => return tokens.tail
    | _ => .fail problem next.start construct start

/-- Meet an entry of a flow sequence, or its end. -/
def stepFlowSequence (start : Mark) (isFirst : Bool) (tokens : Tokens) : Reading Step := do
  let close (next : PlacedToken) (tokens : Tokens) : Reading Step :=
    Step.meet .sequenceEnd next.start [] tokens.tail
  let next ← tokens.head
  if next.token = .flowSequenceEnd then close next tokens
  else
    let tokens ← passComma .unclosedSequence .flowSequence start isFirst tokens
    let next ← tokens.head
    match next.token with
    | .key =>
      Step.meet (.mappingStart .none) next.start [pairKey, flowSequence start false] tokens.tail
    | .flowSequenceEnd => close next tokens
    | _ => Step.silent [node false false, flowSequence start false] tokens

/-- Meet the key of a mapping that is an entry of a flow sequence. Where the key has been left out,
the token that says so is passed over, be it the colon before the value or not. -/
def stepPairKey (tokens : Tokens) : Reading Step := do
  let next ← tokens.head
  match next.token with
  | .value | .flowEntry | .flowSequenceEnd => Step.meetEmpty next.stop [pairValue] tokens.tail
  | _ => Step.silent [node false false, pairValue] tokens

/-- Meet the value of a mapping that is an entry of a flow sequence. -/
def stepPairValue (tokens : Tokens) : Reading Step := do
  let next ← tokens.head
  match next.token with
  | .value => stepOptionalHere (node false false) endsPairValue [pairEnd] tokens.tail
  | _ => Step.meetEmpty next.start [pairEnd] tokens

/-- Meet a key of a flow mapping, or its end. -/
def stepFlowMapping (start : Mark) (isFirst : Bool) (tokens : Tokens) : Reading Step := do
  let close (next : PlacedToken) (tokens : Tokens) : Reading Step :=
    Step.meet .mappingEnd next.start [] tokens.tail
  let next ← tokens.head
  if next.token = .flowMappingEnd then close next tokens
  else
    let tokens ← passComma .unclosedMapping .flowMapping start isFirst tokens
    let next ← tokens.head
    let others := flowMapping start false
    match next.token with
    | .key =>
      stepOptionalHere (node false false) (fun token => token = .value || endsFlowValue token)
        [flowValue, others] tokens.tail
    | .flowMappingEnd => close next tokens
    | _ => Step.silent [node false false, flowNoValue, others] tokens

/-- Meet a value of a flow mapping. -/
def stepFlowValue (tokens : Tokens) : Reading Step := do
  let next ← tokens.head
  match next.token with
  | .value => stepOptionalHere (node false false) endsFlowValue [] tokens.tail
  | _ => Step.meetEmpty next.start [] tokens

/-- Meet the first thing that a goal asks for. -/
def step (handles : Handles) (tokens : Tokens) : Goal → Reading Step
  | content => do
    let next ← tokens.head
    match next.token with
    | .directive _ | .documentStart | .documentEnd | .streamEnd =>
      Step.meetEmpty next.start [] tokens
    | _ => Step.silent [node true false] tokens
  | documentEnd => do
    let next ← tokens.head
    Step.silent [] (if next.token = .documentEnd then tokens.tail else tokens)
  | node block indentless => stepNode handles block indentless tokens
  | blockSequence start => stepBlockSequence start tokens
  | indentlessSequence => stepIndentlessSequence tokens
  | blockMapping start => stepBlockMapping start tokens
  | blockValue => stepBlockValue tokens
  | flowSequence start isFirst => stepFlowSequence start isFirst tokens
  | pairKey => stepPairKey tokens
  | pairValue => stepPairValue tokens
  | pairEnd => do Step.meet .mappingEnd (← tokens.head).start [] tokens
  | flowMapping start isFirst => stepFlowMapping start isFirst tokens
  | flowValue => stepFlowValue tokens
  | flowNoValue => do Step.meetEmpty (← tokens.head).start [] tokens

end Goal

/-! ## Documents -/

/-- What is met in the first document of a text. -/
structure Transcript where
  events : List PlacedEvent
  /-- What is wrong with the text, if that shows before the document has ended. -/
  failure : Option Failure
  /-- Whether anything but the end of the text follows the document. -/
  hasMore : Bool
  deriving Repr

namespace Transcript

/-- Whether anything but the end of the text is left. End indicators do not count. -/
def isMore : Tokens → Bool
  | .finished _ => false
  | .broken _ => true
  | .token first rest => if first.token = .documentEnd then isMore rest else true

/-- Read the directives before a document. -/
def readDirectives (hasVersion : Bool) (handles : Handles) : Tokens → Reading (Handles × Tokens)
  | .finished mark => .ok (handles, .finished mark)
  | .broken failure => .error failure
  | .token first rest =>
    match first.token with
    | .directive (.version major minor) =>
      if hasVersion then .failAlone .duplicateVersion first.start
      else if major ≠ 1 ∨ (minor ≠ 1 ∧ minor ≠ 2) then .failAlone .incompatibleVersion first.start
      else readDirectives true handles rest
    | .directive (.abbreviation handle stem) =>
      if (handles.lookup handle).isSome then .failAlone .duplicateHandle first.start
      else readDirectives hasVersion (handles ++ [(handle, stem)]) rest
    | _ => .ok (handles, .token first rest)

/-- Read what comes before the content of a document that begins with directives or with a start
indicator: the handles it introduces. They come before those that need no introduction. -/
def readProlog (tokens : Tokens) : Reading (Handles × Tokens) := do
  let (handles, tokens) ← readDirectives false [] tokens
  let next ← tokens.head
  if next.token = .documentStart then return (handles ++ .usual, tokens.tail)
  else .failAlone .missingDocumentStart next.start

/-- Meet what is left to be met, after some events, the last of them first. -/
def follow (handles : Handles) : Nat → List Goal → Tokens → List PlacedEvent → Transcript
  | rounds + 1, goal :: goals, tokens, met =>
    match goal.step handles tokens with
    | .error failure => ⟨met.reverse, some failure, true⟩
    | .ok step => follow handles rounds (step.goals ++ goals) step.tokens (step.event.toList ++ met)
  | _, _, tokens, met => ⟨met.reverse, none, isMore tokens⟩

/-- The number of rounds in which the goals of a document are certainly reached: of any few rounds
in a row one passes over a token. -/
def enoughRounds (tokens : Tokens) : Nat := 8 * (tokens.length + 2)

/-- What is met in the first document of a text with the given tokens. A text without a document
has one that consists of an empty node at the end. -/
def ofTokens (tokens : Tokens) : Transcript :=
  match tokens.head with
  | .error failure => ⟨[], some failure, true⟩
  | .ok next =>
    let rounds := enoughRounds tokens
    match next.token with
    | .streamEnd => ⟨[⟨.empty, next.start⟩], none, false⟩
    | .directive _ | .documentStart =>
      match readProlog tokens with
      | .error failure => ⟨[], some failure, true⟩
      | .ok (handles, tokens) => follow handles rounds [.content, .documentEnd] tokens []
    | _ => follow .usual rounds [.node true false, .documentEnd] tokens []

end Transcript

end SingleRoot.Markup
