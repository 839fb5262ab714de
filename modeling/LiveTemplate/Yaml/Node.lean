import LiveTemplate.Yaml.Token

/-!
Documents as trees of nodes, read from tokens.  An anchor gives its node a number, and an alias is a
leaf that refers to such a number, so the tree stays finite when a node contains an alias of itself.

A text that is not well formed gives a tree, too: it has what stands in front of the first error, and
where the text breaks off, every open collection ends with a broken node.  So whoever reads data out of
the tree meets what comes first, a fault of the data or the error of the text.
-/

namespace LiveTemplate.Yaml

/-- A scalar: its text, how it is written and its tag. -/
structure Scalar where
  text : String
  style : Style
  tag : Option TagBytes
deriving DecidableEq, Repr

/-- A node and the position at which it begins.  A broken node stands where the text breaks off. -/
inductive Node where
  | scalar (mark : Mark) (s : Scalar)
  | sequence (mark : Mark) (tag : Option TagBytes) (items : List Node)
  | mapping (mark : Mark) (tag : Option TagBytes) (entries : List (Node × Node))
  | alias (mark : Mark) (anchor : Nat)
  | broken (error : Error)
deriving Inhabited

namespace Node

/-- The position at which a node begins. -/
def mark : Node → Mark
  | .scalar mark _ => mark
  | .sequence mark _ _ => mark
  | .mapping mark _ _ => mark
  | .alias mark _ => mark
  | .broken _ => .start

/-- A node of which nothing is written. -/
def blank (mark : Mark) : Node :=
  .scalar mark ⟨"", .plain, none⟩

mutual

/-- The number of leaves and of ends of collections, as far as the text goes. -/
def weight : Node → Nat
  | .scalar .. => 1
  | .alias .. => 1
  | .sequence _ _ items => weightOfItems items + 1
  | .mapping _ _ entries => weightOfEntries entries + 1
  | .broken _ => 0

/-- The weight of items and of the end behind them. -/
def weightOfItems : List Node → Nat
  | [] => 1
  | .broken _ :: _ => 0
  | item :: rest => weight item + weightOfItems rest

/-- The weight of entries and of the end behind them. -/
def weightOfEntries : List (Node × Node) → Nat
  | [] => 1
  | (.broken _, _) :: _ => 0
  | (key, value) :: rest => weight key + weight value + weightOfEntries rest

end

end Node

/-- The anchors met so far.  An anchor takes as its number how many names were met before it; a name
that is given again takes a new number in the same way, so that the next new name takes that one, too.
A number stands for the node that took it last. -/
structure Anchors where
  names : List (String × Nat)
  holders : List (Nat × Nat)
  nodes : List (Nat × Node)

namespace Anchors

/-- No anchors. -/
def empty : Anchors := ⟨[], [], []⟩

/-- Gives a name to a node that begins; also tells how the node is known until it ends. -/
def enter (a : Anchors) (name : String) : Nat × Anchors :=
  let number := a.names.length
  let holder := a.holders.length
  (holder, { a with
    names := (name, number) :: a.names.filter (·.1 != name), holders := (number, holder) :: a.holders })

/-- Takes note of a node that has ended. -/
def leave (a : Anchors) (holder : Nat) (node : Node) : Anchors :=
  { a with nodes := (holder, node) :: a.nodes }

/-- The node that a number stands for. -/
def find? (a : Anchors) (number : Nat) : Option Node :=
  (a.holders.lookup number).bind fun holder => a.nodes.lookup holder

end Anchors

/-- The state of reading nodes: the tokens that are left, the error that they end with, the meanings of
tag handles, the anchors. -/
structure Reading where
  tokens : List Token
  failure : Option Error
  handles : List (String × TagBytes)
  anchors : Anchors

/-- What reads from tokens. -/
abbrev Read := ExceptT Error (StateM Reading)

namespace Read

/-- Ends the reading with an error.  No token is left then. -/
def stop {α : Type} (e : Error) : Read α := do
  modify fun r => { r with tokens := [], failure := some e }
  throw e

/-- The next token, which is not taken. -/
def peek : Read Token := do
  let r ← get
  match r.tokens, r.failure with
  | token :: _, _ => return token
  | [], some e => throw e
  | [], none => return ⟨.textEnd, .start, .start⟩

/-- Takes the next token. -/
def take : Read Token := do
  let token ← peek
  modify fun r => { r with tokens := r.tokens.drop 1 }
  return token

/-- Fails at the next token. -/
def fail {α : Type} (problem : SyntaxProblem) : Read α := do
  stop (.malformed problem (← peek).start)

/-- What is read, or what stands for it where the text breaks off. -/
def orElse {α : Type} (broken : Error → α) (read : Read α) : Read α :=
  tryCatch read fun e => return broken e

/-- Reads a node, which is broken where the text breaks off. -/
def node (read : Read Node) : Read Node :=
  orElse .broken read

/-- Reads what is left of some items. -/
def items (read : Read (List Node)) : Read (List Node) :=
  orElse (fun e => [.broken e]) read

/-- Reads what is left of some entries. -/
def entries (read : Read (List (Node × Node))) : Read (List (Node × Node)) :=
  orElse (fun e => [(.broken e, .broken e)]) read

/-- The tag that a handle and a suffix make. -/
def resolveTag (handle : String) (suffix : TagBytes) : Read TagBytes := do
  if handle.isEmpty then return suffix
  else
    match (← get).handles.lookup handle with
    | some meaning => return meaning ++ suffix
    | none => fail .tagHandle

end Read

/-- What stands in front of the content of a node: its anchor and its tag, with the position at which
the node begins. -/
structure Properties where
  start : Mark
  anchor : Option String
  tag : Option TagBytes

namespace Properties

/-- Reads an anchor, if there is one. -/
def readAnchor? : Read (Option String) := do
  match (← Read.peek).kind with
  | .anchor name =>
    let _ ← Read.take
    return some name
  | _ => return none

/-- Reads a tag, if there is one. -/
def readTag? : Read (Option (String × TagBytes)) := do
  match (← Read.peek).kind with
  | .tag handle suffix =>
    let _ ← Read.take
    return some (handle, suffix)
  | _ => return none

/-- Reads an anchor and a tag, which may be missing and stand in either order. -/
def read : Read Properties := do
  let start := (← Read.peek).start
  let first ← readAnchor?
  let tag ← readTag?
  let anchor ← if first.isNone && tag.isSome then readAnchor? else pure first
  let tag ← tag.mapM fun (handle, suffix) => Read.resolveTag handle suffix
  return ⟨start, anchor, tag⟩

end Properties

/-- Reads a node whose properties were read, and gives it its anchor. -/
def anchored (properties : Properties) (read : Read Node) : Read Node := do
  match properties.anchor with
  | none => read
  | some name =>
    let holder ← modifyGet fun r =>
      let (holder, anchors) := r.anchors.enter name
      (holder, { r with anchors := anchors })
    let node ← Read.node read
    modify fun r => { r with anchors := r.anchors.leave holder node }
    return node

/-- Whether a token ends an entry of a block sequence that stands in the column of its mapping. -/
def endsEntry : TokenKind → Bool
  | .blockEntry | .key | .value | .blockEnd => true
  | _ => false

/-- Whether a token ends a key or a value of a block mapping. -/
def endsMember : TokenKind → Bool
  | .key | .value | .blockEnd => true
  | _ => false

/-- Whether a token ends an item between brackets. -/
def endsItem : TokenKind → Bool
  | .flowEntry | .flowSequenceEnd => true
  | _ => false

/-- Whether a token ends a value between braces. -/
def endsValue : TokenKind → Bool
  | .flowEntry | .flowMappingEnd => true
  | _ => false

mutual

/-- Reads a node.  In a block it may begin with indentation; a member of a block mapping may be a
sequence in the column of the mapping.  The fuel counts tokens. -/
def readNode : (fuel : Nat) → (inBlock mayAlign : Bool) → Read Node
  | 0, _, _ => Read.fail .nodeContent
  | fuel + 1, inBlock, mayAlign => do
    let first ← Read.peek
    match first.kind with
    | .alias name =>
      let _ ← Read.take
      match (← get).anchors.names.lookup name with
      | some number => return .alias first.start number
      | none => Read.stop (.unknownAnchor first.start)
    | _ =>
      let properties ← Properties.read
      anchored properties (readContent fuel properties inBlock mayAlign)

/-- Reads the content of a node. -/
def readContent : (fuel : Nat) → Properties → (inBlock mayAlign : Bool) → Read Node
  | 0, _, _, _ => Read.fail .nodeContent
  | fuel + 1, properties, inBlock, mayAlign => do
    let mark := properties.start
    match (← Read.peek).kind, inBlock with
    | .scalar text style, _ =>
      let _ ← Read.take
      return .scalar mark ⟨text, style, properties.tag⟩
    | .flowSequenceStart, _ =>
      let _ ← Read.take
      return .sequence mark properties.tag (← readFlowItems fuel true)
    | .flowMappingStart, _ =>
      let _ ← Read.take
      return .mapping mark properties.tag (← readFlowMembers fuel true)
    | .blockSequenceStart, true =>
      let _ ← Read.take
      return .sequence mark properties.tag (← readBlockItems fuel)
    | .blockMappingStart, true =>
      let _ ← Read.take
      return .mapping mark properties.tag (← readBlockMembers fuel)
    | kind, _ =>
      match kind, mayAlign with
      | .blockEntry, true => return .sequence mark properties.tag (← readAlignedItems fuel)
      | _, _ =>
        if properties.anchor.isSome || properties.tag.isSome then
          return .scalar mark ⟨"", .plain, properties.tag⟩
        else Read.fail .nodeContent

/-- Reads the items of a block sequence. -/
def readBlockItems : (fuel : Nat) → Read (List Node)
  | 0 => Read.fail .blockEntry
  | fuel + 1 => Read.items do
    match (← Read.peek).kind with
    | .blockEntry =>
      let dash ← Read.take
      let item ← Read.node do
        match (← Read.peek).kind with
        | .blockEntry | .blockEnd => return .blank dash.stop
        | _ => readNode fuel true false
      return item :: (← readBlockItems fuel)
    | .blockEnd =>
      let _ ← Read.take
      return []
    | _ => Read.fail .blockEntry

/-- Reads the items of a block sequence that stands in the column of its mapping. -/
def readAlignedItems : (fuel : Nat) → Read (List Node)
  | 0 => Read.fail .blockEntry
  | fuel + 1 => Read.items do
    match (← Read.peek).kind with
    | .blockEntry =>
      let dash ← Read.take
      let item ← Read.node do
        if endsEntry (← Read.peek).kind then return .blank dash.stop else readNode fuel true false
      return item :: (← readAlignedItems fuel)
    | _ => return []

/-- Reads the members of a block mapping. -/
def readBlockMembers : (fuel : Nat) → Read (List (Node × Node))
  | 0 => Read.fail .blockKey
  | fuel + 1 => Read.entries do
    match (← Read.peek).kind with
    | .key =>
      let sign ← Read.take
      let key ← Read.node do
        if endsMember (← Read.peek).kind then return .blank sign.stop else readNode fuel true true
      let value ← Read.node do
        let next ← Read.peek
        match next.kind with
        | .value =>
          let sign ← Read.take
          if endsMember (← Read.peek).kind then return .blank sign.stop else readNode fuel true true
        | _ => return .blank next.start
      return (key, value) :: (← readBlockMembers fuel)
    | .blockEnd =>
      let _ ← Read.take
      return []
    | _ => Read.fail .blockKey

/-- Reads the items between brackets. -/
def readFlowItems : (fuel : Nat) → (isFirst : Bool) → Read (List Node)
  | 0, _ => Read.fail .flowEntry
  | fuel + 1, isFirst => Read.items do
    match (← Read.peek).kind, isFirst with
    | .flowSequenceEnd, _ =>
      let _ ← Read.take
      return []
    | .flowEntry, false =>
      let _ ← Read.take
      match (← Read.peek).kind with
      | .flowSequenceEnd =>
        let _ ← Read.take
        return []
      | _ => readFlowItem fuel
    | _, true => readFlowItem fuel
    | _, false => Read.fail .flowEntry

/-- Reads an item between brackets and the items behind it.  An item that begins like a member of a
mapping is a mapping of its own, which ends in front of the next token. -/
def readFlowItem : (fuel : Nat) → Read (List Node)
  | 0 => Read.fail .flowEntry
  | fuel + 1 => Read.items do
    let first ← Read.peek
    match first.kind with
    | .key =>
      let _ ← Read.take
      let key ← Read.node do
        let next ← Read.peek
        match next.kind with
        | .value | .flowEntry | .flowSequenceEnd =>
          let _ ← Read.take
          return .blank next.stop
        | _ => readNode fuel false false
      let value ← Read.node do
        let next ← Read.peek
        match next.kind with
        | .value =>
          let _ ← Read.take
          let next ← Read.peek
          if endsItem next.kind then return .blank next.start else readNode fuel false false
        | _ => return .blank next.start
      let rest ← Read.entries do
        let _ ← Read.peek
        return []
      return .mapping first.start none ((key, value) :: rest) :: (← readFlowItems fuel false)
    | _ =>
      let item ← Read.node (readNode fuel false false)
      return item :: (← readFlowItems fuel false)

/-- Reads the members between braces. -/
def readFlowMembers : (fuel : Nat) → (isFirst : Bool) → Read (List (Node × Node))
  | 0, _ => Read.fail .flowEntry
  | fuel + 1, isFirst => Read.entries do
    match (← Read.peek).kind, isFirst with
    | .flowMappingEnd, _ =>
      let _ ← Read.take
      return []
    | .flowEntry, false =>
      let _ ← Read.take
      match (← Read.peek).kind with
      | .flowMappingEnd =>
        let _ ← Read.take
        return []
      | _ => readFlowMember fuel
    | _, true => readFlowMember fuel
    | _, false => Read.fail .flowEntry

/-- Reads a member between braces and the members behind it.  A key that nothing marks as one has no
value. -/
def readFlowMember : (fuel : Nat) → Read (List (Node × Node))
  | 0 => Read.fail .flowEntry
  | fuel + 1 => Read.entries do
    match (← Read.peek).kind with
    | .key =>
      let _ ← Read.take
      let key ← Read.node do
        let next ← Read.peek
        match next.kind with
        | .value | .flowEntry | .flowMappingEnd => return .blank next.start
        | _ => readNode fuel false false
      let value ← Read.node do
        let next ← Read.peek
        match next.kind with
        | .value =>
          let _ ← Read.take
          let next ← Read.peek
          if endsValue next.kind then return .blank next.start else readNode fuel false false
        | _ => return .blank next.start
      return (key, value) :: (← readFlowMembers fuel false)
    | _ =>
      let key ← Read.node (readNode fuel false false)
      let value ← Read.node do return .blank (← Read.peek).start
      return (key, value) :: (← readFlowMembers fuel false)

end

/-- The meanings of tag handles that need no directive. -/
def standardHandles : List (String × TagBytes) :=
  [("!", bytesOf "!"), ("!!", bytesOf "tag:yaml.org,2002:")]

/-- Reads the directives in front of a document.  The fuel counts tokens. -/
def readDirectives : (fuel : Nat) → (hasVersion : Bool) → Read Unit
  | 0, _ => pure ()
  | fuel + 1, hasVersion => do
    match (← Read.peek).kind with
    | .directive (.version major minor) =>
      if hasVersion then Read.fail .duplicateDirective
      else if major ≠ 1 ∨ (minor ≠ 1 ∧ minor ≠ 2) then Read.fail .version
      else
        let _ ← Read.take
        readDirectives fuel true
    | .directive (.tagHandle handle meaning) =>
      if (← get).handles.any (·.1 == handle) then Read.fail .duplicateDirective
      else
        let _ ← Read.take
        modify fun r => { r with handles := (handle, meaning) :: r.handles }
        readDirectives fuel hasVersion
    | _ => pure ()

/-- A document: its root, the nodes that aliases stand for, the error that it breaks off with, and
whether the text ends with it. -/
structure Document where
  root : Node
  anchors : Anchors
  failure : Option Error
  isLast : Bool

/-- Whether a token can only stand outside the content of a document. -/
def isOutside : TokenKind → Bool
  | .directive _ | .documentStart | .documentEnd | .textEnd => true
  | _ => false

/-- Reads the root of the first document.  A text without any has a root of which nothing is written. -/
def readRoot (fuel : Nat) : Read Node := do
  let first ← Read.peek
  match first.kind with
  | .textEnd => return .blank first.start
  | .directive _ | .documentStart =>
    readDirectives fuel false
    modify fun r => { r with handles := r.handles ++ standardHandles }
    match (← Read.peek).kind with
    | .documentStart =>
      let _ ← Read.take
      let next ← Read.peek
      if isOutside next.kind then return .blank next.start else readNode fuel true false
    | _ => Read.fail .documentStart
  | _ =>
    modify fun r => { r with handles := standardHandles }
    readNode fuel true false

/-- Whether nothing but ends of documents comes before the end of the text. -/
def atTextEnd : List Token → Bool
  | ⟨.documentEnd, _, _⟩ :: rest => atTextEnd rest
  | ⟨.textEnd, _, _⟩ :: _ => true
  | _ => false

/-- The first document of a text.  It ends in front of the next token, and breaks off if there is
none. -/
def firstDocument (text : String) : Document :=
  let ⟨tokens, failure⟩ := tokensOf text
  let (root, r) := (readRoot (4 * tokens.length + 4)).run.run ⟨tokens, failure, [], .empty⟩
  { root := match root with
      | .ok node => node
      | .error e => .broken e
    anchors := r.anchors
    failure := if r.tokens.isEmpty then r.failure else none
    isLast := atTextEnd r.tokens }

/-- Whether a text is well formed and has no more than one document. -/
def isDocument (text : String) : Bool :=
  let document := firstDocument text
  document.failure.isNone && document.isLast

end LiveTemplate.Yaml
