import LiveTemplate.Yaml.Literal
import LiveTemplate.Value.Basic

/-!
Reading data out of a document.  What is asked for is read node by node in the order of the text, and
the first problem counts, be it one of the data or the place where the text breaks off.  A problem of the
data is located at the innermost node that was asked for something.  Aliases are followed a limited number
of times, and collections nest to a limited depth.
-/

namespace LiveTemplate.Yaml

/-- How deep collections may nest. -/
def maxDepth : Nat := 128

/-- How often aliases may be followed for every leaf and end of a collection in the document. -/
def aliasRate : Nat := 100

/-- Where reading stands: the nodes that aliases stand for, the way from the root, and how much deeper
collections may nest. -/
structure Place where
  anchors : Anchors
  path : Path
  depth : Nat

/-- What reads data.  The state counts how often aliases may still be followed. -/
abbrev Decode := StateT Nat (Except Error)

/-- What reads data of a node. -/
abbrev Decoder (α : Type) := Place → Node → Decode α

namespace Place

/-- The place of the value of a key. -/
def ofKey (p : Place) (key : Node) : Place :=
  match key with
  | .scalar _ s => { p with path := .key s.text :: p.path }
  | _ => { p with path := .otherKey :: p.path }

/-- The place of an item. -/
def item (p : Place) (index : Nat) : Place :=
  { p with path := .item index :: p.path }

end Place

namespace Decode

variable {α β σ : Type}

/-- Fails with a mismatch that is yet to be located. -/
def mismatch (cause : Mismatch) : Decode α :=
  throw (.mismatch cause none)

/-- Checks that the text does not break off at a node. -/
def unbroken (node : Node) : Decode Node :=
  match node with
  | .broken e => throw e
  | node => return node

/-- Follows an alias to its node, at which the text does not break off. -/
def resolve (p : Place) (node : Node) : Decode Node := do
  match node with
  | .alias _ number =>
    match ← get with
    | 0 => throw .repetitionLimit
    | left + 1 =>
      set left
      unbroken ((p.anchors.find? number).getD node)
  | node => unbroken node

/-- Locates the problems of reading a node at that node. -/
def locating (p : Place) (node : Node) (act : Decode α) : Decode α :=
  fun left => (act left).mapError (Error.locate p.path node.mark)

/-- Reads a node with its alias followed, and locates problems there. -/
def onNode (read : Decoder α) : Decoder α := fun p node => do
  let node ← resolve p node
  locating p node (read p node)

/-- Goes down into a collection. -/
def descend (p : Place) (node : Node) : Decode Place :=
  match p.depth with
  | 0 => throw (.recursionLimit node.mark)
  | depth + 1 => return { p with depth := depth }

/-- Fails since a node is not of the kind that is expected. -/
def refuse (expected : String) (node : Node) : Decode α :=
  match node with
  | .scalar _ s =>
    match s.literal with
    | .ok l => mismatch (.invalidType l.found expected)
    | .error cause => mismatch cause
  | .sequence .. => mismatch (.invalidType .sequence expected)
  | .mapping .. => mismatch (.invalidType .mapping expected)
  | .alias .. => mismatch (.invalidType .unit expected)
  | .broken e => throw e

/-- Whether nothing is written at a node. -/
def isBlank : Node → Bool
  | .scalar _ s => s.text.isEmpty && s.style == .plain
  | _ => false

/-- Reads the text of any scalar. -/
def text (expected : String) : Decoder String :=
  onNode fun _ node =>
    match node with
    | .scalar _ s => return s.text
    | node => refuse expected node

/-- Reads a truth value. -/
def bool : Decoder Bool :=
  onNode fun _ node =>
    match node with
    | .scalar _ s =>
      let mayBe := s.style = .plain ∨ (s.style = .literal ∧ s.tag = some boolTag)
      match readBool? s.text with
      | some b => if mayBe then return b else refuse "a boolean" node
      | none => refuse "a boolean" node
    | node => refuse "a boolean" node

/-- Whether a scalar stands for the absence of a value.  One with a tag does so only if that is the tag
of null. -/
def isAbsent (s : Scalar) : Except Mismatch Bool :=
  if s.style ≠ .plain then .ok false
  else
    match s.tag with
    | none => .ok (s.text.isEmpty || isNull s.text)
    | some tag =>
      if tag ≠ nullTag then .ok false
      else if isNull s.text then .ok true
      else .error (.invalidValue s.text "null")

/-- Reads what may be absent. -/
def optional (read : Decoder α) : Decoder (Option α) := fun p node => do
  let node ← resolve p node
  match node with
  | .scalar _ s =>
    match isAbsent s with
    | .error cause => mismatch cause
    | .ok true => return none
    | .ok false => return some (← read p node)
  | node => return some (← read p node)

/-- Reads the items of a sequence that stand from an index on. -/
def itemsFrom (read : Decoder α) (p : Place) (index : Nat) : List Node → Decode (List α)
  | [] => return []
  | node :: rest => do
    let a ← read (p.item index) node
    return a :: (← itemsFrom read p (index + 1) rest)

/-- Reads a sequence.  Where nothing is written there are no items. -/
def sequence (read : Decoder α) : Decoder (List α) :=
  onNode fun p node => do
    match node with
    | .sequence _ _ items => itemsFrom read (← descend p node) 0 items
    | node => if isBlank node then return [] else refuse "a sequence" node

/-- Reads the members of a mapping one after the other. -/
def foldMembers (key : Decoder α) (member : σ → α → Place → Node → Decode σ) (p : Place) (state : σ) :
    List (Node × Node) → Decode σ
  | [] => return state
  | (k, v) :: rest => do
    let a ← key p k
    let state ← member state a (p.ofKey k) v
    foldMembers key member p state rest

/-- Reads a mapping from a state that its members change.  Where nothing is written there are no
members. -/
def members (expected : String) (key : Decoder α) (initial : σ)
    (member : σ → α → Place → Node → Decode σ) (finish : σ → Decode β) : Decoder β :=
  onNode fun p node => do
    match node with
    | .mapping _ _ entries => finish (← foldMembers key member (← descend p node) initial entries)
    | node => if isBlank node then finish initial else refuse expected node

/-- Reads a mapping with texts as keys.  Of members with the same key the last counts. -/
def table (read : Decoder α) : Decoder (List (String × α)) :=
  members "a map" (text "a string") []
    (fun done key p node => do return (key, ← read p node) :: done) (fun done => return done.reverse)

mutual

/-- Passes over a node of which nothing is asked.  No alias is followed. -/
def passOver : Node → Decode Unit
  | .sequence _ _ items => passOverItems items
  | .mapping _ _ entries => passOverEntries entries
  | .broken e => throw e
  | _ => return ()

/-- Passes over items. -/
def passOverItems : List Node → Decode Unit
  | [] => return ()
  | item :: rest => do
    passOver item
    passOverItems rest

/-- Passes over entries. -/
def passOverEntries : List (Node × Node) → Decode Unit
  | [] => return ()
  | (key, value) :: rest => do
    passOver key
    passOver value
    passOverEntries rest

end

/-- Passes over a field that is not known. -/
def unknownField (state : σ) (node : Node) : Decode σ := do
  passOver node
  return state

/-- Reads a record from the state in which no field was read.  What is read of a field may be that it is
not known. -/
def record (name : String) (initial : σ) (field : σ → String → Place → Node → Decode σ)
    (finish : σ → Decode β) : Decoder β :=
  members ("struct " ++ name) (text "field identifier") initial field finish

/-- Reads a field that must not have been read before. -/
def once (name : String) (previous : Option α) (read : Decode α) : Decode (Option α) := do
  if previous.isSome then mismatch (.duplicateField name) else return some (← read)

/-- The value of a field that must have been read. -/
def required (name : String) : Option α → Decode α
  | some a => return a
  | none => mismatch (.missingField name)

/-- Checks that nothing follows the tag that names a variant. -/
def noContent : Decoder Unit :=
  onNode fun _ node =>
    match node with
    | .scalar _ s =>
      if s.style = .plain ∧ (s.text.isEmpty ∨ isNull s.text) then return ()
      else mismatch (.invalidValue s.text "null")
    | node => refuse "unit" node

/-- The variant of a name. -/
def variant (variants : List (String × α)) (name : String) : Decode α :=
  match variants.lookup name with
  | some a => return a
  | none => mismatch (.unknownVariant name (variants.map Prod.fst))

/-- The tag of a node. -/
def tagOf : Node → Option TagBytes
  | .scalar _ s => s.tag
  | .sequence _ tag _ => tag
  | .mapping _ tag _ => tag
  | .alias .. => none
  | .broken _ => none

/-- Reads one of some variants, named by a tag or by a scalar.  The name in a tag is not located. -/
def variants (known : List (String × α)) : Decoder α := fun p node => do
  let node ← resolve p node
  match ownTag? (tagOf node), node with
  | some name, node =>
    let a ← variant known name
    noContent p node
    return a
  | none, .scalar _ s => locating p node (variant known s.text)
  | none, node => locating p node (refuse "a YAML tag starting with '!'" node)

/-- The number that an integer is, if it fits 64 bits. -/
def wholeNumber (i : Int) : Decode Value :=
  match Whole.ofInt? i with
  | some w => return .number (.whole w)
  | none => mismatch .numberRange

/-- The value that a literal is.  What is beside the numbers becomes null. -/
def literalValue : Literal → Decode Value
  | .null => return .null
  | .bool b => return .bool b
  | .unsigned n => wholeNumber n
  | .negative n => wholeNumber (-n)
  | .float (.finite x) => return .number (.float x)
  | .float _ => return .null
  | .text s => return .string s

/-- Reads the key of a member of an object, the first of which is announced in other words. -/
def objectKey (isFirst : Bool) : Decoder String :=
  text (if isFirst then "a string key" else "a string")

/-- Reads the members of an object. -/
def objectMembers (read : Decoder Value) (p : Place) (isFirst : Bool) :
    List (Node × Node) → Decode (List (String × Value))
  | [] => return []
  | (k, v) :: rest => do
    let key ← objectKey isFirst p k
    let value ← read (p.ofKey k) v
    return (key, value) :: (← objectMembers read p false rest)

/-- Reads a value, given how the contents of collections are read, unless they are too deep. -/
def valueOf (inner : Option (Decoder Value)) : Decoder Value :=
  onNode fun p node => do
    if (ownTag? (tagOf node)).isSome then mismatch (.invalidType .tagged "any valid JSON value")
    else
      match node, inner with
      | .scalar _ s, _ =>
        match s.literal with
        | .ok l => literalValue l
        | .error cause => mismatch cause
      | .sequence _ _ items, some read => return .array (← itemsFrom read p 0 items)
      | .mapping _ _ entries, some read => return .ofMembers (← objectMembers read p true entries)
      | .alias .., _ => return .null
      | .broken e, _ => throw e
      | node, none => throw (.recursionLimit node.mark)

/-- How the contents of a collection are read, if collections may still nest to a depth. -/
def valuesWithin : (depth : Nat) → Option (Decoder Value)
  | 0 => none
  | depth + 1 => some (valueOf (valuesWithin depth))

/-- Reads a value. -/
def value : Decoder Value := fun p node => valueOf (valuesWithin p.depth) p node

end Decode

/-- Reads data from the only document of a text.  A fault of the data goes before what is wrong with the
text behind it. -/
def decode {α : Type} (read : Decoder α) (source : String) : Except Error α := do
  let document := firstDocument source
  let place : Place := ⟨document.anchors, [], maxDepth⟩
  let (a, _) ← (read place document.root).run (aliasRate * document.root.weight)
  match document.failure with
  | some e => throw e
  | none => if document.isLast then return a else throw .severalDocuments

end LiveTemplate.Yaml
