import LiveTemplate.Scene.Basic
import LiveTemplate.Scene.Error
import LiveTemplate.Text.Blank
import LiveTemplate.Yaml.Content

/-!
Reads scenes from YAML texts.  A scene must have a name that is not blank, and at least one view.
-/

namespace LiveTemplate

open Yaml Decode

/-- The names of filter sets. -/
def FilterSet.names : List (String × FilterSet) :=
  [("builtin", .builtin), ("none", .none)]

/-- The fields of a view that were read so far. -/
structure ViewDraft where
  owner : Option (Option String) := none
  state : Option (List (String × Value)) := none
  props : Option (List (String × Value)) := none

/-- Reads a view.  Everything about it may be left out. -/
def ViewSpec.read : Decoder ViewSpec :=
  record "ViewSpec" ({} : ViewDraft)
    (fun d name p node => do
      if name = "owner" then
        return { d with owner := ← once name d.owner (optional (text "a string") p node) }
      else if name = "state" then
        return { d with state := ← once name d.state (table value p node) }
      else if name = "props" then
        return { d with props := ← once name d.props (table value p node) }
      else unknownField d node)
    (fun d => return ⟨d.owner.join, .ofList (d.state.getD []), .ofList (d.props.getD [])⟩)

/-- The fields of a bound template that were read so far. -/
structure BindingDraft where
  view : Option String := none
  template : Option String := none

/-- Reads a bound template. -/
def BindingSpec.read : Decoder BindingSpec :=
  record "BindingSpec" ({} : BindingDraft)
    (fun d name p node => do
      if name = "view" then
        return { d with view := ← once name d.view (text "a string" p node) }
      else if name = "template" then
        return { d with template := ← once name d.template (text "a string" p node) }
      else unknownField d node)
    (fun d => do return ⟨← required "view" d.view, ← required "template" d.template⟩)

/-! Updates.  An update names what it does under the key `action`.  What it does decides which other
fields it has, so these are read as they are before they are looked at. -/

/-- The kinds of updates. -/
inductive UpdateKind where
  | set
  | destroy
deriving DecidableEq, Repr

namespace UpdateKind

/-- The names of the kinds. -/
def names : List (String × UpdateKind) :=
  [("set", .set), ("destroy", .destroy)]

/-- The fields that an update of a kind has, in their order. -/
def fields : UpdateKind → List String
  | .set => ["view", "key", "value"]
  | .destroy => ["view"]

/-- How messages call the fields of a kind. -/
def expected : UpdateKind → String
  | .set => "struct variant Update::Set with 3 elements"
  | .destroy => "struct variant Update::Destroy with 1 element"

/-- How messages call the number of fields. -/
def counted : UpdateKind → String
  | .set => "3 elements in sequence"
  | .destroy => "1 element in sequence"

end UpdateKind

/-- The fields of an update that were read so far. -/
structure UpdateDraft where
  view : Option String := none
  key : Option String := none
  value : Option Value := none

namespace UpdateDraft

/-- Reads the field of a name. -/
def put (d : UpdateDraft) (name : String) (content : Content) : Decode UpdateDraft := do
  if name = "view" then
    return { d with view := ← once name d.view (content.asText "a string") }
  else if name = "key" then
    return { d with key := ← once name d.key (content.asText "a string") }
  else return { d with value := ← once name d.value content.asValue }

/-- Reads fields that are written with their names. -/
def putMembers (kind : UpdateKind) (d : UpdateDraft) :
    List (Content × Content) → Decode UpdateDraft
  | [] => return d
  | (key, content) :: rest => do
    match ← key.asField kind.fields with
    | some name => putMembers kind (← d.put name content) rest
    | none => putMembers kind d rest

/-- Reads fields that are written in their order.  All of them must be there, and nothing else. -/
def putItems (kind : UpdateKind) (d : UpdateDraft) (index : Nat) :
    List String → List Content → Decode UpdateDraft
  | [], [] => return d
  | [], rest => mismatch (.invalidLength (index + rest.length) kind.counted)
  | _ :: _, [] => mismatch (.invalidLength index kind.expected)
  | name :: names, content :: rest => do
    putItems kind (← d.put name content) (index + 1) names rest

/-- The update of a kind that the fields make. -/
def finish (d : UpdateDraft) : UpdateKind → Decode Update
  | .set => do
    return .set (← required "view" d.view) (← required "key" d.key) (← required "value" d.value)
  | .destroy => do return .destroy (← required "view" d.view)

end UpdateDraft

/-- The fields of an update: with their names, or in their order. -/
inductive UpdateFields where
  | named (entries : List (Content × Content))
  | listed (items : List Content)

namespace Update

/-- How messages call an update before its kind is known. -/
def expected : String := "internally tagged enum Update"

/-- How messages call a key of an update. -/
def keyExpected : String := "a type tag \x60action\x60 or any other value"

/-- Reads the name of a kind. -/
def readKind : Decoder UpdateKind :=
  onNode fun _ node =>
    match node with
    | .scalar _ s => variant UpdateKind.names s.text
    | node => refuse "variant identifier" node

/-- Reads the members of an update.  The kind must be given once. -/
def readMembers (p : Place) (kind : Option UpdateKind) (fields : List (Content × Content)) :
    List (Node × Node) → Decode (UpdateKind × UpdateFields)
  | [] => do return (← required "action" kind, .named fields.reverse)
  | (k, v) :: rest => do
    match ← Content.readAs keyExpected p k with
    | .scalar (.text "action") =>
      let kind ← once "action" kind (readKind (p.ofKey k) v)
      readMembers p kind fields rest
    | key =>
      let content ← Content.read (p.ofKey k) v
      readMembers p kind ((key, content) :: fields) rest

/-- Reads the kind and the fields of an update. -/
def readParts : Decoder (UpdateKind × UpdateFields) :=
  onNode fun p node => do
    if (ownTag? (tagOf node)).isSome then mismatch (.invalidType .tagged expected)
    else
      match node with
      | .sequence _ _ items =>
        let p ← descend p node
        match items with
        | [] => mismatch (.missingField "action")
        | first :: rest =>
          let kind ← readKind (p.item 0) first
          return (kind, .listed (← itemsFrom Content.read p 1 rest))
      | .mapping _ _ entries => readMembers (← descend p node) none [] entries
      | node => refuse expected node

/-- Reads an update. -/
def read : Decoder Update := fun p node => do
  let (kind, fields) ← readParts p node
  let d ←
    match fields with
    | .named entries => UpdateDraft.putMembers kind {} entries
    | .listed items => UpdateDraft.putItems kind {} 0 kind.fields items
  d.finish kind

end Update

/-- The fields of a scene that were read so far. -/
structure SceneDraft where
  name : Option String := none
  description : Option (Option String) := none
  filters : Option (Option FilterSet) := none
  views : Option (List (String × ViewSpec)) := none
  bindings : Option (List BindingSpec) := none
  updates : Option (List Update) := none

namespace Scene

/-- Reads a scene. -/
def read : Decoder Scene :=
  record "Scene" ({} : SceneDraft)
    (fun d name p node => do
      if name = "name" then
        return { d with name := ← once name d.name (text "a string" p node) }
      else if name = "description" then
        return { d with description := ← once name d.description (optional (text "a string") p node) }
      else if name = "filters" then
        return { d with filters := ← once name d.filters (optional (variants FilterSet.names) p node) }
      else if name = "views" then
        return { d with views := ← once name d.views (table ViewSpec.read p node) }
      else if name = "bindings" then
        return { d with bindings := ← once name d.bindings (sequence BindingSpec.read p node) }
      else if name = "updates" then
        return { d with updates := ← once name d.updates (sequence Update.read p node) }
      else unknownField d node)
    (fun d => do
      let name ← required "name" d.name
      let views ← required "views" d.views
      return ⟨name, d.description.join, d.filters.join, .ofList views, d.bindings.getD [],
        d.updates.getD []⟩)

/-- Checks that a scene has a name and a view. -/
def check (s : Scene) : Except SceneError Scene :=
  if (Text.trim s.name).isEmpty then .error (.missingField "name")
  else if s.views.isEmpty then .error (.validation .emptyScene)
  else .ok s

/-- The scene of a text. -/
def ofYaml (source : String) : Except SceneError Scene :=
  match Yaml.decode read source with
  | .error e => .error (.yaml e)
  | .ok s => s.check

end Scene

end LiveTemplate
