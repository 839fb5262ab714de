import LiveTemplate.Command.Play
import LiveTemplate.Proofs.Template.Composition

/-!
What watching a scene prints, said without anything coming alive.  Views are names, an owner is looked up in
the declarations, and what the views hold is a function of their names; a bound template is composed from
sources that are fixed by the declared states.  Commands on scenes are held against this.
-/

namespace LiveTemplate

/-- The built-in filter that a set has under a name. -/
def FilterSet.find? : FilterSet → String → Option Builtin
  | .builtin, name => Builtin.all.find? (·.name == name)
  | .none, _ => Option.none

/-- What the filters of some names make of a value. -/
def FilterSet.pass (filters : FilterSet) (names : List String) (value : Value) : Value :=
  names.foldl
    (fun value name =>
      match filters.find? name with
      | some filter => filter.apply value
      | Option.none => value)
    value

/-- What the views hold, by their names. -/
abbrev Holdings := String → OrderedMap Value

/-- Stores a value under a key of a view. -/
def Holdings.store (h : Holdings) (view key : String) (value : Value) : Holdings :=
  fun name => if name = view then (h name).insert key value else h name

namespace Scene

variable (s : Scene) (filters : FilterSet) (prettyJson : Bool)

/-- The states that are declared. -/
def declared : Holdings :=
  fun name => ((s.views.find? name).getD default).state

/-- A view and its owners from the nearest on, as declared; at most `fuel` of them. -/
def pathFrom : (fuel : Nat) → String → List String
  | 0, _ => []
  | fuel + 1, name =>
    name ::
      match Ownership.owner? s.views name with
      | some owner => pathFrom fuel owner
      | none => []

/-- A view and its owners from the nearest on, as declared. -/
def path (name : String) : List String :=
  s.pathFrom s.views.size name

/-- The view that a template on a view reads an identifier from: the nearest one on the path whose declared
state has it. -/
def source? (view identifier : String) : Option String :=
  (s.path view).find? fun name => (s.declared name).contains identifier

/-- The value of a bound template, from what its sources hold. -/
def valueOf? (h : Holdings) (b : BindingSpec) : Option Value :=
  (Template.parse b.template).compose
    (fun x => (s.source? b.view x).bind fun view => (h view).find? x) filters.pass

/-- What the callback of a bound template is called with. -/
def call? (h : Holdings) (b : BindingSpec) : Option Call :=
  (s.valueOf? filters h b).map fun value => ⟨bindingLabel b, value⟩

/-- The line that this prints. -/
def bindingLine? (h : Holdings) (b : BindingSpec) : Option String :=
  (s.call? filters h b).map (callLine prettyJson)

/-- Whether a bound template reads a key from a view that is set, and was not destroyed with its own view. -/
def isTold (destroyed : List String) (view key : String) (b : BindingSpec) : Bool :=
  !destroyed.contains b.view && (Template.parse b.template).identifiers.contains key &&
    s.source? b.view key == some view

/-- The lines of updates, given what the views hold and which of them are destroyed. -/
def replayAll? (h : Holdings) (destroyed : List String) : List Update → Option (List String)
  | [] => some []
  | .set view key value :: rest => do
    let h := h.store view key value
    let told ← (s.bindings.filter (s.isTold destroyed view key)).mapM
      (s.bindingLine? filters prettyJson h)
    let later ← replayAll? h destroyed rest
    return updateLine (.set view key value) :: told ++ later
  | .destroy view :: rest => do
    let later ← replayAll? h (view :: destroyed) rest
    return updateLine (.destroy view) :: later

/-- The lines of a scene: the bound templates on the declared states, the updates, and the summary. -/
def replay? : Option (List String) := do
  let first ← s.bindings.mapM (s.bindingLine? filters prettyJson s.declared)
  let later ← s.replayAll? filters prettyJson s.declared [] s.updates
  return first ++ later ++ [summaryLine s]

/-- A bound template has a view, and a source for each identifier. -/
def Resolves (b : BindingSpec) : Prop :=
  s.views.contains b.view ∧ ∀ x ∈ (Template.parse b.template).identifiers, (s.source? b.view x).isSome

/-- What it takes for a scene to work: its views can be made, every bound template has its sources, and every
update is of a view of the scene. -/
structure Works : Prop where
  ordered : ∃ order, Ownership.creationOrder s.views = .ok order
  bound : ∀ b ∈ s.bindings, s.Resolves b
  updated : ∀ u ∈ s.updates, s.views.contains u.view

end Scene

end LiveTemplate
