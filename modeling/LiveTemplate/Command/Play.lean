import LiveTemplate.Command.Error
import LiveTemplate.Scene.Validation

/-!
What the commands do with a scene: evaluate one template, bind all templates and play all updates, or
validate it.
-/

namespace LiveTemplate

/-- How a value is printed: texts as they are, all else as JSON. -/
def formatValue (prettyJson : Bool) : Value → String
  | .string s => s
  | v => if prettyJson then v.pretty else v.compact

/-- Stores assigned values in the state of a view. -/
def storeAll (view : String) (i : Instance) : List (String × Value) → Except SceneError Instance
  | [] => .ok i
  | (key, value) :: rest =>
    let (result, _, i) := i.run (Instance.store view key value)
    match result with
    | .error e => .error e
    | .ok () => storeAll view i rest

/-- The value of a template on a view of a scene into whose state values were put before. -/
def renderScene (s : Scene) (filters : FilterSet) (view template : String)
    (assignments : List (String × Value)) : Except CommandError Value := do
  let i ← (s.instantiate filters).mapError .instantiating
  if !i.viewNames.contains view then .error (.acting (.unknownView view))
  let i ← (storeAll view i assignments).mapError .acting
  ((i.run (Instance.render view template)).1).mapError .rendering

/-! Watching a scene. -/

/-- The label under which the callback of a bound template prints its values. -/
def bindingLabel (b : BindingSpec) : String :=
  s!"[{b.view}] {b.template}"

/-- The line that a call of a callback prints. -/
def callLine (prettyJson : Bool) (c : Call) : String :=
  c.label ++ " => " ++ formatValue prettyJson c.value

/-- The line in front of what an update causes. -/
def updateLine : Update → String
  | .set view key value => s!"-- set {view}.{key} = " ++ value.compact
  | .destroy view => s!"-- destroy {view}"

/-- Plays updates. -/
def playAll (prettyJson : Bool) (i : Instance) : List Update → Transcript
  | [] => .empty
  | u :: rest =>
    let (result, calls, i) := i.run (Instance.apply u)
    let lines := updateLine u :: calls.map (callLine prettyJson)
    match result with
    | .error e => ⟨lines, some (.acting e)⟩
    | .ok () => (playAll prettyJson i rest).after lines

/-- Binds templates, and then goes on with the instance. -/
def bindAll (prettyJson : Bool) (next : Instance → Transcript) (i : Instance) :
    List BindingSpec → Transcript
  | [] => next i
  | b :: rest =>
    let (result, calls, i) := i.run (Instance.bind b (bindingLabel b))
    let lines := calls.map (callLine prettyJson)
    match result with
    | .error e => ⟨lines, some (.binding b.template b.view e)⟩
    | .ok _ => (bindAll prettyJson next i rest).after lines

/-- The last line of a watched scene. -/
def summaryLine (s : Scene) : String :=
  s!"Scene '{s.name}': {s.bindings.length} binding(s), {s.updates.length} update(s)"

/-- Binds the templates of a scene and plays its updates. -/
def watchScene (s : Scene) (filters : FilterSet) (prettyJson : Bool) : Transcript :=
  match s.instantiate filters with
  | .error e => .failed (.instantiating e)
  | .ok i =>
    let played := bindAll prettyJson (fun i => playAll prettyJson i s.updates) i s.bindings
    match played.failure with
    | some _ => played
    | none => { played with lines := played.lines ++ [summaryLine s] }

/-! Validating a scene. -/

/-- The lines for a valid scene. -/
def validLines (s : Scene) : List String :=
  [s!"✓ Scene '{s.name}' is valid", s!"  Views: {s.views.size}",
    s!"  Bindings: {s.bindings.length}", s!"  Updates: {s.updates.length}"]

/-- Validates a scene. -/
def validateScene (s : Scene) (filters : FilterSet) (strict : Bool) : Transcript :=
  match s.validate filters with
  | .error e => .failed (.validating e)
  | .ok report =>
    let lines := report.errors.map (fun e => "✗ " ++ e.message) ++
      report.warnings.map (fun warning => "! " ++ warning)
    if report.isValid strict then ⟨lines ++ validLines s, none⟩
    else ⟨lines, some (.invalid s.name report.errors.length report.warnings.length)⟩

end LiveTemplate
