import LiveTemplate.Proofs.World.Ancestry

/-!
Worlds without properties.  Properties are given to a view when it is made, and there they stay; all that is
done in a world is done alike when there are none.  So taking the properties away, from the views and from
the steps that user code performs, commutes with every operation, and what is looked up in a world is the
same without them.
-/

namespace LiveTemplate

mutual

/-- A step that gives no properties to the views it makes, nor do the steps that it carries. -/
def Step.withoutProps : Step → Step
  | .newType type name (some plugin) => .newType type name (some plugin.withoutProps)
  | .usePlugin type plugin => .usePlugin type plugin.withoutProps
  | .registerFilter type name ⟨transform, reactions⟩ =>
    .registerFilter type name ⟨transform, Reactions.withoutProps reactions⟩
  | .create type view name state _ owner => .create type view name state [] owner
  | .bind view template label reactions => .bind view template label (Reactions.withoutProps reactions)
  | .bindRaw view template label binding reactions =>
    .bindRaw view template label binding (Reactions.withoutProps reactions)
  | .subscribe target key subscription reactions =>
    .subscribe target key subscription (Reactions.withoutProps reactions)
  | step => step

/-- A plugin whose filter gives no properties to the views it makes. -/
def Plugin.withoutProps : Plugin Step → Plugin Step
  | .foreign name (some (filter, ⟨transform, reactions⟩)) =>
    .foreign name (some (filter, ⟨transform, Reactions.withoutProps reactions⟩))
  | plugin => plugin

/-- Reactions that give no properties to the views they make. -/
def Reactions.withoutProps : List (Reaction Step) → List (Reaction Step)
  | [] => []
  | ⟨call, steps⟩ :: rest => ⟨call, Script.withoutProps steps⟩ :: Reactions.withoutProps rest

/-- Steps that give no properties to the views they make. -/
def Script.withoutProps : List Step → List Step
  | [] => []
  | step :: rest => step.withoutProps :: Script.withoutProps rest

end

/-- A filter that gives no properties to the views it makes. -/
def FilterCode.withoutProps (code : FilterCode Step) : FilterCode Step :=
  ⟨code.transform, Reactions.withoutProps code.reactions⟩

/-- A view without its properties. -/
def View.withoutProps (x : View) : View :=
  { x with props := .empty }

namespace View

variable (x : View)

@[simp] theorem name_withoutProps : x.withoutProps.name = x.name := rfl

@[simp] theorem type_withoutProps : x.withoutProps.type = x.type := rfl

@[simp] theorem state_withoutProps : x.withoutProps.state = x.state := rfl

@[simp] theorem owner_withoutProps : x.withoutProps.owner = x.owner := rfl

@[simp] theorem bindings_withoutProps : x.withoutProps.bindings = x.bindings := rfl

@[simp] theorem isDestroyed_withoutProps : x.withoutProps.isDestroyed = x.isDestroyed := rfl

end View

/-- A filter that gives no properties to the views it makes, called as often. -/
def FilterCell.withoutProps (cell : FilterCell) : FilterCell :=
  { cell with code := cell.code.withoutProps }

/-- A callback or handler that gives no properties to the views it makes, called as often. -/
def Listener.withoutProps (cell : Listener) : Listener :=
  { cell with reactions := Reactions.withoutProps cell.reactions }

/-- A world without the properties of its views, in which user code gives none. -/
def World.withoutProps (w : World) : World :=
  { w with
    views := w.views.map View.withoutProps
    filters := w.filters.map FilterCell.withoutProps
    listeners := w.listeners.map Listener.withoutProps }

/-- Changing one element and then mapping all comes to mapping them and then changing the image alike. -/
private theorem map_modify {α β : Type} (f : α → β) (g : α → α) (h : β → β)
    (commute : ∀ x, f (g x) = h (f x)) (xs : Array α) (i : Nat) : (xs.modify i g).map f = (xs.map f).modify i h := by
  apply Array.ext
  · simp
  · intro j inLeft inRight
    simp only [Array.getElem_map, Array.getElem_modify]
    split
    · exact commute _
    · rfl

/-- An element of a mapped array is the image of the element. -/
private theorem getD_map {α β : Type} (f : α → β) (xs : Array α) (i : Nat) (d : α) :
    (xs.map f).getD i (f d) = f (xs.getD i d) := by
  simp only [Array.getD_eq_getD_getElem?, Array.getElem?_map]
  cases xs[i]? <;> rfl

namespace World

variable (w : World)

/-! ### What is looked up -/

@[simp] theorem type_withoutProps : w.withoutProps.type = w.type := rfl

@[simp] theorem registry_withoutProps : w.withoutProps.registry = w.registry := rfl

@[simp] theorem container_withoutProps : w.withoutProps.container = w.container := rfl

@[simp] theorem binding_withoutProps : w.withoutProps.binding = w.binding := rfl

@[simp] theorem handles_withoutProps : w.withoutProps.handles = w.handles := rfl

@[simp] theorem bindings_withoutProps : w.withoutProps.bindings = w.bindings := rfl

@[simp] theorem pinnedViews_withoutProps : w.withoutProps.pinnedViews = w.pinnedViews := rfl

@[simp] theorem isAlive_withoutProps : w.withoutProps.isAlive = w.isAlive := rfl

/-- A view is looked up alike, and has no properties. -/
@[simp] theorem view_withoutProps (v : ViewId) : w.withoutProps.view v = (w.view v).withoutProps :=
  getD_map View.withoutProps w.views v default

/-- A filter is looked up alike, with user code that gives no properties. -/
@[simp] theorem filter_withoutProps (f : FilterId) : w.withoutProps.filter f = (w.filter f).withoutProps :=
  getD_map FilterCell.withoutProps w.filters f default

/-- A callback or handler is looked up alike, with user code that gives no properties. -/
@[simp] theorem listener_withoutProps (l : ListenerId) :
    w.withoutProps.listener l = (w.listener l).withoutProps :=
  getD_map Listener.withoutProps w.listeners l default

/-- A view has the type that it had. -/
@[simp] theorem typeOf_withoutProps (v : ViewId) : w.withoutProps.typeOf v = w.typeOf v := by
  rw [typeOf, view_withoutProps]
  rfl

/-- A view has the state that it had. -/
@[simp] theorem stateOf_withoutProps (v : ViewId) : w.withoutProps.stateOf v = w.stateOf v := by
  rw [stateOf, view_withoutProps]
  rfl

/-- A view is labelled as before. -/
@[simp] theorem label_withoutProps (v : ViewId) : w.withoutProps.label v = w.label v := by
  rw [label, view_withoutProps, typeOf_withoutProps]
  rfl

/-- The same owners are alive. -/
theorem owner?_withoutProps : w.withoutProps.owner? = w.owner? := by
  funext v
  rw [owner?, view_withoutProps]
  rfl

/-- The same containers are alive. -/
@[simp] theorem isHeld_withoutProps (c : ContainerId) : w.withoutProps.isHeld c = w.isHeld c := by
  have live : w.withoutProps.isLiveState c = w.isLiveState c := by
    simp only [isLiveState, view_withoutProps]
    simp only [withoutProps, Array.size_map]
    rfl
  rw [isHeld, live]
  rfl

/-- An identifier is found in the same place, with the same value. -/
@[simp] theorem resolve_withoutProps (x : String) (v : ViewId) :
    w.withoutProps.resolve x v = w.resolve x v :=
  resolve_congr w.owner?_withoutProps (fun u => by rw [view_withoutProps]; rfl) (fun u => by simp) x v

/-- A template has the same sources, or the same error. -/
@[simp] theorem resolveAll_withoutProps (v : ViewId) (identifiers : List String) :
    w.withoutProps.resolveAll v identifiers = w.resolveAll v identifiers :=
  resolveAll_congr (fun x => w.resolve_withoutProps x v) (w.label_withoutProps v) identifiers

/-- The same is read from sources. -/
@[simp] theorem read?_withoutProps (sources : Sources) (x : String) :
    w.withoutProps.read? sources x = w.read? sources x := by
  simp only [read?, isHeld_withoutProps]
  rfl

/-- A template on a view is filtered with the same registry, or has the same error. -/
@[simp] theorem requireRegistry_withoutProps (v : ViewId) :
    w.withoutProps.requireRegistry v = w.requireRegistry v := by
  simp only [requireRegistry, view_withoutProps, typeOf_withoutProps, label_withoutProps]
  rfl

/-! ### What is made and changed -/

/-- A change of a view that does not look at its properties is made alike without them. -/
@[simp] theorem withoutProps_modifyView (v : ViewId) {f : View → View}
    (commutes : ∀ x, (f x).withoutProps = f x.withoutProps) :
    (w.modifyView v f).withoutProps = w.withoutProps.modifyView v f :=
  congrArg (fun views => { w.withoutProps with views := views }) (map_modify _ f f commutes w.views v)

/-- The call of a filter is counted alike. -/
@[simp] theorem withoutProps_countFilterCall (f : FilterId) :
    (w.countFilterCall f).withoutProps = w.withoutProps.countFilterCall f := by
  simp only [countFilterCall, withoutProps]
  rw [map_modify FilterCell.withoutProps _ (fun cell => { cell with calls := cell.calls + 1 }) fun _ => rfl]

/-- The call of a callback or handler is counted alike. -/
@[simp] theorem withoutProps_countListenerCall (l : ListenerId) :
    (w.countListenerCall l).withoutProps = w.withoutProps.countListenerCall l := by
  simp only [countListenerCall, withoutProps]
  rw [map_modify Listener.withoutProps _ (fun cell => { cell with calls := cell.calls + 1 }) fun _ => rfl]

/-- A filter is added under the same number. -/
theorem addFilter_withoutProps (code : FilterCode Step) :
    w.withoutProps.addFilter code.withoutProps =
      ((w.addFilter code).1, (w.addFilter code).2.withoutProps) := by
  simp [addFilter, withoutProps, FilterCell.withoutProps]

/-- A callback or handler is added under the same number. -/
theorem addListener_withoutProps (label : String) (reactions : List (Reaction Step)) :
    w.withoutProps.addListener label (Reactions.withoutProps reactions) =
      ((w.addListener label reactions).1, (w.addListener label reactions).2.withoutProps) := by
  simp [addListener, withoutProps, Listener.withoutProps]

/-- A view that is added without properties has the number of the one with them. -/
theorem addView_withoutProps (type : TypeId) (name : Option String) (state props : OrderedMap Value)
    (owner : Option ViewId) :
    w.withoutProps.addView type name state .empty owner =
      ((w.addView type name state props owner).1, (w.addView type name state props owner).2.withoutProps) := by
  simp [addView, addContainer, withoutProps, View.withoutProps]

/-- A view is created without properties if it is created with them. -/
theorem createView_withoutProps (t : TypeId) (name : Option String) (state props : OrderedMap Value)
    (owner : Option ViewId) :
    w.withoutProps.createView t name state .empty owner =
      (w.createView t name state props owner).map fun made => (made.1, made.2.withoutProps) := by
  cases owner with
  | none => exact congrArg Except.ok (w.addView_withoutProps t name state props none)
  | some o =>
      simp only [createView, view_withoutProps, View.withoutProps, label_withoutProps,
        addView_withoutProps _ _ _ _ props]
      split <;> rfl

/-! Filters and plugins. -/

/-- A filter is registered, or refused, alike. -/
theorem register?_withoutProps (r : RegistryId) (name : String) (code : FilterCode Step) :
    w.withoutProps.register? r name code.withoutProps = (w.register? r name code).map withoutProps := by
  simp only [register?, addFilter_withoutProps, registry_withoutProps]
  cases ((w.addFilter code).2.registry r).register? name (w.addFilter code).1 <;> rfl

/-- The built-in filters give no properties. -/
theorem withoutProps_registerBuiltins (r : RegistryId) :
    (w.registerBuiltins r).withoutProps = w.withoutProps.registerBuiltins r := by
  refine (List.foldl_hom withoutProps fun w filter => ?_).symm
  have registered := w.register?_withoutProps r filter.name ⟨.builtin filter, []⟩
  rw [show FilterCode.withoutProps ⟨.builtin filter, []⟩ = ⟨.builtin filter, []⟩ from rfl] at registered
  rw [registered]
  cases w.register? r filter.name ⟨.builtin filter, []⟩ <;> rfl

/-- A filter is registered on a type, or refused, alike. -/
theorem registerOn_withoutProps (t : TypeId) (name : String) (code : FilterCode Step) :
    w.withoutProps.registerOn t name code.withoutProps = (w.registerOn t name code).map withoutProps := by
  simp only [registerOn, register?_withoutProps, type_withoutProps]
  split
  · rfl
  · next r _ => cases w.register? r name code <;> rfl

theorem withoutProps_modifyType (t : TypeId) (f : ViewType → ViewType) :
    (w.modifyType t f).withoutProps = w.withoutProps.modifyType t f := rfl

theorem addRegistry_withoutProps :
    w.withoutProps.addRegistry = (w.addRegistry.1, w.addRegistry.2.withoutProps) := rfl

/-- Interpolation is installed alike. -/
theorem withoutProps_installInterpolation (t : TypeId) (hasBuiltins : Bool) :
    (w.installInterpolation t hasBuiltins).withoutProps =
      w.withoutProps.installInterpolation t hasBuiltins := by
  simp only [installInterpolation, addRegistry_withoutProps, withoutProps_modifyType]
  cases hasBuiltins with
  | false => rfl
  | true => simp only [if_true, withoutProps_registerBuiltins]

/-- A plugin is installed, or fails, alike. -/
theorem runInstall_withoutProps (t : TypeId) (plugin : Plugin Step) :
    w.withoutProps.runInstall t plugin.withoutProps = (w.runInstall t plugin).map withoutProps := by
  cases plugin with
  | plainInterpolation => exact congrArg Except.ok (w.withoutProps_installInterpolation t false).symm
  | builtinInterpolation => exact congrArg Except.ok (w.withoutProps_installInterpolation t true).symm
  | foreign name filter =>
      cases filter with
      | none => rfl
      | some filter => exact w.registerOn_withoutProps t filter.1 filter.2

/-- A plugin keeps its name. -/
theorem pluginName_withoutProps (plugin : Plugin Step) : pluginName plugin.withoutProps = pluginName plugin := by
  cases plugin with
  | foreign name filter => cases filter <;> rfl
  | _ => rfl

/-- A plugin is used, or refused, alike. -/
theorem usePlugin_withoutProps (t : TypeId) (plugin : Plugin Step) :
    w.withoutProps.usePlugin t plugin.withoutProps = (w.usePlugin t plugin).map withoutProps := by
  simp only [usePlugin, pluginName_withoutProps, runInstall_withoutProps]
  show (if pluginName plugin ∈ (w.type t).plugins then _ else _) = _
  split
  · rfl
  · cases w.runInstall t plugin <;> rfl

/-! Bindings and what is held. -/

/-- A binding gets the same subscriptions. -/
theorem subscribeAll_withoutProps (b : BindingId) (sources : Sources) :
    w.withoutProps.subscribeAll b sources =
      ((w.subscribeAll b sources).1, (w.subscribeAll b sources).2.withoutProps) := by
  induction sources generalizing w with
  | nil => rfl
  | cons source rest inductionHypothesis =>
      have first : w.withoutProps.subscribe source.2 source.1 (.binding b) =
          ((w.subscribe source.2 source.1 (.binding b)).1,
            (w.subscribe source.2 source.1 (.binding b)).2.withoutProps) := rfl
      simp only [subscribeAll, first, inductionHypothesis]

/-- A binding is made under the same number, with the same subscriptions. -/
theorem addBinding_withoutProps (template : Template) (registry : RegistryId) (viewLabel : String)
    (sources : Sources) (l : ListenerId) :
    w.withoutProps.addBinding template registry viewLabel sources l =
      ((w.addBinding template registry viewLabel sources l).1,
        (w.addBinding template registry viewLabel sources l).2.withoutProps) := by
  simp only [addBinding]
  rw [bindings_withoutProps, subscribeAll_withoutProps]
  rfl

/-- A binding is released alike. -/
@[simp] theorem withoutProps_release (b : BindingId) :
    (w.release b).withoutProps = w.withoutProps.release b :=
  (List.foldl_hom withoutProps fun _ _ => rfl).symm

@[simp] theorem withoutProps_releaseBindings (v : ViewId) :
    (w.releaseBindings v).withoutProps = w.withoutProps.releaseBindings v := by
  simp only [releaseBindings, view_withoutProps]
  rw [← withoutProps_modifyView w v (f := fun x => { x with bindings := [] }) fun _ => rfl]
  exact (List.foldl_hom withoutProps fun w b => (w.withoutProps_release b).symm).symm

@[simp] theorem withoutProps_recordBinding (v : ViewId) (b : BindingId) :
    (w.recordBinding v b).withoutProps = w.withoutProps.recordBinding v b := by
  simp only [recordBinding, view_withoutProps]
  show _ = if (w.view v).isDestroyed then _ else _
  split
  · exact w.withoutProps_release b
  · exact w.withoutProps_modifyView v fun _ => rfl

/-- A view is destroyed alike. -/
@[simp] theorem withoutProps_destroy (v : ViewId) : (w.destroy v).withoutProps = w.withoutProps.destroy v := by
  simp only [destroy, view_withoutProps]
  show _ = if (w.view v).isDestroyed then _ else _
  split
  · rfl
  · rw [withoutProps_releaseBindings,
      withoutProps_modifyView w v (f := fun x => { x with isDestroyed := true }) fun _ => rfl]

/-- A view that lost a hold ends alike. -/
@[simp] theorem withoutProps_settle (v : ViewId) : (w.settle v).withoutProps = w.withoutProps.settle v := by
  simp only [settle]
  show _ = if w.isAlive v then _ else _
  split
  · rfl
  · exact w.withoutProps_releaseBindings v

@[simp] theorem withoutProps_unpinView : w.unpinView.withoutProps = w.withoutProps.unpinView := by
  simp only [unpinView]
  rw [pinnedViews_withoutProps]
  cases w.pinnedViews with
  | nil => rfl
  | cons v rest => exact withoutProps_settle { w with pinnedViews := rest } v

/-- A view is given its handle alike. -/
@[simp] theorem withoutProps_holdView (handle : String) (v : ViewId) :
    (w.holdView handle v).withoutProps = w.withoutProps.holdView handle v := by
  simp only [holdView]
  rw [handles_withoutProps]
  cases w.handles.views.find? handle with
  | none => rfl
  | some u => exact withoutProps_settle (w.modifyHandles _) u

@[simp] theorem withoutProps_dropView (handle : String) :
    (w.dropView handle).withoutProps = w.withoutProps.dropView handle := by
  simp only [dropView]
  rw [handles_withoutProps]
  cases w.handles.views.find? handle with
  | none => rfl
  | some v => exact withoutProps_settle (w.modifyHandles _) v

/-- A binding is given its handle alike. -/
@[simp] theorem withoutProps_holdBinding (handle : String) (b : BindingId) :
    (w.holdBinding handle b).withoutProps = w.withoutProps.holdBinding handle b := by
  simp only [holdBinding]
  rw [handles_withoutProps]
  cases w.handles.bindings.find? handle with
  | none => rfl
  | some old => exact withoutProps_release (w.modifyHandles _) old

@[simp] theorem withoutProps_dropBinding (handle : String) :
    (w.dropBinding handle).withoutProps = w.withoutProps.dropBinding handle := by
  simp only [dropBinding]
  rw [handles_withoutProps]
  cases w.handles.bindings.find? handle with
  | none => rfl
  | some b => exact withoutProps_release (w.modifyHandles _) b

/-! Handles of scripts. -/

@[simp] theorem findType_withoutProps : w.withoutProps.findType = w.findType := rfl

@[simp] theorem findView_withoutProps : w.withoutProps.findView = w.findView := rfl

@[simp] theorem findBinding_withoutProps : w.withoutProps.findBinding = w.findBinding := rfl

/-- The target of a step is the same container, or the same error. -/
theorem findTarget_withoutProps (target : Target) :
    w.withoutProps.findTarget target = w.findTarget target := by
  cases target with
  | ofView view => simp only [findTarget, handles_withoutProps, view_withoutProps, View.withoutProps]
  | state handle => rfl

/-- The program subscribes, or fails to, alike. -/
theorem listen_withoutProps (target : Target) (key subscription : String) (reactions : List (Reaction Step)) :
    w.withoutProps.listen target key subscription (Reactions.withoutProps reactions) =
      (w.listen target key subscription reactions).map fun done => (done.1, done.2.withoutProps) := by
  simp only [listen, findTarget_withoutProps, addListener_withoutProps]
  cases w.findTarget target <;> rfl

/-- The program ends a subscription, or fails to, alike. -/
theorem unlisten_withoutProps (subscription : String) :
    w.withoutProps.unlisten subscription =
      (w.unlisten subscription).map fun done => (done.1, done.2.withoutProps) := by
  simp only [unlisten, handles_withoutProps]
  cases w.handles.subscriptions.find? subscription <;> rfl

end World

end LiveTemplate
