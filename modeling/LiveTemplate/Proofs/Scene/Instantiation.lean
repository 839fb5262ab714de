import LiveTemplate.Proofs.Scene.Playing

/-!
Bringing a scene to life.  The type gets the filters of the set; the views are made in an order in which
every owner comes first, so nothing can fail once there is such an order; and at the end every declared view
is there, with what it declares.
-/

namespace LiveTemplate

/-! ### The filters of the type -/

namespace World

variable {w w' : World} {r : RegistryId}

/-- The function of the filter under a name. -/
def transform? (w : World) (r : RegistryId) (name : String) : Option Transform :=
  ((w.registry r).find? name).map fun f => (w.filter f).code.transform

/-- A registry whose filters are those of a set passes values like the set. -/
theorem pass_eq_of_transform? {filters : FilterSet}
    (same : ∀ name, w.transform? r name = (filters.find? name).map .builtin) :
    w.pass r = filters.pass := by
  funext names value
  simp only [pass, FilterSet.pass]
  congr 1
  funext value name
  have here := same name
  simp only [transform?] at here
  cases found : (w.registry r).find? name with
  | none =>
      rw [found] at here
      cases isBuiltin : filters.find? name with
      | none => rfl
      | some filter => rw [isBuiltin] at here; cases here
  | some f =>
      rw [found] at here
      cases isBuiltin : filters.find? name with
      | none => rw [isBuiltin] at here; cases here
      | some filter =>
          rw [isBuiltin] at here
          have transform : (w.filter f).code.transform = .builtin filter := Option.some.inj here
          simp only [transform, Transform.apply]

/-- What a registry has after a filter was registered that does nothing but compute. -/
theorem transform?_register? {name : String} {code : FilterCode Step} (quiet : code.reactions = [])
    (computes : w.Computes) (made : r < w.registries.size)
    (done : w.register? r name code = some w') :
    (∀ other, w'.transform? r other =
      if other = name then some code.transform else w.transform? r other) ∧ w'.Computes ∧
      w'.types = w.types := by
  have equips := (Equips.register? done).1
  have isFilter := filter_register? done
  have isRegistry : w'.registry r = ⟨(w.registry r).filters.insert name w.filters.size⟩ := by
    rw [registry_register? done]
    exact if_pos ⟨rfl, made⟩
  refine ⟨?_, ⟨?_, ?_⟩, types_register? done⟩
  · intro other
    simp only [transform?, isRegistry, Registry.find?, OrderedMap.find?_insert]
    split
    · rw [Option.map_some, isFilter, if_pos rfl]
    · cases found : (w.registry r).filters.find? other with
      | none => rfl
      | some f =>
          have old := computes.registered r other f found
          rw [Option.map_some, Option.map_some, isFilter, if_neg (Nat.ne_of_lt old)]
  · intro f hasFilter reaction mem
    rw [isFilter] at mem
    split at mem
    · rw [quiet] at mem
      exact absurd mem List.not_mem_nil
    · next other =>
      rw [filterCount_register? done] at hasFilter
      exact computes.quiet f (Nat.lt_of_le_of_ne (Nat.le_of_lt_succ hasFilter) other) reaction mem
  · intro q other f found
    rcases equips.registered q other f found with before | new
    · exact Nat.lt_of_lt_of_le (computes.registered q other f before) equips.filterCount
    · exact new

/-- What a registry has after built-in filters were registered. -/
theorem transform?_foldl_register? (filters : List Builtin) (computes : w.Computes)
    (made : r < w.registries.size) (names : ∀ filter ∈ filters, isName filter.name)
    (nodup : (filters.map Builtin.name).Nodup) :
    let w' := filters.foldl
      (fun w filter => (w.register? r filter.name ⟨.builtin filter, []⟩).getD w) w
    (∀ name, w'.transform? r name =
      ((filters.find? (·.name == name)).map .builtin).or (w.transform? r name)) ∧ w'.Computes ∧
      w'.types = w.types := by
  induction filters generalizing w with
  | nil => exact ⟨fun _ => rfl, computes, rfl⟩
  | cons filter rest inductionHypothesis =>
      obtain ⟨notInRest, nodupRest⟩ := List.nodup_cons.mp nodup
      obtain ⟨w', done⟩ : ∃ w', w.register? r filter.name ⟨.builtin filter, []⟩ = some w' := by
        simp [World.register?, Registry.register?, names filter List.mem_cons_self]
      obtain ⟨one, computes', types⟩ := transform?_register? rfl computes made done
      have equips := (Equips.register? done).1
      obtain ⟨others, computesAll, typesAll⟩ := inductionHypothesis computes'
        (Nat.lt_of_lt_of_le made equips.registryCount)
        (fun x mem => names x (List.mem_cons_of_mem _ mem)) nodupRest
      simp only [List.foldl_cons, done, Option.getD_some]
      refine ⟨fun name => ?_, computesAll, typesAll.trans types⟩
      rw [others name, one name, List.find?_cons]
      by_cases here : name = filter.name
      · subst here
        have absent : rest.find? (fun x => x.name == filter.name) = none := by
          refine List.find?_eq_none.mpr fun x mem same => notInRest ?_
          rw [← eq_of_beq same]
          exact List.mem_map_of_mem mem
        simp [absent]
      · have differs : (filter.name == name) = false := by simpa using Ne.symm here
        simp only [differs, if_neg here]

end World

/-- The type of a scene, with the filters of a set installed. -/
theorem Scene.usePlugin_spec (name : String) (filters : FilterSet) :
    ∃ w, (World.empty.addType name).2.usePlugin 0 (plugin filters) = .ok w ∧
      (w.type 0).registry = some 0 ∧ w.pass 0 = filters.pass ∧ w.Computes := by
  let named := (World.empty.addType name).2
  have transforms : ∀ n, named.addRegistry.2.transform? 0 n = none := by
    intro n
    rw [World.transform?, World.registry_addRegistry]
    rfl
  have computes : named.addRegistry.2.Computes := by
    refine ⟨fun f made => absurd made (Nat.not_lt_zero f), fun r n f found => ?_⟩
    rw [World.registry_addRegistry] at found
    split at found <;> cases found
  -- the registry is filled, and then the type gets it
  obtain ⟨v, installed, same, computes, types⟩ : ∃ v : World,
      named.usePlugin 0 (plugin filters) =
        .ok ((v.modifyType 0 fun x => { x with registry := some 0 }).modifyType 0
          fun x => { x with plugins := x.plugins ++ [World.interpolationName] }) ∧
      (∀ n, v.transform? 0 n = (filters.find? n).map .builtin) ∧ v.Computes ∧
      v.types = named.types := by
    cases filters with
    | none => exact ⟨named.addRegistry.2, rfl, transforms, computes, rfl⟩
    | builtin =>
        obtain ⟨filled, computesAll, types⟩ := World.transform?_foldl_register? (r := 0) Builtin.all
          computes Nat.zero_lt_one (by decide) (by decide)
        refine ⟨named.addRegistry.2.registerBuiltins 0, rfl, fun n => ?_, computesAll, types⟩
        rw [World.registerBuiltins, filled n, transforms n, Option.or_none]
        rfl
  have made : 0 < v.types.size := by
    rw [types]
    exact Nat.zero_lt_one
  refine ⟨_, installed, ?_, ?_, ⟨computes.quiet, computes.registered⟩⟩
  · rw [World.type_modifyType, if_pos ⟨rfl, by simpa [World.modifyType] using made⟩,
      World.type_modifyType, if_pos ⟨rfl, made⟩]
  · exact World.pass_eq_of_transform? same

/-! ### The views -/

namespace Scene

variable {s : Scene} {filters : FilterSet} {t : TypeId} {q : RegistryId} {w : World}

/-- Some views of a scene were made, one after the other, and nothing else. -/
structure Placed (s : Scene) (filters : FilterSet) (t : TypeId) (q : RegistryId)
    (placed : List String) (w : World) : Prop where
  sound : w.Sound
  quiet : w.FiltersQuiet
  pass : w.pass q = filters.pass
  typed : (w.type t).registry = some q
  unbound : w.bindings = #[]
  viewCount : w.views.size = placed.length
  containerCount : w.containers.size = placed.length
  found : ∀ (name : String) (v : ViewId),
    w.handles.views.find? name = some v ↔ placed[v]? = some name
  view : ∀ (name : String) (v : ViewId), placed[v]? = some name → w.view v =
    ⟨some name, t, v, ((s.views.find? name).getD default).props,
      (Ownership.owner? s.views name).bind w.handles.views.find?, [], false⟩
  held : ∀ (name : String) (v : ViewId), placed[v]? = some name → w.container v = ⟨s.declared name, [], 0⟩
  /-- Owners were made before. -/
  older : ∀ (name : String) (v : ViewId), placed[v]? = some name →
    ∀ owner, Ownership.owner? s.views name = some owner → ∃ u < v, placed[u]? = some owner

theorem owner?_eq (s : Scene) (name : String) :
    Ownership.owner? s.views name = ((s.views.find? name).getD default).owner := by
  simp only [Ownership.owner?]
  cases s.views.find? name <;> rfl

/-- A view that was not made yet has no handle. -/
theorem Placed.unknown {placed : List String} (h : s.Placed filters t q placed w) {name : String}
    (isNew : name ∉ placed) : w.handles.views.find? name = none := by
  cases found : w.handles.views.find? name with
  | none => rfl
  | some v =>
      have isPlaced := (h.found name v).mp found
      exact absurd (List.mem_of_getElem? isPlaced) isNew

/-- Making a view succeeds where its owner was made before. -/
theorem Placed.addView_eq {placed : List String} (h : s.Placed filters t q placed w) {name : String}
    (owners : ∀ owner, Ownership.owner? s.views name = some owner → owner ∈ placed) :
    let spec := (s.views.find? name).getD default
    let owner := (Ownership.owner? s.views name).bind w.handles.views.find?
    s.addView t w name =
      .ok ((w.addView t (some name) spec.state spec.props owner).2.holdView name w.views.size) := by
  intro spec owner
  simp only [Scene.addView]
  rw [← owner?_eq]
  cases owns : Ownership.owner? s.views name with
  | none => simp only [owner, owns]; rfl
  | some o =>
      obtain ⟨u, isPlaced⟩ := List.mem_iff_getElem?.mp (owners o owns)
      have isOwner := (h.found o u).mpr isPlaced
      have alive : (w.view u).isDestroyed = false := by rw [h.view o u isPlaced]
      simp only [owner, owns, isOwner, Option.bind_some]
      show Except.bind ((w.createView t (some name) spec.state spec.props (some u)).mapError SceneError.view)
        _ = _
      simp only [World.createView, alive]
      rfl

/-- One more view, whose owner was made before. -/
theorem Placed.addView {placed : List String} (h : s.Placed filters t q placed w) {name : String}
    (isNew : name ∉ placed)
    (owners : ∀ owner, Ownership.owner? s.views name = some owner → owner ∈ placed) :
    ∃ w', s.addView t w name = .ok w' ∧ s.Placed filters t q (placed ++ [name]) w' := by
  let spec := (s.views.find? name).getD default
  let owner := (Ownership.owner? s.views name).bind w.handles.views.find?
  let added := (w.addView t (some name) spec.state spec.props owner).2
  have unknown : added.handles.views.find? name = none := h.unknown isNew
  refine ⟨_, h.addView_eq owners, ?_⟩
  have isHeld : added.holdView name w.views.size =
      added.modifyHandles fun x => { x with views := x.views.insert name w.views.size } := by
    simp only [World.holdView, unknown]
  have ownerMade : ∀ o, owner = some o → o < w.views.size := by
    intro o isOwner
    obtain ⟨_, _, found⟩ := Option.bind_eq_some_iff.mp isOwner
    exact h.sound.numbered.heldViews o (OrderedMap.mem_values_of_find? found)
  have sound : (added.holdView name w.views.size).Sound :=
    (h.sound.change (.addView t (some name) spec.state spec.props ownerMade)).change
      (.holdView name (Nat.lt_of_lt_of_eq (Nat.lt_succ_self _) (Array.size_push _).symm))
  rw [isHeld] at sound ⊢
  have length : w.views.size = placed.length := h.viewCount
  -- what was found before is found as before
  have stays : ∀ o, o ∈ placed → (w.handles.views.insert name w.views.size).find? o =
      w.handles.views.find? o := by
    intro o isPlaced
    rw [OrderedMap.find?_insert, if_neg]
    rintro rfl
    exact isNew isPlaced
  have ownerStays : ∀ other, (∀ o, Ownership.owner? s.views other = some o → o ∈ placed) →
      (Ownership.owner? s.views other).bind (w.handles.views.insert name w.views.size).find? =
        (Ownership.owner? s.views other).bind w.handles.views.find? := by
    intro other before
    cases owns : Ownership.owner? s.views other with
    | none => rfl
    | some o => exact stays o (before o owns)
  constructor
  · exact sound
  · exact h.quiet
  · exact h.pass
  · exact h.typed
  · exact h.unbound
  · exact (Array.size_push _).trans (by simp [length])
  · exact (Array.size_push _).trans (by simp [h.containerCount])
  · intro other v
    rw [getElem?_append_singleton, ← h.found]
    show (w.handles.views.insert name w.views.size).find? other = some v ↔ _
    rw [OrderedMap.find?_insert, ← length]
    by_cases same : other = name
    · have absent : w.handles.views.find? name = none := unknown
      simp [same, absent, eq_comm]
    · simp [same]
  · intro other v isPlaced
    have made := w.view_addView t (some name) spec.state spec.props owner v
    show added.view v = _
    rw [made]
    rcases getElem?_append_singleton.mp isPlaced with before | ⟨rfl, rfl⟩
    · have old : v < w.views.size := length ▸ (List.getElem?_eq_some_iff.mp before).1
      rw [if_neg (Nat.ne_of_lt old), h.view other v before]
      have ownersBefore : ∀ o, Ownership.owner? s.views other = some o → o ∈ placed := by
        intro o owns
        obtain ⟨u, _, isOwner⟩ := h.older other v before o owns
        exact List.mem_of_getElem? isOwner
      exact congrArg (View.mk _ _ _ _ · _ _) (ownerStays other ownersBefore).symm
    · rw [if_pos length.symm, h.containerCount]
      exact congrArg (View.mk _ _ _ _ · _ _) (ownerStays other owners).symm
  · intro other v isPlaced
    show added.container v = _
    rw [w.container_addView t (some name) spec.state spec.props owner v]
    rcases getElem?_append_singleton.mp isPlaced with before | ⟨rfl, rfl⟩
    · have old : v < w.containers.size :=
        h.containerCount ▸ (List.getElem?_eq_some_iff.mp before).1
      rw [if_neg (Nat.ne_of_lt old)]
      exact h.held other v before
    · rw [if_pos h.containerCount.symm]
      rfl
  · intro other v isPlaced o owns
    rcases getElem?_append_singleton.mp isPlaced with before | ⟨rfl, rfl⟩
    · obtain ⟨u, isOlder, isOwner⟩ := h.older other v before o owns
      exact ⟨u, isOlder, getElem?_append_singleton.mpr (Or.inl isOwner)⟩
    · obtain ⟨u, isOwner⟩ := List.mem_iff_getElem?.mp (owners o owns)
      exact ⟨u, (List.getElem?_eq_some_iff.mp isOwner).1,
        getElem?_append_singleton.mpr (Or.inl isOwner)⟩

/-- All views that are left, each after its owner. -/
theorem Placed.addViews {order placed rest : List String} (isOrder : Ownership.IsCreationOrder s.views order)
    (split : order = placed ++ rest) (h : s.Placed filters t q placed w) :
    ∃ w', rest.foldlM (s.addView t) w = .ok w' ∧ s.Placed filters t q order w' := by
  induction rest generalizing placed w with
  | nil => exact ⟨w, rfl, by rw [split, List.append_nil]; exact h⟩
  | cons name rest inductionHypothesis =>
      have nodup := isOrder.nodup
      rw [split, List.nodup_append] at nodup
      have isNew : name ∉ placed := fun mem => nodup.2.2 name mem name List.mem_cons_self rfl
      obtain ⟨w', added, placed'⟩ := h.addView isNew (isOrder.owners placed name rest split)
      obtain ⟨w'', done, all⟩ := inductionHypothesis (by rw [split, List.append_assoc]; rfl) placed'
      refine ⟨w'', ?_, all⟩
      rw [List.foldlM_cons, added]
      exact done

/-- The world before the first view, with the filters of the type. -/
theorem Placed.start (name : String) (filters : FilterSet) :
    ∃ w, (World.empty.addType name).2.usePlugin 0 (plugin filters) = .ok w ∧
      s.Placed filters 0 0 [] w := by
  obtain ⟨w, installed, typed, pass, computes⟩ := usePlugin_spec name filters
  have equips := (World.Equips.usePlugin installed).1
  have sound : w.Sound := (World.Sound.empty.change (.addType name)).equips equips
  obtain ⟨views, containers, _, bindings, handles, _⟩ := equips.same
  refine ⟨w, installed, sound, computes.quiet, pass, typed, bindings, ?_, ?_, ?_, nofun, nofun, nofun⟩
  · rw [views]; rfl
  · rw [containers]; rfl
  · intro other v
    rw [handles]
    exact iff_of_false nofun nofun

/-- When all views were made, the scene is there. -/
theorem Placed.plays {order : List String} (all : s.Placed filters t q order w)
    (isOrder : Ownership.IsCreationOrder s.views order) : s.Plays filters q s.declared [] [] w := by
  have view : ∀ v < w.views.size, ∃ name, order[v]? = some name := by
    intro v made
    rw [all.viewCount] at made
    exact ⟨order[v], List.getElem?_eq_getElem made⟩
  have cast : s.Cast filters q w := by
    constructor
    · rw [all.viewCount, isOrder.perm.length_eq]
      exact List.length_map _
    · intro name
      rw [Bool.eq_iff_iff, ← OrderedMap.mem_keys_iff, ← isOrder.perm.mem_iff, List.mem_iff_getElem?,
        Option.isSome_iff_exists]
      exact exists_congr fun v => all.found name v
    · intro name v found
      rw [all.found] at found
      rw [all.viewCount]
      exact (List.getElem?_eq_some_iff.mp found).1
    · intro name other v isName isOther
      rw [all.found] at isName isOther
      exact Option.some.inj (isName.symm.trans isOther)
    · intro v made
      obtain ⟨name, isPlaced⟩ := view v made
      rw [all.view name v isPlaced]
    · intro v made
      obtain ⟨name, isPlaced⟩ := view v made
      rw [World.typeOf, all.view name v isPlaced]
      exact all.typed
    · intro name v found
      rw [all.found] at found
      rw [all.view name v found]
    · intro name v found owner owns
      rw [all.found] at found
      obtain ⟨u, isOlder, isPlaced⟩ := all.older name v found owner owns
      exact ⟨u, isOlder, (all.found owner u).mpr isPlaced⟩
    · exact all.pass
    · exact all.quiet
  -- nobody has subscribed to anything
  have subscribers : ∀ c, (w.container c).subscribers = [] := by
    intro c
    by_cases made : c < order.length
    · rw [all.held _ c (List.getElem?_eq_getElem made)]
    · rw [World.container_of_le w (all.containerCount ▸ Nat.le_of_not_lt made)]
      rfl
  constructor
  · exact cast
  · exact all.sound
  · intro name v found
    exact congrArg Container.values (all.held name v ((all.found name v).mp found))
  · intro name v found
    rw [all.view name v ((all.found name v).mp found)]
    rfl
  · exact congrArg Array.size all.unbound
  · intro n b isBound
    cases isBound
  · intro name v found n
    rw [all.view name v ((all.found name v).mp found)]
    simp
  · intro c x mem
    rw [subscribers] at mem
    cases mem
  · intro c
    rw [subscribers]
    exact .nil

end Scene

/-! ### The handles -/

variable {w : World}

/-- Handles on views may be listed in another order. -/
theorem World.Sound.relist (h : w.Sound) {views : OrderedMap ViewId}
    (same : ∀ name, views.find? name = w.handles.views.find? name) :
    (w.modifyHandles fun h => { h with views := views }).Sound := by
  have values : ∀ v, v ∈ views.values ↔ v ∈ w.handles.views.values := by
    intro v
    simp only [OrderedMap.mem_values_iff, same]
  have releases : Releases w [] (w.modifyHandles fun h => { h with views := views }) :=
    .of_eq rfl rfl rfl rfl rfl rfl rfl
  refine ⟨h.subscribed.releases releases, ?_, ?_, h.receipted.of_grows (.of_releases releases) rfl⟩
  · refine h.kept.of_views_eq (fun _ => rfl) ?_ (Nat.le_refl _) (fun _ => id) rfl
    intro v dead
    rw [Bool.eq_false_iff, Ne, isAlive_iff] at dead ⊢
    exact fun alive => dead (alive.imp_left (values v).mpr)
  · exact h.numbered.releases releases (fun v mem => Or.inl ((values v).mp mem)) (fun _ => Or.inl)
      fun _ => Or.inl

/-- A scene that is being played does not mind. -/
theorem Scene.Plays.relist {s : Scene} {filters : FilterSet} {q : RegistryId} {h : Holdings}
    {destroyed : List String} {bound : List BindingSpec} (plays : s.Plays filters q h destroyed bound w)
    {views : OrderedMap ViewId} (same : ∀ name, views.find? name = w.handles.views.find? name) :
    s.Plays filters q h destroyed bound (w.modifyHandles fun h => { h with views := views }) :=
  plays.of_same (plays.sound.relist same) (funext same) rfl rfl rfl rfl (fun _ _ => rfl) rfl plays.cast.quiet

/-- What is found among those names that have something. -/
private theorem lookup_filterMap {α : Type} (f : String → Option α) (names : List String) (name : String) :
    (names.filterMap fun x => (f x).map fun y => (x, y)).lookup name =
      if name ∈ names then f name else none := by
  induction names with
  | nil => rfl
  | cons first rest inductionHypothesis =>
      rw [List.filterMap_cons]
      by_cases here : name = first
      · subst here
        cases found : f name with
        | none => simp [inductionHypothesis, found]
        | some y => simp
      · have differs : (name == first) = false := by simpa using here
        cases f first with
        | none => simp [inductionHypothesis, here]
        | some y => simp [List.lookup_cons, differs, inductionHypothesis, here]

/-- The names that have something. -/
private theorem map_fst_filterMap {α : Type} (f : String → Option α) (names : List String) :
    (names.filterMap fun x => (f x).map fun y => (x, y)).map Prod.fst = names.filter fun x => (f x).isSome := by
  induction names with
  | nil => rfl
  | cons first rest inductionHypothesis =>
      rw [List.filterMap_cons, List.filter_cons, ← inductionHypothesis]
      cases f first <;> rfl

private theorem Scene.nodup_declaredHandles (s : Scene) (w : World) :
    ((s.viewNames.filterMap fun name =>
      (w.handles.views.find? name).map fun v => (name, v)).map Prod.fst).Nodup := by
  rw [map_fst_filterMap]
  exact s.views.nodup.filter _

/-- The views have their handles still when these are listed as the views are declared. -/
theorem Scene.find?_declaredHandles {s : Scene}
    (declared : ∀ name, (w.handles.views.find? name).isSome → s.views.contains name) (name : String) :
    (s.declaredHandles w).find? name = w.handles.views.find? name := by
  rw [declaredHandles, OrderedMap.find?_ofList (s.nodup_declaredHandles w), lookup_filterMap]
  split
  · rfl
  · next undeclared =>
    by_contra found
    exact undeclared (OrderedMap.mem_keys_iff.mpr
      (declared name (Option.isSome_iff_ne_none.mpr (Ne.symm found))))

/-- The handles are listed as the views are declared, if every view has one. -/
theorem Scene.keys_declaredHandles {s : Scene}
    (made : ∀ name ∈ s.viewNames, (w.handles.views.find? name).isSome) :
    (s.declaredHandles w).keys = s.viewNames := by
  rw [declaredHandles, OrderedMap.keys_ofList (s.nodup_declaredHandles w), map_fst_filterMap]
  exact List.filter_eq_self.mpr made

namespace Scene

variable {s : Scene}

/-- Where there is an order of creation, all views are made, and their handles listed as they are declared. -/
theorem instantiate_placed (filters : FilterSet) {order : List String}
    (ordered : Ownership.creationOrder s.views = .ok order) :
    ∃ w, s.Placed filters 0 0 order w ∧
      s.instantiate filters = .ok ⟨0, w.modifyHandles fun h => { h with views := s.declaredHandles w }⟩ := by
  obtain ⟨w, installed, start⟩ := Placed.start (s := s) s.name filters
  obtain ⟨w', added, all⟩ := start.addViews (Ownership.isCreationOrder_of_creationOrder ordered) rfl
  refine ⟨w', all, ?_⟩
  simp only [instantiate]
  show Except.bind (Except.mapError SceneError.view
    ((World.empty.addType s.name).2.usePlugin 0 (plugin filters))) _ = _
  rw [installed]
  show Except.bind (Except.mapError SceneError.validation (Ownership.creationOrder s.views)) _ = _
  rw [ordered]
  show Except.bind (order.foldlM (s.addView 0) w) _ = _
  rw [added]
  rfl

/-- The handles that are listed as the views are declared are those with which the views were made. -/
theorem Plays.find?_declaredHandles {filters : FilterSet} {q : RegistryId} {h : Holdings}
    {destroyed : List String} {bound : List BindingSpec} (plays : s.Plays filters q h destroyed bound w) :
    (s.declaredHandles w).find? = w.handles.views.find? :=
  funext (s.find?_declaredHandles fun name isFound => plays.cast.found name ▸ isFound)

/-- Where there is an order of creation, a scene comes alive: its views are there, hold what they declare and
have no bindings yet. -/
theorem instantiate_ok (filters : FilterSet) {order : List String}
    (ordered : Ownership.creationOrder s.views = .ok order) :
    ∃ i, s.instantiate filters = .ok i ∧ s.Plays filters 0 s.declared [] [] i.world := by
  obtain ⟨w, all, instantiated⟩ := instantiate_placed filters ordered
  have plays := all.plays (Ownership.isCreationOrder_of_creationOrder ordered)
  exact ⟨_, instantiated, plays.relist (congrFun plays.find?_declaredHandles)⟩

/-- Where there is none, it does not. -/
theorem instantiate_error (filters : FilterSet) {e : ValidationError}
    (unordered : Ownership.creationOrder s.views = .error e) :
    s.instantiate filters = .error (.validation e) := by
  obtain ⟨w, installed, _⟩ := Placed.start (s := s) s.name filters
  simp only [instantiate]
  show Except.bind (Except.mapError SceneError.view
    ((World.empty.addType s.name).2.usePlugin 0 (plugin filters))) _ = _
  rw [installed]
  show Except.bind (Except.mapError SceneError.validation (Ownership.creationOrder s.views)) _ = _
  rw [unordered]
  rfl

end Scene

end LiveTemplate
