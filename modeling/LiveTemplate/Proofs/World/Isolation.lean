import LiveTemplate.Proofs.World.Ancestry
import LiveTemplate.Proofs.World.Composed

/-!
View types keep apart.  A type gets its registry when interpolation is installed on it, and it is installed
under a name of which there can be only one; so the registry is never replaced, and as it was made for this
type no other one has it.  What is installed on a type and registered on it is therefore seen by this type
and its views alone.
-/

namespace LiveTemplate.World

/-- The filter that a view type has under a name. -/
def filterOf? (w : World) (t : TypeId) (name : String) : Option (FilterCode Step) :=
  (w.type t).registry.bind fun q => ((w.registry q).find? name).map fun f => (w.filter f).code

/-- The names of the filters of a view type, if interpolation is installed on it. -/
def filterNames? (w : World) (t : TypeId) : Option (List String) :=
  (w.type t).registry.map fun q => (w.registry q).names

/-- What holds of the view types of every world that steps lead to. -/
structure Isolated (w : World) : Prop where
  plugins : ∀ t, (w.type t).plugins.Nodup
  /-- A type has a registry only if interpolation is installed on it. -/
  marked : ∀ t q, (w.type t).registry = some q → interpolationName ∈ (w.type t).plugins
  apart : ∀ s t q, (w.type s).registry = some q → (w.type t).registry = some q → s = t

variable {w w' : World} {s t : TypeId} {name : String} {code : FilterCode Step} {plugin : Plugin Step}

theorem hasFilter_eq (w : World) (t : TypeId) (name : String) :
    w.hasFilter t name = (w.filterOf? t name).isSome := by
  rw [hasFilter, filterOf?]
  cases (w.type t).registry with
  | none => rfl
  | some q => simp [Registry.has, Registry.find?, OrderedMap.contains_eq]

/-! ### What becomes of types -/

/-- A plugin was installed on a view type under a name. -/
structure Installed (w : World) (t : TypeId) (name : String) (w' : World) : Prop where
  fresh : name ∉ (w.type t).plugins
  /-- The type has the plugin, and a new registry if the plugin is interpolation. -/
  type : ∃ registry,
    (registry = (w.type t).registry ∨ name = interpolationName ∧ registry = some w.registries.size) ∧
      ∀ s, w'.type s = if s = t ∧ t < w.types.size then
        ⟨(w.type t).name, (w.type t).plugins ++ [name], registry⟩ else w.type s

/-- What can become of the view types. -/
inductive Retypes (w w' : World) : Prop where
  | same (types : w'.types = w.types)
  | added (name : String)
      (types : ∀ t, w'.type t = if t = w.types.size then ⟨name, [], none⟩ else w.type t)
  | installed (t : TypeId) (name : String) (installed : Installed w t name w')

theorem types_registerBuiltins (w : World) (q : RegistryId) : (w.registerBuiltins q).types = w.types := by
  rw [registerBuiltins]
  induction Builtin.all generalizing w with
  | nil => rfl
  | cons filter rest inductionHypothesis =>
      rw [List.foldl_cons, inductionHypothesis]
      cases done : w.register? q filter.name ⟨.builtin filter, []⟩ with
      | none => rfl
      | some w' => exact types_register? done

theorem types_registerOn (done : w.registerOn t name code = .ok w') : w'.types = w.types := by
  obtain ⟨q, _, isRegistered⟩ := Equips.registerOn_eq done
  exact types_register? isRegistered

/-- Interpolation gives the type a registry that no type had. -/
theorem types_installInterpolation (w : World) (t : TypeId) (hasBuiltins : Bool) :
    (w.installInterpolation t hasBuiltins).types =
      w.types.modify t fun x => { x with registry := some w.registries.size } := by
  cases hasBuiltins with
  | false => rfl
  | true =>
      exact congrArg (·.modify t fun x => { x with registry := some w.registries.size })
        (types_registerBuiltins w.addRegistry.2 w.registries.size)

/-- What a plugin does when it is installed leaves all of the types but the registry of this one. -/
theorem types_runInstall (isRun : w.runInstall t plugin = .ok w') :
    w'.types.size = w.types.size ∧ ∃ registry,
      (registry = (w.type t).registry ∨
        pluginName plugin = interpolationName ∧ registry = some w.registries.size) ∧
      ∀ s, w'.type s =
        if s = t ∧ t < w.types.size then { w.type t with registry := registry } else w.type s := by
  have interpolates (hasBuiltins : Bool) :
      (w.installInterpolation t hasBuiltins).types.size = w.types.size ∧
        ∀ s, (w.installInterpolation t hasBuiltins).type s = if s = t ∧ t < w.types.size then
          { w.type t with registry := some w.registries.size } else w.type s := by
    have types := types_installInterpolation w t hasBuiltins
    refine ⟨by rw [types, Array.size_modify], fun s => ?_⟩
    rw [type, types]
    exact type_modifyType w t s _
  have unchanged (types : w'.types = w.types) :
      w'.types.size = w.types.size ∧ ∀ s, w'.type s = if s = t ∧ t < w.types.size then
        { w.type t with registry := (w.type t).registry } else w.type s := by
    refine ⟨by rw [types], fun s => ?_⟩
    rw [type, types]
    split
    · next same => rw [same.1]; rfl
    · rfl
  cases plugin with
  | plainInterpolation =>
      cases isRun
      exact ⟨(interpolates false).1, _, .inr ⟨rfl, rfl⟩, (interpolates false).2⟩
  | builtinInterpolation =>
      cases isRun
      exact ⟨(interpolates true).1, _, .inr ⟨rfl, rfl⟩, (interpolates true).2⟩
  | foreign name filter =>
      have types : w'.types = w.types := by
        cases filter with
        | none => exact congrArg types (Except.ok.inj isRun).symm
        | some filter => exact types_registerOn isRun
      exact ⟨(unchanged types).1, _, .inl rfl, (unchanged types).2⟩

/-- Installing a plugin is doing what it does, and noting its name. -/
theorem usePlugin_eq (done : w.usePlugin t plugin = .ok w') :
    pluginName plugin ∉ (w.type t).plugins ∧ ∃ v, w.runInstall t plugin = .ok v ∧
      w' = v.modifyType t fun x => { x with plugins := x.plugins ++ [pluginName plugin] } := by
  simp only [usePlugin] at done
  split at done
  · cases done
  · next fresh =>
    obtain ⟨v, isRun, noted⟩ := exists_of_bind_eq_ok done
    exact ⟨fresh, v, isRun, (Except.ok.inj noted).symm⟩

theorem Installed.of_usePlugin (done : w.usePlugin t plugin = .ok w') :
    Installed w t (pluginName plugin) w' := by
  obtain ⟨fresh, v, isRun, rfl⟩ := usePlugin_eq done
  obtain ⟨count, registry, which, types⟩ := types_runInstall isRun
  refine ⟨fresh, registry, which, fun s => ?_⟩
  rw [type_modifyType, types t, types s, count]
  by_cases made : s = t ∧ t < w.types.size
  · simp only [if_pos made, true_and, if_pos made.2]
  · simp only [if_neg made]

namespace Isolated

theorem empty : World.empty.Isolated where
  plugins _ := List.nodup_nil
  marked _ _ found := by cases found
  apart _ _ _ found := by cases found

/-- A type keeps its registry, whatever becomes of types. -/
theorem keeps (h : w.Isolated) (retypes : Retypes w w') {q : RegistryId}
    (found : (w.type t).registry = some q) : (w'.type t).registry = some q := by
  cases retypes with
  | same types => rw [type, types]; exact found
  | added name types =>
      rw [types]
      split
      · next new =>
        -- the type was not made before, so it had no registry
        rw [new, type, Array.getD_eq_getD_getElem?, Array.getElem?_eq_none (Nat.le_refl _)] at found
        cases found
      · exact found
  | installed s name installed =>
      obtain ⟨registry, which, types⟩ := installed.type
      rw [types]
      split
      · next here =>
        rw [here.1] at found
        rcases which with rfl | ⟨rfl, _⟩
        · exact found
        · exact absurd (h.marked s q found) installed.fresh
      · exact found

theorem retypes (h : w.Isolated) (numbered : w.Numbered) (retypes : Retypes w w') : w'.Isolated := by
  cases retypes with
  | same types =>
      have same : w'.type = w.type := by
        funext t
        rw [type, types, type]
      exact ⟨same ▸ h.plugins, same ▸ h.marked, same ▸ h.apart⟩
  | added name types =>
      refine ⟨fun t => ?_, fun t q found => ?_, fun s t q first second => ?_⟩
      · rw [types]
        split
        · exact List.nodup_nil
        · exact h.plugins t
      · rw [types] at found ⊢
        split at found
        · cases found
        · next old => rw [if_neg old]; exact h.marked t q found
      · rw [types] at first second
        split at first
        · cases first
        · split at second
          · cases second
          · exact h.apart s t q first second
  | installed u name installed =>
      obtain ⟨registry, which, types⟩ := installed.type
      have new : ∀ q, registry = some q → (w.type u).registry = some q ∨
          name = interpolationName ∧ q = w.registries.size := by
        rintro q rfl
        rcases which with old | ⟨named, isNew⟩
        · exact .inl old.symm
        · exact .inr ⟨named, Option.some.inj isNew⟩
      refine ⟨fun t => ?_, fun t q found => ?_, fun s t q first second => ?_⟩
      · rw [types]
        split
        · exact List.nodup_append.mpr ⟨h.plugins u, List.nodup_singleton name, fun a mem b single same =>
            installed.fresh (List.mem_singleton.mp single ▸ same ▸ mem)⟩
        · exact h.plugins t
      · rw [types] at found ⊢
        split at found
        · next here =>
          rw [if_pos here]
          rcases new q found with old | ⟨rfl, _⟩
          · exact List.mem_append_left _ (h.marked u q old)
          · exact List.mem_append_right _ List.mem_cons_self
        · next other => rw [if_neg other]; exact h.marked t q found
      · -- a registry that is new no other type can have
        have unseen : ∀ t q, (w.type t).registry = some q → q ≠ w.registries.size :=
          fun t q found => Nat.ne_of_lt (numbered.typed t q found)
        rw [types] at first second
        split at first
        · next here =>
          split at second
          · next also => rw [here.1, also.1]
          · rcases new q first with old | ⟨_, isNew⟩
            · rw [here.1]; exact h.apart u t q old second
            · exact absurd isNew (unseen t q second)
        · split at second
          · next also =>
            rcases new q second with old | ⟨_, isNew⟩
            · rw [also.1]; exact h.apart s u q first old
            · exact absurd isNew (unseen s q first)
          · exact h.apart s t q first second

end Isolated

/-- A change makes a type, installs a plugin, or leaves the types alone. -/
theorem Change.retypes (change : Change w w') : Retypes w w' := by
  cases change with
  | addType name => exact .added name (type_addType w name)
  | install done => exact .installed _ _ (.of_usePlugin done)
  | holdView handle => exact .same ((holdView_releases w handle _).choose_spec.types)
  | dropView handle => exact .same (dropView_releases w handle).choose_spec.types
  | unpinView => exact .same (unpinView_releases w).choose_spec.types
  | destroy v => exact .same (destroy_releases w v).types
  | release b => exact .same (release_releases w b).types
  | dropBinding handle => exact .same (dropBinding_releases w handle).types
  | bindOnView viewLabel bindable =>
      obtain ⟨_, _, frame, _⟩ := addBinding_spec _ _ viewLabel _ _ w bindable.made
      refine .same ((recordBinding_releases _ _ _).types.trans ?_)
      rw [World.unpinContainers, frame]
  | bindUnderHandle viewLabel bindable handle =>
      obtain ⟨_, _, frame, _⟩ := addBinding_spec _ _ viewLabel _ _ w bindable.made
      refine .same ((holdBinding_releases _ handle _).types.trans ?_)
      rw [World.unpinContainers, frame]
  | _ => exact .same rfl

theorem Deed.retypes {step : Step} {answer : Answer} (deed : Deed w step answer w') : Retypes w w' := by
  cases deed with
  | subscribe done => obtain ⟨c, _, rfl⟩ := listen_eq done; exact .same rfl
  | unsubscribe done => obtain ⟨c, id, _, rfl⟩ := unlisten_eq done; exact .same rfl
  | registerFilter done => exact .same (types_registerOn done)
  | usePlugin done => exact .installed _ _ (.of_usePlugin done)

/-! ### What the other types see -/

/-- Worlds that differ in one view type, its plugins and its filters. -/
structure Apart (w : World) (t : TypeId) (w' : World) : Prop where
  frame : w' = { w with types := w'.types, registries := w'.registries, filters := w'.filters }
  types : ∀ s, s ≠ t → w'.type s = w.type s
  filterOf : ∀ s, s ≠ t → w'.filterOf? s = w.filterOf? s
  filterNames : ∀ s, s ≠ t → w'.filterNames? s = w.filterNames? s

/-- A filter was registered on a view type. -/
structure Gains (w : World) (t : TypeId) (name : String) (code : FilterCode Step) (w' : World) : Prop where
  apart : Apart w t w'
  named : (w'.type t).name = (w.type t).name
  registry : (w'.type t).registry = (w.type t).registry
  filterOf : ∀ other, w'.filterOf? t other = if other = name then some code else w.filterOf? t other
  filterNames : ∃ names, w.filterNames? t = some names ∧
    w'.filterNames? t = some (if name ∈ names then names else names ++ [name])

/-- The filters of a type are the same where its registry has the same entries and filters keep their code. -/
theorem filterOf?_eq (numbered : w.Numbered) (equips : Equips w w')
    (registry : (w'.type t).registry = (w.type t).registry)
    (entries : ∀ q, (w.type t).registry = some q → w'.registry q = w.registry q) :
    w'.filterOf? t = w.filterOf? t ∧ w'.filterNames? t = w.filterNames? t := by
  simp only [filterNames?, registry]
  constructor
  · funext name
    simp only [filterOf?, registry]
    cases found : (w.type t).registry with
    | none => rfl
    | some q =>
        simp only [Option.bind_some, entries q found]
        cases isFound : (w.registry q).find? name with
        | none => rfl
        | some f => simp only [Option.map_some, equips.filter f (numbered.registered q name f isFound)]
  · cases found : (w.type t).registry with
    | none => rfl
    | some q => simp only [Option.map_some, entries q found]

/-- What a type has after a filter was registered on it. -/
theorem Gains.of_registerOn (h : w.Isolated) (numbered : w.Numbered)
    (done : w.registerOn t name code = .ok w') : Gains w t name code w' := by
  obtain ⟨q, found, isRegistered⟩ := Equips.registerOn_eq done
  obtain ⟨equips, others⟩ := Equips.register? isRegistered
  have types := types_register? isRegistered
  have sameType : ∀ s, w'.type s = w.type s := fun s => by rw [type, types, type]
  have seen (s : TypeId) (other : s ≠ t) :
      w'.filterOf? s = w.filterOf? s ∧ w'.filterNames? s = w.filterNames? s :=
    filterOf?_eq numbered equips (by rw [sameType]) fun p hasRegistry =>
      others p fun same => other (h.apart s t q (same ▸ hasRegistry) found)
  have isRegistry : w'.registry q = ⟨(w.registry q).filters.insert name w.filters.size⟩ := by
    rw [registry_register? isRegistered]
    exact if_pos ⟨rfl, numbered.typed t q found⟩
  have isFilter := filter_register? isRegistered
  refine ⟨⟨equips.frame, fun s _ => sameType s, fun s other => (seen s other).1,
    fun s other => (seen s other).2⟩, by rw [sameType], by rw [sameType], fun other => ?_, ?_⟩
  · simp only [filterOf?, sameType, found, Option.bind_some, isRegistry, Registry.find?,
      OrderedMap.find?_insert]
    split
    · rw [Option.map_some, isFilter, if_pos rfl]
    · cases isFound : (w.registry q).filters.find? other with
      | none => rfl
      | some f =>
          have old : f < w.filters.size := numbered.registered q other f isFound
          rw [Option.map_some, Option.map_some, isFilter, if_neg (Nat.ne_of_lt old)]
  · refine ⟨(w.registry q).names, by rw [filterNames?, found, Option.map_some], ?_⟩
    rw [filterNames?, sameType, found, Option.map_some, isRegistry]
    exact congrArg some (OrderedMap.map_fst_putEntry ..)

/-- Noting the name of a plugin touches nothing else. -/
theorem noting_eq (w : World) (t : TypeId) (plugin : String) :
    let noted := w.modifyType t fun x => { x with plugins := x.plugins ++ [plugin] }
    (∀ s, s ≠ t → noted.type s = w.type s) ∧ (noted.type t).name = (w.type t).name ∧
      (noted.type t).registry = (w.type t).registry ∧ noted.filterOf? = w.filterOf? ∧
      noted.filterNames? = w.filterNames? := by
  intro noted
  have same : ∀ s, (noted.type s).name = (w.type s).name ∧ (noted.type s).registry = (w.type s).registry := by
    intro s
    rw [type_modifyType]
    split
    · next here => rw [here.1]; exact ⟨rfl, rfl⟩
    · exact ⟨rfl, rfl⟩
  refine ⟨fun s other => ?_, (same t).1, (same t).2, ?_, ?_⟩
  · rw [type_modifyType, if_neg fun here => other here.1]
  · funext s name
    simp only [filterOf?, (same s).2]
    rfl
  · funext s
    simp only [filterNames?, (same s).2]
    rfl

/-- A plugin that registers a filter has done so when it is installed. -/
theorem Gains.of_usePlugin (h : w.Isolated) (numbered : w.Numbered) {foreignName : String}
    (done : w.usePlugin t (.foreign foreignName (some (name, code))) = .ok w') : Gains w t name code w' := by
  obtain ⟨_, v, isRun, rfl⟩ := usePlugin_eq done
  have gains := Gains.of_registerOn h numbered isRun
  obtain ⟨types, named, registry, filterOf, filterNames⟩ :=
    noting_eq v t (pluginName (.foreign foreignName (some (name, code))))
  refine ⟨⟨?_, fun s other => (types s other).trans (gains.apart.types s other), ?_, ?_⟩,
    named.trans gains.named, registry.trans gains.registry, ?_, ?_⟩
  · rw [gains.apart.frame]; rfl
  · rw [filterOf]; exact gains.apart.filterOf
  · rw [filterNames]; exact gains.apart.filterNames
  · rw [filterOf]; exact gains.filterOf
  · rw [filterNames]; exact gains.filterNames

/-- Whatever plugin is installed on a type, the other types see nothing of it. -/
theorem Apart.of_usePlugin (h : w.Isolated) (numbered : w.Numbered)
    (done : w.usePlugin t plugin = .ok w') : Apart w t w' := by
  obtain ⟨equips, registries⟩ := Equips.usePlugin done
  obtain ⟨_, _, types⟩ := (Installed.of_usePlugin done).type
  have others : ∀ s, s ≠ t → w'.type s = w.type s := fun s other => by
    rw [types, if_neg fun here => other here.1]
  have register : plugin.registersFilter = true → Apart w t w' := by
    intro registers
    match plugin, registers with
    | .foreign _ (some _), _ => exact (Gains.of_usePlugin h numbered done).apart
  cases registers : plugin.registersFilter with
  | true => exact register registers
  | false =>
      have seen (s : TypeId) (other : s ≠ t) := filterOf?_eq numbered equips (by rw [others s other])
        fun q found => (registries q (numbered.typed s q found)).resolve_right (by simp [registers])
      exact ⟨equips.frame, others, fun s other => (seen s other).1, fun s other => (seen s other).2⟩

end LiveTemplate.World
