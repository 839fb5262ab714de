import LiveTemplate.Proofs.OrderedMap
import LiveTemplate.Proofs.World.Parts

/-!
What installing plugins and registering filters does.  Both only add: a filter that was made keeps its
code, and a registry refers to filters that were made.  Only registering a filter writes to a registry
that was there before.
-/

namespace LiveTemplate

/-- Whether installing a plugin registers a filter on the view type. -/
def Plugin.registersFilter : Plugin Step → Bool
  | .foreign _ (some _) => true
  | _ => false

/-- Whether a step registers a filter on a view type that was there before. -/
def Step.registersFilter : Step → Bool
  | .registerFilter .. => true
  | .usePlugin _ plugin => plugin.registersFilter
  | _ => false

namespace World

/-- A world after types, registries and filters were added to another, or filters registered in it. -/
structure Equips (w w' : World) : Prop where
  frame : w' = { w with types := w'.types, registries := w'.registries, filters := w'.filters }
  registryCount : w.registries.size ≤ w'.registries.size
  filterCount : w.filters.size ≤ w'.filters.size
  filter : ∀ f < w.filters.size, w'.filter f = w.filter f
  registered : ∀ r name f, (w'.registry r).find? name = some f →
    (w.registry r).find? name = some f ∨ f < w'.filters.size
  typed : ∀ t r, (w'.type t).registry = some r →
    (w.type t).registry = some r ∨ r < w'.registries.size

/-- Every registry that was there is as it was. -/
def KeepsRegistries (w w' : World) : Prop :=
  ∀ r < w.registries.size, w'.registry r = w.registry r

/-- Whether the filter that was made last is in a registry. -/
def hasNewest (w : World) (r : RegistryId) : Bool :=
  (w.registry r).filters.values.contains (w.filters.size - 1)

/-! ### Registering a filter -/

section

variable {w w' : World} {r : RegistryId} {name : String} {code : FilterCode Step}

/-- Registering succeeds for a name, with a filter that is made for it. -/
theorem register?_eq (done : w.register? r name code = some w') :
    w' = (w.addFilter code).2.modifyRegistry r fun _ =>
      ⟨(w.registry r).filters.insert name w.filters.size⟩ := by
  simp only [register?, Registry.register?, Option.bind_eq_bind, Option.bind_eq_some_iff,
    Option.pure_def, Option.some.injEq, Option.ite_none_right_eq_some] at done
  obtain ⟨_, ⟨_, rfl⟩, rfl⟩ := done
  rfl

/-- Registering a filter leaves the types. -/
theorem types_register? (done : w.register? r name code = some w') : w'.types = w.types := by
  rw [register?_eq done]
  rfl

/-- Registering a filter adds one to the filters. -/
theorem filterCount_register? (done : w.register? r name code = some w') :
    w'.filters.size = w.filters.size + 1 := by
  rw [register?_eq done]
  exact Array.size_push _

/-- The filter that is registered has the next number. -/
theorem filter_register? (done : w.register? r name code = some w') (f : FilterId) :
    w'.filter f = if f = w.filters.size then ⟨code, 0⟩ else w.filter f := by
  rw [register?_eq done]
  exact filter_addFilter w code f

/-- A registered filter stands under its name in one registry. -/
theorem registry_register? (done : w.register? r name code = some w') (q : RegistryId) :
    w'.registry q = if q = r ∧ r < w.registries.size then
      ⟨(w.registry r).filters.insert name w.filters.size⟩ else w.registry q := by
  rw [register?_eq done, registry_modifyRegistry]
  rfl

end

/-! ### What is added -/

namespace Equips

variable {w w' w'' : World}

theorem refl (w : World) : Equips w w :=
  ⟨rfl, Nat.le_refl _, Nat.le_refl _, fun _ _ => rfl, fun _ _ _ => Or.inl, fun _ _ => Or.inl⟩

/-- What registers, one after the other, registers. -/
theorem trans (first : Equips w w') (second : Equips w' w'') : Equips w w'' where
  frame := by rw [second.frame, first.frame]
  registryCount := Nat.le_trans first.registryCount second.registryCount
  filterCount := Nat.le_trans first.filterCount second.filterCount
  filter f made := by
    simp only [second.filter f (Nat.lt_of_lt_of_le made first.filterCount), first.filter f made]
  registered r name f found := by
    rcases second.registered r name f found with before | made
    · apply (first.registered r name f before).imp_right
      intro made
      exact Nat.lt_of_lt_of_le made second.filterCount
    · exact Or.inr made
  typed t r found := by
    rcases second.typed t r found with before | made
    · apply (first.typed t r before).imp_right
      intro made
      exact Nat.lt_of_lt_of_le made second.registryCount
    · exact Or.inr made

/-- Nothing but types, registries and filters is touched. -/
theorem same (h : Equips w w') :
    w'.views = w.views ∧ w'.containers = w.containers ∧ w'.listeners = w.listeners ∧
      w'.bindings = w.bindings ∧ w'.handles = w.handles ∧ w'.pinnedViews = w.pinnedViews ∧
      w'.pinnedContainers = w.pinnedContainers := by
  rw [h.frame]
  exact ⟨rfl, rfl, rfl, rfl, rfl, rfl, rfl⟩

theorem addType (w : World) (name : String) : Equips w (w.addType name).2 where
  frame := rfl
  registryCount := Nat.le_refl _
  filterCount := Nat.le_refl _
  filter _ _ := rfl
  registered _ _ _ := Or.inl
  typed t r found := by
    rw [type_addType] at found
    split at found
    · cases found
    · exact Or.inl found

/-- A new registry is empty. -/
theorem addRegistry (w : World) : Equips w w.addRegistry.2 where
  frame := rfl
  registryCount := by simp [World.addRegistry]
  filterCount := Nat.le_refl _
  filter _ _ := rfl
  registered r name f found := by
    rw [registry_addRegistry] at found
    split at found
    · cases found
    · exact Or.inl found
  typed _ _ := Or.inl

/-- Registering a filter changes one registry. -/
theorem register? {r : RegistryId} {name : String} {code : FilterCode Step}
    (done : w.register? r name code = some w') :
    Equips w w' ∧ ∀ q, q ≠ r → w'.registry q = w.registry q := by
  have registry := registry_register? done
  have count := filterCount_register? done
  refine ⟨⟨?_, ?_, ?_, ?_, ?_, ?_⟩, fun q other => ?_⟩
  · rw [register?_eq done]; rfl
  · simp [register?_eq done, modifyRegistry, addFilter]
  · exact count ▸ Nat.le_succ _
  · intro f made
    rw [filter_register? done, if_neg (Nat.ne_of_lt made)]
  · intro q other f found
    rw [registry] at found
    split at found
    · next written =>
      rw [Registry.find?, OrderedMap.find?_insert] at found
      split at found
      · right
        rw [← Option.some.inj found, count]
        exact Nat.lt_succ_self _
      · left
        rw [written.1]
        exact found
    · exact Or.inl found
  · intro t q found
    rw [type, types_register? done] at found
    exact Or.inl found
  · rw [registry, if_neg fun written => other written.1]

/-- A registry that is written to gets the filter that is made. -/
theorem registry_of_register? {r : RegistryId} {name : String} {code : FilterCode Step}
    (done : w.register? r name code = some w') (q : RegistryId) :
    w'.registry q = w.registry q ∨ w'.hasNewest q := by
  by_cases written : q = r ∧ r < w.registries.size
  · right
    rw [hasNewest, registry_register? done, if_pos written, filterCount_register? done]
    exact List.contains_iff_mem.mpr (OrderedMap.mem_values_insert_self _ _ _)
  · left
    rw [registry_register? done, if_neg written]

/-- A filter is registered on a type in the registry of the type. -/
theorem registerOn_eq {t : TypeId} {name : String} {code : FilterCode Step}
    (done : w.registerOn t name code = .ok w') :
    ∃ r, (w.type t).registry = some r ∧ w.register? r name code = some w' := by
  simp only [World.registerOn] at done
  split at done
  · cases done
  · next r found =>
    split at done
    · cases done
    · next isRegistered =>
      cases done
      exact ⟨r, found, isRegistered⟩

/-- The built-in filters are registered in one registry. -/
theorem registerBuiltins (w : World) (r : RegistryId) :
    Equips w (w.registerBuiltins r) ∧ ∀ q, q ≠ r → (w.registerBuiltins r).registry q = w.registry q := by
  simp only [World.registerBuiltins]
  generalize Builtin.all = filters
  induction filters generalizing w with
  | nil => exact ⟨refl w, fun _ _ => rfl⟩
  | cons filter rest inductionHypothesis =>
      rw [List.foldl_cons]
      cases done : w.register? r filter.name ⟨.builtin filter, []⟩ with
      | none => exact inductionHypothesis w
      | some w' =>
          have one := register? done
          have tail := inductionHypothesis w'
          exact ⟨one.1.trans tail.1, fun q other => (tail.2 q other).trans (one.2 q other)⟩

/-- Interpolation is installed with a registry of its own, so the others stay. -/
theorem installInterpolation (w : World) (t : TypeId) (hasBuiltins : Bool) :
    Equips w (w.installInterpolation t hasBuiltins) ∧
      KeepsRegistries w (w.installInterpolation t hasBuiltins) := by
  have fresh : ∀ r < w.registries.size, w.addRegistry.2.registry r = w.registry r := by
    intro r made
    rw [registry_addRegistry, if_neg (Nat.ne_of_lt made)]
  obtain ⟨w', isBuilt, filled, kept⟩ : ∃ w', w.installInterpolation t hasBuiltins =
        (w'.modifyType t fun x => { x with registry := some w.registries.size }) ∧
      Equips w.addRegistry.2 w' ∧ KeepsRegistries w w' := by
    cases hasBuiltins with
    | false => exact ⟨w.addRegistry.2, rfl, refl _, fresh⟩
    | true =>
        have built := registerBuiltins w.addRegistry.2 w.registries.size
        refine ⟨w.addRegistry.2.registerBuiltins w.registries.size, rfl, built.1, ?_⟩
        intro r made
        rw [built.2 r (Nat.ne_of_lt made), fresh r made]
  have equips := (addRegistry w).trans filled
  have count : w.registries.size < w'.registries.size := by
    refine Nat.lt_of_lt_of_le ?_ filled.registryCount
    simp [World.addRegistry]
  rw [isBuilt]
  refine ⟨⟨?_, equips.registryCount, equips.filterCount, equips.filter, equips.registered, ?_⟩, kept⟩
  · rw [equips.frame]; rfl
  · intro s r found
    rw [type_modifyType] at found
    split at found
    · rw [← Option.some.inj found]
      exact Or.inr count
    · exact equips.typed s r found

theorem registerOn {t : TypeId} {name : String} {code : FilterCode Step}
    (done : w.registerOn t name code = .ok w') : Equips w w' := by
  obtain ⟨r, _, isRegistered⟩ := registerOn_eq done
  exact (register? isRegistered).1

/-- Only a plugin that registers a filter writes to a registry that was there. -/
theorem usePlugin {t : TypeId} {plugin : Plugin Step} (done : w.usePlugin t plugin = .ok w') :
    Equips w w' ∧ ∀ q < w.registries.size,
      w'.registry q = w.registry q ∨ plugin.registersFilter ∧ w'.hasNewest q := by
  have noted : ∀ v : World, ∀ f : ViewType → ViewType, (∀ x, (f x).registry = x.registry) →
      Equips v (v.modifyType t f) := by
    intro v f same
    refine ⟨rfl, Nat.le_refl _, Nat.le_refl _, fun _ _ => rfl, fun _ _ _ => Or.inl, ?_⟩
    intro s r found
    rw [type_modifyType] at found
    split at found
    · next here => rw [same] at found; rw [here.1]; exact Or.inl found
    · exact Or.inl found
  simp only [World.usePlugin] at done
  split at done
  · cases done
  · cases isRun : w.runInstall t plugin with
    | error e => rw [isRun] at done; cases done
    | ok v =>
        rw [isRun] at done
        cases done
        have run : Equips w v ∧ ∀ q < w.registries.size,
            v.registry q = w.registry q ∨ plugin.registersFilter ∧ v.hasNewest q := by
          cases plugin with
          | plainInterpolation =>
              cases isRun
              exact (installInterpolation w t false).imp_right fun kept q made => Or.inl (kept q made)
          | builtinInterpolation =>
              cases isRun
              exact (installInterpolation w t true).imp_right fun kept q made => Or.inl (kept q made)
          | foreign name filter =>
              cases filter with
              | none => cases isRun; exact ⟨refl w, fun _ _ => Or.inl rfl⟩
              | some filter =>
                  obtain ⟨r, _, isRegistered⟩ := registerOn_eq isRun
                  refine ⟨registerOn isRun, fun q _ => ?_⟩
                  exact (registry_of_register? isRegistered q).imp_right fun newest => ⟨rfl, newest⟩
        exact ⟨run.1.trans (noted v _ fun _ => rfl), run.2⟩

end Equips

end World

end LiveTemplate
