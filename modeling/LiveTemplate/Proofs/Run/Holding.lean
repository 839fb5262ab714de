import LiveTemplate.Proofs.Run.Reaches

/-!
What containers and registries hold.  A value comes into a container that was there only by being stored in
it, and a filter into a registry that was there only by being registered in it; every other move leaves both
as they are.  So the entries that were made since say what a key holds now: what was stored under it last, or
else what it held before.
-/

namespace LiveTemplate

namespace Moment

/-- The value that is stored under a key of a container. -/
def stored? (m : Moment) (c : ContainerId) (key : String) : Option Value :=
  match m.occurrence with
  | .stored d k value _ => if d = c ∧ k = key then some value else none
  | _ => none

/-- Whether a source of a binding is set. -/
def setsSource (m : Moment) (b : BindingId) : Bool :=
  match m.occurrence with
  | .stored c key _ _ => (m.world.binding b).sources.contains (key, c)
  | _ => false

/-- Whether a value is stored in one of some sources. -/
def storesTo (m : Moment) (sources : Sources) : Bool :=
  match m.occurrence with
  | .stored c key _ _ => sources.contains (key, c)
  | _ => false

theorem setsSource_eq (m : Moment) (b : BindingId) :
    m.setsSource b = m.storesTo (m.world.binding b).sources := rfl

/-- Whether a filter was registered. -/
def registersFilter (m : Moment) : Bool :=
  match m.occurrence with
  | .nested step (.ok _) => step.registersFilter
  | _ => false

/-- Whether a filter was registered in a registry: it is then the one that was made last. -/
def registersIn (m : Moment) (q : RegistryId) : Bool :=
  m.registersFilter && m.world.hasNewest q

variable {m : Moment}

/-- Nothing comes into a source where nothing is stored in the sources. -/
theorem stored?_eq_none {sources : Sources} (other : m.storesTo sources = false)
    {p : String × ContainerId} (mem : p ∈ sources) : m.stored? p.2 p.1 = none := by
  simp only [stored?]
  split
  · next d k value subscribers isStored =>
    simp only [storesTo, isStored] at other
    apply if_neg
    rintro ⟨rfl, rfl⟩
    exact Bool.false_ne_true (other.symm.trans (List.contains_iff_mem.mpr mem))
  · rfl

theorem registersIn_eq_false (other : m.registersFilter = false) (q : RegistryId) :
    m.registersIn q = false := by
  simp only [registersIn, other, Bool.false_and]

end Moment

/-- The value that was stored last under a key of a container, if any was. -/
def lastStored? (c : ContainerId) (key : String) (entries : List Moment) : Option Value :=
  entries.reverse.findSome? (·.stored? c key)

section

variable {c : ContainerId} {key : String} {entries : List Moment}

theorem lastStored?_append (xs ys : List Moment) :
    lastStored? c key (xs ++ ys) = (lastStored? c key ys).or (lastStored? c key xs) := by
  simp only [lastStored?, List.reverse_append, List.findSome?_append]

theorem lastStored?_singleton (m : Moment) : lastStored? c key [m] = m.stored? c key := by
  simp only [lastStored?, List.reverse_singleton, List.findSome?_singleton]

theorem lastStored?_eq_none (never : ∀ m ∈ entries, m.stored? c key = none) :
    lastStored? c key entries = none := by
  apply List.findSome?_eq_none_iff.mpr
  intro m mem
  exact never m (List.mem_reverse.mp mem)

end

/-- What the source of an identifier holds after some entries, in a world that goes on from this one. -/
def World.valueAfter (w : World) (sources : Sources) (entries : List Moment) (identifier : String) :
    Option Value :=
  (sources.lookup identifier).bind fun c =>
    (lastStored? c identifier entries).or ((w.container c).values.find? identifier)

namespace Run

variable {r r' : Run} {c : ContainerId} {q : RegistryId} {sources : Sources}

/-- Only storing a value under a key changes what the key holds. -/
theorem Next.find?_eq (next : Next r r') (made : c < r.world.containers.size) (key : String) :
    (r'.world.container c).values.find? key =
      (lastStored? c key (r'.since r)).or ((r.world.container c).values.find? key) := by
  cases next with
  | move move =>
      cases move with
      | @change w' change =>
          have none : (r.turn w').since r = [] := since_of_eq rfl
          rw [none]
          exact congrArg (OrderedMap.find? · key) (change.values_eq made)
      | @entry o allowed =>
          rw [since_of_push rfl, lastStored?_singleton]
          cases o with
          | stored => exact absurd allowed.world id
          | _ => rfl
      | deed deed =>
          rw [since_of_push rfl, lastStored?_singleton]
          exact congrArg (OrderedMap.find? · key) (deed.values_eq c)
  | store d k value =>
      rw [since_of_push rfl, lastStored?_singleton]
      show ((r.world.store d k value).container c).values.find? key = _
      simp only [World.container_store, Moment.stored?]
      by_cases here : d = c
      · subst here
        simp only [true_and, made, and_self, ↓reduceIte, OrderedMap.find?_insert]
        by_cases same : k = key
        · simp only [same, ↓reduceIte, Option.some_or]
        · simp only [same, Ne.symm same, ↓reduceIte, Option.none_or]
      · simp only [here, Ne.symm here, false_and, ↓reduceIte, Option.none_or]

/-- What a key holds, by what was stored since. -/
theorem Reaches.find?_eq (reaches : Reaches r r') (made : c < r.world.containers.size) (key : String) :
    (r'.world.container c).values.find? key =
      (lastStored? c key (r'.since r)).or ((r.world.container c).values.find? key) := by
  induction reaches with
  | refl => rw [since_of_eq rfl]; rfl
  | tail before next inductionHypothesis =>
      have grows := Reaches.grows before
      rw [Reaches.since_trans before (.single next), lastStored?_append, Option.or_assoc,
        ← inductionHypothesis]
      exact next.find?_eq (Nat.lt_of_lt_of_le made grows.containerCount) key

/-- What sources hold, by what was stored since. -/
theorem Reaches.valueIn_eq (reaches : Reaches r r')
    (made : ∀ p ∈ sources, p.2 < r.world.containers.size) :
    r'.world.valueIn sources = r.world.valueAfter sources (r'.since r) := by
  funext identifier
  simp only [World.valueIn, World.valueAfter]
  cases found : sources.lookup identifier with
  | none => rfl
  | some c => exact reaches.find?_eq (made _ (World.mem_of_lookup found)) identifier

/-- Only registering a filter in a registry changes it. -/
theorem Next.registry_eq (next : Next r r') (made : q < r.world.registries.size)
    (calm : ∀ m ∈ r'.since r, m.registersIn q = false) :
    r'.world.registry q = r.world.registry q := by
  cases next with
  | move move =>
      cases move with
      | change change => exact change.keepsRegistries q made
      | entry => rfl
      | deed deed =>
          rw [since_of_push rfl] at calm
          apply (deed.registry_eq_or made).resolve_right
          rintro ⟨registers, newest⟩
          apply Bool.false_ne_true
          rw [← calm _ List.mem_cons_self]
          exact Bool.and_eq_true_iff.mpr ⟨registers, newest⟩
  | store => rfl

theorem Reaches.registry_eq (reaches : Reaches r r') (made : q < r.world.registries.size)
    (calm : ∀ m ∈ r'.since r, m.registersIn q = false) :
    r'.world.registry q = r.world.registry q := by
  induction reaches with
  | refl => rfl
  | tail before next inductionHypothesis =>
      rw [Reaches.since_trans before (.single next)] at calm
      have grows := Reaches.grows before
      apply (next.registry_eq (Nat.lt_of_lt_of_le made grows.registryCount) ?_).trans
      · apply inductionHypothesis
        intro m mem
        exact calm m (List.mem_append_left _ mem)
      · intro m mem
        exact calm m (List.mem_append_right _ mem)

/-- A template is composed to the same as long as none of the sources is set and no filter is registered in
the registry. -/
theorem Reaches.compose_eq (reaches : Reaches r r') (sound : r.world.Sound) (t : Template)
    (hasRegistry : q < r.world.registries.size)
    (present : ∀ p ∈ sources, ((r.world.container p.2).values.find? p.1).isSome)
    (calm : ∀ m ∈ r'.since r, m.storesTo sources = false ∧ m.registersIn q = false) :
    t.compose (r'.world.valueIn sources) (r'.world.pass q) =
      t.compose (r.world.valueIn sources) (r.world.pass q) := by
  have registry := reaches.registry_eq hasRegistry fun m mem => (calm m mem).2
  apply World.compose_eq sound.numbered reaches.grows t registry
  intro p mem
  have unset : lastStored? p.2 p.1 (r'.since r) = none := by
    apply lastStored?_eq_none
    intro m inList
    exact Moment.stored?_eq_none (calm m inList).1 mem
  have held := reaches.find?_eq (World.lt_size_of_find? _ (present p mem)) p.1
  rw [unset] at held
  exact held

/-- A binding is composed to the same as long as none of its sources is set and no filter is registered in
its registry. -/
theorem Reaches.composed_eq {b : BindingId} (reaches : Reaches r r') (sound : r.world.Sound)
    (made : b < r.world.bindings.size)
    (calm : ∀ m ∈ r'.since r,
      m.setsSource b = false ∧ m.registersIn (r.world.binding b).registry = false) :
    r'.world.composed b = r.world.composed b := by
  have grows := reaches.grows
  simp only [World.composed, grows.template_eq made, grows.sources_eq made,
    grows.registry_eq made]
  apply reaches.compose_eq sound _ (sound.numbered.bound b made).1
  · intro p mem
    exact sound.subscribed.present b p mem
  · intro m mem
    refine ⟨?_, (calm m mem).2⟩
    rw [← (calm m mem).1, Moment.setsSource_eq, (reaches.grows_to_moment mem).sources_eq made]

end Run

end LiveTemplate
