import LiveTemplate.Proofs.Run.Binding
import LiveTemplate.Proofs.Scene.Order
import LiveTemplate.Proofs.Scene.Replay

/-!
The views of a scene in a world.  Every declared view is there under its name and has the owner that it
declares, so the way from a view to its owners is the path of their names, and an identifier is found in the
world where the declarations say.
-/

namespace LiveTemplate

namespace Scene

variable {s : Scene} {order : List String}

/-- Where views can be made in an order, a path has no more views than stand up to its first one. -/
private theorem pathFrom_eq (isOrder : Ownership.IsCreationOrder s.views order) {before after : List String}
    {name : String} (split : order = before ++ name :: after) {fuel room : Nat}
    (enough : before.length < fuel) (wide : before.length < room) :
    s.pathFrom fuel name = s.pathFrom room name := by
  induction fuel generalizing name before after room with
  | zero => exact absurd enough (Nat.not_lt_zero _)
  | succ fuel inductionHypothesis =>
      cases room with
      | zero => exact absurd wide (Nat.not_lt_zero _)
      | succ room =>
          simp only [pathFrom]
          cases owns : Ownership.owner? s.views name with
          | none => rfl
          | some owner =>
              obtain ⟨first, rest, split', shorter⟩ := isOrder.split_owner split owns
              exact congrArg (name :: ·) (inductionHypothesis split'
                (Nat.lt_of_lt_of_le shorter (Nat.le_of_lt_succ enough))
                (Nat.lt_of_lt_of_le shorter (Nat.le_of_lt_succ wide)))

/-- Where views can be made in an order, a path goes on from owner to owner until there is none. -/
theorem path_eq (isOrder : Ownership.IsCreationOrder s.views order) {name : String}
    (declared : s.views.contains name) :
    s.path name = name ::
      match Ownership.owner? s.views name with
      | some owner => s.path owner
      | none => [] := by
  have size : s.views.size = order.length := by
    rw [isOrder.perm.length_eq]
    exact (List.length_map _).symm
  obtain ⟨before, after, split⟩ :=
    List.append_of_mem (isOrder.perm.mem_iff.mpr (OrderedMap.mem_keys_iff.mpr declared))
  have room : s.views.size = before.length + after.length + 1 := by simp [size, split, Nat.add_assoc]
  have first : s.path name = name ::
      match Ownership.owner? s.views name with
      | some owner => s.pathFrom (before.length + after.length) owner
      | none => [] := congrArg (s.pathFrom · name) room
  rw [first]
  cases owns : Ownership.owner? s.views name with
  | none => rfl
  | some owner =>
      obtain ⟨prior, rest, split', shorter⟩ := isOrder.split_owner split owns
      exact congrArg (name :: ·) (pathFrom_eq isOrder split' (Nat.lt_add_right _ shorter)
        (by rw [room]; omega))

end Scene

/-- The views of a scene are in a world, with the filters of a set in a registry. -/
structure Scene.Cast (s : Scene) (filters : FilterSet) (q : RegistryId) (w : World) : Prop where
  count : w.views.size = s.views.size
  found : ∀ name, (w.handles.views.find? name).isSome = s.views.contains name
  made : ∀ name v, w.handles.views.find? name = some v → v < w.views.size
  injective : ∀ name other v, w.handles.views.find? name = some v →
    w.handles.views.find? other = some v → name = other
  /-- The state of a view has the number of the view. -/
  state : ∀ v < w.views.size, (w.view v).state = v
  registry : ∀ v < w.views.size, (w.typeOf v).registry = some q
  owner : ∀ name v, w.handles.views.find? name = some v →
    (w.view v).owner = (Ownership.owner? s.views name).bind w.handles.views.find?
  /-- Owners are there, and are older. -/
  older : ∀ name v, w.handles.views.find? name = some v →
    ∀ owner, Ownership.owner? s.views name = some owner →
      ∃ u < v, w.handles.views.find? owner = some u
  pass : w.pass q = filters.pass
  quiet : w.FiltersQuiet

/-- What the views of a scene hold in a world. -/
def Holdings.HeldIn (h : Holdings) (w : World) : Prop :=
  ∀ name v, w.handles.views.find? name = some v → (w.container v).values = h name

namespace World

variable {w : World}

theorem isAlive_of_find? {name : String} {v : ViewId} (found : w.handles.views.find? name = some v) :
    w.isAlive v :=
  isAlive_iff.mpr (Or.inl (OrderedMap.mem_values_of_find? found))

end World

namespace Scene.Cast

variable {s : Scene} {filters : FilterSet} {q : RegistryId} {w : World} {h : Holdings}
variable {name : String} {v : ViewId}

/-- The owner of a view, by its number and by its name. -/
theorem owner?_eq (cast : s.Cast filters q w) (found : w.handles.views.find? name = some v) :
    w.owner? v = (Ownership.owner? s.views name).bind w.handles.views.find? := by
  rw [World.owner?, cast.owner name v found]
  cases owns : Ownership.owner? s.views name with
  | none => rfl
  | some owner =>
      obtain ⟨u, _, isOwner⟩ := cast.older name v found owner owns
      simp only [Option.bind_some, isOwner, Option.filter_some, World.isAlive_of_find? isOwner,
        ↓reduceIte]

/-- The way from a view to its owners is the path of their names. -/
theorem chainFrom (cast : s.Cast filters q w) (found : w.handles.views.find? name = some v)
    {fuel room : Nat} (enough : v < fuel) (wide : v < room) :
    List.Forall₂ (fun name v => w.handles.views.find? name = some v) (s.pathFrom fuel name)
      (w.chainFrom room v) := by
  induction fuel generalizing name v room with
  | zero => exact absurd enough (Nat.not_lt_zero _)
  | succ fuel inductionHypothesis =>
      cases room with
      | zero => exact absurd wide (Nat.not_lt_zero _)
      | succ room =>
          simp only [pathFrom, World.chainFrom, cast.owner?_eq found]
          refine .cons found ?_
          cases owns : Ownership.owner? s.views name with
          | none => exact .nil
          | some owner =>
              obtain ⟨u, isOlder, isOwner⟩ := cast.older name v found owner owns
              simp only [Option.bind_some, isOwner]
              exact inductionHypothesis isOwner (Nat.lt_of_lt_of_le isOlder (Nat.le_of_lt_succ enough))
                (Nat.lt_of_lt_of_le isOlder (Nat.le_of_lt_succ wide))

/-- An identifier is found in the state of the first view that holds it. -/
theorem resolveIn (cast : s.Cast filters q w) (held : h.HeldIn w) {x : String} {depth : Nat}
    {names : List String} {views : List ViewId}
    (same : List.Forall₂ (fun name v => w.handles.views.find? name = some v) names views) :
    (w.resolveIn x depth views).map (·.container) =
      (names.find? fun name => (h name).contains x).bind w.handles.views.find? := by
  induction same generalizing depth with
  | nil => rfl
  | @cons name v names views found _ inductionHypothesis =>
      have state := cast.state v (cast.made name v found)
      rw [World.resolveIn, World.stateOf, state, held name v found, List.find?_cons,
        OrderedMap.contains_eq]
      cases (h name).find? x with
      | none => exact inductionHypothesis
      | some value => simp [found]

/-- An identifier is found where the declarations say, as long as the views hold what they declare. -/
theorem resolve (cast : s.Cast filters q w) (held : s.declared.HeldIn w)
    (found : w.handles.views.find? name = some v) (x : String) :
    (w.resolve x v).map (·.container) = (s.source? name x).bind w.handles.views.find? := by
  have made : v < s.views.size := cast.count ▸ cast.made name v found
  exact cast.resolveIn held (cast.chainFrom found made (Nat.lt_succ_self v))

/-- The path of a view that is there leads through views that are there. -/
theorem found_of_mem_path (cast : s.Cast filters q w) (found : w.handles.views.find? name = some v)
    {other : String} (mem : other ∈ s.path name) : (w.handles.views.find? other).isSome := by
  have made : v < s.views.size := cast.count ▸ cast.made name v found
  have same := cast.chainFrom found made made
  have each : List.Forall₂ (fun name v => (w.handles.views.find? name).isSome ∧
      w.handles.views.find? name = some v) (s.path name) (w.chainFrom s.views.size v) :=
    same.imp fun _ _ isFound => ⟨Option.isSome_of_eq_some isFound, isFound⟩
  exact ((List.forall₂_and_left _ _).mp each).1 other mem

/-- An identifier is found in the world just if it has a source by the declarations. -/
theorem isSome_resolve (cast : s.Cast filters q w) (held : s.declared.HeldIn w)
    (found : w.handles.views.find? name = some v) (x : String) :
    (w.resolve x v).isSome = (s.source? name x).isSome := by
  rw [← Option.isSome_map, cast.resolve held found x]
  cases isSource : s.source? name x with
  | none => rfl
  | some other =>
      have onPath := cast.found_of_mem_path found (List.mem_of_find?_eq_some isSource)
      exact onPath

/-- The identifiers of a template have sources in the world if they have some by the declarations. -/
theorem resolveAll_ok_iff (cast : s.Cast filters q w) (held : s.declared.HeldIn w)
    (found : w.handles.views.find? name = some v) (identifiers : List String) :
    (∃ sources, w.resolveAll v identifiers = .ok sources) ↔
      ∀ x ∈ identifiers, (s.source? name x).isSome := by
  rw [World.resolveAll_ok_iff]
  exact forall₂_congr fun x _ => by rw [cast.isSome_resolve held found x]

end Scene.Cast

end LiveTemplate
