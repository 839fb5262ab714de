import LiveTemplate.Proofs.World.Sound
import Mathlib.Logic.Relation

/-!
When a binding is released.  A binding has one keeper, the view that it was made on or a handle of the program, and
an active binding stays active through every change but three: it is released in person, its handle is taken off it,
or the view that keeps it ends, by being destroyed or by losing its last hold.  Whatever else is made, destroyed or
dropped, it does not touch it.

A keeper that has let go of a binding does not come to stand again: a view that has ended stays so, and a handle is
put on new bindings only.  So whether a binding that nobody released in person is active can be told from its keeper.
-/

namespace LiveTemplate

/-- Who keeps a binding: the view that it was made on, or the program under a handle. -/
inductive Keeper where
  | view (v : ViewId)
  | handle (name : String)

namespace Keeper

/-- The keeper has the binding. -/
def Has (w : World) (b : BindingId) : Keeper → Prop
  | .view v => b ∈ (w.view v).bindings
  | .handle name => w.handles.bindings.find? name = some b

/-- The keeper has not let go of the binding: the view is not destroyed and somebody holds it, or the handle is still
on the binding. -/
def Stands (w : World) (b : BindingId) : Keeper → Prop
  | .view v => (w.view v).isDestroyed = false ∧ w.isAlive v
  | .handle name => w.handles.bindings.find? name = some b

/-- The view that keeps the binding was made. -/
def IsMade (w : World) : Keeper → Prop
  | .view v => v < w.views.size
  | .handle _ => True

variable {w w' : World} {b : BindingId} {k : Keeper}

/-- A keeper of a binding was made. -/
theorem Has.isMade (has : k.Has w b) : k.IsMade w := by
  cases k with
  | handle => exact trivial
  | view v =>
      by_contra unmade
      have mem : b ∈ (w.view v).bindings := has
      rw [World.view_of_le w (Nat.le_of_not_lt unmade)] at mem
      exact List.not_mem_nil mem

/-- Who has a binding is a matter of the views and of the handles on bindings. -/
theorem has_congr (views : w'.views = w.views) (handles : w'.handles.bindings = w.handles.bindings) :
    k.Has w' b ↔ k.Has w b := by
  cases k with
  | view v => rw [Has, Has, World.view, views]; rfl
  | handle name => rw [Has, Has, handles]

/-- Who has let go of a binding is a matter of these and of the holds on views. -/
theorem stands_congr (views : w'.views = w.views) (handles : w'.handles.bindings = w.handles.bindings)
    (heldViews : w'.handles.views = w.handles.views) (pinned : w'.pinnedViews = w.pinnedViews) :
    k.Stands w' b ↔ k.Stands w b := by
  cases k with
  | view v => rw [Stands, Stands, World.view, views, World.isAlive, heldViews, pinned]; rfl
  | handle name => rw [Stands, Stands, handles]

/-- What was made stays made. -/
theorem IsMade.of_grows (isMade : k.IsMade w) (grows : World.Grows w w') : k.IsMade w' := by
  cases k with
  | view v => exact Nat.lt_of_lt_of_le isMade grows.viewCount
  | handle => exact trivial

end Keeper

namespace World

/-- Why a binding that at most one view keeps is released by a change. -/
inductive Frees (w : World) (v : ViewId) (b : BindingId) (w' : World) : Prop where
  | release (released : w' = w.release b)
  | handle {handle : String} (held : w.handles.bindings.find? handle = some b)
      (lost : w'.handles.bindings.find? handle ≠ some b)
  | view (kept : b ∈ (w.view v).bindings) (ended : (w'.view v).isDestroyed ∨ w'.isAlive v = false)

/-- A keeper of the binding has let go of it. -/
def Loses (w : World) (b : BindingId) (w' : World) : Prop :=
  ∃ k : Keeper, k.Has w b ∧ ¬ k.Stands w' b

variable {w w' w'' : World} {v : ViewId} {b : BindingId}

/-- A binding that was released is among those that were. -/
theorem Releases.mem {bs : List BindingId} (releases : Releases w bs w')
    (active : (w.binding b).isActive) (gone : (w'.binding b).isActive = false) : b ∈ bs := by
  by_contra other
  rw [releases.binding, if_neg other, active] at gone
  cases gone

/-! ### What releases a binding -/

namespace Loses

/-- What left the binding as it was did not release it. -/
theorem of_binding_eq (same : w'.binding b = w.binding b) (active : (w.binding b).isActive)
    (gone : (w'.binding b).isActive = false) : w.Loses b w' := by
  rw [same, active] at gone
  cases gone

/-- A view that had the binding has ended. -/
private theorem of_ended (kept : b ∈ (w.view v).bindings)
    (ended : (w'.view v).isDestroyed = true ∨ w'.isAlive v = false) : w.Loses b w' := by
  refine ⟨.view v, kept, fun stands => ?_⟩
  rcases ended with isDestroyed | dead
  · exact Bool.false_ne_true (stands.1.symm.trans isDestroyed)
  · exact Bool.false_ne_true (dead.symm.trans stands.2)

/-- A view that lost a hold releases its bindings only if it has ended. -/
private theorem of_settle {held : World} (views : held.views = w.views)
    (bindings : held.bindings = w.bindings) (active : (w.binding b).isActive) {u : ViewId} :
    ((held.settle u).binding b).isActive = false → w.Loses b (held.settle u) := by
  have sameBinding : held.binding b = w.binding b := by rw [binding, bindings]; rfl
  simp only [settle]
  split
  · exact of_binding_eq sameBinding active
  · next dead =>
    intro gone
    have mem := (releaseBindings_releases held u).mem (sameBinding ▸ active) gone
    rw [World.view, views] at mem
    exact of_ended mem (Or.inr (by simpa [isAlive] using dead))

/-- A view that loses its handle to another releases bindings only if it has ended. -/
theorem of_holdView (active : (w.binding b).isActive) (handle : String) (u : ViewId) :
    ((w.holdView handle u).binding b).isActive = false → w.Loses b (w.holdView handle u) := by
  simp only [World.holdView]
  split
  · exact of_settle (by rfl) (by rfl) active
  · exact of_binding_eq rfl active

/-- A view that loses its handle releases bindings only if it has ended. -/
theorem of_dropView (active : (w.binding b).isActive) (handle : String) :
    ((w.dropView handle).binding b).isActive = false → w.Loses b (w.dropView handle) := by
  simp only [World.dropView]
  split
  · exact of_settle (by rfl) (by rfl) active
  · exact of_binding_eq rfl active

/-- A view that no running call holds any longer releases bindings only if it has ended. -/
theorem of_unpinView (active : (w.binding b).isActive) :
    (w.unpinView.binding b).isActive = false → w.Loses b w.unpinView := by
  simp only [World.unpinView]
  split
  · exact of_binding_eq rfl active
  · exact of_settle (by rfl) (by rfl) active

/-- A view that is destroyed releases the bindings that it had. -/
theorem of_destroy (active : (w.binding b).isActive) {u : ViewId}
    (gone : ((w.destroy u).binding b).isActive = false) : w.Loses b (w.destroy u) := by
  have mem := (destroy_releases w u).mem active gone
  split at mem
  · exact absurd mem List.not_mem_nil
  · next notDestroyed =>
    have made : u < w.views.size := by
      by_contra unmade
      rw [view_of_le w (Nat.le_of_not_lt unmade)] at mem
      exact List.not_mem_nil mem
    apply of_ended mem
    left
    rw [view_destroy w made (by simpa using notDestroyed), if_pos rfl]

/-- A binding whose handle is dropped has lost it. -/
theorem of_dropBinding {handle : String} (active : (w.binding b).isActive)
    (gone : ((w.dropBinding handle).binding b).isActive = false) : w.Loses b (w.dropBinding handle) := by
  have held : w.handles.bindings.find? handle = some b := by
    simpa using (dropBinding_releases w handle).mem active gone
  refine ⟨.handle handle, held, fun stands => ?_⟩
  simp only [Keeper.Stands, World.dropBinding, held, (release_frame _ _).2.2.2.2.2.1] at stands
  change (w.handles.bindings.erase handle).find? handle = some b at stands
  rw [OrderedMap.find?_erase, if_pos rfl] at stands
  cases stands

/-- A handle that is put on a new binding is taken off the one that it was on. -/
theorem of_holdBinding {held : World} (handles : held.handles = w.handles) {handle : String}
    {new : BindingId} (other : b ≠ new) (active : (held.binding b).isActive)
    (gone : ((held.holdBinding handle new).binding b).isActive = false) :
    w.Loses b (held.holdBinding handle new) := by
  have found : w.handles.bindings.find? handle = some b := by
    rw [← handles]
    simpa using (holdBinding_releases held handle new).mem active gone
  refine ⟨.handle handle, found, fun stands => ?_⟩
  simp only [Keeper.Stands, (holdBinding_frame held handle new).1, OrderedMap.find?_insert, ↓reduceIte] at stands
  exact other (Option.some.inj stands).symm

/-- Of a binding that at most one view keeps, this is the view. -/
theorem frees (loses : w.Loses b w') (own : ∀ u, b ∈ (w.view u).bindings → u = v) : w.Frees v b w' := by
  obtain ⟨k, has, falls⟩ := loses
  cases k with
  | handle handle => exact .handle has falls
  | view u =>
      cases own u has
      refine .view has ?_
      by_contra stands
      rw [not_or, Bool.not_eq_true, Bool.not_eq_false] at stands
      exact falls stands

end Loses

/-- A change that releases a binding does so in person, or a keeper of the binding has let go of it. -/
theorem Change.loses (change : Change w w') (active : (w.binding b).isActive)
    (gone : (w'.binding b).isActive = false) : w' = w.release b ∨ w.Loses b w' := by
  have made := lt_size_of_isActive w active
  cases change with
  | release a =>
      have same := List.mem_singleton.mp ((release_releases w a).mem active gone)
      exact Or.inl (by rw [same])
  | install done =>
      have same : w'.bindings = w.bindings := (Equips.usePlugin done).1.same.2.2.2.1
      exact Or.inr (.of_binding_eq (by rw [binding, same]; rfl) active gone)
  | holdView handle => exact Or.inr (.of_holdView active handle _ gone)
  | dropView handle => exact Or.inr (.of_dropView active handle gone)
  | unpinView => exact Or.inr (.of_unpinView active gone)
  | destroy => exact Or.inr (.of_destroy active gone)
  | dropBinding handle => exact Or.inr (.of_dropBinding active gone)
  | bindOnView viewLabel bindable =>
      have loose := loose viewLabel bindable
      have activeThen := active
      rw [← loose.binding b (Nat.ne_of_lt made)] at activeThen
      have mem := (recordBinding_releases _ _ _).mem activeThen gone
      split at mem
      · exact absurd (List.mem_singleton.mp mem) (Nat.ne_of_lt made)
      · exact absurd mem List.not_mem_nil
  | bindUnderHandle viewLabel bindable handle =>
      have loose := loose viewLabel bindable
      have activeThen := active
      rw [← loose.binding b (Nat.ne_of_lt made)] at activeThen
      exact Or.inr (.of_holdBinding loose.handles (Nat.ne_of_lt made) activeThen gone)
  | _ => exact Or.inr (.of_binding_eq rfl active gone)

/-- Pinning a view that is alive leaves what is alive. -/
theorem isAlive_pinView (alive : w.isAlive v) (u : ViewId) : (w.pinView v).isAlive u = w.isAlive u := by
  rw [Bool.eq_iff_iff, isAlive_iff, isAlive_iff]
  constructor
  · rintro (held | pinned)
    · exact Or.inl held
    · rcases List.mem_cons.mp pinned with rfl | before
      · exact isAlive_iff.mp alive
      · exact Or.inr before
  · exact Or.imp_right (List.mem_cons_of_mem _)

/-! ### Keepers in the course of time -/

/-- Of the bindings that there already were, a handle is put on none, and it stays on those that are still active. -/
def Holds (w w' : World) : Prop :=
  ∀ name, ∀ b < w.bindings.size,
    (w'.handles.bindings.find? name = some b → w.handles.bindings.find? name = some b) ∧
      ((w'.binding b).isActive → w.handles.bindings.find? name = some b →
        w'.handles.bindings.find? name = some b)

namespace Holds

/-- Handles that stay as they are stay on their bindings. -/
theorem of_handles_eq (same : w'.handles.bindings = w.handles.bindings) : Holds w w' := by
  intro name b _
  rw [same]
  exact ⟨id, fun _ => id⟩

/-- A handle that is dropped was on a binding that is released by that. -/
theorem dropBinding (w : World) (handle : String) : Holds w (w.dropBinding handle) := by
  cases found : w.handles.bindings.find? handle with
  | none => exact of_handles_eq (by simp only [World.dropBinding, found])
  | some a =>
      have handles : (w.dropBinding handle).handles.bindings = w.handles.bindings.erase handle := by
        simp only [World.dropBinding, found, release_frame]
        rfl
      intro name b made
      rw [handles, OrderedMap.find?_erase]
      by_cases here : name = handle
      · rw [if_pos here, here]
        refine ⟨(absurd · (Option.some_ne_none b).symm), fun active isFound => ?_⟩
        rw [(dropBinding_releases w handle).binding, if_pos (by simpa using isFound)] at active
        cases active
      · rw [if_neg here]
        exact ⟨id, fun _ => id⟩

/-- A handle is put on a new binding. -/
theorem holdBinding {held : World} (handles : held.handles = w.handles) (handle : String)
    {new : BindingId} (fresh : w.bindings.size ≤ new) : Holds w (held.holdBinding handle new) := by
  intro name b made
  rw [(holdBinding_frame held handle new).1, handles]
  change (OrderedMap.find? (w.handles.bindings.insert handle new) name = some b → _) ∧ _
  rw [OrderedMap.find?_insert]
  by_cases here : name = handle
  · rw [if_pos here, here]
    refine ⟨fun same => ?_, fun active isFound => ?_⟩
    · exact absurd (Option.some.inj same) (Nat.ne_of_gt (Nat.lt_of_lt_of_le made fresh))
    · rw [(holdBinding_releases held handle new).binding, handles,
        if_pos (by simpa using isFound)] at active
      cases active
  · rw [if_neg here]
    exact ⟨id, fun _ => id⟩

end Holds

/-- A change puts handles on new bindings only. -/
theorem Change.holds (change : Change w w') : Holds w w' := by
  cases change with
  | install done => exact .of_handles_eq (by rw [(Equips.usePlugin done).1.same.2.2.2.2.1])
  | hold _ bindings => exact .of_handles_eq bindings
  | holdView handle => exact .of_handles_eq (by rw [handles_holdView])
  | dropView handle =>
      apply Holds.of_handles_eq
      rcases handles_dropView w handle with erased | same
      · rw [erased]
      · rw [same]
  | unpinView => exact .of_handles_eq (by rw [handles_unpinView])
  | destroy v => exact .of_handles_eq (by rw [(destroy_frame w v).1])
  | release b => exact .of_handles_eq (by simp)
  | dropBinding handle => exact .dropBinding w handle
  | bindOnView viewLabel bindable =>
      exact .of_handles_eq (by rw [(recordBinding_frame _ _ _).1, (loose viewLabel bindable).handles])
  | bindUnderHandle viewLabel bindable handle =>
      exact .holdBinding (loose viewLabel bindable).handles handle (Nat.le_refl _)
  | _ => exact .of_handles_eq rfl

/-- What is kept through each change is kept through a sequence of them. -/
private theorem Keeps.trans (first : Keeps w w') (second : Keeps w' w'') (grows : Grows w w')
    (growsOn : Grows w' w'') : Keeps w w'' := by
  intro v b made active
  have madeThen := Nat.lt_of_lt_of_le made grows.bindingCount
  exact (second v b madeThen active).trans (first v b made ((growsOn.binding b madeThen).2 active))

/-- What holds through each change holds through a sequence of them. -/
private theorem Holds.trans (first : Holds w w') (second : Holds w' w'') (grows : Grows w w')
    (growsOn : Grows w' w'') : Holds w w'' := by
  intro name b made
  have madeThen := Nat.lt_of_lt_of_le made grows.bindingCount
  constructor
  · exact fun found => (first name b made).1 ((second name b madeThen).1 found)
  · intro active found
    have activeThen := (growsOn.binding b madeThen).2 active
    exact (second name b madeThen).2 active ((first name b made).2 activeThen found)

/-- Through any changes, views keep what they have, and handles are put on new bindings only. -/
private theorem lasting_of_changes (changes : Relation.ReflTransGen Change w w') :
    Grows w w' ∧ Keeps w w' ∧ Holds w w' := by
  induction changes with
  | refl => exact ⟨.refl w, .of_views_eq rfl, .of_handles_eq rfl⟩
  | tail _ change inductionHypothesis =>
      obtain ⟨grows, keeps, holds⟩ := inductionHypothesis
      exact ⟨grows.trans change.grows, keeps.trans change.keeps grows change.grows,
        holds.trans change.holds grows change.grows⟩

/-! ### Changes that release no binding in person -/

/-- Changes leave a sound world sound. -/
theorem Sound.changes (sound : w.Sound) (changes : Relation.ReflTransGen Change w w') : w'.Sound := by
  induction changes with
  | refl => exact sound
  | tail _ change inductionHypothesis => exact inductionHypothesis.change change

/-- Changes in which no binding is released but by a keeper of it, and no view that has ended is held again. -/
structure Spares (w w' : World) : Prop where
  changes : Relation.ReflTransGen Change w w'
  loses : ∀ b, (w.binding b).isActive → (w'.binding b).isActive = false → w.Loses b w'
  ended : ∀ v < w.views.size, w.isAlive v = false → w'.isAlive v = false

/-- Such changes that make no binding either. -/
structure Calm (w w' : World) : Prop extends Spares w w' where
  bindingCount : w'.bindings.size = w.bindings.size

/-- A keeper that has a binding has not let go of it. -/
theorem Sound.stands (sound : w.Sound) {k : Keeper} (has : k.Has w b) : k.Stands w b := by
  cases k with
  | handle => exact has
  | view v =>
      have mem : b ∈ (w.view v).bindings := has
      have lasts : ¬ ((w.view v).isDestroyed = true ∨ w.isAlive v = false) := by
        intro gone
        rw [sound.kept.ended v gone] at mem
        exact List.not_mem_nil mem
      simpa [Keeper.Stands] using lasts

namespace Spares

/-- Whatever is let go of, everything is still there. -/
theorem grows (spares : Spares w w') : Grows w w' := (lasting_of_changes spares.changes).1

/-- Of a binding that is still active, there are the keepers that there were. -/
theorem has_iff (spares : Spares w w') (made : b < w.bindings.size) (active : (w'.binding b).isActive)
    (k : Keeper) : k.Has w' b ↔ k.Has w b := by
  obtain ⟨_, keeps, holds⟩ := lasting_of_changes spares.changes
  cases k with
  | view v => exact keeps v b made active
  | handle name => exact ⟨(holds name b made).1, (holds name b made).2 active⟩

/-- A keeper that has let go of a binding does not come to stand again. -/
theorem stands (spares : Spares w w') (made : b < w.bindings.size) {k : Keeper} (isMade : k.IsMade w)
    (stands : k.Stands w' b) : k.Stands w b := by
  cases k with
  | handle name => exact ((lasting_of_changes spares.changes).2.2 name b made).1 stands
  | view v =>
      have madeView : v < w.views.size := isMade
      constructor
      · by_contra destroyed
        have gone := (spares.grows.view v madeView).2 (by simpa using destroyed)
        exact Bool.false_ne_true (stands.1.symm.trans gone)
      · by_contra dead
        have gone := spares.ended v madeView (by simpa using dead)
        exact Bool.false_ne_true (gone.symm.trans stands.2)

/-- Of two such changes, one of them released what is released after both. -/
theorem trans (first : Spares w w') (second : Spares w' w'') : Spares w w'' where
  changes := first.changes.trans second.changes
  ended v made dead :=
    second.ended v (Nat.lt_of_lt_of_le made first.grows.viewCount) (first.ended v made dead)
  loses b active gone := by
    have made := lt_size_of_isActive w active
    have madeThen := Nat.lt_of_lt_of_le made first.grows.bindingCount
    cases middle : (w'.binding b).isActive with
    | false =>
        obtain ⟨k, has, falls⟩ := first.loses b active middle
        refine ⟨k, has, fun stands => falls ?_⟩
        exact second.stands madeThen (Keeper.IsMade.of_grows (Keeper.Has.isMade has) first.grows) stands
    | true =>
        obtain ⟨k, has, falls⟩ := second.loses b middle gone
        exact ⟨k, (first.has_iff made middle k).mp has, falls⟩

/-- Making a binding releases another only by taking its handle. -/
theorem bind (change : Change w w') (count : w'.bindings.size = w.bindings.size + 1)
    (views : w'.handles.views = w.handles.views) (pinned : w'.pinnedViews = w.pinnedViews) : Spares w w' where
  changes := .single change
  loses b active gone := by
    apply (change.loses active gone).resolve_left
    intro released
    rw [released, (release_releases w b).bindingCount] at count
    exact Nat.ne_of_lt (Nat.lt_succ_self _) count
  ended v _ dead := by
    rw [isAlive, views, pinned]
    exact dead

end Spares

namespace Calm

/-- Calm changes leave a sound world sound. -/
theorem sound (calm : Calm w w') (sound : w.Sound) : w'.Sound := sound.changes calm.changes

/-- Calm changes, one after the other. -/
theorem trans (first : Calm w w') (second : Calm w' w'') : Calm w w'' where
  toSpares := first.toSpares.trans second.toSpares
  bindingCount := second.bindingCount.trans first.bindingCount

/-- A change that leaves the bindings and the holds on views as they were. -/
theorem of_same (change : Change w w') (bindings : w'.bindings = w.bindings)
    (views : w'.handles.views = w.handles.views) (pinned : w'.pinnedViews = w.pinnedViews) : Calm w w' where
  changes := .single change
  loses b active gone := by
    have same : w'.binding b = w.binding b := by rw [binding, bindings]; rfl
    exact .of_binding_eq same active gone
  ended v _ dead := by
    rw [isAlive, views, pinned]
    exact dead
  bindingCount := congrArg Array.size bindings

/-- A new listener is nobody's yet. -/
theorem addListener (w : World) (label : String) (reactions : List (Reaction Step)) :
    Calm w (w.addListener label reactions).2 := .of_same (.addListener label reactions) rfl rfl rfl

/-- The call of a listener is counted. -/
theorem countListenerCall (w : World) (l : ListenerId) : Calm w (w.countListenerCall l) :=
  .of_same (.countListenerCall l) rfl rfl rfl

/-- Holding containers for a running call touches no binding. -/
theorem pinContainers (w : World) (cs : List ContainerId) : Calm w (w.pinContainers cs) :=
  .of_same (.pinContainers cs) rfl rfl rfl

/-- Letting go of containers that a running call held touches no binding. -/
theorem unpinContainers (w : World) (count : Nat) : Calm w (w.unpinContainers count) :=
  .of_same (.unpinContainers count) rfl rfl rfl

/-- A change in which no view comes to be alive. -/
private theorem of_ended (change : Change w w')
    (loses : ∀ b, (w.binding b).isActive → (w'.binding b).isActive = false → w.Loses b w')
    (views : ∀ v ∈ w'.handles.views.values, v ∈ w.handles.views.values)
    (pinned : ∀ v ∈ w'.pinnedViews, v ∈ w.pinnedViews)
    (count : w'.bindings.size = w.bindings.size) : Calm w w' where
  changes := .single change
  loses := loses
  ended v _ dead := by
    rw [Bool.eq_false_iff, Ne, isAlive_iff] at dead ⊢
    exact fun alive => dead (alive.imp (views v) (pinned v))
  bindingCount := count

/-- A running call holds a view that is alive anyway. -/
theorem pinView (alive : w.isAlive v) : Calm w (w.pinView v) where
  changes := .single (.pinView v)
  loses b active gone := .of_binding_eq rfl active gone
  ended u _ dead := by rw [isAlive_pinView alive, dead]
  bindingCount := rfl

/-- A running call lets go of the view that it held last. -/
theorem unpinView (w : World) : Calm w w.unpinView := by
  obtain ⟨bs, releases⟩ := unpinView_releases w
  refine .of_ended .unpinView (fun b active => .of_unpinView active) ?_ ?_ releases.bindingCount
  · rw [handles_unpinView]
    exact fun _ => id
  · intro v mem
    simp only [World.unpinView] at mem
    split at mem
    · exact mem
    · next rest pinned =>
      rw [(settle_frame _ _).2.1] at mem
      rw [pinned]
      exact List.mem_cons_of_mem _ mem

/-- A view that loses its last handle releases what it keeps. -/
theorem dropView (w : World) (handle : String) : Calm w (w.dropView handle) := by
  obtain ⟨bs, releases⟩ := dropView_releases w handle
  refine .of_ended (.dropView handle) (fun b active => .of_dropView active handle) ?_ ?_ releases.bindingCount
  · intro v mem
    rcases handles_dropView w handle with erased | same
    · rw [erased] at mem
      exact OrderedMap.mem_values_erase mem
    · rwa [same] at mem
  · rw [(dropView_frame w handle).1]
    exact fun _ => id

/-- A view that is destroyed releases what it keeps. -/
theorem destroy (w : World) (u : ViewId) : Calm w (w.destroy u) := by
  refine .of_ended (.destroy u) (fun b active => .of_destroy active) ?_ ?_
    (destroy_releases w u).bindingCount
  · rw [(destroy_frame w u).1]
    exact fun _ => id
  · rw [(destroy_frame w u).2.1]
    exact fun _ => id

/-- A handle that is taken off a binding was its keeper. -/
theorem dropBinding (w : World) (handle : String) : Calm w (w.dropBinding handle) := by
  refine .of_ended (.dropBinding handle) (fun b active => .of_dropBinding active) ?_ ?_
    (dropBinding_releases w handle).bindingCount
  · intro v mem
    rcases handles_dropBinding w handle with erased | same
    · rwa [erased] at mem
    · rwa [same] at mem
  · rw [(dropBinding_frame w handle).1]
    exact fun _ => id

/-- A view is added and then given its handle. -/
theorem create (w : World) (type : TypeId) (name : Option String) (state props : OrderedMap Value)
    {owner : Option ViewId} (made : ∀ o, owner = some o → o < w.views.size) (handle : String) :
    Calm w ((w.addView type name state props owner).2.holdView handle w.views.size) := by
  have adds : Calm w (w.addView type name state props owner).2 :=
    .of_same (.addView type name state props made) rfl rfl rfl
  have last : w.views.size < (w.addView type name state props owner).2.views.size :=
    Nat.lt_of_lt_of_eq (Nat.lt_succ_self _) (Array.size_push _).symm
  obtain ⟨bs, releases⟩ :=
    holdView_releases (w.addView type name state props owner).2 handle w.views.size
  refine ⟨⟨adds.changes.tail (.holdView handle last), fun b active gone => ?_, fun v old dead => ?_⟩,
    releases.bindingCount⟩
  · obtain ⟨k, has, falls⟩ := Loses.of_holdView (w := (w.addView type name state props owner).2) active
      handle _ gone
    exact ⟨k, (adds.has_iff (lt_size_of_isActive w active) active k).mp has, falls⟩
  · -- the handle is put on the new view, which had not ended
    rw [Bool.eq_false_iff, Ne, isAlive_iff] at dead ⊢
    rw [handles_holdView, (holdView_frame _ _ _).1]
    rintro (held | pinned)
    · rcases OrderedMap.mem_values_insert held with new | before
      · exact absurd new (Nat.ne_of_lt old)
      · exact dead (Or.inl before)
    · exact dead (Or.inr pinned)

end Calm

/-! ### The keeper of a binding -/

/-- A binding has one keeper, and is active as long as this stands and the binding was not freed in another
way. -/
structure KeptBy (w : World) (b : BindingId) (k : Keeper) (freed : Prop) : Prop where
  active : (w.binding b).isActive ↔ k.Stands w b ∧ ¬ freed
  has : (w.binding b).isActive → ∀ other : Keeper, other.Has w b ↔ other = k

namespace KeptBy

variable {k : Keeper} {freed : Prop}

/-- What releases bindings by their keepers only leaves it so. -/
theorem spares (kept : w.KeptBy b k freed) (sound : w'.Sound) (spares : Spares w w')
    (made : b < w.bindings.size) (isMade : k.IsMade w) : w'.KeptBy b k freed := by
  have has : (w'.binding b).isActive → ∀ other : Keeper, other.Has w' b ↔ other = k := by
    intro active other
    have before := (spares.grows.binding b made).2 active
    exact (spares.has_iff made active other).trans (kept.has before other)
  refine ⟨⟨fun active => ?_, fun ⟨stands, notFreed⟩ => ?_⟩, has⟩
  · have before := (spares.grows.binding b made).2 active
    exact ⟨sound.stands ((has active k).mpr rfl), (kept.active.mp before).2⟩
  · have before := kept.active.mpr ⟨spares.stands made isMade stands, notFreed⟩
    by_contra gone
    obtain ⟨other, isKeeper, falls⟩ := spares.loses b before (by simpa using gone)
    rw [(kept.has before other).mp isKeeper] at falls
    exact falls stands

/-- Where the bindings and who has them are the same, it stays so. -/
theorem of_same (kept : w.KeptBy b k freed) (views : w'.views = w.views) (bindings : w'.bindings = w.bindings)
    (handles : w'.handles.bindings = w.handles.bindings) (heldViews : w'.handles.views = w.handles.views)
    (pinned : w'.pinnedViews = w.pinnedViews) : w'.KeptBy b k freed := by
  have same : w'.binding b = w.binding b := by rw [binding, bindings]; rfl
  constructor
  · rw [same, Keeper.stands_congr views handles heldViews pinned]
    exact kept.active
  · intro active other
    rw [same] at active
    exact (Keeper.has_congr views handles).trans (kept.has active other)

/-- A binding that is released in person is freed, and no other. -/
theorem release (kept : w.KeptBy b k freed) (a : BindingId) : (w.release a).KeptBy b k (freed ∨ b = a) := by
  obtain ⟨_, _, _, views, _, handles, pinned, _⟩ := release_frame w a
  have stands : k.Stands (w.release a) b ↔ k.Stands w b :=
    Keeper.stands_congr views (by rw [handles]) (by rw [handles]) pinned
  constructor
  · rw [stands, binding_release]
    split
    · next same => simp [Binding.released, same]
    · next other => rw [kept.active, or_iff_left other]
  · intro active other
    rw [binding_release] at active
    split at active
    · cases active
    · exact (Keeper.has_congr views (by rw [handles])).trans (kept.has active other)

/-- An active binding that nobody has goes to a view that stands. -/
theorem recordBinding (active : (w.binding b).isActive) (free : ∀ k : Keeper, ¬ k.Has w b)
    (made : v < w.views.size) (stands : (Keeper.view v).Stands w b) :
    (w.recordBinding v b).KeptBy b (.view v) False := by
  obtain ⟨standing, alive⟩ := stands
  have recorded : w.recordBinding v b = w.modifyView v fun x => { x with bindings := x.bindings ++ [b] } :=
    if_neg (by simp [standing])
  have viewAfter : ∀ u, (w.recordBinding v b).view u =
      if u = v then { w.view v with bindings := (w.view v).bindings ++ [b] } else w.view u := by
    intro u
    rw [recorded, view_modifyView]
    simp only [made, and_true]
  have standsAfter : (Keeper.view v).Stands (w.recordBinding v b) b := by
    constructor
    · rw [viewAfter, if_pos rfl]
      exact standing
    · rw [isAlive, (recordBinding_frame _ _ _).1, (recordBinding_frame _ _ _).2.1]
      exact alive
  refine ⟨⟨fun _ => ⟨standsAfter, id⟩, fun _ => ?_⟩, fun _ other => ?_⟩
  · rw [recorded]
    exact active
  · cases other with
    | view u =>
        rw [Keeper.Has, viewAfter, Keeper.view.injEq]
        split
        · next same => exact ⟨fun _ => same, fun _ => List.mem_append_right _ List.mem_cons_self⟩
        · next other => exact ⟨fun mem => absurd mem (free (.view u)), fun same => absurd same other⟩
    | handle name =>
        rw [Keeper.Has, (recordBinding_frame _ _ _).1]
        exact ⟨fun found => absurd found (free (.handle name)), fun same => by cases same⟩

/-- A binding that comes too late for its view is released at once. -/
theorem recordBinding_destroyed (destroyed : (w.view v).isDestroyed) :
    (w.recordBinding v b).KeptBy b (.view v) False := by
  have released : w.recordBinding v b = w.release b := if_pos destroyed
  have gone : ¬ ((w.release b).binding b).isActive = true := by
    rw [binding_release, if_pos rfl]
    exact Bool.false_ne_true
  have stays : ((w.release b).view v).isDestroyed := by
    rw [view, (release_frame _ _).2.2.2.1]
    exact destroyed
  rw [released]
  refine ⟨⟨fun active => absurd active gone, ?_⟩, fun active => absurd active gone⟩
  rintro ⟨⟨standing, _⟩, _⟩
  exact absurd (standing.symm.trans stays) Bool.false_ne_true

/-- An active binding that nobody has goes to the handle that the program gives it. -/
theorem holdBinding (active : (w.binding b).isActive) (free : ∀ k : Keeper, ¬ k.Has w b) (handle : String) :
    (w.holdBinding handle b).KeptBy b (.handle handle) False := by
  have handles : (w.holdBinding handle b).handles.bindings = w.handles.bindings.insert handle b := by
    rw [(holdBinding_frame _ _ _).1]
  have isActive : ((w.holdBinding handle b).binding b).isActive := by
    have other : w.handles.bindings.find? handle ≠ some b := free (.handle handle)
    rw [(holdBinding_releases w handle _).binding, if_neg (by simpa using other)]
    exact active
  refine ⟨⟨fun _ => ⟨?_, id⟩, fun _ => isActive⟩, fun _ other => ?_⟩
  · rw [Keeper.Stands, handles, OrderedMap.find?_insert, if_pos rfl]
  · cases other with
    | view v =>
        rw [Keeper.Has, view, views_holdBinding]
        exact ⟨fun mem => absurd mem (free (.view v)), fun same => by cases same⟩
    | handle name =>
        rw [Keeper.Has, handles, OrderedMap.find?_insert, Keeper.handle.injEq]
        split
        · next same => exact ⟨fun _ => same, fun _ => rfl⟩
        · next other => exact ⟨fun found => absurd found (free (.handle name)), fun same => absurd same other⟩

end KeptBy

variable {template : Template} {registry : RegistryId} {sources : Sources} {listener : ListenerId}

/-- A binding that was just made is active, and nobody has it. -/
private theorem Sound.loose_spec (sound : w.Sound) (viewLabel : String)
    (bindable : w.Bindable template registry sources listener) :
    let bound := (w.addBinding template registry viewLabel sources listener).2.unpinContainers sources.length
    (bound.binding w.bindings.size).isActive ∧ ∀ k : Keeper, ¬ k.Has bound w.bindings.size := by
  intro bound
  constructor
  · obtain ⟨_, _, _, _, bindings, _⟩ :=
      addBinding_spec template registry viewLabel sources listener w bindable.made
    show ((w.addBinding template registry viewLabel sources listener).2.binding w.bindings.size).isActive
    rw [bindings, if_pos rfl]
  · have loose := Change.loose viewLabel bindable
    intro k has
    cases k with
    | view v =>
        have mem : w.bindings.size ∈ (bound.view v).bindings := has
        rw [Change.view_addBinding viewLabel bindable] at mem
        exact Nat.lt_irrefl _ (sound.kept.recorded v _ mem)
    | handle name =>
        have found : bound.handles.bindings.find? name = some w.bindings.size := has
        rw [loose.handles] at found
        exact Nat.lt_irrefl _ (sound.numbered.heldBindings _ (OrderedMap.mem_values_of_find? found))

/-- A binding that is made on a view is kept by it, or released at once if the view is destroyed already. -/
theorem Sound.keptBy_bindOnView (sound : w.Sound) (viewLabel : String)
    (bindable : w.Bindable template registry sources listener) (made : v < w.views.size)
    (alive : w.isAlive v) :
    (((w.addBinding template registry viewLabel sources listener).2.unpinContainers
      sources.length).recordBinding v w.bindings.size).KeptBy w.bindings.size (.view v) False := by
  obtain ⟨active, free⟩ := sound.loose_spec viewLabel bindable
  obtain ⟨views, handles, pinned, _⟩ := Change.loose viewLabel bindable
  generalize (w.addBinding template registry viewLabel sources listener).2.unpinContainers
    sources.length = bound at active free views handles pinned ⊢
  cases destroyed : (bound.view v).isDestroyed with
  | true => exact .recordBinding_destroyed destroyed
  | false =>
      have madeStill : v < bound.views.size := views ▸ made
      have aliveStill : bound.isAlive v := by
        rw [isAlive, handles, pinned]
        exact alive
      exact .recordBinding active free madeStill ⟨destroyed, aliveStill⟩

/-- A binding that is made for the program is kept under its handle. -/
theorem Sound.keptBy_bindUnderHandle (sound : w.Sound) (viewLabel : String)
    (bindable : w.Bindable template registry sources listener) (handle : String) :
    (((w.addBinding template registry viewLabel sources listener).2.unpinContainers
      sources.length).holdBinding handle w.bindings.size).KeptBy w.bindings.size (.handle handle) False := by
  obtain ⟨active, free⟩ := sound.loose_spec viewLabel bindable
  exact .holdBinding active free handle

end World

end LiveTemplate
