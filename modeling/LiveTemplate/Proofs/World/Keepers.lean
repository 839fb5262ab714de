import LiveTemplate.Proofs.OrderedMap
import LiveTemplate.Proofs.World.Parts

/-!
Who keeps a binding.  An active binding is kept by a view that has it among its bindings, or by the
program under a handle.  A view that was destroyed, or that nobody holds, keeps none; so its bindings have
all been released.
-/

namespace LiveTemplate.World

/-- A view is alive if the program or a running call holds it. -/
theorem isAlive_iff {w : World} {v : ViewId} :
    w.isAlive v = true ↔ v ∈ w.handles.views.values ∨ v ∈ w.pinnedViews := by
  simp [isAlive]

/-- Every active binding has a keeper, and views that have ended keep none. -/
structure Kept (w : World) : Prop where
  recorded : ∀ v, ∀ b ∈ (w.view v).bindings, b < w.bindings.size
  ended : ∀ v, (w.view v).isDestroyed = true ∨ w.isAlive v = false → (w.view v).bindings = []
  owned : ∀ b, (w.binding b).isActive →
    (∃ v, b ∈ (w.view v).bindings) ∨ b ∈ w.handles.bindings.values

namespace Kept

variable {w w' : World}

/-- Nothing is kept where nothing was made. -/
theorem empty : World.empty.Kept where
  recorded _ _ mem := absurd mem List.not_mem_nil
  ended _ _ := rfl
  owned _ active := absurd active Bool.false_ne_true

/-- Where the views stay and no view ends, bindings may be released. -/
theorem of_views_eq (h : w.Kept) (views : ∀ v, w'.view v = w.view v)
    (alive : ∀ v, w'.isAlive v = false → w.isAlive v = false)
    (bindings : w.bindings.size ≤ w'.bindings.size)
    (active : ∀ b, (w'.binding b).isActive → (w.binding b).isActive)
    (handles : w'.handles.bindings = w.handles.bindings) : w'.Kept where
  recorded v b mem := by
    rw [views] at mem
    exact Nat.lt_of_lt_of_le (h.recorded v b mem) bindings
  ended v gone := by
    rw [views] at gone ⊢
    exact h.ended v (gone.imp_right (alive v))
  owned b isActive := by
    rcases h.owned b (active b isActive) with ⟨v, mem⟩ | mem
    · exact Or.inl ⟨v, by rw [views]; exact mem⟩
    · exact Or.inr (by rw [handles]; exact mem)

/-- Where no view ends and no binding comes to life. -/
theorem of_same (h : w.Kept) (views : w'.views = w.views) (handles : w'.handles.views = w.handles.views)
    (pinned : w'.pinnedViews = w.pinnedViews) (bindings : w'.bindings = w.bindings)
    (held : w'.handles.bindings = w.handles.bindings) : w'.Kept := by
  refine h.of_views_eq ?_ ?_ (bindings ▸ Nat.le_refl _) ?_ held
  · intro v
    rw [view, views]; rfl
  · intro v
    simp only [isAlive, handles, pinned, imp_self]
  · intro b
    rw [binding, bindings]; exact id

/-- A view whose bindings are released keeps none, whatever happened to it before. -/
theorem of_releaseBindings {v : ViewId}
    (recorded : ∀ u, ∀ b ∈ (w.view u).bindings, b < w.bindings.size)
    (ended : ∀ u, u ≠ v → (w.view u).isDestroyed = true ∨ w.isAlive u = false →
      (w.view u).bindings = [])
    (owned : ∀ b, (w.binding b).isActive →
      (∃ u, b ∈ (w.view u).bindings) ∨ b ∈ w.handles.bindings.values) :
    (w.releaseBindings v).Kept where
  recorded u b mem := by
    rw [(releaseBindings_releases w v).bindingCount]
    rw [view_releaseBindings] at mem
    split at mem
    · exact absurd mem List.not_mem_nil
    · exact recorded u b mem
  ended u gone := by
    rw [view_releaseBindings] at gone ⊢
    split
    · rfl
    · next other =>
      rw [if_neg other] at gone
      exact ended u other (gone.imp_right fun dead => by simpa [isAlive] using dead)
  owned b isActive := by
    rw [(releaseBindings_releases w v).binding] at isActive
    split at isActive
    · exact absurd isActive Bool.false_ne_true
    · next notOurs =>
      rcases owned b isActive with ⟨u, mem⟩ | mem
      · have other : u ≠ v := fun same => notOurs (same ▸ mem)
        exact Or.inl ⟨u, by rw [view_releaseBindings, if_neg other]; exact mem⟩
      · exact Or.inr (by simpa using mem)

/-- A view that lost a hold ends if that was the last one. -/
theorem of_settle {v : ViewId} (recorded : ∀ u, ∀ b ∈ (w.view u).bindings, b < w.bindings.size)
    (ended : ∀ u, u ≠ v → (w.view u).isDestroyed = true ∨ w.isAlive u = false →
      (w.view u).bindings = [])
    (destroyed : (w.view v).isDestroyed = true → (w.view v).bindings = [])
    (owned : ∀ b, (w.binding b).isActive →
      (∃ u, b ∈ (w.view u).bindings) ∨ b ∈ w.handles.bindings.values) :
    (w.settle v).Kept := by
  simp only [settle]
  split
  · next alive =>
    refine ⟨recorded, ?_, owned⟩
    intro u gone
    by_cases same : u = v
    · subst same
      rcases gone with isDestroyed | dead
      · exact destroyed isDestroyed
      · rw [alive] at dead; cases dead
    · exact ended u same gone
  · exact of_releaseBindings recorded ended owned

/-- Releasing a binding leaves the others with their keepers. -/
theorem release (h : w.Kept) (b : BindingId) : (w.release b).Kept := by
  refine h.of_views_eq (fun v => by simp [view]) (fun v => by simp [isAlive]) (by simp) (fun a => ?_)
    (by simp)
  rw [binding_release]
  split
  · intro active; exact absurd active Bool.false_ne_true
  · exact id

/-- One more hold on a view ends none. -/
theorem pinView (h : w.Kept) (v : ViewId) : (w.pinView v).Kept := by
  refine h.of_views_eq (fun _ => rfl) ?_ (Nat.le_refl _) (fun _ => id) rfl
  intro u dead
  rw [Bool.eq_false_iff, Ne, isAlive_iff] at dead ⊢
  intro alive
  exact dead (alive.imp_right (List.mem_cons_of_mem _))

/-- A view that a running call no longer holds ends only if nobody else does. -/
theorem unpinView (h : w.Kept) : w.unpinView.Kept := by
  simp only [World.unpinView]
  split
  · exact h
  · next v rest pinned =>
    refine of_settle h.recorded (fun u other gone => h.ended u (gone.imp_right ?_))
      (fun isDestroyed => h.ended v (Or.inl isDestroyed)) h.owned
    intro dead
    rw [Bool.eq_false_iff, Ne, isAlive_iff] at dead ⊢
    rintro (held | inPins)
    · exact dead (Or.inl held)
    · rw [pinned] at inPins
      exact dead (Or.inr ((List.mem_cons.mp inPins).resolve_left other))

/-- A handle that is put on another view lets go of the one that it was on. -/
theorem holdView (h : w.Kept) (handle : String) (v : ViewId) : (w.holdView handle v).Kept := by
  -- a view that nobody holds afterwards was not held before, or it is the one that lost the handle
  have dead : ∀ u, (w.modifyHandles fun x =>
      { x with views := x.views.insert handle v }).isAlive u = false →
      w.isAlive u = false ∨ w.handles.views.find? handle = some u := by
    intro u isDead
    rw [Bool.eq_false_iff, Ne, isAlive_iff] at isDead
    by_cases alive : w.isAlive u = true
    · rcases isAlive_iff.mp alive with held | pinned
      · rcases OrderedMap.mem_values_insert_or_find? handle v held with stays | lost
        · exact absurd (Or.inl stays) isDead
        · exact Or.inr lost
      · exact absurd (Or.inr pinned) isDead
    · exact Or.inl (by simpa using alive)
  simp only [World.holdView]
  split
  · next u found =>
    refine of_settle h.recorded ?_
      (fun isDestroyed => h.ended u (Or.inl isDestroyed)) h.owned
    intro x other gone
    rcases gone with isDestroyed | isDead
    · exact h.ended x (Or.inl isDestroyed)
    · rcases dead x isDead with before | lost
      · exact h.ended x (Or.inr before)
      · simp only [found] at lost
        exact absurd (Option.some.inj lost).symm other
  · next free =>
    refine ⟨h.recorded, ?_, h.owned⟩
    intro x gone
    rcases gone with isDestroyed | isDead
    · exact h.ended x (Or.inl isDestroyed)
    · rcases dead x isDead with before | lost
      · exact h.ended x (Or.inr before)
      · rw [free] at lost; cases lost

/-- A view ends with its last handle. -/
theorem dropView (h : w.Kept) (handle : String) : (w.dropView handle).Kept := by
  simp only [World.dropView]
  split
  · next v found =>
    refine of_settle h.recorded (fun u other gone => h.ended u (gone.imp_right ?_))
      (fun isDestroyed => h.ended v (Or.inl isDestroyed)) h.owned
    intro dead
    rw [Bool.eq_false_iff, Ne, isAlive_iff] at dead ⊢
    rintro (held | pinned)
    · rcases OrderedMap.mem_values_erase_or_find? handle held with stays | lost
      · exact dead (Or.inl stays)
      · simp only [found] at lost
        exact other (Option.some.inj lost).symm
    · exact dead (Or.inr pinned)
  · exact h

/-- A view that is destroyed has no bindings left. -/
theorem destroy (h : w.Kept) (v : ViewId) : (w.destroy v).Kept := by
  simp only [World.destroy]
  split
  · exact h
  · have bindings : ∀ u, ((w.modifyView v fun x => { x with isDestroyed := true }).view u).bindings =
        (w.view u).bindings := by
      intro u
      rw [view_modifyView]
      split
      · next same => rw [same.1]
      · rfl
    refine of_releaseBindings ?_ ?_ ?_
    · intro u b mem
      rw [bindings] at mem
      exact h.recorded u b mem
    · intro u other gone
      rw [bindings]
      refine h.ended u (gone.imp_left ?_)
      intro isDestroyed
      rw [view_modifyView, if_neg fun same => other same.1] at isDestroyed
      exact isDestroyed
    · intro b active
      simp only [bindings]
      exact h.owned b active

/-- What destroying a view comes to, also if it was destroyed before: it has no bindings any more. -/
theorem destroy_spec (h : w.Kept) {v : ViewId} (made : v < w.views.size) :
    Releases w (w.view v).bindings (w.destroy v) ∧
      ∀ u, (w.destroy v).view u =
        if u = v then { w.view v with isDestroyed := true, bindings := [] } else w.view u := by
  have releases := destroy_releases w v
  cases gone : (w.view v).isDestroyed with
  | true =>
      have none := h.ended v (Or.inl gone)
      have same : w.destroy v = w := by rw [World.destroy, if_pos gone]
      rw [if_pos gone, same] at releases
      rw [none, same]
      refine ⟨releases, fun u => ?_⟩
      split
      · next here => rw [here, ← gone, ← none]
      · rfl
  | false =>
      rw [gone] at releases
      exact ⟨releases, view_destroy w made gone⟩

/-- A binding is released with its handle. -/
theorem dropBinding (h : w.Kept) (handle : String) : (w.dropBinding handle).Kept := by
  simp only [World.dropBinding]
  split
  · next b found =>
    refine ⟨?_, ?_, ?_⟩
    · intro v a mem
      simp only [view, release_frame] at mem ⊢
      exact h.recorded v a mem
    · intro v gone
      simp only [view, isAlive, release_frame] at gone ⊢
      exact h.ended v gone
    · intro a active
      rw [binding_release] at active
      split at active
      · exact absurd active Bool.false_ne_true
      · next other =>
        simp only [view, release_frame]
        apply (h.owned a active).imp_right
        intro mem
        rcases OrderedMap.mem_values_erase_or_find? handle mem with stays | lost
        · exact stays
        · simp only [found] at lost
          exact absurd (Option.some.inj lost).symm other
  · exact h

/-- A new view keeps no bindings yet. -/
theorem addView (h : w.Kept) (type : TypeId) (name : Option String)
    (state props : OrderedMap Value) (owner : Option ViewId) :
    (w.addView type name state props owner).2.Kept := by
  have same : ∀ v, ((w.addView type name state props owner).2.view v).bindings =
        (w.view v).bindings ∧
      ((w.addView type name state props owner).2.view v).isDestroyed =
        (w.view v).isDestroyed := by
    intro v
    rw [view_addView]
    split
    · next new => rw [view_of_le w (Nat.le_of_eq new.symm)]; exact ⟨rfl, rfl⟩
    · exact ⟨rfl, rfl⟩
  refine ⟨?_, ?_, ?_⟩
  · intro v b mem
    rw [(same v).1] at mem
    exact h.recorded v b mem
  · intro v gone
    rw [(same v).2] at gone
    rw [(same v).1]
    exact h.ended v gone
  · intro b active
    refine (h.owned b active).imp_left fun ⟨v, mem⟩ => ⟨v, ?_⟩
    rw [(same v).1]
    exact mem

/-- One more binding was made, which nobody keeps yet. -/
structure Loose (w w' : World) : Prop where
  views : w'.views = w.views
  handles : w'.handles = w.handles
  pinned : w'.pinnedViews = w.pinnedViews
  count : w'.bindings.size = w.bindings.size + 1
  binding : ∀ b, b ≠ w.bindings.size → w'.binding b = w.binding b

/-- The new binding goes to a view that is alive, or is released at once. -/
theorem recordBinding (h : w.Kept) (loose : Loose w w') {v : ViewId} (made : v < w.views.size)
    (alive : w.isAlive v) : (w'.recordBinding v w.bindings.size).Kept := by
  have views : ∀ u, w'.view u = w.view u := fun u => by rw [view, loose.views]; rfl
  have aliveEq : ∀ u, w'.isAlive u = w.isAlive u := fun u => by
    simp only [isAlive, loose.handles, loose.pinned]
  simp only [World.recordBinding]
  split
  · refine h.of_views_eq ?_ ?_ ?_ ?_ ?_
    · intro u
      simp only [view, release_frame, loose.views]
    · intro u dead
      simp only [isAlive, release_frame, loose.handles, loose.pinned] at dead ⊢
      exact dead
    · rw [(release_releases w' _).bindingCount, loose.count]
      exact Nat.le_succ _
    · intro b active
      rw [binding_release] at active
      split at active
      · exact absurd active Bool.false_ne_true
      · next other => rw [← loose.binding b other]; exact active
    · simp only [release_frame, loose.handles]
  · next notDestroyed =>
    have viewAfter : ∀ u, ((w'.modifyView v fun x =>
        { x with bindings := x.bindings ++ [w.bindings.size] }).view u) =
          if u = v then { w.view v with bindings := (w.view v).bindings ++ [w.bindings.size] }
          else w.view u := by
      intro u
      rw [view_modifyView, views, views, loose.views]
      simp only [made, and_true]
    refine ⟨?_, ?_, ?_⟩
    · intro u b mem
      show b < w'.bindings.size
      rw [viewAfter] at mem
      rw [loose.count]
      split at mem
      · rcases List.mem_append.mp mem with old | new
        · exact Nat.lt_succ_of_lt (h.recorded v b old)
        · rw [List.mem_singleton.mp new]
          exact Nat.lt_succ_self _
      · exact Nat.lt_succ_of_lt (h.recorded u b mem)
    · intro u gone
      rw [viewAfter] at gone ⊢
      have aliveAfter : ∀ u, (w'.modifyView v fun x =>
          { x with bindings := x.bindings ++ [w.bindings.size] }).isAlive u = w.isAlive u := aliveEq
      by_cases same : u = v
      · subst same
        rw [if_pos rfl, aliveAfter, alive] at gone
        rw [views] at notDestroyed
        simp [notDestroyed] at gone
      · rw [if_neg same, aliveAfter] at gone
        rw [if_neg same]
        exact h.ended u gone
    · intro b active
      by_cases new : b = w.bindings.size
      · exact Or.inl ⟨v, by rw [viewAfter, if_pos rfl]; simp [new]⟩
      · have before : (w.binding b).isActive := by
          rw [← loose.binding b new]
          exact active
        rcases h.owned b before with ⟨u, mem⟩ | mem
        · refine Or.inl ⟨u, ?_⟩
          rw [viewAfter]
          split
          · next same => exact List.mem_append_left _ (same ▸ mem)
          · exact mem
        · apply Or.inr
          show b ∈ w'.handles.bindings.values
          rw [loose.handles]
          exact mem

/-- The new binding goes to the program, which may lose another one under the same handle. -/
theorem holdBinding (h : w.Kept) (loose : Loose w w') (handle : String) :
    (w'.holdBinding handle w.bindings.size).Kept := by
  have owned : ∀ b, (w'.binding b).isActive → w'.handles.bindings.find? handle ≠ some b →
      (∃ v, b ∈ (w'.view v).bindings) ∨
        b ∈ (w'.handles.bindings.insert handle w.bindings.size).values := by
    intro b active notLost
    by_cases new : b = w.bindings.size
    · rw [new]
      exact Or.inr (OrderedMap.mem_values_insert_self _ _ _)
    · simp only [loose.binding b new] at active
      simp only [view, loose.views]
      apply (h.owned b active).imp_right
      intro mem
      rw [← loose.handles] at mem
      exact (OrderedMap.mem_values_insert_or_find? handle _ mem).resolve_right notLost
  have recorded : ∀ v, ∀ b ∈ (w'.view v).bindings, b < w'.bindings.size := by
    intro v b mem
    simp only [view, loose.views] at mem
    rw [loose.count]
    exact Nat.lt_succ_of_lt (h.recorded v b mem)
  have ended : ∀ v, (w'.view v).isDestroyed = true ∨ w'.isAlive v = false →
      (w'.view v).bindings = [] := by
    intro v
    simp only [view, isAlive, loose.views, loose.handles, loose.pinned]
    exact h.ended v
  simp only [World.holdBinding]
  split
  · next old found =>
    refine ⟨?_, ?_, ?_⟩
    · intro v b mem
      simp only [view, release_frame] at mem ⊢
      exact recorded v b mem
    · intro v gone
      simp only [view, isAlive, release_frame] at gone ⊢
      exact ended v gone
    · intro b active
      rw [binding_release] at active
      split at active
      · exact absurd active Bool.false_ne_true
      · next other =>
        simp only [view, release_frame]
        exact owned b active (by rw [found]; exact fun same => other (Option.some.inj same).symm)
  · next free =>
    exact ⟨recorded, ended, fun b active => owned b active (by simp [free])⟩

end Kept

/-! ### What a view keeps -/

/-- Of the bindings that are still active, every view has those that it had. -/
def Keeps (w w' : World) : Prop :=
  ∀ v, ∀ b < w.bindings.size, (w'.binding b).isActive →
    (b ∈ (w'.view v).bindings ↔ b ∈ (w.view v).bindings)

namespace Keeps

variable {w w' : World}

theorem of_views_eq (views : w'.views = w.views) : Keeps w w' := by
  intro v b _ _
  simp only [view, views]

/-- Releasing the bindings of a view takes active ones from no other view. -/
theorem releaseBindings (w : World) (u : ViewId) : Keeps w (w.releaseBindings u) := by
  intro v b _ active
  rw [(releaseBindings_releases w u).binding] at active
  split at active
  · exact absurd active Bool.false_ne_true
  · next notOurs =>
    rw [view_releaseBindings]
    split
    · next same =>
      rw [same]
      exact ⟨fun mem => absurd mem List.not_mem_nil, fun mem => absurd mem notOurs⟩
    · exact Iff.rfl

theorem settle (w : World) (u : ViewId) : Keeps w (w.settle u) := by
  simp only [World.settle]
  split
  · exact of_views_eq rfl
  · exact releaseBindings w u

theorem holdView (w : World) (handle : String) (u : ViewId) : Keeps w (w.holdView handle u) := by
  simp only [World.holdView]
  split
  · exact settle (w.modifyHandles fun h => { h with views := h.views.insert handle u }) _
  · exact of_views_eq rfl

theorem dropView (w : World) (handle : String) : Keeps w (w.dropView handle) := by
  simp only [World.dropView]
  split
  · exact settle (w.modifyHandles fun h => { h with views := h.views.erase handle }) _
  · exact of_views_eq rfl

theorem unpinView (w : World) : Keeps w w.unpinView := by
  simp only [World.unpinView]
  split
  · exact of_views_eq rfl
  · next rest _ => exact settle { w with pinnedViews := rest } _

theorem destroy (w : World) (u : ViewId) : Keeps w (w.destroy u) := by
  simp only [World.destroy]
  split
  · exact of_views_eq rfl
  · intro v b made active
    let flagged := w.modifyView u fun x => { x with isDestroyed := true }
    have bindings : (flagged.view v).bindings = (w.view v).bindings := by
      rw [view_modifyView]
      split
      · next same => rw [same.1]
      · rfl
    rw [← bindings]
    exact releaseBindings flagged u v b made active

theorem dropBinding (w : World) (handle : String) : Keeps w (w.dropBinding handle) := by
  simp only [World.dropBinding]
  split
  · exact of_views_eq (release_frame _ _).2.2.2.1
  · exact of_views_eq rfl

theorem addView (w : World) (type : TypeId) (name : Option String)
    (state props : OrderedMap Value) (owner : Option ViewId) :
    Keeps w (w.addView type name state props owner).2 := by
  intro v b _ _
  rw [view_addView]
  split
  · next new => rw [view_of_le w (Nat.le_of_eq new.symm)]; rfl
  · exact Iff.rfl

end Keeps

/-- A view that is given a binding has that one and those that it had. -/
theorem mem_bindings_recordBinding {w : World} {u v : ViewId} {a b : BindingId}
    (mem : a ∈ ((w.recordBinding u b).view v).bindings) : a ∈ (w.view v).bindings ∨ a = b ∧ v = u := by
  simp only [World.recordBinding] at mem
  split at mem
  · simp only [view, (release_frame _ _).2.2.2.1] at mem
    exact Or.inl mem
  · rw [view_modifyView] at mem
    split at mem
    · next same =>
      rw [same.1]
      apply (List.mem_append.mp mem).imp_right
      intro new
      exact ⟨List.mem_singleton.mp new, rfl⟩
    · exact Or.inl mem

/-- A view that had a binding has it still when a binding is given to a view. -/
theorem mem_bindings_of_recordBinding {w : World} {v : ViewId} {a : BindingId} (u : ViewId) (b : BindingId)
    (mem : a ∈ (w.view v).bindings) : a ∈ ((w.recordBinding u b).view v).bindings := by
  simp only [World.recordBinding]
  split
  · simp only [view, (release_frame _ _).2.2.2.1]
    exact mem
  · rw [view_modifyView]
    split
    · next same => rw [← same.1]; exact List.mem_append_left _ mem
    · exact mem

/-- A binding that is given a handle is given to no view. -/
theorem views_holdBinding (w : World) (handle : String) (b : BindingId) :
    (w.holdBinding handle b).views = w.views := by
  simp only [World.holdBinding]
  split
  · exact (release_frame _ _).2.2.2.1
  · rfl

end LiveTemplate.World
