import LiveTemplate.Proofs.World.Sound
import LiveTemplate.Scene.Ownership
import Mathlib.Data.List.Perm.Subperm

/-!
The order in which the views of a scene are made.  A search reaches every view once and lists it when it
leaves it again, so what it lists are all declared views, each once; and an order that is given out was
checked to have every owner before the views it owns.
-/

namespace LiveTemplate

/-- What stands in a list with one more at its end. -/
theorem getElem?_append_singleton {α : Type} {xs : List α} {x y : α} {i : Nat} :
    (xs ++ [x])[i]? = some y ↔ xs[i]? = some y ∨ (i = xs.length ∧ y = x) := by
  rw [List.getElem?_append]
  split
  · next before => simp [Nat.ne_of_lt before]
  · next after =>
    have absent : xs[i]? = none := List.getElem?_eq_none (Nat.le_of_not_lt after)
    rw [List.getElem?_singleton, absent]
    split
    · next first => simp [show i = xs.length by omega, eq_comm]
    · next other => simp [show i ≠ xs.length by omega]

namespace Ownership

open World (exists_of_bind_eq_ok)

variable {views : Views} {s s' s'' : Search} {name : String}

/-- What a search has reached are declared views, each once. -/
structure Search.Sound (views : Views) (s : Search) : Prop where
  nodup : s.reached.Nodup
  declared : s.reached ⊆ views.keys

/-- What a search has reached since, it has also left again. -/
def Search.Extends (s s' : Search) : Prop :=
  ∃ left, s'.order = left ++ s.order ∧ s'.reached.Perm (left ++ s.reached)

namespace Search.Extends

theorem refl (s : Search) : s.Extends s := ⟨[], rfl, .refl _⟩

theorem trans (first : s.Extends s') (second : s'.Extends s'') : s.Extends s'' := by
  obtain ⟨left, order, reached⟩ := first
  obtain ⟨left', order', reached'⟩ := second
  refine ⟨left' ++ left, by rw [order', order, List.append_assoc], ?_⟩
  rw [List.append_assoc]
  exact reached'.trans (reached.append_left left')

theorem subset (extend : s.Extends s') : s.reached ⊆ s'.reached := by
  obtain ⟨left, _, reached⟩ := extend
  exact fun x mem => reached.mem_iff.mpr (List.mem_append_right _ mem)

theorem length_le (extend : s.Extends s') : s.reached.length ≤ s'.reached.length := by
  obtain ⟨left, _, reached⟩ := extend
  rw [reached.length_eq, List.length_append]
  exact Nat.le_add_left _ _

end Search.Extends

/-- A search reaches a declared view for the first time. -/
theorem Search.Sound.enter (sound : s.Sound views) (isNew : name ∉ s.reached) (declared : name ∈ views.keys) :
    Search.Sound views ⟨name :: s.reached, s.order⟩ :=
  ⟨List.nodup_cons.mpr ⟨isNew, sound.nodup⟩, List.cons_subset.mpr ⟨declared, sound.declared⟩⟩

/-- A search that has reached as many views as there are has reached all of them. -/
theorem Search.Sound.mem_reached (sound : s.Sound views) (full : views.size ≤ s.reached.length)
    (declared : name ∈ views.keys) : name ∈ s.reached := by
  have subperm : s.reached.Subperm views.keys := sound.nodup.subperm sound.declared
  have size : views.keys.length = views.size := List.length_map _
  exact (subperm.perm_of_length_le (size ▸ full)).mem_iff.mpr declared

theorem mem_keys_of_mem_ownedBy {owner : String} (mem : name ∈ ownedBy views owner) : name ∈ views.keys := by
  obtain ⟨entry, inViews, rfl⟩ := List.mem_map.mp mem
  exact List.mem_map_of_mem (List.mem_filter.mp inViews).1

/-- What comes of a step of the search, or of several, that was to reach some views. -/
structure Search.Reaches (views : Views) (s : Search) (names : List String) (s' : Search) : Prop where
  sound : s'.Sound views
  extend : s.Extends s'
  reached : names ⊆ s'.reached

/-- Views that are reached one after the other, if there is fuel for each. -/
theorem foldlM_reaches {step : Search → String → Except String Search} {names : List String}
    (room : Nat) {s s' : Search} (each : ∀ s s' : Search, s.Sound views → room ≤ s.reached.length → ∀ x ∈ names,
      step s x = .ok s' → s.Reaches views [x] s')
    (sound : s.Sound views) (full : room ≤ s.reached.length)
    (done : names.foldlM step s = .ok s') : s.Reaches views names s' := by
  induction names generalizing s with
  | nil =>
      cases done
      exact ⟨sound, .refl _, List.nil_subset _⟩
  | cons x rest inductionHypothesis =>
      obtain ⟨middle, first, others⟩ := exists_of_bind_eq_ok done
      have one := each s middle sound full x List.mem_cons_self first
      have more := inductionHypothesis (fun s s' h fits y mem => each s s' h fits y
        (List.mem_cons_of_mem x mem)) one.sound (Nat.le_trans full one.extend.length_le) others
      refine ⟨more.sound, one.extend.trans more.extend, ?_⟩
      intro y mem
      rcases List.mem_cons.mp mem with rfl | inRest
      · exact more.extend.subset (one.reached List.mem_cons_self)
      · exact more.reached inRest

/-- A search from a declared view reaches it, as there is fuel for all that was not reached. -/
theorem explore_reaches {fuel : Nat} (sound : s.Sound views)
    (fits : views.size ≤ fuel + s.reached.length) (declared : name ∈ views.keys)
    (done : explore views fuel s name = .ok s') : s.Reaches views [name] s' := by
  induction fuel generalizing s s' name with
  | zero =>
      cases done
      have mem := sound.mem_reached (Nat.zero_add s.reached.length ▸ fits) declared
      exact ⟨sound, .refl s, List.cons_subset.mpr ⟨mem, List.nil_subset _⟩⟩
  | succ fuel inductionHypothesis =>
      simp only [explore] at done
      split at done
      · next mem =>
        cases done
        exact ⟨sound, .refl s, List.cons_subset.mpr ⟨mem, List.nil_subset _⟩⟩
      · next isNew =>
        split at done
        · cases done
        · obtain ⟨inner, isInner, rest⟩ := exists_of_bind_eq_ok done
          cases rest
          have entered : Search.Sound views ⟨name :: s.reached, s.order⟩ := sound.enter isNew declared
          have owned : Search.Reaches views ⟨name :: s.reached, s.order⟩ (ownedBy views name) inner := by
            apply foldlM_reaches (s.reached.length + 1) ?_ entered (Nat.le_refl _) isInner
            intro t t' soundT room x mem doneX
            refine inductionHypothesis soundT ?_ (mem_keys_of_mem_ownedBy mem) doneX
            omega
          obtain ⟨left, order, reached⟩ := owned.extend
          refine ⟨⟨owned.sound.nodup, owned.sound.declared⟩, ⟨name :: left, ?_, ?_⟩, ?_⟩
          · simp only [order, List.cons_append]
          · exact reached.trans List.perm_middle
          · intro x mem
            rw [List.mem_singleton.mp mem]
            exact owned.extend.subset List.mem_cons_self

/-- Searches from declared views, one after the other. -/
theorem foldlM_explore_reaches {fuel : Nat} {names : List String} (sound : s.Sound views)
    (fits : views.size ≤ fuel + s.reached.length) (declared : names ⊆ views.keys)
    (done : names.foldlM (explore views fuel) s = .ok s') : s.Reaches views names s' := by
  apply foldlM_reaches s.reached.length ?_ sound (Nat.le_refl _) done
  intro t t' soundT room x mem doneX
  refine explore_reaches soundT ?_ (declared mem) doneX
  omega

/-- Before a search has begun. -/
theorem Search.Sound.start (views : Views) : Search.Sound views ⟨[], []⟩ :=
  ⟨List.nodup_nil, List.nil_subset _⟩

/-- A search through all views lists all of them, each once. -/
theorem exploreAll_perm (done : exploreAll views = .ok s) : s.order.Perm views.keys := by
  have reaches : Search.Reaches views ⟨[], []⟩ views.keys s :=
    foldlM_explore_reaches (.start views) (Nat.le_add_right _ _) (List.Subset.refl _) done
  obtain ⟨left, order, reached⟩ := reaches.extend
  simp only [List.append_nil] at order reached
  have all : s.reached.Perm views.keys :=
    (List.perm_ext_iff_of_nodup reaches.sound.nodup views.nodup).mpr fun x =>
      ⟨fun mem => reaches.sound.declared mem, fun mem => reaches.reached mem⟩
  rw [order]
  exact reached.symm.trans all

/-- Where no owner is misplaced, each stands before the views it owns. -/
theorem owner_of_misplacedOwner?_eq_none {placed rest before after : List String}
    (none : misplacedOwner? views placed rest = .none) (split : rest = before ++ name :: after)
    {owner : String} (owns : owner? views name = some owner) : owner ∈ before ∨ owner ∈ placed := by
  induction before generalizing placed rest with
  | nil =>
      subst split
      simp only [List.nil_append, misplacedOwner?, owns] at none
      split at none
      · next mem => exact Or.inr mem
      · cases none
  | cons first before inductionHypothesis =>
      subst split
      have others : misplacedOwner? views (first :: placed) (before ++ name :: after) = .none := by
        simp only [List.cons_append, misplacedOwner?] at none
        split at none
        · split at none
          · exact none
          · cases none
        · exact none
      rcases inductionHypothesis others rfl with mem | mem
      · exact Or.inl (List.mem_cons_of_mem _ mem)
      · rcases List.mem_cons.mp mem with rfl | isPlaced
        · exact Or.inl List.mem_cons_self
        · exact Or.inr isPlaced

/-- An order in which the views can be made: all of them, each once, and every owner before the views it
owns. -/
structure IsCreationOrder (views : Views) (order : List String) : Prop where
  perm : order.Perm views.keys
  owners : ∀ before name after, order = before ++ name :: after →
    ∀ owner, owner? views name = some owner → owner ∈ before

theorem IsCreationOrder.nodup {order : List String} (h : IsCreationOrder views order) :
    order.Nodup :=
  h.perm.nodup_iff.mpr views.nodup

/-- An owner stands in the order, before the view it owns. -/
theorem IsCreationOrder.split_owner {order before after : List String} (h : IsCreationOrder views order)
    (split : order = before ++ name :: after) {owner : String} (owns : owner? views name = some owner) :
    ∃ first rest, order = first ++ owner :: rest ∧ first.length < before.length := by
  obtain ⟨first, rest, rfl⟩ := List.append_of_mem (h.owners before name after split owner owns)
  exact ⟨first, rest ++ name :: after, by simp [split], by simp⟩

/-- Orders that are given out are such orders. -/
theorem isCreationOrder_of_creationOrder {order : List String}
    (done : creationOrder views = .ok order) : IsCreationOrder views order := by
  simp only [creationOrder] at done
  split at done
  · cases done
  · split at done
    · cases done
    · next s searched =>
      split at done
      · cases done
      · next placed =>
        cases done
        refine ⟨exploreAll_perm searched, ?_⟩
        intro before name after split owner owns
        exact (owner_of_misplacedOwner?_eq_none placed split owns).resolve_right List.not_mem_nil

end Ownership

end LiveTemplate
