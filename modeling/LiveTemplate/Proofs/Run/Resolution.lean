import LiveTemplate.Proofs.Run.Performing
import LiveTemplate.Proofs.World.Ancestry

/-!
Looking identifiers up, wherever a run has come to.  Every move leaves owners older than the views they own,
so a lookup ends in every world that a run can lead to; and it finds the nearest state that has the
identifier, with the container and the value that this state has at that moment.
-/

namespace LiveTemplate

namespace Run

variable {r r' : Run}

/-- A move makes views only behind their owners. -/
theorem Next.ownersFirst (next : Next r r') (before : r.world.OwnersFirst) : r'.world.OwnersFirst := by
  cases next with
  | move move =>
      cases move with
      | change change => exact before.change change
      | entry => exact before
      | deed deed => exact before.deed deed
  | store c key value => exact before.store c key value

/-- Owners stand in front of what they own in every run. -/
theorem Reaches.ownersFirst (reaches : Reaches r r') (before : r.world.OwnersFirst) :
    r'.world.OwnersFirst := by
  induction reaches with
  | refl => exact before
  | tail _ next inductionHypothesis => exact next.ownersFirst inductionHypothesis

end Run

/-- What looking an identifier up on a view comes to. -/
structure World.ResolvesNearest (w : World) (x : String) (v : ViewId) : Prop where
  /-- Views are numbered as they are made, and every owner was made before the view it owns. -/
  older : ∀ u o, (w.view u).owner = some o → o < u
  /-- So the way along the owners that are alive ends. -/
  ends : ∃ links, w.ancestor? v links = none
  /-- The walk along this way ends, and with what the lookup answers. -/
  walked : ∀ result, w.Walks x (w.walkAt v 0) result ↔ w.resolve x v = result
  /-- The answer is the nearest state that has the identifier. -/
  found : ∀ found, w.resolve x v = some found ↔ ∃ u, w.Nearest x v u found
  /-- There is none just if no state on the way has it. -/
  missing : w.resolve x v = none ↔
    ∀ links u, w.ancestor? v links = some u → (w.stateOf u).values.find? x = none

/-- Wherever a run has come to, looking an identifier up ends and finds the nearest state that has it. -/
theorem resolve_nearest {r : Run} (reached : Run.Reaches .start r) (x : String) (v : ViewId) :
    r.world.ResolvesNearest x v := by
  have ownersFirst := reached.ownersFirst World.OwnersFirst.empty
  have walks := ownersFirst.walks x (Nat.lt_succ_self v) 0
  refine ⟨ownersFirst, ⟨v + 1, ownersFirst.ancestor?_end v⟩, ?_, fun _ => ownersFirst.resolve_eq_some_iff,
    ownersFirst.resolve_eq_none_iff⟩
  intro result
  constructor
  · exact fun other => walks.unique other
  · rintro rfl
    exact walks

/-- Four views, each owned by the one before.  The third has no state of its own and is destroyed, the second
writes over a value of the first, and the first is dropped. -/
def shadowedChain : List Step := [
  .newType "T" "T" (some .plainInterpolation),
  .create "T" "a" none [("x", .null), ("y", .null)] [] none,
  .create "T" "b" none [("x", .bool true)] [] (some "a"),
  .create "T" "c" none [] [] (some "b"),
  .create "T" "d" none [("z", .null)] [] (some "c"),
  .destroy "c",
  .dropView "a"]

theorem resolve_nearest_shadowedChain :
    let w := (session nestingLimit shadowedChain).world
    w.ResolvesNearest "x" 3 ∧ (w.resolve "x" 3).map (fun found => (found.container, found.depth)) = some (1, 2) ∧
      w.ResolvesNearest "y" 3 ∧ (w.resolve "y" 3).isNone :=
  have reached := session_reaches nestingLimit shadowedChain
  ⟨resolve_nearest reached "x" 3, by decide +kernel, resolve_nearest reached "y" 3, by decide +kernel⟩

end LiveTemplate
