import LiveTemplate.Proofs.Scene.Acting

/-!
What is noted while a scene is told of a change.  The callbacks of an instance perform nothing, so the world stands
still all the while: it is the same, but for the counts of calls, at every entry of the journal.  And where an entry
says that a binding is evaluated again, this binding is active.
-/

namespace LiveTemplate

theorem World.Idles.refl (w : World) : Idles w w := .of_counted (.refl w)

/-- Counting the call of a filter leaves everything in place. -/
theorem World.Idles.countFilterCall (w : World) (f : FilterId) : Idles w (w.countFilterCall f) :=
  .of_counted (.countFilterCall w f)

/-- A run that has gone on from another while the world stood still. -/
structure Run.Stands (r r' : Run) : Prop where
  world : World.Idles r.world r'.world
  entries : ∃ added, r'.journal.toList = r.journal.toList ++ added ∧ ∀ m ∈ added,
    World.Idles r.world m.world ∧ ∀ b, m.occurrence = .refreshed b → (m.world.binding b).isActive

namespace Run.Stands

variable {r r' r'' : Run}

theorem turn {w : World} (idles : World.Idles r.world w) : Stands r (r.turn w) :=
  ⟨idles, [], (List.append_nil _).symm, nofun⟩

theorem refl (r : Run) : Stands r r := turn (.refl r.world)

/-- An entry stands unless it is about a binding that is not active. -/
theorem note {occurrence : Occurrence} (active : ∀ b, occurrence = .refreshed b → (r.world.binding b).isActive) :
    Stands r (r.note occurrence) := by
  refine ⟨.refl r.world, [⟨occurrence, r.world⟩], Array.toList_push, fun m mem => ?_⟩
  rw [List.mem_singleton.mp mem]
  exact ⟨.refl r.world, active⟩

theorem trans (first : Stands r r') (second : Stands r' r'') : Stands r r'' := by
  obtain ⟨added, longer, each⟩ := first.entries
  obtain ⟨added', longer', each'⟩ := second.entries
  refine ⟨first.world.trans second.world, added ++ added', ?_, fun m mem => ?_⟩
  · rw [longer', longer, List.append_assoc]
  · rcases List.mem_append.mp mem with before | after
    · exact each m before
    · exact ⟨first.world.trans (each' m after).1, (each' m after).2⟩

/-- The world stands still while calls are counted and noted. -/
theorem telling : Run.Telling Stands where
  refl := refl
  trans := trans
  filtered r f value := (turn (.countFilterCall r.world f)).trans (note fun _ => nofun)
  called r l _ _ _ := (turn (.countListenerCall r.world l)).trans (note fun _ => nofun)
  notified r l _ _ _ _ := (turn (.countListenerCall r.world l)).trans (note fun _ => nofun)
  refreshed r b active := note fun other isEvaluation => by
    rw [← Occurrence.refreshed.inj isEvaluation]
    exact active

end Run.Stands

/-- While subscribers are told that a value was stored, the world stands still. -/
theorem Instance.setValue_stands (c : ContainerId) (key : String) (value : Value) (r : Run) :
    Run.Stands (r.stored c key value) (setValue perform c key value r).2 :=
  setValue_along Run.Stands.telling (perform_along Run.Stands.telling.toFiltering) c key value r

end LiveTemplate
