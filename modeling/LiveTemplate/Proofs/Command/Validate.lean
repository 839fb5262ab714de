import LiveTemplate.Proofs.Command.Watch
import LiveTemplate.Scene.Validation

/-!
Validating a scene.  Validation looks at the owners, the references and the templates on an instance of its
own, and finds no error just if the scene works; so it decides whether the scene can be watched to its end.
-/

namespace LiveTemplate

namespace Scene

variable {s : Scene} {filters : FilterSet} {q : RegistryId} {bound : List BindingSpec} {i : Instance}

theorem ownershipErrors_eq_nil :
    s.ownershipErrors = [] ↔ ∃ order, Ownership.creationOrder s.views = .ok order := by
  simp only [ownershipErrors]
  cases Ownership.creationOrder s.views <;> simp

/-- No error is reported where each passes its check. -/
private theorem filterMap_zipIdx_eq_nil {α β : Type} {xs : List α} (p : α → Bool) (e : Nat → α → β) :
    (xs.zipIdx.filterMap fun x => if p x.1 then none else some (e x.2 x.1)) = [] ↔ ∀ x ∈ xs, p x := by
  rw [List.filterMap_eq_nil_iff]
  constructor
  · intro none x mem
    obtain ⟨index, found⟩ := List.mem_iff_getElem?.mp mem
    have here := none (x, index) (List.mem_zipIdx_iff_getElem?.mpr found)
    by_contra fails
    simp [fails] at here
  · intro each x mem
    have passes := each x.1 (List.mem_of_getElem? (List.mem_zipIdx_iff_getElem?.mp mem))
    simp [passes]

theorem referenceErrors_eq_nil : s.referenceErrors = [] ↔
    (∀ b ∈ s.bindings, s.views.contains b.view) ∧ ∀ u ∈ s.updates, s.views.contains u.view := by
  simp only [referenceErrors, List.append_eq_nil_iff]
  exact and_congr
    (filterMap_zipIdx_eq_nil (fun b : BindingSpec => s.views.contains b.view) fun index b =>
      ValidationError.unknownBindingView index b.view)
    (filterMap_zipIdx_eq_nil (fun u : Update => s.views.contains u.view) fun index u =>
      ValidationError.unknownUpdateView index u.view)

theorem Plays.templateErrors_eq_nil (plays : s.Plays filters q s.declared [] bound i.world) (b : BindingSpec) :
    templateErrors i b = [] ↔ s.Resolves b := by
  rw [← plays.run_render, templateErrors]
  cases (i.run (Instance.render b.view b.template)).1 <;> simp

/-- Validation always comes to a report, which has no errors just if the scene works. -/
theorem validate_spec (s : Scene) (filters : FilterSet) :
    ∃ report, s.validate filters = .ok report ∧ (report.errors = [] ↔ s.Works) := by
  by_cases sound : s.ownershipErrors ++ s.referenceErrors = []
  · obtain ⟨ownership, references⟩ := List.append_eq_nil_iff.mp sound
    obtain ⟨order, ordered⟩ := ownershipErrors_eq_nil.mp ownership
    obtain ⟨i, instantiated, plays⟩ := instantiate_ok filters ordered
    refine ⟨⟨s.bindings.flatMap (templateErrors i),
      s.bindings.flatMap (templateWarnings i) ++ s.unusedWarnings⟩, ?_, ?_⟩
    · simp only [validate, sound, instantiated]
      rfl
    · have templates : s.bindings.flatMap (templateErrors i) = [] ↔ ∀ b ∈ s.bindings, s.Resolves b := by
        rw [List.flatMap_eq_nil_iff]
        exact forall₂_congr fun b _ => plays.templateErrors_eq_nil b
      rw [templates]
      constructor
      · intro bound
        exact ⟨⟨order, ordered⟩, bound, (referenceErrors_eq_nil.mp references).2⟩
      · exact fun works => works.bound
  · refine ⟨⟨s.ownershipErrors ++ s.referenceErrors, s.unusedWarnings⟩, ?_, ?_⟩
    · have isEmpty : (s.ownershipErrors ++ s.referenceErrors).isEmpty = false := by simpa using sound
      simp only [validate, isEmpty]
      rfl
    · refine iff_of_false sound fun works => sound ?_
      rw [List.append_eq_nil_iff, ownershipErrors_eq_nil, referenceErrors_eq_nil]
      exact ⟨works.ordered, fun b mem => (works.bound b mem).1, works.updated⟩

end Scene

/-- Validation never fails, and finds no errors in a scene just if the scene can be watched to its end. -/
theorem validate_iff_watch (s : Scene) (default : FilterSet) (prettyJson : Bool) :
    let filters := s.filtersOr default
    ∃ report, s.validate filters = .ok report ∧
      (report.errors = [] ↔ (watchScene s filters prettyJson).failure = none) := by
  intro filters
  obtain ⟨report, validated, errors⟩ := s.validate_spec filters
  exact ⟨report, validated, errors.trans (Scene.watch_spec prettyJson s filters).1.symm⟩

end LiveTemplate
