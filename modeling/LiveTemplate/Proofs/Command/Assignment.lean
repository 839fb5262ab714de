import LiveTemplate.Command.Assignment
import LiveTemplate.Filter.Basic
import LiveTemplate.Proofs.Value.RoundTrip

/-!
Reading assignments.  A text with an equals sign is an assignment to what stands in front of the first one.
JSON text is read as the value that it was made from, so whatever the filter for JSON shows can be assigned
again as it is.
-/

namespace LiveTemplate

/-! ### Keys and texts -/

theorem splitAtEquals_append {key : List Char} (noEquals : '=' ∉ key) (text : List Char) :
    splitAtEquals (key ++ '=' :: text) = some (key, text) := by
  induction key with
  | nil => rfl
  | cons c key inductionHypothesis =>
      have other : c ≠ '=' := fun isEquals => noEquals (isEquals ▸ List.mem_cons_self)
      have others : '=' ∉ key := fun mem => noEquals (List.mem_cons_of_mem c mem)
      rw [List.cons_append, splitAtEquals.eq_3 c _ other, inductionHypothesis others]
      rfl

/-- A text that assigns a text to a key: what stands behind its first equals sign, to what stands in front of
it. -/
structure Assigns (set : String) (a : String × String) : Prop where
  parts : set = a.1 ++ "=" ++ a.2
  isFirst : '=' ∉ a.1.toList

/-- A text with an equals sign assigns something to a key. -/
theorem exists_assigns {set : String} (hasEquals : '=' ∈ set.toList) : ∃ a, Assigns set a := by
  obtain ⟨key, text, split, isFirst⟩ := List.eq_append_cons_of_mem hasEquals
  refine ⟨(String.ofList key, String.ofList text), ?_, by simpa using isFirst⟩
  apply String.toList_inj.mp
  simp [split]

theorem exists_forall₂_assigns {sets : List String} (assigned : ∀ set ∈ sets, '=' ∈ set.toList) :
    ∃ given, List.Forall₂ Assigns sets given := by
  induction sets with
  | nil => exact ⟨[], .nil⟩
  | cons set rest inductionHypothesis =>
      obtain ⟨a, assigns⟩ := exists_assigns (assigned set List.mem_cons_self)
      obtain ⟨given, others⟩ := inductionHypothesis fun other mem => assigned other (List.mem_cons_of_mem set mem)
      exact ⟨a :: given, .cons assigns others⟩

/-- Its key gets the value that the text is. -/
theorem Assigns.readAssignment? {set : String} {a : String × String} (assigns : Assigns set a) :
    readAssignment? set = some (a.1, valueOfText a.2) := by
  have split : set.toList = a.1.toList ++ '=' :: a.2.toList := by simp [assigns.parts]
  rw [LiveTemplate.readAssignment?, split, splitAtEquals_append assigns.isFirst]
  simp

/-- Assignments are read one after the other. -/
theorem readAssignments_eq {sets : List String} {given : List (String × String)}
    (assigns : List.Forall₂ Assigns sets given) :
    readAssignments sets = .ok (given.map fun a => (a.1, valueOfText a.2)) := by
  induction assigns with
  | nil => rfl
  | cons first _ inductionHypothesis =>
      rw [readAssignments, first.readAssignment?, inductionHypothesis]
      rfl

/-! ### JSON -/

/-- The text that the filter for JSON shows of a value is the value. -/
theorem valueOfText_compact {v : Value} (plain : v.IsPlain Value.maxNesting) : valueOfText v.compact = v := by
  rw [valueOfText, Value.read?_compact plain]
  rfl

/-- Whatever the filter for JSON shows of a value can be assigned to any key, and gives the key that very value;
no other value is shown so.  The values are those whose numbers are whole and whose containers nest at most 127
deep. -/
theorem assignment_inverts_json {key : String} (noEquals : '=' ∉ key.toList) {v : Value} (plain : v.IsPlain 127) :
    (∃ text, Builtin.json.apply v = .string text ∧ readAssignments [key ++ "=" ++ text] = .ok [(key, v)]) ∧
      ∀ w : Value, w.IsPlain 127 → w ≠ v → Builtin.json.apply w ≠ Builtin.json.apply v := by
  refine ⟨⟨v.compact, rfl, ?_⟩, fun w alsoPlain differs same => differs ?_⟩
  · have assigns : Assigns (key ++ "=" ++ v.compact) (key, v.compact) := ⟨rfl, noEquals⟩
    rw [readAssignments_eq (.cons assigns .nil), List.map_singleton, valueOfText_compact plain]
  · have sameText : w.compact = v.compact := Value.string.inj same
    rw [← valueOfText_compact alsoPlain, sameText, valueOfText_compact plain]

theorem assignment_inverts_json_extremes : ∃ text,
    Builtin.json.apply (.object [("a=\"\\\x01é", .array [.number (.whole ⟨0xFFFFFFFFFFFFFFFF, by decide⟩),
      .number (.whole ⟨-0x8000000000000000, by decide⟩)])]) = .string text ∧
    readAssignments ["limits" ++ "=" ++ text] = .ok [("limits", .object [("a=\"\\\x01é", .array
      [.number (.whole ⟨0xFFFFFFFFFFFFFFFF, by decide⟩), .number (.whole ⟨-0x8000000000000000, by decide⟩)])])] :=
  (assignment_inverts_json (by decide) (by decide)).1

end LiveTemplate
