import LiveTemplate.Command.Starter
import LiveTemplate.Proofs.Command.Warnings
import LiveTemplate.Proofs.Yaml.Lines
import LiveTemplate.Proofs.Yaml.Spelling
import LiveTemplate.Scene.Reader

/-!
The starter scene.  Its text has the name as it is, without quotes.  A name that reads like a plain scalar
on its line is read back, whatever else it says, and nothing is wrong with the scene; of other names the
text may say something else, or nothing at all.
-/

namespace LiveTemplate

open Yaml

/-- What is read from a text still has to be checked. -/
theorem Scene.ofYaml_eq (source : String) :
    Scene.ofYaml source = (decode Scene.read source).mapError .yaml >>= Scene.check := by
  -- An equation of the definition would look into the reading.
  delta Scene.ofYaml
  generalize decode Scene.read source = r
  cases r with
  | error => simp only [Except.mapError, bind, Except.bind]
  | ok => simp only [Except.mapError, bind, Except.bind]

theorem Scene.decode_isOk {source : String} {s : Scene} (h : Scene.ofYaml source = .ok s) :
    (decode Scene.read source).isOk = true := by
  rw [Scene.ofYaml_eq] at h
  cases isRead : decode Scene.read source with
  | error e => simp [isRead, Except.mapError, bind, Except.bind] at h
  | ok => rfl

/-- A scene that works has a filter if some value changes when it is passed. -/
theorem Scene.hasFilter_of_pass {s : Scene} {filters : FilterSet} {i : Instance}
    (isInstance : s.instantiate filters = .ok i) (works : s.Works) {name : String} {value : Value}
    (changes : filters.pass [name] value ≠ value) : i.hasFilter name = true := by
  obtain ⟨order, ordered⟩ := works.ordered
  obtain ⟨_, same, plays⟩ := Scene.instantiate_ok filters ordered
  cases isInstance.symm.trans same
  rw [Scene.hasFilter_eq isInstance works]
  cases found : (i.world.registry 0).find? name with
  | some => rfl
  | none =>
      rw [← plays.cast.pass] at changes
      exact absurd (by simp [World.pass, found]) changes

namespace Starter

/-- The template that is bound on the owned view. -/
def template : String := "\x7b\x7b title \x7d\x7d, \x7b\x7b name | upper \x7d\x7d"

/-! The text. -/

/-- The line with the name. -/
def nameLine (name : String) : Line :=
  ⟨0, false, "name", .plain name, 0⟩

/-- The lines behind the name. -/
def bodyLines : List Line :=
  [⟨0, false, "description", .plain "A starter scene with an owner chain", 1⟩,
    ⟨0, false, "filters", .plain "builtin", 1⟩,
    ⟨0, false, "views", .nothing, 0⟩,
    ⟨2, false, "app", .nothing, 0⟩,
    ⟨4, false, "state", .nothing, 0⟩,
    ⟨6, false, "title", .plain "Hello", 0⟩,
    ⟨2, false, "child", .nothing, 0⟩,
    ⟨4, false, "owner", .plain "app", 0⟩,
    ⟨4, false, "state", .nothing, 0⟩,
    ⟨6, false, "name", .plain "Fred", 0⟩,
    ⟨4, false, "props", .nothing, 0⟩,
    ⟨6, false, "model", .plain "foo", 1⟩,
    ⟨0, false, "bindings", .nothing, 0⟩,
    ⟨2, true, "view", .plain "child", 0⟩,
    ⟨4, false, "template", .quoted template, 1⟩,
    ⟨0, false, "updates", .nothing, 0⟩,
    ⟨2, true, "action", .plain "set", 0⟩,
    ⟨4, false, "view", .plain "app", 0⟩,
    ⟨4, false, "key", .plain "title", 0⟩,
    ⟨4, false, "value", .plain "Goodbye", 0⟩,
    ⟨2, true, "action", .plain "destroy", 0⟩,
    ⟨4, false, "view", .plain "child", 0⟩]

theorem printLines_body : printLines bodyLines = String.join (starterBody.map (· ++ "\n")) := by
  decide +kernel

/-- A starter scene is made of lines. -/
theorem printLines_starter (name : String) :
    printLines (nameLine name :: bodyLines) = starterScene name := by
  rw [printLines, printLines_body, starterScene, List.map_cons, String.join_cons]
  apply String.toList_injective
  simp [Line.print, nameLine, LineValue.print, lineEnd, indentOf, bodyLines]

theorem starterScene_toList (name : String) :
    (starterScene name).toList = charsOf (nameLine name :: bodyLines) := by
  rw [← printLines_starter, printLines_toList]

theorem fitTogether_body : fitTogether bodyLines = true := by
  decide +kernel

theorem isTextChar_body : (charsOf bodyLines).all isTextChar = true := by
  decide +kernel

variable {name : String}

theorem fitTogether_starter (plain : isPlain name.toList = true) :
    fitTogether (nameLine name :: bodyLines) = true := by
  have plainKey : isPlain "name".toList = true ∧
      "name".toList.head?.all (· ∉ ['-', '.', '\ufeff']) = true ∧
      byteCount "name".toList ≤ Lexer.keySize := by decide +kernel
  simp only [fitTogether, fitTogether_body, Line.fits, nameLine, LineValue.fits, plain, plainKey,
    Bool.and_true, decide_true]
  rfl

theorem isTextChar_starter (legible : name.toList.all isTextChar = true) :
    (charsOf (nameLine name :: bodyLines)).all isTextChar = true := by
  have isLine : charsOf (nameLine name :: bodyLines) =
      "name: ".toList ++ (name.toList ++ '\n' :: charsOf bodyLines) := by
    simp [charsOf, Line.chars, LineValue.chars, nameLine, lineEnd, indentOf]
    rfl
  have signs : "name: ".toList.all isTextChar = true ∧ isTextChar '\n' = true := by decide
  rw [isLine, List.all_append, List.all_append, List.all_cons, legible, isTextChar_body, signs.1, signs.2]
  rfl

/-! What the text says. -/

/-- A member of a mapping. -/
def member (key : String) (value : Outline) : Outline × Outline :=
  (.scalar key .plain, value)

/-- The outline of a starter scene. -/
def outline (name : String) : Outline :=
  .mapping [
    member "name" (.scalar name .plain),
    member "description" (.scalar "A starter scene with an owner chain" .plain),
    member "filters" (.scalar "builtin" .plain),
    member "views" (.mapping [
      member "app" (.mapping [
        member "state" (.mapping [member "title" (.scalar "Hello" .plain)])]),
      member "child" (.mapping [
        member "owner" (.scalar "app" .plain),
        member "state" (.mapping [member "name" (.scalar "Fred" .plain)]),
        member "props" (.mapping [member "model" (.scalar "foo" .plain)])])]),
    member "bindings" (.sequence [.mapping [
      member "view" (.scalar "child" .plain),
      member "template" (.scalar template .other)]]),
    member "updates" (.sequence [
      .mapping [
        member "action" (.scalar "set" .plain),
        member "view" (.scalar "app" .plain),
        member "key" (.scalar "title" .plain),
        member "value" (.scalar "Goodbye" .plain)],
      .mapping [
        member "action" (.scalar "destroy" .plain),
        member "view" (.scalar "child" .plain)]])]

/-- The lines spell the outline. -/
theorem kindsOf_starter (name : String) :
    kindsOf [] (nameLine name :: bodyLines) = (outline name).kinds ++ [.textEnd] := by
  simp [nameLine, bodyLines, kindsOf, Line.kinds, Line.columns, Line.entryKinds, Line.entryColumns,
    Line.column, borderAt, endsAt, beginsAt, columnsAt, columnsFrom, LineValue.kinds, outline, member,
    Outline.kinds, Outline.kindsOfMembers, Outline.kindsOfItems]

/-- The starter scene of a name. -/
def scene (name : String) : Scene where
  name := name
  description := some "A starter scene with an owner chain"
  filters := some .builtin
  views := .ofList [
    ("app", ⟨none, .ofList [("title", .string "Hello")], .empty⟩),
    ("child", ⟨some "app", .ofList [("name", .string "Fred")], .ofList [("model", .string "foo")]⟩)]
  bindings := [⟨"child", template⟩]
  updates := [.set "app" "title" (.string "Goodbye"), .destroy "child"]

set_option maxRecDepth 10000 in
/-- The outline says the scene. -/
theorem read_outline (name : String) (tokens : List Token) (n : Nat) :
    (Scene.read ⟨.empty, [], maxDepth⟩ ((outline name).place tokens).1).run n = .ok (scene name, n) := by
  rfl

/-- The tokens of a starter scene spell the outline. -/
theorem tokensOf_starter (plain : isPlain name.toList = true)
    (legible : name.toList.all isTextChar = true) :
    ∃ tokens, tokensOf (starterScene name) = ⟨tokens, none⟩ ∧
      tokens.map Token.kind = (outline name).kinds ++ [.textEnd] := by
  rw [← printLines_starter, ← kindsOf_starter]
  exact tokensOf_printLines (fitTogether_starter plain) rfl (isTextChar_starter legible)

theorem decode_starter (plain : isPlain name.toList = true)
    (legible : name.toList.all isTextChar = true) :
    decode Scene.read (starterScene name) = .ok (scene name) := by
  obtain ⟨tokens, isTokens, isKinds⟩ := tokensOf_starter plain legible
  rw [decode_place Scene.read isTokens isKinds, read_outline]
  rfl

/-! What the scene does. -/

theorem template_identifiers : (Template.parse template).identifiers = ["title", "name"] := by
  decide +kernel

theorem template_filterNames : (Template.parse template).filterNames = ["upper"] := by
  decide +kernel

theorem template_hasPlaceholders : (Template.parse template).hasPlaceholders = true := by
  decide +kernel

/-- The owned view has the name, and its owner the title. -/
theorem works (name : String) : (scene name).Works where
  ordered := ⟨["app", "child"], rfl⟩
  bound := by
    intro b mem
    obtain rfl : b = ⟨"child", template⟩ := List.mem_singleton.1 mem
    refine ⟨rfl, fun x mem => ?_⟩
    rw [template_identifiers] at mem
    obtain rfl | rfl : x = "title" ∨ x = "name" := by simpa using mem
    · rfl
    · rfl
  updated := by
    intro u mem
    obtain rfl | rfl : u = .set "app" "title" (.string "Goodbye") ∨ u = .destroy "child" := by
      simpa [scene] using mem
    · rfl
    · rfl

theorem unusedWarnings_scene (name : String) : (scene name).unusedWarnings = [] := by
  rfl

/-- Nothing is wrong with the scene. -/
theorem validate_scene (name : String) : (scene name).validate .builtin = .ok ⟨[], []⟩ := by
  obtain ⟨report, isReport, errors_iff⟩ := (scene name).validate_spec .builtin
  have noErrors : report.errors = [] := errors_iff.2 (works name)
  obtain ⟨i, isInstance, isWarnings⟩ := Scene.warnings_eq isReport noErrors
  have changes : FilterSet.builtin.pass ["upper"] (.string "a") ≠ .string "a" := by
    have shouts : FilterSet.builtin.pass ["upper"] (.string "a") = .string "A" := rfl
    simp [shouts]
  have hasFilter : i.hasFilter "upper" = true := Scene.hasFilter_of_pass isInstance (works name) changes
  have noWarnings : report.warnings = [] := by
    rw [isWarnings, unusedWarnings_scene]
    simp [scene, Scene.templateWarnings, template_hasPlaceholders, template_filterNames, hasFilter]
  rw [isReport, ← noErrors, ← noWarnings]

end Starter

/-- A starter scene is read back under its name, and nothing is wrong with it, if its name reads like a
plain scalar.  Such a name may say anything, such as a number or `null`. -/
theorem starterScene_loads {name : String} (named : (Text.trim name).isEmpty = false)
    (plain : isPlain name.toList = true) (legible : name.toList.all isTextChar = true) :
    ∃ s, Scene.ofYaml (starterScene name) = .ok s ∧ s.name = name ∧
      ∀ d, s.validate (s.filtersOr d) = .ok ⟨[], []⟩ := by
  refine ⟨Starter.scene name, ?_, rfl, fun _ => Starter.validate_scene name⟩
  have views : (Starter.scene name).views.isEmpty = false := rfl
  have namedScene : (Text.trim (Starter.scene name).name).isEmpty = false := named
  rw [Scene.ofYaml_eq, Starter.decode_starter plain legible]
  simp [Except.mapError, bind, Except.bind, Scene.check, views, namedScene]

/-- Colons and number signs within a word are no harm. -/
theorem starterScene_loads_colon :
    ∃ s, Scene.ofYaml (starterScene "tea no.4 at 4:30#") = .ok s ∧ s.name = "tea no.4 at 4:30#" ∧
      ∀ d, s.validate (s.filtersOr d) = .ok ⟨[], []⟩ :=
  starterScene_loads (by decide) (by decide) (by decide)

/-- The text of a name with a colon in front of a blank is no YAML: a key would begin within a value. -/
theorem decode_colon : (decode Scene.read (starterScene "a: b")).isOk = false := by
  rw [decode, firstDocument, tokensOf, Starter.starterScene_toList]
  decide +kernel

/-- So not every starter scene is read back under its name. -/
theorem starterScene_not_loaded :
    ¬ ∀ name : String, (Text.trim name).isEmpty = false →
      ∃ s, Scene.ofYaml (starterScene name) = .ok s ∧ s.name = name ∧
        ∀ d, s.validate (s.filtersOr d) = .ok ⟨[], []⟩ := by
  intro h
  obtain ⟨s, loaded, -⟩ := h "a: b" (by decide)
  have isRead := Scene.decode_isOk loaded
  rw [decode_colon] at isRead
  exact Bool.false_ne_true isRead

end LiveTemplate
