/-!
The scene that a new scene file starts with.
-/

namespace LiveTemplate

/-- The text behind the name of a starter scene. -/
def starterBody : List String :=
  ["description: A starter scene with an owner chain",
    "",
    "filters: builtin",
    "",
    "views:",
    "  app:",
    "    state:",
    "      title: Hello",
    "  child:",
    "    owner: app",
    "    state:",
    "      name: Fred",
    "    props:",
    "      model: foo",
    "",
    "bindings:",
    "  - view: child",
    "    template: \"\x7b\x7b title \x7d\x7d, \x7b\x7b name | upper \x7d\x7d\"",
    "",
    "updates:",
    "  - action: set",
    "    view: app",
    "    key: title",
    "    value: Goodbye",
    "  - action: destroy",
    "    view: child"]

/-- The text of a starter scene. -/
def starterScene (name : String) : String :=
  String.join ((("name: " ++ name) :: starterBody).map (· ++ "\n"))

end LiveTemplate
