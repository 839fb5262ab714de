import LiveTemplate.Value.Reader

/-!
Assignments of values to keys, as they are given on the command line: a key, an equals sign and a value.
The value is JSON if it can be read as that, and a text otherwise.
-/

namespace LiveTemplate

/-- The text before the first equals sign and the text behind it. -/
def splitAtEquals : List Char → Option (List Char × List Char)
  | [] => none
  | '=' :: rest => some ([], rest)
  | c :: rest => (splitAtEquals rest).map fun (key, value) => (c :: key, value)

/-- The value that a text is. -/
def valueOfText (s : String) : Value :=
  (Value.read? s).getD (.string s)

/-- The key and the value of an assignment. -/
def readAssignment? (s : String) : Option (String × Value) :=
  (splitAtEquals s.toList).map fun (key, value) =>
    (String.ofList key, valueOfText (String.ofList value))

/-- The keys and values of assignments, or the first one that has no equals sign. -/
def readAssignments : List String → Except String (List (String × Value))
  | [] => .ok []
  | s :: rest =>
    match readAssignment? s with
    | none => .error s
    | some assignment => (readAssignments rest).map (assignment :: ·)

end LiveTemplate
