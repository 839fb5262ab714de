import LiveTemplate.Text.CaseTable

/-!
Full case mappings of text.  A capital may take several characters, and a small sigma has a form of
its own at the end of a word.
-/

namespace LiveTemplate.Text

/-- The counterpart of a code point by the first run that holds it. -/
def runImage? (runs : List CaseRun) (n : Nat) : Option Nat :=
  (runs.find? fun (first, last, step, _) => first ≤ n && n ≤ last && (n - first) % step == 0).map
    fun (_, _, _, offset) => ((n : Int) + offset).toNat

/-- The capital of a character, which may take several characters. -/
def upperChar (c : Char) : List Char :=
  match upperExpansions.find? fun entry => entry.1 == c.toNat with
  | some (_, image) => image.map Char.ofNat
  | none => [((runImage? upperRuns c.toNat).map Char.ofNat).getD c]

/-- The small form of a character, wherever it stands. -/
def lowerChar (c : Char) : List Char :=
  if c = '\u0130' then ['i', '\u0307']
  else [((runImage? lowerRuns c.toNat).map Char.ofNat).getD c]

/-- Whether the first character that does not have the property Case_Ignorable is cased. -/
def meetsCased (cs : List Char) : Bool :=
  match cs.dropWhile caseIgnorableRanges.contains with
  | [] => false
  | c :: _ => casedRanges.contains c

/-- The small form of a capital sigma between the characters before it, nearest first, and those
after it: final if it ends a word. -/
def lowerSigma (before after : List Char) : Char :=
  if meetsCased before && !meetsCased after then '\u03C2' else '\u03C3'

/-- The small forms of the characters that follow `before`, whose nearest stands first. -/
def lowerChars (before : List Char) : List Char → List Char
  | [] => []
  | c :: rest =>
    (if c = '\u03A3' then [lowerSigma before rest] else lowerChar c) ++ lowerChars (c :: before) rest

/-- A text in capitals. -/
def upper (s : String) : String :=
  String.ofList (s.toList.flatMap upperChar)

/-- A text in small letters. -/
def lower (s : String) : String :=
  String.ofList (lowerChars [] s.toList)

end LiveTemplate.Text
