/-!
Names: what identifiers and filters are called inside a placeholder.  A name is an ASCII letter, an
underscore or a dollar sign, followed by any number of these and of ASCII digits.
-/

namespace LiveTemplate

/-- Whether a name can begin with a character. -/
def isNameStart (c : Char) : Bool :=
  ('a' ≤ c && c ≤ 'z') || ('A' ≤ c && c ≤ 'Z') || c == '_' || c == '$'

/-- Whether a character can follow inside a name. -/
def isNameChar (c : Char) : Bool :=
  isNameStart c || ('0' ≤ c && c ≤ '9')

/-- Whether a character sequence is a name. -/
def isNameChars : List Char → Bool
  | [] => false
  | c :: rest => isNameStart c && rest.all isNameChar

/-- Whether a text is a name. -/
def isName (s : String) : Bool :=
  isNameChars s.toList

/-- The longest name in front, and what follows it. -/
def readName : List Char → Option (List Char × List Char)
  | [] => none
  | c :: rest =>
    if isNameStart c then some (c :: rest.takeWhile isNameChar, rest.dropWhile isNameChar) else none

end LiveTemplate
