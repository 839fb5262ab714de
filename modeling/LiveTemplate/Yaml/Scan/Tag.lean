import LiveTemplate.Yaml.Scan.Quoted

/-!
Tags, anchors and directives.  A tag is a handle, which a directive gives a meaning, and a suffix; in
angle brackets it is written out.
-/

namespace LiveTemplate.Yaml

/-- A tag or a part of one, byte by byte.  Percent signs may stand for bytes that form no text. -/
abbrev TagBytes := List UInt8

/-- The bytes of a text. -/
def bytesOf (s : String) : TagBytes :=
  s.toUTF8.toList

/-- Whether a character may stand in the suffix of a tag.  Brackets and commas may do so only in a tag
that is written out. -/
def isUriChar (isWhole : Bool) (c : Char) : Bool :=
  isWordChar c || c ∈ [';', '/', '?', ':', '@', '&', '=', '+', '$', '.', '!', '~', '*', '\'', '(', ')'] ||
    (isWhole && (c == ',' || c == '[' || c == ']'))

/-- How many bytes a character takes whose first byte is given. -/
def byteCount? (first : Nat) : Option Nat :=
  if first < 0x80 then some 1
  else if 0xC0 ≤ first ∧ first < 0xE0 then some 2
  else if 0xE0 ≤ first ∧ first < 0xF0 then some 3
  else if 0xF0 ≤ first ∧ first < 0xF8 then some 4
  else none

/-- Reads the bytes of a suffix.  A percent sign and two digits stand for a byte; `wanted` further bytes
of a character must come in that way.  The fuel counts characters. -/
def readUriBytes (isWhole : Bool) : (fuel wanted : Nat) → Cursor → Option (TagBytes × Cursor)
  | 0, _, _ => none
  | fuel + 1, wanted, c =>
    match c.rest with
    | '%' :: a :: b :: _ => do
      let byte := (← Text.hexDigit? a) * 16 + (← Text.hexDigit? b)
      let wanted ←
        match wanted with
        | 0 => (byteCount? byte).map (· - 1)
        | more + 1 => if 0x80 ≤ byte ∧ byte < 0xC0 then some more else none
      let (bytes, c) ← readUriBytes isWhole fuel wanted (c.skip 3)
      return (UInt8.ofNat byte :: bytes, c)
    | x :: _ =>
      if wanted ≠ 0 ∨ x = '%' then none
      else if isUriChar isWhole x then do
        let (bytes, c) ← readUriBytes isWhole fuel 0 (c.skip 1)
        return (UInt8.ofNat x.toNat :: bytes, c)
      else some ([], c)
    | [] => if wanted = 0 then some ([], c) else none

/-- Reads a suffix, which may be empty. -/
def readUri (isWhole : Bool) (c : Cursor) : Except Error (TagBytes × Cursor) :=
  match readUriBytes isWhole c.fuel 0 c with
  | none => .error (.malformed .tag c.mark)
  | some result => .ok result

/-- The part of a tag in front of the first zero byte: there a tag ends. -/
def upToZero (bytes : TagBytes) : TagBytes :=
  bytes.takeWhile (· != 0)

/-- Reads an exclamation mark, a word and a second exclamation mark, of which the word and the second
mark may be missing. -/
def readHandle (c : Cursor) : Except Error (String × Cursor) :=
  if c.isAt '!' then
    let (word, c) := (c.skip 1).takeWhile isWordChar
    if c.isAt '!' then .ok (String.ofList ('!' :: word ++ ['!']), c.skip 1)
    else .ok (String.ofList ('!' :: word), c)
  else .error (.malformed .tag c.mark)

/-- Reads a tag as a handle and a suffix.  A tag that is written out has no handle.  Neither has the
exclamation mark alone, which is its own suffix. -/
def readTag (inFlow : Bool) (c : Cursor) : Except Error (String × TagBytes × Cursor) := do
  let bad := Error.malformed .tag c.mark
  let (handle, suffix, c) ←
    if c.at? 1 = some '<' then do
      let (suffix, c) ← readUri true (c.skip 2)
      if suffix.isEmpty || !c.isAt '>' then .error bad
      else pure ("", upToZero suffix, c.skip 1)
    else do
      let (handle, next) ← readHandle c
      if handle.length ≥ 2 && handle.endsWith "!" then
        let (suffix, next) ← readUri false next
        if suffix.isEmpty then .error bad else pure (handle, upToZero suffix, next)
      else
        let (more, next) ← readUri false next
        let suffix := upToZero (bytesOf (handle.drop 1).toString ++ more)
        if suffix.isEmpty then pure ("", bytesOf "!", next) else pure ("!", suffix, next)
  if c.isAtGap || (inFlow && c.isAt ',') then return (handle, suffix, c)
  else .error bad

/-- Whether a character may follow the name of an anchor or alias. -/
def endsAnchor (c : Option Char) : Bool :=
  isGap c || c.any (· ∈ ['?', ':', ',', ']', '\x7d', '%', '@', '\x60'])

/-- Reads the name of an anchor or alias behind its sign. -/
def readAnchorName (c : Cursor) : Except Error (String × Cursor) :=
  let (name, next) := (c.skip 1).takeWhile isWordChar
  if name.isEmpty || !endsAnchor next.head? then .error (.malformed .anchor next.mark)
  else .ok (String.ofList name, next)

/-- A line that tells how the document behind it is to be read. -/
inductive Directive where
  | version (major minor : Nat)
  | tagHandle (handle : String) (meaning : TagBytes)

/-- The largest number of digits in a version number. -/
def versionDigits : Nat := 9

/-- Reads a part of a version number. -/
def readVersionPart (c : Cursor) : Except Error (Nat × Cursor) :=
  let (digits, next) := c.takeWhile fun x => '0' ≤ x && x ≤ '9'
  if digits.isEmpty || versionDigits < digits.length then .error (.malformed .directive c.mark)
  else .ok (digits.foldl (fun n x => 10 * n + (x.toNat - '0'.toNat)) 0, next)

/-- Reads a directive from its percent sign on, with the rest of its line. -/
def readDirective (c : Cursor) : Except Error (Directive × Cursor) := do
  let bad := Error.malformed .directive c.mark
  let (name, c) := (c.skip 1).takeWhile isWordChar
  if !c.isAtGap then .error bad
  let c := c.skipWhile isSpacing
  let (directive, c) ←
    if String.ofList name = "YAML" then do
      let (major, c) ← readVersionPart c
      if !c.isAt '.' then .error bad
      let (minor, c) ← readVersionPart (c.skip 1)
      pure (Directive.version major minor, c)
    else if String.ofList name = "TAG" then do
      let (handle, c) ← readHandle c
      if handle ≠ "!" && (handle.length < 2 || !handle.endsWith "!") then .error bad
      if !c.isAtAny isSpacing then .error bad
      let (meaning, c) ← readUri true (c.skipWhile isSpacing)
      if meaning.isEmpty || !c.isAtGap then .error bad
      pure (Directive.tagHandle handle (upToZero meaning), c)
    else .error bad
  let c := c.skipWhile isSpacing
  let c := if c.isAt '#' then c.skipToBreak else c
  if c.isAtEnd || c.isAtAny isBreak then return (directive, c.skipBreak)
  else .error bad

end LiveTemplate.Yaml
