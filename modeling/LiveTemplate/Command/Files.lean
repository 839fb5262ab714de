import LiveTemplate.Data.FileProblem

/-!
Files as commands see them, and a tree of files in memory.
-/

namespace LiveTemplate

/-- What commands do with files: ask whether there is something at a path, read a text, make a directory
with all that leads to it, and write a text. -/
structure Files (m : Type → Type) where
  has : String → m Bool
  read : String → m (Except FileProblem String)
  createDirectories : String → m (Except FileProblem Unit)
  write : String → String → m (Except FileProblem Unit)

/-- A path and a name in it.  A name that begins at the root stands for itself. -/
def joinPath (base name : String) : String :=
  if name.startsWith "/" || base.isEmpty then name
  else if base.endsWith "/" then base ++ name
  else base ++ "/" ++ name

/-- What is in a file: a text, or bytes that are none. -/
inductive FileContents where
  | text (s : String)
  | binary
deriving DecidableEq, Repr

/-- Where the way to a place begins: at the directory in which commands run, at one that many steps around
it, or at the top. -/
inductive Origin where
  | around (steps : Nat)
  | top
deriving DecidableEq, Repr

/-- A place: where the way there begins, and the names on the way as a path, which is empty for the
beginning itself. -/
structure Location where
  origin : Origin
  path : String
deriving DecidableEq, Repr

namespace Location

/-- The part of a path in front of its last name. -/
def pathBefore (path : String) : String :=
  String.ofList ((path.toList.reverse.dropWhile (· != '/')).drop 1).reverse

/-- The directory around a place.  The top has none around it. -/
def parent (l : Location) : Location :=
  if l.path.isEmpty then
    match l.origin with
    | .around steps => ⟨.around (steps + 1), ""⟩
    | .top => l
  else { l with path := pathBefore l.path }

/-- The place of a name in a directory. -/
def child (l : Location) (name : String) : Location :=
  { l with path := joinPath l.path name }

/-- The directories that lead to a place, from the outermost one on, given the names that lead there. -/
def leadingTo (l : Location) : List String → List Location
  | [] | [_] => []
  | name :: rest => l.child name :: leadingTo (l.child name) rest

end Location

/-- The directory in which commands run. -/
def here : Location := ⟨.around 0, ""⟩

/-- A tree of files.  Every directory is listed, apart from those at which ways begin: they are always
there. -/
structure FileTree where
  files : List (Location × FileContents)
  directories : List Location

namespace FileTree

/-- What is at a place. -/
inductive Entry where
  | file (contents : FileContents)
  | directory

/-- What is at a place. -/
def entry? (t : FileTree) (l : Location) : Option Entry :=
  if l.path.isEmpty then some .directory
  else
    match t.files.lookup l with
    | some contents => some (.file contents)
    | none => if t.directories.contains l then some .directory else none

/-- How many bytes the name of a file may take. -/
def nameLimit : Nat := 255

/-- How many bytes a path may take. -/
def pathLimit : Nat := 4095

/-- The place that a step leads to.  One can only go on from a directory. -/
def step (t : FileTree) (l : Location) (name : String) : Except FileProblem Location :=
  match t.entry? l with
  | none => .error .notFound
  | some (.file _) => .error .notDirectory
  | some .directory =>
    if name = "" ∨ name = "." then .ok l
    else if name = ".." then .ok l.parent
    else if nameLimit < name.utf8ByteSize then .error .nameTooLong
    else .ok (l.child name)

/-- The steps of a path. -/
def stepsOf (path : String) : List String :=
  path.splitOn "/"

/-- The steps of a path that lead somewhere. -/
def namesOf (path : String) : List String :=
  (stepsOf path).filter fun name => name ≠ "" ∧ name ≠ "."

/-- The place at which a path begins. -/
def originOf (path : String) : Location :=
  if path.startsWith "/" then ⟨.top, ""⟩ else here

/-- The place that the steps of a path lead to. -/
def walk (t : FileTree) (path : String) (steps : List String) : Except FileProblem Location :=
  if path.contains '\x00' then .error .nulByte
  else if path.isEmpty then .error .notFound
  else if pathLimit < path.utf8ByteSize then .error .nameTooLong
  else steps.foldlM t.step (originOf path)

/-- The place that a path leads to. -/
def locate (t : FileTree) (path : String) : Except FileProblem Location :=
  t.walk path (stepsOf path)

/-- Whether there is something at a path. -/
def has (t : FileTree) (path : String) : Bool :=
  match t.locate path with
  | .ok l => (t.entry? l).isSome
  | .error _ => false

/-- Reads the text at a path. -/
def read (t : FileTree) (path : String) : Except FileProblem String := do
  match t.entry? (← t.locate path) with
  | none => .error .notFound
  | some .directory => .error .isDirectory
  | some (.file .binary) => .error .notText
  | some (.file (.text s)) => .ok s

/-- Makes a directory.  Slashes at the end of the path do not matter. -/
def createDirectory (t : FileTree) (path : String) : Except FileProblem FileTree := do
  let l ← t.walk path ((stepsOf path).filter (· ≠ ""))
  match t.entry? l with
  | some _ => .error .alreadyThere
  | none => return { t with directories := l :: t.directories }

/-- Whether there is a directory at a path. -/
def isDirectory (t : FileTree) (path : String) : Bool :=
  match (t.locate path).toOption.bind t.entry? with
  | some .directory => true
  | _ => false

/-- Makes a directory if it is not there, given that what leads to it is there. -/
def createLast (t : FileTree) (path : String) : Except FileProblem FileTree :=
  match t.createDirectory path with
  | .ok t => .ok t
  | .error problem => if t.isDirectory path then .ok t else .error problem

/-- Makes the directory of a name at a place, if it is not there, and goes on to it. -/
def enter (reached : FileTree × Location) (name : String) : Except FileProblem (FileTree × Location) := do
  let (t, l) := reached
  let next ← t.step l name
  match t.entry? next with
  | some .directory => return (t, next)
  | some (.file _) => .error .alreadyThere
  | none => return ({ t with directories := next :: t.directories }, next)

/-- Makes a directory with all that leads to it.  A step that leads nowhere, at the end of the path, finds
its directory only if that was there before. -/
def createDirectories (t : FileTree) (path : String) : Except FileProblem FileTree := do
  match t.createLast path with
  | .error .notFound =>
    let (t, _) ← (namesOf path).dropLast.foldlM enter (t, originOf path)
    t.createLast path
  | result => result

/-- Writes a text to a path, over what was there. -/
def write (t : FileTree) (path text : String) : Except FileProblem FileTree := do
  let l ← t.locate path
  match t.entry? l with
  | some .directory => .error .isDirectory
  | _ => return { t with files := (l, .text text) :: t.files.filter (·.1 != l) }

/-- The tree of some files, given by their paths. -/
def ofFiles (files : List (String × FileContents)) : FileTree :=
  let placed := files.map fun (path, contents) => ((namesOf path).foldl Location.child here, contents)
  ⟨placed, (files.flatMap fun (path, _) => here.leadingTo (namesOf path)).eraseDups⟩

/-- The files in the directory where commands run, by their paths. -/
def filesHere (t : FileTree) : List (String × FileContents) :=
  t.files.filterMap fun (l, contents) =>
    if l.origin = here.origin then some (l.path, contents) else none

/-- Changes the tree, or reports why it cannot. -/
def change (f : FileTree → Except FileProblem FileTree) : StateM FileTree (Except FileProblem Unit) := do
  match f (← get) with
  | .ok t =>
    set t
    return .ok ()
  | .error problem => return .error problem

/-- The files of a tree. -/
def access : Files (StateM FileTree) where
  has path := do return (← get).has path
  read path := do return (← get).read path
  createDirectories path := change (·.createDirectories path)
  write path text := change (·.write path text)

end FileTree

end LiveTemplate
