import LiveTemplate.Command.Run

/-!
The program: runs its command line on the files of the system.
-/

namespace LiveTemplate

/-- The problem that an error of the system stands for. -/
def FileProblem.ofSystem : IO.Error → FileProblem
  | .noFileOrDirectory .. => .notFound
  | .alreadyExists .. => .alreadyThere
  | .inappropriateType _ 20 _ => .notDirectory
  | .inappropriateType _ 21 _ => .isDirectory
  | e => .other (toString e)

/-- Does something with the files of the system. -/
def onSystem {α : Type} (act : IO α) : IO (Except FileProblem α) := do
  match ← act.toBaseIO with
  | .ok a => return .ok a
  | .error e => return .error (.ofSystem e)

/-- Reads a text from a file of the system. -/
def readSystemText (path : String) : IO (Except FileProblem String) := do
  match ← onSystem (IO.FS.readBinFile path) with
  | .error problem => return .error problem
  | .ok bytes =>
    match String.fromUTF8? bytes with
    | some text => return .ok text
    | none => return .error .notText

/-- Whether there is something at a path of the system. -/
def isOnSystem (path : String) : IO Bool := do
  match ← onSystem (IO.FS.realPath path) with
  | .ok _ => return true
  | .error _ => return false

/-- The files of the system. -/
def systemFiles : Files IO where
  has := isOnSystem
  read := readSystemText
  createDirectories path := onSystem (IO.FS.createDirAll path)
  write path text := onSystem (IO.FS.writeFile path text)

/-- The variables of the environment that go before the settings file. -/
def systemOverrides : IO Overrides := do
  return ⟨← IO.getEnv "VIEW_INTERPOLATE_LOG_LEVEL", ← IO.getEnv "VIEW_INTERPOLATE_LOG_FORMAT",
    ← IO.getEnv "VIEW_INTERPOLATE_BUILTIN_FILTERS"⟩

end LiveTemplate

/-- Runs the command line. -/
def main (arguments : List String) : IO UInt32 := do
  let home ← IO.getEnv "HOME"
  let overrides ← LiveTemplate.systemOverrides
  let reply ← LiveTemplate.runCommandLine LiveTemplate.systemFiles home overrides arguments
  IO.print reply.output
  IO.eprint reply.errors
  return UInt32.ofNat reply.code
