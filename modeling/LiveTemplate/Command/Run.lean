import LiveTemplate.Command.Arguments
import LiveTemplate.Command.Assignment
import LiveTemplate.Command.Play
import LiveTemplate.Command.Settings
import LiveTemplate.Command.Starter
import LiveTemplate.Scene.Reader

/-!
Runs a command line on the files that it names.
-/

namespace LiveTemplate

variable {m : Type → Type} [Monad m]

/-- Loads the scene of a file. -/
def loadScene (files : Files m) (path : String) : m (Except SceneError Scene) := do
  match ← files.read path with
  | .error problem => return .error (.file problem)
  | .ok source => return Scene.ofYaml source

/-- Prints the value of a template on a view of a scene. -/
def runRender (files : Files m) (settings : Settings) (path view template : String)
    (assignments : List String) : m Transcript := do
  match readAssignments assignments with
  | .error text => return .failed (.assignment text)
  | .ok assignments =>
    match ← loadScene files path with
    | .error e => return .failed (.loading e)
    | .ok s =>
      match renderScene s (s.filtersOr settings.filters) view template assignments with
      | .error e => return .failed e
      | .ok value => return ⟨[formatValue settings.prettyJson value], none⟩

/-- Plays a scene. -/
def runWatch (files : Files m) (settings : Settings) (path : String) : m Transcript := do
  match ← loadScene files path with
  | .error e => return .failed (.loading e)
  | .ok s => return watchScene s (s.filtersOr settings.filters) settings.prettyJson

/-- Validates a scene. -/
def runValidate (files : Files m) (settings : Settings) (path : String) (strict : Bool) :
    m Transcript := do
  match ← loadScene files path with
  | .error e => return .failed (.validating e)
  | .ok s => return validateScene s (s.filtersOr settings.filters) strict

/-- Writes a starter scene to a file that is not there yet, in a directory that is made if need be. -/
def runInit (files : Files m) (name directory : String) : m Transcript := do
  let made ←
    if ← files.has directory then pure (.ok ()) else files.createDirectories directory
  match made with
  | .error problem => return .failed (.file problem)
  | .ok () =>
    let path := joinPath directory (name ++ ".yaml")
    if ← files.has path then return .failed (.sceneExists path)
    else
      match ← files.write path (starterScene name) with
      | .error problem => return .failed (.file problem)
      | .ok () => return ⟨[s!"Created scene file: {path}"], none⟩

/-- Runs a command. -/
def Command.run (files : Files m) (settings : Settings) : Command → m Transcript
  | .render path view template assignments =>
    runRender files settings path view template assignments
  | .watch path => runWatch files settings path
  | .validate path strict => runValidate files settings path strict
  | .init name directory => runInit files name directory

/-- What a program says when it ends. -/
structure Reply where
  code : Nat
  output : String
  errors : String
deriving DecidableEq, Repr

/-- The reply that tells what a command printed and whether it failed. -/
def Transcript.reply (t : Transcript) : Reply :=
  let output := String.join (t.lines.map (· ++ "\n"))
  match t.failure with
  | none => ⟨0, output, ""⟩
  | some e => ⟨1, output, "Error: " ++ e.message ++ "\n"⟩

/-- The name and the version of the program. -/
def versionLine : String := "view-interpolate 0.1.0"

/-- Runs a command line: loads the settings, and then runs the command. -/
def runCommandLine (files : Files m) (home : Option String) (overrides : Overrides)
    (arguments : List String) : m Reply := do
  match CommandLine.read arguments with
  | .misuse => return ⟨2, "", ""⟩
  | .help => return ⟨0, "", ""⟩
  | .version => return ⟨0, versionLine ++ "\n", ""⟩
  | .run invocation =>
    match ← Settings.load files home overrides invocation.settingsPath with
    | .error e => return (Transcript.failed (.settings e)).reply
    | .ok settings => return (← invocation.command.run files settings).reply

end LiveTemplate
