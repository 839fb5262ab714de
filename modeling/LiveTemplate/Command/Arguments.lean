/-!
The command line.  Options may stand before and behind the words they go with, a value may be attached to
its option, and two dashes end the options.  No option but an assignment may be given twice in one place.
-/

namespace LiveTemplate

/-- What is to be done. -/
inductive Command where
  | render (scene view template : String) (assignments : List String)
  | watch (scene : String)
  | validate (scene : String) (strict : Bool)
  | init (name directory : String)
deriving DecidableEq, Repr

/-- A command, and the settings file that is to be used. -/
structure Invocation where
  command : Command
  settingsPath : Option String
deriving DecidableEq, Repr

/-- What a command line asks for. -/
inductive Request where
  | run (invocation : Invocation)
  | version
  | help
  | misuse
deriving DecidableEq, Repr

namespace CommandLine

/-- The options. -/
inductive OptionName where
  | verbose
  | noColor
  | config
  | view
  | template
  | assignment
  | strict
  | directory
  | help
  | version
deriving DecidableEq, Repr

namespace OptionName

/-- Whether a value goes with an option. -/
def takesValue : OptionName → Bool
  | .config | .view | .template | .assignment | .directory => true
  | _ => false

/-- Whether an option may be given more than once. -/
def mayRepeat : OptionName → Bool
  | .assignment => true
  | _ => false

/-- Whether the value of an option is a path, which is never empty. -/
def isPath : OptionName → Bool
  | .config | .directory => true
  | _ => false

end OptionName

/-- The commands by their words, and what comes before them. -/
inductive Scope where
  | top
  | render
  | watch
  | validate
  | init
deriving DecidableEq, Repr

namespace Scope

/-- The scope that a word opens. -/
def ofWord? (word : String) : Option Scope :=
  match word with
  | "render" => some .render
  | "watch" => some .watch
  | "validate" => some .validate
  | "init" => some .init
  | _ => none

/-- The option of a long name. -/
def long? (s : Scope) (name : String) : Option OptionName :=
  match s, name with
  | _, "verbose" => some .verbose
  | _, "config" => some .config
  | _, "no-color" => some .noColor
  | _, "help" => some .help
  | .top, "version" => some .version
  | .render, "view" => some .view
  | .render, "template" => some .template
  | .render, "set" => some .assignment
  | .validate, "strict" => some .strict
  | .init, "output-dir" => some .directory
  | _, _ => none

/-- The option of a letter. -/
def short? (s : Scope) (letter : Char) : Option OptionName :=
  match s, letter with
  | _, 'v' => some .verbose
  | _, 'c' => some .config
  | _, 'h' => some .help
  | .top, 'V' => some .version
  | .render, 't' => some .template
  | .render, 'S' => some .assignment
  | .init, 'o' => some .directory
  | _, _ => none

/-- How many words a command takes. -/
def words : Scope → Nat
  | .top => 0
  | _ => 1

/-- Whether the word of a command is a path, which is never empty. -/
def takesPath : Scope → Bool
  | .render | .watch | .validate => true
  | .top | .init => false

end Scope

/-- What was read in a scope: the options with their values, and the words. -/
structure Given where
  options : List (OptionName × String)
  words : List String

namespace Given

/-- Nothing read. -/
def empty : Given := ⟨[], []⟩

/-- Whether an option was given. -/
def has (g : Given) (o : OptionName) : Bool :=
  g.options.any (·.1 == o)

/-- The value of an option. -/
def value? (g : Given) (o : OptionName) : Option String :=
  g.options.lookup o

/-- The values of an option in their order. -/
def values (g : Given) (o : OptionName) : List String :=
  (g.options.filter (·.1 == o)).map Prod.snd

/-- Adds an option with its value. -/
def addOption (g : Given) (o : OptionName) (value : String) : Except Request Given :=
  if o = .help then .error .help
  else if o = .version then .error .version
  else if (g.has o && !o.mayRepeat) || (o.isPath && value.isEmpty) then .error .misuse
  else .ok { g with options := g.options ++ [(o, value)] }

/-- Adds a word. -/
def addWord (g : Given) (scope : Scope) (word : String) : Except Request Given :=
  if scope.words ≤ g.words.length || (scope.takesPath && word.isEmpty) then .error .misuse
  else .ok { g with words := g.words ++ [word] }

end Given

/-- A text in front of an equals sign, and the text behind it if there is one. -/
def splitValue (s : List Char) : String × Option String :=
  let name := s.takeWhile (· != '=')
  match s.drop name.length with
  | [] => (String.ofList name, none)
  | _ :: value => (String.ofList name, some (String.ofList value))

/-- Reads letters behind a single dash, up to one whose option takes a value.  Also says whether that
value is still to come. -/
def readLetters (scope : Scope) (g : Given) : List Char → Except Request (Given × Option OptionName)
  | [] => .ok (g, none)
  | letter :: rest =>
    match scope.short? letter with
    | none => .error .misuse
    | some o =>
      if o.takesValue then
        match rest with
        | [] => .ok (g, some o)
        | '=' :: value => (g.addOption o (String.ofList value)).map (·, none)
        | value => (g.addOption o (String.ofList value)).map (·, none)
      else
        match g.addOption o "" with
        | .error request => .error request
        | .ok g => readLetters scope g rest

/-- Reads a name behind two dashes, with the value that is attached to it. -/
def readLong (scope : Scope) (g : Given) (s : List Char) : Except Request (Given × Option OptionName) :=
  let (name, value) := splitValue s
  match scope.long? name, value with
  | none, _ => .error .misuse
  | some o, none =>
    if o.takesValue then .ok (g, some o) else (g.addOption o "").map (·, none)
  | some o, some value =>
    if o.takesValue then (g.addOption o value).map (·, none) else .error .misuse

/-- What an argument looks like. -/
inductive Shape where
  | name (s : List Char)
  | letters (s : List Char)
  | twoDashes
  | word (s : String)

/-- The shape of an argument.  A dash alone is a word. -/
def shapeOf (argument : String) : Shape :=
  match argument.toList with
  | ['-', '-'] => .twoDashes
  | '-' :: '-' :: name => .name name
  | ['-'] => .word argument
  | '-' :: letters => .letters letters
  | _ => .word argument

/-- Reads words only. -/
def readWords (scope : Scope) (g : Given) : List String → Except Request Given
  | [] => .ok g
  | word :: rest => do readWords scope (← g.addWord scope word) rest

/-- Reads the arguments of a command.  An option may be waiting for its value. -/
def readArguments (scope : Scope) (g : Given) (waiting : Option OptionName) :
    List String → Except Request Given
  | [] => if waiting.isSome then .error .misuse else .ok g
  | argument :: rest =>
    match waiting, shapeOf argument with
    | some o, .word value => do readArguments scope (← g.addOption o value) none rest
    | some _, _ => .error .misuse
    | none, .twoDashes => readWords scope g rest
    | none, .name s => do
      let (g, waiting) ← readLong scope g s
      readArguments scope g waiting rest
    | none, .letters s => do
      let (g, waiting) ← readLetters scope g s
      readArguments scope g waiting rest
    | none, .word word => do readArguments scope (← g.addWord scope word) none rest

/-- What is asked for when help is asked for by its word: help on a command, or on no command there is. -/
def readHelp : List String → Request
  | [] => .help
  | [word] => if word = "help" ∨ (Scope.ofWord? word).isSome then .help else .misuse
  | _ => .misuse

/-- Reads the arguments in front of a command, up to its word.  A value that stands apart from its option is
only judged with what comes next, and behind the whole command if its word is next: so the result may still
be a refusal. -/
def readTop (given : Except Request Given) (waiting : Option OptionName) :
    List String → Except Request (Except Request Given × Scope × List String)
  | [] => .error .misuse
  | argument :: rest =>
    match waiting, shapeOf argument with
    | some o, .word value => do readTop ((← given).addOption o value) none rest
    | some _, _ => .error .misuse
    | none, .twoDashes => .error .misuse
    | none, .name s => do
      let (g, waiting) ← readLong .top (← given) s
      readTop (.ok g) waiting rest
    | none, .letters s => do
      let (g, waiting) ← readLetters .top (← given) s
      readTop (.ok g) waiting rest
    | none, .word word =>
      match Scope.ofWord? word with
      | some scope => .ok (given, scope, rest)
      | none => .error (if word = "help" then readHelp rest else .misuse)

/-- The directory of new scenes if none is given. -/
def defaultDirectory : String := "."

/-- The command of a scope, if all that it needs was given. -/
def commandOf? (scope : Scope) (g : Given) : Option Command := do
  let word ← g.words.head?
  match scope with
  | .top => none
  | .render => return .render word (← g.value? .view) (← g.value? .template) (g.values .assignment)
  | .watch => return .watch word
  | .validate => return .validate word (g.has .strict)
  | .init => return .init word ((g.value? .directory).getD defaultDirectory)

/-- The command of a command line, or what it asks for instead.  The settings file behind the command goes
before the one in front of it. -/
def readInvocation (arguments : List String) : Except Request Invocation := do
  let (top, scope, rest) ← readTop (.ok .empty) none arguments
  let given ← readArguments scope .empty none rest
  let top ← top
  match commandOf? scope given with
  | none => .error .misuse
  | some command => return ⟨command, (given.value? .config).or (top.value? .config)⟩

/-- What a command line asks for. -/
def read (arguments : List String) : Request :=
  match readInvocation arguments with
  | .error request => request
  | .ok invocation => .run invocation

end CommandLine

end LiveTemplate
