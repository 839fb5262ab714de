import LiveTemplate.World.Answer
import LiveTemplate.World.Lifetime

/-!
The journal of a run: what happened, in order, each entry with the world as it stood.  An entry is made
whenever user code is about to run, whenever a value is stored or a binding starts to re-evaluate, and
after every nested step.  The program sees the calls of its callbacks and handlers and the nested steps;
the other entries are what the theory speaks about.
-/

namespace LiveTemplate

/-- Something that happens in the course of a step. -/
inductive Occurrence where
  /-- A callback is called with a value. -/
  | called (listener : ListenerId) (label : String) (call : Nat) (value : Value)
  /-- A handler of the program is told that a key was set. -/
  | notified (listener : ListenerId) (label : String) (call : Nat) (key : String) (value : Value)
  /-- A filter is called with a value. -/
  | filtered (filter : FilterId) (value : Value)
  /-- A value was stored, and these subscribers are about to be told. -/
  | stored (container : ContainerId) (key : String) (value : Value) (subscribers : List Subscriber)
  /-- An active binding is told that a source was set. -/
  | refreshed (binding : BindingId)
  /-- A nested step has run. -/
  | nested (step : Step) (outcome : Outcome)

/-- An occurrence and the world in which it happened. -/
structure Moment where
  occurrence : Occurrence
  world : World

/-- A world on the way, and the journal up to now. -/
structure Run where
  world : World
  journal : Array Moment

instance : Inhabited Run := ⟨⟨.empty, #[]⟩⟩

/-- What acts on the world and is recorded. -/
abbrev Act := StateM Run

namespace Act

/-- The world as it stands. -/
def world : Act World := do
  return (← get).world

/-- Changes the world. -/
def change (f : World → World) : Act Unit :=
  modify fun r => { r with world := f r.world }

/-- Changes the world and answers with a result. -/
def changeWith {α : Type} (f : World → α × World) : Act α :=
  modifyGet fun r => let (a, w) := f r.world; (a, { r with world := w })

/-- Makes an entry in the journal. -/
def record (occurrence : Occurrence) : Act Unit :=
  modify fun r => { r with journal := r.journal.push ⟨occurrence, r.world⟩ }

end Act

end LiveTemplate
