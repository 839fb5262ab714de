import LiveTemplate.Data.OrderedMap
import LiveTemplate.Filter.Basic
import LiveTemplate.Template.Name
import LiveTemplate.Text.Quoted

/-!
Filter registries: filters by name, in the order in which their names were first registered.  A
name that a placeholder could not refer to is refused.  A name that is not registered leaves the
value as it is.
-/

namespace LiveTemplate

/-- Filters by name.  What a filter is does not matter here. -/
structure Registry (φ : Type) where
  filters : OrderedMap φ

namespace Registry

variable {φ : Type}

/-- The registry without filters. -/
def empty : Registry φ := ⟨.empty⟩

instance : Inhabited (Registry φ) := ⟨empty⟩

/-- The registry with a filter under a name, in place of the one that had the name; none if the name
is not one. -/
def register? (r : Registry φ) (name : String) (filter : φ) : Option (Registry φ) :=
  if isName name then some ⟨r.filters.insert name filter⟩ else none

/-- The filter under a name. -/
def find? (r : Registry φ) (name : String) : Option φ :=
  r.filters.find? name

/-- Whether there is a filter under a name. -/
def has (r : Registry φ) (name : String) : Bool :=
  r.filters.contains name

/-- The names in order. -/
def names (r : Registry φ) : List String :=
  r.filters.keys

/-- The number of filters. -/
def size (r : Registry φ) : Nat :=
  r.filters.size

/-- Whether there is no filter. -/
def isEmpty (r : Registry φ) : Bool :=
  r.filters.isEmpty

/-- What the filter under a name makes of a value. -/
def apply (r : Registry Transform) (name : String) (value : Value) : Value :=
  match r.find? name with
  | some filter => filter.apply value
  | none => value

/-- The registry with the built-in filters added. -/
def addBuiltins (ofBuiltin : Builtin → φ) (r : Registry φ) : Registry φ :=
  Builtin.all.foldl (fun r filter => (r.register? filter.name (ofBuiltin filter)).getD r) r

/-- The outline of a registry: the names in it. -/
def outline (r : Registry φ) : String :=
  "FilterRegistry \x7b filters: " ++ Text.quotedList r.names ++ " \x7d"

end Registry

end LiveTemplate
