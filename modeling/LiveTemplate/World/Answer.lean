import LiveTemplate.World.Error
import LiveTemplate.Value.Basic

/-!
What a step answers: a result, or the fault that kept it from having one.
-/

namespace LiveTemplate

/-- The tables in which handles are looked up. -/
inductive HandleTable where
  | types
  | views
  | states
  | subscriptions
  | weaks
  | bindings
  | interpolator
deriving DecidableEq, Repr

/-- Why a step has no result. -/
inductive Fault where
  | noHandle (table : HandleTable)
  | depthLimit
  | unknownStep (word : String)
  | interpolate (error : InterpolateError)
  | view (error : ViewError)
deriving DecidableEq, Repr

/-- Where an identifier was found. -/
structure ResolvedInfo where
  value : Value
  depth : Nat
  source : String

/-- The observable parts of a view. -/
structure ViewInfo where
  name : Option String
  typeName : String
  label : String
  isDestroyed : Bool
  bindings : Nat
  subscribers : Nat
  owner : Option String

/-- The properties of a view, and the one under a key. -/
structure PropsInfo where
  keys : List String
  isPresent : Bool
  value : Option Value

/-- The result of a step. -/
inductive Answer where
  | done
  | flag (b : Bool)
  | flag? (b : Option Bool)
  | text (s : String)
  | value (v : Value)
  | value? (v : Option Value)
  | names (names : List String)
  | names? (names : Option (List String))
  | count (n : Nat)
  | fields (fields : List (String × Value))
  | fields? (fields : Option (List (String × Value)))
  | resolved (info : Option ResolvedInfo)
  | binding (template : String) (subscriptions : Nat) (isActive : Bool)
  | view (info : ViewInfo)
  | props (info : PropsInfo)
  | outlines (type : String) (interpolator : Option String)

/-- What a step comes to. -/
abbrev Outcome := Except Fault Answer

end LiveTemplate
