/-!
Maps from texts that remember the order in which their keys were added.  Writing to a key that is
there already changes its value and leaves it in its place.
-/

namespace LiveTemplate

/-- Entries in the order in which their keys were added, each key once. -/
structure OrderedMap (α : Type) where
  entries : List (String × α)
  nodup : (entries.map Prod.fst).Nodup

namespace OrderedMap

variable {α β : Type}

/-- Writes a value in the place of its key, or at the end if the key is new. -/
def putEntry (key : String) (value : α) : List (String × α) → List (String × α)
  | [] => [(key, value)]
  | (k, v) :: rest => if k = key then (k, value) :: rest else (k, v) :: putEntry key value rest

theorem map_fst_putEntry (key : String) (value : α) (entries : List (String × α)) :
    (putEntry key value entries).map Prod.fst =
      if key ∈ entries.map Prod.fst then entries.map Prod.fst
      else entries.map Prod.fst ++ [key] := by
  induction entries with
  | nil => simp [putEntry]
  | cons entry rest inductionHypothesis =>
      obtain ⟨k, v⟩ := entry
      by_cases same : k = key
      · simp [putEntry, same]
      · simp only [putEntry, same, ↓reduceIte, List.map_cons, inductionHypothesis, List.mem_cons,
          Ne.symm same, false_or]
        split <;> simp

theorem nodup_putEntry (key : String) (value : α) {entries : List (String × α)}
    (nodup : (entries.map Prod.fst).Nodup) : ((putEntry key value entries).map Prod.fst).Nodup := by
  rw [map_fst_putEntry]
  split
  · exact nodup
  · next isNew =>
    refine List.nodup_append.2 ⟨nodup, by simp, fun a old b new => ?_⟩
    rw [List.mem_singleton.1 new]
    exact fun same => isNew (same ▸ old)

/-- The map without entries. -/
def empty : OrderedMap α := ⟨[], List.nodup_nil⟩

instance : Inhabited (OrderedMap α) := ⟨empty⟩

/-- Writes a value under a key. -/
def insert (m : OrderedMap α) (key : String) (value : α) : OrderedMap α :=
  ⟨putEntry key value m.entries, nodup_putEntry key value m.nodup⟩

/-- Writes the pairs one after the other. -/
def ofList (pairs : List (String × α)) : OrderedMap α :=
  pairs.foldl (fun m pair => m.insert pair.1 pair.2) empty

/-- The value under a key. -/
def find? (m : OrderedMap α) (key : String) : Option α :=
  m.entries.lookup key

/-- Whether there is a value under a key. -/
def contains (m : OrderedMap α) (key : String) : Bool :=
  m.entries.any (·.1 == key)

/-- The keys in order. -/
def keys (m : OrderedMap α) : List String :=
  m.entries.map Prod.fst

/-- The values in order. -/
def values (m : OrderedMap α) : List α :=
  m.entries.map Prod.snd

/-- The number of entries. -/
def size (m : OrderedMap α) : Nat :=
  m.entries.length

/-- Whether there is no entry. -/
def isEmpty (m : OrderedMap α) : Bool :=
  m.entries.isEmpty

/-- The map without the entry of a key. -/
def erase (m : OrderedMap α) (key : String) : OrderedMap α :=
  ⟨m.entries.filter (·.1 != key), (List.filter_sublist.map Prod.fst).nodup m.nodup⟩

end OrderedMap

end LiveTemplate
