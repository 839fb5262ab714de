import LiveTemplate.Data.OrderedMap

/-!
Reading a map after it was written.  Writing a key changes what is found under that key alone, and a
value that was in the map is still there unless it stood under the key.
-/

namespace LiveTemplate.OrderedMap

variable {α : Type}

/-- An entry that is put in is found, and the others as before. -/
theorem lookup_putEntry (key other : String) (value : α) (entries : List (String × α)) :
    (putEntry key value entries).lookup other =
      if other = key then some value else entries.lookup other := by
  induction entries with
  | nil =>
      by_cases same : other = key
      · simp [putEntry, same]
      · have differs : (other == key) = false := by simpa using same
        simp [putEntry, List.lookup_cons, same, differs]
  | cons entry rest inductionHypothesis =>
      rcases entry with ⟨k, v⟩
      by_cases here : k = key
      · subst here
        by_cases same : other = k
        · simp [putEntry, same]
        · have differs : (other == k) = false := by simpa using same
          simp [putEntry, List.lookup_cons, same, differs]
      · simp only [putEntry, here, ↓reduceIte, List.lookup_cons]
        by_cases same : other = k
        · have notKey : other ≠ key := same ▸ here
          simp [same, here]
        · have differs : (other == k) = false := by simpa using same
          rw [differs]
          exact inductionHypothesis

/-- What is found after a key was written. -/
theorem find?_insert (m : OrderedMap α) (key other : String) (value : α) :
    (m.insert key value).find? other = if other = key then some value else m.find? other :=
  lookup_putEntry key other value m.entries

/-- No key is ever lost by writing. -/
theorem isSome_find?_insert {m : OrderedMap α} {key other : String} {value : α}
    (found : (m.find? other).isSome) : ((m.insert key value).find? other).isSome := by
  rw [find?_insert]
  split
  · rfl
  · exact found

/-- What is found is a value of the map. -/
theorem mem_values_of_find? {m : OrderedMap α} {key : String} {value : α}
    (found : m.find? key = some value) : value ∈ m.values := by
  simp only [find?] at found
  simp only [values]
  generalize m.entries = entries at found
  induction entries with
  | nil => simp at found
  | cons entry rest inductionHypothesis =>
      rcases entry with ⟨k, v⟩
      by_cases here : key = k
      · subst here
        simp_all
      · have differs : (key == k) = false := by simpa using here
        rw [List.lookup_cons, differs] at found
        exact List.mem_cons_of_mem _ (inductionHypothesis found)

/-- Putting an entry in brings no value but its own. -/
private theorem mem_putEntry {key : String} {value x : α} {entries : List (String × α)} :
    x ∈ (putEntry key value entries).map Prod.snd →
      x = value ∨ x ∈ entries.map Prod.snd := by
  induction entries with
  | nil => simp [putEntry]
  | cons entry rest inductionHypothesis =>
      rcases entry with ⟨k, v⟩
      simp only [putEntry]
      split
      · simp only [List.map_cons, List.mem_cons]
        rintro (rfl | inRest)
        · exact Or.inl rfl
        · exact Or.inr (Or.inr inRest)
      · simp only [List.map_cons, List.mem_cons]
        rintro (rfl | inRest)
        · exact Or.inr (Or.inl rfl)
        · rcases inductionHypothesis inRest with written | kept
          · exact Or.inl written
          · exact Or.inr (Or.inr kept)

/-- A value in the map is the one that was written or one that was there before. -/
theorem mem_values_insert {m : OrderedMap α} {key : String} {value x : α}
    (mem : x ∈ (m.insert key value).values) : x = value ∨ x ∈ m.values :=
  mem_putEntry mem

/-- Putting an entry in takes no value but the one that it stands for. -/
private theorem mem_putEntry_or_lookup {key : String} {value x : α} {entries : List (String × α)}
    (mem : x ∈ entries.map Prod.snd) :
    x ∈ (putEntry key value entries).map Prod.snd ∨ entries.lookup key = some x := by
  induction entries with
  | nil => simp at mem
  | cons entry rest inductionHypothesis =>
      rcases entry with ⟨k, v⟩
      simp only [putEntry]
      by_cases here : k = key
      · subst here
        rcases List.mem_cons.mp mem with head | tail
        · exact Or.inr (by simp [head])
        · exact Or.inl (by simp_all)
      · have differs : (key == k) = false := by simpa using Ne.symm here
        rw [if_neg here, List.lookup_cons, differs]
        rcases List.mem_cons.mp mem with head | tail
        · exact Or.inl (by simp [head])
        · rcases inductionHypothesis tail with kept | replaced
          · exact Or.inl (List.mem_cons_of_mem _ kept)
          · exact Or.inr replaced

/-- Writing a key takes no value out of the map but the one under that key. -/
theorem mem_values_insert_or_find? {m : OrderedMap α} {x : α} (key : String) (value : α)
    (mem : x ∈ m.values) : x ∈ (m.insert key value).values ∨ m.find? key = some x :=
  mem_putEntry_or_lookup mem

/-- A value that is put in is a value of the map. -/
theorem mem_values_insert_self (m : OrderedMap α) (key : String) (value : α) :
    value ∈ (m.insert key value).values := by
  have found : (m.insert key value).find? key = some value := by simp [find?_insert]
  exact mem_values_of_find? found

/-- Taking an entry out brings no value. -/
theorem mem_values_erase {m : OrderedMap α} {key : String} {x : α}
    (mem : x ∈ (m.erase key).values) : x ∈ m.values := by
  simp only [values, erase, List.mem_map, List.mem_filter] at mem ⊢
  rcases mem with ⟨entry, ⟨inMap, _⟩, rfl⟩
  exact ⟨entry, inMap, rfl⟩

/-- A key that is taken out of the map is all that is missing then. -/
theorem find?_erase (m : OrderedMap α) (key other : String) :
    (m.erase key).find? other = if other = key then none else m.find? other := by
  simp only [find?, erase]
  generalize m.entries = entries
  induction entries with
  | nil => simp
  | cons entry rest inductionHypothesis =>
      rcases entry with ⟨k, value⟩
      by_cases gone : k = key
      · rw [List.filter_cons_of_neg (by simpa using gone), inductionHypothesis, List.lookup_cons]
        split
        · rfl
        · next differs =>
          have notHere : (other == k) = false := by simpa [gone] using differs
          rw [notHere]
      · rw [List.filter_cons_of_pos (by simpa using gone), List.lookup_cons, List.lookup_cons, inductionHypothesis]
        by_cases here : other = k
        · simp only [here, beq_self_eq_true, if_neg gone]
        · rw [beq_eq_false_iff_ne.mpr here]

/-- Taking a key out of the map takes no value with it but the one under that key. -/
theorem mem_values_erase_or_find? {m : OrderedMap α} {x : α} (key : String) (mem : x ∈ m.values) :
    x ∈ (m.erase key).values ∨ m.find? key = some x := by
  have nodup := m.nodup
  simp only [values, erase, find?] at *
  generalize m.entries = entries at mem nodup
  induction entries with
  | nil => simp at mem
  | cons entry rest inductionHypothesis =>
      rcases entry with ⟨k, v⟩
      by_cases here : k = key
      · subst here
        rcases List.mem_cons.mp mem with head | tail
        · exact Or.inr (by simp [head])
        · left
          have absent : ∀ pair ∈ rest, pair.1 ≠ k := fun pair inRest same =>
            (List.nodup_cons.mp nodup).1 (List.mem_map.mpr ⟨pair, inRest, same⟩)
          have kept : rest.filter (fun pair => pair.1 != k) = rest :=
            List.filter_eq_self.mpr fun pair inRest => by simpa using absent pair inRest
          simpa [kept] using tail
      · have differs : (key == k) = false := by simpa using Ne.symm here
        have stays : (k != key) = true := by simpa using here
        rw [List.filter_cons_of_pos (by simpa using here), List.lookup_cons, differs]
        rcases List.mem_cons.mp mem with head | tail
        · exact Or.inl (by simp [head])
        · rcases inductionHypothesis tail (List.nodup_cons.mp nodup).2 with kept | removed
          · exact Or.inl (List.mem_cons_of_mem _ kept)
          · exact Or.inr removed

/-- What is found under a key is what its entry holds. -/
theorem find?_eq_some_iff {m : OrderedMap α} {key : String} {value : α} :
    m.find? key = some value ↔ (key, value) ∈ m.entries := by
  have nodup := m.nodup
  simp only [find?]
  generalize m.entries = entries at nodup ⊢
  induction entries with
  | nil => simp
  | cons entry rest inductionHypothesis =>
      rcases entry with ⟨k, v⟩
      obtain ⟨notInRest, nodupRest⟩ := List.nodup_cons.mp nodup
      rw [List.lookup_cons, List.mem_cons, Prod.mk.injEq]
      by_cases here : key = k
      · have absent : (key, value) ∉ rest := fun mem =>
          notInRest (List.mem_map.mpr ⟨(key, value), mem, here⟩)
        simp [here, here ▸ absent, eq_comm]
      · have differs : (key == k) = false := by simpa using here
        rw [differs]
        simpa [here] using inductionHypothesis nodupRest

/-- The values are those that are found. -/
theorem mem_values_iff {m : OrderedMap α} {x : α} : x ∈ m.values ↔ ∃ key, m.find? key = some x := by
  constructor
  · intro mem
    obtain ⟨⟨key, value⟩, inMap, rfl⟩ := List.mem_map.mp mem
    exact ⟨key, find?_eq_some_iff.mpr inMap⟩
  · rintro ⟨key, found⟩
    exact mem_values_of_find? found

/-- A map contains what can be found in it. -/
theorem contains_eq (m : OrderedMap α) (key : String) : m.contains key = (m.find? key).isSome := by
  simp only [contains, find?]
  generalize m.entries = entries
  induction entries with
  | nil => rfl
  | cons entry rest inductionHypothesis =>
      rcases entry with ⟨k, v⟩
      rw [List.any_cons, List.lookup_cons, inductionHypothesis]
      by_cases here : key = k
      · simp [here]
      · have differs : (key == k) = false := by simpa using here
        have differs' : (k == key) = false := by simpa using Ne.symm here
        simp only [differs, differs', Bool.false_or]

/-- Its keys are what it contains. -/
theorem mem_keys_iff {m : OrderedMap α} {key : String} : key ∈ m.keys ↔ m.contains key := by
  simp [keys, contains]

/-- What is found after pairs were written, no two of them under the same key. -/
private theorem find?_foldl_insert {pairs : List (String × α)} (nodup : (pairs.map Prod.fst).Nodup)
    (m : OrderedMap α) (key : String) :
    (pairs.foldl (fun m pair => m.insert pair.1 pair.2) m).find? key =
      (pairs.lookup key).or (m.find? key) := by
  induction pairs generalizing m with
  | nil => rfl
  | cons pair rest inductionHypothesis =>
      rcases pair with ⟨k, v⟩
      obtain ⟨notInRest, nodupRest⟩ := List.nodup_cons.mp nodup
      rw [List.foldl_cons, inductionHypothesis nodupRest, find?_insert, List.lookup_cons]
      by_cases here : key = k
      · have absent : rest.lookup k = none := by
          rw [List.lookup_eq_none_iff]
          intro pair mem
          simpa using fun same => notInRest (List.mem_map.mpr ⟨pair, mem, same.symm⟩)
        simp [here, absent]
      · have differs : (key == k) = false := by simpa using here
        simp only [differs, if_neg here]

/-- The keys after pairs were written, no two of them under the same key and none under a key that was there. -/
private theorem keys_foldl_insert {pairs : List (String × α)} {m : OrderedMap α}
    (nodup : (m.keys ++ pairs.map Prod.fst).Nodup) :
    (pairs.foldl (fun m pair => m.insert pair.1 pair.2) m).keys = m.keys ++ pairs.map Prod.fst := by
  induction pairs generalizing m with
  | nil => exact (List.append_nil _).symm
  | cons pair rest inductionHypothesis =>
      have isNew : pair.1 ∉ m.keys := fun mem =>
        (List.nodup_append.mp nodup).2.2 pair.1 mem pair.1 List.mem_cons_self rfl
      have written : (m.insert pair.1 pair.2).keys = m.keys ++ [pair.1] := by
        rw [keys, insert, map_fst_putEntry]
        exact if_neg isNew
      have together : (m.insert pair.1 pair.2).keys ++ rest.map Prod.fst =
          m.keys ++ (pair :: rest).map Prod.fst := by
        rw [written, List.append_assoc, List.singleton_append, List.map_cons]
      rw [List.foldl_cons, inductionHypothesis (together ▸ nodup), together]

/-- The keys of a map from pairs that name no key twice. -/
theorem keys_ofList {pairs : List (String × α)} (nodup : (pairs.map Prod.fst).Nodup) :
    (ofList pairs).keys = pairs.map Prod.fst :=
  keys_foldl_insert nodup

/-- The order of the entries makes no difference to what is found. -/
theorem find?_eq_of_perm {m m' : OrderedMap α} (perm : m.entries.Perm m'.entries) : m.find? = m'.find? := by
  funext key
  apply Option.ext
  intro value
  rw [find?_eq_some_iff, find?_eq_some_iff]
  exact perm.mem_iff

/-- The order of the entries does not matter for what a map contains. -/
theorem contains_eq_of_perm {m m' : OrderedMap α} (perm : m.entries.Perm m'.entries) : m.contains = m'.contains := by
  funext key
  rw [contains_eq, contains_eq, find?_eq_of_perm perm]

/-- A map from pairs finds what the list finds. -/
theorem find?_ofList {pairs : List (String × α)} (nodup : (pairs.map Prod.fst).Nodup)
    (key : String) : (ofList pairs).find? key = pairs.lookup key := by
  rw [ofList, find?_foldl_insert nodup]
  exact Option.or_none

/-! ### Changing all values -/

variable {β : Type}

/-- The map with every value changed, each under its key. -/
def mapValues (f : α → β) (m : OrderedMap α) : OrderedMap β :=
  ⟨m.entries.map fun entry => (entry.1, f entry.2), by simpa [List.map_map, Function.comp_def] using m.nodup⟩

variable (f : α → β) (m : OrderedMap α)

@[simp] theorem find?_mapValues (key : String) : (m.mapValues f).find? key = (m.find? key).map f := by
  simp only [find?, mapValues]
  induction m.entries with
  | nil => rfl
  | cons entry rest inductionHypothesis =>
      obtain ⟨other, value⟩ := entry
      simp only [List.map_cons, List.lookup_cons, inductionHypothesis]
      cases key == other <;> rfl

@[simp] theorem keys_mapValues : (m.mapValues f).keys = m.keys := by
  simp [keys, mapValues]

@[simp] theorem values_mapValues : (m.mapValues f).values = m.values.map f := by
  simp [values, mapValues]

@[simp] theorem size_mapValues : (m.mapValues f).size = m.size := by
  simp [size, mapValues]

@[simp] theorem contains_mapValues (key : String) : (m.mapValues f).contains key = m.contains key := by
  rw [contains_eq, contains_eq, find?_mapValues, Option.isSome_map]

variable {m f}

/-- Where the value of a key is replaced by one that comes to the same, all values do. -/
theorem mapValues_insert {key : String} {old value : α} (found : m.find? key = some old) (same : f value = f old) :
    (m.insert key value).mapValues f = m.mapValues f := by
  have entries : ∀ entries : List (String × α), entries.lookup key = some old →
      (putEntry key value entries).map (fun entry => (entry.1, f entry.2)) =
        entries.map fun entry => (entry.1, f entry.2) := by
    intro entries
    induction entries with
    | nil => exact nofun
    | cons entry rest inductionHypothesis =>
        obtain ⟨other, v⟩ := entry
        intro found
        rw [putEntry]
        split
        · next here =>
          rw [here, List.lookup_cons_self] at found
          rw [List.map_cons, List.map_cons, same, Option.some.inj found]
        · next differs =>
          have notHere : (key == other) = false := by simpa using Ne.symm differs
          rw [List.lookup_cons, notHere] at found
          rw [List.map_cons, List.map_cons, inductionHypothesis found]
  simp only [mapValues, insert, entries m.entries found]

end LiveTemplate.OrderedMap
