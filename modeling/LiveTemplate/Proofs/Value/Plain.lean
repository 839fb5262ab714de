import LiveTemplate.Value.Reader
import Mathlib.Data.List.Basic

/-!
Plain values: those that compact JSON keeps as they are.  Their numbers are whole and their containers do not nest too
deep; and the members of their objects are in order, as they are in every value that is read.
-/

namespace LiveTemplate.Value

/-! ### All that is in a value -/

mutual

/-- Whether a value and everything in it pass a test. -/
def all (test : Value → Bool) : Value → Bool
  | .array items => test (.array items) && allItems test items
  | .object members => test (.object members) && allMembers test members
  | v => test v

/-- Whether items and everything in them pass a test. -/
def allItems (test : Value → Bool) : List Value → Bool
  | [] => true
  | item :: rest => all test item && allItems test rest

/-- Whether the values of members and everything in them pass a test. -/
def allMembers (test : Value → Bool) : List (String × Value) → Bool
  | [] => true
  | (_, value) :: rest => all test value && allMembers test rest

end

mutual

/-- How deep containers nest in a value. -/
def nesting : Value → Nat
  | .array items => nestingOfItems items + 1
  | .object members => nestingOfMembers members + 1
  | _ => 0

/-- How deep containers nest in items. -/
def nestingOfItems : List Value → Nat
  | [] => 0
  | item :: rest => max (nesting item) (nestingOfItems rest)

/-- How deep containers nest in the values of members. -/
def nestingOfMembers : List (String × Value) → Nat
  | [] => 0
  | (_, value) :: rest => max (nesting value) (nestingOfMembers rest)

end

section

variable {test : Value → Bool} {depth : Nat}

theorem allItems_iff {items : List Value} : allItems test items ↔ ∀ item ∈ items, item.all test := by
  induction items with
  | nil => exact iff_of_true rfl nofun
  | cons item rest inductionHypothesis =>
      rw [allItems, Bool.and_eq_true, inductionHypothesis, List.forall_mem_cons]

theorem allMembers_iff {members : List (String × Value)} :
    allMembers test members ↔ ∀ member ∈ members, member.2.all test := by
  induction members with
  | nil => exact iff_of_true rfl nofun
  | cons member rest inductionHypothesis =>
      rw [allMembers, Bool.and_eq_true, inductionHypothesis, List.forall_mem_cons]

theorem nestingOfItems_le_iff {items : List Value} :
    nestingOfItems items ≤ depth ↔ ∀ item ∈ items, item.nesting ≤ depth := by
  induction items with
  | nil => exact iff_of_true (Nat.zero_le depth) nofun
  | cons item rest inductionHypothesis =>
      rw [nestingOfItems, Nat.max_le, inductionHypothesis, List.forall_mem_cons]

theorem nestingOfMembers_le_iff {members : List (String × Value)} :
    nestingOfMembers members ≤ depth ↔ ∀ member ∈ members, member.2.nesting ≤ depth := by
  induction members with
  | nil => exact iff_of_true (Nat.zero_le depth) nofun
  | cons member rest inductionHypothesis =>
      rw [nestingOfMembers, Nat.max_le, inductionHypothesis, List.forall_mem_cons]

end

/-- Whether the members of a value, if it has any, stand in ascending order of their keys, each key once. -/
def hasOrder : Value → Bool
  | .object members => decide (members.Pairwise fun a b => a.1 < b.1)
  | _ => true

/-- Whether a value is no number beyond the whole ones. -/
def isNoFloat : Value → Bool
  | .number (.float _) => false
  | _ => true

/-- A value as it is read: its objects are in order, and its containers nest at most `depth` deep. -/
structure IsFormed (depth : Nat) (v : Value) : Prop where
  ordered : v.all hasOrder
  shallow : v.nesting ≤ depth

/-- A value whose numbers are whole, besides. -/
structure IsPlain (depth : Nat) (v : Value) : Prop extends v.IsFormed depth where
  whole : v.all isNoFloat

instance (depth : Nat) (v : Value) : Decidable (v.IsPlain depth) :=
  decidable_of_iff (v.all hasOrder ∧ v.nesting ≤ depth ∧ v.all isNoFloat)
    ⟨fun ⟨ordered, shallow, whole⟩ => ⟨⟨ordered, shallow⟩, whole⟩,
      fun plain => ⟨plain.ordered, plain.shallow, plain.whole⟩⟩

namespace IsPlain

variable {depth : Nat}

/-- The items of an array are plain, and nest less deep. -/
theorem items {items : List Value} (plain : (Value.array items).IsPlain depth) :
    ∃ room, depth = room + 1 ∧ ∀ item ∈ items, item.IsPlain room := by
  obtain ⟨⟨ordered, shallow⟩, whole⟩ := plain
  simp only [all, isNoFloat, hasOrder, Bool.true_and, allItems_iff] at whole ordered
  simp only [nesting] at shallow
  obtain ⟨room, rfl⟩ : ∃ room, depth = room + 1 := ⟨depth - 1, by omega⟩
  have nested := nestingOfItems_le_iff.mp (Nat.le_of_succ_le_succ shallow)
  exact ⟨room, rfl, fun item mem => ⟨⟨ordered item mem, nested item mem⟩, whole item mem⟩⟩

/-- The members of an object are in order, and their values are plain and nest less deep. -/
theorem members {members : List (String × Value)} (plain : (Value.object members).IsPlain depth) :
    members.Pairwise (fun a b => a.1 < b.1) ∧
      ∃ room, depth = room + 1 ∧ ∀ member ∈ members, member.2.IsPlain room := by
  obtain ⟨⟨ordered, shallow⟩, whole⟩ := plain
  simp only [all, isNoFloat, Bool.true_and, allMembers_iff] at whole
  simp only [all, hasOrder, Bool.and_eq_true, decide_eq_true_eq, allMembers_iff] at ordered
  simp only [nesting] at shallow
  obtain ⟨room, rfl⟩ : ∃ room, depth = room + 1 := ⟨depth - 1, by omega⟩
  have nested := nestingOfMembers_le_iff.mp (Nat.le_of_succ_le_succ shallow)
  exact ⟨ordered.1, room, rfl, fun member mem => ⟨⟨ordered.2 member mem, nested member mem⟩, whole member mem⟩⟩

/-- A number that is plain is whole. -/
theorem number {n : Number} (plain : (Value.number n).IsPlain depth) : ∃ w, n = .whole w := by
  cases n with
  | whole w => exact ⟨w, rfl⟩
  | float x => cases plain.whole

end IsPlain

namespace IsFormed

variable {depth : Nat}

theorem array {items : List Value} (each : ∀ item ∈ items, item.IsFormed depth) :
    (Value.array items).IsFormed (depth + 1) where
  ordered := by
    rw [all, Bool.and_eq_true, allItems_iff]
    exact ⟨rfl, fun item mem => (each item mem).ordered⟩
  shallow := Nat.succ_le_succ (nestingOfItems_le_iff.mpr fun item mem => (each item mem).shallow)

theorem object {members : List (String × Value)} (ordered : members.Pairwise fun a b => a.1 < b.1)
    (each : ∀ member ∈ members, member.2.IsFormed depth) : (Value.object members).IsFormed (depth + 1) where
  ordered := by
    rw [all, Bool.and_eq_true, allMembers_iff]
    exact ⟨decide_eq_true ordered, fun member mem => (each member mem).ordered⟩
  shallow := Nat.succ_le_succ (nestingOfMembers_le_iff.mpr fun member mem => (each member mem).shallow)

end IsFormed

/-! ### What is read -/

theorem mem_insertMember {key : String} {value : Value} {members : List (String × Value)} {member : String × Value}
    (mem : member ∈ insertMember key value members) : member = (key, value) ∨ member ∈ members := by
  induction members with
  | nil => exact Or.inl (List.mem_singleton.mp mem)
  | cons first rest inductionHypothesis =>
      rw [insertMember] at mem
      split_ifs at mem
      · rcases List.mem_cons.mp mem with isNew | old
        · exact Or.inl isNew
        · exact Or.inr (List.mem_cons_of_mem _ old)
      · exact List.mem_cons.mp mem
      · rcases List.mem_cons.mp mem with isFirst | later
        · exact Or.inr (isFirst ▸ List.mem_cons_self)
        · exact (inductionHypothesis later).imp_right (List.mem_cons_of_mem _)

/-- A member is put where its key belongs. -/
theorem pairwise_insertMember (key : String) (value : Value) {members : List (String × Value)}
    (ordered : members.Pairwise fun a b => a.1 < b.1) :
    (insertMember key value members).Pairwise fun a b => a.1 < b.1 := by
  induction members with
  | nil => exact List.pairwise_singleton _ _
  | cons first rest inductionHypothesis =>
      obtain ⟨least, restOrdered⟩ := List.pairwise_cons.mp ordered
      rw [insertMember]
      split_ifs with same before
      · exact List.pairwise_cons.mpr ⟨same ▸ least, restOrdered⟩
      · refine List.pairwise_cons.mpr ⟨fun member mem => ?_, ordered⟩
        rcases List.mem_cons.mp mem with isFirst | later
        · exact isFirst ▸ before
        · exact String.lt_trans before (least member later)
      · have after : first.1 < key := Std.lt_of_le_of_ne (String.not_lt.mp before) (Ne.symm same)
        refine List.pairwise_cons.mpr ⟨fun member mem => ?_, inductionHypothesis restOrdered⟩
        rcases mem_insertMember mem with isNew | old
        · exact isNew ▸ after
        · exact least member old

/-- Members in whatever order make an object in order. -/
theorem IsFormed.ofMembers {depth : Nat} {members : List (String × Value)}
    (each : ∀ member ∈ members, member.2.IsFormed depth) : (Value.ofMembers members).IsFormed (depth + 1) := by
  have collected : ∀ rest done : List (String × Value), (∀ member ∈ rest, member.2.IsFormed depth) →
      done.Pairwise (fun a b => a.1 < b.1) → (∀ member ∈ done, member.2.IsFormed depth) →
      (Value.object (rest.foldl (fun done member => insertMember member.1 member.2 done) done)).IsFormed
        (depth + 1) := by
    intro rest
    induction rest with
    | nil => exact fun done _ ordered formed => .object ordered formed
    | cons member rest inductionHypothesis =>
        intro done each ordered formed
        obtain ⟨first, others⟩ := List.forall_mem_cons.mp each
        refine inductionHypothesis _ others (pairwise_insertMember _ _ ordered) fun other mem => ?_
        rcases mem_insertMember mem with isNew | old
        · exact isNew ▸ first
        · exact formed other old
  exact collected members [] each .nil nofun

section Reading

variable {fuel depth : Nat} {s rest : List Char}

/-- What a value was read from: no container, an array of items, or an object of members. -/
theorem readValue_cases {v : Value} (read : readValue (fuel + 1) depth s = some (v, rest)) :
    v.IsFormed 0 ∨ ∃ room, depth = room + 1 ∧
      ((∃ items s', v = .array items ∧ (items = [] ∨ readItems fuel room s' = some (items, rest))) ∨
        ∃ members s', v = Value.ofMembers members ∧
          (members = [] ∨ readMembers fuel room s' = some (members, rest))) := by
  rw [readValue] at read
  split at read
  · cases read
  · split_ifs at read
    · obtain ⟨_, _, isValue⟩ := Option.bind_eq_some_iff.mp read
      cases isValue
      exact Or.inl ⟨rfl, Nat.le_refl 0⟩
    · obtain ⟨_, _, isValue⟩ := Option.bind_eq_some_iff.mp read
      cases isValue
      exact Or.inl ⟨rfl, Nat.le_refl 0⟩
    · obtain ⟨_, _, isValue⟩ := Option.bind_eq_some_iff.mp read
      cases isValue
      exact Or.inl ⟨rfl, Nat.le_refl 0⟩
    · obtain ⟨_, _, isValue⟩ := Option.bind_eq_some_iff.mp read
      cases isValue
      exact Or.inl ⟨rfl, Nat.le_refl 0⟩
    · split at read
      · cases read
      · next room =>
        refine Or.inr ⟨room, rfl, Or.inl ?_⟩
        split at read
        · cases read
          exact ⟨[], [], rfl, Or.inl rfl⟩
        · obtain ⟨⟨items, _⟩, readItems, isValue⟩ := Option.bind_eq_some_iff.mp read
          cases isValue
          exact ⟨items, _, rfl, Or.inr readItems⟩
    · split at read
      · cases read
      · next room =>
        refine Or.inr ⟨room, rfl, Or.inr ?_⟩
        split at read
        · cases read
          exact ⟨[], [], rfl, Or.inl rfl⟩
        · obtain ⟨⟨members, _⟩, readMembers, isValue⟩ := Option.bind_eq_some_iff.mp read
          cases isValue
          exact ⟨members, _, rfl, Or.inr readMembers⟩
    · obtain ⟨_, _, isValue⟩ := Option.bind_eq_some_iff.mp read
      cases isValue
      exact Or.inl ⟨rfl, Nat.le_refl 0⟩

theorem readItems_cases {items : List Value} (read : readItems (fuel + 1) depth s = some (items, rest)) :
    ∃ item later s', readValue fuel depth s = some (item, s') ∧ items = item :: later ∧
      (later = [] ∨ ∃ next, readItems fuel depth next = some (later, rest)) := by
  rw [readItems] at read
  obtain ⟨⟨item, s'⟩, readItem, read⟩ := Option.bind_eq_some_iff.mp read
  simp only at read
  split at read
  · obtain ⟨⟨later, _⟩, readLater, isList⟩ := Option.bind_eq_some_iff.mp read
    cases isList
    exact ⟨item, later, s', readItem, rfl, Or.inr ⟨_, readLater⟩⟩
  · cases read
    exact ⟨item, [], s', readItem, rfl, Or.inl rfl⟩
  · cases read

theorem readMembers_cases {members : List (String × Value)}
    (read : readMembers (fuel + 1) depth s = some (members, rest)) :
    ∃ key value later s' s'', readValue fuel depth s' = some (value, s'') ∧ members = (key, value) :: later ∧
      (later = [] ∨ ∃ next, readMembers fuel depth next = some (later, rest)) := by
  rw [readMembers] at read
  split at read
  · obtain ⟨⟨key, s'⟩, readKey, read⟩ := Option.bind_eq_some_iff.mp read
    simp only at read
    split at read
    · obtain ⟨⟨value, s''⟩, readItem, read⟩ := Option.bind_eq_some_iff.mp read
      simp only at read
      split at read
      · obtain ⟨⟨later, _⟩, readLater, isList⟩ := Option.bind_eq_some_iff.mp read
        cases isList
        exact ⟨_, value, later, _, s'', readItem, rfl, Or.inr ⟨_, readLater⟩⟩
      · cases read
        exact ⟨_, value, [], _, s'', readItem, rfl, Or.inl rfl⟩
      · cases read
    · cases read
  · cases read

end Reading

/-- Whatever is read is formed. -/
theorem isFormed_of_read (fuel : Nat) :
    (∀ {depth s v rest}, readValue fuel depth s = some (v, rest) → v.IsFormed depth) ∧
    (∀ {depth s items rest}, readItems fuel depth s = some (items, rest) →
      ∀ item ∈ items, item.IsFormed depth) ∧
    ∀ {depth s members rest}, readMembers fuel depth s = some (members, rest) →
      ∀ member ∈ members, member.2.IsFormed depth := by
  induction fuel with
  | zero => exact ⟨nofun, nofun, nofun⟩
  | succ fuel inductionHypothesis =>
      obtain ⟨ofValue, ofItems, ofMembers⟩ := inductionHypothesis
      refine ⟨?_, ?_, ?_⟩
      · intro depth s v rest read
        rcases readValue_cases read with scalar | ⟨room, rfl, ⟨items, s', rfl, isEmpty | read⟩ |
          ⟨members, s', rfl, isEmpty | read⟩⟩
        · exact ⟨scalar.ordered, Nat.le_trans scalar.shallow (Nat.zero_le depth)⟩
        · exact .array (isEmpty ▸ nofun)
        · exact .array (ofItems read)
        · exact .ofMembers (isEmpty ▸ nofun)
        · exact .ofMembers (ofMembers read)
      · intro depth s items rest read
        obtain ⟨item, later, s', first, rfl, isEmpty | ⟨next, read⟩⟩ := readItems_cases read
        · exact List.forall_mem_cons.mpr ⟨ofValue first, isEmpty ▸ nofun⟩
        · exact List.forall_mem_cons.mpr ⟨ofValue first, ofItems read⟩
      · intro depth s members rest read
        obtain ⟨key, value, later, s', s'', first, rfl, isEmpty | ⟨next, read⟩⟩ := readMembers_cases read
        · exact List.forall_mem_cons.mpr ⟨ofValue first, isEmpty ▸ nofun⟩
        · exact List.forall_mem_cons.mpr ⟨ofValue first, ofMembers read⟩

/-- A value that is read is plain if its numbers are whole. -/
theorem isPlain_of_read? {text : String} {v : Value} (read : read? text = some v) (whole : v.all isNoFloat) :
    v.IsPlain maxNesting := by
  obtain ⟨⟨v', rest⟩, readValue, isValue⟩ := Option.bind_eq_some_iff.mp read
  simp only at isValue
  split_ifs at isValue
  obtain rfl := Option.some.inj isValue
  exact ⟨(isFormed_of_read _).1 readValue, whole⟩

end LiveTemplate.Value
