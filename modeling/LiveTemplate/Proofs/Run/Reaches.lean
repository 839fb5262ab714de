import LiveTemplate.Proofs.World.Composed
import LiveTemplate.World.Perform
import Mathlib.Logic.Relation

/-!
How a run goes on: a world changes, an entry is made in the journal, a deed is done, or a value is stored.
An entry is made only where it is allowed, and this is where the journal's meaning comes from: a binding is
re-evaluated only while it is active, a callback is called only with what an evaluation has just come to,
and where filters do nothing but compute, this is what its active binding is composed to at that moment.

The relation does not say which moves user code makes, only that it makes no others; so what holds along it
holds for every program.
-/

namespace LiveTemplate

/-- Whether a step is one of those that accounts are kept of. -/
def Step.isDeed : Step → Bool
  | .subscribe .. | .unsubscribe .. | .registerFilter .. | .usePlugin .. => true
  | _ => false

/-- When an entry of a move can be made.  A stored value and a deed have entries of their own. -/
def World.Allows (w : World) : Occurrence → Prop
  | .called l _ _ value => w.FiltersQuiet → ∀ b < w.bindings.size, (w.binding b).listener = l →
      (w.binding b).isActive ∧ w.composed b = some value
  | .refreshed b => (w.binding b).isActive
  | .nested step outcome => step.isDeed → ∀ answer, outcome ≠ .ok answer
  | .stored .. => False
  | .notified .. | .filtered .. => True

namespace Run

/-- The run with one more entry. -/
def note (r : Run) (occurrence : Occurrence) : Run :=
  ⟨r.world, r.journal.push ⟨occurrence, r.world⟩⟩

/-- The run in another world. -/
def turn (r : Run) (w : World) : Run :=
  ⟨w, r.journal⟩

@[simp] theorem world_note (r : Run) (o : Occurrence) : (r.note o).world = r.world := rfl

@[simp] theorem journal_note (r : Run) (o : Occurrence) :
    (r.note o).journal = r.journal.push ⟨o, r.world⟩ := rfl

@[simp] theorem world_turn (r : Run) (w : World) : (r.turn w).world = w := rfl

@[simp] theorem journal_turn (r : Run) (w : World) : (r.turn w).journal = r.journal := rfl

end Run

/-- What the template of a binding is evaluated with. -/
def Binding.scope (x : Binding) : Scope :=
  ⟨x.registry, x.sources, x.viewLabel⟩

/-- The evaluation of an active binding that is told that a source was set. -/
def reevaluate (perform : Perform) (b : BindingId) (r : Run) :
    Except InterpolateError Value × Run :=
  evaluate perform (r.world.binding b).scope (r.world.binding b).template (r.note (.refreshed b))

namespace Run

/-- A callback is about to be called with the value that an evaluation has just come to. -/
inductive Evaluated (r : Run) (l : ListenerId) (value : Value) : Prop where
  /-- An active binding that has the callback was evaluated again. -/
  | again (room : Nat) (began evaluated : Run) (b : BindingId) (sound : began.world.Sound)
      (active : (began.world.binding b).isActive) (own : (began.world.binding b).listener = l)
      (result : reevaluate (performAll (performAt room)) b began = (.ok value, evaluated))
      (calling : r = evaluated.turn (evaluated.world.countListenerCall l))
  /-- A template was evaluated that is about to be bound to a new callback. -/
  | first (room : Nat) (began evaluated : Run) (scope : Scope) (template : Template) (label : String)
      (reactions : List (Reaction Step)) (sound : began.world.Sound)
      (result : evaluate (performAll (performAt room)) scope template began = (.ok value, evaluated))
      (new : l = evaluated.world.listeners.size)
      (calling : r = evaluated.turn ((evaluated.world.addListener label reactions).2.countListenerCall l))

/-- When an entry of a move can be made in the course of a run. -/
structure Allows (r : Run) (o : Occurrence) : Prop where
  world : r.world.Allows o
  evaluated : ∀ l label call value, o = .called l label call value → r.Evaluated l value

/-- The entries that were made since an earlier run. -/
def since (r' r : Run) : List Moment :=
  r'.journal.toList.drop r.journal.size

/-- A move other than storing a value. -/
inductive Move (r : Run) : Run → Prop where
  | change {w' : World} (change : World.Change r.world w') : Move r (r.turn w')
  | entry {occurrence : Occurrence} (allowed : r.Allows occurrence) :
      Move r (r.note occurrence)
  | deed {step : Step} {answer : Answer} {w' : World} (deed : World.Deed r.world step answer w') :
      Move r ((r.turn w').note (.nested step (.ok answer)))

/-- The run right after a value was stored, when the subscribers are about to be told. -/
def stored (r : Run) (c : ContainerId) (key : String) (value : Value) : Run :=
  let w := r.world.store c key value
  (r.turn w).note (.stored c key value (w.subscribersTo c key))

/-- One move. -/
inductive Next (r : Run) : Run → Prop where
  | move {r' : Run} (move : Move r r') : Next r r'
  | store (c : ContainerId) (key : String) (value : Value) : Next r (r.stored c key value)

/-- Any number of moves. -/
abbrev Reaches : Run → Run → Prop :=
  Relation.ReflTransGen Next

variable {r r' : Run}

theorem since_of_eq (same : r'.journal = r.journal) : r'.since r = [] := by
  rw [since, same, ← Array.length_toList, List.drop_length]

theorem since_of_append {entries : List Moment} (longer : r'.journal.toList = r.journal.toList ++ entries) :
    r'.since r = entries := by
  rw [since, longer, ← Array.length_toList, List.drop_left]

theorem since_of_push {m : Moment} (pushed : r'.journal = r.journal.push m) : r'.since r = [m] := by
  rw [since, pushed, Array.toList_push, ← Array.length_toList, List.drop_left]

/-- The entries that were made since are those that stand behind. -/
theorem mem_since {m : Moment} :
    m ∈ r'.since r ↔ ∃ i, r.journal.size ≤ i ∧ r'.journal[i]? = some m := by
  rw [List.mem_iff_getElem?]
  constructor
  · rintro ⟨i, found⟩
    simp only [since, List.getElem?_drop, Array.getElem?_toList] at found
    exact ⟨r.journal.size + i, Nat.le_add_right _ _, found⟩
  · rintro ⟨i, later, found⟩
    refine ⟨i - r.journal.size, ?_⟩
    simp only [since, List.getElem?_drop, Nat.add_sub_of_le later, Array.getElem?_toList]
    exact found

/-- Each step of a relation makes one entry, in the world that it leads to, or none. -/
def Stepwise (goes : Run → Run → Prop) : Prop :=
  ∀ ⦃r r' : Run⦄, goes r r' → r'.journal = r.journal ∨ ∃ o, r'.journal = r.journal.push ⟨o, r'.world⟩

namespace Stepwise

variable {goes : Run → Run → Prop}

/-- The journal only gets longer. -/
theorem journal (stepwise : Stepwise goes) (steps : Relation.ReflTransGen goes r r') :
    ∃ later, r'.journal.toList = r.journal.toList ++ later := by
  induction steps with
  | refl => exact ⟨[], (List.append_nil _).symm⟩
  | tail _ step inductionHypothesis =>
      obtain ⟨later, isLonger⟩ := inductionHypothesis
      rcases stepwise step with same | ⟨o, pushed⟩
      · exact ⟨later, by rw [same, isLonger]⟩
      · exact ⟨later ++ [_], by rw [pushed, Array.toList_push, isLonger, List.append_assoc]⟩

/-- The step that made an entry, on the way from a run before it to a run after it. -/
theorem at_moment (stepwise : Stepwise goes) (steps : Relation.ReflTransGen goes r r') {i : Nat}
    {m : Moment} (later : r.journal.size ≤ i) (found : r'.journal[i]? = some m) :
    ∃ before after, Relation.ReflTransGen goes r before ∧ goes before after ∧
      Relation.ReflTransGen goes after r' ∧
      before.journal.size = i ∧ after.journal = before.journal.push m ∧ after.world = m.world := by
  induction steps with
  | refl =>
      rw [Array.getElem?_eq_none later] at found
      cases found
  | @tail middle last toMiddle step inductionHypothesis =>
      rcases stepwise step with same | ⟨o, pushed⟩
      · rw [same] at found
        obtain ⟨before, after, toBefore, made, fromAfter, rest⟩ := inductionHypothesis found
        exact ⟨before, after, toBefore, made, fromAfter.tail step, rest⟩
      · by_cases isLast : i = middle.journal.size
        · rw [pushed, isLast, Array.getElem?_push_size] at found
          rw [← Option.some.inj found]
          exact ⟨middle, last, toMiddle, step, .refl, isLast.symm, pushed, rfl⟩
        · rw [pushed, Array.getElem?_push, if_neg isLast] at found
          obtain ⟨before, after, toBefore, made, fromAfter, rest⟩ := inductionHypothesis found
          exact ⟨before, after, toBefore, made, fromAfter.tail step, rest⟩

/-- The run as it was when an entry had just been made. -/
theorem upTo_moment (stepwise : Stepwise goes) (steps : Relation.ReflTransGen goes r r') {i : Nat}
    {m : Moment} (later : r.journal.size ≤ i) (found : r'.journal[i]? = some m) :
    ∃ middle, Relation.ReflTransGen goes r middle ∧ Relation.ReflTransGen goes middle r' ∧
      middle.world = m.world ∧ middle.journal.toList = r'.journal.toList.take (i + 1) := by
  obtain ⟨before, after, toBefore, step, fromAfter, position, pushed, world⟩ :=
    stepwise.at_moment steps later found
  refine ⟨after, toBefore.tail step, fromAfter, world, ?_⟩
  obtain ⟨rest, isLonger⟩ := stepwise.journal fromAfter
  have length : after.journal.toList.length = i + 1 := by
    simp only [Array.length_toList, pushed, Array.size_push, position]
  rw [isLonger, ← length, List.take_left]

end Stepwise

namespace Move

theorem sound (move : Move r r') (sound : r.world.Sound) : r'.world.Sound := by
  cases move with
  | change change => exact sound.change change
  | entry => exact sound
  | deed deed => exact sound.deed deed

theorem grows (move : Move r r') : World.Grows r.world r'.world := by
  cases move with
  | change change => exact change.grows
  | entry => exact .refl _
  | deed deed => exact deed.grows

end Move

namespace Next

theorem sound (next : Next r r') (sound : r.world.Sound) : r'.world.Sound := by
  cases next with
  | move move => exact move.sound sound
  | store c key value => exact sound.store c key value

theorem grows (next : Next r r') : World.Grows r.world r'.world := by
  cases next with
  | move move => exact move.grows
  | store c key value => exact .store _ c key value

/-- A move makes one entry, in the world that it leads to, or none. -/
theorem stepwise : Stepwise Next := by
  intro r r' next
  cases next with
  | move move =>
      cases move with
      | change => exact Or.inl rfl
      | entry => exact Or.inr ⟨_, rfl⟩
      | deed => exact Or.inr ⟨_, rfl⟩
  | store => exact Or.inr ⟨_, rfl⟩

/-- What a move was that made a given entry. -/
theorem of_push (next : Next r r') {m : Moment} (pushed : r'.journal = r.journal.push m) :
    m.world = r'.world ∧
      ((r.Allows m.occurrence ∧ r'.world = r.world) ∨
        (∃ step answer, m.occurrence = .nested step (.ok answer) ∧
          World.Deed r.world step answer r'.world) ∨
        ∃ c key value,
          m.occurrence = .stored c key value (r'.world.subscribersTo c key) ∧
            r'.world = r.world.store c key value) := by
  cases next with
  | move move =>
      cases move with
      | change =>
          have size := congrArg Array.size pushed
          simp at size
      | entry allowed =>
          rw [← Array.back_eq_of_push_eq pushed]
          exact ⟨rfl, Or.inl ⟨allowed, rfl⟩⟩
      | deed deed =>
          rw [← Array.back_eq_of_push_eq pushed]
          exact ⟨rfl, Or.inr (Or.inl ⟨_, _, rfl, deed⟩)⟩
  | store c key value =>
      rw [← Array.back_eq_of_push_eq pushed]
      exact ⟨rfl, Or.inr (Or.inr ⟨c, key, value, rfl, rfl⟩)⟩

end Next

namespace Reaches

theorem sound (reaches : Reaches r r') (sound : r.world.Sound) : r'.world.Sound := by
  induction reaches with
  | refl => exact sound
  | tail _ next inductionHypothesis => exact next.sound inductionHypothesis

theorem grows (reaches : Reaches r r') : World.Grows r.world r'.world := by
  induction reaches with
  | refl => exact .refl _
  | tail _ next inductionHypothesis => exact inductionHypothesis.trans next.grows

/-- Changes are moves. -/
theorem of_changes {w : World} (changes : Relation.ReflTransGen World.Change r.world w) :
    Reaches r (r.turn w) := by
  induction changes with
  | refl => exact .refl
  | tail _ change inductionHypothesis => exact inductionHypothesis.tail (.move (.change change))

/-- The journal only gets longer. -/
theorem journal (reaches : Reaches r r') :
    ∃ later, r'.journal.toList = r.journal.toList ++ later :=
  Next.stepwise.journal reaches

/-- The journal as it was before. -/
theorem take_journal (reaches : Reaches r r') :
    r'.journal.toList.take r.journal.size = r.journal.toList := by
  obtain ⟨later, isLonger⟩ := reaches.journal
  rw [isLonger, ← Array.length_toList, List.take_left]

theorem size_journal_le (reaches : Reaches r r') : r.journal.size ≤ r'.journal.size := by
  obtain ⟨later, isLonger⟩ := reaches.journal
  rw [← Array.length_toList, ← Array.length_toList, isLonger, List.length_append]
  exact Nat.le_add_right _ _

/-- An entry that was made stays. -/
theorem getElem?_journal (reaches : Reaches r r') {i : Nat} (before : i < r.journal.size) :
    r'.journal[i]? = r.journal[i]? := by
  obtain ⟨later, isLonger⟩ := reaches.journal
  rw [← Array.getElem?_toList, ← Array.getElem?_toList, isLonger]
  exact List.getElem?_append_left (by simpa using before)

/-- The move that made an entry, on the way from a run before it to a run after it. -/
theorem at_moment (reaches : Reaches r r') {i : Nat} {m : Moment} (later : r.journal.size ≤ i)
    (found : r'.journal[i]? = some m) :
    ∃ before after, Reaches r before ∧ Next before after ∧ Reaches after r' ∧
      before.journal.size = i ∧ after.journal = before.journal.push m ∧ after.world = m.world :=
  Next.stepwise.at_moment reaches later found

/-- The run as it was when an entry had just been made. -/
theorem upTo_moment (reaches : Reaches r r') {i : Nat} {m : Moment} (later : r.journal.size ≤ i)
    (found : r'.journal[i]? = some m) :
    ∃ middle, Reaches r middle ∧ Reaches middle r' ∧ middle.world = m.world ∧
      middle.journal.toList = r'.journal.toList.take (i + 1) :=
  Next.stepwise.upTo_moment reaches later found

/-- The runs at two moments, on the way from a run before them to a run after them. -/
theorem between (reaches : Reaches r r') {i j : Nat} {m m' : Moment} (later : r.journal.size ≤ i)
    (order : i ≤ j) (found : r'.journal[i]? = some m) (found' : r'.journal[j]? = some m') :
    ∃ first second, Reaches r first ∧ Reaches first second ∧ first.world = m.world ∧
      second.world = m'.world := by
  obtain ⟨second, toSecond, _, world', journal'⟩ :=
    reaches.upTo_moment (Nat.le_trans later order) found'
  have foundBefore : second.journal[i]? = some m := by
    rw [← Array.getElem?_toList, journal', List.getElem?_take_of_lt (Nat.lt_succ_of_le order),
      Array.getElem?_toList]
    exact found
  obtain ⟨first, toFirst, fromFirst, world, _⟩ := toSecond.upTo_moment later foundBefore
  exact ⟨first, second, toFirst, fromFirst, world, world'⟩

/-- The journal is what it was, and the entries since then. -/
theorem journal_eq (reaches : Reaches r r') :
    r'.journal.toList = r.journal.toList ++ r'.since r := by
  conv => lhs; rw [← List.take_append_drop r.journal.size r'.journal.toList, reaches.take_journal]
  rfl

theorem since_trans {r'' : Run} (first : Reaches r r') (second : Reaches r' r'') :
    r''.since r = r'.since r ++ r''.since r' := by
  have whole : Reaches r r'' := first.trans second
  have split := second.journal_eq
  rw [whole.journal_eq, first.journal_eq, List.append_assoc] at split
  exact List.append_cancel_left split

/-- A run with an entry is one that was left right after the entry was made. -/
theorem split_since (reaches : Reaches r r') {earlier later : List Moment} {m : Moment}
    (split : r'.since r = earlier ++ m :: later) :
    ∃ middle, Reaches r middle ∧ Reaches middle r' ∧ middle.world = m.world ∧
      middle.since r = earlier ++ [m] ∧ r'.since middle = later := by
  have whole : r'.journal.toList = (r.journal.toList ++ earlier) ++ m :: later := by
    rw [reaches.journal_eq, split, List.append_assoc]
  have length : (r.journal.toList ++ earlier).length = r.journal.size + earlier.length := by
    rw [List.length_append, Array.length_toList]
  have found : r'.journal[r.journal.size + earlier.length]? = some m := by
    rw [← Array.getElem?_toList, whole, ← length, List.getElem?_append_right (Nat.le_refl _),
      Nat.sub_self, List.getElem?_cons_zero]
  obtain ⟨middle, toMiddle, fromMiddle, world, journal⟩ :=
    reaches.upTo_moment (Nat.le_add_right _ _) found
  rw [whole, ← length, List.take_length_add_append] at journal
  refine ⟨middle, toMiddle, fromMiddle, world, ?_, ?_⟩
  · rw [toMiddle.journal_eq, List.append_assoc] at journal
    exact List.append_cancel_left journal
  · have rest := fromMiddle.journal_eq
    rw [whole, journal, List.append_assoc _ _ (r'.since middle)] at rest
    exact (List.cons.inj (List.append_cancel_left rest)).2.symm

/-- Everything is still there that was there when an entry was made. -/
theorem grows_moment (reaches : Reaches r r') {m : Moment} (mem : m ∈ r'.since r) :
    World.Grows m.world r'.world := by
  obtain ⟨earlier, later, split⟩ := List.append_of_mem mem
  obtain ⟨middle, _, fromMiddle, world, _⟩ := reaches.split_since split
  rw [← world]
  exact fromMiddle.grows

/-- An entry is made where everything is that there was before. -/
theorem grows_to_moment (reaches : Reaches r r') {m : Moment} (mem : m ∈ r'.since r) :
    World.Grows r.world m.world := by
  obtain ⟨earlier, later, split⟩ := List.append_of_mem mem
  obtain ⟨middle, toMiddle, _, world, _⟩ := reaches.split_since split
  rw [← world]
  exact toMiddle.grows

/-- An entry is made only in a world that allows it, deeds and stored values apart. -/
theorem allows (reaches : Reaches r r') {i : Nat} {m : Moment} (later : r.journal.size ≤ i)
    (found : r'.journal[i]? = some m) (notStored : ∀ c key value subscribers,
      m.occurrence ≠ .stored c key value subscribers)
    (notNested : ∀ step outcome, m.occurrence ≠ .nested step outcome) :
    m.world.Allows m.occurrence := by
  obtain ⟨before, after, _, next, _, _, pushed, world⟩ := reaches.at_moment later found
  rcases (next.of_push pushed).2 with ⟨allowed, same⟩ | ⟨step, answer, isDeed, _⟩ |
    ⟨c, key, value, isStored, _⟩
  · rw [← world, same]
    exact allowed.world
  · exact absurd isDeed (notNested _ _)
  · exact absurd isStored (notStored _ _ _ _)

end Reaches

end Run

end LiveTemplate
