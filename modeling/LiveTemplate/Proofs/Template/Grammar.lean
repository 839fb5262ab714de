import LiveTemplate.Template.Basic
import Mathlib.Data.List.Chain
import Mathlib.Data.List.TakeWhile

/-!
The grammar of placeholders, and that templates are read by it.  A name is ended by a blank, a bar or a brace,
so the reader never has a choice and what it reads is what the grammar derives.  Inside a placeholder there is
no opening brace after the first two, so no placeholder begins inside another one, and the search from the left
finds all of them.
-/

namespace LiveTemplate

/-! ### The grammar -/

/-- Blanks, any number of them. -/
def IsBlanks (s : List Char) : Prop :=
  ∀ c ∈ s, Text.isBlank c

/-- A name between blanks. -/
def IsToken (name : String) (s : List Char) : Prop :=
  ∃ before after, IsBlanks before ∧ isName name ∧ IsBlanks after ∧ s = before ++ name.toList ++ after

/-- Filters, each behind a bar. -/
inductive IsFilters : List String → List Char → Prop
  | nil : IsFilters [] []
  | cons {name : String} {names : List String} {token rest : List Char} (isToken : IsToken name token)
      (isFilters : IsFilters names rest) : IsFilters (name :: names) ('|' :: (token ++ rest))

/-- The text of a placeholder: two opening braces, the identifier, the filters and two closing braces. -/
def IsPlaceholder (p : Placeholder) (s : List Char) : Prop :=
  ∃ token filters, IsToken p.identifier token ∧ IsFilters p.filters filters ∧
    s = '{' :: '{' :: (token ++ filters ++ ['}', '}'])

/-- A placeholder in a text, between what stands before it and what stands after it. -/
structure Occurs (p : Placeholder) (text before slice after : List Char) : Prop where
  isPlaceholder : IsPlaceholder p slice
  split : text = before ++ slice ++ after

/-! ### Characters -/

section Characters

variable {c : Char}

theorem isNameChar_of_isNameStart (starts : isNameStart c) : isNameChar c := by
  simp [isNameChar, starts]

/-- Names are written in ASCII. -/
theorem toNat_of_isNameChar (isName : isNameChar c) : 36 ≤ c.toNat ∧ c.toNat ≤ 122 := by
  have code : ∀ a b : Char, a ≤ b ↔ a.toNat ≤ b.toNat := fun _ _ => Iff.rfl
  simp only [isNameChar, isNameStart, Bool.or_eq_true, Bool.and_eq_true, decide_eq_true_eq, beq_iff_eq, code]
    at isName
  rcases isName with (((lower | upper) | rfl) | rfl) | digit
  · exact ⟨Nat.le_trans (by decide) lower.1, lower.2⟩
  · exact ⟨Nat.le_trans (by decide) upper.1, Nat.le_trans upper.2 (by decide)⟩
  · decide
  · decide
  · exact ⟨Nat.le_trans (by decide) digit.1, Nat.le_trans digit.2 (by decide)⟩

/-- Names have no blanks in them. -/
theorem isBlank_of_isNameChar (isName : isNameChar c) : Text.isBlank c = false := by
  obtain ⟨least, most⟩ := toNat_of_isNameChar isName
  simp only [Text.isBlank, Text.Ranges.contains, Text.blankRanges, List.any_eq_false, Bool.and_eq_true,
    decide_eq_true_eq, List.forall_mem_cons]
  refine ⟨?_, ?_, ?_, ?_, ?_, ?_, ?_, ?_, ?_, ?_, fun _ mem => absurd mem List.not_mem_nil⟩ <;> omega

end Characters

/-- What ends a token: it is neither blank nor part of a name. -/
def Ends (rest : List Char) : Prop :=
  ∀ c ∈ rest.head?, Text.isBlank c = false ∧ isNameChar c = false

theorem ends_bar (rest : List Char) : Ends ('|' :: rest) := by
  rintro c mem
  cases mem
  decide

theorem ends_brace (rest : List Char) : Ends ('}' :: rest) := by
  rintro c mem
  cases mem
  decide

/-! ### Tokens -/

section Tokens

variable {name : String} {token rest s : List Char}

theorem dropWhile_append_of_head? {α : Type} {p : α → Bool} {front back : List α} (all : ∀ x ∈ front, p x)
    (stops : ∀ x ∈ back.head?, p x = false) : (front ++ back).dropWhile p = back := by
  rw [List.dropWhile_append_of_pos all]
  cases back with
  | nil => rfl
  | cons x back => rw [List.dropWhile_cons_of_neg (by simpa using stops x rfl)]

theorem takeWhile_append_of_head? {α : Type} {p : α → Bool} {front back : List α} (all : ∀ x ∈ front, p x)
    (stops : ∀ x ∈ back.head?, p x = false) : (front ++ back).takeWhile p = front := by
  rw [List.takeWhile_append_of_pos all]
  cases back with
  | nil => simp
  | cons x back => rw [List.takeWhile_cons_of_neg (by simpa using stops x rfl), List.append_nil]

/-- A name as its first character and the others. -/
theorem isName_iff : isName name ↔ ∃ c cs, name.toList = c :: cs ∧ isNameStart c ∧ ∀ x ∈ cs, isNameChar x := by
  rw [isName]
  cases name.toList with
  | nil => simp [isNameChars]
  | cons c cs => simp [isNameChars]

/-- Reading a token gives its name and what follows it. -/
theorem readToken_complete (isToken : IsToken name token) (ends : Ends rest) :
    readToken (token ++ rest) = some (name.toList, rest) := by
  obtain ⟨before, after, blanksBefore, named, blanksAfter, rfl⟩ := isToken
  obtain ⟨c, cs, split, starts, others⟩ := isName_iff.mp named
  have stopsBefore : ∀ x ∈ (name.toList ++ (after ++ rest)).head?, Text.isBlank x = false := by
    rw [split]
    rintro x mem
    cases mem
    exact isBlank_of_isNameChar (isNameChar_of_isNameStart starts)
  have stopsName : ∀ x ∈ (after ++ rest).head?, isNameChar x = false := by
    cases after with
    | nil => exact fun x mem => (ends x mem).2
    | cons blank after =>
        rintro x mem
        cases mem
        have isBlank := blanksAfter blank List.mem_cons_self
        exact Bool.eq_false_iff.mpr fun isName => by simp [isBlank_of_isNameChar isName] at isBlank
  have blanks : skipBlanks (before ++ name.toList ++ after ++ rest) = name.toList ++ (after ++ rest) := by
    rw [List.append_assoc, List.append_assoc]
    exact dropWhile_append_of_head? blanksBefore stopsBefore
  have read : readName (name.toList ++ (after ++ rest)) = some (name.toList, after ++ rest) := by
    rw [split, List.cons_append, readName, if_pos starts, takeWhile_append_of_head? others stopsName,
      dropWhile_append_of_head? others stopsName]
  have trailing : skipBlanks (after ++ rest) = rest :=
    dropWhile_append_of_head? blanksAfter fun x mem => (ends x mem).1
  rw [readToken, blanks, read]
  exact congrArg (fun r => some (name.toList, r)) trailing

/-- What was read as a token is one. -/
theorem readToken_sound {chars : List Char} (read : readToken s = some (chars, rest)) :
    ∃ name token, chars = String.toList name ∧ IsToken name token ∧ s = token ++ rest := by
  simp only [readToken, Option.bind_eq_bind, Option.bind_eq_some_iff, Option.pure_def, Option.some.injEq,
    Prod.mk.injEq] at read
  obtain ⟨⟨given, behind⟩, isRead, rfl, rfl⟩ := read
  have blanks : s = s.takeWhile Text.isBlank ++ skipBlanks s := List.takeWhile_append_dropWhile.symm
  have trailing : behind = behind.takeWhile Text.isBlank ++ skipBlanks behind :=
    List.takeWhile_append_dropWhile.symm
  have named : isNameChars given ∧ skipBlanks s = given ++ behind := by
    cases rest : skipBlanks s with
    | nil => simp [rest, readName] at isRead
    | cons c cs =>
        rw [rest, readName] at isRead
        split at isRead
        · next starts =>
          cases isRead
          refine ⟨?_, by rw [List.cons_append, List.takeWhile_append_dropWhile]⟩
          simp only [isNameChars, starts, Bool.true_and]
          exact List.all_eq_true.mpr fun x mem => List.mem_takeWhile_imp mem
        · cases isRead
  refine ⟨String.ofList given, s.takeWhile Text.isBlank ++ given ++ behind.takeWhile Text.isBlank,
    String.toList_ofList.symm, ⟨_, _, fun x mem => List.mem_takeWhile_imp mem, ?_,
      fun x mem => List.mem_takeWhile_imp mem, by rw [String.toList_ofList]⟩, ?_⟩
  · rw [isName, String.toList_ofList]
    exact named.1
  · rw [List.append_assoc, List.append_assoc, ← trailing, ← named.2]
    exact blanks

end Tokens

/-! ### Filters and placeholders -/

section Placeholders

variable {p q : Placeholder} {names : List String} {s slice rest : List Char}

/-- Behind a token stand filters, which end it, or else the closing braces. -/
theorem IsFilters.ends (isFilters : IsFilters names s) (rest : List Char) : Ends (s ++ '}' :: rest) := by
  cases isFilters with
  | nil => exact ends_brace rest
  | cons _ _ => exact ends_bar _

theorem readFilters_complete (isFilters : IsFilters names s) {fuel : Nat} (enough : s.length < fuel) :
    readFilters fuel (s ++ '}' :: '}' :: rest) = some (names, rest) := by
  induction isFilters generalizing fuel with
  | nil =>
      obtain ⟨fuel, rfl⟩ := Nat.exists_eq_succ_of_ne_zero (Nat.ne_of_gt enough)
      simp only [List.nil_append, readFilters]
  | @cons name names token others isToken isFilters inductionHypothesis =>
      obtain ⟨fuel, rfl⟩ := Nat.exists_eq_succ_of_ne_zero (Nat.ne_of_gt (Nat.zero_lt_of_lt enough))
      have enoughOthers : others.length < fuel := by
        simp only [List.length_cons, List.length_append] at enough
        omega
      have first := readToken_complete isToken (isFilters.ends ('}' :: rest))
      rw [List.cons_append, List.append_assoc, readFilters, first]
      simp only [Option.bind_eq_bind, Option.bind_some, inductionHypothesis enoughOthers, Option.pure_def,
        String.ofList_toList]

theorem readFilters_sound {fuel : Nat} (read : readFilters fuel s = some (names, rest)) :
    ∃ filters, IsFilters names filters ∧ s = filters ++ '}' :: '}' :: rest := by
  induction fuel generalizing s names with
  | zero => cases read
  | succ fuel inductionHypothesis =>
      rw [readFilters.eq_def] at read
      split at read
      · cases read
      · next same =>
        cases same
        simp only [Option.bind_eq_bind, Option.bind_eq_some_iff, Option.pure_def, Option.some.injEq,
          Prod.mk.injEq] at read
        obtain ⟨⟨chars, more⟩, isRead, ⟨others, _⟩, readOthers, rfl, rfl⟩ := read
        obtain ⟨name, token, rfl, isToken, rfl⟩ := readToken_sound isRead
        obtain ⟨filters, isFilters, rfl⟩ := inductionHypothesis readOthers
        rw [String.ofList_toList]
        exact ⟨'|' :: (token ++ filters), .cons isToken isFilters, by simp⟩
      · cases read
        exact ⟨[], .nil, rfl⟩
      · cases read

/-- The reader reads just the placeholders of the grammar. -/
theorem readPlaceholder_eq_some_iff :
    readPlaceholder s = some (p, rest) ↔ ∃ slice, IsPlaceholder p slice ∧ s = slice ++ rest := by
  constructor
  · intro read
    rw [readPlaceholder.eq_def] at read
    split at read
    · simp only [Option.bind_eq_bind, Option.bind_eq_some_iff, Option.pure_def, Option.some.injEq,
        Prod.mk.injEq] at read
      obtain ⟨⟨chars, more⟩, isRead, ⟨names, _⟩, readOthers, rfl, rfl⟩ := read
      obtain ⟨name, token, rfl, isToken, rfl⟩ := readToken_sound isRead
      obtain ⟨filters, isFilters, rfl⟩ := readFilters_sound readOthers
      rw [String.ofList_toList]
      exact ⟨_, ⟨token, filters, isToken, isFilters, rfl⟩, by simp⟩
    · cases read
  · rintro ⟨_, ⟨token, filters, isToken, isFilters, rfl⟩, rfl⟩
    have first := readToken_complete isToken (isFilters.ends ('}' :: rest))
    have enough : filters.length < (filters ++ '}' :: '}' :: rest).length + 1 := by
      rw [List.length_append]
      omega
    have others : readFilters ((filters ++ '}' :: '}' :: rest).length + 1) (filters ++ '}' :: '}' :: rest) =
        some (p.filters, rest) := readFilters_complete isFilters enough
    have spelled : '{' :: '{' :: (token ++ filters ++ ['}', '}']) ++ rest =
        '{' :: '{' :: (token ++ (filters ++ '}' :: '}' :: rest)) := by simp
    rw [spelled, readPlaceholder, first]
    simp only [Option.bind_eq_bind, Option.bind_some, others, Option.pure_def, String.ofList_toList]

/-- A text begins with one placeholder at most. -/
theorem IsPlaceholder.unique {slice' rest' : List Char} (one : IsPlaceholder p slice) (other : IsPlaceholder q slice')
    (same : slice ++ rest = slice' ++ rest') : p = q ∧ slice = slice' ∧ rest = rest' := by
  have readOne : readPlaceholder (slice ++ rest) = some (p, rest) :=
    readPlaceholder_eq_some_iff.mpr ⟨slice, one, rfl⟩
  have readOther : readPlaceholder (slice ++ rest) = some (q, rest') :=
    readPlaceholder_eq_some_iff.mpr ⟨slice', other, same⟩
  obtain ⟨rfl, rfl⟩ := Prod.mk.inj (Option.some.inj (readOne.symm.trans readOther))
  exact ⟨rfl, List.append_cancel_right same, rfl⟩

theorem IsToken.brace_notMem {name : String} {token : List Char} (isToken : IsToken name token) : '{' ∉ token := by
  obtain ⟨before, after, blanksBefore, named, blanksAfter, rfl⟩ := isToken
  obtain ⟨c, cs, split, starts, others⟩ := isName_iff.mp named
  have notBlank : ¬ Text.isBlank '{' := by decide
  have notName : ¬ isNameChar '{' := by decide
  rw [split]
  intro mem
  rcases List.mem_append.mp mem with inFront | inAfter
  · rcases List.mem_append.mp inFront with inBefore | inName
    · exact notBlank (blanksBefore _ inBefore)
    · rcases List.mem_cons.mp inName with rfl | inRest
      · exact notName (isNameChar_of_isNameStart starts)
      · exact notName (others _ inRest)
  · exact notBlank (blanksAfter _ inAfter)

theorem IsFilters.brace_notMem (isFilters : IsFilters names s) : '{' ∉ s := by
  induction isFilters with
  | nil => exact List.not_mem_nil
  | cons isToken _ inductionHypothesis =>
      intro mem
      rcases List.mem_cons.mp mem with isBar | behind
      · cases isBar
      · rcases List.mem_append.mp behind with inToken | inRest
        · exact isToken.brace_notMem inToken
        · exact inductionHypothesis inRest

/-- After its first two characters a placeholder has no opening brace. -/
theorem IsPlaceholder.exists_inner (isPlaceholder : IsPlaceholder p s) :
    ∃ inner, s = '{' :: '{' :: inner ∧ inner ≠ [] ∧ '{' ∉ inner := by
  obtain ⟨token, filters, isToken, isFilters, rfl⟩ := isPlaceholder
  refine ⟨_, rfl, by simp, ?_⟩
  intro mem
  rcases List.mem_append.mp mem with inFront | inBraces
  · rcases List.mem_append.mp inFront with inToken | inFilters
    · exact isToken.brace_notMem inToken
    · exact isFilters.brace_notMem inFilters
  · simp at inBraces

theorem IsPlaceholder.ne_nil (isPlaceholder : IsPlaceholder p s) : s ≠ [] := by
  obtain ⟨_, _, _, _, rfl⟩ := isPlaceholder
  exact List.cons_ne_nil _ _

/-- No placeholder begins inside another one. -/
theorem IsPlaceholder.not_inside {front back slice' rest' : List Char} (one : IsPlaceholder p (front ++ back))
    (other : IsPlaceholder q slice') (same : back ++ rest = slice' ++ rest') : front = [] ∨ back = [] := by
  obtain ⟨inner, split, notEmpty, noBrace⟩ := one.exists_inner
  obtain ⟨inner', rfl, _, _⟩ := other.exists_inner
  cases front with
  | nil => exact Or.inl rfl
  | cons first front =>
      cases back with
      | nil => exact Or.inr rfl
      | cons c back =>
          obtain ⟨rfl, behind⟩ := List.cons.inj same
          obtain ⟨_, inside⟩ := List.cons.inj split
          cases front with
          | cons second front =>
              -- the other one's first brace would be among the characters after the first two
              obtain ⟨_, isInner⟩ := List.cons.inj inside
              exact absurd (isInner ▸ List.mem_append_right front List.mem_cons_self) noBrace
          | nil =>
              -- here it would be its second brace
              obtain ⟨_, rfl⟩ := List.cons.inj inside
              cases back with
              | nil => exact absurd rfl notEmpty
              | cons d back =>
                  obtain ⟨rfl, _⟩ := List.cons.inj behind
                  exact absurd List.mem_cons_self noBrace

end Placeholders

/-! ### Occurrences -/

namespace Occurs

variable {p q : Placeholder} {text before slice after before' slice' after' : List Char}

/-- Of two placeholders in a text that do not begin at the same place, the one ends before the other
begins. -/
theorem separate_of_append {gap : List Char} (one : Occurs p text before slice after)
    (other : Occurs q text (before ++ gap) slice' after') :
    (gap = [] ∧ p = q ∧ slice = slice' ∧ after = after') ∨ ∃ between, gap = slice ++ between := by
  have same : slice ++ after = gap ++ (slice' ++ after') := by
    have split := one.split.symm.trans other.split
    rw [List.append_assoc, List.append_assoc, List.append_assoc] at split
    exact List.append_cancel_left split
  rcases List.append_eq_append_iff.mp same with ⟨between, gapSplit, _⟩ | ⟨back, sliceSplit, behind⟩
  · exact Or.inr ⟨between, gapSplit⟩
  · rcases IsPlaceholder.not_inside (sliceSplit ▸ one.isPlaceholder) other.isPlaceholder behind.symm with
      rfl | rfl
    · obtain ⟨samePlaceholder, sameSlice, sameRest⟩ := one.isPlaceholder.unique other.isPlaceholder same
      exact Or.inl ⟨rfl, samePlaceholder, sameSlice, sameRest⟩
    · exact Or.inr ⟨[], sliceSplit.symm ▸ by simp⟩

/-- Placeholders in a text never overlap. -/
theorem separate (one : Occurs p text before slice after) (other : Occurs q text before' slice' after') :
    (before = before' ∧ p = q ∧ slice = slice' ∧ after = after') ∨
      (∃ between, before' = before ++ slice ++ between) ∨ ∃ between, before = before' ++ slice' ++ between := by
  have split := one.split.symm.trans other.split
  rw [List.append_assoc, List.append_assoc] at split
  rcases List.append_eq_append_iff.mp split with ⟨gap, rfl, _⟩ | ⟨gap, rfl, _⟩
  · rcases one.separate_of_append other with ⟨rfl, same⟩ | ⟨between, rfl⟩
    · exact Or.inl ⟨(List.append_nil _).symm, same⟩
    · exact Or.inr (Or.inl ⟨between, (List.append_assoc _ _ _).symm⟩)
  · rcases other.separate_of_append one with ⟨rfl, rfl, rfl, rfl⟩ | ⟨between, rfl⟩
    · exact Or.inl ⟨List.append_nil _, rfl, rfl, rfl⟩
    · exact Or.inr (Or.inr ⟨between, (List.append_assoc _ _ _).symm⟩)

end Occurs

/-! ### Finding -/

section Finding

variable {p q : Placeholder} {s before slice rest : List Char}

/-- Where none is found there is none. -/
theorem findPlaceholder_eq_none (none : findPlaceholder s = .none) (occurs : Occurs p s before slice rest) : False := by
  induction s generalizing before with
  | nil =>
      have empty : before ++ slice ++ rest = [] := occurs.split.symm
      simp only [List.append_eq_nil_iff] at empty
      exact occurs.isPlaceholder.ne_nil empty.1.2
  | cons c s inductionHypothesis =>
      simp only [findPlaceholder] at none
      split at none
      · cases none
      · next notHere =>
        have later : findPlaceholder s = .none := Option.map_eq_none_iff.mp none
        cases before with
        | nil =>
            have here := readPlaceholder_eq_some_iff.mpr ⟨slice, occurs.isPlaceholder, occurs.split⟩
            simp [notHere] at here
        | cons _ before =>
            obtain ⟨_, split⟩ := List.cons.inj occurs.split
            exact inductionHypothesis later ⟨occurs.isPlaceholder, split⟩

/-- What is found is a placeholder, and none begins before it. -/
theorem findPlaceholder_eq_some (found : findPlaceholder s = some (before, p, rest)) :
    (∃ slice, Occurs p s before slice rest) ∧
      ∀ q before' slice' rest', Occurs q s before' slice' rest' → before.length ≤ before'.length := by
  induction s generalizing before with
  | nil => cases found
  | cons c s inductionHypothesis =>
      simp only [findPlaceholder] at found
      split at found
      · next read =>
        cases found
        obtain ⟨slice, isPlaceholder, split⟩ := readPlaceholder_eq_some_iff.mp read
        exact ⟨⟨slice, isPlaceholder, split⟩, fun _ _ _ _ _ => Nat.zero_le _⟩
      · next notHere =>
        obtain ⟨⟨behind, _, _⟩, foundLater, same⟩ := Option.map_eq_some_iff.mp found
        cases same
        obtain ⟨⟨slice, occurs⟩, first⟩ := inductionHypothesis foundLater
        refine ⟨⟨slice, occurs.isPlaceholder, by rw [occurs.split]; rfl⟩, ?_⟩
        intro q before' slice' rest' other
        cases before' with
        | nil =>
            have here := readPlaceholder_eq_some_iff.mpr ⟨slice', other.isPlaceholder, other.split⟩
            simp [notHere] at here
        | cons _ before' =>
            obtain ⟨_, split⟩ := List.cons.inj other.split
            exact Nat.succ_le_succ (first q before' slice' rest' ⟨other.isPlaceholder, split⟩)

/-- A placeholder is found just if there is one. -/
theorem isSome_findPlaceholder_iff :
    (findPlaceholder s).isSome ↔ ∃ p before slice after, Occurs p s before slice after := by
  cases found : findPlaceholder s with
  | none =>
      refine iff_of_false Bool.false_ne_true ?_
      rintro ⟨p, before, slice, after, occurs⟩
      exact findPlaceholder_eq_none found occurs
  | some triple =>
      obtain ⟨before, p, after⟩ := triple
      obtain ⟨⟨slice, occurs⟩, _⟩ := findPlaceholder_eq_some found
      exact iff_of_true rfl ⟨p, before, slice, after, occurs⟩

end Finding

end LiveTemplate
