import LiveTemplate.Proofs.Value.Digits
import LiveTemplate.Proofs.Value.Plain
import LiveTemplate.Value.Printer

/-!
Compact JSON is read back.  A value whose numbers are whole and whose containers do not nest too deep is read
from its compact text, wherever that stands in front of something that ends it.  The proof follows the value:
one lemma for each kind of token, and then one for values, items and members together.
-/

namespace LiveTemplate.Value

/-! ### Strings -/

section Strings

variable {c : Char} (done rest : List Char)

/-- A letter behind a backslash stands for a character. -/
theorem readString_short {letter : Char} (stands : shortEscape? letter = some c) (other : letter ≠ 'u') :
    readString done ('\\' :: letter :: rest) = readString (c :: done) rest := by
  rw [readString.eq_4 done letter rest fun _ _ _ _ _ isU => absurd isU other, stands]
  rfl

/-- Most characters stand for themselves. -/
theorem readString_bare (isText : 0x20 ≤ c.toNat) (noQuote : c ≠ '"') (noBackslash : c ≠ '\\') :
    readString done (c :: rest) = readString (c :: done) rest := by
  have isBare : ¬ (c.toNat < 0x20 ∨ c = '\\') := by
    rintro (control | isBackslash)
    · exact Nat.not_lt_of_le isText control
    · exact noBackslash isBackslash
  rw [readString.eq_5 done c rest (absurd · noQuote) (fun _ _ _ _ _ isBackslash => absurd isBackslash noBackslash)
    (fun _ _ isBackslash => absurd isBackslash noBackslash), if_neg isBare]

/-- The escape of a control character has two digits that read back, and none of them is half a pair. -/
theorem hex4?_controlDigits : ∀ n < 0x20,
    ∃ a b, controlDigits n = [a, b] ∧ hex4? '0' '0' a b = some n ∧ isTrailing n = false ∧ isLeading n = false :=
  fun n small => ⟨_, _, rfl, by revert n; decide, by revert n; decide, by revert n; decide⟩

/-- A control character is read from its number. -/
theorem readString_control (control : c.toNat < 0x20) :
    readString done (['\\', 'u', '0', '0'] ++ controlDigits c.toNat ++ rest) = readString (c :: done) rest := by
  obtain ⟨a, b, digits, isNumber, notTrailing, notLeading⟩ := hex4?_controlDigits c.toNat control
  rw [digits]
  simp only [List.cons_append, List.nil_append, readString.eq_3, isNumber]
  simp [notTrailing, notLeading]

/-- What stands for a character is read as the character. -/
theorem readString_escapeChar (c : Char) :
    readString done (escapeChar c ++ rest) = readString (c :: done) rest := by
  rw [escapeChar]
  split_ifs with quote backslash b f n r t control
  · exact readString_short done rest (by rw [quote]; rfl) (by decide)
  · exact readString_short done rest (by rw [backslash]; rfl) (by decide)
  · exact readString_short done rest (by rw [b]; rfl) (by decide)
  · exact readString_short done rest (by rw [f]; rfl) (by decide)
  · exact readString_short done rest (by rw [n]; rfl) (by decide)
  · exact readString_short done rest (by rw [r]; rfl) (by decide)
  · exact readString_short done rest (by rw [t]; rfl) (by decide)
  · exact readString_control done rest control
  · exact readString_bare done rest (Nat.le_of_not_lt control) quote backslash

/-- A string is read up to its closing quote. -/
theorem readString_flatMap (s : List Char) :
    readString done (s.flatMap escapeChar ++ '"' :: rest) = some (done.reverse ++ s, rest) := by
  induction s generalizing done with
  | nil => simp [readString]
  | cons c s inductionHypothesis =>
      rw [List.flatMap_cons, List.append_assoc, readString_escapeChar, inductionHypothesis, List.reverse_cons,
        List.append_assoc]
      rfl

end Strings

/-- A text is read back from its JSON string. -/
theorem readString_string (s : String) (rest : List Char) :
    readString [] (s.toList.flatMap escapeChar ++ '"' :: rest) = some (s.toList, rest) :=
  readString_flatMap [] rest s.toList

theorem stringChars_append (s : String) (rest : List Char) :
    stringChars s ++ rest = '"' :: (s.toList.flatMap escapeChar ++ '"' :: rest) := by
  simp [stringChars]

/-! ### Numbers -/

section Numbers

/-- Whether a text is empty or goes on with what ends a value: a comma or a closing bracket. -/
def endsValue : List Char → Bool
  | [] => true
  | c :: _ => c == ',' || c == ']' || c == '\x7d'

variable {rest : List Char}

/-- What may follow a value. -/
theorem endsValue_cases (ends : endsValue rest) : ∀ c ∈ rest.head?, c = ',' ∨ c = ']' ∨ c = '\x7d' := by
  cases rest with
  | nil => exact nofun
  | cons c rest =>
      intro d isHead
      rw [← Option.some.inj isHead]
      simpa [endsValue, or_assoc] using ends

/-- No digit follows a value. -/
theorem not_isDigit_of_endsValue (ends : endsValue rest) : ∀ c ∈ rest.head?, c.isDigit = false := by
  intro c isHead
  rcases endsValue_cases ends c isHead with rfl | rfl | rfl <;> rfl

/-- There is no fraction where a value ends. -/
theorem readFraction_of_endsValue (ends : endsValue rest) : readFraction rest = some (none, rest) := by
  cases rest with
  | nil => rfl
  | cons c rest => rcases endsValue_cases ends c rfl with rfl | rfl | rfl <;> rfl

/-- There is no exponent where a value ends. -/
theorem readPower_of_endsValue (ends : endsValue rest) : readPower rest = some (none, rest) := by
  cases rest with
  | nil => rfl
  | cons c rest => rcases endsValue_cases ends c rfl with rfl | rfl | rfl <;> rfl

/-- A number behind its sign. -/
def readUnsigned (negative : Bool) (s : List Char) : Option (Number × List Char) :=
  match readDigits s with
  | ([], _) => none
  | (0 :: _ :: _, _) => none
  | (whole, s) => do
    let (fraction, s) ← readFraction s
    let (power, s) ← readPower s
    return (← Numeral.toNumber? ⟨negative, whole, fraction, power⟩, s)

/-- A minus sign makes a number negative. -/
theorem readNumber_minus (s : List Char) : readNumber ('-' :: s) = readUnsigned true s := by
  unfold readNumber readUnsigned
  split
  next isSplit =>
  split at isSplit
  · next isMinus =>
    cases isMinus
    cases isSplit
    rfl
  · next noMinus => exact absurd rfl (noMinus s)

/-- A number without a sign is not negative. -/
theorem readNumber_noSign {s : List Char} (noSign : s.head? ≠ some '-') : readNumber s = readUnsigned false s := by
  unfold readNumber readUnsigned
  split
  next isSplit =>
  split at isSplit
  · exact absurd rfl noSign
  · cases isSplit
    rfl

/-- Digits are read as a numeral without point and power, if no zero stands in front of another digit. -/
theorem readUnsigned_eq {s : List Char} {d : Nat} {ds : List Nat} (read : readDigits s = (d :: ds, rest))
    (noZero : d = 0 → ds = []) (ends : endsValue rest) (negative : Bool) :
    readUnsigned negative s = (Numeral.toNumber? ⟨negative, d :: ds, none, none⟩).map (·, rest) := by
  have placed (digits : List Nat) : (do
      let (fraction, s) ← readFraction rest
      let (power, s) ← readPower s
      return (← Numeral.toNumber? ⟨negative, digits, fraction, power⟩, s) : Option (Number × List Char)) =
        (Numeral.toNumber? ⟨negative, digits, none, none⟩).map (·, rest) := by
    simp only [readFraction_of_endsValue ends, Option.bind_eq_bind, Option.bind_some, readPower_of_endsValue ends]
    cases Numeral.toNumber? _ <;> rfl
  rw [readUnsigned, read]
  cases d with
  | zero =>
      rw [noZero rfl]
      exact placed [0]
  | succ d => exact placed ((d + 1) :: ds)

/-- The numeral of a whole number stands for it. -/
theorem toNumber?_whole (w : Whole) :
    Numeral.toNumber? ⟨decide (w.val < 0), digitValues (Nat.toDigits 10 w.val.natAbs), none, none⟩ =
      some (.whole w) := by
  obtain ⟨low, high⟩ := w.inRange
  have fits : w.val.natAbs < Nat.pow 2 64 := by
    show w.val.natAbs < 0x10000000000000000
    omega
  have isWhole : Whole.ofInt? w.val = some w := dif_pos w.inRange
  simp only [Numeral.toNumber?, Numeral.accumulate_toDigits fits]
  have signed : (if decide (w.val < 0) = true then -(w.val.natAbs : Int) else w.val.natAbs) = w.val := by
    simp only [decide_eq_true_eq]
    split <;> omega
  have notMinusZero : (decide (w.val < 0) && w.val.natAbs == 0) = false := by
    simp only [Bool.and_eq_false_iff, decide_eq_false_iff_not, beq_eq_false_iff_ne]
    omega
  rw [signed, isWhole]
  simp [notMinusZero]

/-- A whole number is read back. -/
theorem readNumber_whole (w : Whole) (ends : endsValue rest) :
    readNumber ((Number.whole w).toText.toList ++ rest) = some (.whole w, rest) := by
  obtain ⟨c, others, digits, isDigit, alone⟩ := exists_toDigits_eq_cons w.val.natAbs
  have read := readDigits_toDigits w.val.natAbs (not_isDigit_of_endsValue ends)
  have number := toNumber?_whole w
  rw [Number.toText, toList_toString]
  rw [digits] at read number ⊢
  have unsigned := readUnsigned_eq read (fun isZero => by rw [alone isZero]; rfl) ends (decide (w.val < 0))
  rw [show _ :: _ = digitValues (c :: others) from rfl, number] at unsigned
  by_cases negative : w.val < 0
  · rw [decide_eq_true negative] at unsigned
    rw [if_pos negative]
    exact (readNumber_minus _).trans unsigned
  · rw [decide_eq_false negative] at unsigned
    have noSign : (c :: others ++ rest).head? ≠ some '-' := by
      rintro isSign
      cases isSign
      cases isDigit
    rw [if_neg negative]
    exact (readNumber_noSign noSign).trans unsigned

/-- A whole number begins with a minus sign or a digit. -/
theorem exists_toText_whole_eq_cons (w : Whole) :
    ∃ c s, (Number.whole w).toText.toList = c :: s ∧ (c = '-' ∨ c.isDigit) := by
  obtain ⟨c, others, digits, isDigit, -⟩ := exists_toDigits_eq_cons w.val.natAbs
  rw [Number.toText, toList_toString, digits]
  split_ifs
  · exact ⟨_, _, rfl, Or.inl rfl⟩
  · exact ⟨_, _, rfl, Or.inr isDigit⟩

end Numbers

/-! ### Values -/

/-- Whether a text goes on at once, and not with a closing bracket. -/
def isOpen : List Char → Bool
  | [] => false
  | c :: _ => !isSpace c && c != ']' && c != '\x7d'

section Steps

variable {fuel depth : Nat} {s rest rest' : List Char} {c : Char}

/-- Nothing is skipped in front of a solid character. -/
theorem skipSpace_cons (solid : isSpace c = false) : skipSpace (c :: s) = c :: s := by
  rw [skipSpace, List.dropWhile_cons_of_neg (by simp [solid])]

theorem readValue_null : readValue (fuel + 1) depth (['n', 'u', 'l', 'l'] ++ rest) = some (.null, rest) := by
  rw [readValue, List.cons_append, skipSpace_cons (by decide)]
  simp [expect]

theorem readValue_true : readValue (fuel + 1) depth (['t', 'r', 'u', 'e'] ++ rest) = some (.bool true, rest) := by
  rw [readValue, List.cons_append, skipSpace_cons (by decide)]
  simp [expect]

theorem readValue_false :
    readValue (fuel + 1) depth (['f', 'a', 'l', 's', 'e'] ++ rest) = some (.bool false, rest) := by
  rw [readValue, List.cons_append, skipSpace_cons (by decide)]
  simp [expect]

/-- What begins with a digit or a minus sign is a number. -/
theorem readValue_number (begins : c = '-' ∨ c.isDigit) :
    readValue (fuel + 1) depth (c :: s) = (readNumber (c :: s)).map fun (n, rest) => (.number n, rest) := by
  have other : ∀ d, d ≠ '-' → d.isDigit = false → c ≠ d := by
    rintro d noMinus noDigit rfl
    rcases begins with isMinus | isDigit
    · exact noMinus isMinus
    · exact Bool.false_ne_true (noDigit.symm.trans isDigit)
  have solid : isSpace c = false := by simp [isSpace, other]
  rw [readValue, skipSpace_cons solid]
  simp only [other 'n' (by decide) (by decide), other 't' (by decide) (by decide), other 'f' (by decide) (by decide),
    other '"' (by decide) (by decide), other '[' (by decide) (by decide), other '\x7b' (by decide) (by decide),
    if_false]
  cases readNumber (c :: s) <;> rfl

/-- A quote begins a string. -/
theorem readValue_string : readValue (fuel + 1) depth ('"' :: s) =
    (readString [] s).map fun (text, rest) => (.string (String.ofList text), rest) := by
  rw [readValue, skipSpace_cons (by decide)]
  simp only [Char.reduceEq, if_true, if_false]
  cases readString [] s <;> rfl

theorem readValue_emptyArray : readValue (fuel + 1) (depth + 1) ('[' :: ']' :: rest) = some (.array [], rest) := by
  rw [readValue, skipSpace_cons (by decide)]
  simp [skipSpace_cons, isSpace]

theorem readValue_emptyObject :
    readValue (fuel + 1) (depth + 1) ('\x7b' :: '\x7d' :: rest) = some (.object [], rest) := by
  rw [readValue, skipSpace_cons (by decide)]
  simp [skipSpace_cons, isSpace]

/-- An open bracket begins the items of an array. -/
theorem readValue_array (opens : isOpen s) : readValue (fuel + 1) (depth + 1) ('[' :: s) =
    (readItems fuel depth s).map fun (items, rest) => (.array items, rest) := by
  cases s with
  | nil => cases opens
  | cons c s =>
      simp only [isOpen, Bool.and_eq_true, Bool.not_eq_true', bne_iff_ne] at opens
      obtain ⟨⟨solid, noBracket⟩, -⟩ := opens
      rw [readValue, skipSpace_cons (by decide)]
      simp only [Char.reduceEq, if_true, if_false, skipSpace_cons solid]
      split
      · next isBracket => exact absurd (List.cons.inj isBracket).1 noBracket
      · cases readItems fuel depth (c :: s) <;> rfl

/-- An open brace begins the members of an object. -/
theorem readValue_object (opens : isOpen s) : readValue (fuel + 1) (depth + 1) ('\x7b' :: s) =
    (readMembers fuel depth s).map fun (members, rest) => (ofMembers members, rest) := by
  cases s with
  | nil => cases opens
  | cons c s =>
      simp only [isOpen, Bool.and_eq_true, Bool.not_eq_true', bne_iff_ne] at opens
      obtain ⟨⟨solid, -⟩, noBrace⟩ := opens
      rw [readValue, skipSpace_cons (by decide)]
      simp only [Char.reduceEq, if_true, if_false, skipSpace_cons solid]
      split
      · next isBrace => exact absurd (List.cons.inj isBrace).1 noBrace
      · cases readMembers fuel depth (c :: s) <;> rfl

/-- A bracket ends the items. -/
theorem readItems_last {item : Value} (read : readValue fuel depth s = some (item, ']' :: rest)) :
    readItems (fuel + 1) depth s = some ([item], rest) := by
  rw [readItems, read]
  simp [skipSpace_cons, isSpace]

/-- A comma is followed by more items. -/
theorem readItems_more {item : Value} (read : readValue fuel depth s = some (item, ',' :: rest)) :
    readItems (fuel + 1) depth s = (readItems fuel depth rest).map fun (items, rest) => (item :: items, rest) := by
  rw [readItems, read]
  simp only [Option.bind_eq_bind, Option.bind_some, skipSpace_cons (show isSpace ',' = false by decide)]
  cases readItems fuel depth rest <;> rfl

variable {key : List Char} {value : Value}

/-- A brace ends the members. -/
theorem readMembers_last (named : readString [] s = some (key, ':' :: rest))
    (read : readValue fuel depth rest = some (value, '\x7d' :: rest')) :
    readMembers (fuel + 1) depth ('"' :: s) = some ([(String.ofList key, value)], rest') := by
  rw [readMembers, skipSpace_cons (by decide)]
  simp [named, read, skipSpace_cons, isSpace]

/-- A comma is followed by more members. -/
theorem readMembers_more (named : readString [] s = some (key, ':' :: rest))
    (read : readValue fuel depth rest = some (value, ',' :: rest')) : readMembers (fuel + 1) depth ('"' :: s) =
      (readMembers fuel depth rest').map fun (members, rest) => ((String.ofList key, value) :: members, rest) := by
  rw [readMembers, skipSpace_cons (by decide)]
  simp only [named, read, Option.bind_eq_bind, Option.bind_some, skipSpace_cons (show isSpace ':' = false by decide),
    skipSpace_cons (show isSpace ',' = false by decide)]
  cases readMembers fuel depth rest' <;> rfl

end Steps

/-! ### Members in order -/

/-- A member whose key is greater than all others goes to the end. -/
theorem insertMember_eq_append {key : String} {value : Value} {members : List (String × Value)}
    (last : ∀ member ∈ members, member.1 < key) : insertMember key value members = members ++ [(key, value)] := by
  induction members with
  | nil => rfl
  | cons member rest inductionHypothesis =>
      have before := last member List.mem_cons_self
      have differs : key ≠ member.1 := fun same => String.lt_irrefl key (same ▸ before)
      rw [insertMember, if_neg differs, if_neg (String.lt_asymm before),
        inductionHypothesis fun other mem => last other (List.mem_cons_of_mem _ mem)]
      rfl

/-- Members that stand in order are put together as they stand. -/
theorem ofMembers_eq {members : List (String × Value)} (ordered : members.Pairwise fun a b => a.1 < b.1) :
    ofMembers members = .object members := by
  have all : ∀ rest done : List (String × Value), (done ++ rest).Pairwise (fun a b => a.1 < b.1) →
      rest.foldl (fun done member => insertMember member.1 member.2 done) done = done ++ rest := by
    intro rest
    induction rest with
    | nil => exact fun done _ => (List.append_nil done).symm
    | cons member rest inductionHypothesis =>
        intro done ordered
        have last : ∀ other ∈ done, other.1 < member.1 :=
          fun other mem => (List.pairwise_append.mp ordered).2.2 other mem member List.mem_cons_self
        have together : done ++ [(member.1, member.2)] ++ rest = done ++ member :: rest := by simp
        rw [List.foldl_cons, insertMember_eq_append last, inductionHypothesis _ (together ▸ ordered), together]
  rw [ofMembers, all members [] ordered]
  rfl

/-! ### Values -/

variable {depth : Nat}

/-- A value is open at its first character. -/
theorem exists_compactChars_eq_cons {v : Value} (plain : v.IsPlain depth) :
    ∃ c s, v.compactChars = c :: s ∧ ∀ rest, isOpen (c :: rest) := by
  cases v with
  | null => exact ⟨_, _, rfl, fun _ => rfl⟩
  | bool b => cases b <;> exact ⟨_, _, rfl, fun _ => rfl⟩
  | number n =>
      obtain ⟨w, rfl⟩ := plain.number
      obtain ⟨c, s, text, isMinus | isDigit⟩ := exists_toText_whole_eq_cons w
      · exact ⟨c, s, text, fun _ => by rw [isMinus]; rfl⟩
      · refine ⟨c, s, text, fun _ => ?_⟩
        have other : ∀ d, d.isDigit = false → c ≠ d := by
          rintro d noDigit rfl
          exact Bool.false_ne_true (noDigit.symm.trans isDigit)
        simp [isOpen, isSpace, other]
  | string s => exact ⟨_, _, rfl, fun _ => rfl⟩
  | array items => exact ⟨_, _, rfl, fun _ => rfl⟩
  | object members => exact ⟨_, _, rfl, fun _ => rfl⟩

/-- No value prints to the empty text. -/
theorem length_compactChars_pos {v : Value} (plain : v.IsPlain depth) : 0 < v.compactChars.length := by
  obtain ⟨c, s, text, -⟩ := exists_compactChars_eq_cons plain
  rw [text]
  exact Nat.succ_pos _

theorem compactItems_cons (item next : Value) (rest : List Value) :
    compactItems (item :: next :: rest) = compactChars item ++ ',' :: compactItems (next :: rest) := rfl

theorem compactMembers_cons (key : String) (value : Value) (next : String × Value) (rest : List (String × Value)) :
    compactMembers ((key, value) :: next :: rest) =
      stringChars key ++ ':' :: compactChars value ++ ',' :: compactMembers (next :: rest) := rfl

/-- Items are open at their first character. -/
theorem compactItems_begins {item : Value} (items : List Value) (plain : item.IsPlain depth) :
    0 < (compactItems (item :: items)).length ∧ ∀ rest, isOpen (compactItems (item :: items) ++ rest) := by
  obtain ⟨c, s, text, opens⟩ := exists_compactChars_eq_cons plain
  have begins : ∃ others, compactItems (item :: items) = c :: others := by
    cases items with
    | nil => exact ⟨s, text⟩
    | cons next items => exact ⟨_, by rw [compactItems_cons, text]; rfl⟩
  obtain ⟨others, isText⟩ := begins
  rw [isText]
  exact ⟨Nat.succ_pos _, fun rest => opens _⟩

/-- Members are open at their first character. -/
theorem compactMembers_begins (member : String × Value) (members : List (String × Value)) :
    0 < (compactMembers (member :: members)).length ∧
      ∀ rest, isOpen (compactMembers (member :: members) ++ rest) := by
  have begins : ∃ others, compactMembers (member :: members) = '"' :: others := by
    cases members with
    | nil => exact ⟨_, rfl⟩
    | cons next members => exact ⟨_, rfl⟩
  obtain ⟨others, isText⟩ := begins
  rw [isText]
  exact ⟨Nat.succ_pos _, fun rest => rfl⟩

mutual

/-- A value is read back in front of what ends it. -/
theorem readValue_compactChars : ∀ (v : Value) {fuel depth : Nat} {rest : List Char}, v.IsPlain depth →
    v.compactChars.length ≤ fuel + 1 → endsValue rest →
      readValue (fuel + 1) depth (v.compactChars ++ rest) = some (v, rest)
  | .null, _, _, _, _, _, _ => readValue_null
  | .bool true, _, _, _, _, _, _ => readValue_true
  | .bool false, _, _, _, _, _, _ => readValue_false
  | .number n, fuel, depth, rest, plain, _, ends => by
      obtain ⟨w, rfl⟩ := plain.number
      obtain ⟨c, s, text, begins⟩ := exists_toText_whole_eq_cons w
      have read := readNumber_whole w ends
      rw [compactChars]
      rw [text, List.cons_append] at read ⊢
      rw [readValue_number begins, read]
      rfl
  | .string s, fuel, depth, rest, _, _, _ => by
      rw [compactChars, stringChars_append, readValue_string, readString_string]
      simp only [Option.map_some, String.ofList_toList]
  | .array [], fuel, _, rest, plain, _, _ => by
      obtain ⟨depth, rfl, -⟩ := plain.items
      exact readValue_emptyArray
  | .array (item :: items), fuel, _, rest, plain, enough, _ => by
      obtain ⟨depth, rfl, each⟩ := plain.items
      obtain ⟨nonempty, opens⟩ := compactItems_begins items (each item List.mem_cons_self)
      simp only [compactChars, List.length_append, List.length_cons, List.length_nil] at enough
      obtain ⟨room, rfl⟩ : ∃ room, fuel = room + 2 := ⟨fuel - 2, by omega⟩
      simp only [compactChars, List.cons_append, List.append_assoc, List.nil_append]
      rw [readValue_array (opens _), readItems_compactItems (item :: items) nofun each (by omega)]
      rfl
  | .object [], fuel, _, rest, plain, _, _ => by
      obtain ⟨-, depth, rfl, -⟩ := plain.members
      exact readValue_emptyObject
  | .object (member :: members), fuel, _, rest, plain, enough, _ => by
      obtain ⟨ordered, depth, rfl, each⟩ := plain.members
      obtain ⟨nonempty, opens⟩ := compactMembers_begins member members
      simp only [compactChars, List.length_append, List.length_cons, List.length_nil] at enough
      obtain ⟨room, rfl⟩ : ∃ room, fuel = room + 2 := ⟨fuel - 2, by omega⟩
      simp only [compactChars, List.cons_append, List.append_assoc, List.nil_append]
      rw [readValue_object (opens _), readMembers_compactMembers (member :: members) nofun each (by omega)]
      exact congrArg (fun v => some (v, rest)) (ofMembers_eq ordered)

/-- Items are read back up to the closing bracket. -/
theorem readItems_compactItems : ∀ (items : List Value) {fuel depth : Nat} {rest : List Char}, items ≠ [] →
    (∀ x ∈ items, x.IsPlain depth) → (compactItems items).length ≤ fuel + 1 →
      readItems (fuel + 2) depth (compactItems items ++ ']' :: rest) = some (items, rest)
  | [], _, _, _, nonempty, _, _ => absurd rfl nonempty
  | [item], fuel, depth, rest, _, each, enough =>
      readItems_last (readValue_compactChars item (each item List.mem_cons_self) enough rfl)
  | item :: next :: items, fuel, depth, rest, _, each, enough => by
      have plain := each item List.mem_cons_self
      have later := fun x mem => each x (List.mem_cons_of_mem item mem)
      have first := length_compactChars_pos plain
      obtain ⟨more, -⟩ := compactItems_begins items (later next List.mem_cons_self)
      rw [compactItems_cons, List.length_append, List.length_cons] at enough
      obtain ⟨room, rfl⟩ : ∃ room, fuel = room + 1 := ⟨fuel - 1, by omega⟩
      rw [compactItems_cons, List.append_assoc, List.cons_append,
        readItems_more (readValue_compactChars item plain (by omega) rfl),
        readItems_compactItems (next :: items) nofun later (by omega)]
      rfl

/-- Members are read back up to the closing brace. -/
theorem readMembers_compactMembers : ∀ (members : List (String × Value)) {fuel depth : Nat} {rest : List Char},
    members ≠ [] → (∀ x ∈ members, x.2.IsPlain depth) → (compactMembers members).length ≤ fuel + 1 →
      readMembers (fuel + 2) depth (compactMembers members ++ '\x7d' :: rest) = some (members, rest)
  | [], _, _, _, nonempty, _, _ => absurd rfl nonempty
  | [(key, value)], fuel, depth, rest, _, each, enough => by
      have plain : value.IsPlain depth := each (key, value) List.mem_cons_self
      simp only [compactMembers, List.length_append, List.length_cons] at enough
      rw [compactMembers, List.append_assoc, List.cons_append, stringChars_append,
        readMembers_last (readString_string key _) (readValue_compactChars value plain (by omega) rfl),
        String.ofList_toList]
  | (key, value) :: next :: members, fuel, depth, rest, _, each, enough => by
      have plain : value.IsPlain depth := each (key, value) List.mem_cons_self
      have later := fun x mem => each x (List.mem_cons_of_mem (key, value) mem)
      obtain ⟨more, -⟩ := compactMembers_begins next members
      simp only [compactMembers_cons, List.length_append, List.length_cons] at enough
      obtain ⟨room, rfl⟩ : ∃ room, fuel = room + 1 := ⟨fuel - 1, by omega⟩
      rw [compactMembers_cons, List.append_assoc, List.append_assoc, List.cons_append, List.cons_append,
        stringChars_append,
        readMembers_more (readString_string key _) (readValue_compactChars value plain (by omega) rfl),
        readMembers_compactMembers (next :: members) nofun later (by omega), String.ofList_toList]
      rfl

end

/-- A value is read back from its compact text. -/
theorem read?_compact {v : Value} (plain : v.IsPlain maxNesting) : read? v.compact = some v := by
  have read : readValue (v.compactChars.length + 1) maxNesting (v.compactChars ++ []) = some (v, []) :=
    readValue_compactChars v plain (Nat.le_succ _) rfl
  rw [List.append_nil] at read
  rw [read?, readWithin?, compact, String.toList_ofList, read]
  rfl

/-- What was read is read again from its compact text, if its numbers are whole. -/
theorem read?_compact_of_read? {text : String} {v : Value} (read : read? text = some v) (whole : v.all isNoFloat) :
    read? v.compact = some v :=
  read?_compact (isPlain_of_read? read whole)

end LiveTemplate.Value
