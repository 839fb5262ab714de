import LiveTemplate.Filter.Basic
import LiveTemplate.Proofs.Filter.Calendar
import LiveTemplate.Proofs.Value.Digits
import Mathlib.Algebra.Group.Nat.Defs

/-!
Instants in all their notations.  A date with a time and an offset is read back as the second that it was made from,
at whatever offset it was written down; so is a count of seconds.  What the filter for times shows has no offset, so it
is not read again unless a letter for universal time is put behind it.
-/

namespace LiveTemplate.Instant

open Value (digitValues ofDigits)

/-! ### Numbers of fixed width -/

section Padded

variable {width n : Nat}

theorem isDigit_of_mem_padded (width n : Nat) : ∀ c ∈ padded width n, c.isDigit := by
  intro c mem
  rcases List.mem_append.mp mem with zero | digit
  · rw [List.eq_of_mem_replicate zero]
    rfl
  · exact Value.isDigit_of_mem_toDigits n c digit

theorem length_padded (positive : 0 < width) (fits : n < 10 ^ width) : (padded width n).length = width := by
  have atMost := (Nat.length_toDigits_le_iff (by decide) positive).mpr fits
  simp only [padded, List.length_append, List.length_replicate]
  omega

/-- Zeros in front make no difference. -/
theorem ofDigits_padded (width n : Nat) : ofDigits (digitValues (padded width n)) = n := by
  have zeros : ∀ count, (List.replicate count 0).foldl (fun n d => 10 * n + d) 0 = 0 := by
    intro count
    induction count with
    | zero => rfl
    | succ count inductionHypothesis => exact inductionHypothesis
  rw [ofDigits, digitValues, padded, List.map_append, List.foldl_append, List.map_replicate,
    show '0'.toNat - '0'.toNat = 0 from rfl, zeros]
  exact Value.ofDigits_toDigits n

/-- Digits are read as far as their number goes. -/
theorem readFixed_append {digits : List Char} (areDigits : ∀ c ∈ digits, c.isDigit) (value : Nat)
    (rest : List Char) : readFixed value digits.length (digits ++ rest) =
      some ((digitValues digits).foldl (fun n d => 10 * n + d) value, rest) := by
  induction digits generalizing value with
  | nil => rfl
  | cons c digits inductionHypothesis =>
      rw [List.length_cons, List.cons_append, readFixed, Text.digit?_of_isDigit (areDigits c List.mem_cons_self)]
      exact inductionHypothesis (fun d mem => areDigits d (List.mem_cons_of_mem c mem)) _

/-- A number of fixed width is read back. -/
theorem readFixed_padded (positive : 0 < width) (fits : n < 10 ^ width) (rest : List Char) :
    readFixed 0 width (padded width n ++ rest) = some (n, rest) := by
  have read := readFixed_append (isDigit_of_mem_padded width n) 0 rest
  rw [length_padded positive fits] at read
  rw [read]
  exact congrArg (fun n => some (n, rest)) (ofDigits_padded width n)

end Padded

/-! ### Dates with times -/

/-- A date with a time: four digits of the year, and two of all else. -/
def stampChars (date : Date) (separator : Char) (hour minute second : Nat) : List Char :=
  padded 4 date.year.toNat ++ '-' :: padded 2 date.month ++ '-' :: padded 2 date.day ++
    separator :: padded 2 hour ++ ':' :: padded 2 minute ++ ':' :: padded 2 second

theorem dropOneOf_cons {accepted : List Char} {c : Char} (isAccepted : c ∈ accepted) (s : List Char) :
    dropOneOf accepted (c :: s) = some s :=
  if_pos isAccepted

/-- A date with a time is read up to its end. -/
theorem ofDateTimeChars?_stamp {date : Date} (inYears : 0 ≤ date.year ∧ date.year ≤ 9999) (valid : date.isValid)
    {separator : Char} (separates : separator ∈ ['T', 't', ' ']) {hour minute second : Nat}
    (inDay : hour < 24 ∧ minute < 60 ∧ second ≤ 60) (rest : List Char) :
    ofDateTimeChars? (stampChars date separator hour minute second ++ rest) =
      ((dropFraction rest).bind readOffset).bind fun (offset, rest) =>
        let time : Nat := (hour * 60 + minute) * 60 + (if second = 60 then 59 else second)
        if rest.isEmpty then some ⟨date.dayNumber * 86400 + time - offset, second == 60⟩ else none := by
  have isDate : (⟨date.year.toNat, date.month, date.day⟩ : Date) = date := by
    rw [show (date.year.toNat : Int) = date.year by omega]
  have inMonth : date.month < 100 ∧ date.day < 100 := by
    simp only [Date.isValid, Bool.and_eq_true, decide_eq_true_eq] at valid
    have bounds := Date.daysInMonth_bounds date.year date.month
    omega
  have readYear : ∀ rest, readFixed 0 4 (padded 4 date.year.toNat ++ rest) = some (date.year.toNat, rest) :=
    readFixed_padded (by decide) (by omega)
  have readTwo : ∀ {n : Nat}, n < 100 → ∀ rest, readFixed 0 2 (padded 2 n ++ rest) = some (n, rest) :=
    fun fits => readFixed_padded (by decide) fits
  have inTime : hour ≤ 23 ∧ minute ≤ 59 ∧ second ≤ 60 := by omega
  have isText : stampChars date separator hour minute second ++ rest = padded 4 date.year.toNat ++ '-' ::
      (padded 2 date.month ++ '-' :: (padded 2 date.day ++ separator :: (padded 2 hour ++ ':' ::
        (padded 2 minute ++ ':' :: (padded 2 second ++ rest))))) := by
    simp only [stampChars, List.append_assoc, List.cons_append]
  rw [isText]
  simp only [ofDateTimeChars?, Option.bind_eq_bind, readYear, Option.bind_some]
  simp only [readTwo inMonth.1, readTwo inMonth.2, readTwo (show hour < 100 by omega),
    readTwo (show minute < 100 by omega), readTwo (show second < 100 by omega), Option.bind_some,
    dropOneOf_cons (List.mem_singleton_self _), dropOneOf_cons separates]
  simp only [isDate, valid, Option.bind_assoc, decide_eq_true inTime.1, decide_eq_true inTime.2.1,
    decide_eq_true inTime.2.2, Bool.and_true, beq_iff_eq]

/-! ### Offsets and local times -/

/-- An offset of whole minutes from universal time. -/
def offsetChars (minutes : Int) : List Char :=
  (if minutes < 0 then '-' else '+') :: padded 2 (minutes.natAbs / 60) ++ ':' :: padded 2 (minutes.natAbs % 60)

/-- Hours and minutes behind a sign. -/
theorem readOffset_signed {hours minutes : Nat} (inRange : hours < 24 ∧ minutes < 60) {sign : Char}
    (isSign : sign = '+' ∨ sign = '-') : readOffset (sign :: padded 2 hours ++ ':' :: padded 2 minutes) =
      some (if sign = '+' then ((hours * 60 + minutes) * 60 : Int) else -((hours * 60 + minutes) * 60), []) := by
  have notUtc : ¬ (sign = 'Z' ∨ sign = 'z') := by
    rcases isSign with rfl | rfl <;> decide
  have readHours : ∀ rest, readFixed 0 2 (padded 2 hours ++ rest) = some (hours, rest) :=
    readFixed_padded (by decide) (by omega)
  have readMinutes : readFixed 0 2 (padded 2 minutes ++ []) = some (minutes, []) :=
    readFixed_padded (by decide) (by omega) []
  rw [List.append_nil] at readMinutes
  rw [List.cons_append, readOffset, if_neg notUtc, if_pos (isSign.imp_right Or.inl), readHours]
  simp only [Option.bind_eq_bind, Option.bind_some, dropOneOf_cons (List.mem_singleton_self _), readMinutes,
    if_pos inRange]

theorem readOffset_offsetChars {minutes : Int} (inDay : minutes.natAbs < 24 * 60) :
    readOffset (offsetChars minutes) = some (60 * minutes, []) := by
  have inRange : minutes.natAbs / 60 < 24 ∧ minutes.natAbs % 60 < 60 := by omega
  rw [offsetChars]
  by_cases west : minutes < 0
  · rw [if_pos west, readOffset_signed inRange (Or.inr rfl), if_neg (by decide)]
    congr 2
    omega
  · rw [if_neg west, readOffset_signed inRange (Or.inl rfl), if_pos rfl]
    congr 2
    omega

theorem dropFraction_offsetChars (minutes : Int) : dropFraction (offsetChars minutes) = some (offsetChars minutes) := by
  rw [offsetChars]
  split <;> rfl

/-- The year of an instant in universal time. -/
def utcYear (seconds : Int) : Int :=
  (Date.ofDayNumber (seconds / 86400)).year

/-- An instant in the years from 0 to 9999 of universal time. -/
def InYears (seconds : Int) : Prop :=
  0 ≤ utcYear seconds ∧ utcYear seconds ≤ 9999

instance (seconds : Int) : Decidable (InYears seconds) :=
  inferInstanceAs (Decidable (_ ∧ _))

/-- The seconds from the start of the year 0 to the end of the year 9999. -/
theorem inYears_iff {seconds : Int} : InYears seconds ↔ -62167219200 ≤ seconds ∧ seconds ≤ 253402300799 := by
  rw [InYears, utcYear, Date.year_ofDayNumber_iff]
  omega

/-- The date and the time of a second. -/
def clockChars (separator : Char) (seconds : Int) : List Char :=
  let time := (seconds % 86400).toNat
  stampChars (Date.ofDayNumber (seconds / 86400)) separator (time / 3600) (time / 60 % 60) (time % 60)

/-- A second of local time is read back as the second of universal time. -/
theorem ofDateTimeChars?_clock {seconds offset : Int} (inYears : InYears seconds) {separator : Char}
    (separates : separator ∈ ['T', 't', ' ']) {rest : List Char} (noFraction : dropFraction rest = some rest)
    (isOffset : readOffset rest = some (offset, [])) :
    ofDateTimeChars? (clockChars separator seconds ++ rest) = some ⟨seconds - offset, false⟩ := by
  have inDay : 0 ≤ seconds % 86400 ∧ seconds % 86400 < 86400 := by omega
  rw [clockChars, ofDateTimeChars?_stamp inYears (Date.isValid_ofDayNumber _) separates (by omega), noFraction,
    Option.bind_some, isOffset, Option.bind_some, Date.dayNumber_ofDayNumber]
  have noLeap : ¬ (seconds % 86400).toNat % 60 = 60 := by omega
  simp only [List.isEmpty_nil, if_true, noLeap, if_false, beq_eq_false_iff_ne.mpr noLeap]
  congr 2
  omega

/-! ### Texts that stand for an instant -/

/-- A second at an offset of whole minutes, such as 2024-01-02T03:04:05+01:00. -/
def rfc3339 (seconds offset : Int) : String :=
  String.ofList (clockChars 'T' (seconds + 60 * offset) ++ offsetChars offset)

variable {seconds offset : Int}

theorem ofText?_of_dateTime {s : String} {instant : Instant} (read : ofDateTimeChars? s.toList = some instant) :
    ofText? s = some instant := by
  rw [ofText?, read]

theorem ofText?_rfc3339 (inDay : offset.natAbs < 24 * 60) (inYears : InYears (seconds + 60 * offset)) :
    ofText? (rfc3339 seconds offset) = some ⟨seconds, false⟩ := by
  apply ofText?_of_dateTime
  rw [rfc3339, String.toList_ofList, ofDateTimeChars?_clock inYears (by decide) (dropFraction_offsetChars offset)
    (readOffset_offsetChars inDay), Int.add_sub_cancel]

/-- What is shown in these years is a date with a time. -/
theorem toList_render {instant : Instant} (inYears : InYears instant.seconds) :
    let time := (instant.seconds % 86400).toNat
    (render instant).toList = stampChars (Date.ofDayNumber (instant.seconds / 86400)) ' ' (time / 3600)
      (time / 60 % 60) (time % 60 + (if instant.isLeap then 1 else 0)) := by
  have isYear : yearChars (Date.ofDayNumber (instant.seconds / 86400)).year =
      padded 4 (Date.ofDayNumber (instant.seconds / 86400)).year.toNat := if_pos inYears
  rw [render, String.toList_ofList]
  simp only [isYear]
  rfl

/-- What is shown is read again where a letter for universal time is put behind it. -/
theorem ofText?_render_append (inYears : InYears seconds) :
    ofText? (render ⟨seconds, false⟩ ++ "Z") = some ⟨seconds, false⟩ := by
  apply ofText?_of_dateTime
  have isClock : (render ⟨seconds, false⟩).toList = clockChars ' ' seconds := toList_render inYears
  have isUtc : readOffset "Z".toList = some (0, []) := rfl
  rw [String.toList_append, isClock, ofDateTimeChars?_clock inYears (by decide) rfl isUtc, Int.sub_zero]

/-- So different seconds are shown differently. -/
theorem render_injective {seconds' : Int} (inYears : InYears seconds) (inYears' : InYears seconds')
    (same : render ⟨seconds, false⟩ = render ⟨seconds', false⟩) : seconds = seconds' := by
  have read := ofText?_render_append inYears
  rw [same, ofText?_render_append inYears'] at read
  exact (congrArg Instant.seconds (Option.some.inj read)).symm

/-! ### Counts of seconds -/

/-- What begins with a sign is no date. -/
theorem ofDateTimeChars?_of_sign {c : Char} (isSign : c.isDigit = false) (s : List Char) :
    ofDateTimeChars? (c :: s) = none := by
  rw [ofDateTimeChars?, readFixed, Text.digit?_of_not_isDigit isSign]
  rfl

theorem suffix_of_readFixed {value count n : Nat} {s rest : List Char}
    (read : readFixed value count s = some (n, rest)) : rest <:+ s := by
  induction count generalizing value s with
  | zero =>
      cases read
      exact List.suffix_refl _
  | succ count inductionHypothesis =>
      cases s with
      | nil => cases read
      | cons c s =>
          obtain ⟨d, isDigit, read⟩ := Option.bind_eq_some_iff.mp read
          exact (inductionHypothesis read).trans (List.suffix_cons c s)

/-- Digits alone are no date. -/
theorem ofDateTimeChars?_of_digits {s : List Char} (areDigits : ∀ c ∈ s, c.isDigit) : ofDateTimeChars? s = none := by
  rw [ofDateTimeChars?]
  cases read : readFixed 0 4 s with
  | none => rfl
  | some result =>
      obtain ⟨year, rest⟩ := result
      cases rest with
      | nil => rfl
      | cons c rest =>
          have isDigit := areDigits c ((suffix_of_readFixed read).subset List.mem_cons_self)
          have noDash : c ∉ ['-'] := by
            rintro isDash
            rw [List.mem_singleton.mp isDash] at isDigit
            cases isDigit
          simp only [Option.bind_eq_bind, Option.bind_some, dropOneOf, if_neg noDash, Option.bind_none]

/-- A count behind its sign. -/
def readMagnitude (negative : Bool) (s : List Char) : Option Int :=
  match Value.readDigits s with
  | ([], _) => none
  | (digits, []) =>
    let n : Int := if negative then -ofDigits digits else ofDigits digits
    if -0x8000000000000000 ≤ n ∧ n < 0x8000000000000000 then some n else none
  | _ => none

theorem readSigned?_cons (c : Char) (s : List Char) : readSigned? (c :: s) =
    if c = '+' then readMagnitude false s else if c = '-' then readMagnitude true s
      else readMagnitude false (c :: s) := by
  split_ifs with isPlus isMinus
  · rw [isPlus]
    rfl
  · rw [isMinus]
    rfl
  · unfold readSigned?
    split
    next isSplit =>
    split at isSplit
    · next here => exact absurd (List.cons.inj here).1 isPlus
    · next here => exact absurd (List.cons.inj here).1 isMinus
    · cases isSplit
      rfl

theorem readSigned?_of_isDigit {c : Char} (isDigit : c.isDigit) (s : List Char) :
    readSigned? (c :: s) = readMagnitude false (c :: s) := by
  have other : ∀ d, d.isDigit = false → c ≠ d := by
    rintro d noDigit rfl
    exact Bool.false_ne_true (noDigit.symm.trans isDigit)
  rw [readSigned?_cons, if_neg (other '+' rfl), if_neg (other '-' rfl)]

theorem readMagnitude_toDigits {negative : Bool} {n : Nat} {i : Int}
    (signed : (if negative then -(n : Int) else n) = i) (fits : -0x8000000000000000 ≤ i ∧ i < 0x8000000000000000) :
    readMagnitude negative (Nat.toDigits 10 n) = some i := by
  obtain ⟨c, rest, digits, -, -⟩ := Value.exists_toDigits_eq_cons n
  have ends : ∀ c ∈ ([] : List Char).head?, c.isDigit = false := nofun
  have read := Value.readDigits_toDigits n ends
  have formed := Value.ofDigits_toDigits n
  rw [List.append_nil] at read
  rw [digits] at read formed ⊢
  rw [readMagnitude, read]
  simp only [digitValues, List.map_cons] at formed ⊢
  rw [formed, signed, if_pos fits]

theorem readMagnitude_append (negative : Bool) {digits : List Char} (areDigits : ∀ c ∈ digits, c.isDigit) {c : Char}
    (noDigit : c.isDigit = false) (rest : List Char) : readMagnitude negative (digits ++ c :: rest) = none := by
  have ends : ∀ d ∈ (c :: rest).head?, d.isDigit = false := by
    rintro d isHead
    cases isHead
    exact noDigit
  rw [readMagnitude, Value.readDigits_append areDigits ends]
  cases digits <;> rfl

/-- A count of seconds is read back. -/
theorem readSigned?_toString (fits : -0x8000000000000000 ≤ seconds ∧ seconds < 0x8000000000000000) :
    readSigned? (toString seconds).toList = some seconds := by
  rw [Value.toList_toString]
  by_cases negative : seconds < 0
  · have signed : (if true then -(seconds.natAbs : Int) else seconds.natAbs) = seconds := by
      rw [if_pos rfl]
      omega
    rw [if_pos negative, List.singleton_append, readSigned?_cons, if_neg (by decide), if_pos rfl]
    exact readMagnitude_toDigits signed fits
  · have signed : (if false then -(seconds.natAbs : Int) else seconds.natAbs) = seconds := by
      rw [if_neg Bool.false_ne_true]
      omega
    obtain ⟨c, rest, digits, isDigit, -⟩ := Value.exists_toDigits_eq_cons seconds.natAbs
    rw [if_neg negative, List.nil_append, digits, readSigned?_of_isDigit isDigit, ← digits]
    exact readMagnitude_toDigits signed fits

/-- A count of seconds stands for the same instant as a number and as a text. -/
theorem ofText?_toString (fits : -0x8000000000000000 ≤ seconds ∧ seconds < 0x8000000000000000) :
    ofText? (toString seconds) = ofSeconds? seconds := by
  have noDate : ofDateTimeChars? (toString seconds).toList = none := by
    rw [Value.toList_toString]
    split_ifs
    · exact ofDateTimeChars?_of_sign rfl _
    · exact ofDateTimeChars?_of_digits (Value.isDigit_of_mem_toDigits _)
  rw [ofText?, noDate, readSigned?_toString fits]
  rfl

/-- The instants of these years are all in range. -/
theorem ofSeconds?_of_inYears (inYears : InYears seconds) : ofSeconds? seconds = some ⟨seconds, false⟩ := by
  rw [inYears_iff] at inYears
  have inRange : earliest ≤ seconds ∧ seconds ≤ latest := by
    simp only [earliest, latest]
    omega
  exact if_pos inRange

/-! ### What is shown is not read again -/

theorem padded_ne_nil (width n : Nat) : padded width n ≠ [] := by
  intro isEmpty
  have digits := (List.append_eq_nil_iff.mp isEmpty).2
  exact Nat.ne_of_gt Nat.length_toDigits_pos (List.length_eq_zero_iff.mpr digits)

/-- A year with more behind it is no count of seconds. -/
theorem readSigned?_yearChars (year : Int) (rest : List Char) : readSigned? (yearChars year ++ '-' :: rest) = none := by
  have unread (negative : Bool) (n : Nat) : readMagnitude negative (padded 4 n ++ '-' :: rest) = none :=
    readMagnitude_append negative (isDigit_of_mem_padded 4 n) rfl rest
  rw [yearChars]
  split_ifs
  · cases digits : padded 4 year.toNat with
    | nil => exact absurd digits (padded_ne_nil 4 _)
    | cons c others =>
        have isDigit := isDigit_of_mem_padded 4 year.toNat c (digits ▸ List.mem_cons_self)
        rw [List.cons_append, readSigned?_of_isDigit isDigit, ← List.cons_append, ← digits]
        exact unread false _
  · exact unread true _
  · exact unread false _

/-- What is shown of an instant stands for none. -/
theorem ofText?_render (instant : Instant) : ofText? (render instant) = none := by
  have noDate : ofDateTimeChars? (render instant).toList = none := by
    by_cases inYears : InYears instant.seconds
    · have isTime : (instant.seconds % 86400).toNat / 3600 < 24 ∧ (instant.seconds % 86400).toNat / 60 % 60 < 60 ∧
          (instant.seconds % 86400).toNat % 60 + (if instant.isLeap then 1 else 0) ≤ 60 := by
        split <;> omega
      have read := ofDateTimeChars?_stamp inYears (Date.isValid_ofDayNumber _) (show ' ' ∈ ['T', 't', ' '] by decide)
        isTime []
      rw [List.append_nil] at read
      rw [toList_render inYears, read]
      rfl
    · have signed : ¬ (0 ≤ (Date.ofDayNumber (instant.seconds / 86400)).year ∧
          (Date.ofDayNumber (instant.seconds / 86400)).year ≤ 9999) := inYears
      have isSign : (if (Date.ofDayNumber (instant.seconds / 86400)).year < 0 then '-' else '+').isDigit = false := by
        split <;> rfl
      rw [render, String.toList_ofList, yearChars, if_neg signed]
      exact ofDateTimeChars?_of_sign isSign _
  have noCount : readSigned? (render instant).toList = none := by
    rw [render, String.toList_ofList]
    simp only [List.append_assoc, List.cons_append]
    exact readSigned?_yearChars _ _
  rw [ofText?, noDate, noCount]
  rfl

end LiveTemplate.Instant

namespace LiveTemplate

open Instant

namespace Builtin

theorem formatTime_of_some {v : Value} {instant : Instant} (isInstant : Instant.ofValue? v = some instant) :
    formatTime.apply v = .string instant.render := by
  simp only [apply, isInstant]

theorem formatTime_of_text {s : String} {instant : Instant} (isInstant : ofText? s = some instant) :
    formatTime.apply (.string s) = .string instant.render :=
  formatTime_of_some (by rw [ofValue?, isInstant])

/-- What the filter for times gives is left alone by it. -/
theorem formatTime_formatTime (v : Value) : formatTime.apply (formatTime.apply v) = formatTime.apply v := by
  cases isInstant : Instant.ofValue? v with
  | none => simp only [apply, isInstant]
  | some instant =>
      have unread : Instant.ofValue? (.string instant.render) = none := ofText?_render instant
      rw [formatTime_of_some isInstant]
      simp only [apply, unread]

/-- A number of seconds is shown as the instant. -/
theorem formatTime_number {w : Whole} (inYears : InYears w.val) :
    formatTime.apply (.number (.whole w)) = .string (render ⟨w.val, false⟩) := by
  have fits : w.val < 0x8000000000000000 := by
    have bounds := inYears_iff.mp inYears
    omega
  apply formatTime_of_some
  show w.toSigned?.bind ofSeconds? = _
  rw [Whole.toSigned?, if_pos fits, Option.bind_some, ofSeconds?_of_inYears inYears]

end Builtin

/-- The filter for times keeps instants.  A second of the years 0 to 9999 of universal time is shown alike when it is
given as a number, as a decimal text, and as a date with time at any offset of less than a day for which the local year
is one of these too; and so is what is shown, with a letter for universal time behind it.  Different seconds are shown
differently.  And what is shown of any value is shown unchanged. -/
theorem formatTime_keepsInstants :
    (∀ n offset : Int, InYears n → offset.natAbs < 24 * 60 → InYears (n + 60 * offset) →
      ∃ (w : Whole) (text : String), w.val = n ∧
        Builtin.formatTime.apply (.number (.whole w)) = .string text ∧
        Builtin.formatTime.apply (.string (toString n)) = .string text ∧
        Builtin.formatTime.apply (.string (rfc3339 n offset)) = .string text ∧
        Builtin.formatTime.apply (.string (text ++ "Z")) = .string text) ∧
    (∀ w w' : Whole, InYears w.val → InYears w'.val →
      Builtin.formatTime.apply (.number (.whole w)) = Builtin.formatTime.apply (.number (.whole w')) → w = w') ∧
    ∀ v, Builtin.formatTime.apply (Builtin.formatTime.apply v) = Builtin.formatTime.apply v := by
  refine ⟨fun n offset inYears inDay inLocalYears => ?_, fun w w' inYears inYears' same => ?_,
    Builtin.formatTime_formatTime⟩
  · have bounds := inYears_iff.mp inYears
    have fits : -0x8000000000000000 ≤ n ∧ n < 0x8000000000000000 := by omega
    have isCount : ofText? (toString n) = some ⟨n, false⟩ :=
      (ofText?_toString fits).trans (ofSeconds?_of_inYears inYears)
    refine ⟨⟨n, by omega⟩, render ⟨n, false⟩, rfl, Builtin.formatTime_number inYears, ?_, ?_, ?_⟩
    · exact Builtin.formatTime_of_text isCount
    · exact Builtin.formatTime_of_text (ofText?_rfc3339 inDay inLocalYears)
    · exact Builtin.formatTime_of_text (ofText?_render_append inYears)
  · rw [Builtin.formatTime_number inYears, Builtin.formatTime_number inYears'] at same
    have sameSeconds := render_injective inYears inYears' (Value.string.inj same)
    cases w
    cases w'
    cases sameSeconds
    rfl

/-- The last second of the February of 2100 is in March an hour and a half to the east. -/
theorem formatTime_keepsInstants_february :
    (InYears 4107542399 ∧ InYears (4107542399 + 60 * 90)) ∧
      rfc3339 4107542399 90 = "2100-03-01T01:29:59+01:30" ∧
      (∃ (w : Whole) (text : String), w.val = 4107542399 ∧
        Builtin.formatTime.apply (.number (.whole w)) = .string text ∧
        Builtin.formatTime.apply (.string "4107542399") = .string text ∧
        Builtin.formatTime.apply (.string "2100-03-01T01:29:59+01:30") = .string text ∧
        Builtin.formatTime.apply (.string (text ++ "Z")) = .string text) ∧
      Builtin.formatTime.apply (.number (.whole ⟨4107542399, by decide⟩)) ≠
        Builtin.formatTime.apply (.number (.whole ⟨4107542400, by decide⟩)) := by
  have inYears : InYears 4107542399 ∧ InYears (4107542399 + 60 * 90) ∧ InYears 4107542400 := by decide
  have isText : rfc3339 4107542399 90 = "2100-03-01T01:29:59+01:30" := by decide +kernel
  have notations := formatTime_keepsInstants.1 4107542399 90 inYears.1 (by decide) inYears.2.1
  have isDecimal : toString (4107542399 : Int) = "4107542399" := by decide +kernel
  rw [isText, isDecimal] at notations
  have differ : (⟨4107542399, by decide⟩ : Whole) ≠ ⟨4107542400, by decide⟩ := by decide
  exact ⟨⟨inYears.1, inYears.2.1⟩, isText, notations, fun same => differ (formatTime_keepsInstants.2.1
    ⟨4107542399, by decide⟩ ⟨4107542400, by decide⟩ inYears.1 inYears.2.2 same)⟩

end LiveTemplate
