import LiveTemplate.Filter.Basic
import Mathlib.Data.List.Basic

/-!
Base64 both ways.  Every byte sequence is read back from its encoded form, and whatever is read is the encoded form of
what it is read as: a group of four symbols and the three bytes behind it are the same number, written in two ways.
For texts the bytes are those of UTF-8, and not every byte sequence is a text.
-/

namespace LiveTemplate

namespace Base64

/-! ### Symbols -/

section Symbols

variable {c : Char} {n : Nat}

/-- A symbol reads back as its number. -/
theorem sextet?_symbol (small : n < 64) : sextet? (symbol n) = some n := by
  revert n
  decide

/-- No symbol is the padding. -/
theorem symbol_ne_pad (small : n < 64) : symbol n ≠ '=' := by
  revert n
  decide

private theorem ofNat_eq {m : Nat} (isNumber : m = c.toNat) : Char.ofNat m = c := by
  rw [isNumber, Char.ofNat_toNat]

/-- A number is read from its own symbol only. -/
theorem symbol_of_sextet? (read : sextet? c = some n) : n < 64 ∧ symbol n = c := by
  simp only [sextet?, Char.le_def, UInt32.le_iff_toNat_le] at read
  split_ifs at read with upper lower digit plus slash <;> obtain rfl := Option.some.inj read
  · have within : 65 ≤ c.toNat ∧ c.toNat ≤ 90 := upper
    show c.toNat - 65 < 64 ∧ symbol (c.toNat - 65) = c
    rw [symbol, if_pos (by omega)]
    exact ⟨by omega, ofNat_eq (show 65 + (c.toNat - 65) = c.toNat by omega)⟩
  · have within : 97 ≤ c.toNat ∧ c.toNat ≤ 122 := lower
    show c.toNat - 97 + 26 < 64 ∧ symbol (c.toNat - 97 + 26) = c
    rw [symbol, if_neg (by omega), if_pos (by omega)]
    exact ⟨by omega, ofNat_eq (show 97 + (c.toNat - 97 + 26 - 26) = c.toNat by omega)⟩
  · have within : 48 ≤ c.toNat ∧ c.toNat ≤ 57 := digit
    show c.toNat - 48 + 52 < 64 ∧ symbol (c.toNat - 48 + 52) = c
    rw [symbol, if_neg (by omega), if_neg (by omega), if_pos (by omega)]
    exact ⟨by omega, ofNat_eq (show 48 + (c.toNat - 48 + 52 - 52) = c.toNat by omega)⟩
  · exact ⟨by decide, plus.symm⟩
  · exact ⟨by decide, slash.symm⟩

/-- What reads as a number is not the padding. -/
theorem ne_pad_of_sextet? (read : sextet? c = some n) : c ≠ '=' := by
  obtain ⟨small, rfl⟩ := symbol_of_sextet? read
  exact symbol_ne_pad small

end Symbols

/-! ### Groups -/

section Groups

variable {a b c d : Char} {p q r t : Nat}

/-- Two symbols and padding hold one byte. -/
theorem decode_two (first : sextet? a = some p) (second : sextet? b = some q) :
    decode [a, b, '=', '='] =
      let n := p * 64 + q
      if n % 16 = 0 then some [UInt8.ofNat (n / 16)] else none := by
  rw [decode.eq_2, first, second]
  rfl

/-- Three symbols and padding hold two bytes. -/
theorem decode_three (first : sextet? a = some p) (second : sextet? b = some q) (third : sextet? c = some r) :
    decode [a, b, c, '='] =
      let n := (p * 64 + q) * 64 + r
      if n % 4 = 0 then some [UInt8.ofNat (n / 1024), UInt8.ofNat (n / 4 % 256)] else none := by
  rw [decode.eq_3 a b c (ne_pad_of_sextet? third), first, second, third]
  rfl

/-- Four symbols hold three bytes. -/
theorem decode_four (first : sextet? a = some p) (second : sextet? b = some q) (third : sextet? c = some r)
    (fourth : sextet? d = some t) (rest : List Char) :
    decode (a :: b :: c :: d :: rest) =
      let n := ((p * 64 + q) * 64 + r) * 64 + t
      (decode rest).map fun bytes =>
        UInt8.ofNat (n / 65536) :: UInt8.ofNat (n / 256 % 256) :: UInt8.ofNat (n % 256) :: bytes := by
  have noPad := ne_pad_of_sextet? fourth
  rw [decode.eq_4 a b c d rest (fun _ isPad _ => noPad isPad) (fun isPad _ => noPad isPad), first, second, third,
    fourth]
  cases decode rest <;> rfl

end Groups

/-! ### Bytes -/

private theorem byte_eq {b : UInt8} {n : Nat} (isNumber : n = b.toNat) : UInt8.ofNat n = b := by
  rw [isNumber, UInt8.ofNat_toNat]

/-- Bytes are read back from their encoded form. -/
theorem decode_encode : ∀ bytes : List UInt8, decode (encode bytes) = some bytes
  | [] => rfl
  | [a] => by
      have firstSmall := a.toNat_lt
      simp only [encode]
      rw [decode_two (sextet?_symbol (by omega)) (sextet?_symbol (by omega))]
      simp only []
      rw [if_pos (by omega), byte_eq (b := a) (by omega)]
  | [a, b] => by
      have firstSmall := a.toNat_lt
      have secondSmall := b.toNat_lt
      simp only [encode]
      rw [decode_three (sextet?_symbol (by omega)) (sextet?_symbol (by omega)) (sextet?_symbol (by omega))]
      simp only []
      rw [if_pos (by omega), byte_eq (b := a) (by omega), byte_eq (b := b) (by omega)]
  | a :: b :: c :: rest => by
      have firstSmall := a.toNat_lt
      have secondSmall := b.toNat_lt
      have thirdSmall := c.toNat_lt
      simp only [encode]
      rw [decode_four (sextet?_symbol (by omega)) (sextet?_symbol (by omega)) (sextet?_symbol (by omega))
        (sextet?_symbol (by omega)), decode_encode rest]
      simp only [Option.map_some]
      rw [byte_eq (b := a) (by omega), byte_eq (b := b) (by omega), byte_eq (b := c) (by omega)]

/-- What is read is the encoded form of what it is read as. -/
theorem encode_of_decode {symbols : List Char} {bytes : List UInt8} (read : decode symbols = some bytes) :
    encode bytes = symbols := by
  induction symbols using decode.induct generalizing bytes with
  | case1 =>
      cases read
      rfl
  | case2 a b =>
      simp only [decode.eq_2, Option.bind_eq_bind, Option.bind_eq_some_iff] at read
      obtain ⟨p, first, q, second, read⟩ := read
      obtain ⟨firstSmall, rfl⟩ := symbol_of_sextet? first
      obtain ⟨secondSmall, rfl⟩ := symbol_of_sextet? second
      split_ifs at read with zeros
      obtain rfl := Option.some.inj read
      have firstBits : (p * 64 + q) / 16 % 2 ^ 8 / 4 = p := by omega
      have secondBits : (p * 64 + q) / 16 % 2 ^ 8 % 4 * 16 = q := by omega
      simp only [encode, UInt8.toNat_ofNat', firstBits, secondBits]
  | case3 a b c noPad =>
      simp only [decode.eq_3 a b c noPad, Option.bind_eq_bind, Option.bind_eq_some_iff] at read
      obtain ⟨p, first, q, second, r, third, read⟩ := read
      obtain ⟨firstSmall, rfl⟩ := symbol_of_sextet? first
      obtain ⟨secondSmall, rfl⟩ := symbol_of_sextet? second
      obtain ⟨thirdSmall, rfl⟩ := symbol_of_sextet? third
      split_ifs at read with zeros
      obtain rfl := Option.some.inj read
      generalize isNumber : (p * 64 + q) * 64 + r = n at zeros ⊢
      have whole : n / 1024 % 2 ^ 8 * 256 + n / 4 % 256 % 2 ^ 8 = n / 4 := by omega
      have firstBits : n / 4 / 1024 = p := by omega
      have secondBits : n / 4 / 16 % 64 = q := by omega
      have thirdBits : n / 4 % 16 * 4 = r := by omega
      simp only [encode, UInt8.toNat_ofNat', whole, firstBits, secondBits, thirdBits]
  | case4 a b c d rest noPads noPad inductionHypothesis =>
      simp only [decode.eq_4 a b c d rest noPads noPad, Option.bind_eq_bind, Option.bind_eq_some_iff] at read
      obtain ⟨p, first, q, second, r, third, t, fourth, later, readLater, read⟩ := read
      obtain ⟨firstSmall, rfl⟩ := symbol_of_sextet? first
      obtain ⟨secondSmall, rfl⟩ := symbol_of_sextet? second
      obtain ⟨thirdSmall, rfl⟩ := symbol_of_sextet? third
      obtain ⟨fourthSmall, rfl⟩ := symbol_of_sextet? fourth
      obtain rfl := Option.some.inj read
      generalize isNumber : ((p * 64 + q) * 64 + r) * 64 + t = n
      have whole : (n / 65536 % 2 ^ 8 * 256 + n / 256 % 256 % 2 ^ 8) * 256 + n % 256 % 2 ^ 8 = n := by omega
      have firstBits : n / 262144 = p := by omega
      have secondBits : n / 4096 % 64 = q := by omega
      have thirdBits : n / 64 % 64 = r := by omega
      have fourthBits : n % 64 = t := by omega
      simp only [encode, UInt8.toNat_ofNat', whole, firstBits, secondBits, thirdBits, fourthBits,
        inductionHypothesis readLater]
  | case5 symbols notNil notTwo notThree notFour =>
      rw [decode.eq_5 symbols notNil notTwo notThree notFour] at read
      cases read

/-- Three bytes take four symbols. -/
theorem length_encode : ∀ bytes : List UInt8, (encode bytes).length = (bytes.length + 2) / 3 * 4
  | [] => rfl
  | [_] | [_, _] => by simp [encode]
  | a :: b :: c :: rest => by
      simp only [encode, List.length_cons, length_encode rest]
      omega

/-! ### Texts -/

/-- The bytes from a position on, one after the other. -/
private theorem toList_loop (bytes : ByteArray) (i : Nat) (done : List UInt8) :
    ByteArray.toList.loop bytes i done = done.reverse ++ bytes.data.toList.drop i := by
  fun_induction ByteArray.toList.loop bytes i done with
  | case1 i done inside inductionHypothesis =>
      have inData : i < bytes.data.toList.length := inside
      have byte : bytes.get! i = bytes.data.toList[i] := getElem!_pos bytes.data i inside
      rw [inductionHypothesis, List.drop_eq_getElem_cons inData, byte, List.reverse_cons, List.append_assoc]
      rfl
  | case2 i done outside =>
      rw [List.drop_eq_nil_of_le (Nat.le_of_not_lt outside), List.append_nil]

theorem toList_eq (bytes : ByteArray) : bytes.toList = bytes.data.toList :=
  toList_loop bytes 0 []

/-- The bytes of a text are those of its characters. -/
theorem toList_toUTF8 (s : String) : s.toUTF8.toList = s.toList.flatMap String.utf8EncodeChar := by
  rw [toList_eq, String.toUTF8_eq_toByteArray, ← String.utf8Encode_toList, List.utf8Encode,
    List.toList_data_toByteArray]

/-- A text has no more characters than bytes. -/
theorem length_le_toUTF8 (s : String) : s.toList.length ≤ s.toUTF8.toList.length := by
  rw [toList_toUTF8]
  generalize s.toList = chars
  induction chars with
  | nil => exact Nat.zero_le _
  | cons c rest inductionHypothesis =>
      have positive : 0 < (String.utf8EncodeChar c).length := String.length_utf8EncodeChar c ▸ c.utf8Size_pos
      rw [List.flatMap_cons, List.length_append, List.length_cons]
      omega

/-- A text is read from its encoded form, and from nothing else. -/
theorem decodeText?_eq_some_iff {s text : String} : decodeText? s = some text ↔ s = encodeText text := by
  constructor
  · intro read
    obtain ⟨bytes, readBytes, isText⟩ := Option.bind_eq_some_iff.mp read
    rw [String.fromUTF8?] at isText
    split_ifs at isText with valid
    obtain rfl := Option.some.inj isText
    have sameBytes : (String.fromUTF8 ⟨bytes.toArray⟩ valid).toUTF8.toList = bytes := toList_eq _
    rw [encodeText, sameBytes, encode_of_decode readBytes, String.ofList_toList]
  · rintro rfl
    have sameBytes : (⟨text.toUTF8.toList.toArray⟩ : ByteArray) = text.toByteArray := by rw [toList_eq]; rfl
    rw [decodeText?, encodeText, String.toList_ofList, decode_encode]
    simp only [Option.bind_eq_bind, Option.bind_some]
    rw [sameBytes, String.fromUTF8?, dif_pos text.isValidUTF8]
    rfl

/-- Texts with the same encoding are the same. -/
theorem encodeText_injective : Function.Injective encodeText := fun _ _ same =>
  Option.some.inj ((decodeText?_eq_some_iff.mpr rfl).symm.trans (decodeText?_eq_some_iff.mpr same))

theorem encodeText_empty : encodeText "" = "" := by
  decide +kernel

/-- Only the empty text is its own encoded form, for any other is shorter than that. -/
theorem eq_encodeText_iff {s : String} : s = encodeText s ↔ encodeText s = "" := by
  constructor
  · intro same
    have length : s.toList.length = (s.toUTF8.toList.length + 2) / 3 * 4 := by
      conv_lhs => rw [same, encodeText, String.toList_ofList, length_encode]
    have atMost := length_le_toUTF8 s
    have noChars : s.toList.length = 0 := by omega
    exact same.symm.trans (String.toList_eq_nil_iff.mp (List.length_eq_zero_iff.mp noChars))
  · intro isEmpty
    rw [isEmpty]
    exact encodeText_injective (isEmpty.trans encodeText_empty.symm)

end Base64

/-! ### The filters -/

namespace Builtin

theorem base64Encode_string (s : String) :
    base64Encode.apply (.string s) = .string (Base64.encodeText s) := by
  simp only [apply, Value.toText, Value.plainChars, String.ofList_toList]

/-- What cannot be decoded is passed through. -/
theorem base64Decode_of_none {s : String} (undecodable : Base64.decodeText? s = none) :
    base64Decode.apply (.string s) = .string s := by
  simp only [apply, onString, undecodable, Option.getD_none]

/-- What was encoded is decoded. -/
theorem base64Decode_encodeText (s : String) :
    base64Decode.apply (.string (Base64.encodeText s)) = .string s := by
  simp only [apply, onString, Base64.decodeText?_eq_some_iff.mpr rfl, Option.getD_some]

end Builtin

/-- The filters for base64 invert each other.  Any value that is encoded is decoded to its text.  A string either is
left alone by decoding, which is so just if it encodes no text or is empty, or is what encoding makes of its decoded
form; so no text is decoded from two strings. -/
theorem base64_mutuallyInverse :
    (∀ v, Builtin.base64Decode.apply (Builtin.base64Encode.apply v) = .string v.toText) ∧
    (∀ s, Builtin.base64Decode.apply (.string s) = .string s ↔ Base64.decodeText? s = none ∨ s = "") ∧
    (∀ s, Builtin.base64Decode.apply (.string s) = .string s ∨
      Builtin.base64Encode.apply (Builtin.base64Decode.apply (.string s)) = .string s) ∧
    ∀ s t, (Base64.decodeText? s).isSome → (Base64.decodeText? t).isSome →
      Builtin.base64Decode.apply (.string s) = Builtin.base64Decode.apply (.string t) → s = t := by
  refine ⟨fun v => Builtin.base64Decode_encodeText v.toText, fun s => ?_, fun s => ?_, ?_⟩
  · cases read : Base64.decodeText? s with
    | none => simp [Builtin.base64Decode_of_none read]
    | some text =>
        obtain rfl := Base64.decodeText?_eq_some_iff.mp read
        rw [Builtin.base64Decode_encodeText]
        simp [Base64.eq_encodeText_iff]
  · cases read : Base64.decodeText? s with
    | none => exact Or.inl (Builtin.base64Decode_of_none read)
    | some text =>
        obtain rfl := Base64.decodeText?_eq_some_iff.mp read
        rw [Builtin.base64Decode_encodeText]
        exact Or.inr (Builtin.base64Encode_string text)
  · intro s t hasText hasText' same
    obtain ⟨text, read⟩ := Option.isSome_iff_exists.mp hasText
    obtain ⟨text', read'⟩ := Option.isSome_iff_exists.mp hasText'
    obtain rfl := Base64.decodeText?_eq_some_iff.mp read
    obtain rfl := Base64.decodeText?_eq_some_iff.mp read'
    rw [Builtin.base64Decode_encodeText, Builtin.base64Decode_encodeText] at same
    rw [Value.string.inj same]

theorem base64_mutuallyInverse_accented :
    (Base64.decodeText? "w6k=").isSome ∧ (Base64.decodeText? "w6g=").isSome ∧
      Builtin.base64Decode.apply (.string "w6k=") ≠ Builtin.base64Decode.apply (.string "w6g=") :=
  have decodes : (Base64.decodeText? "w6k=").isSome ∧ (Base64.decodeText? "w6g=").isSome := by decide +kernel
  have differ : "w6k=" ≠ "w6g=" := by decide
  ⟨decodes.1, decodes.2, fun same => differ (base64_mutuallyInverse.2.2.2 _ _ decodes.1 decodes.2 same)⟩

end LiveTemplate
