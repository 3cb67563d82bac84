import TapeMachine.Proofs.Scanning
import TapeMachine.Text.Blank
import TapeMachine.Text.Encoding

/-! # Encoded text as a source

A character below 128 is encoded as the byte of its number, and every byte of any other character is
128 or more. The eight instruction characters are of the first kind, so a text has the same symbols
whether it is read by characters or by the bytes of its encoding, and white space has none.
-/

namespace TapeMachine

namespace Text

/-- A character is one small byte or some large ones. -/
theorem utf8EncodeChar_cases (char : Char) :
    (char.toNat < 128 ∧ String.utf8EncodeChar char = [char.toUInt8]) ∨
      (128 ≤ char.toNat ∧ ∀ byte ∈ String.utf8EncodeChar char, 128 ≤ byte.toNat) := by
  have number : char.val.toNat = char.toNat := rfl
  by_cases small : char.toNat < 128
  · refine .inl ⟨small, ?_⟩
    unfold String.utf8EncodeChar
    rw [if_pos (by omega)]
    rfl
  · refine .inr ⟨Nat.le_of_not_lt small, ?_⟩
    unfold String.utf8EncodeChar
    rw [if_neg (by omega)]
    split
    · simp
      omega
    · split
      · simp
        omega
      · simp
        omega

/-- A small character can be read from its byte. -/
theorem ofUInt8_toUInt8 {char : Char} (small : char.toNat < 128) :
    Char.ofUInt8 char.toUInt8 = char := by
  have number : char.val.toNat = char.toNat := rfl
  apply Char.ext
  apply UInt32.toNat_inj.mp
  change char.val.toUInt8.toUInt32.toNat = char.val.toNat
  rw [UInt8.toNat_toUInt32, UInt32.toNat_toUInt8]
  omega

theorem encode_eq_flatMap (text : String) :
    encode text = text.toList.flatMap String.utf8EncodeChar := by
  conv => lhs; rw [← String.ofList_toList (s := text)]
  rw [encode, String.toByteArray_ofList, List.utf8Encode, List.data_toByteArray]

@[simp] theorem encode_append (first second : String) :
    encode (first ++ second) = encode first ++ encode second := by
  simp [encode_eq_flatMap]

/-- The size of a text is the number of its bytes. -/
theorem length_encode (text : String) : (encode text).length = size text.toList := by
  rw [encode_eq_flatMap]
  induction text.toList with
  | nil => rfl
  | cons char rest ih =>
    rw [List.flatMap_cons, List.length_append, ih, String.length_utf8EncodeChar, size]

/-- Text can be read from its bytes. -/
@[simp] theorem decode?_encode (text : String) : decode? (encode text) = some text := by
  have valid : (⟨text.toByteArray.data⟩ : ByteArray).IsValidUTF8 := text.isValidUTF8
  rw [decode?, encode, Array.toArray_toList, String.fromUTF8?, dif_pos valid]
  rfl

/-- A line feed among the bytes is one among the characters. -/
theorem mem_encode_lineFeed {text : String} (member : 10 ∈ encode text) : '\n' ∈ text.toList := by
  rw [encode_eq_flatMap] at member
  obtain ⟨char, listed, within⟩ := List.mem_flatMap.mp member
  obtain ⟨small, alone⟩ | ⟨-, large⟩ := utf8EncodeChar_cases char
  · rw [alone, List.mem_singleton] at within
    have same := ofUInt8_toUInt8 small
    rw [← within] at same
    rw [← same] at listed
    exact listed
  · exact absurd (large _ within) (by decide)

end Text

namespace Symbol

theorem toNat_toChar_lt (symbol : Symbol) : symbol.toChar.toNat < 128 := by
  rcases symbol with action | _ | _
  · cases action <;> decide
  · decide
  · decide

theorem ofChar?_of_le {char : Char} (large : 128 ≤ char.toNat) : ofChar? char = none := by
  rw [Option.eq_none_iff_forall_ne_some]
  intro symbol found
  obtain rfl := ofChar?_eq_some_iff.mp found
  exact Nat.not_lt_of_le large (toNat_toChar_lt symbol)

theorem ofByte?_of_le {byte : UInt8} (large : 128 ≤ byte.toNat) : ofByte? byte = none := by
  apply ofChar?_of_le
  change 128 ≤ byte.toUInt32.toNat
  rwa [UInt8.toNat_toUInt32]

/-- The bytes of a character are read as the character is. -/
theorem filterMap_utf8EncodeChar (char : Char) :
    (String.utf8EncodeChar char).filterMap ofByte? = (ofChar? char).toList := by
  obtain ⟨small, alone⟩ | ⟨large, each⟩ := Text.utf8EncodeChar_cases char
  · rw [alone, List.filterMap_cons, List.filterMap_nil, ofByte?, Text.ofUInt8_toUInt8 small]
    cases ofChar? char <;> rfl
  · rw [ofChar?_of_le large, Option.toList_none, List.filterMap_eq_nil_iff]
    exact fun byte listed => ofByte?_of_le (each byte listed)

/-- White space is a comment. -/
theorem ofChar?_of_isWhiteSpace {char : Char} (white : Text.isWhiteSpace char = true) :
    ofChar? char = none := by
  rw [Option.eq_none_iff_forall_ne_some]
  intro symbol found
  obtain rfl := ofChar?_eq_some_iff.mp found
  rcases symbol with action | _ | _
  · cases action <;> cases white
  · cases white
  · cases white

end Symbol

namespace Source

/-- A text has the same symbols by its bytes as by its characters. -/
theorem symbols_encode (text : String) :
    symbols (Text.encode text) = text.toList.filterMap Symbol.ofChar? := by
  rw [symbols, Text.encode_eq_flatMap]
  induction text.toList with
  | nil => rfl
  | cons char rest ih =>
    rw [List.flatMap_cons, List.filterMap_append, ih, Symbol.filterMap_utf8EncodeChar]
    cases found : Symbol.ofChar? char with
    | none => rw [List.filterMap_cons_none found]; rfl
    | some symbol => rw [List.filterMap_cons_some found]; rfl

theorem symbols_encode_of_white {text : String}
    (white : ∀ char ∈ text.toList, Text.isWhiteSpace char = true) :
    symbols (Text.encode text) = [] := by
  rw [symbols_encode, List.filterMap_eq_nil_iff]
  exact fun char listed => Symbol.ofChar?_of_isWhiteSpace (white char listed)

end Source

end TapeMachine
