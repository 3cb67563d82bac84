import TapeMachine.Source.Scanner

/-! # Bytes, symbols and the scanner

Each symbol is written as one byte, and no other byte is read as that symbol. Scanning a source to
its end therefore yields exactly its instruction bytes, in order and with their offsets.
-/

namespace TapeMachine

namespace Symbol

/-- The byte that a symbol is written as. -/
def toByte (symbol : Symbol) : UInt8 :=
  symbol.toChar.toUInt8

@[simp] theorem ofByte?_toByte (symbol : Symbol) : ofByte? symbol.toByte = some symbol := by
  rcases symbol with action | _ | _
  · cases action <;> rfl
  · rfl
  · rfl

theorem ofByte?_eq_some_iff {byte : UInt8} {symbol : Symbol} :
    ofByte? byte = some symbol ↔ byte = symbol.toByte := by
  constructor
  · intro found
    rw [ofByte?, ofChar?_eq_some_iff] at found
    have same := congrArg Char.toUInt8 found
    rwa [show (Char.ofUInt8 byte).toUInt8 = byte from UInt8.toUInt8_toUInt32 byte] at same
  · rintro rfl
    exact ofByte?_toByte symbol

theorem eq_of_toByte_eq {first second : Symbol} (same : first.toByte = second.toByte) :
    first = second := by
  have read := ofByte?_toByte first
  rw [same, ofByte?_toByte] at read
  exact (Option.some.inj read).symm

end Symbol

namespace Source

@[simp] theorem symbols_append (first second : Source) :
    symbols (first ++ second) = symbols first ++ symbols second :=
  List.filterMap_append

@[simp] theorem symbols_toByte_cons (symbol : Symbol) (rest : Source) :
    symbols (symbol.toByte :: rest) = symbol :: symbols rest := by
  simp [symbols]

/-- A source can be cut at each of its symbols. -/
theorem exists_split {source : Source} {before after : List Symbol} {symbol : Symbol}
    (read : source.symbols = before ++ symbol :: after) :
    ∃ front back : Source, source = front ++ symbol.toByte :: back ∧ front.symbols = before ∧
      back.symbols = after := by
  obtain ⟨first, second, rfl, spelled, rest⟩ := List.filterMap_eq_append_iff.mp read
  obtain ⟨skipped, byte, back, rfl, comments, found, behind⟩ := List.filterMap_eq_cons_iff.mp rest
  obtain rfl := Symbol.ofByte?_eq_some_iff.mp found
  refine ⟨first ++ skipped, back, by simp, ?_, behind⟩
  have silent : symbols skipped = [] := List.filterMap_eq_nil_iff.mpr comments
  rw [symbols_append, silent, List.append_nil]
  exact spelled

theorem count_symbols (source : Source) (symbol : Symbol) :
    source.symbols.count symbol = source.count symbol.toByte := by
  rw [symbols, List.count_filterMap, List.count]
  apply List.countP_congr
  intro byte _
  simp [Symbol.ofByte?_eq_some_iff]

/-- The instruction bytes of a text are the symbols it is read as, written out. -/
theorem filter_isSome_ofByte? (source : Source) :
    source.filter (fun byte => (Symbol.ofByte? byte).isSome) =
      source.symbols.map Symbol.toByte := by
  induction source with
  | nil => rfl
  | cons byte rest ih =>
    cases found : Symbol.ofByte? byte with
    | none => simpa [symbols, found] using ih
    | some symbol =>
      obtain rfl := Symbol.ofByte?_eq_some_iff.mp found
      simpa [symbols] using ih

end Source

namespace Scanner

variable {scanner rest : Scanner} {symbol : Symbol}

theorem locatedFrom_of_scan_eq_some {offset position : Nat} {source : Source}
    (found : scan offset source position = (some symbol, rest)) :
    source.locatedFrom position = ⟨symbol, rest.offset⟩ :: rest.rest.locatedFrom rest.position := by
  induction source generalizing position with
  | nil => cases found
  | cons byte source ih =>
    rw [scan] at found
    rw [Source.locatedFrom_cons]
    split at found
    · rename_i read
      cases found
      simp [read]
    · rename_i read
      simpa [read] using ih found

theorem locatedFrom_of_scan_eq_none {offset position : Nat} {source : Source}
    (found : scan offset source position = (none, rest)) : source.locatedFrom position = [] := by
  induction source generalizing position with
  | nil => rfl
  | cons byte source ih =>
    rw [scan] at found
    rw [Source.locatedFrom_cons]
    split at found
    · cases found
    · rename_i read
      simpa [read] using ih found

/-- A scanner yields the symbols of the bytes it has not looked at. -/
theorem toList_collect (scanner : Scanner) (found : Array Located) :
    (scanner.collect found).1.toList =
      found.toList ++ scanner.rest.locatedFrom scanner.position := by
  induction scanner, found using collect.induct with
  | case1 scanner found rest ended =>
    rw [collect]
    split <;> rename_i outcome <;> rw [ended] at outcome <;> cases outcome
    rw [locatedFrom_of_scan_eq_none ended, List.append_nil]
  | case2 scanner found symbol rest yields ih =>
    rw [collect]
    split <;> rename_i outcome <;> rw [yields] at outcome <;> cases outcome
    rw [ih, locatedFrom_of_scan_eq_some yields]
    simp

/-- Scanning a source to its end yields its symbols with their offsets. -/
theorem toList_collect_ofSource (source : Source) :
    ((ofSource source).collect #[]).1.toList = source.located := by
  rw [toList_collect]
  rfl

end Scanner

end TapeMachine
