import TapeMachine.Proofs.EncodedText
import TapeMachine.Proofs.Margins

/-! # What a scanner answers, request by request

A scanner keeps two places, how far it has looked and where it found the symbol it yielded last. At
every pause between two requests, the symbols still to come are those of the bytes it has not looked
at. So its answers are the instruction bytes of the source in their order, each with its offset, and
once they are used up no request changes the offset.

A text can be scanned by its characters as well as by the bytes of its encoding.
-/

namespace TapeMachine

namespace Scanner

variable {scanner rest : Scanner}

/-- The scanner after a number of requests. -/
def after (scanner : Scanner) : Nat → Scanner
  | 0 => scanner
  | count + 1 => (scanner.after count).next.2

/-- What is yielded to the request after `count` others, with the offset that the scanner reports
then. -/
def answer? (scanner : Scanner) (count : Nat) : Option Located :=
  (scanner.after count).next.1.map fun symbol => ⟨symbol, (scanner.after (count + 1)).offset⟩

theorem after_succ (scanner : Scanner) (count : Nat) :
    scanner.after (count + 1) = scanner.next.2.after count := by
  induction count with
  | zero => rfl
  | succ count ih => rw [after, ih, after]

theorem answer?_succ (scanner : Scanner) (count : Nat) :
    scanner.answer? (count + 1) = scanner.next.2.answer? count := by
  rw [answer?, answer?, after_succ scanner count, after_succ scanner (count + 1)]

theorem eq_of_scan_eq_none {offset position : Nat} {source : Source}
    (ended : scan offset source position = (none, rest)) : rest.rest = [] ∧ rest.offset = offset := by
  induction source generalizing position with
  | nil =>
    cases ended
    exact ⟨rfl, rfl⟩
  | cons byte source ih =>
    rw [scan] at ended
    split at ended
    · cases ended
    · exact ih ended

/-- The answers to come are the symbols of the bytes not looked at. -/
theorem answer?_eq (scanner : Scanner) (count : Nat) :
    scanner.answer? count = (scanner.rest.locatedFrom scanner.position)[count]? := by
  induction count generalizing scanner with
  | zero =>
    obtain ⟨answer, rest, outcome⟩ : ∃ answer rest, scanner.next = (answer, rest) := ⟨_, _, rfl⟩
    cases answer with
    | none =>
      rw [locatedFrom_of_scan_eq_none outcome]
      simp [answer?, after, outcome]
    | some symbol =>
      rw [locatedFrom_of_scan_eq_some outcome]
      simp [answer?, after, outcome]
  | succ count ih =>
    rw [answer?_succ, ih]
    obtain ⟨answer, rest, outcome⟩ : ∃ answer rest, scanner.next = (answer, rest) := ⟨_, _, rfl⟩
    rw [outcome]
    cases answer with
    | none =>
      obtain ⟨used, -⟩ := eq_of_scan_eq_none outcome
      rw [locatedFrom_of_scan_eq_none outcome, used]
      rfl
    | some symbol =>
      rw [locatedFrom_of_scan_eq_some outcome, List.getElem?_cons_succ]

/-- A request without an answer does not change the offset. -/
theorem offset_after_of_answer?_eq_none {count : Nat} (ended : scanner.answer? count = none) :
    (scanner.after count).next.1 = none ∧
      (scanner.after (count + 1)).offset = (scanner.after count).offset := by
  have nothing : (scanner.after count).next.1 = none := Option.map_eq_none_iff.mp ended
  refine ⟨nothing, ?_⟩
  obtain ⟨-, same⟩ := eq_of_scan_eq_none (Prod.ext nothing rfl : (scanner.after count).next = (none, _))
  exact same

end Scanner

namespace Source

variable {source : Source} {symbol : Symbol} {offset position : Nat}

/-- What a scanner of the source yields, with the offset reported for each symbol. -/
def yielded (source : Source) : List Located :=
  ((Scanner.ofSource source).collect #[]).1.toList

theorem yielded_eq (source : Source) : source.yielded = source.located :=
  Scanner.toList_collect_ofSource source

theorem mem_locatedFrom_iff : ⟨symbol, position⟩ ∈ source.locatedFrom offset ↔
    offset ≤ position ∧ source[position - offset]? = some symbol.toByte := by
  simp only [locatedFrom, List.mem_filterMap, Prod.exists, List.mk_mem_zipIdx_iff_le_and_getElem?_sub,
    Option.map_eq_some_iff, Located.mk.injEq]
  constructor
  · rintro ⟨byte, place, ⟨bound, found⟩, read, spelled, rfl, rfl⟩
    rw [Symbol.ofByte?_eq_some_iff.mp spelled] at found
    exact ⟨bound, found⟩
  · rintro ⟨bound, found⟩
    exact ⟨_, position, ⟨bound, found⟩, symbol, Symbol.ofByte?_toByte symbol, rfl, rfl⟩

/-- Symbols are listed in the order of their offsets, each once. -/
theorem pairwise_locatedFrom (offset : Nat) (source : Source) :
    (source.locatedFrom offset).Pairwise fun earlier later => earlier.offset < later.offset := by
  induction source generalizing offset with
  | nil => exact .nil
  | cons byte rest ih =>
    rw [locatedFrom_cons]
    cases read : Symbol.ofByte? byte with
    | none => exact ih (offset + 1)
    | some symbol =>
      refine List.pairwise_cons.mpr ⟨?_, ih (offset + 1)⟩
      rintro ⟨later, position⟩ member
      exact (mem_locatedFrom_iff.mp member).1

theorem located_append (first second : Source) :
    located (first ++ second) = first.located ++ second.located.map (.moved first.length) := by
  rw [located, locatedFrom_append, locatedFrom_add]
  rfl

/-- Symbols that are written one after the other stand at the offsets from the first on. -/
theorem locatedFrom_map_toByte (offset : Nat) (symbols : List Symbol) :
    locatedFrom offset (symbols.map Symbol.toByte) =
      (symbols.zipIdx offset).map fun entry => ⟨entry.1, entry.2⟩ := by
  induction symbols generalizing offset with
  | nil => rfl
  | cons symbol rest ih =>
    rw [List.map_cons, locatedFrom_cons, Symbol.ofByte?_toByte, ih]
    rfl

theorem encode_toChar (symbols : List Symbol) :
    Text.encode (String.ofList (symbols.map Symbol.toChar)) = symbols.map Symbol.toByte := by
  rw [Text.encode_eq_flatMap, String.toList_ofList]
  induction symbols with
  | nil => rfl
  | cons symbol rest ih =>
    obtain ⟨-, alone⟩ | ⟨large, -⟩ := Text.utf8EncodeChar_cases symbol.toChar
    · rw [List.map_cons, List.flatMap_cons, alone, ih]
      rfl
    · exact absurd symbol.toNat_toChar_lt (Nat.not_lt_of_le large)

end Source

open Source in
/-- A scanner yields exactly the instruction bytes of its source, with their symbols and offsets, in
the order of the offsets and each once; after the last it yields nothing and its offset stays. What it
yields of two sources in a row is what it yields of each, the second moved by the length of the first.
Of an encoded text it yields the symbols among the characters, and the symbols of any source, written
out, are yielded again at the offsets from zero on. -/
theorem scanner_exact :
    (∀ source : Source,
      (∀ count, (Scanner.ofSource source).answer? count = (yielded source)[count]?) ∧
      (yielded source).Pairwise (fun earlier later => earlier.offset < later.offset) ∧
      (∀ symbol offset, ⟨symbol, offset⟩ ∈ yielded source ↔
        source[offset]? = some (Symbol.toByte symbol)) ∧
      ∀ count, (yielded source).length ≤ count →
        ((Scanner.ofSource source).after count).next.1 = none ∧
          ((Scanner.ofSource source).after (count + 1)).offset =
            ((Scanner.ofSource source).after count).offset) ∧
    (∀ first second : Source,
      yielded (first ++ second) = yielded first ++ (yielded second).map (.moved first.length)) ∧
    (∀ text : String, (yielded (Text.encode text)).map Located.symbol =
      text.toList.filterMap Symbol.ofChar?) ∧
    ∀ source : Source,
      yielded (Text.encode (String.ofList ((yielded source).map (·.symbol.toChar)))) =
        (yielded source).mapIdx fun offset found => ⟨found.symbol, offset⟩ := by
  have answers (source : Source) (count : Nat) :
      (Scanner.ofSource source).answer? count = (yielded source)[count]? := by
    rw [Scanner.answer?_eq, yielded_eq]
    rfl
  refine ⟨?_, ?_, ?_, ?_⟩
  · intro source
    refine ⟨answers source, ?_, ?_, ?_⟩
    · rw [yielded_eq]
      exact pairwise_locatedFrom 0 source
    · intro symbol offset
      rw [yielded_eq, located, mem_locatedFrom_iff]
      simp
    · intro count past
      apply Scanner.offset_after_of_answer?_eq_none
      rw [answers, List.getElem?_eq_none past]
  · intro first second
    rw [yielded_eq, yielded_eq, yielded_eq, located_append]
  · intro text
    rw [yielded_eq, located, map_symbol_locatedFrom, symbols_encode]
  · intro source
    have written : (yielded source).map (·.symbol.toChar) =
        ((yielded source).map Located.symbol).map Symbol.toChar := by
      rw [List.map_map]
      rfl
    rw [yielded_eq, written, encode_toChar, located, locatedFrom_map_toByte, List.zipIdx_map,
      List.map_map, List.mapIdx_eq_zipIdx_map]
    rfl

end TapeMachine
