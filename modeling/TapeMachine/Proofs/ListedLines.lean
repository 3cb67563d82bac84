import TapeMachine.Program.Reading

/-! # The lines of a listing, and reading them back

An address is written with digits only and its line goes on with a blank, so it can be cut off
whatever its width. The mark behind it is one of two texts of three characters, and what follows is
the operation: a short name is made of letters, and no digit stands between it and the operand, so
neither column needs a width to be found. The line of a jump past the end says a word that has no
blank in it, as every operation has.

So every line can be read back, and with them the listing.
-/

namespace TapeMachine

namespace Text

variable {width number : Nat} {char : Char}

/-- The lines of a text without the line feeds that end them. -/
def lines (text : String) : List (List Char) :=
  (text.toList.splitOn '\n').dropLast

theorem number?_of_digits {digits : List Char} (present : digits ≠ [])
    (each : ∀ char ∈ digits, char.isDigit = true) :
    number? digits = some (Nat.ofDigitChars 10 digits 0) := by
  have shown : (!digits.isEmpty && digits.all Char.isDigit) = true := by
    simpa [present] using each
  rw [number?, if_pos shown, Nat.ofDigitChars_eq_foldl]

theorem toList_zeroPadded (width number : Nat) :
    (zeroPadded width number).toList =
      List.replicate (width - (Nat.toDigits 10 number).length) '0' ++ Nat.toDigits 10 number := by
  rw [zeroPadded, String.toList_ofList, List.leftpad]

theorem isDigit_of_mem_repr (member : char ∈ number.repr.toList) : char.isDigit = true := by
  rw [Nat.toList_repr] at member
  exact Nat.isDigit_of_mem_toDigits (by decide) (by decide) member

theorem isDigit_of_mem_zeroPadded (member : char ∈ (zeroPadded width number).toList) :
    char.isDigit = true := by
  rw [toList_zeroPadded] at member
  rcases List.mem_append.mp member with zero | digit
  · obtain rfl := List.eq_of_mem_replicate zero
    rfl
  · exact Nat.isDigit_of_mem_toDigits (by decide) (by decide) digit

theorem zeroPadded_ne_nil (width number : Nat) : (zeroPadded width number).toList ≠ [] := by
  rw [toList_zeroPadded]
  exact List.append_ne_nil_of_right_ne_nil _ Nat.toDigits_ne_nil

/-- A number can be read from its digits. -/
theorem number?_repr (number : Nat) : number? number.repr.toList = some number := by
  have present : number.repr.toList ≠ [] := by
    rw [Nat.toList_repr]
    exact Nat.toDigits_ne_nil
  rw [number?_of_digits present fun _ => isDigit_of_mem_repr, Nat.toList_repr,
    Nat.ofDigitChars_ten_toDigits]

/-- Zeros in front of a number do not change it. -/
theorem number?_zeroPadded (width number : Nat) :
    number? (zeroPadded width number).toList = some number := by
  rw [number?_of_digits (zeroPadded_ne_nil width number) fun _ => isDigit_of_mem_zeroPadded,
    toList_zeroPadded, Nat.ofDigitChars_append, Nat.ofDigitChars_replicate_zero, Nat.mul_zero,
    Nat.ofDigitChars_ten_toDigits]

/-- Lines that are written one after the other, each with its line feed, can be split again. -/
theorem splitOn_flatMap_lineFeed {written : List (List Char)}
    (single : ∀ line ∈ written, '\n' ∉ line) :
    (written.flatMap (· ++ ['\n'])).splitOn '\n' = written ++ [[]] := by
  induction written with
  | nil => simp
  | cons line rest ih =>
    have here := single line (List.mem_cons_self ..)
    have behind := ih fun other member => single other (List.mem_cons_of_mem _ member)
    rw [List.flatMap_cons, List.append_assoc, List.singleton_append,
      List.splitOn_append_cons_self_of_not_mem here, behind, List.cons_append]

end Text

namespace Symbol

theorem ofMnemonic?_mnemonic (symbol : Symbol) :
    ofMnemonic? symbol.mnemonic.toList = some symbol := by
  rcases symbol with action | _ | _
  · cases action <;> rfl
  · rfl
  · rfl

/-- Short names are made of letters. -/
theorem isAlpha_of_mem_mnemonic (symbol : Symbol) :
    ∀ char ∈ symbol.mnemonic.toList, char.isAlpha = true := by
  apply List.all_eq_true.mp
  rcases symbol with action | _ | _
  · cases action <;> rfl
  · rfl
  · rfl

end Symbol

namespace Operation

/-- What a listing has between the short name and the operand: blanks, and the arrow of a jump. -/
def gap (operation : Operation) : List Char :=
  List.replicate (5 - operation.symbol.mnemonic.toList.length) ' ' ++
    match operation with
    | .perform _ _ => [' ']
    | .jumpIfZero _ | .jumpIfNonzero _ => [' ', '-', '>', ' ']

/-- The digits of the operand in a listing. -/
def digits : Operation → List Char
  | .perform _ count => count.repr.toList
  | .jumpIfZero target | .jumpIfNonzero target => (Text.zeroPadded 4 target).toList

theorem toList_text (operation : Operation) :
    operation.text.toList =
      operation.symbol.mnemonic.toList ++ (operation.gap ++ operation.digits) := by
  cases operation <;> simp [text, jumpTarget?, operand, gap, digits, Text.blankPadded,
    List.rightpad]

theorem head?_gap (operation : Operation) : operation.gap.head? = some ' ' := by
  unfold gap
  cases 5 - operation.symbol.mnemonic.toList.length with
  | zero => cases operation <;> rfl
  | succ width => rfl

theorem mem_gap {operation : Operation} {char : Char} (member : char ∈ operation.gap) :
    char = ' ' ∨ char = '-' ∨ char = '>' := by
  rcases List.mem_append.mp member with blank | pointing
  · exact .inl (List.eq_of_mem_replicate blank)
  · cases operation with
    | perform action count => exact .inl (List.mem_singleton.mp pointing)
    | jumpIfZero target | jumpIfNonzero target =>
      simp only [List.mem_cons, List.not_mem_nil, or_false] at pointing
      obtain rfl | rfl | rfl | rfl := pointing <;> simp

theorem isDigit_of_mem_digits {operation : Operation} {char : Char}
    (member : char ∈ operation.digits) : char.isDigit = true := by
  cases operation with
  | perform action count => exact Text.isDigit_of_mem_repr member
  | jumpIfZero target | jumpIfNonzero target => exact Text.isDigit_of_mem_zeroPadded member

theorem number?_digits (operation : Operation) :
    Text.number? operation.digits = some operation.operand := by
  cases operation with
  | perform action count => exact Text.number?_repr count
  | jumpIfZero target | jumpIfNonzero target => exact Text.number?_zeroPadded 4 target

theorem lineFeed_not_mem_text (operation : Operation) : '\n' ∉ operation.text.toList := by
  intro member
  rw [toList_text] at member
  rcases List.mem_append.mp member with name | rest
  · exact absurd (operation.symbol.isAlpha_of_mem_mnemonic _ name) (by decide)
  · rcases List.mem_append.mp rest with between | digit
    · exact absurd (mem_gap between) (by decide)
    · exact absurd (isDigit_of_mem_digits digit) (by decide)

theorem blank_mem_text (operation : Operation) : ' ' ∈ operation.text.toList := by
  rw [toList_text]
  exact List.mem_append_right _ (List.mem_append_left _ (List.mem_of_head? operation.head?_gap))

/-- No operation is listed as the halt is. -/
theorem text_ne_halt (operation : Operation) : operation.text.toList ≠ "halt".toList := by
  intro same
  have blank := operation.blank_mem_text
  rw [same] at blank
  exact absurd blank (by decide)

/-- An operation can be read from what a listing shows of it. -/
theorem ofText?_text (operation : Operation) : ofText? operation.text.toList = some operation := by
  have letters : ∀ char ∈ operation.symbol.mnemonic.toList, (char != ' ') = true := by
    intro char member
    have letter := operation.symbol.isAlpha_of_mem_mnemonic char member
    apply bne_iff_ne.mpr
    rintro rfl
    cases letter
  have word : operation.text.toList.takeWhile (· != ' ') = operation.symbol.mnemonic.toList := by
    obtain ⟨rest, blank⟩ := List.head?_eq_some_iff.mp operation.head?_gap
    rw [toList_text, List.takeWhile_append_of_pos letters, blank]
    simp
  have between : ∀ char ∈ operation.gap, (!char.isDigit) = true := by
    intro char member
    obtain rfl | rfl | rfl := mem_gap member <;> rfl
  have operand : (operation.gap ++ operation.digits).dropWhile (fun char => !char.isDigit) =
      operation.digits := by
    rw [List.dropWhile_append_of_pos between]
    cases shown : operation.digits with
    | nil => rfl
    | cons digit rest =>
      have member : digit ∈ operation.digits := by simp [shown]
      simp [isDigit_of_mem_digits member]
  simp only [ofText?, word]
  rw [toList_text, List.drop_left, operand, Symbol.ofMnemonic?_mnemonic, number?_digits]
  exact congrArg some operation.ofSymbol_symbol_operand

end Operation

namespace Program

variable {program other : Program} {address : Nat} {content : String}

/-- Some operation of the program jumps to `address`. -/
def JumpsTo (program : Program) (address : Nat) : Prop :=
  ∃ start operation, program.fetch? start = some operation ∧
    operation.jumpTarget? = some address

instance (program : Program) (address : Nat) : Decidable (program.JumpsTo address) :=
  decidable_of_iff _ mem_jumpTargets

/-- A line of a listing without its line feed. -/
def row (marked : Bool) (address : Nat) (content : String) : List Char :=
  (Text.zeroPadded 4 address).toList ++
    ((if marked then " ► " else "   ").toList ++ content.toList)

/-- The line for an operation at an address. -/
def operationRow (program : Program) (entry : Operation × Nat) : List Char :=
  row (program.JumpsTo entry.2) entry.2 entry.1.text

/-- The line for a jump past the end, if there is one. -/
def haltRows (program : Program) : List (List Char) :=
  if program.JumpsTo program.size then [row true program.size "halt"] else []

/-- The lines of the listing without their line feeds. -/
def rows (program : Program) : List (List Char) :=
  program.operations.toList.zipIdx.map program.operationRow ++ program.haltRows

/-- Whether a line of a listing has a mark behind its address. -/
def lineMarked (line : List Char) : Bool :=
  (line.dropWhile Char.isDigit)[1]? == some '►'

theorem toList_listingLine (marked : Bool) (address : Nat) (content : String) :
    (listingLine marked address content).toList = row marked address content ++ ['\n'] := by
  simp [listingLine, row]

theorem takeWhile_row (marked : Bool) (address : Nat) (content : String) :
    (row marked address content).takeWhile Char.isDigit = (Text.zeroPadded 4 address).toList := by
  rw [row, List.takeWhile_append_of_pos fun _ => Text.isDigit_of_mem_zeroPadded]
  cases marked <;> simp

theorem dropWhile_row (marked : Bool) (address : Nat) (content : String) :
    (row marked address content).dropWhile Char.isDigit =
      (if marked then " ► " else "   ").toList ++ content.toList := by
  rw [row, List.dropWhile_append_of_pos fun _ => Text.isDigit_of_mem_zeroPadded]
  cases marked <;> rfl

theorem lineMarked_row (marked : Bool) (address : Nat) (content : String) :
    lineMarked (row marked address content) = marked := by
  rw [lineMarked, dropWhile_row]
  cases marked <;> rfl

theorem lineContent_row (marked : Bool) (address : Nat) (content : String) :
    lineContent (row marked address content) = content.toList := by
  rw [lineContent, dropWhile_row]
  cases marked <;> rfl

theorem row_ne_nil (marked : Bool) (address : Nat) (content : String) :
    row marked address content ≠ [] :=
  List.append_ne_nil_of_left_ne_nil (Text.zeroPadded_ne_nil 4 address) _

theorem lineFeed_not_mem_row (marked : Bool) (address : Nat)
    (single : '\n' ∉ content.toList) : '\n' ∉ row marked address content := by
  intro member
  rcases List.mem_append.mp member with digit | rest
  · exact absurd (Text.isDigit_of_mem_zeroPadded digit) (by decide)
  · rcases List.mem_append.mp rest with mark | within
    · cases marked <;> exact absurd mark (by decide)
    · exact single within

/-- Every line shows an operation or the halt. -/
theorem exists_row_of_mem {line : List Char} (member : line ∈ program.rows) :
    ∃ marked address content, line = row marked address content ∧ '\n' ∉ content.toList := by
  rcases List.mem_append.mp member with listed | halts
  · obtain ⟨entry, -, rfl⟩ := List.mem_map.mp listed
    exact ⟨_, _, _, rfl, entry.1.lineFeed_not_mem_text⟩
  · unfold haltRows at halts
    split at halts
    · obtain rfl := List.mem_singleton.mp halts
      exact ⟨_, _, _, rfl, by decide⟩
    · cases halts

theorem isMarked_eq_jumpsTo (bound : address ≤ program.size) :
    program.isMarked address = decide (program.JumpsTo address) := by
  rw [isMarked_eq program bound]
  exact decide_eq_decide.mpr mem_jumpTargets

/-- The listing is made of its lines. -/
theorem toList_listing (program : Program) :
    program.listing.toList = program.rows.flatMap (· ++ ['\n']) := by
  have operations : ∀ entry ∈ program.operations.toList.zipIdx,
      (listingLine (program.isMarked entry.2) entry.2 entry.1.text).toList =
        program.operationRow entry ++ ['\n'] := by
    rintro ⟨operation, address⟩ member
    have bound : address < program.size := (List.mem_zipIdx' member).1
    rw [toList_listingLine, isMarked_eq_jumpsTo (Nat.le_of_lt bound)]
    rfl
  have halts : (if program.isMarked program.size then
      [listingLine true program.size "halt"] else []).map String.toList =
        program.haltRows.map (· ++ ['\n']) := by
    rw [isMarked_eq_jumpsTo (Nat.le_refl _), haltRows]
    by_cases past : program.JumpsTo program.size
    · simp [past, toList_listingLine]
    · simp [past]
  have listed : program.listingLines.map String.toList = program.rows.map (· ++ ['\n']) := by
    rw [listingLines, rows, List.map_append, List.map_append, List.map_map, List.map_map, ← halts]
    exact congrArg (· ++ _) (List.map_congr_left operations)
  rw [listing, String.toList_join, List.flatMap_def, listed, List.flatMap_def]

example : listing ⟨#[.jumpIfZero 3, .perform .increment 12, .jumpIfNonzero 1]⟩ =
    "0000   jz    -> 0003\n0001 ► inc   12\n0002   jnz   -> 0001\n0003 ► halt\n" := by
  decide

theorem splitOn_listing (program : Program) :
    program.listing.toList.splitOn '\n' = program.rows ++ [[]] := by
  rw [toList_listing, Text.splitOn_flatMap_lineFeed]
  intro line member
  obtain ⟨marked, address, content, rfl, single⟩ := exists_row_of_mem member
  exact lineFeed_not_mem_row marked address single

theorem lines_listing (program : Program) : Text.lines program.listing = program.rows := by
  rw [Text.lines, splitOn_listing, List.dropLast_concat]

theorem ofLines?_haltRows (program : Program) : ofLines? program.haltRows = some [] := by
  unfold haltRows
  split
  · simp [ofLines?, lineContent_row]
  · rfl

/-- The operations can be read from their lines, whatever is marked and whatever follows that is no
operation. -/
theorem ofLines?_operationRows (program : Program) (entries : List (Operation × Nat))
    {rest : List (List Char)} (ended : ofLines? rest = some []) :
    ofLines? (entries.map program.operationRow ++ rest) = some (entries.map Prod.fst) := by
  induction entries with
  | nil => exact ended
  | cons entry entries ih =>
    have operates : entry.1.text ≠ "halt" :=
      fun same => entry.1.text_ne_halt (congrArg String.toList same)
    rw [List.map_cons, List.cons_append, ofLines?, ih, operationRow, lineContent_row,
      String.ofList_toList]
    simp [operates, Operation.ofText?_text]

/-- A program can be read from its listing. -/
theorem ofListing?_listing (program : Program) :
    ofListing? program.listing = some program := by
  have present : ∀ line ∈ program.rows, (!line.isEmpty) = true := by
    intro line member
    obtain ⟨marked, address, content, rfl, -⟩ := exists_row_of_mem member
    simp [row_ne_nil]
  have filtered : (program.rows ++ [[]]).filter (fun line => !line.isEmpty) = program.rows := by
    rw [List.filter_append, List.filter_eq_self.mpr present]
    simp
  have read : ofLines? program.rows = some program.operations.toList := by
    rw [rows, program.ofLines?_operationRows _ program.ofLines?_haltRows]
    simp
  simp only [ofListing?, splitOn_listing, filtered, read]
  rfl

/-- A line begins with an address and shows some content behind it, with a mark between the two or
without one. -/
structure LineShows (line : List Char) (address : Nat) (marked : Prop) (content : String) :
    Prop where
  address : line.takeWhile Char.isDigit = (Text.zeroPadded 4 address).toList
  marked : lineMarked line = true ↔ marked
  content : lineContent line = content.toList

theorem lineShows_row (marked : Bool) (address : Nat) (content : String) :
    LineShows (row marked address content) address (marked = true) content where
  address := takeWhile_row marked address content
  marked := by rw [lineMarked_row]
  content := lineContent_row marked address content

/-- Each operation has the line of its address. -/
theorem getElem?_operationRows {operation : Operation}
    (found : program.fetch? address = some operation) :
    (program.operations.toList.zipIdx.map program.operationRow)[address]? =
      some (program.operationRow (operation, address)) := by
  have listed : program.operations.toList[address]? = some operation := by
    rw [Array.getElem?_toList]
    exact found
  rw [List.getElem?_map, List.getElem?_zipIdx, listed, Option.map_some, Option.map_some,
    Nat.zero_add]

/-- A program can be read from its listing, so different programs have different listings. A listing
has one line for each operation, in order, which begins with the address and has a mark if some
operation jumps there; and behind them one line for the halt if some operation jumps just past the
last. -/
theorem listing_faithful :
    (∀ program : Program, ofListing? program.listing = some program) ∧
    (∀ first second : Program, first.listing = second.listing ↔ first = second) ∧
    ∀ program : Program, ∃ operationLines haltLines : List (List Char),
      program.listing.toList = (operationLines ++ haltLines).flatMap (· ++ ['\n']) ∧
      Text.lines program.listing = operationLines ++ haltLines ∧
      operationLines.length = program.size ∧
      (∀ address operation, program.fetch? address = some operation →
        ∃ line, operationLines[address]? = some line ∧
          LineShows line address (program.JumpsTo address) operation.text) ∧
      haltLines.length = (if program.JumpsTo program.size then 1 else 0) ∧
      ∀ line ∈ haltLines, LineShows line program.size True "halt" := by
  refine ⟨ofListing?_listing, ?_, ?_⟩
  · intro first second
    constructor
    · intro same
      have read := ofListing?_listing first
      rw [same, ofListing?_listing second] at read
      exact (Option.some.inj read).symm
    · rintro rfl
      rfl
  · intro program
    refine ⟨program.operations.toList.zipIdx.map program.operationRow, program.haltRows,
      program.toList_listing, program.lines_listing, ?_, ?_, ?_, ?_⟩
    · simp [size]
    · intro address operation found
      refine ⟨_, getElem?_operationRows found, ?_⟩
      have shown := lineShows_row (program.JumpsTo address) address operation.text
      rwa [decide_eq_true_eq] at shown
    · unfold haltRows
      split <;> rfl
    · intro line member
      unfold haltRows at member
      split at member
      · obtain rfl := List.mem_singleton.mp member
        simpa using lineShows_row true program.size "halt"
      · cases member

end Program

end TapeMachine
