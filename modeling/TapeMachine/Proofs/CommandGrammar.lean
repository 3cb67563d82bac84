import Mathlib.Data.List.Nodup
import Mathlib.Data.List.TakeWhile
import TapeMachine.Command

/-! # The grammar of command lines

`Command.Reads` lists how a line is read: behind each command word stands an argument, of which
blanks in front are dropped, and a line without a colon in front is a program. Nothing else is a
command. `Command.parses_exactly` says that lines are read in these ways and in no other.

The words are tried in order, but the order does not matter: no two of them begin one line, so at
most one word does not refuse.
-/

namespace TapeMachine

namespace Reader

variable {α : Type} {readers : List (Reader α)} {text rest : List Char} {value : α}

/-- Where some alternative reads a value and no other alternative reads a different one, that value
is read. -/
theorem firstOf_eq_value (complaints : List Complaint)
    (agrees : ∀ reader ∈ readers,
      (∃ complaints, reader text = .refused complaints) ∨ reader text = .value value rest)
    (reads : ∃ reader ∈ readers, reader text = .value value rest) :
    firstOf complaints readers text = .value value rest := by
  induction readers generalizing complaints with
  | nil =>
    obtain ⟨reader, listed, -⟩ := reads
    cases listed
  | cons first others ih =>
    rw [firstOf]
    obtain ⟨refusal, refuses⟩ | found := agrees first List.mem_cons_self
    · rw [refuses]
      obtain ⟨reader, listed, found⟩ := reads
      refine ih refusal (fun other member => agrees other (List.mem_cons_of_mem _ member)) ?_
      obtain rfl | later := List.mem_cons.mp listed
      · rw [refuses] at found
        cases found
      · exact ⟨reader, later, found⟩
    · rw [found]

/-- Where all alternatives refuse, the complaints of the last one stand. -/
theorem firstOf_eq_refused (complaints : List Complaint) {last : Reader α}
    {lastComplaints : List Complaint}
    (refuse : ∀ reader ∈ readers, ∃ complaints, reader text = .refused complaints)
    (lastRefuses : last text = .refused lastComplaints) :
    firstOf complaints (readers ++ [last]) text =
      .refused (lastComplaints ++ [⟨.alternative, text⟩]) := by
  induction readers generalizing complaints with
  | nil => simp only [List.nil_append, firstOf, lastRefuses]
  | cons first others ih =>
    obtain ⟨refusal, refuses⟩ := refuse first List.mem_cons_self
    rw [List.cons_append, firstOf, refuses]
    exact ih refusal fun other member => refuse other (List.mem_cons_of_mem _ member)

end Reader

namespace Command

/-- The text without the blanks, tabs, carriage returns and line feeds in front of it. -/
def stripped (text : String) : String :=
  String.ofList (text.toList.dropWhile Text.isSeparator)

@[simp] theorem toList_stripped (text : String) :
    (stripped text).toList = text.toList.dropWhile Text.isSeparator :=
  String.toList_ofList

/-- What a line is read as. -/
inductive Reads : String → Except ReadFailure Command → Prop where
  | run (text : String) : Reads (":run" ++ text) (.ok (.run (stripped text)))
  | showOperations (text : String) :
    Reads (":ops" ++ text) (.ok (.showOperations (stripped text)))
  | showSymbols (text : String) : Reads (":lex" ++ text) (.ok (.showSymbols (stripped text)))
  | load {text : String} (named : ∃ char ∈ text.toList, Text.isWhiteSpace char = false) :
    Reads (":load" ++ text) (.ok (.load (stripped text)))
  | help {text : String} (alone : stripped text = "") : Reads (":help" ++ text) (.ok .help)
  | helpWith {text : String} (more : stripped text ≠ "") :
    Reads (":help" ++ text) (.error (.leftover "command" "Help" (stripped text).toList))
  | bare {line : String} (plain : line.toList.head? ≠ some ':') : Reads line (.ok (.run line))
  /-- Both complaints are about the line as a whole. -/
  | unknown {line : String} (colon : line.toList.head? = some ':')
    (wordless : ∀ word ∈ [":run", ":ops", ":lex", ":help"], ∀ text, line ≠ word ++ text)
    (nameless : ∀ text, line = ":load" ++ text →
      ∀ char ∈ text.toList, Text.isWhiteSpace char = true) :
    Reads line
      (.error (.refused "command" line.toList
        [⟨.property, line.toList⟩, ⟨.alternative, line.toList⟩]))

/-- The command words and how their arguments are read. -/
def table : List (String × Reader Command) :=
  [(":run", argument.map .run), (":ops", argument.map .showOperations),
    (":lex", argument.map .showSymbols), (":load", pathArgument.map .load),
    (":help", Reader.separators.map fun _ => .help)]

/-- The alternatives of a line: the words, and program text last. -/
theorem reader_eq : reader = Reader.alternatives
    (table.map (fun (characters, arguments) => word characters arguments) ++
      [bareSource.map .run]) := rfl

theorem nodup_table : (table.map Prod.fst).Nodup := by
  decide

theorem colon_of_mem : ∀ entry ∈ table.map Prod.fst, entry.toList.head? = some ':' := by
  decide

/-- Words are told apart by their first three characters, and none is shorter. -/
theorem apart_of_mem : ∀ first ∈ table.map Prod.fst, ∀ second ∈ table.map Prod.fst,
    3 ≤ first.toList.length ∧ (first.toList.take 3 = second.toList.take 3 → first = second) := by
  decide

section

variable {characters : String} {arguments : Reader Command} {text line rest : List Char}
  {command : Command}

/-- No two words begin one line. -/
theorem eq_of_isPrefix {first second : String} (listed : first ∈ table.map Prod.fst)
    (listed' : second ∈ table.map Prod.fst) (begins : first.toList <+: second.toList ++ text) :
    first = second := by
  obtain ⟨long, apart⟩ := apart_of_mem first listed second listed'
  obtain ⟨long', -⟩ := apart_of_mem second listed' first listed
  obtain ⟨more, same⟩ := begins
  apply apart
  calc first.toList.take 3
    _ = (first.toList ++ more).take 3 := (List.take_append_of_le_length long).symm
    _ = (second.toList ++ text).take 3 := by rw [same]
    _ = second.toList.take 3 := List.take_append_of_le_length long'

/-- Behind its word an argument is read. -/
theorem word_append (characters : String) (arguments : Reader Command) (text : List Char) :
    word characters arguments (characters.toList ++ text) = arguments text := by
  simp [word, Reader.dropThen, Reader.bind, Reader.literal]

theorem word_of_not_isPrefix (other : ¬ characters.toList <+: line) :
    word characters arguments line = .refused [⟨.literal, line⟩] := by
  simp [word, Reader.dropThen, Reader.bind, Reader.literal, other]

theorem bareSource_map (line : List Char) :
    bareSource.map run line =
      if line.head? = some ':' then .refused [⟨.property, line⟩]
      else .value (.run (String.ofList line)) [] := by
  by_cases colon : line.head? = some ':' <;>
    simp [Reader.map, Reader.bind, bareSource, Reader.satisfying, Reader.everything, colon]

theorem argument_map (make : String → Command) (text : List Char) :
    argument.map make text =
      .value (make (String.ofList (text.dropWhile Text.isSeparator))) [] := rfl

/-- Whatever is read behind a word, the line is read as that. -/
theorem reader_of_word (listed : (characters, arguments) ∈ table)
    (reads : arguments text = .value command rest) :
    reader (characters.toList ++ text) = .value command rest := by
  have member : characters ∈ table.map Prod.fst := List.mem_map_of_mem listed
  have here : word characters arguments (characters.toList ++ text) = .value command rest := by
    rw [word_append, reads]
  rw [reader_eq]
  refine Reader.firstOf_eq_value [] ?_ ⟨_, List.mem_append_left _ (List.mem_map_of_mem listed), here⟩
  intro alternative listed'
  obtain inTable | bare := List.mem_append.mp listed'
  · obtain ⟨⟨other, otherArguments⟩, entry, rfl⟩ := List.mem_map.mp inTable
    by_cases begins : other.toList <+: characters.toList ++ text
    · obtain rfl := eq_of_isPrefix (List.mem_map_of_mem entry) member begins
      cases List.inj_on_of_nodup_map nodup_table entry listed rfl
      exact .inr here
    · exact .inl ⟨_, word_of_not_isPrefix begins⟩
  · obtain rfl := List.mem_singleton.mp bare
    have colon : (characters.toList ++ text).head? = some ':' := by
      rw [List.head?_append, colon_of_mem characters member]
      rfl
    exact .inl ⟨_, (bareSource_map _).trans (if_pos colon)⟩

/-- A line without a colon in front is a program. -/
theorem reader_of_plain (plain : line.head? ≠ some ':') :
    reader line = .value (.run (String.ofList line)) [] := by
  have here := (bareSource_map line).trans (if_neg plain)
  rw [reader_eq]
  refine Reader.firstOf_eq_value [] ?_ ⟨_, List.mem_append_right _ List.mem_cons_self, here⟩
  intro alternative listed
  obtain inTable | bare := List.mem_append.mp listed
  · obtain ⟨⟨other, otherArguments⟩, entry, rfl⟩ := List.mem_map.mp inTable
    refine .inl ⟨_, word_of_not_isPrefix ?_⟩
    rintro ⟨more, rfl⟩
    rw [List.head?_append, colon_of_mem other (List.mem_map_of_mem entry)] at plain
    exact plain rfl
  · obtain rfl := List.mem_singleton.mp bare
    exact .inr here

/-- A line is refused if it begins with a colon and no word can make anything of it. -/
theorem reader_of_unknown (colon : line.head? = some ':')
    (refuse : ∀ entry ∈ table, ∀ text, line = entry.1.toList ++ text →
      ∃ complaints, entry.2 text = .refused complaints) :
    reader line = .refused [⟨.property, line⟩, ⟨.alternative, line⟩] := by
  rw [reader_eq]
  refine Reader.firstOf_eq_refused [] ?_ ((bareSource_map line).trans (if_pos colon))
  intro alternative inTable
  obtain ⟨⟨other, otherArguments⟩, entry, rfl⟩ := List.mem_map.mp inTable
  by_cases begins : other.toList <+: line
  · obtain ⟨text, rfl⟩ := begins
    obtain ⟨complaints, refuses⟩ := refuse _ entry text rfl
    exact ⟨complaints, (word_append other otherArguments text).trans refuses⟩
  · exact ⟨_, word_of_not_isPrefix begins⟩

/-- Dropping separators does not make a text blank. -/
theorem isBlank_dropWhile (text : List Char) :
    Text.isBlank (text.dropWhile Text.isSeparator) = Text.isBlank text := by
  have front : Text.isBlank (text.takeWhile Text.isSeparator) = true := by
    rw [Text.isBlank, List.all_eq_true]
    intro char member
    exact Text.isWhiteSpace_of_isSeparator (List.mem_takeWhile_imp member)
  conv => rhs; rw [← List.takeWhile_append_dropWhile (p := Text.isSeparator) (l := text)]
  rw [Text.isBlank_append, front, Bool.true_and]

theorem pathArgument_map (text : List Char) :
    pathArgument.map load text =
      if Text.isBlank text then .refused [⟨.property, text⟩]
      else .value (.load (String.ofList (text.dropWhile Text.isSeparator))) [] := by
  have reads : argument text = .value (String.ofList (text.dropWhile Text.isSeparator)) [] := rfl
  cases blank : Text.isBlank text <;>
    simp [Reader.map, Reader.bind, pathArgument, Reader.satisfying, reads, isBlank_dropWhile, blank]

end

theorem isBlank_eq_false_iff {text : List Char} :
    Text.isBlank text = false ↔ ∃ char ∈ text, Text.isWhiteSpace char = false := by
  simp [Text.isBlank]

theorem isBlank_eq_true_iff {text : List Char} :
    Text.isBlank text = true ↔ ∀ char ∈ text, Text.isWhiteSpace char = true :=
  List.all_eq_true

section

variable {characters text line : String} {arguments : Reader Command} {command : Command}
  {result : Except ReadFailure Command}

theorem parse_of_value (reads : reader line.toList = .value command []) :
    parse line = .ok command := by
  rw [parse, Reader.readAll, reads]

/-- A word and an argument that is read to its end make a command. -/
theorem parse_of_word (listed : (characters, arguments) ∈ table)
    (reads : arguments text.toList = .value command []) :
    parse (characters ++ text) = .ok command := by
  apply parse_of_value
  rw [String.toList_append]
  exact reader_of_word listed reads

/-- What stands behind a word, as a text of its own. -/
theorem eq_append_ofList {word : String} {text : List Char}
    (stands : line.toList = word.toList ++ text) : line = word ++ String.ofList text := by
  apply String.toList_inj.mp
  rw [stands, String.toList_append, String.toList_ofList]

/-- Lines are read as the grammar says. -/
theorem parse_of_reads (reads : Reads line result) : parse line = result := by
  cases reads with
  | run text => exact parse_of_word (.head _) (argument_map run text.toList)
  | showOperations text =>
    exact parse_of_word (.tail _ (.head _)) (argument_map showOperations text.toList)
  | showSymbols text =>
    exact parse_of_word (.tail _ (.tail _ (.head _))) (argument_map showSymbols text.toList)
  | load named =>
    refine parse_of_word (.tail _ (.tail _ (.tail _ (.head _)))) ?_
    rw [pathArgument_map, isBlank_eq_false_iff.mpr named]
    rfl
  | @help text alone =>
    have rest : text.toList.dropWhile Text.isSeparator = [] := by
      rw [← toList_stripped, alone, String.toList_empty]
    refine parse_of_word (.tail _ (.tail _ (.tail _ (.tail _ (.head _))))) ?_
    simp [Reader.map, Reader.bind, Reader.separators, rest]
  | @helpWith text more =>
    have reads : reader (":help" ++ text).toList = .value .help (stripped text).toList := by
      rw [String.toList_append, toList_stripped]
      exact reader_of_word (.tail _ (.tail _ (.tail _ (.tail _ (.head _))))) rfl
    have remains : (stripped text).toList ≠ [] :=
      fun none => more (String.toList_eq_nil_iff.mp none)
    obtain ⟨char, rest, shape⟩ := List.exists_cons_of_ne_nil remains
    rw [parse, Reader.readAll, reads, shape]
    rfl
  | bare plain =>
    apply parse_of_value
    rw [reader_of_plain plain, String.ofList_toList]
  | unknown colon wordless nameless =>
    rw [parse, Reader.readAll, reader_of_unknown colon]
    intro entry listed text stands
    have written := eq_append_ofList stands
    simp only [table, List.mem_cons, List.not_mem_nil, or_false] at listed
    obtain rfl | rfl | rfl | rfl | rfl := listed
    · exact absurd written (wordless ":run" (by decide) _)
    · exact absurd written (wordless ":ops" (by decide) _)
    · exact absurd written (wordless ":lex" (by decide) _)
    · have blank := nameless _ written
      rw [String.toList_ofList] at blank
      exact ⟨_, (pathArgument_map text).trans (if_pos (isBlank_eq_true_iff.mpr blank))⟩
    · exact absurd written (wordless ":help" (by decide) _)

/-- The grammar says something of every line. -/
theorem exists_reads (line : String) : ∃ result, Reads line result := by
  by_cases colon : line.toList.head? = some ':'
  · by_cases worded : ∃ word ∈ [":run", ":ops", ":lex", ":help"], ∃ text, line = word ++ text
    · obtain ⟨word, listed, text, rfl⟩ := worded
      simp only [List.mem_cons, List.not_mem_nil, or_false] at listed
      obtain rfl | rfl | rfl | rfl := listed
      · exact ⟨_, .run text⟩
      · exact ⟨_, .showOperations text⟩
      · exact ⟨_, .showSymbols text⟩
      · by_cases alone : stripped text = ""
        · exact ⟨_, .help alone⟩
        · exact ⟨_, .helpWith alone⟩
    · by_cases named : ∃ text, line = ":load" ++ text ∧
          ∃ char ∈ text.toList, Text.isWhiteSpace char = false
      · obtain ⟨text, rfl, named⟩ := named
        exact ⟨_, .load named⟩
      · refine ⟨_, .unknown colon ?_ ?_⟩
        · intro word listed text written
          exact worded ⟨word, listed, text, written⟩
        · intro text written char member
          rw [← Bool.not_eq_false]
          exact fun visible => named ⟨text, written, char, member, visible⟩
  · exact ⟨_, .bare colon⟩

theorem parse_eq_iff_reads : parse line = result ↔ Reads line result := by
  constructor
  · rintro rfl
    obtain ⟨result, reads⟩ := exists_reads line
    rwa [parse_of_reads reads]
  · exact parse_of_reads

end

/-- The word in front of a command's argument. -/
def keyword : Command → String
  | .run _ => ":run"
  | .showOperations _ => ":ops"
  | .showSymbols _ => ":lex"
  | .load _ => ":load"
  | .help => ":help"

/-- The argument of a command, if it takes one. -/
def operand : Command → String
  | .run source | .showOperations source | .showSymbols source => source
  | .load path => path
  | .help => ""

/-- Whether the argument of a command can stand behind its word: it does not begin with a separator,
and a path is not blank. -/
structure IsWritable (command : Command) : Prop where
  front : ∀ char ∈ command.operand.toList.head?, Text.isSeparator char = false
  path : ∀ path, command = .load path → ∃ char ∈ path.toList, Text.isWhiteSpace char = false

/-- The line is the command's word and argument, with any number of separators between them. -/
def IsWritten (command : Command) (line : String) : Prop :=
  ∃ blanks : String, (∀ char ∈ blanks.toList, Text.isSeparator char = true) ∧
    line = command.keyword ++ blanks ++ command.operand

/-- A line is read in no other way than the grammar says, and loses nothing but a word and the
separators behind it. -/
structure ParsesExactly (line : String) : Prop where
  /-- The grammar decides what is read. -/
  reads : ∀ result, parse line = result ↔ Reads line result
  /-- The lines of a command are its written forms; a program is also written by its text alone. -/
  accepts : ∀ command, parse line = .ok command ↔
    (command.IsWritable ∧ command.IsWritten line) ∨
      (line.toList.head? ≠ some ':' ∧ command = .run line)
  /-- Only the request for help can be followed by too much. -/
  leftover : ∀ what parsed rest, parse line = .error (.leftover what parsed rest) →
    ∃ text, line = ":help" ++ text ∧ rest = (stripped text).toList

section

variable {command : Command} {line text blanks : String}

/-- What stands in front of the stripped text are separators. -/
theorem exists_append_stripped (text : String) :
    ∃ blanks : String, (∀ char ∈ blanks.toList, Text.isSeparator char = true) ∧
      text = blanks ++ stripped text := by
  refine ⟨String.ofList (text.toList.takeWhile Text.isSeparator), ?_, ?_⟩
  · intro char member
    rw [String.toList_ofList] at member
    exact List.mem_takeWhile_imp member
  · apply String.toList_inj.mp
    rw [String.toList_append, String.toList_ofList, toList_stripped,
      List.takeWhile_append_dropWhile]

theorem stripped_front (text : String) :
    ∀ char ∈ (stripped text).toList.head?, Text.isSeparator char = false := by
  intro char first
  rw [toList_stripped] at first
  have kept := List.head?_dropWhile_not Text.isSeparator text.toList
  rwa [Option.mem_def.mp first] at kept

/-- Separators in front of a text that begins with none are what is stripped. -/
theorem stripped_append (separators : ∀ char ∈ blanks.toList, Text.isSeparator char = true)
    (front : ∀ char ∈ text.toList.head?, Text.isSeparator char = false) :
    stripped (blanks ++ text) = text := by
  apply String.toList_inj.mp
  rw [toList_stripped, String.toList_append, List.dropWhile_append_of_pos separators]
  cases shape : text.toList with
  | nil => rfl
  | cons first rest =>
    rw [shape] at front
    rw [List.dropWhile_cons_of_neg (by simp [front first rfl])]

/-- A text is blank exactly if it is when stripped. -/
theorem exists_visible_stripped :
    (∃ char ∈ (stripped text).toList, Text.isWhiteSpace char = false) ↔
      ∃ char ∈ text.toList, Text.isWhiteSpace char = false := by
  rw [← isBlank_eq_false_iff, toList_stripped, isBlank_dropWhile, isBlank_eq_false_iff]

/-- A word with any argument is a written form of the command with the stripped argument. -/
theorem isWritten_of_operand {word : String} (sameWord : command.keyword = word)
    (argument : command.operand = stripped text) : command.IsWritten (word ++ text) := by
  obtain ⟨blanks, separators, same⟩ := exists_append_stripped text
  refine ⟨blanks, separators, ?_⟩
  rw [sameWord, argument, String.append_assoc, ← same]

/-- What is read from a line is written by it. -/
theorem isWritten_of_reads (reads : Reads line (.ok command)) :
    (command.IsWritable ∧ command.IsWritten line) ∨
      (line.toList.head? ≠ some ':' ∧ command = .run line) := by
  generalize accepted : Except.ok command = result at reads
  cases reads with
  | run text | showOperations text | showSymbols text =>
    cases accepted
    exact .inl ⟨⟨stripped_front text, nofun⟩, isWritten_of_operand rfl rfl⟩
  | @load text named =>
    cases accepted
    refine .inl ⟨⟨stripped_front text, ?_⟩, isWritten_of_operand rfl rfl⟩
    rintro path ⟨⟩
    exact exists_visible_stripped.mpr named
  | help alone =>
    cases accepted
    exact .inl ⟨⟨nofun, nofun⟩, isWritten_of_operand rfl alone.symm⟩
  | helpWith more | unknown colon wordless nameless => cases accepted
  | bare plain =>
    cases accepted
    exact .inr ⟨plain, rfl⟩

/-- A written command is read back. -/
theorem reads_of_isWritten (writable : command.IsWritable) (written : command.IsWritten line) :
    Reads line (.ok command) := by
  obtain ⟨blanks, separators, rfl⟩ := written
  rw [String.append_assoc]
  have argument := stripped_append separators writable.front
  generalize shape : blanks ++ command.operand = text at argument ⊢
  cases command with
  | run source =>
    obtain rfl : stripped text = source := argument
    exact .run text
  | showOperations source =>
    obtain rfl : stripped text = source := argument
    exact .showOperations text
  | showSymbols source =>
    obtain rfl : stripped text = source := argument
    exact .showSymbols text
  | load path =>
    obtain rfl : stripped text = path := argument
    exact .load (exists_visible_stripped.mp (writable.path _ rfl))
  | help => exact .help argument

/-- A line is read as the grammar says and in no other way: the lines of a command are its word and
its argument with separators between them, and any program text without a colon in front. -/
theorem parses_exactly (line : String) : ParsesExactly line where
  reads _ := parse_eq_iff_reads
  accepts command := by
    rw [parse_eq_iff_reads]
    constructor
    · exact isWritten_of_reads
    · rintro (⟨writable, written⟩ | ⟨plain, rfl⟩)
      · exact reads_of_isWritten writable written
      · exact .bare plain
  leftover what parsed rest fails := by
    cases parse_eq_iff_reads.mp fails with
    | @helpWith text => exact ⟨text, rfl, rfl⟩

end

end Command

end TapeMachine
