import TapeMachine.Proofs.Keeping
import TapeMachine.Proofs.Repetition

/-! # Consoles given by their answers

An oracle is a console whose two directions know nothing of each other. It is told beforehand what
it answers to each read attempt and which bytes it refuses, and it keeps a record of what it is
asked. Both read attempts and bytes are numbered, so two oracles can be compared request by request:
`Oracle.AlikeUntil` says that they have the same record and answer alike all but some final
requests, none of which has been made yet.

Machines that are alike do the same thing, or come to make one of the final requests at the same
point.
-/

namespace TapeMachine

/-- What has been asked of an oracle so far. -/
structure Record where
  /-- How many times a line has been asked for. -/
  asked : Nat
  /-- The bytes written. -/
  output : List UInt8
  deriving DecidableEq

/-- An input and an output stream, each given by what it does whenever it is asked. -/
structure Oracle where
  /-- The answer to each read attempt. -/
  answers : Nat → ReadResult
  /-- Why a byte is not written behind some others, if it is not. -/
  refusal : List UInt8 → UInt8 → Option String
  record : Record

/-- A read attempt or the writing of a byte, each numbered from zero. -/
inductive Request where
  | line (number : Nat)
  | byte (number : Nat)

/-- The action that makes a request of this kind. -/
def Request.action : Request → Action
  | .line _ => .input
  | .byte _ => .output

namespace Oracle

/-- An oracle that nothing has been asked of yet. -/
def start (answers : Nat → ReadResult) (refusal : List UInt8 → UInt8 → Option String) : Oracle :=
  ⟨answers, refusal, 0, []⟩

/-- One read attempt more. -/
def counted (oracle : Oracle) : Oracle :=
  ⟨oracle.answers, oracle.refusal, oracle.record.asked + 1, oracle.record.output⟩

/-- One byte more. -/
def taken (oracle : Oracle) (byte : UInt8) : Oracle :=
  ⟨oracle.answers, oracle.refusal, oracle.record.asked, oracle.record.output ++ [byte]⟩

/-- Answers as announced, and counts the attempt. -/
def read (oracle : Oracle) : ReadResult × Oracle :=
  (oracle.answers oracle.record.asked, oracle.counted)

/-- Takes the byte unless it is refused. -/
def write (byte : UInt8) (oracle : Oracle) : WriteResult × Oracle :=
  match oracle.refusal oracle.record.output byte with
  | none => (.written, oracle.taken byte)
  | some reason => (.failed reason, oracle)

instance : Console Oracle where
  read := read
  write := write

theorem read_of_answer {oracle : Oracle} {answer : ReadResult}
    (answers : oracle.answers oracle.record.asked = answer) :
    Console.read oracle = (answer, oracle.counted) :=
  congrArg (·, oracle.counted) answers

theorem write_of_refusal_none {oracle : Oracle} {byte : UInt8}
    (accepted : oracle.refusal oracle.record.output byte = none) :
    Console.write byte oracle = (.written, oracle.taken byte) := by
  change oracle.write byte = _
  rw [write, accepted]

theorem write_of_refusal_some {oracle : Oracle} {byte : UInt8} {reason : String}
    (refused : oracle.refusal oracle.record.output byte = some reason) :
    Console.write byte oracle = (.failed reason, oracle) := by
  change oracle.write byte = _
  rw [write, refused]

/-- What one oracle has been asked begins what the other has been asked. -/
structure Leads (earlier later : Oracle) : Prop where
  answers : earlier.answers = later.answers
  refusal : earlier.refusal = later.refusal
  asked : earlier.record.asked ≤ later.record.asked
  output : earlier.record.output <+: later.record.output

theorem Leads.refl (oracle : Oracle) : oracle.Leads oracle :=
  ⟨rfl, rfl, Nat.le_refl _, List.prefix_refl _⟩

/-- Nothing that has been asked is ever taken back. -/
theorem keeps_leads (earlier : Oracle) : Console.Keeps earlier.Leads where
  read := by
    intro later leads
    exact ⟨leads.answers, leads.refusal, Nat.le_succ_of_le leads.asked, leads.output⟩
  write := by
    intro byte later leads
    cases found : later.refusal later.record.output byte with
    | none =>
      rw [write_of_refusal_none found]
      exact ⟨leads.answers, leads.refusal, leads.asked,
        leads.output.trans (List.prefix_append later.record.output [byte])⟩
    | some reason =>
      rw [write_of_refusal_some found]
      exact leads

/-- The same has been asked of both oracles, no final request among it, and any other request they
answer alike. -/
structure AlikeUntil (final : Request → Prop) (one other : Oracle) : Prop where
  record : one.record = other.record
  answers : ∀ number, ¬ final (.line number) → one.answers number = other.answers number
  refusal : ∀ output byte, ¬ final (.byte output.length) →
    one.refusal output byte = other.refusal output byte
  lines : ∀ number < one.record.asked, ¬ final (.line number)
  bytes : ∀ number < one.record.output.length, ¬ final (.byte number)

namespace AlikeUntil

variable {final : Request → Prop} {one other : Oracle}

theorem answer_eq (alike : one.AlikeUntil final other) (early : ¬ final (.line one.record.asked)) :
    other.answers other.record.asked = one.answers one.record.asked := by
  rw [← alike.record, alike.answers one.record.asked early]

theorem refusal_eq (alike : one.AlikeUntil final other)
    (early : ¬ final (.byte one.record.output.length)) (byte : UInt8) :
    other.refusal other.record.output byte = one.refusal one.record.output byte := by
  rw [← alike.record, alike.refusal one.record.output byte early]

theorem counted (alike : one.AlikeUntil final other) (early : ¬ final (.line one.record.asked)) :
    one.counted.AlikeUntil final other.counted where
  record := by rw [Oracle.counted, Oracle.counted, alike.record]
  answers := alike.answers
  refusal := alike.refusal
  lines := by
    intro number before
    rcases Nat.lt_succ_iff_lt_or_eq.mp before with before | rfl
    · exact alike.lines number before
    · exact early
  bytes := alike.bytes

theorem taken (alike : one.AlikeUntil final other)
    (early : ¬ final (.byte one.record.output.length)) (byte : UInt8) :
    (one.taken byte).AlikeUntil final (other.taken byte) where
  record := by rw [Oracle.taken, Oracle.taken, alike.record]
  answers := alike.answers
  refusal := alike.refusal
  lines := alike.lines
  bytes := by
    intro number before
    rw [Oracle.taken, List.length_append, List.length_singleton] at before
    rcases Nat.lt_succ_iff_lt_or_eq.mp before with before | rfl
    · exact alike.bytes number before
    · exact early

end AlikeUntil

end Oracle

/-- Machines at the same point on consoles that are alike. -/
inductive Machine.AlikeUntil (final : Request → Prop) : Machine Oracle → Machine Oracle → Prop where
  | mk {tape : Tape} {one other : Oracle} {steps : Nat} (alike : one.AlikeUntil final other) :
    AlikeUntil final ⟨tape, one, steps⟩ ⟨tape, other, steps⟩

/-- The same point at the same address. -/
inductive Configuration.AlikeUntil (final : Request → Prop) :
    Configuration Oracle → Configuration Oracle → Prop where
  | mk {address : Nat} {one other : Machine Oracle} (alike : one.AlikeUntil final other) :
    AlikeUntil final ⟨address, one⟩ ⟨address, other⟩

/-- The same point and the same fault. -/
inductive Ending.AlikeUntil (final : Request → Prop) : Ending Oracle → Ending Oracle → Prop where
  | mk {one other : Machine Oracle} {fault : Option ExecutionError}
    (alike : one.AlikeUntil final other) : AlikeUntil final ⟨one, fault⟩ ⟨other, fault⟩

theorem Machine.AlikeUntil.console {final : Request → Prop} {one other : Machine Oracle}
    (alike : one.AlikeUntil final other) : one.console.AlikeUntil final other.console := by
  obtain ⟨alike⟩ := alike
  exact alike

namespace Machine

/-- While the machine does an action so many times for the operation at `position`, it makes a
request, in the state `attempt`. -/
inductive Makes (position : Nat) (machine : Machine Oracle) :
    Action → Nat → Request → Machine Oracle → Prop where
  | line {count done : Nat} {attempt : Machine Oracle} (more : done < count)
    (reads : machine.readTimes position done = ⟨attempt, none⟩) :
    Makes position machine .input count (.line attempt.console.record.asked) attempt
  | byte {count done : Nat} {attempt : Machine Oracle} (more : done < count)
    (writes : machine.writeTimes done = ⟨attempt, none⟩) :
    Makes position machine .output count (.byte attempt.console.record.output.length) attempt

/-- Both machines come to make one of the final requests at the same point. -/
def Part (final : Request → Prop) (position : Nat) (action : Action) (count : Nat)
    (one other : Machine Oracle) : Prop :=
  ∃ request attempt attempt', final request ∧ one.Makes position action count request attempt ∧
    other.Makes position action count request attempt' ∧ attempt.AlikeUntil final attempt'

section

variable {machine attempt : Machine Oracle} {action : Action} {request : Request}
  {position count number : Nat}

/-- Read attempts are numbered by those before. -/
theorem Makes.line_number (makes : machine.Makes position action count (.line number) attempt) :
    number = attempt.console.record.asked := by
  generalize asked : Request.line number = request at makes
  cases makes <;> cases asked
  rfl

/-- Bytes are numbered by those before. -/
theorem Makes.byte_number (makes : machine.Makes position action count (.byte number) attempt) :
    number = attempt.console.record.output.length := by
  generalize asked : Request.byte number = request at makes
  cases makes <;> cases asked
  rfl

/-- What is left of the action begins with the request. -/
theorem Makes.exists_perform_eq (makes : machine.Makes position action count request attempt) :
    ∃ left, machine.perform position action count =
      attempt.perform position request.action (left + 1) := by
  cases makes with
  | line more reads =>
    obtain ⟨left, rfl⟩ := Nat.exists_eq_add_of_lt more
    refine ⟨left, ?_⟩
    rw [Nat.add_assoc]
    exact readTimes_of_reached reads (left + 1)
  | byte more writes =>
    obtain ⟨left, rfl⟩ := Nat.exists_eq_add_of_lt more
    refine ⟨left, ?_⟩
    rw [Nat.add_assoc]
    exact writeTimes_of_reached writes (left + 1)

end

section

variable {tape : Tape} {console : Oracle} {steps position count : Nat} {bytes : Line}

theorem readTimes_of_line (answer : console.answers console.record.asked = .line bytes) :
    readTimes position (count + 1) ⟨tape, console, steps⟩ =
      readTimes position count ⟨tape.store (bytes.headD 0), console.counted, steps⟩ := by
  rw [readTimes, Oracle.read_of_answer answer]

theorem writeTimes_of_refusal_none
    (accepted : console.refusal console.record.output tape.load = none) :
    writeTimes (count + 1) ⟨tape, console, steps⟩ =
      writeTimes count ⟨tape, console.taken tape.load, steps⟩ := by
  rw [writeTimes, Oracle.write_of_refusal_none accepted]

variable {request : Request} {attempt : Machine Oracle}

/-- A request made after a line has been read. -/
theorem Makes.of_line (answer : console.answers console.record.asked = .line bytes)
    (makes : Makes position ⟨tape.store (bytes.headD 0), console.counted, steps⟩ .input count
      request attempt) :
    Makes position ⟨tape, console, steps⟩ .input (count + 1) request attempt := by
  cases makes with
  | line more reads =>
    exact .line (Nat.succ_lt_succ more) ((readTimes_of_line answer).trans reads)

/-- A request made after a byte has been written. -/
theorem Makes.of_written (accepted : console.refusal console.record.output tape.load = none)
    (makes : Makes position ⟨tape, console.taken tape.load, steps⟩ .output count
      request attempt) :
    Makes position ⟨tape, console, steps⟩ .output (count + 1) request attempt := by
  cases makes with
  | byte more writes =>
    exact .byte (Nat.succ_lt_succ more) ((writeTimes_of_refusal_none accepted).trans writes)

end

variable {final : Request → Prop} {one other : Machine Oracle}

theorem readTimes_alikeUntil (alike : one.AlikeUntil final other) (position count : Nat) :
    (one.readTimes position count).AlikeUntil final (other.readTimes position count) ∨
      Part final position .input count one other := by
  induction count generalizing one other with
  | zero => exact .inl ⟨alike⟩
  | succ count ih =>
    obtain @⟨tape, one, other, steps, alike⟩ := alike
    -- Either this very attempt is a final one, or both are answered alike.
    by_cases last : final (.line one.record.asked)
    · have makes : Makes position ⟨tape, other, steps⟩ .input (count + 1)
          (.line other.record.asked) ⟨tape, other, steps⟩ := .line (Nat.succ_pos count) rfl
      rw [← alike.record] at makes
      exact .inr ⟨_, _, _, last, .line (Nat.succ_pos count) rfl, makes, ⟨alike⟩⟩
    · have same := alike.answer_eq last
      cases answer : one.answers one.record.asked with
      | line bytes =>
        rw [answer] at same
        rw [readTimes_of_line answer, readTimes_of_line same]
        refine (ih ⟨alike.counted last⟩).imp_right ?_
        rintro ⟨request, attempt, attempt', final, makes, makes', alike⟩
        exact ⟨request, attempt, attempt', final, makes.of_line answer, makes'.of_line same, alike⟩
      | endOfInput =>
        rw [answer] at same
        rw [readTimes, readTimes, Oracle.read_of_answer answer, Oracle.read_of_answer same]
        exact .inl ⟨⟨alike.counted last⟩⟩
      | failed reason =>
        rw [answer] at same
        rw [readTimes, readTimes, Oracle.read_of_answer answer, Oracle.read_of_answer same]
        exact .inl ⟨⟨alike.counted last⟩⟩

theorem writeTimes_alikeUntil (alike : one.AlikeUntil final other) (position count : Nat) :
    (one.writeTimes count).AlikeUntil final (other.writeTimes count) ∨
      Part final position .output count one other := by
  induction count generalizing one other with
  | zero => exact .inl ⟨alike⟩
  | succ count ih =>
    obtain @⟨tape, one, other, steps, alike⟩ := alike
    by_cases last : final (.byte one.record.output.length)
    · have makes : Makes position ⟨tape, other, steps⟩ .output (count + 1)
          (.byte other.record.output.length) ⟨tape, other, steps⟩ := .byte (Nat.succ_pos count) rfl
      rw [← alike.record] at makes
      exact .inr ⟨_, _, _, last, .byte (Nat.succ_pos count) rfl, makes, ⟨alike⟩⟩
    · have same := alike.refusal_eq last tape.load
      cases refused : one.refusal one.record.output tape.load with
      | none =>
        rw [refused] at same
        rw [writeTimes_of_refusal_none refused, writeTimes_of_refusal_none same]
        refine (ih ⟨alike.taken last tape.load⟩).imp_right ?_
        rintro ⟨request, attempt, attempt', final, makes, makes', alike⟩
        exact ⟨request, attempt, attempt', final, makes.of_written refused,
          makes'.of_written same, alike⟩
      | some reason =>
        rw [refused] at same
        rw [writeTimes, writeTimes, Oracle.write_of_refusal_some refused,
          Oracle.write_of_refusal_some same]
        exact .inl ⟨⟨alike⟩⟩

theorem perform_alikeUntil (alike : one.AlikeUntil final other) (position : Nat) (action : Action)
    (count : Nat) :
    (one.perform position action count).AlikeUntil final (other.perform position action count) ∨
      Part final position action count one other := by
  cases action with
  | moveRight | increment | decrement =>
    obtain ⟨alike⟩ := alike
    exact .inl ⟨⟨alike⟩⟩
  | moveLeft =>
    obtain @⟨tape, one, other, steps, alike⟩ := alike
    left
    simp only [perform]
    cases tape.moveLeft count <;> exact ⟨⟨alike⟩⟩
  | output => exact writeTimes_alikeUntil alike position count
  | input => exact readTimes_alikeUntil alike position count

/-- Machines that are alike do the same and stay alike, unless one of the final requests is made. -/
theorem dispatch_alikeUntil (alike : one.AlikeUntil final other) (operation : Operation)
    (address : Nat) :
    (one.dispatch operation address).Agrees (Configuration.AlikeUntil final)
        (Ending.AlikeUntil final) (other.dispatch operation address) ∨
      ∃ action count, operation = .perform action count ∧
        Part final address action count one.tick other.tick := by
  obtain @⟨tape, one, other, steps, alike⟩ := alike
  cases operation with
  | perform action count =>
    refine (perform_alikeUntil ⟨alike⟩ address action count).imp ?_
      fun part => ⟨action, count, rfl, part⟩
    intro ends
    rw [dispatch_perform, dispatch_perform, tick, tick]
    generalize perform address action count ⟨tape, one, steps + 1⟩ = ending at ends
    generalize perform address action count ⟨tape, other, steps + 1⟩ = ending' at ends
    obtain @⟨after, after', fault, alike⟩ := ends
    cases fault with
    | none => exact ⟨alike⟩
    | some error => exact ⟨alike⟩
  | jumpIfZero target | jumpIfNonzero target => exact .inl ⟨⟨alike⟩⟩

end Machine

end TapeMachine
