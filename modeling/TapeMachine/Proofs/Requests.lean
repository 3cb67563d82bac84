import TapeMachine.Proofs.Oracle

/-! # What a run asks of its streams

Two oracles differ in the answers to some final requests only. Until one of them is made, runs on
the two agree in all there is to see: `Program.exists_request` takes this from one operation to a
whole run. Behind a request the run goes on with what is left of its operation, so it can be said
what the next answer makes of it, and what has been asked and written by then stays asked and
written.
-/

namespace TapeMachine

/-- The machine with the record only of what has been asked of its console. -/
def Machine.seen (machine : Machine Oracle) : Machine Record :=
  ⟨machine.tape, machine.console.record, machine.steps⟩

def Configuration.seen (configuration : Configuration Oracle) : Configuration Record :=
  ⟨configuration.address, configuration.machine.seen⟩

def Ending.seen (ending : Ending Oracle) : Ending Record :=
  ⟨ending.machine.seen, ending.fault⟩

/-- All there is to see of a run: where it is, its tape, the operations dispatched, the lines asked
for, the bytes written and how it has ended. -/
def Progress.seen (progress : Progress (Configuration Oracle) (Ending Oracle)) :
    Progress (Configuration Record) (Ending Record) :=
  progress.map Configuration.seen Ending.seen

/-- The bytes that a run has written so far. -/
def Progress.output (progress : Progress (Configuration Oracle) (Ending Oracle)) : List UInt8 :=
  progress.machine.console.record.output

section

variable {final : Request → Prop} {one other attempt : Machine Oracle} {request : Request}
  {program : Program} {count moment number : Nat}
  {progress progress' : Progress (Configuration Oracle) (Ending Oracle)}

theorem Machine.AlikeUntil.seen_eq (alike : one.AlikeUntil final other) :
    one.seen = other.seen := by
  obtain @⟨tape, one, other, steps, alike⟩ := alike
  rw [seen, seen, alike.record]

theorem Configuration.AlikeUntil.seen_eq {one other : Configuration Oracle}
    (alike : one.AlikeUntil final other) : one.seen = other.seen := by
  obtain @⟨address, one, other, alike⟩ := alike
  rw [seen, seen, alike.seen_eq]

theorem Ending.AlikeUntil.seen_eq {one other : Ending Oracle} (alike : one.AlikeUntil final other) :
    one.seen = other.seen := by
  obtain @⟨one, other, fault, alike⟩ := alike
  rw [seen, seen, alike.seen_eq]

theorem Progress.Agrees.seen_eq (agrees : progress.Agrees (Configuration.AlikeUntil final)
    (Ending.AlikeUntil final) progress') : progress.seen = progress'.seen := by
  cases progress with
  | running configuration =>
    obtain ⟨configuration', rfl, alike⟩ := agrees.exists_running
    exact congrArg Progress.running alike.seen_eq
  | stopped ending =>
    obtain ⟨ending', rfl, alike⟩ := agrees.exists_stopped
    exact congrArg Progress.stopped alike.seen_eq

theorem Progress.Agrees.machine (agrees : progress.Agrees (Configuration.AlikeUntil final)
    (Ending.AlikeUntil final) progress') :
    progress.machine.AlikeUntil final progress'.machine := by
  cases progress with
  | running configuration =>
    obtain ⟨configuration', rfl, ⟨alike⟩⟩ := agrees.exists_running
    exact alike
  | stopped ending =>
    obtain ⟨ending', rfl, ⟨alike⟩⟩ := agrees.exists_stopped
    exact alike

namespace Program

/-- Both configurations dispatch one operation, in which the machines come to a final request. -/
def Part (program : Program) (final : Request → Prop) (one other : Configuration Oracle) : Prop :=
  ∃ address machine machine' action count, one = ⟨address, machine⟩ ∧ other = ⟨address, machine'⟩ ∧
    program.fetch? address = some (.perform action count) ∧
      Machine.Part final address action count machine.tick machine'.tick

theorem step_alikeUntil (program : Program) {one other : Configuration Oracle}
    (alike : one.AlikeUntil final other) :
    (program.step one).Agrees (Configuration.AlikeUntil final) (Ending.AlikeUntil final)
      (program.step other) ∨ program.Part final one other := by
  obtain @⟨address, machine, machine', alike⟩ := alike
  cases found : program.fetch? address with
  | none =>
    rw [step_of_fetch?_eq_none found, step_of_fetch?_eq_none found]
    exact .inl ⟨alike⟩
  | some operation =>
    rw [step_of_fetch? found, step_of_fetch? found]
    refine (Machine.dispatch_alikeUntil alike operation address).imp_right ?_
    rintro ⟨action, count, rfl, part⟩
    exact ⟨address, machine, machine', action, count, rfl, rfl, found, part⟩

/-- The run makes a request in the operation that it dispatches at some moment, in the state
`attempt`. -/
def Makes (program : Program) (start : Machine Oracle) (moment : Nat) (request : Request)
    (attempt : Machine Oracle) : Prop :=
  ∃ address machine action count, program.runFor moment start = .running ⟨address, machine⟩ ∧
    program.fetch? address = some (.perform action count) ∧
      machine.tick.Makes address action count request attempt

/-- Runs of machines that are alike agree at any time, or have agreed up to a moment where both make
one of the final requests at the same point. -/
theorem exists_request (program : Program) (alike : one.AlikeUntil final other) (count : Nat) :
    (program.runFor count one).Agrees (Configuration.AlikeUntil final) (Ending.AlikeUntil final)
        (program.runFor count other) ∨
      ∃ moment < count, ∃ request attempt attempt', final request ∧
        program.Makes one moment request attempt ∧ program.Makes other moment request attempt' ∧
          attempt.AlikeUntil final attempt' ∧ ∀ earlier ≤ moment,
            (program.runFor earlier one).Agrees (Configuration.AlikeUntil final)
              (Ending.AlikeUntil final) (program.runFor earlier other) := by
  refine (exists_parting (fun _ _ => program.step_alikeUntil) ⟨alike⟩ count).imp_right ?_
  rintro ⟨moment, early, _, _, runs, runs',
    ⟨address, machine, machine', action, times, rfl, rfl, found, part⟩, before⟩
  obtain ⟨request, attempt, attempt', last, makes, makes', alike⟩ := part
  exact ⟨moment, early, request, attempt, attempt', last,
    ⟨address, machine, action, times, runs, found, makes⟩,
    ⟨address, machine', action, times, runs', found, makes'⟩, alike, before⟩

namespace Makes

theorem line_number (makes : program.Makes one moment (.line number) attempt) :
    number = attempt.console.record.asked := by
  obtain ⟨address, machine, action, count, -, -, makes⟩ := makes
  exact makes.line_number

theorem byte_number (makes : program.Makes one moment (.byte number) attempt) :
    number = attempt.console.record.output.length := by
  obtain ⟨address, machine, action, count, -, -, makes⟩ := makes
  exact makes.byte_number

/-- The run goes on with the request and what is left of its operation. -/
theorem exists_runFor_eq (makes : program.Makes one moment request attempt) :
    ∃ address left, program.runFor (moment + 1) one =
      (attempt.perform address request.action (left + 1)).goOn address := by
  obtain ⟨address, machine, action, count, runs, found, makes⟩ := makes
  obtain ⟨left, performs⟩ := makes.exists_perform_eq
  refine ⟨address, left, ?_⟩
  rw [runFor, runSteps_of_running runs, runSteps_one, step_of_fetch? found,
    Machine.dispatch_perform, performs]

/-- What has been asked by then stays asked. -/
theorem attempt_leads (makes : program.Makes one moment request attempt) (later : moment < count) :
    attempt.console.Leads (program.runFor count one).machine.console := by
  obtain ⟨address, left, goes⟩ := makes.exists_runFor_eq
  refine (Oracle.keeps_leads _).runFor_of_le later ?_
  rw [goes, Ending.machine_goOn]
  exact (Oracle.keeps_leads _).perform address request.action (left + 1) attempt (.refl _)

/-- The read attempt itself stays, whatever the answer. -/
theorem counted_leads (makes : program.Makes one moment (.line number) attempt)
    (later : moment < count) :
    attempt.console.counted.Leads (program.runFor count one).machine.console := by
  obtain ⟨address, left, goes⟩ := makes.exists_runFor_eq
  refine (Oracle.keeps_leads _).runFor_of_le later ?_
  rw [goes, Ending.machine_goOn, Request.action, Machine.perform]
  obtain ⟨tape, console, steps⟩ := attempt
  cases answer : console.answers console.record.asked with
  | line bytes =>
    rw [Machine.readTimes_of_line answer]
    exact (Oracle.keeps_leads _).readTimes address left _ (.refl _)
  | endOfInput | failed reason =>
    rw [Machine.readTimes, Oracle.read_of_answer answer]
    exact .refl _

/-- A byte that is not refused stays written. -/
theorem taken_leads (makes : program.Makes one moment (.byte number) attempt)
    (accepted : attempt.console.refusal attempt.console.record.output attempt.tape.load = none)
    (later : moment < count) : (attempt.console.taken attempt.tape.load).Leads
      (program.runFor count one).machine.console := by
  obtain ⟨address, left, goes⟩ := makes.exists_runFor_eq
  refine (Oracle.keeps_leads _).runFor_of_le later ?_
  rw [goes, Ending.machine_goOn, Request.action, Machine.perform]
  obtain ⟨tape, console, steps⟩ := attempt
  rw [Machine.writeTimes_of_refusal_none accepted]
  exact (Oracle.keeps_leads _).writeTimes left _ (.refl _)

/-- The run fails at the first line that is not there. -/
theorem exists_runFor_eq_of_endOfInput (makes : program.Makes one moment (.line number) attempt)
    (ended : attempt.console.answers attempt.console.record.asked = .endOfInput)
    (later : moment < count) : ∃ position, program.runFor count one =
      .stopped ⟨⟨attempt.tape, attempt.console.counted, attempt.steps⟩,
        some (.unexpectedEndOfInput position)⟩ := by
  obtain ⟨address, left, goes⟩ := makes.exists_runFor_eq
  refine ⟨address, runFor_stopped_of_le ?_ later⟩
  rw [goes, Request.action, Machine.perform]
  obtain ⟨tape, console, steps⟩ := attempt
  rw [Machine.readTimes, Oracle.read_of_answer ended]
  rfl

/-- The run fails at the first byte that is refused. -/
theorem runFor_eq_of_refused {reason : String}
    (makes : program.Makes one moment (.byte number) attempt)
    (refused : attempt.console.refusal attempt.console.record.output attempt.tape.load =
      some reason) (later : moment < count) :
    program.runFor count one = .stopped ⟨attempt, some (.console reason)⟩ := by
  obtain ⟨address, left, goes⟩ := makes.exists_runFor_eq
  refine runFor_stopped_of_le ?_ later
  rw [goes, Request.action, Machine.perform]
  obtain ⟨tape, console, steps⟩ := attempt
  rw [Machine.writeTimes, Oracle.write_of_refusal_some refused]
  rfl

/-- The streams are those that the run began with. -/
theorem streams_eq (makes : program.Makes one moment request attempt) :
    attempt.console.answers = one.console.answers ∧
      attempt.console.refusal = one.console.refusal := by
  have onward := makes.attempt_leads (Nat.lt_succ_self moment)
  have leads := (Oracle.keeps_leads one.console).runSteps program (moment + 1) ⟨0, one⟩ (.refl _)
  exact ⟨onward.answers.trans leads.answers.symm, onward.refusal.trans leads.refusal.symm⟩

end Makes

end Program

end

end TapeMachine
