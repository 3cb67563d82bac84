import TapeMachine.Proofs.Requests

/-! # A machine is an online transducer

What a machine does up to a read attempt depends on the lines before it and on nothing that comes
later. So two inputs with the same first lines lead two runs through the same configurations up to
the attempt behind these lines, and a run that asks for no more does not notice what else there is.
In the same way an output that is full after some bytes makes no difference until one byte more is
written.
-/

namespace TapeMachine

/-- A request for a line of this number or a later one. -/
def Request.IsLineFrom (first : Nat) : Request → Prop
  | .line number => first ≤ number
  | .byte _ => False

/-- The writing of a byte of this number or a later one. -/
def Request.IsByteFrom (first : Nat) : Request → Prop
  | .line _ => False
  | .byte number => first ≤ number

namespace Oracle

/-- The answers of an input that hands out some lines before it does anything else. -/
def handOut (lines : List Line) (rest : Nat → ReadResult) (number : Nat) : ReadResult :=
  match lines[number]? with
  | some line => .line line
  | none => rest (number - lines.length)

/-- The refusals of an output that takes whatever comes. -/
def unlimited (_output : List UInt8) (_byte : UInt8) : Option String :=
  none

/-- The refusals of an output that fails after `limit` bytes. -/
def limited (limit : Nat) (reason : String) (output : List UInt8) (_byte : UInt8) : Option String :=
  if output.length < limit then none else some reason

theorem handOut_eq_of_lt {lines : List Line} {number : Nat} (inside : number < lines.length)
    (rest rest' : Nat → ReadResult) : handOut lines rest number = handOut lines rest' number := by
  rw [handOut, handOut, List.getElem?_eq_getElem inside]

theorem handOut_length (lines : List Line) (rest : Nat → ReadResult) :
    handOut lines rest lines.length = rest 0 := by
  rw [handOut, List.getElem?_eq_none (Nat.le_refl _), Nat.sub_self]

theorem handOut_append (lines more : List Line) (rest : Nat → ReadResult) :
    handOut (lines ++ more) rest = handOut lines (handOut more rest) := by
  funext number
  rcases Nat.lt_or_ge number lines.length with inside | past
  · rw [handOut, handOut, List.getElem?_append_left inside, List.getElem?_eq_getElem inside]
  · rw [handOut, handOut, List.getElem?_append_right past, List.getElem?_eq_none past, handOut,
      List.length_append, Nat.sub_sub]

end Oracle

section

variable {program : Program} {one other attempt : Machine Oracle} {request : Request}
  {moment number : Nat}

namespace Program

/-- Where lines are handed out alike up to some number, the first final request is for that line. -/
theorem Makes.eq_line (makes : program.Makes one moment request attempt)
    (alike : attempt.AlikeUntil (Request.IsLineFrom number) other)
    (last : request.IsLineFrom number) : request = .line number := by
  cases request with
  | line found =>
    obtain rfl := makes.line_number
    have bound : ¬ number < attempt.console.record.asked :=
      fun before => alike.console.lines number before (Nat.le_refl number)
    rw [Nat.le_antisymm (Nat.le_of_not_lt bound) last]
  | byte found => exact last.elim

/-- Where bytes are taken alike up to some number, the first final request is to write that byte. -/
theorem Makes.eq_byte (makes : program.Makes one moment request attempt)
    (alike : attempt.AlikeUntil (Request.IsByteFrom number) other)
    (last : request.IsByteFrom number) : request = .byte number := by
  cases request with
  | line found => exact last.elim
  | byte found =>
    obtain rfl := makes.byte_number
    have bound : ¬ number < attempt.console.record.output.length :=
      fun before => alike.console.bytes number before (Nat.le_refl number)
    rw [Nat.le_antisymm (Nat.le_of_not_lt bound) last]

end Program

end

/-- A machine before it has asked anything of its two streams. -/
def Machine.attached (tape : Tape) (steps : Nat) (answers : Nat → ReadResult)
    (refusal : List UInt8 → UInt8 → Option String) : Machine Oracle :=
  ⟨tape, .start answers refusal, steps⟩

section

variable (program : Program) (tape : Tape) (steps : Nat)

/-- Two inputs that hand out the same lines first. -/
theorem Machine.attached_handOut_alikeUntil (lines : List Line) (rest rest' : Nat → ReadResult)
    (refusal : List UInt8 → UInt8 → Option String) :
    (attached tape steps (Oracle.handOut lines rest) refusal).AlikeUntil
      (Request.IsLineFrom lines.length)
      (attached tape steps (Oracle.handOut lines rest') refusal) := by
  refine ⟨rfl, ?_, fun _ _ _ => rfl, nofun, nofun⟩
  intro number early
  exact Oracle.handOut_eq_of_lt (Nat.lt_of_not_le early) rest rest'

/-- Two outputs that take the same bytes first. -/
theorem Machine.attached_limited_alikeUntil (answers : Nat → ReadResult) (limit : Nat)
    (reason : String) :
    (attached tape steps answers (Oracle.limited limit reason)).AlikeUntil
      (Request.IsByteFrom limit) (attached tape steps answers Oracle.unlimited) := by
  refine ⟨rfl, fun _ _ => rfl, ?_, nofun, nofun⟩
  intro output byte early
  exact if_pos (Nat.lt_of_not_le early)

/-- What is seen of runs of a program on a tape comes out of its streams one request after the
other. -/
structure Program.Causal : Prop where
  /-- Behind the same lines two inputs may do anything. The runs are the same, for good or until
  both, at the same point, ask for one line more. -/
  online : ∀ (lines : List Line) (rest rest' : Nat → ReadResult) refusal,
    (∀ count,
      (program.runFor count (.attached tape steps (Oracle.handOut lines rest) refusal)).seen =
        (program.runFor count (.attached tape steps (Oracle.handOut lines rest') refusal)).seen) ∨
    ∃ moment attempt attempt',
      program.Makes (.attached tape steps (Oracle.handOut lines rest) refusal) moment
        (.line lines.length) attempt ∧
      program.Makes (.attached tape steps (Oracle.handOut lines rest') refusal) moment
        (.line lines.length) attempt' ∧
      attempt.seen = attempt'.seen ∧ ∀ earlier ≤ moment,
        (program.runFor earlier (.attached tape steps (Oracle.handOut lines rest) refusal)).seen =
          (program.runFor earlier (.attached tape steps (Oracle.handOut lines rest') refusal)).seen
  /-- A run that has ended and asked for no more than these lines ends the same on any input that
  begins with them, and leaves the rest of it unread. -/
  unread : ∀ (lines : List Line) (rest rest' : Nat → ReadResult) refusal count ending,
    program.runFor count (.attached tape steps (Oracle.handOut lines rest) refusal) =
      .stopped ending → ending.machine.console.record.asked = lines.length →
        ∃ ending', program.runFor count
          (.attached tape steps (Oracle.handOut lines rest') refusal) = .stopped ending' ∧
            ending'.seen = ending.seen
  /-- What a run has written that ends for lack of lines, or in any other way, is what it begins
  with when there are more lines. -/
  continued : ∀ (lines more : List Line) (rest : Nat → ReadResult) refusal count late ending,
    program.runFor count
      (.attached tape steps (Oracle.handOut lines fun _ => .endOfInput) refusal) =
        .stopped ending → count ≤ late → ending.machine.console.record.output <+:
          (program.runFor late
            (.attached tape steps (Oracle.handOut (lines ++ more) rest) refusal)).output
  /-- As long as no more is written than an output takes, it might as well take anything. -/
  roomy : ∀ answers limit reason count,
    (program.runFor count (.attached tape steps answers Oracle.unlimited)).output.length ≤ limit →
      (program.runFor count (.attached tape steps answers (Oracle.limited limit reason))).seen =
        (program.runFor count (.attached tape steps answers Oracle.unlimited)).seen
  /-- Where more would be written, the run has failed with as much written as the output takes. -/
  full : ∀ answers limit reason count,
    limit < (program.runFor count (.attached tape steps answers Oracle.unlimited)).output.length →
      ∃ ending, program.runFor count
          (.attached tape steps answers (Oracle.limited limit reason)) = .stopped ending ∧
        ending.fault = some (.console reason) ∧ ending.machine.console.record.output =
          (program.runFor count (.attached tape steps answers Oracle.unlimited)).output.take limit

/-- A machine is causal: nothing that a run shows depends on lines it has not asked for or on what
happens to bytes it has not written. -/
theorem runs_causal : program.Causal tape steps where
  online := by
    intro lines rest rest' refusal
    have alike := Machine.attached_handOut_alikeUntil tape steps lines rest rest' refusal
    by_cases same : ∀ count,
        (program.runFor count (.attached tape steps (Oracle.handOut lines rest) refusal)).seen =
          (program.runFor count (.attached tape steps (Oracle.handOut lines rest') refusal)).seen
    · exact .inl same
    · obtain ⟨count, differ⟩ := Classical.not_forall.mp same
      obtain agrees | ⟨moment, -, request, attempt, attempt', last, makes, makes', met, before⟩ :=
        program.exists_request alike count
      · exact absurd agrees.seen_eq differ
      · obtain rfl := makes.eq_line met last
        exact .inr ⟨moment, attempt, attempt', makes, makes', met.seen_eq,
          fun earlier bound => (before earlier bound).seen_eq⟩
  unread := by
    intro lines rest rest' refusal count ending stops asked
    have alike := Machine.attached_handOut_alikeUntil tape steps lines rest rest' refusal
    obtain agrees | ⟨moment, early, request, attempt, attempt', last, makes, -, met, -⟩ :=
      program.exists_request alike count
    · rw [stops] at agrees
      obtain ⟨ending', stops', alike⟩ := agrees.exists_stopped
      exact ⟨ending', stops', alike.seen_eq.symm⟩
    -- A run that asks for one line more has asked for it when it ends.
    · obtain rfl := makes.eq_line met last
      have bound : attempt.console.record.asked + 1 ≤ _ := (makes.counted_leads early).asked
      rw [stops, ← makes.line_number] at bound
      exact absurd asked (Nat.ne_of_gt bound)
  continued := by
    intro lines more rest refusal count late ending stops later
    rw [Oracle.handOut_append]
    have alike := Machine.attached_handOut_alikeUntil tape steps lines (fun _ => .endOfInput)
      (Oracle.handOut more rest) refusal
    obtain agrees | ⟨moment, early, request, attempt, attempt', last, makes, makes', met, -⟩ :=
      program.exists_request alike late
    · have whole := agrees.machine.console.record
      rw [Program.runFor_stopped_of_le stops later] at whole
      rw [Progress.output, ← whole]
      exact List.prefix_refl _
    -- Without more lines the run ends at the attempt; with more it goes on from what is written.
    · obtain rfl := makes.eq_line met last
      have ended : attempt.console.answers attempt.console.record.asked = .endOfInput := by
        rw [← makes.line_number, makes.streams_eq.1]
        exact Oracle.handOut_length lines fun _ => .endOfInput
      obtain ⟨position, fails⟩ := makes.exists_runFor_eq_of_endOfInput ended early
      rw [Program.runFor_stopped_of_le stops later] at fails
      cases fails
      have written : attempt'.console.record.output <+: _ := (makes'.counted_leads early).output
      rw [← met.console.record] at written
      exact written
  roomy := by
    intro answers limit reason count bound
    have alike := Machine.attached_limited_alikeUntil tape steps answers limit reason
    obtain agrees | ⟨moment, early, request, attempt, attempt', last, makes, makes', met, -⟩ :=
      program.exists_request alike count
    · exact agrees.seen_eq
    · obtain rfl := makes.eq_byte met last
      have accepted : attempt'.console.refusal attempt'.console.record.output
          attempt'.tape.load = none := by
        rw [makes'.streams_eq.2]
        rfl
      have more := (makes'.taken_leads accepted early).output.length_le
      rw [Oracle.taken, List.length_append, ← makes'.byte_number] at more
      exact absurd bound (Nat.not_le_of_lt more)
  full := by
    intro answers limit reason count bound
    have alike := Machine.attached_limited_alikeUntil tape steps answers limit reason
    obtain agrees | ⟨moment, early, request, attempt, attempt', last, makes, makes', met, -⟩ :=
      program.exists_request alike count
    -- While the runs agree, no byte past the limit has been written on either.
    · have inside := agrees.machine.console.bytes limit
      rw [agrees.machine.console.record] at inside
      exact absurd (Nat.le_refl limit) (inside bound)
    · obtain rfl := makes.eq_byte met last
      have length := makes.byte_number
      have refused : attempt.console.refusal attempt.console.record.output
          attempt.tape.load = some reason := by
        rw [makes.streams_eq.2]
        exact if_neg (Nat.not_lt_of_le (Nat.le_of_eq length))
      refine ⟨_, makes.runFor_eq_of_refused refused early, rfl, ?_⟩
      have written := (makes'.attempt_leads early).output
      rw [← met.console.record] at written
      rw [length]
      exact List.prefix_iff_eq_take.mp written

end

end TapeMachine
