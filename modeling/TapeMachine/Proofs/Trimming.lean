import Mathlib.Data.List.TakeWhile
import TapeMachine.Proofs.EncodedText
import TapeMachine.Proofs.Margins

/-! # Trimmed text

Whatever white space is taken off the front of a text, all of it or only some kinds, and whatever is
taken off its end, the text stands for the same program, and its errors for the same brackets: only
as many bytes earlier as have been taken off the front.
-/

namespace TapeMachine

namespace Text

variable {drop : Char → Bool} {text first second : List Char}

theorem trimEnd_eq_nil_iff : trimEnd text = [] ↔ ∀ char ∈ text, isWhiteSpace char = true := by
  rw [trimEnd, List.reverse_eq_nil_iff, List.dropWhile_eq_nil_iff]
  simp only [List.mem_reverse]

/-- Only a part that is not blank keeps what stands in front of it from being trimmed. -/
theorem trimEnd_append (first second : List Char) :
    trimEnd (first ++ second) =
      if trimEnd second = [] then trimEnd first else first ++ trimEnd second := by
  simp only [trimEnd, List.reverse_append, List.dropWhile_append, List.isEmpty_iff,
    List.reverse_eq_nil_iff]
  split
  · rfl
  · rw [List.reverse_append, List.reverse_reverse]

theorem trimEnd_append_of_white (white : ∀ char ∈ second, isWhiteSpace char = true)
    (first : List Char) : trimEnd (first ++ second) = trimEnd first := by
  rw [trimEnd_append, if_pos (trimEnd_eq_nil_iff.mpr white)]

/-- What is trimmed is white space. -/
theorem exists_trimEnd_append (text : List Char) :
    ∃ back, (∀ char ∈ back, isWhiteSpace char = true) ∧ text = trimEnd text ++ back := by
  refine ⟨(text.reverse.takeWhile isWhiteSpace).reverse, ?_, ?_⟩
  · intro char member
    exact List.mem_takeWhile_imp (List.mem_reverse.mp member)
  · rw [trimEnd, ← List.reverse_append, List.takeWhile_append_dropWhile, List.reverse_reverse]

/-- Where only white space is dropped from the front, it does not matter which end is seen to
first. -/
theorem dropWhile_trimEnd (narrow : ∀ char, drop char = true → isWhiteSpace char = true)
    (text : List Char) : (trimEnd text).dropWhile drop = trimEnd (text.dropWhile drop) := by
  have dropped : ∀ char ∈ text.takeWhile drop, drop char = true := fun _ => List.mem_takeWhile_imp
  have white : ∀ char ∈ text.takeWhile drop, isWhiteSpace char = true :=
    fun char member => narrow char (dropped char member)
  have whole := List.takeWhile_append_dropWhile (p := drop) (l := text)
  conv => lhs; rw [← whole]
  rw [trimEnd_append]
  split
  · rename_i blank
    rw [trimEnd_eq_nil_iff.mpr white, blank, List.dropWhile_nil]
  · rename_i visible
    obtain ⟨first, more, shape⟩ := List.exists_cons_of_ne_nil visible
    obtain ⟨back, -, rest⟩ := exists_trimEnd_append (text.dropWhile drop)
    have kept := List.head?_dropWhile_not drop text
    rw [rest, shape, List.cons_append, List.head?_cons] at kept
    rw [List.dropWhile_append_of_pos dropped, shape,
      List.dropWhile_cons_of_neg (ne_true_of_eq_false kept)]

/-- White space at the end of a text is not in what is kept of it. -/
theorem trimEnd_dropWhile_append
    (narrow : ∀ char, drop char = true → isWhiteSpace char = true)
    (white : ∀ char ∈ second, isWhiteSpace char = true) (first : List Char) :
    trimEnd ((first ++ second).dropWhile drop) = trimEnd (first.dropWhile drop) := by
  rw [← dropWhile_trimEnd narrow, trimEnd_append_of_white white, dropWhile_trimEnd narrow]

end Text

/-- Text without the white space at its ends stands for the same program. -/
theorem compile_encode_trimmed {drop : Char → Bool}
    (narrow : ∀ char, drop char = true → Text.isWhiteSpace char = true) (text : String) :
    compile (Text.encode text) =
      (compile (Text.encode (String.ofList (Text.trimEnd (text.toList.dropWhile drop))))).mapError
        (.moved (Text.size (text.toList.takeWhile drop))) := by
  obtain ⟨back, behind, rest⟩ := Text.exists_trimEnd_append (text.toList.dropWhile drop)
  have before : ∀ char ∈ text.toList.takeWhile drop, Text.isWhiteSpace char = true :=
    fun char member => narrow char (List.mem_takeWhile_imp member)
  have whole : text = String.ofList (text.toList.takeWhile drop) ++
      String.ofList (Text.trimEnd (text.toList.dropWhile drop)) ++ String.ofList back := by
    apply String.toList_inj.mp
    simp only [String.toList_append, String.toList_ofList]
    rw [List.append_assoc, ← rest, List.takeWhile_append_dropWhile]
  have length : (Text.encode (String.ofList (text.toList.takeWhile drop))).length =
      Text.size (text.toList.takeWhile drop) := by
    rw [Text.length_encode, String.toList_ofList]
  conv => lhs; rw [whole]
  rw [Text.encode_append, Text.encode_append, ← length]
  refine compile_margins ?_ ?_ _
  · exact Source.symbols_encode_of_white (by rwa [String.toList_ofList])
  · exact Source.symbols_encode_of_white (by rwa [String.toList_ofList])

end TapeMachine
