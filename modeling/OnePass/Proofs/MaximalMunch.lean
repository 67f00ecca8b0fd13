import Mathlib.Logic.Function.Iterate
import OnePass.Proofs.Lexing.Munch
/-!
# The lexer takes the longest match and loses nothing

From every position that a lexer comes to, one call takes up all trivia and the longest token behind
it, or the string there, and nothing else.
-/
namespace OnePass

namespace Lexer

/-- The lexer after so many calls. -/
def after (lexer : Lexer) (calls : Nat) : Lexer :=
  (fun lexer => lexer.next.2)^[calls] lexer

/-- The characters that one call takes up. -/
def consumed (lexer : Lexer) : List Char :=
  lexer.rest.take (lexer.next.2.position - lexer.position)

/-- The lexer stands at its position in the text, on the line that the line feeds before it make
up. -/
structure StandsIn (lexer : Lexer) (filename text : String) : Prop where
  filename : lexer.filename = filename
  rest : text.toList.drop lexer.position = lexer.rest
  line : lexer.line = 1 + (text.toList.take lexer.position).count '\n'

variable {lexer : Lexer} {filename text : String}

theorem after_succ (lexer : Lexer) (calls : Nat) :
    lexer.after (calls + 1) = (lexer.after calls).next.2 :=
  Function.iterate_succ_apply' _ calls lexer

theorem exists_munch (lexer : Lexer) :
    ∃ trivia scan, Munch lexer.rest trivia scan ∧
      lexer.next = (scan.outcome lexer.filename (lexer.line + trivia.count '\n'),
        lexer.past (trivia ++ scan.taken) scan.rest) := by
  rcases hsplit : Trivia.split false lexer.rest with ⟨trivia, _ | ⟨c, cs⟩⟩
  · refine ⟨trivia, Scan.front [], .of_split hsplit, ?_⟩
    have hend : (Trivia.split false lexer.rest).2 = [] := by rw [hsplit]
    have hwhole : trivia = lexer.rest := by
      simpa [hsplit] using Trivia.append_split false lexer.rest
    have hskip : lexer.skipTrivia = lexer.past (trivia ++ []) [] := by
      simp only [skipTrivia, hsplit, List.append_nil]
    rw [next_of_split_nil hend, hskip, ← hwhole]
    rfl
  · refine ⟨trivia, Scan.front (c :: cs), .of_split hsplit, ?_⟩
    rw [next_of_split_cons hsplit]
    rfl

theorem StandsIn.start (filename text : String) : (ofString filename text).StandsIn filename text :=
  ⟨rfl, rfl, rfl⟩

theorem StandsIn.past (h : lexer.StandsIn filename text) {taken rest : List Char}
    (hrest : lexer.rest = taken ++ rest) : (lexer.past taken rest).StandsIn filename text := by
  have hdrop := h.rest
  rw [hrest] at hdrop
  constructor
  · exact h.filename
  · change text.toList.drop (lexer.position + taken.length) = rest
    rw [← List.drop_drop, hdrop, List.drop_left]
  · change lexer.line + taken.count '\n' =
      1 + (text.toList.take (lexer.position + taken.length)).count '\n'
    rw [List.take_add, hdrop, List.take_left, List.count_append, h.line]
    omega

private theorem StandsIn.next (h : lexer.StandsIn filename text) :
    lexer.next.2.StandsIn filename text := by
  obtain ⟨trivia, scan, hmunch, hnext⟩ := lexer.exists_munch
  have hrest := hmunch.whole
  rw [← List.append_assoc] at hrest
  rw [hnext]
  exact h.past hrest

theorem StandsIn.after (h : lexer.StandsIn filename text) (calls : Nat) :
    (lexer.after calls).StandsIn filename text := by
  induction calls with
  | zero => exact h
  | succ calls ih =>
      rw [after_succ]
      exact ih.next

private theorem consumed_append_rest (lexer : Lexer) :
    lexer.consumed ++ lexer.next.2.rest = lexer.rest := by
  obtain ⟨trivia, scan, hmunch, hnext⟩ := lexer.exists_munch
  have hrest := hmunch.whole
  rw [← List.append_assoc] at hrest
  have hlength : (lexer.past (trivia ++ scan.taken) scan.rest).position - lexer.position =
      (trivia ++ scan.taken).length := Nat.add_sub_cancel_left _ _
  rw [consumed, hnext, hlength, hrest, List.take_left]
  rfl

private theorem flatMap_consumed_append_rest (lexer : Lexer) (calls : Nat) :
    ((List.range calls).flatMap fun call => (lexer.after call).consumed) ++
      (lexer.after calls).rest = lexer.rest := by
  induction calls with
  | zero => rfl
  | succ calls ih =>
      rw [List.range_succ, List.flatMap_append, List.flatMap_singleton, List.append_assoc,
        after_succ, consumed_append_rest, ih]

/-- A call from any position that a lexer comes to takes up the one munch there: all trivia, and
behind it the longest token or the string. What it hands out is on the line of its first character,
and the calls together take up the text piece by piece. -/
theorem next_munches (filename text : String) (calls : Nat) :
    let start := ofString filename text
    let lexer := start.after calls
    lexer.StandsIn filename text ∧
    ((List.range calls).flatMap fun call => (start.after call).consumed) ++ lexer.rest =
      text.toList ∧
    ∃ trivia scan, Munch (text.toList.drop lexer.position) trivia scan ∧
      (∀ trivia' scan', Munch (text.toList.drop lexer.position) trivia' scan' →
        trivia' = trivia ∧ scan' = scan) ∧
      lexer.next.1 = scan.outcome filename
        (1 + (text.toList.take (lexer.position + trivia.length)).count '\n') ∧
      lexer.consumed = trivia ++ scan.taken ∧
      lexer.next.2.position = lexer.position + trivia.length + scan.taken.length ∧
      text.toList.drop lexer.next.2.position = scan.rest := by
  intro start lexer
  have hstands : lexer.StandsIn filename text := (StandsIn.start filename text).after calls
  refine ⟨hstands, start.flatMap_consumed_append_rest calls, ?_⟩
  obtain ⟨trivia, scan, hmunch, hnext⟩ := lexer.exists_munch
  have hbehind : lexer.next.2.StandsIn filename text := hstands.next
  have hconsumed := lexer.consumed_append_rest
  have hline : lexer.line + trivia.count '\n' =
      1 + (text.toList.take (lexer.position + trivia.length)).count '\n' :=
    (hstands.past hmunch.whole).line
  rw [hstands.rest]
  refine ⟨trivia, scan, hmunch, fun trivia' scan' hother => hmunch.unique hother, ?_, ?_, ?_, ?_⟩
  · rw [hnext, hline, hstands.filename]
  · rw [hnext, hmunch.whole, ← List.append_assoc] at hconsumed
    exact List.append_cancel_right hconsumed
  · rw [hnext]
    simp [Lexer.past, Nat.add_assoc]
  · rw [hbehind.rest, hnext]
    rfl

end Lexer

end OnePass
