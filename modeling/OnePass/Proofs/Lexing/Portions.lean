import Mathlib.Data.Nat.Find
import Mathlib.Order.Monotone.Basic
import OnePass.Proofs.LexerCalls
/-!
# A text in portions

Each call for a token takes up a portion of the text: trivia, and what is found behind it. Main
statement: a character of the text is in one portion and in no other.
-/
namespace OnePass

private theorem Lexer.afterCalls_replicate (lexer : Lexer) (calls : Nat) :
    lexer.afterCalls (List.replicate calls .next) = lexer.after calls := by
  induction calls generalizing lexer with
  | zero => rfl
  | succ calls ih => exact ih lexer.next.2

/-- What one of the calls on a text takes up. -/
@[ext]
structure Portion (filename text : String) where
  calls : Nat
  trivia : List Char
  scan : Scan
  munch :
    Munch (text.toList.drop ((Lexer.ofString filename text).after calls).position) trivia scan

namespace Portion

variable {filename text : String}

/-- The lexer that makes the call. -/
def lexer (portion : Portion filename text) : Lexer :=
  (Lexer.ofString filename text).after portion.calls

/-- What the call comes to. -/
def outcome (portion : Portion filename text) : Except Failure Token :=
  portion.lexer.next.1

def start (portion : Portion filename text) : Nat :=
  portion.lexer.position

/-- Where the trivia ends. -/
def middle (portion : Portion filename text) : Nat :=
  portion.start + portion.trivia.length

def stop (portion : Portion filename text) : Nat :=
  portion.middle + portion.scan.taken.length

/-- The character at the position is in the portion. -/
def Holds (portion : Portion filename text) (position : Nat) : Prop :=
  portion.start ≤ position ∧ position < portion.stop

private theorem standsIn (portion : Portion filename text) : portion.lexer.StandsIn filename text :=
  (Lexer.StandsIn.start filename text).after portion.calls

theorem next_eq (portion : Portion filename text) :
    portion.lexer.next =
      (portion.scan.outcome filename (portion.lexer.line + portion.trivia.count '\n'),
        portion.lexer.past (portion.trivia ++ portion.scan.taken) portion.scan.rest) := by
  obtain ⟨trivia, scan, hmunch, hnext⟩ := portion.lexer.exists_munch
  rw [← portion.standsIn.rest] at hmunch
  obtain ⟨rfl, rfl⟩ := portion.munch.unique hmunch
  rw [hnext, portion.standsIn.filename]

theorem exists_calls_eq (filename text : String) (calls : Nat) :
    ∃ portion : Portion filename text, portion.calls = calls := by
  let lexer := (Lexer.ofString filename text).after calls
  obtain ⟨trivia, scan, hmunch, -⟩ := lexer.exists_munch
  have hstands : lexer.StandsIn filename text := (Lexer.StandsIn.start filename text).after calls
  rw [← hstands.rest] at hmunch
  exact ⟨⟨calls, trivia, scan, hmunch⟩, rfl⟩

private theorem position_after_succ (portion : Portion filename text) :
    ((Lexer.ofString filename text).after (portion.calls + 1)).position = portion.stop := by
  rw [Lexer.after_succ]
  change portion.lexer.next.2.position = portion.stop
  rw [next_eq]
  simp [Lexer.past, stop, middle, start, Nat.add_assoc]

private theorem monotone_position (filename text : String) :
    Monotone fun calls => ((Lexer.ofString filename text).after calls).position := by
  refine monotone_nat_of_le_succ fun calls => ?_
  obtain ⟨portion, rfl⟩ := exists_calls_eq filename text calls
  rw [position_after_succ, stop, middle, Nat.add_assoc]
  exact Nat.le_add_right portion.start _

private theorem eq_of_calls_eq {portion portion' : Portion filename text}
    (h : portion.calls = portion'.calls) : portion = portion' := by
  have hmunch := portion'.munch
  rw [← h] at hmunch
  obtain ⟨htrivia, hscan⟩ := portion.munch.unique hmunch
  exact Portion.ext h htrivia.symm hscan.symm

private theorem calls_le_of_holds {portion portion' : Portion filename text} {position : Nat}
    (h : portion.Holds position) (h' : portion'.Holds position) :
    portion.calls ≤ portion'.calls := by
  by_contra hlater
  have hle := monotone_position filename text (Nat.succ_le_of_lt (not_le.mp hlater))
  have hstop : portion'.stop ≤ portion.start := by
    rw [← position_after_succ]
    exact hle
  have hstart := h.1
  have hbefore := h'.2
  omega

private theorem le_position_after (filename text : String) :
    text.length ≤ ((Lexer.ofString filename text).after text.length).position := by
  have hcount := (Lexer.Inside.start filename text).count_le (List.replicate text.length .next)
  rw [Lexer.afterCalls_replicate, List.count_replicate_self] at hcount
  simpa [Lexer.ofString] using hcount

/-- Every character of a text is in just one portion. -/
theorem existsUnique_holds {position : Nat} (h : position < text.length) :
    ∃! portion : Portion filename text, portion.Holds position := by
  have hreached : ∃ calls, position < ((Lexer.ofString filename text).after calls).position :=
    ⟨text.length, Nat.lt_of_lt_of_le h (le_position_after filename text)⟩
  -- The call that is the first to move beyond the position takes its character up.
  obtain ⟨calls, hcalls⟩ : ∃ calls, Nat.find hreached = calls + 1 := by
    refine Nat.exists_eq_succ_of_ne_zero fun hzero => ?_
    have hstart := Nat.find_spec hreached
    rw [hzero] at hstart
    cases hstart
  obtain ⟨portion, rfl⟩ := exists_calls_eq filename text calls
  have hholds : portion.Holds position := by
    constructor
    · have hbefore := Nat.find_min hreached (m := portion.calls) (by omega)
      exact Nat.le_of_not_lt hbefore
    · have hbeyond := Nat.find_spec hreached
      rwa [hcalls, position_after_succ] at hbeyond
  refine ⟨portion, hholds, fun portion' hholds' => eq_of_calls_eq ?_⟩
  exact Nat.le_antisymm (calls_le_of_holds hholds' hholds) (calls_le_of_holds hholds hholds')

theorem spans {portion : Portion filename text} {token : Token}
    (h : portion.outcome = .ok token) : token.Spans text portion.middle portion.stop := by
  obtain ⟨start, -, hspans⟩ := portion.standsIn.spans_next h
  have hnext := portion.next_eq
  have houtcome := h
  rw [outcome, hnext] at houtcome
  have hwritten := (portion.munch.written houtcome).1
  have hstop : portion.lexer.next.2.position = portion.stop := by
    rw [← position_after_succ, Lexer.after_succ]
    rfl
  rw [hstop] at hspans
  have hstart := hspans.stop_eq
  rw [hwritten, stop] at hstart
  obtain rfl : start = portion.middle := by omega
  exact hspans

end Portion

end OnePass
