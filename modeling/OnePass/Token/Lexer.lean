import OnePass.Failure
import OnePass.Text.Stream
import OnePass.Token.Basic
import OnePass.Token.Scan
import OnePass.Token.Trivia
/-!
# The lexer

A lexer stands in a text and hands out one token per call. It knows how many characters lie behind
it and which line it is on; a line feed ends a line and nothing else does.
-/
namespace OnePass

structure Lexer where
  filename : String
  rest : List Char
  position : Nat
  line : Nat
  deriving Repr

namespace Lexer

/-- The name of a text that is no file. -/
def inlineName : String := "<string>"

def ofString (filename text : String) : Lexer :=
  ⟨filename, text.toList, 0, 1⟩

def atEnd (lexer : Lexer) : Bool :=
  lexer.rest.isEmpty

/-- Moves over the characters `taken`, behind which `rest` stands. -/
def past (lexer : Lexer) (taken rest : List Char) : Lexer :=
  { lexer with
    rest := rest
    position := lexer.position + taken.length
    line := lexer.line + taken.count '\n' }

def peek (lexer : Lexer) : Option Char :=
  lexer.rest.head?

/-- Reads one character, whatever it is. -/
def advance (lexer : Lexer) : Except Text.Stream.Refusal Char × Lexer :=
  match lexer.rest with
  | [] => (.error (.pastEnd lexer.position lexer.line), lexer)
  | c :: rest => (.ok c, lexer.past [c] rest)

def skipTrivia (lexer : Lexer) : Lexer :=
  let parts := Trivia.split false lexer.rest
  lexer.past parts.1 parts.2

/-- Moves up to the end of the line. -/
def skipComment (lexer : Lexer) : Lexer :=
  lexer.past (lexer.rest.takeWhile (· != '\n')) (lexer.rest.dropWhile (· != '\n'))

/-- Moves over the symbol that the text at hand begins with, if it begins with one. -/
def matchSymbol (lexer : Lexer) : Option Token × Lexer :=
  match Scan.symbol? lexer.rest with
  | some (.token kind text taken rest) =>
    (some ⟨kind, String.ofList text, lexer.line⟩, lexer.past taken rest)
  | _ => (none, lexer)

/-- The failure of a string that is not closed on the line it starts on. -/
def unterminatedString (filename : String) (line : Nat) : Failure :=
  .diagnostic .lexical s!"{filename}:{line}: unterminated string constant" line

/-- Reads the token at hand, in front of which no trivia stands. -/
def token (lexer : Lexer) : Except Failure Token × Lexer :=
  match Scan.front lexer.rest with
  | .finished => (.ok (.endOfFile lexer.line), lexer)
  | .token kind text taken rest =>
    (.ok ⟨kind, String.ofList text, lexer.line⟩, lexer.past taken rest)
  | .unterminated taken rest =>
    (.error (unterminatedString lexer.filename lexer.line), lexer.past taken rest)

def next (lexer : Lexer) : Except Failure Token × Lexer :=
  lexer.skipTrivia.token

@[simp] theorem past_nil (lexer : Lexer) : lexer.past [] lexer.rest = lexer := rfl

theorem past_past (lexer : Lexer) (front back middle rest : List Char) :
    (lexer.past front middle).past back rest = lexer.past (front ++ back) rest := by
  simp [past, Nat.add_assoc]

theorem token_eq_past (lexer : Lexer) :
    lexer.token.2 = lexer.past (Scan.front lexer.rest).taken (Scan.front lexer.rest).rest ∨
      lexer.rest = [] ∧ lexer.token.2 = lexer := by
  unfold token
  split
  next hfront =>
    refine .inr ⟨?_, rfl⟩
    have hwhole := Scan.taken_append_rest_front lexer.rest
    rw [hfront] at hwhole
    exact hwhole.symm
  next kind text taken rest hfront => exact .inl (by rw [hfront]; rfl)
  next taken rest hfront => exact .inl (by rw [hfront]; rfl)

theorem length_rest_token (lexer : Lexer) : lexer.token.2.rest.length ≤ lexer.rest.length := by
  have hwhole := congrArg List.length (Scan.taken_append_rest_front lexer.rest)
  rw [List.length_append] at hwhole
  rcases lexer.token_eq_past with hpast | ⟨_, hsame⟩
  · rw [hpast]
    simp only [past]
    omega
  · exact Nat.le_of_eq (congrArg (fun lexer => lexer.rest.length) hsame)

theorem length_rest_skipTrivia (lexer : Lexer) :
    lexer.skipTrivia.rest.length ≤ lexer.rest.length := by
  have hwhole := congrArg List.length (Trivia.append_split false lexer.rest)
  rw [List.length_append] at hwhole
  simp only [skipTrivia, past]
  omega

theorem token_of_rest_eq_nil {lexer : Lexer} (h : lexer.rest = []) :
    lexer.token = (.ok (.endOfFile lexer.line), lexer) := by
  unfold token
  rw [h]
  rfl

theorem length_rest_token_lt_of_ne_nil {lexer : Lexer} (h : lexer.rest ≠ []) :
    lexer.token.2.rest.length < lexer.rest.length := by
  have hwhole := congrArg List.length (Scan.taken_append_rest_front lexer.rest)
  rw [List.length_append] at hwhole
  obtain ⟨c, cs, hrest⟩ := List.exists_cons_of_ne_nil h
  have htaken := List.length_pos_iff.mpr (Scan.taken_ne_nil_of_front c cs)
  rw [← hrest] at htaken
  rcases lexer.token_eq_past with hpast | ⟨hnil, _⟩
  · rw [hpast]
    simp only [past]
    omega
  · exact absurd hnil h

theorem length_rest_token_lt {lexer : Lexer} {t : Token} (h : lexer.token.1 = .ok t)
    (hkind : t.kind ≠ .endOfFile) : lexer.token.2.rest.length < lexer.rest.length := by
  apply length_rest_token_lt_of_ne_nil
  intro hnil
  rw [token_of_rest_eq_nil hnil] at h
  cases h
  exact hkind rfl

end Lexer

end OnePass
