import OnePass.Text.Letter
import OnePass.Text.Digit
import OnePass.Token.Kind
/-!
# Scanning one token

The characters at hand decide the token that they begin with. Words and numbers are as long as they
can be, symbols are the longest known spelling, a string ends at the next double quote on its line,
and any other character is an illegal symbol by itself.
-/
namespace OnePass

/-- What stands at the front of a text: nothing, a token, or a string that its line does not end. A
token has its kind and text, the characters it takes up and those that follow. -/
inductive Scan where
  | finished
  | token (kind : Kind) (text taken rest : List Char)
  | unterminated (taken rest : List Char)
  deriving DecidableEq, Repr

namespace Scan

def isNamePart (c : Char) : Bool :=
  Text.isLetter c || Text.isNumeral c || c == '_'

def quote : Char := '\x22'

def inString (c : Char) : Bool :=
  c != quote && c != '\n'

/-- A point and the digits after it, if a digit follows the point directly. -/
def splitFraction : List Char → List Char × List Char
  | '.' :: c :: rest =>
    if Text.isDigit c then
      ('.' :: (c :: rest).takeWhile Text.isDigit, (c :: rest).dropWhile Text.isDigit)
    else ([], '.' :: c :: rest)
  | cs => ([], cs)

def word (cs : List Char) : Scan :=
  let name := cs.takeWhile isNamePart
  .token ((Kind.keyword? (String.ofList name)).getD .identifier) name name (cs.dropWhile isNamePart)

def number (cs : List Char) : Scan :=
  let (fraction, rest) := splitFraction (cs.dropWhile Text.isDigit)
  let text := cs.takeWhile Text.isDigit ++ fraction
  .token .numberConstant text text rest

/-- Reads a string whose opening quote has been seen. -/
def string (cs : List Char) : Scan :=
  let body := cs.takeWhile inString
  match cs.dropWhile inString with
  | [] => .unterminated (quote :: body) []
  | c :: rest =>
    if c = quote then .token .stringConstant body (quote :: body ++ [quote]) rest
    else .unterminated (quote :: body) (c :: rest)

/-- The longest symbol at the front, of two characters or else of one. -/
def symbol? (cs : List Char) : Option Scan :=
  [2, 1].findSome? fun size =>
    (Kind.symbol? (String.ofList (cs.take size))).map fun kind =>
      .token kind (cs.take size) (cs.take size) (cs.drop size)

/-- Scans a text that no trivia stands in front of. -/
def front : List Char → Scan
  | [] => .finished
  | c :: rest =>
    if Text.isLetter c then word (c :: rest)
    else if Text.isDigit c then number (c :: rest)
    else if c = quote then string rest
    else (symbol? (c :: rest)).getD (.token .illegalSymbol [c] [c] rest)

/-- The characters taken up. -/
def taken : Scan → List Char
  | .finished => []
  | .token _ _ taken _ => taken
  | .unterminated taken _ => taken

/-- The characters that follow. -/
def rest : Scan → List Char
  | .finished => []
  | .token _ _ _ rest => rest
  | .unterminated _ rest => rest

private theorem append_splitFraction (cs : List Char) :
    (splitFraction cs).1 ++ (splitFraction cs).2 = cs := by
  unfold splitFraction
  split
  · split
    · simp
    · rfl
  · rfl

theorem taken_append_rest_symbol? {cs : List Char} {scan : Scan} (h : symbol? cs = some scan) :
    scan.taken ++ scan.rest = cs := by
  obtain ⟨size, _, hsize⟩ := List.exists_of_findSome?_eq_some h
  obtain ⟨_, _, rfl⟩ := Option.map_eq_some_iff.mp hsize
  exact List.take_append_drop size cs

private theorem taken_append_rest_string (cs : List Char) :
    (string cs).taken ++ (string cs).rest = quote :: cs := by
  have hparts := List.takeWhile_append_dropWhile (p := inString) (l := cs)
  unfold string
  split
  next hdrop => simpa [taken, rest, hdrop] using hparts
  next c after hdrop =>
    rw [hdrop] at hparts
    split
    next hclosing => simpa [taken, rest, hclosing] using hparts
    next => simpa [taken, rest] using hparts

theorem taken_append_rest_front (cs : List Char) : (front cs).taken ++ (front cs).rest = cs := by
  cases cs with
  | nil => rfl
  | cons c cs =>
    simp only [front]
    split
    · simp [word, taken, rest]
    · split
      · have hfraction := append_splitFraction ((c :: cs).dropWhile Text.isDigit)
        simp [number, taken, rest, hfraction]
      · split
        next hquote => rw [taken_append_rest_string, hquote]
        next =>
          cases hsymbol : symbol? (c :: cs) with
          | none => simp [taken, rest]
          | some scan => exact taken_append_rest_symbol? hsymbol

private theorem taken_ne_nil_of_symbol? {c : Char} {cs : List Char} {scan : Scan}
    (h : symbol? (c :: cs) = some scan) : scan.taken ≠ [] := by
  obtain ⟨size, hmem, hsize⟩ := List.exists_of_findSome?_eq_some h
  obtain ⟨_, _, rfl⟩ := Option.map_eq_some_iff.mp hsize
  simp only [List.mem_cons, List.not_mem_nil, or_false] at hmem
  rcases hmem with rfl | rfl <;> simp [taken]

theorem taken_ne_nil_of_front (c : Char) (cs : List Char) : (front (c :: cs)).taken ≠ [] := by
  simp only [front]
  split
  next hletter => simp [word, taken, isNamePart, hletter]
  next =>
    split
    next hdigit => simp [number, taken, hdigit]
    next =>
      split
      next =>
        unfold string
        split
        · simp [taken]
        · split <;> simp [taken]
      next =>
        cases hsymbol : symbol? (c :: cs) with
        | none => simp [taken]
        | some scan => exact taken_ne_nil_of_symbol? hsymbol

end Scan

end OnePass
