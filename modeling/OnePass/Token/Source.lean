import OnePass.Token.Lexer
/-!
# Sources of tokens

Tokens come from a text that is lexed as they are asked for, or from a list made beforehand. After
its last token a source hands out tokens for the end of the text, as often as it is asked.
-/
namespace OnePass

/-- A list is replayed under a name of its own, with the line of the last token handed out. -/
inductive Source where
  | text (lexer : Lexer)
  | replay (filename : String) (pending : List Token) (line : Int)
  deriving Repr

namespace Source

/-- The name of a list of tokens that comes from no file. -/
def inlineName : String := "<tokens>"

def ofTokens (filename : String) (tokens : List Token) : Source :=
  .replay filename tokens 1

def filename : Source → String
  | .text lexer => lexer.filename
  | .replay filename _ _ => filename

def next : Source → Except Failure Token × Source
  | .text lexer => (lexer.next.1, .text lexer.next.2)
  | .replay filename [] line => (.ok (.endOfFile line), .replay filename [] line)
  | .replay filename (token :: pending) _ => (.ok token, .replay filename pending token.line)

/-- No more tokens than this can come before those for the end of the text. -/
def remaining : Source → Nat
  | .text lexer => lexer.rest.length
  | .replay _ pending _ => pending.length

@[simp] theorem filename_next (source : Source) : source.next.2.filename = source.filename := by
  cases source with
  | text lexer =>
    simp only [next, filename, Lexer.next]
    rcases lexer.skipTrivia.token_eq_past with hpast | ⟨_, hsame⟩
    · rw [hpast]
      rfl
    · rw [hsame]
      rfl
  | replay filename pending line => cases pending <;> rfl

theorem remaining_next (source : Source) : source.next.2.remaining ≤ source.remaining := by
  cases source with
  | text lexer =>
    exact Nat.le_trans (Lexer.length_rest_token _) (Lexer.length_rest_skipTrivia lexer)
  | replay filename pending line => cases pending <;> simp [next, remaining]

theorem remaining_next_lt {source : Source} {t : Token} (h : source.next.1 = .ok t)
    (hkind : t.kind ≠ .endOfFile) : source.next.2.remaining < source.remaining := by
  cases source with
  | text lexer =>
    exact Nat.lt_of_lt_of_le (Lexer.length_rest_token_lt h hkind)
      (Lexer.length_rest_skipTrivia lexer)
  | replay filename pending line =>
    cases pending with
    | nil =>
      cases h
      exact absurd rfl hkind
    | cons token pending => simp [next, remaining]

theorem remaining_next_lt_of_error {source : Source} {failure : Failure}
    (h : source.next.1 = .error failure) : source.next.2.remaining < source.remaining := by
  cases source with
  | text lexer =>
    have hrest : lexer.skipTrivia.rest ≠ [] := by
      intro hnil
      have hnext : lexer.next.1 = .error failure := h
      rw [Lexer.next, Lexer.token_of_rest_eq_nil hnil] at hnext
      cases hnext
    exact Nat.lt_of_lt_of_le (Lexer.length_rest_token_lt_of_ne_nil hrest)
      (Lexer.length_rest_skipTrivia lexer)
  | replay filename pending line => cases pending <;> cases h

theorem exists_unterminated_of_error {source : Source} {failure : Failure}
    (h : source.next.1 = .error failure) :
    ∃ filename line, failure = Lexer.unterminatedString filename line := by
  cases source with
  | text lexer =>
    have htoken : lexer.skipTrivia.token.1 = .error failure := h
    unfold Lexer.token at htoken
    split at htoken <;> cases htoken
    exact ⟨_, _, rfl⟩
  | replay filename pending line => cases pending <;> cases h

end Source

end OnePass
