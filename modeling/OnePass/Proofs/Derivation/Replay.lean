import Mathlib.Data.List.TakeWhile
import OnePass.Proofs.Derivation.Cursor
/-!
# The tokens before the end

From the first place of a list of tokens one way leads to the end of the text: through the tokens
before the first that stands for it, or through all of them.
-/
namespace OnePass

/-- The tokens before the first one that stands for the end of the text. -/
def Token.beforeEnd (tokens : List Token) : List Token :=
  tokens.takeWhile (·.kind ≠ .endOfFile)

/-- The place at the first token of a list that is replayed. -/
def Cursor.ofTokens (filename : String) : List Token → (line : Int) → Cursor
  | [], line => ⟨.endOfFile line, .replay filename [] line⟩
  | token :: tokens, _ => ⟨token, .replay filename tokens token.line⟩

theorem Source.place?_replay (filename : String) (tokens : List Token) (line : Int) :
    (Source.replay filename tokens line).place? = some (.ofTokens filename tokens line) := by
  cases tokens <;> rfl

namespace Cursor

theorem exists_passes_beforeEnd (filename : String) (tokens : List Token) (line : Int) :
    ∃ c', (ofTokens filename tokens line).Passes (Token.beforeEnd tokens) c' ∧
      c'.token.kind = .endOfFile := by
  induction tokens generalizing line with
  | nil => exact ⟨_, .here _, rfl⟩
  | cons token tokens ih =>
      by_cases hend : token.kind = .endOfFile
      · refine ⟨ofTokens filename (token :: tokens) line, ?_, hend⟩
        have hnone : Token.beforeEnd (token :: tokens) = [] := by simp [Token.beforeEnd, hend]
        rw [hnone]
        exact .here _
      · obtain ⟨c', hpasses, hkind⟩ := ih token.line
        refine ⟨c', ?_, hkind⟩
        have hsome : Token.beforeEnd (token :: tokens) = token :: Token.beforeEnd tokens := by
          simp [Token.beforeEnd, hend]
        rw [hsome]
        exact .step (Source.place?_replay filename tokens token.line) hpasses

theorem kind_ne_of_mem_beforeEnd {tokens : List Token} {token : Token}
    (h : token ∈ Token.beforeEnd tokens) : token.kind ≠ .endOfFile := by
  have htoken := List.mem_takeWhile_imp h
  simpa using htoken

@[simp] theorem filename_ofTokens (filename : String) (tokens : List Token) (line : Int) :
    (ofTokens filename tokens line).source.filename = filename := by
  cases tokens <;> rfl

@[simp] theorem next?_ofTokens_cons (filename : String) (token : Token) (tokens : List Token)
    (line : Int) :
    (ofTokens filename (token :: tokens) line).next? =
      some (.ofTokens filename tokens token.line) :=
  Source.place?_replay filename tokens token.line

@[simp] theorem next?_ofTokens_nil (filename : String) (line : Int) :
    (ofTokens filename [] line).next? = some (.ofTokens filename [] line) :=
  Source.place?_replay filename [] line

theorem exists_passes_ofTokens (filename : String) (front back : List Token) (line : Int) :
    ∃ line', (ofTokens filename (front ++ back) line).Passes front
      (.ofTokens filename back line') := by
  induction front generalizing line with
  | nil => exact ⟨line, .here _⟩
  | cons token front ih =>
      obtain ⟨line', hpasses⟩ := ih token.line
      exact ⟨line', .step (next?_ofTokens_cons filename token (front ++ back) line) hpasses⟩

/-- Every place in a list is at the rest of it. No token is passed over but those of the list and
those for the end of the text. -/
theorem Passes.exists_ofTokens {filename : String} {tokens front : List Token} {line : Int}
    {c' : Cursor} (h : (ofTokens filename tokens line).Passes front c') :
    ∃ back line', c' = .ofTokens filename back line' ∧
      ((∀ token ∈ front, token.kind ≠ .endOfFile) → tokens = front ++ back) := by
  induction front generalizing tokens line with
  | nil => exact ⟨tokens, line, h.eq_of_nil.symm, fun _ => rfl⟩
  | cons token front ih =>
      obtain ⟨htoken, middle, hnext, hrest⟩ := h.of_cons
      cases tokens with
      | nil =>
          rw [next?_ofTokens_nil] at hnext
          cases hnext
          obtain ⟨back, line', hc', -⟩ := ih hrest
          refine ⟨back, line', hc', fun hkinds => ?_⟩
          exact absurd (htoken ▸ rfl) (hkinds token List.mem_cons_self)
      | cons first tokens =>
          rw [next?_ofTokens_cons] at hnext
          cases hnext
          obtain ⟨back, line', hc', htokens⟩ := ih hrest
          refine ⟨back, line', hc', fun hkinds => ?_⟩
          rw [← htoken, htokens fun token hmem => hkinds token (List.mem_cons_of_mem _ hmem)]
          rfl

theorem Passes.eq_of_ends {c c' c'' : Cursor} {tokens tokens' : List Token}
    (h : c.Passes tokens c') (h' : c.Passes tokens' c'')
    (hbefore : ∀ token ∈ tokens, token.kind ≠ .endOfFile)
    (hbefore' : ∀ token ∈ tokens', token.kind ≠ .endOfFile)
    (hend : c'.token.kind = .endOfFile) (hend' : c''.token.kind = .endOfFile) :
    tokens = tokens' ∧ c' = c'' := by
  induction h generalizing tokens' with
  | here c =>
      cases h' with
      | here => exact ⟨rfl, rfl⟩
      | step => exact absurd hend (hbefore' _ List.mem_cons_self)
  | step hnext hrest ih =>
      cases h' with
      | here => exact absurd hend' (hbefore _ List.mem_cons_self)
      | step hnext' hrest' =>
          rw [hnext] at hnext'
          cases hnext'
          obtain ⟨rfl, rfl⟩ :=
            ih hrest' (fun token hmem => hbefore token (List.mem_cons_of_mem _ hmem))
            (fun token hmem => hbefore' token (List.mem_cons_of_mem _ hmem)) hend
          exact ⟨rfl, rfl⟩

end Cursor

end OnePass
