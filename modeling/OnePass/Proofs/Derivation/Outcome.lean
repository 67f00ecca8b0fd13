import OnePass.Proofs.Derivation.Completeness
import OnePass.Proofs.Derivation.Replay
import OnePass.Proofs.Derivation.Start
/-!
# What comes of the tokens of a tree

Where the tokens of a whole tree come before the end of the text, the program is accepted with the
journal that the account of the tree tells of, or rejected for a semantic reason if there is none.
-/
namespace OnePass

open Grammar

theorem Token.beforeEnd_yield {rule : Rule} (t : Tree rule) :
    Token.beforeEnd t.yield = t.yield := by
  rw [Token.beforeEnd, List.takeWhile_eq_self_iff]
  intro token htoken
  exact decide_eq_true (t.kind_ne_endOfFile token htoken)

namespace Analysis

variable {t : Tree .statementPart} {c last : Cursor} {tokens : List Token}

theorem program_endsAs (hpasses : c.Passes t.yield last) (hend : last.token.kind = .endOfFile)
    (j : Journal) : EndsAs last j (t.account j.scope) (program (c.analyser j)) := by
  have hrun := t.follows_account c last j hpasses List.not_mem_nil
  rw [← Account.bind_pure t.account]
  apply hrun.bind
  intro _ scope story
  rw [lookahead_bind_eq, if_neg (not_not.mpr hend)]
  rfl

theorem parse_endsAs (filename : String) (hyield : t.yield = Token.beforeEnd tokens)
    (journal : Journal) :
    ∃ last, EndsAs last journal (t.account journal.scope)
      (parse (.ofSource (.ofTokens filename tokens) journal)) := by
  obtain ⟨last, hpasses, hend⟩ := Cursor.exists_passes_beforeEnd filename tokens 1
  rw [← hyield] at hpasses
  have hplace : (Source.ofTokens filename tokens).place? = some _ :=
    Source.place?_replay filename tokens 1
  have hparse : parse (.ofSource (.ofTokens filename tokens) journal) = program _ :=
    parse_of_place? rfl hplace
  exact ⟨last, hparse ▸ program_endsAs hpasses hend journal⟩

end Analysis

end OnePass
