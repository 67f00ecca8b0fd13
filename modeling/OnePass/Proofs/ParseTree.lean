import Mathlib.Data.List.Basic
import OnePass.Proofs.Derivation.Completeness
import OnePass.Proofs.Derivation.Preorder
import OnePass.Proofs.Derivation.Soundness
import OnePass.Proofs.Derivation.Start
import OnePass.Proofs.Lexing.Transcript
/-!
# The trace is the parse tree

A program that is accepted leaves the trace of a derivation tree, and no other tree derives its
tokens. The analysis is what makes the tree unique: it follows every tree that derives the tokens at
hand and records each in the same journal, so that all of them have one trace.
-/
namespace OnePass

open Grammar Analysis

namespace Journal

private theorem story_eq_of_follow_eq {journal : Journal} {scope scope' : Scope}
    {story story' : List Occurrence}
    (h : journal.follow scope story = journal.follow scope' story') :
    story = story' := by
  have hoccurrences := congrArg occurrences h
  rw [occurrences_follow, occurrences_follow] at hoccurrences
  exact List.append_cancel_left hoccurrences

end Journal

namespace Grammar.Tree

private theorem eq_of_yield_eq {rule : Rule} {t t' : Tree rule} {c c' : Cursor} {j : Journal}
    {a : rule.Result} {scope : Scope} {story : List Occurrence} (hpasses : c.Passes t.yield c')
    (hfurther : c'.token.kind ∉ rule.further)
    (haccount : t.account j.scope = some (a, scope, story)) (hyield : t'.yield = t.yield) :
    t' = t := by
  have hrun := t.follows_account c c' j hpasses hfurther
  have hrun' := t'.follows_account c c' j (hyield ▸ hpasses) hfurther
  rw [haccount] at hrun
  change runRule rule (c.analyser j) = _ at hrun
  rw [hrun] at hrun'
  cases haccount' : t'.account j.scope with
  | none =>
      rw [haccount'] at hrun'
      exact hrun'.elim
  | some told =>
      obtain ⟨a', scope', story'⟩ := told
      rw [haccount'] at hrun'
      -- The one run of the rule ends with one journal.
      injection hrun' with _ hanalyser
      have hjournal := (Cursor.analyser_inj hanalyser).2
      have hstory : story = story' := Journal.story_eq_of_follow_eq hjournal
      have hmarks := t.account_marks j.scope a scope story haccount
      have hmarks' := t'.account_marks j.scope a' scope' story' haccount'
      rw [hstory, hmarks'] at hmarks
      exact trace_injective (List.map_injective_iff.mpr Mark.occurrence_injective hmarks)

end Grammar.Tree

namespace Analysis

/-- What an accepted program leaves in the journal is, its variables left aside, the trace of a tree
that derives the tokens before the end of the text. No other tree derives them. -/
theorem preorder_of_parse {s s' : Analyser} (h : parse s = .ok () s') :
    ∃ (t : Tree .statementPart) (story : List Occurrence) (ending : Token),
      s'.journal.occurrences = s.journal.occurrences ++ story ∧
      story.filter (!·.ofVariable) = t.trace.map Mark.occurrence ∧
      s.source.transcript = ⟨t.yield.map .ok, ending⟩ ∧ s'.lookahead = some ending ∧
      ∀ t' : Tree .statementPart, t'.yield = t.yield → t' = t := by
  obtain ⟨c, c', -, hplace, hrun, hs, hend⟩ := parse_eq_ok h
  obtain ⟨t, last, scope, story, hpasses, haccount, -, hsame⟩ := exists_tree_of_runRule hrun
  rw [hs] at hsame
  obtain ⟨rfl, hjournal⟩ := Cursor.analyser_inj hsame
  refine ⟨t, story, c'.token, ?_, ?_, ?_, ?_, ?_⟩
  · rw [hjournal, Journal.occurrences_follow]
  · exact t.account_marks s.journal.scope () scope story haccount
  · exact Source.transcript_of_passes hplace hpasses t.kind_ne_endOfFile hend
  · rw [hs]
    rfl
  · intro t' hyield
    exact Tree.eq_of_yield_eq hpasses List.not_mem_nil haccount hyield

/-- A program with an alternative, a loop and a closing semicolon. -/
theorem preorder_of_nested_statements :
    ∃ (s' : Analyser) (t : Tree .statementPart) (story : List Occurrence) (ending : Token),
      let source : Source := .text (.ofString "nested"
        "begin n := 2 * (3 + 4); if n > 1 then do n := n - 1 until n = 1; else n := 0 end if; end")
      parse (.ofSource source (.start .empty false)) = .ok () s' ∧
      s'.journal.occurrences = story ∧
      story.filter (!·.ofVariable) = t.trace.map Mark.occurrence ∧
      source.transcript = ⟨t.yield.map .ok, ending⟩ ∧ s'.lookahead = some ending ∧
      ∀ t' : Tree .statementPart, t'.yield = t.yield → t' = t := by
  let source : Source := .text (.ofString "nested"
    "begin n := 2 * (3 + 4); if n > 1 then do n := n - 1 until n = 1; else n := 0 end if; end")
  have hsucceeds : succeeds parse (.ofSource source (.start .empty false)) = true := by
    decide +kernel
  obtain ⟨_, s', hparse⟩ := exists_of_succeeds hsucceeds
  obtain ⟨t, story, ending, hstory, htree⟩ := preorder_of_parse hparse
  exact ⟨s', t, story, ending, hparse, hstory, htree⟩

end Analysis

end OnePass
