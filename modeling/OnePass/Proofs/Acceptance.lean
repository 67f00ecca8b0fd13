import OnePass.Proofs.Derivation.Outcome
import OnePass.Proofs.Derivation.Soundness
import OnePass.Proofs.Derivation.Verdict
/-!
# Which programs are accepted

A list of tokens is accepted just if the tokens before its end are those of a tree that keeps the
static rules. The names that the rules declare are then the names that are live.
-/
namespace OnePass

open Grammar

namespace Account.Checks

variable {α : Type} {y : Account α} {f : Context → Option Context} {scope after : Scope}

private theorem of_eq_some (h : y.Checks f) {a : α} {story : List Occurrence}
    (hy : y scope = some (a, after, story)) : f scope.context = some after.context := by
  rw [← h scope, outcome_eq_some hy]
  rfl

private theorem exists_of_eq_some (h : y.Checks f) {context : Context}
    (hf : f scope.context = some context) :
    ∃ a after story, y scope = some (a, after, story) ∧ after.context = context := by
  rw [← h scope] at hf
  cases hy : y scope with
  | none =>
      rw [outcome_eq_none hy] at hf
      cases hf
  | some told =>
      obtain ⟨a, after, story⟩ := told
      rw [outcome_eq_some hy] at hf
      exact ⟨a, after, story, rfl, Option.some.inj hf⟩

end Account.Checks

namespace Analysis

variable {filename : String} {tokens : List Token} {journal : Journal}

private theorem exists_tree_of_parse {s : Analyser} {u : Unit}
    (h : parse (.ofSource (.ofTokens filename tokens) journal) = .ok u s) :
    ∃ t : Tree .statementPart, t.yield = Token.beforeEnd tokens ∧
      t.check journal.scope.context = some s.journal.scope.context := by
  obtain ⟨c, c', -, hplace, hrun, hs, hend⟩ := parse_eq_ok h
  have hfirst := Source.place?_replay filename tokens 1
  rw [show (Source.replay filename tokens 1).place? = some c from hplace] at hfirst
  cases hfirst
  obtain ⟨t, last, scope, story, hpasses, haccount, -, hsame⟩ := exists_tree_of_runRule hrun
  rw [hs] at hsame
  obtain ⟨rfl, hjournal⟩ := Cursor.analyser_inj hsame
  obtain ⟨last', hpasses', hend'⟩ := Cursor.exists_passes_beforeEnd filename tokens 1
  have hyield := hpasses.eq_of_ends hpasses' t.kind_ne_endOfFile
    (fun token => Cursor.kind_ne_of_mem_beforeEnd) hend hend'
  refine ⟨t, hyield.1, ?_⟩
  rw [hjournal]
  exact t.account_checks.of_eq_some haccount

private theorem parse_of_tree {t : Tree .statementPart} {context : Context}
    (hyield : t.yield = Token.beforeEnd tokens)
    (hcheck : t.check journal.scope.context = some context) :
    ∃ s, parse (.ofSource (.ofTokens filename tokens) journal) = .ok () s ∧
      s.journal.scope.context = context := by
  obtain ⟨u, scope, story, haccount, rfl⟩ := t.account_checks.exists_of_eq_some hcheck
  obtain ⟨last, hends⟩ := parse_endsAs filename hyield journal
  rw [haccount] at hends
  exact ⟨last.analyser (journal.follow scope story), hends, rfl⟩

/-- A list of tokens is accepted just if the tokens before the end of the text are the yield of a
tree that keeps the static rules from the names that are live at first, and the names live at last
are those that the rules leave. -/
theorem parse_ok_iff (filename : String) (tokens : List Token) (journal : Journal) :
    ((∃ s, parse (.ofSource (.ofTokens filename tokens) journal) = .ok () s) ↔
      ∃ t : Tree .statementPart, t.yield = Token.beforeEnd tokens ∧
        (t.check journal.scope.context).isSome) ∧
    ∀ context, (∃ s, parse (.ofSource (.ofTokens filename tokens) journal) = .ok () s ∧
        s.journal.scope.context = context) ↔
      ∃ t : Tree .statementPart, t.yield = Token.beforeEnd tokens ∧
        t.check journal.scope.context = some context := by
  have hiff : ∀ context, (∃ s, parse (.ofSource (.ofTokens filename tokens) journal) = .ok () s ∧
      s.journal.scope.context = context) ↔
      ∃ t : Tree .statementPart, t.yield = Token.beforeEnd tokens ∧
        t.check journal.scope.context = some context := by
    intro context
    constructor
    · rintro ⟨s, hparse, rfl⟩
      exact exists_tree_of_parse hparse
    · rintro ⟨t, hyield, hcheck⟩
      exact parse_of_tree hyield hcheck
  refine ⟨?_, hiff⟩
  constructor
  · rintro ⟨s, hparse⟩
    obtain ⟨t, hyield, hcheck⟩ := exists_tree_of_parse hparse
    exact ⟨t, hyield, Option.isSome_iff_exists.mpr ⟨_, hcheck⟩⟩
  · rintro ⟨t, hyield, hcheck⟩
    obtain ⟨context, hcontext⟩ := Option.isSome_iff_exists.mp hcheck
    obtain ⟨s, hparse, -⟩ := parse_of_tree hyield hcontext
    exact ⟨s, hparse⟩

end Analysis

end OnePass
