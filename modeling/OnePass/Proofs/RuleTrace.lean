import OnePass.Proofs.Recording.Rejection
/-!
# The trace of a rule

The events of a run and the layers of its failure tell of the same rules. A run that gives a result
adds a balanced segment, and one that is rejected leaves open the rules that its failure passes
through. Every event stands as deep as the rules that are open around it.
-/
namespace OnePass

open Analysis Story
open Occurrence (complaint?)

/-- What a run adds to a journal, each event at the depth of the rules that it has open there. -/
structure Journal.Adds (before after : Journal) (added : List Event) : Prop where
  events : after.events.toList = before.events.toList ++ added
  placed : Placed before.depth [] added

private theorem Journal.exists_adds (journal : Journal) {story : Story} (scope : Scope)
    (hmatched : Matched [] story) :
    ∃ added, journal.Adds (journal.follow scope story) added ∧
      added.map Event.occurrence = story ∧
      (journal.follow scope story).depth = journal.depth + (openAfter [] story).length := by
  have hdepth : journal.depth = journal.depth + ([] : List String).length := rfl
  obtain ⟨added, hevents, hstory, hplaced, hend⟩ := follow_of_matched scope hdepth hmatched
  exact ⟨added, ⟨hevents, hplaced⟩, hstory, hend⟩

namespace Analysis

theorem runRule_records (rule : Rule) (c : Cursor) (j : Journal) : Records (runRule rule) c j :=
  (runWithin_records (c.analyser j).allowance rule c j).congr rfl

private theorem story_of_runRule (rule : Rule) (c : Cursor) (j : Journal) :
    (∃ a c' scope inner, runRule rule (c.analyser j) = .ok a (Cursor.analyser c'
          (j.follow scope (.commence rule.name :: inner ++ [.finish rule.name]))) ∧
        Balanced inner ∧ inner.filterMap complaint? = []) ∨
      ∃ failure c' scope story, runRule rule (c.analyser j) =
          .error (.rejected failure) (Cursor.analyser c' (j.follow scope story)) ∧
        Nests story failure.ruleTrace ∧ failure.Uniform := by
  have hinner := (procedure_script runRule rule).records runRule_records c (j.commence rule.name)
  obtain ⟨outcome, c', scope, inner, hprocedure, houtlines⟩ := hinner
  have hrun : runRule rule (c.analyser j) = enclose rule (procedure runRule rule) (c.analyser j) :=
    congrFun (runRule_eq rule) _
  match outcome with
  | .ok a =>
      refine .inl ⟨a, c', scope, inner, ?_, houtlines⟩
      rw [hrun, enclose_of_ok hprocedure, ← Journal.finish_follow_commence]
      rfl
  | .error (.rejected failure) =>
      have hnests := houtlines.1.commence rule.name
      rw [← Failure.ruleTrace_wrap] at hnests
      exact .inr ⟨failure.wrap rule.name, c', scope, .commence rule.name :: inner,
        hrun.trans (enclose_of_error hprocedure), hnests, houtlines.2.wrap rule.name⟩
  | .error .notStarted | .error .alreadyStarted => cases houtlines
  | .error .allowanceUsedUp =>
      have hstop := hrun.trans (enclose_of_error hprocedure)
      exact absurd hstop (runRule_ne_allowanceUsedUp rule _ _)

/-- A run of a rule from any place adds a balanced segment between the entry and the end of the
rule, without complaints and at the depth it starts from; or it leaves open the rules that its
failure passes through, and all layers of the failure tell of the root. -/
theorem trace_of_runRule (rule : Rule) (c : Cursor) (j : Journal) :
    ∃ added : List Event,
      match runRule rule (c.analyser j) with
      | .ok _ s => j.Adds s.journal added ∧ s.journal.depth = j.depth ∧
          ∃ inner, added.map Event.occurrence =
              .commence rule.name :: inner ++ [.finish rule.name] ∧
            Balanced inner ∧ inner.filterMap complaint? = []
      | .error (.rejected failure) s => j.Adds s.journal added ∧
          Matched [] (added.map Event.occurrence) ∧
          (openAfter [] (added.map Event.occurrence)).reverse = failure.ruleTrace ∧
          failure.Uniform
      | .error _ _ => False := by
  rcases story_of_runRule rule c j with ⟨a, c', scope, inner, hrun, hbalanced, hquiet⟩ |
    ⟨failure, c', scope, story, hrun, hnests, huniform⟩
  · have hwithin := hbalanced.within rule.name
    obtain ⟨added, hadds, hstory, hdepth⟩ := j.exists_adds scope (hwithin.nests.matched [])
    rw [hwithin.openAfter] at hdepth
    rw [hrun]
    exact ⟨added, hadds, hdepth, inner, hstory, hbalanced, hquiet⟩
  · obtain ⟨added, hadds, hstory, -⟩ := j.exists_adds scope (hnests.matched [])
    have hopen : (openAfter [] story).reverse = failure.ruleTrace := by
      rw [hnests.openAfter, List.append_nil, List.reverse_reverse]
    rw [← hstory] at hopen
    rw [hrun]
    exact ⟨added, hadds, hstory ▸ hnests.matched [], hopen, huniform⟩

end Analysis

end OnePass
