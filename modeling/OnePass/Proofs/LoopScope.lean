import OnePass.Proofs.Derivation.Soundness
import OnePass.Proofs.Derivation.Start
import OnePass.Proofs.Scoping.Loops
/-!
# The scope of loop variables

A run that succeeds leaves the live variables as they were and puts new ones behind them. The
variables declared in the header of a loop are the exception: each is removed once, when its loop
ends, and nothing else is ever removed.
-/
namespace OnePass

open Grammar Story
open Occurrence (declared? removed?)

/-- What a run has done to the variables, by the story that it has recorded. -/
structure Scoping (before after : Journal) (story : Story) : Prop where
  recorded : after.occurrences = before.occurrences ++ story
  /-- The live variables are those from before and those declared outside the headers of loops. -/
  entries : after.scope.entries = before.scope.entries ++ declarations false [] story
  distinct : (story.filterMap declared?).Nodup
  /-- What is declared in the header of a loop is removed once, and nothing else is removed. -/
  removes : ∀ v, story.count (.remove v) = if v ∈ declarations true [] story then 1 else 0
  released : Released [] story
  live : liveAfter before.scope.entries story = after.scope.entries
  /-- The variables from before are live, in order and before all others, at every moment. -/
  steady : ∀ front, front <+: story →
    before.scope.entries <+: liveAfter before.scope.entries front
  kept : ∀ name v, before.scope.find? name = some v → after.scope.find? name = some v

private theorem count_remove (v : Variable) (story : Story) :
    story.count (.remove v) = (story.filterMap removed?).count v := by
  induction story with
  | nil => rfl
  | cons occurrence story ih =>
      cases occurrence with
      | remove u => simp [List.count_cons, removed?, ih]
      | commence | finish | terminal | declare | complaint =>
          simp [List.filterMap_cons, removed?, ih]

namespace Scoping

private theorem of_scoped {before : Journal} {after : Scope} {story : Story}
    (h : Scoped [] before.scope story after) :
    Scoping before (before.follow after story) story where
  recorded := before.occurrences_follow after story
  entries := h.entries
  distinct := h.issued.nodup
  removes := by
    intro v
    have hnodup : (declarations true [] story).Nodup :=
      h.issued.nodup.sublist (declarations_sublist true [] story)
    rw [count_remove, h.removals.count_eq]
    exact hnodup.count
  released := h.released
  live := h.live
  steady := h.steady
  kept := by
    intro name v hfind
    obtain ⟨hmem, rfl⟩ := Scope.mem_of_find?_eq_some hfind
    apply Scope.find?_eq_some_iff.mpr
    rw [Journal.scope_follow, h.entries]
    exact List.mem_append_left _ hmem

end Scoping

namespace Analysis

private theorem exists_scoping_of_runRule {rule : Rule} {a : rule.Result} {s s' : Analyser}
    (h : runRule rule s = .ok a s') : ∃ story, Scoping s.journal s'.journal story := by
  obtain ⟨c, hs⟩ := exists_cursor_of_runRule h
  rw [hs] at h
  obtain ⟨t, c', scope, story, -, haccount, -, rfl⟩ := exists_tree_of_runRule h
  have hkeeps : t.account.Keeps [] := t.account_keeps (by simp [InHeader])
  exact ⟨story, .of_scoped (hkeeps _ a scope story haccount)⟩

private theorem exists_targets_of_forStatement {u : Unit} {s s' : Analyser}
    (h : runRule .forStatement s = .ok u s') :
    ∃ t : Tree .forStatement, s'.journal.terminals = s.journal.terminals ++ t.yield ∧
      ∀ name ∈ t.targets, s'.journal.scope.contains name = s.journal.scope.contains name := by
  obtain ⟨c, hs⟩ := exists_cursor_of_runRule h
  rw [hs] at h
  obtain ⟨t, c', scope, story, -, haccount, hread, rfl⟩ := exists_tree_of_runRule h
  refine ⟨t, ?_, ?_⟩
  · rw [← hread]
    exact s.journal.terminals_follow scope story
  · cases t with
    | forLoop opening leftParenthesis initial first condition second step rightParenthesis doWord
        body endWord closing =>
        intro name hname
        have hbody : body.account.Keeps [Rule.forStatement.name] :=
          body.account_keeps (not_inHeader (by decide))
        obtain ⟨inner, last, _, b, _, _, -, hscoped, -, hentries, -, htargets, -, -⟩ :=
          Tree.exists_loop hbody haccount
        have hlive := htargets name hname
        have hnodup := last.identifiers_nodup
        rw [hscoped.entries, List.map_append, List.nodup_append] at hnodup
        have habsent : name ∉ (declarations false [Rule.forStatement.name] b).map
            Variable.identifier := fun hmem => hnodup.2.2 name hlive name hmem rfl
        change scope.contains name = s.journal.scope.contains name
        rw [Bool.eq_iff_iff, Scope.contains_iff_mem, Scope.contains_iff_mem, hentries,
          List.map_append, List.mem_append]
        exact or_iff_left habsent

/-- Every run that succeeds, of a rule or of a whole program, keeps the variables from before and
removes exactly those declared in the headers of its loops, each at the end of its own loop. So a
name in the header of a loop is live behind the loop just if it was live before it. -/
theorem scoping_of_runs :
    (∀ (rule : Rule) (a : rule.Result) (s s' : Analyser), runRule rule s = .ok a s' →
      ∃ story, Scoping s.journal s'.journal story) ∧
    (∀ s s' : Analyser, parse s = .ok () s' → ∃ story, Scoping s.journal s'.journal story) ∧
    ∀ s s' : Analyser, runRule .forStatement s = .ok () s' → ∃ t : Tree .forStatement,
      s'.journal.terminals = s.journal.terminals ++ t.yield ∧
        ∀ name ∈ t.targets, s'.journal.scope.contains name = s.journal.scope.contains name := by
  refine ⟨?_, ?_, ?_⟩
  · intro rule a s s' h
    exact exists_scoping_of_runRule h
  · intro s s' h
    obtain ⟨c, c', -, -, hrun, -, -⟩ := parse_eq_ok h
    have hscoping := exists_scoping_of_runRule hrun
    exact hscoping
  · intro s s' h
    exact exists_targets_of_forStatement h

/-- Two loops that use each other's names and a name from before, as a program and as a rule. -/
theorem scoping_of_nested_loops :
    (∃ s' : Analyser,
      let program : Analyser := .ofSource (.text (.ofString "loops"
        "begin for (i:=1; n<n; j:=i) do for (j:=2; i<n; n:=3) do i:=4 end loop end loop end"))
        (.start (.ofDeclarations [("n", .number)]) false)
      parse program = .ok () s' ∧ ∃ story, Scoping program.journal s'.journal story) ∧
    ∃ s' : Analyser,
      let loop : Analyser := Cursor.analyser ⟨⟨.forWord, "for", 1⟩, .text (.ofString "loops"
        "(i:=1; n<n; j:=i) do for (j:=2; i<n; n:=3) do i:=4 end loop end loop")⟩
        (.start (.ofDeclarations [("n", .number)]) false)
      runRule .forStatement loop = .ok () s' ∧
      (∃ story, Scoping loop.journal s'.journal story) ∧ ∃ t : Tree .forStatement,
        s'.journal.terminals = loop.journal.terminals ++ t.yield ∧
          ∀ name ∈ t.targets,
            s'.journal.scope.contains name = loop.journal.scope.contains name := by
  let program : Analyser := .ofSource (.text (.ofString "loops"
    "begin for (i:=1; n<n; j:=i) do for (j:=2; i<n; n:=3) do i:=4 end loop end loop end"))
    (.start (.ofDeclarations [("n", .number)]) false)
  let loop : Analyser := Cursor.analyser ⟨⟨.forWord, "for", 1⟩, .text (.ofString "loops"
    "(i:=1; n<n; j:=i) do for (j:=2; i<n; n:=3) do i:=4 end loop end loop")⟩
    (.start (.ofDeclarations [("n", .number)]) false)
  have hprogram : succeeds parse program = true := by decide +kernel
  have hloop : succeeds (runRule .forStatement) loop = true := by decide +kernel
  obtain ⟨_, afterProgram, hparse⟩ := exists_of_succeeds hprogram
  obtain ⟨_, afterLoop, hrun⟩ := exists_of_succeeds hloop
  refine ⟨⟨afterProgram, hparse, ?_⟩, afterLoop, hrun, ?_, ?_⟩
  · exact scoping_of_runs.2.1 program afterProgram hparse
  · exact scoping_of_runs.1 .forStatement () loop afterLoop hrun
  · exact scoping_of_runs.2.2 loop afterLoop hrun

end Analysis

end OnePass
