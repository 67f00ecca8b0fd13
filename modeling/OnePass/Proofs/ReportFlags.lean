import OnePass.Proofs.Reporting.Echo
import OnePass.Proofs.Reporting.Symbols
import OnePass.Proofs.SideBySide.Naming
/-!
# What the flags of a request add to its report

The report on a program text can be read off one analysis that prints nothing. The flags do not
change the status; they add the lines of the trace, the rules that a failure passed through, or the
variables that are live in the end.
-/
namespace OnePass

open Analysis

namespace Report

/-- The lines of a rendered trace, if they are asked for. -/
def traced (trace : Bool) (journal : Journal) : String :=
  if trace ∧ journal.events ≠ #[] then journal.render ++ "\n" else ""

private theorem output_eq_traced {source : Source} {scope : Scope} {trace : Bool}
    (outcome : Except Stop Unit) {s : Analyser} {silent : Journal}
    (hparse : parse (.ofSource source (.start scope trace)) = ending outcome s)
    (hsame : s.journal.events.toList = silent.events.toList) :
    s.journal.output = traced trace silent := by
  have hlines : s.journal.lines = silent.lines := congrArg (List.map Event.render) hsame
  rw [output_of_parse outcome hparse, hlines, Journal.unlines_lines]
  unfold traced
  cases trace <;> by_cases hnone : silent.events = #[] <;> simp [hnone]

/-- The report on a program text, for all flags, by the analysis that prints nothing. -/
theorem ofRequest_inline (read : Reader) (text : String) (trace verbose symbols : Bool) :
    match analyseText Lexer.inlineName text false with
    | .ok _ s => ∃ vars : List Variable, vars.Perm s.journal.scope.entries ∧
        vars.Pairwise (fun u v => u.identifier < v.identifier) ∧
        (∀ v ∈ vars, .declare v ∈ s.journal.occurrences) ∧
        ofRequest read ⟨text, true, trace, verbose, symbols⟩ = .ok ⟨0,
          traced trace s.journal ++ unlines ("<string>: parsed successfully" ::
            if symbols then vars.map fun v => s!"  {v.identifier}: {v.type.name}" else []), ""⟩
    | .error (.rejected failure) s =>
        ofRequest read ⟨text, true, trace, verbose, symbols⟩ = .ok ⟨1, traced trace s.journal,
          unlines (s!"error: {failure.root.message}" ::
            if verbose then ["rule trace: " ++ " > ".intercalate failure.ruleTrace] else [])⟩
    | .error _ _ => False := by
  obtain ⟨judgement, hjudgement⟩ := exists_judgement text .empty
  have hsilent := hjudgement Lexer.inlineName false
  have hrun := hjudgement Lexer.inlineName trace
  have hreport : ofRequest read ⟨text, true, trace, verbose, symbols⟩ =
    .ok (ofLexer ⟨text, true, trace, verbose, symbols⟩ (.ofString Lexer.inlineName text)) := rfl
  unfold analyseText
  rw [hreport]
  unfold ofLexer
  cases judgement with
  | accepted events scope =>
      obtain ⟨silent, hsilent, hevents, hscope⟩ := hsilent
      obtain ⟨s, hrun, hevents', hscope'⟩ := hrun
      have houtput := output_eq_traced (.ok ()) hrun (hevents'.trans hevents.symm)
      rw [hsilent, hrun]
      refine ⟨silent.journal.scope.sorted, Scope.sorted_perm _, Scope.sorted_pairwise _, ?_, ?_⟩
      · intro v hv
        have hlive := (Scope.sorted_perm _).mem_iff.mp hv
        exact (declare_mem_of_parse hsilent hlive).resolve_left List.not_mem_nil
      · simp only [accepted, houtput, symbolLines_eq, hscope, hscope']
        rfl
  | rejected events message rules =>
      obtain ⟨cause, silent, hsilent, hevents, hmessage, hrules⟩ := hsilent
      obtain ⟨failure, s, hrun, hevents', hmessage', hrules'⟩ := hrun
      have houtput := output_eq_traced (.error (.rejected failure)) hrun
        (hevents'.trans hevents.symm)
      rw [hsilent, hrun]
      simp only [stopped, houtput, Stop.message, Stop.ruleTrace, hmessage, hmessage', hrules,
        hrules']

end Report

end OnePass
