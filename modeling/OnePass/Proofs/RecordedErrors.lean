import OnePass.Proofs.Recording.Complaints
/-!
# Which errors are recorded

A program that is rejected for one of its tokens leaves one complaint behind, as the last thing in
the trace. A string that is not closed stops the analysis as well, but no trace tells of it, and so
the complaints alone do not show whether a program has been accepted.
-/
namespace OnePass

namespace Analysis

private theorem back?_complain (journal : Journal) (message : String) (line : Int) :
    (journal.complain message line).events.back? =
      some ⟨journal.depth, .complaint message line⟩ := by
  simp [Journal.complain, Journal.record]

private theorem complaints_complain (journal : Journal) (message : String) (line : Int) :
    (journal.complain message line).complaints = journal.complaints ++ [message] :=
  journal.complaints_tell (.complaint message line)

private theorem recorded_of_reports {before after : Journal} {failure : Failure}
    (hstart : before.complaints = []) (h : before.Reports after failure) :
    failure.root.category = .lexical ∧ after.complaints = [] ∨
      (failure.root.category = .syntactic ∨ failure.root.category = .semantic) ∧
        after.complaints = [failure.root.message] ∧
        ∃ last : Event, after.events.back? = some last ∧
          last.occurrence = .complaint failure.root.message failure.line := by
  cases h with
  | ofSource hcategory hquiet => exact .inl ⟨hcategory, hquiet.trans hstart⟩
  | ofToken hcategory journal hquiet hlast =>
      have hcomplaints : after.complaints = [failure.root.message] := by
        rw [hlast, complaints_complain, hquiet, hstart, List.nil_append]
      refine .inr ⟨hcategory, hcomplaints, ⟨journal.depth, _⟩, ?_, rfl⟩
      rw [hlast, back?_complain]

/-- An accepted program leaves no complaint, and neither does one whose source fails. Any other
program is rejected with a failure whose root has been recorded: it is the only complaint, the last
event, and on the line of the failure. -/
theorem complaints_of_parse (source : Source) (scope : Scope) (echo : Bool) :
    match parse (.ofSource source (.start scope echo)) with
    | .ok _ s => s.journal.complaints = []
    | .error (.rejected failure) s =>
        failure.root.category = .lexical ∧ s.journal.complaints = [] ∨
        (failure.root.category = .syntactic ∨ failure.root.category = .semantic) ∧
          s.journal.complaints = [failure.root.message] ∧
          ∃ last : Event, s.journal.events.back? = some last ∧
            last.occurrence = .complaint failure.root.message failure.line
    | .error _ _ => False := by
  have hstart : (Journal.start scope echo).complaints = [] := rfl
  rcases parse_cases source (.start scope echo) with
    ⟨c, tokens, c', j', -, -, hparse⟩ | ⟨c, tokens, c', j', failure, -, -, hparse⟩ |
    ⟨tokens, failure, s, hfails⟩
  · rw [hparse]
    exact (parse_reports.quiet hparse).trans hstart
  · rw [hparse]
    exact recorded_of_reports hstart (parse_reports.files hparse)
  · rw [hfails.stops]
    exact recorded_of_reports hstart (parse_reports.files hfails.stops)

/-- A string that is not closed is a failure of which nothing is recorded. -/
theorem unrecorded_unclosed_string :
    ∃ failure s,
      parse (.ofSource (.text (.ofString "<string>" "begin x := \"abc")) (.start .empty false)) =
        .error (.rejected failure) s ∧
      failure.root.category = .lexical ∧
      failure.root.message = "<string>:1: unterminated string constant" ∧
      s.journal.complaints = [] := by
  have hrejects : rejects parse
      (.ofSource (.text (.ofString "<string>" "begin x := \"abc")) (.start .empty false))
      (fun failure s => failure.root.category = .lexical &&
        failure.root.message = "<string>:1: unterminated string constant" &&
        s.journal.complaints = []) = true := by
    decide +kernel
  obtain ⟨failure, s, hparse, hhow⟩ := exists_of_rejects hrejects
  simp only [Bool.and_eq_true, decide_eq_true_eq] at hhow
  obtain ⟨⟨hcategory, hmessage⟩, hcomplaints⟩ := hhow
  exact ⟨failure, s, hparse, hcategory, hmessage, hcomplaints⟩

end Analysis

end OnePass
