import OnePass.Proofs.LexerCalls
import OnePass.Proofs.Reporting.Lines
import OnePass.Proofs.SideBySide.Runs
/-!
# The bond of unbroken texts

An analysis of a text, told by the side of itself. No token goes on over the end of a line, so that
under a name without line breaks no text that it records breaks a line.
-/
namespace OnePass

namespace Complaint

private theorem unbroken_text {complaint : Complaint} (h : complaint.quoted? = none) :
    '\n' ∉ complaint.text.toList := by
  have hside (side : Side) : '\n' ∉ side.name.toList := by cases side <;> decide +kernel
  cases complaint with
  | expected kind =>
      change '\n' ∉ ("expected " ++ kind.display).toList
      simp only [Text.notMem_append, Kind.unbroken_display]
      decide +kernel
  | incompatible left right operator =>
      change '\n' ∉ ("incompatible types " ++ left.name ++ " and " ++ right.name ++ " for " ++
        operator.display).toList
      simp only [Text.notMem_append, VarType.unbroken_name, Kind.unbroken_display]
      decide +kernel
  | stringOperand operator side =>
      change '\n' ∉ ("cannot apply " ++ operator.display ++ " to a String " ++ side.name ++
        " operand").toList
      simp only [Text.notMem_append, Kind.unbroken_display, hside]
      decide +kernel
  | expectedStatement | expectedConditionalOperator | expectedComparand | expectedFactor =>
      decide +kernel
  | undeclared | other => cases h

private theorem unbroken_text_undeclared {identifier : String} (h : '\n' ∉ identifier.toList) :
    '\n' ∉ (undeclared identifier).text.toList := by
  change '\n' ∉ ("'" ++ identifier ++ "' is not declared").toList
  simp only [Text.notMem_append, h]
  decide +kernel

private theorem unbroken_message {complaint : Complaint} {filename : String} {token : Token}
    (hfilename : '\n' ∉ filename.toList) (htoken : '\n' ∉ token.text.toList)
    (htext : '\n' ∉ complaint.text.toList) :
    '\n' ∉ (complaint.message filename token).toList := by
  have hline : '\n' ∉ (toString token.line).toList := Text.notMem_toList_int (by decide) token.line
  change '\n' ∉ (filename ++ ":" ++ toString token.line ++ ": found '" ++ token.text ++ "' (" ++
    token.kind.display ++ "), " ++ complaint.text).toList
  simp only [Text.notMem_append, hfilename, hline, htoken, token.kind.unbroken_display, htext]
  decide +kernel

end Complaint

private theorem Rule.unbroken_name (rule : Rule) : '\n' ∉ rule.name.toList := by
  cases rule <;> decide +kernel

namespace Bond

/-- The bond of an analysis of a text with itself, under a name that breaks no line. -/
def unbroken : Bond where
  tokens t t' := t = t' ∧ '\n' ∉ t.text.toList
  sources source source' := source = source' ∧ ∃ lexer : Lexer,
    source = .text lexer ∧ '\n' ∉ lexer.filename.toList
  found := Eq
  issued v v' := v = v' ∧ '\n' ∉ v.identifier.toList
  scopes := Eq
  complaints message line message' line' := message = message' ∧ line = line' ∧
    '\n' ∉ message.toList
  failures := Eq

namespace unbroken

private theorem next {source source' : Source} (h : unbroken.sources source source') :
    unbroken.Outcomes source.next.1 source'.next.1 ∧
      unbroken.sources source.next.2 source'.next.2 := by
  obtain ⟨rfl, lexer, rfl, hfilename⟩ := h
  have hname : lexer.next.2.filename = lexer.filename := Source.filename_next (.text lexer)
  refine ⟨?_, rfl, lexer.next.2, rfl, hname ▸ hfilename⟩
  obtain ⟨trivia, scan, hmunch, hnext⟩ := lexer.exists_munch
  change unbroken.Outcomes lexer.next.1 lexer.next.1
  cases houtcome : lexer.next.1 with
  | error failure => exact .error rfl
  | ok token =>
      rw [hnext] at houtcome
      exact .ok ⟨rfl, (hmunch.written houtcome).2.2⟩

private theorem holds : unbroken.Holds where
  kind_eq h := congrArg Token.kind h.1
  type_eq h := congrArg Variable.type h
  next := next
  find? htoken _ hscopes := by
    obtain ⟨rfl, -⟩ := htoken
    cases hscopes
    generalize Scope.find? _ _ = found
    cases found with
    | none => exact .none
    | some v => exact .some rfl
  issue type htoken _ hscopes := by
    obtain ⟨rfl, htext⟩ := htoken
    cases hscopes
    exact ⟨⟨rfl, htext⟩, rfl⟩
  add hv hscopes := by
    obtain ⟨rfl, -⟩ := hv
    cases hscopes
    exact ⟨Iff.rfl, rfl⟩
  remove hv hscopes := by
    obtain ⟨rfl, -⟩ := hv
    cases hscopes
    exact ⟨rfl, rfl⟩
  complain hcomplaints htoken hsources := by
    obtain ⟨rfl, htoken⟩ := htoken
    obtain ⟨rfl, lexer, rfl, hfilename⟩ := hsources
    cases hcomplaints with
    | same complaint hquoted =>
        exact ⟨⟨rfl, rfl, Complaint.unbroken_message hfilename htoken
          (Complaint.unbroken_text hquoted)⟩, rfl⟩
    | undeclared h =>
        obtain ⟨rfl, hname⟩ := h
        exact ⟨⟨rfl, rfl, Complaint.unbroken_message hfilename htoken
          (Complaint.unbroken_text_undeclared hname)⟩, rfl⟩
  wrap rule h := congrArg (Failure.wrap rule) h

private theorem sources_ofString {filename : String} (h : '\n' ∉ filename.toList) (text : String) :
    unbroken.sources (.text (.ofString filename text)) (.text (.ofString filename text)) :=
  ⟨rfl, .ofString filename text, rfl, h⟩

private theorem journals_start (scope : Scope) (echo : Bool) :
    unbroken.Journals (.start scope echo) (.start scope echo) :=
  ⟨.nil, rfl, rfl⟩

end unbroken

private theorem Occurrences.unbroken_text {occurrence occurrence' : Occurrence}
    (h : unbroken.Occurrences occurrence occurrence') : '\n' ∉ occurrence.text.toList := by
  cases h with
  | commence rule | finish rule => exact rule.unbroken_name
  | terminal h | declare h | remove h => exact h.2
  | complaint h => exact h.2.2

private theorem Journals.unbroken {j j' : Journal} (h : Bond.unbroken.Journals j j') :
    j.Unbroken := by
  have hevents := h.events.imp fun _ _ hevent =>
    And.intro hevent.occurrence.unbroken_text hevent
  exact ((List.forall₂_and_left _ _).mp hevents).1

end Bond

namespace Analysis

/-- No text that the analysis of a text records breaks a line. -/
theorem unbroken_analyseText {filename : String} (h : '\n' ∉ filename.toList) (text : String)
    (echo : Bool) : (finalJournal (analyseText filename text echo)).Unbroken := by
  have hsources := Bond.unbroken.sources_ofString h text
  have hjournals := Bond.unbroken.journals_start .empty echo
  unfold analyseText
  rcases Bond.unbroken.holds.parse_cases hsources hjournals with
    ⟨s, s', hparse, -, hs⟩ | ⟨failure, s, failure', s', hparse, -, -, hs⟩
  · rw [hparse]
    exact hs.journals.unbroken
  · rw [hparse]
    exact hs.journals.unbroken

end Analysis

end OnePass
