import OnePass.Proofs.Derivation.Delivery
import OnePass.Proofs.SideBySide.Steps
/-!
# Runs side by side

Under a bond that holds, two analyses take the same alternatives, since all that a procedure asks of
a token is its kind. So the rules are coupled, and the analyses of whole programs come to the same.
Main statement: `Bond.Holds.parse_cases`.
-/
namespace OnePass

open Analysis

namespace Bond

/-- How the results of a rule correspond: two assignments issue variables that correspond, and what
the other rules find out is the same. -/
def results (bond : Bond) : (rule : Rule) → rule.Result → rule.Result → Prop
  | .assignmentStatement => bond.issued
  | _ => Eq

/-- Two ways to run the rules that go the same way. -/
def Runs (bond : Bond) (run run' : Run) : Prop :=
  ∀ rule, bond.Couples (bond.results rule) (run rule) (run' rule)

end Bond

namespace Procedure

open Bond

variable {bond : Bond} {run run' : Run} (hbond : bond.Holds) (hrun : bond.Runs run run')
include hbond hrun

private theorem couples_statementPart :
    bond.Couples Eq (statementPart run) (statementPart run') := by
  refine (Couples.accept hbond _).bind fun _ _ hopening => ?_
  refine (hrun .statementList).bind fun _ _ hbody => ?_
  exact (Couples.accept hbond _).bind fun _ _ hclosing => .pure rfl

private theorem couples_statementList :
    bond.Couples Eq (statementList run) (statementList run') := by
  refine (hrun .statement).bind fun _ _ hstatement => ?_
  refine Couples.lookahead.bind fun token token' htoken => ?_
  rw [← hbond.kind_eq htoken]
  split
  · refine (Couples.accept hbond _).bind fun _ _ hsemicolon => ?_
    refine Couples.lookahead.bind fun token token' htoken => ?_
    rw [← hbond.kind_eq htoken]
    split
    · exact hrun .statementList
    · exact .pure rfl
  · exact .pure rfl

private theorem couples_statement : bond.Couples Eq (statement run) (statement run') := by
  refine Couples.lookahead.bind fun token token' htoken => ?_
  rw [← hbond.kind_eq htoken]
  split
  · exact (hrun .assignmentStatement).bind fun _ _ htarget => .pure rfl
  · exact hrun .ifStatement
  · exact hrun .whileStatement
  · exact hrun .procedureStatement
  · exact hrun .untilStatement
  · exact hrun .forStatement
  · exact .report hbond rfl

private theorem couples_assignmentStatement :
    bond.Couples bond.issued (assignmentStatement run) (assignmentStatement run') := by
  refine (Couples.accept hbond .identifier).bind fun target target' htarget => ?_
  refine (Couples.accept hbond _).bind fun _ _ hbecomes => ?_
  refine Couples.lookahead.bind fun token token' htoken => ?_
  obtain ⟨htarget, hkind⟩ := htarget
  rw [← hbond.kind_eq htoken]
  split
  · exact (Couples.accept hbond _).bind fun _ _ hvalue => .declare hbond htarget hkind _
  · refine (hrun .expression).bind fun type type' htype => ?_
    cases htype
    exact .declare hbond htarget hkind type

private theorem couples_alternative : bond.Couples Eq (alternative run) (alternative run') := by
  refine Couples.lookahead.bind fun token token' htoken => ?_
  rw [← hbond.kind_eq htoken]
  split
  · exact (Couples.accept hbond _).bind fun _ _ helseWord => hrun .statementList
  · exact .pure rfl

private theorem couples_ifStatement : bond.Couples Eq (ifStatement run) (ifStatement run') := by
  refine (Couples.accept hbond _).bind fun _ _ hopening => ?_
  refine (hrun .condition).bind fun _ _ hcondition => ?_
  refine (Couples.accept hbond _).bind fun _ _ hthenWord => ?_
  refine (hrun .statementList).bind fun _ _ hbody => ?_
  refine (couples_alternative hbond hrun).bind fun _ _ halternative => ?_
  refine (Couples.accept hbond _).bind fun _ _ hendWord => ?_
  exact (Couples.accept hbond _).bind fun _ _ hclosing => .pure rfl

private theorem couples_whileStatement :
    bond.Couples Eq (whileStatement run) (whileStatement run') := by
  refine (Couples.accept hbond _).bind fun _ _ hopening => ?_
  refine (hrun .condition).bind fun _ _ hcondition => ?_
  refine (Couples.accept hbond _).bind fun _ _ hloopWord => ?_
  refine (hrun .statementList).bind fun _ _ hbody => ?_
  refine (Couples.accept hbond _).bind fun _ _ hendWord => ?_
  exact (Couples.accept hbond _).bind fun _ _ hclosing => .pure rfl

private theorem couples_procedureStatement :
    bond.Couples Eq (procedureStatement run) (procedureStatement run') := by
  refine (Couples.accept hbond _).bind fun _ _ hopening => ?_
  refine (Couples.accept hbond _).bind fun _ _ hcallee => ?_
  refine (Couples.accept hbond _).bind fun _ _ hleftParenthesis => ?_
  refine (hrun .argumentList).bind fun _ _ harguments => ?_
  exact (Couples.accept hbond _).bind fun _ _ hrightParenthesis => .pure rfl

private theorem couples_untilStatement :
    bond.Couples Eq (untilStatement run) (untilStatement run') := by
  refine (Couples.accept hbond _).bind fun _ _ hopening => ?_
  refine (hrun .statementList).bind fun _ _ hbody => ?_
  exact (Couples.accept hbond _).bind fun _ _ huntilWord => hrun .condition

private theorem couples_forStatement : bond.Couples Eq (forStatement run) (forStatement run') := by
  refine (Couples.accept hbond _).bind fun _ _ hopening => ?_
  refine (Couples.accept hbond _).bind fun _ _ hleftParenthesis => ?_
  refine (hrun .assignmentStatement).bind fun initial initial' hinitial => ?_
  refine (Couples.accept hbond _).bind fun _ _ hfirst => ?_
  refine (hrun .condition).bind fun _ _ hcondition => ?_
  refine (Couples.accept hbond _).bind fun _ _ hsecond => ?_
  refine (hrun .assignmentStatement).bind fun step step' hstep => ?_
  refine (Couples.accept hbond _).bind fun _ _ hrightParenthesis => ?_
  refine (Couples.accept hbond _).bind fun _ _ hdoWord => ?_
  refine (hrun .statementList).bind fun _ _ hbody => ?_
  refine (Couples.accept hbond _).bind fun _ _ hendWord => ?_
  refine (Couples.accept hbond _).bind fun _ _ hclosing => ?_
  exact (Couples.drop hbond hinitial).bind fun _ _ hdropped => .drop hbond hstep

private theorem couples_argumentList : bond.Couples Eq (argumentList run) (argumentList run') := by
  refine (Couples.acceptVariable hbond).bind fun _ _ hargument => ?_
  refine Couples.lookahead.bind fun token token' htoken => ?_
  rw [← hbond.kind_eq htoken]
  split
  · exact (Couples.accept hbond _).bind fun _ _ hcomma => hrun .argumentList
  · exact .pure rfl

private theorem couples_condition : bond.Couples Eq (condition run) (condition run') := by
  refine (Couples.acceptVariable hbond).bind fun _ _ hleft => ?_
  refine (hrun .conditionalOperator).bind fun _ _ hoperator => ?_
  refine Couples.lookahead.bind fun token token' htoken => ?_
  rw [← hbond.kind_eq htoken]
  split
  · exact (Couples.acceptVariable hbond).bind fun _ _ hright => .pure rfl
  · exact (Couples.accept hbond _).bind fun _ _ hright => .pure rfl
  · exact (Couples.accept hbond _).bind fun _ _ hright => .pure rfl
  · exact .report hbond rfl

omit hrun in
private theorem couples_conditionalOperator :
    bond.Couples Eq conditionalOperator conditionalOperator := by
  refine Couples.lookahead.bind fun token token' htoken => ?_
  rw [← hbond.kind_eq htoken]
  split
  · exact (Couples.accept hbond _).bind fun _ _ hoperator => .pure rfl
  · exact .report hbond rfl

private theorem couples_expression : bond.Couples Eq (expression run) (expression run') := by
  refine (hrun .term).bind fun left left' hleft => ?_
  refine Couples.lookahead.bind fun token token' htoken => ?_
  cases hleft
  rw [← hbond.kind_eq htoken]
  split
  · refine (Couples.accept hbond _).bind fun _ _ hoperator => ?_
    refine (hrun .expression).bind fun right right' hright => ?_
    cases hright
    exact (Couples.checkAdding hbond _ left right).bind fun _ _ hchecked => .pure rfl
  · exact .pure rfl

private theorem couples_term : bond.Couples Eq (term run) (term run') := by
  refine (hrun .factor).bind fun left left' hleft => ?_
  refine Couples.lookahead.bind fun token token' htoken => ?_
  cases hleft
  rw [← hbond.kind_eq htoken]
  split
  · refine (Couples.checkMultiplying hbond _ _ left).bind fun _ _ hleftChecked => ?_
    refine (Couples.accept hbond _).bind fun _ _ hoperator => ?_
    refine (hrun .term).bind fun right right' hright => ?_
    cases hright
    exact (Couples.checkMultiplying hbond _ _ right).bind fun _ _ hrightChecked => .pure rfl
  · exact .pure rfl

private theorem couples_factor : bond.Couples Eq (factor run) (factor run') := by
  refine Couples.lookahead.bind fun token token' htoken => ?_
  rw [← hbond.kind_eq htoken]
  split
  · exact (Couples.acceptVariable hbond).bind fun v v' hv => .pure (hbond.type_eq hv)
  · exact (Couples.accept hbond _).bind fun _ _ hnumber => .pure rfl
  · refine (Couples.accept hbond _).bind fun _ _ hleftParenthesis => ?_
    refine (hrun .expression).bind fun type type' htype => ?_
    exact (Couples.accept hbond _).bind fun _ _ hrightParenthesis => .pure htype
  · exact .report hbond rfl

end Procedure

namespace Bond

variable {bond : Bond}

open Procedure in
private theorem Runs.procedure {run run' : Run} (hbond : bond.Holds) (hrun : bond.Runs run run') :
    bond.Runs (procedure run) (procedure run') := by
  intro rule
  cases rule with
  | statementPart => exact couples_statementPart hbond hrun
  | statementList => exact couples_statementList hbond hrun
  | statement => exact couples_statement hbond hrun
  | assignmentStatement => exact couples_assignmentStatement hbond hrun
  | ifStatement => exact couples_ifStatement hbond hrun
  | whileStatement => exact couples_whileStatement hbond hrun
  | procedureStatement => exact couples_procedureStatement hbond hrun
  | untilStatement => exact couples_untilStatement hbond hrun
  | forStatement => exact couples_forStatement hbond hrun
  | argumentList => exact couples_argumentList hbond hrun
  | condition => exact couples_condition hbond hrun
  | conditionalOperator => exact couples_conditionalOperator hbond
  | expression => exact couples_expression hbond hrun
  | term => exact couples_term hbond hrun
  | factor => exact couples_factor hbond hrun

namespace Holds

variable (hbond : bond.Holds)
include hbond

private theorem runs_runWithin (allowance : Nat) :
    bond.Runs (runWithin allowance) (runWithin allowance) := by
  induction allowance with
  | zero => exact fun _ => .throw .allowanceUsedUp
  | succ allowance ih => exact fun rule => .enclose hbond rule (ih.procedure hbond rule)

private theorem runs_runRule : bond.Runs runRule runRule := by
  intro rule s s' hs
  -- The larger of the two allowances is enough for both analyses.
  let allowance := 3 * max s.acceptable s'.acceptable + rule.rank
  have henough : runWithin allowance rule s = runRule rule s :=
    runWithin_eq_runRule rule s allowance (by omega)
  have henough' : runWithin allowance rule s' = runRule rule s' :=
    runWithin_eq_runRule rule s' allowance (by omega)
  rw [← henough, ← henough']
  exact hbond.runs_runWithin allowance rule s s' hs

private theorem couples_program : bond.Couples Eq program program := by
  refine (hbond.runs_runRule .statementPart).bind fun _ _ _ =>
    Couples.lookahead.bind fun token token' htoken => ?_
  rw [← hbond.kind_eq htoken]
  split
  · exact .report hbond rfl
  · exact .pure rfl

private theorem ends_parse {source source' : Source} {j j' : Journal}
    (hsources : bond.sources source source') (hjournals : bond.Journals j j') :
    bond.Ends Eq (parse (.ofSource source j)) (parse (.ofSource source' j')) := by
  have hfirst : bond.Couples Eq (pull >>= fun _ => program) (pull >>= fun _ => program) :=
    (Couples.pull hbond).bind fun _ _ _ => hbond.couples_program
  exact hfirst _ _ ⟨hsources, .none, hjournals⟩

/-- Two programs are both accepted, or both rejected for failures that correspond. -/
theorem parse_cases {source source' : Source} {j j' : Journal}
    (hsources : bond.sources source source') (hjournals : bond.Journals j j') :
    (∃ s s', parse (.ofSource source j) = .ok () s ∧ parse (.ofSource source' j') = .ok () s' ∧
        bond.Analysers s s') ∨
      ∃ failure s failure' s', parse (.ofSource source j) = .error (.rejected failure) s ∧
        parse (.ofSource source' j') = .error (.rejected failure') s' ∧
        bond.failures failure failure' ∧ bond.Analysers s s' := by
  have hends := hbond.ends_parse hsources hjournals
  rcases parse_ok_or_rejected source j with ⟨s, hparse⟩ | ⟨failure, s, hparse⟩
  · rw [hparse] at hends ⊢
    generalize parse (.ofSource source' j') = result at hends ⊢
    cases hends with
    | ok _ hs => exact .inl ⟨s, _, rfl, rfl, hs⟩
  · rw [hparse] at hends ⊢
    generalize parse (.ofSource source' j') = result at hends ⊢
    cases hends with
    | error hstops hs =>
        cases hstops with
        | rejected hfailures => exact .inr ⟨failure, s, _, _, rfl, rfl, hfailures, hs⟩

end Holds

end Bond

end OnePass
