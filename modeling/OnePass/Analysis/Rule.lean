import OnePass.Scope.Variable
/-!
# Grammar rules

One rule for each nonterminal of the grammar.
-/
namespace OnePass

inductive Rule where
  | statementPart | statementList | statement
  | assignmentStatement | ifStatement | whileStatement | procedureStatement | untilStatement
  | forStatement | argumentList
  | condition | conditionalOperator
  | expression | term | factor
  deriving DecidableEq, Repr

namespace Rule

def all : List Rule :=
  [.statementPart, .statementList, .statement, .assignmentStatement, .ifStatement, .whileStatement,
   .procedureStatement, .untilStatement, .forStatement, .argumentList, .condition,
   .conditionalOperator, .expression, .term, .factor]

def name : Rule → String
  | .statementPart => "StatementPart"
  | .statementList => "StatementList"
  | .statement => "Statement"
  | .assignmentStatement => "AssignmentStatement"
  | .ifStatement => "IfStatement"
  | .whileStatement => "WhileStatement"
  | .procedureStatement => "ProcedureStatement"
  | .untilStatement => "UntilStatement"
  | .forStatement => "ForStatement"
  | .argumentList => "ArgumentList"
  | .condition => "Condition"
  | .conditionalOperator => "ConditionalOperator"
  | .expression => "Expression"
  | .term => "Term"
  | .factor => "Factor"

def ofName? (name : String) : Option Rule :=
  all.find? (·.name = name)

/-- What the analysis of a rule finds out: the type of an expression, the variable that an
assignment made, and of the other rules nothing. -/
abbrev Result : Rule → Type
  | .assignmentStatement => Variable
  | .expression => VarType
  | .term => VarType
  | .factor => VarType
  | _ => Unit

theorem name_injective {r r' : Rule} (h : r.name = r'.name) : r = r' := by
  revert h
  cases r <;> cases r' <;> decide

end Rule

end OnePass
