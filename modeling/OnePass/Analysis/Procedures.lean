import OnePass.Analysis.Basic
/-!
# The procedures of the grammar rules

Each rule has a procedure that accepts its terminals and runs the rules it is made of. The lookahead
alone decides between alternatives. A procedure is given the means to run other rules.
-/
namespace OnePass

/-- A way to run every rule. -/
abbrev Run := (rule : Rule) → Analysis rule.Result

namespace Procedure

open Analysis

/-- A program: a statement list between `begin` and `end`. -/
def statementPart (run : Run) : Analysis Unit := do
  let _ ← accept .beginWord
  run .statementList
  let _ ← accept .endWord

/-- Statements are separated by semicolons, and a semicolon may also close the last one. -/
def statementList (run : Run) : Analysis Unit := do
  run .statement
  if (← lookahead).kind = .semicolon then
    let _ ← accept .semicolon
    if (← lookahead).kind ∈ Kind.starters then
      run .statementList

def statement (run : Run) : Analysis Unit := do
  match (← lookahead).kind with
  | .identifier => let _ ← run .assignmentStatement
  | .ifWord => run .ifStatement
  | .whileWord => run .whileStatement
  | .callWord => run .procedureStatement
  | .doWord => run .untilStatement
  | .forWord => run .forStatement
  | _ => report .expectedStatement

/-- The value is checked before its target is declared. -/
def assignmentStatement (run : Run) : Analysis Variable := do
  let target ← accept .identifier
  let _ ← accept .becomes
  if (← lookahead).kind = .stringConstant then
    let _ ← accept .stringConstant
    declare target.text .string
  else
    let type ← run .expression
    declare target.text type

/-- The part of an `if` statement that may be left out. -/
def alternative (run : Run) : Analysis Unit := do
  if (← lookahead).kind = .elseWord then
    let _ ← accept .elseWord
    run .statementList

def ifStatement (run : Run) : Analysis Unit := do
  let _ ← accept .ifWord
  run .condition
  let _ ← accept .thenWord
  run .statementList
  alternative run
  let _ ← accept .endWord
  let _ ← accept .ifWord

def whileStatement (run : Run) : Analysis Unit := do
  let _ ← accept .whileWord
  run .condition
  let _ ← accept .loopWord
  run .statementList
  let _ ← accept .endWord
  let _ ← accept .loopWord

/-- A call. The name of what is called need not be declared. -/
def procedureStatement (run : Run) : Analysis Unit := do
  let _ ← accept .callWord
  let _ ← accept .identifier
  let _ ← accept .leftParenthesis
  run .argumentList
  let _ ← accept .rightParenthesis

def untilStatement (run : Run) : Analysis Unit := do
  let _ ← accept .doWord
  run .statementList
  let _ ← accept .untilWord
  run .condition

/-- The variables that the two assignments in the header have declared live until the loop ends. -/
def forStatement (run : Run) : Analysis Unit := do
  let _ ← accept .forWord
  let _ ← accept .leftParenthesis
  let initial ← run .assignmentStatement
  let _ ← accept .semicolon
  run .condition
  let _ ← accept .semicolon
  let step ← run .assignmentStatement
  let _ ← accept .rightParenthesis
  let _ ← accept .doWord
  run .statementList
  let _ ← accept .endWord
  let _ ← accept .loopWord
  note (·.drop initial)
  note (·.drop step)

def argumentList (run : Run) : Analysis Unit := do
  let _ ← acceptVariable
  if (← lookahead).kind = .comma then
    let _ ← accept .comma
    run .argumentList

/-- A comparison of a variable with a variable or a constant, whatever their types. -/
def condition (run : Run) : Analysis Unit := do
  let _ ← acceptVariable
  run .conditionalOperator
  match (← lookahead).kind with
  | .identifier => let _ ← acceptVariable
  | .numberConstant => let _ ← accept .numberConstant
  | .stringConstant => let _ ← accept .stringConstant
  | _ => report .expectedComparand

def conditionalOperator : Analysis Unit := do
  let operator ← lookahead
  if operator.kind ∈ Kind.relational then
    let _ ← accept operator.kind
  else report .expectedConditionalOperator

/-- The type of a sum is that of its leftmost term. -/
def expression (run : Run) : Analysis VarType := do
  let left ← run .term
  let operator ← lookahead
  if operator.kind ∈ Kind.adding then
    let _ ← accept operator.kind
    let right ← run .expression
    checkAdding operator.kind left right
    return left
  else return left

/-- The type of a product is that of its leftmost factor. The left operand is checked before the
operator is accepted. -/
def term (run : Run) : Analysis VarType := do
  let left ← run .factor
  let operator ← lookahead
  if operator.kind ∈ Kind.multiplying then
    checkMultiplying operator.kind .left left
    let _ ← accept operator.kind
    let right ← run .term
    checkMultiplying operator.kind .right right
    return left
  else return left

def factor (run : Run) : Analysis VarType := do
  match (← lookahead).kind with
  | .identifier => return (← acceptVariable).type
  | .numberConstant =>
    let _ ← accept .numberConstant
    return .number
  | .leftParenthesis =>
    let _ ← accept .leftParenthesis
    let type ← run .expression
    let _ ← accept .rightParenthesis
    return type
  | _ => report .expectedFactor

end Procedure

/-- The procedure of each rule. -/
def procedure (run : Run) : Run
  | .statementPart => Procedure.statementPart run
  | .statementList => Procedure.statementList run
  | .statement => Procedure.statement run
  | .assignmentStatement => Procedure.assignmentStatement run
  | .ifStatement => Procedure.ifStatement run
  | .whileStatement => Procedure.whileStatement run
  | .procedureStatement => Procedure.procedureStatement run
  | .untilStatement => Procedure.untilStatement run
  | .forStatement => Procedure.forStatement run
  | .argumentList => Procedure.argumentList run
  | .condition => Procedure.condition run
  | .conditionalOperator => Procedure.conditionalOperator
  | .expression => Procedure.expression run
  | .term => Procedure.term run
  | .factor => Procedure.factor run

end OnePass
