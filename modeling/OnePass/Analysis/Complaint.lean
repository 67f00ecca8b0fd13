import OnePass.Failure
import OnePass.Scope.Variable
import OnePass.Token.Basic
/-!
# Complaints

A complaint says why the token at hand cannot stand where it stands. A grammatical complaint names
what was expected; the others are about types and undeclared names.
-/
namespace OnePass

inductive Side where
  | left | right
  deriving DecidableEq, Repr

def Side.name : Side → String
  | .left => "left"
  | .right => "right"

inductive Complaint where
  | expected (kind : Kind)
  | expectedStatement
  | expectedConditionalOperator
  | expectedComparand
  | expectedFactor
  | undeclared (identifier : String)
  | incompatible (left right : VarType) (operator : Kind)
  | stringOperand (operator : Kind) (side : Side)
  | other (category : Category) (text : String)
  deriving DecidableEq, Repr

namespace Complaint

def category : Complaint → Category
  | .undeclared _ => .semantic
  | .incompatible _ _ _ => .semantic
  | .stringOperand _ _ => .semantic
  | .other category _ => category
  | _ => .syntactic

def text : Complaint → String
  | .expected kind => s!"expected {kind.display}"
  | .expectedStatement => "expected a statement (assignment/if/while/call/do/for)"
  | .expectedConditionalOperator => "expected a conditional operator (>, >=, =, /=, <, <=)"
  | .expectedComparand => "expected identifier/numberConstant/stringConstant"
  | .expectedFactor => "expected an identifier, numberConstant or ( expression )"
  | .undeclared identifier => s!"'{identifier}' is not declared"
  | .incompatible left right operator =>
    s!"incompatible types {left.name} and {right.name} for {operator.display}"
  | .stringOperand operator side =>
    s!"cannot apply {operator.display} to a String {side.name} operand"
  | .other _ text => text

/-- The complaint about a token of a named text. -/
def message (complaint : Complaint) (filename : String) (token : Token) : String :=
  s!"{filename}:{token.line}: found '{token.text}' ({token.kind.display}), {complaint.text}"

end Complaint

end OnePass
