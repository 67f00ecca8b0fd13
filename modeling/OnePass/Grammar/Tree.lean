import OnePass.Analysis.Rule
import OnePass.Token.Basic
/-!
# Derivation trees

The grammar of the language: each constructor is a production of the rule that indexes its type, and
a tree holds the very tokens it derives. The trace of a tree lists its rules and tokens in the order
in which they are met from left to right, and its yield lists the tokens alone.
-/
namespace OnePass

/-- A token of one of the given kinds. -/
abbrev Leaf (kinds : List Kind) :=
  { token : Token // token.kind ∈ kinds }

namespace Grammar

inductive Tree : Rule → Type where
  | program (opening : Leaf [.beginWord]) (body : Tree .statementList) (closing : Leaf [.endWord]) :
    Tree .statementPart
  | last (statement : Tree .statement) : Tree .statementList
  | closed (statement : Tree .statement) (semicolon : Leaf [.semicolon]) : Tree .statementList
  | more (statement : Tree .statement) (semicolon : Leaf [.semicolon])
    (rest : Tree .statementList) : Tree .statementList
  | assignment (statement : Tree .assignmentStatement) : Tree .statement
  | choice (statement : Tree .ifStatement) : Tree .statement
  | loop (statement : Tree .whileStatement) : Tree .statement
  | call (statement : Tree .procedureStatement) : Tree .statement
  | repetition (statement : Tree .untilStatement) : Tree .statement
  | iteration (statement : Tree .forStatement) : Tree .statement
  | assignValue (target : Leaf [.identifier]) (becomes : Leaf [.becomes])
    (value : Tree .expression) : Tree .assignmentStatement
  | assignString (target : Leaf [.identifier]) (becomes : Leaf [.becomes])
    (value : Leaf [.stringConstant]) : Tree .assignmentStatement
  | ifThen (opening : Leaf [.ifWord]) (condition : Tree .condition) (thenWord : Leaf [.thenWord])
    (body : Tree .statementList) (endWord : Leaf [.endWord]) (closing : Leaf [.ifWord]) :
    Tree .ifStatement
  | ifThenElse (opening : Leaf [.ifWord]) (condition : Tree .condition)
    (thenWord : Leaf [.thenWord]) (body : Tree .statementList) (elseWord : Leaf [.elseWord])
    (alternative : Tree .statementList) (endWord : Leaf [.endWord]) (closing : Leaf [.ifWord]) :
    Tree .ifStatement
  | whileLoop (opening : Leaf [.whileWord]) (condition : Tree .condition)
    (loopWord : Leaf [.loopWord]) (body : Tree .statementList) (endWord : Leaf [.endWord])
    (closing : Leaf [.loopWord]) : Tree .whileStatement
  | callProcedure (opening : Leaf [.callWord]) (callee : Leaf [.identifier])
    (leftParenthesis : Leaf [.leftParenthesis]) (arguments : Tree .argumentList)
    (rightParenthesis : Leaf [.rightParenthesis]) : Tree .procedureStatement
  | doUntil (opening : Leaf [.doWord]) (body : Tree .statementList) (untilWord : Leaf [.untilWord])
    (condition : Tree .condition) : Tree .untilStatement
  | forLoop (opening : Leaf [.forWord]) (leftParenthesis : Leaf [.leftParenthesis])
    (initial : Tree .assignmentStatement) (first : Leaf [.semicolon])
    (condition : Tree .condition) (second : Leaf [.semicolon])
    (step : Tree .assignmentStatement) (rightParenthesis : Leaf [.rightParenthesis])
    (doWord : Leaf [.doWord]) (body : Tree .statementList) (endWord : Leaf [.endWord])
    (closing : Leaf [.loopWord]) : Tree .forStatement
  | lastArgument (token : Leaf [.identifier]) : Tree .argumentList
  | moreArguments (token : Leaf [.identifier]) (comma : Leaf [.comma]) (rest : Tree .argumentList) :
    Tree .argumentList
  | comparison (left : Leaf [.identifier]) (operator : Tree .conditionalOperator)
    (right : Leaf [.identifier, .numberConstant, .stringConstant]) : Tree .condition
  | relation (operator : Leaf Kind.relational) : Tree .conditionalOperator
  | lone (term : Tree .term) : Tree .expression
  | sum (term : Tree .term) (operator : Leaf Kind.adding) (rest : Tree .expression) :
    Tree .expression
  | single (factor : Tree .factor) : Tree .term
  | product (factor : Tree .factor) (operator : Leaf Kind.multiplying) (rest : Tree .term) :
    Tree .term
  | name (token : Leaf [.identifier]) : Tree .factor
  | number (token : Leaf [.numberConstant]) : Tree .factor
  | parenthesised (leftParenthesis : Leaf [.leftParenthesis]) (value : Tree .expression)
    (rightParenthesis : Leaf [.rightParenthesis]) : Tree .factor

/-- A place in the trace of a tree. -/
inductive Mark where
  | enter (rule : Rule)
  | token (token : Token)
  | leave (rule : Rule)
  deriving DecidableEq, Repr

namespace Mark

def ofLeaf {kinds : List Kind} (leaf : Leaf kinds) : Mark :=
  .token leaf.val

/-- The marks of a node around those of its parts. -/
def around (rule : Rule) (parts : List Mark) : List Mark :=
  .enter rule :: parts ++ [.leave rule]

def token? : Mark → Option Token
  | .token t => some t
  | _ => none

end Mark

namespace Tree

open Mark (around ofLeaf)

def trace : {rule : Rule} → Tree rule → List Mark
  | _, .program opening body closing =>
    around .statementPart (ofLeaf opening :: body.trace ++ [ofLeaf closing])
  | _, .last statement => around .statementList statement.trace
  | _, .closed statement semicolon => around .statementList (statement.trace ++ [ofLeaf semicolon])
  | _, .more statement semicolon rest =>
    around .statementList (statement.trace ++ ofLeaf semicolon :: rest.trace)
  | _, .assignment statement => around .statement statement.trace
  | _, .choice statement => around .statement statement.trace
  | _, .loop statement => around .statement statement.trace
  | _, .call statement => around .statement statement.trace
  | _, .repetition statement => around .statement statement.trace
  | _, .iteration statement => around .statement statement.trace
  | _, .assignValue target becomes value =>
    around .assignmentStatement (ofLeaf target :: ofLeaf becomes :: value.trace)
  | _, .assignString target becomes value =>
    around .assignmentStatement [ofLeaf target, ofLeaf becomes, ofLeaf value]
  | _, .ifThen opening condition thenWord body endWord closing =>
    around .ifStatement (ofLeaf opening :: condition.trace ++ ofLeaf thenWord :: body.trace ++
      [ofLeaf endWord, ofLeaf closing])
  | _, .ifThenElse opening condition thenWord body elseWord alternative endWord closing =>
    around .ifStatement (ofLeaf opening :: condition.trace ++ ofLeaf thenWord :: body.trace ++
      ofLeaf elseWord :: alternative.trace ++ [ofLeaf endWord, ofLeaf closing])
  | _, .whileLoop opening condition loopWord body endWord closing =>
    around .whileStatement (ofLeaf opening :: condition.trace ++ ofLeaf loopWord :: body.trace ++
      [ofLeaf endWord, ofLeaf closing])
  | _, .callProcedure opening callee leftParenthesis arguments rightParenthesis =>
    around .procedureStatement (ofLeaf opening :: ofLeaf callee :: ofLeaf leftParenthesis ::
      arguments.trace ++ [ofLeaf rightParenthesis])
  | _, .doUntil opening body untilWord condition =>
    around .untilStatement (ofLeaf opening :: body.trace ++ ofLeaf untilWord :: condition.trace)
  | _, .forLoop opening leftParenthesis initial first condition second step rightParenthesis
      doWord body endWord closing =>
    around .forStatement (ofLeaf opening :: ofLeaf leftParenthesis :: initial.trace ++
      ofLeaf first :: condition.trace ++ ofLeaf second :: step.trace ++
      ofLeaf rightParenthesis :: ofLeaf doWord :: body.trace ++ [ofLeaf endWord, ofLeaf closing])
  | _, .lastArgument token => around .argumentList [ofLeaf token]
  | _, .moreArguments token comma rest =>
    around .argumentList (ofLeaf token :: ofLeaf comma :: rest.trace)
  | _, .comparison left operator right =>
    around .condition (ofLeaf left :: operator.trace ++ [ofLeaf right])
  | _, .relation operator => around .conditionalOperator [ofLeaf operator]
  | _, .lone term => around .expression term.trace
  | _, .sum term operator rest => around .expression (term.trace ++ ofLeaf operator :: rest.trace)
  | _, .single factor => around .term factor.trace
  | _, .product factor operator rest =>
    around .term (factor.trace ++ ofLeaf operator :: rest.trace)
  | _, .name token => around .factor [ofLeaf token]
  | _, .number token => around .factor [ofLeaf token]
  | _, .parenthesised leftParenthesis value rightParenthesis =>
    around .factor (ofLeaf leftParenthesis :: value.trace ++ [ofLeaf rightParenthesis])

/-- The tokens that a tree derives. -/
def yield {rule : Rule} (tree : Tree rule) : List Token :=
  tree.trace.filterMap Mark.token?

end Tree

end Grammar

end OnePass
