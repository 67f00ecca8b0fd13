import OnePass.Grammar.Tree
import OnePass.Scope.Basic
/-!
# Static rules

The static rules go through a derivation tree from left to right with the names declared so far. A
tree that keeps them leaves the names that are declared after it. Names are plain here: which
variable a name stands for does not matter to the rules.
-/
namespace OnePass

/-- The names that are declared, with their types, in the order of their declaration. -/
abbrev Context :=
  List (String × VarType)

namespace Context

def Declares (context : Context) (identifier : String) : Prop :=
  identifier ∈ context.map Prod.fst

instance (context : Context) (identifier : String) : Decidable (context.Declares identifier) :=
  inferInstanceAs (Decidable (_ ∈ _))

def type? (context : Context) (identifier : String) : Option VarType :=
  (context.find? (·.1 = identifier)).map Prod.snd

/-- Declares a name unless it is declared already. -/
def declare (context : Context) (identifier : String) (type : VarType) : Context :=
  if context.Declares identifier then context else context ++ [(identifier, type)]

/-- Leaves out the names that were declared between two contexts. -/
def dropSince (context before between : Context) : Context :=
  context.filter fun entry => before.Declares entry.1 ∨ ¬ between.Declares entry.1

end Context

/-- The names of the live variables with their types. -/
def Scope.context (scope : Scope) : Context :=
  scope.entries.map fun v => (v.identifier, v.type)

namespace Grammar

/-- A sum has Strings on both sides or on neither, and a difference on neither. -/
def AddingFits (operator : Kind) (left right : VarType) : Prop :=
  (left = .string ↔ right = .string) ∧ (operator = .minus → left ≠ .string)

instance (operator : Kind) (left right : VarType) : Decidable (AddingFits operator left right) :=
  inferInstanceAs (Decidable (_ ∧ _))

namespace Tree

/-- The type of an expression, a term or a factor, if it has one: that of its leftmost operand. -/
def type? : {rule : Rule} → Tree rule → Context → Option VarType
  | _, .lone term, context => term.type? context
  | _, .sum term operator rest, context => do
    let left ← term.type? context
    let right ← rest.type? context
    if AddingFits operator.val.kind left right then return left else none
  | _, .single factor, context => factor.type? context
  | _, .product factor _ rest, context => do
    let left ← factor.type? context
    let right ← rest.type? context
    if left ≠ .string ∧ right ≠ .string then return left else none
  | _, .name token, context => context.type? token.val.text
  | _, .number _, _ => some .number
  | _, .parenthesised _ value _, context => value.type? context
  | _, _, _ => none

/-- The names declared after a tree, if it keeps the static rules. The header of a loop drops the
names again that it has declared. -/
def check : {rule : Rule} → Tree rule → Context → Option Context
  | _, .program _ body _, context => body.check context
  | _, .last statement, context => statement.check context
  | _, .closed statement _, context => statement.check context
  | _, .more statement _ rest, context => do
    let context ← statement.check context
    rest.check context
  | _, .assignment statement, context => statement.check context
  | _, .choice statement, context => statement.check context
  | _, .loop statement, context => statement.check context
  | _, .call statement, context => statement.check context
  | _, .repetition statement, context => statement.check context
  | _, .iteration statement, context => statement.check context
  | _, .assignValue target _ value, context => do
    let type ← value.type? context
    return context.declare target.val.text type
  | _, .assignString target _ _, context => some (context.declare target.val.text .string)
  | _, .ifThen _ condition _ body _ _, context => do
    let context ← condition.check context
    body.check context
  | _, .ifThenElse _ condition _ body _ alternative _ _, context => do
    let context ← condition.check context
    let context ← body.check context
    alternative.check context
  | _, .whileLoop _ condition _ body _ _, context => do
    let context ← condition.check context
    body.check context
  | _, .callProcedure _ _ _ arguments _, context => arguments.check context
  | _, .doUntil _ body _ condition, context => do
    let context ← body.check context
    condition.check context
  | _, .forLoop _ _ initial _ condition _ step _ _ body _ _, context => do
    let header ← initial.check context
    let header ← condition.check header
    let header ← step.check header
    let after ← body.check header
    return after.dropSince context header
  | _, .lastArgument token, context =>
    if context.Declares token.val.text then some context else none
  | _, .moreArguments token _ rest, context =>
    if context.Declares token.val.text then rest.check context else none
  | _, .comparison left _ right, context =>
    if context.Declares left.val.text ∧
        (right.val.kind = .identifier → context.Declares right.val.text) then some context
    else none
  | _, .relation _, context => some context
  | _, tree, context => (tree.type? context).map fun _ => context

end Tree

end Grammar

end OnePass
